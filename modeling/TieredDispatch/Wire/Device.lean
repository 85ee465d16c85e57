import TieredDispatch.Config
import TieredDispatch.Device.Manifest
import TieredDispatch.Device.Metric
import TieredDispatch.Device.Profile
import TieredDispatch.Device.Tier
import TieredDispatch.Json.Record

/-!
# Devices and settings in JSON

* `DeviceId`, `Tier`: names. A device id is taken as it is, without any check.
* `TierTable`, `Manifest`, `FailureProfile`, `DeviceProfile`: records.
* `MetricValue`: a text, or an array of texts.
* `Config`: an object with texts as values.
-/

namespace TieredDispatch

def DeviceId.toJson (d : DeviceId) : Json := .string d.text

def DeviceId.ofJson? (j : Json) : Option DeviceId :=
  j.string?.map DeviceId.mk

namespace Tier

def wireName : Tier → String
  | processor => "Processor"
  | discrete => "DiscreteAccelerator"
  | familyA => "FamilyA"
  | integrated => "IntegratedAccelerator"
  | familyB => "FamilyB"

def all : List Tier := [processor, discrete, familyA, integrated, familyB]

def toJson (t : Tier) : Json := .string t.wireName

def ofJson? : Json → Option Tier :=
  Json.named? fun text => all.find? fun t => t.wireName = text

end Tier

namespace TierTable

def fieldNames : List String :=
  ["processor_prefix", "generic_prefixes", "family_a_prefixes", "family_b_prefixes",
    "discrete_marker", "integrated_marker"]

def toJson (t : TierTable) : Json :=
  .object [("processor_prefix", .string t.processorPrefix),
    ("generic_prefixes", .ofStrings t.genericPrefixes),
    ("family_a_prefixes", .ofStrings t.familyAPrefixes),
    ("family_b_prefixes", .ofStrings t.familyBPrefixes),
    ("discrete_marker", .string t.discreteMarker),
    ("integrated_marker", .string t.integratedMarker)]

def ofJson? (j : Json) : Option TierTable := do
  let fields ← j.record? fieldNames
  return {
    processorPrefix := ← Json.required? fields "processor_prefix" Json.string?
    genericPrefixes := ← Json.required? fields "generic_prefixes" Json.strings?
    familyAPrefixes := ← Json.required? fields "family_a_prefixes" Json.strings?
    familyBPrefixes := ← Json.required? fields "family_b_prefixes" Json.strings?
    discreteMarker := ← Json.required? fields "discrete_marker" Json.string?
    integratedMarker := ← Json.required? fields "integrated_marker" Json.string? }

end TierTable

namespace MetricValue

def toJson : MetricValue → Json
  | text s => .string s
  | list items => .ofStrings items

def ofJson? : Json → Option MetricValue
  | .string s => some (text s)
  | j => j.strings?.map list

end MetricValue

namespace Manifest

def fieldNames : List String := ["full_name", "supported_precisions", "config_keys"]

def toJson (m : Manifest) : Json :=
  .object [("full_name", .string m.fullName),
    ("supported_precisions", .ofStrings m.capabilities.elems),
    ("config_keys", .ofStrings m.configKeys.elems)]

def ofJson? (j : Json) : Option Manifest := do
  let fields ← j.record? fieldNames
  return {
    fullName := ← Json.required? fields "full_name" Json.string?
    capabilities := ← Json.required? fields "supported_precisions" Json.stringSet?
    configKeys := ← Json.required? fields "config_keys" Json.stringSet? }

end Manifest

namespace FailureProfile

def fieldNames : List String := ["metrics", "queries", "compile"]

def toJson (f : FailureProfile) : Json :=
  .object [("metrics", .bool f.metrics), ("queries", .bool f.queries),
    ("compile", .ofOption Json.string f.compile)]

def ofJson? (j : Json) : Option FailureProfile := do
  let fields ← j.record? fieldNames
  return {
    metrics := ← Json.defaulted? fields "metrics" false Json.bool?
    queries := ← Json.defaulted? fields "queries" false Json.bool?
    compile := ← Json.defaulted? fields "compile" Option.none (Json.optional? Json.string?) }

end FailureProfile

namespace DeviceProfile

def fieldNames : List String :=
  ["full_name", "capabilities", "config_keys", "indices", "supported_types", "compile_latency_ms",
    "failures"]

def toJson (p : DeviceProfile) : Json :=
  .object [("full_name", .string p.fullName),
    ("capabilities", .ofStrings p.capabilities),
    ("config_keys", .ofStrings p.configKeys),
    ("indices", .ofStrings p.indices),
    ("supported_types", .ofOption Json.ofStrings p.supportedTypes),
    ("compile_latency_ms", .number (.ofNat p.compileLatency.toNat)),
    ("failures", p.failures.toJson)]

def ofJson? (j : Json) : Option DeviceProfile := do
  let fields ← j.record? fieldNames
  return {
    fullName := ← Json.required? fields "full_name" Json.string?
    capabilities := ← Json.defaulted? fields "capabilities" [] Json.strings?
    configKeys := ← Json.defaulted? fields "config_keys" [] Json.strings?
    indices := ← Json.defaulted? fields "indices" [] Json.strings?
    supportedTypes := ← Json.defaulted? fields "supported_types" none (Json.optional? Json.strings?)
    compileLatency := ← Json.defaulted? fields "compile_latency_ms" 0 Json.word?
    failures := ← Json.defaulted? fields "failures" .none FailureProfile.ofJson? }

end DeviceProfile

namespace Config

def toJson (c : Config) : Json := .ofMap Json.string c

def ofJson? : Json → Option Config := Json.map? Json.string?

end Config

end TieredDispatch
