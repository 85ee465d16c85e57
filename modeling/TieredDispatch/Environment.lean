import TieredDispatch.Json.Reader
import TieredDispatch.Selection
import TieredDispatch.Wire.Device

/-!
# Environments

An environment describes a simulated pool of devices: its families, named groups, tiers and stored
settings.

* `Environment.error?`: why an environment is refused.
* `Environment.parse`: the environment that a text describes.
* `Environment.catalog`: the catalog of its families and groups.
-/

namespace TieredDispatch

/-- One family of a simulated pool. -/
structure FamilyEntry where
  family : String
  profile : DeviceProfile
  deriving DecidableEq

/-- A simulated pool of devices. -/
structure Environment where
  devices : List FamilyEntry
  groups : TextMap (List String)
  /-- The tiers, unless the standard ones hold. -/
  tiers : Option TierTable
  config : Config
  deriving DecidableEq

/-- Why the text of an environment was refused. -/
inductive EnvironmentError
  /-- The text does not describe an environment. -/
  | unreadable
  /-- Two families have the same id; the name is that of the second one, as written. -/
  | duplicateFamily (family : String)
  | device (e : InputError)
  deriving DecidableEq

def EnvironmentError.message : EnvironmentError → String
  | unreadable => "Invalid environment file"
  | duplicateFamily family => "Device family " ++ family ++ " is declared twice"
  | device e => "Invalid device in environment file: " ++ e.message

namespace FamilyEntry

/-- An entry is one object with the family's name beside the fields of its profile. The fields are
kept aside until the name is known, so each of them has to fit. -/
def ofJson? : Json → Option FamilyEntry
  | .object fields => do
    let named ← Json.record? ["family"] (.object fields)
    let family ← Json.required? named "family" Json.string?
    let others := fields.filter fun field => field.1 ≠ "family"
    if others.all fun field => field.2.fits 124 then
      return ⟨family, ← DeviceProfile.ofJson? (.object others)⟩
    else none
  | _ => none

end FamilyEntry

namespace Environment

def fieldNames : List String := ["devices", "groups", "tiers", "config"]

def ofJson? (j : Json) : Option Environment := do
  let fields ← j.record? fieldNames
  return {
    devices := ← Json.defaulted? fields "devices" [] (Json.list? FamilyEntry.ofJson?)
    groups := ← Json.defaulted? fields "groups" .empty (Json.map? Json.strings?)
    tiers := ← Json.defaulted? fields "tiers" none (Json.optional? TierTable.ofJson?)
    config := ← Json.defaulted? fields "config" .empty Config.ofJson? }

/-- Why the families are refused, if they are: the first one whose name is no device id, or whose id
is among those seen before. -/
def familyError? (seen : List DeviceId) : List FamilyEntry → Option EnvironmentError
  | [] => none
  | entry :: rest =>
    match DeviceId.parse entry.family with
    | .error e => some (.device e)
    | .ok id =>
      if seen.contains id then some (.duplicateFamily entry.family)
      else familyError? (id :: seen) rest

/-- Why a member of a group is refused, if it is. -/
def memberError? (member : String) : Option EnvironmentError :=
  match DeviceId.parse member with
  | .error e => some (.device e)
  | .ok _ => none

/-- Why an environment is refused, if it is: families in order, then members by group name. -/
def error? (e : Environment) : Option EnvironmentError :=
  familyError? [] e.devices <|> (e.groups.entries.flatMap (·.2)).findSome? memberError?

/-- The environment that a text describes. -/
def parse (text : String) : Except EnvironmentError Environment :=
  match (Json.read? text).bind ofJson? with
  | none => .error .unreadable
  | some e =>
    match e.error? with
    | some err => .error err
    | none => .ok e

def tierTable (e : Environment) : TierTable :=
  e.tiers.getD .standard

/-- The catalog of the families and groups, under the names that are written. -/
def catalog (e : Environment) : Catalog :=
  let families := e.devices.foldl (fun c entry =>
    c.register ⟨entry.family⟩ (entry.profile.service entry.family)) .empty
  e.groups.entries.foldl (fun c group =>
    c.registerGroup group.1 (group.2.map DeviceId.mk)) families

/-- A processor and a discrete accelerator, used where no environment is given. -/
def builtin : Environment where
  devices := [
    ⟨"CPU", ((DeviceProfile.named "Host CPU").withPrecision .fp32).withPrecision .int8⟩,
    ⟨"GPU", (((DeviceProfile.named "Discrete Graphics (dGPU)").withPrecision .fp32).withPrecision
      .fp16).withIndices ["0"]⟩]
  groups := .empty
  tiers := none
  config := .empty

end Environment

end TieredDispatch
