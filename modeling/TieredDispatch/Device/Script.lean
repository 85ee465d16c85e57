import TieredDispatch.Device.Service

/-!
# Scripted devices

A scripted family answers from tables: each request has a fixed answer or a fixed reason to fail.

* `DeviceScript`: the tables.
* `DeviceScript.service`: the answers of such a family.
-/

namespace TieredDispatch

/-- A fixed answer, or the reason for which there is none. -/
inductive Scripted (α : Type)
  | answer (a : α)
  | fail (reason : String)

/-- The answer of `d`, or its failed query. -/
def Scripted.answerOf {α : Type} (d : DeviceId) : Scripted α → Except DeviceError α
  | answer a => .ok a
  | fail reason => .error (.queryFailed d reason)

/-- What comes of every compile of a scripted device. -/
structure CompileScript where
  latency : Nat
  /-- Whether the compile ends without any report. -/
  crashes : Bool
  /-- The reason with which the compile fails. -/
  failure : Option String

/-- The answers of a scripted device. -/
structure DeviceScript where
  /-- The devices behind the family; without a script the family is itself the device. -/
  available : Option (Scripted (List DeviceId))
  metrics : List (String × Scripted MetricValue)
  operations : Scripted TextSet
  compile : CompileScript

namespace DeviceScript

def metric (s : DeviceScript) (d : DeviceId) (name : String) : Except DeviceError MetricValue :=
  match s.metrics.lookup name with
  | some answer => answer.answerOf d
  | none => .error (.unsupportedMetric d name)

/-- A compiled model is named after the number of settings that came with the request. -/
def runCompile (s : DeviceScript) (d : DeviceId) (config : Config) : CompileRun where
  latency := s.compile.latency
  outcome :=
    if s.compile.crashes then .lost
    else match s.compile.failure with
      | some reason => .refused (.compileFailed d reason)
      | none => .compiled ⟨d, "scripted:" ++ toString config.size⟩

/-- The answers of a family with this script. -/
def service (s : DeviceScript) (name : String) : Service where
  name := name
  devices family := match s.available with
    | some answer => answer.answerOf family
    | none => .ok [family]
  metric := s.metric
  operations d _ := s.operations.answerOf d
  compile d _ config := s.runCompile d config

end DeviceScript

end TieredDispatch
