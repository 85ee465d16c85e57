import TieredDispatch.Device.Service
import TieredDispatch.Precision

/-!
# Profiled devices

A device family with a fixed profile stands in for a real compile engine. Failures can be injected for
each kind of request.

* `DeviceProfile`: the profile, and how one is put together.
* `DeviceProfile.service`: the answers of such a family.
-/

namespace TieredDispatch

/-- Which requests a profiled device fails. -/
structure FailureProfile where
  metrics : Bool
  queries : Bool
  /-- The reason with which every compile fails. -/
  compile : Option String
  deriving DecidableEq

/-- The profile of a device that fails nothing. -/
def FailureProfile.none : FailureProfile := ⟨false, false, Option.none⟩

instance : Inhabited FailureProfile := ⟨.none⟩

/-- What a profiled device answers. -/
structure DeviceProfile where
  fullName : String
  capabilities : List String
  configKeys : List String
  /-- The indices of the devices; without any the family is itself the device. -/
  indices : List String
  /-- The types of the operations that the device runs; `none` means all. -/
  supportedTypes : Option (List String)
  compileLatency : UInt64
  failures : FailureProfile
  deriving DecidableEq

namespace DeviceProfile

/-- The profile of a device that has nothing but a name. -/
def named (fullName : String) : DeviceProfile where
  fullName := fullName
  capabilities := []
  configKeys := []
  indices := []
  supportedTypes := none
  compileLatency := 0
  failures := .none

def withCapability (p : DeviceProfile) (tag : String) : DeviceProfile :=
  { p with capabilities := p.capabilities ++ [tag] }

def withPrecision (p : DeviceProfile) (precision : Precision) : DeviceProfile :=
  p.withCapability precision.tag

def withConfigKey (p : DeviceProfile) (key : String) : DeviceProfile :=
  { p with configKeys := p.configKeys ++ [key] }

def withIndices (p : DeviceProfile) (indices : List String) : DeviceProfile :=
  { p with indices := indices }

def withSupportedTypes (p : DeviceProfile) (types : List String) : DeviceProfile :=
  { p with supportedTypes := some types }

def withCompileLatency (p : DeviceProfile) (latency : UInt64) : DeviceProfile :=
  { p with compileLatency := latency }

def withFailures (p : DeviceProfile) (failures : FailureProfile) : DeviceProfile :=
  { p with failures := failures }

def failingMetrics (p : DeviceProfile) : DeviceProfile :=
  { p with failures.metrics := true }

def failingQueries (p : DeviceProfile) : DeviceProfile :=
  { p with failures.queries := true }

def failingCompile (p : DeviceProfile) (reason : String) : DeviceProfile :=
  { p with failures.compile := some reason }

/-- The devices behind the family: one for each index, or the family itself. -/
def devices (p : DeviceProfile) (family : DeviceId) : List DeviceId :=
  if p.indices.isEmpty then [family] else p.indices.map family.member

/-- The metrics that every profiled device knows. -/
def metricNames : List String :=
  [MetricName.supportedMetrics, MetricName.fullName, MetricName.capabilities, MetricName.configKeys,
    MetricName.availableDevices]

def metric (p : DeviceProfile) (d : DeviceId) (name : String) : Except DeviceError MetricValue :=
  if p.failures.metrics then .error (.queryFailed d ("metric " ++ name ++ " unavailable"))
  else if name = MetricName.supportedMetrics then .ok (.list metricNames)
  else if name = MetricName.fullName then .ok (.text p.fullName)
  else if name = MetricName.capabilities then .ok (.list p.capabilities)
  else if name = MetricName.configKeys then .ok (.list p.configKeys)
  else if name = MetricName.availableDevices then .ok (.list p.indices)
  else .error (.unsupportedMetric d name)

def supportsType (p : DeviceProfile) (typeName : String) : Bool :=
  match p.supportedTypes with
  | some types => types.contains typeName
  | none => true

/-- The names of the operations that have a supported type. -/
def operations (p : DeviceProfile) (d : DeviceId) (g : Graph) : Except DeviceError TextSet :=
  if p.failures.queries then .error (.queryFailed d "operation query refused")
  else .ok (.ofList ((g.ops.filter fun op => p.supportsType op.typeName).map Operation.name))

def compile (p : DeviceProfile) (d : DeviceId) (model : ModelSource) : CompileRun where
  latency := p.compileLatency.toNat
  outcome := match p.failures.compile with
    | some reason => .refused (.compileFailed d reason)
    | none => .compiled ⟨d, model.modelName⟩

/-- The answers of a family with this profile. -/
def service (p : DeviceProfile) (name : String) : Service where
  name := name
  devices family := .ok (p.devices family)
  metric := p.metric
  operations := p.operations
  compile d model _ := p.compile d model

end DeviceProfile

end TieredDispatch
