import TieredDispatch.Config
import TieredDispatch.Device.Error
import TieredDispatch.Device.Metric
import TieredDispatch.Model.Source
import TieredDispatch.TextSet

/-!
# Device services

* `Service`: what a family of devices answers to each request.
* `CompileRun`: how long a compile takes and what comes of it.
-/

namespace TieredDispatch

/-- A model that was compiled for one device. -/
structure CompiledModel where
  device : DeviceId
  name : String
  deriving DecidableEq

/-- What comes of a compile. -/
inductive CompileOutcome
  | compiled (model : CompiledModel)
  | refused (e : DeviceError)
  /-- The compile ended without any report. -/
  | lost
  deriving DecidableEq

/-- A compile that a service was asked for. -/
structure CompileRun where
  /-- How many milliseconds pass until the outcome is there. -/
  latency : Nat
  outcome : CompileOutcome
  deriving DecidableEq

/-- The answers of a family of devices. -/
structure Service where
  /-- The name under which the compiles that the service receives are counted. -/
  name : String
  /-- The devices behind the family under which the service is registered. -/
  devices : DeviceId → Except DeviceError (List DeviceId)
  metric : DeviceId → String → Except DeviceError MetricValue
  /-- The names of the operations of a graph that a device runs. -/
  operations : DeviceId → Graph → Except DeviceError TextSet
  compile : DeviceId → ModelSource → Config → CompileRun

end TieredDispatch
