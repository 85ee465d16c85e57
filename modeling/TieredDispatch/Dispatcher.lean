import TieredDispatch.Capability
import TieredDispatch.Model.Classify
import TieredDispatch.Selection
import TieredDispatch.Workload

/-!
# The dispatcher

The dispatcher merges the settings of a request with its stored ones, lists the devices, chooses an
accelerator, and starts to compile on it and on the first processor.

* `Dispatcher.load`: starts the compiles of a model.
* `Dispatcher.select`, `Dispatcher.query`, `Dispatcher.metric`: questions that compile nothing.
* `Dispatcher.setConfig`: changes the stored settings.
-/

namespace TieredDispatch

/-- What the dispatcher sees when a request comes in. -/
structure Dispatcher where
  tiers : TierTable
  /-- The settings that hold for every request. -/
  stored : Config
  /-- The attached catalog, if there is one. -/
  catalog : Option Catalog

namespace Dispatcher

/-- The name under which the dispatcher owns operations. -/
def name : String := "AUTO"

def fullName : String := "CortexOS AUTO device"

/-- The metrics that the dispatcher knows. -/
def metricNames : List String :=
  [MetricName.supportedMetrics, MetricName.fullName, MetricName.configKeys, MetricName.capabilities]

def attached (d : Dispatcher) : Except DispatchError Catalog :=
  match d.catalog with
  | some c => .ok c
  | none => .error .notConfigured

/-- The value of a stored setting. -/
def getConfig (d : Dispatcher) (key : String) : Except DispatchError String :=
  match d.stored.get? key with
  | some value => .ok value
  | none => .error (.config (.unsupportedKey key))

/-- Stores settings, all of them or, if one is refused, none. -/
def setConfig (d : Dispatcher) (settings : Config) : Except DispatchError Dispatcher :=
  match settings.validate with
  | .ok () => .ok { d with stored := d.stored.merge settings }
  | .error e => .error (.config e)

/-- The reason for which there is nothing to do for a graph. -/
def emptyGraphReason (g : Graph) : String :=
  "graph " ++ g.name ++ " has no operations"

/-- Refuses a source without anything to compile. -/
def checkInput : ModelSource → Except DispatchError Unit
  | .path text =>
    if text.isEmpty then .error (.unsupportedInput "neither a model path nor a graph was given")
    else .ok ()
  | .graph g => if g.ops.isEmpty then .error (.unsupportedInput (emptyGraphReason g)) else .ok ()

/-- What is known once a load has passed its checks. -/
structure Request where
  catalog : Catalog
  /-- The stored settings, overridden by those of the request. -/
  config : Config
  /-- The devices to choose from. -/
  devices : List DeviceId

/-- The checks of a load, in order: catalog, model, settings, devices. -/
def prepare (d : Dispatcher) (model : ModelSource) (config : Config) :
    Except DispatchError Request := do
  let catalog ← d.attached
  checkInput model
  let merged := d.stored.merge config
  match merged.validate with
  | .error e => .error (.config e)
  | .ok () =>
    let devices ← catalog.listDevices merged
    return ⟨catalog, merged, devices⟩

def selector (d : Dispatcher) (c : Catalog) : Selector := ⟨d.tiers, c.lookup⟩

/-- Loads a model: the slots whose tasks were started, and the workload that they make up. The
processor's task is started before the accelerator is chosen. -/
def load (d : Dispatcher) (model : ModelSource) (config : Config) :
    List Slot × Except DispatchError Workload :=
  match d.prepare model config with
  | .error e => ([], .error e)
  | .ok request =>
    let processor := (request.devices.find? d.tiers.isProcessor).map fun device =>
      Slot.spawn .processor device model
    let wanted := model.graph?.map Graph.precision
    match (d.selector request.catalog).select request.devices wanted with
    | .error e => (processor.toList, .error (.selection e))
    | .ok selected =>
      let accelerator :=
        if d.tiers.isProcessor selected then none
        else some (Slot.spawn .accelerator selected model)
      let started := processor.toList ++ accelerator.toList
      if started.isEmpty then (started, .error .noCompileTarget)
      else (started, .ok ⟨processor, accelerator, request.config.perfCount⟩)

/-- The device that a load would choose. -/
def select (d : Dispatcher) (devices : List DeviceId) (wanted : Option Precision) :
    Except DispatchError DeviceId :=
  match d.attached with
  | .error e => .error e
  | .ok c =>
    match (d.selector c).select devices wanted with
    | .ok device => .ok device
    | .error e => .error (.selection e)

/-- The operations of a graph that the devices run, owned by the dispatcher. The settings are merged
as for a load, but not validated. -/
def query (d : Dispatcher) (g : Graph) (config : Config) : Except DispatchError (TextMap String) := do
  let catalog ← d.attached
  if g.ops.isEmpty then .error (.unsupportedInput (emptyGraphReason g))
  let devices ← catalog.listDevices (d.stored.merge config)
  return catalog.supportedOperations devices g name

/-- The answer to a metric request; only capabilities need a catalog. -/
def metric (d : Dispatcher) (metricName : String) (options : Config) :
    Except DispatchError MetricValue :=
  if metricName = MetricName.supportedMetrics then .ok (.list metricNames)
  else if metricName = MetricName.fullName then .ok (.text fullName)
  else if metricName = MetricName.configKeys then .ok (.list Config.supportedKeys)
  else if metricName = MetricName.capabilities then
    d.attached.map fun c => .list (c.capabilityUnion options d.stored).elems
  else .error (.unsupportedMetric metricName)

end Dispatcher

end TieredDispatch
