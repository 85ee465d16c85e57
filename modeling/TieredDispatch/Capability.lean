import TieredDispatch.Catalog

/-!
# Questions to several devices

* `Catalog.supportedOperations`: the operations of a graph that the devices run, with their owner.
* `Catalog.capabilityUnion`: the capability tags of all candidate devices.
-/

namespace TieredDispatch.Catalog

/-- The devices whose capabilities are asked for if no list of devices is set. -/
def defaultCandidates : List DeviceId := [⟨"CPU"⟩, ⟨"GPU"⟩]

/-- One more answer beside the operations found so far: where both are known they are intersected,
and an empty side gives way to the other. -/
def combine (found answer : TextSet) : TextSet :=
  if found.isEmpty then answer
  else if answer.isEmpty then found
  else found.inter answer

/-- Asks the devices in order, past those that fail, until one answers. -/
def scanOperations (c : Catalog) (g : Graph) (found : TextSet) : List DeviceId → TextSet
  | [] => found
  | d :: rest =>
    match c.operations d g with
    | .ok answer => combine found answer
    | .error _ => scanOperations c g found rest

/-- The operations of a graph that the devices run, all of one owner. -/
def supportedOperations (c : Catalog) (devices : List DeviceId) (g : Graph) (owner : String) :
    TextMap String :=
  .ofList ((c.scanOperations g .empty devices).elems.map fun name => (name, owner))

/-- The devices whose capabilities are asked for: those listed in `options`, else in `stored`. -/
def capabilityCandidates (c : Catalog) (options stored : Config) : List DeviceId :=
  match options.deviceList? <|> stored.deviceList? with
  | some raw => c.parseDeviceList raw
  | none => defaultCandidates

/-- All capability tags of the candidates; a device that does not answer with a list has none. -/
def capabilityUnion (c : Catalog) (options stored : Config) : TextSet :=
  .ofList <| (c.capabilityCandidates options stored).flatMap fun d =>
    match c.metricList d MetricName.capabilities with
    | .ok tags => tags
    | .error _ => []

end TieredDispatch.Catalog
