import TieredDispatch.Session.Basic

/-!
# Commands of a session

* `Command`, `Answer`, `Failure`: the requests of a session and what comes back.
* `Session.step`: one request.
* `Session.run`: one request, after which queued tasks start.
-/

namespace TieredDispatch

/-- A request to a session. Those about a catalog name it. -/
inductive Command
  | register (catalog : String) (family : DeviceId) (service : String)
  | unregister (catalog : String) (family : DeviceId)
  | registerGroup (catalog : String) (name : String) (members : List DeviceId)
  | available (catalog : String)
  | parseDeviceList (catalog : String) (raw : String)
  | listDevices (catalog : String) (config : Config)
  | deviceMetric (catalog : String) (device : DeviceId) (name : String)
  | metricText (catalog : String) (device : DeviceId) (name : String)
  | metricList (catalog : String) (device : DeviceId) (name : String)
  | deviceName (catalog : String) (device : DeviceId)
  | manifest (catalog : String) (device : DeviceId)
  | operations (catalog : String) (device : DeviceId) (g : Graph)
  | compile (catalog : String) (device : DeviceId) (model : ModelSource) (config : Config)
  | supportedOperations (catalog : String) (devices : List DeviceId) (g : Graph) (owner : String)
  | capabilities (catalog : String) (options stored : Config)
  | partition (catalog : String) (devices : List DeviceId)
  | compileCount (service : String)
  | attach (catalog : String)
  | setConfig (config : Config)
  | getConfig (key : String)
  | config
  | select (devices : List DeviceId) (wanted : Option Precision)
  | query (g : Graph) (config : Config)
  | metric (name : String) (options : Config)
  | load (model : ModelSource) (config : Config)
  | advance (milliseconds : Nat)
  | peek (workload : Nat)
  | settle (workload : Nat)
  | slot (workload : Nat) (kind : SlotKind)
  | wait (workload : Nat) (kind : SlotKind)

/-- What a request gives back. -/
inductive Answer
  | done
  | devices (ids : List DeviceId)
  /-- Whether a family was removed, and the families that are left. -/
  | removed (found : Bool) (families : List DeviceId)
  | metric (value : MetricValue)
  | text (s : String)
  | texts (items : List String)
  | manifest (m : Manifest)
  | model (m : CompiledModel)
  | ownership (owners : TextMap String)
  | partition (p : Partition)
  | count (n : Nat)
  | config (c : Config)
  | device (id : DeviceId)
  | workload (w : Workload)
  | slot (s : Slot)

/-- Why a request gives nothing back. -/
inductive Failure
  | device (e : DeviceError)
  | dispatch (e : DispatchError)
  /-- There is no workload at that position. -/
  | noWorkload
  /-- There is no service of that name. -/
  | noService
  /-- A compile ended without any report. -/
  | lost
  /-- A compile is still under way. -/
  | pending

namespace Session

/-- A request that changes nothing and only asks devices. -/
def askDevice {α : Type} (s : Session) (r : Except DeviceError α) (answer : α → Answer) :
    Session × Except Failure Answer :=
  match r with
  | .ok a => (s, .ok (answer a))
  | .error e => (s, .error (.device e))

/-- A request that changes nothing and only asks the dispatcher. -/
def askDispatcher {α : Type} (s : Session) (r : Except DispatchError α) (answer : α → Answer) :
    Session × Except Failure Answer :=
  match r with
  | .ok a => (s, .ok (answer a))
  | .error e => (s, .error (.dispatch e))

/-- The answer that a slot gives to one who has waited for it. -/
def slotAnswer (slot : Slot) : Except Failure Answer :=
  match slot.result? with
  | some (.ok m) => .ok (.model m)
  | some (.error f) => .error (.dispatch (.compileFailed f))
  | none => .error .pending

/-- One request. -/
def step (s : Session) : Command → Session × Except Failure Answer
  | .register name family service =>
    match s.services.get? service with
    | none => (s, .error .noService)
    | some service =>
      let c := (s.catalog name).register family service
      (s.setCatalog name c, .ok (.devices c.familyIds))
  | .unregister name family =>
    let (found, c) := (s.catalog name).unregister family
    (s.setCatalog name c, .ok (.removed found c.familyIds))
  | .registerGroup name group members =>
    (s.setCatalog name ((s.catalog name).registerGroup group members), .ok .done)
  | .available name => (s, .ok (.devices (s.catalog name).available))
  | .parseDeviceList name raw => (s, .ok (.devices ((s.catalog name).parseDeviceList raw)))
  | .listDevices name config => s.askDispatcher ((s.catalog name).listDevices config) .devices
  | .deviceMetric name device metric => s.askDevice ((s.catalog name).metric device metric) .metric
  | .metricText name device metric => s.askDevice ((s.catalog name).metricText device metric) .text
  | .metricList name device metric => s.askDevice ((s.catalog name).metricList device metric) .texts
  | .deviceName name device => s.askDevice ((s.catalog name).fullName device) .text
  | .manifest name device => s.askDevice ((s.catalog name).manifest device) .manifest
  | .operations name device g =>
    s.askDevice ((s.catalog name).operations device g) fun names => .texts names.elems
  | .compile name device model config =>
    match s.compile name device model config with
    | (s, .compiled m) => (s, .ok (.model m))
    | (s, .refused e) => (s, .error (.device e))
    | (s, .lost) => (s, .error .lost)
  | .supportedOperations name devices g owner =>
    (s, .ok (.ownership ((s.catalog name).supportedOperations devices g owner)))
  | .capabilities name options stored =>
    (s, .ok (.texts ((s.catalog name).capabilityUnion options stored).elems))
  | .partition name devices =>
    (s, .ok (.partition ((s.dispatcher.selector (s.catalog name)).partition devices)))
  | .compileCount service => (s, .ok (.count (s.compileCount service)))
  | .attach name => ({ s with attached := some name }, .ok (.text Dispatcher.name))
  | .setConfig config =>
    match s.dispatcher.setConfig config with
    | .ok d => ({ s with stored := d.stored }, .ok .done)
    | .error e => (s, .error (.dispatch e))
  | .getConfig key => s.askDispatcher (s.dispatcher.getConfig key) .text
  | .config => (s, .ok (.config s.stored))
  | .select devices wanted => s.askDispatcher (s.dispatcher.select devices wanted) .device
  | .query g config => s.askDispatcher (s.dispatcher.query g config) .ownership
  | .metric name options => s.askDispatcher (s.dispatcher.metric name options) .metric
  | .load model config =>
    match s.load model config with
    | (s, .ok w) => (s, .ok (.workload w))
    | (s, .error e) => (s, .error (.dispatch e))
  | .advance milliseconds => (s.advanceTo (s.clock + milliseconds), .ok .done)
  | .peek index =>
    match s.workload? index with
    | some w => (s, .ok (.workload w))
    | none => (s, .error .noWorkload)
  | .settle index =>
    let s := s.waitForAll index
    match s.workload? index with
    | none => (s, .error .noWorkload)
    | some w =>
      match w.settle? with
      | some r => s.askDispatcher r .model
      | none => (s, .error .pending)
  | .slot index kind =>
    match s.workload? index with
    | none => (s, .error .noWorkload)
    | some w => s.askDispatcher (w.slot kind) .slot
  | .wait index kind =>
    let s := s.waitFor index kind
    match s.workload? index with
    | none => (s, .error .noWorkload)
    | some w =>
      match w.slot kind with
      | .error e => (s, .error (.dispatch e))
      | .ok slot => (s, slotAnswer slot)

/-- One request, after which queued tasks start. -/
def run (s : Session) (command : Command) : Session × Except Failure Answer :=
  let (s, answer) := s.step command
  (s.startTasks, answer)

end Session

end TieredDispatch
