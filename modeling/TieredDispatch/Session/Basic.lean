import TieredDispatch.Dispatcher

/-!
# Sessions

A session holds everything that requests can change: the catalogs by name, the settings stored in the
dispatcher, the workloads that were loaded, a count of the compiles that each service received, and a
clock that moves only when it is told to.

* `Session.startTasks`: every queued compile task starts.
* `Session.advanceTo`: the clock moves on, and tasks that are due report.
* `Session.load`: a load, whose tasks are queued afterwards.
-/

namespace TieredDispatch

/-- A workload, with the name of the catalog from which its devices were taken. -/
structure Load where
  catalog : String
  workload : Workload
  deriving DecidableEq

/-- A compile task that belongs to no workload. -/
structure Stray where
  catalog : String
  slot : Slot
  deriving DecidableEq

/-- What the requests of a run have made of a dispatcher and its surroundings. -/
structure Session where
  /-- The time in milliseconds. -/
  clock : Nat
  /-- The services that can be registered, by name. -/
  services : TextMap Service
  /-- How many compile requests each service has received. -/
  compiles : TextMap Nat
  catalogs : TextMap Catalog
  tiers : TierTable
  /-- The settings stored in the dispatcher. -/
  stored : Config
  /-- The name of the catalog to which the dispatcher is attached. -/
  attached : Option String
  /-- The workloads in the order in which they were loaded. -/
  loads : List Load
  /-- The tasks that loads have started without a slot of a workload to hold them. -/
  strays : List Stray

namespace Session

/-- A session in which nothing has happened yet. -/
def initial (services : TextMap Service) (tiers : TierTable) (attached : Option String) : Session where
  clock := 0
  services := services
  compiles := .empty
  catalogs := .empty
  tiers := tiers
  stored := .empty
  attached := attached
  loads := []
  strays := []

/-- The catalog of a name; one that was never used is empty. -/
def catalog (s : Session) (name : String) : Catalog :=
  (s.catalogs.get? name).getD .empty

def setCatalog (s : Session) (name : String) (c : Catalog) : Session :=
  { s with catalogs := s.catalogs.insert name c }

/-- The dispatcher as a request at this moment finds it. -/
def dispatcher (s : Session) : Dispatcher where
  tiers := s.tiers
  stored := s.stored
  catalog := s.attached.map s.catalog

/-- How many compile requests a service has received. -/
def compileCount (s : Session) (service : String) : Nat :=
  (s.compiles.get? service).getD 0

/-- One more compile request for a service. -/
def countCompile (s : Session) (service : String) : Session :=
  { s with compiles := s.compiles.insert service (s.compileCount service + 1) }

/-- The session at the time `now`, or as it is if the clock has passed that time. -/
def advanceTo (s : Session) (now : Nat) : Session :=
  let time := max s.clock now
  { s with
    clock := time
    loads := s.loads.map fun l => { l with workload := l.workload.advance time }
    strays := s.strays.map fun x => { x with slot := x.slot.advance time } }

/-- The services that receive a compile request when every queued task starts. -/
def requested (s : Session) : List Service :=
  (s.loads.flatMap fun l => (l.workload.start (s.catalog l.catalog) s.clock).2) ++
    s.strays.filterMap fun x => (x.slot.start (s.catalog x.catalog) s.clock).2

/-- Starts every queued task; one whose compile takes no time reports at once. -/
def startTasks (s : Session) : Session :=
  let started : Session :=
    { s with
      loads := s.loads.map fun l =>
        { l with workload := (l.workload.start (s.catalog l.catalog) s.clock).1 }
      strays := s.strays.map fun x =>
        { x with slot := (x.slot.start (s.catalog x.catalog) s.clock).1 } }
  (s.requested.foldl (fun s service => s.countCompile service.name) started).advanceTo s.clock

/-- Loads a model. Every task that the dispatcher has started is queued, in a slot of the workload or
as one that belongs to no workload; a load that fails has no slots. -/
def load (s : Session) (model : ModelSource) (config : Config) :
    Session × Except DispatchError Workload :=
  let home := s.attached.getD ""
  match s.dispatcher.load model config with
  | (started, .ok w) =>
    ({ s with
        loads := s.loads ++ [⟨home, w⟩]
        strays := s.strays ++ (w.unplaced started).map fun slot => ⟨home, slot⟩ }, .ok w)
  | (started, .error e) =>
    ({ s with strays := s.strays ++ started.map fun slot => ⟨home, slot⟩ }, .error e)

/-- The workload that was loaded at the given position. -/
def workload? (s : Session) (index : Nat) : Option Workload :=
  s.loads[index]?.map Load.workload

/-- Compiles a model at once: the service receives a request, and the time that it takes passes. -/
def compile (s : Session) (catalog : String) (d : DeviceId) (model : ModelSource) (config : Config) :
    Session × CompileOutcome :=
  let (service, run) := (s.catalog catalog).compile d model config
  let counted := match service with
    | some service => s.countCompile service.name
    | none => s
  (counted.advanceTo (s.clock + run.latency), run.outcome)

/-- Lets tasks start and the clock run until a slot of a workload has reported. -/
def waitFor (s : Session) (index : Nat) (kind : SlotKind) : Session :=
  let s := s.startTasks
  match (s.workload? index).bind fun w => (w.slot? kind).bind Slot.due? with
  | some due => s.advanceTo due
  | none => s

/-- Lets tasks start and the clock run until every slot of a workload has reported. -/
def waitForAll (s : Session) (index : Nat) : Session :=
  let s := s.startTasks
  match s.workload? index with
  | some w => s.advanceTo (w.dueAfter s.clock)
  | none => s

end Session

end TieredDispatch
