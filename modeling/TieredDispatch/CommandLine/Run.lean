import TieredDispatch.CommandLine.Arguments
import TieredDispatch.CommandLine.Report
import TieredDispatch.Session.Basic
import TieredDispatch.Text.Column
import TieredDispatch.Wire.Model

/-!
# Runs of the program

* `Surroundings`: the files that a run can read.
* `Invocation.run`: what a run prints, or why it fails.
* `run`: the same for a row of arguments.
-/

namespace TieredDispatch.CommandLine

/-- What there is at a place in the file system. -/
inductive FileText
  | absent
  | unreadable
  | text (s : String)

/-- What a run finds outside. -/
structure Surroundings where
  file : String → FileText
  /-- The environment file of the user, which is read if no other one is named. -/
  userEnvironment : FileText
  /-- The id that the workload of this run is given. -/
  workloadId : String

/-- What a run comes to. -/
inductive Outcome
  | printed (lines : List String)
  | failed (e : RunError)
  /-- The arguments are not understood. -/
  | refused

/-- The status with which the program ends. -/
def Outcome.exitCode : Outcome → Nat
  | printed _ => 0
  | failed _ => 1
  | refused => 2

/-- The name of the only catalog of a run. -/
def catalogName : String := "main"

/-- An error of the dispatcher ends the run. -/
def orFail {α : Type} : Except DispatchError α → Except RunError α
  | .ok a => .ok a
  | .error e => .error (.dispatch e)

def parseEnvironment (text : String) : Except RunError Environment :=
  match Environment.parse text with
  | .ok e => .ok e
  | .error e => .error (.environment e)

/-- The environment of a run: the named file, else the user's file, else the built-in one. -/
def resolveEnvironment (s : Surroundings) : Option String → Except RunError Environment
  | some path =>
    match s.file path with
    | .text t => parseEnvironment t
    | _ => .error .environmentFile
  | none =>
    match s.userEnvironment with
    | .text t => parseEnvironment t
    | .unreadable => .error .environmentFile
    | .absent => .ok .builtin

def readGraph (s : Surroundings) (path : String) : Except RunError Graph :=
  match s.file path with
  | .text t =>
    match Graph.read? t with
    | some g => .ok g
    | none => .error .graph
  | _ => .error .graphFile

/-- A session whose dispatcher is attached to the devices of an environment, with its settings. -/
def openSession (e : Environment) : Except RunError Session := do
  let s := (Session.initial .empty e.tierTable (some catalogName)).setCatalog catalogName e.catalog
  let d ← orFail (s.dispatcher.setConfig e.config)
  return { s with stored := d.stored }

/-- One line for a device: its id, its tier, and what it says that it can do. -/
def deviceLine (c : Catalog) (p : Partition) (d : DeviceId) : String :=
  let tier := ((p.tierOf? d).map Tier.label).getD "unclassified"
  let about := match c.manifest d with
    | .ok m => m.summary
    | .error e => "unavailable: " ++ e.message
  d.text ++ " " ++ Text.padRight 24 tier ++ " " ++ about

/-- One line for an operation: its name, its type, and its owner. -/
def operationLine (owners : TextMap String) (op : Operation) : String :=
  Text.padRight 24 op.name ++ " " ++ Text.padRight 24 op.typeName ++ " " ++
    (owners.get? op.name).getD "-"

/-- The line for a workload that has settled. -/
def workloadLine (id : String) (w : Workload) (serving : CompiledModel) : String :=
  let accelerator := match w.accelerator with
    | some slot => slot.device.text
    | none => "none"
  "workload " ++ id ++ " served by " ++ serving.device.text ++ " (accelerator " ++ accelerator ++
    ", perf_count=" ++ (if w.perfCount then "true" else "false") ++ ")"

/-- The devices that a request considers; the settings are merged, but not validated. -/
def requestDevices (s : Session) (request : Config) : Except RunError (List DeviceId) :=
  orFail ((s.catalog catalogName).listDevices (s.stored.merge request))

def devicesLines (s : Session) (request : Config) : Except RunError (List String) := do
  let devices ← requestDevices s request
  let c := s.catalog catalogName
  let p := (s.dispatcher.selector c).partition devices
  return devices.map (deviceLine c p)

def selectLines (s : Session) (request : Config) (wanted : Option Precision) :
    Except RunError (List String) := do
  let devices ← requestDevices s request
  let d ← orFail (s.dispatcher.select devices wanted)
  return [d.text]

/-- Loads a model, waits for every slot, and tells which device serves it. -/
def loadLines (s : Session) (id : String) (model : ModelSource) (request : Config) :
    Except RunError (List String) := do
  let (loaded, result) := s.load model request
  let _ ← orFail result
  let index := s.loads.length
  match (loaded.waitForAll index).workload? index with
  | none => return []
  | some w =>
    match w.settle? with
    | none => return []
    | some r =>
      let serving ← orFail r
      return [workloadLine id w serving]

def queryLines (s : Session) (g : Graph) (request : Config) : Except RunError (List String) := do
  let owners ← orFail (s.dispatcher.query g request)
  return g.ops.map (operationLine owners)

/-- What an action prints. -/
def Action.lines (world : Surroundings) (s : Session) (request : Config) :
    Action → Except RunError (List String)
  | devices => devicesLines s request
  | select wanted => selectLines s request wanted
  | classify path => do
    let g ← readGraph world path
    return [g.precision.tag]
  | loadGraph path => do
    let g ← readGraph world path
    loadLines s world.workloadId (.graph g) request
  | loadPath path => loadLines s world.workloadId (.path path) request
  | query path => do
    let g ← readGraph world path
    queryLines s g request
  | metric name => do
    let value ← orFail (s.dispatcher.metric name request)
    return [value.display]

/-- What a run prints: first the environment is read, then the settings, then the action follows. -/
def Invocation.run (world : Surroundings) (i : Invocation) : Except RunError (List String) := do
  let e ← resolveEnvironment world i.environment
  let s ← openSession e
  match Config.ofPairs i.settings with
  | .error err => .error (.input err)
  | .ok request => i.action.lines world s request

/-- What the program does with a row of arguments. -/
def run (world : Surroundings) (arguments : List String) : Outcome :=
  match Invocation.parse arguments with
  | .error (.helpWanted page) => .printed page.lines
  | .error .invalid => .refused
  | .ok i =>
    match i.run world with
    | .ok lines => .printed lines
    | .error e => .failed e

end TieredDispatch.CommandLine
