import TieredDispatch.CommandLine.Option
import TieredDispatch.Precision

/-!
# Arguments

* `Action`: what the program is asked to do.
* `Invocation.parse`: what a row of arguments asks for, or why it is refused.
-/

namespace TieredDispatch.CommandLine

/-- What the program is asked to do. -/
inductive Action
  /-- List the devices with their tiers and capabilities. -/
  | devices
  /-- Choose a device without compiling. -/
  | select (wanted : Option Precision)
  /-- Tell the precision class of a graph file. -/
  | classify (graph : String)
  /-- Load a graph file. -/
  | loadGraph (graph : String)
  /-- Load a model file by its path; without one the path is empty. -/
  | loadPath (path : String)
  /-- Tell the operations of a graph file that the devices run. -/
  | query (graph : String)
  /-- Read a metric of the dispatcher. -/
  | metric (name : String)
  deriving DecidableEq

/-- What a row of arguments asks for. -/
structure Invocation where
  /-- The path of the environment file. -/
  environment : Option String
  /-- The settings of the request, as written. -/
  settings : List String
  /-- Whether more detail is asked for; nothing that is printed depends on it. -/
  verbose : Bool
  action : Action
  deriving DecidableEq

/-- The graph file that an action reads. -/
def Action.graphFile? : Action → Option String
  | classify graph => some graph
  | loadGraph graph => some graph
  | query graph => some graph
  | _ => none

/-- The files that are named among the arguments. -/
def Invocation.files (i : Invocation) : List String :=
  i.environment.toList ++ i.action.graphFile?.toList

/-- The values that an option was given. -/
def valuesOf (long : String) (items : List Item) : List String :=
  items.filterMap fun item =>
    match item with
    | .value l v => if l = long then some v else none
    | _ => none

/-- The value that an option was given. -/
def valueOf? (long : String) (items : List Item) : Option String :=
  (valuesOf long items).head?

/-- A value that has to be given. -/
def requiredValue (long : String) (items : List Item) : Except Refusal String :=
  match valueOf? long items with
  | some v => .ok v
  | none => .error .invalid

/-- The options and words of an action. -/
def ActionSpec.items (a : ActionSpec) (arguments : List String) : Except Refusal (List Item) :=
  Scan.items ⟨a.options, a.page⟩ a.words.length .nothing arguments.length arguments

/-- The precision that is asked for, if one is. -/
def wantedPrecision? (items : List Item) : Option Precision :=
  (valueOf? precisionOption.long items).bind fun text => (Precision.parse text).toOption

/-- What is to be loaded: a graph or a path, but not both. -/
def loadAction (graph path : Option String) : Except Refusal Action :=
  match graph, path with
  | some _, some _ => .error .invalid
  | some g, none => .ok (.loadGraph g)
  | none, path => .ok (.loadPath (path.getD ""))

/-- The page of help that is asked for by name; without a name it is that of the program. -/
def parseHelp : List String → Refusal
  | [] => .helpWanted programPage
  | [name] =>
    match actionPage? name with
    | some page => .helpWanted page
    | none => .invalid
  | _ => .invalid

/-- The action of a given name, with its own arguments. -/
def parseAction (name : String) (arguments : List String) : Except Refusal Action := do
  if name = devicesSpec.name then
    let _ ← devicesSpec.items arguments
    return .devices
  else if name = selectSpec.name then
    let items ← selectSpec.items arguments
    return .select (wantedPrecision? items)
  else if name = classifySpec.name then
    let items ← classifySpec.items arguments
    return .classify (← requiredValue graphOption.long items)
  else if name = loadSpec.name then
    let items ← loadSpec.items arguments
    loadAction (valueOf? loadGraphOption.long items) (valueOf? pathOption.long items)
  else if name = querySpec.name then
    let items ← querySpec.items arguments
    return .query (← requiredValue graphOption.long items)
  else if name = metricSpec.name then
    let items ← metricSpec.items arguments
    match items with
    | [.word metric] => return .metric metric
    | _ => throw .invalid
  else if name = helpName then throw (parseHelp arguments)
  else throw .invalid

/-- What a row of arguments asks for, or why it is refused. The action comes first, so that its own
help is heard whatever option is pending before it. -/
def Invocation.parse (arguments : List String) : Except Refusal Invocation := do
  let (found, name, rest) ←
    Scan.leading ⟨generalOptions, programPage⟩ .nothing arguments.length arguments
  let action ← parseAction name rest
  let items := (← found.settle).reverse
  return {
    environment := valueOf? environmentOption.long items
    settings := valuesOf configOption.long items
    verbose := items.contains (.flag verboseOption.long)
    action := action }

end TieredDispatch.CommandLine
