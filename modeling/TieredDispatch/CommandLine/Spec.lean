import TieredDispatch.Precision

/-!
# What the program understands

* `OptionSpec`, `ActionSpec`: an option and an action that are known.
* `generalOptions`, `actionSpecs`: those of the program.
-/

namespace TieredDispatch.CommandLine

/-- An option that is known. -/
structure OptionSpec where
  long : String
  short : Option Char
  /-- What the value stands for; a flag takes none. -/
  valueName : Option String
  /-- Whether a value is accepted at all. -/
  accepts : String → Bool
  repeatable : Bool
  required : Bool
  about : String

def OptionSpec.takesValue (o : OptionSpec) : Bool :=
  o.valueName.isSome

/-- An action that is known. -/
structure ActionSpec where
  name : String
  about : String
  options : List OptionSpec
  /-- What the words after the name stand for; each of them has to be there. -/
  words : List String

/-- Any text is accepted. -/
def anyText (_ : String) : Bool := true

/-- A path must not be empty. -/
def isPath (text : String) : Bool := !text.isEmpty

def isPrecision (text : String) : Bool := (Precision.parse text).isOk

def programName : String := "cortex-auto"

def programAbout : String := "CortexOS AUTO device - pick an accelerator and compile on it"

def environmentOption : OptionSpec where
  long := "env"
  short := some 'e'
  valueName := some "ENV"
  accepts := isPath
  repeatable := false
  required := false
  about := "Device environment file (JSON)"

def configOption : OptionSpec where
  long := "config"
  short := some 'c'
  valueName := some "KEY=VALUE"
  accepts := anyText
  repeatable := true
  required := false
  about := "Per-request setting, repeatable: --config AUTO_DEVICE_LIST=CPU,GPU.0"

def verboseOption : OptionSpec where
  long := "verbose"
  short := some 'v'
  valueName := none
  accepts := anyText
  repeatable := false
  required := false
  about := "Debug-level logging"

/-- The options that stand before the action. -/
def generalOptions : List OptionSpec :=
  [environmentOption, configOption, verboseOption]

def precisionOption : OptionSpec where
  long := "precision"
  short := none
  valueName := some "PRECISION"
  accepts := isPrecision
  repeatable := false
  required := false
  about := "FP32, FP16 or INT8; omit for an unconstrained pick"

/-- The graph file of an action that cannot do without it. -/
def graphOption : OptionSpec where
  long := "graph"
  short := some 'g'
  valueName := some "GRAPH"
  accepts := isPath
  repeatable := false
  required := true
  about := ""

/-- The graph file of a load. -/
def loadGraphOption : OptionSpec :=
  { graphOption with required := false, about := "Graph description (JSON)" }

def pathOption : OptionSpec where
  long := "path"
  short := some 'p'
  valueName := some "PATH"
  accepts := isPath
  repeatable := false
  required := false
  about := "Model file, compiled by path without inspecting it"

def devicesSpec : ActionSpec :=
  ⟨"devices", "List available devices with their tier and capabilities", [], []⟩

def selectSpec : ActionSpec :=
  ⟨"select", "Choose a device without compiling anything", [precisionOption], []⟩

def classifySpec : ActionSpec :=
  ⟨"classify", "Classify a graph's dominant precision", [graphOption], []⟩

def loadSpec : ActionSpec :=
  ⟨"load", "Dispatch a model and wait for the compile slots", [loadGraphOption, pathOption], []⟩

def querySpec : ActionSpec :=
  ⟨"query", "Operations of a graph the device pool supports", [graphOption], []⟩

def metricSpec : ActionSpec :=
  ⟨"metric", "Read a dispatcher metric", [], ["NAME"]⟩

/-- The actions, in the order in which they are told. -/
def actionSpecs : List ActionSpec :=
  [devicesSpec, selectSpec, classifySpec, loadSpec, querySpec, metricSpec]

end TieredDispatch.CommandLine
