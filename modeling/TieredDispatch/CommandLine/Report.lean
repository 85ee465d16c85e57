import TieredDispatch.Environment

/-!
# Error reports

A run that fails ends with one line that gives the error in structured form: its name, and the parts
of it as quoted texts.

* `RunError`: why a run fails.
* `RunError.report`: the structured form.
-/

namespace TieredDispatch.CommandLine

/-- A name with one part in parentheses. -/
def tagged (name part : String) : String :=
  name ++ "(" ++ part ++ ")"

/-- A name with labelled parts in braces. -/
def labelled (name : String) (parts : List (String × String)) : String :=
  name ++ " \x7b " ++ ", ".intercalate (parts.map fun part => part.1 ++ ": " ++ part.2) ++ " \x7d"

def reportDevice (d : DeviceId) : String :=
  tagged "DeviceId" (Text.quote d.text)

def reportInput : InputError → String
  | .unsupportedKey key => tagged "UnsupportedKey" (Text.quote key)
  | .unsupportedValue key value =>
    labelled "UnsupportedValue" [("key", Text.quote key), ("value", Text.quote value)]
  | .invalidDeviceId text => tagged "InvalidDeviceId" (Text.quote text)
  | .unknownPrecision tag => tagged "UnknownPrecision" (Text.quote tag)
  | .malformedPair pair => tagged "MalformedPair" (Text.quote pair)

def reportDeviceError : DeviceError → String
  | .unavailable d => tagged "Unavailable" (reportDevice d)
  | .unsupportedMetric d metric =>
    labelled "UnsupportedMetric" [("device", reportDevice d), ("metric", Text.quote metric)]
  | .unexpectedMetricType d metric =>
    labelled "UnexpectedMetricType" [("device", reportDevice d), ("metric", Text.quote metric)]
  | .queryFailed d reason =>
    labelled "QueryFailed" [("device", reportDevice d), ("reason", Text.quote reason)]
  | .compileFailed d reason =>
    labelled "CompileFailed" [("device", reportDevice d), ("reason", Text.quote reason)]

def reportSelection : SelectError → String
  | .notFound reason => tagged "NotFound" (Text.quote reason)
  | .noEligibleDevice => "NoEligibleDevice"

def reportKind : SlotKind → String
  | .processor => "Processor"
  | .accelerator => "Accelerator"

def reportFailure (name : String) (f : SlotFailure) : String :=
  labelled name
    [("slot", reportKind f.slot), ("device", reportDevice f.device), ("reason", Text.quote f.reason)]

def reportDispatch : DispatchError → String
  | .config e => tagged "Config" (reportInput e)
  | .notConfigured => "NotConfigured"
  | .unsupportedInput reason => tagged "UnsupportedInput" (Text.quote reason)
  | .noDevicesAvailable => "NoDevicesAvailable"
  | .selection e => tagged "Selection" (reportSelection e)
  | .unsupportedMetric name => tagged "UnsupportedMetric" (Text.quote name)
  | .noCompileTarget => "NoCompileTarget"
  | .slotAbsent kind => tagged "SlotAbsent" (reportKind kind)
  | .compileFailed f => reportFailure "CompileFailed" f
  | .allSlotsFailed failures =>
    labelled "AllSlotsFailed"
      [("failures", "[" ++ ", ".intercalate (failures.map (reportFailure "SlotFailure")) ++ "]")]
  | .device e => tagged "Device" (reportDeviceError e)

def reportEnvironment : EnvironmentError → String
  | .unreadable => "Parse"
  | .duplicateFamily family => tagged "DuplicateFamily" (Text.quote family)
  | .device e => tagged "Device" (reportInput e)

/-- Why a run fails. -/
inductive RunError
  /-- The environment file cannot be read. -/
  | environmentFile
  | environment (e : EnvironmentError)
  /-- The graph file cannot be read. -/
  | graphFile
  /-- The graph file does not describe a graph. -/
  | graph
  | input (e : InputError)
  | dispatch (e : DispatchError)
  deriving DecidableEq

/-- The error in structured form. -/
def RunError.report : RunError → String
  | environmentFile => "Io"
  | environment e => reportEnvironment e
  | graphFile => "Os"
  | graph => "Serialization"
  | input e => reportInput e
  | dispatch e => reportDispatch e

end TieredDispatch.CommandLine
