/-!
# Metrics

* `MetricValue`: the answer to a metric request, one text or a list of them.
* `MetricValue.display`: how it is printed.
* `MetricName`: the names of the metrics that devices and the dispatcher know.
-/

namespace TieredDispatch

namespace MetricName

def supportedMetrics : String := "SUPPORTED_METRICS"

def fullName : String := "FULL_DEVICE_NAME"

def configKeys : String := "SUPPORTED_CONFIG_KEYS"

def capabilities : String := "OPTIMIZATION_CAPABILITIES"

def availableDevices : String := "AVAILABLE_DEVICES"

end MetricName

/-- The answer to a metric request. -/
inductive MetricValue
  | text (s : String)
  | list (items : List String)
  deriving DecidableEq, Inhabited

namespace MetricValue

def asText? : MetricValue → Option String
  | text s => some s
  | list _ => none

def asList? : MetricValue → Option (List String)
  | text _ => none
  | list items => some items

/-- A text stands for itself; a list stands between brackets. -/
def display : MetricValue → String
  | text s => s
  | list items => "[" ++ ", ".intercalate items ++ "]"

end MetricValue

end TieredDispatch
