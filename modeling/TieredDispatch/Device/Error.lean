import TieredDispatch.Device.Id

/-!
# Failures of one device

* `DeviceError`: why a device did not answer.
* `DeviceError.message`: how that is told.
-/

namespace TieredDispatch

/-- Why a device did not answer. -/
inductive DeviceError
  /-- No service is registered for the device. -/
  | unavailable (device : DeviceId)
  /-- The device does not know the metric. -/
  | unsupportedMetric (device : DeviceId) (metric : String)
  /-- The metric is a list where a text is wanted, or a text where a list is. -/
  | unexpectedMetricType (device : DeviceId) (metric : String)
  | queryFailed (device : DeviceId) (reason : String)
  | compileFailed (device : DeviceId) (reason : String)
  deriving DecidableEq

def DeviceError.message : DeviceError → String
  | unavailable d => "device unavailable: " ++ d.text
  | unsupportedMetric d metric => "unsupported metric " ++ metric ++ " on " ++ d.text
  | unexpectedMetricType d metric => "metric " ++ metric ++ " on " ++ d.text ++ " has unexpected type"
  | queryFailed d reason => "query failed on " ++ d.text ++ ": " ++ reason
  | compileFailed d reason => "compile failed on " ++ d.text ++ ": " ++ reason

end TieredDispatch
