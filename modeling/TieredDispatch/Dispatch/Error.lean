import TieredDispatch.Device.Error

/-!
# Failures of a request

* `SelectError`: why no device was chosen.
* `SlotKind`, `SlotFailure`: which compile task failed, where and why.
* `DispatchError`: why the dispatcher refused a request, or why all of its compile tasks failed.
* `DispatchError.message`: how that is told.
-/

namespace TieredDispatch

/-- Why no device was chosen. -/
inductive SelectError
  /-- There was no device to choose from. -/
  | notFound (reason : String)
  /-- There were devices, but none that may serve the request. -/
  | noEligibleDevice
  deriving DecidableEq

def SelectError.message : SelectError → String
  | notFound reason => "not found: " ++ reason
  | noEligibleDevice => "cannot select any device"

/-- The two places where a load compiles. -/
inductive SlotKind
  | processor
  | accelerator
  deriving DecidableEq

def SlotKind.label : SlotKind → String
  | processor => "processor"
  | accelerator => "accelerator"

/-- A compile task that failed. -/
structure SlotFailure where
  slot : SlotKind
  device : DeviceId
  reason : String
  deriving DecidableEq

def SlotFailure.message (f : SlotFailure) : String :=
  f.slot.label ++ " slot on " ++ f.device.text ++ ": " ++ f.reason

/-- Why a request to the dispatcher failed. -/
inductive DispatchError
  /-- A setting was refused before any device was asked. -/
  | config (e : InputError)
  /-- The dispatcher has no device catalog. -/
  | notConfigured
  /-- There is nothing to compile or to query. -/
  | unsupportedInput (reason : String)
  | noDevicesAvailable
  | selection (e : SelectError)
  | unsupportedMetric (name : String)
  /-- No compile task was started. -/
  | noCompileTarget
  | slotAbsent (kind : SlotKind)
  | compileFailed (failure : SlotFailure)
  /-- Every compile task failed; the failures in the order in which their slots are preferred. -/
  | allSlotsFailed (failures : List SlotFailure)
  | device (e : DeviceError)
  deriving DecidableEq

def DispatchError.message : DispatchError → String
  | config e => "configuration error: " ++ e.message
  | notConfigured => "Please, work with AUTO device via a device catalog"
  | unsupportedInput reason => "unsupported input: " ++ reason
  | noDevicesAvailable => "Please, check environment due to no supported devices can be used"
  | selection e => "selection failed: " ++ e.message
  | unsupportedMetric name => "Unsupported metric key " ++ name
  | noCompileTarget => "no compile target for the selected devices"
  | slotAbsent kind => kind.label ++ " slot does not exist"
  | compileFailed f =>
    "compile failed in " ++ f.slot.label ++ " slot on " ++ f.device.text ++ ": " ++ f.reason
  | allSlotsFailed failures =>
    "all compile slots failed: " ++ "; ".intercalate (failures.map SlotFailure.message)
  | device e => "device error: " ++ e.message

end TieredDispatch
