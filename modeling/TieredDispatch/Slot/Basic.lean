import TieredDispatch.Catalog
import TieredDispatch.Slot.Channel

/-!
# Compile slots

A slot holds the compile of one device: the task that runs it, and the channel to which it reports.

* `Slot.spawn`: a slot whose task waits to be started.
* `Slot.start`: the task looks its service up and asks it for the compile.
* `Slot.advance`: the task reports, once the compile has had its time.
* `Slot.result?`: what came of the compile, if that is known.
-/

namespace TieredDispatch

/-- The compile task of a slot. -/
inductive Task
  /-- Not started: no service has been asked. -/
  | queued (model : ModelSource) (config : Config)
  /-- Under way; the outcome is reported at the time `due`. -/
  | running (due : Nat) (outcome : CompileOutcome)
  | ended
  deriving DecidableEq

/-- One compile of a load, under way or done. -/
structure Slot where
  kind : SlotKind
  device : DeviceId
  channel : Channel
  task : Task
  deriving DecidableEq

namespace Slot

/-- A slot whose task is queued. A compile is asked for without any settings. -/
def spawn (kind : SlotKind) (device : DeviceId) (model : ModelSource) : Slot :=
  ⟨kind, device, .fresh, .queued model .empty⟩

/-- Starts a queued task at the time `now`; the service, if any, receives one compile request. -/
def start (s : Slot) (c : Catalog) (now : Nat) : Slot × Option Service :=
  match s.task with
  | .queued model config =>
    let (service, run) := c.compile s.device model config
    ({ s with task := .running (now + run.latency) run.outcome }, service)
  | _ => (s, none)

/-- The slot at the time `now`: a task that is due has reported. -/
def advance (s : Slot) (now : Nat) : Slot :=
  match s.task with
  | .running due outcome =>
    if due ≤ now then { s with channel := s.channel.afterAll outcome.steps, task := .ended } else s
  | _ => s

/-- The time at which a started task reports. -/
def due? (s : Slot) : Option Nat :=
  match s.task with
  | .running due _ => some due
  | _ => none

/-- The failure of this slot for a reason. -/
def failure (s : Slot) (reason : String) : SlotFailure := ⟨s.kind, s.device, reason⟩

/-- What a state of this slot means to an observer; `none` while the compile is under way. -/
def finish (s : Slot) : SlotState → Option (Except SlotFailure CompiledModel)
  | .pending => none
  | .ready model => some (.ok model)
  | .failed reason => some (.error (s.failure reason))

/-- What came of the compile, if that is known. -/
def result? (s : Slot) : Option (Except SlotFailure CompiledModel) :=
  s.finish s.channel.current

/-- Whether the compile has ended, well or not. -/
def isReady (s : Slot) : Bool :=
  decide (s.channel.current ≠ .pending)

/-- The compiled model, if there is one by now. -/
def model? (s : Slot) : Option CompiledModel :=
  match s.result? with
  | some (.ok model) => some model
  | _ => none

end Slot

end TieredDispatch
