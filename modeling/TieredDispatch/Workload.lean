import TieredDispatch.Slot.Basic

/-!
# Workloads

A load gives a workload: a slot for the processor and one for the accelerator, each of which may be
absent. The accelerator's result is preferred.

* `Workload.readyNow?`: the best model that is there by now.
* `Workload.settle?`: the result once every slot has ended. A failure in one slot never hides a
  success in the other.
-/

namespace TieredDispatch

/-- What a load gives back. -/
structure Workload where
  processor : Option Slot
  accelerator : Option Slot
  /-- Whether performance counters were asked for. -/
  perfCount : Bool
  deriving DecidableEq

namespace Workload

/-- The slots in order of preference. -/
def slots (w : Workload) : List Slot :=
  w.accelerator.toList ++ w.processor.toList

/-- The tasks out of those that a load has started that none of the slots holds. -/
def unplaced (w : Workload) (started : List Slot) : List Slot :=
  w.slots.foldl List.erase started

def slot? (w : Workload) : SlotKind → Option Slot
  | .processor => w.processor
  | .accelerator => w.accelerator

/-- The slot of a kind; an absent slot is not the same as one that failed. -/
def slot (w : Workload) (kind : SlotKind) : Except DispatchError Slot :=
  match w.slot? kind with
  | some s => .ok s
  | none => .error (.slotAbsent kind)

/-- The best model that is there by now. -/
def readyNow? (w : Workload) : Option CompiledModel :=
  w.slots.findSome? Slot.model?

/-- What all slots together come to: the first model, else the failures. -/
def conclude : Option CompiledModel → List SlotFailure → Except DispatchError CompiledModel
  | some model, _ => .ok model
  | none, [] => .error .noCompileTarget
  | none, [f] => .error (.compileFailed f)
  | none, failures => .error (.allSlotsFailed failures)

/-- Collects the results of the slots in order; `none` as soon as one is still to come. -/
def collect (best : Option CompiledModel) (failures : List SlotFailure) :
    List Slot → Option (Except DispatchError CompiledModel)
  | [] => some (conclude best failures)
  | s :: rest =>
    match s.result? with
    | none => none
    | some (.ok model) => collect (best <|> some model) failures rest
    | some (.error f) => collect best (failures ++ [f]) rest

/-- The result of the workload; `none` while a slot is under way. -/
def settle? (w : Workload) : Option (Except DispatchError CompiledModel) :=
  collect none [] w.slots

/-- The workload with a change made to each of its slots. -/
def mapSlots (w : Workload) (f : Slot → Slot) : Workload :=
  { w with processor := w.processor.map f, accelerator := w.accelerator.map f }

/-- Starts the queued tasks at the time `now`; with the services that receive a compile request. -/
def start (w : Workload) (c : Catalog) (now : Nat) : Workload × List Service :=
  (w.mapSlots fun s => (s.start c now).1, w.slots.filterMap fun s => (s.start c now).2)

/-- The workload at the time `now`. -/
def advance (w : Workload) (now : Nat) : Workload :=
  w.mapSlots fun s => s.advance now

/-- The time at which the last of the started tasks reports, `now` at the earliest. -/
def dueAfter (w : Workload) (now : Nat) : Nat :=
  (w.slots.filterMap Slot.due?).foldl max now

end Workload

end TieredDispatch
