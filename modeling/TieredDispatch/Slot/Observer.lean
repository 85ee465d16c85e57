import TieredDispatch.Slot.Channel

/-!
# Observers of a channel

An observer reads a channel in separate steps, between which the task may act. It reads the last
report; if that is none, it looks whether the task is gone; and if it is, it reads once more, because
the report may have arrived right before the task went.

* `Reading.step`: one read.
* `Waiting.step`: one look of an observer that waits for a report.
* `finish_eq_current`: a reading that nothing interrupts says what the channel says.
-/

namespace TieredDispatch

/-- How far an observer has come. -/
inductive Reading
  | start
  /-- No report was there. -/
  | sawPending
  /-- No report was there, and afterwards the task was gone. -/
  | sawGone
  | done (state : SlotState)
  deriving DecidableEq

namespace Reading

/-- One read of the channel. -/
def step (c : Channel) : Reading → Reading
  | start => if c.latest = .pending then sawPending else done c.latest
  | sawPending => if c.senderAlive then done .pending else sawGone
  | sawGone => done (if c.latest = .pending then .failed lostReason else c.latest)
  | done state => done state

/-- What the observer says, once it is done. -/
def result? : Reading → Option SlotState
  | done state => some state
  | _ => none

/-- A reading that nothing interrupts says what the channel says. -/
theorem finish_eq_current (c : Channel) :
    (((start.step c).step c).step c).result? = some c.current := by
  obtain ⟨latest, alive⟩ := c
  cases latest <;> cases alive <;> simp [step, result?, Channel.current]

end Reading

/-- How far an observer has come that waits for a report. -/
inductive Waiting
  /-- The task may still report. -/
  | blocked
  /-- The task was gone without a report; the channel is read as by any other observer. -/
  | reading (r : Reading)
  | done (state : SlotState)
  deriving DecidableEq

namespace Waiting

/-- One look at the channel: a report ends the wait, and so does a task that is gone. -/
def step (c : Channel) : Waiting → Waiting
  | blocked =>
    if c.latest ≠ .pending then done c.latest
    else if c.senderAlive then blocked
    else reading .start
  | reading r =>
    match r.step c with
    | .done state => done (if state = .pending then .failed lostReason else state)
    | r => reading r
  | done state => done state

/-- What the observer says, once it is done. -/
def result? : Waiting → Option SlotState
  | done state => some state
  | _ => none

end Waiting

end TieredDispatch
