import TieredDispatch.Device.Service

/-!
# The channel of a compile slot

A compile task reports to its slot through a channel that keeps the last report only. The task sends
at most one report and then drops its end of the channel; a task that dies drops it without a report.

* `Channel.current`: what the channel says at one moment.
* `CompileOutcome.steps`: what a task does to its channel when its compile ends.
-/

namespace TieredDispatch

/-- The reason with which a slot fails whose task died without a report. -/
def lostReason : String := "compile task ended without a result"

/-- What a compile slot knows of its compile. -/
inductive SlotState
  | pending
  | ready (model : CompiledModel)
  | failed (reason : String)
  deriving DecidableEq

/-- The last report, and whether another one may follow. -/
structure Channel where
  latest : SlotState
  /-- Whether the task still holds its end of the channel. -/
  senderAlive : Bool
  deriving DecidableEq

/-- What a task does to its channel. -/
inductive SenderStep
  | send (state : SlotState)
  | drop
  deriving DecidableEq

namespace Channel

/-- The channel of a task that has not reported yet. -/
def fresh : Channel := ⟨.pending, true⟩

def after (c : Channel) : SenderStep → Channel
  | .send state => { c with latest := state }
  | .drop => { c with senderAlive := false }

/-- The state after several steps. -/
def afterAll (c : Channel) (steps : List SenderStep) : Channel :=
  steps.foldl after c

/-- What the channel says at one moment: a task that is gone without a report has failed. -/
def current (c : Channel) : SlotState :=
  if c.latest = .pending ∧ c.senderAlive = false then .failed lostReason else c.latest

end Channel

/-- What a slot knows once the compile has ended. -/
def CompileOutcome.state : CompileOutcome → SlotState
  | compiled model => .ready model
  | refused e => .failed e.message
  | lost => .failed lostReason

/-- What a task does to its channel when its compile ends: it sends one report, unless it died, and
drops its end. -/
def CompileOutcome.steps : CompileOutcome → List SenderStep
  | compiled model => [.send (.ready model), .drop]
  | refused e => [.send (.failed e.message), .drop]
  | lost => [.drop]

/-- After all steps of a task the channel says what came of the compile. -/
theorem current_afterAll_steps (o : CompileOutcome) :
    (Channel.fresh.afterAll o.steps).current = o.state := by
  cases o <;> simp [Channel.afterAll, CompileOutcome.steps, Channel.after, Channel.fresh,
    Channel.current, CompileOutcome.state]

end TieredDispatch
