import TieredDispatch.Proofs.Workload.Caller

/-!
# Workloads in use

A scene is a workload in use: the channels of its slots, what its tasks have yet to do to them, and the
calls that have been made.  A run is a row of events in any order: a task acts, somebody calls, or a call
takes one look.  So tasks may act between any two reads of a call, and calls may overlap.

* `Scene.Consistent.run`: the channels are those that the tasks bring about.
* `Scene.precede_run`: they only move forward.
* `Scene.since_run`: what a call knows is kept by every run.
* `Scene.answered_of_looks`: a call is answered after so many looks, once nothing that it waits for is
  pending.
-/

namespace TieredDispatch

namespace Scene

/-- What one may ask a workload. -/
inductive Question
  | isReady (place : SlotKind)
  | tryResult (place : SlotKind)
  /-- To wait for a slot, or to block until it has resolved. -/
  | wait (place : SlotKind) (blocking : Bool)
  | settle
  | readyNow
  deriving DecidableEq

inductive Reply
  | ready (resolved : Bool)
  | tried (result : Option (Except SlotFailure CompiledModel))
  | waited (result : Except SlotFailure CompiledModel)
  | settled (result : Except DispatchError CompiledModel)
  | best (model : Option CompiledModel)

/-- A call, with how far it has come. -/
inductive Call
  | isReady (place : SlotKind) (r : Reading)
  | tryResult (place : SlotKind) (r : Reading)
  | wait (place : SlotKind) (blocking : Bool) (x : Waiting)
  | settle (x : Settling)
  | readyNow (x : Polling)

namespace Call

def start : Question → Call
  | .isReady place => isReady place .start
  | .tryResult place => tryResult place .start
  | .wait place blocking => wait place blocking .blocked
  | .settle => settle .start
  | .readyNow => readyNow .start

def question : Call → Question
  | isReady place _ => .isReady place
  | tryResult place _ => .tryResult place
  | wait place blocking _ => .wait place blocking
  | settle _ => .settle
  | readyNow _ => .readyNow

def step (w : Workload) (c : Channels) : Call → Call
  | isReady place r => isReady place (r.step (c place))
  | tryResult place r => tryResult place (r.step (c place))
  | wait place blocking x => wait place blocking (x.step (c place))
  | settle x => settle (x.step w c)
  | readyNow x => readyNow (x.step w c)

/-- What the caller gets to know once the call has ended.  Only a slot that exists can be asked. -/
def reply? (w : Workload) : Call → Option Reply
  | isReady place r => (w.slot? place).bind fun _ =>
    r.result?.map fun state => .ready (decide (state ≠ .pending))
  | tryResult place r => (w.slot? place).bind fun slot =>
    r.result?.map fun state => .tried (slot.finish state)
  | wait place _ x => (w.slot? place).bind fun slot =>
    x.result?.map fun state => .waited (slot.waited state)
  | settle x => x.result?.map .settled
  | readyNow x => x.result?.map .best

end Call

/-- What may happen to a workload in use. -/
inductive Event
  /-- A task does what it has to do next. -/
  | act (place : SlotKind)
  | call (q : Question)
  /-- The call that was made as the one with this number takes a look. -/
  | look (index : Nat)
  deriving DecidableEq

end Scene

structure Scene where
  channels : Channels
  /-- What each task has yet to do. -/
  todo : SlotKind → List SenderStep
  /-- The calls in the order in which they were made. -/
  calls : List Scene.Call

namespace Scene

variable {w : Workload} {outcome : SlotKind → CompileOutcome} {s : Scene} {c d : Channels}

/-- A workload whose tasks have done nothing yet, with the outcomes of their compiles. -/
def initial (outcome : SlotKind → CompileOutcome) : Scene :=
  ⟨fun _ => .fresh, fun place => (outcome place).steps, []⟩

/-- A task does what it has to do next, if anything. -/
def act (s : Scene) (place : SlotKind) : Scene :=
  match s.todo place with
  | [] => s
  | step :: rest =>
    { s with
      channels := fun p => if p = place then (s.channels p).after step else s.channels p
      todo := fun p => if p = place then rest else s.todo p }

def step (w : Workload) (s : Scene) : Event → Scene
  | .act place => s.act place
  | .call q => { s with calls := s.calls ++ [.start q] }
  | .look index => { s with calls := s.calls.modify index (Call.step w s.channels) }

def run (w : Workload) (s : Scene) (events : List Event) : Scene :=
  events.foldl (step w) s

theorem run_cons (w : Workload) (s : Scene) (e : Event) (events : List Event) :
    s.run w (e :: events) = (s.step w e).run w events := rfl

theorem run_append (w : Workload) (s : Scene) (events later : List Event) :
    s.run w (events ++ later) = (s.run w events).run w later :=
  List.foldl_append

/-- What the call with the given number was answered, if it has been. -/
def reply? (w : Workload) (s : Scene) (index : Nat) : Option Reply :=
  s.calls[index]?.bind (Call.reply? w)

/-- Whether a question that is asked now has been answered with `r` after the given events. -/
def Answers (w : Workload) (s : Scene) (q : Question) (events : List Event) (r : Reply) : Prop :=
  (s.run w (.call q :: events)).reply? w s.calls.length = some r

def Resolved (w : Workload) (s : Scene) : Prop :=
  ∀ x ∈ (w.withChannels s.channels).slots, x.isReady = true

/-! ## Channels -/

def Consistent (outcome : SlotKind → CompileOutcome) (s : Scene) : Prop :=
  ∀ place, (s.channels place).Reached (outcome place) (s.todo place)

theorem consistent_initial (outcome : SlotKind → CompileOutcome) :
    (initial outcome).Consistent outcome := fun _ => .start

theorem Consistent.step (h : s.Consistent outcome) (w : Workload) (e : Event) :
    (s.step w e).Consistent outcome := by
  cases e with
  | call q => exact h
  | look index => exact h
  | act place =>
    simp only [Scene.step, act]
    split
    · exact h
    · next step rest hTodo =>
      intro other
      by_cases hOther : other = place
      · have hPlace := h place
        rw [hTodo] at hPlace
        simp only [hOther, if_true]
        exact hPlace.next
      · simp only [hOther, if_false]
        exact h other

theorem Consistent.run (h : s.Consistent outcome) (w : Workload) (events : List Event) :
    (s.run w events).Consistent outcome := by
  induction events generalizing s with
  | nil => exact h
  | cons e events ih => exact ih (h.step w e)

theorem Consistent.current (h : s.Consistent outcome) (place : SlotKind) :
    (s.channels place).current = .pending ∨ (s.channels place).current = (outcome place).state :=
  (h place).current

theorem Consistent.precede_step (h : s.Consistent outcome) (w : Workload) (e : Event) :
    s.channels.Precede (s.step w e).channels := by
  intro other
  cases e with
  | call q => exact .refl _
  | look index => exact .refl _
  | act place =>
    simp only [Scene.step, act]
    split
    · exact .refl _
    · next step rest hTodo =>
      by_cases hOther : other = place
      · have hPlace := h place
        rw [hTodo] at hPlace
        simp only [hOther, if_true]
        exact hPlace.precedes_after
      · simp only [hOther, if_false]
        exact .refl _

theorem Consistent.precede_run (h : s.Consistent outcome) (w : Workload) (events : List Event) :
    s.channels.Precede (s.run w events).channels := by
  induction events generalizing s with
  | nil => exact fun _ => .refl _
  | cons e events ih =>
    exact fun place => (h.precede_step w e place).trans (ih (h.step w e) place)

/-! ## Calls -/

namespace Call

variable {call : Call}

@[simp] theorem question_start (q : Question) : (start q).question = q := by
  cases q <;> rfl

@[simp] theorem question_step (w : Workload) (c : Channels) (call : Call) :
    (call.step w c).question = call.question := by
  cases call <;> rfl

/-- What a call knows that was made when the channels were `c` and has come as far as `call` now that they
are `d`. -/
def Since (w : Workload) (outcome : SlotKind → CompileOutcome) (c d : Channels) : Call → Prop
  | isReady place r => r.Since (c place) (d place)
  | tryResult place r => r.Since (c place) (d place)
  | wait place _ x => x.Sound (d place)
  | settle x => x.Sound w outcome d
  | readyNow x => x.Since w c d

theorem since_start (w : Workload) (outcome : SlotKind → CompileOutcome) (c d : Channels)
    (q : Question) : (start q).Since w outcome c d := by
  cases q with
  | isReady place => trivial
  | tryResult place => trivial
  | wait place blocking => trivial
  | settle => exact Settling.sound_start w outcome d
  | readyNow => exact Polling.since_start w c d

theorem Since.step (h : call.Since w outcome c d) (hOrder : c.Precede d)
    (hCurrent : ∀ place, (d place).current = .pending ∨ (d place).current = (outcome place).state) :
    (call.step w d).Since w outcome c d := by
  cases call with
  | isReady place r => exact Reading.Since.step h (hOrder place)
  | tryResult place r => exact Reading.Since.step h (hOrder place)
  | wait place blocking x => exact Waiting.Sound.step h
  | settle x => exact Settling.Sound.step h hCurrent
  | readyNow x => exact Polling.Since.step h hOrder

theorem Since.mono {e : Channels} (h : call.Since w outcome c d) (hOrder : d.Precede e) :
    call.Since w outcome c e := by
  cases call with
  | isReady place r => exact Reading.Since.mono h (hOrder place)
  | tryResult place r => exact Reading.Since.mono h (hOrder place)
  | wait place blocking x => exact Waiting.Sound.mono h (hOrder place)
  | settle x => exact Settling.Sound.mono h hOrder
  | readyNow x => exact Polling.Since.mono h hOrder

end Call

theorem getElem?_calls_step {index : Nat} {call : Call} (h : s.calls[index]? = some call) (w : Workload)
    (e : Event) :
    (s.step w e).calls[index]? =
      some (if e = .look index then call.step w s.channels else call) := by
  cases e with
  | act place =>
    simp only [step, act]
    split <;> simp [h]
  | call q =>
    have hIndex := (List.getElem?_eq_some_iff.mp h).1
    simp [step, List.getElem?_append_left hIndex, h]
  | look other =>
    simp only [step, List.getElem?_modify, h]
    by_cases hOther : other = index <;> simp [hOther]

/-- A call that was made when the channels were `c` keeps its number, its question and what it knows. -/
theorem since_run {index : Nat} {call : Call} (hConsistent : s.Consistent outcome)
    (hOrder : c.Precede s.channels) (hCall : s.calls[index]? = some call)
    (hSince : call.Since w outcome c s.channels) (events : List Event) :
    ∃ later, (s.run w events).calls[index]? = some later ∧ later.question = call.question ∧
      later.Since w outcome c (s.run w events).channels := by
  induction events generalizing s call with
  | nil => exact ⟨call, hCall, rfl, hSince⟩
  | cons e events ih =>
    have hNext := getElem?_calls_step hCall w e
    have hMoved := hConsistent.precede_step w e
    have hStep := hSince.step hOrder hConsistent.current
    obtain ⟨later, hLater, hQuestion, hKnown⟩ := ih (hConsistent.step w e)
      (fun place => (hOrder place).trans (hMoved place)) hNext
      (by split
          · exact hStep.mono hMoved
          · exact hSince.mono hMoved)
    refine ⟨later, hLater, hQuestion.trans ?_, hKnown⟩
    split
    · exact Call.question_step w s.channels call
    · rfl

/-- A question that was answered was asked by a call, which knows what it answers. -/
theorem Answers.call {q : Question} {events : List Event} {r : Reply}
    (h : s.Answers w q events r) (hConsistent : s.Consistent outcome) :
    ∃ call : Call, call.question = q ∧ call.reply? w = some r ∧
      call.Since w outcome s.channels (s.run w (.call q :: events)).channels := by
  have hAsked : (s.step w (.call q)).calls[s.calls.length]? = some (.start q) :=
    List.getElem?_concat_length
  obtain ⟨call, hCall, hQuestion, hSince⟩ := since_run (hConsistent.step w (.call q))
    (hConsistent.precede_step w (.call q)) hAsked (Call.since_start w outcome _ _ q) events
  refine ⟨call, hQuestion.trans (Call.question_start q), ?_, hSince⟩
  rw [Answers, reply?, run_cons, hCall, Option.bind_some] at h
  exact h

/-! ## Looks -/

/-- Whether nothing is pending that a question waits for. -/
def Question.Open (w : Workload) (c : Channels) : Question → Prop
  | .isReady _ => True
  | .tryResult _ => True
  | .wait place _ => (c place).current ≠ .pending
  | .settle => ∀ place, w.slot? place ≠ none → (c place).current ≠ .pending
  | .readyNow => True

/-- How many looks a question takes at most. -/
def Question.looks : Question → Nat
  | .isReady _ => 3
  | .tryResult _ => 3
  | .wait _ _ => 4
  | .settle => 8
  | .readyNow => 6

def Question.Answerable (w : Workload) : Question → Prop
  | .isReady place => w.slot? place ≠ none
  | .tryResult place => w.slot? place ≠ none
  | .wait place _ => w.slot? place ≠ none
  | .settle => True
  | .readyNow => True

theorem Question.Open.mono {q : Question} (h : q.Open w c) (hOrder : c.Precede d) : q.Open w d := by
  have hPlace : ∀ place, (c place).current ≠ .pending → (d place).current ≠ .pending :=
    fun place hc => by rw [(hOrder place).current hc]; exact hc
  cases q with
  | isReady place => trivial
  | tryResult place => trivial
  | wait place blocking => exact hPlace place h
  | settle => exact fun place hSlot => hPlace place (h place hSlot)
  | readyNow => trivial

namespace Call

variable {call : Call}

def left : Call → Nat
  | isReady _ r => r.left
  | tryResult _ r => r.left
  | wait _ _ x => x.left
  | settle x => x.left
  | readyNow x => x.left

theorem left_start (q : Question) : (start q).left = q.looks := by
  cases q <;> rfl

theorem left_step (h : call.question.Open w c) : (call.step w c).left ≤ call.left - 1 := by
  cases call with
  | isReady place r => exact r.left_step (c place)
  | tryResult place r => exact r.left_step (c place)
  | wait place blocking x => exact x.left_step h
  | settle x => exact x.left_step h
  | readyNow x => exact x.left_step c

theorem left_step_le (w : Workload) (c : Channels) (call : Call) : (call.step w c).left ≤ call.left := by
  cases call with
  | isReady place r => exact Nat.le_trans (r.left_step (c place)) (Nat.sub_le _ _)
  | tryResult place r => exact Nat.le_trans (r.left_step (c place)) (Nat.sub_le _ _)
  | wait place blocking x => exact x.left_step_le (c place)
  | settle x => exact x.left_step_le w c
  | readyNow x => exact Nat.le_trans (x.left_step c) (Nat.sub_le _ _)

theorem reply?_isSome (hZero : call.left = 0) (hSlot : call.question.Answerable w) :
    (call.reply? w).isSome := by
  cases call with
  | isReady place r =>
    obtain ⟨slot, hSlot⟩ := Option.ne_none_iff_exists'.mp hSlot
    simpa [reply?, hSlot] using Reading.left_eq_zero.mp hZero
  | tryResult place r =>
    obtain ⟨slot, hSlot⟩ := Option.ne_none_iff_exists'.mp hSlot
    simpa [reply?, hSlot] using Reading.left_eq_zero.mp hZero
  | wait place blocking x =>
    obtain ⟨slot, hSlot⟩ := Option.ne_none_iff_exists'.mp hSlot
    simpa [reply?, hSlot] using Waiting.left_eq_zero.mp hZero
  | settle x => simpa [reply?] using Settling.left_eq_zero.mp hZero
  | readyNow x => simpa [reply?] using Polling.left_eq_zero.mp hZero

end Call

/-- Every look brings a call nearer to its end, once nothing that it waits for is pending. -/
theorem left_run {index : Nat} {call : Call} (hConsistent : s.Consistent outcome)
    (hCall : s.calls[index]? = some call) (events : List Event) :
    ∃ later, (s.run w events).calls[index]? = some later ∧ later.question = call.question ∧
      later.left ≤ call.left ∧
      (call.question.Open w s.channels → later.left ≤ call.left - events.count (.look index)) := by
  induction events generalizing s call with
  | nil => exact ⟨call, hCall, rfl, Nat.le_refl _, fun _ => by simp⟩
  | cons e events ih =>
    have hNext := getElem?_calls_step hCall w e
    have hMoved := hConsistent.precede_step w e
    obtain ⟨later, hLater, hQuestion, hLeft, hLooks⟩ := ih (hConsistent.step w e) hNext
    refine ⟨later, hLater, ?_⟩
    by_cases hLook : e = .look index
    · rw [if_pos hLook] at hQuestion hLeft hLooks
      rw [Call.question_step] at hQuestion hLooks
      refine ⟨hQuestion, Nat.le_trans hLeft (call.left_step_le w s.channels), fun hOpen => ?_⟩
      have hStep := Call.left_step hOpen
      have hRest := hLooks (hOpen.mono hMoved)
      rw [hLook, List.count_cons_self]
      omega
    · rw [if_neg hLook] at hQuestion hLeft hLooks
      refine ⟨hQuestion, hLeft, fun hOpen => ?_⟩
      rw [List.count_cons_of_ne hLook]
      exact hLooks (hOpen.mono hMoved)

/-- A question is answered after so many looks, once nothing that it waits for is pending. -/
theorem answered_of_looks {q : Question} (hConsistent : s.Consistent outcome) (hSlot : q.Answerable w)
    {events later : List Event} (hOpen : q.Open w (s.run w (.call q :: events)).channels)
    (hLooks : q.looks ≤ later.count (.look s.calls.length)) :
    ∃ r, s.Answers w q (events ++ later) r := by
  have hAsked : (s.step w (.call q)).calls[s.calls.length]? = some (.start q) :=
    List.getElem?_concat_length
  obtain ⟨call, hCall, hQuestion, hLeft, -⟩ :=
    left_run (w := w) (hConsistent.step w (.call q)) hAsked events
  rw [Call.question_start] at hQuestion
  rw [Call.left_start] at hLeft
  obtain ⟨last, hLast, hSame, -, hEnd⟩ :=
    left_run (w := w) (hConsistent.run w (.call q :: events)) hCall later
  have hZero : last.left = 0 := by
    have hCount := hEnd (hQuestion ▸ hOpen)
    omega
  obtain ⟨r, hReply⟩ := Option.isSome_iff_exists.mp
    (Call.reply?_isSome hZero ((hSame.trans hQuestion) ▸ hSlot))
  refine ⟨r, ?_⟩
  rw [Answers, ← List.cons_append, run_append, reply?, hLast, Option.bind_some, hReply]

/-! ## Slots that have resolved -/

theorem resolved_iff :
    s.Resolved w ↔ ∀ place, w.slot? place ≠ none → (s.channels place).current ≠ .pending := by
  simp only [Resolved, Workload.mem_slots_iff, Workload.slot?_withChannels]
  constructor
  · intro h place hSlot
    obtain ⟨slot, hSlot⟩ := Option.ne_none_iff_exists'.mp hSlot
    simpa [Slot.isReady] using h _ ⟨place, by rw [hSlot, Option.map_some]⟩
  · rintro h _ ⟨place, hPlace⟩
    obtain ⟨slot, hSlot, rfl⟩ := Option.map_eq_some_iff.mp hPlace
    simpa [Slot.isReady] using h place (by simp [hSlot])

theorem current_of_act (hConsistent : s.Consistent outcome) {events : List Event} {place : SlotKind}
    (h : .act place ∈ events) : ((s.run w events).channels place).current ≠ .pending := by
  induction events generalizing s with
  | nil => cases h
  | cons e events ih =>
    rcases List.mem_cons.mp h with rfl | hLater
    · have hActed : ((s.act place).channels place).current ≠ .pending := by
        have hPlace := hConsistent place
        rw [act]
        split
        · next hTodo =>
          rw [hTodo] at hPlace
          exact hPlace.current_ended
        · next step rest hTodo =>
          rw [hTodo] at hPlace
          simp only [if_true]
          exact hPlace.current_after
      have hOrder := (hConsistent.step w (.act place)).precede_run w events place
      rw [run_cons, hOrder.current hActed]
      exact hActed
    · exact ih (hConsistent.step w e) hLater

/-- Once its task has acted a slot has resolved, be that before or after a question is asked. -/
theorem current_of_asked (hConsistent : s.Consistent outcome) {before events : List Event}
    {place : SlotKind} (h : .act place ∈ before ++ events) (q : Question) :
    (((s.run w before).run w (.call q :: events)).channels place).current ≠ .pending := by
  rw [← run_append]
  refine current_of_act hConsistent ?_
  rcases List.mem_append.mp h with hBefore | hEvents
  · exact List.mem_append_left _ hBefore
  · exact List.mem_append_right _ (List.mem_cons_of_mem _ hEvents)

end Scene

/-! ## A pair of slots -/

/-- A workload with a slot in either place. -/
def Workload.pair : Workload :=
  ⟨some (.spawn .processor ⟨"CPU"⟩ (.path "m.xml")),
    some (.spawn .accelerator ⟨"GPU.0"⟩ (.path "m.xml")), false⟩

namespace Scene

/-- Outcomes of which the better one comes from the accelerator: the processor's compile succeeds as well. -/
def overtaken : SlotKind → CompileOutcome
  | .processor => .compiled ⟨⟨"CPU"⟩, "m"⟩
  | .accelerator => .compiled ⟨⟨"GPU.0"⟩, "m"⟩

/-- Outcomes without a model: the accelerator refuses, and the task of the processor dies. -/
def fruitless : SlotKind → CompileOutcome
  | .processor => .lost
  | .accelerator => .refused (.unavailable ⟨"GPU.0"⟩)

end Scene

end TieredDispatch
