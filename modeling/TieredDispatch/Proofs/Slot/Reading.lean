import TieredDispatch.Slot.Observer

/-!
# Readings of a channel in use

Between the reads of an observer the task may act on its channel.  A channel only moves forward, and what
an observer says was the channel's state at some moment between the first read and the last.

* `Channel.Precedes`: a channel may become another one; a report stays, and nothing follows the end.
* `Channel.Reached`: the channels that a task brings about, with what it has yet to do.
* `Reading.Since.step`, `Reading.Since.mono`: what a reading knows is kept by its reads and by the task.
* `Waiting.Sound.step`, `Waiting.Sound.mono`: so is what one knows who waits.
-/

namespace TieredDispatch

/-! ## Channels -/

namespace Channel

variable {c d e : Channel} {o : CompileOutcome} {todo : List SenderStep} {step : SenderStep}

/-- Whether a channel may have become another one: a report stays, and after the task has dropped its end
nothing changes. -/
def Precedes (c d : Channel) : Prop :=
  (c.latest ≠ .pending → d.latest = c.latest) ∧ (c.senderAlive = false → d = c)

theorem Precedes.refl (c : Channel) : c.Precedes c := ⟨fun _ => rfl, fun _ => rfl⟩

theorem Precedes.trans (h : c.Precedes d) (g : d.Precedes e) : c.Precedes e := by
  constructor
  · intro hc
    have hd := h.1 hc
    rw [g.1 (hd ▸ hc), hd]
  · intro hc
    have hd := h.2 hc
    rw [g.2 (hd ▸ hc), hd]

theorem Precedes.pending (h : c.Precedes d) (hd : d.latest = .pending) : c.latest = .pending := by
  by_cases hc : c.latest = .pending
  · exact hc
  · exact (h.1 hc).symm.trans hd

theorem Precedes.alive (h : c.Precedes d) (hd : d.senderAlive = true) : c.senderAlive = true := by
  cases hc : c.senderAlive with
  | true => rfl
  | false => rw [h.2 hc, hc] at hd; cases hd

theorem current_eq_pending_iff : c.current = .pending ↔ c.latest = .pending ∧ c.senderAlive = true := by
  obtain ⟨latest, alive⟩ := c
  cases latest <;> cases alive <;> simp [current]

theorem current_of_latest (h : c.latest ≠ .pending) : c.current = c.latest := by
  rw [current, if_neg fun hc => h hc.1]

/-- What a channel says stays, once it has something to say. -/
theorem Precedes.current (h : c.Precedes d) (hc : c.current ≠ .pending) : d.current = c.current := by
  by_cases hLatest : c.latest = .pending
  · cases hAlive : c.senderAlive with
    | true => exact absurd (current_eq_pending_iff.mpr ⟨hLatest, hAlive⟩) hc
    | false => rw [h.2 hAlive]
  · have hd := h.1 hLatest
    rw [current_of_latest hLatest, current_of_latest (hd ▸ hLatest), hd]

/-- The channels that a task with the outcome `o` brings about, each with what the task has yet to do. -/
inductive Reached (o : CompileOutcome) : Channel → List SenderStep → Prop
  | start : Reached o .fresh o.steps
  | next {c : Channel} {step : SenderStep} {todo : List SenderStep} :
      Reached o c (step :: todo) → Reached o (c.after step) todo

/-- A task has done nothing yet, or has reported, or has ended. -/
theorem Reached.cases (h : Reached o c todo) :
    (c = .fresh ∧ todo = o.steps) ∨ (c = ⟨o.state, true⟩ ∧ todo = [.drop]) ∨
      (c.senderAlive = false ∧ c.current = o.state ∧ todo = []) := by
  induction h with
  | start => exact Or.inl ⟨rfl, rfl⟩
  | @next c step todo _ ih =>
    rcases ih with ⟨rfl, hTodo⟩ | ⟨rfl, hTodo⟩ | ⟨-, -, hTodo⟩
    · cases o <;> cases hTodo
      · exact Or.inr (Or.inl ⟨rfl, rfl⟩)
      · exact Or.inr (Or.inl ⟨rfl, rfl⟩)
      · exact Or.inr (Or.inr ⟨rfl, rfl, rfl⟩)
    · cases hTodo
      refine Or.inr (Or.inr ⟨rfl, ?_, rfl⟩)
      cases o <;> rfl
    · cases hTodo

theorem Reached.precedes_after (h : Reached o c (step :: todo)) : c.Precedes (c.after step) := by
  rcases h.cases with ⟨rfl, -⟩ | ⟨rfl, hTodo⟩ | ⟨-, -, hTodo⟩
  · exact ⟨fun hc => absurd rfl hc, fun hc => by cases hc⟩
  · cases hTodo
    exact ⟨fun _ => rfl, fun hc => by cases hc⟩
  · cases hTodo

theorem state_ne_pending (o : CompileOutcome) : o.state ≠ .pending := by
  cases o <;> simp [CompileOutcome.state]

theorem Reached.current_after (h : Reached o c (step :: todo)) : (c.after step).current ≠ .pending := by
  rcases h.cases with ⟨rfl, hTodo⟩ | ⟨rfl, hTodo⟩ | ⟨-, -, hTodo⟩
  · cases o <;> cases hTodo <;> simp [after, fresh, Channel.current]
  · cases hTodo
    rw [after, current_of_latest (state_ne_pending o)]
    exact state_ne_pending o
  · cases hTodo

theorem Reached.current_ended (h : Reached o c []) : c.current ≠ .pending := by
  rcases h.cases with ⟨-, hTodo⟩ | ⟨-, hTodo⟩ | ⟨-, hState, -⟩
  · cases o <;> cases hTodo
  · cases hTodo
  · rw [hState]
    exact state_ne_pending o

/-- A channel says nothing yet, or the outcome. -/
theorem Reached.current (h : Reached o c todo) : c.current = .pending ∨ c.current = o.state := by
  rcases h.cases with ⟨rfl, -⟩ | ⟨rfl, -⟩ | ⟨-, hState, -⟩
  · exact Or.inl rfl
  · exact Or.inr (current_of_latest (state_ne_pending o))
  · exact Or.inr hState

end Channel

/-! ## Readings -/

namespace Reading

variable {c d e : Channel} {r : Reading}

/-- What a reading knows that started when the channel was `c` and has come as far as `r` now that it is
`d`.  One that has ended has found nothing where there was nothing at the start, or has found what the
channel says now. -/
def Since (c d : Channel) : Reading → Prop
  | start => True
  | sawPending => c.latest = .pending
  | sawGone => c.latest = .pending ∧ d.senderAlive = false
  | done state =>
    (state = .pending ∧ c.current = .pending) ∨ (state ≠ .pending ∧ state = d.current)

theorem Since.step (h : r.Since c d) (hOrder : c.Precedes d) : (r.step d).Since c d := by
  cases r with
  | start =>
    simp only [Reading.step]
    split
    · next hLatest => exact hOrder.pending hLatest
    · next hLatest => exact Or.inr ⟨hLatest, (Channel.current_of_latest hLatest).symm⟩
  | sawPending =>
    simp only [Reading.step]
    split
    · next hAlive =>
      exact Or.inl ⟨rfl, Channel.current_eq_pending_iff.mpr ⟨h, hOrder.alive hAlive⟩⟩
    · next hGone => exact ⟨h, by simpa using hGone⟩
  | sawGone =>
    -- the task is gone, so this is the last word
    obtain ⟨-, hGone⟩ := h
    refine Or.inr ⟨?_, ?_⟩
    · split <;> simp_all
    · simp [Channel.current, hGone]
  | done state => exact h

theorem Since.mono (h : r.Since c d) (hOrder : d.Precedes e) : r.Since c e := by
  cases r with
  | start => trivial
  | sawPending => exact h
  | sawGone => exact ⟨h.1, by rw [hOrder.2 h.2, h.2]⟩
  | done state =>
    rcases h with hNone | ⟨hSome, rfl⟩
    · exact Or.inl hNone
    · exact Or.inr ⟨hSome, (hOrder.current hSome).symm⟩

/-- What a reading says that has ended: nothing, if there was nothing at its start, or the outcome. -/
theorem Since.result {o : CompileOutcome} {state : SlotState} (h : r.Since c d)
    (hCurrent : d.current = .pending ∨ d.current = o.state) (hResult : r.result? = some state) :
    (state = .pending ∧ c.current = .pending) ∨ (state = o.state ∧ d.current ≠ .pending) := by
  cases r with
  | done state =>
    cases hResult
    rcases h with hNone | ⟨hSome, rfl⟩
    · exact Or.inl hNone
    · exact Or.inr ⟨hCurrent.resolve_left hSome, hSome⟩
  | _ => cases hResult

/-- How many reads are left at most. -/
def left : Reading → Nat
  | start => 3
  | sawPending => 2
  | sawGone => 1
  | done _ => 0

theorem left_step (r : Reading) (c : Channel) : (r.step c).left ≤ r.left - 1 := by
  cases r with
  | start =>
    simp only [step]
    split <;> simp [left]
  | sawPending =>
    simp only [step]
    split <;> simp [left]
  | sawGone => simp [step, left]
  | done state => simp [step, left]

theorem left_ne_zero (h : ∀ state, r ≠ done state) : r.left ≠ 0 := by
  cases r with
  | done state => exact absurd rfl (h state)
  | _ => simp [left]

theorem left_eq_zero : r.left = 0 ↔ r.result?.isSome := by
  cases r <;> simp [left, result?]

end Reading

/-! ## Waiting -/

namespace Waiting

variable {c d : Channel} {x : Waiting}

/-- What one knows who waits at a channel: the task is gone once the wait has turned into a reading, and a
wait that has ended has found what the channel says. -/
def Sound (c : Channel) : Waiting → Prop
  | blocked => True
  | reading r => c.senderAlive = false ∧ r.Since c c
  | done state => state ≠ .pending ∧ state = c.current

theorem Sound.step (h : x.Sound c) : (x.step c).Sound c := by
  cases x with
  | blocked =>
    simp only [Waiting.step]
    split
    · next hLatest => exact ⟨hLatest, (Channel.current_of_latest hLatest).symm⟩
    · split
      · trivial
      · next hGone => exact ⟨by simpa using hGone, trivial⟩
  | reading r =>
    obtain ⟨hGone, hReading⟩ := h
    have hNext := hReading.step (.refl c)
    simp only [Waiting.step]
    split
    · next state hDone =>
      rw [hDone] at hNext
      rcases hNext with ⟨-, hPending⟩ | ⟨hSome, hState⟩
      · -- without its task the channel has something to say
        rw [Channel.current_eq_pending_iff, hGone] at hPending
        cases hPending.2
      · rw [if_neg hSome]
        exact ⟨hSome, hState⟩
    · exact ⟨hGone, hNext⟩
  | done state => exact h

theorem Sound.mono (h : x.Sound c) (hOrder : c.Precedes d) : x.Sound d := by
  cases x with
  | blocked => trivial
  | reading r =>
    obtain ⟨hGone, hReading⟩ := h
    rw [hOrder.2 hGone]
    exact ⟨hGone, hReading⟩
  | done state =>
    obtain ⟨hSome, rfl⟩ := h
    exact ⟨hSome, (hOrder.current hSome).symm⟩

theorem Sound.result {o : CompileOutcome} {state : SlotState} (h : x.Sound c)
    (hCurrent : c.current = .pending ∨ c.current = o.state) (hResult : x.result? = some state) :
    state = o.state ∧ c.current ≠ .pending := by
  cases x with
  | done state =>
    cases hResult
    obtain ⟨hSome, rfl⟩ := h
    exact ⟨hCurrent.resolve_left hSome, hSome⟩
  | _ => cases hResult

/-- How many looks are left at most, once the channel has something to say. -/
def left : Waiting → Nat
  | blocked => 4
  | reading r => max 1 r.left
  | done _ => 0

theorem left_step (hc : c.current ≠ .pending) (x : Waiting) : (x.step c).left ≤ x.left - 1 := by
  cases x with
  | blocked =>
    simp only [step]
    split
    · simp [left]
    · next hLatest =>
      split
      · next hAlive =>
        exact absurd (Channel.current_eq_pending_iff.mpr ⟨by simpa using hLatest, hAlive⟩) hc
      · simp [left, Reading.left]
  | reading r =>
    have hStep := r.left_step c
    simp only [step]
    split
    · simp [left]
    · next hNot =>
      have hOpen := Reading.left_ne_zero hNot
      simp only [left]
      omega
  | done state => simp [step, left]

theorem left_step_le (x : Waiting) (c : Channel) : (x.step c).left ≤ x.left := by
  cases x with
  | blocked =>
    simp only [step]
    split
    · simp [left]
    · split <;> simp [left, Reading.left]
  | reading r =>
    have hStep := r.left_step c
    simp only [step]
    split
    · simp [left]
    · simp only [left]
      omega
  | done state => simp [step, left]

theorem left_ne_zero (h : ∀ state, x ≠ done state) : x.left ≠ 0 := by
  cases x with
  | blocked => simp [left]
  | reading r => simp only [left]; omega
  | done state => exact absurd rfl (h state)

theorem left_eq_zero : x.left = 0 ↔ x.result?.isSome := by
  cases x <;> simp [left, result?]

end Waiting

end TieredDispatch
