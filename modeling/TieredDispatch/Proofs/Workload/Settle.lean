import TieredDispatch.Proofs.Workload.Observation

/-!
# Settling

To settle is to wait for every slot and to prefer the accelerator.  In whatever order the slots resolve,
and whatever else is asked meanwhile, the result is that of the outcomes of the compiles: a failure never
hides a model, and no failure is lost.

* `Workload.prefer`: what the results in the two places come to together.
* `Scene.Answers.eq_settled`: every settling that ends comes to that.
* `Workload.settle?_withChannels`: so does the workload, once every slot has resolved.
* `Scene.settle_by_outcomes`: all of this for every run.
-/

namespace TieredDispatch

namespace Workload

variable {w : Workload} {outcome : SlotKind → CompileOutcome} {c : Channels}

/-- What the results of the accelerator and of the processor come to together, either of which may be
absent. -/
def prefer : Option (Except SlotFailure CompiledModel) → Option (Except SlotFailure CompiledModel) →
    Except DispatchError CompiledModel
  | some (.ok model), _ => .ok model
  | some (.error _), some (.ok model) => .ok model
  | none, some (.ok model) => .ok model
  | some (.error f), some (.error g) => .error (.allSlotsFailed [f, g])
  | some (.error f), none => .error (.compileFailed f)
  | none, some (.error g) => .error (.compileFailed g)
  | none, none => .error .noCompileTarget

/-- What a workload comes to, given the outcomes of its compiles. -/
def settlement (w : Workload) (outcome : SlotKind → CompileOutcome) : Except DispatchError CompiledModel :=
  prefer (w.final outcome .accelerator) (w.final outcome .processor)

theorem conclude_tallyOf (w : Workload) (outcome : SlotKind → CompileOutcome) :
    conclude (Settling.tallyOf w outcome SlotKind.preferred).best
      (Settling.tallyOf w outcome SlotKind.preferred).failures = w.settlement outcome := by
  rw [settlement, Settling.tallyOf, SlotKind.preferred]
  cases hAccelerator : w.final outcome .accelerator with
  | none =>
    cases hProcessor : w.final outcome .processor with
    | none => simp [hAccelerator, hProcessor, Tally.empty, conclude, prefer]
    | some processor =>
      cases processor <;> simp [hAccelerator, hProcessor, Tally.empty, Tally.add, conclude, prefer]
  | some accelerator =>
    cases hProcessor : w.final outcome .processor with
    | none =>
      cases accelerator <;> simp [hAccelerator, hProcessor, Tally.empty, Tally.add, conclude, prefer]
    | some processor =>
      cases accelerator <;> cases processor <;>
        simp [hAccelerator, hProcessor, Tally.empty, Tally.add, conclude, prefer]

theorem result?_of_current {x : Slot} {channel : Channel} {o : CompileOutcome}
    (h : channel.current = o.state) :
    Slot.result? { x with channel := channel } = some (x.resultOf o) := by
  rw [Slot.result?, h]
  exact x.finish_state o

theorem collect_eq_none {slots : List Slot} (h : ∃ x ∈ slots, x.result? = none)
    (best : Option CompiledModel) (failures : List SlotFailure) : collect best failures slots = none := by
  induction slots generalizing best failures with
  | nil => obtain ⟨x, hx, -⟩ := h; cases hx
  | cons x slots ih =>
    rw [collect]
    cases hResult : x.result? with
    | none => rfl
    | some result =>
      have hRest : ∃ y ∈ slots, y.result? = none := by
        obtain ⟨y, hy, hNone⟩ := h
        rcases List.mem_cons.mp hy with rfl | hy
        · rw [hResult] at hNone
          cases hNone
        · exact ⟨y, hy, hNone⟩
      cases result <;> exact ih hRest _ _

theorem settle?_withChannels
    (h : ∀ place, w.slot? place ≠ none → (c place).current = (outcome place).state) :
    (w.withChannels c).settle? = some (w.settlement outcome) := by
  have hResult : ∀ place x, w.slot? place = some x →
      Slot.result? { x with channel := c place } = some (x.resultOf (outcome place)) :=
    fun place x hSlot => result?_of_current (h place (by simp [hSlot]))
  obtain ⟨processor, accelerator, perfCount⟩ := w
  cases accelerator with
  | none =>
    cases processor with
    | none => rfl
    | some y =>
      have hY := hResult .processor y rfl
      simp only [settle?, slots, withChannels, settlement, final, slot?, Option.map_none,
        Option.map_some, Option.toList_none, Option.toList_some, List.nil_append, collect, hY]
      cases y.resultOf (outcome .processor) <;> rfl
  | some x =>
    have hX := hResult .accelerator x rfl
    cases processor with
    | none =>
      simp only [settle?, slots, withChannels, settlement, final, slot?, Option.map_none,
        Option.map_some, Option.toList_none, Option.toList_some, List.append_nil, collect, hX]
      cases x.resultOf (outcome .accelerator) <;> rfl
    | some y =>
      have hY := hResult .processor y rfl
      simp only [settle?, slots, withChannels, settlement, final, slot?, Option.map_some,
        Option.toList_some, List.singleton_append, collect, hX, hY]
      cases x.resultOf (outcome .accelerator) <;> cases y.resultOf (outcome .processor) <;> rfl

end Workload

namespace Scene

variable {w : Workload} {outcome : SlotKind → CompileOutcome} {s : Scene} {events : List Event} {r : Reply}

/-- Every settling that ends comes to what the outcomes come to. -/
theorem Answers.eq_settled (h : s.Answers w .settle events r) (hConsistent : s.Consistent outcome) :
    r = .settled (w.settlement outcome) := by
  obtain ⟨call, hQuestion, hReply, hSince⟩ := h.call hConsistent
  cases call with
  | settle x =>
    obtain ⟨result, hResult, rfl⟩ := Option.map_eq_some_iff.mp hReply
    rw [Settling.Sound.result hSince hResult, Workload.conclude_tallyOf]
  | _ => cases hQuestion

/-- Whether a workload settles to `result`, whatever happens. -/
structure SettlesTo (w : Workload) (outcome : SlotKind → CompileOutcome)
    (result : Except DispatchError CompiledModel) : Prop where
  /-- Whoever settles, and whenever, gets the result. -/
  answer : ∀ before events r, ((initial outcome).run w before).Answers w .settle events r →
    r = .settled result
  /-- Whoever settles gets it after eight looks, once the task of every slot has acted. -/
  answered : ∀ before events later,
    (∀ place, w.slot? place ≠ none → .act place ∈ before ++ events) →
    8 ≤ later.count (.look ((initial outcome).run w before).calls.length) →
      ((initial outcome).run w before).Answers w .settle (events ++ later) (.settled result)
  /-- Seen at one moment, the workload has settled to the result if every slot has resolved. -/
  resolved : ∀ before, ((initial outcome).run w before).Resolved w →
    (w.withChannels ((initial outcome).run w before).channels).settle? = some result
  pending : ∀ before, ¬ ((initial outcome).run w before).Resolved w →
    (w.withChannels ((initial outcome).run w before).channels).settle? = none

theorem settlesTo_settlement (w : Workload) (outcome : SlotKind → CompileOutcome) :
    SettlesTo w outcome (w.settlement outcome) := by
  have hConsistent : ∀ before, ((initial outcome).run w before).Consistent outcome :=
    fun before => (consistent_initial outcome).run w before
  constructor
  · intro before events r hAnswer
    exact hAnswer.eq_settled (hConsistent before)
  · intro before events later hActed hLooks
    have hOpen : Question.settle.Open w
        (((initial outcome).run w before).run w (.call .settle :: events)).channels := by
      intro place hSlot
      exact current_of_asked (consistent_initial outcome) (hActed place hSlot) .settle
    have hAnswerable : Question.settle.Answerable w := trivial
    obtain ⟨r, hAnswer⟩ := answered_of_looks (hConsistent before) hAnswerable hOpen hLooks
    rw [← hAnswer.eq_settled (hConsistent before)]
    exact hAnswer
  · intro before hResolved
    refine Workload.settle?_withChannels fun place hSlot => ?_
    exact ((hConsistent before).current place).resolve_left (resolved_iff.mp hResolved place hSlot)
  · intro before hPending
    simp only [Resolved, Classical.not_forall] at hPending
    obtain ⟨x, hx, hNotReady⟩ := hPending
    refine Workload.collect_eq_none ⟨x, hx, ?_⟩ _ _
    have hNone : x.channel.current = .pending := by simpa [Slot.isReady] using hNotReady
    rw [Slot.result?, hNone]
    rfl

/-- Settling depends on the outcomes of the compiles only.  Whatever the order in which the slots resolve,
and whatever else is asked before or meanwhile, every settling comes to the accelerator's model, else to
the processor's, else to the failures of the slots in order of preference; and these results are those
that one gets who waits for the slots themselves. -/
theorem settle_by_outcomes (w : Workload) (outcome : SlotKind → CompileOutcome) :
    SettlesTo w outcome
        (Workload.prefer (w.final outcome .accelerator) (w.final outcome .processor)) ∧
    ∀ (before : List Event) (place : SlotKind) (slot : Slot) (blocking : Bool),
      w.slot? place = some slot →
      w.final outcome place = some (slot.resultOf (outcome place)) ∧
      (∀ events r, ((initial outcome).run w before).Answers w (.wait place blocking) events r →
        r = .waited (slot.resultOf (outcome place))) ∧
      (∀ events later, .act place ∈ before ++ events →
        4 ≤ later.count (.look ((initial outcome).run w before).calls.length) →
          ((initial outcome).run w before).Answers w (.wait place blocking) (events ++ later)
            (.waited (slot.resultOf (outcome place)))) := by
  refine ⟨settlesTo_settlement w outcome, ?_⟩
  intro before place slot blocking hSlot
  have hConsistent := (consistent_initial outcome).run w before
  refine ⟨by rw [Workload.final, hSlot, Option.map_some], ?_, ?_⟩
  · intro events r hAnswer
    exact hAnswer.eq_waited hConsistent hSlot
  · intro events later hActed hLooks
    have hOpen : (Question.wait place blocking).Open w
        (((initial outcome).run w before).run w (.call (.wait place blocking) :: events)).channels :=
      current_of_asked (consistent_initial outcome) hActed _
    have hAnswerable : (Question.wait place blocking).Answerable w := by
      simp [Question.Answerable, hSlot]
    obtain ⟨r, hAnswer⟩ := answered_of_looks hConsistent hAnswerable hOpen hLooks
    rw [← hAnswer.eq_waited hConsistent hSlot]
    exact hAnswer

/-- Two failures are told in order of preference, the one of a task that died among them. -/
theorem settle_by_outcomes_fruitless :
    SettlesTo .pair fruitless (.error (.allSlotsFailed
      [⟨.accelerator, ⟨"GPU.0"⟩, (DeviceError.unavailable ⟨"GPU.0"⟩).message⟩,
        ⟨.processor, ⟨"CPU"⟩, lostReason⟩])) ∧
    ∀ events r, ((initial fruitless).run .pair [.act .processor]).Answers .pair
      (.wait .processor true) events r → r = .waited (.error ⟨.processor, ⟨"CPU"⟩, lostReason⟩) := by
  have hSlot : Workload.pair.slot? .processor = some (.spawn .processor ⟨"CPU"⟩ (.path "m.xml")) := rfl
  have hSettle := settle_by_outcomes .pair fruitless
  exact ⟨hSettle.1, (hSettle.2 [.act .processor] .processor _ true hSlot).2.1⟩

end Scene

end TieredDispatch
