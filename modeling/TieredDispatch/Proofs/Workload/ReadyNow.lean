import TieredDispatch.Proofs.Workload.Settle

/-!
# The best model by now

The best model that is there by now only gets better while slots resolve, and once they all have it is
the one to which the workload settles.  A call may read the slots while their tasks act; what it finds lies
between the best model at its start and that at its end.

* `Workload.Improves`: nothing, the processor's model, the accelerator's model, in this order.
* `Scene.BestBetween`: what holds of a best model that was found between two moments.
* `Scene.improves_run`: along a run the best model improves.
* `Scene.Answers.bestBetween`: what a call finds that tasks interrupt.
* `Scene.ready_now_improves`: the best model improves, is there, and becomes the settled one.
-/

namespace TieredDispatch

theorem Slot.model?_withChannel (x : Slot) (channel : Channel) :
    Slot.model? { x with channel := channel } = x.modelIn channel.current := by
  rw [model?, result?, modelIn]
  cases channel.current <;> rfl

namespace Workload

variable {w : Workload} {outcome : SlotKind → CompileOutcome} {c d : Channels} {place : SlotKind}
variable {m n : Option CompiledModel}

/-- The model that a place will have in the end, if its compile succeeds. -/
def finalModel (w : Workload) (outcome : SlotKind → CompileOutcome) (place : SlotKind) :
    Option CompiledModel :=
  (w.final outcome place).bind Except.toOption

/-- Whether a best model may be followed by another one: any model is better than none, and the
accelerator's is better than the processor's. -/
inductive Improves (w : Workload) (outcome : SlotKind → CompileOutcome) :
    Option CompiledModel → Option CompiledModel → Prop
  | same (m : Option CompiledModel) : Improves w outcome m m
  | first (model : CompiledModel) : Improves w outcome none (some model)
  | better {processor accelerator : CompiledModel} :
      w.finalModel outcome .processor = some processor →
      w.finalModel outcome .accelerator = some accelerator →
      Improves w outcome (some processor) (some accelerator)

theorem Improves.trans {k : Option CompiledModel} (h : w.Improves outcome k m)
    (g : w.Improves outcome m n) : w.Improves outcome k n := by
  cases h with
  | same => exact g
  | first model =>
    cases g with
    | same => exact .first _
    | better => exact .first _
  | better hProcessor hAccelerator =>
    cases g with
    | same => exact .better hProcessor hAccelerator
    | better _ hOther => exact .better hProcessor hOther

/-- What has been bettered does not come back. -/
theorem Improves.antisymm (h : w.Improves outcome m n) (g : w.Improves outcome n m) : m = n := by
  cases h with
  | same => rfl
  | first model => cases g
  | better hProcessor hAccelerator =>
    cases g with
    | same => rfl
    | better hOther _ => exact hProcessor.symm.trans hOther

def bestOf (models : SlotKind → Option CompiledModel) : Option CompiledModel :=
  (models .accelerator).or (models .processor)

theorem readyNow?_withChannels (w : Workload) (c : Channels) :
    (w.withChannels c).readyNow? = bestOf (w.modelAt c) := by
  rw [readyNow?, slots, List.findSome?_append]
  obtain ⟨processor, accelerator, perfCount⟩ := w
  cases accelerator <;> cases processor <;>
    simp [withChannels, bestOf, modelAt, slot?, Slot.model?_withChannel]

/-- A model that is there is the one of the outcome. -/
theorem finalModel_of_modelAt {model : CompiledModel} (h : w.modelAt c place = some model)
    (hCurrent : (c place).current = .pending ∨ (c place).current = (outcome place).state) :
    w.finalModel outcome place = some model := by
  obtain ⟨x, hSlot, hModel⟩ := Option.bind_eq_some_iff.mp h
  rcases hCurrent with hPending | hState
  · rw [hPending, Slot.modelIn_pending] at hModel
    cases hModel
  · rw [hState, Slot.modelIn_state] at hModel
    rw [finalModel, final, hSlot, Option.map_some, Option.bind_some, hModel]

/-- Where a slot is absent or has resolved, the model that is there is the last word. -/
theorem modelAt_of_resolved
    (h : w.slot? place ≠ none → (c place).current = (outcome place).state) :
    w.modelAt c place = w.finalModel outcome place := by
  rw [modelAt, finalModel, final]
  cases hSlot : w.slot? place with
  | none => rfl
  | some x =>
    rw [Option.bind_some, h (by simp [hSlot]), Slot.modelIn_state, Option.map_some, Option.bind_some]

theorem toOption_settlement (w : Workload) (outcome : SlotKind → CompileOutcome) :
    (w.settlement outcome).toOption =
      bestOf (w.finalModel outcome) := by
  rw [settlement, bestOf, finalModel, finalModel]
  cases w.final outcome .accelerator with
  | none =>
    cases w.final outcome .processor with
    | none => rfl
    | some processor => cases processor <;> rfl
  | some accelerator =>
    cases w.final outcome .processor with
    | none => cases accelerator <;> rfl
    | some processor => cases accelerator <;> cases processor <;> rfl

theorem settlement_eq_ok {model : CompiledModel} (h : (w.settlement outcome).toOption = some model) :
    w.settlement outcome = .ok model := by
  cases hSettled : w.settlement outcome with
  | ok found =>
    rw [hSettled] at h
    cases h
    rfl
  | error e =>
    rw [hSettled] at h
    cases h

/-- While places get their models, each for good, the best model improves. -/
theorem improves_of_le {f g : SlotKind → Option CompiledModel}
    (hLe : ∀ place model, f place = some model → g place = some model)
    (hFinal : ∀ place model, g place = some model → w.finalModel outcome place = some model) :
    w.Improves outcome (bestOf f) (bestOf g) := by
  rw [bestOf, bestOf]
  cases hAccelerator : f .accelerator with
  | some model =>
    rw [hLe .accelerator model hAccelerator]
    exact .same _
  | none =>
    cases hProcessor : f .processor with
    | some model =>
      have hKept := hLe .processor model hProcessor
      rw [hKept]
      cases hBetter : g .accelerator with
      | none => exact .same _
      | some better => exact .better (hFinal .processor model hKept) (hFinal .accelerator better hBetter)
    | none =>
      show w.Improves outcome none _
      cases (g .accelerator).or (g .processor) with
      | none => exact .same _
      | some model => exact .first model

end Workload

/-- What a search finds is the best of models that are there at its end, among them all that are there at
its start. -/
theorem Polling.Since.result {w : Workload} {c d : Channels} {x : Polling} {m : Option CompiledModel}
    (h : x.Since w c d) (hOrder : c.Precede d) (hResult : x.result? = some m) :
    ∃ models : SlotKind → Option CompiledModel, m = Workload.bestOf models ∧
      (∀ place model, w.modelAt c place = some model → models place = some model) ∧
      ∀ place model, models place = some model → w.modelAt d place = some model := by
  cases x with
  | looking places r =>
    cases places with
    | cons place rest => cases hResult
    | nil =>
      cases hResult
      obtain ⟨⟨past, hPast, hPassed⟩, -⟩ := h
      rw [List.append_nil] at hPast
      subst hPast
      refine ⟨fun _ => none, rfl, ?_, by simp⟩
      rintro place model hModel
      rw [hPassed place (by cases place <;> simp [SlotKind.preferred])] at hModel
      cases hModel
  | found model =>
    cases hResult
    obtain ⟨past, place, rest, hPast, hPassed, hFound⟩ := h
    cases past with
    | nil =>
      cases hPast
      refine ⟨w.modelAt d, ?_, fun _ _ hModel => Workload.modelAt_mono hModel hOrder, fun _ _ => id⟩
      rw [Workload.bestOf, hFound]
      rfl
    | cons first past =>
      cases past with
      | cons second past => simp [SlotKind.preferred] at hPast
      | nil =>
        cases hPast
        -- the accelerator had none at the start, whatever it may have by now
        have hNone := hPassed .accelerator (by simp)
        refine ⟨fun place => if place = .processor then some model else none, rfl, ?_, ?_⟩
        · rintro (_ | _) other hModel
          · have hKept := Workload.modelAt_mono hModel hOrder
            rw [hFound] at hKept
            exact hKept
          · rw [hNone] at hModel
            cases hModel
        · rintro (_ | _) other hModel
          · cases hModel
            exact hFound
          · cases hModel

namespace Scene

variable {w : Workload} {outcome : SlotKind → CompileOutcome} {s t : Scene} {events : List Event}
variable {m : Option CompiledModel}

def best (w : Workload) (s : Scene) : Option CompiledModel :=
  (w.withChannels s.channels).readyNow?

/-- What holds of a best model that was found between the moments of `s` and of `t`. -/
structure BestBetween (w : Workload) (outcome : SlotKind → CompileOutcome) (s t : Scene)
    (m : Option CompiledModel) : Prop where
  start : w.Improves outcome (s.best w) m
  finish : w.Improves outcome m (t.best w)
  /-- A model is that of a slot which has resolved. -/
  ready : ∀ model, m = some model →
    ∃ x ∈ (w.withChannels t.channels).slots, x.isReady = true ∧ x.result? = some (.ok model)
  /-- None is found only where no slot had a model at the start. -/
  missing : m = none →
    ∀ x ∈ (w.withChannels s.channels).slots, ∀ model, x.result? ≠ some (.ok model)
  /-- With no accelerator, or with one that has resolved, a model is the settled one. -/
  settled : (∀ x, (w.withChannels s.channels).accelerator = some x → x.isReady = true) →
    ∀ model, m = some model → SettlesTo w outcome (.ok model)
  /-- Once all have resolved there is a model just if the workload settles to it. -/
  resolved : s.Resolved w → ∃ result, SettlesTo w outcome result ∧ m = result.toOption

theorem finalModel_of_modelAt (hConsistent : s.Consistent outcome) (place : SlotKind)
    (model : CompiledModel) (h : w.modelAt s.channels place = some model) :
    w.finalModel outcome place = some model :=
  Workload.finalModel_of_modelAt h (hConsistent.current place)

theorem modelAt_of_resolved {place : SlotKind} (hConsistent : s.Consistent outcome)
    (h : w.slot? place ≠ none → (s.channels place).current ≠ .pending) :
    w.modelAt s.channels place = w.finalModel outcome place :=
  Workload.modelAt_of_resolved fun hSlot => (hConsistent.current place).resolve_left (h hSlot)

theorem ready_of_modelAt {place : SlotKind} {model : CompiledModel}
    (h : w.modelAt s.channels place = some model) :
    ∃ x ∈ (w.withChannels s.channels).slots, x.isReady = true ∧ x.result? = some (.ok model) := by
  obtain ⟨x, hSlot, hModel⟩ := Option.bind_eq_some_iff.mp h
  refine ⟨{ x with channel := s.channels place }, Workload.mem_slots_iff.mpr ⟨place, ?_⟩, ?_, ?_⟩
  · rw [Workload.slot?_withChannels, hSlot, Option.map_some]
  · refine decide_eq_true fun hPending => ?_
    rw [hPending, Slot.modelIn_pending] at hModel
    cases hModel
  · obtain ⟨result, hFinish, hResult⟩ := Option.bind_eq_some_iff.mp hModel
    rw [Slot.result?]
    cases result with
    | ok found => cases hResult; exact hFinish
    | error f => cases hResult

theorem modelAt_of_result? {x : Slot} {model : CompiledModel}
    (hMem : x ∈ (w.withChannels s.channels).slots) (h : x.result? = some (.ok model)) :
    ∃ place, w.modelAt s.channels place = some model := by
  obtain ⟨place, hPlace⟩ := Workload.mem_slots_iff.mp hMem
  rw [Workload.slot?_withChannels] at hPlace
  obtain ⟨slot, hSlot, rfl⟩ := Option.map_eq_some_iff.mp hPlace
  have hFinish : slot.finish (s.channels place).current = some (.ok model) := h
  refine ⟨place, ?_⟩
  rw [Workload.modelAt, hSlot, Option.bind_some, Slot.modelIn, hFinish]
  rfl

theorem bestBetween_of_models {models : SlotKind → Option CompiledModel} (hs : s.Consistent outcome)
    (ht : t.Consistent outcome)
    (hStart : ∀ place model, w.modelAt s.channels place = some model → models place = some model)
    (hFinish : ∀ place model, models place = some model → w.modelAt t.channels place = some model) :
    BestBetween w outcome s t (Workload.bestOf models) := by
  have hFinal : ∀ place model, models place = some model → w.finalModel outcome place = some model :=
    fun place model hModel => finalModel_of_modelAt ht place model (hFinish place model hModel)
  -- where nothing is pending at the start, the model found is the last word
  have hLast : ∀ place, (w.slot? place ≠ none → (s.channels place).current ≠ .pending) →
      models place = w.finalModel outcome place := by
    intro place hPlace
    refine Option.ext fun model => ⟨hFinal place model, fun hModel => hStart place model ?_⟩
    rw [modelAt_of_resolved hs hPlace, hModel]
  constructor
  · rw [best, Workload.readyNow?_withChannels]
    exact Workload.improves_of_le hStart hFinal
  · rw [best, Workload.readyNow?_withChannels]
    exact Workload.improves_of_le hFinish (finalModel_of_modelAt ht)
  · intro model hModel
    rcases Option.or_eq_some_iff.mp hModel with hModel | ⟨-, hModel⟩
    · exact ready_of_modelAt (hFinish .accelerator model hModel)
    · exact ready_of_modelAt (hFinish .processor model hModel)
  · intro hNone x hMem model hResult
    obtain ⟨place, hThere⟩ := modelAt_of_result? hMem hResult
    obtain ⟨hAccelerator, hProcessor⟩ := Option.or_eq_none_iff.mp hNone
    have hFound := hStart place model hThere
    cases place with
    | accelerator => rw [hAccelerator] at hFound; cases hFound
    | processor => rw [hProcessor] at hFound; cases hFound
  · intro hAccelerator model hModel
    have hPreferred : models .accelerator = w.finalModel outcome .accelerator := by
      refine hLast .accelerator fun hSlot => ?_
      obtain ⟨x, hSlot⟩ := Option.ne_none_iff_exists'.mp hSlot
      have hReady := hAccelerator { x with channel := s.channels .accelerator }
        (congrArg (Option.map _) hSlot)
      exact of_decide_eq_true hReady
    have hSettled : (w.settlement outcome).toOption = some model := by
      rw [Workload.toOption_settlement, Workload.bestOf, ← hPreferred]
      rcases Option.or_eq_some_iff.mp hModel with hModel | ⟨hNone, hModel⟩
      · rw [hModel, Option.some_or]
      · rw [hNone, Option.none_or, hFinal .processor model hModel]
    rw [← Workload.settlement_eq_ok hSettled]
    exact settlesTo_settlement w outcome
  · intro hResolved
    refine ⟨w.settlement outcome, settlesTo_settlement w outcome, ?_⟩
    rw [Workload.toOption_settlement]
    exact congrArg _ (funext fun place => hLast place (resolved_iff.mp hResolved place))

theorem improves_run (hConsistent : s.Consistent outcome) (w : Workload) (events : List Event) :
    w.Improves outcome (s.best w) ((s.run w events).best w) := by
  have hOrder := hConsistent.precede_run w events
  rw [best, best, Workload.readyNow?_withChannels, Workload.readyNow?_withChannels]
  exact Workload.improves_of_le (fun _ _ h => Workload.modelAt_mono h hOrder)
    (finalModel_of_modelAt (hConsistent.run w events))

theorem bestBetween_self (hConsistent : s.Consistent outcome) (w : Workload) :
    BestBetween w outcome s s (s.best w) := by
  rw [best, Workload.readyNow?_withChannels]
  exact bestBetween_of_models hConsistent hConsistent (fun _ _ => id) (fun _ _ => id)

/-- What a call finds, however the tasks act between its reads. -/
theorem Answers.bestBetween (h : s.Answers w .readyNow events (.best m))
    (hConsistent : s.Consistent outcome) :
    BestBetween w outcome s (s.run w (.call .readyNow :: events)) m := by
  obtain ⟨call, hQuestion, hReply, hSince⟩ := h.call hConsistent
  cases call with
  | readyNow x =>
    obtain ⟨found, hResult, hFound⟩ := Option.map_eq_some_iff.mp hReply
    cases hFound
    have hOrder := hConsistent.precede_run w (.call .readyNow :: events)
    obtain ⟨models, rfl, hStart, hFinish⟩ := Polling.Since.result hSince hOrder hResult
    exact bestBetween_of_models hConsistent (hConsistent.run w _) hStart hFinish
  | _ => cases hQuestion

theorem Answers.eq_best {r : Reply} (h : s.Answers w .readyNow events r)
    (hConsistent : s.Consistent outcome) : ∃ m, r = .best m := by
  obtain ⟨call, hQuestion, hReply, -⟩ := h.call hConsistent
  cases call with
  | readyNow x =>
    obtain ⟨m, -, rfl⟩ := Option.map_eq_some_iff.mp hReply
    exact ⟨m, rfl⟩
  | _ => cases hQuestion

/-- The best model that is there by now only gets better as slots resolve, is never that of a slot that
is pending, and becomes the one to which the workload settles.  This holds of what is there at one
moment, and of what a call finds between whose reads the tasks act. -/
theorem ready_now_improves (w : Workload) (outcome : SlotKind → CompileOutcome) (before : List Event) :
    let s := (initial outcome).run w before
    (∀ events, w.Improves outcome (s.best w) ((s.run w events).best w)) ∧
    BestBetween w outcome s s (s.best w) ∧
    (∀ events m, s.Answers w .readyNow events (.best m) →
      let t := s.run w (.call .readyNow :: events)
      BestBetween w outcome s t m ∧
        ∀ between later n, (t.run w between).Answers w .readyNow later (.best n) →
          w.Improves outcome m n) ∧
    (∀ events, 6 ≤ events.count (.look s.calls.length) → ∃ m, s.Answers w .readyNow events (.best m)) := by
  intro s
  have hConsistent : s.Consistent outcome := (consistent_initial outcome).run w before
  refine ⟨improves_run hConsistent w, bestBetween_self hConsistent w, ?_, ?_⟩
  · intro events m hAnswer t
    have hFound : BestBetween w outcome s t m := hAnswer.bestBetween hConsistent
    refine ⟨hFound, fun between later n hLater => ?_⟩
    have hEnd : t.Consistent outcome := hConsistent.run w (.call .readyNow :: events)
    have hNext := hLater.bestBetween (hEnd.run w between)
    exact (hFound.finish.trans (improves_run hEnd w between)).trans hNext.start
  · intro events hLooks
    have hAnswerable : Question.readyNow.Answerable w := trivial
    have hOpen : Question.readyNow.Open w (s.run w [.call .readyNow]).channels := trivial
    obtain ⟨r, hAnswer⟩ := answered_of_looks hConsistent hAnswerable hOpen hLooks
    obtain ⟨m, rfl⟩ := hAnswer.eq_best hConsistent
    exact ⟨m, hAnswer⟩

/-- The processor's model is overtaken by the accelerator's. -/
theorem ready_now_improves_overtaken :
    let s := (initial overtaken).run .pair [.act .processor]
    s.best .pair = some ⟨⟨"CPU"⟩, "m"⟩ ∧
      (s.run .pair [.act .accelerator]).best .pair = some ⟨⟨"GPU.0"⟩, "m"⟩ ∧
      Workload.pair.Improves overtaken (some ⟨⟨"CPU"⟩, "m"⟩) (some ⟨⟨"GPU.0"⟩, "m"⟩) ∧
      ¬ Workload.pair.Improves overtaken (some ⟨⟨"GPU.0"⟩, "m"⟩) (some ⟨⟨"CPU"⟩, "m"⟩) := by
  have hBetter := (ready_now_improves .pair overtaken [.act .processor]).1 [.act .accelerator]
  refine ⟨rfl, rfl, hBetter, fun hBack => ?_⟩
  exact absurd (hBetter.antisymm hBack) (by decide)

end Scene

end TieredDispatch
