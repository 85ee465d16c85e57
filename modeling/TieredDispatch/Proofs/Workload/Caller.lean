import TieredDispatch.Proofs.Slot.Reading
import TieredDispatch.Proofs.Workload.Time

/-!
# Calls that go through the slots

A workload keeps its slots; only their channels change.  To settle is to wait for one slot after the
other, and to ask for the best model that is there is to read one slot after the other.  Between any two
reads the tasks may act.

* `Settling.step`, `Polling.step`: one look of such a call.
* `Workload.final`: what will have come of the compile in a place.
* `Settling.Sound.step`: a settling keeps the results of the slots that it has passed.
* `Polling.Since.step`: a polling has passed a slot only if there was no model when it started.
-/

namespace TieredDispatch

/-- The places of a workload in the order in which they are preferred. -/
def SlotKind.preferred : List SlotKind := [.accelerator, .processor]

abbrev Channels := SlotKind → Channel

def Channels.Precede (c d : Channels) : Prop :=
  ∀ place, (c place).Precedes (d place)

/-! ## Slots -/

namespace Slot

variable {x : Slot}

/-- What one gets who has waited for a slot; a wait that ends without a report is a failure. -/
def waited (x : Slot) (state : SlotState) : Except SlotFailure CompiledModel :=
  (x.finish state).getD (.error (x.failure lostReason))

def modelIn (x : Slot) (state : SlotState) : Option CompiledModel :=
  (x.finish state).bind Except.toOption

theorem finish_state (x : Slot) (o : CompileOutcome) : x.finish o.state = some (x.resultOf o) := by
  cases o <;> rfl

theorem waited_state (x : Slot) (o : CompileOutcome) : x.waited o.state = x.resultOf o := by
  rw [waited, finish_state, Option.getD_some]

theorem modelIn_state (x : Slot) (o : CompileOutcome) :
    x.modelIn o.state = (x.resultOf o).toOption := by
  rw [modelIn, finish_state, Option.bind_some]

@[simp] theorem modelIn_pending (x : Slot) : x.modelIn .pending = none := rfl

end Slot

/-! ## Workloads and their channels -/

namespace Workload

variable {w : Workload} {outcome : SlotKind → CompileOutcome} {c d : Channels} {place : SlotKind}

theorem mem_slots_iff {x : Slot} : x ∈ w.slots ↔ ∃ place, w.slot? place = some x := by
  rw [slots, List.mem_append, Option.mem_toList, Option.mem_toList]
  constructor
  · rintro (h | h)
    · exact ⟨.accelerator, h⟩
    · exact ⟨.processor, h⟩
  · rintro ⟨_ | _, h⟩
    · exact Or.inr h
    · exact Or.inl h

/-- The workload at a moment at which its channels are the given ones. -/
def withChannels (w : Workload) (c : Channels) : Workload :=
  { w with
    processor := w.processor.map fun x => { x with channel := c .processor }
    accelerator := w.accelerator.map fun x => { x with channel := c .accelerator } }

theorem slot?_withChannels (w : Workload) (c : Channels) (place : SlotKind) :
    (w.withChannels c).slot? place = (w.slot? place).map fun x => { x with channel := c place } := by
  cases place <;> rfl

/-- What will have come of the compile in a place, if there is a slot. -/
def final (w : Workload) (outcome : SlotKind → CompileOutcome) (place : SlotKind) :
    Option (Except SlotFailure CompiledModel) :=
  (w.slot? place).map fun x => x.resultOf (outcome place)

def modelAt (w : Workload) (c : Channels) (place : SlotKind) : Option CompiledModel :=
  (w.slot? place).bind fun x => x.modelIn (c place).current

theorem modelAt_mono {model : CompiledModel} (h : w.modelAt c place = some model) (hOrder : c.Precede d) :
    w.modelAt d place = some model := by
  obtain ⟨x, hSlot, hModel⟩ := Option.bind_eq_some_iff.mp h
  have hSome : (c place).current ≠ .pending := by
    intro hPending
    rw [hPending, Slot.modelIn_pending] at hModel
    cases hModel
  rw [modelAt, hSlot, Option.bind_some, (hOrder place).current hSome, hModel]

theorem modelAt_of_absent (h : w.slot? place = none) (c : Channels) : w.modelAt c place = none := by
  rw [modelAt, h, Option.bind_none]

end Workload

/-! ## Settling -/

/-- What has come of some slots: the first model, and the failures. -/
structure Tally where
  best : Option CompiledModel
  failures : List SlotFailure

namespace Tally

def empty : Tally := ⟨none, []⟩

def add (t : Tally) : Except SlotFailure CompiledModel → Tally
  | .ok model => { t with best := t.best <|> some model }
  | .error f => { t with failures := t.failures ++ [f] }

end Tally

/-- How far one has come who waits for the slots in turn. -/
structure Settling where
  /-- The places that are left; the first one is waited for. -/
  places : List SlotKind
  waiting : Waiting
  tally : Tally

namespace Settling

variable {w : Workload} {outcome : SlotKind → CompileOutcome} {c d : Channels} {x : Settling}

def start : Settling := ⟨SlotKind.preferred, .blocked, .empty⟩

/-- One look: an absent slot is passed over, and one that has resolved is counted. -/
def step (w : Workload) (c : Channels) (x : Settling) : Settling :=
  match x.places with
  | [] => x
  | place :: rest =>
    match w.slot? place with
    | none => ⟨rest, .blocked, x.tally⟩
    | some slot =>
      match x.waiting.step (c place) with
      | .done state => ⟨rest, .blocked, x.tally.add (slot.waited state)⟩
      | waiting => { x with waiting := waiting }

def result? (x : Settling) : Option (Except DispatchError CompiledModel) :=
  if x.places = [] then some (Workload.conclude x.tally.best x.tally.failures) else none

/-- What the slots in some places come to in the end. -/
def tallyOf (w : Workload) (outcome : SlotKind → CompileOutcome) (places : List SlotKind) : Tally :=
  (places.filterMap (w.final outcome)).foldl Tally.add .empty

/-- What a settling knows: it has counted the final results of the places that it has passed. -/
def Sound (w : Workload) (outcome : SlotKind → CompileOutcome) (c : Channels) (x : Settling) : Prop :=
  (∃ past, past ++ x.places = SlotKind.preferred ∧ x.tally = tallyOf w outcome past) ∧
    ∀ place, x.places.head? = some place → x.waiting.Sound (c place)

theorem sound_start (w : Workload) (outcome : SlotKind → CompileOutcome) (c : Channels) :
    start.Sound w outcome c :=
  ⟨⟨[], rfl, rfl⟩, fun _ _ => trivial⟩

theorem Sound.mono (h : x.Sound w outcome c) (hOrder : c.Precede d) : x.Sound w outcome d :=
  ⟨h.1, fun place hPlace => (h.2 place hPlace).mono (hOrder place)⟩

theorem tallyOf_concat (places : List SlotKind) (place : SlotKind) :
    tallyOf w outcome (places ++ [place]) =
      match w.final outcome place with
      | none => tallyOf w outcome places
      | some result => (tallyOf w outcome places).add result := by
  rw [tallyOf, List.filterMap_append, List.foldl_append]
  cases hFinal : w.final outcome place <;> simp [List.filterMap, hFinal, tallyOf]

theorem Sound.step (h : x.Sound w outcome c)
    (hChannels : ∀ place, (c place).current = .pending ∨ (c place).current = (outcome place).state) :
    (x.step w c).Sound w outcome c := by
  obtain ⟨places, waiting, tally⟩ := x
  obtain ⟨⟨past, hPast, hTally⟩, hWaiting⟩ := h
  cases places with
  | nil => exact ⟨⟨past, hPast, hTally⟩, hWaiting⟩
  | cons place rest =>
    have hPassed : past ++ [place] ++ rest = SlotKind.preferred := by
      rw [← hPast, List.append_assoc, List.singleton_append]
    have hHead := hWaiting place rfl
    cases hSlot : w.slot? place with
    | none =>
      have hFinal : w.final outcome place = none := by rw [Workload.final, hSlot, Option.map_none]
      simp only [Settling.step, hSlot]
      refine ⟨⟨past ++ [place], hPassed, ?_⟩, fun _ _ => trivial⟩
      rw [tallyOf_concat, hFinal, ← hTally]
    | some slot =>
      have hFinal : w.final outcome place = some (slot.resultOf (outcome place)) := by
        rw [Workload.final, hSlot, Option.map_some]
      simp only [Settling.step, hSlot]
      split
      · next state hDone =>
        have hResult : (waiting.step (c place)).result? = some state := by rw [hDone]; rfl
        obtain ⟨hOutcome, -⟩ := hHead.step.result (hChannels place) hResult
        refine ⟨⟨past ++ [place], hPassed, ?_⟩, fun _ _ => trivial⟩
        rw [tallyOf_concat, hFinal, hOutcome, Slot.waited_state, ← hTally]
      · refine ⟨⟨past, hPast, hTally⟩, fun other hOther => ?_⟩
        cases hOther
        exact hHead.step

theorem Sound.result (h : x.Sound w outcome c) {r : Except DispatchError CompiledModel}
    (hResult : x.result? = some r) :
    r = Workload.conclude (tallyOf w outcome SlotKind.preferred).best
      (tallyOf w outcome SlotKind.preferred).failures := by
  obtain ⟨⟨past, hPast, hTally⟩, -⟩ := h
  rw [result?] at hResult
  split at hResult
  · next hPlaces =>
    rw [hPlaces, List.append_nil] at hPast
    cases hResult
    rw [hTally, hPast]
  · cases hResult

/-- How many looks are left at most, once every slot has resolved. -/
def left (x : Settling) : Nat :=
  match x.places with
  | [] => 0
  | _ :: rest => max 1 x.waiting.left + 4 * rest.length

theorem left_blocked (places : List SlotKind) (t : Tally) :
    left ⟨places, .blocked, t⟩ = 4 * places.length := by
  cases places <;> simp [left, Waiting.left]; omega

theorem left_step (x : Settling)
    (hResolved : ∀ place, w.slot? place ≠ none → (c place).current ≠ .pending) :
    (x.step w c).left ≤ x.left - 1 := by
  obtain ⟨places, waiting, tally⟩ := x
  cases places with
  | nil => simp [step, left]
  | cons place rest =>
    cases hSlot : w.slot? place with
    | none =>
      simp only [step, hSlot]
      rw [left_blocked]
      simp only [left]
      omega
    | some slot =>
      have hLooks := waiting.left_step (hResolved place (by simp [hSlot]))
      simp only [step, hSlot]
      split
      · rw [left_blocked]
        simp only [left]
        omega
      · next hNot =>
        have hOpen := Waiting.left_ne_zero hNot
        simp only [left]
        omega

theorem left_step_le (w : Workload) (c : Channels) (x : Settling) : (x.step w c).left ≤ x.left := by
  obtain ⟨places, waiting, tally⟩ := x
  cases places with
  | nil => simp [step, left]
  | cons place rest =>
    cases hSlot : w.slot? place with
    | none =>
      simp only [step, hSlot]
      rw [left_blocked]
      simp only [left]
      omega
    | some slot =>
      have hLooks := waiting.left_step_le (c place)
      simp only [step, hSlot]
      split
      · rw [left_blocked]
        simp only [left]
        omega
      · simp only [left]
        omega

theorem left_eq_zero : x.left = 0 ↔ x.result?.isSome := by
  obtain ⟨places, waiting, tally⟩ := x
  cases places with
  | nil => simp [left, result?]
  | cons place rest => simp [left, result?]

end Settling

/-! ## Polling -/

/-- How far one has come who looks for the best model that is there. -/
inductive Polling
  /-- The places that are left; the first one is being read. -/
  | looking (places : List SlotKind) (r : Reading)
  | found (model : CompiledModel)

namespace Polling

variable {w : Workload} {outcome : SlotKind → CompileOutcome} {c d e : Channels} {x : Polling}

def start : Polling := .looking SlotKind.preferred .start

/-- One look: an absent slot, and one that gives no model, is passed over. -/
def step (w : Workload) (c : Channels) : Polling → Polling
  | looking [] r => looking [] r
  | looking (place :: rest) r =>
    match w.slot? place with
    | none => looking rest .start
    | some slot =>
      match r.step (c place) with
      | .done state =>
        match slot.modelIn state with
        | some model => found model
        | none => looking rest .start
      | r => looking (place :: rest) r
  | found model => found model

/-- The model that was found, if any, once the search has ended. -/
def result? : Polling → Option (Option CompiledModel)
  | looking [] _ => some none
  | looking (_ :: _) _ => none
  | found model => some (some model)

/-- What a polling knows that started when the channels were `c` and has come as far as `x` now that they
are `d`: places that were passed over had no model at the start, and a model that was found is there. -/
def Since (w : Workload) (c d : Channels) : Polling → Prop
  | looking places r =>
    (∃ past, past ++ places = SlotKind.preferred ∧ ∀ place ∈ past, w.modelAt c place = none) ∧
      ∀ place, places.head? = some place → r.Since (c place) (d place)
  | found model =>
    ∃ past place rest, past ++ place :: rest = SlotKind.preferred ∧
      (∀ other ∈ past, w.modelAt c other = none) ∧ w.modelAt d place = some model

theorem since_start (w : Workload) (c d : Channels) : start.Since w c d :=
  ⟨⟨[], rfl, by simp⟩, fun _ _ => trivial⟩

theorem Since.mono (h : x.Since w c d) (hOrder : d.Precede e) : x.Since w c e := by
  cases x with
  | looking places r => exact ⟨h.1, fun place hPlace => (h.2 place hPlace).mono (hOrder place)⟩
  | found model =>
    obtain ⟨past, place, rest, hPast, hPassed, hModel⟩ := h
    exact ⟨past, place, rest, hPast, hPassed, Workload.modelAt_mono hModel hOrder⟩

/-- A reading that has found no model started when there was none. -/
theorem modelAt_eq_none {place : SlotKind} {slot : Slot} {state : SlotState}
    (hSlot : w.slot? place = some slot) (h : (Reading.done state).Since (c place) (d place))
    (hOrder : c.Precede d) (hModel : slot.modelIn state = none) : w.modelAt c place = none := by
  rw [Workload.modelAt, hSlot, Option.bind_some]
  by_cases hPending : (c place).current = .pending
  · rw [hPending, Slot.modelIn_pending]
  · rcases h with ⟨-, hNone⟩ | ⟨-, hState⟩
    · exact absurd hNone hPending
    · rw [← (hOrder place).current hPending, ← hState, hModel]

theorem Since.step (h : x.Since w c d) (hOrder : c.Precede d) : (x.step w d).Since w c d := by
  cases x with
  | found model => exact h
  | looking places r =>
    cases places with
    | nil => exact h
    | cons place rest =>
      obtain ⟨⟨past, hPast, hPassed⟩, hReading⟩ := h
      have hOne : past ++ [place] ++ rest = SlotKind.preferred := by
        rw [← hPast, List.append_assoc, List.singleton_append]
      -- what is known if this place has no model either
      have hNext : w.modelAt c place = none →
          (looking rest .start).Since w c d := fun hNone =>
        ⟨⟨past ++ [place], hOne, fun other hOther => by
          rcases List.mem_append.mp hOther with hOther | hOther
          · exact hPassed other hOther
          · rw [List.mem_singleton.mp hOther, hNone]⟩, fun _ _ => trivial⟩
      cases hSlot : w.slot? place with
      | none =>
        simp only [Polling.step, hSlot]
        exact hNext (Workload.modelAt_of_absent hSlot c)
      | some slot =>
        have hRead := (hReading place rfl).step (hOrder place)
        simp only [Polling.step, hSlot]
        split
        · next state hDone =>
          rw [hDone] at hRead
          split
          · next model hModel =>
            refine ⟨past, place, rest, hPast, hPassed, ?_⟩
            rcases hRead with ⟨rfl, -⟩ | ⟨-, hState⟩
            · rw [Slot.modelIn_pending] at hModel
              cases hModel
            · rw [Workload.modelAt, hSlot, Option.bind_some, ← hState, hModel]
          · next hModel => exact hNext (modelAt_eq_none hSlot hRead hOrder hModel)
        · refine ⟨⟨past, hPast, hPassed⟩, fun other hOther => ?_⟩
          cases hOther
          exact hRead

def left : Polling → Nat
  | looking [] _ => 0
  | looking (_ :: rest) r => max 1 r.left + 3 * rest.length
  | found _ => 0

theorem left_looking_start (places : List SlotKind) :
    (looking places .start).left = 3 * places.length := by
  cases places <;> simp [left, Reading.left]; omega

theorem left_step (x : Polling) (c : Channels) : (x.step w c).left ≤ x.left - 1 := by
  cases x with
  | found model => simp [step, left]
  | looking places r =>
    cases places with
    | nil => simp [step, left]
    | cons place rest =>
      cases hSlot : w.slot? place with
      | none =>
        simp only [step, hSlot]
        rw [left_looking_start]
        simp only [left]
        omega
      | some slot =>
        have hLooks := r.left_step (c place)
        simp only [step, hSlot]
        split
        · split
          · simp [left]
          · rw [left_looking_start]
            simp only [left]
            omega
        · next hNot =>
          have hOpen := Reading.left_ne_zero hNot
          simp only [left]
          omega

theorem left_eq_zero : x.left = 0 ↔ x.result?.isSome := by
  cases x with
  | found model => simp [left, result?]
  | looking places r =>
    cases places with
    | nil => simp [left, result?]
    | cons place rest => simp [left, result?]

end Polling

end TieredDispatch
