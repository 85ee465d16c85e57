import TieredDispatch.Workload

/-!
# Workloads in time

A slot is *quiet* at a moment if its task was started and is not due yet, or has ended.  A task that
is due has reported, and from then on its slot says what came of the compile; how long the compile
took does not matter any more.

* `Slot.Started.quiet_advance`: a started task that time has passed is quiet.
* `Slot.Quiet.start_eq`, `Slot.Quiet.advance_eq`: there is nothing to do for a quiet slot.
* `Slot.result?_advance`: what a slot says of a task that is due.
* `Workload.verdict`: what a workload settles to, given the results of its slots.
* `Workload.settle?_awaited`: what a workload settles to once all of its tasks have reported.
-/

namespace TieredDispatch

/-! ## Slots -/

namespace Slot

variable {x : Slot} {now : Nat}

/-- Whether the task of a slot has been started. -/
def Started (x : Slot) : Prop :=
  ∀ model config, x.task ≠ .queued model config

/-- Whether there is nothing to do for a slot at the time `now`. -/
def Quiet (now : Nat) (x : Slot) : Prop :=
  x.Started ∧ ∀ due outcome, x.task = .running due outcome → now < due

theorem started_start (x : Slot) (c : Catalog) (now : Nat) : (x.start c now).1.Started := by
  intro model config
  rw [start]
  split
  · simp
  · next h => exact h model config

/-- A task that is not due stays under way, and one that is due has ended. -/
theorem Started.quiet_advance (h : x.Started) (now : Nat) : (x.advance now).Quiet now := by
  rw [advance]
  split
  · next due outcome hTask =>
    split
    · simp [Quiet, Started]
    · next hDue =>
      refine ⟨h, fun due' outcome' hTask' => ?_⟩
      rw [hTask] at hTask'
      cases hTask'
      omega
  · next hTask => exact ⟨h, fun due outcome hRunning => absurd hRunning (hTask due outcome)⟩

theorem Quiet.start_eq (h : x.Quiet now) (c : Catalog) (time : Nat) : x.start c time = (x, none) := by
  rw [start]
  split
  · next model config hTask => exact absurd hTask (h.1 model config)
  · rfl

theorem Quiet.advance_eq (h : x.Quiet now) : x.advance now = x := by
  rw [advance]
  split
  · next due outcome hTask =>
    have hDue := h.2 due outcome hTask
    rw [if_neg (by omega)]
  · rfl

/-- Letting time pass twice is letting it pass once, to the later moment. -/
theorem advance_advance (x : Slot) {t u : Nat} (h : t ≤ u) :
    (x.advance t).advance u = x.advance u := by
  rw [advance.eq_def x t]
  split
  · next due outcome hTask =>
    by_cases hDue : due ≤ t
    · rw [if_pos hDue, advance.eq_def x u, hTask]
      simp only [advance, if_pos (Nat.le_trans hDue h)]
    · rw [if_neg hDue]
  · rfl

/-- What the outcome of a compile means to an observer of its slot. -/
def resultOf (x : Slot) : CompileOutcome → Except SlotFailure CompiledModel
  | .compiled model => .ok model
  | .refused e => .error (x.failure e.message)
  | .lost => .error (x.failure lostReason)

/-- A task that is due has reported the outcome of its compile. -/
theorem result?_advance {due : Nat} {outcome : CompileOutcome} (hTask : x.task = .running due outcome)
    (hChannel : x.channel = .fresh) (h : due ≤ now) :
    (x.advance now).result? = some (x.resultOf outcome) := by
  rw [advance, hTask]
  simp only [if_pos h, result?, hChannel, current_afterAll_steps]
  cases outcome <;> rfl

/-- What a slot will say if its device compiles `model`. -/
def fate (c : Catalog) (model : ModelSource) (x : Slot) : Except SlotFailure CompiledModel :=
  x.resultOf (c.compile x.device model .empty).2.outcome

/-- The time at which the task of a slot reports if it is started at the time `now`. -/
def dueFrom (c : Catalog) (model : ModelSource) (now : Nat) (x : Slot) : Nat :=
  now + (c.compile x.device model .empty).2.latency

/-- A slot as a load makes it for `model`. -/
def Spawned (model : ModelSource) (x : Slot) : Prop :=
  x = spawn x.kind x.device model

theorem spawned_spawn (kind : SlotKind) (d : DeviceId) (model : ModelSource) :
    (spawn kind d model).Spawned model := rfl

theorem Spawned.result? {model : ModelSource} (h : x.Spawned model) (c : Catalog) {time : Nat}
    (hDue : x.dueFrom c model now ≤ time) :
    ((x.start c now).1.advance time).result? = some (x.fate c model) := by
  rw [h] at hDue ⊢
  exact result?_advance rfl rfl hDue

/-- A spawned task that has not reported when it starts tells when it will. -/
theorem Spawned.due? {model : ModelSource} (h : x.Spawned model) (c : Catalog)
    (hDue : ¬ x.dueFrom c model now ≤ now) :
    ((x.start c now).1.advance now).due? = some (x.dueFrom c model now) := by
  rw [h] at hDue ⊢
  have hNot : ¬ now + (c.compile x.device model .empty).2.latency ≤ now := hDue
  simp only [start, spawn, advance, if_neg hNot]
  rfl

end Slot

/-! ## Workloads -/

namespace Workload

variable {w : Workload}

theorem slots_mapSlots (w : Workload) (f : Slot → Slot) : (w.mapSlots f).slots = w.slots.map f := by
  obtain ⟨processor, accelerator, perfCount⟩ := w
  cases processor <;> cases accelerator <;> rfl

theorem mapSlots_eq_self {f : Slot → Slot} (h : ∀ x ∈ w.slots, f x = x) : w.mapSlots f = w := by
  obtain ⟨processor, accelerator, perfCount⟩ := w
  simp only [slots, List.mem_append, Option.mem_toList] at h
  simp only [mapSlots, mk.injEq, and_true]
  constructor
  · cases processor with
    | none => rfl
    | some x => rw [Option.map_some, h x (Or.inr rfl)]
  · cases accelerator with
    | none => rfl
    | some x => rw [Option.map_some, h x (Or.inl rfl)]

theorem mapSlots_mapSlots (w : Workload) (f g : Slot → Slot) :
    (w.mapSlots f).mapSlots g = w.mapSlots (g ∘ f) := by
  simp only [mapSlots, Option.map_map]

theorem start_of_quiet {now : Nat} (h : ∀ x ∈ w.slots, x.Quiet now) (c : Catalog) (time : Nat) :
    w.start c time = (w, []) := by
  rw [start, mapSlots_eq_self fun x hx => by rw [(h x hx).start_eq]]
  rw [List.filterMap_eq_nil_iff.mpr fun x hx => by rw [(h x hx).start_eq]]

theorem advance_of_quiet {now : Nat} (h : ∀ x ∈ w.slots, x.Quiet now) : w.advance now = w :=
  mapSlots_eq_self fun x hx => (h x hx).advance_eq

/-- No task of a workload is due after the time that is waited for. -/
theorem le_dueAfter {x : Slot} (hx : x ∈ w.slots) {due : Nat} (hDue : x.due? = some due) (now : Nat) :
    due ≤ w.dueAfter now := by
  have hMax : ∀ (l : List Nat) (n : Nat), n ≤ l.foldl max n ∧ ∀ m ∈ l, m ≤ l.foldl max n := by
    intro l
    induction l with
    | nil => simp
    | cons a l ih =>
      intro n
      obtain ⟨hFirst, hRest⟩ := ih (max n a)
      simp only [List.foldl_cons]
      refine ⟨by omega, fun m hm => ?_⟩
      rcases List.mem_cons.mp hm with rfl | hm
      · omega
      · exact hRest m hm
  exact (hMax _ now).2 due (List.mem_filterMap.mpr ⟨x, hx, hDue⟩)

/-! ## Results -/

/-- What a workload settles to, given the results of its slots. -/
def verdict (w : Workload) (result : Slot → Except SlotFailure CompiledModel) :
    Except DispatchError CompiledModel :=
  conclude (w.slots.findSome? fun x => (result x).toOption)
    (w.slots.filterMap fun x =>
      match result x with
      | .ok _ => none
      | .error f => some f)

/-- The result of the only slot is that of the workload. -/
theorem verdict_of_single {x : Slot} (h : w.slots = [x])
    (result : Slot → Except SlotFailure CompiledModel) :
    w.verdict result = (result x).mapError .compileFailed := by
  rw [verdict, h]
  cases hResult : result x <;> simp only [List.findSome?, List.filterMap, hResult] <;> rfl

/-- Of two slots the first is preferred, and the failures count only if both have failed. -/
theorem verdict_of_pair {x y : Slot} (h : w.slots = [x, y])
    (result : Slot → Except SlotFailure CompiledModel) :
    w.verdict result =
      match result x, result y with
      | .ok model, _ => .ok model
      | .error _, .ok model => .ok model
      | .error f, .error g => .error (.allSlotsFailed [f, g]) := by
  rw [verdict, h]
  cases hx : result x <;> cases hy : result y <;>
    simp only [List.findSome?, List.filterMap, hx, hy] <;> rfl

/-- Collecting goes through the results in order, and keeps the first model and every failure. -/
theorem collect_map {f : Slot → Slot} {result : Slot → Except SlotFailure CompiledModel}
    {slots : List Slot} (h : ∀ x ∈ slots, (f x).result? = some (result x))
    (best : Option CompiledModel) (failures : List SlotFailure) :
    collect best failures (slots.map f) =
      some (conclude (best <|> slots.findSome? fun x => (result x).toOption)
        (failures ++ slots.filterMap fun x =>
          match result x with
          | .ok _ => none
          | .error f => some f)) := by
  induction slots generalizing best failures with
  | nil => simp [collect]
  | cons x slots ih =>
    have hRest := ih fun y hy => h y (List.mem_cons_of_mem _ hy)
    rw [List.map_cons, collect, h x List.mem_cons_self]
    cases hResult : result x with
    | ok model =>
      simp only [hRest]
      cases best <;> simp [hResult, Except.toOption]
    | error failure =>
      simp only [hRest]
      cases best <;> simp [hResult, Except.toOption]

theorem settle?_mapSlots {f : Slot → Slot} {result : Slot → Except SlotFailure CompiledModel}
    (h : ∀ x ∈ w.slots, (f x).result? = some (result x)) :
    (w.mapSlots f).settle? = some (w.verdict result) := by
  rw [settle?, slots_mapSlots, collect_map h]
  rfl

/-- A workload whose tasks were started at the time `now`, once the last of them has reported. -/
def awaited (w : Workload) (c : Catalog) (now : Nat) : Workload :=
  let started := (w.start c now).1.advance now
  started.advance (max now (started.dueAfter now))

/-- A workload settles once all of its tasks have reported.  What it settles to depends on the outcomes
of the compiles, but not on the time that they took. -/
theorem settle?_awaited {model : ModelSource} (h : ∀ x ∈ w.slots, x.Spawned model) (c : Catalog)
    (now : Nat) : (w.awaited c now).settle? = some (w.verdict (Slot.fate c model)) := by
  rw [awaited]
  generalize hTime : max now (((w.start c now).1.advance now).dueAfter now) = time
  have hStarted : (w.start c now).1.advance now =
      w.mapSlots fun x => (x.start c now).1.advance now := by
    rw [advance, start, mapSlots_mapSlots]
    rfl
  rw [advance, hStarted, mapSlots_mapSlots]
  refine settle?_mapSlots fun x hx => ?_
  have hLater : now ≤ time := by omega
  rw [Function.comp_apply, Slot.advance_advance _ hLater]
  refine (h x hx).result? c ?_
  by_cases hDue : x.dueFrom c model now ≤ now
  · omega
  · -- a task that has not reported at once is among those that are waited for
    have hMem : (x.start c now).1.advance now ∈ ((w.start c now).1.advance now).slots := by
      rw [hStarted, slots_mapSlots]
      exact List.mem_map_of_mem hx
    have hWaited := le_dueAfter hMem ((h x hx).due? c hDue) now
    omega

end Workload

end TieredDispatch
