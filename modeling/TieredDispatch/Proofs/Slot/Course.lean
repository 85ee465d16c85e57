import TieredDispatch.Proofs.Session.Wait

/-!
# The course of a slot

A slot is made for a device, its task starts once, and reports once.  Neither changes the place and the device
of the slot, and after the start it is settled what the report will be.

* `Slot.report`: the task reports, at whatever time.
* `Slot.Sound`: a slot that has got where it is by starting and reporting.
* `Slot.resolution?`: what a slot will say once its task has reported.
* `Slot.Continues`: whether a slot is what a started one has become.
-/

namespace TieredDispatch

namespace Slot

variable {x y z : Slot} {c : Catalog} {now : Nat}

/-! ## Starting -/

/-- Whether the task has been started. -/
def isStarted (x : Slot) : Bool :=
  match x.task with
  | .queued _ _ => false
  | _ => true

theorem isStarted_iff : x.isStarted = true ↔ x.Started := by
  obtain ⟨kind, device, channel, task⟩ := x
  cases task <;> simp [isStarted, Started]

theorem Spawned.not_started {model : ModelSource} (h : x.Spawned model) : x.isStarted = false := by
  rw [h]
  rfl

theorem isStarted_start (x : Slot) (c : Catalog) (now : Nat) : (x.start c now).1.isStarted = true :=
  isStarted_iff.mpr (started_start x c now)

/-- A task starts only once. -/
theorem start_of_isStarted (h : x.isStarted = true) (c : Catalog) (now : Nat) : x.start c now = (x, none) := by
  obtain ⟨kind, device, channel, task⟩ := x
  cases task with
  | queued model config => cases h
  | running due outcome => rfl
  | ended => rfl

/-- A task that starts asks the service for its device. -/
theorem snd_start (x : Slot) (c : Catalog) (now : Nat) :
    (x.start c now).2 = if x.isStarted then none else c.serviceFor? x.device := by
  obtain ⟨kind, device, channel, task⟩ := x
  cases task with
  | queued model config => exact c.fst_compile device model config
  | running due outcome => rfl
  | ended => rfl

@[simp] theorem kind_start (x : Slot) (c : Catalog) (now : Nat) : (x.start c now).1.kind = x.kind := by
  rw [start]
  split <;> rfl

/-! ## Reporting -/

/-- The task reports the outcome of its compile, whatever the time is. -/
def report (x : Slot) : Slot :=
  match x.task with
  | .running _ outcome => { x with channel := x.channel.afterAll outcome.steps, task := .ended }
  | _ => x

@[simp] theorem kind_report (x : Slot) : x.report.kind = x.kind := by
  rw [report]
  split <;> rfl

@[simp] theorem device_report (x : Slot) : x.report.device = x.device := by
  rw [report]
  split <;> rfl

@[simp] theorem isStarted_report (x : Slot) : x.report.isStarted = x.isStarted := by
  obtain ⟨kind, device, channel, task⟩ := x
  cases task <;> rfl

/-- A task reports only once. -/
@[simp] theorem report_report (x : Slot) : x.report.report = x.report := by
  obtain ⟨kind, device, channel, task⟩ := x
  cases task <;> rfl

/-- Whether the task has its compile behind it at the time `now`, but has not reported. -/
def isDue (x : Slot) (now : Nat) : Bool :=
  x.due?.any fun due => due ≤ now

theorem advance_eq (x : Slot) (now : Nat) : x.advance now = if x.isDue now then x.report else x := by
  obtain ⟨kind, device, channel, task⟩ := x
  cases task <;> simp [advance, isDue, due?, report]

/-! ## What a slot comes to -/

/-- A slot that has got where it is by starting and reporting: nothing was said before the end, and the
outcome of a compile at the end. -/
def Sound (x : Slot) : Prop :=
  (x.task ≠ .ended → x.channel = .fresh) ∧
    (x.task = .ended → ∃ outcome : CompileOutcome, x.channel = Channel.fresh.afterAll outcome.steps)

theorem Spawned.sound {model : ModelSource} (h : x.Spawned model) : x.Sound := by
  rw [h]
  exact ⟨fun _ => rfl, fun h => by cases h⟩

theorem Sound.start (h : x.Sound) (c : Catalog) (now : Nat) : (x.start c now).1.Sound := by
  obtain ⟨kind, device, channel, task⟩ := x
  cases task with
  | queued model config => exact ⟨fun _ => h.1 (by simp), fun h => by cases h⟩
  | running due outcome => exact h
  | ended => exact h

theorem Sound.report (h : x.Sound) : x.report.Sound := by
  obtain ⟨kind, device, channel, task⟩ := x
  cases task with
  | queued model config => exact h
  | running due outcome =>
    have hFresh : channel = .fresh := h.1 (by simp)
    rw [Slot.report, hFresh]
    exact ⟨fun hNot => absurd rfl hNot, fun _ => ⟨outcome, rfl⟩⟩
  | ended => exact h

/-- What a slot will say once its task has reported. -/
def resolution? (x : Slot) : Option (Except SlotFailure CompiledModel) :=
  x.report.result?

theorem result?_of_channel (outcome : CompileOutcome)
    (h : x.channel = Channel.fresh.afterAll outcome.steps) : x.result? = some (x.resultOf outcome) := by
  rw [result?, h, current_afterAll_steps]
  cases outcome <;> rfl

/-- It is settled what a started task will report. -/
theorem Sound.resolution?_isSome (h : x.Sound) (hStarted : x.isStarted = true) :
    x.resolution?.isSome = true := by
  obtain ⟨kind, device, channel, task⟩ := x
  cases task with
  | queued model config => cases hStarted
  | running due outcome =>
    have hFresh : channel = .fresh := h.1 (by simp)
    rw [resolution?, Slot.report, hFresh, result?_of_channel outcome rfl]
    rfl
  | ended =>
    obtain ⟨outcome, hChannel⟩ := h.2 rfl
    rw [resolution?, Slot.report, result?_of_channel outcome hChannel]
    rfl

/-- Whatever a slot says, it is what it comes to. -/
theorem Sound.result?_eq (h : x.Sound) : x.result? = none ∨ x.result? = x.resolution? := by
  obtain ⟨kind, device, channel, task⟩ := x
  cases task with
  | queued model config => exact Or.inr rfl
  | running due outcome =>
    have hFresh : channel = .fresh := h.1 (by simp)
    rw [hFresh]
    exact Or.inl rfl
  | ended => exact Or.inr rfl

/-- A task that finds no service for its device fails, and its slot says why. -/
theorem Sound.resolution?_start (h : x.Sound) (hQueued : x.isStarted = false)
    (hService : c.serviceFor? x.device = none) :
    (x.start c now).1.resolution? = some (.error (x.failure (DeviceError.unavailable x.device).message)) := by
  obtain ⟨kind, device, channel, task⟩ := x
  cases task with
  | queued model config =>
    have hFresh : channel = .fresh := h.1 (by simp)
    simp only [Slot.start, Catalog.compile, hService, hFresh]
    exact result?_of_channel (.refused (.unavailable device)) rfl
  | running due outcome => cases hQueued
  | ended => cases hQueued

/-- Whether a slot is what a started one has become: the same, or the same with its report. -/
def Continues (x y : Slot) : Prop :=
  y = x ∨ y = x.report

theorem Continues.refl (x : Slot) : x.Continues x := Or.inl rfl

theorem Continues.trans (h : x.Continues y) (g : y.Continues z) : x.Continues z := by
  rcases g with rfl | rfl
  · exact h
  · rcases h with rfl | rfl
    · exact Or.inr rfl
    · exact Or.inr (report_report x)

theorem Continues.isStarted_eq (h : x.Continues y) : y.isStarted = x.isStarted := by
  rcases h with rfl | rfl
  · rfl
  · exact isStarted_report x

theorem Continues.kind_eq (h : x.Continues y) : y.kind = x.kind := by
  rcases h with rfl | rfl
  · rfl
  · exact kind_report x

theorem Continues.device_eq (h : x.Continues y) : y.device = x.device := by
  rcases h with rfl | rfl
  · rfl
  · exact device_report x

theorem Continues.resolution?_eq (h : x.Continues y) : y.resolution? = x.resolution? := by
  rcases h with rfl | rfl
  · rfl
  · rw [resolution?, report_report, resolution?]

end Slot

end TieredDispatch
