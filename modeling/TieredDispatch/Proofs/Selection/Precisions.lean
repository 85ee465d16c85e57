import TieredDispatch.Proofs.Selection.Policy

/-!
# Choices for different precisions

Which tier is the best one does not depend on what is wanted of its devices.  What is wanted decides only
whether one of them will do, so the choices of one list for different precisions are ordered: where an
accelerator will do for some precision, one of the same tier will do for none, and FP32 is never harder to
serve than FP16.

* `IsFirst.idxOf_le`: the first element with a property comes before every other one that has it.
* `Selector.Suits`: the devices that will do for a precision.
* `Selector.Policy.of_accelerator`, `Selector.exists_policy_of_suits`: an accelerator of a tier is chosen
  exactly where it is the best one and has a device that will do.
* `Selector.Policy.of_fallsBack`: what is chosen for no precision as the last resort is chosen for all.
* `Selector.choices_ordered`: how the choices for different precisions are related.
-/

namespace TieredDispatch

theorem IsFirst.idxOf_le {α : Type} [BEq α] [LawfulBEq α] {P : α → Prop} {l : List α} {x y : α}
    (h : IsFirst P l x) (hy : P y) : l.idxOf x ≤ l.idxOf y := by
  obtain ⟨hx, before, after, rfl, hBefore⟩ := h
  have hNotMem : ∀ z, P z → z ∉ before := fun z hz hMem => hBefore z hMem hz
  rw [List.idxOf_append_of_notMem (hNotMem x hx), List.idxOf_append_of_notMem (hNotMem y hy),
    List.idxOf_cons_self]
  omega

namespace Selector

variable {s : Selector} {devices : List DeviceId} {wanted : Option Precision} {d x : DeviceId}
  {t : Tier} {r : Except SelectError DeviceId}

/-! ## Devices that will do -/

/-- Whether a device will do for a precision: it serves it, or it serves FP16 where FP32 is wanted. -/
def Suits (s : Selector) (wanted : Option Precision) (d : DeviceId) : Prop :=
  s.Serves wanted d ∨ wanted = some .fp32 ∧ s.Serves (some .fp16) d

theorem unserved_iff :
    s.Unserved devices wanted ↔
      ∀ t, s.BestTier devices t → ∀ d ∈ devices, s.InTier d t → ¬ s.Suits wanted d := by
  simp only [Unserved, Suits, not_or, not_and]

/-- A device that serves something has a manifest that can be read, and that is enough if nothing is
wanted. -/
theorem Serves.any (h : s.Serves wanted d) : s.Serves none d := by
  obtain ⟨m, hManifest, -⟩ := h
  exact ⟨m, hManifest, fun p hp => by cases hp⟩

theorem Suits.serves_any (h : s.Suits wanted d) : s.Serves none d := by
  rcases h with hServes | ⟨-, hServes⟩ <;> exact hServes.any

/-- What will do for FP16 will do for FP32. -/
theorem Suits.fp32 (h : s.Suits (some .fp16) d) : s.Suits (some .fp32) d := by
  rcases h with hServes | ⟨hClass, -⟩
  · exact Or.inr ⟨rfl, hServes⟩
  · cases hClass

theorem Unserved.of_any (h : s.Unserved devices none) (wanted : Option Precision) :
    s.Unserved devices wanted := by
  rw [unserved_iff] at h ⊢
  intro t hBest d hd hTier hSuits
  exact h t hBest d hd hTier (Or.inl hSuits.serves_any)

/-! ## The tier of the choice -/

theorem BestTier.isProcessor_eq_false (h : s.BestTier devices t) (hTier : s.InTier d t) :
    s.tiers.isProcessor d = false := by
  rw [← Bool.not_eq_true, ← inTier_processor_iff]
  intro hProcessor
  have hMem := h.mem
  rw [hTier.unique hProcessor] at hMem
  simp at hMem

/-- A chosen accelerator is a device of the best tier that will do. -/
theorem Policy.of_accelerator (h : s.Policy devices wanted (.ok x))
    (hAccelerator : s.tiers.isProcessor x = false) :
    ∃ t, s.BestTier devices t ∧ x ∈ devices ∧ s.InTier x t ∧ s.Suits wanted x := by
  cases h with
  | served hBest hx => exact ⟨_, hBest, hx.mem, hx.1.1, Or.inl hx.1.2⟩
  | degraded hClass hBest _ hx => exact ⟨_, hBest, hx.mem, hx.1.1, Or.inr ⟨hClass, hx.1.2⟩⟩
  | fallback _ hx =>
    rw [inTier_processor_iff.mp hx.1] at hAccelerator
    cases hAccelerator

/-- Where a device of the best tier will do, one of that tier is chosen. -/
theorem exists_policy_of_suits (hBest : s.BestTier devices t) (hd : d ∈ devices) (hTier : s.InTier d t)
    (hSuits : s.Suits wanted d) : ∃ x, s.Policy devices wanted (.ok x) ∧ s.InTier x t := by
  obtain ⟨r, hPolicy⟩ := s.exists_policy devices wanted
  have hServed : ¬ s.Unserved devices wanted := fun h => unserved_iff.mp h t hBest d hd hTier hSuits
  cases hPolicy with
  | served hBest' hx =>
    obtain rfl := hBest.unique hBest'
    exact ⟨_, .served hBest hx, hx.1.1⟩
  | degraded hClass hBest' hWanted hx =>
    obtain rfl := hBest.unique hBest'
    exact ⟨_, .degraded hClass hBest hWanted hx, hx.1.1⟩
  | fallback hUnserved _ => exact absurd hUnserved hServed
  | ineligible hUnserved _ _ => exact absurd hUnserved hServed
  | untiered hNone => exact absurd hTier (hNone d hd t)

/-- Where a device of the best tier will do for some precision, the first one of that tier with a manifest
that can be read is chosen for none, and it is not listed later. -/
theorem exists_policy_any (hBest : s.BestTier devices t) (hd : d ∈ devices) (hTier : s.InTier d t)
    (hSuits : s.Suits wanted d) :
    ∃ x, s.Policy devices none (.ok x) ∧ s.InTier x t ∧ devices.idxOf x ≤ devices.idxOf d := by
  obtain ⟨x, hPolicy, hx⟩ := exists_first_of_serves hBest hd hTier hSuits.serves_any
  exact ⟨x, hPolicy, hx.1.1, hx.idxOf_le ⟨hTier, hSuits.serves_any⟩⟩

/-! ## The last resort -/

/-- Whether a choice is the last resort: a processor, or nothing for want of one. -/
inductive FallsBack (s : Selector) : Except SelectError DeviceId → Prop
  | processor {x : DeviceId} : s.tiers.isProcessor x = true → FallsBack s (.ok x)
  | ineligible : FallsBack s (.error .noEligibleDevice)

/-- What is chosen as the last resort when nothing is wanted is chosen whatever is wanted. -/
theorem Policy.of_fallsBack (h : s.Policy devices none r) (hFallsBack : s.FallsBack r)
    (wanted : Option Precision) : s.Policy devices wanted r := by
  cases h with
  | served hBest hx =>
    cases hFallsBack with
    | processor hProcessor =>
      rw [hBest.isProcessor_eq_false hx.1.1] at hProcessor
      cases hProcessor
  | degraded hClass => cases hClass
  | fallback hUnserved hx => exact .fallback (hUnserved.of_any wanted) hx
  | ineligible hUnserved hNone hAny => exact .ineligible (hUnserved.of_any wanted) hNone hAny
  | untiered hNone => cases hFallsBack

/-- Where no device has a tier, none is found whatever is wanted. -/
theorem Policy.of_notFound {text : String} (h : s.Policy devices wanted (.error (.notFound text)))
    (other : Option Precision) : s.Policy devices other (.error (.notFound text)) := by
  cases h with
  | untiered hNone => exact .untiered hNone

/-- The choices for different precisions are ordered.  Where an accelerator is chosen for some precision,
one of the same tier, and not listed later, is chosen if nothing is wanted; where one is chosen for FP16, one
of the same tier is chosen for FP32; the last resort when nothing is wanted is the choice for every
precision; and no device is found for one precision exactly if none is found for any, nor without one. -/
theorem choices_ordered (s : Selector) {devices : List DeviceId} (hTwo : 2 ≤ devices.length) :
    (∀ p a, s.select devices (some p) = .ok a → s.tiers.isProcessor a = false →
      ∃ b t, s.select devices none = .ok b ∧ s.tiers.isProcessor b = false ∧
        s.InTier a t ∧ s.InTier b t ∧ devices.idxOf b ≤ devices.idxOf a) ∧
    (∀ a, s.select devices (some .fp16) = .ok a → s.tiers.isProcessor a = false →
      ∃ b t, s.select devices (some .fp32) = .ok b ∧ s.tiers.isProcessor b = false ∧
        s.InTier a t ∧ s.InTier b t) ∧
    (∀ r, s.FallsBack r → s.select devices none = r → ∀ p, s.select devices (some p) = r) ∧
    (∀ wanted text, s.select devices wanted = .error (.notFound text) ↔
      ∀ other, s.select devices other = .error (.notFound text)) := by
  simp only [select_eq_iff hTwo]
  refine ⟨?_, ?_, ?_, ?_⟩
  · intro p a hPolicy hAccelerator
    obtain ⟨t, hBest, hMem, hTier, hSuits⟩ := hPolicy.of_accelerator hAccelerator
    obtain ⟨b, hAny, hSame, hEarlier⟩ := exists_policy_any hBest hMem hTier hSuits
    exact ⟨b, t, hAny, hBest.isProcessor_eq_false hSame, hTier, hSame, hEarlier⟩
  · intro a hPolicy hAccelerator
    obtain ⟨t, hBest, hMem, hTier, hSuits⟩ := hPolicy.of_accelerator hAccelerator
    obtain ⟨b, hSingle, hSame⟩ := exists_policy_of_suits hBest hMem hTier hSuits.fp32
    exact ⟨b, t, hSingle, hBest.isProcessor_eq_false hSame, hTier, hSame⟩
  · intro r hFallsBack hPolicy p
    exact hPolicy.of_fallsBack hFallsBack (some p)
  · intro wanted text
    exact ⟨fun hPolicy other => hPolicy.of_notFound other, fun hAll => hAll wanted⟩

/-- For FP32 the second accelerator is chosen and for FP16 the one before it, as if nothing is wanted; a
device whose manifest cannot be read leaves every precision to the processor; and two devices without a tier
leave nothing to choose. -/
theorem choices_ordered_ranked :
    let devices : List DeviceId := [⟨"VPUX"⟩, ⟨"GPU.0"⟩, ⟨"GPU.1"⟩, ⟨"CPU"⟩]
    (∃ b t, rankedSelector.select devices none = .ok b ∧ rankedSelector.tiers.isProcessor b = false ∧
      rankedSelector.InTier ⟨"GPU.1"⟩ t ∧ rankedSelector.InTier b t ∧ devices.idxOf b ≤ 2) ∧
    (∃ b t, rankedSelector.select devices (some .fp32) = .ok b ∧
      rankedSelector.tiers.isProcessor b = false ∧
      rankedSelector.InTier ⟨"GPU.0"⟩ t ∧ rankedSelector.InTier b t) ∧
    (∀ p, rankedSelector.select [⟨"MYRIAD"⟩, ⟨"CPU"⟩] (some p) = .ok ⟨"CPU"⟩) ∧
    ∀ other, rankedSelector.select [⟨"FPGA"⟩, ⟨"GPU.2"⟩] other =
      .error (.notFound "No available device found") := by
  intro devices
  have hOrdered := choices_ordered rankedSelector (show 2 ≤ devices.length by decide)
  have hUnread := choices_ordered rankedSelector
    (show 2 ≤ [DeviceId.mk "MYRIAD", DeviceId.mk "CPU"].length by decide)
  have hUntiered := choices_ordered rankedSelector
    (show 2 ≤ [DeviceId.mk "FPGA", DeviceId.mk "GPU.2"].length by decide)
  refine ⟨?_, ?_, ?_, ?_⟩
  · exact hOrdered.1 .fp32 ⟨"GPU.1"⟩ (by decide +kernel) (by decide)
  · exact hOrdered.2.1 ⟨"GPU.0"⟩ (by decide +kernel) (by decide)
  · exact hUnread.2.2.1 _ (.processor (by decide)) (by decide +kernel)
  · exact (hUntiered.2.2.2 none _).mp (by decide +kernel)

end Selector

end TieredDispatch
