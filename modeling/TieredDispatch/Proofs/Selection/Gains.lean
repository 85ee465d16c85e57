import TieredDispatch.Proofs.Selection.Precisions
import TieredDispatch.Proofs.Selection.Snapshot

/-!
# Choices after a gain

Devices may gain capabilities: a manifest has more tags than before, or can be read where it could not.  As
long as the full names stay what they are, so do the tiers, and the best one with them; a device that would
do before still does.  Which device is chosen may change, even to one that is listed later, but neither the
tier of a chosen accelerator nor whether something is chosen.

* `Lookup.ExtendedOn`: look-ups between which the devices of a list have only gained.
* `Selector.bestTier_congr`, `Selector.Suits.extended`: what stays the same, and what only grows.
* `Selector.accelerator_of_extended`: an accelerator is never lost by a gain.
-/

namespace TieredDispatch

theorem IsFirst.congr {α : Type} {P Q : α → Prop} {l : List α} {x : α} (hSame : ∀ y, P y ↔ Q y) :
    IsFirst P l x ↔ IsFirst Q l x := by
  simp only [IsFirst, hSame]

/-! ## Gains -/

namespace Lookup

/-- Whether the devices of a list have only gained from the look-up `a` to the look-up `b`: both read the same
full name or none, and a manifest that can be read in `a` can be read in `b`, with all the tags that it had. -/
structure ExtendedOn (devices : List DeviceId) (a b : Lookup) : Prop where
  fullName : ∀ d ∈ devices, (a.fullName d).toOption = (b.fullName d).toOption
  manifest : ∀ d ∈ devices, ∀ m, a.manifest d = .ok m →
    ∃ m', b.manifest d = .ok m' ∧ ∀ tag ∈ m.capabilities, tag ∈ m'.capabilities

/-- The look-up after one device has been given a tag. -/
def grant (a : Lookup) (device : DeviceId) (tag : String) : Lookup :=
  { a with manifest := fun d => (a.manifest d).map fun m => if d = device then m.withCapability tag else m }

theorem extendedOn_grant (a : Lookup) (device : DeviceId) (tag : String) (devices : List DeviceId) :
    a.ExtendedOn devices (a.grant device tag) where
  fullName d _ := rfl
  manifest d _ m hManifest := by
    refine ⟨if d = device then m.withCapability tag else m, by simp only [grant, hManifest, Except.map], ?_⟩
    intro old hOld
    split
    · exact TextSet.mem_insert.mpr (Or.inr hOld)
    · exact hOld

end Lookup

namespace Selector

variable {tiers : TierTable} {a b : Lookup} {devices : List DeviceId} {wanted : Option Precision}
  {d x : DeviceId} {t : Tier}

/-! ## What a gain leaves alone -/

theorem inTier_congr (h : (a.fullName d).toOption = (b.fullName d).toOption) :
    InTier ⟨tiers, a⟩ d t ↔ InTier ⟨tiers, b⟩ d t := by
  rw [← tierOf?_eq_some_iff, ← tierOf?_eq_some_iff, tierOf?_congr h]

/-- The best tier is told by the full names. -/
theorem bestTier_congr (h : ∀ d ∈ devices, (a.fullName d).toOption = (b.fullName d).toOption) :
    BestTier ⟨tiers, a⟩ devices t ↔ BestTier ⟨tiers, b⟩ devices t := by
  refine IsFirst.congr fun u => exists_congr fun d => and_congr_right fun hd => ?_
  exact inTier_congr (h d hd)

/-! ## What a gain adds -/

theorem Serves.extended (h : Serves ⟨tiers, a⟩ wanted d) (hGain : a.ExtendedOn devices b)
    (hd : d ∈ devices) : Serves ⟨tiers, b⟩ wanted d := by
  obtain ⟨m, hManifest, hTags⟩ := h
  obtain ⟨m', hManifest', hMore⟩ := hGain.manifest d hd m hManifest
  exact ⟨m', hManifest', fun p hp => hMore p.tag (hTags p hp)⟩

/-- A device that would do before a gain still does. -/
theorem Suits.extended (h : Suits ⟨tiers, a⟩ wanted d) (hGain : a.ExtendedOn devices b)
    (hd : d ∈ devices) : Suits ⟨tiers, b⟩ wanted d := by
  rcases h with hServes | ⟨hClass, hServes⟩
  · exact Or.inl (hServes.extended hGain hd)
  · exact Or.inr ⟨hClass, hServes.extended hGain hd⟩

/-- Where an accelerator is chosen, one of its tier is chosen after a gain. -/
theorem Policy.extended (h : Policy ⟨tiers, a⟩ devices wanted (.ok x))
    (hAccelerator : tiers.isProcessor x = false) (hGain : a.ExtendedOn devices b) :
    ∃ y t, Policy ⟨tiers, b⟩ devices wanted (.ok y) ∧ tiers.isProcessor y = false ∧
      InTier ⟨tiers, a⟩ x t ∧ InTier ⟨tiers, b⟩ y t := by
  obtain ⟨t, hBest, hMem, hTier, hSuits⟩ := h.of_accelerator hAccelerator
  have hBest' : BestTier ⟨tiers, b⟩ devices t := (bestTier_congr hGain.fullName).mp hBest
  have hTier' : InTier ⟨tiers, b⟩ x t := (inTier_congr (hGain.fullName x hMem)).mp hTier
  obtain ⟨y, hPolicy, hSame⟩ := exists_policy_of_suits hBest' hMem hTier' (hSuits.extended hGain hMem)
  exact ⟨y, t, hPolicy, hBest'.isProcessor_eq_false hSame, hTier, hSame⟩

/-- A list from which something is chosen leaves something to choose after a gain. -/
theorem exists_select_of_extended (h : select ⟨tiers, a⟩ devices wanted = .ok x)
    (hGain : a.ExtendedOn devices b) : ∃ y, select ⟨tiers, b⟩ devices wanted = .ok y := by
  match devices, h, hGain with
  | [only], _, _ => exact ⟨only, rfl⟩
  | first :: second :: rest, h, hGain =>
    have hTwo : 2 ≤ (first :: second :: rest).length := by
      simp only [List.length_cons]
      omega
    by_cases hProcessor : tiers.isProcessor x = true
    · -- the processor is still listed, so the list is not refused
      exact exists_select ⟨tiers, b⟩ (of_select h).1 hProcessor wanted
    · rw [select_eq_iff hTwo] at h
      obtain ⟨y, t, hPolicy, -⟩ := h.extended (Bool.eq_false_iff.mpr hProcessor) hGain
      exact ⟨y, (select_eq_iff hTwo).mpr hPolicy⟩

/-- A gain never loses an accelerator.  If the full names stay the same, and every manifest that can be read
can still be read and has all its tags, then a choice that succeeds still does; and where an accelerator was
chosen from at least two devices, one of the same tier is. -/
theorem accelerator_of_extended (hGain : a.ExtendedOn devices b) (wanted : Option Precision) :
    ((∃ x, select ⟨tiers, a⟩ devices wanted = .ok x) →
      ∃ y, select ⟨tiers, b⟩ devices wanted = .ok y) ∧
    (2 ≤ devices.length → ∀ x, select ⟨tiers, a⟩ devices wanted = .ok x → tiers.isProcessor x = false →
      ∃ y t, select ⟨tiers, b⟩ devices wanted = .ok y ∧ tiers.isProcessor y = false ∧
        InTier ⟨tiers, a⟩ x t ∧ InTier ⟨tiers, b⟩ y t) := by
  constructor
  · rintro ⟨x, hSelect⟩
    exact exists_select_of_extended hSelect hGain
  · intro hTwo x hSelect hAccelerator
    rw [select_eq_iff hTwo] at hSelect
    obtain ⟨y, t, hPolicy, hRest⟩ := hSelect.extended hAccelerator hGain
    exact ⟨y, t, (select_eq_iff hTwo).mpr hPolicy, hRest⟩

/-- Two discrete accelerators, the first of which has FP16, and a processor. -/
def halfLookup : Lookup :=
  .ofTable [(⟨"GPU.0"⟩, (Manifest.named "Discrete (dGPU)").withPrecision .fp16),
    (⟨"GPU.1"⟩, .named "Discrete (dGPU)")]

/-- When the second accelerator is given FP32, the choice moves on to it from the first, within the tier. -/
theorem accelerator_of_extended_later :
    let devices : List DeviceId := [⟨"GPU.0"⟩, ⟨"CPU"⟩, ⟨"GPU.1"⟩]
    let gained := halfLookup.grant ⟨"GPU.1"⟩ Precision.fp32.tag
    select ⟨.standard, halfLookup⟩ devices (some .fp32) = .ok ⟨"GPU.0"⟩ ∧
    select ⟨.standard, gained⟩ devices (some .fp32) = .ok ⟨"GPU.1"⟩ ∧
    (∃ y, select ⟨.standard, gained⟩ devices (some .int8) = .ok y) ∧
    ∃ y t, select ⟨.standard, gained⟩ devices (some .fp32) = .ok y ∧
      TierTable.standard.isProcessor y = false ∧
      InTier ⟨.standard, halfLookup⟩ ⟨"GPU.0"⟩ t ∧ InTier ⟨.standard, gained⟩ y t := by
  intro devices gained
  have hGain := halfLookup.extendedOn_grant ⟨"GPU.1"⟩ Precision.fp32.tag devices
  have hBefore : select ⟨.standard, halfLookup⟩ devices (some .fp32) = .ok ⟨"GPU.0"⟩ := by decide +kernel
  refine ⟨hBefore, by decide +kernel, ?_, ?_⟩
  · exact (accelerator_of_extended hGain (some .int8)).1 ⟨⟨"CPU"⟩, by decide +kernel⟩
  · exact (accelerator_of_extended hGain (some .fp32)).2 (by decide) ⟨"GPU.0"⟩ hBefore (by decide)

end Selector

end TieredDispatch
