import TieredDispatch.Proofs.List.First
import TieredDispatch.Proofs.Selection.Assignment

/-!
# The policy of a choice

Among at least two devices the choice follows a policy that is stated without partitions and walks: only
the best accelerator tier counts of which a device is listed; in it the first listed device that serves
the wanted precision is chosen; one that serves FP16 will do where none serves FP32; else the first listed
processor is chosen, if there is one.

* `Selector.Serves`, `Selector.BestTier`: the devices and the tier that count.
* `Selector.Policy`: the policy, with one rule for each way in which a choice goes.
* `Selector.selectFrom_eq_iff`: the selector follows the policy.
* `Selector.select_follows_policy`: the choice from any list.
-/

namespace TieredDispatch

namespace Selector

variable {s : Selector} {devices : List DeviceId} {wanted : Option Precision} {d x : DeviceId}
  {t : Tier} {r : Except SelectError DeviceId}

/-! ## The policy -/

/-- Whether the manifest of a device can be read and carries the tag that is wanted, if one is. -/
def Serves (s : Selector) (wanted : Option Precision) (d : DeviceId) : Prop :=
  ∃ m, s.lookup.manifest d = .ok m ∧ ∀ p ∈ wanted, p.tag ∈ m.capabilities

/-- Whether a tier is the first one of the accelerators' of which a device is listed: discrete ones go first,
then the family ranked below them, integrated ones, and the family ranked last. -/
def BestTier (s : Selector) (devices : List DeviceId) : Tier → Prop :=
  IsFirst (fun t => ∃ d ∈ devices, s.InTier d t) [.discrete, .familyA, .integrated, .familyB]

/-- Whether no device of the best tier serves, not even with FP16 in the place of FP32. -/
def Unserved (s : Selector) (devices : List DeviceId) (wanted : Option Precision) : Prop :=
  ∀ t, s.BestTier devices t → ∀ d ∈ devices, s.InTier d t →
    ¬ s.Serves wanted d ∧ (wanted = some .fp32 → ¬ s.Serves (some .fp16) d)

/-- What the policy chooses from at least two devices. -/
inductive Policy (s : Selector) (devices : List DeviceId) (wanted : Option Precision) :
    Except SelectError DeviceId → Prop
  | served {t : Tier} {x : DeviceId} : s.BestTier devices t →
      IsFirst (fun d => s.InTier d t ∧ s.Serves wanted d) devices x → Policy s devices wanted (.ok x)
  /-- A model of class FP32 may run with FP16 where the tier has no device with FP32. -/
  | degraded {t : Tier} {x : DeviceId} : wanted = some .fp32 → s.BestTier devices t →
      (∀ d ∈ devices, s.InTier d t → ¬ s.Serves wanted d) →
      IsFirst (fun d => s.InTier d t ∧ s.Serves (some .fp16) d) devices x →
      Policy s devices wanted (.ok x)
  /-- The first processor is the last resort. -/
  | fallback {x : DeviceId} : s.Unserved devices wanted →
      IsFirst (fun d => s.InTier d .processor) devices x → Policy s devices wanted (.ok x)
  | ineligible : s.Unserved devices wanted → (∀ d ∈ devices, ¬ s.InTier d .processor) →
      (∃ d ∈ devices, ∃ t, s.InTier d t) → Policy s devices wanted (.error .noEligibleDevice)
  | untiered : (∀ d ∈ devices, ∀ t, ¬ s.InTier d t) →
      Policy s devices wanted (.error (.notFound "No available device found"))

/-- A tier is the best one, or no accelerator is listed at all.  The walk goes through the tiers in the order
of the policy. -/
theorem exists_bestTier_or (s : Selector) (devices : List DeviceId) :
    (∃ t, s.BestTier devices t) ∨ ∀ t ∈ selectionOrder, ¬ ∃ d ∈ devices, s.InTier d t :=
  IsFirst.exists_or_forall_not (fun t => ∃ d ∈ devices, s.InTier d t) selectionOrder

theorem exists_policy_of_unserved (h : s.Unserved devices wanted) : ∃ r, s.Policy devices wanted r := by
  rcases IsFirst.exists_or_forall_not (fun d => s.InTier d .processor) devices with ⟨x, hx⟩ | hNone
  · exact ⟨_, .fallback h hx⟩
  · by_cases hAny : ∃ d ∈ devices, ∃ t, s.InTier d t
    · exact ⟨_, .ineligible h hNone hAny⟩
    · exact ⟨_, .untiered fun d hd t ht => hAny ⟨d, hd, t, ht⟩⟩

/-- The policy has a rule for every list. -/
theorem exists_policy (s : Selector) (devices : List DeviceId) (wanted : Option Precision) :
    ∃ r, s.Policy devices wanted r := by
  rcases s.exists_bestTier_or devices with ⟨t, ht⟩ | hNone
  · rcases IsFirst.exists_or_forall_not (fun d => s.InTier d t ∧ s.Serves wanted d) devices with
      ⟨x, hx⟩ | hWanted
    · exact ⟨_, .served ht hx⟩
    · have hWanted : ∀ d ∈ devices, s.InTier d t → ¬ s.Serves wanted d :=
        fun d hd hTier hServes => hWanted d hd ⟨hTier, hServes⟩
      by_cases hClass : wanted = some .fp32
      · rcases IsFirst.exists_or_forall_not (fun d => s.InTier d t ∧ s.Serves (some .fp16) d) devices with
          ⟨x, hx⟩ | hHalf
        · exact ⟨_, .degraded hClass ht hWanted hx⟩
        · refine exists_policy_of_unserved fun u hu d hd hTier => ?_
          obtain rfl := ht.unique hu
          exact ⟨hWanted d hd hTier, fun _ hServes => hHalf d hd ⟨hTier, hServes⟩⟩
      · refine exists_policy_of_unserved fun u hu d hd hTier => ?_
        obtain rfl := ht.unique hu
        exact ⟨hWanted d hd hTier, fun h => absurd h hClass⟩
  · exact exists_policy_of_unserved fun t ht => absurd ht.1 (hNone t ht.mem)

/-! ## The selector -/

theorem supports_iff : s.supports wanted d = true ↔ s.Serves wanted d := by
  rw [supports, Serves]
  cases s.lookup.manifest d with
  | error e => simp
  | ok m => cases wanted <;> simp [Manifest.supports]

theorem members_partition_eq_nil_iff :
    (s.partition devices).members t = [] ↔ ∀ d ∈ devices, ¬ s.InTier d t := by
  simp only [List.eq_nil_iff_forall_not_mem, mem_members_partition, not_and]

theorem isEmpty_partition_iff :
    (s.partition devices).isEmpty = true ↔ ∀ d ∈ devices, ∀ t, ¬ s.InTier d t := by
  simp only [Partition.isEmpty, List.all_eq_true, List.isEmpty_iff, members_partition_eq_nil_iff]
  exact ⟨fun h d hd t => h t (Partition.mem_tiers t) d hd, fun h t _ d hd => h d hd t⟩

/-- The candidates of a partition are the devices of the best tier. -/
theorem candidates_of_bestTier (h : s.BestTier devices t) :
    (s.partition devices).candidates = (s.partition devices).members t := by
  have hMember : ∀ u, ((fun ds : List DeviceId => !ds.isEmpty) ∘ (s.partition devices).members) u = true ↔
      ∃ d ∈ devices, s.InTier d u := by
    intro u
    have hNil := @members_partition_eq_nil_iff s devices u
    rw [Function.comp_apply, Bool.not_eq_true', ← Bool.not_eq_true, List.isEmpty_iff, hNil]
    simp only [not_forall, not_not, exists_prop]
  rw [Partition.candidates, selectionOrder, List.find?_map, (IsFirst.find?_eq_some_iff hMember).mpr h]
  rfl

theorem candidates_of_no_accelerator (h : ∀ t ∈ selectionOrder, ¬ ∃ d ∈ devices, s.InTier d t) :
    (s.partition devices).candidates = [] := by
  rw [List.eq_nil_iff_forall_not_mem]
  intro d hd
  obtain ⟨t, ht, hMember⟩ := Partition.mem_candidates hd
  exact h t ht ⟨d, mem_members_partition.mp hMember⟩

/-- The walk over the tiers finds the first serving device of the best tier. -/
theorem accelerator?_of_bestTier (h : s.BestTier devices t) :
    s.accelerator? (s.partition devices) wanted = some x ↔
      IsFirst (fun d => s.InTier d t ∧ s.Serves wanted d) devices x := by
  rw [accelerator?, candidates_of_bestTier h, members_partition, List.find?_filter]
  refine IsFirst.find?_eq_some_iff fun d => ?_
  rw [decide_eq_true_iff, decide_eq_true_iff, tierOf?_eq_some_iff, supports_iff]

theorem accelerator?_eq_none_iff :
    s.accelerator? (s.partition devices) wanted = none ↔
      ∀ t, s.BestTier devices t → ∀ d ∈ devices, s.InTier d t → ¬ s.Serves wanted d := by
  rcases s.exists_bestTier_or devices with ⟨t, ht⟩ | hNone
  · rw [Option.eq_none_iff_forall_ne_some]
    simp only [ne_eq, accelerator?_of_bestTier ht]
    constructor
    · intro h u hu d hd hTier hServes
      obtain rfl := ht.unique hu
      have hSome : ∃ x, IsFirst (fun d => s.InTier d t ∧ s.Serves wanted d) devices x :=
        IsFirst.exists_of_mem hd ⟨hTier, hServes⟩
      obtain ⟨x, hx⟩ := hSome
      exact h x hx
    · intro h x hx
      exact h t ht x hx.mem hx.1.1 hx.1.2
  · -- without an accelerator there is no best tier, and nothing to walk over
    rw [accelerator?, candidates_of_no_accelerator hNone]
    exact iff_of_true rfl fun t ht => absurd ht.1 (hNone t ht.mem)

theorem head?_processor_eq_some_iff :
    (s.partition devices).processor.head? = some x ↔
      IsFirst (fun d => s.InTier d .processor) devices x := by
  rw [head?_processor_partition]
  exact IsFirst.find?_eq_some_iff fun d => inTier_processor_iff.symm

theorem head?_processor_eq_none_iff :
    (s.partition devices).processor.head? = none ↔ ∀ d ∈ devices, ¬ s.InTier d .processor := by
  rw [head?_processor_partition, List.find?_eq_none]
  simp only [inTier_processor_iff]

theorem isEmpty_partition_eq_false (hd : d ∈ devices) (ht : s.InTier d t) :
    ¬ (s.partition devices).isEmpty = true := by
  rw [isEmpty_partition_iff]
  exact fun h => h d hd t ht

theorem Unserved.accelerator?_eq_none (h : s.Unserved devices wanted) :
    s.accelerator? (s.partition devices) wanted = none :=
  accelerator?_eq_none_iff.mpr fun t ht d hd hTier => (h t ht d hd hTier).1

theorem Unserved.retry_eq_none (h : s.Unserved devices wanted) :
    (if wanted = some .fp32 then s.accelerator? (s.partition devices) (some .fp16) else none) = none := by
  split
  · next hClass =>
    exact accelerator?_eq_none_iff.mpr fun t ht d hd hTier => (h t ht d hd hTier).2 hClass
  · rfl

/-- The selector finds what the policy chooses. -/
theorem Policy.selectFrom_eq (h : s.Policy devices wanted r) :
    s.selectFrom (s.partition devices) wanted = r := by
  rw [selectFrom]
  cases h with
  | served ht hx =>
    rw [if_neg (isEmpty_partition_eq_false hx.mem hx.1.1), (accelerator?_of_bestTier ht).mpr hx]
    rfl
  | degraded hClass ht hWanted hx =>
    have hNone : s.accelerator? (s.partition devices) wanted = none := by
      refine accelerator?_eq_none_iff.mpr fun u hu d hd hTier => ?_
      obtain rfl := ht.unique hu
      exact hWanted d hd hTier
    rw [if_neg (isEmpty_partition_eq_false hx.mem hx.1.1), hNone, if_pos hClass,
      (accelerator?_of_bestTier ht).mpr hx]
    rfl
  | fallback hUnserved hx =>
    rw [if_neg (isEmpty_partition_eq_false hx.mem hx.1), hUnserved.accelerator?_eq_none,
      hUnserved.retry_eq_none, head?_processor_eq_some_iff.mpr hx]
    rfl
  | ineligible hUnserved hNone hAny =>
    obtain ⟨d, hd, t, ht⟩ := hAny
    rw [if_neg (isEmpty_partition_eq_false hd ht), hUnserved.accelerator?_eq_none,
      hUnserved.retry_eq_none, head?_processor_eq_none_iff.mpr hNone]
    rfl
  | untiered hNone => rw [if_pos (isEmpty_partition_iff.mpr hNone)]

theorem selectFrom_eq_iff :
    s.selectFrom (s.partition devices) wanted = r ↔ s.Policy devices wanted r := by
  refine ⟨fun h => ?_, Policy.selectFrom_eq⟩
  obtain ⟨r', hPolicy⟩ := exists_policy s devices wanted
  rwa [← h, hPolicy.selectFrom_eq]

theorem select_of_two_le (h : 2 ≤ devices.length) :
    s.select devices wanted = s.selectFrom (s.partition devices) wanted := by
  match devices, h with
  | _ :: _ :: _, _ => rfl

theorem select_eq_iff (h : 2 ≤ devices.length) :
    s.select devices wanted = r ↔ s.Policy devices wanted r := by
  rw [select_of_two_le h, selectFrom_eq_iff]

/-! ## The chosen device -/

/-- An accelerator that the policy chooses is of the best tier. -/
theorem Policy.bestTier (h : s.Policy devices wanted (.ok x)) (ht : s.InTier x t)
    (hAccelerator : t ≠ .processor) : s.BestTier devices t := by
  cases h with
  | served hBest hx => exact hx.1.1.unique ht ▸ hBest
  | degraded _ hBest _ hx => exact hx.1.1.unique ht ▸ hBest
  | fallback _ hx => exact absurd (ht.unique hx.1) hAccelerator

/-- Where a device of the best tier serves, the first one that does is chosen. -/
theorem exists_first_of_serves (hBest : s.BestTier devices t) (hd : d ∈ devices) (hTier : s.InTier d t)
    (hServes : s.Serves wanted d) :
    ∃ x, s.Policy devices wanted (.ok x) ∧
      IsFirst (fun d => s.InTier d t ∧ s.Serves wanted d) devices x := by
  have hSome : ∃ x, IsFirst (fun d => s.InTier d t ∧ s.Serves wanted d) devices x :=
    IsFirst.exists_of_mem hd ⟨hTier, hServes⟩
  obtain ⟨x, hx⟩ := hSome
  exact ⟨x, .served hBest hx, hx⟩

/-- A device of the best tier that serves is never passed over for one that does not. -/
theorem policy_of_serves (hBest : s.BestTier devices t) (hd : d ∈ devices) (hTier : s.InTier d t)
    (hServes : s.Serves wanted d) :
    ∃ x, s.Policy devices wanted (.ok x) ∧ s.InTier x t ∧ s.Serves wanted x := by
  obtain ⟨x, hPolicy, hx⟩ := exists_first_of_serves hBest hd hTier hServes
  exact ⟨x, hPolicy, hx.1⟩

/-- The choice follows the policy.  From at least two devices it comes to what the policy says and to
nothing else; a chosen accelerator is of the first tier that has a device, so none is chosen from a lower
tier; where a device of that tier has FP32 and FP32 is wanted, one with FP32 is chosen, whichever other
ones are listed before.  And a single device is chosen whatever it is. -/
theorem select_follows_policy (s : Selector) (wanted : Option Precision) :
    (∀ devices : List DeviceId, 2 ≤ devices.length → ∀ r,
      s.select devices wanted = r ↔ s.Policy devices wanted r) ∧
    (∀ (devices : List DeviceId) (x : DeviceId) (t : Tier), 2 ≤ devices.length →
      s.select devices wanted = .ok x → s.InTier x t → t ≠ .processor → s.BestTier devices t) ∧
    (∀ (devices : List DeviceId) (d : DeviceId) (t : Tier), 2 ≤ devices.length →
      s.BestTier devices t → d ∈ devices → s.InTier d t → s.Serves (some .fp32) d →
      ∃ x, s.select devices (some .fp32) = .ok x ∧ s.InTier x t ∧ s.Serves (some .fp32) x) ∧
    (∀ d, s.select [d] wanted = .ok d) := by
  refine ⟨fun devices h r => select_eq_iff h, fun devices x t h hSelect => ?_,
    fun devices d t h hBest hd hTier hServes => ?_, fun d => rfl⟩
  · exact ((select_eq_iff h).mp hSelect).bestTier
  · obtain ⟨x, hPolicy, hx⟩ := policy_of_serves hBest hd hTier hServes
    exact ⟨x, (select_eq_iff h).mpr hPolicy, hx⟩

/-- Two discrete accelerators, one with FP16 and one with FP32, one of family A and a processor. -/
def rankedSelector : Selector :=
  ⟨.standard, .ofTable
    [(⟨"GPU.0"⟩, (Manifest.named "Discrete (dGPU)").withPrecision .fp16),
      (⟨"GPU.1"⟩, (Manifest.named "Discrete (dGPU)").withPrecision .fp32),
      (⟨"VPUX"⟩, ((Manifest.named "Family A").withPrecision .int8).withPrecision .fp32)]⟩

/-- The later accelerator is chosen for FP32, and the processor for INT8, which only the lower tier has. -/
theorem select_follows_policy_ranked :
    let devices : List DeviceId := [⟨"VPUX"⟩, ⟨"GPU.0"⟩, ⟨"GPU.1"⟩, ⟨"CPU"⟩]
    rankedSelector.Policy devices (some .fp32) (.ok ⟨"GPU.1"⟩) ∧
    rankedSelector.BestTier devices .discrete ∧
    rankedSelector.Policy devices (some .int8) (.ok ⟨"CPU"⟩) ∧
    ∃ x, rankedSelector.select devices (some .fp32) = .ok x ∧ rankedSelector.Serves (some .fp32) x := by
  intro devices
  obtain ⟨hPolicy, hBest, hPreferred, -⟩ := select_follows_policy rankedSelector (some .fp32)
  have hDiscrete : rankedSelector.InTier ⟨"GPU.1"⟩ .discrete := by decide +kernel
  have hTier : rankedSelector.BestTier devices .discrete :=
    hBest devices ⟨"GPU.1"⟩ .discrete (by decide) (by decide +kernel) hDiscrete (by decide)
  have hServes : rankedSelector.Serves (some .fp32) ⟨"GPU.1"⟩ :=
    supports_iff.mp (by decide +kernel)
  obtain ⟨x, hSelect, -, hx⟩ :=
    hPreferred devices ⟨"GPU.1"⟩ .discrete (by decide) hTier (by decide) hDiscrete hServes
  exact ⟨(hPolicy devices (by decide) _).mp (by decide +kernel), hTier,
    ((select_follows_policy rankedSelector (some .int8)).1 devices (by decide) _).mp (by decide +kernel),
    x, hSelect, hx⟩

end Selector

end TieredDispatch
