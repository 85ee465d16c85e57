import TieredDispatch.Selection

/-!
# The tiers of a list of devices

A partition is the list filtered once for each tier.  Nothing but the prefix of an id makes a device
a processor, so the processors of a partition are those of the list, whatever the look-up answers.

* `Selector.members_partition`: a tier of the partition is the sublist of its devices.
* `Selector.processor_partition`: the processors of the partition are those of the list.
* `Selector.exists_select`: a list with a processor is never refused.
* `Selector.of_select`: the chosen device is listed, and a chosen processor is the first one of the list.
-/

namespace TieredDispatch

/-! ## The tier of a device -/

namespace TierTable

theorem splitGeneric_ne_processor (t : TierTable) (fullName : String) :
    t.splitGeneric fullName ≠ some .processor := by
  rw [splitGeneric]
  split
  · simp
  · split <;> simp

/-- The processor prefix is looked at first, so it decides alone. -/
theorem classify_eq_processor_iff (t : TierTable) (d : DeviceId) :
    t.classify d = some (.tier .processor) ↔ t.isProcessor d = true := by
  rw [classify]
  by_cases hp : t.isProcessor d = true
  · simp [hp]
  · rw [if_neg hp]
    refine iff_of_false ?_ hp
    split
    · simp
    · split
      · simp
      · split <;> simp

/-- The prefix of the id alone makes a device a processor, whatever full names are read. -/
theorem tierOf?_eq_processor_iff (t : TierTable) (fullName? : DeviceId → Option String)
    (d : DeviceId) : t.tierOf? fullName? d = some .processor ↔ t.isProcessor d = true := by
  rw [← classify_eq_processor_iff, tierOf?]
  cases hc : t.classify d with
  | none => simp
  | some c =>
    cases c with
    | tier x => simp
    | generic =>
      refine iff_of_false ?_ (by simp)
      intro h
      obtain ⟨name, -, hs⟩ := Option.bind_eq_some_iff.mp h
      exact splitGeneric_ne_processor t name hs

end TierTable

/-! ## Partitions -/

namespace Partition

@[simp] theorem members_empty (t : Tier) : empty.members t = [] := by
  cases t <;> rfl

/-- One more device in a tier leaves the other tiers as they are. -/
theorem members_push (p : Partition) (t u : Tier) (d : DeviceId) :
    (p.push t d).members u = p.members u ++ if t = u then [d] else [] := by
  cases t <;> cases u <;> simp [push, members]

theorem mem_candidates {p : Partition} {d : DeviceId} (h : d ∈ p.candidates) :
    ∃ t ∈ selectionOrder, d ∈ p.members t := by
  rw [candidates] at h
  cases hf : (selectionOrder.map p.members).find? fun ds => !ds.isEmpty with
  | none =>
    rw [hf] at h
    exact absurd h List.not_mem_nil
  | some ds =>
    rw [hf] at h
    obtain ⟨t, ht, rfl⟩ := List.mem_map.mp (List.mem_of_find?_eq_some hf)
    exact ⟨t, ht, h⟩

theorem isEmpty_eq_false {p : Partition} {t : Tier} (ht : t ∈ Tier.processor :: selectionOrder)
    {d : DeviceId} (hd : d ∈ p.members t) : p.isEmpty = false := by
  rw [isEmpty, List.all_eq_false]
  refine ⟨t, ht, ?_⟩
  cases hm : p.members t with
  | nil => exact absurd (hm ▸ hd) List.not_mem_nil
  | cons e rest => simp

end Partition

namespace Selector

variable {s : Selector} {devices : List DeviceId} {wanted : Option Precision} {d : DeviceId}

theorem tierOf?_eq_processor_iff (s : Selector) (d : DeviceId) :
    s.tierOf? d = some .processor ↔ s.tiers.isProcessor d = true :=
  s.tiers.tierOf?_eq_processor_iff _ d

/-- The partition with one more device in it. -/
def place (s : Selector) (p : Partition) (d : DeviceId) : Partition :=
  match s.tierOf? d with
  | some t => p.push t d
  | none => p

/-- The devices that were placed before come before those that are placed now. -/
theorem members_foldl_place (s : Selector) (devices : List DeviceId) (p : Partition) (t : Tier) :
    (devices.foldl s.place p).members t =
      p.members t ++ devices.filter fun d => decide (s.tierOf? d = some t) := by
  induction devices generalizing p with
  | nil => simp
  | cons d ds ih =>
    rw [List.foldl_cons, ih, List.filter_cons, place]
    cases hd : s.tierOf? d with
    | none => simp
    | some u =>
      simp only [Partition.members_push, List.append_assoc]
      by_cases hu : u = t <;> simp [hu]

/-- A tier of the partition is the sublist of the devices that are in it. -/
theorem members_partition (s : Selector) (devices : List DeviceId) (t : Tier) :
    (s.partition devices).members t = devices.filter fun d => decide (s.tierOf? d = some t) := by
  have hAll := s.members_foldl_place devices .empty t
  rw [Partition.members_empty, List.nil_append] at hAll
  exact hAll

theorem processor_partition (s : Selector) (devices : List DeviceId) :
    (s.partition devices).processor = devices.filter s.tiers.isProcessor := by
  rw [show (s.partition devices).processor = (s.partition devices).members .processor from rfl,
    members_partition]
  refine List.filter_congr fun d _ => ?_
  rw [Bool.eq_iff_iff, decide_eq_true_iff, tierOf?_eq_processor_iff]

/-- The first processor of the partition is the first one of the list. -/
theorem head?_processor_partition (s : Selector) (devices : List DeviceId) :
    (s.partition devices).processor.head? = devices.find? s.tiers.isProcessor := by
  rw [processor_partition, List.head?_filter]

/-! ## The chosen device -/

/-- An accelerator is a listed device that is no processor. -/
theorem of_accelerator? (h : s.accelerator? (s.partition devices) wanted = some d) :
    d ∈ devices ∧ s.tiers.isProcessor d = false := by
  obtain ⟨t, ht, hd⟩ := Partition.mem_candidates (List.mem_of_find?_eq_some h)
  rw [members_partition, List.mem_filter, decide_eq_true_iff] at hd
  refine ⟨hd.1, ?_⟩
  rw [← Bool.not_eq_true, ← tierOf?_eq_processor_iff, hd.2, Option.some.injEq]
  rintro rfl
  simp [selectionOrder] at ht

/-- What is chosen from a partition: an accelerator, or else the first processor. -/
theorem of_selectFrom (h : s.selectFrom (s.partition devices) wanted = .ok d) :
    (d ∈ devices ∧ s.tiers.isProcessor d = false) ∨ devices.find? s.tiers.isProcessor = some d := by
  rw [selectFrom] at h
  by_cases hEmpty : (s.partition devices).isEmpty = true
  · simp [hEmpty] at h
  · rw [if_neg hEmpty] at h
    generalize hRetry : (if wanted = some .fp32 then
      s.accelerator? (s.partition devices) (some .fp16) else none) = retry at h
    cases hFirst : s.accelerator? (s.partition devices) wanted with
    | some x =>
      rw [hFirst] at h
      cases h
      exact Or.inl (of_accelerator? hFirst)
    | none =>
      cases hSecond : retry with
      | some x =>
        rw [hFirst, hSecond] at h
        cases h
        rw [hSecond] at hRetry
        split at hRetry
        · exact Or.inl (of_accelerator? hRetry)
        · simp at hRetry
      | none =>
        rw [hFirst, hSecond, head?_processor_partition] at h
        cases hLast : devices.find? s.tiers.isProcessor with
        | none => simp [hLast] at h
        | some x =>
          rw [hLast] at h
          cases h
          exact Or.inr rfl

/-- A partition with a processor always leaves something to choose. -/
theorem exists_selectFrom (s : Selector) {p : DeviceId} (hp : p ∈ devices)
    (hProcessor : s.tiers.isProcessor p = true) (wanted : Option Precision) :
    ∃ d, s.selectFrom (s.partition devices) wanted = .ok d := by
  have hMember : p ∈ (s.partition devices).processor := by
    rw [processor_partition]
    exact List.mem_filter.mpr ⟨hp, hProcessor⟩
  have hEmpty : (s.partition devices).isEmpty = false :=
    Partition.isEmpty_eq_false (t := .processor) List.mem_cons_self hMember
  obtain ⟨first, hFirst⟩ : ∃ first, (s.partition devices).processor.head? = some first :=
    Option.isSome_iff_exists.mp (List.isSome_head?.mpr (List.ne_nil_of_mem hMember))
  simp only [selectFrom, hEmpty, Bool.false_eq_true, if_false]
  split
  · next d _ => exact ⟨d, rfl⟩
  · next hNone =>
    -- the fallback to the first processor is still there
    rw [hFirst] at hNone
    simp at hNone

/-- A list with a processor is never refused, whatever is wanted and however the devices answer. -/
theorem exists_select (s : Selector) {p : DeviceId} (hp : p ∈ devices)
    (hProcessor : s.tiers.isProcessor p = true) (wanted : Option Precision) :
    ∃ d, s.select devices wanted = .ok d := by
  match devices, hp with
  | [only], _ => exact ⟨only, rfl⟩
  | _ :: _ :: _, hp => exact exists_selectFrom s hp hProcessor wanted

/-- The chosen device is listed; if it is a processor, it is the first one of the list. -/
theorem of_select (h : s.select devices wanted = .ok d) :
    d ∈ devices ∧ (s.tiers.isProcessor d = true → devices.find? s.tiers.isProcessor = some d) := by
  match devices, h with
  | [only], h =>
    simp only [select, Except.ok.injEq] at h
    subst h
    exact ⟨List.mem_singleton_self _, fun hp => List.find?_cons_of_pos hp⟩
  | _ :: _ :: _, h =>
    rcases of_selectFrom h with ⟨hd, hn⟩ | hf
    · exact ⟨hd, fun hp => absurd hp (by simp [hn])⟩
    · exact ⟨List.mem_of_find?_eq_some hf, fun _ => hf⟩

end Selector

end TieredDispatch
