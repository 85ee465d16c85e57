import Mathlib.Data.List.Infix
import TieredDispatch.Proofs.Selection.Tiers

/-!
# The tier of a device, by the rules

The prefixes and the markers of a table are free: they may overlap, be repeated or be empty.  What keeps
the tiers apart is the order in which they are tried, so a device has one tier at most, and a partition
takes each listed device, as often as it is listed, into that tier or leaves it out.

* `TierTable.Classed`: what the prefix of an id says, by the rules.
* `TierTable.Marked`: what the full name of a generic accelerator says.
* `Selector.InTier`, `Selector.LeftOut`: the tier of a device, and the devices without one.
* `Selector.tierOf?_eq_some_iff`, `Selector.tierOf?_eq_none_iff`: the selector follows these rules.
* `Selector.partition_splits`: a partition is the list, split by them.
-/

namespace TieredDispatch

/-! ## Prefixes and markers -/

namespace Text

theorem hasPrefix_iff {start s : String} : hasPrefix start s = true ↔ start.toList <+: s.toList :=
  List.isPrefixOf_iff_prefix

theorem containsChars_iff {part cs : List Char} : containsChars part cs = true ↔ part <:+: cs := by
  induction cs with
  | nil => simp [containsChars]
  | cons c cs ih =>
    rw [containsChars, Bool.or_eq_true, List.isPrefixOf_iff_prefix, ih, List.infix_cons_iff]

theorem contains_iff {part s : String} : contains part s = true ↔ part.toList <:+: s.toList :=
  containsChars_iff

end Text

namespace DeviceId

/-- Whether the id starts with a text; the empty text starts every id. -/
def StartsWith (d : DeviceId) (start : String) : Prop :=
  start.toList <+: d.text.toList

def StartsWithAny (d : DeviceId) (starts : List String) : Prop :=
  ∃ start ∈ starts, d.StartsWith start

theorem any_hasPrefix_iff {d : DeviceId} {starts : List String} :
    starts.any d.hasPrefix = true ↔ d.StartsWithAny starts := by
  simp only [List.any_eq_true, hasPrefix, Text.hasPrefix_iff, StartsWithAny, StartsWith]

end DeviceId

namespace TierTable

variable {t : TierTable} {d : DeviceId} {fullName : String}

theorem isProcessor_iff : t.isProcessor d = true ↔ d.StartsWith t.processorPrefix :=
  Text.hasPrefix_iff

/-- All prefixes of a table. -/
def prefixes (t : TierTable) : List String :=
  t.processorPrefix :: (t.familyBPrefixes ++ t.familyAPrefixes ++ t.genericPrefixes)

theorem not_startsWith_prefixes_iff :
    (∀ start ∈ t.prefixes, ¬ d.StartsWith start) ↔
      ¬ d.StartsWith t.processorPrefix ∧ ¬ d.StartsWithAny t.familyBPrefixes ∧
        ¬ d.StartsWithAny t.familyAPrefixes ∧ ¬ d.StartsWithAny t.genericPrefixes := by
  simp only [prefixes, List.forall_mem_cons, List.forall_mem_append, DeviceId.StartsWithAny,
    not_exists, not_and, and_assoc]

/-- What the prefix of an id says.  Each rule holds where those before it do not. -/
inductive Classed (t : TierTable) (d : DeviceId) : PrefixClass → Prop
  | processor : d.StartsWith t.processorPrefix → Classed t d (.tier .processor)
  | familyB : ¬ d.StartsWith t.processorPrefix → d.StartsWithAny t.familyBPrefixes →
      Classed t d (.tier .familyB)
  | familyA : ¬ d.StartsWith t.processorPrefix → ¬ d.StartsWithAny t.familyBPrefixes →
      d.StartsWithAny t.familyAPrefixes → Classed t d (.tier .familyA)
  | generic : ¬ d.StartsWith t.processorPrefix → ¬ d.StartsWithAny t.familyBPrefixes →
      ¬ d.StartsWithAny t.familyAPrefixes → d.StartsWithAny t.genericPrefixes → Classed t d .generic

theorem classify_eq_some_iff {c : PrefixClass} : t.classify d = some c ↔ t.Classed d c := by
  rw [classify]
  constructor
  · intro h
    split at h
    · next hp =>
      cases h
      exact .processor (isProcessor_iff.mp hp)
    · next hp =>
      have hp := mt isProcessor_iff.mpr hp
      split at h
      · next hB =>
        cases h
        exact .familyB hp (DeviceId.any_hasPrefix_iff.mp hB)
      · next hB =>
        have hB := mt DeviceId.any_hasPrefix_iff.mpr hB
        split at h
        · next hA =>
          cases h
          exact .familyA hp hB (DeviceId.any_hasPrefix_iff.mp hA)
        · next hA =>
          have hA := mt DeviceId.any_hasPrefix_iff.mpr hA
          split at h
          · next hG =>
            cases h
            exact .generic hp hB hA (DeviceId.any_hasPrefix_iff.mp hG)
          · cases h
  · intro h
    cases h with
    | processor hp => rw [if_pos (isProcessor_iff.mpr hp)]
    | familyB hp hB =>
      rw [if_neg (mt isProcessor_iff.mp hp), if_pos (DeviceId.any_hasPrefix_iff.mpr hB)]
    | familyA hp hB hA =>
      rw [if_neg (mt isProcessor_iff.mp hp), if_neg (mt DeviceId.any_hasPrefix_iff.mp hB),
        if_pos (DeviceId.any_hasPrefix_iff.mpr hA)]
    | generic hp hB hA hG =>
      rw [if_neg (mt isProcessor_iff.mp hp), if_neg (mt DeviceId.any_hasPrefix_iff.mp hB),
        if_neg (mt DeviceId.any_hasPrefix_iff.mp hA), if_pos (DeviceId.any_hasPrefix_iff.mpr hG)]

/-- An id about which no prefix says anything starts with none of them. -/
theorem classify_eq_none_iff : t.classify d = none ↔ ∀ start ∈ t.prefixes, ¬ d.StartsWith start := by
  rw [not_startsWith_prefixes_iff, ← isProcessor_iff, ← DeviceId.any_hasPrefix_iff,
    ← DeviceId.any_hasPrefix_iff, ← DeviceId.any_hasPrefix_iff, classify]
  split
  · next hp => simp [hp]
  · next hp =>
    split
    · next hB => simp [hB]
    · next hB =>
      split
      · next hA => simp [hA]
      · next hA => simp [hp, hB, hA]

/-- What the full name of a generic accelerator says: the integrated marker is looked for first. -/
inductive Marked (t : TierTable) (fullName : String) : Tier → Prop
  | integrated : t.integratedMarker.toList <:+: fullName.toList → Marked t fullName .integrated
  | discrete : ¬ t.integratedMarker.toList <:+: fullName.toList →
      t.discreteMarker.toList <:+: fullName.toList → Marked t fullName .discrete

theorem splitGeneric_eq_some_iff {u : Tier} :
    t.splitGeneric fullName = some u ↔ t.Marked fullName u := by
  rw [splitGeneric]
  constructor
  · intro h
    split at h
    · next hi =>
      cases h
      exact .integrated (Text.contains_iff.mp hi)
    · next hi =>
      split at h
      · next hd =>
        cases h
        exact .discrete (mt Text.contains_iff.mpr hi) (Text.contains_iff.mp hd)
      · cases h
  · intro h
    cases h with
    | integrated hi => rw [if_pos (Text.contains_iff.mpr hi)]
    | discrete hi hd =>
      rw [if_neg (mt Text.contains_iff.mp hi), if_pos (Text.contains_iff.mpr hd)]

theorem splitGeneric_eq_none_iff :
    t.splitGeneric fullName = none ↔
      ¬ t.integratedMarker.toList <:+: fullName.toList ∧
        ¬ t.discreteMarker.toList <:+: fullName.toList := by
  rw [← Text.contains_iff, ← Text.contains_iff, splitGeneric]
  split
  · next hi => simp [hi]
  · next hi => simp [hi]

end TierTable

/-! ## Tiers -/

theorem Partition.mem_tiers (t : Tier) : t ∈ Tier.processor :: selectionOrder := by
  cases t <;> decide

/-- In a partition whose tiers are disjoint, each device is found in its tier. -/
theorem Partition.tierOf?_eq_some_iff {p : Partition} {d : DeviceId}
    (hDisjoint : ∀ t u, d ∈ p.members t → d ∈ p.members u → t = u) {t : Tier} :
    p.tierOf? d = some t ↔ d ∈ p.members t := by
  rw [tierOf?]
  constructor
  · intro h
    simpa using List.find?_some h
  · intro hMem
    have hSome : ((Tier.processor :: selectionOrder).find? fun u => (p.members u).contains d).isSome := by
      rw [List.find?_isSome]
      exact ⟨t, mem_tiers t, by simpa using hMem⟩
    obtain ⟨u, hu⟩ := Option.isSome_iff_exists.mp hSome
    have hFound : d ∈ p.members u := by simpa using List.find?_some hu
    rw [hu, hDisjoint u t hFound hMem]

namespace Selector

variable {s : Selector} {devices : List DeviceId} {d : DeviceId} {t u : Tier}

/-- The tier of a device: the one that its prefix says, or, for a generic accelerator, the one that its
full name says, if that can be read. -/
inductive InTier (s : Selector) (d : DeviceId) : Tier → Prop
  | byPrefix {t : Tier} : s.tiers.Classed d (.tier t) → InTier s d t
  | byName {t : Tier} {name : String} : s.tiers.Classed d .generic → s.lookup.fullName d = .ok name →
      s.tiers.Marked name t → InTier s d t

/-- Whether a device has no tier: it starts with no prefix, or it is a generic accelerator whose full name
cannot be read, or has neither marker. -/
inductive LeftOut (s : Selector) (d : DeviceId) : Prop
  | unknown : (∀ start ∈ s.tiers.prefixes, ¬ d.StartsWith start) → LeftOut s d
  | unnamed {e : DeviceError} : s.tiers.Classed d .generic → s.lookup.fullName d = .error e → LeftOut s d
  | unmarked {name : String} : s.tiers.Classed d .generic → s.lookup.fullName d = .ok name →
      ¬ s.tiers.integratedMarker.toList <:+: name.toList →
      ¬ s.tiers.discreteMarker.toList <:+: name.toList → LeftOut s d

theorem tierOf?_of_tier (h : s.tiers.classify d = some (.tier t)) : s.tierOf? d = some t := by
  rw [tierOf?, TierTable.tierOf?, h]

theorem tierOf?_of_generic (h : s.tiers.classify d = some .generic) :
    s.tierOf? d = (s.lookup.fullName d).toOption.bind s.tiers.splitGeneric := by
  rw [tierOf?, TierTable.tierOf?, h]

theorem tierOf?_of_unknown (h : s.tiers.classify d = none) : s.tierOf? d = none := by
  rw [tierOf?, TierTable.tierOf?, h]

theorem tierOf?_eq_some_iff : s.tierOf? d = some t ↔ s.InTier d t := by
  constructor
  · intro h
    cases hc : s.tiers.classify d with
    | none =>
      rw [tierOf?_of_unknown hc] at h
      cases h
    | some c =>
      cases c with
      | tier u =>
        rw [tierOf?_of_tier hc] at h
        cases h
        exact .byPrefix (TierTable.classify_eq_some_iff.mp hc)
      | generic =>
        rw [tierOf?_of_generic hc] at h
        cases hName : s.lookup.fullName d with
        | error e =>
          rw [hName] at h
          cases h
        | ok name =>
          rw [hName] at h
          exact .byName (TierTable.classify_eq_some_iff.mp hc) hName
            (TierTable.splitGeneric_eq_some_iff.mp h)
  · intro h
    cases h with
    | byPrefix hc => exact tierOf?_of_tier (TierTable.classify_eq_some_iff.mpr hc)
    | byName hc hName hMark =>
      rw [tierOf?_of_generic (TierTable.classify_eq_some_iff.mpr hc), hName]
      exact TierTable.splitGeneric_eq_some_iff.mpr hMark

instance (s : Selector) (d : DeviceId) (t : Tier) : Decidable (s.InTier d t) :=
  decidable_of_iff (s.tierOf? d = some t) tierOf?_eq_some_iff

theorem tierOf?_eq_none_iff : s.tierOf? d = none ↔ s.LeftOut d := by
  constructor
  · intro h
    cases hc : s.tiers.classify d with
    | none => exact .unknown (TierTable.classify_eq_none_iff.mp hc)
    | some c =>
      cases c with
      | tier u =>
        rw [tierOf?_of_tier hc] at h
        cases h
      | generic =>
        have hGeneric := TierTable.classify_eq_some_iff.mp hc
        rw [tierOf?_of_generic hc] at h
        cases hName : s.lookup.fullName d with
        | error e => exact .unnamed hGeneric hName
        | ok name =>
          rw [hName] at h
          obtain ⟨hi, hd⟩ := TierTable.splitGeneric_eq_none_iff.mp h
          exact .unmarked hGeneric hName hi hd
  · intro h
    cases h with
    | unknown hNone => exact tierOf?_of_unknown (TierTable.classify_eq_none_iff.mpr hNone)
    | unnamed hc hName =>
      rw [tierOf?_of_generic (TierTable.classify_eq_some_iff.mpr hc), hName]
      rfl
    | unmarked hc hName hi hd =>
      rw [tierOf?_of_generic (TierTable.classify_eq_some_iff.mpr hc), hName]
      exact TierTable.splitGeneric_eq_none_iff.mpr ⟨hi, hd⟩

theorem InTier.unique (ht : s.InTier d t) (hu : s.InTier d u) : t = u := by
  rw [← tierOf?_eq_some_iff] at ht hu
  exact Option.some.inj (ht.symm.trans hu)

theorem leftOut_iff : s.LeftOut d ↔ ∀ t, ¬ s.InTier d t := by
  simp only [← tierOf?_eq_none_iff, ← tierOf?_eq_some_iff]
  exact Option.eq_none_iff_forall_ne_some

theorem inTier_processor_iff : s.InTier d .processor ↔ s.tiers.isProcessor d = true := by
  rw [← tierOf?_eq_some_iff, tierOf?_eq_processor_iff]

theorem mem_members_partition :
    d ∈ (s.partition devices).members t ↔ d ∈ devices ∧ s.InTier d t := by
  rw [members_partition, List.mem_filter, decide_eq_true_iff, tierOf?_eq_some_iff]

theorem tierOf?_partition_eq_some_iff :
    (s.partition devices).tierOf? d = some t ↔ d ∈ devices ∧ s.InTier d t := by
  rw [Partition.tierOf?_eq_some_iff, mem_members_partition]
  intro t u ht hu
  exact (mem_members_partition.mp ht).2.unique (mem_members_partition.mp hu).2

theorem tierOf?_partition_eq_none_iff :
    (s.partition devices).tierOf? d = none ↔ d ∉ devices ∨ s.LeftOut d := by
  rw [Option.eq_none_iff_forall_ne_some, leftOut_iff]
  simp only [ne_eq, tierOf?_partition_eq_some_iff, not_and]
  by_cases h : d ∈ devices <;> simp [h]

/-- A partition splits the listed devices by their tiers.  Each tier is the sublist of its devices, in the
order of the list and as often as they are listed; no device is in two tiers, and a listed one is in none
exactly if it is left out by the rules; each device is found in the tier that it has, and no other one is
found.  And the processors are those that the prefix makes processors, however full names are read. -/
theorem partition_splits (s : Selector) (devices : List DeviceId) :
    (∀ t, (s.partition devices).members t = devices.filter fun d => decide (s.InTier d t)) ∧
    (∀ d t u, d ∈ (s.partition devices).members t → d ∈ (s.partition devices).members u → t = u) ∧
    (∀ d ∈ devices, (∀ t, d ∉ (s.partition devices).members t) ↔ s.LeftOut d) ∧
    (∀ d t, (s.partition devices).tierOf? d = some t ↔ d ∈ devices ∧ s.InTier d t) ∧
    (∀ d, (s.partition devices).tierOf? d = none ↔ d ∉ devices ∨ s.LeftOut d) ∧
    (s.partition devices).processor = devices.filter s.tiers.isProcessor := by
  refine ⟨fun t => ?_, fun d t u ht hu => ?_, fun d hd => ?_,
    fun d t => tierOf?_partition_eq_some_iff, fun d => tierOf?_partition_eq_none_iff,
    processor_partition s devices⟩
  · rw [members_partition]
    exact List.filter_congr fun d _ => decide_eq_decide.mpr tierOf?_eq_some_iff
  · exact (mem_members_partition.mp ht).2.unique (mem_members_partition.mp hu).2
  · rw [leftOut_iff]
    simp only [mem_members_partition, hd, true_and]

/-- A table whose prefixes overlap: every id is generic, and those of family B are of family A as well. -/
def overlappingTiers : TierTable where
  processorPrefix := "NBX"
  genericPrefixes := ["", "N"]
  familyAPrefixes := ["N"]
  familyBPrefixes := ["NB", "NB"]
  discreteMarker := "GPU"
  integratedMarker := "iGPU"

/-- Two generic accelerators with a marker, one of which has both, and one without. -/
def overlappingSelector : Selector :=
  ⟨overlappingTiers, .ofTable
    [(⟨"A"⟩, .named "Integrated (iGPU)"), (⟨"B"⟩, .named "Discrete (GPU)"), (⟨"C"⟩, .named "Host")]⟩

/-- Of a list with a repeated device, the one without a marker and the one whose name cannot be read are
left out. -/
theorem partition_splits_overlapping :
    let devices : List DeviceId :=
      [⟨"A"⟩, ⟨"NB"⟩, ⟨"C"⟩, ⟨"NA"⟩, ⟨"A"⟩, ⟨"NBX.0"⟩, ⟨"?"⟩, ⟨"B"⟩]
    (overlappingSelector.partition devices).members .integrated = [⟨"A"⟩, ⟨"A"⟩] ∧
    overlappingSelector.LeftOut ⟨"C"⟩ ∧ overlappingSelector.LeftOut ⟨"?"⟩ ∧
    (overlappingSelector.partition devices).tierOf? ⟨"NB"⟩ = some .familyB ∧
    (overlappingSelector.partition devices).processor = [⟨"NBX.0"⟩] := by
  intro devices
  obtain ⟨hMembers, -, hLeftOut, hTier, -, hProcessor⟩ := partition_splits overlappingSelector devices
  refine ⟨?_, ?_, ?_, ?_, ?_⟩
  · rw [hMembers]
    decide +kernel
  · exact (hLeftOut ⟨"C"⟩ (by decide +kernel)).mp (by intro t; cases t <;> decide +kernel)
  · exact (hLeftOut ⟨"?"⟩ (by decide +kernel)).mp (by intro t; cases t <;> decide +kernel)
  · exact (hTier ⟨"NB"⟩ .familyB).mpr (by decide +kernel)
  · rw [hProcessor]
    decide +kernel

end Selector

end TieredDispatch
