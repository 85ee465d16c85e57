import TieredDispatch.Config

/-!
# Merged settings

A look-up in two merged configurations finds the override first.  A configuration is refused with the
error of its least offending key, so settings under a request that are valid themselves change neither
whether the request is refused nor why.

* `TextMap.mem_entries_iff`: the entries of a map are its look-ups.
* `TextMap.valueAt_perm`, `TextMap.ofList_perm`: entries with distinct keys may come in any order.
* `TextMap.findSome?_entries_eq_some_iff`: a search through the entries ends at the least key.
* `TextMap.get?_insertAll_reverse`: a look-up after insertions finds the last one of its key.
* `Config.get?_merge`: a look-up in merged settings.
* `Config.error?_eq_some_iff`: the error of a configuration is its least offence.
* `Config.validate_merge`: valid settings below a request leave its check as it is.
* `Config.get?_mergeAll_eq_some_iff`: a look-up in many merged settings finds the last ones with the key.
-/

namespace TieredDispatch

/-! ## Look-ups -/

namespace TextMap

variable {β : Type}

theorem mem_of_valueAt {l : List (String × β)} {key : String} {value : β}
    (h : valueAt key l = some value) : (key, value) ∈ l := by
  induction l with
  | nil => cases h
  | cons head rest ih =>
    obtain ⟨k, v⟩ := head
    by_cases hk : k = key
    · subst hk
      rw [valueAt, if_pos rfl] at h
      cases h
      exact List.mem_cons_self
    · rw [valueAt, if_neg hk] at h
      exact List.mem_cons_of_mem _ (ih h)

/-- Where no key is repeated, the entries are what look-ups find. -/
theorem mem_iff_valueAt {l : List (String × β)} (h : (l.map (·.1)).Nodup) {key : String} {value : β} :
    (key, value) ∈ l ↔ valueAt key l = some value := by
  constructor
  · intro hMem
    induction l with
    | nil => cases hMem
    | cons head rest ih =>
      obtain ⟨k, v⟩ := head
      obtain ⟨hHead, hRest⟩ := List.nodup_cons.mp h
      rcases List.mem_cons.mp hMem with hSame | hMem
      · cases hSame
        simp [valueAt]
      · have hk : k ≠ key := fun he => hHead (List.mem_map.mpr ⟨_, hMem, he.symm⟩)
        rw [valueAt, if_neg hk]
        exact ih hRest hMem
  · exact mem_of_valueAt

/-- Where no key is repeated, look-ups do not depend on the order. -/
theorem valueAt_perm {l m : List (String × β)} (h : l.Perm m) (hNodup : (m.map (·.1)).Nodup) (key : String) :
    valueAt key l = valueAt key m := by
  have hKeys : (l.map (·.1)).Nodup := (h.map _).nodup_iff.mpr hNodup
  refine Option.ext fun value => ?_
  rw [← mem_iff_valueAt hKeys, ← mem_iff_valueAt hNodup, h.mem_iff]

theorem valueAt_append (key : String) (l m : List (String × β)) :
    valueAt key (l ++ m) = (valueAt key l).or (valueAt key m) := by
  induction l with
  | nil => rfl
  | cons head rest ih =>
    obtain ⟨k, v⟩ := head
    by_cases hk : k = key
    · simp [valueAt, hk]
    · simp [valueAt, hk, ih]

theorem nodup_of_sorted {l : List (String × β)} (h : l.Pairwise fun a b => a.1 < b.1) :
    (l.map (·.1)).Nodup :=
  List.pairwise_map.mpr (h.imp String.ne_of_lt)

theorem mem_entries_iff {m : TextMap β} {key : String} {value : β} :
    (key, value) ∈ m.entries ↔ m.get? key = some value :=
  mem_iff_valueAt (nodup_of_sorted m.sorted)

theorem findSome?_entries_eq_none_iff {γ : Type} {m : TextMap β} {f : String × β → Option γ} :
    m.entries.findSome? f = none ↔ ∀ key value, m.get? key = some value → f (key, value) = none := by
  rw [List.findSome?_eq_none_iff]
  constructor
  · intro h key value hGet
    exact h (key, value) (mem_entries_iff.mpr hGet)
  · rintro h ⟨key, value⟩ hMem
    exact h key value (mem_entries_iff.mp hMem)

/-- A search through the entries ends at the least key at which there is something to find. -/
theorem findSome?_entries_eq_some_iff {γ : Type} {m : TextMap β} {f : String × β → Option γ}
    {found : γ} :
    m.entries.findSome? f = some found ↔
      ∃ key value, m.get? key = some value ∧ f (key, value) = some found ∧
        ∀ other v, other < key → m.get? other = some v → f (other, v) = none := by
  rw [List.findSome?_eq_some_iff]
  constructor
  · rintro ⟨before, ⟨key, value⟩, after, hEntries, hFound, hBefore⟩
    refine ⟨key, value, mem_entries_iff.mp (by simp [hEntries]), hFound, fun other v hLess hGet => ?_⟩
    have hSorted := m.sorted
    have hMem := mem_entries_iff.mpr hGet
    rw [hEntries] at hSorted hMem
    rcases List.mem_append.mp hMem with hMem | hMem
    · exact hBefore _ hMem
    · -- the keys from here on are not less
      rcases List.mem_cons.mp hMem with hSame | hMem
      · cases hSame
        exact absurd hLess (String.lt_irrefl _)
      · have hAfter := (List.pairwise_append.mp hSorted).2.1
        exact absurd hLess (Std.not_lt.mpr (Std.le_of_lt ((List.pairwise_cons.mp hAfter).1 _ hMem)))
  · rintro ⟨key, value, hGet, hFound, hLess⟩
    obtain ⟨before, after, hEntries⟩ := List.append_of_mem (mem_entries_iff.mpr hGet)
    refine ⟨before, (key, value), after, hEntries, hFound, ?_⟩
    rintro ⟨other, v⟩ hMem
    have hSorted := m.sorted
    rw [hEntries] at hSorted
    exact hLess other v ((List.pairwise_append.mp hSorted).2.2 _ hMem _ List.mem_cons_self)
      (mem_entries_iff.mp (by simp [hEntries, hMem]))

theorem insertAll_cons (m : TextMap β) (e : String × β) (pairs : List (String × β)) :
    m.insertAll (e :: pairs) = (m.insert e.1 e.2).insertAll pairs := rfl

theorem insertAll_append (m : TextMap β) (pairs more : List (String × β)) :
    m.insertAll (pairs ++ more) = (m.insertAll pairs).insertAll more :=
  List.foldl_append

/-- A look-up after insertions finds the last one of its key. -/
theorem get?_insertAll_reverse (m : TextMap β) (pairs : List (String × β)) (key : String) :
    (m.insertAll pairs).get? key = (valueAt key pairs.reverse).or (m.get? key) := by
  induction pairs generalizing m with
  | nil => rfl
  | cons head rest ih =>
    obtain ⟨k, v⟩ := head
    rw [insertAll_cons, ih, get?_insert, List.reverse_cons, valueAt_append, Option.or_assoc]
    by_cases hk : k = key
    · simp [valueAt, hk]
    · simp [valueAt, hk, Ne.symm hk]

/-- A look-up after an insertion of distinct keys finds the inserted value first. -/
theorem get?_insertAll (m : TextMap β) {pairs : List (String × β)}
    (h : pairs.Pairwise fun a b => a.1 < b.1) (key : String) :
    (m.insertAll pairs).get? key = (valueAt key pairs).or (m.get? key) := by
  rw [get?_insertAll_reverse, valueAt_perm pairs.reverse_perm (nodup_of_sorted h)]

/-- The entries of a map make it again, in any order. -/
theorem ofList_perm {m : TextMap β} {entries : List (String × β)} (h : entries.Perm m.entries) :
    ofList entries = m := by
  refine ext_get? fun key => ?_
  have hReverse : entries.reverse.Perm m.entries := entries.reverse_perm.trans h
  rw [ofList, get?_insertAll_reverse, get?_empty, Option.or_none,
    valueAt_perm hReverse (nodup_of_sorted m.sorted), get?]

/-- What is found in a map of pairs is one of them. -/
theorem mem_of_get?_ofList {pairs : List (String × β)} {key : String} {value : β}
    (h : (ofList pairs).get? key = some value) : (key, value) ∈ pairs := by
  rw [ofList, get?_insertAll_reverse, get?_empty, Option.or_none] at h
  exact List.mem_reverse.mp (mem_of_valueAt h)

end TextMap

namespace Config

/-- A look-up in merged settings finds the override first. -/
theorem get?_merge (base overrides : Config) (key : String) :
    (base.merge overrides).get? key = (overrides.get? key).or (base.get? key) :=
  base.get?_insertAll overrides.sorted key

/-- Merged settings have the keys of both. -/
theorem contains_merge (base overrides : Config) (key : String) :
    (base.merge overrides).contains key = (base.contains key || overrides.contains key) := by
  rw [TextMap.contains, get?_merge, Option.isSome_or, Bool.or_comm]
  rfl

@[simp] theorem empty_merge (c : Config) : merge .empty c = c :=
  TextMap.ext_get? fun key => by rw [get?_merge, TextMap.get?_empty, Option.or_none]

/-! ## Offences -/

/-- Whether the setting of a key is there and is refused. -/
def Offends (c : Config) (key : String) (e : InputError) : Prop :=
  ∃ value, c.get? key = some value ∧ entryError? key value = some e

/-- Whether `e` is the error of the least offending key. -/
def LeastOffence (c : Config) (e : InputError) : Prop :=
  ∃ key, c.Offends key e ∧ ∀ other e', c.Offends other e' → key ≤ other

theorem error?_eq_findSome? (c : Config) :
    c.error? = c.entries.findSome? fun entry => entryError? entry.1 entry.2 := rfl

theorem error?_eq_none_iff {c : Config} : c.error? = none ↔ ∀ key e, ¬ c.Offends key e := by
  rw [error?_eq_findSome?, TextMap.findSome?_entries_eq_none_iff]
  constructor
  · rintro h key e ⟨value, hGet, hError⟩
    exact absurd (h key value hGet) (by simp [hError])
  · intro h key value hGet
    exact Option.eq_none_iff_forall_ne_some.mpr fun e hError => h key e ⟨value, hGet, hError⟩

/-- A configuration is refused with the error of its least offending key. -/
theorem error?_eq_some_iff {c : Config} {e : InputError} : c.error? = some e ↔ c.LeastOffence e := by
  rw [error?_eq_findSome?, TextMap.findSome?_entries_eq_some_iff]
  constructor
  · rintro ⟨key, value, hGet, hError, hLess⟩
    refine ⟨key, ⟨value, hGet, hError⟩, fun other e' hOther => Std.not_lt.mp fun hLt => ?_⟩
    obtain ⟨v, hGet', hError'⟩ := hOther
    exact absurd (hLess other v hLt hGet') (by simp [hError'])
  · rintro ⟨key, ⟨value, hGet, hError⟩, hLeast⟩
    refine ⟨key, value, hGet, hError, fun other v hLt hGet' => ?_⟩
    exact Option.eq_none_iff_forall_ne_some.mpr fun e' hError' =>
      absurd hLt (Std.not_lt.mpr (hLeast other e' ⟨v, hGet', hError'⟩))

theorem validate_eq_ok_iff {c : Config} : c.validate = .ok () ↔ c.error? = none := by
  rw [validate]
  cases c.error? <;> simp

theorem validate_eq_error_iff {c : Config} {e : InputError} :
    c.validate = .error e ↔ c.LeastOffence e := by
  rw [← error?_eq_some_iff, validate]
  cases c.error? <;> simp

/-! ## Valid settings below a request -/

/-- Overrides offend in merged settings exactly where they do alone, if the base is valid. -/
theorem offends_merge {base : Config} (hBase : base.validate = .ok ()) (overrides : Config)
    (key : String) (e : InputError) :
    (base.merge overrides).Offends key e ↔ overrides.Offends key e := by
  simp only [Offends, get?_merge]
  constructor
  · rintro ⟨value, hGet, hError⟩
    cases hOverride : overrides.get? key with
    | some v =>
      rw [hOverride, Option.some_or, Option.some.injEq] at hGet
      exact ⟨v, rfl, hGet ▸ hError⟩
    | none =>
      -- the setting comes from the base, where nothing is refused
      rw [hOverride, Option.none_or] at hGet
      have hNone := error?_eq_none_iff.mp (validate_eq_ok_iff.mp hBase)
      exact absurd ⟨value, hGet, hError⟩ (hNone key e)
  · rintro ⟨value, hGet, hError⟩
    exact ⟨value, by rw [hGet, Option.some_or], hError⟩

/-- Valid settings below a request leave its check as it is. -/
theorem validate_merge {base : Config} (hBase : base.validate = .ok ()) (overrides : Config) :
    (base.merge overrides).validate = overrides.validate := by
  cases hOverrides : overrides.validate with
  | ok u =>
    rw [validate_eq_ok_iff, error?_eq_none_iff] at hOverrides ⊢
    intro key e h
    exact hOverrides key e ((offends_merge hBase overrides key e).mp h)
  | error e =>
    rw [validate_eq_error_iff] at hOverrides ⊢
    simpa only [LeastOffence, offends_merge hBase] using hOverrides

/-! ## Rows of settings -/

/-- The settings of a row, merged in order. -/
def mergeAll (row : List Config) : Config :=
  row.foldl merge .empty

theorem get?_foldl_merge (base : Config) (row : List Config) (key : String) :
    (row.foldl merge base).get? key = (row.reverse.findSome? fun c => c.get? key).or (base.get? key) := by
  induction row generalizing base with
  | nil => rfl
  | cons c row ih =>
    rw [List.foldl_cons, ih, get?_merge, List.reverse_cons, List.findSome?_append, List.findSome?_singleton,
      Option.or_assoc]

theorem get?_mergeAll (row : List Config) (key : String) :
    (mergeAll row).get? key = row.reverse.findSome? fun c => c.get? key := by
  rw [mergeAll, get?_foldl_merge, TextMap.get?_empty, Option.or_none]

theorem get?_mergeAll_eq_none_iff {row : List Config} {key : String} :
    (mergeAll row).get? key = none ↔ ∀ c ∈ row, c.get? key = none := by
  rw [get?_mergeAll, List.findSome?_eq_none_iff]
  simp only [List.mem_reverse]

/-- A look-up finds the last settings of the row that have the key. -/
theorem get?_mergeAll_eq_some_iff {row : List Config} {key value : String} :
    (mergeAll row).get? key = some value ↔
      ∃ before c after, row = before ++ c :: after ∧ c.get? key = some value ∧
        ∀ later ∈ after, later.get? key = none := by
  rw [get?_mergeAll, List.findSome?_eq_some_iff]
  constructor
  · rintro ⟨after, c, before, hRow, hGet, hAfter⟩
    refine ⟨before.reverse, c, after.reverse, ?_, hGet, fun later hLater => ?_⟩
    · rw [← List.reverse_reverse row, hRow]
      simp
    · exact hAfter later (List.mem_reverse.mp hLater)
  · rintro ⟨before, c, after, rfl, hGet, hAfter⟩
    refine ⟨after.reverse, c, before.reverse, by simp, hGet, fun later hLater => ?_⟩
    exact hAfter later (List.mem_reverse.mp hLater)

end Config

end TieredDispatch
