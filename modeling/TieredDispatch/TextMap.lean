/-!
# Maps from texts, ordered by key

A map is the list of its entries in strictly increasing order of their keys, by code points.

* `TextMap.get?_insert`: what a look-up finds after an insertion.
* `TextMap.ext_get?`: maps that agree on every look-up are equal.
-/

namespace TieredDispatch

/-- A finite map from texts, its entries in strictly increasing order of keys. -/
structure TextMap (β : Type) where
  /-- The entries, least key first. -/
  entries : List (String × β)
  sorted : entries.Pairwise (fun a b => a.1 < b.1)

namespace TextMap

variable {β : Type}

/-- The entries with `key` bound to `value`: an entry with that key is replaced. -/
def insertEntry (key : String) (value : β) : List (String × β) → List (String × β)
  | [] => [(key, value)]
  | (k, v) :: rest =>
    if key < k then (key, value) :: (k, v) :: rest
    else if key = k then (key, value) :: rest
    else (k, v) :: insertEntry key value rest

theorem mem_insertEntry {key : String} {value : β} {e : String × β} {l : List (String × β)} :
    e ∈ insertEntry key value l → e = (key, value) ∨ e ∈ l := by
  induction l with
  | nil => simp [insertEntry]
  | cons head rest ih =>
    simp only [insertEntry]
    split
    · simp
    · split
      · simp only [List.mem_cons]
        rintro (h | h)
        · exact Or.inl h
        · exact Or.inr (Or.inr h)
      · simp only [List.mem_cons]
        rintro (h | h)
        · exact Or.inr (Or.inl h)
        · exact (ih h).imp id Or.inr

theorem sorted_insertEntry (key : String) (value : β) {l : List (String × β)}
    (h : l.Pairwise (fun a b => a.1 < b.1)) :
    (insertEntry key value l).Pairwise (fun a b => a.1 < b.1) := by
  induction l with
  | nil => simp [insertEntry]
  | cons head rest ih =>
    have hRest := List.pairwise_cons.mp h
    simp only [insertEntry]
    split
    · next hlt =>
      refine List.pairwise_cons.mpr ⟨?_, h⟩
      intro e he
      rcases List.mem_cons.mp he with rfl | he
      · exact hlt
      · exact String.lt_trans hlt (hRest.1 e he)
    · next hge =>
      split
      · next heq =>
        subst heq
        exact List.pairwise_cons.mpr hRest
      · next hne =>
        refine List.pairwise_cons.mpr ⟨?_, ih hRest.2⟩
        intro e he
        rcases mem_insertEntry he with rfl | he
        · exact Std.lt_of_le_of_ne (Std.not_lt.mp hge) (Ne.symm hne)
        · exact hRest.1 e he

/-- The map without entries. -/
def empty : TextMap β := ⟨[], List.Pairwise.nil⟩

instance : Inhabited (TextMap β) := ⟨empty⟩

instance [DecidableEq β] : DecidableEq (TextMap β) := fun a b =>
  decidable_of_iff (a.entries = b.entries) (by cases a; cases b; simp)

/-- The map with `key` bound to `value`. -/
def insert (m : TextMap β) (key : String) (value : β) : TextMap β :=
  ⟨insertEntry key value m.entries, sorted_insertEntry key value m.sorted⟩

/-- The value that stands beside `key` in a list of entries. -/
def valueAt (key : String) : List (String × β) → Option β
  | [] => none
  | (k, v) :: rest => if k = key then some v else valueAt key rest

/-- The value bound to `key`. -/
def get? (m : TextMap β) (key : String) : Option β :=
  valueAt key m.entries

def contains (m : TextMap β) (key : String) : Bool :=
  (m.get? key).isSome

def size (m : TextMap β) : Nat :=
  m.entries.length

def isEmpty (m : TextMap β) : Bool :=
  m.entries.isEmpty

def keys (m : TextMap β) : List String :=
  m.entries.map (·.1)

/-- The map with the pairs added in order, so that the last value given to a key stays. -/
def insertAll (m : TextMap β) (pairs : List (String × β)) : TextMap β :=
  pairs.foldl (fun m e => m.insert e.1 e.2) m

/-- The map of the pairs; the last value given to a key stays. -/
def ofList (pairs : List (String × β)) : TextMap β :=
  empty.insertAll pairs

@[simp] theorem get?_empty (key : String) : (empty : TextMap β).get? key = none := rfl

theorem valueAt_insertEntry (key : String) (value : β) (l : List (String × β)) (k : String) :
    valueAt k (insertEntry key value l) = if k = key then some value else valueAt k l := by
  induction l with
  | nil => grind [insertEntry, valueAt]
  | cons head rest ih => grind [insertEntry, valueAt]

/-- A look-up finds the value just inserted, and any other key as before. -/
theorem get?_insert (m : TextMap β) (key : String) (value : β) (k : String) :
    (m.insert key value).get? k = if k = key then some value else m.get? k :=
  valueAt_insertEntry key value m.entries k

theorem valueAt_eq_none {l : List (String × β)} {k : String} (h : ∀ e ∈ l, k < e.1) :
    valueAt k l = none := by
  induction l with
  | nil => rfl
  | cons head rest ih =>
    have hk : k < head.1 := h head (by simp)
    have hne : head.1 ≠ k := fun he => String.lt_irrefl _ (he ▸ hk)
    simp only [valueAt, if_neg hne]
    exact ih fun e he => h e (List.mem_cons_of_mem _ he)

theorem entries_eq_of_valueAt_eq {l m : List (String × β)}
    (hl : l.Pairwise (fun a b => a.1 < b.1)) (hm : m.Pairwise (fun a b => a.1 < b.1))
    (h : ∀ k, valueAt k l = valueAt k m) : l = m := by
  induction l generalizing m with
  | nil =>
    cases m with
    | nil => rfl
    | cons e m =>
      have := h e.1
      simp [valueAt] at this
  | cons e l ih =>
    obtain ⟨k, v⟩ := e
    have hl' := List.pairwise_cons.mp hl
    cases m with
    | nil =>
      have := h k
      simp [valueAt] at this
    | cons f m =>
      obtain ⟨k', v'⟩ := f
      have hm' := List.pairwise_cons.mp hm
      have hkk : k = k' := by
        by_cases hlt : k < k'
        · have hn : valueAt k ((k', v') :: m) = none := valueAt_eq_none fun e he => by
            rcases List.mem_cons.mp he with rfl | he
            · exact hlt
            · exact String.lt_trans hlt (hm'.1 e he)
          have := h k
          rw [hn] at this
          simp [valueAt] at this
        · by_cases hgt : k' < k
          · have hn : valueAt k' ((k, v) :: l) = none := valueAt_eq_none fun e he => by
              rcases List.mem_cons.mp he with rfl | he
              · exact hgt
              · exact String.lt_trans hgt (hl'.1 e he)
            have := h k'
            rw [hn] at this
            simp [valueAt] at this
          · exact Std.le_antisymm (Std.not_lt.mp hgt) (Std.not_lt.mp hlt)
      subst hkk
      have hv := h k
      simp only [valueAt, if_true, Option.some.injEq] at hv
      subst hv
      have hRest : l = m := ih hl'.2 hm'.2 fun x => by
        by_cases hx : k = x
        · subst hx
          rw [valueAt_eq_none hl'.1, valueAt_eq_none hm'.1]
        · have := h x
          simpa only [valueAt, if_neg hx] using this
      rw [hRest]

/-- Maps that agree on every look-up are equal. -/
theorem ext_get? {a b : TextMap β} (h : ∀ k, a.get? k = b.get? k) : a = b := by
  obtain ⟨l, hl⟩ := a
  obtain ⟨m, hm⟩ := b
  have : l = m := entries_eq_of_valueAt_eq hl hm h
  subst this
  rfl

end TextMap

end TieredDispatch
