/-!
# Sets of texts, in order

A set is the list of its elements in strictly increasing order, by code points.

* `TextSet.mem_insert`, `TextSet.mem_ofList`: what is in a set.
* `TextSet.ext_mem`: sets with the same elements are equal.
-/

namespace TieredDispatch

/-- A finite set of texts, its elements in strictly increasing order. -/
structure TextSet where
  /-- The elements, least first. -/
  elems : List String
  sorted : elems.Pairwise (· < ·)
  deriving DecidableEq

namespace TextSet

/-- The elements with `x` among them. -/
def insertElem (x : String) : List String → List String
  | [] => [x]
  | y :: rest =>
    if x < y then x :: y :: rest
    else if x = y then y :: rest
    else y :: insertElem x rest

theorem mem_insertElem {x y : String} {l : List String} :
    y ∈ insertElem x l ↔ y = x ∨ y ∈ l := by
  induction l with
  | nil => simp [insertElem]
  | cons z rest ih =>
    simp only [insertElem]
    split
    · simp
    · split
      · next heq => simp [heq]
      · simp only [List.mem_cons, ih]
        constructor
        · rintro (h | h | h) <;> simp [h]
        · rintro (h | h | h) <;> simp [h]

theorem sorted_insertElem (x : String) {l : List String} (h : l.Pairwise (· < ·)) :
    (insertElem x l).Pairwise (· < ·) := by
  induction l with
  | nil => simp [insertElem]
  | cons y rest ih =>
    have hRest := List.pairwise_cons.mp h
    simp only [insertElem]
    split
    · next hlt =>
      refine List.pairwise_cons.mpr ⟨?_, h⟩
      intro z hz
      rcases List.mem_cons.mp hz with rfl | hz
      · exact hlt
      · exact String.lt_trans hlt (hRest.1 z hz)
    · next hge =>
      split
      · exact h
      · next hne =>
        refine List.pairwise_cons.mpr ⟨?_, ih hRest.2⟩
        intro z hz
        rcases mem_insertElem.mp hz with rfl | hz
        · exact Std.lt_of_le_of_ne (Std.not_lt.mp hge) (Ne.symm hne)
        · exact hRest.1 z hz

/-- The set without elements. -/
def empty : TextSet := ⟨[], List.Pairwise.nil⟩

instance : Inhabited TextSet := ⟨empty⟩

instance : Membership String TextSet := ⟨fun s x => x ∈ s.elems⟩

instance (x : String) (s : TextSet) : Decidable (x ∈ s) :=
  inferInstanceAs (Decidable (x ∈ s.elems))

/-- The set with `x` added. -/
def insert (s : TextSet) (x : String) : TextSet :=
  ⟨insertElem x s.elems, sorted_insertElem x s.sorted⟩

/-- The set with all of the texts added. -/
def insertAll (s : TextSet) (xs : List String) : TextSet :=
  xs.foldl insert s

/-- The set of the texts in a list. -/
def ofList (xs : List String) : TextSet :=
  empty.insertAll xs

def size (s : TextSet) : Nat :=
  s.elems.length

def isEmpty (s : TextSet) : Bool :=
  s.elems.isEmpty

/-- The texts that are in both sets. -/
def inter (a b : TextSet) : TextSet :=
  ⟨a.elems.filter fun x => decide (x ∈ b), a.sorted.filter _⟩

@[simp] theorem not_mem_empty (x : String) : x ∉ empty := List.not_mem_nil

@[simp] theorem mem_insert {s : TextSet} {x y : String} : y ∈ s.insert x ↔ y = x ∨ y ∈ s :=
  mem_insertElem

@[simp] theorem mem_insertAll {s : TextSet} {xs : List String} {y : String} :
    y ∈ s.insertAll xs ↔ y ∈ xs ∨ y ∈ s := by
  induction xs generalizing s with
  | nil => simp [insertAll]
  | cons x xs ih =>
    have h : (s.insertAll (x :: xs)) = (s.insert x).insertAll xs := rfl
    rw [h, ih, mem_insert, List.mem_cons]
    constructor
    · rintro (h | h | h) <;> simp [h]
    · rintro ((h | h) | h) <;> simp [h]

@[simp] theorem mem_ofList {xs : List String} {y : String} : y ∈ ofList xs ↔ y ∈ xs := by
  simp [ofList]

theorem elems_eq_of_mem_iff {l m : List String} (hl : l.Pairwise (· < ·))
    (hm : m.Pairwise (· < ·)) (h : ∀ x, x ∈ l ↔ x ∈ m) : l = m := by
  induction l generalizing m with
  | nil =>
    cases m with
    | nil => rfl
    | cons y m => exact absurd ((h y).mpr (by simp)) (by simp)
  | cons x l ih =>
    have hl' := List.pairwise_cons.mp hl
    cases m with
    | nil => exact absurd ((h x).mp (by simp)) (by simp)
    | cons y m =>
      have hm' := List.pairwise_cons.mp hm
      have hxy : x = y := by
        rcases List.mem_cons.mp ((h x).mp (by simp)) with hx | hx
        · exact hx
        · rcases List.mem_cons.mp ((h y).mpr (by simp)) with hy | hy
          · exact hy.symm
          · exact absurd (String.lt_trans (hm'.1 x hx) (hl'.1 y hy)) (String.lt_irrefl _)
      subst hxy
      have hRest : l = m := ih hl'.2 hm'.2 fun z => by
        constructor
        · intro hz
          rcases List.mem_cons.mp ((h z).mp (List.mem_cons_of_mem _ hz)) with rfl | hz'
          · exact absurd (hl'.1 _ hz) (String.lt_irrefl _)
          · exact hz'
        · intro hz
          rcases List.mem_cons.mp ((h z).mpr (List.mem_cons_of_mem _ hz)) with rfl | hz'
          · exact absurd (hm'.1 _ hz) (String.lt_irrefl _)
          · exact hz'
      rw [hRest]

/-- Sets with the same elements are equal. -/
theorem ext_mem {a b : TextSet} (h : ∀ x, x ∈ a ↔ x ∈ b) : a = b := by
  obtain ⟨l, hl⟩ := a
  obtain ⟨m, hm⟩ := b
  have : l = m := elems_eq_of_mem_iff hl hm h
  subst this
  rfl

end TextSet

end TieredDispatch
