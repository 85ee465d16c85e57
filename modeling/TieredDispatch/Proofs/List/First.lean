/-!
# First elements

* `IsFirst`: the first element of a list with a property.
* `IsFirst.cons_iff`, `IsFirst.append_iff`: the first element of a longer list.
* `IsFirst.exists_or_forall_not`: there is one, or no element has the property.
* `IsFirst.unique`: there is only one.
-/

namespace TieredDispatch

/-- Whether `x` is the first element of a list with a property. -/
def IsFirst {α : Type} (P : α → Prop) (l : List α) (x : α) : Prop :=
  P x ∧ ∃ before after, l = before ++ x :: after ∧ ∀ y ∈ before, ¬ P y

namespace IsFirst

variable {α : Type} {P : α → Prop} {l m : List α} {x y : α}

theorem mem (h : IsFirst P l x) : x ∈ l := by
  obtain ⟨-, before, after, rfl, -⟩ := h
  exact List.mem_append_right _ List.mem_cons_self

theorem find?_eq_some_iff {p : α → Bool} (hp : ∀ x, p x = true ↔ P x) :
    l.find? p = some x ↔ IsFirst P l x := by
  simp only [List.find?_eq_some_iff_append, IsFirst, hp, Bool.not_eq_true', ← Bool.not_eq_true]

theorem not_nil : ¬ IsFirst P [] x := fun h => List.not_mem_nil h.mem

/-- The first element of a list with the property is its head, or the head has not got it. -/
theorem cons_iff : IsFirst P (x :: l) y ↔ P x ∧ y = x ∨ ¬ P x ∧ IsFirst P l y := by
  constructor
  · rintro ⟨hy, before, after, hList, hBefore⟩
    cases before with
    | nil =>
      cases hList
      exact Or.inl ⟨hy, rfl⟩
    | cons z before =>
      cases hList
      obtain ⟨hz, hRest⟩ := List.forall_mem_cons.mp hBefore
      exact Or.inr ⟨hz, hy, before, after, rfl, hRest⟩
  · rintro (⟨hx, rfl⟩ | ⟨hx, hy, before, after, rfl, hBefore⟩)
    · exact ⟨hx, [], l, rfl, by simp⟩
    · exact ⟨hy, x :: before, after, rfl, List.forall_mem_cons.mpr ⟨hx, hBefore⟩⟩

/-- The first element of two lists is that of the first one, or that of the second where the first has none. -/
theorem append_iff : IsFirst P (l ++ m) x ↔ IsFirst P l x ∨ (∀ y ∈ l, ¬ P y) ∧ IsFirst P m x := by
  induction l with
  | nil => simp [not_nil]
  | cons y l ih =>
    rw [List.cons_append, cons_iff, cons_iff, ih, List.forall_mem_cons]
    by_cases hy : P y
    · simp [hy]
    · simp [hy]

/-- A list has a first element with a property, or none with it at all. -/
theorem exists_or_forall_not (P : α → Prop) (l : List α) :
    (∃ x, IsFirst P l x) ∨ ∀ x ∈ l, ¬ P x := by
  classical
  have hp : ∀ x, decide (P x) = true ↔ P x := fun x => decide_eq_true_iff
  cases hFind : l.find? fun x => decide (P x) with
  | some x => exact Or.inl ⟨x, (find?_eq_some_iff hp).mp hFind⟩
  | none =>
    refine Or.inr fun x hx hPx => ?_
    exact List.find?_eq_none.mp hFind x hx (decide_eq_true hPx)

theorem unique (hx : IsFirst P l x) (hy : IsFirst P l y) : x = y := by
  classical
  have hp : ∀ x, decide (P x) = true ↔ P x := fun x => decide_eq_true_iff
  rw [← find?_eq_some_iff hp] at hx hy
  exact Option.some.inj (hx.symm.trans hy)

theorem exists_of_mem (hx : x ∈ l) (h : P x) : ∃ y, IsFirst P l y :=
  (exists_or_forall_not P l).resolve_right fun hNone => hNone x hx h

/-- The property fails for whatever stands before its first element. -/
theorem not_of_mem_takeWhile [DecidableEq α] (h : IsFirst P l x)
    (hy : y ∈ l.takeWhile fun z => decide (z ≠ x)) : ¬ P y := by
  obtain ⟨hx, before, after, rfl, hBefore⟩ := h
  have hAll : ∀ z ∈ before, decide (z ≠ x) = true := by
    intro z hz
    refine decide_eq_true fun he => ?_
    exact hBefore z hz (he ▸ hx)
  rw [List.takeWhile_append_of_pos hAll, List.takeWhile_cons_of_neg (by simp), List.append_nil] at hy
  exact hBefore y hy

end IsFirst

end TieredDispatch
