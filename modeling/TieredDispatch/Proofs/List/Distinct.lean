import Mathlib.Data.List.Nodup

/-!
# Lists without repeats

* `eraseDups_of_nodup`: nothing is dropped from a list that has no repeats.
* `length_eraseDups_eq_iff`: and from no other.
-/

namespace TieredDispatch

theorem length_eraseDups_le {α : Type} [BEq α] : ∀ l : List α, l.eraseDups.length ≤ l.length
  | [] => by simp
  | a :: l => by
    have hFilter := List.length_filter_le (fun b => !b == a) l
    have hRest := length_eraseDups_le (l.filter fun b => !b == a)
    rw [List.eraseDups_cons, List.length_cons, List.length_cons]
    omega
termination_by l => l.length
decreasing_by exact Nat.lt_succ_of_le (List.length_filter_le _ _)

variable {α : Type} [BEq α] [LawfulBEq α] {l : List α} {a : α}

theorem filter_not_beq_of_not_mem (h : a ∉ l) : l.filter (fun b => !b == a) = l := by
  refine List.filter_eq_self.mpr fun b hb => ?_
  have hne : b ≠ a := fun he => h (he ▸ hb)
  simpa using hne

/-- Leaving out what has come before changes nothing where each is there once. -/
theorem eraseDups_of_nodup (h : l.Nodup) : l.eraseDups = l := by
  induction l with
  | nil => rfl
  | cons a l ih =>
    obtain ⟨hNew, hRest⟩ := List.nodup_cons.mp h
    rw [List.eraseDups_cons, filter_not_beq_of_not_mem hNew, ih hRest]

/-- Nothing is dropped from a list just if nothing is repeated in it. -/
theorem length_eraseDups_eq_iff : l.eraseDups.length = l.length ↔ l.Nodup := by
  constructor
  · intro h
    induction l with
    | nil => exact List.nodup_nil
    | cons a l ih =>
      have hErased := length_eraseDups_le (l.filter fun b => !b == a)
      rw [List.eraseDups_cons, List.length_cons, List.length_cons] at h
      have hNew : a ∉ l := by
        intro hMem
        have hLess : (l.filter fun b => !b == a).length < l.length :=
          List.length_filter_lt_length_iff_exists.mpr ⟨a, hMem, by simp⟩
        omega
      rw [filter_not_beq_of_not_mem hNew] at h
      exact List.nodup_cons.mpr ⟨hNew, ih (by omega)⟩
  · intro h
    rw [eraseDups_of_nodup h]

end TieredDispatch
