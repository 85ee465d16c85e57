import TieredDispatch.Proofs.Config.Pairs

/-!
# Regrouped settings

Merging is associative and has the empty configuration as its unit, so stored settings and the requests after
them can be merged in any grouping.  Reading `KEY=VALUE` texts respects this: two rows of texts, one after the
other, are read as the merge of what each of them gives, or fail as the first of them that fails.

* `Config.merge_assoc`, `Config.merge_empty`, `Config.merge_merge_self`: the laws of merging.
* `Config.foldl_merge`, `Config.mergeAll_flatten`: rows of settings, regrouped.
* `Config.ofPairs_append`, `Config.ofPairs_append_eq_error_iff`: two rows of texts, one after the other.
* `Config.merge_regroups`: both together.
-/

namespace TieredDispatch

namespace Config

variable {xs ys : List String} {e : InputError}

/-! ## Laws of merging -/

@[simp] theorem merge_empty (c : Config) : c.merge .empty = c := rfl

theorem merge_assoc (a b c : Config) : (a.merge b).merge c = a.merge (b.merge c) :=
  TextMap.ext_get? fun key => by simp only [get?_merge, Option.or_assoc]

/-- Settings that are overridden once more with themselves below stay as they are. -/
theorem merge_merge_self (a b : Config) : a.merge (a.merge b) = a.merge b :=
  TextMap.ext_get? fun key => by rw [get?_merge, get?_merge, Option.or_assoc, Option.or_self]

/-- Settings merged one after the other are those merged first of all. -/
theorem foldl_merge (stored : Config) (requests : List Config) :
    requests.foldl merge stored = stored.merge (mergeAll requests) :=
  TextMap.ext_get? fun key => by rw [get?_foldl_merge, get?_merge, get?_mergeAll]

theorem mergeAll_cons (c : Config) (row : List Config) : mergeAll (c :: row) = c.merge (mergeAll row) := by
  rw [mergeAll, List.foldl_cons, empty_merge, foldl_merge]

theorem mergeAll_append (row more : List Config) :
    mergeAll (row ++ more) = (mergeAll row).merge (mergeAll more) := by
  rw [mergeAll, List.foldl_append, foldl_merge, ← mergeAll]

/-- A row of settings can be cut into groups that are merged on their own. -/
theorem mergeAll_flatten (groups : List (List Config)) :
    mergeAll groups.flatten = mergeAll (groups.map mergeAll) := by
  induction groups with
  | nil => rfl
  | cons group groups ih =>
    rw [List.flatten_cons, List.map_cons, mergeAll_append, mergeAll_cons, ih]

/-- Merging the settings of a list adds them one by one. -/
theorem merge_ofList (c : Config) (settings : List (String × String)) :
    c.merge (.ofList settings) = c.insertAll settings :=
  TextMap.ext_get? fun key => by
    rw [get?_merge, TextMap.ofList, TextMap.get?_insertAll_reverse, TextMap.get?_insertAll_reverse,
      TextMap.get?_empty, Option.or_none]

/-! ## Rows of texts -/

theorem ofPairs_append {c d : Config} (hLeft : ofPairs xs = .ok c) (hRight : ofPairs ys = .ok d) :
    ofPairs (xs ++ ys) = .ok (c.merge d) := by
  obtain ⟨settings, hGive, rfl⟩ := addPairs_eq_ok_iff.mp hLeft
  obtain ⟨more, hMore, rfl⟩ := addPairs_eq_ok_iff.mp hRight
  have hBoth : Give (xs ++ ys) (settings ++ more) := List.rel_append hGive hMore
  rw [ofPairs, addPairs_of_give hBoth, TextMap.insertAll_append, ← merge_ofList, TextMap.ofList]

theorem exists_ofPairs_iff : (∃ c, ofPairs xs = .ok c) ↔ ∀ pair ∈ xs, ¬ Malformed pair := by
  constructor
  · rintro ⟨c, hRead⟩ pair hMem hMalformed
    obtain ⟨first, hFirst⟩ := IsFirst.exists_of_mem hMem hMalformed
    rw [ofPairs, addPairs_eq_error_iff.mpr ⟨first, hFirst, rfl⟩] at hRead
    cases hRead
  · intro h
    obtain ⟨settings, hGive⟩ := exists_give_of_forall h
    exact ⟨_, addPairs_of_give hGive .empty⟩

/-- The first row that fails is the one that is reported. -/
theorem ofPairs_append_eq_error_iff :
    ofPairs (xs ++ ys) = .error e ↔
      ofPairs xs = .error e ∨ (∃ c, ofPairs xs = .ok c) ∧ ofPairs ys = .error e := by
  rw [exists_ofPairs_iff]
  simp only [ofPairs, addPairs_eq_error_iff, IsFirst.append_iff, or_and_right, exists_or, and_assoc,
    exists_and_left]

/-- Settings may be merged in any grouping, and read in any.  A look-up finds the override first; merging is
associative, has the empty configuration as its unit, and does not change when it is repeated.  Two rows of
texts, one after the other, are read as the merge of what they give, or fail as the first row that fails.  So
stored settings and the requests after them are those settings with all of the requests merged, in whatever
groups the requests come. -/
theorem merge_regroups (a b c : Config) (xs ys : List String) :
    (∀ key, (a.merge b).get? key = (b.get? key).or (a.get? key)) ∧
    (a.merge b).merge c = a.merge (b.merge c) ∧
    merge .empty a = a ∧ a.merge .empty = a ∧
    a.merge (a.merge b) = a.merge b ∧
    (∀ left right, ofPairs xs = .ok left → ofPairs ys = .ok right →
      ofPairs (xs ++ ys) = .ok (left.merge right)) ∧
    (∀ e, ofPairs xs = .error e → ofPairs (xs ++ ys) = .error e) ∧
    (∀ left e, ofPairs xs = .ok left → ofPairs ys = .error e → ofPairs (xs ++ ys) = .error e) ∧
    ∀ (stored : Config) (groups : List (List Config)),
      groups.flatten.foldl merge stored = stored.merge (mergeAll (groups.map mergeAll)) := by
  refine ⟨get?_merge a b, merge_assoc a b c, empty_merge a, merge_empty a, merge_merge_self a b,
    fun left right => ofPairs_append, fun e hLeft => ?_, fun left e hLeft hRight => ?_, fun stored groups => ?_⟩
  · exact ofPairs_append_eq_error_iff.mpr (Or.inl hLeft)
  · exact ofPairs_append_eq_error_iff.mpr (Or.inr ⟨⟨left, hLeft⟩, hRight⟩)
  · rw [foldl_merge, mergeAll_flatten]

/-- Where a key of the first row comes again in the second with blanks around it, the second row wins; and the
error of the first row is the one that is reported. -/
theorem merge_regroups_shared :
    ofPairs ["AUTO_X=1", "AUTO_Y=2", " AUTO_X =3"] =
      .ok (merge (.ofList [("AUTO_X", "1"), ("AUTO_Y", "2")]) (.ofList [("AUTO_X", "3")])) ∧
    ofPairs ["AUTO_X=1", "AUTO_Y", "=3"] = .error (.malformedPair "AUTO_Y") := by
  have hRead : ofPairs ["AUTO_X=1", "AUTO_Y=2"] = .ok (.ofList [("AUTO_X", "1"), ("AUTO_Y", "2")]) := by
    decide +kernel
  have hAgain : ofPairs [" AUTO_X =3"] = .ok (.ofList [("AUTO_X", "3")]) := by decide +kernel
  have hFailed : ofPairs ["AUTO_X=1", "AUTO_Y"] = .error (.malformedPair "AUTO_Y") := by decide +kernel
  obtain ⟨-, -, -, -, -, hMerged, -⟩ :=
    merge_regroups .empty .empty .empty ["AUTO_X=1", "AUTO_Y=2"] [" AUTO_X =3"]
  obtain ⟨-, -, -, -, -, -, hFirst, -⟩ :=
    merge_regroups .empty .empty .empty ["AUTO_X=1", "AUTO_Y"] ["=3"]
  exact ⟨hMerged _ _ hRead hAgain, hFirst _ hFailed⟩

end Config

end TieredDispatch
