import TieredDispatch.Text.Blank
import TieredDispatch.Text.Search

/-!
# Trimmed texts and comma-separated texts

Trimming takes away the blanks at the ends of a text and nothing else, and a text is split at its commas in
exactly one way.

* `Text.trim_eq_self_iff`: a text is trimmed if no blank stands at either end.
* `Text.trimmed_iff`: what is left of a text between the blanks at its ends.
* `Text.pieces_intercalate`: joined texts that hold no comma are told apart again.
* `Text.pieces_append`: the pieces on both sides of a comma.
* `Text.commaSeparated_iff`: the pieces are the texts without commas that make the text when joined.
-/

namespace TieredDispatch.Text

/-! ## Ends of a text -/

variable {cs : List Char} {c : Char}

theorem dropTrailingBlanks_eq_self_iff :
    dropTrailingBlanks cs = cs ↔ ∀ c ∈ cs.getLast?, isBlank c = false := by
  rw [dropTrailingBlanks, List.reverse_eq_iff, ← List.head?_reverse]
  constructor
  · intro h
    have hHead := head?_dropWhile_isBlank cs.reverse
    rw [h] at hHead
    exact hHead
  · exact dropWhile_isBlank_eq_self

/-- A text is trimmed if it has no blank at either end. -/
theorem trimChars_eq_self_iff :
    trimChars cs = cs ↔
      (∀ c ∈ cs.head?, isBlank c = false) ∧ ∀ c ∈ cs.getLast?, isBlank c = false := by
  constructor
  · intro h
    have hLength : (cs.dropWhile isBlank).length = cs.length := by
      have hTrim : (trimChars cs).length ≤ (cs.dropWhile isBlank).length := by
        rw [trimChars, dropTrailingBlanks, List.length_reverse]
        exact Nat.le_trans (List.dropWhile_suffix _).length_le (Nat.le_of_eq List.length_reverse)
      rw [h] at hTrim
      exact Nat.le_antisymm (List.dropWhile_suffix _).length_le hTrim
    have hFront : cs.dropWhile isBlank = cs := (List.dropWhile_suffix _).eq_of_length hLength
    have hHead := head?_dropWhile_isBlank cs
    rw [trimChars, hFront] at h
    rw [hFront] at hHead
    exact ⟨hHead, dropTrailingBlanks_eq_self_iff.mp h⟩
  · rintro ⟨hHead, hLast⟩
    rw [trimChars, dropWhile_isBlank_eq_self hHead, dropTrailingBlanks_eq_self_iff.mpr hLast]

def startsBlank (s : String) : Bool := s.toList.head?.any isBlank

def endsBlank (s : String) : Bool := s.toList.getLast?.any isBlank

theorem trim_eq_self_iff {s : String} : trim s = s ↔ startsBlank s = false ∧ endsBlank s = false := by
  rw [← String.toList_inj, toList_trim, trimChars_eq_self_iff, startsBlank, endsBlank,
    Option.any_eq_false, Option.any_eq_false]
  rfl

theorem startsBlank_append {s : String} (h : s ≠ "") (t : String) :
    startsBlank (s ++ t) = startsBlank s := by
  have hSome : s.toList ≠ [] := fun hNil => h (String.toList_inj.mp hNil)
  rw [startsBlank, startsBlank, String.toList_append]
  cases hChars : s.toList with
  | nil => exact absurd hChars hSome
  | cons c cs => rfl

/-- A dot is no blank, so it may stand at the end. -/
theorem endsBlank_dot_append (s t : String) : endsBlank (s ++ "." ++ t) = endsBlank t := by
  have hChars : (s ++ "." ++ t).toList = s.toList ++ '.' :: t.toList := by simp
  rw [endsBlank, endsBlank, hChars, List.getLast?_append, List.getLast?_cons, Option.some_or]
  cases t.toList.getLast? with
  | none => rfl
  | some c => rfl

theorem mem_dropWhile_isBlank (hc : isBlank c = false) : c ∈ cs.dropWhile isBlank ↔ c ∈ cs := by
  induction cs with
  | nil => rfl
  | cons d ds ih =>
    cases hd : isBlank d with
    | false => simp only [List.dropWhile_cons, hd, Bool.false_eq_true, if_false]
    | true =>
      have hne : c ≠ d := fun he => by rw [he, hd] at hc; cases hc
      simp [hd, ih, hne]

theorem mem_trimChars (hc : isBlank c = false) : c ∈ trimChars cs ↔ c ∈ cs := by
  rw [trimChars, dropTrailingBlanks, List.mem_reverse, mem_dropWhile_isBlank hc, List.mem_reverse,
    mem_dropWhile_isBlank hc]

/-! ## What is left between the blanks -/

/-- Whether `t` is what is left of `s` without the blanks at its two ends. -/
structure Trimmed (s t : String) : Prop where
  framed : ∃ before after : List Char, s.toList = before ++ t.toList ++ after ∧
    (∀ c ∈ before, isBlank c) ∧ ∀ c ∈ after, isBlank c
  starts : startsBlank t = false
  ends : endsBlank t = false

theorem trimChars_blanks_append {blanks : List Char} (h : ∀ c ∈ blanks, isBlank c) (cs : List Char) :
    trimChars (blanks ++ cs) = trimChars cs := by
  rw [trimChars, List.dropWhile_append_of_pos h, trimChars]

theorem dropTrailingBlanks_append_blanks {blanks : List Char} (h : ∀ c ∈ blanks, isBlank c)
    (cs : List Char) : dropTrailingBlanks (cs ++ blanks) = dropTrailingBlanks cs := by
  have hBlanks : ∀ c ∈ blanks.reverse, isBlank c := fun c hc => h c (List.mem_reverse.mp hc)
  rw [dropTrailingBlanks, List.reverse_append, List.dropWhile_append_of_pos hBlanks, dropTrailingBlanks]

theorem trimChars_append_blanks {blanks : List Char} (h : ∀ c ∈ blanks, isBlank c) (cs : List Char) :
    trimChars (cs ++ blanks) = trimChars cs := by
  have hAll : blanks.dropWhile isBlank = [] := by
    rw [← List.append_nil blanks, List.dropWhile_append_of_pos h, List.dropWhile_nil]
  rw [trimChars, trimChars, List.dropWhile_append]
  split
  · next hNone => rw [List.isEmpty_iff.mp hNone, hAll]
  · exact dropTrailingBlanks_append_blanks h _

/-- Only blanks are dropped at the end. -/
theorem exists_blanks_of_dropTrailingBlanks (cs : List Char) :
    ∃ after, cs = dropTrailingBlanks cs ++ after ∧ ∀ c ∈ after, isBlank c := by
  refine ⟨(cs.reverse.takeWhile isBlank).reverse, ?_, fun c hc => ?_⟩
  · rw [dropTrailingBlanks, ← List.reverse_append, List.takeWhile_append_dropWhile, List.reverse_reverse]
  · exact List.all_eq_true.mp List.all_takeWhile c (List.mem_reverse.mp hc)

theorem trimmed_trim (s : String) : Trimmed s (trim s) where
  framed := by
    obtain ⟨after, hAfter, hBlanks⟩ := exists_blanks_of_dropTrailingBlanks (s.toList.dropWhile isBlank)
    refine ⟨s.toList.takeWhile isBlank, after, ?_, List.all_eq_true.mp List.all_takeWhile, hBlanks⟩
    rw [toList_trim, trimChars, List.append_assoc, ← hAfter, List.takeWhile_append_dropWhile]
  starts := (trim_eq_self_iff.mp (trim_trim s)).1
  ends := (trim_eq_self_iff.mp (trim_trim s)).2

/-- Trimming gives the one text that is left between blanks and has none at its own ends. -/
theorem trimmed_iff {s t : String} : Trimmed s t ↔ trim s = t := by
  constructor
  · rintro ⟨⟨before, after, hFramed, hBefore, hAfter⟩, hStarts, hEnds⟩
    rw [← trim_eq_self_iff.mpr ⟨hStarts, hEnds⟩, trim, trim, hFramed, trimChars_append_blanks hAfter,
      trimChars_blanks_append hBefore]
  · rintro rfl
    exact trimmed_trim s

/-! ## Pieces -/

theorem not_mem_of_mem_splitOn {sep : Char} {piece : List Char} (h : piece ∈ cs.splitOn sep) :
    sep ∉ piece := by
  induction cs generalizing piece with
  | nil => simp_all
  | cons d ds ih =>
    rw [List.splitOn_cons_eq_if_modifyHead] at h
    split at h
    · rcases List.mem_cons.mp h with rfl | h
      · exact List.not_mem_nil
      · exact ih h
    · next hd =>
      have hne : sep ≠ d := fun he => hd (beq_iff_eq.mpr he.symm)
      cases hPieces : ds.splitOn sep with
      | nil => exact absurd hPieces (List.splitOn_ne_nil sep ds)
      | cons first rest =>
        rw [hPieces] at h ih
        -- the character goes to the first piece
        rcases List.mem_cons.mp h with rfl | h
        · exact List.not_mem_cons_of_ne_of_not_mem hne (ih List.mem_cons_self)
        · exact ih (List.mem_cons_of_mem _ h)

/-- What stands between separators holds none. -/
theorem not_mem_of_mem_pieces {sep : Char} {s piece : String} (h : piece ∈ pieces sep s) :
    sep ∉ piece.toList := by
  obtain ⟨part, hPart, rfl⟩ := List.mem_map.mp h
  rw [String.toList_ofList]
  exact not_mem_of_mem_splitOn hPart

/-- Joined texts that hold no separator are told apart again. -/
theorem pieces_intercalate {texts : List String} (hSome : texts ≠ [])
    (h : ∀ s ∈ texts, ',' ∉ s.toList) :
    pieces ',' (",".intercalate texts) = texts := by
  have hSplit : (",".intercalate texts).toList.splitOn ',' = texts.map String.toList := by
    rw [String.toList_intercalate]
    exact List.splitOn_intercalate ',' (by simpa using h) (by simpa using hSome)
  rw [pieces, hSplit, List.map_map]
  simp [Function.comp_def]

/-- A text is split at a comma into what is left and what is right of it. -/
theorem pieces_append (a b : String) : pieces ',' (a ++ "," ++ b) = pieces ',' a ++ pieces ',' b := by
  have hChars : (a ++ "," ++ b).toList = a.toList ++ ',' :: b.toList := by simp
  rw [pieces, hChars, List.splitOn, List.splitOnP_append_cons _ _ (by simp), List.map_append]
  rfl

/-- Whether `pieces` are the parts of a text between its commas. -/
structure CommaSeparated (s : String) (pieces : List String) : Prop where
  nonempty : pieces ≠ []
  plain : ∀ piece ∈ pieces, ',' ∉ piece.toList
  joined : ",".intercalate pieces = s

theorem commaSeparated_pieces (s : String) : CommaSeparated s (pieces ',' s) where
  nonempty h := List.splitOn_ne_nil ',' s.toList (List.map_eq_nil_iff.mp h)
  plain _ hPiece := not_mem_of_mem_pieces hPiece
  joined := by
    have hChars : (pieces ',' s).map String.toList = s.toList.splitOn ',' := by
      simp [pieces, Function.comp_def]
    rw [← String.toList_inj, String.toList_intercalate, hChars]
    exact List.intercalate_splitOn ','

/-- A text is split at its commas in one way. -/
theorem commaSeparated_iff {s : String} {parts : List String} :
    CommaSeparated s parts ↔ pieces ',' s = parts := by
  constructor
  · rintro ⟨hSome, hPlain, rfl⟩
    exact pieces_intercalate hSome hPlain
  · rintro rfl
    exact commaSeparated_pieces s

end TieredDispatch.Text
