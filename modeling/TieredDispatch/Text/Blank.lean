/-!
# Blank characters and trimming

* `isBlank`: the code points with the Unicode property White_Space.
* `trim`: a text without the blanks at its two ends.
* `trim_trim`: trimming a trimmed text changes nothing.
-/

namespace TieredDispatch.Text

/-- The 25 code points with the Unicode property White_Space. -/
def isBlank (c : Char) : Bool :=
  let n := c.toNat
  (0x9 ≤ n && n ≤ 0xd) || n == 0x20 || n == 0x85 || n == 0xa0 || n == 0x1680 ||
    (0x2000 ≤ n && n ≤ 0x200a) || n == 0x2028 || n == 0x2029 || n == 0x202f ||
    n == 0x205f || n == 0x3000

/-- The characters up to the last one that is not blank. -/
def dropTrailingBlanks (cs : List Char) : List Char :=
  (cs.reverse.dropWhile isBlank).reverse

/-- The characters between the blanks at the two ends. -/
def trimChars (cs : List Char) : List Char :=
  dropTrailingBlanks (cs.dropWhile isBlank)

/-- A text without the blanks at its two ends. -/
def trim (s : String) : String :=
  String.ofList (trimChars s.toList)

theorem toList_trim (s : String) : (trim s).toList = trimChars s.toList := by
  simp only [trim, String.toList_ofList]

theorem dropWhile_isBlank_idem (cs : List Char) :
    (cs.dropWhile isBlank).dropWhile isBlank = cs.dropWhile isBlank := by
  induction cs with
  | nil => rfl
  | cons c cs ih =>
    cases h : isBlank c
    · simp only [List.dropWhile_cons, h, Bool.false_eq_true, if_false]
    · simp only [List.dropWhile_cons, h, if_true, ih]

theorem dropTrailingBlanks_idem (cs : List Char) :
    dropTrailingBlanks (dropTrailingBlanks cs) = dropTrailingBlanks cs := by
  simp only [dropTrailingBlanks, List.reverse_reverse, dropWhile_isBlank_idem]

/-- Only the first character decides whether leading blanks are dropped. -/
theorem dropWhile_isBlank_eq_self {cs : List Char} (h : ∀ c ∈ cs.head?, isBlank c = false) :
    cs.dropWhile isBlank = cs := by
  cases cs with
  | nil => rfl
  | cons c cs =>
    have hc := h c (by simp)
    simp only [List.dropWhile_cons, hc, Bool.false_eq_true, if_false]

theorem head?_dropWhile_isBlank (cs : List Char) :
    ∀ c ∈ (cs.dropWhile isBlank).head?, isBlank c = false := by
  induction cs with
  | nil => simp
  | cons c cs ih =>
    cases h : isBlank c
    · simp [h]
    · simpa only [List.dropWhile_cons, h, if_true] using ih

theorem dropTrailingBlanks_append (cs ds : List Char) (h : dropTrailingBlanks ds ≠ []) :
    dropTrailingBlanks (cs ++ ds) = cs ++ dropTrailingBlanks ds := by
  have hd : ds.reverse.dropWhile isBlank ≠ [] := by
    intro he
    exact h (by simp only [dropTrailingBlanks, he, List.reverse_nil])
  simp only [dropTrailingBlanks, List.reverse_append]
  rw [List.dropWhile_append]
  simp [hd]

/-- A first character that is not blank stays the first one. -/
theorem dropTrailingBlanks_cons {c : Char} {cs : List Char} (h : isBlank c = false) :
    dropTrailingBlanks (c :: cs) = c :: dropTrailingBlanks cs := by
  by_cases he : dropTrailingBlanks cs = []
  · have hall : cs.reverse.dropWhile isBlank = [] := by
      simpa [dropTrailingBlanks] using he
    simp only [dropTrailingBlanks, List.reverse_cons, List.dropWhile_append, hall,
      List.isEmpty_nil, if_true, List.dropWhile_cons, h, Bool.false_eq_true, if_false,
      List.dropWhile_nil, List.reverse_nil, List.nil_append]
  · exact dropTrailingBlanks_append [c] cs he

theorem trimChars_idem (cs : List Char) : trimChars (trimChars cs) = trimChars cs := by
  have hHead := head?_dropWhile_isBlank cs
  simp only [trimChars]
  cases h : cs.dropWhile isBlank with
  | nil => rfl
  | cons d ds =>
    rw [h] at hHead
    have hd : isBlank d = false := hHead d (by simp)
    rw [dropTrailingBlanks_cons hd, List.dropWhile_cons, hd]
    simp only [Bool.false_eq_true, if_false]
    rw [dropTrailingBlanks_cons hd, dropTrailingBlanks_idem]

/-- Trimming a trimmed text changes nothing. -/
theorem trim_trim (s : String) : trim (trim s) = trim s := by
  simp only [trim, String.toList_ofList, trimChars_idem]

end TieredDispatch.Text
