import TieredDispatch.Json.Value

/-!
# JSON tokens

* `Token.scan`: the tokens of a text; blanks between them are dropped.
* `Token.stringPieces`, `Token.textOf?`: the text of a string literal, its escapes resolved.
* `Token.number?`: a number literal without leading zeros.
-/

namespace TieredDispatch

/-- The tokens of JSON. The text of a string is `none` if it holds an unpaired surrogate. -/
inductive Token
  | openArray
  | closeArray
  | openObject
  | closeObject
  | comma
  | colon
  | literal (value : Json)
  | string (text : Option String)

namespace Token

def isBlank (c : Char) : Bool :=
  c = ' ' || c = '\n' || c = '\t' || c = '\r'

def hexValue? (c : Char) : Option Nat :=
  if c.isDigit then some (c.toNat - '0'.toNat)
  else if 'a' ≤ c && c ≤ 'f' then some (c.toNat - 'a'.toNat + 10)
  else if 'A' ≤ c && c ≤ 'F' then some (c.toNat - 'A'.toNat + 10)
  else none

/-- The number that four hexadecimal digits write. -/
def codeUnit? (a b c d : Char) : Option Nat := do
  return (((← hexValue? a) * 16 + (← hexValue? b)) * 16 + (← hexValue? c)) * 16 + (← hexValue? d)

def isLeadingSurrogate (n : Nat) : Bool := 0xd800 ≤ n && n < 0xdc00

def isTrailingSurrogate (n : Nat) : Bool := 0xdc00 ≤ n && n < 0xe000

/-- The character that a leading and a trailing surrogate write together. -/
def pairedChar (lead trail : Nat) : Char :=
  Char.ofNat (0x10000 + (lead - 0xd800) * 0x400 + (trail - 0xdc00))

/-- The character that follows a backslash in a two-character escape. -/
def escaped? : Char → Option Char
  | '"' => some '"'
  | '\\' => some '\\'
  | '/' => some '/'
  | 'b' => some '\x08'
  | 'f' => some '\x0c'
  | 'n' => some '\n'
  | 'r' => some '\r'
  | 't' => some '\t'
  | _ => none

/-- A part of a string literal: a character, or a code unit written as an escape. -/
inductive Piece
  | char (c : Char)
  | unit (n : Nat)

/-- The parts read so far with one more in front. -/
def addPiece (p : Piece) (read : List Piece × List Char) : List Piece × List Char :=
  (p :: read.1, read.2)

/-- The parts of a string literal after its opening quote, and the characters after its closing
quote. -/
def stringPieces : List Char → Option (List Piece × List Char)
  | [] => none
  | '"' :: rest => some ([], rest)
  | '\\' :: 'u' :: a :: b :: c :: d :: rest =>
    match codeUnit? a b c d with
    | some n => (stringPieces rest).map (addPiece (.unit n))
    | none => none
  | '\\' :: c :: rest =>
    match escaped? c with
    | some e => (stringPieces rest).map (addPiece (.char e))
    | none => none
  | c :: rest => if c.toNat < 0x20 then none else (stringPieces rest).map (addPiece (.char c))

/-- The characters that the parts write: a leading surrogate and the trailing one right after it write
one character, and there is no text if a surrogate has no partner. -/
def textOf? : List Piece → Option (List Char)
  | [] => some []
  | .char c :: rest => (textOf? rest).map (c :: ·)
  | .unit lead :: .unit trail :: rest =>
    if isLeadingSurrogate lead && isTrailingSurrogate trail then
      (textOf? rest).map (pairedChar lead trail :: ·)
    else if isLeadingSurrogate lead || isTrailingSurrogate lead then none
    else (textOf? (.unit trail :: rest)).map (Char.ofNat lead :: ·)
  | .unit n :: rest =>
    if isLeadingSurrogate n || isTrailingSurrogate n then none
    else (textOf? rest).map (Char.ofNat n :: ·)

/-- A row of decimal digits that is not empty. -/
def digits? (cs : List Char) : Option (List Char × List Char) :=
  if (cs.takeWhile Char.isDigit).isEmpty then none
  else some (cs.takeWhile Char.isDigit, cs.dropWhile Char.isDigit)

/-- The digits after a point, if the characters start with one. -/
def fraction? : List Char → Option (Option (List Char) × List Char)
  | '.' :: rest => (digits? rest).map fun (ds, rest) => (some ds, rest)
  | cs => some (none, cs)

/-- The sign of an exponent: whether it is negative. -/
def exponentSign : List Char → Bool × List Char
  | '-' :: rest => (true, rest)
  | '+' :: rest => (false, rest)
  | cs => (false, cs)

/-- An exponent, if the characters start with one. -/
def exponent? : List Char → Option (Option Int × List Char)
  | c :: rest =>
    if c = 'e' || c = 'E' then
      let (negative, rest) := exponentSign rest
      (digits? rest).map fun (ds, rest) =>
        let n : Int := NumberLiteral.digitsValue 0 ds
        (some (if negative then -n else n), rest)
    else some (none, c :: rest)
  | [] => some (none, [])

/-- Whether digits start with a zero that is not the only one. -/
def hasLeadingZero : List Char → Bool
  | '0' :: _ :: _ => true
  | _ => false

/-- A number literal without its sign. -/
def magnitude? (negative : Bool) (cs : List Char) : Option (NumberLiteral × List Char) := do
  let (whole, rest) ← digits? cs
  if hasLeadingZero whole then none
  else
    let (fraction, rest) ← fraction? rest
    let (exponent, rest) ← exponent? rest
    return (⟨negative, NumberLiteral.digitsValue 0 whole, fraction, exponent⟩, rest)

/-- A number literal at the start of the characters. -/
def number? : List Char → Option (NumberLiteral × List Char)
  | '-' :: rest => magnitude? true rest
  | cs => magnitude? false cs

/-- The token at the start of the characters, and the characters after it. -/
def next? : List Char → Option (Token × List Char)
  | '[' :: rest => some (openArray, rest)
  | ']' :: rest => some (closeArray, rest)
  | '{' :: rest => some (openObject, rest)
  | '}' :: rest => some (closeObject, rest)
  | ',' :: rest => some (comma, rest)
  | ':' :: rest => some (colon, rest)
  | 'n' :: 'u' :: 'l' :: 'l' :: rest => some (literal .null, rest)
  | 't' :: 'r' :: 'u' :: 'e' :: rest => some (literal (.bool true), rest)
  | 'f' :: 'a' :: 'l' :: 's' :: 'e' :: rest => some (literal (.bool false), rest)
  | '"' :: rest =>
    (stringPieces rest).map fun (pieces, rest) => (string ((textOf? pieces).map String.ofList), rest)
  | cs => (number? cs).map fun (n, rest) => (literal (.number n), rest)

/-! ## Every token takes a character -/

theorem length_of_stringPieces {cs : List Char} {read : List Piece × List Char}
    (h : stringPieces cs = some read) : read.2.length < cs.length := by
  fun_induction stringPieces cs generalizing read with
  | case1 => simp at h
  | case2 rest =>
    cases h
    simp
  | case3 a b c d rest n _ ih =>
    obtain ⟨r, hr, rfl⟩ := Option.map_eq_some_iff.mp h
    have := ih hr
    simp only [addPiece, List.length_cons]
    omega
  | case4 => simp at h
  | case5 c rest _ e _ ih =>
    obtain ⟨r, hr, rfl⟩ := Option.map_eq_some_iff.mp h
    have := ih hr
    simp only [addPiece, List.length_cons]
    omega
  | case6 => simp at h
  | case7 => simp at h
  | case8 c rest _ _ _ _ ih =>
    obtain ⟨r, hr, rfl⟩ := Option.map_eq_some_iff.mp h
    have := ih hr
    simp only [addPiece, List.length_cons]
    omega

theorem length_of_digits {cs ds rest : List Char} (h : digits? cs = some (ds, rest)) :
    rest.length < cs.length := by
  simp only [digits?] at h
  split at h
  · simp at h
  · next hne =>
    simp only [Option.some.injEq, Prod.mk.injEq] at h
    have hsum := congrArg List.length (List.takeWhile_append_dropWhile (p := Char.isDigit) (l := cs))
    rw [List.length_append, h.1, h.2] at hsum
    have : ds.length ≠ 0 := by
      rw [← h.1]
      simpa [List.isEmpty_iff] using hne
    omega

theorem length_of_fraction {cs rest : List Char} {f : Option (List Char)}
    (h : fraction? cs = some (f, rest)) : rest.length ≤ cs.length := by
  simp only [fraction?] at h
  split at h
  · obtain ⟨⟨ds, r⟩, hr, he⟩ := Option.map_eq_some_iff.mp h
    have := length_of_digits hr
    simp only [Prod.mk.injEq] at he
    rw [← he.2, List.length_cons]
    omega
  · simp only [Option.some.injEq, Prod.mk.injEq] at h
    exact Nat.le_of_eq (congrArg List.length h.2.symm)

theorem length_exponentSign (cs : List Char) : (exponentSign cs).2.length ≤ cs.length := by
  unfold exponentSign
  split <;> simp

theorem length_of_exponent {cs rest : List Char} {e : Option Int}
    (h : exponent? cs = some (e, rest)) : rest.length ≤ cs.length := by
  cases cs with
  | nil =>
    simp only [exponent?, Option.some.injEq, Prod.mk.injEq] at h
    simp [← h.2]
  | cons c cs =>
    simp only [exponent?] at h
    split at h
    · obtain ⟨⟨ds, r⟩, hr, he⟩ := Option.map_eq_some_iff.mp h
      have hd := length_of_digits hr
      have hs := length_exponentSign cs
      simp only [Prod.mk.injEq] at he
      rw [← he.2, List.length_cons]
      omega
    · simp only [Option.some.injEq, Prod.mk.injEq] at h
      simp [← h.2]

theorem length_of_magnitude {negative : Bool} {cs rest : List Char} {n : NumberLiteral}
    (h : magnitude? negative cs = some (n, rest)) : rest.length < cs.length := by
  simp only [magnitude?, bind, Option.bind_eq_some_iff] at h
  obtain ⟨⟨whole, r₁⟩, h₁, h⟩ := h
  dsimp only at h
  split at h
  · simp at h
  · simp only [Option.bind_eq_some_iff] at h
    obtain ⟨⟨f, r₂⟩, h₂, ⟨e, r₃⟩, h₃, h⟩ := h
    simp only [pure, Option.some.injEq, Prod.mk.injEq] at h
    have hd := length_of_digits h₁
    have hf := length_of_fraction h₂
    have he := length_of_exponent h₃
    dsimp only at he
    rw [← h.2]
    omega

theorem length_of_number {cs rest : List Char} {n : NumberLiteral}
    (h : number? cs = some (n, rest)) : rest.length < cs.length := by
  unfold number? at h
  split at h
  · have := length_of_magnitude h
    simp only [List.length_cons]
    omega
  · exact length_of_magnitude h

theorem length_of_next {cs after : List Char} {token : Token}
    (h : next? cs = some (token, after)) : after.length < cs.length := by
  unfold next? at h
  split at h
  · grind
  · grind
  · grind
  · grind
  · grind
  · grind
  · grind
  · grind
  · grind
  · obtain ⟨⟨ps, r⟩, hr, he⟩ := Option.map_eq_some_iff.mp h
    have := length_of_stringPieces hr
    dsimp only at this
    simp only [Prod.mk.injEq] at he
    rw [← he.2, List.length_cons]
    omega
  · obtain ⟨⟨n, r⟩, hr, he⟩ := Option.map_eq_some_iff.mp h
    have := length_of_number hr
    simp only [Prod.mk.injEq] at he
    rw [← he.2]
    exact this

/-- The tokens of the characters; blanks between them are dropped. -/
def scan (cs : List Char) : Option (List Token) :=
  match cs with
  | [] => some []
  | c :: rest =>
    if isBlank c then scan rest
    else match h : next? (c :: rest) with
      | none => none
      | some (token, after) =>
        have : after.length < (c :: rest).length := length_of_next h
        (scan after).map (token :: ·)
termination_by cs.length
decreasing_by
  · exact Nat.lt_succ_self rest.length
  · exact this

end Token

end TieredDispatch
