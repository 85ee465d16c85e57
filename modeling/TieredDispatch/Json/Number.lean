import TieredDispatch.Rounding

/-!
# Number literals

* `NumberLiteral`: a number as it is written, with its sign, fraction and exponent.
* `NumberLiteral.natural?`: the value of a literal that is a plain natural number.
* `NumberLiteral.leading`: the digits of a literal that fit a machine word, and their power of ten.
* `NumberLiteral.isFinite`: whether a literal has a finite double-precision value.
-/

namespace TieredDispatch

/-- A number as it is written. -/
structure NumberLiteral where
  negative : Bool
  /-- The digits before the point, as a number; they have no leading zeros. -/
  whole : Nat
  /-- The digits after the point, if there is one. -/
  fraction : Option (List Char)
  exponent : Option Int
  deriving DecidableEq

namespace NumberLiteral

/-- The literal of a natural number. -/
def ofNat (n : Nat) : NumberLiteral := ⟨false, n, none, none⟩

/-- The value of a literal without sign, fraction and exponent. -/
def natural? (l : NumberLiteral) : Option Nat :=
  if l.negative || l.fraction.isSome || l.exponent.isSome then none else some l.whole

theorem natural?_ofNat (n : Nat) : (ofNat n).natural? = some n := rfl

/-- The value of a row of decimal digits, after digits of value `n`. -/
def digitsValue (n : Nat) (digits : List Char) : Nat :=
  digits.foldl (fun n c => 10 * n + (c.toNat - '0'.toNat)) n

/-- Reads digits after a number for as long as the result stays below a bound: the number that is read,
and how many digits are taken. -/
def takeDigits (bound n : Nat) : List Char → Nat × Nat
  | [] => (n, 0)
  | c :: cs =>
    if digitsValue n [c] < bound then
      let (value, count) := takeDigits bound (digitsValue n [c]) cs
      (value, count + 1)
    else (n, 0)

/-- The leading digits of a literal, as a number that fits a machine word, and the power of ten by which
they are multiplied. Digits that no longer fit are dropped: one before the point counts in the power,
one after it does not. -/
def leading (l : NumberLiteral) : Nat × Int :=
  let before := Nat.toDigits 10 l.whole
  let (n, taken) := takeDigits (Nat.pow 2 64) 0 before
  let (n, places) := takeDigits (Nat.pow 2 64) n (l.fraction.getD [])
  (n, (before.length - taken : Nat) - (places : Int) + l.exponent.getD 0)

/-- The significant bits of a double-precision number. -/
def precisionBits : Nat := 53

/-- The least number that is nearer to infinity than to any finite double-precision number. -/
def overflowBound : Nat := Nat.pow 2 1024 - Nat.pow 2 970

/-- The largest power of ten that is a finite double-precision number. -/
def largestPower : Int := 308

/-- Whether a literal has a finite double-precision value. The value is the product of the leading digits
and the power of ten, each rounded first, so that a literal just below the bound can have none. -/
def isFinite (l : NumberLiteral) : Bool :=
  let (n, power) := l.leading
  n = 0 || power < 0 || (power ≤ largestPower &&
    roundToBits precisionBits n * roundToBits precisionBits (Nat.pow 10 power.toNat) < overflowBound)

end NumberLiteral

end TieredDispatch
