/-!
# Rounding to a number of binary digits

* `nearestMultiple`: the nearest multiple of a unit.
* `roundToBits`: the nearest natural number with few significant bits.
-/

namespace TieredDispatch

/-- The multiple of `unit` that is nearest to a number; of two that are equally near, the even one. -/
def nearestMultiple (unit n : Nat) : Nat :=
  let rest := 2 * (n % unit)
  if rest < unit || (rest = unit && n / unit % 2 = 0) then n / unit * unit
  else (n / unit + 1) * unit

/-- The nearest number that has at most `bits` significant bits. -/
def roundToBits (bits n : Nat) : Nat :=
  nearestMultiple (Nat.pow 2 (n.log2 + 1 - bits)) n

end TieredDispatch
