import TieredDispatch.Json.Number

/-!
# JSON values

* `Json`: a value as it is written; objects keep their fields in order, repeated ones included.
* `Json.fits`: whether a value can be kept aside before its meaning is known.
-/

namespace TieredDispatch

/-- A JSON value as it is written. -/
inductive Json
  | null
  | bool (b : Bool)
  | number (n : NumberLiteral)
  | string (s : String)
  /-- A string with an unpaired surrogate escape, or an object with such a key: it has no text. -/
  | unpaired
  | array (items : List Json)
  | object (fields : List (String × Json))
  deriving Inhabited

namespace Json

mutual

/-- Whether a value can be kept aside before its meaning is known: every text and number in it has a
value, and it is nested no deeper than `levels`. -/
def fits (levels : Nat) : Json → Bool
  | null => true
  | bool _ => true
  | number n => n.isFinite
  | string _ => true
  | unpaired => false
  | array items => 0 < levels && fitItems (levels - 1) items
  | object fields => 0 < levels && fitFields (levels - 1) fields

def fitItems (levels : Nat) : List Json → Bool
  | [] => true
  | item :: items => fits levels item && fitItems levels items

def fitFields (levels : Nat) : List (String × Json) → Bool
  | [] => true
  | (_, value) :: fields => fits levels value && fitFields levels fields

end

end Json

end TieredDispatch
