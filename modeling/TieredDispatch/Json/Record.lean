import TieredDispatch.Json.Value
import TieredDispatch.TextMap
import TieredDispatch.TextSet

/-!
# Records, lists and names in JSON

A record is an object, in which unknown fields are ignored and a known one stands at most once, or an
array of the values of its fields in order, of which the last ones may be left out.

* `Json.record?`: the fields that a value gives to a record.
* `Json.required?`, `Json.defaulted?`: what one field says.
* `Json.named?`: one of several names.
-/

namespace TieredDispatch.Json

/-- The fields that a value gives to a record with the given field names. -/
def record? (names : List String) : Json → Option (List (String × Json))
  | object fields =>
    let known := fields.filter fun field => names.contains field.1
    if (known.map (·.1)).eraseDups.length = known.length then some known else none
  | array items => if items.length ≤ names.length then some (names.zip items) else none
  | _ => none

/-- What a field says that has to be there. -/
def required? {α : Type} (fields : List (String × Json)) (name : String)
    (decode : Json → Option α) : Option α :=
  (TextMap.valueAt name fields).bind decode

/-- What a field says that may be left out. -/
def defaulted? {α : Type} (fields : List (String × Json)) (name : String) (value : α)
    (decode : Json → Option α) : Option α :=
  match TextMap.valueAt name fields with
  | some j => decode j
  | none => some value

def string? : Json → Option String
  | string s => some s
  | _ => none

def bool? : Json → Option Bool
  | bool b => some b
  | _ => none

/-- A natural number below two to the power of 64, written as a plain integer. -/
def word? : Json → Option UInt64
  | number n =>
    match n.natural? with
    | some v => if v < UInt64.size then some (UInt64.ofNat v) else none
    | none => none
  | _ => none

/-- A value that may be absent, which `null` says. -/
def optional? {α : Type} (decode : Json → Option α) : Json → Option (Option α)
  | null => some none
  | j => (decode j).map some

/-- An array whose items can all be read. -/
def list? {α : Type} (decode : Json → Option α) : Json → Option (List α)
  | array items => items.mapM decode
  | _ => none

def strings? : Json → Option (List String) := list? string?

/-- The set of the texts in an array. -/
def stringSet? (j : Json) : Option TextSet :=
  (strings? j).map TextSet.ofList

/-- An object as a map; the last value of a repeated key stays. -/
def map? {α : Type} (decode : Json → Option α) : Json → Option (TextMap α)
  | object fields =>
    (fields.mapM fun field => (decode field.2).map fun a => (field.1, a)).map TextMap.ofList
  | _ => none

/-- A name from a closed set: a text, or an object with that text as its only key, and `null`. -/
def named? {α : Type} (ofName? : String → Option α) : Json → Option α
  | string s => ofName? s
  | object [(s, null)] => ofName? s
  | _ => none

/-- An array of texts. -/
def ofStrings (items : List String) : Json := array (items.map string)

/-- A value that may be absent. -/
def ofOption {α : Type} (encode : α → Json) : Option α → Json
  | some a => encode a
  | none => null

/-- A map as an object. -/
def ofMap {α : Type} (encode : α → Json) (m : TextMap α) : Json :=
  object (m.entries.map fun (key, a) => (key, encode a))

end TieredDispatch.Json
