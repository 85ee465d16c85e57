import TieredDispatch.Json.Token

/-!
# Reading JSON

The reader takes one token after another and keeps the arrays and objects that are still open. It
accepts exactly one value, without comments, trailing commas or anything after the value.

* `Json.read?`: the value that a text writes.
-/

namespace TieredDispatch

/-- An array or object that is still open, its contents last one first. -/
inductive OpenValue
  | array (items : List Json)
  /-- `broken` tells whether a key had no text. -/
  | object (fields : List (String × Json)) (broken : Bool)
  /-- An object whose last key waits for its value. -/
  | member (fields : List (String × Json)) (broken : Bool) (key : String)

/-- What the reader is ready for. -/
inductive Expected
  | value
  /-- The first item of an array, or its end. -/
  | firstItem
  | key
  /-- The first key of an object, or its end. -/
  | firstKey
  | colon
  /-- A comma, or the end of the innermost open value. -/
  | separator
  /-- Nothing more: the value is complete. -/
  | nothing (result : Json)

/-- How far the reader has come. -/
structure ReaderState where
  /-- The open values, innermost first. -/
  stack : List OpenValue
  expected : Expected

namespace ReaderState

def initial : ReaderState := ⟨[], .value⟩

/-- A value is complete, and goes into the innermost open one. -/
def complete (value : Json) : List OpenValue → Option ReaderState
  | [] => some ⟨[], .nothing value⟩
  | .array items :: stack => some ⟨.array (value :: items) :: stack, .separator⟩
  | .member fields broken key :: stack =>
    some ⟨.object ((key, value) :: fields) broken :: stack, .separator⟩
  | .object _ _ :: _ => none

/-- The innermost open value ends as an array. -/
def closeArray : List OpenValue → Option ReaderState
  | .array items :: stack => complete (.array items.reverse) stack
  | _ => none

/-- The innermost open value ends as an object. -/
def closeObject : List OpenValue → Option ReaderState
  | .object fields broken :: stack =>
    complete (if broken then .unpaired else .object fields.reverse) stack
  | _ => none

/-- A token at a place where a value may start. -/
def startValue (stack : List OpenValue) : Token → Option ReaderState
  | .literal value => complete value stack
  | .string (some text) => complete (.string text) stack
  | .string none => complete .unpaired stack
  | .openArray => some ⟨.array [] :: stack, .firstItem⟩
  | .openObject => some ⟨.object [] false :: stack, .firstKey⟩
  | _ => none

/-- A token at a place where a key has to stand. -/
def startMember : List OpenValue → Token → Option ReaderState
  | .object fields broken :: stack, .string text =>
    some ⟨.member fields (broken || text.isNone) (text.getD "") :: stack, .colon⟩
  | _, _ => none

/-- A token after an item or member. -/
def afterValue : List OpenValue → Token → Option ReaderState
  | .array items :: stack, .comma => some ⟨.array items :: stack, .value⟩
  | .object fields broken :: stack, .comma => some ⟨.object fields broken :: stack, .key⟩
  | stack, .closeArray => closeArray stack
  | stack, .closeObject => closeObject stack
  | _, _ => none

/-- One more token. -/
def step (s : ReaderState) (token : Token) : Option ReaderState :=
  match s.expected, token with
  | .value, _ => startValue s.stack token
  | .firstItem, .closeArray => closeArray s.stack
  | .firstItem, _ => startValue s.stack token
  | .key, _ => startMember s.stack token
  | .firstKey, .closeObject => closeObject s.stack
  | .firstKey, _ => startMember s.stack token
  | .colon, .colon => some ⟨s.stack, .value⟩
  | .colon, _ => none
  | .separator, _ => afterValue s.stack token
  | .nothing _, _ => none

/-- The value that was read, if it is complete. -/
def result? (s : ReaderState) : Option Json :=
  match s.expected with
  | .nothing value => some value
  | _ => none

end ReaderState

/-- The value that a text writes. -/
def Json.read? (text : String) : Option Json := do
  let tokens ← Token.scan text.toList
  let final ← tokens.foldlM ReaderState.step .initial
  final.result?

end TieredDispatch
