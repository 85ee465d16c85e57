import TieredDispatch.InputError
import TieredDispatch.Text.Blank
import TieredDispatch.Text.Search

/-!
# Precision classes

* `Precision`: the numeric class of a model's dominant operations.
* `Precision.parse`: reads a tag, blanks and case aside.
-/

namespace TieredDispatch

/-- The numeric class of a model's dominant operations. -/
inductive Precision
  | int8
  | fp16
  | fp32
  deriving DecidableEq

namespace Precision

/-- The class of a model about which nothing is known. -/
instance : Inhabited Precision := ⟨fp32⟩

/-- The capability tag of a device that runs this class. -/
def tag : Precision → String
  | int8 => "INT8"
  | fp16 => "FP16"
  | fp32 => "FP32"

def all : List Precision := [int8, fp16, fp32]

/-- The class whose tag is exactly `text`. -/
def ofTag? (text : String) : Option Precision :=
  all.find? fun p => p.tag = text

/-- Reads a tag, after trimming and in any ASCII case. -/
def parse (text : String) : Except InputError Precision :=
  let tag := Text.upperAscii (Text.trim text)
  match ofTag? tag with
  | some p => .ok p
  | none => .error (.unknownPrecision tag)

end Precision

end TieredDispatch
