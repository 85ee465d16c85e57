/-!
# Model graphs

* `Graph`: the operations of a model, in order.
* `Graph.hasType`: whether an operation of a type is among them.
-/

namespace TieredDispatch

/-- The element type of an operation's input. -/
inductive ElementType
  | f32
  | f16
  | bf16
  | i8
  | u8
  | i32
  | i64
  | boolean
  | dynamic
  deriving DecidableEq

namespace ElementType

def name : ElementType → String
  | f32 => "f32"
  | f16 => "f16"
  | bf16 => "bf16"
  | i8 => "i8"
  | u8 => "u8"
  | i32 => "i32"
  | i64 => "i64"
  | boolean => "boolean"
  | dynamic => "dynamic"

def all : List ElementType := [f32, f16, bf16, i8, u8, i32, i64, boolean, dynamic]

def ofName? (text : String) : Option ElementType :=
  all.find? fun t => t.name = text

end ElementType

/-- One operation of a model. -/
structure Operation where
  name : String
  typeName : String
  inputs : List ElementType
  deriving DecidableEq

/-- The element type of the input with the given index. -/
def Operation.input? (op : Operation) (index : Nat) : Option ElementType :=
  op.inputs[index]?

/-- A model as the operations it consists of. -/
structure Graph where
  name : String
  ops : List Operation
  deriving DecidableEq

/-- Whether an operation of the given type is in the graph. -/
def Graph.hasType (g : Graph) (typeName : String) : Bool :=
  g.ops.any fun op => op.typeName = typeName

end TieredDispatch
