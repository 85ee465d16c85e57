import TieredDispatch.Json.Reader
import TieredDispatch.Json.Record
import TieredDispatch.Model.Graph
import TieredDispatch.Precision

/-!
# Models in JSON

* `ElementType`, `Precision`: names.
* `Operation`, `Graph`: records, in which the lists may be left out.
* `Graph.read?`: the graph that a text describes.
-/

namespace TieredDispatch

def ElementType.toJson (t : ElementType) : Json := .string t.name

def ElementType.ofJson? : Json → Option ElementType := Json.named? ElementType.ofName?

def Precision.toJson (p : Precision) : Json := .string p.tag

def Precision.ofJson? : Json → Option Precision := Json.named? Precision.ofTag?

namespace Operation

def fieldNames : List String := ["name", "type_name", "inputs"]

def toJson (op : Operation) : Json :=
  .object [("name", .string op.name), ("type_name", .string op.typeName),
    ("inputs", .array (op.inputs.map ElementType.toJson))]

def ofJson? (j : Json) : Option Operation := do
  let fields ← j.record? fieldNames
  return {
    name := ← Json.required? fields "name" Json.string?
    typeName := ← Json.required? fields "type_name" Json.string?
    inputs := ← Json.defaulted? fields "inputs" [] (Json.list? ElementType.ofJson?) }

end Operation

namespace Graph

def fieldNames : List String := ["name", "ops"]

def toJson (g : Graph) : Json :=
  .object [("name", .string g.name), ("ops", .array (g.ops.map Operation.toJson))]

def ofJson? (j : Json) : Option Graph := do
  let fields ← j.record? fieldNames
  return {
    name := ← Json.required? fields "name" Json.string?
    ops := ← Json.defaulted? fields "ops" [] (Json.list? Operation.ofJson?) }

/-- The graph that a text describes. -/
def read? (text : String) : Option Graph :=
  (Json.read? text).bind ofJson?

end Graph

end TieredDispatch
