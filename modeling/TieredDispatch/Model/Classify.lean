import TieredDispatch.Model.Graph
import TieredDispatch.Precision

/-!
# The precision class of a graph

A quantization marker anywhere decides for INT8. Otherwise the first convolution whose weights are of
a floating type decides, and without one the class is FP32.

* `Graph.precision`: the class of a graph.
-/

namespace TieredDispatch

/-- The type of the operations that mark a quantized model. -/
def quantizationMarker : String := "FakeQuantize"

/-- The types of convolutions: plain, grouped and transposed. -/
def convolutionTypes : List String :=
  ["Convolution", "GroupConvolution", "GroupConvolutionBackpropData", "ConvolutionBackpropData",
    "ConvolutionIE", "DeconvolutionIE"]

def isConvolution (typeName : String) : Bool :=
  convolutionTypes.contains typeName

namespace Operation

/-- The input that holds the weights. -/
def weightsInput : Nat := 1

/-- The class for which a convolution with weights of a floating type decides. -/
def decides? (op : Operation) : Option Precision :=
  if isConvolution op.typeName then
    match op.input? weightsInput with
    | some .f32 => some .fp32
    | some .f16 => some .fp16
    | _ => none
  else none

end Operation

/-- The precision class of a graph. -/
def Graph.precision (g : Graph) : Precision :=
  if g.hasType quantizationMarker then .int8
  else (g.ops.findSome? Operation.decides?).getD default

end TieredDispatch
