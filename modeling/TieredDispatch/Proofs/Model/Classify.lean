import Mathlib.Data.List.Basic
import TieredDispatch.Model.Classify
import TieredDispatch.Proofs.List.First

/-!
# The class of a row of operations

A quantizing operation anywhere decides for INT8.  Otherwise the first decisive operation decides, which is a
convolution with floating weights; a convolution whose weights are missing or of another type is passed by.  The
class of two rows one after the other follows from this, and so does what the class does not depend on.

* `Operation.Decides`: the class for which a convolution decides.
* `Graph.precision_eq_int8_iff`, `Graph.precision_of_unquantized`: the class of a graph.
* `Graph.Alike`: rows of operations that differ only in what does not matter.
* `Graph.precision_append`: the class of two rows, one after the other.
-/

namespace TieredDispatch

namespace Operation

variable {op op' : Operation} {p : Precision}

/-- Whether an operation is a convolution whose weights decide for a class. -/
inductive Decides (op : Operation) : Precision → Prop
  | fp32 : op.typeName ∈ convolutionTypes → op.input? 1 = some .f32 → Decides op .fp32
  | fp16 : op.typeName ∈ convolutionTypes → op.input? 1 = some .f16 → Decides op .fp16

def Decisive (op : Operation) : Prop := ∃ p, op.Decides p

/-- Whether an operation marks its model as quantized. -/
def Quantizes (op : Operation) : Prop := op.typeName = "FakeQuantize"

theorem isConvolution_iff {typeName : String} : isConvolution typeName = true ↔ typeName ∈ convolutionTypes :=
  List.contains_iff_mem

theorem decides?_eq_some_iff : op.decides? = some p ↔ op.Decides p := by
  constructor
  · intro h
    simp only [decides?, Option.ite_none_right_eq_some, isConvolution_iff] at h
    obtain ⟨hFamily, hWeights⟩ := h
    split at hWeights
    · next hInput =>
      cases hWeights
      exact .fp32 hFamily hInput
    · next hInput =>
      cases hWeights
      exact .fp16 hFamily hInput
    · cases hWeights
  · rintro (⟨hFamily, hInput⟩ | ⟨hFamily, hInput⟩)
    all_goals simp only [decides?, isConvolution_iff.mpr hFamily, if_true, weightsInput, hInput]

theorem decides?_eq_none_iff : op.decides? = none ↔ ¬ op.Decisive := by
  simp only [Option.eq_none_iff_forall_ne_some, Decisive, not_exists, ← decides?_eq_some_iff, ne_eq]

theorem not_decides_int8 : ¬ op.Decides .int8 := nofun

/-- Only the type and the weights are looked at. -/
theorem decides?_congr (hType : op'.typeName = op.typeName) (hWeights : op'.input? 1 = op.input? 1) :
    op'.decides? = op.decides? := by
  rw [decides?, decides?, weightsInput, hType, hWeights]

end Operation

namespace Graph

variable {name : String} {xs ys : List Operation}

/-! ## The class of a graph -/

/-- Whether one of the operations marks the model as quantized. -/
def Quantized (ops : List Operation) : Prop := ∃ op ∈ ops, op.Quantizes

theorem quantized_cons {op : Operation} : Quantized (op :: xs) ↔ op.Quantizes ∨ Quantized xs := by
  simp only [Quantized, List.mem_cons, exists_eq_or_imp]

theorem quantized_append : Quantized (xs ++ ys) ↔ Quantized xs ∨ Quantized ys := by
  simp only [Quantized, List.mem_append, or_and_right, exists_or]

theorem hasType_marker_iff : hasType ⟨name, xs⟩ quantizationMarker = true ↔ Quantized xs := by
  simp only [hasType, List.any_eq_true, decide_eq_true_eq]
  rfl

theorem precision_of_quantized (h : Quantized xs) : precision ⟨name, xs⟩ = .int8 := by
  rw [precision, if_pos (hasType_marker_iff.mpr h)]

theorem precision_of_unquantized (h : ¬ Quantized xs) :
    precision ⟨name, xs⟩ = (xs.findSome? Operation.decides?).getD .fp32 := by
  rw [precision, if_neg (hasType_marker_iff.not.mpr h)]
  rfl

/-- Convolutions never decide for INT8, so the class is INT8 just if a marker is there. -/
theorem precision_eq_int8_iff : precision ⟨name, xs⟩ = .int8 ↔ Quantized xs := by
  constructor
  · intro h
    by_contra hPlain
    rw [precision_of_unquantized hPlain] at h
    cases hFound : xs.findSome? Operation.decides? with
    | none =>
      rw [hFound] at h
      cases h
    | some p =>
      rw [hFound, Option.getD_some] at h
      subst h
      obtain ⟨op, -, hOp⟩ := List.exists_of_findSome?_eq_some hFound
      exact Operation.not_decides_int8 (Operation.decides?_eq_some_iff.mp hOp)
  · exact precision_of_quantized

theorem findSome?_decides_of_isFirst {op : Operation} {p : Precision}
    (hFirst : IsFirst Operation.Decisive xs op) (hDecides : op.Decides p) :
    xs.findSome? Operation.decides? = some p := by
  obtain ⟨-, before, after, rfl, hBefore⟩ := hFirst
  refine List.findSome?_eq_some_iff.mpr ⟨before, op, after, rfl, ?_, fun x hx => ?_⟩
  · exact Operation.decides?_eq_some_iff.mpr hDecides
  · exact Operation.decides?_eq_none_iff.mpr (hBefore x hx)

theorem findSome?_decides_eq_none (h : ∀ op ∈ xs, ¬ op.Decisive) :
    xs.findSome? Operation.decides? = none :=
  List.findSome?_eq_none_iff.mpr fun op hOp => Operation.decides?_eq_none_iff.mpr (h op hOp)

/-! ## What the class does not depend on -/

/-- Whether two rows differ only in operations that are neither decisive nor quantizing, and in the names and
the other inputs of the rest. -/
inductive Alike : List Operation → List Operation → Prop
  | nil : Alike [] []
  | kept {op op' : Operation} {xs ys : List Operation} : op'.typeName = op.typeName →
      op'.input? 1 = op.input? 1 → Alike xs ys → Alike (op :: xs) (op' :: ys)
  | inserted {op : Operation} {xs ys : List Operation} : ¬ op.Decisive → ¬ op.Quantizes → Alike xs ys →
      Alike xs (op :: ys)
  | deleted {op : Operation} {xs ys : List Operation} : ¬ op.Decisive → ¬ op.Quantizes → Alike xs ys →
      Alike (op :: xs) ys

namespace Alike

theorem findSome?_eq (h : Alike xs ys) : ys.findSome? Operation.decides? = xs.findSome? Operation.decides? := by
  induction h with
  | nil => rfl
  | kept hType hWeights _ ih =>
    rw [List.findSome?_cons, List.findSome?_cons, Operation.decides?_congr hType hWeights, ih]
  | inserted hIdle _ _ ih => rw [List.findSome?_cons, Operation.decides?_eq_none_iff.mpr hIdle, ih]
  | deleted hIdle _ _ ih => rw [List.findSome?_cons, Operation.decides?_eq_none_iff.mpr hIdle, ih]

theorem quantized_iff (h : Alike xs ys) : Quantized ys ↔ Quantized xs := by
  induction h with
  | nil => rfl
  | kept hType _ _ ih => rw [quantized_cons, quantized_cons, Operation.Quantizes, Operation.Quantizes, hType, ih]
  | inserted _ hPlain _ ih => rw [quantized_cons, ih, or_iff_right hPlain]
  | deleted _ hPlain _ ih => rw [quantized_cons, ih, or_iff_right hPlain]

theorem precision_eq (h : Alike xs ys) (name name' : String) :
    precision ⟨name', ys⟩ = precision ⟨name, xs⟩ := by
  by_cases hMarked : Quantized xs
  · rw [precision_of_quantized hMarked, precision_of_quantized (h.quantized_iff.mpr hMarked)]
  · rw [precision_of_unquantized hMarked, precision_of_unquantized (h.quantized_iff.not.mpr hMarked),
      h.findSome?_eq]

end Alike

/-- The class of two rows of operations, one after the other.  It is INT8 just if one of them holds a
quantizing operation; otherwise the first decisive operation of the first row decides, and where there is none
the class is that of the second row.  Without any decisive operation it is FP32.  Operations that are neither
decisive nor quantizing may come and go anywhere, and names and other inputs may change. -/
theorem precision_append (name : String) (xs ys : List Operation) :
    (precision ⟨name, xs ++ ys⟩ = .int8 ↔ Quantized xs ∨ Quantized ys) ∧
    (¬ Quantized xs → ¬ Quantized ys →
      (∀ op p, IsFirst Operation.Decisive xs op → op.Decides p → precision ⟨name, xs ++ ys⟩ = p) ∧
      ((∀ op ∈ xs, ¬ op.Decisive) → precision ⟨name, xs ++ ys⟩ = precision ⟨name, ys⟩)) ∧
    (¬ Quantized xs → (∀ op ∈ xs, ¬ op.Decisive) → precision ⟨name, xs⟩ = .fp32) ∧
    ∀ name' zs, Alike xs zs → precision ⟨name', zs⟩ = precision ⟨name, xs⟩ := by
  refine ⟨?_, fun hPlain hPlain' => ?_, fun hPlain hNone => ?_, fun name' zs hAlike => ?_⟩
  · rw [precision_eq_int8_iff, quantized_append]
  · have hBoth : ¬ Quantized (xs ++ ys) := by
      rw [quantized_append]
      exact not_or.mpr ⟨hPlain, hPlain'⟩
    rw [precision_of_unquantized hBoth, precision_of_unquantized hPlain', List.findSome?_append]
    constructor
    · intro op p hFirst hDecides
      rw [findSome?_decides_of_isFirst hFirst hDecides]
      rfl
    · intro hNone
      rw [findSome?_decides_eq_none hNone, Option.none_or]
  · rw [precision_of_unquantized hPlain, findSome?_decides_eq_none hNone]
    rfl
  · exact hAlike.precision_eq name name'

/-- A convolution without weights, and one with integer weights: neither is decisive. -/
def undecided : List Operation :=
  [⟨"conv", "Convolution", [.f16]⟩, ⟨"group", "GroupConvolution", [.f32, .i8]⟩]

/-- Undecided convolutions leave the class to what follows them: FP16 to a transposed convolution with such
weights, INT8 to a marker; and they may be taken away. -/
theorem precision_append_undecided :
    precision ⟨"net", undecided ++ [⟨"up", "DeconvolutionIE", [.i8, .f16]⟩]⟩ = .fp16 ∧
    precision ⟨"net", undecided ++ [⟨"up", "DeconvolutionIE", [.i8, .f16]⟩, ⟨"q", "FakeQuantize", []⟩]⟩ =
      .int8 ∧
    precision ⟨"other", [⟨"first", "Convolution", [.f16]⟩]⟩ = precision ⟨"net", undecided⟩ := by
  have hUndecided : ∀ op ∈ undecided, ¬ op.Decisive := by
    simp only [← Operation.decides?_eq_none_iff]
    decide
  have hPlain : ¬ Quantized undecided := by simp [Quantized, undecided, Operation.Quantizes]
  have hGroup := hUndecided ⟨"group", "GroupConvolution", [.f32, .i8]⟩ (by decide)
  refine ⟨?_, (precision_append "net" undecided _).1.mpr (Or.inr ?_), ?_⟩
  · rw [((precision_append "net" undecided _).2.1 hPlain (by simp [Quantized, Operation.Quantizes])).2 hUndecided]
    decide
  · exact ⟨⟨"q", "FakeQuantize", []⟩, by decide, rfl⟩
  · exact (precision_append "net" undecided []).2.2.2 "other" _
      (.kept rfl rfl (.deleted hGroup (by simp [Operation.Quantizes]) .nil))

end Graph

end TieredDispatch
