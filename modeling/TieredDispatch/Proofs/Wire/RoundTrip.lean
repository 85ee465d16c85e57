import Mathlib.Logic.Relation
import TieredDispatch.Proofs.Wire.Shape
import TieredDispatch.Wire.Device
import TieredDispatch.Wire.Model

/-!
# What is written is read again

Every value of a wire type is read again from the JSON that it is written as.  It still is if fields are left out
that hold their defaults, and if fields are added that a record has not got, at any depth; the latter changes
nothing about what any JSON is read as, whether it can be read or not.

* `Json.Faithful`: all of this, for one type.
* `Json.Faithful.of_keeps`: it follows from the reading of what is written, and from what changes keep.
* `Operation.shape`, `Graph.shape`, `FailureProfile.shape`, `DeviceProfile.shape`, `TierTable.shape`,
  `Manifest.shape`: the records in the values of each type, and the fields with defaults.
* `wire_types_faithful`: the types that are written and read.
-/

namespace TieredDispatch

namespace Json

/-! ## Faithful readers -/

/-- Whether a reader is faithful to a writer. -/
structure Faithful {α : Type} (shape : Shape) (encode : α → Json) (decode : Json → Option α) : Prop where
  /-- What is written is read again. -/
  written : ∀ a, decode (encode a) = some a
  /-- It is also read again with any fields left out that hold their defaults, and with any others added. -/
  changed : ∀ a j, Relation.ReflTransGen (fun j j' => Within Omits shape j j' ∨ Within Adds shape j j')
    (encode a) j → decode j = some a
  /-- Added fields never change what is read, nor whether anything is. -/
  added : ∀ j j', Relation.ReflTransGen (Within Adds shape) j j' → decode j' = decode j
  /-- What has been read is read again once it is written. -/
  reread : ∀ j a, decode j = some a → decode (encode a) = some a

namespace Faithful

variable {α : Type} {shape : Shape} {encode : α → Json} {decode : Json → Option α}

/-- A reader is faithful if it reads what is written and keeps what it reads after harmless changes. -/
theorem of_keeps (hWritten : ∀ a, decode (encode a) = some a)
    (hKeeps : ∀ change, Harmless change → Keeps change shape decode) : Faithful shape encode decode where
  written := hWritten
  changed a j h := by
    induction h with
    | refl => exact hWritten a
    | tail _ hStep ih =>
      rcases hStep with hOmits | hAdds
      · exact hKeeps Omits harmless_omits _ _ hOmits a ih
      · exact hKeeps Adds harmless_adds _ _ hAdds a ih
  added j j' h := by
    induction h with
    | refl => rfl
    | tail _ hStep ih =>
      have hForth := hKeeps Adds harmless_adds _ _ hStep
      have hBack := hKeeps (Change.back Adds) harmless_adds_back _ _ hStep.back
      exact (hForth.antisymm hBack).trans ih
  reread _ a _ := hWritten a

end Faithful

/-! ## Parts of records -/

section Fields

variable {α : Type} {fields : List (String × Json)} {name other : String} {j : Json} {value : α}
  {decode : Json → Option α}

@[simp] theorem required?_cons_self : required? ((name, j) :: fields) name decode = decode j := by
  rw [required?, TextMap.valueAt, if_pos rfl, Option.bind_some]

@[simp] theorem required?_cons_of_ne (h : other ≠ name) :
    required? ((other, j) :: fields) name decode = required? fields name decode := by
  rw [required?, TextMap.valueAt, if_neg h, required?]

@[simp] theorem defaulted?_cons_self : defaulted? ((name, j) :: fields) name value decode = decode j := by
  rw [defaulted?, TextMap.valueAt, if_pos rfl]

@[simp] theorem defaulted?_cons_of_ne (h : other ≠ name) :
    defaulted? ((other, j) :: fields) name value decode = defaulted? fields name value decode := by
  rw [defaulted?, TextMap.valueAt, if_neg h, defaulted?]

end Fields

@[simp] theorem string?_string (text : String) : string? (string text) = some text := rfl

@[simp] theorem bool?_bool (b : Bool) : bool? (bool b) = some b := rfl

theorem mapM_eq_some_self {α : Type} {f : α → Option α} (h : ∀ a, f a = some a) (items : List α) :
    items.mapM f = some items := by
  rw [funext h]
  exact List.mapM_pure.trans (congrArg some (List.map_id' items))

theorem list?_map {α : Type} {encode : α → Json} {decode : Json → Option α}
    (h : ∀ a, decode (encode a) = some a) (items : List α) :
    list? decode (.array (items.map encode)) = some items := by
  rw [list?, List.mapM_map]
  exact mapM_eq_some_self h items

@[simp] theorem strings?_ofStrings (items : List String) : strings? (ofStrings items) = some items :=
  list?_map string?_string items

@[simp] theorem stringSet?_ofStrings (s : TextSet) : stringSet? (ofStrings s.elems) = some s := by
  have hSame : TextSet.ofList s.elems = s := TextSet.ext_mem fun _ => TextSet.mem_ofList
  rw [stringSet?, strings?_ofStrings, Option.map_some, hSame]

theorem optional?_ofOption {α : Type} {encode : α → Json} {decode : Json → Option α}
    (h : ∀ a, decode (encode a) = some a) (hSome : ∀ a, encode a ≠ .null) (o : Option α) :
    optional? decode (ofOption encode o) = some o := by
  cases o with
  | none => rfl
  | some a =>
    have hPresent := h a
    have hNull := hSome a
    rw [ofOption]
    cases hEncoded : encode a with
    | null => exact absurd hEncoded hNull
    | _ =>
      rw [hEncoded] at hPresent
      simp only [optional?, hPresent, Option.map_some]

@[simp] theorem word?_ofNat (w : UInt64) : word? (.number (.ofNat w.toNat)) = some w := by
  simp only [word?, NumberLiteral.natural?_ofNat, UInt64.toNat_lt_size, if_true, UInt64.ofNat_toNat]

theorem map?_ofMap {α : Type} {encode : α → Json} {decode : Json → Option α}
    (h : ∀ a, decode (encode a) = some a) (m : TextMap α) : map? decode (ofMap encode m) = some m := by
  have hSame : TextMap.ofList m.entries = m := TextMap.ofList_perm (List.Perm.refl _)
  rw [ofMap, map?, List.mapM_map, mapM_eq_some_self, Option.map_some, hSame]
  intro entry
  rw [Function.comp_apply, h, Option.map_some]

end Json

open Json (Shape Change Harmless Keeps Faithful)
open Json.Shape (required defaulted)

variable {change : Change}

/-! ## Types without records -/

theorem ElementType.ofJson?_toJson (t : ElementType) : ofJson? t.toJson = some t := by
  cases t <;> decide

theorem MetricValue.ofJson?_toJson (v : MetricValue) : ofJson? v.toJson = some v := by
  cases v with
  | text s => rfl
  | list items =>
    change (Json.ofStrings items).strings?.map list = some (list items)
    rw [Json.strings?_ofStrings, Option.map_some]

theorem Config.ofJson?_toJson (c : Config) : ofJson? c.toJson = some c :=
  Json.map?_ofMap Json.string?_string c

/-! ## Records -/

namespace Operation

def shape : Shape :=
  .record [required "name" .plain, required "type_name" .plain, defaulted "inputs" .plain (.array [])]

theorem ofJson?_toJson (op : Operation) : ofJson? op.toJson = some op := by
  have hInputs := Json.list?_map ElementType.ofJson?_toJson op.inputs
  rw [ofJson?, toJson, Json.record?_object]
  · simp [hInputs]
  · rfl
  · decide

theorem keeps (hChange : Harmless change) : Keeps change shape ofJson? := by
  refine Keeps.record hChange (by decide) fun known known' hKept => ?_
  simp only [Json.RecordKept, List.forall_mem_cons] at hKept
  obtain ⟨hName, hType, hInputs, -⟩ := hKept
  exact .bind (hName.required .plain) fun _ => .bind (hType.required .plain) fun _ =>
    .bind (hInputs.defaulted rfl .plain) fun _ => .refl _

end Operation

namespace Graph

def shape : Shape := .record [required "name" .plain, defaulted "ops" (.array Operation.shape) (.array [])]

theorem ofJson?_toJson (g : Graph) : ofJson? g.toJson = some g := by
  have hOps := Json.list?_map Operation.ofJson?_toJson g.ops
  rw [ofJson?, toJson, Json.record?_object]
  · simp [hOps]
  · rfl
  · decide

theorem keeps (hChange : Harmless change) : Keeps change shape ofJson? := by
  refine Keeps.record hChange (by decide) fun known known' hKept => ?_
  simp only [Json.RecordKept, List.forall_mem_cons] at hKept
  obtain ⟨hName, hOps, -⟩ := hKept
  exact .bind (hName.required .plain) fun _ =>
    .bind (hOps.defaulted rfl (.list (Operation.keeps hChange))) fun _ => .refl _

end Graph

namespace FailureProfile

def shape : Shape :=
  .record [defaulted "metrics" .plain (.bool false), defaulted "queries" .plain (.bool false),
    defaulted "compile" .plain .null]

theorem ofJson?_toJson (f : FailureProfile) : ofJson? f.toJson = some f := by
  have hCompile := Json.optional?_ofOption Json.string?_string nofun f.compile
  rw [ofJson?, toJson, Json.record?_object]
  · simp [hCompile]
  · rfl
  · decide

theorem keeps (hChange : Harmless change) : Keeps change shape ofJson? := by
  refine Keeps.record hChange (by decide) fun known known' hKept => ?_
  simp only [Json.RecordKept, List.forall_mem_cons] at hKept
  obtain ⟨hMetrics, hQueries, hCompile, -⟩ := hKept
  exact .bind (hMetrics.defaulted rfl .plain) fun _ => .bind (hQueries.defaulted rfl .plain) fun _ =>
    .bind (hCompile.defaulted rfl .plain) fun _ => .refl _

end FailureProfile

namespace DeviceProfile

def shape : Shape :=
  .record [required "full_name" .plain, defaulted "capabilities" .plain (.array []),
    defaulted "config_keys" .plain (.array []), defaulted "indices" .plain (.array []),
    defaulted "supported_types" .plain .null, defaulted "compile_latency_ms" .plain (.number (.ofNat 0)),
    defaulted "failures" FailureProfile.shape FailureProfile.none.toJson]

theorem ofJson?_toJson (p : DeviceProfile) : ofJson? p.toJson = some p := by
  have hTypes := Json.optional?_ofOption Json.strings?_ofStrings nofun p.supportedTypes
  rw [ofJson?, toJson, Json.record?_object]
  · simp [hTypes, FailureProfile.ofJson?_toJson]
  · rfl
  · decide

theorem keeps (hChange : Harmless change) : Keeps change shape ofJson? := by
  refine Keeps.record hChange (by decide) fun known known' hKept => ?_
  simp only [Json.RecordKept, List.forall_mem_cons] at hKept
  obtain ⟨hName, hCapabilities, hKeys, hIndices, hTypes, hLatency, hFailures, -⟩ := hKept
  exact .bind (hName.required .plain) fun _ => .bind (hCapabilities.defaulted rfl .plain) fun _ =>
    .bind (hKeys.defaulted rfl .plain) fun _ => .bind (hIndices.defaulted rfl .plain) fun _ =>
    .bind (hTypes.defaulted rfl .plain) fun _ => .bind (hLatency.defaulted rfl .plain) fun _ =>
    .bind (hFailures.defaulted (FailureProfile.ofJson?_toJson _) (FailureProfile.keeps hChange)) fun _ => .refl _

end DeviceProfile

namespace TierTable

def shape : Shape :=
  .record [required "processor_prefix" .plain, required "generic_prefixes" .plain,
    required "family_a_prefixes" .plain, required "family_b_prefixes" .plain,
    required "discrete_marker" .plain, required "integrated_marker" .plain]

theorem ofJson?_toJson (t : TierTable) : ofJson? t.toJson = some t := by
  rw [ofJson?, toJson, Json.record?_object]
  · simp
  · rfl
  · decide

theorem keeps (hChange : Harmless change) : Keeps change shape ofJson? := by
  refine Keeps.record hChange (by decide) fun known known' hKept => ?_
  simp only [Json.RecordKept, List.forall_mem_cons] at hKept
  obtain ⟨hProcessor, hGeneric, hFamilyA, hFamilyB, hDiscrete, hIntegrated, -⟩ := hKept
  exact .bind (hProcessor.required .plain) fun _ => .bind (hGeneric.required .plain) fun _ =>
    .bind (hFamilyA.required .plain) fun _ => .bind (hFamilyB.required .plain) fun _ =>
    .bind (hDiscrete.required .plain) fun _ => .bind (hIntegrated.required .plain) fun _ => .refl _

end TierTable

namespace Manifest

def shape : Shape :=
  .record [required "full_name" .plain, required "supported_precisions" .plain, required "config_keys" .plain]

theorem ofJson?_toJson (m : Manifest) : ofJson? m.toJson = some m := by
  rw [ofJson?, toJson, Json.record?_object]
  · simp
  · rfl
  · decide

theorem keeps (hChange : Harmless change) : Keeps change shape ofJson? := by
  refine Keeps.record hChange (by decide) fun known known' hKept => ?_
  simp only [Json.RecordKept, List.forall_mem_cons] at hKept
  obtain ⟨hName, hCapabilities, hKeys, -⟩ := hKept
  exact .bind (hName.required .plain) fun _ => .bind (hCapabilities.required .plain) fun _ =>
    .bind (hKeys.required .plain) fun _ => .refl _

end Manifest

/-! ## All types -/

/-- What is written is read again, for each type that is both written and read; also if fields that hold their
defaults are left out and others are added, at any depth.  Settings and metrics have no records, so that nothing
is left out of them or added to them. -/
theorem wire_types_faithful :
    Faithful .plain ElementType.toJson ElementType.ofJson? ∧
    Faithful Operation.shape Operation.toJson Operation.ofJson? ∧
    Faithful Graph.shape Graph.toJson Graph.ofJson? ∧
    Faithful FailureProfile.shape FailureProfile.toJson FailureProfile.ofJson? ∧
    Faithful DeviceProfile.shape DeviceProfile.toJson DeviceProfile.ofJson? ∧
    Faithful TierTable.shape TierTable.toJson TierTable.ofJson? ∧
    Faithful .plain Config.toJson Config.ofJson? ∧
    Faithful Manifest.shape Manifest.toJson Manifest.ofJson? ∧
    Faithful .plain MetricValue.toJson MetricValue.ofJson? :=
  ⟨.of_keeps ElementType.ofJson?_toJson fun _ _ => .plain,
    .of_keeps Operation.ofJson?_toJson fun _ => Operation.keeps,
    .of_keeps Graph.ofJson?_toJson fun _ => Graph.keeps,
    .of_keeps FailureProfile.ofJson?_toJson fun _ => FailureProfile.keeps,
    .of_keeps DeviceProfile.ofJson?_toJson fun _ => DeviceProfile.keeps,
    .of_keeps TierTable.ofJson?_toJson fun _ => TierTable.keeps,
    .of_keeps Config.ofJson?_toJson fun _ _ => .plain,
    .of_keeps Manifest.ofJson?_toJson fun _ => Manifest.keeps,
    .of_keeps MetricValue.ofJson?_toJson fun _ _ => .plain⟩

/-- A graph is read again though an operation of it says nothing of its inputs, and something unknown besides. -/
theorem wire_types_faithful_trimmed :
    Graph.ofJson? (.object [("name", .string "net"), ("ops", .array [.object [("name", .string "sum"),
      ("hint", .null), ("type_name", .string "Add")]])]) =
      some ⟨"net", [⟨"sum", "Add", []⟩]⟩ := by
  have hOnly : ∀ (change : Change) (op op' : Json), Json.Within change Operation.shape op op' →
      Json.Within change Graph.shape (.object [("name", .string "net"), ("ops", .array [op])])
        (.object [("name", .string "net"), ("ops", .array [op'])]) := fun _ _ _ h =>
    @Json.Within.field _ _ _ _ _ [("name", .string "net")] [] (.tail _ (.head _))
      (@Json.Within.item _ _ _ _ [] [] h)
  have hOmits : Json.Within Json.Omits Operation.shape (Operation.toJson ⟨"sum", "Add", []⟩)
      (.object [("name", .string "sum"), ("type_name", .string "Add")]) :=
    .here (@Json.Omits.mk _ (defaulted "inputs" .plain (.array [])) _
      [("name", .string "sum"), ("type_name", .string "Add")] [] (.tail _ (.tail _ (.head _))) rfl)
  have hAdds : Json.Within Json.Adds Operation.shape
      (.object [("name", .string "sum"), ("type_name", .string "Add")])
      (.object [("name", .string "sum"), ("hint", .null), ("type_name", .string "Add")]) :=
    .here (@Json.Adds.mk _ "hint" .null [("name", .string "sum")] [("type_name", .string "Add")] (by decide))
  exact wire_types_faithful.2.2.1.changed ⟨"net", [⟨"sum", "Add", []⟩]⟩ _
    (.tail (.single (.inl (hOnly _ _ _ hOmits))) (.inr (hOnly _ _ _ hAdds)))

end TieredDispatch
