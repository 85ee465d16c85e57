import TieredDispatch.Json.Record
import TieredDispatch.Proofs.Config.Merge
import TieredDispatch.Proofs.List.Distinct

/-!
# Changes to records, at any depth

A shape tells where the records lie in the JSON values of a type, and which of their fields may be left out.
With it the changes that a reader does not notice are said once: a field is left out that holds its default, or
one is added that the record has not got, in any of the records.

* `Json.Shape`: the records in a value, and their fields.
* `Json.Omits`, `Json.Adds`: the changes to the fields of one record.
* `Json.Within`: one change to one record, at any depth.
* `Json.Keeps`: whether a reader still reads the same value after a change at any depth.
* `Json.Harmless`: a change after which every field still says the same, or has said its default.
* `Json.harmless_omits`, `Json.harmless_adds`: both changes are harmless.
* `Json.Keeps.list`, `Json.Keeps.record`: readers of lists and of records keep what they read after a harmless
  change, if those of their parts do.
-/

namespace TieredDispatch

/-! ## Look-ups among fields -/

namespace TextMap

variable {β : Type} {key name : String} {value : β} {before after : List (String × β)}

theorem valueAt_of_not_mem {l : List (String × β)} (h : key ∉ l.map (·.1)) : valueAt key l = none := by
  cases hFound : valueAt key l with
  | none => rfl
  | some value => exact absurd (List.mem_map.mpr ⟨_, mem_of_valueAt hFound, rfl⟩) h

theorem valueAt_middle (before : List (String × β)) (name : String) (value : β) (after : List (String × β)) :
    valueAt name (before ++ (name, value) :: after) = (valueAt name before).or (some value) := by
  rw [valueAt_append, valueAt, if_pos rfl]

theorem valueAt_middle_of_ne (h : name ≠ key) :
    valueAt key (before ++ (name, value) :: after) = valueAt key (before ++ after) := by
  rw [valueAt_append, valueAt_append, valueAt, if_neg h]

end TextMap

namespace Json

/-! ## Shapes and changes -/

/-- A field of a record. -/
structure RecordField (σ : Type) where
  name : String
  shape : σ
  /-- What the field says where it is left out, if it may be. -/
  default? : Option Json

/-- Where the records lie in the JSON values of a type. -/
inductive Shape
  /-- There are none. -/
  | plain
  | array (items : Shape)
  | record (fields : List (RecordField Shape))

namespace Shape

/-- A field that has to be there. -/
def required (name : String) (shape : Shape) : RecordField Shape := ⟨name, shape, none⟩

/-- A field that may be left out. -/
def defaulted (name : String) (shape : Shape) (value : Json) : RecordField Shape := ⟨name, shape, some value⟩

def names (fields : List (RecordField Shape)) : List String := fields.map RecordField.name

end Shape

/-- A change to the fields of a record, given what the record has. -/
abbrev Change := List (RecordField Shape) → List (String × Json) → List (String × Json) → Prop

/-- One field is left out, which holds its default. -/
inductive Omits : Change
  | mk {fields : List (RecordField Shape)} {field : RecordField Shape} {value : Json}
      {before after : List (String × Json)} : field ∈ fields → field.default? = some value →
      Omits fields (before ++ (field.name, value) :: after) (before ++ after)

/-- One field is added, which the record has not got. -/
inductive Adds : Change
  | mk {fields : List (RecordField Shape)} {name : String} {value : Json}
      {before after : List (String × Json)} : name ∉ Shape.names fields →
      Adds fields (before ++ after) (before ++ (name, value) :: after)

/-- One change to one of the records in a value of some shape. -/
inductive Within (change : Change) : Shape → Json → Json → Prop
  | here {fields : List (RecordField Shape)} {said said' : List (String × Json)} : change fields said said' →
      Within change (.record fields) (.object said) (.object said')
  | field {fields : List (RecordField Shape)} {field : RecordField Shape} {j j' : Json}
      {before after : List (String × Json)} : field ∈ fields → Within change field.shape j j' →
      Within change (.record fields) (.object (before ++ (field.name, j) :: after))
        (.object (before ++ (field.name, j') :: after))
  /-- A record may also be written as an array, in which the position tells the field. -/
  | position {front rest : List (RecordField Shape)} {field : RecordField Shape} {j j' : Json}
      {before after : List Json} : before.length = front.length → Within change field.shape j j' →
      Within change (.record (front ++ field :: rest)) (.array (before ++ j :: after))
        (.array (before ++ j' :: after))
  | item {shape : Shape} {j j' : Json} {before after : List Json} : Within change shape j j' →
      Within change (.array shape) (.array (before ++ j :: after)) (.array (before ++ j' :: after))

/-- A change that is taken back. -/
def Change.back (change : Change) : Change := fun fields said said' => change fields said' said

theorem Within.back {change : Change} {shape : Shape} {j j' : Json} (h : Within change shape j j') :
    Within change.back shape j' j := by
  induction h with
  | here h => exact .here h
  | field hField _ ih => exact .field hField ih
  | position hLength _ ih => exact .position hLength ih
  | item _ ih => exact .item ih

/-! ## Readers -/

/-- Whether a reading that gives something gives it again. -/
def Refines {α : Type} (before after : Option α) : Prop := ∀ a, before = some a → after = some a

namespace Refines

variable {α β : Type} {before after : Option α}

theorem refl (o : Option α) : Refines o o := fun _ h => h

theorem bind {f g : α → Option β} (h : Refines before after) (hNext : ∀ a, Refines (f a) (g a)) :
    Refines (before.bind f) (after.bind g) := by
  intro b hb
  obtain ⟨a, ha, hf⟩ := Option.bind_eq_some_iff.mp hb
  exact Option.bind_eq_some_iff.mpr ⟨a, h a ha, hNext a b hf⟩

theorem antisymm (h : Refines before after) (h' : Refines after before) : after = before :=
  Option.ext fun a => ⟨h' a, h a⟩

end Refines

/-- Whether a reader of values of some shape still reads the same after a change at any depth. -/
def Keeps {α : Type} (change : Change) (shape : Shape) (decode : Json → Option α) : Prop :=
  ∀ j j', Within change shape j j' → Refines (decode j) (decode j')

/-- What becomes of the value of one field: nothing at all, or it is left out where it holds its default, or
something in it is changed. -/
inductive FieldKept (change : Change) (shape : Shape) (default? : Option Json) :
    Option Json → Option Json → Prop
  | same (said : Option Json) : FieldKept change shape default? said said
  | omitted {value : Json} : default? = some value → FieldKept change shape default? (some value) none
  | within {j j' : Json} : Within change shape j j' → FieldKept change shape default? (some j) (some j')

/-- What becomes of the values of all fields of a record. -/
def RecordKept (change : Change) (fields : List (RecordField Shape)) (known known' : List (String × Json)) :
    Prop :=
  ∀ field ∈ fields, FieldKept change field.shape field.default? (TextMap.valueAt field.name known)
    (TextMap.valueAt field.name known')

/-- Whether records are still records after a change, with what they say kept. -/
def Harmless (change : Change) : Prop :=
  ∀ fields said said' known, (Shape.names fields).Nodup → change fields said said' →
    (object said).record? (Shape.names fields) = some known →
    ∃ known', (object said').record? (Shape.names fields) = some known' ∧
      RecordKept change fields known known'

/-! ## Records -/

variable {names : List String} {said known before after : List (String × Json)} {name : String} {value : Json}

/-- The fields of an object that a record with the given field names has. -/
def knownFields (names : List String) (said : List (String × Json)) : List (String × Json) :=
  said.filter fun field => names.contains field.1

theorem knownFields_append (before after : List (String × Json)) :
    knownFields names (before ++ after) = knownFields names before ++ knownFields names after :=
  List.filter_append ..

theorem knownFields_append_of_mem (h : name ∈ names) : knownFields names (before ++ (name, value) :: after) =
    knownFields names before ++ (name, value) :: knownFields names after := by
  simp [knownFields, h]

theorem knownFields_append_of_not_mem (h : name ∉ names) :
    knownFields names (before ++ (name, value) :: after) = knownFields names (before ++ after) := by
  simp [knownFields, h]

/-- What an object says: the fields that the record has, each of them once. -/
theorem record?_object_eq_some_iff : (object said).record? names = some known ↔
    (known.map (·.1)).Nodup ∧ knownFields names said = known := by
  have hDistinct : ∀ l : List (String × Json),
      (l.map (·.1)).eraseDups.length = l.length ↔ (l.map (·.1)).Nodup := fun l => by
    rw [← length_eraseDups_eq_iff, List.length_map]
  simp only [record?, hDistinct, Option.ite_none_right_eq_some, Option.some.injEq]
  constructor
  · rintro ⟨hNodup, rfl⟩
    exact ⟨hNodup, rfl⟩
  · rintro ⟨hNodup, rfl⟩
    exact ⟨hNodup, rfl⟩

/-- An object that is written with just the names of a record says all of its fields. -/
theorem record?_object (hNames : said.map (·.1) = names) (hNodup : names.Nodup) :
    (object said).record? names = some said := by
  refine record?_object_eq_some_iff.mpr ⟨hNames ▸ hNodup, List.filter_eq_self.mpr fun field hField => ?_⟩
  rw [List.contains_iff_mem, ← hNames]
  exact List.mem_map_of_mem hField

/-- The array of a record's values says its fields by position. -/
theorem record?_array_eq_some_iff {items : List Json} : (array items).record? names = some known ↔
    items.length ≤ names.length ∧ names.zip items = known := by
  simp only [record?, Option.ite_none_right_eq_some, Option.some.injEq]

/-! ## Harmless changes -/

variable {change : Change} {fields : List (RecordField Shape)} {field other : RecordField Shape}
  {known known' : List (String × Json)}

theorem mem_names (h : field ∈ fields) : field.name ∈ Shape.names fields := List.mem_map_of_mem h

theorem eq_of_name_eq (hNodup : (Shape.names fields).Nodup) (h : field ∈ fields) (h' : other ∈ fields)
    (hName : field.name = other.name) : field = other :=
  List.inj_on_of_nodup_map hNodup h h' hName

theorem RecordKept.refl (known : List (String × Json)) : RecordKept change fields known known :=
  fun _ _ => .same _

/-- A field of a record that has distinct names is only looked at under its own name. -/
theorem recordKept_of_middle {value value' : Json} {before after : List (String × Json)}
    (hNodup : (Shape.names fields).Nodup) (hField : field ∈ fields) (h : Within change field.shape value value') :
    RecordKept change fields (before ++ (field.name, value) :: after)
      (before ++ (field.name, value') :: after) := by
  intro other hOther
  by_cases hName : field.name = other.name
  · obtain rfl := eq_of_name_eq hNodup hField hOther hName
    rw [TextMap.valueAt_middle, TextMap.valueAt_middle]
    cases TextMap.valueAt field.name before with
    | some first => exact .same _
    | none => exact .within h
  · rw [TextMap.valueAt_middle_of_ne hName, TextMap.valueAt_middle_of_ne hName]
    exact .same _

theorem harmless_omits : Harmless Omits := by
  intro fields said said' known hNodup hChange hKnown
  cases hChange with
  | @mk _ field value before after hField hDefault =>
    obtain ⟨hDistinct, rfl⟩ := record?_object_eq_some_iff.mp hKnown
    rw [knownFields_append_of_mem (mem_names hField)] at hDistinct ⊢
    rw [List.map_append, List.map_cons, List.nodup_middle, List.nodup_cons, ← List.map_append] at hDistinct
    obtain ⟨hOnce, hRest⟩ := hDistinct
    refine ⟨_, record?_object_eq_some_iff.mpr ⟨hRest, knownFields_append _ _⟩, fun other hOther => ?_⟩
    by_cases hName : field.name = other.name
    · obtain rfl := eq_of_name_eq hNodup hField hOther hName
      have hNone := TextMap.valueAt_of_not_mem hOnce
      rw [TextMap.valueAt_append, Option.or_eq_none_iff] at hNone
      rw [TextMap.valueAt_middle, TextMap.valueAt_append, hNone.1, hNone.2]
      exact .omitted hDefault
    · rw [TextMap.valueAt_middle_of_ne hName]
      exact .same _

/-- Fields that the record has not got are not even looked at. -/
theorem record?_of_adds {said said' : List (String × Json)} (h : Adds fields said said') :
    (object said').record? (Shape.names fields) = (object said).record? (Shape.names fields) := by
  cases h with
  | mk hName =>
    refine Option.ext fun known => ?_
    rw [record?_object_eq_some_iff, record?_object_eq_some_iff,
      knownFields_append_of_not_mem hName]

theorem harmless_adds : Harmless Adds := by
  intro fields said said' known _ hChange hKnown
  exact ⟨known, (record?_of_adds hChange).trans hKnown, .refl known⟩

theorem harmless_adds_back : Harmless (Change.back Adds) := by
  intro fields said said' known _ hChange hKnown
  exact ⟨known, (record?_of_adds hChange).symm.trans hKnown, .refl known⟩

/-! ## Readers of fields, lists and records -/

section Readers

variable {α : Type} {shape : Shape} {decode : Json → Option α}

theorem FieldKept.required {name : String} (h : FieldKept change shape none (TextMap.valueAt name known)
    (TextMap.valueAt name known')) (hDecode : Keeps change shape decode) :
    Refines (required? known name decode) (required? known' name decode) := by
  rw [required?, required?]
  generalize TextMap.valueAt name known = said at h
  generalize TextMap.valueAt name known' = said' at h
  cases h with
  | same => exact .refl _
  | omitted hDefault => cases hDefault
  | within hWithin => exact hDecode _ _ hWithin

theorem FieldKept.defaulted {name : String} {value : α} {written : Json}
    (h : FieldKept change shape (some written) (TextMap.valueAt name known) (TextMap.valueAt name known'))
    (hWritten : decode written = some value) (hDecode : Keeps change shape decode) :
    Refines (defaulted? known name value decode) (defaulted? known' name value decode) := by
  rw [defaulted?, defaulted?]
  generalize TextMap.valueAt name known = said at h
  generalize TextMap.valueAt name known' = said' at h
  cases h with
  | same => exact .refl _
  | omitted hDefault =>
    cases hDefault
    change Refines (decode written) (some value)
    rw [hWritten]
    exact .refl _
  | within hWithin => exact hDecode _ _ hWithin

namespace Keeps

/-- Where there is no record, there is nothing to change. -/
theorem plain : Keeps change .plain decode := nofun

theorem list (hDecode : Keeps change shape decode) : Keeps change (.array shape) (list? decode) := by
  intro j j' h
  cases h with
  | item h =>
    simp only [list?, List.mapM_append, List.mapM_cons]
    exact .bind (.refl _) fun front => .bind (.bind (hDecode _ _ h) fun item => .refl _) fun rest => .refl _

/-- What a record says is kept, whether it is changed itself or in one of its fields. -/
theorem exists_record? (hChange : Harmless change) (hNodup : (Shape.names fields).Nodup) {j j' : Json}
    (h : Within change (.record fields) j j') (hKnown : j.record? (Shape.names fields) = some known) :
    ∃ known', j'.record? (Shape.names fields) = some known' ∧ RecordKept change fields known known' := by
  cases h with
  | here h => exact hChange _ _ _ _ hNodup h hKnown
  | field hField h =>
    obtain ⟨hDistinct, rfl⟩ := record?_object_eq_some_iff.mp hKnown
    rw [knownFields_append_of_mem (mem_names hField)] at hDistinct ⊢
    refine ⟨_, record?_object_eq_some_iff.mpr ⟨?_, knownFields_append_of_mem (mem_names hField)⟩,
      recordKept_of_middle hNodup hField h⟩
    simpa only [List.map_append, List.map_cons] using hDistinct
  | @position front rest field j j' before after hLength h =>
    obtain ⟨hFits, rfl⟩ := record?_array_eq_some_iff.mp hKnown
    have hZip : ∀ value : Json, (Shape.names (front ++ field :: rest)).zip (before ++ value :: after) =
        (Shape.names front).zip before ++ (field.name, value) :: (Shape.names rest).zip after := fun value => by
      rw [Shape.names, List.map_append, List.zip_append (by simp [hLength]), List.map_cons, List.zip_cons_cons]
      rfl
    refine ⟨_, record?_array_eq_some_iff.mpr ⟨by simpa using hFits, rfl⟩, ?_⟩
    rw [hZip, hZip]
    exact recordKept_of_middle hNodup (List.mem_append_right _ List.mem_cons_self) h

/-- A reader of a record reads the same again if it looks at the fields only. -/
theorem record (hChange : Harmless change) (hNodup : (Shape.names fields).Nodup)
    {read : List (String × Json) → Option α}
    (hRead : ∀ known known', RecordKept change fields known known' → Refines (read known) (read known')) :
    Keeps change (.record fields) fun j => (j.record? (Shape.names fields)).bind read := by
  intro j j' h a ha
  obtain ⟨known, hKnown, ha⟩ := Option.bind_eq_some_iff.mp ha
  obtain ⟨known', hKnown', hKept⟩ := exists_record? hChange hNodup h hKnown
  exact Option.bind_eq_some_iff.mpr ⟨known', hKnown', hRead known known' hKept a ha⟩

end Keeps

end Readers

end Json

end TieredDispatch
