import TieredDispatch.Proofs.Catalog.CanonicalList
import TieredDispatch.Proofs.Config.Merge
import TieredDispatch.Proofs.Environment.Routing

/-!
# Listing every device

The available devices of an environment, joined by commas, are a device list.  It is read back as the
same devices where each of them is written as an id is read: without blanks at its ends and without
commas.  An environment is accepted by what its names are read as, but registered under what is written,
and its indices are not looked at, so there are accepted environments where this fails.

* `FamilyEntry.addressable_iff`: which families have such devices only.
* `Environment.available_listed`: the joined list of an accepted environment.
-/

namespace TieredDispatch

/-! ## Accepted environments -/

namespace FamilyEntry

variable {entry : FamilyEntry}

/-- Whether the devices of a family are written as ids are read.  The name of a family without indices has
no blanks at its ends; that of one with indices has none at its beginning, and an index has none at its
end, and no comma. -/
def Plain (entry : FamilyEntry) : Prop :=
  Text.startsBlank entry.family = false ∧
    if entry.profile.indices = [] then Text.endsBlank entry.family = false
    else ∀ index ∈ entry.profile.indices, Text.endsBlank index = false ∧ ',' ∉ index.toList

theorem family_ne_empty {id : DeviceId} (h : DeviceId.parse entry.family = .ok id) :
    entry.family ≠ "" := by
  obtain ⟨hTrim, hSome, -⟩ := DeviceId.parse_eq_ok_iff.mp h
  intro hEmpty
  rw [hTrim, hEmpty] at hSome
  exact hSome rfl

theorem addressable_family_iff {id : DeviceId} (h : DeviceId.parse entry.family = .ok id) :
    DeviceId.Addressable ⟨entry.family⟩ ↔
      Text.startsBlank entry.family = false ∧ Text.endsBlank entry.family = false := by
  obtain ⟨-, -, hComma⟩ := DeviceId.parse_eq_ok_iff.mp h
  rw [DeviceId.addressable_iff, Text.trim_eq_self_iff]
  exact and_iff_left ⟨family_ne_empty h, hComma⟩

theorem addressable_member_iff {id : DeviceId} (h : DeviceId.parse entry.family = .ok id)
    (index : String) :
    (DeviceId.member ⟨entry.family⟩ index).Addressable ↔
      Text.startsBlank entry.family = false ∧ Text.endsBlank index = false ∧ ',' ∉ index.toList := by
  obtain ⟨-, -, hComma⟩ := DeviceId.parse_eq_ok_iff.mp h
  have hStarts : Text.startsBlank (entry.family ++ "." ++ index) = Text.startsBlank entry.family := by
    rw [String.append_assoc]
    exact Text.startsBlank_append (family_ne_empty h) _
  have hSome : entry.family ++ "." ++ index ≠ "" := by
    intro hEmpty
    have hChars := congrArg String.toList hEmpty
    simp at hChars
  have hNoComma : ',' ∉ (entry.family ++ "." ++ index).toList ↔ ',' ∉ index.toList := by
    simp [hComma]
  rw [DeviceId.addressable_iff, DeviceId.member, Text.trim_eq_self_iff, hStarts,
    Text.endsBlank_dot_append, hNoComma, and_assoc]
  simp [hSome]

/-- The devices of a family are written as ids are read just if the family is plain. -/
theorem addressable_iff {id : DeviceId} (h : DeviceId.parse entry.family = .ok id) :
    (∀ d ∈ entry.profile.devices ⟨entry.family⟩, d.Addressable) ↔ entry.Plain := by
  rw [DeviceProfile.devices, Plain]
  cases hIndices : entry.profile.indices with
  | nil => simp [addressable_family_iff h]
  | cons first rest =>
    simp only [List.isEmpty_cons, Bool.false_eq_true, if_false, List.forall_mem_map,
      addressable_member_iff h, reduceCtorEq]
    constructor
    · intro hAll
      exact ⟨(hAll first List.mem_cons_self).1, fun index hIndex => (hAll index hIndex).2⟩
    · rintro ⟨hFamily, hAll⟩ index hIndex
      exact ⟨hFamily, hAll index hIndex⟩

end FamilyEntry

namespace Environment

variable {e : Environment} {text : String} {config : Config}

theorem parse_family (h : e.error? = none) {entry : FamilyEntry} (hEntry : entry ∈ e.devices) :
    ∃ id, DeviceId.parse entry.family = .ok id := by
  obtain ⟨id, hId, -⟩ := (familyError?_eq_none_iff.mp (familyError?_of_accepted h)).1 entry hEntry
  exact ⟨id, hId⟩

theorem mem_available_catalog (h : e.error? = none) {d : DeviceId} :
    d ∈ e.catalog.available ↔ ∃ entry ∈ e.devices, d ∈ entry.profile.devices ⟨entry.family⟩ := by
  rw [Catalog.available, List.mem_eraseDups, Catalog.reported, families_catalog h, List.flatMap_map]
  exact List.mem_flatMap

/-- The available devices are written as ids are read just if every family is plain. -/
theorem addressable_available_iff (h : e.error? = none) :
    (∀ d ∈ e.catalog.available, d.Addressable) ↔ ∀ entry ∈ e.devices, entry.Plain := by
  constructor
  · intro hAll entry hEntry
    obtain ⟨id, hId⟩ := parse_family h hEntry
    refine (FamilyEntry.addressable_iff hId).mp fun d hd => hAll d ?_
    exact (mem_available_catalog h).mpr ⟨entry, hEntry, hd⟩
  · intro hAll d hd
    obtain ⟨entry, hEntry, hd⟩ := (mem_available_catalog h).mp hd
    obtain ⟨id, hId⟩ := parse_family h hEntry
    exact (FamilyEntry.addressable_iff hId).mpr (hAll entry hEntry) d hd

theorem valueAt_map {β γ : Type} (f : β → γ) (entries : List (String × β)) (key : String) :
    TextMap.valueAt key (entries.map fun entry => (entry.1, f entry.2)) =
      (TextMap.valueAt key entries).map f := by
  induction entries with
  | nil => rfl
  | cons entry rest ih =>
    rw [List.map_cons, TextMap.valueAt, TextMap.valueAt, ih]
    split <;> rfl

theorem get?_groups_catalog (e : Environment) (name : String) :
    e.catalog.groups.get? name = (e.groups.get? name).map (List.map DeviceId.mk) := by
  have hInserted : e.catalog.groups =
      TextMap.empty.insertAll (e.groups.entries.map fun group => (group.1, group.2.map DeviceId.mk)) := by
    rw [groups_catalog, TextMap.insertAll, List.foldl_map]
  have hSorted : (e.groups.entries.map fun group => (group.1, group.2.map DeviceId.mk)).Pairwise
      fun a b => a.1 < b.1 := List.pairwise_map.mpr e.groups.sorted
  rw [hInserted, TextMap.get?_insertAll _ hSorted, valueAt_map, TextMap.get?_empty, Option.or_none]
  rfl

/-- The available devices of an accepted environment, joined by commas, are listed again if every family is
plain.  Otherwise they are not, unless some entry of the joined list happens to be the name of a group. -/
theorem available_listed (hParse : parse text = .ok e) (hSome : e.catalog.available ≠ [])
    (hGroups : ∀ d ∈ e.catalog.available, e.groups.get? d.text = none)
    (hList : config.deviceList? = some (",".intercalate (e.catalog.available.map DeviceId.text))) :
    ((∀ entry ∈ e.devices, entry.Plain) →
      e.catalog.listDevices config = .ok e.catalog.available) ∧
    ((∀ entry ∈ Catalog.listEntries (",".intercalate (e.catalog.available.map DeviceId.text)),
        e.groups.get? entry = none) →
      e.catalog.listDevices config = .ok e.catalog.available →
        ∀ entry ∈ e.devices, entry.Plain) := by
  obtain ⟨-, hAccepted⟩ := parse_eq_ok_iff.mp hParse
  rw [← addressable_available_iff hAccepted, Catalog.listDevices_of_list hList]
  constructor
  · intro hAll
    refine ⟨hSome, ?_⟩
    rw [Catalog.parseDeviceList_join hSome hAll ?_, Catalog.eraseDups_available]
    intro d hd
    rw [get?_groups_catalog, hGroups d hd, Option.map_none]
  · rintro hEntries ⟨-, hListed⟩ d hd
    rw [← hListed] at hd
    refine Catalog.addressable_of_mem_parseDeviceList (fun entry hEntry => ?_) hd
    rw [get?_groups_catalog, hEntries entry hEntry, Option.map_none]

/-- The environment file of a processor and of two accelerators, one of them in a group. -/
def indexedText : String :=
  "\x7b\"devices\": [\x7b\"family\": \"CPU\", \"full_name\": \"Host\"\x7d, \x7b\"family\": \"GPU\", " ++
    "\"full_name\": \"Discrete (dGPU)\", \"indices\": [\"0\", \"1\"]\x7d], " ++
    "\"groups\": \x7b\"FIRST\": [\"GPU.0\"]\x7d\x7d"

/-- What this file describes. -/
def indexed : Environment where
  devices := [⟨"CPU", .named "Host"⟩,
    ⟨"GPU", (DeviceProfile.named "Discrete (dGPU)").withIndices ["0", "1"]⟩]
  groups := .ofList [("FIRST", ["GPU.0"])]
  tiers := none
  config := .empty

theorem available_listed_indexed : parse indexedText = .ok indexed ∧
    indexed.catalog.listDevices (.ofList [(Config.deviceListKey, "CPU,GPU.0,GPU.1")]) =
      .ok [⟨"CPU"⟩, ⟨"GPU.0"⟩, ⟨"GPU.1"⟩] := by
  have hParse : parse indexedText = .ok indexed :=
    parse_eq_ok_iff.mpr ⟨by decide +kernel, by decide +kernel⟩
  have hAvailable : indexed.catalog.available = [⟨"CPU"⟩, ⟨"GPU.0"⟩, ⟨"GPU.1"⟩] := by decide +kernel
  have hListed := available_listed hParse (by decide +kernel) (by decide +kernel)
    (show Config.deviceList? (.ofList [(Config.deviceListKey, "CPU,GPU.0,GPU.1")]) = _ by decide +kernel)
  have hPlain : ∀ entry ∈ indexed.devices, entry.Plain := by
    simp [indexed, FamilyEntry.Plain, DeviceProfile.named, DeviceProfile.withIndices, Text.startsBlank,
      Text.endsBlank, Text.isBlank]
  rw [← hAvailable]
  exact ⟨hParse, hListed.1 hPlain⟩

/-- The environment file of a processor whose name is written with blanks at its ends. -/
def paddedText : String :=
  "\x7b\"devices\": [\x7b\"family\": \" CPU \", \"full_name\": \"Host\"\x7d]\x7d"

/-- What this file describes. -/
def padded : Environment where
  devices := [⟨" CPU ", .named "Host"⟩]
  groups := .empty
  tiers := none
  config := .empty

/-- Not every accepted environment lists its available devices again. -/
theorem available_not_listed : ¬ ∀ (text : String) (e : Environment) (config : Config),
    parse text = .ok e → e.catalog.available ≠ [] →
    (∀ d ∈ e.catalog.available, e.groups.get? d.text = none) →
    config.deviceList? = some (",".intercalate (e.catalog.available.map DeviceId.text)) →
    e.catalog.listDevices config = .ok e.catalog.available := by
  intro hAll
  have hParse : parse paddedText = .ok padded :=
    parse_eq_ok_iff.mpr ⟨by decide +kernel, by decide +kernel⟩
  have hList : Config.deviceList? (.ofList [(Config.deviceListKey, " CPU ")]) =
      some (",".intercalate (padded.catalog.available.map DeviceId.text)) := by decide +kernel
  have hListed := hAll paddedText padded (.ofList [(Config.deviceListKey, " CPU ")]) hParse
    (by decide +kernel) (by decide +kernel) hList
  have hRead := (Catalog.listDevices_of_list hList).mp hListed
  exact absurd hRead.2 (by decide +kernel)

end Environment

end TieredDispatch
