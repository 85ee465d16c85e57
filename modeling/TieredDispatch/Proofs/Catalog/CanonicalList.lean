import TieredDispatch.Device.Id
import TieredDispatch.Proofs.Catalog.Candidates

/-!
# Device lists in canonical form

An id is read from a text, and ids are read from a device list, by two readers that agree: what a list
without groups names are the ids that its pieces are read as.  Where the groups hold nothing else, what any
list names is joined to a list that names the same devices, in the same order.

* `DeviceId.Addressable`: whether an id is written as it is read.
* `Catalog.parseDeviceList_join`: a joined list of such ids is read back.
* `Catalog.filterMap_parse`: the ids that the pieces of a list are read as.
* `Catalog.parseDeviceList_registerGroup`: a group that no list names.
* `Catalog.parseDeviceList_canonical`: the canonical form of a list, and its agreement with single ids.
-/

namespace TieredDispatch

/-! ## Lists of ids -/

namespace DeviceId

variable {d : DeviceId} {text : String}

/-- Whether an id is written as it is read. -/
def Addressable (d : DeviceId) : Prop := parse d.text = .ok d

theorem parse_eq_ok_iff : parse text = .ok d ↔
    d.text = Text.trim text ∧ d.text ≠ "" ∧ ',' ∉ text.toList := by
  have hComma : ',' ∈ (Text.trim text).toList ↔ ',' ∈ text.toList := by
    rw [Text.toList_trim]
    exact Text.mem_trimChars (by decide)
  obtain ⟨t⟩ := d
  simp only [parse, Bool.or_eq_true, String.isEmpty_iff, List.contains_iff_mem, hComma]
  split
  · next hBad =>
    constructor
    · intro h
      cases h
    · rintro ⟨rfl, hSome, hPlain⟩
      exact absurd hBad (not_or.mpr ⟨hSome, hPlain⟩)
  · next hGood =>
    rw [not_or] at hGood
    constructor
    · intro h
      cases h
      exact ⟨rfl, hGood⟩
    · rintro ⟨rfl, -⟩
      rfl

theorem addressable_iff : d.Addressable ↔
    Text.trim d.text = d.text ∧ d.text ≠ "" ∧ ',' ∉ d.text.toList := by
  rw [Addressable, parse_eq_ok_iff]
  exact and_congr_left' eq_comm

end DeviceId

namespace Catalog

variable {c : Catalog} {ds : List DeviceId} {config : Config}

theorem addressable_of_mem_listEntries {raw entry : String} (h : entry ∈ listEntries raw) :
    DeviceId.Addressable ⟨entry⟩ := by
  obtain ⟨hTrimmed, hSome⟩ := List.mem_filter.mp h
  obtain ⟨piece, hPiece, rfl⟩ := List.mem_map.mp hTrimmed
  refine DeviceId.addressable_iff.mpr ⟨Text.trim_trim piece, by simpa using hSome, ?_⟩
  rw [Text.toList_trim, Text.mem_trimChars (by decide)]
  exact Text.not_mem_of_mem_pieces hPiece

theorem listEntries_join (hSome : ds ≠ []) (h : ∀ d ∈ ds, d.Addressable) :
    listEntries (",".intercalate (ds.map DeviceId.text)) = ds.map DeviceId.text := by
  simp only [DeviceId.addressable_iff] at h
  have hPieces : Text.pieces ',' (",".intercalate (ds.map DeviceId.text)) = ds.map DeviceId.text := by
    refine Text.pieces_intercalate (by simpa using hSome) ?_
    rintro _ hMem
    obtain ⟨d, hd, rfl⟩ := List.mem_map.mp hMem
    exact (h d hd).2.2
  have hTrim : (ds.map DeviceId.text).map Text.trim = ds.map DeviceId.text := by
    rw [List.map_map]
    exact List.map_congr_left fun d hd => (h d hd).1
  rw [listEntries, hPieces, hTrim, List.filter_eq_self]
  rintro _ hMem
  obtain ⟨d, hd, rfl⟩ := List.mem_map.mp hMem
  simpa using (h d hd).2.1

theorem flatMap_expand {entries : List String} (h : ∀ entry ∈ entries, c.groups.get? entry = none) :
    entries.flatMap c.expand = entries.map DeviceId.mk := by
  induction entries with
  | nil => rfl
  | cons entry rest ih =>
    rw [List.flatMap_cons, ih fun other hOther => h other (List.mem_cons_of_mem _ hOther), expand,
      h entry List.mem_cons_self, Option.getD_none, List.singleton_append, List.map_cons]

/-- Available devices that are written as ids are read are listed again if they are joined. -/
theorem parseDeviceList_join (hSome : ds ≠ []) (h : ∀ d ∈ ds, d.Addressable)
    (hGroups : ∀ d ∈ ds, c.groups.get? d.text = none) :
    c.parseDeviceList (",".intercalate (ds.map DeviceId.text)) = ds.eraseDups := by
  rw [parseDeviceList, listEntries_join hSome h, flatMap_expand (by simpa using hGroups), List.map_map]
  congr 1
  exact List.map_id ds

/-- What a list without groups names is written as ids are read. -/
theorem addressable_of_mem_parseDeviceList {raw : String} {d : DeviceId}
    (hGroups : ∀ entry ∈ listEntries raw, c.groups.get? entry = none) (h : d ∈ c.parseDeviceList raw) :
    d.Addressable := by
  rw [parseDeviceList, flatMap_expand hGroups, List.mem_eraseDups] at h
  obtain ⟨entry, hEntry, rfl⟩ := List.mem_map.mp h
  exact addressable_of_mem_listEntries hEntry

theorem eraseDups_available (c : Catalog) : c.available.eraseDups = c.available :=
  DeviceId.eraseDups_eraseDups c.reported

theorem listDevices_of_list {raw : String} (h : config.deviceList? = some raw) :
    c.listDevices config = .ok ds ↔ ds ≠ [] ∧ c.parseDeviceList raw = ds := by
  have hCandidates : c.Candidates config ((listEntries raw).flatMap c.expand) :=
    candidates_iff.mpr (by rw [h])
  rw [hCandidates.listDevices_eq_ok_iff, DeviceId.firstOccurrences_iff]
  rfl

/-- A text that is an id is a list of one entry. -/
theorem parseDeviceList_of_addressable {name : String} (h : DeviceId.Addressable ⟨name⟩) :
    c.parseDeviceList name = (c.expand name).eraseDups := by
  have hEntries : listEntries name = [name] := by
    simpa using listEntries_join (List.cons_ne_nil ⟨name⟩ []) (by simpa using h)
  rw [parseDeviceList, hEntries, List.flatMap_singleton]

/-- No list names a group whose name is not written as an id is read, so its members do not matter. -/
theorem parseDeviceList_registerGroup {name : String} (h : ¬ DeviceId.Addressable ⟨name⟩)
    (members : List DeviceId) (raw : String) :
    (c.registerGroup name members).parseDeviceList raw = c.parseDeviceList raw := by
  have hExpand : ∀ entry ∈ listEntries raw,
      (c.registerGroup name members).expand entry = c.expand entry := by
    intro entry hEntry
    have hne : entry ≠ name := fun he => h (he ▸ addressable_of_mem_listEntries hEntry)
    rw [expand, expand, registerGroup, TextMap.get?_insert, if_neg hne]
  rw [parseDeviceList, parseDeviceList, List.flatMap_def, List.map_congr_left hExpand, List.flatMap_def]

/-! ## Flat groups -/

/-- Whether the members of groups are written as ids are read, and are no groups themselves. -/
def FlatGroups (c : Catalog) : Prop :=
  ∀ name members, c.groups.get? name = some members →
    ∀ d ∈ members, d.Addressable ∧ c.groups.get? d.text = none

/-- What a list names under flat groups is written as ids are read, and is no group. -/
theorem FlatGroups.mem_parseDeviceList {raw : String} {d : DeviceId} (hFlat : c.FlatGroups)
    (hd : d ∈ c.parseDeviceList raw) : d.Addressable ∧ c.groups.get? d.text = none := by
  rw [parseDeviceList, List.mem_eraseDups, List.mem_flatMap] at hd
  obtain ⟨entry, hEntry, hd⟩ := hd
  rw [expand] at hd
  cases hGroup : c.groups.get? entry with
  | some members =>
    rw [hGroup, Option.getD_some] at hd
    exact hFlat entry members hGroup d hd
  | none =>
    rw [hGroup, Option.getD_none] at hd
    obtain rfl := List.mem_singleton.mp hd
    exact ⟨addressable_of_mem_listEntries hEntry, hGroup⟩

theorem FlatGroups.parseDeviceList_join (hFlat : c.FlatGroups) (raw : String) :
    c.parseDeviceList (",".intercalate ((c.parseDeviceList raw).map DeviceId.text)) =
      c.parseDeviceList raw := by
  by_cases hNone : c.parseDeviceList raw = []
  · -- no device is joined to the empty text, which is one empty piece
    rw [hNone]
    rfl
  · rw [Catalog.parseDeviceList_join hNone (fun d hd => (hFlat.mem_parseDeviceList hd).1)
      (fun d hd => (hFlat.mem_parseDeviceList hd).2)]
    exact DeviceId.eraseDups_eraseDups _

/-! ## Two readers -/

/-- A piece is read as an id unless nothing is left of it. -/
theorem toOption_parse {piece : String} (h : ',' ∉ piece.toList) :
    (DeviceId.parse piece).toOption =
      if Text.trim piece = "" then none else some ⟨Text.trim piece⟩ := by
  split
  · next hEmpty =>
    cases hParse : DeviceId.parse piece with
    | error err => rfl
    | ok d =>
      obtain ⟨hText, hSome, -⟩ := DeviceId.parse_eq_ok_iff.mp hParse
      exact absurd (hText.trans hEmpty) hSome
  · next hSome =>
    have hParse : DeviceId.parse piece = .ok ⟨Text.trim piece⟩ :=
      DeviceId.parse_eq_ok_iff.mpr ⟨rfl, hSome, h⟩
    rw [hParse]
    rfl

/-- The ids that the pieces of a list are read as are the names in them. -/
theorem filterMap_parse {pieces : List String} (h : ∀ piece ∈ pieces, ',' ∉ piece.toList) :
    (pieces.filterMap fun piece => (DeviceId.parse piece).toOption) = (namesIn pieces).map DeviceId.mk := by
  induction pieces with
  | nil => rfl
  | cons piece pieces ih =>
    rw [List.filterMap_cons, toOption_parse (h piece List.mem_cons_self), namesIn_cons,
      ih fun other hOther => h other (List.mem_cons_of_mem _ hOther)]
    by_cases hName : Text.trim piece = ""
    · rw [if_pos hName, if_pos hName]
    · rw [if_neg hName, if_neg hName, List.map_cons]

theorem firstOccurrences_parseDeviceList {raw : String} {pieces : List String} (hGroups : c.groups = .empty)
    (hPieces : Text.CommaSeparated raw pieces) :
    DeviceId.FirstOccurrences (pieces.filterMap fun piece => (DeviceId.parse piece).toOption)
      (c.parseDeviceList raw) := by
  have hNone : ∀ entry ∈ namesIn pieces, c.groups.get? entry = none := fun entry _ => by
    rw [hGroups, TextMap.get?_empty]
  rw [filterMap_parse hPieces.plain, ← flatMap_expand hNone, ← Text.commaSeparated_iff.mp hPieces]
  exact DeviceId.firstOccurrences_eraseDups _

theorem parseDeviceList_of_parse {text : String} {id : DeviceId} (hGroups : c.groups = .empty)
    (hParse : DeviceId.parse text = .ok id) : c.parseDeviceList text = [id] := by
  obtain ⟨-, -, hPlain⟩ := DeviceId.parse_eq_ok_iff.mp hParse
  have hPieces : Text.CommaSeparated text [text] :=
    ⟨List.cons_ne_nil _ _, by simpa using hPlain, String.intercalate_singleton⟩
  have hFirst := firstOccurrences_parseDeviceList hGroups hPieces
  simp only [List.filterMap_cons, hParse, Except.toOption, List.filterMap_nil] at hFirst
  exact hFirst.unique (DeviceId.firstOccurrences_eraseDups [id])

/-- The canonical form of a device list.  Under flat groups, what a list names is written as ids are read,
and joined by commas it is a list that names the same devices in the same order.  Without groups, a list
names the first occurrences among the ids that its pieces are read as, those left out that are no ids, and
a text that is read as an id is a list that names this one. -/
theorem parseDeviceList_canonical (c : Catalog) :
    (c.FlatGroups → ∀ raw,
      (∀ d ∈ c.parseDeviceList raw, DeviceId.parse d.text = .ok d) ∧
      c.parseDeviceList (",".intercalate ((c.parseDeviceList raw).map DeviceId.text)) =
        c.parseDeviceList raw) ∧
    (c.groups = .empty →
      (∀ raw, ∃ pieces, Text.CommaSeparated raw pieces ∧
        DeviceId.FirstOccurrences (pieces.filterMap fun piece => (DeviceId.parse piece).toOption)
          (c.parseDeviceList raw)) ∧
      ∀ text id, DeviceId.parse text = .ok id → c.parseDeviceList text = [id]) := by
  constructor
  · intro hFlat raw
    exact ⟨fun d hd => (hFlat.mem_parseDeviceList hd).1, hFlat.parseDeviceList_join raw⟩
  · intro hGroups
    refine ⟨fun raw => ?_, fun text id hParse => parseDeviceList_of_parse hGroups hParse⟩
    have hPieces := Text.commaSeparated_pieces raw
    exact ⟨_, hPieces, firstOccurrences_parseDeviceList hGroups hPieces⟩

/-- A catalog with one group of two devices. -/
def paired : Catalog := empty.registerGroup "PAIR" [⟨"CPU"⟩, ⟨"GPU.0"⟩]

theorem flatGroups_paired : paired.FlatGroups := by
  intro name members hGroup d hd
  have hMembers : members = [⟨"CPU"⟩, ⟨"GPU.0"⟩] := by
    rw [paired, registerGroup, TextMap.get?_insert] at hGroup
    split at hGroup
    · exact (Option.some.inj hGroup).symm
    · cases hGroup
  rw [hMembers] at hd
  rcases List.mem_cons.mp hd with rfl | hd
  · exact ⟨by rw [DeviceId.Addressable]; decide +kernel, by decide +kernel⟩
  · obtain rfl := List.mem_singleton.mp hd
    exact ⟨by rw [DeviceId.Addressable]; decide +kernel, by decide +kernel⟩

/-- A member of the group that is listed before the group keeps its place, and the blanks and empty pieces
are gone in the joined list. -/
theorem parseDeviceList_canonical_paired :
    paired.parseDeviceList " GPU.0 ,, PAIR,NPU" = [⟨"GPU.0"⟩, ⟨"CPU"⟩, ⟨"NPU"⟩] ∧
    paired.parseDeviceList "GPU.0,CPU,NPU" = [⟨"GPU.0"⟩, ⟨"CPU"⟩, ⟨"NPU"⟩] ∧
    empty.parseDeviceList " GPU.0 " = [⟨"GPU.0"⟩] := by
  have hListed : paired.parseDeviceList " GPU.0 ,, PAIR,NPU" = [⟨"GPU.0"⟩, ⟨"CPU"⟩, ⟨"NPU"⟩] := by
    decide +kernel
  have hJoined := ((parseDeviceList_canonical paired).1 flatGroups_paired " GPU.0 ,, PAIR,NPU").2
  rw [hListed] at hJoined
  have hSingle := ((parseDeviceList_canonical empty).2 rfl).2 " GPU.0 " ⟨"GPU.0"⟩ (by decide +kernel)
  exact ⟨hListed, hJoined, hSingle⟩

end Catalog

end TieredDispatch
