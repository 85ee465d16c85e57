import TieredDispatch.Proofs.Catalog.CanonicalList
import TieredDispatch.Proofs.Environment.Validation

/-!
# Groups of an environment

The members of a group are checked by what they are read as, but registered as they are written, and the
name of a group is not checked at all.  So the name lists the devices that the members are read as only if
no member has blanks at its ends; and a name that is not written as an id is read, such as one with a comma
or with blanks at its ends, is the name of a group that no device list reaches.

* `Environment.GroupListed`: whether a group's name lists what its members are read as.
* `Environment.firstOccurrences_group`: what the name of a group lists.
* `Environment.groups_listed`: which groups of an accepted environment are listed.
-/

namespace TieredDispatch.Environment

variable {e : Environment} {text name : String} {members : List String}

/-- Whether the name of a group, given as a device list, names the devices that the members of the group are
read as, each once and in order. -/
def GroupListed (e : Environment) (name : String) (members : List String) : Prop :=
  ∃ ids : List DeviceId, members.map DeviceId.parse = ids.map .ok ∧
    DeviceId.FirstOccurrences ids (e.catalog.parseDeviceList name)

/-- A name that is written as an id is read lists the members of the group as they are written. -/
theorem firstOccurrences_group (hGroup : e.groups.get? name = some members)
    (hName : DeviceId.Addressable ⟨name⟩) :
    DeviceId.FirstOccurrences (members.map DeviceId.mk) (e.catalog.parseDeviceList name) := by
  rw [Catalog.parseDeviceList_of_addressable hName, Catalog.expand, get?_groups_catalog, hGroup,
    Option.map_some, Option.getD_some]
  exact DeviceId.firstOccurrences_eraseDups _

/-- Members without blanks at their ends are read as they are written. -/
theorem map_parse_of_trimmed (hReadable : ∀ member ∈ members, DeviceId.Readable member)
    (hTrimmed : ∀ member ∈ members, Text.trim member = member) :
    members.map DeviceId.parse = (members.map DeviceId.mk).map .ok := by
  rw [List.map_map]
  refine List.map_congr_left fun member hMember => ?_
  obtain ⟨⟨idText⟩, hId⟩ := hReadable member hMember
  obtain ⟨hText, -, -⟩ := DeviceId.parse_eq_ok_iff.mp hId
  rw [hTrimmed member hMember] at hText
  rw [hId, Function.comp_apply, ← hText]

/-- A member that is written as some member is read has no blanks at its ends. -/
theorem trim_of_mem_ids {ids : List DeviceId} (hIds : members.map DeviceId.parse = ids.map .ok)
    {member : String} (hMember : ⟨member⟩ ∈ ids) : Text.trim member = member := by
  have hRead : Except.ok ⟨member⟩ ∈ members.map DeviceId.parse := by
    rw [hIds]
    exact List.mem_map_of_mem hMember
  obtain ⟨source, -, hSource⟩ := List.mem_map.mp hRead
  obtain ⟨hText, -, -⟩ := DeviceId.parse_eq_ok_iff.mp hSource
  have hWritten : member = Text.trim source := hText
  rw [hWritten, Text.trim_trim]

theorem groupListed_iff (hValid : e.Valid) (hGroup : e.groups.get? name = some members)
    (hName : DeviceId.Addressable ⟨name⟩) :
    e.GroupListed name members ↔ ∀ member ∈ members, Text.trim member = member := by
  have hWritten := firstOccurrences_group hGroup hName
  constructor
  · rintro ⟨ids, hIds, hListed⟩ member hMember
    have hMem : ⟨member⟩ ∈ members.map DeviceId.mk := List.mem_map_of_mem hMember
    exact trim_of_mem_ids hIds ((hListed.mem_iff _).mp ((hWritten.mem_iff _).mpr hMem))
  · intro hTrimmed
    exact ⟨_, map_parse_of_trimmed (hValid.members name members hGroup) hTrimmed, hWritten⟩

/-- Which groups of an accepted environment are listed by their names.  A name that is written as an id is
read lists the members as they are written, each once and in order; these are the devices that the members
are read as just if no member has blanks at its ends.  A group with any other name is named by no device
list, so that every list names what it would with other members in this group. -/
theorem groups_listed (hParse : parse text = .ok e) (hGroup : e.groups.get? name = some members) :
    (DeviceId.Addressable ⟨name⟩ →
      DeviceId.FirstOccurrences (members.map DeviceId.mk) (e.catalog.parseDeviceList name) ∧
      (e.GroupListed name members ↔ ∀ member ∈ members, Text.trim member = member)) ∧
    (¬ DeviceId.Addressable ⟨name⟩ → ∀ raw others,
      (e.catalog.registerGroup name others).parseDeviceList raw = e.catalog.parseDeviceList raw) := by
  have hValid := error?_eq_none_iff.mp (parse_eq_ok_iff.mp hParse).2
  exact ⟨fun hName => ⟨firstOccurrences_group hGroup hName, groupListed_iff hValid hGroup hName⟩,
    fun hName raw others => Catalog.parseDeviceList_registerGroup hName others raw⟩

/-- The environment file of a group that has a member twice. -/
def repeatedText : String :=
  "\x7b\"groups\": \x7b\"ALL\": [\"GPU.0\", \"CPU\", \"GPU.0\"]\x7d\x7d"

/-- What this file describes. -/
def repeated : Environment where
  devices := []
  groups := .ofList [("ALL", ["GPU.0", "CPU", "GPU.0"])]
  tiers := none
  config := .empty

theorem groups_listed_repeated : parse repeatedText = .ok repeated ∧
    repeated.catalog.parseDeviceList "ALL" = [⟨"GPU.0"⟩, ⟨"CPU"⟩] ∧
    repeated.GroupListed "ALL" ["GPU.0", "CPU", "GPU.0"] := by
  have hParse : parse repeatedText = .ok repeated :=
    parse_eq_ok_iff.mpr ⟨by decide +kernel, by decide +kernel⟩
  have hName : DeviceId.Addressable ⟨"ALL"⟩ := DeviceId.addressable_iff.mpr (by decide +kernel)
  have hGroup : repeated.groups.get? "ALL" = some ["GPU.0", "CPU", "GPU.0"] := by decide +kernel
  obtain ⟨hWritten, hListed⟩ := (groups_listed hParse hGroup).1 hName
  exact ⟨hParse, hWritten.unique (DeviceId.firstOccurrences_iff.mpr (by decide +kernel)),
    hListed.mpr (by decide +kernel)⟩

/-- The environment file of a group with a padded member, and of a group with a comma in its name. -/
def strayText : String :=
  "\x7b\"groups\": \x7b\"A,B\": [\"CPU\"], \"ALL\": [\" CPU \"]\x7d\x7d"

/-- What this file describes. -/
def stray : Environment where
  devices := []
  groups := .ofList [("A,B", ["CPU"]), ("ALL", [" CPU "])]
  tiers := none
  config := .empty

/-- Not every group of an accepted environment is listed by its name: of one with a padded member the
member is listed as it is written, and of one with a comma in its name the members are not listed. -/
theorem group_not_listed :
    (¬ ∀ (text : String) (e : Environment) (name : String) (members : List String),
      parse text = .ok e → e.groups.get? name = some members → e.GroupListed name members) ∧
    parse strayText = .ok stray ∧
    stray.catalog.parseDeviceList "ALL" = [⟨" CPU "⟩] ∧
    stray.catalog.parseDeviceList "A,B" = [⟨"A"⟩, ⟨"B"⟩] := by
  have hParse : parse strayText = .ok stray :=
    parse_eq_ok_iff.mpr ⟨by decide +kernel, by decide +kernel⟩
  have hListed : stray.catalog.parseDeviceList "ALL" = [⟨" CPU "⟩] := by decide +kernel
  refine ⟨fun hAll => ?_, hParse, hListed, by decide +kernel⟩
  obtain ⟨ids, hIds, hFirst⟩ := hAll strayText stray "ALL" [" CPU "] hParse (by decide +kernel)
  rw [hListed] at hFirst
  have hTrimmed := trim_of_mem_ids hIds ((hFirst.mem_iff ⟨" CPU "⟩).mp List.mem_cons_self)
  exact absurd hTrimmed (by decide +kernel)

end TieredDispatch.Environment
