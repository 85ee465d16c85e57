import Mathlib.Data.List.Induction
import TieredDispatch.Proofs.Config.Merge
import TieredDispatch.Proofs.Environment.Ownership

/-!
# Valid environments

An environment is accepted just if its families and the members of its groups are read as device ids, and
no two families as the same one.  Otherwise it is refused for its first fault: that of the first family at
fault, in the order of their declaration, and only if there is none, that of the first member, in the order
of the groups' names.  Accepted families have different names, so each of them is registered in a place of
its own.

* `Environment.Valid`: what an environment is accepted for.
* `Environment.FirstFault`: what an environment is refused for.
* `Environment.familyError?_eq_some_iff`: the first family at fault.
* `Environment.memberError?_eq_some_iff`: the first member at fault.
* `Environment.validation_exact`: the two together, and what is registered.
-/

namespace TieredDispatch

/-- Whether a text is read as a device id. -/
def DeviceId.Readable (text : String) : Prop := ∃ id, parse text = .ok id

namespace Environment

variable {e : Environment} {text : String} {err : EnvironmentError} {seen : List DeviceId}
  {before entries : List FamilyEntry} {entry : FamilyEntry}

/-! ## Families -/

/-- Whether families are read as device ids, and no two of them as the same one. -/
structure ValidFamilies (entries : List FamilyEntry) : Prop where
  readable : ∀ entry ∈ entries, DeviceId.Readable entry.family
  distinct : entries.Pairwise fun a b => DeviceId.parse a.family ≠ DeviceId.parse b.family

/-- What is wrong with a family that is declared after others. -/
inductive FamilyFault (before : List FamilyEntry) (entry : FamilyEntry) : EnvironmentError → Prop
  | malformed {err : InputError} : DeviceId.parse entry.family = .error err →
      FamilyFault before entry (.device err)
  /-- The name that is reported is that of the later family, as it is written. -/
  | duplicate {other : FamilyEntry} {id : DeviceId} : other ∈ before →
      DeviceId.parse other.family = .ok id → DeviceId.parse entry.family = .ok id →
      FamilyFault before entry (.duplicateFamily entry.family)

/-- The ids that families are read as. -/
def idsOf (entries : List FamilyEntry) : List DeviceId :=
  entries.filterMap fun entry => (DeviceId.parse entry.family).toOption

theorem mem_idsOf {id : DeviceId} :
    id ∈ idsOf entries ↔ ∃ entry ∈ entries, DeviceId.parse entry.family = .ok id := by
  have hIff : ∀ x : Except InputError DeviceId, x.toOption = some id ↔ x = .ok id := by
    rintro (x | x) <;> simp [Except.toOption]
  simp only [idsOf, List.mem_filterMap, hIff]

theorem familyError?_nil_eq_none_iff : familyError? [] entries = none ↔ ValidFamilies entries := by
  rw [familyError?_eq_none_iff]
  constructor
  · rintro ⟨hIds, hDistinct⟩
    exact ⟨fun entry hEntry => (hIds entry hEntry).imp fun _ => And.left, hDistinct⟩
  · rintro ⟨hIds, hDistinct⟩
    exact ⟨fun entry hEntry => (hIds entry hEntry).imp fun _ hId => ⟨hId, List.not_mem_nil⟩, hDistinct⟩

theorem idsOf_cons {id : DeviceId} (hId : DeviceId.parse entry.family = .ok id) :
    idsOf (entry :: entries) = id :: idsOf entries := by
  rw [idsOf, List.filterMap_cons, hId]
  rfl

/-- After families without a fault, the check goes on with their ids among those seen. -/
theorem familyError?_append (seen : List DeviceId) (before after : List FamilyEntry) :
    familyError? seen (before ++ after) =
      (familyError? seen before).or (familyError? ((idsOf before).reverse ++ seen) after) := by
  induction before generalizing seen with
  | nil => rfl
  | cons entry before ih =>
    rw [List.cons_append]
    cases hId : DeviceId.parse entry.family with
    | error err =>
      rw [familyError?_of_malformed hId, familyError?_of_malformed hId, Option.some_or]
    | ok id =>
      by_cases hSeen : id ∈ seen
      · rw [familyError?_of_seen hId hSeen, familyError?_of_seen hId hSeen, Option.some_or]
      · rw [familyError?_of_new hId hSeen, familyError?_of_new hId hSeen, ih, idsOf_cons hId,
          List.reverse_cons, List.append_assoc, List.singleton_append]

/-- A family at fault ends the check, whatever comes after it. -/
theorem familyError?_of_fault (h : FamilyFault before entry err) (after : List FamilyEntry) :
    familyError? (idsOf before).reverse (entry :: after) = some err := by
  cases h with
  | malformed hErr => exact familyError?_of_malformed hErr
  | duplicate hOther hSame hId =>
    exact familyError?_of_seen hId (List.mem_reverse.mpr (mem_idsOf.mpr ⟨_, hOther, hSame⟩))

theorem fault_of_familyError? (h : familyError? (idsOf before).reverse [entry] = some err) :
    FamilyFault before entry err := by
  cases hId : DeviceId.parse entry.family with
  | error inputError =>
    rw [familyError?_of_malformed hId] at h
    cases h
    exact .malformed hId
  | ok id =>
    by_cases hSeen : id ∈ (idsOf before).reverse
    · rw [familyError?_of_seen hId hSeen] at h
      cases h
      obtain ⟨other, hOther, hSame⟩ := mem_idsOf.mp (List.mem_reverse.mp hSeen)
      exact .duplicate hOther hSame hId
    · rw [familyError?_of_new hId hSeen] at h
      cases h

/-- The families are refused for the first one at fault. -/
theorem familyError?_eq_some_iff : familyError? [] entries = some err ↔
    ∃ before entry after, entries = before ++ entry :: after ∧ ValidFamilies before ∧
      FamilyFault before entry err := by
  constructor
  · intro h
    -- the fault is in the last family, or in those before it
    induction entries using List.reverseRecOn with
    | nil => cases h
    | append_singleton entries last ih =>
      rw [familyError?_append, List.append_nil] at h
      cases hInit : familyError? [] entries with
      | some found =>
        rw [hInit, Option.some_or] at h
        obtain ⟨before, entry, after, rfl, hBefore, hFault⟩ := ih (hInit.trans h)
        exact ⟨before, entry, after ++ [last], by simp, hBefore, hFault⟩
      | none =>
        rw [hInit, Option.none_or] at h
        exact ⟨entries, last, [], rfl, familyError?_nil_eq_none_iff.mp hInit,
          fault_of_familyError? h⟩
  · rintro ⟨before, entry, after, rfl, hBefore, hFault⟩
    rw [familyError?_append, familyError?_nil_eq_none_iff.mpr hBefore, Option.none_or, List.append_nil]
    exact familyError?_of_fault hFault after

/-! ## Members of groups -/

theorem memberError?_eq_none_iff {member : String} :
    memberError? member = none ↔ DeviceId.Readable member := by
  rw [memberError?, DeviceId.Readable]
  cases DeviceId.parse member <;> simp

theorem memberError?_eq_some_iff {member : String} : memberError? member = some err ↔
    ∃ inputError, DeviceId.parse member = .error inputError ∧ err = .device inputError := by
  rw [memberError?]
  cases DeviceId.parse member <;> simp [eq_comm]

/-- A search through the members of all groups goes from group to group. -/
theorem findSome?_members (groups : List (String × List String)) :
    (groups.flatMap (·.2)).findSome? memberError? =
      groups.findSome? fun group => group.2.findSome? memberError? := by
  induction groups with
  | nil => rfl
  | cons group groups ih =>
    rw [List.flatMap_cons, List.findSome?_append, ih, List.findSome?_cons]
    cases group.2.findSome? memberError? <;> rfl

/-! ## The verdict -/

/-- What an environment is accepted for. -/
structure Valid (e : Environment) : Prop where
  families : ValidFamilies e.devices
  members : ∀ name members, e.groups.get? name = some members →
    ∀ member ∈ members, DeviceId.Readable member

/-- What an environment is refused for. -/
inductive FirstFault (e : Environment) : EnvironmentError → Prop
  | family {before after : List FamilyEntry} {entry : FamilyEntry} {err : EnvironmentError} :
      e.devices = before ++ entry :: after → ValidFamilies before → FamilyFault before entry err →
      FirstFault e err
  /-- A member is at fault where all families are valid, and so are the members of the groups with lesser
  names and those before it in its own group. -/
  | member {name member : String} {before after : List String} {err : InputError} :
      ValidFamilies e.devices → e.groups.get? name = some (before ++ member :: after) →
      (∀ other members, other < name → e.groups.get? other = some members →
        ∀ m ∈ members, DeviceId.Readable m) →
      (∀ m ∈ before, DeviceId.Readable m) → DeviceId.parse member = .error err →
      FirstFault e (.device err)

theorem error?_eq_or (e : Environment) :
    e.error? = (familyError? [] e.devices).or
      (e.groups.entries.findSome? fun group => group.2.findSome? memberError?) := by
  rw [← findSome?_members, error?]
  cases familyError? [] e.devices <;> rfl

theorem members_eq_none_iff {members : List String} :
    members.findSome? memberError? = none ↔ ∀ member ∈ members, DeviceId.Readable member := by
  simp only [List.findSome?_eq_none_iff, memberError?_eq_none_iff]

theorem error?_eq_none_iff : e.error? = none ↔ e.Valid := by
  rw [error?_eq_or, Option.or_eq_none_iff, familyError?_nil_eq_none_iff,
    TextMap.findSome?_entries_eq_none_iff]
  simp only [members_eq_none_iff]
  exact ⟨fun h => ⟨h.1, h.2⟩, fun h => ⟨h.families, h.members⟩⟩

/-- An environment is refused for its first fault. -/
theorem error?_eq_some_iff : e.error? = some err ↔ e.FirstFault err := by
  rw [error?_eq_or, Option.or_eq_some_iff, familyError?_eq_some_iff, familyError?_nil_eq_none_iff,
    TextMap.findSome?_entries_eq_some_iff]
  simp only [members_eq_none_iff, List.findSome?_eq_some_iff, memberError?_eq_some_iff,
    memberError?_eq_none_iff]
  constructor
  · rintro (⟨before, entry, after, hDevices, hBefore, hFault⟩ |
      ⟨hFamilies, name, members, hGroup, ⟨before, member, after, rfl, ⟨err, hErr, rfl⟩, hBefore⟩,
        hLess⟩)
    · exact .family hDevices hBefore hFault
    · exact .member hFamilies hGroup hLess hBefore hErr
  · rintro (⟨hDevices, hBefore, hFault⟩ | ⟨hFamilies, hGroup, hLess, hBefore, hErr⟩)
    · exact Or.inl ⟨_, _, _, hDevices, hBefore, hFault⟩
    · exact Or.inr ⟨hFamilies, _, _, hGroup, ⟨_, _, _, rfl, ⟨_, hErr, rfl⟩, hBefore⟩, hLess⟩

/-! ## Reading and registration -/

theorem parse_eq_error_iff (hDecoded : (Json.read? text).bind ofJson? = some e) :
    parse text = .error err ↔ e.FirstFault err := by
  rw [← error?_eq_some_iff]
  simp only [parse, hDecoded]
  cases e.error? <;> simp

theorem familyIds_catalog (h : e.error? = none) :
    e.catalog.familyIds = e.devices.map fun entry => ⟨entry.family⟩ := by
  rw [Catalog.familyIds, families_catalog h, List.map_map]
  rfl

theorem nodup_familyIds_catalog (h : e.error? = none) : e.catalog.familyIds.Nodup := by
  rw [familyIds_catalog h, List.Nodup, List.pairwise_map]
  exact (distinct_families h).imp fun hne hSame => hne (congrArg DeviceId.text hSame)

/-- The verdict on an environment that a text describes, and what comes of it.  It is accepted just if it is
valid, and then as it is described; otherwise it is refused for its first fault.  The catalog of an accepted
environment has one family for each entry, in order and under the name that is written, and the requests
for a family go to the service of its own entry: no entry replaces another. -/
theorem validation_exact (hDecoded : (Json.read? text).bind ofJson? = some e) :
    (∀ found, parse text = .ok found ↔ found = e ∧ e.Valid) ∧
    (∀ err, parse text = .error err ↔ e.FirstFault err) ∧
    (e.Valid →
      e.catalog.familyIds = e.devices.map (fun entry => ⟨entry.family⟩) ∧
      e.catalog.familyIds.Nodup ∧
      ∀ entry ∈ e.devices, e.catalog.RoutesTo ⟨entry.family⟩ (entry.profile.service entry.family)) := by
  refine ⟨fun found => ?_, fun err => parse_eq_error_iff hDecoded, fun hValid => ?_⟩
  · rw [parse_eq_ok_iff, hDecoded, Option.some.injEq]
    constructor
    · rintro ⟨rfl, hAccepted⟩
      exact ⟨rfl, error?_eq_none_iff.mp hAccepted⟩
    · rintro ⟨rfl, hValid⟩
      exact ⟨rfl, error?_eq_none_iff.mpr hValid⟩
  · have hAccepted := error?_eq_none_iff.mpr hValid
    exact ⟨familyIds_catalog hAccepted, nodup_familyIds_catalog hAccepted,
      fun entry hEntry => Catalog.routesTo_iff.mpr (serviceFor?_family hAccepted hEntry)⟩

/-- The environment file of two families that are read as the same id, with a group whose member is no id. -/
def doubledText : String :=
  "\x7b\"devices\": [\x7b\"family\": \"CPU\", \"full_name\": \"Host\"\x7d, " ++
    "\x7b\"family\": \" CPU \", \"full_name\": \"Guest\"\x7d], \"groups\": \x7b\"ALL\": [\" \"]\x7d\x7d"

/-- What this file describes. -/
def doubled : Environment where
  devices := [⟨"CPU", .named "Host"⟩, ⟨" CPU ", .named "Guest"⟩]
  groups := .ofList [("ALL", [" "])]
  tiers := none
  config := .empty

/-- The family is reported, as it is written, and not the member; and where one family has the name of a
member of another, the requests for it go to its own entry. -/
theorem validation_exact_doubled :
    parse doubledText = .error (.duplicateFamily " CPU ") ∧
    overlapping.catalog.familyIds = [⟨"GPU"⟩, ⟨"GPU.1"⟩] ∧
    overlapping.catalog.RoutesTo ⟨"GPU.1"⟩ ((DeviceProfile.named "Integrated (iGPU)").service "GPU.1") := by
  have hDoubled : (Json.read? doubledText).bind ofJson? = some doubled := by decide +kernel
  have hFirst : ValidFamilies [⟨"CPU", .named "Host"⟩] :=
    familyError?_nil_eq_none_iff.mp (by decide +kernel)
  have hPlain : DeviceId.parse "CPU" = .ok ⟨"CPU"⟩ := by decide +kernel
  have hPadded : DeviceId.parse " CPU " = .ok ⟨"CPU"⟩ := by decide +kernel
  have hFault : FamilyFault [⟨"CPU", .named "Host"⟩] ⟨" CPU ", .named "Guest"⟩ (.duplicateFamily " CPU ") :=
    .duplicate List.mem_cons_self hPlain hPadded
  have hOverlapping : (Json.read? overlappingText).bind ofJson? = some overlapping := by decide +kernel
  have hValid : overlapping.Valid := error?_eq_none_iff.mp (by decide +kernel)
  obtain ⟨hIds, -, hRoutes⟩ := (validation_exact hOverlapping).2.2 hValid
  exact ⟨((validation_exact hDoubled).2.1 _).mpr (.family rfl hFirst hFault), hIds,
    hRoutes ⟨"GPU.1", .named "Integrated (iGPU)"⟩ (List.mem_cons_of_mem _ List.mem_cons_self)⟩

end Environment

end TieredDispatch
