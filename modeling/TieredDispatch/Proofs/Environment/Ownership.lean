import Mathlib.Data.List.Pairwise
import Mathlib.Data.List.TakeWhile
import TieredDispatch.Proofs.Environment.Listing

/-!
# Enumerated devices and their families

A family with indices enumerates its members under its name, a dot and an index, and a member is routed by
the text before its first dot.  The two fit together as long as the family's name has no dot of its own.
Environments are accepted with such names as well: the members of a family `A.B` are routed to the family
`A`, or nowhere if there is none.

* `DeviceId.family_member`: the family of a member.
* `Catalog.RoutesTo`, `Catalog.Unroutable`: where the requests for a device go.
* `Environment.serviceFor?_member`: the family that answers for a member.
* `FamilyEntry.Traceable`: whether the devices of a family lead back to it.
* `Environment.enumerated_owned`: to whom the enumerated devices of an environment are routed.
-/

namespace TieredDispatch

/-! ## The family of a member -/

/-- What is read up to a separator does not depend on what follows it. -/
theorem Text.beforeFirst_append (sep : Char) (s t : String) :
    beforeFirst sep (s ++ String.singleton sep ++ t) = beforeFirst sep s := by
  have hStop : (sep :: t.toList).takeWhile (· != sep) = [] := by simp
  simp only [beforeFirst, String.toList_append, String.toList_singleton, List.append_assoc,
    List.singleton_append]
  rw [List.takeWhile_append]
  split
  · next hAll => rw [hStop, List.append_nil, List.Sublist.eq_of_length
      (List.takeWhile_sublist _) hAll]
  · rfl

theorem Text.beforeFirst_eq_self_iff {sep : Char} {s : String} :
    beforeFirst sep s = s ↔ sep ∉ s.toList := by
  rw [beforeFirst, ← String.toList_inj, String.toList_ofList, List.takeWhile_eq_self_iff]
  constructor
  · intro h hMem
    simpa using h sep hMem
  · intro h c hc
    have hne : c ≠ sep := fun he => h (he ▸ hc)
    simpa using hne

/-- A member belongs to what stands before the first dot of its family's name. -/
theorem DeviceId.family_member (family : DeviceId) (index : String) :
    (family.member index).family = family.family :=
  Text.beforeFirst_append '.' family.text index

/-- A member has another id than its family. -/
theorem DeviceId.text_member_ne (family : DeviceId) (index : String) :
    (family.member index).text ≠ family.text := by
  intro h
  have hLength := congrArg (fun s => s.toList.length) h
  simp only [member, String.toList_append, List.length_append] at hLength
  have hDot : ".".toList.length = 1 := rfl
  omega

/-! ## Where requests go -/

namespace Catalog

variable {c : Catalog} {d : DeviceId} {service : Service}

/-- Whether every request for a device goes to the given service. -/
structure RoutesTo (c : Catalog) (d : DeviceId) (service : Service) : Prop where
  metric : ∀ name, c.metric d name = service.metric d name
  operations : ∀ g, c.operations d g = service.operations d g
  compile : ∀ model config, c.compile d model config = (some service, service.compile d model config)

/-- Whether every request for a device is answered by saying that it is unavailable. -/
structure Unroutable (c : Catalog) (d : DeviceId) : Prop where
  metric : ∀ name, c.metric d name = .error (.unavailable d)
  operations : ∀ g, c.operations d g = .error (.unavailable d)
  compile : ∀ model config, c.compile d model config = (none, ⟨0, .refused (.unavailable d)⟩)

/-- Whether no request for a device is answered by saying that a device is unavailable. -/
structure Responsive (c : Catalog) (d : DeviceId) : Prop where
  metric : ∀ name other, c.metric d name ≠ .error (.unavailable other)
  operations : ∀ g other, c.operations d g ≠ .error (.unavailable other)
  compile : ∀ model config other,
    (c.compile d model config).2.outcome ≠ .refused (.unavailable other)

theorem routesTo_iff : c.RoutesTo d service ↔ c.serviceFor? d = some service := by
  constructor
  · intro h
    rw [← c.fst_compile d (.path "") .empty, h.compile]
  · intro h
    exact ⟨fun name => by simp only [Catalog.metric, ask, h],
      fun g => by simp only [Catalog.operations, ask, h],
      fun model config => by simp only [Catalog.compile, h]⟩

theorem unroutable_of_serviceFor? (h : c.serviceFor? d = none) : c.Unroutable d where
  metric name := by simp only [Catalog.metric, ask, h]
  operations g := by simp only [Catalog.operations, ask, h]
  compile model config := by simp only [Catalog.compile, h]

/-- A profiled device may fail in many ways, but it is there. -/
theorem RoutesTo.responsive {p : DeviceProfile} {name : String} (h : c.RoutesTo d (p.service name)) :
    c.Responsive d where
  metric metricName other := by
    rw [h.metric]
    simp only [DeviceProfile.service, DeviceProfile.metric]
    repeat' split
    all_goals simp
  operations g other := by
    rw [h.operations]
    simp only [DeviceProfile.service, DeviceProfile.operations]
    split <;> simp
  compile model config other := by
    rw [h.compile]
    simp only [DeviceProfile.service, DeviceProfile.compile]
    split <;> simp

end Catalog

/-! ## Families of an environment -/

/-- Whether the devices of a family lead back to it: it has no indices, so that it is its own device, or
no dot stands in its name. -/
def FamilyEntry.Traceable (entry : FamilyEntry) : Prop :=
  entry.profile.indices = [] ∨ '.' ∉ entry.family.toList

namespace Environment

variable {e : Environment} {text : String} {entry : FamilyEntry} {d : DeviceId}

theorem entry_unique (h : e.error? = none) {other : FamilyEntry} (hEntry : entry ∈ e.devices)
    (hOther : other ∈ e.devices) (hSame : other.family = entry.family) : other = entry := by
  have hSymm : Std.Symm fun a b : FamilyEntry => a.family ≠ b.family := ⟨fun _ _ hne => hne.symm⟩
  by_contra hne
  exact (distinct_families h).forall hOther hEntry hne hSame

/-- An entry is found under its name. -/
theorem find?_family (h : e.error? = none) (hEntry : entry ∈ e.devices) :
    (e.devices.find? fun other => other.family = entry.family) = some entry := by
  have hSome : (e.devices.find? fun other => other.family = entry.family).isSome := by
    rw [List.find?_isSome]
    exact ⟨entry, hEntry, by simp⟩
  obtain ⟨found, hFound⟩ := Option.isSome_iff_exists.mp hSome
  have hName : found.family = entry.family := by simpa using List.find?_some hFound
  rw [hFound, entry_unique h hEntry (List.mem_of_find?_eq_some hFound) hName]

/-- A member whose id is nobody else's is routed by the name of its family up to the first dot. -/
theorem entryFor?_member {index : String}
    (hOther : ∀ other ∈ e.devices, other.family ≠ (DeviceId.member ⟨entry.family⟩ index).text) :
    e.entryFor? (DeviceId.member ⟨entry.family⟩ index) =
      e.devices.find? fun other => other.family = Text.beforeFirst '.' entry.family := by
  have hExact : (e.devices.find? fun other =>
      other.family = (DeviceId.member ⟨entry.family⟩ index).text) = none := by
    rw [List.find?_eq_none]
    intro other hMem
    simpa using hOther other hMem
  rw [entryFor?, hExact, Option.none_or, DeviceId.family_member]
  rfl

/-- A family without indices is its own device, and its requests go to it. -/
theorem serviceFor?_family (h : e.error? = none) (hEntry : entry ∈ e.devices) :
    e.catalog.serviceFor? ⟨entry.family⟩ = some entry.service := by
  rw [serviceFor?_catalog h, entryFor?, find?_family h hEntry, Option.some_or, Option.map_some]

/-- The requests for a member go to the family, if there is one, that is named by what stands before the
first dot. -/
theorem serviceFor?_member (h : e.error? = none) {owner : FamilyEntry} {index : String}
    (hNobody : ∀ other ∈ e.devices, other.family ≠ (DeviceId.member ⟨entry.family⟩ index).text)
    (hOwner : owner ∈ e.devices) (hName : owner.family = Text.beforeFirst '.' entry.family) :
    e.catalog.serviceFor? (DeviceId.member ⟨entry.family⟩ index) = some owner.service := by
  rw [serviceFor?_catalog h, entryFor?_member hNobody, ← hName, find?_family h hOwner, Option.map_some]

theorem serviceFor?_member_eq_none (h : e.error? = none) {index : String}
    (hNobody : ∀ other ∈ e.devices, other.family ≠ (DeviceId.member ⟨entry.family⟩ index).text)
    (hNone : ∀ owner ∈ e.devices, owner.family ≠ Text.beforeFirst '.' entry.family) :
    e.catalog.serviceFor? (DeviceId.member ⟨entry.family⟩ index) = none := by
  rw [serviceFor?_catalog h, entryFor?_member hNobody, Option.map_eq_none_iff, List.find?_eq_none]
  intro owner hOwner
  simpa using hNone owner hOwner

/-- A member is routed back to its family exactly if no dot stands in the family's name. -/
theorem serviceFor?_member_eq_self_iff (h : e.error? = none) (hEntry : entry ∈ e.devices) {index : String}
    (hNobody : ∀ other ∈ e.devices, other.family ≠ (DeviceId.member ⟨entry.family⟩ index).text) :
    e.catalog.serviceFor? (DeviceId.member ⟨entry.family⟩ index) = some entry.service ↔
      '.' ∉ entry.family.toList := by
  rw [← Text.beforeFirst_eq_self_iff]
  constructor
  · intro hService
    rw [serviceFor?_catalog h, entryFor?_member hNobody] at hService
    obtain ⟨owner, hFound, hService⟩ := Option.map_eq_some_iff.mp hService
    have hName : owner.family = Text.beforeFirst '.' entry.family := by
      simpa using List.find?_some hFound
    rw [← hName]
    exact congrArg Service.name hService
  · intro hName
    exact serviceFor?_member h hNobody hEntry hName.symm

/-- To whom the enumerated devices of an accepted environment are routed, unless their ids are those of
other families.  The devices of a traceable family go to the service that enumerated them, and are never
said to be unavailable.  Those of other families never go there, but to the family whose name stands before
the first dot, or nowhere if there is none. -/
theorem enumerated_owned (hParse : parse text = .ok e) (hEntry : entry ∈ e.devices)
    (hDevice : d ∈ entry.profile.devices ⟨entry.family⟩)
    (hOther : ∀ other ∈ e.devices, other.family = d.text → other = entry) :
    d ∈ e.catalog.available ∧
    (e.catalog.RoutesTo d entry.service ↔ entry.Traceable) ∧
    (entry.Traceable → e.catalog.Responsive d) ∧
    (¬ entry.Traceable →
      (∀ owner ∈ e.devices, owner.family = Text.beforeFirst '.' entry.family →
        e.catalog.RoutesTo d owner.service ∧ e.catalog.Responsive d) ∧
      ((∀ owner ∈ e.devices, owner.family ≠ Text.beforeFirst '.' entry.family) →
        e.catalog.Unroutable d)) := by
  obtain ⟨-, hAccepted⟩ := parse_eq_ok_iff.mp hParse
  have hAvailable := (mem_available_catalog hAccepted).mpr ⟨entry, hEntry, hDevice⟩
  refine ⟨hAvailable, ?_⟩
  rw [Catalog.routesTo_iff]
  rw [DeviceProfile.devices] at hDevice
  split at hDevice
  · next hNone =>
    -- the family is its own device
    obtain rfl := List.mem_singleton.mp hDevice
    have hRoute := serviceFor?_family hAccepted hEntry
    have hTraceable : entry.Traceable := Or.inl (List.isEmpty_iff.mp hNone)
    exact ⟨iff_of_true hRoute hTraceable, fun _ => (Catalog.routesTo_iff.mpr hRoute).responsive,
      fun h => absurd hTraceable h⟩
  · next hSome =>
    obtain ⟨index, hIndex, rfl⟩ := List.mem_map.mp hDevice
    have hNobody : ∀ other ∈ e.devices,
        other.family ≠ (DeviceId.member ⟨entry.family⟩ index).text := by
      intro other hMem hSame
      rw [hOther other hMem hSame] at hSame
      exact DeviceId.text_member_ne _ _ hSame.symm
    have hRoute : e.catalog.serviceFor? (DeviceId.member ⟨entry.family⟩ index) = some entry.service ↔
        entry.Traceable := by
      rw [serviceFor?_member_eq_self_iff hAccepted hEntry hNobody, FamilyEntry.Traceable]
      exact (or_iff_right fun h => hSome (List.isEmpty_iff.mpr h)).symm
    refine ⟨hRoute, fun h => (Catalog.routesTo_iff.mpr (hRoute.mpr h)).responsive, fun _ => ⟨?_, ?_⟩⟩
    · intro owner hOwner hName
      have hRoutes := Catalog.routesTo_iff.mpr (serviceFor?_member hAccepted hNobody hOwner hName)
      exact ⟨hRoutes, hRoutes.responsive⟩
    · intro hNone
      exact Catalog.unroutable_of_serviceFor? (serviceFor?_member_eq_none hAccepted hNobody hNone)

/-- The environment file of an accelerator with two indices, the second of which makes the name of another
family. -/
def overlappingText : String :=
  "\x7b\"devices\": [\x7b\"family\": \"GPU\", \"full_name\": \"Discrete (dGPU)\", \"indices\": " ++
    "[\"0\", \"1\"]\x7d, \x7b\"family\": \"GPU.1\", \"full_name\": \"Integrated (iGPU)\"\x7d]\x7d"

/-- The entry with the indices. -/
def overlappingEntry : FamilyEntry :=
  ⟨"GPU", (DeviceProfile.named "Discrete (dGPU)").withIndices ["0", "1"]⟩

/-- What this file describes. -/
def overlapping : Environment where
  devices := [overlappingEntry, ⟨"GPU.1", .named "Integrated (iGPU)"⟩]
  groups := .empty
  tiers := none
  config := .empty

/-- The first member goes to the family that enumerated it, although a name with a dot is registered. -/
theorem enumerated_owned_overlapping : parse overlappingText = .ok overlapping ∧
    overlapping.catalog.RoutesTo ⟨"GPU.0"⟩ overlappingEntry.service ∧
    overlapping.catalog.Responsive ⟨"GPU.0"⟩ := by
  have hParse : parse overlappingText = .ok overlapping :=
    parse_eq_ok_iff.mpr ⟨by decide +kernel, by decide +kernel⟩
  have hOwned := enumerated_owned (d := ⟨"GPU.0"⟩) hParse List.mem_cons_self (by decide +kernel)
    (by decide +kernel)
  have hTraceable : overlappingEntry.Traceable := Or.inr (by decide +kernel)
  exact ⟨hParse, hOwned.2.1.mpr hTraceable, hOwned.2.2.1 hTraceable⟩

/-- The environment file of a family whose name has a dot, and which has an index. -/
def dottedText : String :=
  "\x7b\"devices\": [\x7b\"family\": \"A.B\", \"full_name\": \"Host\", \"indices\": [\"0\"]\x7d]\x7d"

/-- Its only entry. -/
def dottedEntry : FamilyEntry :=
  ⟨"A.B", (DeviceProfile.named "Host").withIndices ["0"]⟩

/-- What this file describes. -/
def dotted : Environment where
  devices := [dottedEntry]
  groups := .empty
  tiers := none
  config := .empty

/-- Not every enumerated device is routed to the family that enumerated it; the only device of an accepted
environment may be unavailable. -/
theorem enumerated_not_owned :
    (¬ ∀ (text : String) (e : Environment) (entry : FamilyEntry) (d : DeviceId),
      parse text = .ok e → entry ∈ e.devices → d ∈ entry.profile.devices ⟨entry.family⟩ →
      (∀ other ∈ e.devices, other.family = d.text → other = entry) →
      e.catalog.RoutesTo d entry.service) ∧
    parse dottedText = .ok dotted ∧ dotted.catalog.available = [⟨"A.B.0"⟩] ∧
    dotted.catalog.fullName ⟨"A.B.0"⟩ = .error (.unavailable ⟨"A.B.0"⟩) := by
  have hParse : parse dottedText = .ok dotted :=
    parse_eq_ok_iff.mpr ⟨by decide +kernel, by decide +kernel⟩
  refine ⟨fun hAll => ?_, hParse, by decide +kernel, rfl⟩
  have hRoutes := hAll dottedText dotted dottedEntry ⟨"A.B.0"⟩ hParse List.mem_cons_self
    (by decide +kernel) (by decide +kernel)
  have hAnswer := hRoutes.metric MetricName.fullName
  cases hAnswer

end Environment

end TieredDispatch
