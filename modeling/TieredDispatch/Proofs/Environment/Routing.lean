import TieredDispatch.Environment

/-!
# The catalog of an environment

The families of an accepted environment have different names, so registering them replaces none: the
catalog holds one service for each entry, in order, and a device is routed to the entry with its id or
else to that of its family.

* `Environment.families_catalog`: the families of the catalog are the entries of the environment.
* `Environment.serviceFor?_catalog`: the entry to which a device is routed.
* `Environment.compiles_or_failsWith`: every device either compiles or fails for one reason.
-/

namespace TieredDispatch

/-- The service of a family of a simulated pool. -/
def FamilyEntry.service (entry : FamilyEntry) : Service :=
  entry.profile.service entry.family

/-! ## Registration -/

namespace Catalog

theorem registerEntry_of_forall_ne {family : DeviceId} (service : Service)
    {l : List (DeviceId × Service)} (h : ∀ entry ∈ l, entry.1 ≠ family) :
    registerEntry family service l = l ++ [(family, service)] := by
  induction l with
  | nil => rfl
  | cons entry rest ih =>
    rw [registerEntry, if_neg (h entry List.mem_cons_self), ih fun x hx =>
      h x (List.mem_cons_of_mem _ hx), List.cons_append]

/-- Registering families with new names puts them at the end, in order. -/
theorem families_foldl_register {entries : List FamilyEntry} {c : Catalog}
    (hNew : ∀ entry ∈ entries, ∀ x ∈ c.families, x.1 ≠ ⟨entry.family⟩)
    (hDistinct : entries.Pairwise fun a b => a.family ≠ b.family) :
    (entries.foldl (fun c entry => c.register ⟨entry.family⟩ (entry.profile.service entry.family))
      c).families = c.families ++ entries.map fun entry => (⟨entry.family⟩, entry.service) := by
  induction entries generalizing c with
  | nil => simp
  | cons entry rest ih =>
    obtain ⟨hHead, hRest⟩ := List.pairwise_cons.mp hDistinct
    have hFamilies : (c.register ⟨entry.family⟩ (entry.profile.service entry.family)).families =
        c.families ++ [(⟨entry.family⟩, entry.service)] :=
      registerEntry_of_forall_ne _ (hNew entry List.mem_cons_self)
    rw [List.foldl_cons, ih ?_ hRest, hFamilies, List.map_cons, List.append_assoc,
      List.singleton_append]
    intro other hOther x hx
    rw [hFamilies] at hx
    rcases List.mem_append.mp hx with hx | hx
    · exact hNew other (List.mem_cons_of_mem _ hOther) x hx
    · rw [List.mem_singleton.mp hx]
      intro hEq
      exact hHead other hOther (congrArg DeviceId.text hEq)

theorem groups_foldl_register (entries : List FamilyEntry) (c : Catalog) :
    (entries.foldl (fun c entry => c.register ⟨entry.family⟩ (entry.profile.service entry.family))
      c).groups = c.groups := by
  induction entries generalizing c with
  | nil => rfl
  | cons entry rest ih => rw [List.foldl_cons, ih, register]

theorem families_foldl_registerGroup (groups : List (String × List String)) (c : Catalog) :
    (groups.foldl (fun c group => c.registerGroup group.1 (group.2.map DeviceId.mk)) c).families =
      c.families := by
  induction groups generalizing c with
  | nil => rfl
  | cons group rest ih => rw [List.foldl_cons, ih, registerGroup]

theorem groups_foldl_registerGroup (groups : List (String × List String)) (c : Catalog) :
    (groups.foldl (fun c group => c.registerGroup group.1 (group.2.map DeviceId.mk)) c).groups =
      groups.foldl (fun m group => m.insert group.1 (group.2.map DeviceId.mk)) c.groups := by
  induction groups generalizing c with
  | nil => rfl
  | cons group rest ih => rw [List.foldl_cons, ih, List.foldl_cons, registerGroup]

end Catalog

/-! ## Accepted environments -/

namespace Environment

variable {e : Environment} {d : DeviceId}

/-- A text is accepted if it describes an environment that is not refused. -/
theorem parse_eq_ok_iff {text : String} :
    parse text = .ok e ↔ (Json.read? text).bind ofJson? = some e ∧ e.error? = none := by
  rw [parse]
  split
  · next hNone => simp [hNone]
  · next found hFound =>
    split
    · next err hRefused =>
      constructor
      · intro h
        cases h
      · rintro ⟨hSame, hAccepted⟩
        rw [hFound] at hSame
        cases hSame
        rw [hRefused] at hAccepted
        cases hAccepted
    · next hAccepted =>
      constructor
      · intro h
        cases h
        exact ⟨hFound, hAccepted⟩
      · rintro ⟨hSame, -⟩
        rw [hFound] at hSame
        cases hSame
        rfl

section Families

variable {seen : List DeviceId} {entry : FamilyEntry} {entries : List FamilyEntry}

theorem familyError?_of_malformed {inputError : InputError}
    (hErr : DeviceId.parse entry.family = .error inputError) :
    familyError? seen (entry :: entries) = some (.device inputError) := by
  rw [familyError?, hErr]

theorem familyError?_of_seen {id : DeviceId} (hId : DeviceId.parse entry.family = .ok id)
    (hSeen : id ∈ seen) :
    familyError? seen (entry :: entries) = some (.duplicateFamily entry.family) := by
  rw [familyError?, hId]
  exact if_pos (List.contains_iff_mem.mpr hSeen)

theorem familyError?_of_new {id : DeviceId} (hId : DeviceId.parse entry.family = .ok id)
    (hNew : id ∉ seen) :
    familyError? seen (entry :: entries) = familyError? (id :: seen) entries := by
  rw [familyError?, hId]
  exact if_neg fun hSeen => hNew (List.contains_iff_mem.mp hSeen)

/-- Families are accepted if their names are read as new ids that differ from each other. -/
theorem familyError?_eq_none_iff : familyError? seen entries = none ↔
    (∀ entry ∈ entries, ∃ id, DeviceId.parse entry.family = .ok id ∧ id ∉ seen) ∧
      entries.Pairwise fun a b => DeviceId.parse a.family ≠ DeviceId.parse b.family := by
  induction entries generalizing seen with
  | nil => simp [familyError?]
  | cons entry rest ih =>
    rw [List.forall_mem_cons, List.pairwise_cons]
    cases hId : DeviceId.parse entry.family with
    | error err => simp [familyError?_of_malformed hId]
    | ok id =>
      by_cases hSeen : id ∈ seen
      · simp [familyError?_of_seen hId hSeen, hSeen]
      · rw [familyError?_of_new hId hSeen, ih]
        constructor
        · rintro ⟨hRest, hDistinct⟩
          refine ⟨⟨⟨id, rfl, hSeen⟩, fun other hOther => ?_⟩, fun other hOther hSame => ?_, hDistinct⟩
          · obtain ⟨id', hId', hNew⟩ := hRest other hOther
            exact ⟨id', hId', fun hMem => hNew (List.mem_cons_of_mem _ hMem)⟩
          · -- the same id would be among those seen
            obtain ⟨id', hId', hNew⟩ := hRest other hOther
            rw [hId', Except.ok.injEq] at hSame
            exact hNew (hSame ▸ List.mem_cons_self)
        · rintro ⟨⟨-, hRest⟩, hFirst, hDistinct⟩
          refine ⟨fun other hOther => ?_, hDistinct⟩
          obtain ⟨id', hId', hNew⟩ := hRest other hOther
          refine ⟨id', hId', List.not_mem_cons_of_ne_of_not_mem (fun hSame => ?_) hNew⟩
          exact hFirst other hOther (by rw [hId', hSame])

end Families

theorem familyError?_of_accepted (h : e.error? = none) : familyError? [] e.devices = none := by
  rw [error?] at h
  cases hFamily : familyError? [] e.devices with
  | none => rfl
  | some err => simp [hFamily] at h

theorem distinct_families (h : e.error? = none) :
    e.devices.Pairwise fun a b => a.family ≠ b.family := by
  refine (familyError?_eq_none_iff.mp (familyError?_of_accepted h)).2.imp fun {a b} hIds hNames => ?_
  -- equal names would be read as equal ids
  exact hIds (congrArg DeviceId.parse hNames)

theorem families_catalog (h : e.error? = none) :
    e.catalog.families = e.devices.map fun entry => (⟨entry.family⟩, entry.service) := by
  rw [catalog, Catalog.families_foldl_registerGroup,
    Catalog.families_foldl_register (fun _ _ x hx => absurd hx List.not_mem_nil)
      (distinct_families h)]
  rfl

theorem groups_catalog (e : Environment) :
    e.catalog.groups =
      e.groups.entries.foldl (fun m group => m.insert group.1 (group.2.map DeviceId.mk)) .empty := by
  rw [catalog, Catalog.groups_foldl_registerGroup, Catalog.groups_foldl_register]
  rfl

/-! ## Routing -/

/-- The entry to which a device is routed: that with its id, else that of its family. -/
def entryFor? (e : Environment) (d : DeviceId) : Option FamilyEntry :=
  (e.devices.find? fun entry => entry.family = d.text).or
    (e.devices.find? fun entry => entry.family = d.family)

theorem mem_of_entryFor? {entry : FamilyEntry} (h : e.entryFor? d = some entry) :
    entry ∈ e.devices := by
  rcases Option.or_eq_some_iff.mp h with hExact | ⟨-, hFamily⟩
  · exact List.mem_of_find?_eq_some hExact
  · exact List.mem_of_find?_eq_some hFamily

theorem registered?_catalog (h : e.error? = none) (text : String) :
    e.catalog.registered? text =
      (e.devices.find? fun entry => entry.family = text).map FamilyEntry.service := by
  rw [Catalog.registered?, families_catalog h, List.find?_map, Option.map_map]
  rfl

theorem serviceFor?_catalog (h : e.error? = none) (d : DeviceId) :
    e.catalog.serviceFor? d = (e.entryFor? d).map FamilyEntry.service := by
  rw [Catalog.serviceFor?, registered?_catalog h, registered?_catalog h, entryFor?]
  cases e.devices.find? fun entry => entry.family = d.text <;> rfl

/-! ## Compiling -/

/-- Whether the catalog routes a device to a family without an injected compile failure. -/
def Compiles (e : Environment) (d : DeviceId) : Prop :=
  ∃ entry ∈ e.devices, e.catalog.serviceFor? d = some entry.service ∧
    entry.profile.failures.compile = none

/-- Why compiles for a device fail. -/
inductive FailsWith (e : Environment) (d : DeviceId) : String → Prop
  /-- The device is routed nowhere. -/
  | unavailable : e.catalog.serviceFor? d = none → FailsWith e d (DeviceError.unavailable d).message
  /-- The device is routed to a family with an injected failure. -/
  | injected {entry : FamilyEntry} {reason : String} : entry ∈ e.devices →
      e.catalog.serviceFor? d = some entry.service →
      entry.profile.failures.compile = some reason →
      FailsWith e d (DeviceError.compileFailed d reason).message

/-- Every device either compiles or fails for some reason. -/
theorem compiles_or_failsWith (h : e.error? = none) (d : DeviceId) :
    e.Compiles d ∨ ∃ reason, e.FailsWith d reason := by
  have hRoute := serviceFor?_catalog h d
  cases hEntry : e.entryFor? d with
  | none =>
    rw [hEntry] at hRoute
    exact Or.inr ⟨_, .unavailable hRoute⟩
  | some entry =>
    rw [hEntry] at hRoute
    have hMem := mem_of_entryFor? hEntry
    cases hFailure : entry.profile.failures.compile with
    | none => exact Or.inl ⟨entry, hMem, hRoute, hFailure⟩
    | some reason => exact Or.inr ⟨_, .injected hMem hRoute hFailure⟩

theorem outcome_of_compiles (h : e.Compiles d) (model : ModelSource) (config : Config) :
    (e.catalog.compile d model config).2.outcome = .compiled ⟨d, model.modelName⟩ := by
  obtain ⟨entry, -, hRoute, hFailure⟩ := h
  simp only [Catalog.compile, hRoute, FamilyEntry.service, DeviceProfile.service,
    DeviceProfile.compile, hFailure]

theorem outcome_of_failsWith {reason : String} (h : e.FailsWith d reason) (model : ModelSource)
    (config : Config) :
    ∃ err, (e.catalog.compile d model config).2.outcome = .refused err ∧ err.message = reason := by
  cases h with
  | unavailable hRoute => exact ⟨.unavailable d, by simp only [Catalog.compile, hRoute], rfl⟩
  | injected hMem hRoute hFailure =>
    refine ⟨_, ?_, rfl⟩
    simp only [Catalog.compile, hRoute, FamilyEntry.service, DeviceProfile.service,
      DeviceProfile.compile, hFailure]

theorem FailsWith.not_compiles {reason : String} (h : e.FailsWith d reason) : ¬ e.Compiles d := by
  intro hCompiles
  obtain ⟨err, hRefused, -⟩ := outcome_of_failsWith h (.path "") .empty
  rw [outcome_of_compiles hCompiles] at hRefused
  cases hRefused

/-- A device fails for one reason only. -/
theorem FailsWith.unique {reason reason' : String} (h : e.FailsWith d reason)
    (h' : e.FailsWith d reason') : reason = reason' := by
  obtain ⟨err, hRefused, rfl⟩ := outcome_of_failsWith h (.path "") .empty
  obtain ⟨err', hRefused', rfl⟩ := outcome_of_failsWith h' (.path "") .empty
  rw [hRefused] at hRefused'
  cases hRefused'
  rfl

end Environment

end TieredDispatch
