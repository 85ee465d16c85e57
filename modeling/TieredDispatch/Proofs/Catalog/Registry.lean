import Mathlib.Data.List.Basic
import Mathlib.Data.List.Induction
import Mathlib.Data.List.Nodup
import TieredDispatch.Proofs.Environment.Ownership

/-!
# The registry of families as a history

The registry of a catalog is what the calls have made of it that register and remove families.  It holds the
families that have been registered and not removed since, each with the service that was registered last, in
the order in which they have come in.  A family that is there keeps its place when it is registered again, and
loses it when it is removed.

* `Catalog.Call`, `Catalog.applyAll`: the calls that change a catalog, and rows of them.
* `Catalog.Present`, `Catalog.LatestFor`, `Catalog.EntersAt`: what a history says about a family.
* `Catalog.Reflects`: whether the entries of a registry are those of a history.
* `Catalog.Reflects.apply`, `Catalog.reflects_applyAll`: every call keeps this, and so does every row of calls.
* `Catalog.Reflects.routesTo_iff`, `Catalog.Reflects.unroutable_iff`: where the requests for a device go.
-/

namespace TieredDispatch.Catalog

/-! ## Calls -/

/-- A call that changes a catalog. -/
inductive Call
  | register (family : DeviceId) (service : Service)
  | unregister (family : DeviceId)
  | registerGroup (name : String) (members : List DeviceId)

def apply (c : Catalog) : Call → Catalog
  | .register family service => c.register family service
  | .unregister family => (c.unregister family).2
  | .registerGroup name members => c.registerGroup name members

/-- The catalog after a row of calls. -/
def applyAll (c : Catalog) (calls : List Call) : Catalog :=
  calls.foldl apply c

theorem applyAll_concat (c : Catalog) (calls : List Call) (call : Call) :
    c.applyAll (calls ++ [call]) = (c.applyAll calls).apply call := by
  rw [applyAll, List.foldl_append]
  rfl

variable {c : Catalog} {history : List Call} {call : Call} {a b d family : DeviceId}
  {service service' : Service} {i j : Nat}

/-! ## What a history says about a family -/

/-- Whether a call of a history starts something that no later call ends. -/
def Since (starts ends : Call → Prop) (history : List Call) : Prop :=
  ∃ before call after, history = before ++ call :: after ∧ starts call ∧ ∀ later ∈ after, ¬ ends later

/-- Whether a family has been registered and not been removed since. -/
def Present (history : List Call) (d : DeviceId) : Prop :=
  Since (fun call => ∃ service, call = .register d service) (fun call => call = .unregister d) history

/-- Whether a family has been registered with a service, and neither registered again nor removed since. -/
def LatestFor (history : List Call) (d : DeviceId) (service : Service) : Prop :=
  Since (fun call => call = .register d service)
    (fun call => call = .unregister d ∨ ∃ other, call = .register d other) history

/-- Whether a family has come in with the call at a position, and has stayed: it is registered there, was not
present before, and is not removed afterwards. -/
def EntersAt (history : List Call) (d : DeviceId) (i : Nat) : Prop :=
  ∃ before service after, history = before ++ .register d service :: after ∧ before.length = i ∧
    ¬ Present before d ∧ .unregister d ∉ after

/-- Whether one family has come in before another one. -/
def EntersBefore (history : List Call) (a b : DeviceId) : Prop :=
  ∃ i j, EntersAt history a i ∧ EntersAt history b j ∧ i < j

theorem not_since_nil {starts ends : Call → Prop} : ¬ Since starts ends [] := by
  rintro ⟨before, call, after, hNil, -⟩
  cases before <;> cases hNil

/-- What is going on after one more call was started by it, or was going on and is not ended by it. -/
theorem since_concat {starts ends : Call → Prop} :
    Since starts ends (history ++ [call]) ↔ starts call ∨ ¬ ends call ∧ Since starts ends history := by
  constructor
  · rintro ⟨before, x, after, hSplit, hStart, hAfter⟩
    rcases List.eq_nil_or_concat' after with rfl | ⟨rest, last, rfl⟩
    · obtain ⟨-, rfl⟩ := List.append_singleton_inj.mp hSplit
      exact Or.inl hStart
    · rw [← List.cons_append, ← List.append_assoc] at hSplit
      obtain ⟨rfl, rfl⟩ := List.append_singleton_inj.mp hSplit
      rw [List.forall_mem_append, List.forall_mem_singleton] at hAfter
      exact Or.inr ⟨hAfter.2, before, x, rest, rfl, hStart, hAfter.1⟩
  · rintro (hStart | ⟨hKept, before, x, after, rfl, hStart, hAfter⟩)
    · exact ⟨history, call, [], rfl, hStart, by simp⟩
    · refine ⟨before, x, after ++ [call], by simp, hStart, ?_⟩
      rw [List.forall_mem_append, List.forall_mem_singleton]
      exact ⟨hAfter, hKept⟩

theorem present_register : Present (history ++ [.register family service]) d ↔ family = d ∨ Present history d := by
  simp [Present, since_concat]

theorem present_unregister : Present (history ++ [.unregister family]) d ↔ family ≠ d ∧ Present history d := by
  simp [Present, since_concat]

theorem present_registerGroup {name : String} {members : List DeviceId} :
    Present (history ++ [.registerGroup name members]) d ↔ Present history d := by
  simp [Present, since_concat]

theorem latestFor_register : LatestFor (history ++ [.register family service]) d service' ↔
    (family = d ∧ service = service') ∨ family ≠ d ∧ LatestFor history d service' := by
  simp [LatestFor, since_concat]

theorem latestFor_unregister : LatestFor (history ++ [.unregister family]) d service' ↔
    family ≠ d ∧ LatestFor history d service' := by
  simp [LatestFor, since_concat]

theorem latestFor_registerGroup {name : String} {members : List DeviceId} :
    LatestFor (history ++ [.registerGroup name members]) d service' ↔ LatestFor history d service' := by
  simp [LatestFor, since_concat]

/-- A family that is present has a latest service. -/
theorem present_iff_exists_latestFor : Present history d ↔ ∃ service, LatestFor history d service := by
  induction history using List.reverseRecOn with
  | nil => exact iff_of_false not_since_nil fun ⟨_, h⟩ => not_since_nil h
  | append_singleton history call ih =>
    cases call with
    | register family service =>
      simp only [present_register, latestFor_register, ih]
      by_cases hFamily : family = d <;> simp [hFamily]
    | unregister family => simp only [present_unregister, latestFor_unregister, ih, exists_and_left]
    | registerGroup name members => simp only [present_registerGroup, latestFor_registerGroup, ih]

/-! ## Coming in -/

theorem EntersAt.lt_length (h : EntersAt history d i) : i < history.length := by
  obtain ⟨before, service, after, rfl, rfl, -⟩ := h
  simp

/-- A family that has come in stays until it is removed. -/
theorem EntersAt.concat (h : EntersAt history d i) (hKept : call ≠ .unregister d) :
    EntersAt (history ++ [call]) d i := by
  obtain ⟨before, service, after, rfl, hLength, hNew, hAfter⟩ := h
  refine ⟨before, service, after ++ [call], by simp, hLength, hNew, ?_⟩
  rw [List.mem_append, List.mem_singleton, not_or]
  exact ⟨hAfter, hKept.symm⟩

theorem entersAt_register (h : ¬ Present history d) (service : Service) :
    EntersAt (history ++ [.register d service]) d history.length :=
  ⟨history, service, [], rfl, rfl, h, List.not_mem_nil⟩

theorem EntersBefore.concat (h : EntersBefore history a b) (ha : call ≠ .unregister a)
    (hb : call ≠ .unregister b) : EntersBefore (history ++ [call]) a b := by
  obtain ⟨i, j, hi, hj, hLess⟩ := h
  exact ⟨i, j, hi.concat ha, hj.concat hb, hLess⟩

theorem exists_entersAt (h : Present history d) : ∃ i, EntersAt history d i := by
  induction history using List.reverseRecOn with
  | nil => exact absurd h not_since_nil
  | append_singleton history call ih =>
    cases call with
    | register family service =>
      by_cases hOld : Present history d
      · exact (ih hOld).imp fun i hi => hi.concat (by simp)
      · obtain rfl := (present_register.mp h).resolve_right hOld
        exact ⟨_, entersAt_register hOld service⟩
    | unregister family =>
      obtain ⟨hOther, hOld⟩ := present_unregister.mp h
      exact (ih hOld).imp fun i hi => hi.concat (by simpa using hOther)
    | registerGroup name members =>
      exact (ih (present_registerGroup.mp h)).imp fun i hi => hi.concat (by simp)

/-- Between two registrations that both bring a family in it would have to be removed. -/
theorem not_lt_of_entersAt (hi : EntersAt history d i) (hj : EntersAt history d j) : ¬ i < j := by
  obtain ⟨before, service, after, rfl, rfl, -, hAfter⟩ := hi
  obtain ⟨before', service', after', hSplit, rfl, hNew, -⟩ := hj
  intro hLess
  rcases List.append_eq_append_iff.mp hSplit with ⟨between, rfl, hRest⟩ | ⟨between, rfl, -⟩
  · cases between with
    | nil => simp at hLess
    | cons x between =>
      obtain ⟨rfl, rfl⟩ := List.cons.inj hRest
      refine hNew ⟨before, _, between, rfl, ⟨service, rfl⟩, fun later hLater hRemoved => ?_⟩
      exact hAfter (hRemoved ▸ List.mem_append_left _ hLater)
  · rw [List.length_append] at hLess
    omega

/-- A family that is present has come in with one call. -/
theorem existsUnique_entersAt (h : Present history d) : ∃! i, EntersAt history d i := by
  obtain ⟨i, hi⟩ := exists_entersAt h
  refine ⟨i, hi, fun j hj => ?_⟩
  exact Nat.le_antisymm (Nat.not_lt.mp (not_lt_of_entersAt hi hj)) (Nat.not_lt.mp (not_lt_of_entersAt hj hi))

/-! ## Entries -/

theorem map_fst_registerEntry (family : DeviceId) (service : Service) (entries : List (DeviceId × Service)) :
    (registerEntry family service entries).map Prod.fst =
      if family ∈ entries.map Prod.fst then entries.map Prod.fst else entries.map Prod.fst ++ [family] := by
  induction entries with
  | nil => rfl
  | cons entry rest ih =>
    rw [registerEntry]
    by_cases hFamily : entry.1 = family
    · simp [hFamily]
    · rw [if_neg hFamily, List.map_cons, ih, List.map_cons]
      simp only [List.mem_cons, Ne.symm hFamily, false_or]
      split <;> rfl

/-- An entry after a registration is the new one, or one of another family. -/
theorem mem_registerEntry_iff {entries : List (DeviceId × Service)} (h : (entries.map Prod.fst).Nodup) :
    (d, service') ∈ registerEntry family service entries ↔
      (family = d ∧ service = service') ∨ family ≠ d ∧ (d, service') ∈ entries := by
  induction entries with
  | nil => simp [registerEntry, eq_comm]
  | cons entry rest ih =>
    obtain ⟨key, old⟩ := entry
    obtain ⟨hNew, hRest⟩ := List.nodup_cons.mp h
    have hAbsent : ∀ s, (key, s) ∉ rest := fun s hMem => hNew (List.mem_map.mpr ⟨_, hMem, rfl⟩)
    rw [registerEntry]
    by_cases hFamily : key = family
    · subst hFamily
      rw [if_pos rfl]
      by_cases hSame : key = d
      · subst hSame
        simp [hAbsent, eq_comm]
      · simp [hSame, Ne.symm hSame]
    · rw [if_neg hFamily, List.mem_cons, ih hRest, List.mem_cons]
      by_cases hSame : family = d
      · subst hSame
        simp [Ne.symm hFamily]
      · simp [hSame]

theorem mem_familyIds_iff : d ∈ c.familyIds ↔ ∃ service, (d, service) ∈ c.families := by
  simp [familyIds]

theorem familyIds_register (c : Catalog) (family : DeviceId) (service : Service) :
    (c.register family service).familyIds =
      if family ∈ c.familyIds then c.familyIds else c.familyIds ++ [family] :=
  map_fst_registerEntry family service c.families

/-- Only a new family has to be compared with the others. -/
theorem pairwise_familyIds_register {R : DeviceId → DeviceId → Prop} (h : c.familyIds.Pairwise R)
    (hNew : family ∉ c.familyIds → ∀ a ∈ c.familyIds, R a family) (service : Service) :
    (c.register family service).familyIds.Pairwise R := by
  rw [familyIds_register]
  split
  · exact h
  · next hAbsent =>
    refine List.pairwise_append.mpr ⟨h, List.pairwise_singleton _ _, fun a ha b hb => ?_⟩
    rw [List.mem_singleton.mp hb]
    exact hNew hAbsent a ha

theorem familyIds_unregister (c : Catalog) (family : DeviceId) :
    (c.unregister family).2.familyIds = c.familyIds.filter fun id => id ≠ family := by
  rw [familyIds, familyIds, List.filter_map]
  rfl

theorem mem_unregister_iff :
    (d, service) ∈ (c.unregister family).2.families ↔ family ≠ d ∧ (d, service) ∈ c.families := by
  rw [unregister, List.mem_filter, decide_eq_true_iff, and_comm, ne_comm]

/-! ## The registry of a history -/

/-- Whether the registry of a catalog holds what a history says: each family that is present once, with its
latest service, in the order in which the families have come in. -/
structure Reflects (c : Catalog) (history : List Call) : Prop where
  nodup : c.familyIds.Nodup
  mem_iff : ∀ d service, (d, service) ∈ c.families ↔ LatestFor history d service
  ordered : c.familyIds.Pairwise (EntersBefore history)

theorem reflects_empty : empty.Reflects [] where
  nodup := List.nodup_nil
  mem_iff _ _ := iff_of_false List.not_mem_nil not_since_nil
  ordered := List.Pairwise.nil

namespace Reflects

theorem mem_familyIds_iff (h : c.Reflects history) : d ∈ c.familyIds ↔ Present history d := by
  simp only [Catalog.mem_familyIds_iff, h.mem_iff, present_iff_exists_latestFor]

theorem register (h : c.Reflects history) (family : DeviceId) (service : Service) :
    (c.register family service).Reflects (history ++ [.register family service]) where
  nodup := pairwise_familyIds_register h.nodup (fun hNew _ ha hSame => hNew (hSame ▸ ha)) service
  mem_iff d service' := by
    rw [latestFor_register, ← h.mem_iff]
    exact mem_registerEntry_iff h.nodup
  ordered := by
    refine pairwise_familyIds_register ?_ (fun hNew a ha => ?_) service
    · exact h.ordered.imp fun hab => hab.concat (by simp) (by simp)
    · -- the new family comes in with the last call, the others have come in before
      obtain ⟨i, hi⟩ := exists_entersAt (h.mem_familyIds_iff.mp ha)
      have hAbsent : ¬ Present history family := fun hOld => hNew (h.mem_familyIds_iff.mpr hOld)
      exact ⟨i, history.length, hi.concat (by simp), entersAt_register hAbsent service, hi.lt_length⟩

theorem unregister (h : c.Reflects history) (family : DeviceId) :
    (c.unregister family).2.Reflects (history ++ [.unregister family]) := by
  refine ⟨?_, fun d service => ?_, ?_⟩
  · rw [familyIds_unregister]
    exact h.nodup.filter _
  · rw [latestFor_unregister, ← h.mem_iff, mem_unregister_iff]
  · rw [familyIds_unregister]
    have hKept : ∀ a ∈ c.familyIds.filter (fun id => id ≠ family), Call.unregister family ≠ .unregister a := by
      intro a ha hSame
      cases hSame
      simp at ha
    exact (h.ordered.filter _).imp_of_mem fun {a b} ha hb hab => hab.concat (hKept a ha) (hKept b hb)

theorem registerGroup (h : c.Reflects history) (name : String) (members : List DeviceId) :
    (c.registerGroup name members).Reflects (history ++ [.registerGroup name members]) where
  nodup := h.nodup
  mem_iff d service := by
    rw [latestFor_registerGroup, ← h.mem_iff]
    rfl
  ordered := h.ordered.imp fun hab => hab.concat (by simp) (by simp)

/-- Every call keeps the registry in step with the history. -/
theorem apply (h : c.Reflects history) (call : Call) : (c.apply call).Reflects (history ++ [call]) := by
  cases call with
  | register family service => exact h.register family service
  | unregister family => exact h.unregister family
  | registerGroup name members => exact h.registerGroup name members

end Reflects

/-- The registry is that of the whole history. -/
theorem reflects_applyAll (history : List Call) : (empty.applyAll history).Reflects history := by
  induction history using List.reverseRecOn with
  | nil => exact reflects_empty
  | append_singleton history call ih =>
    rw [applyAll_concat]
    exact ih.apply call

/-! ## Replacement and removal -/

/-- Where each family is there once, no other entry is of the family of a given one. -/
theorem ne_of_families_eq (h : c.familyIds.Nodup) {before after : List (DeviceId × Service)}
    (hSplit : c.families = before ++ (family, service) :: after) :
    ∀ entry ∈ before ++ after, entry.1 ≠ family := by
  rw [familyIds, hSplit, List.map_append, List.map_cons, List.nodup_middle, List.nodup_cons,
    ← List.map_append] at h
  intro entry hEntry hSame
  exact h.1 (List.mem_map.mpr ⟨entry, hEntry, hSame⟩)

theorem registerEntry_append {before after : List (DeviceId × Service)}
    (h : ∀ entry ∈ before, entry.1 ≠ family) (service' : Service) :
    registerEntry family service' (before ++ (family, service) :: after) =
      before ++ (family, service') :: after := by
  induction before with
  | nil => rw [List.nil_append, registerEntry, if_pos rfl, List.nil_append]
  | cons entry rest ih =>
    rw [List.cons_append, registerEntry, if_neg (h entry List.mem_cons_self),
      ih fun other hOther => h other (List.mem_cons_of_mem _ hOther), List.cons_append]

/-- A family that is registered again keeps its place, and only its service is replaced. -/
theorem families_register_of_eq (h : c.familyIds.Nodup) {before after : List (DeviceId × Service)}
    (hSplit : c.families = before ++ (family, service) :: after) (service' : Service) :
    (c.register family service').families = before ++ (family, service') :: after := by
  rw [Catalog.register, hSplit]
  exact registerEntry_append (fun entry hEntry =>
    ne_of_families_eq h hSplit entry (List.mem_append_left _ hEntry)) service'

/-- The removal of a family leaves the other entries as they are. -/
theorem families_unregister_of_eq (h : c.familyIds.Nodup) {before after : List (DeviceId × Service)}
    (hSplit : c.families = before ++ (family, service) :: after) :
    (c.unregister family).2.families = before ++ after := by
  have hOthers : (before ++ after).filter (fun entry => entry.1 ≠ family) = before ++ after :=
    List.filter_eq_self.mpr fun entry hEntry => by simpa using ne_of_families_eq h hSplit entry hEntry
  rw [Catalog.unregister, hSplit, List.filter_append, List.filter_cons_of_neg (by simp), ← List.filter_append,
    hOthers]

theorem fst_unregister_iff : (c.unregister family).1 = true ↔ family ∈ c.familyIds := by
  simp [Catalog.unregister, familyIds]

/-- The removal of a family that is not there changes nothing. -/
theorem snd_unregister_of_not_mem (h : family ∉ c.familyIds) : (c.unregister family).2 = c := by
  have hOthers : c.families.filter (fun entry => entry.1 ≠ family) = c.families :=
    List.filter_eq_self.mpr fun entry hEntry => decide_eq_true fun hSame =>
      h (List.mem_map.mpr ⟨entry, hEntry, hSame⟩)
  rw [Catalog.unregister, hOthers]

/-! ## Routing -/

/-- Where each family is there once, the service under a text is that of the only entry with this name. -/
theorem registered?_eq_some_iff (h : c.familyIds.Nodup) {text : String} :
    c.registered? text = some service ↔ (⟨text⟩, service) ∈ c.families := by
  constructor
  · intro hService
    obtain ⟨⟨⟨name⟩, found⟩, hFound, rfl⟩ := Option.map_eq_some_iff.mp hService
    obtain rfl : name = text := by simpa using List.find?_some hFound
    exact List.mem_of_find?_eq_some hFound
  · intro hEntry
    have hSome : (c.families.find? fun entry => entry.1.text = text).isSome :=
      List.find?_isSome.mpr ⟨_, hEntry, by simp⟩
    obtain ⟨found, hFound⟩ := Option.isSome_iff_exists.mp hSome
    have hName : found.1 = ⟨text⟩ := congrArg DeviceId.mk (by simpa using List.find?_some hFound)
    have hOnly : found = (⟨text⟩, service) :=
      List.inj_on_of_nodup_map h (List.mem_of_find?_eq_some hFound) hEntry hName
    rw [registered?, hFound, hOnly, Option.map_some]

theorem registered?_eq_none_iff {text : String} : c.registered? text = none ↔ ⟨text⟩ ∉ c.familyIds := by
  rw [registered?, Option.map_eq_none_iff, List.find?_eq_none, familyIds, List.mem_map]
  constructor
  · rintro hNone ⟨entry, hEntry, hSame⟩
    exact hNone entry hEntry (by simp [hSame])
  · intro hAbsent entry hEntry hName
    exact hAbsent ⟨entry, hEntry, congrArg DeviceId.mk (by simpa using hName)⟩

theorem serviceFor?_eq_or (c : Catalog) (d : DeviceId) :
    c.serviceFor? d = (c.registered? d.text).or (c.registered? d.family) := by
  rw [serviceFor?]
  cases c.registered? d.text <;> rfl

theorem unroutable_iff : c.Unroutable d ↔ c.serviceFor? d = none := by
  refine ⟨fun h => ?_, unroutable_of_serviceFor?⟩
  rw [← c.fst_compile d (.path "") .empty, h.compile]

namespace Reflects

/-- The requests for a device go to the latest service under its own id, and else to that under the name of
its family. -/
theorem routesTo_iff (h : c.Reflects history) : c.RoutesTo d service ↔
    LatestFor history d service ∨ ¬ Present history d ∧ LatestFor history ⟨d.family⟩ service := by
  rw [Catalog.routesTo_iff, serviceFor?_eq_or, Option.or_eq_some_iff, registered?_eq_none_iff,
    registered?_eq_some_iff h.nodup, registered?_eq_some_iff h.nodup, h.mem_familyIds_iff, h.mem_iff, h.mem_iff]

theorem unroutable_iff (h : c.Reflects history) :
    c.Unroutable d ↔ ¬ Present history d ∧ ¬ Present history ⟨d.family⟩ := by
  rw [Catalog.unroutable_iff, serviceFor?_eq_or, Option.or_eq_none_iff, registered?_eq_none_iff,
    registered?_eq_none_iff, h.mem_familyIds_iff, h.mem_familyIds_iff]

end Reflects

end TieredDispatch.Catalog
