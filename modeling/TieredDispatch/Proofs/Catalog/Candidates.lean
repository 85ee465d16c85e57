import Mathlib.Data.List.Induction
import TieredDispatch.Catalog
import TieredDispatch.Proofs.List.Distinct
import TieredDispatch.Proofs.Text.Pieces

/-!
# The devices that a request considers

The candidates of a request are what the pieces of its device list stand for, or else what the families
enumerate, with repeats.  A request considers the first occurrences among its candidates, and is refused if
there are no candidates.

* `DeviceId.FirstOccurrences`: each candidate once, in the order in which they first come.
* `DeviceId.firstOccurrences_iff`: leaving out what has come before gives the first occurrences.
* `Catalog.Candidates`: the candidates of a request, one rule for each way to come to them.
* `Catalog.candidates_iff`: the candidates are what the list expands to, or what the catalog reports.
* `Catalog.considered_first_occurrences`: what a request considers, and when it is refused.
-/

namespace TieredDispatch

/-! ## First occurrences -/

namespace DeviceId

variable {candidates ds es : List DeviceId} {d : DeviceId}

/-- Whether `ds` holds each candidate once and nothing else, in the order in which the candidates first
come. -/
structure FirstOccurrences (candidates ds : List DeviceId) : Prop where
  nodup : ds.Nodup
  mem_iff : ∀ d, d ∈ ds ↔ d ∈ candidates
  ordered : ds.Pairwise fun a b => candidates.idxOf a < candidates.idxOf b

namespace FirstOccurrences

/-- Candidates have only one list of first occurrences. -/
theorem unique (h : FirstOccurrences candidates ds) (h' : FirstOccurrences candidates es) : ds = es := by
  have hSame : ∀ d, d ∈ ds ↔ d ∈ es := fun d => (h.mem_iff d).trans (h'.mem_iff d).symm
  refine List.Perm.eq_of_pairwise (fun a b _ _ hab hba => absurd hab (Nat.lt_asymm hba)) h.ordered
    h'.ordered ?_
  exact (List.perm_ext_iff_of_nodup h.nodup h'.nodup).mpr hSame

theorem eq_nil_iff (h : FirstOccurrences candidates ds) : ds = [] ↔ candidates = [] := by
  simp only [List.eq_nil_iff_forall_not_mem, h.mem_iff]

/-- More candidates at the end move none of the first occurrences. -/
theorem ordered_append (h : FirstOccurrences candidates ds) (more : List DeviceId) :
    ds.Pairwise fun a b => (candidates ++ more).idxOf a < (candidates ++ more).idxOf b := by
  refine h.ordered.imp_of_mem fun {a b} ha hb hab => ?_
  rw [List.idxOf_append, List.idxOf_append, if_pos ((h.mem_iff a).mp ha), if_pos ((h.mem_iff b).mp hb)]
  exact hab

/-- A candidate that has come before adds nothing. -/
theorem concat_of_mem (h : FirstOccurrences candidates ds) (hd : d ∈ candidates) :
    FirstOccurrences (candidates ++ [d]) ds where
  nodup := h.nodup
  mem_iff other := by
    rw [h.mem_iff, List.mem_append, List.mem_singleton]
    exact ⟨Or.inl, fun hMem => hMem.elim id fun he => he ▸ hd⟩
  ordered := h.ordered_append [d]

/-- A new candidate comes at the end. -/
theorem concat_of_not_mem (h : FirstOccurrences candidates ds) (hd : d ∉ candidates) :
    FirstOccurrences (candidates ++ [d]) (ds ++ [d]) where
  nodup := by
    refine List.nodup_append.mpr ⟨h.nodup, List.pairwise_singleton _ d, fun a ha b hb hSame => ?_⟩
    rw [List.mem_singleton.mp hb] at hSame
    exact hd ((h.mem_iff d).mp (hSame ▸ ha))
  mem_iff other := by rw [List.mem_append, List.mem_append, h.mem_iff]
  ordered := by
    refine List.pairwise_append.mpr ⟨h.ordered_append [d], List.pairwise_singleton _ _, ?_⟩
    intro a ha b hb
    obtain rfl := List.mem_singleton.mp hb
    have hOld := (h.mem_iff a).mp ha
    rw [List.idxOf_append, List.idxOf_append, if_pos hOld, if_neg hd]
    exact Nat.lt_of_lt_of_le (List.idxOf_lt_length_of_mem hOld) (Nat.le_add_left _ _)

end FirstOccurrences

theorem firstOccurrences_eraseDups (candidates : List DeviceId) :
    FirstOccurrences candidates candidates.eraseDups := by
  -- the list is read from its front, so a candidate is added at the end
  induction candidates using List.reverseRecOn with
  | nil => exact ⟨List.nodup_nil, fun _ => Iff.rfl, List.Pairwise.nil⟩
  | append_singleton candidates d ih =>
    rw [List.eraseDups_append]
    by_cases hd : d ∈ candidates
    · have hOld : [d].removeAll candidates = [] := by simp [List.removeAll, hd]
      rw [hOld, List.eraseDups_nil, List.append_nil]
      exact ih.concat_of_mem hd
    · have hNew : [d].removeAll candidates = [d] := by simp [List.removeAll, hd]
      rw [hNew, List.eraseDups_cons, List.filter_nil, List.eraseDups_nil]
      exact ih.concat_of_not_mem hd

/-- Leaving out what has come before gives the first occurrences. -/
theorem firstOccurrences_iff : FirstOccurrences candidates ds ↔ candidates.eraseDups = ds := by
  constructor
  · exact (firstOccurrences_eraseDups candidates).unique
  · rintro rfl
    exact firstOccurrences_eraseDups candidates

theorem eraseDups_eraseDups (ds : List DeviceId) : ds.eraseDups.eraseDups = ds.eraseDups :=
  eraseDups_of_nodup (firstOccurrences_eraseDups ds).nodup

end DeviceId

/-! ## Candidates -/

namespace Catalog

variable {c : Catalog} {config : Config} {candidates others : List DeviceId} {e : DispatchError}

/-- What the pieces of a device list stand for together. -/
inductive Expands (c : Catalog) : List String → List DeviceId → Prop
  | nil : Expands c [] []
  /-- A piece of nothing but blanks stands for no device. -/
  | blank {piece : String} {pieces : List String} {ds : List DeviceId} :
      Text.Trimmed piece "" → Expands c pieces ds → Expands c (piece :: pieces) ds
  /-- The name of a group stands for the members, which are not looked up again. -/
  | group {piece name : String} {members : List DeviceId} {pieces : List String} {ds : List DeviceId} :
      Text.Trimmed piece name → name ≠ "" → c.groups.get? name = some members →
      Expands c pieces ds → Expands c (piece :: pieces) (members ++ ds)
  /-- Any other name is an id, whether such a device is registered or not. -/
  | device {piece name : String} {pieces : List String} {ds : List DeviceId} :
      Text.Trimmed piece name → name ≠ "" → c.groups.get? name = none →
      Expands c pieces ds → Expands c (piece :: pieces) (⟨name⟩ :: ds)

/-- What families enumerate together. -/
inductive Enumerates : List (DeviceId × Service) → List DeviceId → Prop
  | nil : Enumerates [] []
  | answers {family : DeviceId} {service : Service} {found : List DeviceId}
      {families : List (DeviceId × Service)} {ds : List DeviceId} :
      service.devices family = .ok found → Enumerates families ds →
      Enumerates ((family, service) :: families) (found ++ ds)
  /-- A family that fails to enumerate is skipped. -/
  | fails {family : DeviceId} {service : Service} {err : DeviceError}
      {families : List (DeviceId × Service)} {ds : List DeviceId} :
      service.devices family = .error err → Enumerates families ds →
      Enumerates ((family, service) :: families) ds

/-- The devices among which a request chooses, with repeats. -/
inductive Candidates (c : Catalog) (config : Config) : List DeviceId → Prop
  | listed {raw : String} {pieces : List String} {ds : List DeviceId} :
      config.get? Config.deviceListKey = some raw → Text.CommaSeparated raw pieces →
      c.Expands pieces ds → Candidates c config ds
  /-- Only without a device list are the families asked. -/
  | enumerated {ds : List DeviceId} :
      config.get? Config.deviceListKey = none → Enumerates c.families ds → Candidates c config ds

/-- The names in the pieces of a device list. -/
def namesIn (pieces : List String) : List String :=
  (pieces.map Text.trim).filter fun entry => !entry.isEmpty

theorem namesIn_cons (piece : String) (pieces : List String) :
    namesIn (piece :: pieces) =
      if Text.trim piece = "" then namesIn pieces else Text.trim piece :: namesIn pieces := by
  simp only [namesIn, List.map_cons, List.filter_cons, Bool.not_eq_true', String.isEmpty_eq_false_iff,
    ite_not]

theorem expands_iff {pieces : List String} {ds : List DeviceId} :
    c.Expands pieces ds ↔ (namesIn pieces).flatMap c.expand = ds := by
  constructor
  · intro h
    induction h with
    | nil => rfl
    | blank hTrim _ ih => rw [namesIn_cons, if_pos (Text.trimmed_iff.mp hTrim), ih]
    | group hTrim hName hGroup _ ih =>
      rw [namesIn_cons, Text.trimmed_iff.mp hTrim, if_neg hName, List.flatMap_cons, ih, expand, hGroup,
        Option.getD_some]
    | device hTrim hName hGroup _ ih =>
      rw [namesIn_cons, Text.trimmed_iff.mp hTrim, if_neg hName, List.flatMap_cons, ih, expand, hGroup,
        Option.getD_none, List.singleton_append]
  · rintro rfl
    induction pieces with
    | nil => exact .nil
    | cons piece pieces ih =>
      have hTrim := Text.trimmed_trim piece
      rw [namesIn_cons]
      split
      · next hName => exact .blank (hName ▸ hTrim) ih
      · next hName =>
        rw [List.flatMap_cons, expand]
        cases hGroup : c.groups.get? (Text.trim piece) with
        | some members => exact .group hTrim hName hGroup ih
        | none => exact .device hTrim hName hGroup ih

theorem enumerates_iff {families : List (DeviceId × Service)} {groups : TextMap (List DeviceId)}
    {ds : List DeviceId} : Enumerates families ds ↔ reported ⟨families, groups⟩ = ds := by
  constructor
  · intro h
    induction h with
    | nil => rfl
    | answers hFound _ ih => simp only [reported, List.flatMap_cons, hFound, ← ih]
    | fails hFailed _ ih => simp only [reported, List.flatMap_cons, hFailed, ← ih, List.nil_append]
  · rintro rfl
    induction families with
    | nil => exact .nil
    | cons entry families ih =>
      obtain ⟨family, service⟩ := entry
      simp only [reported, List.flatMap_cons]
      cases hAnswer : service.devices family with
      | ok found => exact .answers hAnswer ih
      | error err => exact .fails hAnswer ih

/-- The candidates of a request are those of its list, or else those that the catalog reports. -/
theorem candidates_iff : c.Candidates config candidates ↔
    (match config.deviceList? with
      | some raw => (listEntries raw).flatMap c.expand
      | none => c.reported) = candidates := by
  constructor
  · rintro (⟨hList, hPieces, hExpands⟩ | ⟨hList, hEnumerates⟩)
    · rw [Config.deviceList?, hList, ← expands_iff.mp hExpands, ← Text.commaSeparated_iff.mp hPieces]
      rfl
    · rw [Config.deviceList?, hList]
      exact enumerates_iff.mp hEnumerates
  · intro h
    cases hList : config.deviceList? with
    | some raw =>
      rw [hList] at h
      exact .listed hList (Text.commaSeparated_pieces raw) (expands_iff.mpr h)
    | none =>
      rw [hList] at h
      exact .enumerated hList (enumerates_iff.mpr h)

/-- A request considers the first occurrences among its candidates. -/
theorem Candidates.listDevices_eq (h : c.Candidates config candidates) :
    c.listDevices config =
      if candidates.eraseDups.isEmpty then .error .noDevicesAvailable else .ok candidates.eraseDups := by
  rw [candidates_iff] at h
  rw [listDevices, ← h]
  cases config.deviceList? <;> rfl

theorem Candidates.listDevices_eq_ok_iff {ds : List DeviceId} (h : c.Candidates config candidates) :
    c.listDevices config = .ok ds ↔ ds ≠ [] ∧ DeviceId.FirstOccurrences candidates ds := by
  rw [h.listDevices_eq, DeviceId.firstOccurrences_iff]
  split
  · next hNone =>
    rw [List.isEmpty_iff] at hNone
    constructor
    · intro hOk
      cases hOk
    · rintro ⟨hSome, rfl⟩
      exact absurd hNone hSome
  · next hSome =>
    rw [List.isEmpty_iff] at hSome
    constructor
    · intro hOk
      cases hOk
      exact ⟨hSome, rfl⟩
    · rintro ⟨-, rfl⟩
      rfl

theorem Candidates.listDevices_eq_error_iff (h : c.Candidates config candidates) :
    c.listDevices config = .error e ↔ e = .noDevicesAvailable ∧ candidates = [] := by
  rw [h.listDevices_eq, ← (DeviceId.firstOccurrences_eraseDups candidates).eq_nil_iff]
  split
  · next hNone =>
    rw [List.isEmpty_iff] at hNone
    simp [hNone, eq_comm]
  · next hSome =>
    rw [List.isEmpty_iff] at hSome
    simp [hSome]

/-- Every request has one row of candidates.  It considers the first occurrences among them, in their
order, and is refused, for want of devices, just if there are none.  Under a device list the registered
families do not matter, so that a list that names no device is refused whatever they enumerate. -/
theorem considered_first_occurrences (c : Catalog) (config : Config) :
    ∃ candidates, c.Candidates config candidates ∧
      (∀ others, c.Candidates config others → others = candidates) ∧
      (∀ ds, c.listDevices config = .ok ds ↔ ds ≠ [] ∧ DeviceId.FirstOccurrences candidates ds) ∧
      (∀ e, c.listDevices config = .error e ↔ e = .noDevicesAvailable ∧ candidates = []) ∧
      (config.get? Config.deviceListKey ≠ none → ∀ other : Catalog, other.groups = c.groups →
        other.listDevices config = c.listDevices config) := by
  obtain ⟨candidates, hCandidates⟩ : ∃ candidates, c.Candidates config candidates :=
    ⟨_, candidates_iff.mpr rfl⟩
  refine ⟨candidates, hCandidates, fun others hOthers => ?_, fun ds => hCandidates.listDevices_eq_ok_iff,
    fun e => hCandidates.listDevices_eq_error_iff, fun hList other hGroups => ?_⟩
  · rw [← candidates_iff.mp hOthers, candidates_iff.mp hCandidates]
  · obtain ⟨raw, hRaw⟩ := Option.ne_none_iff_exists'.mp hList
    have hExpand : other.expand = c.expand := funext fun entry => by rw [expand, expand, hGroups]
    simp only [listDevices, Config.deviceList?, hRaw, parseDeviceList, hExpand]

end Catalog

end TieredDispatch
