import Mathlib.Data.List.Find
import TieredDispatch.Device.Profile
import TieredDispatch.Proofs.Selection.Tiers

/-!
# Choosing over a snapshot

A selector asks for the full names and the manifests of the listed devices only, and looks at no error.  A
catalog reads a full name by itself, a table takes it from the manifest; over profiled devices this makes
no difference, since such a device either answers every metric that a manifest is made of or fails all of
them.  So a table that was filled from the catalog stands for it.

* `Lookup.AgreeOn`: look-ups that a selector does not tell apart on a list.
* `Selector.partition_congr`, `Selector.select_congr`: what is chosen over such look-ups.
* `Catalog.Profiled`, `Catalog.toOption_fullName`: catalogs of profiled devices.
* `Catalog.SnapshotOf`, `Catalog.snapshot`: tables that were filled from a catalog.
* `Selector.choice_over_snapshot`: partition and choice over the catalog and over the table.
-/

namespace TieredDispatch

/-! ## Look-ups that agree -/

/-- Whether two look-ups give the same names and the same manifests for the devices of a list, and fail for
the same ones. -/
structure Lookup.AgreeOn (devices : List DeviceId) (a b : Lookup) : Prop where
  fullName : ∀ d ∈ devices, (a.fullName d).toOption = (b.fullName d).toOption
  manifest : ∀ d ∈ devices, (a.manifest d).toOption = (b.manifest d).toOption

theorem Partition.ext_members {p q : Partition} (h : ∀ t, p.members t = q.members t) : p = q := by
  obtain ⟨_, _, _, _, _⟩ := p
  obtain ⟨_, _, _, _, _⟩ := q
  rw [Partition.mk.injEq]
  exact ⟨h .processor, h .discrete, h .familyA, h .integrated, h .familyB⟩

namespace Selector

variable {tiers : TierTable} {a b : Lookup} {devices : List DeviceId} {d : DeviceId}

theorem tierOf?_congr (h : (a.fullName d).toOption = (b.fullName d).toOption) :
    tierOf? ⟨tiers, a⟩ d = tierOf? ⟨tiers, b⟩ d := by
  simp only [tierOf?, TierTable.tierOf?, h]

theorem partition_congr (h : a.AgreeOn devices b) :
    partition ⟨tiers, a⟩ devices = partition ⟨tiers, b⟩ devices := by
  refine Partition.ext_members fun t => ?_
  rw [members_partition, members_partition]
  refine List.filter_congr fun d hd => ?_
  rw [tierOf?_congr (h.fullName d hd)]

/-- A device supports what its manifest says, if that can be read. -/
theorem supports_eq_any (s : Selector) (wanted : Option Precision) (d : DeviceId) :
    s.supports wanted d = (s.lookup.manifest d).toOption.any fun m => wanted.all m.supports := by
  rw [supports]
  cases s.lookup.manifest d <;> rfl

theorem mem_of_mem_candidates {s : Selector} (h : d ∈ (s.partition devices).candidates) :
    d ∈ devices := by
  obtain ⟨t, -, hMember⟩ := Partition.mem_candidates h
  rw [members_partition] at hMember
  exact (List.mem_filter.mp hMember).1

theorem accelerator?_congr (h : a.AgreeOn devices b) (wanted : Option Precision) :
    accelerator? ⟨tiers, a⟩ (partition ⟨tiers, b⟩ devices) wanted =
      accelerator? ⟨tiers, b⟩ (partition ⟨tiers, b⟩ devices) wanted := by
  rw [accelerator?, accelerator?]
  refine List.find?_congr fun d hd => ?_
  rw [supports_eq_any, supports_eq_any, h.manifest d (mem_of_mem_candidates hd)]

theorem select_congr (h : a.AgreeOn devices b) (wanted : Option Precision) :
    select ⟨tiers, a⟩ devices wanted = select ⟨tiers, b⟩ devices wanted := by
  match devices, h with
  | [], _ => rfl
  | [_], _ => rfl
  | _ :: _ :: _, h =>
    simp only [select, selectFrom, partition_congr h, accelerator?_congr h]

end Selector

/-! ## Catalogs of profiled devices -/

namespace Catalog

variable {c : Catalog} {devices : List DeviceId} {d : DeviceId} {table : List (DeviceId × Manifest)}

/-- Whether every family of a catalog is served by a profiled device. -/
def Profiled (c : Catalog) : Prop :=
  ∀ entry ∈ c.families, ∃ (p : DeviceProfile) (name : String), entry.2 = p.service name

/-- A device of a profiled catalog has a profile from which all its metrics are answered, or is
unavailable. -/
theorem Profiled.metric_cases (h : c.Profiled) (d : DeviceId) :
    (∃ p : DeviceProfile, ∀ name, c.metric d name = p.metric d name) ∨
      ∀ name, c.metric d name = .error (.unavailable d) := by
  cases hService : c.serviceFor? d with
  | none =>
    refine Or.inr fun name => ?_
    simp only [metric, ask, hService]
  | some service =>
    obtain ⟨entry, hEntry, rfl⟩ := mem_of_serviceFor? hService
    obtain ⟨p, serviceName, hProfile⟩ := h entry hEntry
    refine Or.inl ⟨p, fun name => ?_⟩
    simp only [metric, ask, hService, hProfile]
    rfl

/-- Without its name, no manifest of a device can be read. -/
theorem manifest_of_fullName_error {e : DeviceError} (h : c.fullName d = .error e) :
    c.manifest d = .error e := by
  rw [manifest, h]

/-- A profiled device that tells its name fails no metric, so its manifest can be read. -/
theorem Profiled.manifest_of_fullName (h : c.Profiled) {name : String} (hName : c.fullName d = .ok name) :
    ∃ m, c.manifest d = .ok m ∧ m.fullName = name := by
  rcases h.metric_cases d with ⟨p, hMetric⟩ | hMetric
  · have hWorks : p.failures.metrics = false := by
      cases hFails : p.failures.metrics with
      | false => rfl
      | true =>
        simp only [fullName, metricText, hMetric, DeviceProfile.metric, hFails, if_true] at hName
        cases hName
    have hTags : c.metricList d MetricName.capabilities = .ok p.capabilities := by
      simp only [metricList, hMetric, DeviceProfile.metric, hWorks]
      rfl
    have hKeys : c.metricList d MetricName.configKeys = .ok p.configKeys := by
      simp only [metricList, hMetric, DeviceProfile.metric, hWorks]
      rfl
    refine ⟨⟨name, .ofList p.capabilities, .ofList p.configKeys⟩, ?_, rfl⟩
    simp only [manifest, hName, hTags, hKeys]
  · simp only [fullName, metricText, hMetric] at hName
    cases hName

/-- The full name of a profiled device is the one in its manifest, and fails where the manifest does. -/
theorem Profiled.toOption_fullName (h : c.Profiled) (d : DeviceId) :
    (c.fullName d).toOption = (c.manifest d).toOption.map Manifest.fullName := by
  cases hName : c.fullName d with
  | error e =>
    rw [manifest_of_fullName_error hName]
    rfl
  | ok name =>
    obtain ⟨m, hManifest, hSame⟩ := h.manifest_of_fullName hName
    rw [hManifest, ← hSame]
    rfl

/-! ## Snapshots -/

/-- Whether a table holds the manifests of exactly those listed devices whose manifest can be read. -/
def SnapshotOf (c : Catalog) (devices : List DeviceId) (table : List (DeviceId × Manifest)) : Prop :=
  ∀ d m, table.lookup d = some m ↔ d ∈ devices ∧ c.manifest d = .ok m

/-- The manifests of the listed devices, as they are read now. -/
def snapshot (c : Catalog) (devices : List DeviceId) : List (DeviceId × Manifest) :=
  devices.filterMap fun d => (c.manifest d).toOption.map fun m => (d, m)

theorem lookup_snapshot (c : Catalog) (devices : List DeviceId) (d : DeviceId) :
    (c.snapshot devices).lookup d = if d ∈ devices then (c.manifest d).toOption else none := by
  induction devices with
  | nil => rfl
  | cons x rest ih =>
    rw [snapshot] at ih ⊢
    -- a repeated device is read again to the same manifest, so it does not matter which entry is found
    by_cases hx : d = x
    · subst hx
      cases hManifest : (c.manifest d).toOption with
      | none => simp [hManifest, ih]
      | some m => simp [hManifest]
    · have hKey : (d == x) = false := beq_eq_false_iff_ne.mpr hx
      cases hManifest : (c.manifest x).toOption with
      | none => simp [hManifest, hx, ih]
      | some m => simp [hManifest, List.lookup_cons, hKey, hx, ih]

theorem toOption_eq_some_iff {ε α : Type} {x : Except ε α} {a : α} :
    x.toOption = some a ↔ x = .ok a := by
  cases x <;> simp [Except.toOption]

theorem snapshotOf_snapshot (c : Catalog) (devices : List DeviceId) :
    c.SnapshotOf devices (c.snapshot devices) := by
  intro d m
  rw [lookup_snapshot]
  by_cases hd : d ∈ devices
  · simp only [hd, if_true, true_and, toOption_eq_some_iff]
  · simp only [hd, if_false, false_and, reduceCtorEq]

theorem SnapshotOf.lookup_eq (h : c.SnapshotOf devices table) (hd : d ∈ devices) :
    table.lookup d = (c.manifest d).toOption := by
  refine Option.ext fun m => ?_
  rw [h d m, toOption_eq_some_iff, and_iff_right hd]

theorem toOption_manifest_ofTable (table : List (DeviceId × Manifest)) (d : DeviceId) :
    ((Lookup.ofTable table).manifest d).toOption = table.lookup d := by
  simp only [Lookup.ofTable]
  cases table.lookup d <;> rfl

theorem toOption_fullName_ofTable (table : List (DeviceId × Manifest)) (d : DeviceId) :
    ((Lookup.ofTable table).fullName d).toOption = (table.lookup d).map Manifest.fullName := by
  simp only [Lookup.ofTable]
  cases table.lookup d <;> rfl

/-- A snapshot of a profiled catalog answers as the catalog does, for the listed devices. -/
theorem SnapshotOf.agreeOn (h : c.SnapshotOf devices table) (hProfiled : c.Profiled) :
    c.lookup.AgreeOn devices (.ofTable table) where
  fullName d hd := by
    rw [toOption_fullName_ofTable, h.lookup_eq hd]
    exact hProfiled.toOption_fullName d
  manifest d hd := by
    rw [toOption_manifest_ofTable, h.lookup_eq hd]
    rfl

end Catalog

/-- A snapshot stands for the catalog.  For every catalog of profiled devices there are tables that hold the
manifests of exactly those listed devices whose manifest can be read, and over each of them the devices are
split into the same tiers and the same one is chosen, for every precision, as over the catalog itself. -/
theorem Selector.choice_over_snapshot {c : Catalog} (hProfiled : c.Profiled) (tiers : TierTable)
    (devices : List DeviceId) :
    c.SnapshotOf devices (c.snapshot devices) ∧
    ∀ table, c.SnapshotOf devices table →
      partition ⟨tiers, c.lookup⟩ devices = partition ⟨tiers, .ofTable table⟩ devices ∧
      ∀ wanted, select ⟨tiers, c.lookup⟩ devices wanted = select ⟨tiers, .ofTable table⟩ devices wanted := by
  refine ⟨c.snapshotOf_snapshot devices, fun table hTable => ?_⟩
  have hAgree := hTable.agreeOn hProfiled
  exact ⟨partition_congr hAgree, fun wanted => select_congr hAgree wanted⟩

/-- The catalog of a processor, of an accelerator that fails all metrics and of one with two members. -/
def faultyCatalog : Catalog where
  families :=
    [(⟨"CPU"⟩, (DeviceProfile.named "Host").service "CPU"),
      (⟨"GPU.1"⟩, ((DeviceProfile.named "Faulty (dGPU)").withPrecision .fp32).failingMetrics.service "faulty"),
      (⟨"GPU"⟩,
        (((DeviceProfile.named "Integrated (iGPU)").withPrecision .fp16).withIndices ["0", "1"]).service "GPU")]
  groups := .empty

/-- The table leaves out the accelerator that fails and the device that is not registered; for FP32 the one
with FP16 is chosen over both. -/
theorem Selector.choice_over_snapshot_faulty :
    let devices : List DeviceId := [⟨"GPU.1"⟩, ⟨"FPGA"⟩, ⟨"CPU"⟩, ⟨"GPU.0"⟩]
    faultyCatalog.Profiled ∧
    (faultyCatalog.snapshot devices).map Prod.fst = [⟨"CPU"⟩, ⟨"GPU.0"⟩] ∧
    select ⟨.standard, faultyCatalog.lookup⟩ devices (some .fp32) =
      select ⟨.standard, .ofTable (faultyCatalog.snapshot devices)⟩ devices (some .fp32) ∧
    select ⟨.standard, faultyCatalog.lookup⟩ devices (some .fp32) = .ok ⟨"GPU.0"⟩ := by
  intro devices
  have hProfiled : faultyCatalog.Profiled := by
    intro entry hEntry
    simp only [faultyCatalog, List.mem_cons, List.not_mem_nil, or_false] at hEntry
    rcases hEntry with rfl | rfl | rfl <;> exact ⟨_, _, rfl⟩
  have hChoice := choice_over_snapshot hProfiled .standard devices
  exact ⟨hProfiled, by decide +kernel, (hChoice.2 _ hChoice.1).2 _, by decide +kernel⟩

end TieredDispatch
