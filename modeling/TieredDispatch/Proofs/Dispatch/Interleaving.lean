import TieredDispatch.Proofs.Dispatch.Refusals
import TieredDispatch.Proofs.Selection.Snapshot

/-!
# Lists that mix the tiers differently

How the tiers of a list are mixed, and which devices without a tier stand between them, is lost in a
partition.  The first processor is looked for in the list itself, but it is the first device of its tier all
the same.  So of a list with at least two devices a load uses no more than the sequence of each tier.  A
list with a single device is another matter, as that device is chosen whether it has a tier or not.

* `Selector.SameTiers`: lists that have the same sequence of devices for each tier.
* `Selector.SameTiers.partition_eq`, `Selector.SameTiers.find?_isProcessor`: what such lists share.
* `Dispatcher.load_by_tiers`: choices and loads over such lists come to the same.
-/

namespace TieredDispatch

namespace Selector

variable {s : Selector} {devices devices' : List DeviceId}

/-- Whether two lists have the same devices of each tier, in the same order and as often; devices without a
tier do not count. -/
def SameTiers (s : Selector) (devices devices' : List DeviceId) : Prop :=
  ∀ t, (devices.filter fun d => decide (s.InTier d t)) = devices'.filter fun d => decide (s.InTier d t)

theorem members_partition_inTier (s : Selector) (devices : List DeviceId) (t : Tier) :
    (s.partition devices).members t = devices.filter fun d => decide (s.InTier d t) := by
  rw [members_partition]
  exact List.filter_congr fun d _ => decide_eq_decide.mpr tierOf?_eq_some_iff

namespace SameTiers

theorem partition_eq (h : s.SameTiers devices devices') : s.partition devices = s.partition devices' := by
  refine Partition.ext_members fun t => ?_
  rw [members_partition_inTier, members_partition_inTier, h t]

/-- The first processor of a list is the first device of its tier. -/
theorem find?_isProcessor (h : s.SameTiers devices devices') :
    devices.find? s.tiers.isProcessor = devices'.find? s.tiers.isProcessor := by
  rw [← head?_processor_partition, ← head?_processor_partition, h.partition_eq]

theorem select_eq (h : s.SameTiers devices devices') (hTwo : 2 ≤ devices.length)
    (hTwo' : 2 ≤ devices'.length) (wanted : Option Precision) :
    s.select devices wanted = s.select devices' wanted := by
  rw [select_of_two_le hTwo, select_of_two_le hTwo', h.partition_eq]

end SameTiers

end Selector

/-- The slots of a workload, each in its place. -/
def Workload.bothSlots (w : Workload) : Option Slot × Option Slot :=
  (w.processor, w.accelerator)

namespace Dispatcher

variable {d : Dispatcher} {model : ModelSource} {config : Config} {c : Catalog}
  {devices devices' : List DeviceId}

/-- The slots of the workload that is made for a chosen device are told by the tiers, the first processor, the
chosen device and the model. -/
theorem bothSlots_workloadOn (t : TierTable) (stored stored' : Config) (a : Option Catalog)
    (model : ModelSource) (r r' : Request) (x : DeviceId)
    (h : r.devices.find? t.isProcessor = r'.devices.find? t.isProcessor) :
    (workloadOn ⟨t, stored, a⟩ model r x).bothSlots = (workloadOn ⟨t, stored', a⟩ model r' x).bothSlots := by
  simp only [Workload.bothSlots, workloadOn, h]

/-- A load with valid settings and a usable model that has listed its devices fails with the error of the
choice only. -/
theorem selection_of_load_error {e : DispatchError} (hCatalog : d.catalog = some c)
    (hInput : checkInput model = .ok ()) (hConfig : (d.stored.merge config).validate = .ok ())
    (hDevices : c.listDevices (d.stored.merge config) = .ok devices)
    (h : (d.load model config).2 = .error e) : ∃ s, e = .selection s := by
  rw [load_eq hCatalog hInput hConfig, hDevices] at h
  simp only at h
  split at h
  · cases h
    exact ⟨_, rfl⟩
  · cases h

theorem load_eq_of_sameTiers (t : TierTable) {stored stored' config config' : Config}
    (hValid : (stored.merge config).validate = .ok ())
    (hValid' : (stored'.merge config').validate = .ok ())
    (hDevices : c.listDevices (stored.merge config) = .ok devices)
    (hDevices' : c.listDevices (stored'.merge config') = .ok devices')
    (hTwo : 2 ≤ devices.length) (hTwo' : 2 ≤ devices'.length)
    (hSame : Selector.SameTiers ⟨t, c.lookup⟩ devices devices') (model : ModelSource) :
    (load ⟨t, stored, some c⟩ model config).1 = (load ⟨t, stored', some c⟩ model config').1 ∧
    (load ⟨t, stored, some c⟩ model config).2.map Workload.bothSlots =
      (load ⟨t, stored', some c⟩ model config').2.map Workload.bothSlots := by
  cases hInput : checkInput model with
  | error e =>
    have hRefused : ∀ stored config, load ⟨t, stored, some c⟩ model config = ([], .error e) :=
      fun stored config => load_of_input_error rfl hInput
    simp only [hRefused, and_self]
  | ok u =>
    rw [load_eq rfl hInput hValid, load_eq rfl hInput hValid', hDevices, hDevices']
    simp only [selector, hSame.select_eq hTwo hTwo' (wantedFor model)]
    cases Selector.select ⟨t, c.lookup⟩ devices' (wantedFor model) with
    | error e => exact ⟨rfl, rfl⟩
    | ok x =>
      have hSlots := bothSlots_workloadOn t stored stored' (some c) model
        ⟨c, stored.merge config, devices⟩ ⟨c, stored'.merge config', devices'⟩ x hSame.find?_isProcessor
      obtain ⟨hProcessor, hAccelerator⟩ := Prod.mk.inj hSlots
      exact ⟨by simp only [hProcessor, hAccelerator], congrArg Except.ok hSlots⟩

/-- A load uses no more of a list than the sequence of each tier.  Any two lists of at least two devices that
have these in common have the same first processor, and the same device is chosen from them, or none for the
same reason.  And two loads that list such devices start the same slots on the same devices, or fail with one
error, which is that of the choice unless the model cannot be used at all. -/
theorem load_by_tiers (t : TierTable) (c : Catalog) :
    (∀ devices devices' : List DeviceId, 2 ≤ devices.length → 2 ≤ devices'.length →
      Selector.SameTiers ⟨t, c.lookup⟩ devices devices' →
      devices.find? t.isProcessor = devices'.find? t.isProcessor ∧
      ∀ wanted, Selector.select ⟨t, c.lookup⟩ devices wanted =
        Selector.select ⟨t, c.lookup⟩ devices' wanted) ∧
    (∀ (stored stored' config config' : Config) (devices devices' : List DeviceId),
      (stored.merge config).validate = .ok () → (stored'.merge config').validate = .ok () →
      c.listDevices (stored.merge config) = .ok devices →
      c.listDevices (stored'.merge config') = .ok devices' →
      2 ≤ devices.length → 2 ≤ devices'.length → Selector.SameTiers ⟨t, c.lookup⟩ devices devices' →
      ∀ model : ModelSource,
        (load ⟨t, stored, some c⟩ model config).1 = (load ⟨t, stored', some c⟩ model config').1 ∧
        (load ⟨t, stored, some c⟩ model config).2.map Workload.bothSlots =
          (load ⟨t, stored', some c⟩ model config').2.map Workload.bothSlots ∧
        (checkInput model = .ok () → ∀ e, (load ⟨t, stored, some c⟩ model config).2 = .error e →
          ∃ s, e = .selection s)) := by
  constructor
  · intro devices devices' hTwo hTwo' hSame
    exact ⟨hSame.find?_isProcessor, hSame.select_eq hTwo hTwo'⟩
  · intro stored stored' config config' devices devices' hValid hValid' hDevices hDevices' hTwo hTwo' hSame
      model
    obtain ⟨hStarted, hSlots⟩ :=
      load_eq_of_sameTiers t hValid hValid' hDevices hDevices' hTwo hTwo' hSame model
    refine ⟨hStarted, hSlots, ?_⟩
    intro hInput e hError
    exact selection_of_load_error rfl hInput hValid hDevices hError

/-- The accelerators keep their order when the processor moves behind them and two devices without a tier are
put between; the load of the pair starts the same slots. -/
theorem load_by_tiers_mixed :
    let mixed : Config := .ofList [(Config.deviceListKey, "FPGA,GPU.1,GPU.0,XPU,CPU")]
    (pairDispatcher.load (.path "m") .empty).1 = (pairDispatcher.load (.path "m") mixed).1 ∧
    (pairDispatcher.load (.path "m") .empty).1.map Slot.device = [⟨"CPU"⟩, ⟨"GPU.1"⟩] ∧
    (pairDispatcher.load (.path "m") .empty).2.map Workload.bothSlots =
      (pairDispatcher.load (.path "m") mixed).2.map Workload.bothSlots := by
  intro mixed
  have hSame : Selector.SameTiers ⟨.standard, pairCatalog.lookup⟩ [⟨"GPU.1"⟩, ⟨"CPU"⟩, ⟨"GPU.0"⟩]
      [⟨"FPGA"⟩, ⟨"GPU.1"⟩, ⟨"GPU.0"⟩, ⟨"XPU"⟩, ⟨"CPU"⟩] := by
    intro t
    cases t <;> decide +kernel
  have hLoads := (load_by_tiers .standard pairCatalog).2 pairDispatcher.stored pairDispatcher.stored .empty
    mixed _ _ rfl rfl rfl rfl (by decide) (by decide) hSame (.path "m")
  exact ⟨hLoads.1, by decide +kernel, hLoads.2.1⟩

/-- A single device is chosen although it has no tier, but not beside another one without a tier. -/
example :
    let s : Selector := ⟨.standard, pairCatalog.lookup⟩
    s.SameTiers [⟨"FPGA"⟩] [⟨"FPGA"⟩, ⟨"XPU"⟩] ∧ s.select [⟨"FPGA"⟩] none = .ok ⟨"FPGA"⟩ ∧
    s.select [⟨"FPGA"⟩, ⟨"XPU"⟩] none = .error (.notFound "No available device found") :=
  ⟨fun t => by cases t <;> decide +kernel, rfl, by decide +kernel⟩

end Dispatcher

end TieredDispatch
