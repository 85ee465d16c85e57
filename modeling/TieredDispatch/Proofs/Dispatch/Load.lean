import TieredDispatch.Device.Profile
import TieredDispatch.Dispatcher
import TieredDispatch.Proofs.Selection.Tiers

/-!
# What a load comes to

A load that passes its checks and finds a device to choose starts the task of the first listed
processor, and the task of the chosen device unless that is a processor.  A list from which nothing
is chosen has no processor, so the processor's task, which is started before the choice, is never
left behind.

* `Dispatcher.load_of_selected`: the workload of a load that chose a device.
* `Dispatcher.load_of_refused`: a load that chose none has started nothing.
* `Dispatcher.started_of_load_error`: neither has any other load that failed.
* `Dispatcher.started_of_load`: one that succeeds has started a task for each of its slots, and no other.
* `Dispatcher.load_config_error_iff`: when a load is refused for its settings.
* `Dispatcher.load_agrees_with_select`: a load succeeds where a choice does, on the devices chosen.
-/

namespace TieredDispatch.Dispatcher

variable {d : Dispatcher} {model : ModelSource} {config : Config}

/-! ## The checks -/

/-- The class that a load wants: that of a graph, or any for a file. -/
def wantedFor (model : ModelSource) : Option Precision :=
  model.graph?.map Graph.precision

theorem attached_of_catalog {c : Catalog} (h : d.catalog = some c) : d.attached = .ok c := by
  rw [attached, h]

theorem listDevices_error {c : Catalog} {e : DispatchError} (h : c.listDevices config = .error e) :
    e = .noDevicesAvailable := by
  have hNone : ∀ devices : List DeviceId,
      (if devices.isEmpty then Except.error DispatchError.noDevicesAvailable else .ok devices) =
        .error e → e = .noDevicesAvailable := by
    intro devices hEmpty
    split at hEmpty
    · cases hEmpty
      rfl
    · cases hEmpty
  exact hNone _ h

/-- With a catalog and a usable model, the settings are checked next and the devices listed last. -/
theorem prepare_eq {c : Catalog} (hCatalog : d.catalog = some c) (hInput : checkInput model = .ok ()) :
    d.prepare model config =
      match (d.stored.merge config).validate with
      | .error e => .error (.config e)
      | .ok () => (c.listDevices (d.stored.merge config)).map fun devices =>
          ⟨c, d.stored.merge config, devices⟩ := by
  cases hConfig : (d.stored.merge config).validate with
  | error e => simp only [prepare, attached_of_catalog hCatalog, hInput, hConfig, bind, Except.bind]
  | ok u =>
    simp only [prepare, attached_of_catalog hCatalog, hInput, hConfig, bind, Except.bind]
    cases c.listDevices (d.stored.merge config) <;> rfl

theorem prepare_of_checks {c : Catalog} {devices : List DeviceId} (hCatalog : d.catalog = some c)
    (hInput : checkInput model = .ok ()) (hConfig : (d.stored.merge config).validate = .ok ())
    (hDevices : c.listDevices (d.stored.merge config) = .ok devices) :
    d.prepare model config = .ok ⟨c, d.stored.merge config, devices⟩ := by
  rw [prepare_eq hCatalog hInput, hConfig, hDevices]
  rfl

/-! ## The choice -/

/-- The workload of a load that chose a device. -/
def workloadOn (d : Dispatcher) (model : ModelSource) (r : Request) (selected : DeviceId) :
    Workload where
  processor := (r.devices.find? d.tiers.isProcessor).map fun p => Slot.spawn .processor p model
  accelerator :=
    if d.tiers.isProcessor selected then none else some (Slot.spawn .accelerator selected model)
  perfCount := r.config.perfCount

theorem accelerator_workloadOn (d : Dispatcher) (model : ModelSource) (r : Request)
    (selected : DeviceId) :
    (d.workloadOn model r selected).accelerator =
      (if d.tiers.isProcessor selected then none else some selected).map fun a =>
        Slot.spawn .accelerator a model := by
  rw [workloadOn]
  split <;> rfl

theorem load_of_not_prepared {e : DispatchError} (h : d.prepare model config = .error e) :
    d.load model config = ([], .error e) := by
  rw [load, h]

/-- A load that chose no device has not started the processor's task either. -/
theorem load_of_refused {r : Request} {e : SelectError} (hPrepare : d.prepare model config = .ok r)
    (hSelect : (d.selector r.catalog).select r.devices (wantedFor model) = .error e) :
    d.load model config = ([], .error (.selection e)) := by
  have hNone : r.devices.find? d.tiers.isProcessor = none := by
    rw [List.find?_eq_none]
    intro p hp hProcessor
    obtain ⟨x, hx⟩ := Selector.exists_select (d.selector r.catalog) hp hProcessor (wantedFor model)
    rw [hSelect] at hx
    cases hx
  simp only [wantedFor] at hSelect
  simp only [load, hPrepare, hSelect, hNone, Option.map_none, Option.toList_none]

theorem load_of_selected {r : Request} {x : DeviceId} (hPrepare : d.prepare model config = .ok r)
    (hSelect : (d.selector r.catalog).select r.devices (wantedFor model) = .ok x) :
    d.load model config =
      ((d.workloadOn model r x).processor.toList ++ (d.workloadOn model r x).accelerator.toList,
        .ok (d.workloadOn model r x)) := by
  have hChosen := (Selector.of_select hSelect).2
  -- a chosen processor is the first of the list, so one of the two tasks is there
  have hStarted : ((d.workloadOn model r x).processor.toList ++
      (d.workloadOn model r x).accelerator.toList).isEmpty = false := by
    by_cases hp : d.tiers.isProcessor x = true
    · simp [workloadOn, show r.devices.find? d.tiers.isProcessor = some x from hChosen hp]
    · simp [workloadOn, hp]
  simp only [wantedFor] at hSelect
  simp only [workloadOn] at hStarted ⊢
  simp only [load, hPrepare, hSelect, hStarted, Bool.false_eq_true, if_false]

/-- The three ways in which a load goes. -/
theorem load_cases (d : Dispatcher) (model : ModelSource) (config : Config) :
    (∃ e, d.prepare model config = .error e ∧ d.load model config = ([], .error e)) ∨
    (∃ r e, d.prepare model config = .ok r ∧
      (d.selector r.catalog).select r.devices (wantedFor model) = .error e ∧
      d.load model config = ([], .error (.selection e))) ∨
    (∃ r x, d.prepare model config = .ok r ∧
      (d.selector r.catalog).select r.devices (wantedFor model) = .ok x ∧
      d.load model config =
        ((d.workloadOn model r x).processor.toList ++ (d.workloadOn model r x).accelerator.toList,
          .ok (d.workloadOn model r x))) := by
  cases hPrepare : d.prepare model config with
  | error e => exact Or.inl ⟨e, rfl, load_of_not_prepared hPrepare⟩
  | ok r =>
    cases hSelect : (d.selector r.catalog).select r.devices (wantedFor model) with
    | error e => exact Or.inr (Or.inl ⟨r, e, rfl, hSelect, load_of_refused hPrepare hSelect⟩)
    | ok x => exact Or.inr (Or.inr ⟨r, x, rfl, hSelect, load_of_selected hPrepare hSelect⟩)

/-- A load that fails has started no task. -/
theorem started_of_load_error {e : DispatchError} (h : (d.load model config).2 = .error e) :
    (d.load model config).1 = [] := by
  rcases load_cases d model config with ⟨_, -, hLoad⟩ | ⟨_, _, -, -, hLoad⟩ | ⟨_, _, -, -, hLoad⟩
  · rw [hLoad]
  · rw [hLoad]
  · rw [hLoad] at h
    cases h

/-- A load that succeeds has passed its checks and chosen a device, for which its workload was made. -/
theorem exists_workloadOn_of_load {w : Workload} (h : (d.load model config).2 = .ok w) :
    ∃ r x, d.prepare model config = .ok r ∧ w = d.workloadOn model r x ∧
      (d.load model config).1 = w.processor.toList ++ w.accelerator.toList := by
  rcases load_cases d model config with ⟨_, -, hLoad⟩ | ⟨_, _, -, -, hLoad⟩ | ⟨r, x, hPrepare, -, hLoad⟩
  · rw [hLoad] at h
    cases h
  · rw [hLoad] at h
    cases h
  · rw [hLoad] at h ⊢
    cases h
    exact ⟨r, x, hPrepare, rfl, rfl⟩

/-- A load that succeeds has started one task for each slot of its workload, the processor's first. -/
theorem started_of_load {w : Workload} (h : (d.load model config).2 = .ok w) :
    (d.load model config).1 = w.processor.toList ++ w.accelerator.toList := by
  obtain ⟨_, _, -, -, hStarted⟩ := exists_workloadOn_of_load h
  exact hStarted

/-- With a catalog and a usable model, a load is refused for its settings exactly when the merged
settings are, and with their error. -/
theorem load_config_error_iff {c : Catalog} (hCatalog : d.catalog = some c)
    (hInput : checkInput model = .ok ()) (e : InputError) :
    (d.load model config).2 = .error (.config e) ↔ (d.stored.merge config).validate = .error e := by
  have hPrepare := @prepare_eq d model config c hCatalog hInput
  cases hConfig : (d.stored.merge config).validate with
  | error e' =>
    rw [hConfig] at hPrepare
    rw [load_of_not_prepared hPrepare]
    simp
  | ok u =>
    rw [hConfig] at hPrepare
    refine iff_of_false ?_ (by simp)
    cases hDevices : c.listDevices (d.stored.merge config) with
    | error e' =>
      rw [hDevices] at hPrepare
      rw [load_of_not_prepared hPrepare, listDevices_error hDevices]
      simp
    | ok devices =>
      rcases load_cases d model config with ⟨_, hNot, -⟩ | ⟨_, _, -, -, hLoad⟩ | ⟨_, _, -, -, hLoad⟩
      · rw [hPrepare, hDevices] at hNot
        cases hNot
      · rw [hLoad]
        simp
      · rw [hLoad]
        simp

/-- A load knows its catalog by the devices that it lists and the manifests that it reads. -/
theorem load_congr (tiers : TierTable) (stored : Config) {c c' : Catalog}
    (hDevices : c'.listDevices = c.listDevices) (hLookup : c'.lookup = c.lookup) (model : ModelSource)
    (config : Config) :
    load ⟨tiers, stored, some c'⟩ model config = load ⟨tiers, stored, some c⟩ model config := by
  cases hInput : checkInput model with
  | error e =>
    have hPrepare : ∀ x : Catalog, prepare ⟨tiers, stored, some x⟩ model config = .error e := by
      intro x
      simp only [prepare, attached, hInput, bind, Except.bind]
    rw [load_of_not_prepared (hPrepare c), load_of_not_prepared (hPrepare c')]
  | ok u =>
    rw [load, load, prepare_eq rfl hInput, prepare_eq rfl hInput, hDevices]
    cases (stored.merge config).validate with
    | error e => rfl
    | ok u =>
      cases c.listDevices (stored.merge config) with
      | error e => rfl
      | ok devices =>
        simp only [Except.map, selector, hLookup]

/-! ## The devices of a workload -/

/-- Where the slots of a workload are, if it was made for `selected` out of `devices`. -/
structure Placed (t : TierTable) (devices : List DeviceId) (selected : DeviceId) (w : Workload) :
    Prop where
  /-- The processor slot is on the first listed processor, and there only if there is one. -/
  processor_device : w.processor.map Slot.device = devices.find? t.isProcessor
  /-- The accelerator slot is on the chosen device, and there only if that is no processor. -/
  accelerator_device :
    w.accelerator.map Slot.device = if t.isProcessor selected then none else some selected
  /-- A chosen processor is the device of the processor slot. -/
  processor_of_selected : t.isProcessor selected = true → w.processor.map Slot.device = some selected
  slots_ne_nil : w.slots ≠ []
  /-- No accelerator slot is on a processor. -/
  accelerator_tier : ∀ a, w.accelerator = some a → t.isProcessor a.device = false
  /-- The two slots are on different devices. -/
  distinct : ∀ p a, w.processor = some p → w.accelerator = some a → p.device ≠ a.device

/-- A workload whose slots are on the first processor and on a chosen accelerator is well placed, if a
chosen processor is that first one. -/
theorem Placed.of_devices {t : TierTable} {devices : List DeviceId} {selected : DeviceId}
    {w : Workload} (hProcessor : w.processor.map Slot.device = devices.find? t.isProcessor)
    (hAccelerator :
      w.accelerator.map Slot.device = if t.isProcessor selected then none else some selected)
    (hSelected : t.isProcessor selected = true → devices.find? t.isProcessor = some selected) :
    Placed t devices selected w := by
  have hTier : ∀ a, w.accelerator = some a → t.isProcessor a.device = false := by
    intro a ha
    rw [ha, Option.map_some] at hAccelerator
    split at hAccelerator
    · cases hAccelerator
    · next hNot =>
      rw [Option.some.injEq] at hAccelerator
      rw [hAccelerator]
      exact Bool.eq_false_iff.mpr hNot
  refine ⟨hProcessor, hAccelerator, fun h => hProcessor.trans (hSelected h), ?_, hTier, ?_⟩
  · intro hNil
    obtain ⟨hNoAccelerator, hNoProcessor⟩ := List.append_eq_nil_iff.mp hNil
    rw [Option.toList_eq_nil_iff] at hNoAccelerator hNoProcessor
    rw [hNoAccelerator, Option.map_none] at hAccelerator
    split at hAccelerator
    · next h =>
      rw [hNoProcessor, hSelected h] at hProcessor
      cases hProcessor
    · cases hAccelerator
  · intro p a hp ha he
    rw [hp, Option.map_some] at hProcessor
    have hp' := List.find?_some hProcessor.symm
    rw [he, hTier a ha] at hp'
    cases hp'

theorem placed_workloadOn {r : Request} {x : DeviceId}
    (hSelect : (d.selector r.catalog).select r.devices (wantedFor model) = .ok x) :
    Placed d.tiers r.devices x (d.workloadOn model r x) := by
  refine .of_devices ?_ ?_ (Selector.of_select hSelect).2
  · simp only [workloadOn, Option.map_map]
    exact Option.map_id'
  · rw [accelerator_workloadOn, Option.map_map]
    exact Option.map_id'

theorem mapError_error {ε δ α : Type} (f : ε → δ) (e : ε) :
    (Except.error e : Except ε α).mapError f = .error (f e) := rfl

theorem mapError_ok {ε δ α : Type} (f : ε → δ) (a : α) :
    (Except.ok a : Except ε α).mapError f = .ok a := rfl

theorem select_of_attached {c : Catalog} (hCatalog : d.catalog = some c) (devices : List DeviceId)
    (wanted : Option Precision) :
    d.select devices wanted = ((d.selector c).select devices wanted).mapError .selection := by
  simp only [select, attached_of_catalog hCatalog]
  cases (d.selector c).select devices wanted <;> rfl

/-- A load and a choice agree.  Over the devices that a load with valid settings lists, the load
succeeds exactly when the choice does, fails with the very error of the choice otherwise, and puts
its slots on the first processor and on the chosen device. -/
theorem load_agrees_with_select {c : Catalog} {devices : List DeviceId}
    (hCatalog : d.catalog = some c) (hInput : checkInput model = .ok ())
    (hConfig : (d.stored.merge config).validate = .ok ())
    (hDevices : c.listDevices (d.stored.merge config) = .ok devices) :
    ((∃ w, (d.load model config).2 = .ok w) ↔ ∃ x, d.select devices (wantedFor model) = .ok x) ∧
    (∀ e, (d.load model config).2 = .error e ↔ d.select devices (wantedFor model) = .error e) ∧
    (∀ e, d.select devices (wantedFor model) = .error e → ∃ s, e = .selection s) ∧
    (∀ w x, (d.load model config).2 = .ok w → d.select devices (wantedFor model) = .ok x →
      Placed d.tiers devices x w) ∧
    (d.load model config).2 ≠ .error .noCompileTarget := by
  have hPrepare := prepare_of_checks hCatalog hInput hConfig hDevices
  rw [select_of_attached hCatalog]
  cases hSelect : (d.selector c).select devices (wantedFor model) with
  | error e =>
    rw [load_of_refused hPrepare hSelect]
    simp [mapError_error]
  | ok x =>
    rw [load_of_selected hPrepare hSelect]
    have hPlaced := placed_workloadOn (r := ⟨c, d.stored.merge config, devices⟩) hSelect
    simp [mapError_ok, hPlaced]

/-- The catalog of a processor and of two accelerators of one family, the second of which stands in a
list before the processor. -/
def pairCatalog : Catalog :=
  (Catalog.empty.register ⟨"CPU"⟩ ((DeviceProfile.named "Host").service "CPU")).register ⟨"GPU"⟩
    ((((DeviceProfile.named "Discrete (dGPU)").withPrecision .fp16).withIndices ["0", "1"]).service
      "GPU")

/-- The dispatcher of these devices, with a stored list of them. -/
def pairDispatcher : Dispatcher :=
  ⟨.standard, .ofList [(Config.deviceListKey, "GPU.1,CPU,GPU.0")], some pairCatalog⟩

/-- A graph of class FP32 runs on the first listed accelerator, which has FP16, and on the processor. -/
theorem load_agrees_with_select_pair :
    ∃ w, (pairDispatcher.load (.graph ⟨"g", [⟨"op", "Relu", []⟩]⟩) .empty).2 = .ok w ∧
      Placed .standard [⟨"GPU.1"⟩, ⟨"CPU"⟩, ⟨"GPU.0"⟩] ⟨"GPU.1"⟩ w := by
  have hAgree := @load_agrees_with_select pairDispatcher (.graph ⟨"g", [⟨"op", "Relu", []⟩]⟩) .empty
    pairCatalog [⟨"GPU.1"⟩, ⟨"CPU"⟩, ⟨"GPU.0"⟩] rfl rfl rfl rfl
  obtain ⟨w, hLoad⟩ := hAgree.1.mpr ⟨⟨"GPU.1"⟩, rfl⟩
  exact ⟨w, hLoad, hAgree.2.2.2.1 w _ hLoad rfl⟩

end TieredDispatch.Dispatcher
