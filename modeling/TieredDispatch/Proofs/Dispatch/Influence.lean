import TieredDispatch.Device.Script
import TieredDispatch.Proofs.Config.Merge
import TieredDispatch.Proofs.Dispatch.Load

/-!
# What a load depends on

Over a given catalog and a given tier table, a load reads the list of devices from its settings and the
precision class from its model.  Whatever else is set, and whatever else the model is made of, changes
neither the devices of its slots nor its error; the compiles that it starts are given no settings at all;
and of the toggle for performance counters only the presence is read.

* `ModelSource.Alike`: models that a load does not tell apart.
* `Dispatcher.load_eq`: a load with valid settings and a usable model, in terms of what it reads.
* `Dispatcher.SameLoad`: whether two loads come to the same.
* `Dispatcher.load_reads_list_and_class`: a load reads nothing else.
-/

namespace TieredDispatch

/-- Whether a load does not tell two models apart: both are files, or both are graphs of one precision
class, and none of them is empty. -/
inductive ModelSource.Alike : ModelSource → ModelSource → Prop
  | paths {p q : String} : p ≠ "" → q ≠ "" → Alike (.path p) (.path q)
  | graphs {g h : Graph} : g.ops ≠ [] → h.ops ≠ [] → g.precision = h.precision →
      Alike (.graph g) (.graph h)

/-- The devices that a request considers are read from its list of devices alone. -/
theorem Catalog.listDevices_congr (c : Catalog) {a b : Config} (h : a.deviceList? = b.deviceList?) :
    c.listDevices a = c.listDevices b := by
  rw [listDevices, listDevices, h]

namespace Dispatcher

variable {d : Dispatcher} {model model' : ModelSource} {config : Config}

theorem checkInput_path {p : String} (h : p ≠ "") : checkInput (.path p) = .ok () := by
  rw [checkInput, if_neg]
  simpa using h

theorem checkInput_graph {g : Graph} (h : g.ops ≠ []) : checkInput (.graph g) = .ok () := by
  rw [checkInput, if_neg]
  simpa using h

theorem checkInput_of_alike (h : model.Alike model') :
    checkInput model = .ok () ∧ checkInput model' = .ok () := by
  cases h with
  | paths hp hq => exact ⟨checkInput_path hp, checkInput_path hq⟩
  | graphs hg hh _ => exact ⟨checkInput_graph hg, checkInput_graph hh⟩

theorem wantedFor_of_alike (h : model.Alike model') : wantedFor model = wantedFor model' := by
  cases h with
  | paths _ _ => rfl
  | graphs _ _ hClass => exact congrArg some hClass

theorem load_of_not_attached (h : d.catalog = none) : d.load model config = ([], .error .notConfigured) := by
  have hAttached : d.attached = .error .notConfigured := by rw [attached, h]
  refine load_of_not_prepared ?_
  simp only [prepare, hAttached, bind, Except.bind]

/-- A load with valid settings and a usable model, in terms of what it reads. -/
theorem load_eq {c : Catalog} (hCatalog : d.catalog = some c) (hInput : checkInput model = .ok ())
    (hConfig : (d.stored.merge config).validate = .ok ()) :
    d.load model config =
      match c.listDevices (d.stored.merge config) with
      | .error e => ([], .error e)
      | .ok devices =>
        match (d.selector c).select devices (wantedFor model) with
        | .error e => ([], .error (.selection e))
        | .ok x =>
          let w := d.workloadOn model ⟨c, d.stored.merge config, devices⟩ x
          (w.processor.toList ++ w.accelerator.toList, .ok w) := by
  cases hDevices : c.listDevices (d.stored.merge config) with
  | error e =>
    refine load_of_not_prepared ?_
    rw [prepare_eq hCatalog hInput, hConfig, hDevices]
    rfl
  | ok devices =>
    have hPrepare := prepare_of_checks hCatalog hInput hConfig hDevices
    cases hSelect : (d.selector c).select devices (wantedFor model) with
    | error e =>
      simp only [hSelect]
      exact load_of_refused hPrepare hSelect
    | ok x =>
      simp only [hSelect]
      exact load_of_selected hPrepare hSelect

/-- Whether two loads, each with the tasks that it has started, come to the same: both fail with one error
and have started nothing, or they have their slots in the same places and on the same devices. -/
inductive SameLoad : List Slot × Except DispatchError Workload →
    List Slot × Except DispatchError Workload → Prop
  | failed (e : DispatchError) : SameLoad ([], .error e) ([], .error e)
  | placed {started started' : List Slot} {w w' : Workload} :
      (∀ kind, (w.slot? kind).map Slot.device = (w'.slot? kind).map Slot.device) →
      (started.map fun x => (x.kind, x.device)) = (started'.map fun x => (x.kind, x.device)) →
      SameLoad (started, .ok w) (started', .ok w')

theorem sameLoad_workloadOn (t : TierTable) (stored stored' : Config) (c : Option Catalog)
    (model model' : ModelSource) (r r' : Request) (h : r.devices = r'.devices) (x : DeviceId) :
    let w := workloadOn ⟨t, stored, c⟩ model r x
    let w' := workloadOn ⟨t, stored', c⟩ model' r' x
    SameLoad (w.processor.toList ++ w.accelerator.toList, .ok w)
      (w'.processor.toList ++ w'.accelerator.toList, .ok w') := by
  simp only [workloadOn, h]
  cases r'.devices.find? t.isProcessor <;> cases t.isProcessor x <;>
    exact .placed (fun kind => by cases kind <;> rfl) rfl

/-- A load that reads the same list of devices, and a model of the same class, comes to the same. -/
theorem sameLoad_of_alike (t : TierTable) (c : Option Catalog) {stored stored' config config' : Config}
    (hValid : (stored.merge config).validate = .ok ())
    (hValid' : (stored'.merge config').validate = .ok ())
    (hList : (stored.merge config).deviceList? = (stored'.merge config').deviceList?)
    (hModels : model.Alike model') :
    SameLoad (load ⟨t, stored, c⟩ model config) (load ⟨t, stored', c⟩ model' config') := by
  cases c with
  | none =>
    rw [load_of_not_attached rfl, load_of_not_attached rfl]
    exact .failed .notConfigured
  | some c =>
    obtain ⟨hInput, hInput'⟩ := checkInput_of_alike hModels
    rw [load_eq rfl hInput hValid, load_eq rfl hInput' hValid', c.listDevices_congr hList,
      wantedFor_of_alike hModels]
    cases c.listDevices (stored'.merge config') with
    | error e => exact .failed e
    | ok devices =>
      simp only [selector]
      cases Selector.select ⟨t, c.lookup⟩ devices (wantedFor model') with
      | error e => exact .failed (.selection e)
      | ok x =>
        exact sameLoad_workloadOn t stored stored' (some c) model model' ⟨c, stored.merge config, devices⟩
          ⟨c, stored'.merge config', devices⟩ rfl x

/-- A task that a load has started asks for the model of the load, and gives no settings. -/
theorem task_of_mem_load {x : Slot} (h : x ∈ (d.load model config).1) : x.task = .queued model .empty := by
  rcases d.load_cases model config with ⟨_, -, hLoad⟩ | ⟨_, _, -, -, hLoad⟩ | ⟨r, y, -, -, hLoad⟩
  · rw [hLoad] at h
    cases h
  · rw [hLoad] at h
    cases h
  · rw [hLoad] at h
    rcases List.mem_append.mp h with hProcessor | hAccelerator
    · obtain ⟨p, -, rfl⟩ := Option.map_eq_some_iff.mp (Option.mem_toList.mp hProcessor)
      rfl
    · rw [accelerator_workloadOn, Option.mem_toList] at hAccelerator
      obtain ⟨a, -, rfl⟩ := Option.map_eq_some_iff.mp hAccelerator
      rfl

/-- The slots of a workload hold the tasks that its load has started. -/
theorem mem_slots_iff_of_load {w : Workload} (h : (d.load model config).2 = .ok w) {x : Slot} :
    x ∈ w.slots ↔ x ∈ (d.load model config).1 := by
  rw [started_of_load h, Workload.slots, List.mem_append, List.mem_append, or_comm]

/-- A load goes on with the merged settings that it has checked. -/
theorem config_of_prepare {r : Request} (h : d.prepare model config = .ok r) :
    r.config = d.stored.merge config := by
  simp only [prepare, bind, Except.bind] at h
  -- the catalog, the model, the settings and the devices, each of which may stop the load
  split at h
  · cases h
  · split at h
    · cases h
    · split at h
      · cases h
      · split at h
        · cases h
        · cases h
          rfl

theorem perfCount_of_load {w : Workload} (h : (d.load model config).2 = .ok w) :
    w.perfCount = (d.stored.merge config).perfCount := by
  obtain ⟨r, y, hPrepare, rfl, -⟩ := exists_workloadOn_of_load h
  rw [← config_of_prepare hPrepare]
  rfl

/-- What a load reads.  Over one catalog and one tier table, two loads come to the same if their merged
settings are valid and give the same list of devices, and if their models are two files or two graphs of
one class.  A task that a load has started, which is to say a slot of its workload, asks its service for a
compile without any settings.  And a workload counts performance exactly if the toggle is among the merged
settings, whatever its value. -/
theorem load_reads_list_and_class :
    (∀ (t : TierTable) (c : Option Catalog) (stored stored' config config' : Config)
      (model model' : ModelSource),
      (stored.merge config).validate = .ok () → (stored'.merge config').validate = .ok () →
      (stored.merge config).deviceList? = (stored'.merge config').deviceList? → model.Alike model' →
        SameLoad (load ⟨t, stored, c⟩ model config) (load ⟨t, stored', c⟩ model' config')) ∧
    (∀ (d : Dispatcher) (model : ModelSource) (config : Config) (x : Slot),
      (x ∈ (d.load model config).1 ∨ ∃ w, (d.load model config).2 = .ok w ∧ x ∈ w.slots) →
      ∀ (c : Catalog) (now : Nat) (service : Service), c.serviceFor? x.device = some service →
        let run := service.compile x.device model .empty
        x.start c now = ({ x with task := .running (now + run.latency) run.outcome }, some service)) ∧
    (∀ (d : Dispatcher) (model : ModelSource) (config : Config) (w : Workload),
      (d.load model config).2 = .ok w →
        (w.perfCount = true ↔
          ∃ value, (Config.perfCountKey, value) ∈ (d.stored.merge config).entries)) := by
  refine ⟨fun t c stored stored' config config' model model' hValid hValid' hList hModels =>
    sameLoad_of_alike t c hValid hValid' hList hModels, ?_, ?_⟩
  · intro d model config x hx c now service hService
    have hStarted : x ∈ (d.load model config).1 := by
      rcases hx with hx | ⟨w, hLoad, hx⟩
      · exact hx
      · exact (mem_slots_iff_of_load hLoad).mp hx
    rw [Slot.start, task_of_mem_load hStarted]
    simp only [Catalog.compile, hService]
  · intro d model config w hLoad
    rw [perfCount_of_load hLoad, Config.perfCount, TextMap.contains, Option.isSome_iff_exists]
    simp only [TextMap.mem_entries_iff]

/-- A graph of class FP16, which the first listed accelerator of the pair has. -/
def halfGraph (name : String) : Graph :=
  ⟨name, [⟨"conv", "Convolution", [.f32, .f16]⟩]⟩

/-- A processor that names its models after the number of settings that come with a request. -/
def countingScript : DeviceScript where
  available := none
  metrics := []
  operations := .answer .empty
  compile := ⟨3, false, none⟩

/-- The catalog of this processor. -/
def countingCatalog : Catalog :=
  Catalog.empty.register ⟨"CPU"⟩ (countingScript.service "CPU")

/-- The dispatcher of this processor, with a stored setting. -/
def countingDispatcher : Dispatcher :=
  ⟨.standard, .ofList [(Config.perfCountKey, "YES")], some countingCatalog⟩

/-- A stored list and a list of the request, which overrides another one, lead to the same slots; a service
that counts settings is given none, neither by the task that is started nor by the slot; and a toggle that is
switched off counts. -/
theorem load_reads_list_and_class_pair :
    SameLoad (pairDispatcher.load (.graph (halfGraph "a")) .empty)
      (load ⟨.standard, .ofList [(Config.deviceListKey, "CPU")], some pairCatalog⟩
        (.graph (halfGraph "b"))
        (.ofList [(Config.deviceListKey, "GPU.1,CPU,GPU.0"), (Config.perfCountKey, "NO")])) ∧
    (∀ x ∈ (pairDispatcher.load (.graph (halfGraph "a")) .empty).1, x.device = ⟨"CPU"⟩ →
      (x.start pairCatalog 5).2 = some ((DeviceProfile.named "Host").service "CPU")) ∧
    (∃ w, (countingDispatcher.load (.path "m") (.ofList [("AUTO_X", "1")])).2 = .ok w ∧ w.slots ≠ [] ∧
      ∀ x ∈ w.slots, x.start countingCatalog 5 =
        ({ x with task := .running 8 (.compiled ⟨⟨"CPU"⟩, "scripted:0"⟩) },
          some (countingScript.service "CPU"))) ∧
    ∃ w, (pairDispatcher.load (.path "m") (.ofList [(Config.perfCountKey, "NO")])).2 = .ok w ∧
      w.perfCount = true := by
  have hReads := load_reads_list_and_class
  refine ⟨?_, ?_, ?_, ?_⟩
  · exact hReads.1 _ _ _ _ _ _ _ _ rfl rfl rfl (.graphs (by simp [halfGraph]) (by simp [halfGraph]) rfl)
  · intro x hx hDevice
    rw [hReads.2.1 pairDispatcher _ _ x (Or.inl hx) pairCatalog 5
      ((DeviceProfile.named "Host").service "CPU") (by rw [hDevice]; rfl)]
  · have hLoad : (countingDispatcher.load (.path "m") (.ofList [("AUTO_X", "1")])).2 =
        .ok ⟨some (.spawn .processor ⟨"CPU"⟩ (.path "m")), none, true⟩ := rfl
    refine ⟨_, hLoad, List.cons_ne_nil _ _, fun x hx => ?_⟩
    have hDevice : x.device = ⟨"CPU"⟩ := by
      rw [List.mem_singleton.mp hx]
      rfl
    rw [hReads.2.1 countingDispatcher _ _ x (Or.inr ⟨_, hLoad, hx⟩) countingCatalog 5
      (countingScript.service "CPU") (by rw [hDevice]; rfl), hDevice]
    rfl
  · obtain ⟨w, hLoad⟩ : ∃ w, (pairDispatcher.load (.path "m")
        (.ofList [(Config.perfCountKey, "NO")])).2 = .ok w := ⟨_, rfl⟩
    exact ⟨w, hLoad, (hReads.2.2 _ _ _ w hLoad).mpr ⟨"NO", by decide⟩⟩

end Dispatcher

end TieredDispatch
