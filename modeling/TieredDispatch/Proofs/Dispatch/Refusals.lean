import TieredDispatch.Proofs.Dispatch.Influence
import TieredDispatch.Proofs.Selection.Policy

/-!
# When a load is refused

A load passes six checks, one after the other.  What may be wrong with it is told here for each check by
itself, whatever the others find: several things may be wrong at once, and the first check that finds one
decides the error.  A load with which nothing is wrong succeeds.

* `Catalog.Considers`: the devices from which a load chooses.
* `Dispatcher.Check`: the checks, in order.
* `Dispatcher.Fault`: what is wrong with a load, and the error that tells it.
* `Dispatcher.load_of_fault`, `Dispatcher.exists_load_of_no_fault`: what a load makes of it.
* `Dispatcher.refused_for_first_fault`: exactly when a load fails, and with which error.
-/

namespace TieredDispatch

/-! ## Considered devices -/

namespace Catalog

variable {c : Catalog} {config : Config} {devices : List DeviceId}

/-- The devices from which a load chooses: those of its list, if one is set, and else every available
one. -/
inductive Considers (c : Catalog) (config : Config) : List DeviceId → Prop
  | listed {raw : String} : config.get? Config.deviceListKey = some raw →
      Considers c config (c.parseDeviceList raw)
  | enumerated : config.get? Config.deviceListKey = none → Considers c config c.available

theorem exists_considers (c : Catalog) (config : Config) : ∃ devices, c.Considers config devices := by
  cases h : config.get? Config.deviceListKey with
  | none => exact ⟨_, .enumerated h⟩
  | some raw => exact ⟨_, .listed h⟩

theorem Considers.listDevices_eq (h : c.Considers config devices) :
    c.listDevices config = if devices.isEmpty then .error .noDevicesAvailable else .ok devices := by
  cases h with
  | listed h => rw [listDevices, Config.deviceList?, h]
  | enumerated h => rw [listDevices, Config.deviceList?, h]

end Catalog

namespace Dispatcher

/-! ## What may be wrong -/

/-- The checks of a load. -/
inductive Check
  | attached
  | input
  | settings
  | devices
  | tiers
  | choice
  deriving DecidableEq

/-- The order in which a load is checked. -/
def Check.order : List Check := [attached, input, settings, devices, tiers, choice]

variable {d : Dispatcher} {model : ModelSource} {config : Config} {c : Catalog} {devices : List DeviceId}
  {check : Check} {e : DispatchError}

/-- What is wrong with a load for each check, whatever the others find, and the error that tells it. -/
inductive Fault (d : Dispatcher) (model : ModelSource) (config : Config) : Check → DispatchError → Prop
  | notAttached : d.catalog = none → Fault d model config .attached .notConfigured
  | emptyPath : model = .path "" →
      Fault d model config .input (.unsupportedInput "neither a model path nor a graph was given")
  | emptyGraph {g : Graph} : model = .graph g → g.ops = [] →
      Fault d model config .input (.unsupportedInput (emptyGraphReason g))
  | setting {e : InputError} : (d.stored.merge config).LeastOffence e →
      Fault d model config .settings (.config e)
  | noDevices {c : Catalog} : d.catalog = some c → c.Considers (d.stored.merge config) [] →
      Fault d model config .devices .noDevicesAvailable
  | untiered {c : Catalog} {devices : List DeviceId} : d.catalog = some c →
      c.Considers (d.stored.merge config) devices → 2 ≤ devices.length →
      (∀ x ∈ devices, (d.selector c).LeftOut x) →
      Fault d model config .tiers (.selection (.notFound "No available device found"))
  | ineligible {c : Catalog} {devices : List DeviceId} : d.catalog = some c →
      c.Considers (d.stored.merge config) devices → 2 ≤ devices.length →
      (∃ x ∈ devices, ∃ t, t ≠ .processor ∧ (d.selector c).InTier x t) →
      (∀ x ∈ devices, d.tiers.isProcessor x = false) →
      (d.selector c).Unserved devices (wantedFor model) →
      Fault d model config .choice (.selection .noEligibleDevice)

/-! ## Checks without a fault -/

theorem catalog_of_no_fault (h : ∀ e, ¬ d.Fault model config .attached e) : ∃ c, d.catalog = some c := by
  cases hCatalog : d.catalog with
  | none => exact absurd (.notAttached hCatalog) (h .notConfigured)
  | some c => exact ⟨c, rfl⟩

theorem checkInput_of_no_fault (h : ∀ e, ¬ d.Fault model config .input e) : checkInput model = .ok () := by
  cases model with
  | path text =>
    refine checkInput_path ?_
    rintro rfl
    exact h _ (.emptyPath rfl)
  | graph g => exact checkInput_graph fun hNil => h _ (.emptyGraph rfl hNil)

theorem validate_of_no_fault (h : ∀ e, ¬ d.Fault model config .settings e) :
    (d.stored.merge config).validate = .ok () := by
  cases hValid : (d.stored.merge config).validate with
  | ok u => rfl
  | error e => exact absurd (.setting (Config.validate_eq_error_iff.mp hValid)) (h (.config e))

theorem devices_ne_nil_of_no_fault (h : ∀ e, ¬ d.Fault model config .devices e) (hCatalog : d.catalog = some c)
    (hDevices : c.Considers (d.stored.merge config) devices) : devices ≠ [] := by
  rintro rfl
  exact h _ (.noDevices hCatalog hDevices)

theorem load_of_input_error (hCatalog : d.catalog = some c) (hInput : checkInput model = .error e) :
    d.load model config = ([], .error e) := by
  refine load_of_not_prepared ?_
  simp only [prepare, attached_of_catalog hCatalog, hInput, bind, Except.bind]

/-- A load that passes the checks before the choice goes as the choice goes. -/
theorem load_of_considered (hCatalog : d.catalog = some c) (hInput : checkInput model = .ok ())
    (hConfig : (d.stored.merge config).validate = .ok ())
    (hDevices : c.Considers (d.stored.merge config) devices) (hNil : devices ≠ []) :
    (d.load model config).2 =
      match (d.selector c).select devices (wantedFor model) with
      | .error e => .error (.selection e)
      | .ok x => .ok (d.workloadOn model ⟨c, d.stored.merge config, devices⟩ x) := by
  rw [load_eq hCatalog hInput hConfig, hDevices.listDevices_eq,
    if_neg (fun h => hNil (List.isEmpty_iff.mp h))]
  simp only
  cases (d.selector c).select devices (wantedFor model) <;> rfl

/-! ## The first fault -/

/-- Whether a check is the first one that finds something. -/
def FirstFault (d : Dispatcher) (model : ModelSource) (config : Config) : Check → Prop :=
  IsFirst (fun check => ∃ e, d.Fault model config check e) Check.order

theorem FirstFault.no_fault (h : d.FirstFault model config check) {earlier : Check}
    (hEarlier : earlier ∈ Check.order.takeWhile fun k => decide (k ≠ check)) :
    ∀ e, ¬ d.Fault model config earlier e :=
  fun e hFault => h.not_of_mem_takeWhile hEarlier ⟨e, hFault⟩

/-- What the checks before the choice have established. -/
theorem FirstFault.prepared (h : d.FirstFault model config check) (hCheck : check = .tiers ∨ check = .choice)
    (hCatalog : d.catalog = some c) (hDevices : c.Considers (d.stored.merge config) devices) :
    checkInput model = .ok () ∧ (d.stored.merge config).validate = .ok () ∧ devices ≠ [] := by
  have hBefore : ∀ earlier ∈ [Check.input, .settings, .devices],
      ∀ e, ¬ d.Fault model config earlier e := by
    intro earlier hMem
    refine h.no_fault ?_
    rcases hCheck with rfl | rfl <;> revert earlier <;> decide
  exact ⟨checkInput_of_no_fault (hBefore .input (by decide)),
    validate_of_no_fault (hBefore .settings (by decide)),
    devices_ne_nil_of_no_fault (hBefore .devices (by decide)) hCatalog hDevices⟩

theorem inTier_processor_iff (d : Dispatcher) (c : Catalog) (x : DeviceId) :
    (d.selector c).InTier x .processor ↔ d.tiers.isProcessor x = true :=
  Selector.inTier_processor_iff

/-- The first check that finds something decides the error. -/
theorem load_of_fault (hFirst : d.FirstFault model config check) (hFault : d.Fault model config check e) :
    (d.load model config).2 = .error e := by
  cases hFault with
  | notAttached hCatalog => rw [load_of_not_attached hCatalog]
  | emptyPath hModel =>
    obtain ⟨c, hCatalog⟩ := catalog_of_no_fault (hFirst.no_fault (by decide))
    subst hModel
    rw [load_of_input_error hCatalog rfl]
  | emptyGraph hModel hNil =>
    obtain ⟨c, hCatalog⟩ := catalog_of_no_fault (hFirst.no_fault (by decide))
    subst hModel
    rw [load_of_input_error hCatalog (by rw [checkInput, hNil]; rfl)]
  | setting hOffence =>
    obtain ⟨c, hCatalog⟩ := catalog_of_no_fault (hFirst.no_fault (by decide))
    have hInput := checkInput_of_no_fault (hFirst.no_fault (by decide))
    exact (load_config_error_iff hCatalog hInput _).mpr (Config.validate_eq_error_iff.mpr hOffence)
  | noDevices hCatalog hDevices =>
    have hInput := checkInput_of_no_fault (hFirst.no_fault (by decide))
    have hConfig := validate_of_no_fault (hFirst.no_fault (by decide))
    rw [load_eq hCatalog hInput hConfig, hDevices.listDevices_eq]
    rfl
  | @untiered c devices hCatalog hDevices hTwo hLeftOut =>
    obtain ⟨hInput, hConfig, hNil⟩ := hFirst.prepared (.inl rfl) hCatalog hDevices
    have hPolicy :
        (d.selector c).Policy devices (wantedFor model) (.error (.notFound "No available device found")) :=
      .untiered fun x hx => Selector.leftOut_iff.mp (hLeftOut x hx)
    rw [load_of_considered hCatalog hInput hConfig hDevices hNil, (Selector.select_eq_iff hTwo).mpr hPolicy]
  | @ineligible c devices hCatalog hDevices hTwo hTier hNoProcessor hUnserved =>
    obtain ⟨hInput, hConfig, hNil⟩ := hFirst.prepared (.inr rfl) hCatalog hDevices
    obtain ⟨x, hx, t, -, ht⟩ := hTier
    have hPolicy : (d.selector c).Policy devices (wantedFor model) (.error .noEligibleDevice) := by
      refine .ineligible hUnserved (fun y hy hProcessor => ?_) ⟨x, hx, t, ht⟩
      rw [inTier_processor_iff, hNoProcessor y hy] at hProcessor
      cases hProcessor
    rw [load_of_considered hCatalog hInput hConfig hDevices hNil, (Selector.select_eq_iff hTwo).mpr hPolicy]

/-- With the checks before it passed, a choice that finds nothing to complain of succeeds. -/
theorem exists_select_of_no_fault (hCatalog : d.catalog = some c)
    (hDevices : c.Considers (d.stored.merge config) devices) (hNil : devices ≠ [])
    (h : ∀ check e, ¬ d.Fault model config check e) :
    ∃ x, (d.selector c).select devices (wantedFor model) = .ok x := by
  match devices, hDevices, hNil with
  -- a single device is chosen without a look at it, so no fault can concern it
  | [only], _, _ => exact ⟨only, rfl⟩
  | first :: second :: rest, hDevices, _ =>
    have hTwo : 2 ≤ (first :: second :: rest).length := by
      simp only [List.length_cons]
      omega
    obtain ⟨r, hPolicy⟩ :=
      (d.selector c).exists_policy (first :: second :: rest) (wantedFor model)
    have hSelect := (Selector.select_eq_iff hTwo).mpr hPolicy
    cases hPolicy with
    | served | degraded | fallback => exact ⟨_, hSelect⟩
    | ineligible hUnserved hNone hAny =>
      obtain ⟨x, hx, t, ht⟩ := hAny
      -- with no processor listed, the tier that has a device is an accelerator's
      have hAccelerator : t ≠ .processor := by
        rintro rfl
        exact hNone x hx ht
      refine absurd (.ineligible hCatalog hDevices hTwo ⟨x, hx, t, hAccelerator, ht⟩ (fun y hy => ?_)
        hUnserved) (h .choice _)
      rw [← Bool.not_eq_true, ← inTier_processor_iff d c]
      exact hNone y hy
    | untiered hNone =>
      exact absurd (.untiered hCatalog hDevices hTwo fun x hx => Selector.leftOut_iff.mpr (hNone x hx))
        (h .tiers _)

theorem exists_load_of_no_fault (h : ∀ check e, ¬ d.Fault model config check e) :
    ∃ w, (d.load model config).2 = .ok w := by
  obtain ⟨c, hCatalog⟩ := catalog_of_no_fault (h .attached)
  obtain ⟨devices, hDevices⟩ := c.exists_considers (d.stored.merge config)
  have hNil := devices_ne_nil_of_no_fault (h .devices) hCatalog hDevices
  obtain ⟨x, hSelect⟩ := exists_select_of_no_fault hCatalog hDevices hNil h
  refine ⟨d.workloadOn model ⟨c, d.stored.merge config, devices⟩ x, ?_⟩
  rw [load_of_considered hCatalog (checkInput_of_no_fault (h .input)) (validate_of_no_fault (h .settings))
    hDevices hNil, hSelect]

theorem Check.mem_order (check : Check) : check ∈ order := by
  cases check <;> decide

/-- A load has a first fault, or none at all. -/
theorem firstFault_or_no_fault (d : Dispatcher) (model : ModelSource) (config : Config) :
    (∃ check e, d.FirstFault model config check ∧ d.Fault model config check e) ∨
      ∀ check e, ¬ d.Fault model config check e := by
  rcases IsFirst.exists_or_forall_not (fun check => ∃ e, d.Fault model config check e) Check.order with
    ⟨check, hFirst⟩ | hNone
  · obtain ⟨e, hFault⟩ := hFirst.1
    exact Or.inl ⟨check, e, hFirst, hFault⟩
  · exact Or.inr fun check e hFault => hNone check check.mem_order ⟨e, hFault⟩

/-- Exactly when a load fails.  Its error is the one of the first check that finds something wrong, whatever
else is wrong as well, and a load with which nothing is wrong succeeds. -/
theorem refused_for_first_fault (d : Dispatcher) (model : ModelSource) (config : Config) :
    (∀ e, (d.load model config).2 = .error e ↔
      ∃ check, d.FirstFault model config check ∧ d.Fault model config check e) ∧
    ((∃ w, (d.load model config).2 = .ok w) ↔ ∀ check e, ¬ d.Fault model config check e) := by
  rcases d.firstFault_or_no_fault model config with ⟨check, e, hFirst, hFault⟩ | hNone
  · have hLoad := load_of_fault hFirst hFault
    refine ⟨fun e' => ⟨fun h => ?_, fun ⟨_, hFirst', hFault'⟩ => load_of_fault hFirst' hFault'⟩, ?_⟩
    · rw [hLoad] at h
      cases h
      exact ⟨check, hFirst, hFault⟩
    · rw [hLoad]
      exact iff_of_false (by simp) fun h => h check e hFault
  · obtain ⟨w, hLoad⟩ := exists_load_of_no_fault hNone
    rw [hLoad]
    refine ⟨fun e => iff_of_false (by simp) ?_, iff_of_true ⟨w, rfl⟩ hNone⟩
    rintro ⟨check, -, hFault⟩
    exact hNone check e hFault

/-- An unknown setting and an empty catalog are not told of where the path is empty as well. -/
example : (Dispatcher.load ⟨.standard, .ofList [("MODE", "fast")], some .empty⟩ (.path "") .empty).2 =
    .error (.unsupportedInput "neither a model path nor a graph was given") := rfl

end Dispatcher

end TieredDispatch
