import TieredDispatch.Device.Manifest
import TieredDispatch.Device.Service
import TieredDispatch.Dispatch.Error

/-!
# The device catalog

A catalog holds one service for each registered family of devices, in the order of registration, and
named groups of devices. Nothing is cached: every answer is asked for anew.

* `Catalog.register`, `Catalog.unregister`: changes of the registry.
* `Catalog.serviceFor?`: the service to which a request for a device goes.
* `Catalog.available`: every device that the services report.
* `Catalog.parseDeviceList`: the devices that a comma-separated list names.
* `Catalog.listDevices`: the devices that a request considers.
* `Catalog.manifest`: what a device says that it can do.
-/

namespace TieredDispatch

/-- The registered families, in order, and the named groups. -/
structure Catalog where
  families : List (DeviceId × Service)
  groups : TextMap (List DeviceId)

namespace Catalog

/-- A catalog without families and groups. -/
def empty : Catalog := ⟨[], .empty⟩

instance : Inhabited Catalog := ⟨empty⟩

/-- The entries with `family` served by `service`: in its place if it is there, else at the end. -/
def registerEntry (family : DeviceId) (service : Service) :
    List (DeviceId × Service) → List (DeviceId × Service)
  | [] => [(family, service)]
  | entry :: rest =>
    if entry.1 = family then (family, service) :: rest
    else entry :: registerEntry family service rest

/-- Registers the service of a family; a family that is there keeps its place. -/
def register (c : Catalog) (family : DeviceId) (service : Service) : Catalog :=
  { c with families := registerEntry family service c.families }

/-- Removes a family, and tells whether it was there. -/
def unregister (c : Catalog) (family : DeviceId) : Bool × Catalog :=
  (c.families.any (·.1 = family),
    { c with families := c.families.filter fun entry => entry.1 ≠ family })

/-- Gives a group its members. -/
def registerGroup (c : Catalog) (name : String) (members : List DeviceId) : Catalog :=
  { c with groups := c.groups.insert name members }

def familyIds (c : Catalog) : List DeviceId :=
  c.families.map (·.1)

/-- The service registered under exactly the given text. -/
def registered? (c : Catalog) (text : String) : Option Service :=
  (c.families.find? fun entry => entry.1.text = text).map (·.2)

/-- The service for a device: the one under its id, else the one under its family's name. -/
def serviceFor? (c : Catalog) (d : DeviceId) : Option Service :=
  c.registered? d.text <|> c.registered? d.family

theorem mem_of_registered? {c : Catalog} {text : String} {service : Service}
    (h : c.registered? text = some service) :
    ∃ entry ∈ c.families, entry.2 = service := by
  obtain ⟨entry, hFound, rfl⟩ := Option.map_eq_some_iff.mp h
  exact ⟨entry, List.mem_of_find?_eq_some hFound, rfl⟩

/-- A request goes to a service of the catalog. -/
theorem mem_of_serviceFor? {c : Catalog} {d : DeviceId} {service : Service}
    (h : c.serviceFor? d = some service) :
    ∃ entry ∈ c.families, entry.2 = service := by
  rw [serviceFor?] at h
  cases hExact : c.registered? d.text with
  | some owner =>
    rw [hExact] at h
    cases h
    exact mem_of_registered? hExact
  | none =>
    rw [hExact] at h
    exact mem_of_registered? h

/-- What a service answers for a device; a device without a service is unavailable. -/
def ask {α : Type} (c : Catalog) (d : DeviceId) (request : Service → Except DeviceError α) :
    Except DeviceError α :=
  match c.serviceFor? d with
  | some service => request service
  | none => .error (.unavailable d)

/-- What the families report, in order; a family that fails to report is left out. -/
def reported (c : Catalog) : List DeviceId :=
  c.families.flatMap fun (family, service) =>
    match service.devices family with
    | .ok devices => devices
    | .error _ => []

/-- Every device that the families report, each once. -/
def available (c : Catalog) : List DeviceId :=
  c.reported.eraseDups

/-- The entries of a device list: what stands between commas, trimmed and not empty. -/
def listEntries (raw : String) : List String :=
  ((Text.pieces ',' raw).map Text.trim).filter fun entry => !entry.isEmpty

/-- The devices that an entry of a list names: the members of a group, or the one with that id. -/
def expand (c : Catalog) (entry : String) : List DeviceId :=
  (c.groups.get? entry).getD [⟨entry⟩]

/-- The devices that a comma-separated list names, each once. -/
def parseDeviceList (c : Catalog) (raw : String) : List DeviceId :=
  ((listEntries raw).flatMap c.expand).eraseDups

/-- The devices that a request considers: those of its explicit list, else every available one. -/
def listDevices (c : Catalog) (config : Config) : Except DispatchError (List DeviceId) :=
  let devices := match config.deviceList? with
    | some raw => c.parseDeviceList raw
    | none => c.available
  if devices.isEmpty then .error .noDevicesAvailable else .ok devices

def metric (c : Catalog) (d : DeviceId) (name : String) : Except DeviceError MetricValue :=
  c.ask d fun service => service.metric d name

/-- A metric that has to be a text. -/
def metricText (c : Catalog) (d : DeviceId) (name : String) : Except DeviceError String :=
  match c.metric d name with
  | .ok (.text s) => .ok s
  | .ok (.list _) => .error (.unexpectedMetricType d name)
  | .error e => .error e

/-- A metric that has to be a list. -/
def metricList (c : Catalog) (d : DeviceId) (name : String) : Except DeviceError (List String) :=
  match c.metric d name with
  | .ok (.list items) => .ok items
  | .ok (.text _) => .error (.unexpectedMetricType d name)
  | .error e => .error e

def operations (c : Catalog) (d : DeviceId) (g : Graph) : Except DeviceError TextSet :=
  c.ask d fun service => service.operations d g

/-- The compile that a device runs, and the service that runs it; without one it fails at once. -/
def compile (c : Catalog) (d : DeviceId) (model : ModelSource) (config : Config) :
    Option Service × CompileRun :=
  match c.serviceFor? d with
  | some service => (some service, service.compile d model config)
  | none => (none, ⟨0, .refused (.unavailable d)⟩)

theorem fst_compile (c : Catalog) (d : DeviceId) (model : ModelSource) (config : Config) :
    (c.compile d model config).1 = c.serviceFor? d := by
  rw [compile]
  split
  · next h => exact h.symm
  · next h => exact h.symm

def fullName (c : Catalog) (d : DeviceId) : Except DeviceError String :=
  c.metricText d MetricName.fullName

/-- What a device says that it can do; one that reports no settings just has none. -/
def manifest (c : Catalog) (d : DeviceId) : Except DeviceError Manifest :=
  match c.fullName d with
  | .error e => .error e
  | .ok name =>
    match c.metricList d MetricName.capabilities with
    | .error e => .error e
    | .ok capabilities =>
      let configKeys := match c.metricList d MetricName.configKeys with
        | .ok keys => keys
        | .error _ => []
      .ok ⟨name, .ofList capabilities, .ofList configKeys⟩

end Catalog

end TieredDispatch
