import TieredDispatch.Proofs.Environment.Routing

/-!
# Compile latencies

How long the families of a pool take to compile shows in nothing but the time that passes: the catalog
lists the same devices, reads the same metrics and comes to the same outcomes.

* `Environment.listDevices_withLatencies`, `Environment.lookup_withLatencies`: devices and manifests.
* `Environment.outcome_withLatencies`: the outcomes of compiles.
-/

namespace TieredDispatch

/-- The entry with another compile latency. -/
def FamilyEntry.withLatency (entry : FamilyEntry) (latency : UInt64) : FamilyEntry :=
  { entry with profile := entry.profile.withCompileLatency latency }

namespace Environment

variable {e : Environment}

/-- The environment with a new compile latency for each of its families. -/
def withLatencies (e : Environment) (latency : FamilyEntry → UInt64) : Environment :=
  { e with devices := e.devices.map fun entry => entry.withLatency (latency entry) }

theorem familyError?_withLatency (latency : FamilyEntry → UInt64) (entries : List FamilyEntry)
    (seen : List DeviceId) :
    familyError? seen (entries.map fun entry => entry.withLatency (latency entry)) =
      familyError? seen entries := by
  induction entries generalizing seen with
  | nil => rfl
  | cons entry rest ih =>
    simp only [List.map_cons, familyError?, ih]
    rfl

/-- An environment is accepted whatever its latencies are. -/
theorem error?_withLatencies (e : Environment) (latency : FamilyEntry → UInt64) :
    (e.withLatencies latency).error? = e.error? := by
  simp only [error?, withLatencies, familyError?_withLatency]

theorem entryFor?_withLatencies (e : Environment) (latency : FamilyEntry → UInt64) (d : DeviceId) :
    (e.withLatencies latency).entryFor? d =
      (e.entryFor? d).map fun entry => entry.withLatency (latency entry) := by
  simp only [entryFor?, withLatencies, List.find?_map, Option.map_or]
  rfl

theorem serviceFor?_withLatencies (h : e.error? = none) (latency : FamilyEntry → UInt64)
    (d : DeviceId) :
    (e.withLatencies latency).catalog.serviceFor? d =
      (e.entryFor? d).map fun entry => (entry.withLatency (latency entry)).service := by
  rw [serviceFor?_catalog ((e.error?_withLatencies latency).trans h), entryFor?_withLatencies,
    Option.map_map]
  rfl

theorem metric_withLatencies (h : e.error? = none) (latency : FamilyEntry → UInt64) :
    (e.withLatencies latency).catalog.metric = e.catalog.metric := by
  funext d name
  simp only [Catalog.metric, Catalog.ask, serviceFor?_withLatencies h, serviceFor?_catalog h]
  cases e.entryFor? d <;> rfl

theorem lookup_withLatencies (h : e.error? = none) (latency : FamilyEntry → UInt64) :
    (e.withLatencies latency).catalog.lookup = e.catalog.lookup := by
  have hMetric := metric_withLatencies h latency
  have hText : (e.withLatencies latency).catalog.metricText = e.catalog.metricText := by
    funext d name
    simp only [Catalog.metricText, hMetric]
  have hList : (e.withLatencies latency).catalog.metricList = e.catalog.metricList := by
    funext d name
    simp only [Catalog.metricList, hMetric]
  have hName : (e.withLatencies latency).catalog.fullName = e.catalog.fullName := by
    funext d
    simp only [Catalog.fullName, hText]
  have hManifest : (e.withLatencies latency).catalog.manifest = e.catalog.manifest := by
    funext d
    simp only [Catalog.manifest, hName, hList]
  rw [Catalog.lookup, Catalog.lookup, hName, hManifest]

theorem available_withLatencies (h : e.error? = none) (latency : FamilyEntry → UInt64) :
    (e.withLatencies latency).catalog.available = e.catalog.available := by
  rw [Catalog.available, Catalog.available, Catalog.reported, Catalog.reported,
    families_catalog ((e.error?_withLatencies latency).trans h), families_catalog h, withLatencies,
    List.map_map, List.flatMap_map, List.flatMap_map]
  rfl

theorem parseDeviceList_withLatencies (e : Environment) (latency : FamilyEntry → UInt64) :
    (e.withLatencies latency).catalog.parseDeviceList = e.catalog.parseDeviceList := by
  have hGroups : (e.withLatencies latency).catalog.groups = e.catalog.groups := by
    rw [groups_catalog, groups_catalog]
    rfl
  have hExpand : (e.withLatencies latency).catalog.expand = e.catalog.expand := by
    funext entry
    simp only [Catalog.expand, hGroups]
  funext raw
  simp only [Catalog.parseDeviceList, hExpand]

theorem listDevices_withLatencies (h : e.error? = none) (latency : FamilyEntry → UInt64) :
    (e.withLatencies latency).catalog.listDevices = e.catalog.listDevices := by
  funext config
  simp only [Catalog.listDevices, available_withLatencies h, parseDeviceList_withLatencies]

/-- The outcome of a compile does not depend on the time that it takes. -/
theorem outcome_withLatencies (h : e.error? = none) (latency : FamilyEntry → UInt64) (d : DeviceId)
    (model : ModelSource) (config : Config) :
    ((e.withLatencies latency).catalog.compile d model config).2.outcome =
      (e.catalog.compile d model config).2.outcome := by
  simp only [Catalog.compile, serviceFor?_withLatencies h, serviceFor?_catalog h]
  cases e.entryFor? d <;> rfl

end Environment

end TieredDispatch
