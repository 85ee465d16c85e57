import TieredDispatch.Dispatcher
import TieredDispatch.Proofs.Environment.Ownership

/-!
# The capabilities of a list of devices

The devices that are asked for their capabilities are those that the device list in force names, and the
default ones if no list is set.  What they report is brought together: a device has a tag if its metric is read
as a list that holds the tag, and the answer has the tags that some device has.  As a list is split at its
commas, the tags of a longer list are those of its parts.

* `Catalog.Names`: whether a device list names a device.
* `Catalog.Asked`, `Catalog.HasTag`: the devices that are asked, and the tags that they have.
* `Catalog.mem_capabilityUnion_iff`: the tags that the devices have together.
* `Catalog.mem_listedCapabilities_append`: the tags of two lists that are joined.
* `Catalog.capabilities_of_candidates`: the capabilities for every catalog and all settings.
-/

namespace TieredDispatch.Catalog

variable {c : Catalog} {options stored : Config} {a b raw tag : String} {raws : List String} {d : DeviceId}

/-! ## Device lists -/

/-- Whether a device list names a device. -/
def Names (c : Catalog) (raw : String) (d : DeviceId) : Prop :=
  ∃ pieces ds, Text.CommaSeparated raw pieces ∧ c.Expands pieces ds ∧ d ∈ ds

theorem names_iff : c.Names raw d ↔ d ∈ c.parseDeviceList raw := by
  rw [parseDeviceList, List.mem_eraseDups]
  constructor
  · rintro ⟨pieces, ds, hPieces, hExpands, hd⟩
    rw [← expands_iff.mp hExpands, ← Text.commaSeparated_iff.mp hPieces] at hd
    exact hd
  · intro hd
    exact ⟨_, _, Text.commaSeparated_pieces raw, expands_iff.mpr rfl, hd⟩

theorem listEntries_append (a b : String) : listEntries (a ++ "," ++ b) = listEntries a ++ listEntries b := by
  rw [listEntries, Text.pieces_append, List.map_append, List.filter_append, listEntries, listEntries]

/-- What stands on both sides of a comma is named independently. -/
theorem names_append : c.Names (a ++ "," ++ b) d ↔ c.Names a d ∨ c.Names b d := by
  simp only [names_iff, parseDeviceList, List.mem_eraseDups, listEntries_append, List.flatMap_append,
    List.mem_append]

theorem not_names_empty : ¬ c.Names "" d := by
  rw [names_iff]
  exact List.not_mem_nil

/-- A joined list names what its parts name. -/
theorem names_intercalate : c.Names (",".intercalate raws) d ↔ ∃ raw ∈ raws, c.Names raw d := by
  induction raws with
  | nil => simp [not_names_empty]
  | cons raw rest ih =>
    cases rest with
    | nil => simp
    | cons next rest =>
      rw [String.intercalate_cons_cons, names_append, ih]
      simp only [List.mem_cons, exists_eq_or_imp]

/-! ## Candidates -/

/-- Whether a device list is in force: the one in the options, and that in the stored settings only if the
options have none. -/
inductive InForce (options stored : Config) : String → Prop
  | options {raw : String} : options.get? Config.deviceListKey = some raw → InForce options stored raw
  | stored {raw : String} : options.get? Config.deviceListKey = none →
      stored.get? Config.deviceListKey = some raw → InForce options stored raw

/-- Whether a device is asked for its capabilities. -/
inductive Asked (c : Catalog) (options stored : Config) : DeviceId → Prop
  | listed {raw : String} {d : DeviceId} : InForce options stored raw → c.Names raw d →
      Asked c options stored d
  /-- Without a list the processor and the accelerator are asked, whether they are registered or not. -/
  | processor : options.get? Config.deviceListKey = none → stored.get? Config.deviceListKey = none →
      Asked c options stored ⟨"CPU"⟩
  | accelerator : options.get? Config.deviceListKey = none → stored.get? Config.deviceListKey = none →
      Asked c options stored ⟨"GPU"⟩

/-- Whether a device reports a list of capabilities that holds a tag. -/
def HasTag (c : Catalog) (d : DeviceId) (tag : String) : Prop :=
  ∃ tags, c.metric d MetricName.capabilities = .ok (.list tags) ∧ tag ∈ tags

theorem inForce_iff : InForce options stored raw ↔
    (options.get? Config.deviceListKey).or (stored.get? Config.deviceListKey) = some raw := by
  rw [Option.or_eq_some_iff]
  constructor
  · rintro (hOptions | ⟨hNone, hStored⟩)
    · exact Or.inl hOptions
    · exact Or.inr ⟨hNone, hStored⟩
  · rintro (hOptions | ⟨hNone, hStored⟩)
    · exact .options hOptions
    · exact .stored hNone hStored

theorem capabilityCandidates_eq (c : Catalog) (options stored : Config) :
    c.capabilityCandidates options stored =
      match (options.get? Config.deviceListKey).or (stored.get? Config.deviceListKey) with
      | some raw => c.parseDeviceList raw
      | none => defaultCandidates := by
  rw [capabilityCandidates, Config.deviceList?, Config.deviceList?]
  cases options.get? Config.deviceListKey <;> rfl

theorem capabilityCandidates_of_inForce (h : InForce options stored raw) :
    c.capabilityCandidates options stored = c.parseDeviceList raw := by
  rw [capabilityCandidates_eq, inForce_iff.mp h]

/-- The devices that are asked are the candidates. -/
theorem asked_iff : c.Asked options stored d ↔ d ∈ c.capabilityCandidates options stored := by
  constructor
  · rintro (⟨hForce, hNames⟩ | ⟨hOptions, hStored⟩ | ⟨hOptions, hStored⟩)
    · rw [capabilityCandidates_of_inForce hForce]
      exact names_iff.mp hNames
    · rw [capabilityCandidates_eq, hOptions, hStored]
      exact List.mem_cons_self
    · rw [capabilityCandidates_eq, hOptions, hStored]
      exact List.mem_cons_of_mem _ List.mem_cons_self
  · intro hd
    cases hForce : (options.get? Config.deviceListKey).or (stored.get? Config.deviceListKey) with
    | some raw =>
      rw [capabilityCandidates_eq, hForce] at hd
      exact .listed (inForce_iff.mpr hForce) (names_iff.mpr hd)
    | none =>
      rw [capabilityCandidates_eq, hForce] at hd
      obtain ⟨hOptions, hStored⟩ := Option.or_eq_none_iff.mp hForce
      rcases List.mem_cons.mp hd with rfl | hd
      · exact .processor hOptions hStored
      · rw [List.mem_singleton.mp hd]
        exact .accelerator hOptions hStored

theorem asked_of_inForce (h : InForce options stored raw) : c.Asked options stored d ↔ c.Names raw d := by
  rw [asked_iff, capabilityCandidates_of_inForce h, names_iff]

/-! ## Tags -/

theorem hasTag_iff :
    c.HasTag d tag ↔ ∃ tags, c.metricList d MetricName.capabilities = .ok tags ∧ tag ∈ tags := by
  rw [HasTag, metricList]
  rcases c.metric d MetricName.capabilities with _ | (_ | _) <;> simp

/-- The tags that the asked devices have together. -/
theorem mem_capabilityUnion_iff :
    tag ∈ c.capabilityUnion options stored ↔ ∃ d, c.Asked options stored d ∧ c.HasTag d tag := by
  rw [capabilityUnion, TextSet.mem_ofList, List.mem_flatMap]
  refine exists_congr fun d => and_congr asked_iff.symm ?_
  rw [hasTag_iff]
  cases c.metricList d MetricName.capabilities <;> simp

/-- The tags for options with nothing but a device list. -/
def listedCapabilities (c : Catalog) (raw : String) : TextSet :=
  c.capabilityUnion (.ofList [(Config.deviceListKey, raw)]) .empty

theorem inForce_ofList (raw : String) : InForce (.ofList [(Config.deviceListKey, raw)]) .empty raw :=
  .options ((TextMap.get?_insert _ _ _ _).trans (if_pos rfl))

theorem mem_listedCapabilities_iff :
    tag ∈ c.listedCapabilities raw ↔ ∃ d, c.Names raw d ∧ c.HasTag d tag := by
  simp only [listedCapabilities, mem_capabilityUnion_iff, asked_of_inForce (inForce_ofList raw)]

/-- Only the list in force matters. -/
theorem capabilityUnion_of_inForce (h : InForce options stored raw) :
    c.capabilityUnion options stored = c.listedCapabilities raw := by
  refine TextSet.ext_mem fun tag => ?_
  simp only [mem_capabilityUnion_iff, mem_listedCapabilities_iff, asked_of_inForce h]

theorem mem_listedCapabilities_append : tag ∈ c.listedCapabilities (a ++ "," ++ b) ↔
    tag ∈ c.listedCapabilities a ∨ tag ∈ c.listedCapabilities b := by
  simp only [mem_listedCapabilities_iff, names_append, or_and_right, exists_or]

theorem mem_listedCapabilities_intercalate : tag ∈ c.listedCapabilities (",".intercalate raws) ↔
    ∃ raw ∈ raws, tag ∈ c.listedCapabilities raw := by
  simp only [mem_listedCapabilities_iff, names_intercalate]
  constructor
  · rintro ⟨d, ⟨raw, hRaw, hNames⟩, hTag⟩
    exact ⟨raw, hRaw, d, hNames, hTag⟩
  · rintro ⟨raw, hRaw, d, hNames, hTag⟩
    exact ⟨d, ⟨raw, hRaw, hNames⟩, hTag⟩

/-- The capabilities for every catalog and all settings.  They are the tags that some asked device has, where a
device that is not routed to a service, that fails, or that answers with a text has none.  The list in the
options is in force if there is one, and that in the stored settings if not; nothing else in the settings
matters.  The tags of two joined lists are those of the one and those of the other, so that more lists only
add tags, and neither their order nor their repetition matters.  The metric gives the tags in strictly
increasing order. -/
theorem capabilities_of_candidates (c : Catalog) :
    (∀ options stored tag, tag ∈ c.capabilityUnion options stored ↔
      ∃ d, c.Asked options stored d ∧ c.HasTag d tag) ∧
    (∀ d, (c.Unroutable d ∨ (∃ err, c.metric d MetricName.capabilities = .error err) ∨
      ∃ text, c.metric d MetricName.capabilities = .ok (.text text)) → ∀ tag, ¬ c.HasTag d tag) ∧
    (∀ options stored raw, InForce options stored raw →
      c.capabilityUnion options stored = c.listedCapabilities raw) ∧
    (∀ a b tag, tag ∈ c.listedCapabilities (a ++ "," ++ b) ↔
      tag ∈ c.listedCapabilities a ∨ tag ∈ c.listedCapabilities b) ∧
    (∀ raws raws' : List String, raws ⊆ raws' → ∀ tag ∈ c.listedCapabilities (",".intercalate raws),
      tag ∈ c.listedCapabilities (",".intercalate raws')) ∧
    (∀ raws raws' : List String, (∀ raw, raw ∈ raws ↔ raw ∈ raws') →
      c.listedCapabilities (",".intercalate raws) = c.listedCapabilities (",".intercalate raws')) ∧
    ∀ (d : Dispatcher) (options : Config), d.catalog = some c →
      ∃ tags, d.metric MetricName.capabilities options = .ok (.list tags) ∧ tags.Pairwise (· < ·) ∧
        ∀ tag, tag ∈ tags ↔ tag ∈ c.capabilityUnion options d.stored := by
  refine ⟨fun options stored tag => mem_capabilityUnion_iff, ?_,
    fun options stored raw => capabilityUnion_of_inForce, fun a b tag => mem_listedCapabilities_append,
    ?_, ?_, ?_⟩
  · rintro d hNone tag ⟨tags, hTags, -⟩
    rcases hNone with hUnroutable | ⟨err, hFailed⟩ | ⟨text, hText⟩
    · rw [hUnroutable.metric] at hTags
      cases hTags
    · rw [hFailed] at hTags
      cases hTags
    · rw [hText] at hTags
      cases hTags
  · intro raws raws' hSubset tag hTag
    obtain ⟨raw, hRaw, hTag⟩ := mem_listedCapabilities_intercalate.mp hTag
    exact mem_listedCapabilities_intercalate.mpr ⟨raw, hSubset hRaw, hTag⟩
  · intro raws raws' hSame
    refine TextSet.ext_mem fun tag => ?_
    simp only [mem_listedCapabilities_intercalate, hSame]
  · intro d options hCatalog
    refine ⟨_, ?_, (c.capabilityUnion options d.stored).sorted, fun tag => Iff.rfl⟩
    rw [Dispatcher.metric, Dispatcher.attached, hCatalog]
    rfl

/-- A processor, an accelerator, and a device whose metrics fail. -/
def tagged : Catalog :=
  ((empty.register ⟨"CPU"⟩ (((DeviceProfile.named "Host").withPrecision .fp32).service "host")).register
    ⟨"GPU"⟩ (((DeviceProfile.named "Discrete (dGPU)").withPrecision .fp16).service "discrete")).register
      ⟨"MYRIAD"⟩ ((DeviceProfile.named "Stick").failingMetrics.service "stick")

/-- A list that names no device is in force as well, so that the stored one is not looked at.  The device that
fails adds no tag wherever it stands. -/
theorem capabilities_of_candidates_blank :
    tagged.capabilityUnion (.ofList [(Config.deviceListKey, " ,")])
        (.ofList [(Config.deviceListKey, "CPU")]) = .empty ∧
      tagged.listedCapabilities (",".intercalate ["GPU", "MYRIAD", "CPU"]) =
        tagged.listedCapabilities (",".intercalate ["CPU", "GPU", "CPU", "MYRIAD"]) ∧
      ∀ tag, ¬ tagged.HasTag ⟨"MYRIAD"⟩ tag := by
  obtain ⟨-, hNone, hForce, -, -, hSame, -⟩ := capabilities_of_candidates tagged
  refine ⟨(hForce _ _ " ," (.options rfl)).trans (by decide +kernel), hSame _ _ fun raw => ?_,
    hNone _ (Or.inr (Or.inl ⟨_, rfl⟩))⟩
  simp only [List.mem_cons, List.not_mem_nil, or_false]
  grind

end TieredDispatch.Catalog
