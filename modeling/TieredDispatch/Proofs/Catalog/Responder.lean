import TieredDispatch.Capability
import TieredDispatch.Proofs.Environment.Ownership
import TieredDispatch.Proofs.Selection.Policy

/-!
# The first responder

A scan for the operations of a graph asks the devices of a list in order, and stops at the first one that
answers.  Nothing has been found before, so the answer is never intersected with anything: the operations that
the devices run are those that the first responder names.

* `Catalog.Answers`: whether a device answers which operations of a graph it runs.
* `Catalog.scanOperations_eq`: a scan finds the first answer.
* `Catalog.owns_iff_of_responder`: the operations that are owned, given the first responder.
* `Catalog.operations_of_first_responder`: what the devices run together, for every list.
-/

namespace TieredDispatch

namespace TextMap

variable {β : Type}

/-- Where all keys have the same value, it stands beside each of them. -/
theorem valueAt_of_same_value (names : List String) (value : β) (key : String) :
    valueAt key (names.map fun name => (name, value)) = if key ∈ names then some value else none := by
  induction names with
  | nil => rfl
  | cons name rest ih =>
    rw [List.map_cons, valueAt, ih]
    by_cases hName : name = key
    · simp [hName]
    · simp [hName, Ne.symm hName]

theorem get?_ofList_of_same_value (s : TextSet) (value : β) (key : String) :
    (ofList (s.elems.map fun name => (name, value))).get? key = if key ∈ s then some value else none := by
  have hSorted : (s.elems.map fun name => (name, value)).Pairwise fun a b => a.1 < b.1 :=
    List.pairwise_map.mpr s.sorted
  rw [ofList, get?_insertAll _ hSorted, get?_empty, Option.or_none, valueAt_of_same_value]
  rfl

end TextMap

namespace Catalog

variable {c : Catalog} {g : Graph} {owner : String} {before devices : List DeviceId} {d : DeviceId}
  {answer : TextSet}

/-- Whether a device answers which operations of a graph it runs. -/
def Answers (c : Catalog) (g : Graph) (d : DeviceId) : Prop :=
  ∃ answer, c.operations d g = .ok answer

theorem not_answers_iff : ¬ c.Answers g d ↔ ∃ err, c.operations d g = .error err := by
  rw [Answers]
  cases c.operations d g <;> simp

theorem Unroutable.not_answers (h : c.Unroutable d) (g : Graph) : ¬ c.Answers g d :=
  not_answers_iff.mpr ⟨_, h.operations g⟩

/-! ## Scans -/

@[simp] theorem combine_empty (answer : TextSet) : combine .empty answer = answer := rfl

/-- A scan goes past the devices that do not answer. -/
theorem scanOperations_append (h : ∀ x ∈ before, ¬ c.Answers g x) (found : TextSet) (rest : List DeviceId) :
    c.scanOperations g found (before ++ rest) = c.scanOperations g found rest := by
  induction before with
  | nil => rfl
  | cons x before ih =>
    obtain ⟨hFirst, hBefore⟩ := List.forall_mem_cons.mp h
    obtain ⟨err, hFailed⟩ := not_answers_iff.mp hFirst
    simp only [List.cons_append, scanOperations, hFailed]
    exact ih hBefore

/-- A scan finds the first answer as it is given. -/
theorem scanOperations_eq (c : Catalog) (g : Graph) (devices : List DeviceId) :
    c.scanOperations g .empty devices =
      (devices.findSome? fun d => (c.operations d g).toOption).getD .empty := by
  induction devices with
  | nil => rfl
  | cons d rest ih =>
    rw [scanOperations, List.findSome?_cons]
    cases c.operations d g with
    | ok answer => rfl
    | error err => exact ih

theorem scanOperations_of_silent (h : ∀ x ∈ devices, ¬ c.Answers g x) :
    c.scanOperations g .empty devices = .empty := by
  have hPast := scanOperations_append h .empty []
  rwa [List.append_nil] at hPast

theorem scanOperations_of_responder (h : IsFirst (c.Answers g) devices d)
    (hAnswer : c.operations d g = .ok answer) : c.scanOperations g .empty devices = answer := by
  obtain ⟨-, before, after, rfl, hBefore⟩ := h
  rw [scanOperations_append hBefore, scanOperations, hAnswer]
  exact combine_empty answer

/-! ## Operations -/

/-- The operations that a device names as the first one are those that are owned. -/
theorem owns_iff_of_responder (h : IsFirst (c.Answers g) devices d) (hAnswer : c.operations d g = .ok answer)
    {name holder : String} :
    (c.supportedOperations devices g owner).get? name = some holder ↔ name ∈ answer ∧ holder = owner := by
  rw [supportedOperations, scanOperations_of_responder h hAnswer, TextMap.get?_ofList_of_same_value,
    Option.ite_none_right_eq_some, Option.some.injEq, eq_comm (a := owner)]

theorem supportedOperations_of_silent (h : ∀ x ∈ devices, ¬ c.Answers g x) :
    c.supportedOperations devices g owner = .empty := by
  rw [supportedOperations, scanOperations_of_silent h]
  rfl

/-- Lists with the same first responder have the same operations. -/
theorem supportedOperations_congr {devices' : List DeviceId} (h : IsFirst (c.Answers g) devices d)
    (h' : IsFirst (c.Answers g) devices' d) :
    c.supportedOperations devices' g owner = c.supportedOperations devices g owner := by
  obtain ⟨answer, hAnswer⟩ := h.1
  rw [supportedOperations, supportedOperations, scanOperations_of_responder h hAnswer,
    scanOperations_of_responder h' hAnswer]

/-- The operations that the devices of a list run are those that its first responder names, each with the
given owner.  There are none if no device answers, and also if the first responder names none, whatever those
after it run.  Only the first responder matters: other devices that do not answer may stand before it, as all
do that are not routed to a service, and any devices after it.  What the scan finds is the first answer as it
is given, so that nothing is ever intersected. -/
theorem operations_of_first_responder (c : Catalog) (g : Graph) (owner : String) (devices : List DeviceId) :
    ((∃ d, IsFirst (c.Answers g) devices d) ∨ ∀ d ∈ devices, ¬ c.Answers g d) ∧
    ((∀ d ∈ devices, ¬ c.Answers g d) → c.supportedOperations devices g owner = .empty) ∧
    (∀ d answer, IsFirst (c.Answers g) devices d → c.operations d g = .ok answer →
      (∀ name holder, (c.supportedOperations devices g owner).get? name = some holder ↔
        name ∈ answer ∧ holder = owner) ∧
      (answer = .empty → c.supportedOperations devices g owner = .empty) ∧
      ∀ before after, (∀ x ∈ before, ¬ c.Answers g x) →
        c.supportedOperations (before ++ d :: after) g owner = c.supportedOperations devices g owner) ∧
    (∀ d, ¬ c.Answers g d ↔ ∃ err, c.operations d g = .error err) ∧
    (∀ d, c.Unroutable d → ¬ c.Answers g d) ∧
    c.scanOperations g .empty devices =
      (devices.findSome? fun d => (c.operations d g).toOption).getD .empty := by
  refine ⟨IsFirst.exists_or_forall_not _ devices, supportedOperations_of_silent,
    fun d answer hFirst hAnswer => ⟨fun name holder => owns_iff_of_responder hFirst hAnswer, ?_, ?_⟩,
    fun d => not_answers_iff, fun d hUnroutable => hUnroutable.not_answers g, scanOperations_eq c g devices⟩
  · rintro rfl
    rw [supportedOperations, scanOperations_of_responder hFirst hAnswer]
    rfl
  · intro before after hBefore
    exact supportedOperations_congr hFirst ⟨hFirst.1, before, after, rfl, hBefore⟩

/-- A processor whose queries fail, an accelerator that runs nothing, and one that runs everything. -/
def reticent : Catalog :=
  ((empty.register ⟨"CPU"⟩ ((DeviceProfile.named "Host").failingQueries.service "host")).register ⟨"GPU"⟩
    (((DeviceProfile.named "Discrete (dGPU)").withSupportedTypes []).service "discrete")).register ⟨"VPUX"⟩
      ((DeviceProfile.named "Vision").service "vision")

/-- An accelerator that runs nothing answers for those after it, also past devices that do not answer. -/
theorem operations_of_first_responder_reticent :
    let g : Graph := ⟨"net", [⟨"conv", "Convolution", []⟩]⟩
    reticent.supportedOperations [⟨"GPU"⟩, ⟨"VPUX"⟩] g "AUTO" = .empty ∧
      reticent.supportedOperations [⟨"CPU"⟩, ⟨"NPU"⟩, ⟨"GPU"⟩] g "AUTO" = .empty ∧
      (reticent.supportedOperations [⟨"CPU"⟩, ⟨"VPUX"⟩, ⟨"GPU"⟩] g "AUTO").get? "conv" = some "AUTO" := by
  intro g
  have hDiscrete : reticent.operations ⟨"GPU"⟩ g = .ok .empty := rfl
  have hVision : reticent.operations ⟨"VPUX"⟩ g = .ok (.ofList ["conv"]) := rfl
  have hHost : ¬ reticent.Answers g ⟨"CPU"⟩ := not_answers_iff.mpr ⟨_, rfl⟩
  have hAbsent : ¬ reticent.Answers g ⟨"NPU"⟩ := not_answers_iff.mpr ⟨_, rfl⟩
  obtain ⟨-, hNone, hOthers⟩ :=
    (operations_of_first_responder reticent g "AUTO" [⟨"GPU"⟩, ⟨"VPUX"⟩]).2.2.1 ⟨"GPU"⟩ .empty
      ⟨⟨_, hDiscrete⟩, [], [⟨"VPUX"⟩], rfl, by simp⟩ hDiscrete
  have hBefore : ∀ x ∈ [DeviceId.mk "CPU", ⟨"NPU"⟩], ¬ reticent.Answers g x := by simp [hHost, hAbsent]
  refine ⟨hNone rfl, (hOthers [⟨"CPU"⟩, ⟨"NPU"⟩] [] hBefore).trans (hNone rfl), ?_⟩
  refine (((operations_of_first_responder reticent g "AUTO" [⟨"CPU"⟩, ⟨"VPUX"⟩, ⟨"GPU"⟩]).2.2.1 ⟨"VPUX"⟩ _
    ⟨⟨_, hVision⟩, [⟨"CPU"⟩], [⟨"GPU"⟩], rfl, by simp [hHost]⟩ hVision).1 "conv" "AUTO").mpr ⟨?_, rfl⟩
  exact TextSet.mem_ofList.mpr List.mem_cons_self

end Catalog

end TieredDispatch
