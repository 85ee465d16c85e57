import Mathlib.Data.List.Forall2
import TieredDispatch.Proofs.Catalog.Responder
import TieredDispatch.Proofs.CommandLine.Load

/-!
# The operations that a pool runs

A query goes to the first listed device that responds: one that is routed to a family of the pool whose queries
are not made to fail.  The operations of the graph are owned by the dispatcher whose names are those of
operations that this family runs by their types, and the program shows each operation with its owner.

* `Environment.Responds`, `Environment.Runs`: the devices that count, and what they run.
* `Environment.owns_iff`: the operations that the devices of a pool run.
* `Shown`: the line of an operation.
* `query_over_pool`: every query, from the settings to the owners and the lines.
-/

namespace TieredDispatch

/-! ## What families run -/

/-- Whether devices with a profile run the operations of a type: they run all types if none are declared. -/
def DeviceProfile.Runs (p : DeviceProfile) (typeName : String) : Prop :=
  ∀ types, p.supportedTypes = some types → typeName ∈ types

theorem DeviceProfile.supportsType_iff {p : DeviceProfile} {typeName : String} :
    p.supportsType typeName = true ↔ p.Runs typeName := by
  rw [supportsType, Runs]
  cases p.supportedTypes <;> simp

/-- The operations that a device names, unless its queries are made to fail. -/
theorem DeviceProfile.exists_operations {p : DeviceProfile} (h : p.failures.queries = false) (d : DeviceId)
    (g : Graph) : ∃ answer, p.operations d g = .ok answer ∧
      ∀ name, name ∈ answer ↔ ∃ op ∈ g.ops, op.name = name ∧ p.Runs op.typeName := by
  refine ⟨_, if_neg (by simp [h]), fun name => ?_⟩
  simp only [TextSet.mem_ofList, List.mem_map, List.mem_filter, supportsType_iff, and_right_comm, and_assoc]

namespace Environment

variable {e : Environment} {d : DeviceId} {entry : FamilyEntry} {g : Graph} {devices : List DeviceId}
  {name owner holder : String}

/-! ## Responders -/

/-- Whether a device is routed to a family of the pool whose queries are not made to fail. -/
def RespondsAs (e : Environment) (d : DeviceId) (entry : FamilyEntry) : Prop :=
  entry ∈ e.devices ∧ e.catalog.RoutesTo d entry.service ∧ entry.profile.failures.queries = false

def Responds (e : Environment) (d : DeviceId) : Prop :=
  ∃ entry, e.RespondsAs d entry

/-- Whether the first device of a list that responds runs, by its type, an operation of a graph with the given
name. -/
def Runs (e : Environment) (devices : List DeviceId) (g : Graph) (name : String) : Prop :=
  ∃ d entry, IsFirst e.Responds devices d ∧ e.RespondsAs d entry ∧
    ∃ op ∈ g.ops, op.name = name ∧ entry.profile.Runs op.typeName

theorem RespondsAs.exists_operations (h : e.RespondsAs d entry) (g : Graph) :
    ∃ answer, e.catalog.operations d g = .ok answer ∧
      ∀ name, name ∈ answer ↔ ∃ op ∈ g.ops, op.name = name ∧ entry.profile.Runs op.typeName := by
  obtain ⟨-, hRoute, hQueries⟩ := h
  rw [hRoute.operations]
  exact DeviceProfile.exists_operations hQueries d g

/-- The devices that answer are those that respond, whatever the graph. -/
theorem answers_iff (hAccepted : e.error? = none) : e.catalog.Answers g d ↔ e.Responds d := by
  constructor
  · rintro ⟨answer, hAnswer⟩
    have hService := serviceFor?_catalog hAccepted d
    cases hEntry : e.entryFor? d with
    | none =>
      rw [hEntry] at hService
      exact absurd ⟨answer, hAnswer⟩ ((Catalog.unroutable_of_serviceFor? hService).not_answers g)
    | some entry =>
      rw [hEntry] at hService
      have hRoute := Catalog.routesTo_iff.mpr hService
      refine ⟨entry, mem_of_entryFor? hEntry, hRoute, ?_⟩
      -- a query that is made to fail is not answered
      by_contra hFails
      rw [hRoute.operations] at hAnswer
      simp [FamilyEntry.service, DeviceProfile.service, DeviceProfile.operations, hFails] at hAnswer
  · rintro ⟨entry, hEntry⟩
    obtain ⟨answer, hAnswer, -⟩ := hEntry.exists_operations g
    exact ⟨answer, hAnswer⟩

theorem isFirst_answers_iff (hAccepted : e.error? = none) :
    IsFirst (e.catalog.Answers g) devices d ↔ IsFirst e.Responds devices d := by
  simp only [IsFirst, answers_iff hAccepted]

/-- The operations that the devices of a pool run. -/
theorem owns_iff (hAccepted : e.error? = none) :
    (e.catalog.supportedOperations devices g owner).get? name = some holder ↔
      holder = owner ∧ e.Runs devices g name := by
  constructor
  · intro hOwned
    rcases IsFirst.exists_or_forall_not (e.catalog.Answers g) devices with ⟨d, hFirst⟩ | hSilent
    · obtain ⟨entry, hEntry⟩ := (answers_iff hAccepted).mp hFirst.1
      obtain ⟨answer, hAnswer, hMem⟩ := hEntry.exists_operations g
      obtain ⟨hName, hHolder⟩ := (Catalog.owns_iff_of_responder hFirst hAnswer).mp hOwned
      exact ⟨hHolder, d, entry, (isFirst_answers_iff hAccepted).mp hFirst, hEntry, (hMem name).mp hName⟩
    · rw [Catalog.supportedOperations_of_silent hSilent] at hOwned
      cases hOwned
  · rintro ⟨rfl, d, entry, hFirst, hEntry, hOp⟩
    obtain ⟨answer, hAnswer, hMem⟩ := hEntry.exists_operations g
    exact (Catalog.owns_iff_of_responder ((isFirst_answers_iff hAccepted).mpr hFirst) hAnswer).mpr
      ⟨(hMem name).mpr hOp, rfl⟩

theorem supportedOperations_of_no_responder (hAccepted : e.error? = none)
    (h : ∀ d ∈ devices, ¬ e.Responds d) : e.catalog.supportedOperations devices g owner = .empty :=
  Catalog.supportedOperations_of_silent fun d hd => mt (answers_iff hAccepted).mp (h d hd)

end Environment

/-! ## Queries -/

/-- The settings of a query are merged, but not validated. -/
theorem Dispatcher.query_eq {d : Dispatcher} {c : Catalog} {g : Graph} {request : Config}
    {devices : List DeviceId} (hCatalog : d.catalog = some c) (hOps : g.ops ≠ [])
    (hDevices : c.listDevices (d.stored.merge request) = .ok devices) :
    d.query g request = .ok (c.supportedOperations devices g name) := by
  have hSome : g.ops.isEmpty = false := List.isEmpty_eq_false_iff.mpr hOps
  simp only [query, attached, hCatalog, bind, Except.bind, hSome, Bool.false_eq_true, if_false, hDevices]
  rfl

namespace CommandLine

variable {e : Environment} {request : Config} {g : Graph} {devices : List DeviceId}

/-- The line of an operation, which tells whether the devices of a list run an operation of its name. -/
inductive Shown (e : Environment) (devices : List DeviceId) (g : Graph) (op : Operation) : String → Prop
  | owned : e.Runs devices g op.name →
      Shown e devices g op
        (Text.padRight 24 op.name ++ " " ++ Text.padRight 24 op.typeName ++ " " ++ "AUTO")
  | free : ¬ e.Runs devices g op.name →
      Shown e devices g op
        (Text.padRight 24 op.name ++ " " ++ Text.padRight 24 op.typeName ++ " " ++ "-")

/-- An operation has one line. -/
theorem Shown.unique {op : Operation} {line line' : String} (h : Shown e devices g op line)
    (h' : Shown e devices g op line') : line = line' := by
  cases h with
  | owned hRuns =>
    cases h' with
    | owned => rfl
    | free hNot => exact absurd hRuns hNot
  | free hNot =>
    cases h' with
    | owned hRuns => exact absurd hRuns hNot
    | free => rfl

theorem shown_operationLine {owners : TextMap String}
    (h : ∀ name owner, owners.get? name = some owner ↔ owner = Dispatcher.name ∧ e.Runs devices g name)
    (op : Operation) : Shown e devices g op (operationLine owners op) := by
  rw [operationLine]
  cases hOwner : owners.get? op.name with
  | some owner =>
    obtain ⟨rfl, hRuns⟩ := (h op.name owner).mp hOwner
    exact .owned hRuns
  | none =>
    refine .free fun hRuns => ?_
    rw [(h op.name _).mpr ⟨rfl, hRuns⟩] at hOwner
    cases hOwner

/-- A query over a pool.  It is answered for every graph with an operation, under whatever settings as long as
devices are listed.  The operations are owned, all by the dispatcher, whose names are those of operations with
a type that the first responding device runs, and none are if no device responds.  The program shows each
operation of the graph on a line, in order, with the dispatcher or with nobody as its owner. -/
theorem query_over_pool (hAccepted : e.error? = none) (hStored : e.config.validate = .ok ())
    (hOps : g.ops ≠ []) (hDevices : e.catalog.listDevices (e.config.merge request) = .ok devices) :
    (∃ s owners, openSession e = .ok s ∧ s.dispatcher.query g request = .ok owners ∧
      (∀ name owner, owners.get? name = some owner ↔ owner = "AUTO" ∧ e.Runs devices g name) ∧
      ((∀ d ∈ devices, ¬ e.Responds d) → owners = .empty)) ∧
    ∀ world arguments i path, Invocation.parse arguments = .ok i →
      resolveEnvironment world i.environment = .ok e → Config.ofPairs i.settings = .ok request →
      i.action = .query path → readGraph world path = .ok g →
      ∃ lines, run world arguments = .printed lines ∧ List.Forall₂ (Shown e devices g) g.ops lines := by
  have hQuery : (poolSession e).dispatcher.query g request =
      .ok (e.catalog.supportedOperations devices g Dispatcher.name) :=
    Dispatcher.query_eq (d := poolDispatcher e) rfl hOps hDevices
  refine ⟨⟨poolSession e, _, openSession_eq hStored, hQuery, fun name owner => Environment.owns_iff hAccepted,
    Environment.supportedOperations_of_no_responder hAccepted⟩, ?_⟩
  intro world arguments i path hParse hEnvironment hRequest hAction hGraph
  have hLines : i.action.lines world (poolSession e) request =
      .ok (g.ops.map (operationLine (e.catalog.supportedOperations devices g Dispatcher.name))) := by
    simp only [hAction, Action.lines, hGraph, bind, Except.bind, queryLines, hQuery, orFail]
    rfl
  refine ⟨_, by rw [run_eq hParse hEnvironment hStored hRequest, hLines, Outcome.ofRun], ?_⟩
  rw [List.forall₂_map_right_iff, List.forall₂_same]
  exact fun op _ => shown_operationLine (fun name owner => Environment.owns_iff hAccepted) op

/-- The environment file of a processor whose queries fail and of an accelerator that runs convolutions; its
settings list the processor alone. -/
def convolverText : String :=
  "\x7b\"devices\": [\x7b\"family\": \"CPU\", \"full_name\": \"Host\", " ++
    "\"failures\": \x7b\"queries\": true\x7d\x7d, \x7b\"family\": \"GPU\", " ++
    "\"full_name\": \"Discrete (dGPU)\", \"supported_types\": [\"Convolution\"]\x7d], " ++
    "\"config\": \x7b\"AUTO_DEVICE_LIST\": \"CPU\"\x7d\x7d"

/-- What this file describes. -/
def convolver : Environment where
  devices := [⟨"CPU", (DeviceProfile.named "Host").failingQueries⟩,
    ⟨"GPU", (DeviceProfile.named "Discrete (dGPU)").withSupportedTypes ["Convolution"]⟩]
  groups := .empty
  tiers := none
  config := .ofList [("AUTO_DEVICE_LIST", "CPU")]

/-- The file of a graph with two operations of one name. -/
def stemText : String :=
  "\x7b\"name\": \"net\", \"ops\": [\x7b\"name\": \"stem\", \"type_name\": \"Relu\"\x7d, " ++
    "\x7b\"name\": \"stem\", \"type_name\": \"Convolution\"\x7d, " ++
    "\x7b\"name\": \"top\", \"type_name\": \"Relu\"\x7d]\x7d"

/-- What this file describes. -/
def stem : Graph :=
  ⟨"net", [⟨"stem", "Relu", []⟩, ⟨"stem", "Convolution", []⟩, ⟨"top", "Relu", []⟩]⟩

/-- The accelerator answers for a device that is not there and for the processor.  It owns both operations of
the name of a convolution, and no other one. -/
theorem query_over_pool_repeated :
    run ⟨fun _ => .text stemText, .text convolverText, "w-1"⟩
        ["-c", "AUTO_DEVICE_LIST=NPU,CPU,GPU", "query", "-g", "net.json"] =
      .printed [
        "stem                     Relu                     AUTO",
        "stem                     Convolution              AUTO",
        "top                      Relu                     -"] := by
  have hAccepted : convolver.error? = none := by decide +kernel
  obtain ⟨lines, hRun, hLines⟩ := (@query_over_pool convolver
    (.ofList [("AUTO_DEVICE_LIST", "NPU,CPU,GPU")]) stem [⟨"NPU"⟩, ⟨"CPU"⟩, ⟨"GPU"⟩]
    hAccepted rfl (by simp [stem]) rfl).2 ⟨fun _ => .text stemText, .text convolverText, "w-1"⟩
    ["-c", "AUTO_DEVICE_LIST=NPU,CPU,GPU", "query", "-g", "net.json"]
    ⟨none, ["AUTO_DEVICE_LIST=NPU,CPU,GPU"], false, .query "net.json"⟩ "net.json" rfl
    (eq_ok_of_toOption (by decide +kernel)) rfl rfl (eq_ok_of_toOption (by decide +kernel))
  have hDiscrete : convolver.RespondsAs ⟨"GPU"⟩ _ :=
    ⟨List.mem_cons_of_mem _ List.mem_cons_self, Catalog.routesTo_iff.mpr rfl, rfl⟩
  have hSilent : ∀ d ∈ [DeviceId.mk "NPU", ⟨"CPU"⟩], ¬ convolver.Responds d := by
    have hNone : ∀ d ∈ [DeviceId.mk "NPU", ⟨"CPU"⟩], (convolver.catalog.operations d stem).toOption = none := by
      decide +kernel
    rintro d hd hResponds
    obtain ⟨answer, hAnswer⟩ := (Environment.answers_iff (g := stem) hAccepted).mpr hResponds
    have hNoAnswer := hNone d hd
    rw [hAnswer] at hNoAnswer
    cases hNoAnswer
  have hFirst : IsFirst convolver.Responds [⟨"NPU"⟩, ⟨"CPU"⟩, ⟨"GPU"⟩] ⟨"GPU"⟩ :=
    ⟨⟨_, hDiscrete⟩, [⟨"NPU"⟩, ⟨"CPU"⟩], [], rfl, hSilent⟩
  have hStem : convolver.Runs [⟨"NPU"⟩, ⟨"CPU"⟩, ⟨"GPU"⟩] stem "stem" := by
    refine ⟨_, _, hFirst, hDiscrete, ⟨"stem", "Convolution", []⟩, by decide, rfl, fun types hTypes => ?_⟩
    cases hTypes
    exact List.mem_cons_self
  have hTop : ¬ convolver.Runs [⟨"NPU"⟩, ⟨"CPU"⟩, ⟨"GPU"⟩] stem "top" := by
    intro hRuns
    have hOwned := (@Environment.owns_iff convolver stem [⟨"NPU"⟩, ⟨"CPU"⟩, ⟨"GPU"⟩] "top" "AUTO" "AUTO"
      hAccepted).mpr ⟨rfl, hRuns⟩
    exact absurd hOwned (by decide +kernel)
  have hShown : List.Forall₂ (Shown convolver [⟨"NPU"⟩, ⟨"CPU"⟩, ⟨"GPU"⟩] stem) stem.ops _ :=
    .cons (.owned hStem) (.cons (.owned hStem) (.cons (.free hTop) .nil))
  obtain rfl := Relator.RightUnique.forall₂ (fun _ _ _ h h' => h.unique h') hLines hShown
  rw [hRun]
  exact congrArg Outcome.printed (by decide +kernel)

end CommandLine

end TieredDispatch
