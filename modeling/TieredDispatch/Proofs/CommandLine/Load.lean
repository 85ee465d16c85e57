import TieredDispatch.CommandLine.Run
import TieredDispatch.Proofs.Config.Merge
import TieredDispatch.Proofs.Environment.Latency
import TieredDispatch.Proofs.Session.Wait

/-!
# The load of a run

A run that loads a model reads an environment, opens a session over its pool, loads the model there and
waits for every slot.  So it is the dispatcher's load, and the outcomes of the compiles, that decide
what the run comes to.

* `run_eq`, `run_of_load`: a run, and one that loads a model, with files and settings out of the way.
* `loadLines_pool`: what a load over a pool comes to.
* `Settles`: the outcome of a run, given the devices of the slots.
* `load_over_pool`: every run that loads a model, from its arguments to its outcome.
-/

namespace TieredDispatch

/-! ## Slots over a pool -/

namespace Slot

variable {e : Environment} {x : Slot}

theorem fate_of_compiles (h : e.Compiles x.device) (model : ModelSource) :
    x.fate e.catalog model = .ok ⟨x.device, model.modelName⟩ := by
  rw [fate, Environment.outcome_of_compiles h]
  rfl

theorem fate_of_failsWith {reason : String} (h : e.FailsWith x.device reason) (model : ModelSource) :
    x.fate e.catalog model = .error (x.failure reason) := by
  obtain ⟨err, hRefused, rfl⟩ := Environment.outcome_of_failsWith h model .empty
  rw [fate, hRefused]
  rfl

end Slot

namespace CommandLine

variable {world world' : Surroundings} {arguments : List String} {i : Invocation} {e : Environment}
variable {request : Config} {model : ModelSource}

/-! ## Opening a session -/

/-- What the program ends with after a run. -/
def Outcome.ofRun : Except RunError (List String) → Outcome
  | .ok lines => .printed lines
  | .error err => .failed err

/-- The session that a run opens over a pool. -/
def poolSession (e : Environment) : Session :=
  { (Session.initial .empty e.tierTable (some catalogName)).setCatalog catalogName e.catalog with
    stored := e.config }

theorem openSession_eq (h : e.config.validate = .ok ()) : openSession e = .ok (poolSession e) := by
  have hSession : openSession e =
      .ok { poolSession e with stored := Config.merge .empty e.config } := by
    simp only [openSession, Dispatcher.setConfig, h]
    rfl
  rw [hSession, Config.empty_merge]
  rfl

/-- Only accepted environments are used. -/
theorem accepted_of_resolve {named : Option String} (h : resolveEnvironment world named = .ok e) :
    e.error? = none := by
  have hParse : ∀ text, parseEnvironment text = .ok e → e.error? = none := by
    intro text hText
    rw [parseEnvironment] at hText
    split at hText
    · next e' hOk =>
      cases hText
      exact (Environment.parse_eq_ok_iff.mp hOk).2
    · cases hText
  cases named with
  | some path =>
    rw [resolveEnvironment] at h
    split at h
    · exact hParse _ h
    · cases h
  | none =>
    rw [resolveEnvironment] at h
    split at h
    · exact hParse _ h
    · cases h
    · cases h
      rfl

/-- The model that an action loads, if it loads one that it can read. -/
def Action.model? (world : Surroundings) : Action → Option ModelSource
  | loadGraph path => (readGraph world path).toOption.map .graph
  | loadPath path => some (.path path)
  | _ => none

theorem Action.lines_of_model? {action : Action} (h : action.model? world = some model)
    (s : Session) (request : Config) :
    action.lines world s request = loadLines s world.workloadId model request := by
  cases action with
  | loadPath path =>
    cases h
    rfl
  | loadGraph path =>
    rw [model?] at h
    rw [lines]
    cases hGraph : readGraph world path with
    | error err =>
      rw [hGraph] at h
      cases h
    | ok g =>
      rw [hGraph] at h
      cases h
      rfl
  | devices => cases h
  | select wanted => cases h
  | classify path => cases h
  | query path => cases h
  | metric name => cases h

/-- A run follows its action in a session over the pool, with its settings out of the way. -/
theorem run_eq (hParse : Invocation.parse arguments = .ok i)
    (hEnvironment : resolveEnvironment world i.environment = .ok e)
    (hStored : e.config.validate = .ok ()) (hRequest : Config.ofPairs i.settings = .ok request) :
    run world arguments = .ofRun (i.action.lines world (poolSession e) request) := by
  have hRun : i.run world = i.action.lines world (poolSession e) request := by
    rw [Invocation.run, hEnvironment]
    simp only [bind, Except.bind, openSession_eq hStored, hRequest]
  simp only [run, hParse, hRun]
  cases i.action.lines world (poolSession e) request <;> rfl

/-- A run that loads a model, with its files and its settings out of the way. -/
theorem run_of_load (hParse : Invocation.parse arguments = .ok i)
    (hEnvironment : resolveEnvironment world i.environment = .ok e)
    (hStored : e.config.validate = .ok ()) (hRequest : Config.ofPairs i.settings = .ok request)
    (hModel : i.action.model? world = some model) :
    run world arguments =
      .ofRun (loadLines (poolSession e) world.workloadId model request) := by
  rw [run_eq hParse hEnvironment hStored hRequest, Action.lines_of_model? hModel]

/-! ## Loading over a pool -/

/-- The line for a workload that is served by a device. -/
def servedLine (id : String) (accelerator : Option DeviceId) (perfCount : Bool)
    (serving : DeviceId) : String :=
  "workload " ++ id ++ " served by " ++ serving.text ++ " (accelerator " ++
    (accelerator.map DeviceId.text).getD "none" ++ ", perf_count=" ++
    (if perfCount then "true" else "false") ++ ")"

theorem workloadLine_eq (id : String) (w : Workload) (serving : CompiledModel) :
    workloadLine id w serving =
      servedLine id (w.accelerator.map Slot.device) w.perfCount serving.device := by
  obtain ⟨processor, accelerator, perfCount⟩ := w
  cases accelerator <;> rfl

/-- The dispatcher that a run finds over a pool. -/
def poolDispatcher (e : Environment) : Dispatcher :=
  ⟨e.tierTable, e.config, some e.catalog⟩

/-- What a load over a pool comes to: an error of the dispatcher, or else what the compiles of the
workload come to. -/
theorem loadLines_pool (e : Environment) (id : String) (model : ModelSource) (request : Config) :
    loadLines (poolSession e) id model request =
      match ((poolDispatcher e).load model request).2 with
      | .error err => .error (.dispatch err)
      | .ok w =>
        (orFail (w.verdict (Slot.fate e.catalog model))).map fun serving =>
          [servedLine id (w.accelerator.map Slot.device) w.perfCount serving.device] := by
  cases hLoad : ((poolDispatcher e).load model request).2 with
  | error err =>
    have hFailed := Session.load_of_error (s := poolSession e) ((Session.snd_load _ _ _).trans hLoad)
    simp only [loadLines, hFailed]
    rfl
  | ok w =>
    have hPair : (poolSession e).load model request =
        (((poolSession e).load model request).1, .ok w) := by
      rw [Session.load_of_ok (s := poolSession e) hLoad]
    have hWorkload : (((poolSession e).load model request).1.waitForAll
        (poolSession e).loads.length).workload? (poolSession e).loads.length =
          some (w.awaited e.catalog (poolSession e).clock) :=
      Session.workload?_load (s := poolSession e) hLoad
    have hSettled := Workload.settle?_awaited (Dispatcher.spawned_of_load hLoad) e.catalog
      (poolSession e).clock
    rw [loadLines, hPair]
    simp only [orFail, bind, Except.bind]
    rw [hWorkload]
    -- the line does not tell the workload that was waited for from the one that was loaded
    simp only [hSettled, workloadLine_eq, w.accelerator_device_awaited, w.perfCount_awaited]
    cases w.verdict (Slot.fate e.catalog model) <;> rfl

/-! ## Outcomes -/

/-- How a run with an accelerator slot and a processor slot on the given devices, each of which may be
absent, ends over a pool. -/
inductive Settles (e : Environment) (line : DeviceId → String) :
    Option DeviceId → Option DeviceId → Outcome → Prop
  /-- The accelerator is preferred. -/
  | accelerator {a : DeviceId} (p : Option DeviceId) :
      e.Compiles a → Settles e line (some a) p (.printed [line a])
  /-- The processor serves if there is no accelerator, or if that fails. -/
  | processor {p : DeviceId} (a : Option DeviceId) :
      (∀ d, a = some d → ¬ e.Compiles d) → e.Compiles p →
        Settles e line a (some p) (.printed [line p])
  /-- A failure of the only slot is reported alone. -/
  | accelerator_failed {a : DeviceId} {reason : String} :
      e.FailsWith a reason →
        Settles e line (some a) none (.failed (.dispatch (.compileFailed ⟨.accelerator, a, reason⟩)))
  | processor_failed {p : DeviceId} {reason : String} :
      e.FailsWith p reason →
        Settles e line none (some p) (.failed (.dispatch (.compileFailed ⟨.processor, p, reason⟩)))
  /-- Of two failures that of the accelerator comes first. -/
  | both_failed {a p : DeviceId} {reason reason' : String} :
      e.FailsWith a reason → e.FailsWith p reason' →
        Settles e line (some a) (some p) (.failed (.dispatch (.allSlotsFailed
          [⟨.accelerator, a, reason⟩, ⟨.processor, p, reason'⟩])))

/-- The devices of the slots leave no choice. -/
theorem Settles.unique {line : DeviceId → String} {a p : Option DeviceId} {outcome outcome' : Outcome}
    (h : Settles e line a p outcome) (h' : Settles e line a p outcome') : outcome = outcome' := by
  cases h with
  | accelerator p hCompiles =>
    cases h' with
    | accelerator => rfl
    | processor a hNot => exact absurd hCompiles (hNot _ rfl)
    | accelerator_failed hFails => exact absurd hCompiles hFails.not_compiles
    | both_failed hFails => exact absurd hCompiles hFails.not_compiles
  | processor a hNot hCompiles =>
    cases h' with
    | accelerator p hCompiles' => exact absurd hCompiles' (hNot _ rfl)
    | processor => rfl
    | processor_failed hFails => exact absurd hCompiles hFails.not_compiles
    | both_failed hFails hFails' => exact absurd hCompiles hFails'.not_compiles
  | accelerator_failed hFails =>
    cases h' with
    | accelerator p hCompiles => exact absurd hCompiles hFails.not_compiles
    | accelerator_failed hFails' => rw [hFails.unique hFails']
  | processor_failed hFails =>
    cases h' with
    | processor a hNot hCompiles => exact absurd hCompiles hFails.not_compiles
    | processor_failed hFails' => rw [hFails.unique hFails']
  | both_failed hFails hFails' =>
    cases h' with
    | accelerator p hCompiles => exact absurd hCompiles hFails.not_compiles
    | processor a hNot hCompiles => exact absurd hCompiles hFails'.not_compiles
    | both_failed hOther hOther' => rw [hFails.unique hOther, hFails'.unique hOther']

/-- A run ends well exactly when one of its devices compiles. -/
theorem Settles.exitCode_eq_zero_iff {line : DeviceId → String} {a p : Option DeviceId}
    {outcome : Outcome} (h : Settles e line a p outcome) :
    outcome.exitCode = 0 ↔ ∃ d, (a = some d ∨ p = some d) ∧ e.Compiles d := by
  cases h with
  | accelerator p hCompiles => exact iff_of_true rfl ⟨_, Or.inl rfl, hCompiles⟩
  | processor a hNot hCompiles => exact iff_of_true rfl ⟨_, Or.inr rfl, hCompiles⟩
  | accelerator_failed hFails =>
    refine iff_of_false Nat.one_ne_zero ?_
    rintro ⟨d, hd | hd, hCompiles⟩
    · cases hd
      exact hFails.not_compiles hCompiles
    · cases hd
  | processor_failed hFails =>
    refine iff_of_false Nat.one_ne_zero ?_
    rintro ⟨d, hd | hd, hCompiles⟩
    · cases hd
    · cases hd
      exact hFails.not_compiles hCompiles
  | both_failed hFails hFails' =>
    refine iff_of_false Nat.one_ne_zero ?_
    rintro ⟨d, hd | hd, hCompiles⟩
    · cases hd
      exact hFails.not_compiles hCompiles
    · cases hd
      exact hFails'.not_compiles hCompiles

/-- What the compiles of a workload come to, slot by slot. -/
theorem settles_verdict (hAccepted : e.error? = none) (line : DeviceId → String) {w : Workload}
    {a p : Option DeviceId}
    (hAccelerator : w.accelerator = a.map fun d => Slot.spawn .accelerator d model)
    (hProcessor : w.processor = p.map fun d => Slot.spawn .processor d model)
    (hSlots : w.slots ≠ []) :
    Settles e line a p (.ofRun ((orFail (w.verdict (Slot.fate e.catalog model))).map fun serving =>
      [line serving.device])) := by
  have hList : w.slots = (a.map fun d => Slot.spawn .accelerator d model).toList ++
      (p.map fun d => Slot.spawn .processor d model).toList := by
    rw [Workload.slots, hAccelerator, hProcessor]
  have hGood : ∀ (kind : SlotKind) (d : DeviceId), e.Compiles d →
      (Slot.spawn kind d model).fate e.catalog model = .ok ⟨d, model.modelName⟩ :=
    fun kind d h => Slot.fate_of_compiles (x := Slot.spawn kind d model) h model
  have hBad : ∀ (kind : SlotKind) (d : DeviceId) (reason : String), e.FailsWith d reason →
      (Slot.spawn kind d model).fate e.catalog model = .error ⟨kind, d, reason⟩ :=
    fun kind d reason h => Slot.fate_of_failsWith (x := Slot.spawn kind d model) h model
  cases a with
  | none =>
    cases p with
    | none => exact absurd hList hSlots
    | some p =>
      rw [Workload.verdict_of_single hList]
      rcases Environment.compiles_or_failsWith hAccepted p with hp | ⟨reason, hp⟩
      · rw [hGood _ _ hp]
        exact .processor none (fun _ h => by cases h) hp
      · rw [hBad _ _ _ hp]
        exact .processor_failed hp
  | some a =>
    rcases Environment.compiles_or_failsWith hAccepted a with ha | ⟨reason, ha⟩
    · cases p with
      | none =>
        rw [Workload.verdict_of_single hList, hGood _ _ ha]
        exact .accelerator none ha
      | some p =>
        rw [Workload.verdict_of_pair hList, hGood _ _ ha]
        exact .accelerator (some p) ha
    · cases p with
      | none =>
        rw [Workload.verdict_of_single hList, hBad _ _ _ ha]
        exact .accelerator_failed ha
      | some p =>
        rw [Workload.verdict_of_pair hList, hBad _ _ _ ha]
        rcases Environment.compiles_or_failsWith hAccepted p with hp | ⟨reason', hp⟩
        · rw [hGood _ _ hp]
          refine .processor (some a) ?_ hp
          intro d hd
          cases hd
          exact ha.not_compiles
        · rw [hBad _ _ _ hp]
          exact .both_failed ha hp

/-- What the workload of a load that chose a device comes to. -/
theorem settles_workloadOn (hAccepted : e.error? = none) (id : String) {r : Dispatcher.Request}
    {x : DeviceId}
    (hSelect : ((poolDispatcher e).selector r.catalog).select r.devices
      (Dispatcher.wantedFor model) = .ok x) :
    let w := (poolDispatcher e).workloadOn model r x
    let accelerator := if e.tierTable.isProcessor x then none else some x
    Settles e (servedLine id accelerator r.config.perfCount) accelerator
      (r.devices.find? e.tierTable.isProcessor)
      (.ofRun ((orFail (w.verdict (Slot.fate e.catalog model))).map fun serving =>
        [servedLine id (w.accelerator.map Slot.device) w.perfCount serving.device])) := by
  intro w accelerator
  have hPlaced := Dispatcher.placed_workloadOn (d := poolDispatcher e) hSelect
  have hAccelerator : w.accelerator.map Slot.device = accelerator := hPlaced.accelerator_device
  rw [hAccelerator]
  exact settles_verdict hAccepted _ ((poolDispatcher e).accelerator_workloadOn model r x) rfl
    hPlaced.slots_ne_nil

/-! ## Latencies -/

theorem fate_withLatencies (hAccepted : e.error? = none) (latency : FamilyEntry → UInt64)
    (model : ModelSource) :
    Slot.fate (e.withLatencies latency).catalog model = Slot.fate e.catalog model := by
  funext x
  rw [Slot.fate, Slot.fate, Environment.outcome_withLatencies hAccepted]

/-- How long compiles take does not show in what a load over a pool comes to. -/
theorem loadLines_withLatencies (hAccepted : e.error? = none) (latency : FamilyEntry → UInt64)
    (id : String) (model : ModelSource) (request : Config) :
    loadLines (poolSession (e.withLatencies latency)) id model request =
      loadLines (poolSession e) id model request := by
  have hLoad : (poolDispatcher (e.withLatencies latency)).load model request =
      (poolDispatcher e).load model request :=
    Dispatcher.load_congr e.tierTable e.config
      (Environment.listDevices_withLatencies hAccepted latency)
      (Environment.lookup_withLatencies hAccepted latency) model request
  rw [loadLines_pool, loadLines_pool, hLoad, fate_withLatencies hAccepted]

/-! ## From the arguments to the outcome -/

/-- Every run that loads a model, from its arguments to its outcome.  It fails with the error of the
device list or of the choice, if one of these has one.  Else the first listed processor is the device
of the processor slot, and the chosen device that of the accelerator slot unless it is a processor; the
run ends well exactly when a device of a slot compiles, and in the way in which these devices settle.
How long compiles take never shows. -/
theorem load_over_pool (hParse : Invocation.parse arguments = .ok i)
    (hEnvironment : resolveEnvironment world i.environment = .ok e)
    (hStored : e.config.validate = .ok ()) (hRequest : Config.ofPairs i.settings = .ok request)
    (hConfig : (e.config.merge request).validate = .ok ())
    (hModel : i.action.model? world = some model) (hInput : Dispatcher.checkInput model = .ok ()) :
    (∀ err, e.catalog.listDevices (e.config.merge request) = .error err →
      err = .noDevicesAvailable ∧ run world arguments = .failed (.dispatch err)) ∧
    (∀ devices err, e.catalog.listDevices (e.config.merge request) = .ok devices →
      Selector.select ⟨e.tierTable, e.catalog.lookup⟩ devices (Dispatcher.wantedFor model) =
          .error err →
        run world arguments = .failed (.dispatch (.selection err))) ∧
    (∀ devices x, e.catalog.listDevices (e.config.merge request) = .ok devices →
      Selector.select ⟨e.tierTable, e.catalog.lookup⟩ devices (Dispatcher.wantedFor model) = .ok x →
        let processor := devices.find? e.tierTable.isProcessor
        let accelerator := if e.tierTable.isProcessor x then none else some x
        let perfCount :=
          e.config.contains Config.perfCountKey || request.contains Config.perfCountKey
        ((run world arguments).exitCode = 0 ↔
          ∃ d, (accelerator = some d ∨ processor = some d) ∧ e.Compiles d) ∧
        Settles e (servedLine world.workloadId accelerator perfCount) accelerator processor
          (run world arguments)) ∧
    (∀ (latency : FamilyEntry → UInt64) (world' : Surroundings),
      world'.workloadId = world.workloadId →
      resolveEnvironment world' i.environment = .ok (e.withLatencies latency) →
      i.action.model? world' = some model → run world' arguments = run world arguments) := by
  have hAccepted := accepted_of_resolve hEnvironment
  have hRun := run_of_load hParse hEnvironment hStored hRequest hModel
  have hLines := loadLines_pool e world.workloadId model request
  have hPrepare := @Dispatcher.prepare_eq (poolDispatcher e) model request e.catalog rfl hInput
  have hMerged : (poolDispatcher e).stored.merge request = e.config.merge request := rfl
  -- the settings are valid, so the checks of the load come down to the list of devices
  rw [hMerged, hConfig] at hPrepare
  refine ⟨?_, ?_, ?_, ?_⟩
  · intro err hDevices
    rw [hDevices] at hPrepare
    rw [Dispatcher.load_of_not_prepared hPrepare] at hLines
    rw [hRun, hLines]
    exact ⟨Dispatcher.listDevices_error hDevices, rfl⟩
  · intro devices err hDevices hSelect
    rw [hDevices] at hPrepare
    rw [Dispatcher.load_of_refused hPrepare hSelect] at hLines
    rw [hRun, hLines]
    rfl
  · intro devices x hDevices hSelect processor accelerator perfCount
    rw [hDevices] at hPrepare
    rw [Dispatcher.load_of_selected hPrepare hSelect] at hLines
    have hPerfCount : (e.config.merge request).perfCount = perfCount :=
      Config.contains_merge e.config request Config.perfCountKey
    have hSettles : Settles e (servedLine world.workloadId accelerator perfCount) accelerator processor
        (run world arguments) := by
      rw [hRun, hLines, ← hPerfCount]
      exact settles_workloadOn (r := ⟨e.catalog, e.config.merge request, devices⟩) hAccepted
        world.workloadId hSelect
    exact ⟨hSettles.exitCode_eq_zero_iff, hSettles⟩
  · intro latency world' hId hEnvironment' hModel'
    rw [run_of_load hParse hEnvironment' hStored hRequest hModel', hRun, hId,
      loadLines_withLatencies hAccepted]

/-- The environment file of a processor and of an accelerator on which every compile fails, after a
time in milliseconds. -/
def stalledPoolText (latency : String) : String :=
  "\x7b\"devices\": [\x7b\"family\": \"CPU\", \"full_name\": \"Host\"\x7d, \x7b\"family\": \"GPU\", " ++
    "\"full_name\": \"Discrete (dGPU)\", \"failures\": \x7b\"compile\": \"driver\"\x7d, " ++
    "\"compile_latency_ms\": " ++ latency ++ "\x7d]\x7d"

/-- What this file describes. -/
def stalledPool : Environment where
  devices := [⟨"CPU", .named "Host"⟩,
    ⟨"GPU", (DeviceProfile.named "Discrete (dGPU)").failingCompile "driver"⟩]
  groups := .empty
  tiers := none
  config := .empty

/-- The surroundings of a user whose environment file is this. -/
def stalledSurroundings (latency : String) : Surroundings :=
  ⟨fun _ => .absent, .text (stalledPoolText latency), "w-1"⟩

theorem eq_ok_of_toOption {ε α : Type} {r : Except ε α} {a : α} (h : r.toOption = some a) :
    r = .ok a := by
  cases r with
  | error err => cases h
  | ok b =>
    cases h
    rfl

/-- The processor serves where the accelerator fails, whenever that is. -/
theorem load_over_pool_stalled :
    run (stalledSurroundings "0") ["-c", "PERF_COUNT=NO", "load", "-p", "m.onnx"] =
        .printed ["workload w-1 served by CPU (accelerator GPU, perf_count=true)"] ∧
      run (stalledSurroundings "700") ["-c", "PERF_COUNT=NO", "load", "-p", "m.onnx"] =
        run (stalledSurroundings "0") ["-c", "PERF_COUNT=NO", "load", "-p", "m.onnx"] := by
  have hLoad := @load_over_pool (stalledSurroundings "0")
    ["-c", "PERF_COUNT=NO", "load", "-p", "m.onnx"]
    ⟨none, ["PERF_COUNT=NO"], false, .loadPath "m.onnx"⟩ stalledPool (.ofList [("PERF_COUNT", "NO")])
    (.path "m.onnx") rfl (eq_ok_of_toOption (by decide +kernel)) rfl rfl rfl rfl rfl
  have hGood : stalledPool.Compiles ⟨"CPU"⟩ := ⟨_, List.mem_cons_self, rfl, rfl⟩
  have hBad : stalledPool.FailsWith ⟨"GPU"⟩ _ :=
    .injected (List.mem_cons_of_mem _ List.mem_cons_self) rfl rfl
  constructor
  · refine (hLoad.2.2.1 [⟨"CPU"⟩, ⟨"GPU"⟩] ⟨"GPU"⟩ rfl rfl).2.unique ?_
    refine .processor _ ?_ hGood
    rintro d hd
    cases hd
    exact hBad.not_compiles
  · exact hLoad.2.2.2 (fun entry => if entry.family = "GPU" then 700 else 0)
      (stalledSurroundings "700") rfl (eq_ok_of_toOption (by decide +kernel)) rfl

end CommandLine

end TieredDispatch
