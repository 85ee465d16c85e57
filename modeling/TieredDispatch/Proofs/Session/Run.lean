import TieredDispatch.Device.Profile
import TieredDispatch.Proofs.Dispatch.Load
import TieredDispatch.Proofs.Workload.Time
import TieredDispatch.Session.Command

/-!
# Runs of sessions

A run is a row of requests.  `Session.Change` says once what a single request can do to a session,
and what every run keeps is derived from it.  Queued tasks start after each request, so between two
requests a session is *quiet*: no task waits to be started, and none is overdue.

* `Session.change_step`: one request makes one of nine changes.
* `Session.Reachable.induction`: what holds at first and is kept by every change holds after every run.
* `Session.Reachable.quiet`: a session is quiet after every run.
* `Session.failed_load_starts_nothing`: a load that fails leaves the session as it was.
-/

namespace TieredDispatch

namespace Session

variable {s : Session}

/-- Every slot of a session, with those of loads that failed. -/
def slots (s : Session) : List Slot :=
  (s.loads.flatMap fun l => l.workload.slots) ++ s.strays.map Stray.slot

/-- Whether no task of a session waits to be started or is overdue. -/
def Quiet (s : Session) : Prop :=
  ∀ x ∈ s.slots, x.Quiet s.clock

/-! ## Starting tasks and letting time pass -/

/-- Counting compiles leaves alone whatever a single count leaves alone. -/
theorem foldl_countCompile {β : Type} (f : Session → β)
    (hf : ∀ (s : Session) (name : String), f (s.countCompile name) = f s) (services : List Service)
    (s : Session) : f (services.foldl (fun s service => s.countCompile service.name) s) = f s := by
  induction services generalizing s with
  | nil => rfl
  | cons service services ih => rw [List.foldl_cons, ih, hf]

@[simp] theorem stored_advanceTo (s : Session) (now : Nat) : (s.advanceTo now).stored = s.stored := rfl

@[simp] theorem stored_startTasks (s : Session) : s.startTasks.stored = s.stored := by
  rw [startTasks, stored_advanceTo, foldl_countCompile stored fun _ _ => rfl]

@[simp] theorem clock_startTasks (s : Session) : s.startTasks.clock = s.clock := by
  rw [startTasks, advanceTo, foldl_countCompile clock fun _ _ => rfl]
  exact Nat.max_self s.clock

/-- The workloads after queued tasks were started. -/
theorem loads_startTasks (s : Session) :
    s.startTasks.loads = s.loads.map fun l =>
      { l with workload := (l.workload.start (s.catalog l.catalog) s.clock).1.advance s.clock } := by
  simp only [startTasks, advanceTo]
  rw [foldl_countCompile loads fun _ _ => rfl, foldl_countCompile clock fun _ _ => rfl]
  simp only [Nat.max_self, List.map_map]
  rfl

/-- The tasks of failed loads after queued tasks were started. -/
theorem strays_startTasks (s : Session) :
    s.startTasks.strays = s.strays.map fun x =>
      { x with slot := (x.slot.start (s.catalog x.catalog) s.clock).1.advance s.clock } := by
  simp only [startTasks, advanceTo]
  rw [foldl_countCompile strays fun _ _ => rfl, foldl_countCompile clock fun _ _ => rfl]
  simp only [Nat.max_self, List.map_map]
  rfl

/-- Once queued tasks have been started there is nothing left to do. -/
theorem quiet_startTasks (s : Session) : s.startTasks.Quiet := by
  intro x hx
  rw [clock_startTasks]
  rw [slots, loads_startTasks, strays_startTasks, List.mem_append] at hx
  rcases hx with hx | hx
  · simp only [List.mem_flatMap, List.mem_map] at hx
    obtain ⟨_, ⟨l, -, rfl⟩, hx⟩ := hx
    rw [Workload.advance, Workload.start, Workload.slots_mapSlots, Workload.slots_mapSlots,
      List.map_map] at hx
    obtain ⟨y, -, rfl⟩ := List.mem_map.mp hx
    exact (Slot.started_start _ _ _).quiet_advance _
  · simp only [List.map_map, List.mem_map] at hx
    obtain ⟨y, -, rfl⟩ := hx
    exact (Slot.started_start _ _ _).quiet_advance _

namespace Quiet

theorem of_load (h : s.Quiet) {l : Load} (hl : l ∈ s.loads) :
    ∀ x ∈ l.workload.slots, x.Quiet s.clock := fun x hx =>
  h x (List.mem_append_left _ (List.mem_flatMap.mpr ⟨l, hl, hx⟩))

theorem of_stray (h : s.Quiet) {x : Stray} (hx : x ∈ s.strays) : x.slot.Quiet s.clock :=
  h x.slot (List.mem_append_right _ (List.mem_map_of_mem hx))

theorem requested_eq (h : s.Quiet) : s.requested = [] := by
  rw [requested, List.append_eq_nil_iff, List.flatMap_eq_nil_iff, List.filterMap_eq_nil_iff]
  constructor
  · intro l hl
    rw [Workload.start_of_quiet (h.of_load hl)]
  · intro x hx
    rw [(h.of_stray hx).start_eq]

/-- In a quiet session no task is started and no service is asked. -/
theorem startTasks_eq (h : s.Quiet) : s.startTasks = s := by
  have hLoads : s.startTasks.loads = s.loads := by
    rw [loads_startTasks]
    refine (List.map_congr_left fun l hl => ?_).trans (List.map_id _)
    rw [Workload.start_of_quiet (h.of_load hl), Workload.advance_of_quiet (h.of_load hl)]
    rfl
  have hStrays : s.startTasks.strays = s.strays := by
    rw [strays_startTasks]
    refine (List.map_congr_left fun x hx => ?_).trans (List.map_id _)
    rw [(h.of_stray hx).start_eq, (h.of_stray hx).advance_eq]
    rfl
  have hClock := s.clock_startTasks
  simp only [startTasks, h.requested_eq, List.foldl_nil, advanceTo] at hLoads hStrays hClock ⊢
  rw [hLoads, hStrays, hClock]

end Quiet

/-! ## Single requests -/

/-- What one request can do to a session. -/
inductive Change (s : Session) : Session → Prop
  | none : Change s s
  | registry (name : String) (c : Catalog) : Change s (s.setCatalog name c)
  | attach (name : String) : Change s { s with attached := some name }
  | store {settings : Config} : settings.validate = .ok () →
      Change s { s with stored := s.stored.merge settings }
  | load (model : ModelSource) (config : Config) : Change s (s.load model config).1
  | compile (catalog : String) (d : DeviceId) (model : ModelSource) (config : Config) :
      Change s (s.compile catalog d model config).1
  | advance (now : Nat) : Change s (s.advanceTo now)
  | wait (index : Nat) (kind : SlotKind) : Change s (s.waitFor index kind)
  | settle (index : Nat) : Change s (s.waitForAll index)

theorem fst_askDevice {α : Type} (s : Session) (r : Except DeviceError α) (answer : α → Answer) :
    (s.askDevice r answer).1 = s := by
  cases r <;> rfl

theorem fst_askDispatcher {α : Type} (s : Session) (r : Except DispatchError α)
    (answer : α → Answer) : (s.askDispatcher r answer).1 = s := by
  cases r <;> rfl

/-- A question to a device changes nothing. -/
theorem Change.of_askDevice {α : Type} (s : Session) (r : Except DeviceError α)
    (answer : α → Answer) : Change s (s.askDevice r answer).1 := by
  rw [fst_askDevice]
  exact .none

/-- A question to the dispatcher changes nothing. -/
theorem Change.of_askDispatcher {α : Type} (s : Session) (r : Except DispatchError α)
    (answer : α → Answer) : Change s (s.askDispatcher r answer).1 := by
  rw [fst_askDispatcher]
  exact .none

/-- Settings are stored only if none of them is refused. -/
theorem stored_of_setConfig {d d' : Dispatcher} {settings : Config}
    (h : d.setConfig settings = .ok d') :
    settings.validate = .ok () ∧ d'.stored = d.stored.merge settings := by
  rw [Dispatcher.setConfig] at h
  split at h
  · next hValid =>
    cases h
    exact ⟨hValid, rfl⟩
  · cases h

/-- One request makes one of these changes. -/
theorem change_step (s : Session) (command : Command) : Change s (s.step command).1 := by
  cases command with
  | register name family service =>
    simp only [step]
    split
    · exact .none
    · exact .registry name _
  | unregister name family => exact .registry name _
  | registerGroup name group members => exact .registry name _
  | available name => exact .none
  | parseDeviceList name raw => exact .none
  | listDevices name config => exact .of_askDispatcher s _ _
  | deviceMetric name device metric => exact .of_askDevice s _ _
  | metricText name device metric => exact .of_askDevice s _ _
  | metricList name device metric => exact .of_askDevice s _ _
  | deviceName name device => exact .of_askDevice s _ _
  | manifest name device => exact .of_askDevice s _ _
  | operations name device g => exact .of_askDevice s _ _
  | compile name device model config =>
    have hChange := Change.compile (s := s) name device model config
    simp only [step]
    split <;> simp_all
  | supportedOperations name devices g owner => exact .none
  | capabilities name options stored => exact .none
  | partition name devices => exact .none
  | compileCount service => exact .none
  | attach name => exact .attach name
  | setConfig config =>
    simp only [step]
    split
    · next d h =>
      obtain ⟨hValid, hStored⟩ := stored_of_setConfig h
      rw [hStored]
      exact .store hValid
    · exact .none
  | getConfig key => exact .of_askDispatcher s _ _
  | config => exact .none
  | select devices wanted => exact .of_askDispatcher s _ _
  | query g config => exact .of_askDispatcher s _ _
  | metric name options => exact .of_askDispatcher s _ _
  | load model config =>
    have hChange := Change.load (s := s) model config
    simp only [step]
    split <;> simp_all
  | advance milliseconds => exact .advance _
  | peek index =>
    simp only [step]
    split <;> exact .none
  | settle index =>
    simp only [step]
    split
    · exact .settle index
    · split
      · rw [fst_askDispatcher]
        exact .settle index
      · exact .settle index
  | slot index kind =>
    simp only [step]
    split
    · exact .none
    · exact .of_askDispatcher s _ _
  | wait index kind =>
    simp only [step]
    split
    · exact .wait index kind
    · split <;> exact .wait index kind

/-! ## Runs -/

/-- The session after a row of requests. -/
def runAll (s : Session) (commands : List Command) : Session :=
  commands.foldl (fun s command => (s.run command).1) s

theorem runAll_cons (s : Session) (command : Command) (commands : List Command) :
    s.runAll (command :: commands) = (s.run command).1.runAll commands := rfl

/-- What every change keeps, once queued tasks have started, is kept by every run. -/
theorem runAll_induction {P : Session → Prop}
    (hChange : ∀ s s', P s → Change s s' → P s'.startTasks) (h : P s) (commands : List Command) :
    P (s.runAll commands) := by
  induction commands generalizing s with
  | nil => exact h
  | cons command commands ih =>
    rw [runAll_cons]
    exact ih (hChange _ _ h (s.change_step command))

theorem quiet_initial (services : TextMap Service) (tiers : TierTable) (attached : Option String) :
    (initial services tiers attached).Quiet := by
  intro x hx
  exact absurd hx List.not_mem_nil

/-- Whether some run that starts with nothing leads to a session. -/
def Reachable (s : Session) : Prop :=
  ∃ services tiers attached commands, s = (initial services tiers attached).runAll commands

/-- What holds at first and is kept by every change holds in every session that a run leads to. -/
theorem Reachable.induction {P : Session → Prop}
    (hInitial : ∀ services tiers attached, P (initial services tiers attached))
    (hChange : ∀ s s', P s → Change s s' → P s'.startTasks) (h : s.Reachable) : P s := by
  obtain ⟨services, tiers, attached, commands, rfl⟩ := h
  exact runAll_induction hChange (hInitial services tiers attached) commands

theorem Reachable.quiet (h : s.Reachable) : s.Quiet :=
  h.induction quiet_initial fun _ s' _ _ => s'.quiet_startTasks

/-! ## Loads that fail -/

theorem snd_load (s : Session) (model : ModelSource) (config : Config) :
    (s.load model config).2 = (s.dispatcher.load model config).2 := by
  rw [load]
  split
  · next hLoad => rw [hLoad]
  · next hLoad => rw [hLoad]

/-- A load that fails leaves nothing behind. -/
theorem load_of_error {model : ModelSource} {config : Config} {e : DispatchError}
    (h : (s.load model config).2 = .error e) : s.load model config = (s, .error e) := by
  rw [load] at h ⊢
  split at h
  · cases h
  · next started e' hLoad =>
    cases h
    have hStarted := Dispatcher.started_of_load_error (e := e) (congrArg Prod.snd hLoad)
    rw [hLoad] at hStarted
    rw [show started = [] from hStarted]
    simp

/-- Nor does it have an effect when queued tasks start. -/
theorem run_load_of_error (hQuiet : s.Quiet) {model : ModelSource} {config : Config}
    {e : DispatchError} (h : (s.load model config).2 = .error e) :
    s.run (.load model config) = (s, .error (.dispatch e)) := by
  simp only [run, step, load_of_error h]
  rw [hQuiet.startTasks_eq]

/-- A load that fails has started no compile task and asked no service for a compile: nothing was
started by the dispatcher, whatever its state; the session is left as it was; and between the requests
of a run nothing follows either, although the processor's task is started before the choice.  For a
list with a processor is never refused. -/
theorem failed_load_starts_nothing :
    (∀ (d : Dispatcher) (model : ModelSource) (config : Config) (e : DispatchError),
      (d.load model config).2 = .error e → (d.load model config).1 = []) ∧
    (∀ (s : Session) (model : ModelSource) (config : Config) (e : DispatchError),
      (s.load model config).2 = .error e → (s.load model config).1 = s) ∧
    (∀ s : Session, s.Reachable →
      ∀ (model : ModelSource) (config : Config) (e : DispatchError),
        (s.load model config).2 = .error e →
          s.run (.load model config) = (s, .error (.dispatch e))) ∧
    (∀ (s : Selector) (devices : List DeviceId) (wanted : Option Precision),
      (∃ p ∈ devices, s.tiers.isProcessor p = true) → ∃ x, s.select devices wanted = .ok x) := by
  refine ⟨fun d model config e h => Dispatcher.started_of_load_error h, ?_, ?_, ?_⟩
  · intro s model config e h
    rw [load_of_error h]
  · intro s hReachable model config e h
    exact run_load_of_error hReachable.quiet h
  · rintro s devices wanted ⟨p, hp, hProcessor⟩
    exact s.exists_select hp hProcessor wanted

/-- A family of which no tier table knows the name. -/
def untieredService : Service :=
  (DeviceProfile.named "Coprocessor").service "X"

/-- A session in which two families without a tier are registered. -/
def untieredSession : Session :=
  (initial (.ofList [("X", untieredService)]) .standard (some "main")).runAll
    [.register "main" ⟨"XPU"⟩ "X", .register "main" ⟨"YPU"⟩ "X"]

/-- Of two devices without a tier none is chosen, and the load starts nothing; but a processor behind
a discrete accelerator is enough, even if neither device answers. -/
theorem failed_load_starts_nothing_untiered :
    ((untieredSession.dispatcher.load (.path "m.onnx") .empty).2 =
        .error (.selection (.notFound "No available device found")) ∧
      (untieredSession.dispatcher.load (.path "m.onnx") .empty).1 = []) ∧
    (untieredSession.load (.path "m.onnx") .empty).1 = untieredSession ∧
    untieredSession.run (.load (.path "m.onnx") .empty) =
      (untieredSession, .error (.dispatch (.selection (.notFound "No available device found")))) ∧
    ∃ x, Selector.select ⟨.standard, .ofTable []⟩ [⟨"GPU"⟩, ⟨"CPU"⟩] (some .fp32) = .ok x :=
  ⟨⟨rfl, failed_load_starts_nothing.1 _ _ _ _ rfl⟩,
    failed_load_starts_nothing.2.1 _ _ _ _ rfl,
    failed_load_starts_nothing.2.2.1 _ ⟨_, _, _, _, rfl⟩ _ _ _ rfl,
    failed_load_starts_nothing.2.2.2 _ _ _ ⟨⟨"CPU"⟩, by decide, by decide⟩⟩

end Session

end TieredDispatch
