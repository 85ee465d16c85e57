import TieredDispatch.Proofs.Session.Play

/-!
# The schedule of a session

A session that is run starts all queued tasks after each request, and whenever its clock is set forward all
tasks that are due report.  So a run is a play like any other, of which the moves between two requests are
known.

* `Session.Plays`: whether a play that makes given requests leads from one session to another.
* `Session.plays_advanceTo`, `Session.plays_startTasks`: time passes, and queued tasks start.
* `Session.plays_runAll`: every run is a play.
* `Session.compiles_run_of_asks`: to ask and to wait is no request for a compile.
-/

namespace TieredDispatch

theorem Workload.mapPlaces_congr {w : Workload} {f g : SlotKind → Slot → Slot}
    (h : ∀ kind x, w.slot? kind = some x → f kind x = g kind x) : w.mapPlaces f = w.mapPlaces g := by
  have hProcessor : w.processor.map (f .processor) = w.processor.map (g .processor) :=
    Option.map_congr fun x => h .processor x
  have hAccelerator : w.accelerator.map (f .accelerator) = w.accelerator.map (g .accelerator) :=
    Option.map_congr fun x => h .accelerator x
  rw [mapPlaces, mapPlaces, hProcessor, hAccelerator]

/-- Changing both slots, one after the other. -/
theorem Workload.change_change (w : Workload) (f : Slot → Slot) :
    (w.change .accelerator f).change .processor f = w.mapSlots f := by
  rw [change, change, mapPlaces_mapPlaces]
  rfl

namespace Session

variable {s : Session}

/-! ## Changing slots one by one -/

/-- The session with other workloads. -/
def withLoads (s : Session) (loads : List Load) : Session :=
  { s with loads := loads }

@[simp] theorem withLoads_withLoads (s : Session) (loads loads' : List Load) :
    (s.withLoads loads).withLoads loads' = s.withLoads loads' := rfl

@[simp] theorem loads_withLoads (s : Session) (loads : List Load) : (s.withLoads loads).loads = loads := rfl

@[simp] theorem catalog_withLoads (s : Session) (loads : List Load) :
    (s.withLoads loads).catalog = s.catalog := rfl

@[simp] theorem clock_withLoads (s : Session) (loads : List Load) :
    (s.withLoads loads).clock = s.clock := rfl

theorem changeSlot_congr {t : TaskId} {f g : Slot → Slot}
    (h : ∀ x, s.slotAt? t = some x → f x = g x) : s.changeSlot t f = s.changeSlot t g := by
  have hLoads : (s.changeSlot t f).loads = (s.changeSlot t g).loads := by
    rw [loads_changeSlot, loads_changeSlot]
    refine List.ext_getElem? fun i => ?_
    rw [List.getElem?_mapIdx, List.getElem?_mapIdx]
    refine Option.map_congr fun l hl => ?_
    refine congrArg (Load.mk l.catalog) (Workload.mapPlaces_congr fun kind x hx => ?_)
    split
    · next ht =>
      refine h x (slotAt?_eq_some_iff.mpr ⟨l.workload, ?_, ht ▸ hx⟩)
      rw [← ht]
      exact congrArg (Option.map Load.workload) hl
    · rfl
  exact congrArg s.withLoads hLoads

theorem changeSlot_eq_self {t : TaskId} {f : Slot → Slot}
    (h : ∀ x, s.slotAt? t = some x → f x = x) : s.changeSlot t f = s := by
  rw [changeSlot_congr h]
  simp only [changeSlot, Workload.change, ite_self, Workload.mapPlaces_id]
  exact congrArg s.withLoads (List.modify_id ..)

theorem changeSlot_eq {done todo : List Load} {l : Load} (h : s.loads = done ++ l :: todo)
    (kind : SlotKind) (f : Slot → Slot) :
    s.changeSlot ⟨done.length, kind⟩ f =
      s.withLoads (done ++ { l with workload := l.workload.change kind f } :: todo) := by
  rw [changeSlot, h]
  exact congrArg s.withLoads (List.modifyTailIdx_add _ 0 done (l :: todo))

/-! ## Plays between two sessions -/

/-- Whether some play that makes just the given requests leads from `s` to `s'`. -/
def Plays (commands : List Command) (s s' : Session) : Prop :=
  ∃ moves : List Move, moves.filterMap Move.command? = commands ∧ s.play moves = s'

namespace Plays

theorem refl (s : Session) : Plays [] s s := ⟨[], rfl, rfl⟩

theorem trans {commands later : List Command} {s t u : Session} (h : Plays commands s t)
    (hLater : Plays later t u) : Plays (commands ++ later) s u := by
  obtain ⟨moves, rfl, rfl⟩ := h
  obtain ⟨moves', rfl, rfl⟩ := hLater
  exact ⟨moves ++ moves', List.filterMap_append, s.play_append moves moves'⟩

theorem request (s : Session) (command : Command) : Plays [command] s (s.issue command) :=
  ⟨[.request command], rfl, rfl⟩

theorem start (s : Session) (t : TaskId) : Plays [] s (s.startTask t) := ⟨[.start t], rfl, rfl⟩

theorem report (s : Session) (t : TaskId) : Plays [] s (s.changeSlot t Slot.report) :=
  ⟨[.report t], rfl, rfl⟩

theorem tick (s : Session) (now : Nat) : Plays [] s { s with clock := max s.clock now } :=
  ⟨[.tick now], rfl, rfl⟩

/-- What every move leaves alone is the same afterwards. -/
theorem eq_of_move {β : Type} {f : Session → β} (hf : ∀ s m, f (Session.move s m) = f s)
    {commands : List Command} {s s' : Session} (h : Plays commands s s') : f s' = f s := by
  obtain ⟨moves, -, rfl⟩ := h
  exact play_induction (P := fun t => f t = f s) (fun t m ht => (hf t m).trans ht) rfl moves

end Plays

/-! ## Time passes -/

/-- A task reports if it is due. -/
theorem plays_advance (s : Session) (t : TaskId) :
    Plays [] s (s.changeSlot t fun x => x.advance s.clock) := by
  by_cases hDue : ∃ x, s.slotAt? t = some x ∧ x.isDue s.clock = true
  · obtain ⟨x, hx, hDue⟩ := hDue
    have hReport : s.changeSlot t (fun x => x.advance s.clock) = s.changeSlot t Slot.report := by
      refine changeSlot_congr fun y hy => ?_
      rw [hx] at hy
      cases hy
      rw [Slot.advance_eq, if_pos hDue]
    rw [hReport]
    exact .report s t
  · have hSame : s.changeSlot t (fun x => x.advance s.clock) = s := by
      refine changeSlot_eq_self fun x hx => ?_
      rw [Slot.advance_eq, if_neg fun h => hDue ⟨x, hx, h⟩]
    rw [hSame]
    exact .refl s

theorem plays_advance_slot (done : List Load) {todo : List Load} {l : Load}
    (h : s.loads = done ++ l :: todo) (kind : SlotKind) :
    Plays [] s (s.withLoads
      (done ++ { l with workload := l.workload.change kind fun x => x.advance s.clock } :: todo)) := by
  rw [← changeSlot_eq h]
  exact s.plays_advance _

/-- All tasks report that are due, one workload after the other. -/
theorem plays_advance_all (done todo : List Load) (h : s.loads = done ++ todo) :
    Plays [] s (s.withLoads
      (done ++ todo.map fun l => { l with workload := l.workload.advance s.clock })) := by
  -- the workloads of `done` have been visited, those of `todo` are still to come
  induction todo generalizing s done with
  | nil =>
    rw [List.map_nil, ← h]
    exact .refl s
  | cons l todo ih =>
    have hBoth := (plays_advance_slot done h .accelerator).trans
      (plays_advance_slot done (loads_withLoads ..) .processor)
    simp only [withLoads_withLoads, clock_withLoads, Workload.change_change] at hBoth
    have hRest := ih (s := s.withLoads (done ++ { l with workload := l.workload.advance s.clock } :: todo))
      _ (List.append_cons _ _ _)
    rw [List.append_assoc] at hRest
    exact hBoth.trans hRest

theorem plays_advanceTo (h : s.strays = []) (now : Nat) : Plays [] s (s.advanceTo now) := by
  have hAll := plays_advance_all (s := { s with clock := max s.clock now }) [] s.loads rfl
  have hAdvance : s.advanceTo now = withLoads { s with clock := max s.clock now }
      (s.loads.map fun l => { l with workload := l.workload.advance (max s.clock now) }) := by
    simp only [advanceTo, h, List.map_nil, withLoads]
  rw [hAdvance]
  exact (Plays.tick s now).trans hAll

/-! ## Queued tasks start -/

/-- All of the services have received a compile request. -/
def receiveAll (s : Session) (services : List Service) : Session :=
  services.foldl (fun s service => s.countCompile service.name) s

theorem receiveAll_append (s : Session) (services later : List Service) :
    s.receiveAll (services ++ later) = (s.receiveAll services).receiveAll later := List.foldl_append

theorem receiveAll_toList (s : Session) (service : Option Service) :
    s.receiveAll service.toList = s.receive service := by
  cases service <;> rfl

@[simp] theorem catalog_receiveAll (s : Session) (services : List Service) :
    (s.receiveAll services).catalog = s.catalog :=
  foldl_countCompile catalog (fun _ _ => rfl) services s

@[simp] theorem clock_receiveAll (s : Session) (services : List Service) :
    (s.receiveAll services).clock = s.clock :=
  foldl_countCompile clock (fun _ _ => rfl) services s

/-- Requests for compiles do not depend on the workloads. -/
theorem withLoads_receiveAll (s : Session) (loads : List Load) (services : List Service) :
    (s.withLoads loads).receiveAll services = (s.receiveAll services).withLoads loads := by
  induction services generalizing s with
  | nil => rfl
  | cons service services ih => exact ih (s.countCompile service.name)

@[simp] theorem withLoads_receive (s : Session) (loads : List Load) (service : Option Service) :
    (s.withLoads loads).receive service = (s.receive service).withLoads loads := by
  cases service <;> rfl

@[simp] theorem catalog_receive (s : Session) (service : Option Service) :
    (s.receive service).catalog = s.catalog := by
  cases service <;> rfl

@[simp] theorem clock_receive (s : Session) (service : Option Service) :
    (s.receive service).clock = s.clock := by
  cases service <;> rfl

theorem filterMap_toList {α β : Type} (f : α → Option β) (a : Option α) :
    a.toList.filterMap f = (a.bind f).toList := by
  cases a with
  | none => rfl
  | some a => cases h : f a <;> simp [h]

/-- The services that are asked when the tasks of a workload start. -/
theorem receiveAll_start (s : Session) (w : Workload) (c : Catalog) (now : Nat) :
    s.receiveAll (w.start c now).2 =
      (s.receive (w.accelerator.bind fun x => (x.start c now).2)).receive
        (w.processor.bind fun x => (x.start c now).2) := by
  rw [← receiveAll_toList, ← receiveAll_toList, ← receiveAll_append]
  refine congrArg s.receiveAll ?_
  rw [Workload.start, Workload.slots, List.filterMap_append, filterMap_toList, filterMap_toList]

/-- The start of a task, in terms of the load that it belongs to. -/
theorem startTask_eq {t : TaskId} {l : Load} (h : s.loads[t.workload]? = some l) :
    s.startTask t =
      (s.changeSlot t fun x => (x.start (s.catalog l.catalog) s.clock).1).receive
        ((l.workload.slot? t.kind).bind fun x => (x.start (s.catalog l.catalog) s.clock).2) := by
  have hHome : s.homeOf t = s.catalog l.catalog := by rw [homeOf, h, Option.map_some, Option.getD_some]
  have hSlot : s.slotAt? t = l.workload.slot? t.kind := by
    rw [slotAt?, workload?, h, Option.map_some, Option.bind_some]
  rw [startTask, hHome, hSlot]

/-- One task starts. -/
theorem plays_start_slot (done : List Load) {todo : List Load} {l : Load}
    (h : s.loads = done ++ l :: todo) (kind : SlotKind) :
    let f := fun x : Slot => x.start (s.catalog l.catalog) s.clock
    Plays [] s ((s.receive ((l.workload.slot? kind).bind fun x => (f x).2)).withLoads
      (done ++ { l with workload := l.workload.change kind fun x => (f x).1 } :: todo)) := by
  have hLoad : s.loads[done.length]? = some l := by
    rw [h, List.getElem?_append_right (Nat.le_refl _), Nat.sub_self]
    rfl
  have hStart := Plays.start s ⟨done.length, kind⟩
  rwa [startTask_eq hLoad, changeSlot_eq h, withLoads_receive] at hStart

/-- The tasks of one workload start. -/
theorem plays_start_both {done todo : List Load} {l : Load} (h : s.loads = done ++ l :: todo) :
    Plays [] s ((s.receiveAll (l.workload.start (s.catalog l.catalog) s.clock).2).withLoads
      (done ++ { l with workload := (l.workload.start (s.catalog l.catalog) s.clock).1 } :: todo)) := by
  -- the accelerator's task goes first, as its slot does in the workload
  have hBoth := (plays_start_slot done h .accelerator).trans
    (plays_start_slot done (loads_withLoads ..) .processor)
  simp only [withLoads_withLoads, clock_withLoads, catalog_withLoads, withLoads_receive, catalog_receive,
    clock_receive, Workload.slot?_change, reduceCtorEq, if_false, Workload.change_change] at hBoth
  rw [receiveAll_start]
  exact hBoth

/-- All queued tasks start, one workload after the other. -/
theorem plays_start_all (done todo : List Load) (h : s.loads = done ++ todo) :
    let start := fun l : Load => l.workload.start (s.catalog l.catalog) s.clock
    Plays [] s ((s.receiveAll (todo.flatMap fun l => (start l).2)).withLoads
      (done ++ todo.map fun l => { l with workload := (start l).1 })) := by
  induction todo generalizing s done with
  | nil =>
    simp only [List.map_nil, List.flatMap_nil]
    rw [← h]
    exact .refl s
  | cons l todo ih =>
    let l' : Load := { l with workload := (l.workload.start (s.catalog l.catalog) s.clock).1 }
    have hRest := ih (s := (s.receiveAll (l.workload.start (s.catalog l.catalog) s.clock).2).withLoads
      (done ++ l' :: todo)) _ (List.append_cons ..)
    simp only [catalog_withLoads, clock_withLoads, catalog_receiveAll, clock_receiveAll,
      withLoads_receiveAll, withLoads_withLoads, ← receiveAll_append, List.append_assoc] at hRest
    exact (plays_start_both h).trans hRest

theorem plays_startTasks (h : s.strays = []) : Plays [] s s.startTasks := by
  have hStart := plays_start_all (s := s) [] s.loads rfl
  have hRequested : s.requested =
      s.loads.flatMap fun l => (l.workload.start (s.catalog l.catalog) s.clock).2 := by
    rw [requested, h, List.filterMap_nil, List.append_nil]
  -- no task reports before all have started
  have hAdvance := plays_advanceTo (s := (s.receiveAll s.requested).withLoads
    (s.loads.map fun l => { l with workload := (l.workload.start (s.catalog l.catalog) s.clock).1 }))
    ((foldl_countCompile strays (fun _ _ => rfl) s.requested s).trans h) s.clock
  have hEnd : s.startTasks = ((s.receiveAll s.requested).withLoads (s.loads.map fun l =>
      { l with workload := (l.workload.start (s.catalog l.catalog) s.clock).1 })).advanceTo s.clock := by
    rw [← withLoads_receiveAll, startTasks, h, receiveAll, withLoads, h]
    rfl
  rw [hEnd]
  rw [hRequested] at hAdvance ⊢
  exact hStart.trans hAdvance

/-! ## Requests -/

theorem strays_move (s : Session) (m : Move) : (s.move m).strays = s.strays := by
  cases m with
  | request command => exact (s.issued command).strays_eq
  | start t => exact strays_receive ..
  | report t => rfl
  | tick now => rfl

theorem Plays.strays_eq {commands : List Command} {s s' : Session} (h : Plays commands s s') :
    s'.strays = s.strays :=
  h.eq_of_move strays_move

/-- To wait for a slot is to let tasks start and time pass. -/
theorem plays_waitFor (h : s.strays = []) (index : Nat) (kind : SlotKind) :
    Plays [] s (s.waitFor index kind) := by
  have hStart := plays_startTasks h
  simp only [waitFor]
  split
  · exact hStart.trans (plays_advanceTo (hStart.strays_eq.trans h) _)
  · exact hStart

theorem plays_waitForAll (h : s.strays = []) (index : Nat) : Plays [] s (s.waitForAll index) := by
  have hStart := plays_startTasks h
  simp only [waitForAll]
  split
  · exact hStart.trans (plays_advanceTo (hStart.strays_eq.trans h) _)
  · exact hStart

theorem fst_step_settle (s : Session) (index : Nat) : (s.step (.settle index)).1 = s.waitForAll index := by
  simp only [step]
  split
  · rfl
  · split
    · exact fst_askDispatcher ..
    · rfl

theorem fst_step_wait (s : Session) (index : Nat) (kind : SlotKind) :
    (s.step (.wait index kind)).1 = s.waitFor index kind := by
  simp only [step]
  split
  · rfl
  · split <;> rfl

/-- A direct compile counts at once, and then the time passes that it takes. -/
theorem fst_step_compile (s : Session) (name : String) (d : DeviceId) (model : ModelSource)
    (config : Config) : (s.step (.compile name d model config)).1 =
      (s.issue (.compile name d model config)).advanceTo
        (s.clock + ((s.catalog name).compile d model config).2.latency) := by
  simp only [step]
  split <;> next hCompile => exact (congrArg Prod.fst hCompile).symm

/-- A request makes its change at once; the rest of it is that tasks start and time passes. -/
theorem plays_step (h : s.strays = []) (command : Command) : Plays [command] s (s.step command).1 := by
  have hRequest := Plays.request s command
  have hStrays := (s.issued command).strays_eq.trans h
  cases command with
  | compile name d model config =>
    rw [fst_step_compile]
    exact hRequest.trans (plays_advanceTo hStrays _)
  | advance milliseconds => exact hRequest.trans (plays_advanceTo hStrays _)
  | settle index =>
    rw [fst_step_settle]
    exact hRequest.trans (plays_waitForAll h index)
  | wait index kind =>
    rw [fst_step_wait]
    exact hRequest.trans (plays_waitFor h index kind)
  | _ => exact hRequest

theorem plays_run (h : s.strays = []) (command : Command) : Plays [command] s (s.run command).1 := by
  have hStep := plays_step h command
  exact hStep.trans (plays_startTasks (hStep.strays_eq.trans h))

/-- Every run of a session is a play. -/
theorem plays_runAll (h : s.strays = []) (commands : List Command) :
    Plays commands s (s.runAll commands) := by
  induction commands generalizing s with
  | nil => exact .refl s
  | cons command commands ih =>
    have hRun := plays_run h command
    exact hRun.trans (ih (hRun.strays_eq.trans h))

/-- No run leaves a task that belongs to no workload. -/
theorem Reachable.strays_eq (h : s.Reachable) : s.strays = [] := by
  obtain ⟨services, tiers, attached, commands, rfl⟩ := h
  exact (plays_runAll rfl commands).strays_eq

/-! ## Asking and waiting -/

theorem slots_advanceTo (s : Session) (now : Nat) :
    (s.advanceTo now).slots = s.slots.map fun x => x.advance (max s.clock now) := by
  simp only [slots, advanceTo, List.map_append, List.flatMap_map, List.map_flatMap, List.map_map,
    Workload.advance, Workload.slots_mapSlots]
  rfl

theorem Quiet.advanceTo (h : s.Quiet) (now : Nat) : (s.advanceTo now).Quiet := by
  intro x hx
  rw [slots_advanceTo] at hx
  obtain ⟨y, hy, rfl⟩ := List.mem_map.mp hx
  exact (h y hy).1.quiet_advance _

/-- Between the requests of a run, to ask and to wait only lets time pass. -/
theorem step_of_asks (h : s.Quiet) {command : Command} (hAsks : command.asks = true) :
    (s.step command).1 = s ∨ ∃ now, (s.step command).1 = s.advanceTo now := by
  cases command with
  | advance milliseconds => exact Or.inr ⟨_, rfl⟩
  | settle index =>
    rw [fst_step_settle, waitForAll, h.startTasks_eq]
    split
    · exact Or.inr ⟨_, rfl⟩
    · exact Or.inl rfl
  | wait index kind =>
    rw [fst_step_wait, waitFor, h.startTasks_eq]
    split
    · exact Or.inr ⟨_, rfl⟩
    · exact Or.inl rfl
  | register | unregister | registerGroup | compile | attach | setConfig | load => cases hAsks
  | _ => exact Or.inl (issue_of_asks hAsks s)

theorem compiles_run_of_asks (h : s.Quiet) {command : Command} (hAsks : command.asks = true) :
    (s.run command).1.compiles = s.compiles := by
  have hRun : (s.run command).1 = (s.step command).1.startTasks := rfl
  rcases step_of_asks h hAsks with hStep | ⟨now, hStep⟩
  · rw [hRun, hStep, h.startTasks_eq]
  · rw [hRun, hStep, (h.advanceTo now).startTasks_eq]
    rfl

end Session

end TieredDispatch
