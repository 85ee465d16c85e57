import TieredDispatch.Proofs.Session.Requests
import TieredDispatch.Proofs.Session.Schedule

/-!
# The compiles that services receive

The services that the requests of a play are routed to are those of the table, and the tasks that make them
are those of the slots that loads have given back.  So the counts of the services can be accounted for.

* `Session.Owned`: the services of the catalogs are those of the table.
* `Session.places_play`: the tasks are those of the workloads that the loads of a play give back.
* `Session.startedBy_eq`: a load starts one task for each slot, and one that fails starts none.
* `Session.tasks_play`: what the dispatcher starts in a play is in the slots of the workloads.
* `Session.compiles_accounted`: what the counts of a play add up to.
-/

namespace TieredDispatch

namespace Workload

variable {w : Workload} {f : SlotKind → Slot → Slot}

/-- The devices of the slots, by their places. -/
def places (w : Workload) (kind : SlotKind) : Option DeviceId :=
  (w.slot? kind).map Slot.device

/-- The slots in the order in which a load starts their tasks. -/
def tasks (w : Workload) : List Slot :=
  w.processor.toList ++ w.accelerator.toList

theorem places_mapPlaces (h : ∀ kind x, (f kind x).place = x.place) : (w.mapPlaces f).places = w.places := by
  funext kind
  rw [places, slot?_mapPlaces, Option.map_map, places]
  exact Option.map_congr fun x _ => congrArg Prod.snd (h kind x)

theorem tasks_mapPlaces (h : ∀ kind x, (f kind x).place = x.place) :
    (w.mapPlaces f).tasks.map Slot.place = w.tasks.map Slot.place := by
  have hSlot : ∀ (kind : SlotKind) (x : Option Slot),
      (x.map (f kind)).toList.map Slot.place = x.toList.map Slot.place := by
    intro kind x
    cases x with
    | none => rfl
    | some x => exact congrArg (fun place => [place]) (h kind x)
  simp only [tasks, mapPlaces, List.map_append, hSlot]

end Workload

namespace Catalog

variable {c : Catalog} {d : DeviceId} {service : Service}

theorem mem_registerEntry {family : DeviceId} {entry : DeviceId × Service}
    {entries : List (DeviceId × Service)} (h : entry ∈ registerEntry family service entries) :
    entry = (family, service) ∨ entry ∈ entries := by
  induction entries with
  | nil => exact Or.inl (List.mem_singleton.mp h)
  | cons other rest ih =>
    rw [registerEntry] at h
    split at h
    · rcases List.mem_cons.mp h with hNew | hRest
      · exact Or.inl hNew
      · exact Or.inr (List.mem_cons_of_mem other hRest)
    · rcases List.mem_cons.mp h with rfl | hRest
      · exact Or.inr List.mem_cons_self
      · exact (ih hRest).imp_right (List.mem_cons_of_mem other)

end Catalog

namespace Session

variable {s : Session}

/-! ## The services of the catalogs -/

/-- Whether the services of all catalogs are in the table of services. -/
def Owned (s : Session) : Prop :=
  ∀ name, ∀ entry ∈ (s.catalog name).families, ∃ key, s.services.get? key = some entry.2

theorem owned_initial (services : TextMap Service) (tiers : TierTable) (attached : Option String) :
    (initial services tiers attached).Owned := by
  intro name entry hEntry
  cases hEntry

theorem catalog_setCatalog (s : Session) (name : String) (c : Catalog) (other : String) :
    (s.setCatalog name c).catalog other = if other = name then c else s.catalog other := by
  rw [catalog, setCatalog, TextMap.get?_insert]
  split <;> rfl

theorem Owned.setCatalog (h : s.Owned) (name : String) {c : Catalog}
    (hCatalog : ∀ entry ∈ c.families,
      entry ∈ (s.catalog name).families ∨ ∃ key, s.services.get? key = some entry.2) :
    (s.setCatalog name c).Owned := by
  intro other entry hEntry
  rw [catalog_setCatalog] at hEntry
  by_cases hName : other = name
  · rw [if_pos hName] at hEntry
    rcases hCatalog entry hEntry with hOld | hNew
    · exact h name entry hOld
    · exact hNew
  · rw [if_neg hName] at hEntry
    exact h other entry hEntry

theorem Owned.receive (h : s.Owned) (service? : Option Service) : (s.receive service?).Owned := by
  cases service? <;> exact h

theorem Owned.issued (h : s.Owned) {command : Command} {s' : Session} (hIssued : Issued s command s') :
    s'.Owned := by
  cases hIssued with
  | register name family hService =>
    refine h.setCatalog name fun entry hEntry => ?_
    rcases Catalog.mem_registerEntry hEntry with rfl | hOld
    · exact Or.inr ⟨_, hService⟩
    · exact Or.inl hOld
  | unregister name family =>
    refine h.setCatalog name fun entry hEntry => Or.inl ?_
    exact (List.mem_filter.mp hEntry).1
  | registerGroup name group members => exact h.setCatalog name fun entry hEntry => Or.inl hEntry
  | compile name d model config => exact h.receive _
  | _ => exact h

theorem Owned.move (h : s.Owned) (m : Move) : (s.move m).Owned := by
  cases m with
  | request command => exact h.issued (s.issued command)
  | start t =>
    have hChanged : (s.changeSlot t fun x => (x.start (s.homeOf t) s.clock).1).Owned := h
    exact hChanged.receive _
  | report t => exact h
  | tick now => exact h

theorem services_receive (s : Session) (service? : Option Service) :
    (s.receive service?).services = s.services := by
  cases service? <;> rfl

theorem Issued.services_eq {command : Command} {s' : Session} (h : Issued s command s') :
    s'.services = s.services := by
  cases h with
  | compile name d model config => exact services_receive ..
  | _ => rfl

theorem services_move (s : Session) (m : Move) : (s.move m).services = s.services := by
  cases m with
  | request command => exact (s.issued command).services_eq
  | start t => exact services_receive ..
  | report t => rfl
  | tick now => rfl

/-- The catalog of a task is one of the catalogs. -/
theorem Owned.homeOf (h : s.Owned) (t : TaskId) :
    ∀ entry ∈ (s.homeOf t).families, ∃ key, s.services.get? key = some entry.2 := by
  intro entry hEntry
  rw [Session.homeOf] at hEntry
  cases hLoad : s.loads[t.workload]? with
  | none =>
    rw [hLoad] at hEntry
    cases hEntry
  | some l =>
    rw [hLoad] at hEntry
    exact h l.catalog entry hEntry

/-- A request is received by a service of the table. -/
theorem Owned.request? (h : s.Owned) {m : Move} {r : CompileRequest} (hRequest : s.request? m = some r)
    {service : Service} (hService : r.service? = some service) :
    ∃ key, s.services.get? key = some service := by
  rcases request?_cases hRequest with ⟨catalog, d, _, _, -, rfl⟩ | ⟨t, x, -, -, -, rfl⟩
  · obtain ⟨entry, hEntry, rfl⟩ := Catalog.mem_of_serviceFor? hService
    exact h catalog entry hEntry
  · obtain ⟨entry, hEntry, rfl⟩ := Catalog.mem_of_serviceFor? hService
    exact h.homeOf t entry hEntry

theorem Owned.requests (h : s.Owned) {moves : List Move} {r : CompileRequest} (hr : r ∈ s.requests moves)
    {service : Service} (hService : r.service? = some service) :
    ∃ key, s.services.get? key = some service := by
  induction moves generalizing s with
  | nil => cases hr
  | cons m moves ih =>
    rcases List.mem_append.mp hr with hHere | hLater
    · exact h.request? (Option.mem_toList.mp hHere) hService
    · obtain ⟨key, hKey⟩ := ih (h.move m) hLater
      exact ⟨key, s.services_move m ▸ hKey⟩

/-! ## The tasks of a play -/

/-- The workloads that the loads of a play give back, in order. -/
def returned (s : Session) : List Move → List Workload
  | [] => []
  | m :: moves => (s.returned? m).toList ++ (s.move m).returned moves

/-- The tasks that the dispatcher starts for a move, which are those of a load, successful or not. -/
def startedBy (s : Session) : Move → List Slot
  | .request (.load model config) => (s.dispatcher.load model config).1
  | _ => []

/-- The tasks that the dispatcher starts in a play, in order. -/
def startedIn (s : Session) : List Move → List Slot
  | [] => []
  | m :: moves => s.startedBy m ++ (s.move m).startedIn moves

/-- A load starts one task for each slot of the workload that it gives back; one that fails starts none. -/
theorem startedBy_eq (s : Session) (m : Move) :
    s.startedBy m = (s.returned? m).toList.flatMap Workload.tasks := by
  cases m with
  | request command =>
    cases command with
    | load model config =>
      simp only [startedBy, returned?, Move.command?, Option.bind_some, loaded?, snd_load]
      cases hLoad : (s.dispatcher.load model config).2 with
      | error e => exact Dispatcher.started_of_load_error hLoad
      | ok w => exact (Dispatcher.started_of_load hLoad).trans (List.append_nil _).symm
    | _ => rfl
  | _ => rfl

theorem startedIn_eq (s : Session) (moves : List Move) :
    s.startedIn moves = (s.returned moves).flatMap Workload.tasks := by
  induction moves generalizing s with
  | nil => rfl
  | cons m moves ih => rw [startedIn, returned, startedBy_eq, ih, List.flatMap_append]

section Workloads

-- something about a workload that its tasks leave alone when they start and report
variable {β : Type} {f : Workload → β}
  (hf : ∀ w (g : SlotKind → Slot → Slot), (∀ kind x, (g kind x).place = x.place) → f (w.mapPlaces g) = f w)
include hf

/-- What no task changes in the workloads is only added to by a move. -/
theorem map_loads_move (s : Session) (m : Move) :
    (s.move m).loads.map (fun l => f l.workload) =
      s.loads.map (fun l => f l.workload) ++ (s.returned? m).toList.map f := by
  have hSame : ((s.loads.mapIdx fun i l => { l with
      workload := l.workload.mapPlaces fun kind => s.effect m ⟨i, kind⟩ }).map fun l => f l.workload) =
      s.loads.map fun l => f l.workload := by
    refine List.ext_getElem? fun i => ?_
    rw [List.getElem?_map, List.getElem?_mapIdx, List.getElem?_map, Option.map_map]
    exact Option.map_congr fun l _ => hf _ _ fun kind => s.place_effect m ⟨i, kind⟩
  rw [loads_move, List.map_append, hSame, List.map_map]
  rfl

theorem map_loads_play (s : Session) (moves : List Move) :
    (s.play moves).loads.map (fun l => f l.workload) =
      s.loads.map (fun l => f l.workload) ++ (s.returned moves).map f := by
  induction moves generalizing s with
  | nil => exact (List.append_nil _).symm
  | cons m moves ih => rw [play_cons, ih, map_loads_move hf, returned, List.map_append, List.append_assoc]

end Workloads

/-- The tasks of a play are those of the workloads that its loads give back. -/
theorem places_play (s : Session) (moves : List Move) :
    (s.play moves).loads.map (·.workload.places) =
      s.loads.map (·.workload.places) ++ (s.returned moves).map Workload.places :=
  map_loads_play (fun _ _ hg => Workload.places_mapPlaces hg) s moves

/-- The tasks that the dispatcher starts in a play are in the slots of the workloads, one in each. -/
theorem tasks_play (s : Session) (moves : List Move) :
    (s.play moves).loads.flatMap (fun l => l.workload.tasks.map Slot.place) =
      (s.loads.flatMap fun l => l.workload.tasks.map Slot.place) ++ (s.startedIn moves).map Slot.place := by
  have hTasks := map_loads_play (f := fun w => w.tasks.map Slot.place)
    (fun _ _ hg => Workload.tasks_mapPlaces hg) s moves
  rw [List.flatMap, hTasks, List.flatten_append, startedIn_eq, List.map_flatMap]
  rfl

/-! ## What the counts add up to -/

/-- What the compile requests of a play add up to. -/
structure Accounted (s : Session) (moves : List Move) : Prop where
  /-- A service has received the requests of tasks, and the direct ones, that were routed to it. -/
  counts : ∀ name, (s.play moves).compileCount name =
    ((s.requests moves).filter (·.task?.isSome)).countP (·.isFor name) +
      ((s.requests moves).filter (·.task?.isNone)).countP (·.isFor name)
  /-- The services that receive requests are those of the table, each under its own name. -/
  owned : ∀ r ∈ s.requests moves, ∀ service, r.service? = some service →
    s.services.get? service.name = some service
  /-- A task that has started has made one request, for the device of its slot; others have made none. -/
  once : ∀ t, (ofTask t (s.requests moves)).map CompileRequest.device =
    (((s.play moves).slotAt? t).filter Slot.isStarted).toList.map Slot.device
  /-- The workloads are those that loads have given back, with their slots on the same devices. -/
  placed : (s.play moves).loads.map (·.workload.places) = (s.returned moves).map Workload.places
  /-- What the dispatcher has started, for loads that succeeded and for others, is one task for each slot of
  the workloads, on the device of the slot. -/
  started : (s.startedIn moves).map Slot.place =
    (s.play moves).loads.flatMap fun l => l.workload.tasks.map Slot.place
  /-- No task is left without a slot. -/
  contained : (s.play moves).strays = []
  /-- The slot of a task whose request nobody receives fails. -/
  unserved : ∀ r ∈ s.requests moves, ∀ t, r.task? = some t → r.service? = none →
    ∃ x, (s.play moves).slotAt? t = some x ∧ x.device = r.device ∧
      x.resolution? = some (.error (x.failure (DeviceError.unavailable x.device).message))

theorem accounted_play {services : TextMap Service} (tiers : TierTable) (attached : Option String)
    (hNames : ∀ key service, services.get? key = some service → service.name = key) (moves : List Move) :
    Accounted (initial services tiers attached) moves where
  counts name := by
    have hCount := compileCount_play (initial services tiers attached) moves name
    have hSplit := List.countP_eq_countP_filter_add ((initial services tiers attached).requests moves)
      (·.isFor name) (·.task?.isSome)
    simp only [Option.not_isSome] at hSplit
    rw [hCount, hSplit]
    exact Nat.zero_add _
  owned r hr service hService := by
    obtain ⟨key, hKey⟩ := (owned_initial services tiers attached).requests hr hService
    rw [hNames key service hKey]
    exact hKey
  once t := (devices_requests (initial services tiers attached) moves t).symm
  placed := places_play (initial services tiers attached) moves
  started := (tasks_play (initial services tiers attached) moves).symm
  contained := play_induction (fun s m h => (s.strays_move m).trans h) rfl moves
  unserved r hr t hTask hNobody := (sound_initial services tiers attached).unserved hr hTask hNobody

/-- How the compiles are counted that services receive.  In every play over a table of services the count of
each service is the number of tasks that were routed to it at their start, and of direct compiles that were
routed to it; a task is counted once, whatever comes of its compile; the tasks are those that the dispatcher
has started, one for each slot of a load that succeeded; and where there is no service the slot fails.  A load
that succeeds starts just the tasks of its slots, and they are what it queues.  A load that fails starts none
and changes nothing, and neither do questions; between the requests of a run, waiting adds to no count either.
And every run is a play. -/
theorem compiles_accounted :
    (∀ (services : TextMap Service) (tiers : TierTable) (attached : Option String),
      (∀ key service, services.get? key = some service → service.name = key) →
        ∀ moves, Accounted (initial services tiers attached) moves) ∧
    (∀ (s : Session) (model : ModelSource) (config : Config) (w : Workload),
      (s.load model config).2 = .ok w →
        (s.dispatcher.load model config).1 = w.processor.toList ++ w.accelerator.toList ∧
        s.issue (.load model config) = { s with loads := s.loads ++ [⟨s.attached.getD "", w⟩] } ∧
        s.returned? (.request (.load model config)) = some w) ∧
    (∀ (s : Session) (model : ModelSource) (config : Config) (e : DispatchError),
      (s.load model config).2 = .error e →
        (s.dispatcher.load model config).1 = [] ∧
        s.issue (.load model config) = s ∧ s.returned? (.request (.load model config)) = none) ∧
    (∀ (s : Session) (command : Command), command.asks = true →
      s.issue command = s ∧ (s.Reachable → (s.run command).1.compiles = s.compiles)) ∧
    (∀ (services : TextMap Service) (tiers : TierTable) (attached : Option String)
      (commands : List Command),
      Plays commands (initial services tiers attached)
        ((initial services tiers attached).runAll commands)) := by
  refine ⟨fun services tiers attached hNames moves => accounted_play tiers attached hNames moves, ?_, ?_, ?_, ?_⟩
  · intro s model config w hLoad
    have hDispatched := (s.snd_load model config).symm.trans hLoad
    refine ⟨Dispatcher.started_of_load hDispatched, ?_, ?_⟩
    · rw [issue_load, load_of_ok hDispatched]
    · simp only [returned?, Move.command?, Option.bind_some, loaded?, hLoad]
      rfl
  · intro s model config e hLoad
    have hDispatched := (s.snd_load model config).symm.trans hLoad
    refine ⟨Dispatcher.started_of_load_error hDispatched, ?_, ?_⟩
    · rw [issue_load, load_of_error hLoad]
    · simp only [returned?, Move.command?, Option.bind_some, loaded?, hLoad]
      rfl
  · intro s command hAsks
    exact ⟨issue_of_asks hAsks s, fun hReachable => compiles_run_of_asks hReachable.quiet hAsks⟩
  · intro services tiers attached commands
    exact plays_runAll rfl commands

/-- A service for two families. -/
def sharedService : Service :=
  (DeviceProfile.named "Shared").service "S"

/-- The table with this service only. -/
def sharedTable : TextMap Service :=
  .ofList [("S", sharedService)]

/-- One service is registered for two families, a load makes a slot on each of them, and one of the families
is removed before the task of its slot starts. -/
def sharedMoves : List Move :=
  [.request (.register "main" ⟨"CPU"⟩ "S"), .request (.register "main" ⟨"VPUX"⟩ "S"),
    .request (.load (.path "m") .empty), .start ⟨0, .processor⟩,
    .request (.unregister "main" ⟨"VPUX"⟩), .start ⟨0, .accelerator⟩,
    .request (.compile "main" ⟨"CPU"⟩ (.path "m") .empty)]

/-- The load has started two tasks, and no third one has been started since.  The service has received the
request of one of them, and a direct one; the other task has found no service, and its slot fails.  Without a
catalog a load fails, and waiting for a workload that is not there is in vain. -/
theorem compiles_accounted_shared :
    (∀ key service, sharedTable.get? key = some service → service.name = key) ∧
    ((initial sharedTable .standard (some "main")).play sharedMoves).compileCount "S" = 1 + 1 ∧
    (∃ x, ((initial sharedTable .standard (some "main")).play sharedMoves).slotAt? ⟨0, .accelerator⟩ = some x ∧
      x.device = ⟨"VPUX"⟩ ∧
      x.resolution? = some (.error (x.failure (DeviceError.unavailable x.device).message))) ∧
    ((initial sharedTable .standard (some "main")).startedIn sharedMoves).map Slot.place =
      [(.processor, ⟨"CPU"⟩), (.accelerator, ⟨"VPUX"⟩)] ∧
    (((initial sharedTable .standard (some "main")).play (sharedMoves.take 2)).dispatcher.load (.path "m")
      .empty).1 = [.spawn .processor ⟨"CPU"⟩ (.path "m"), .spawn .accelerator ⟨"VPUX"⟩ (.path "m")] ∧
    (initial sharedTable .standard none).issue (.load (.path "m") .empty) =
      initial sharedTable .standard none ∧
    ((initial sharedTable .standard none).run (.settle 0)).1.compiles = .empty := by
  have hNames : ∀ key service, sharedTable.get? key = some service → service.name = key := by
    intro key service h
    have hGet : sharedTable.get? key = if key = "S" then some sharedService else none :=
      TextMap.get?_insert ..
    rw [hGet] at h
    by_cases hKey : key = "S"
    · rw [if_pos hKey] at h
      cases h
      exact hKey.symm
    · rw [if_neg hKey] at h
      cases h
  have hAccounted := compiles_accounted.1 sharedTable .standard (some "main") hNames sharedMoves
  refine ⟨hNames, ?_, ?_, ?_, ?_, ?_, ?_⟩
  · rw [hAccounted.counts "S"]
    decide +kernel
  · have hRequest : ∃ r ∈ (initial sharedTable .standard (some "main")).requests sharedMoves,
        r.task? = some ⟨0, .accelerator⟩ ∧ r.service?.isNone = true ∧ r.device = ⟨"VPUX"⟩ := by
      decide +kernel
    obtain ⟨r, hr, hTask, hNobody, hDevice⟩ := hRequest
    rw [← hDevice]
    exact hAccounted.unserved r hr _ hTask (Option.isNone_iff_eq_none.mp hNobody)
  · rw [hAccounted.started]
    decide +kernel
  · exact (compiles_accounted.2.1 _ _ _ ⟨some (.spawn .processor ⟨"CPU"⟩ (.path "m")),
      some (.spawn .accelerator ⟨"VPUX"⟩ (.path "m")), false⟩ rfl).1
  · exact (compiles_accounted.2.2.1 _ _ _ .notConfigured rfl).2.1
  · exact (compiles_accounted.2.2.2.1 _ (.settle 0) rfl).2 ⟨_, _, _, [], rfl⟩

end Session

end TieredDispatch
