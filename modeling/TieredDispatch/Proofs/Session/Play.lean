import TieredDispatch.Proofs.Slot.Course
import TieredDispatch.Proofs.Workload.Caller

/-!
# Sessions whose tasks go their own way

A session starts all tasks of a load right after it, and lets them report as its clock says.  In a *play*
of a session every task starts and reports when it likes, one by one and between any two requests.  A
request changes what it changes at once, and neither to wait nor to let time pass does anything by itself:
who waits is held up until the moves that are waited for have been made.

* `Session.move`, `Session.play`: one move, and a row of them.
* `Session.issued`: what a request can change, and `Session.issue_of_asks`: which requests change nothing.
* `Session.loads_move`: only a load that succeeds adds a workload, and only the start and the report of its
  own tasks change a workload that is there.
-/

namespace TieredDispatch

namespace Workload

/-- The workload with a change made to each of its slots, which may depend on the place. -/
def mapPlaces (w : Workload) (f : SlotKind → Slot → Slot) : Workload :=
  { w with processor := w.processor.map (f .processor), accelerator := w.accelerator.map (f .accelerator) }

/-- The workload with a change made to the slot of one kind. -/
def change (w : Workload) (kind : SlotKind) (f : Slot → Slot) : Workload :=
  w.mapPlaces fun kind' x => if kind' = kind then f x else x

@[simp] theorem slot?_mapPlaces (w : Workload) (f : SlotKind → Slot → Slot) (kind : SlotKind) :
    (w.mapPlaces f).slot? kind = (w.slot? kind).map (f kind) := by
  cases kind <;> rfl

theorem slot?_change (w : Workload) (kind kind' : SlotKind) (f : Slot → Slot) :
    (w.change kind f).slot? kind' = if kind' = kind then (w.slot? kind').map f else w.slot? kind' := by
  by_cases h : kind' = kind <;> simp [change, h]

theorem mapPlaces_id (w : Workload) : (w.mapPlaces fun _ x => x) = w := by
  simp [mapPlaces]

theorem mapPlaces_mapPlaces (w : Workload) (f g : SlotKind → Slot → Slot) :
    (w.mapPlaces f).mapPlaces g = w.mapPlaces fun kind => g kind ∘ f kind := by
  simp only [mapPlaces, Option.map_map]

end Workload

/-- The place of a slot in its workload, and its device. -/
def Slot.place (x : Slot) : SlotKind × DeviceId := (x.kind, x.device)

/-- A compile task, by the workload of its slot and the place of the slot in it. -/
@[ext] structure TaskId where
  workload : Nat
  kind : SlotKind
  deriving DecidableEq

/-- Whether a request only asks, or lets time pass. -/
def Command.asks : Command → Bool
  | .register .. => false
  | .unregister .. => false
  | .registerGroup .. => false
  | .compile .. => false
  | .attach _ => false
  | .setConfig _ => false
  | .load .. => false
  | _ => true

namespace Session

variable {s : Session}

/-! ## Moves -/

def slotAt? (s : Session) (t : TaskId) : Option Slot :=
  (s.workload? t.workload).bind fun w => w.slot? t.kind

/-- The catalog in which a task looks its service up. -/
def homeOf (s : Session) (t : TaskId) : Catalog :=
  (s.loads[t.workload]?.map fun l => s.catalog l.catalog).getD .empty

/-- The session with a change made to the slot of one task. -/
def changeSlot (s : Session) (t : TaskId) (f : Slot → Slot) : Session :=
  { s with
    loads := s.loads.modify t.workload fun l => { l with workload := l.workload.change t.kind f } }

/-- The service, if any, has received a compile request. -/
def receive (s : Session) : Option Service → Session
  | some service => s.countCompile service.name
  | none => s

/-- The task starts: it looks its service up, which receives a compile request. -/
def startTask (s : Session) (t : TaskId) : Session :=
  (s.changeSlot t fun x => (x.start (s.homeOf t) s.clock).1).receive
    ((s.slotAt? t).bind fun x => (x.start (s.homeOf t) s.clock).2)

/-- What a request changes at once. -/
def issue (s : Session) : Command → Session
  | .compile catalog d model config => s.receive ((s.catalog catalog).compile d model config).1
  | .advance _ => s
  | .settle _ => s
  | .wait _ _ => s
  | command => (s.step command).1

/-- What may happen in a session. -/
inductive Move
  | request (command : Command)
  | start (task : TaskId)
  | report (task : TaskId)
  /-- The clock is set forward, which no task takes notice of. -/
  | tick (now : Nat)

/-- The request that a move makes, if it makes one. -/
def Move.command? : Move → Option Command
  | request command => some command
  | _ => none

def move (s : Session) : Move → Session
  | .request command => s.issue command
  | .start t => s.startTask t
  | .report t => s.changeSlot t Slot.report
  | .tick now => { s with clock := max s.clock now }

/-- The session after a row of moves. -/
def play (s : Session) (moves : List Move) : Session :=
  moves.foldl move s

theorem play_cons (s : Session) (m : Move) (moves : List Move) :
    s.play (m :: moves) = (s.move m).play moves := rfl

theorem play_append (s : Session) (moves later : List Move) :
    s.play (moves ++ later) = (s.play moves).play later := List.foldl_append

theorem play_induction {P : Session → Prop} (hMove : ∀ s m, P s → P (s.move m)) (h : P s)
    (moves : List Move) : P (s.play moves) := by
  induction moves generalizing s with
  | nil => exact h
  | cons m moves ih => exact ih (hMove s m h)

/-! ## Requests -/

theorem issue_of_asks {command : Command} (h : command.asks = true) (s : Session) :
    s.issue command = s := by
  cases command with
  | register | unregister | registerGroup | compile | attach | setConfig | load => cases h
  | available | parseDeviceList | supportedOperations | capabilities | partition | compileCount | config =>
    rfl
  | advance | settle | wait => rfl
  | deviceMetric | metricText | metricList | deviceName | manifest | operations => exact fst_askDevice ..
  | listDevices | getConfig | select | query | metric => exact fst_askDispatcher ..
  | peek index =>
    simp only [issue, step]
    split <;> rfl
  | slot index kind =>
    simp only [issue, step]
    split
    · rfl
    · exact fst_askDispatcher ..

theorem issue_load (s : Session) (model : ModelSource) (config : Config) :
    s.issue (.load model config) = (s.load model config).1 := by
  simp only [issue, step]
  split
  · next hLoad => rw [hLoad]
  · next hLoad => rw [hLoad]

/-- The workload that a request gives back, if it is a load and succeeds. -/
def loaded? (s : Session) : Command → Option Workload
  | .load model config => (s.load model config).2.toOption
  | _ => none

/-- What a request changes at once, with the request that changes it. -/
inductive Issued (s : Session) : Command → Session → Prop
  /-- A question, or a request that is refused. -/
  | kept {command : Command} : s.loaded? command = none →
      (∀ name d model config, command ≠ .compile name d model config) → Issued s command s
  | register (name : String) (family : DeviceId) {key : String} {service : Service} :
      s.services.get? key = some service →
        Issued s (.register name family key) (s.setCatalog name ((s.catalog name).register family service))
  | unregister (name : String) (family : DeviceId) :
      Issued s (.unregister name family) (s.setCatalog name ((s.catalog name).unregister family).2)
  | registerGroup (name group : String) (members : List DeviceId) :
      Issued s (.registerGroup name group members)
        (s.setCatalog name ((s.catalog name).registerGroup group members))
  | attach (name : String) : Issued s (.attach name) { s with attached := some name }
  | store {config : Config} : config.validate = .ok () →
      Issued s (.setConfig config) { s with stored := s.stored.merge config }
  | load {model : ModelSource} {config : Config} {w : Workload} :
      (s.load model config).2 = .ok w →
        Issued s (.load model config) { s with loads := s.loads ++ [⟨s.attached.getD "", w⟩] }
  | compile (name : String) (d : DeviceId) (model : ModelSource) (config : Config) :
      Issued s (.compile name d model config) (s.receive ((s.catalog name).serviceFor? d))

theorem issued_of_asks {command : Command} (h : command.asks = true) (s : Session) :
    Issued s command (s.issue command) := by
  rw [issue_of_asks h]
  refine .kept ?_ ?_
  · cases command with
    | load => cases h
    | _ => rfl
  · rintro name d model config rfl
    cases h

theorem issued_load (s : Session) (model : ModelSource) (config : Config) :
    Issued s (.load model config) (s.issue (.load model config)) := by
  rw [issue_load]
  cases hLoad : (s.load model config).2 with
  | ok w =>
    rw [load_of_ok (s.snd_load model config ▸ hLoad)]
    exact .load hLoad
  | error e =>
    rw [load_of_error hLoad]
    exact .kept (by rw [loaded?, hLoad]; rfl) (by simp)

/-- What a request can change. -/
theorem issued (s : Session) (command : Command) : Issued s command (s.issue command) := by
  cases hAsks : command.asks with
  | true => exact issued_of_asks hAsks s
  | false =>
    cases command with
    | register name family key =>
      simp only [issue, step]
      split
      · exact .kept rfl (by simp)
      · next hService => exact .register name family hService
    | unregister name family => exact .unregister name family
    | registerGroup name group members => exact .registerGroup name group members
    | attach name => exact .attach name
    | setConfig config =>
      simp only [issue, step]
      split
      · next d hStore =>
        obtain ⟨hValid, hStored⟩ := stored_of_setConfig hStore
        rw [hStored]
        exact .store hValid
      · exact .kept rfl (by simp)
    | load model config => exact s.issued_load model config
    | compile name d model config =>
      rw [issue, Catalog.fst_compile]
      exact .compile name d model config
    | _ => cases hAsks

@[simp] theorem loads_receive (s : Session) (service : Option Service) :
    (s.receive service).loads = s.loads := by
  cases service <;> rfl

@[simp] theorem strays_receive (s : Session) (service : Option Service) :
    (s.receive service).strays = s.strays := by
  cases service <;> rfl

/-- The workload that is loaded, if one is, comes last. -/
theorem Issued.loads_eq {command : Command} {s' : Session} (h : Issued s command s') :
    s'.loads = s.loads ++ (s.loaded? command).toList.map (⟨s.attached.getD "", ·⟩) := by
  cases h with
  | kept hNone _ =>
    rw [hNone]
    exact (List.append_nil _).symm
  | load hLoad =>
    rw [loaded?, hLoad]
    rfl
  | compile name d model config => exact (loads_receive ..).trans (List.append_nil _).symm
  | _ => exact (List.append_nil _).symm

theorem Issued.strays_eq {command : Command} {s' : Session} (h : Issued s command s') :
    s'.strays = s.strays := by
  cases h with
  | compile name d model config => exact strays_receive ..
  | _ => rfl

/-! ## What a move does to a workload -/

/-- What a move does to the slot of a task. -/
def effect (s : Session) (m : Move) (t : TaskId) (x : Slot) : Slot :=
  match m with
  | .start u => if t = u then (x.start (s.homeOf u) s.clock).1 else x
  | .report u => if t = u then x.report else x
  | _ => x

/-- The workload that a move adds. -/
def returned? (s : Session) (m : Move) : Option Workload :=
  m.command?.bind s.loaded?

theorem loads_changeSlot (s : Session) (t : TaskId) (f : Slot → Slot) :
    (s.changeSlot t f).loads = s.loads.mapIdx fun i l =>
      { l with workload := l.workload.mapPlaces fun kind x => if ⟨i, kind⟩ = t then f x else x } := by
  refine List.ext_getElem? fun i => ?_
  rw [changeSlot, List.getElem?_modify, List.getElem?_mapIdx]
  cases s.loads[i]? with
  | none => rfl
  | some l =>
    by_cases hi : t.workload = i
    · subst hi
      simp [TaskId.ext_iff, Workload.change]
    · have hne : ¬ i = t.workload := fun h => hi h.symm
      simp [hi, hne, TaskId.ext_iff, Workload.mapPlaces_id]

/-- The workloads after a move: those that are there change by what the move does to their slots, and the
move may add one. -/
theorem loads_move (s : Session) (m : Move) :
    (s.move m).loads =
      (s.loads.mapIdx fun i l =>
        { l with workload := l.workload.mapPlaces fun kind => s.effect m ⟨i, kind⟩ }) ++
      (s.returned? m).toList.map (⟨s.attached.getD "", ·⟩) := by
  have hSame : (s.loads.mapIdx fun _ l => { l with workload := l.workload.mapPlaces fun _ x => x }) =
      s.loads := by
    refine List.ext_getElem? fun i => ?_
    rw [List.getElem?_mapIdx]
    cases s.loads[i]? <;> simp [Workload.mapPlaces_id]
  cases m with
  | request command => exact (s.issued command).loads_eq.trans (congrArg (· ++ _) hSame.symm)
  | start t =>
    simp only [move, startTask, loads_receive, loads_changeSlot]
    exact (List.append_nil _).symm
  | report t =>
    simp only [move, loads_changeSlot]
    exact (List.append_nil _).symm
  | tick now => exact hSame.symm.trans (List.append_nil _).symm

theorem workload?_move {i : Nat} {w : Workload} (h : s.workload? i = some w) (m : Move) :
    (s.move m).workload? i = some (w.mapPlaces fun kind => s.effect m ⟨i, kind⟩) := by
  obtain ⟨l, hl, rfl⟩ := Option.map_eq_some_iff.mp h
  have hi : i < s.loads.length := (List.getElem?_eq_some_iff.mp hl).1
  rw [workload?, loads_move, List.getElem?_append_left (by simpa using hi), List.getElem?_mapIdx, hl]
  rfl

theorem slotAt?_eq_some_iff {t : TaskId} {x : Slot} :
    s.slotAt? t = some x ↔ ∃ w, s.workload? t.workload = some w ∧ w.slot? t.kind = some x :=
  Option.bind_eq_some_iff

theorem slotAt?_move {t : TaskId} {x : Slot} (h : s.slotAt? t = some x) (m : Move) :
    (s.move m).slotAt? t = some (s.effect m t x) := by
  obtain ⟨w, hw, hx⟩ := slotAt?_eq_some_iff.mp h
  rw [slotAt?, workload?_move hw, Option.bind_some, Workload.slot?_mapPlaces, hx]
  rfl

/-- The workload that a move adds comes last. -/
theorem workload?_move_length (s : Session) (m : Move) :
    (s.move m).workload? s.loads.length = s.returned? m := by
  rw [workload?, loads_move, List.getElem?_append_right (by simp), List.length_mapIdx, Nat.sub_self]
  cases s.returned? m <;> rfl

/-- The slots of a workload that a move adds have just been made. -/
theorem spawned_of_returned? {m : Move} {w : Workload} (h : s.returned? m = some w) :
    ∃ model, ∀ x ∈ w.slots, x.Spawned model := by
  obtain ⟨command, -, hLoaded⟩ := Option.bind_eq_some_iff.mp h
  cases command with
  | load model config =>
    rw [loaded?, snd_load] at hLoaded
    cases hLoad : (s.dispatcher.load model config).2 with
    | error e =>
      rw [hLoad] at hLoaded
      cases hLoaded
    | ok w' =>
      rw [hLoad] at hLoaded
      cases hLoaded
      exact ⟨model, Dispatcher.spawned_of_load hLoad⟩
  | _ => cases hLoaded

/-- A slot that is there after a move was there before it, or has been made by it. -/
theorem slotAt?_move_cases {m : Move} {t : TaskId} {x : Slot} (h : (s.move m).slotAt? t = some x) :
    (∃ y, s.slotAt? t = some y ∧ x = s.effect m t y) ∨
      (s.slotAt? t = none ∧ ∃ model, x.Spawned model) := by
  cases hSlot : s.slotAt? t with
  | some y =>
    rw [slotAt?_move hSlot] at h
    cases h
    exact Or.inl ⟨y, rfl, rfl⟩
  | none =>
    refine Or.inr ⟨rfl, ?_⟩
    obtain ⟨w, hw, hx⟩ := slotAt?_eq_some_iff.mp h
    obtain ⟨l, hl, -⟩ := Option.map_eq_some_iff.mp hw
    have hi := (List.getElem?_eq_some_iff.mp hl).1
    by_cases hOld : t.workload < s.loads.length
    · -- a workload that was there has no new slot
      have hOldLoad : s.workload? t.workload = some s.loads[t.workload].workload := by
        rw [workload?, List.getElem?_eq_getElem hOld, Option.map_some]
      rw [workload?_move hOldLoad] at hw
      cases hw
      rw [slotAt?, hOldLoad, Option.bind_some] at hSlot
      rw [Workload.slot?_mapPlaces, hSlot] at hx
      cases hx
    · have hLength : t.workload = s.loads.length := by
        rw [loads_move, List.length_append, List.length_mapIdx, List.length_map] at hi
        have hOne : (s.returned? m).toList.length ≤ 1 := by cases s.returned? m <;> simp
        omega
      rw [hLength, workload?_move_length] at hw
      obtain ⟨model, hSpawned⟩ := spawned_of_returned? hw
      exact ⟨model, hSpawned x (Workload.mem_slots_iff.mpr ⟨t.kind, hx⟩)⟩

/-! ## What a play does to a slot -/

/-- A move leaves a slot alone, or it is the start or the report of its task. -/
theorem effect_cases (s : Session) (m : Move) (t : TaskId) (x : Slot) :
    s.effect m t x = x ∨ (m = .start t ∧ s.effect m t x = (x.start (s.homeOf t) s.clock).1) ∨
      (m = .report t ∧ s.effect m t x = x.report) := by
  cases m with
  | request command => exact Or.inl rfl
  | start u =>
    by_cases ht : t = u
    · subst ht
      exact Or.inr (Or.inl ⟨rfl, if_pos rfl⟩)
    · exact Or.inl (if_neg ht)
  | report u =>
    by_cases ht : t = u
    · subst ht
      exact Or.inr (Or.inr ⟨rfl, if_pos rfl⟩)
    · exact Or.inl (if_neg ht)
  | tick now => exact Or.inl rfl

/-- But for its start a task only lets its slot report. -/
theorem continues_effect (s : Session) {m : Move} {t : TaskId} {x : Slot}
    (h : m = .start t → x.isStarted = true) : x.Continues (s.effect m t x) := by
  rcases s.effect_cases m t x with hSame | ⟨hm, hStart⟩ | ⟨-, hReport⟩
  · exact Or.inl hSame
  · rw [hStart, Slot.start_of_isStarted (h hm)]
    exact .refl x
  · exact Or.inr hReport

theorem sound_effect (s : Session) (m : Move) (t : TaskId) {x : Slot} (h : x.Sound) :
    (s.effect m t x).Sound := by
  rcases s.effect_cases m t x with hSame | ⟨-, hStart⟩ | ⟨-, hReport⟩
  · rw [hSame]
    exact h
  · rw [hStart]
    exact h.start _ _
  · rw [hReport]
    exact h.report

theorem place_effect (s : Session) (m : Move) (t : TaskId) (x : Slot) :
    (s.effect m t x).place = x.place := by
  rcases s.effect_cases m t x with hSame | ⟨-, hStart⟩ | ⟨-, hReport⟩
  · rw [hSame]
  · rw [hStart]
    exact Prod.ext (Slot.kind_start ..) (Slot.device_start ..)
  · rw [hReport]
    exact Prod.ext (Slot.kind_report ..) (Slot.device_report ..)

/-- Whether all slots have got where they are by starting and reporting. -/
def Sound (s : Session) : Prop :=
  ∀ t x, s.slotAt? t = some x → x.Sound

theorem sound_initial (services : TextMap Service) (tiers : TierTable) (attached : Option String) :
    (initial services tiers attached).Sound := by
  intro t x hx
  cases hx

theorem Sound.move (h : s.Sound) (m : Move) : (s.move m).Sound := by
  intro t x hx
  rcases slotAt?_move_cases hx with ⟨y, hy, rfl⟩ | ⟨-, model, hSpawned⟩
  · exact s.sound_effect m t (h t y hy)
  · exact hSpawned.sound

theorem Sound.play (h : s.Sound) (moves : List Move) : (s.play moves).Sound :=
  play_induction (fun _ m h => h.move m) h moves

/-- A slot whose task has started stays what it is, but for the report. -/
theorem continues_play {t : TaskId} {x : Slot} (h : s.slotAt? t = some x) (hStarted : x.isStarted = true)
    (moves : List Move) : ∃ y, (s.play moves).slotAt? t = some y ∧ x.Continues y := by
  refine play_induction (P := fun s => ∃ y, s.slotAt? t = some y ∧ x.Continues y) ?_ ⟨x, h, .refl x⟩ moves
  rintro s m ⟨y, hy, hContinues⟩
  refine ⟨s.effect m t y, slotAt?_move hy m, ?_⟩
  have hEffect := s.continues_effect (m := m) (t := t) fun _ => hContinues.isStarted_eq.trans hStarted
  exact hContinues.trans hEffect

end Session

end TieredDispatch
