import TieredDispatch.Proofs.Session.Accounting

/-!
# Workloads among each other

Once the tasks of a workload have started, nothing that happens later has an effect on it but the reports of
its own tasks, and what they will say is settled.  In the other direction, a load finds the catalogs and the
settings as they are at its own moment; of what happened before it, only the changes of these matter.

* `Workload.Continues`: whether a workload is what one has become whose tasks had all started.
* `Session.workload?_move_of_others`: the moves of others leave a workload as it is.
* `Session.setup`: the part of a session that a load reads, and `Move.changesSetup`: the moves that change it.
* `Session.snd_load_play`: a load after a play depends on the changes of the setup only.
* `Session.workloads_isolated`: what later moves leave alone in a workload, and what a later load sees.
-/

namespace TieredDispatch

/-! ## What becomes of a workload -/

namespace Workload

variable {w w' : Workload}

/-- Whether a workload is what another one has become: some of its slots may have got their report. -/
structure Continues (w w' : Workload) : Prop where
  perfCount : w'.perfCount = w.perfCount
  absent : ∀ kind, w.slot? kind = none → w'.slot? kind = none
  present : ∀ kind x, w.slot? kind = some x → ∃ y, w'.slot? kind = some y ∧ x.Continues y

theorem Continues.refl (w : Workload) : w.Continues w :=
  ⟨rfl, fun _ h => h, fun _ x h => ⟨x, h, .refl x⟩⟩

/-- The same workload to an observer: the slots stand in their places, with their kinds and their devices,
and each of them comes to the same and says nothing else before. -/
structure Keeps (w w' : Workload) : Prop where
  perfCount : w'.perfCount = w.perfCount
  places : ∀ kind, (w'.slot? kind).map (fun x => (x.kind, x.device)) =
    (w.slot? kind).map fun x => (x.kind, x.device)
  outcome : ∀ kind x, w.slot? kind = some x → ∃ y r, w'.slot? kind = some y ∧
    x.resolution? = some r ∧ y.resolution? = some r ∧ (y.result? = none ∨ y.result? = some r)

/-- Some slots may have got their report: an observer is told the same in the end. -/
theorem Continues.keeps (h : w.Continues w')
    (hStarted : ∀ kind x, w.slot? kind = some x → x.isStarted = true)
    (hSound : ∀ kind x, w.slot? kind = some x → x.Sound)
    (hSound' : ∀ kind x, w'.slot? kind = some x → x.Sound) : w.Keeps w' where
  perfCount := h.perfCount
  places kind := by
    cases hSlot : w.slot? kind with
    | none => rw [h.absent kind hSlot]
    | some x =>
      obtain ⟨y, hy, hContinues⟩ := h.present kind x hSlot
      rw [hy, Option.map_some, Option.map_some, hContinues.kind_eq, hContinues.device_eq]
  outcome kind x hx := by
    obtain ⟨y, hy, hContinues⟩ := h.present kind x hx
    obtain ⟨r, hr⟩ := Option.isSome_iff_exists.mp
      ((hSound kind x hx).resolution?_isSome (hStarted kind x hx))
    have hSame : y.resolution? = some r := hContinues.resolution?_eq.trans hr
    exact ⟨y, r, hy, hr, hSame, hSame ▸ (hSound' kind y hy).result?_eq⟩

end Workload

/-- Whether a request changes what a load reads. -/
def Command.changesSetup : Command → Bool
  | register .. => true
  | unregister .. => true
  | registerGroup .. => true
  | attach _ => true
  | setConfig _ => true
  | _ => false

/-- Whether a move changes what a load reads. -/
def Session.Move.changesSetup (m : Session.Move) : Bool :=
  m.command?.any Command.changesSetup

namespace Session

variable {s : Session} {index : Nat} {w : Workload}

/-! ## Later moves -/

theorem sound_of_workload? (h : s.Sound) (hw : s.workload? index = some w) :
    ∀ kind x, w.slot? kind = some x → x.Sound := by
  intro kind x hx
  exact h ⟨index, kind⟩ x (slotAt?_eq_some_iff.mpr ⟨w, hw, hx⟩)

/-- A move that neither starts nor reports a task of a workload leaves the workload as it is. -/
theorem workload?_move_of_others (hw : s.workload? index = some w) {m : Move}
    (hOthers : ∀ kind, m ≠ .start ⟨index, kind⟩ ∧ m ≠ .report ⟨index, kind⟩) :
    (s.move m).workload? index = some w := by
  have hEffect : (fun kind => s.effect m ⟨index, kind⟩) = fun _ x => x := by
    funext kind x
    cases m with
    | request command => rfl
    | start t =>
      rw [effect, if_neg]
      rintro rfl
      exact (hOthers kind).1 rfl
    | report t =>
      rw [effect, if_neg]
      rintro rfl
      exact (hOthers kind).2 rfl
    | tick now => rfl
  rw [workload?_move hw, hEffect, Workload.mapPlaces_id]

/-- A workload whose tasks have started stays what it is, but for the reports of its slots. -/
theorem continues_workload_play (hw : s.workload? index = some w)
    (hStarted : ∀ kind x, w.slot? kind = some x → x.isStarted = true) (moves : List Move) :
    ∃ w', (s.play moves).workload? index = some w' ∧ w.Continues w' := by
  refine play_induction (P := fun s => ∃ w', s.workload? index = some w' ∧ w.Continues w') ?_
    ⟨w, hw, .refl w⟩ moves
  rintro s m ⟨w', hw', hContinues⟩
  refine ⟨_, workload?_move hw' m, hContinues.perfCount, fun kind hNone => ?_, fun kind x hx => ?_⟩
  · rw [Workload.slot?_mapPlaces, hContinues.absent kind hNone]
    rfl
  · obtain ⟨y, hy, hSlot⟩ := hContinues.present kind x hx
    have hEffect := s.continues_effect (m := m) (t := ⟨index, kind⟩)
      fun _ => hSlot.isStarted_eq.trans (hStarted kind x hx)
    refine ⟨_, ?_, hSlot.trans hEffect⟩
    rw [Workload.slot?_mapPlaces, hy, Option.map_some]

theorem keeps_workload_play (h : s.Sound) (hw : s.workload? index = some w)
    (hStarted : ∀ kind x, w.slot? kind = some x → x.isStarted = true) (moves : List Move) :
    ∃ w', (s.play moves).workload? index = some w' ∧ w.Keeps w' := by
  obtain ⟨w', hw', hContinues⟩ := continues_workload_play hw hStarted moves
  exact ⟨w', hw', hContinues.keeps hStarted (sound_of_workload? h hw)
    (sound_of_workload? (h.play moves) hw')⟩

/-! ## What a load reads -/

/-- The part of a session that a load reads: the catalogs, the tiers, the stored settings and the name of the
attached catalog, with the services that can be registered. -/
def setup (s : Session) : Session :=
  { s with clock := 0, compiles := .empty, loads := [], strays := [] }

theorem snd_load_setup (s : Session) (model : ModelSource) (config : Config) :
    (s.setup.load model config).2 = (s.load model config).2 := by
  rw [snd_load, snd_load]
  rfl

theorem setup_receive (s : Session) (service? : Option Service) : (s.receive service?).setup = s.setup := by
  cases service? <;> rfl

theorem Issued.setup_eq {command : Command} {s' : Session} (h : Issued s command s')
    (hKept : command.changesSetup = false) : s'.setup = s.setup := by
  cases h with
  | kept | load => rfl
  | compile name d model config => exact setup_receive ..
  | register | unregister | registerGroup | attach | store => cases hKept

/-- What changes the setup does so by the setup alone. -/
theorem setup_issue {command : Command} (h : command.changesSetup = true) (s : Session) :
    (s.issue command).setup = s.setup.issue command := by
  cases command with
  | register name family key =>
    have hServices : s.setup.services = s.services := rfl
    simp only [issue, step, hServices]
    split <;> rfl
  | setConfig config =>
    have hDispatcher : s.setup.dispatcher = s.dispatcher := rfl
    simp only [issue, step, hDispatcher]
    split <;> rfl
  | unregister | registerGroup | attach => rfl
  | _ => cases h

theorem setup_move_of_kept {m : Move} (h : m.changesSetup = false) : (s.move m).setup = s.setup := by
  cases m with
  | request command => exact (s.issued command).setup_eq h
  | start t => exact setup_receive ..
  | report t => rfl
  | tick now => rfl

theorem setup_move_of_changed {m : Move} (h : m.changesSetup = true) :
    (s.move m).setup = s.setup.move m := by
  cases m with
  | request command => exact setup_issue h s
  | start t => cases h
  | report t => cases h
  | tick now => cases h

theorem setup_play (s : Session) (moves : List Move) :
    (s.play moves).setup = s.setup.play (moves.filter Move.changesSetup) := by
  induction moves generalizing s with
  | nil => rfl
  | cons m moves ih =>
    rw [play_cons, ih]
    cases hm : m.changesSetup with
    | true => rw [List.filter_cons_of_pos hm, play_cons, setup_move_of_changed hm]
    | false => rw [List.filter_cons_of_neg (by simp [hm]), setup_move_of_kept hm]

/-- A load after a play depends on the changes of the setup only. -/
theorem snd_load_play (s : Session) (moves : List Move) (model : ModelSource) (config : Config) :
    ((s.play moves).load model config).2 =
      ((s.setup.play (moves.filter Move.changesSetup)).load model config).2 := by
  rw [← setup_play, snd_load_setup]

theorem filter_changesSetup (moves : List Move) :
    moves.filter Move.changesSetup =
      ((moves.filterMap Move.command?).filter Command.changesSetup).map Move.request := by
  induction moves with
  | nil => rfl
  | cons m moves ih =>
    cases m with
    | request command =>
      cases hChanges : command.changesSetup <;>
        simp [Move.changesSetup, Move.command?, hChanges, ih]
    | start t => exact ih
    | report t => exact ih
    | tick now => exact ih

/-- A load after a run depends on the requests only that change the setup. -/
theorem snd_load_runAll (h : s.strays = []) (commands : List Command) (model : ModelSource)
    (config : Config) :
    ((s.runAll commands).load model config).2 =
      ((s.runAll (commands.filter Command.changesSetup)).load model config).2 := by
  -- both runs are plays, and what these change in the setup is told by their requests
  obtain ⟨moves, hCommands, hPlay⟩ := plays_runAll h commands
  obtain ⟨moves', hCommands', hPlay'⟩ := plays_runAll h (commands.filter Command.changesSetup)
  have hSame : moves.filter Move.changesSetup = moves'.filter Move.changesSetup := by
    rw [filter_changesSetup, filter_changesSetup, hCommands, hCommands', List.filter_filter]
    simp only [Bool.and_self]
  rw [← hPlay, ← hPlay', snd_load_play s moves, snd_load_play s moves', hSame]

/-- Workloads are isolated.  From the moment at which all tasks of a workload have started, whatever else is
moved or run, its slots stay in their places and on their devices, what each of them comes to is settled,
and performance counters are asked for as before; and a move which neither starts nor reports one of its
tasks does not change it at all.  A later load finds the setup of its own moment: of all that happened, it
depends on the registrations, the groups, the attachments and the stored settings only. -/
theorem workloads_isolated (services : TextMap Service) (tiers : TierTable) (attached : Option String)
    (before : List Move) :
    let s := (initial services tiers attached).play before
    (∀ index w, s.workload? index = some w →
      (∀ m : Move, (∀ kind, m ≠ .start ⟨index, kind⟩ ∧ m ≠ .report ⟨index, kind⟩) →
        (s.move m).workload? index = some w) ∧
      ((∀ x ∈ w.slots, x.Started) →
        (∀ later : List Move, ∃ w', (s.play later).workload? index = some w' ∧ w.Keeps w') ∧
        (∀ later : List Command, ∃ w', (s.runAll later).workload? index = some w' ∧ w.Keeps w'))) ∧
    (∀ (later : List Move) (model : ModelSource) (config : Config),
      ((s.play later).load model config).2 = ((s.play later).dispatcher.load model config).2 ∧
      ((s.play later).load model config).2 =
        ((((initial services tiers attached).play ((before ++ later).filter Move.changesSetup))).load
          model config).2) ∧
    (∀ (later : List Command) (model : ModelSource) (config : Config),
      ((s.runAll later).load model config).2 =
        ((s.runAll (later.filter Command.changesSetup)).load model config).2) := by
  intro s
  have hSound : s.Sound := (sound_initial services tiers attached).play before
  have hStrays : s.strays = [] := play_induction (P := fun s => s.strays = [])
    (fun s m h => (s.strays_move m).trans h) rfl before
  refine ⟨fun index w hw => ⟨fun m hOthers => workload?_move_of_others hw hOthers, fun hAll => ?_⟩, ?_, ?_⟩
  · have hStarted : ∀ kind x, w.slot? kind = some x → x.isStarted = true := fun kind x hx =>
      Slot.isStarted_iff.mpr (hAll x (Workload.mem_slots_iff.mpr ⟨kind, hx⟩))
    refine ⟨fun later => keeps_workload_play hSound hw hStarted later, fun later => ?_⟩
    obtain ⟨moves, -, hPlay⟩ := plays_runAll hStrays later
    rw [← hPlay]
    exact keeps_workload_play hSound hw hStarted moves
  · intro later model config
    refine ⟨snd_load .., ?_⟩
    rw [← play_append, snd_load_play]
    rfl
  · intro later model config
    exact snd_load_runAll hStrays later model config

/-- Two families are registered, and the tasks of a load on both of them have started. -/
def loadedMoves : List Move :=
  [.request (.register "main" ⟨"CPU"⟩ "S"), .request (.register "main" ⟨"VPUX"⟩ "S"),
    .request (.load (.path "m") .empty), .start ⟨0, .processor⟩, .start ⟨0, .accelerator⟩]

/-- The accelerator is removed, and a setting is stored. -/
def removingMoves : List Move :=
  [.request (.unregister "main" ⟨"VPUX"⟩), .report ⟨0, .processor⟩,
    .request (.setConfig (.ofList [(Config.perfCountKey, "NO")]))]

/-- The workload keeps its slot on the removed accelerator; another load has a slot on the processor only,
and counts performance. -/
theorem workloads_isolated_removed :
    ∃ w, ((initial sharedTable .standard (some "main")).play loadedMoves).workload? 0 = some w ∧
      w.accelerator.map Slot.device = some ⟨"VPUX"⟩ ∧ (∀ x ∈ w.slots, x.Started) ∧
      (((initial sharedTable .standard (some "main")).play loadedMoves).move
        (.report ⟨1, .accelerator⟩)).workload? 0 = some w ∧
      (∃ w', (((initial sharedTable .standard (some "main")).play loadedMoves).play
        removingMoves).workload? 0 = some w' ∧ w.Keeps w') ∧
      (((((initial sharedTable .standard (some "main")).play loadedMoves).play removingMoves).load
        (.path "m") .empty).2.toOption.map fun w => (w.processor.map Slot.device, w.accelerator, w.perfCount)) =
          some (some ⟨"CPU"⟩, none, true) := by
  have hIsolated := workloads_isolated sharedTable .standard (some "main") loadedMoves
  have hLoaded : (((initial sharedTable .standard (some "main")).play loadedMoves).workload? 0).map
      (fun w => (w.accelerator.map Slot.device, w.slots.all Slot.isStarted)) =
        some (some ⟨"VPUX"⟩, true) := by decide +kernel
  obtain ⟨w, hw, hShape⟩ := Option.map_eq_some_iff.mp hLoaded
  obtain ⟨hDevice, hAll⟩ := Prod.mk.inj hShape
  have hStarted : ∀ x ∈ w.slots, x.Started := fun x hx =>
    Slot.isStarted_iff.mp (List.all_eq_true.mp hAll x hx)
  refine ⟨w, hw, hDevice, hStarted, (hIsolated.1 0 w hw).1 _ (by simp),
    ((hIsolated.1 0 w hw).2 hStarted).1 removingMoves, ?_⟩
  rw [(hIsolated.2.1 removingMoves (.path "m") .empty).2]
  decide +kernel

end Session

end TieredDispatch
