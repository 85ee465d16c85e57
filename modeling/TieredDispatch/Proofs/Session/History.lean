import TieredDispatch.Proofs.Session.Schedule
import TieredDispatch.Proofs.Session.Settings

/-!
# The stored settings as a history

The stored settings are what the accepted updates have made of them, one merged over the other in the order
in which they came.  An update in which anything is refused leaves no trace, and neither does any other
request, whatever compile tasks are under way.

* `Command.update?`, `Session.updates`: the settings that requests store.
* `Session.stored_move`, `Session.stored_play`: what a move and a play make of the stored settings.
* `Session.Reachable.stored_run`: what a request makes of them after a run.
* `Session.stored_by_history`: the stored settings after every run, and what is answered about them.
-/

namespace TieredDispatch

/-- The settings that a request stores, if it is an update in which nothing is refused. -/
def Command.update? : Command → Option Config
  | .setConfig settings =>
    match settings.validate with
    | .ok () => some settings
    | .error _ => none
  | _ => none

namespace Session

variable {s s' : Session} {command : Command} {commands : List Command} {settings : Config}

/-- The settings that a row of requests stores, in order. -/
def updates (commands : List Command) : List Config :=
  commands.filterMap Command.update?

/-! ## Updates -/

theorem update?_of_valid (h : settings.validate = .ok ()) :
    (Command.setConfig settings).update? = some settings := by
  rw [Command.update?, h]

theorem update?_eq_some (h : command.update? = some settings) :
    command = .setConfig settings ∧ settings.validate = .ok () := by
  cases command with
  | setConfig config =>
    cases hValid : config.validate with
    | ok u =>
      rw [update?_of_valid hValid] at h
      cases h
      exact ⟨rfl, hValid⟩
    | error e =>
      rw [Command.update?, hValid] at h
      cases h
  | _ => cases h

theorem update?_of_ne (h : ∀ settings, command ≠ .setConfig settings) : command.update? = none := by
  cases hUpdate : command.update? with
  | none => rfl
  | some settings => exact absurd (update?_eq_some hUpdate).1 (h settings)

theorem updates_singleton (command : Command) : updates [command] = command.update?.toList := by
  rw [updates, List.filterMap_cons]
  cases command.update? <;> rfl

theorem step_of_valid (s : Session) (h : settings.validate = .ok ()) :
    s.step (.setConfig settings) = ({ s with stored := s.stored.merge settings }, .ok .done) := by
  simp only [step, Dispatcher.setConfig, h]
  rfl

theorem step_of_invalid (s : Session) {e : InputError} (h : settings.validate = .error e) :
    s.step (.setConfig settings) = (s, .error (.dispatch (.config e))) := by
  simp only [step, Dispatcher.setConfig, h]

/-- An accepted update is merged over what is stored. -/
theorem stored_issue_of_update (s : Session) (h : command.update? = some settings) :
    (s.issue command).stored = s.stored.merge settings := by
  obtain ⟨rfl, hValid⟩ := update?_eq_some h
  exact congrArg (fun r => r.1.stored) (s.step_of_valid hValid)

/-- No other request changes what is stored. -/
theorem stored_issue_of_none (s : Session) (h : command.update? = none) :
    (s.issue command).stored = s.stored := by
  have hIssued := s.issued command
  generalize s.issue command = s' at hIssued
  cases hIssued with
  | store hValid =>
    rw [update?_of_valid hValid] at h
    cases h
  | compile name d model config => cases (s.catalog name).serviceFor? d <;> rfl
  | _ => rfl

/-! ## Moves and plays -/

@[simp] theorem stored_receive (s : Session) (service : Option Service) :
    (s.receive service).stored = s.stored := by
  cases service <;> rfl

/-- A move stores what its request stores, and nothing if it makes no request. -/
theorem stored_move (s : Session) (m : Move) :
    (s.move m).stored = (m.command?.bind Command.update?).toList.foldl Config.merge s.stored := by
  cases m with
  | request command =>
    rw [Move.command?, Option.bind_some, move]
    cases hUpdate : command.update? with
    | none => exact s.stored_issue_of_none hUpdate
    | some settings => exact s.stored_issue_of_update hUpdate
  | start t => exact stored_receive ..
  | report t => rfl
  | tick now => rfl

/-- However its tasks go their way, a session stores the updates of its requests one over the other. -/
theorem stored_play (s : Session) (moves : List Move) :
    (s.play moves).stored = (updates (moves.filterMap Move.command?)).foldl Config.merge s.stored := by
  rw [updates, List.filterMap_filterMap]
  induction moves generalizing s with
  | nil => rfl
  | cons m moves ih =>
    rw [play_cons, ih, stored_move, List.filterMap_cons]
    cases m.command?.bind Command.update? <;> rfl

theorem Plays.stored_eq (h : Plays commands s s') :
    s'.stored = (updates commands).foldl Config.merge s.stored := by
  obtain ⟨moves, rfl, rfl⟩ := h
  exact s.stored_play moves

/-! ## Runs -/

/-- After every run a request merges its settings, if it stores some, over those that are stored. -/
theorem Reachable.stored_run (h : s.Reachable) (command : Command) :
    (s.run command).1.stored = command.update?.toList.foldl Config.merge s.stored := by
  have hRun := (plays_run h.strays_eq command).stored_eq
  rwa [updates_singleton] at hRun

/-- A refused update changes nothing at all. -/
theorem Reachable.run_of_invalid (h : s.Reachable) {e : InputError}
    (hInvalid : settings.validate = .error e) :
    s.run (.setConfig settings) = (s, .error (.dispatch (.config e))) := by
  rw [run, step_of_invalid s hInvalid]
  exact congrArg (·, _) h.quiet.startTasks_eq

theorem snd_run_getConfig (s : Session) (key : String) :
    (s.run (.getConfig key)).2 = match s.stored.get? key with
      | some value => .ok (.text value)
      | none => .error (.dispatch (.config (.unsupportedKey key))) := by
  simp only [run, step, Dispatcher.getConfig, dispatcher]
  cases s.stored.get? key <;> rfl

theorem getConfig_eq_ok_iff {key value : String} :
    (s.run (.getConfig key)).2 = .ok (.text value) ↔ s.stored.get? key = some value := by
  rw [snd_run_getConfig]
  cases s.stored.get? key <;> simp

theorem getConfig_eq_error_iff {key : String} :
    (s.run (.getConfig key)).2 = .error (.dispatch (.config (.unsupportedKey key))) ↔
      s.stored.get? key = none := by
  rw [snd_run_getConfig]
  cases s.stored.get? key <;> simp

/-- The stored settings are the accepted updates, merged in order.  After every run, whatever its requests
and whenever its tasks start and report, they are the updates in which nothing is refused, the later one
over the earlier one; a further update is merged over them if nothing in it is refused, and else leaves the
session as it is, however much of it is valid; and no other request changes them.  The value of a key is that
of the last accepted update which has the key, and a key is unknown exactly if none of them has it. -/
theorem stored_by_history (services : TextMap Service) (tiers : TierTable) (attached : Option String)
    (commands : List Command) :
    let s := (initial services tiers attached).runAll commands
    let accepted := updates commands
    s.stored = Config.mergeAll accepted ∧
    (s.run .config).2 = .ok (.config (Config.mergeAll accepted)) ∧
    (∀ moves : List Move, moves.filterMap Move.command? = commands →
      ((initial services tiers attached).play moves).stored = Config.mergeAll accepted) ∧
    (∀ settings : Config,
      (settings.validate = .ok () →
        (s.run (.setConfig settings)).2 = .ok .done ∧
        (s.run (.setConfig settings)).1.stored = s.stored.merge settings) ∧
      ∀ e, settings.LeastOffence e →
        s.run (.setConfig settings) = (s, .error (.dispatch (.config e)))) ∧
    (∀ command : Command, (∀ settings, command ≠ .setConfig settings) →
      (s.run command).1.stored = s.stored) ∧
    (∀ key value, (s.run (.getConfig key)).2 = .ok (.text value) ↔
      ∃ earlier settings later, accepted = earlier ++ settings :: later ∧
        settings.get? key = some value ∧ ∀ c ∈ later, c.get? key = none) ∧
    (∀ key, (s.run (.getConfig key)).2 = .error (.dispatch (.config (.unsupportedKey key))) ↔
      ∀ c ∈ accepted, c.get? key = none) := by
  intro s accepted
  have hReachable : s.Reachable := ⟨services, tiers, attached, commands, rfl⟩
  have hStored : s.stored = Config.mergeAll accepted := (plays_runAll rfl commands).stored_eq
  refine ⟨hStored, congrArg (fun c => Except.ok (Answer.config c)) hStored, ?_, ?_, ?_, ?_, ?_⟩
  · rintro moves rfl
    exact stored_play _ moves
  · intro settings
    refine ⟨fun hValid => ⟨?_, ?_⟩, fun e hOffence => ?_⟩
    · rw [run, step_of_valid s hValid]
    · rw [hReachable.stored_run, update?_of_valid hValid]
      rfl
    · exact hReachable.run_of_invalid (Config.validate_eq_error_iff.mpr hOffence)
  · intro command hOther
    rw [hReachable.stored_run, update?_of_ne hOther]
    rfl
  · intro key value
    rw [getConfig_eq_ok_iff, hStored, Config.get?_mergeAll_eq_some_iff]
  · intro key
    rw [getConfig_eq_error_iff, hStored, Config.get?_mergeAll_eq_none_iff]

/-- Two updates that share a key, a load between them, and one of which only the first setting is valid. -/
def mixedRequests : List Command :=
  [.setConfig (.ofList [("PERF_COUNT", "YES"), ("AUTO_LOG", "1")]),
    .load (.path "m.onnx") .empty,
    .setConfig (.ofList [("AUTO_DEVICE_LIST", "CPU"), ("BAD", "1")]),
    .setConfig (.ofList [("PERF_COUNT", "NO")])]

theorem updates_mixedRequests : updates mixedRequests =
    [.ofList [("PERF_COUNT", "YES"), ("AUTO_LOG", "1")], .ofList [("PERF_COUNT", "NO")]] := by
  decide

/-- The later value of the shared key is stored, and of the refused update nothing, nor is it when the
update is repeated. -/
theorem stored_by_history_mixed :
    let s := (initial .empty .standard (some "main")).runAll mixedRequests
    let refused : Config := .ofList [("AUTO_DEVICE_LIST", "CPU"), ("BAD", "1")]
    s.stored = .ofList [("AUTO_LOG", "1"), ("PERF_COUNT", "NO")] ∧
    (s.run (.getConfig "PERF_COUNT")).2 = .ok (.text "NO") ∧
    (s.run (.getConfig "AUTO_DEVICE_LIST")).2 =
      .error (.dispatch (.config (.unsupportedKey "AUTO_DEVICE_LIST"))) ∧
    refused.LeastOffence (.unsupportedKey "BAD") ∧
    s.run (.setConfig refused) = (s, .error (.dispatch (.config (.unsupportedKey "BAD")))) := by
  intro s refused
  obtain ⟨hStored, -, -, hUpdate, -, hValue, hUnknown⟩ :=
    stored_by_history .empty .standard (some "main") mixedRequests
  rw [updates_mixedRequests] at hStored hValue hUnknown
  have hOffence : refused.LeastOffence (.unsupportedKey "BAD") := Config.validate_eq_error_iff.mp rfl
  refine ⟨hStored.trans (by decide), ?_, ?_, hOffence, (hUpdate refused).2 _ hOffence⟩
  · exact (hValue ..).mpr ⟨[_], _, [], rfl, by decide, by simp⟩
  · exact (hUnknown _).mpr (by decide)

end Session

end TieredDispatch
