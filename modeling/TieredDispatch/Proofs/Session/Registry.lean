import TieredDispatch.Proofs.Catalog.Registry
import TieredDispatch.Proofs.Session.Accounting

/-!
# The registries of a session

Each catalog of a session is what the requests of its own name have made of it, whatever else is requested
between them and whenever the tasks of loads start and report.  So what it holds, and where it sends the
requests for a device, is told by these requests.

* `Command.call?`, `Session.calls`: the calls that requests make on a catalog.
* `Session.catalog_move`, `Session.catalog_play`: what a move and a play make of the catalogs.
* `Session.registry_by_history`: the registry after every row of calls, and where it sends requests.
-/

namespace TieredDispatch

/-- The call that a request makes on the catalog of a name, if it makes one.  Without a service to register
nothing is called. -/
def Command.call? (services : TextMap Service) (name : String) : Command → Option Catalog.Call
  | .register catalog family key =>
    if catalog = name then (services.get? key).map (.register family) else none
  | .unregister catalog family => if catalog = name then some (.unregister family) else none
  | .registerGroup catalog group members =>
    if catalog = name then some (.registerGroup group members) else none
  | _ => none

namespace Session

variable {s s' : Session} {command : Command} {call : Catalog.Call} {name : String}

/-- The calls that a row of requests makes on the catalog of a name. -/
def calls (services : TextMap Service) (name : String) (commands : List Command) : List Catalog.Call :=
  commands.filterMap (Command.call? services name)

/-! ## Moves -/

theorem catalog_issue_of_call (h : command.call? s.services name = some call) :
    (s.issue command).catalog name = (s.catalog name).apply call := by
  cases command with
  | register catalog family key =>
    rw [Command.call?, Option.ite_none_right_eq_some] at h
    obtain ⟨rfl, hCall⟩ := h
    obtain ⟨service, hService, rfl⟩ := Option.map_eq_some_iff.mp hCall
    simp only [issue, step, hService, catalog_setCatalog, if_pos]
    rfl
  | unregister catalog family =>
    rw [Command.call?, Option.ite_none_right_eq_some] at h
    obtain ⟨rfl, hCall⟩ := h
    cases hCall
    simp only [issue, step, catalog_setCatalog, if_pos]
    rfl
  | registerGroup catalog group members =>
    rw [Command.call?, Option.ite_none_right_eq_some] at h
    obtain ⟨rfl, hCall⟩ := h
    cases hCall
    simp only [issue, step, catalog_setCatalog, if_pos]
    rfl
  | _ => cases h

/-- No other request changes the catalog of the name. -/
theorem catalog_issue_of_none (h : command.call? s.services name = none) :
    (s.issue command).catalog name = s.catalog name := by
  have hIssued := s.issued command
  generalize s.issue command = s' at hIssued
  cases hIssued with
  | register catalog family hService =>
    have hOther : catalog ≠ name := fun hSame => by simp [Command.call?, hSame, hService] at h
    rw [catalog_setCatalog, if_neg hOther.symm]
  | unregister catalog family =>
    have hOther : catalog ≠ name := fun hSame => by simp [Command.call?, hSame] at h
    rw [catalog_setCatalog, if_neg hOther.symm]
  | registerGroup catalog group members =>
    have hOther : catalog ≠ name := fun hSame => by simp [Command.call?, hSame] at h
    rw [catalog_setCatalog, if_neg hOther.symm]
  | compile catalog d model config => rw [catalog_receive]
  | _ => rfl

theorem catalog_move (s : Session) (m : Move) (name : String) :
    (s.move m).catalog name =
      (s.catalog name).applyAll (m.command?.bind (Command.call? s.services name)).toList := by
  cases m with
  | request command =>
    rw [Move.command?, Option.bind_some, move]
    cases hCall : command.call? s.services name with
    | none => exact catalog_issue_of_none hCall
    | some call => exact catalog_issue_of_call hCall
  | start t => rw [move, startTask, catalog_receive]; rfl
  | report t => rfl
  | tick now => rfl

/-- However its tasks go their way, a session makes the calls of its requests one after the other. -/
theorem catalog_play (s : Session) (moves : List Move) (name : String) :
    (s.play moves).catalog name =
      (s.catalog name).applyAll (calls s.services name (moves.filterMap Move.command?)) := by
  rw [calls, List.filterMap_filterMap]
  induction moves generalizing s with
  | nil => rfl
  | cons m moves ih =>
    rw [play_cons, ih, catalog_move, services_move, List.filterMap_cons]
    cases m.command?.bind (Command.call? s.services name) <;> rfl

theorem catalog_runAll (h : s.strays = []) (commands : List Command) (name : String) :
    (s.runAll commands).catalog name = (s.catalog name).applyAll (calls s.services name commands) := by
  obtain ⟨moves, rfl, hPlay⟩ := plays_runAll h commands
  rw [← hPlay, catalog_play]

/-- The registry as a history.  After every row of calls it holds the families, each once, that have been
registered and not removed since, each with its latest service, in the order in which they have come in: that
of the registrations that found them absent and after which they were not removed.  A family that is registered
again keeps its place, and only its service is replaced; a removal finds a family exactly if it is present,
and leaves all others in their places and with their services.  The requests for a device go to the latest
service under its own id, if a family of this id is present, and else to that under the name of its family;
they find it unavailable exactly if neither is present.  The catalogs of a session have the calls of their own
requests as their history. -/
theorem registry_by_history (history : List Catalog.Call) :
    let c := Catalog.empty.applyAll history
    (c.familyIds.Nodup ∧ (∀ d, d ∈ c.familyIds ↔ Catalog.Present history d) ∧
      (∀ d ∈ c.familyIds, ∃! i, Catalog.EntersAt history d i) ∧
      c.familyIds.Pairwise (Catalog.EntersBefore history)) ∧
    (∀ d service, (d, service) ∈ c.families ↔ Catalog.LatestFor history d service) ∧
    (∀ d service service' before after, c.families = before ++ (d, service) :: after →
      (c.register d service').families = before ++ (d, service') :: after) ∧
    (∀ d, ((c.unregister d).1 = true ↔ Catalog.Present history d) ∧
      (¬ Catalog.Present history d → (c.unregister d).2 = c) ∧
      ∀ service before after, c.families = before ++ (d, service) :: after →
        (c.unregister d).2.families = before ++ after) ∧
    (∀ d service, c.RoutesTo d service ↔ Catalog.LatestFor history d service ∨
      ¬ Catalog.Present history d ∧ Catalog.LatestFor history ⟨d.family⟩ service) ∧
    (∀ d, c.Unroutable d ↔ ¬ Catalog.Present history d ∧ ¬ Catalog.Present history ⟨d.family⟩) ∧
    ∀ (services : TextMap Service) (tiers : TierTable) (attached : Option String) (name : String),
      (∀ moves : List Move, calls services name (moves.filterMap Move.command?) = history →
        ((initial services tiers attached).play moves).catalog name = c) ∧
      (∀ commands : List Command, calls services name commands = history →
        ((initial services tiers attached).runAll commands).catalog name = c) := by
  intro c
  have hReflects : c.Reflects history := Catalog.reflects_applyAll history
  refine ⟨⟨hReflects.nodup, fun d => hReflects.mem_familyIds_iff, fun d hd => ?_, hReflects.ordered⟩,
    hReflects.mem_iff, ?_, fun d => ⟨?_, ?_, ?_⟩, fun d service => hReflects.routesTo_iff,
    fun d => hReflects.unroutable_iff, fun services tiers attached name => ⟨?_, ?_⟩⟩
  · exact Catalog.existsUnique_entersAt (hReflects.mem_familyIds_iff.mp hd)
  · intro d service service' before after hSplit
    exact Catalog.families_register_of_eq hReflects.nodup hSplit service'
  · rw [Catalog.fst_unregister_iff, hReflects.mem_familyIds_iff]
  · intro hAbsent
    exact Catalog.snd_unregister_of_not_mem (mt hReflects.mem_familyIds_iff.mp hAbsent)
  · intro service before after hSplit
    exact Catalog.families_unregister_of_eq hReflects.nodup hSplit
  · rintro moves rfl
    exact catalog_play _ moves name
  · rintro commands rfl
    exact catalog_runAll rfl commands name

/-- The service of a device that has nothing but a name. -/
def named (name : String) : Service :=
  (DeviceProfile.named name).service name

/-- Requests that register a processor and an accelerator, and then register the processor anew, the second
time after it was removed. -/
def reentry : List Command :=
  [.register "main" ⟨"CPU"⟩ "host", .register "main" ⟨"GPU"⟩ "discrete", .register "side" ⟨"NPU"⟩ "host",
    .register "main" ⟨"CPU"⟩ "guest", .unregister "main" ⟨"CPU"⟩, .register "main" ⟨"CPU"⟩ "host"]

/-- The processor has come in again behind the accelerator, and the requests for its devices go to the service
that was registered last. -/
theorem registry_by_history_reentered :
    let services : TextMap Service :=
      .ofList [("host", named "host"), ("guest", named "guest"), ("discrete", named "discrete")]
    let c := ((initial services .standard none).runAll reentry).catalog "main"
    c.familyIds = [⟨"GPU"⟩, ⟨"CPU"⟩] ∧ c.RoutesTo ⟨"CPU.0"⟩ (named "host") ∧ c.Unroutable ⟨"NPU.0"⟩ := by
  intro services c
  let history : List Catalog.Call :=
    [.register ⟨"CPU"⟩ (named "host"), .register ⟨"GPU"⟩ (named "discrete"),
      .register ⟨"CPU"⟩ (named "guest"), .unregister ⟨"CPU"⟩, .register ⟨"CPU"⟩ (named "host")]
  obtain ⟨-, -, -, -, hRoutes, hUnroutable, hSessions⟩ := registry_by_history history
  have hCatalog : c = Catalog.empty.applyAll history :=
    (hSessions services .standard none "main").2 reentry rfl
  have hAbsent : ∀ d : DeviceId, d ≠ ⟨"CPU"⟩ → d ≠ ⟨"GPU"⟩ → ¬ Catalog.Present history d := by
    rintro d hHost hDiscrete ⟨before, call, after, hSplit, ⟨service, rfl⟩, -⟩
    have hCall : Catalog.Call.register d service ∈ history :=
      hSplit ▸ List.mem_append_right before List.mem_cons_self
    simp [history, hHost, hDiscrete] at hCall
  have hLatest : Catalog.LatestFor history ⟨"CPU"⟩ (named "host") :=
    ⟨history.take 4, _, [], rfl, rfl, fun later hLater => absurd hLater List.not_mem_nil⟩
  have hProcessor : DeviceId.family ⟨"CPU.0"⟩ = "CPU" := by decide +kernel
  have hNeural : DeviceId.family ⟨"NPU.0"⟩ = "NPU" := by decide +kernel
  refine ⟨by rw [hCatalog]; rfl, ?_, ?_⟩
  · rw [hCatalog, hRoutes, hProcessor]
    exact Or.inr ⟨hAbsent _ (by decide) (by decide), hLatest⟩
  · rw [hCatalog, hUnroutable, hNeural]
    exact ⟨hAbsent _ (by decide) (by decide), hAbsent _ (by decide) (by decide)⟩

end Session

end TieredDispatch
