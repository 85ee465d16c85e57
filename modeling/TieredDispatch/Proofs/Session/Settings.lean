import TieredDispatch.Proofs.Config.Merge
import TieredDispatch.Proofs.Session.Run

/-!
# The stored settings of a session

Settings are checked before they are stored, so what is stored is valid after every run.  A request
is then refused for its own settings only.

* `Session.Reachable.valid_stored`: the stored settings are valid.
* `Session.stored_settings_never_refuse`: a load is refused for its settings exactly when those of the
  request are refused.
-/

namespace TieredDispatch

namespace Config

theorem validate_merge_of_valid {base overrides : Config} (hBase : base.validate = .ok ())
    (hOverrides : overrides.validate = .ok ()) : (base.merge overrides).validate = .ok () := by
  rw [validate_merge hBase, hOverrides]

end Config

namespace Session

variable {s s' : Session}

/-! ## What is stored -/

@[simp] theorem stored_load (s : Session) (model : ModelSource) (config : Config) :
    (s.load model config).1.stored = s.stored := by
  rw [load]
  split <;> rfl

@[simp] theorem stored_compile (s : Session) (catalog : String) (d : DeviceId) (model : ModelSource)
    (config : Config) : (s.compile catalog d model config).1.stored = s.stored := by
  simp only [compile, stored_advanceTo]
  split <;> rfl

@[simp] theorem stored_waitFor (s : Session) (index : Nat) (kind : SlotKind) :
    (s.waitFor index kind).stored = s.stored := by
  simp only [waitFor]
  split <;> simp

@[simp] theorem stored_waitForAll (s : Session) (index : Nat) :
    (s.waitForAll index).stored = s.stored := by
  simp only [waitForAll]
  split <;> simp

/-- A change stores valid settings over those that were stored, or leaves them alone. -/
theorem Change.stored_cases (h : Change s s') :
    s'.stored = s.stored ∨
      ∃ settings, settings.validate = .ok () ∧ s'.stored = s.stored.merge settings := by
  cases h with
  | none => exact Or.inl rfl
  | registry name c => exact Or.inl rfl
  | attach name => exact Or.inl rfl
  | store hValid => exact Or.inr ⟨_, hValid, rfl⟩
  | load model config => exact Or.inl (s.stored_load model config)
  | compile catalog d model config => exact Or.inl (s.stored_compile catalog d model config)
  | advance now => exact Or.inl rfl
  | wait index kind => exact Or.inl (s.stored_waitFor index kind)
  | settle index => exact Or.inl (s.stored_waitForAll index)

/-- After every run the stored settings are valid. -/
theorem Reachable.valid_stored (h : s.Reachable) : s.stored.validate = .ok () := by
  refine h.induction (P := fun s => s.stored.validate = .ok ()) ?_ ?_
  · intro services tiers attached
    rfl
  · intro s s' hValid hChange
    rw [stored_startTasks]
    rcases hChange.stored_cases with hSame | ⟨settings, hSettings, hMerged⟩
    · rw [hSame, hValid]
    · rw [hMerged]
      exact Config.validate_merge_of_valid hValid hSettings

/-! ## Loads -/

theorem exists_catalog (h : s.attached ≠ none) : ∃ c, s.dispatcher.catalog = some c := by
  obtain ⟨name, hName⟩ := Option.ne_none_iff_exists'.mp h
  exact ⟨s.catalog name, by rw [dispatcher, hName, Option.map_some]⟩

/-- Stored settings never make a load invalid.  After every run they are valid, so they change nothing
in the check of a request; and a load with a catalog and a usable model is refused for its settings
exactly when those of the request are refused, with the error of the least offending key. -/
theorem stored_settings_never_refuse (h : s.Reachable) :
    s.stored.validate = .ok () ∧
    (∀ request : Config, (s.stored.merge request).validate = request.validate) ∧
    (∀ (model : ModelSource) (request : Config), s.attached ≠ none →
      Dispatcher.checkInput model = .ok () →
        ((∃ e, (s.load model request).2 = .error (.config e)) ↔ request.validate ≠ .ok ()) ∧
        ∀ e, (s.load model request).2 = .error (.config e) ↔ request.LeastOffence e) := by
  have hStored := h.valid_stored
  have hMerge : ∀ request : Config, (s.stored.merge request).validate = request.validate :=
    fun request => Config.validate_merge hStored request
  refine ⟨hStored, hMerge, ?_⟩
  intro model request hAttached hInput
  obtain ⟨c, hCatalog⟩ := exists_catalog hAttached
  have hError : ∀ e, (s.load model request).2 = .error (.config e) ↔ request.validate = .error e := by
    intro e
    rw [snd_load, Dispatcher.load_config_error_iff hCatalog hInput,
      show s.dispatcher.stored = s.stored from rfl, hMerge]
  constructor
  · simp only [hError]
    cases request.validate <;> simp
  · intro e
    rw [hError, Config.validate_eq_error_iff]

/-- A session that has stored a toggle, and has refused settings that were valid in part. -/
def toggledSession : Session :=
  (initial .empty .standard (some "main")).runAll
    [.setConfig (.ofList [("PERF_COUNT", "YES")]),
      .setConfig (.ofList [("AUTO_DEVICE_LIST", "CPU"), ("BAD", "1")])]

/-- A request that gives the stored toggle a bad value is refused for that, although a greater key of
it is unknown. -/
theorem stored_settings_never_refuse_toggled :
    (toggledSession.load (.path "m.onnx")
        (.ofList [("ZERO", "0"), ("PERF_COUNT", "MAYBE")])).2 =
      .error (.config (.unsupportedValue "PERF_COUNT" "MAYBE")) :=
  (((stored_settings_never_refuse ⟨_, _, _, _, rfl⟩).2.2 _ _ (by decide) rfl).2 _).mpr
    (Config.validate_eq_error_iff.mp rfl)

end Session

end TieredDispatch
