import TieredDispatch.Proofs.Session.Play

/-!
# The compile requests of a play

The requests of a play are made by tasks, each once and at its start, and directly; and each service counts
the requests that it has received, no more and no less.

* `CompileRequest`, `Session.requests`: the compile requests of a play.
* `Session.compileCount_play`: a count is the number of requests that were received.
* `Session.devices_requests`: a task makes its only request when it starts.
* `Session.Sound.unserved`: a task whose request nobody receives fails.
-/

namespace TieredDispatch

/-- A request for a compile, and the service that receives it, if there is one for the device. -/
structure CompileRequest where
  /-- The task that makes the request; a direct one is made by none. -/
  task? : Option TaskId
  device : DeviceId
  service? : Option Service

namespace CompileRequest

/-- Whether the request is received by a service of the given name. -/
def isFor (r : CompileRequest) (name : String) : Bool :=
  r.service?.any fun service => service.name = name

end CompileRequest

namespace Session

variable {s : Session}

/-! ## The requests of a play -/

/-- The compile request that the task of a slot makes when it is told to start. -/
def requestOf? (t : TaskId) (c : Catalog) (x : Slot) : Option CompileRequest :=
  if x.isStarted then none else some ⟨some t, x.device, c.serviceFor? x.device⟩

/-- The compile request that a move makes, if it makes one. -/
def request? (s : Session) : Move → Option CompileRequest
  | .request (.compile catalog d _ _) => some ⟨none, d, (s.catalog catalog).serviceFor? d⟩
  | .start t => (s.slotAt? t).bind (requestOf? t (s.homeOf t))
  | _ => none

/-- The compile requests of a play, in order. -/
def requests (s : Session) : List Move → List CompileRequest
  | [] => []
  | m :: moves => (s.request? m).toList ++ (s.move m).requests moves

/-- Only at its start does a task make a request. -/
theorem request?_cases {m : Move} {r : CompileRequest} (h : s.request? m = some r) :
    (∃ catalog d model config, m = .request (.compile catalog d model config) ∧
      r = ⟨none, d, (s.catalog catalog).serviceFor? d⟩) ∨
    (∃ t x, m = .start t ∧ s.slotAt? t = some x ∧ x.isStarted = false ∧
      r = ⟨some t, x.device, (s.homeOf t).serviceFor? x.device⟩) := by
  cases m with
  | request command =>
    cases command with
    | compile catalog d model config =>
      cases h
      exact Or.inl ⟨catalog, d, model, config, rfl, rfl⟩
    | _ => cases h
  | start t =>
    obtain ⟨x, hx, hRequest⟩ := Option.bind_eq_some_iff.mp h
    rw [requestOf?] at hRequest
    split at hRequest
    · cases hRequest
    · next hQueued =>
      cases hRequest
      exact Or.inr ⟨t, x, rfl, hx, eq_false_of_ne_true hQueued, rfl⟩
  | report t => cases h
  | tick now => cases h

/-! ## Counting -/

theorem compileCount_countCompile (s : Session) (name other : String) :
    (s.countCompile name).compileCount other = s.compileCount other + if name = other then 1 else 0 := by
  rw [countCompile, compileCount, TextMap.get?_insert]
  by_cases h : name = other
  · rw [if_pos h.symm, if_pos h, h]
    rfl
  · rw [if_neg (Ne.symm h), if_neg h]
    rfl

theorem compileCount_receive (s : Session) (service? : Option Service) (name : String) :
    (s.receive service?).compileCount name =
      s.compileCount name + if service?.any (fun service => service.name = name) then 1 else 0 := by
  cases service? with
  | none => rfl
  | some service =>
    rw [receive, compileCount_countCompile]
    simp

/-- A request counts for the service that receives it. -/
theorem countP_isFor (r? : Option CompileRequest) (name : String) :
    r?.toList.countP (·.isFor name) =
      if (r?.bind CompileRequest.service?).any (fun service => service.name = name) then 1 else 0 := by
  cases r? with
  | none => rfl
  | some r => exact List.countP_singleton ..

theorem compileCount_of_issued {command : Command} {s' : Session} (h : Issued s command s')
    (name : String) :
    s'.compileCount name =
      s.compileCount name + (s.request? (.request command)).toList.countP (·.isFor name) := by
  cases h with
  | compile catalog d model config =>
    rw [compileCount_receive, countP_isFor]
    rfl
  | kept _ hDirect =>
    cases command with
    | compile catalog d model config => exact absurd rfl (hDirect catalog d model config)
    | _ => rfl
  | _ => rfl

/-- The service that receives the request of a task, if it makes one. -/
theorem bind_request?_start (s : Session) (t : TaskId) :
    (s.request? (.start t)).bind CompileRequest.service? =
      (s.slotAt? t).bind fun x => (x.start (s.homeOf t) s.clock).2 := by
  rw [request?, Option.bind_assoc]
  refine Option.bind_congr fun x _ => ?_
  rw [Slot.snd_start, requestOf?]
  by_cases hStarted : x.isStarted = true
  · rw [if_pos hStarted, if_pos hStarted]
    rfl
  · rw [if_neg hStarted, if_neg hStarted]
    rfl

theorem compileCount_move (s : Session) (m : Move) (name : String) :
    (s.move m).compileCount name =
      s.compileCount name + (s.request? m).toList.countP (·.isFor name) := by
  cases m with
  | request command => exact compileCount_of_issued (s.issued command) name
  | start t =>
    rw [move, startTask, compileCount_receive, countP_isFor, bind_request?_start]
    rfl
  | report t => rfl
  | tick now => rfl

/-- A service has received what was requested of it. -/
theorem compileCount_play (s : Session) (moves : List Move) (name : String) :
    (s.play moves).compileCount name =
      s.compileCount name + (s.requests moves).countP (·.isFor name) := by
  induction moves generalizing s with
  | nil => rfl
  | cons m moves ih =>
    rw [play_cons, ih, compileCount_move, requests, List.countP_append, Nat.add_assoc]

/-! ## The requests of a task -/

/-- The device of a task that has started; nothing before. -/
def begun (s : Session) (t : TaskId) : List DeviceId :=
  ((s.slotAt? t).filter Slot.isStarted).toList.map Slot.device

/-- The compile requests of one task. -/
def ofTask (t : TaskId) (requests : List CompileRequest) : List CompileRequest :=
  requests.filter fun r => r.task? = some t

theorem begun_eq_of_started {t : TaskId} {x : Slot} (h : s.slotAt? t = some x)
    (hStarted : x.isStarted = true) : s.begun t = [x.device] := by
  rw [begun, h, Option.filter_some, if_pos hStarted]
  rfl

theorem begun_eq_of_queued {t : TaskId} {x : Slot} (h : s.slotAt? t = some x)
    (hQueued : x.isStarted = false) : s.begun t = [] := by
  rw [begun, h, Option.filter_some, hQueued]
  rfl

theorem begun_eq_of_absent {t : TaskId} (h : s.slotAt? t = none) : s.begun t = [] := by
  rw [begun, h]
  rfl

/-- A move that is not the start of a queued task does not begin it. -/
theorem begun_move_of_kept {m : Move} {t : TaskId}
    (h : ∀ x, s.slotAt? t = some x → m = .start t → x.isStarted = true) :
    (s.move m).begun t = s.begun t := by
  cases hSlot : s.slotAt? t with
  | some x =>
    have hContinues := s.continues_effect (h x hSlot)
    cases hStarted : x.isStarted with
    | true =>
      rw [begun_eq_of_started hSlot hStarted,
        begun_eq_of_started (slotAt?_move hSlot m) (hContinues.isStarted_eq.trans hStarted),
        hContinues.device_eq]
    | false =>
      rw [begun_eq_of_queued hSlot hStarted,
        begun_eq_of_queued (slotAt?_move hSlot m) (hContinues.isStarted_eq.trans hStarted)]
  | none =>
    rw [begun_eq_of_absent hSlot]
    cases hNew : (s.move m).slotAt? t with
    | none => exact begun_eq_of_absent hNew
    | some x =>
      rcases slotAt?_move_cases hNew with ⟨y, hy, -⟩ | ⟨-, model, hSpawned⟩
      · rw [hSlot] at hy
        cases hy
      · exact begun_eq_of_queued hNew hSpawned.not_started

/-- A task begins with the request that it makes. -/
theorem begun_move (s : Session) (m : Move) (t : TaskId) :
    (s.move m).begun t = s.begun t ++ (ofTask t (s.request? m).toList).map CompileRequest.device := by
  by_cases hStart : ∃ x, m = .start t ∧ s.slotAt? t = some x ∧ x.isStarted = false
  · obtain ⟨x, rfl, hx, hQueued⟩ := hStart
    have hRequest : s.request? (.start t) = some ⟨some t, x.device, (s.homeOf t).serviceFor? x.device⟩ := by
      rw [request?, hx, Option.bind_some, requestOf?, hQueued]
      rfl
    have hSlot := slotAt?_move hx (.start t)
    rw [effect, if_pos rfl] at hSlot
    rw [begun_eq_of_started hSlot (Slot.isStarted_start ..), begun_eq_of_queued hx hQueued, hRequest]
    simp [ofTask]
  · -- a request in the name of the task could only be made by its start
    have hNone : ofTask t (s.request? m).toList = [] := by
      rw [ofTask, List.filter_eq_nil_iff]
      intro r hr hTask
      rcases request?_cases (Option.mem_toList.mp hr) with ⟨_, _, _, _, -, rfl⟩ | ⟨u, x, hm, hx, hQueued, rfl⟩
      · cases of_decide_eq_true hTask
      · cases of_decide_eq_true hTask
        exact hStart ⟨x, hm, hx, hQueued⟩
    rw [hNone, List.map_nil, List.append_nil]
    refine begun_move_of_kept fun x hx hm => ?_
    cases hStarted : x.isStarted with
    | true => rfl
    | false => exact absurd ⟨x, hm, hx, hStarted⟩ hStart

/-- What a task has requested is the compile of its device, once it has started. -/
theorem devices_requests (s : Session) (moves : List Move) (t : TaskId) :
    (s.play moves).begun t =
      s.begun t ++ (ofTask t (s.requests moves)).map CompileRequest.device := by
  induction moves generalizing s with
  | nil => exact (List.append_nil _).symm
  | cons m moves ih =>
    rw [play_cons, ih, begun_move, requests, ofTask, ofTask, ofTask, List.filter_append, List.map_append,
      List.append_assoc]

/-- A task whose request nobody receives fails, and its slot names the device. -/
theorem Sound.unserved (h : s.Sound) {moves : List Move} {r : CompileRequest} (hr : r ∈ s.requests moves)
    {t : TaskId} (hTask : r.task? = some t) (hNobody : r.service? = none) :
    ∃ x, (s.play moves).slotAt? t = some x ∧ x.device = r.device ∧
      x.resolution? = some (.error (x.failure (DeviceError.unavailable x.device).message)) := by
  induction moves generalizing s with
  | nil => cases hr
  | cons m moves ih =>
    rcases List.mem_append.mp hr with hHere | hLater
    · rcases request?_cases (Option.mem_toList.mp hHere) with
        ⟨_, _, _, _, -, rfl⟩ | ⟨u, x, rfl, hx, hQueued, rfl⟩
      · cases hTask
      · cases hTask
        -- the task fails at its start, and nothing that follows changes what its slot comes to
        have hSlot := slotAt?_move hx (.start t)
        rw [effect, if_pos rfl] at hSlot
        obtain ⟨y, hy, hContinues⟩ := continues_play hSlot (Slot.isStarted_start ..) moves
        have hDevice : y.device = x.device := hContinues.device_eq.trans (Slot.device_start ..)
        have hKind : y.kind = x.kind := hContinues.kind_eq.trans (Slot.kind_start ..)
        refine ⟨y, hy, hDevice, ?_⟩
        rw [hContinues.resolution?_eq, (h t x hx).resolution?_start hQueued hNobody, Slot.failure,
          Slot.failure, hDevice, hKind]
    · exact ih (h.move m) hLater

end Session

end TieredDispatch
