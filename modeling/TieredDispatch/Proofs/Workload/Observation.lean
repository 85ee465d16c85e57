import TieredDispatch.Proofs.Workload.Scene

/-!
# What observers of a slot see

The outcome of a compile is reported once, and to everybody.  Whoever asks a slot, and however the reads
of the answer fall between the steps of the task, is told that the compile is under way or what has come
of it; and what one caller was told every later caller is told.

* `Reply.Pending`, `Reply.Reports`: what a reply says of a compile.
* `Scene.Answers.pending_or_reports`: every reply is the one or the other.
* `Scene.outcome_reported_once`: nothing is lost, nothing is made up, and nothing is taken back.
-/

namespace TieredDispatch

/-- A text with another beginning is not the reason of a lost task. -/
theorem append_ne_lostReason (n : Nat) (start rest : String) (hLength : n ≤ start.toList.length)
    (hStart : start.toList.take n ≠ lostReason.toList.take n) : start ++ rest ≠ lostReason := by
  intro hEq
  rw [← hEq, String.toList_append, List.take_append_of_le_length hLength] at hStart
  exact hStart rfl

/-- No device gives the reason that is kept for lost tasks. -/
theorem DeviceError.message_ne_lostReason (e : DeviceError) : e.message ≠ lostReason := by
  cases e with
  | unavailable d =>
    exact append_ne_lostReason 1 "device unavailable: " d.text (by decide) (by decide)
  | unsupportedMetric d metric =>
    show "unsupported metric " ++ metric ++ " on " ++ d.text ≠ lostReason
    rw [String.append_assoc, String.append_assoc]
    exact append_ne_lostReason 1 _ _ (by decide) (by decide)
  | unexpectedMetricType d metric =>
    show "metric " ++ metric ++ " on " ++ d.text ++ " has unexpected type" ≠ lostReason
    rw [String.append_assoc, String.append_assoc, String.append_assoc]
    exact append_ne_lostReason 1 _ _ (by decide) (by decide)
  | queryFailed d reason =>
    show "query failed on " ++ d.text ++ ": " ++ reason ≠ lostReason
    rw [String.append_assoc, String.append_assoc]
    exact append_ne_lostReason 1 _ _ (by decide) (by decide)
  | compileFailed d reason =>
    -- both begin with "compile "
    show "compile failed on " ++ d.text ++ ": " ++ reason ≠ lostReason
    rw [String.append_assoc, String.append_assoc]
    exact append_ne_lostReason 9 _ _ (by decide) (by decide)

namespace Slot

variable {x : Slot} {o : CompileOutcome}

theorem resultOf_error {f : SlotFailure} (h : x.resultOf o = .error f) :
    f.slot = x.kind ∧ f.device = x.device := by
  cases o with
  | compiled model => cases h
  | refused e => cases h; exact ⟨rfl, rfl⟩
  | lost => cases h; exact ⟨rfl, rfl⟩

/-- Only a task that died is said to have died. -/
theorem resultOf_reason {f : SlotFailure} (h : x.resultOf o = .error f) (hSent : o ≠ .lost) :
    f.reason ≠ lostReason := by
  cases o with
  | compiled model => cases h
  | refused e => cases h; exact e.message_ne_lostReason
  | lost => exact absurd rfl hSent

end Slot

namespace Scene

/-- The slot that a question is about, if it is about one. -/
def Question.place? : Question → Option SlotKind
  | .isReady place => some place
  | .tryResult place => some place
  | .wait place _ => some place
  | .settle => none
  | .readyNow => none

namespace Reply

/-- Whether a reply says that the compile is under way. -/
def Pending : Reply → Prop
  | ready resolved => resolved = false
  | tried result => result = none
  | _ => False

/-- Whether a reply says that the compile has come to `result`, or just that it has ended. -/
def Reports (result : Except SlotFailure CompiledModel) : Reply → Prop
  | ready resolved => resolved = true
  | tried r => r = some result
  | waited r => r = result
  | _ => False

/-- The failure that a reply tells of, if it does. -/
def failure? : Reply → Option SlotFailure
  | tried (some (.error f)) => some f
  | waited (.error f) => some f
  | _ => none

variable {r : Reply} {result : Except SlotFailure CompiledModel}

theorem Pending.not_reports (h : r.Pending) : ¬ r.Reports result := by
  cases r <;> simp_all [Pending, Reports]

theorem Pending.failure? (h : r.Pending) : r.failure? = none := by
  cases r <;> simp_all [Pending, Reply.failure?]

theorem Reports.failure {f : SlotFailure} (h : r.Reports result) (hFailure : r.failure? = some f) :
    result = .error f := by
  cases r with
  | tried answer =>
    obtain rfl := h
    cases result with
    | ok model => cases hFailure
    | error g => cases hFailure; rfl
  | waited answer =>
    obtain rfl := h
    cases answer with
    | ok model => cases hFailure
    | error g => cases hFailure; rfl
  | _ => cases hFailure

end Reply

variable {w : Workload} {outcome : SlotKind → CompileOutcome} {s : Scene} {place : SlotKind}
variable {slot : Slot} {q : Question} {events : List Event} {r : Reply}

theorem Call.reply_of_wait {blocking : Bool} {x : Waiting} {c : Channels}
    (hReply : (Call.wait place blocking x).reply? w = some r) (hSlot : w.slot? place = some slot)
    (hSound : x.Sound (c place))
    (hCurrent : (c place).current = .pending ∨ (c place).current = (outcome place).state) :
    r = .waited (slot.resultOf (outcome place)) ∧ (c place).current ≠ .pending := by
  rw [Call.reply?, hSlot, Option.bind_some] at hReply
  obtain ⟨state, hResult, rfl⟩ := Option.map_eq_some_iff.mp hReply
  obtain ⟨rfl, hSome⟩ := hSound.result hCurrent hResult
  exact ⟨congrArg _ (slot.waited_state _), hSome⟩

/-- Whoever asks a slot is told that the compile is under way, which it was when the question was asked, or
what has come of it.  One who waits is told the latter. -/
theorem Answers.pending_or_reports (h : s.Answers w q events r) (hConsistent : s.Consistent outcome)
    (hSlot : w.slot? place = some slot) (hPlace : q.place? = some place) :
    (r.Pending ∧ (s.channels place).current = .pending) ∨
      (r.Reports (slot.resultOf (outcome place)) ∧
        ((s.run w (.call q :: events)).channels place).current ≠ .pending) := by
  obtain ⟨call, rfl, hReply, hSince⟩ := h.call hConsistent
  have hCurrent := (hConsistent.run w (.call call.question :: events)).current place
  generalize (s.run w (.call call.question :: events)).channels = d at hSince hCurrent ⊢
  cases call with
  | isReady other x =>
    cases hPlace
    rw [Call.reply?, hSlot, Option.bind_some] at hReply
    obtain ⟨state, hResult, rfl⟩ := Option.map_eq_some_iff.mp hReply
    rcases Reading.Since.result hSince hCurrent hResult with ⟨rfl, hNone⟩ | ⟨rfl, hSome⟩
    · exact Or.inl ⟨rfl, hNone⟩
    · exact Or.inr ⟨decide_eq_true (Channel.state_ne_pending _), hSome⟩
  | tryResult other x =>
    cases hPlace
    rw [Call.reply?, hSlot, Option.bind_some] at hReply
    obtain ⟨state, hResult, rfl⟩ := Option.map_eq_some_iff.mp hReply
    rcases Reading.Since.result hSince hCurrent hResult with ⟨rfl, hNone⟩ | ⟨rfl, hSome⟩
    · exact Or.inl ⟨rfl, hNone⟩
    · exact Or.inr ⟨slot.finish_state _, hSome⟩
  | wait other blocking x =>
    cases hPlace
    obtain ⟨rfl, hSome⟩ := Call.reply_of_wait hReply hSlot hSince hCurrent
    exact Or.inr ⟨rfl, hSome⟩
  | settle x => cases hPlace
  | readyNow x => cases hPlace

/-- Who asks a slot that has resolved is told so. -/
theorem Answers.reports (h : s.Answers w q events r) (hConsistent : s.Consistent outcome)
    (hSlot : w.slot? place = some slot) (hPlace : q.place? = some place)
    (hSome : (s.channels place).current ≠ .pending) :
    r.Reports (slot.resultOf (outcome place)) ∧ ¬ r.Pending := by
  rcases h.pending_or_reports hConsistent hSlot hPlace with ⟨-, hNone⟩ | ⟨hReports, -⟩
  · exact absurd hNone hSome
  · exact ⟨hReports, fun hPending => hPending.not_reports hReports⟩

theorem Answers.failure (h : s.Answers w q events r) (hConsistent : s.Consistent outcome)
    (hSlot : w.slot? place = some slot) (hPlace : q.place? = some place) {f : SlotFailure}
    (hFailure : r.failure? = some f) : slot.resultOf (outcome place) = .error f := by
  rcases h.pending_or_reports hConsistent hSlot hPlace with ⟨hPending, -⟩ | ⟨hReports, -⟩
  · rw [hPending.failure?] at hFailure
    cases hFailure
  · exact hReports.failure hFailure

theorem Answers.eq_waited {blocking : Bool} (h : s.Answers w (.wait place blocking) events r)
    (hConsistent : s.Consistent outcome) (hSlot : w.slot? place = some slot) :
    r = .waited (slot.resultOf (outcome place)) := by
  obtain ⟨call, hQuestion, hReply, hSince⟩ := h.call hConsistent
  have hCurrent := (hConsistent.run w (.call (.wait place blocking) :: events)).current place
  cases call with
  | wait other b x =>
    cases hQuestion
    exact (Call.reply_of_wait hReply hSlot hSince hCurrent).1
  | _ => cases hQuestion

/-- The outcome of a compile is reported once, and to everybody, however the steps of the task fall between
the reads of those who ask.  A task that sends is never said to have died, and one that has died unheard is
said so to everybody; what one caller was told everybody is told who asks later; whoever waits is told it;
a failure carries the kind and the device of its slot; and everybody is answered. -/
theorem outcome_reported_once (hSlot : w.slot? place = some slot) (outcome : SlotKind → CompileOutcome)
    (before : List Event) :
    let s := (initial outcome).run w before
    (outcome place ≠ .lost → ∀ q events r, q.place? = some place → s.Answers w q events r →
      ∀ f, r.failure? = some f → f.reason ≠ lostReason) ∧
    (outcome place = .lost → (s.channels place).senderAlive = false →
      ∀ q events r, q.place? = some place → s.Answers w q events r →
        r.Reports (.error (slot.failure lostReason))) ∧
    (∀ q events r, q.place? = some place → s.Answers w q events r → ¬ r.Pending →
      r.Reports (slot.resultOf (outcome place)) ∧
        ∀ between q' later r', q'.place? = some place →
          ((s.run w (.call q :: events)).run w between).Answers w q' later r' →
            r'.Reports (slot.resultOf (outcome place)) ∧ ¬ r'.Pending) ∧
    (∀ blocking events r, s.Answers w (.wait place blocking) events r →
      r = .waited (slot.resultOf (outcome place))) ∧
    (∀ q events r, q.place? = some place → s.Answers w q events r →
      ∀ f, r.failure? = some f → f.slot = slot.kind ∧ f.device = slot.device) ∧
    (∀ q events later, q.place? = some place → q.Open w (s.run w (.call q :: events)).channels →
      q.looks ≤ later.count (.look s.calls.length) → ∃ r, s.Answers w q (events ++ later) r) := by
  intro s
  have hConsistent : s.Consistent outcome := (consistent_initial outcome).run w before
  refine ⟨?_, ?_, ?_, ?_, ?_, ?_⟩
  · intro hSent q events r hPlace hAnswer f hFailure
    exact Slot.resultOf_reason (hAnswer.failure hConsistent hSlot hPlace hFailure) hSent
  · intro hLost hGone q events r hPlace hAnswer
    have hSome : (s.channels place).current ≠ .pending := by
      rw [Ne, Channel.current_eq_pending_iff, hGone]
      simp
    have hReports := (hAnswer.reports hConsistent hSlot hPlace hSome).1
    rw [hLost] at hReports
    exact hReports
  · intro q events r hPlace hAnswer hResolved
    rcases hAnswer.pending_or_reports hConsistent hSlot hPlace with ⟨hPending, -⟩ | ⟨hReports, hSome⟩
    · exact absurd hPending hResolved
    · refine ⟨hReports, fun between q' later r' hPlace' hAnswer' => ?_⟩
      have hEnd := hConsistent.run w (.call q :: events)
      have hOrder := hEnd.precede_run w between place
      exact hAnswer'.reports (hEnd.run w between) hSlot hPlace' (by rw [hOrder.current hSome]; exact hSome)
  · intro blocking events r hAnswer
    exact hAnswer.eq_waited hConsistent hSlot
  · intro q events r hPlace hAnswer f hFailure
    exact Slot.resultOf_error (hAnswer.failure hConsistent hSlot hPlace hFailure)
  · intro q events later hPlace hOpen hLooks
    refine answered_of_looks hConsistent ?_ hOpen hLooks
    cases q <;> cases hPlace <;> simp [Question.Answerable, hSlot]

/-- A reading into which the report and the end of the task fall tells the outcome, and so does every later
one. -/
theorem outcome_reported_once_raced :
    let s := (initial overtaken).run .pair []
    let events := [.look 0, .act .accelerator, .act .accelerator, .look 0, .look 0]
    s.Answers .pair (.tryResult .accelerator) events (.tried (some (.ok ⟨⟨"GPU.0"⟩, "m"⟩))) ∧
    ∀ between q later r, q.place? = some .accelerator →
      ((s.run .pair (.call (.tryResult .accelerator) :: events)).run .pair between).Answers .pair q later r →
        r.Reports (.ok ⟨⟨"GPU.0"⟩, "m"⟩) ∧ ¬ r.Pending := by
  have hSlot : Workload.pair.slot? .accelerator = some (.spawn .accelerator ⟨"GPU.0"⟩ (.path "m.xml")) := rfl
  have hOnce := (outcome_reported_once hSlot overtaken []).2.2.1 (.tryResult .accelerator)
    [.look 0, .act .accelerator, .act .accelerator, .look 0, .look 0]
    (.tried (some (.ok ⟨⟨"GPU.0"⟩, "m"⟩))) rfl rfl (by simp [Reply.Pending])
  exact ⟨rfl, hOnce.2⟩

/-- A call that overlaps may still tell of a compile under way after another one has told its end. -/
example : ((initial overtaken).run .pair [.call (.isReady .accelerator), .look 0, .act .accelerator,
    .call (.isReady .accelerator), .look 1, .look 0]).calls.map (Call.reply? .pair) =
      [some (.ready false), some (.ready true)] := rfl

end Scene

end TieredDispatch
