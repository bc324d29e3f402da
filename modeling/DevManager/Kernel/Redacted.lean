import DevManager.Kernel.Revision

/-!
# Redacted rows in a replayed journal (`src/domain/event.rs`)

The purge sweep rewrites the rows of a purged task in place: a row keeps its
sequence, id and time and decodes to `Event::Purged` without a task. The doc
comment of that variant says that `apply` returns the snapshot untouched.
`apply` has no arm for it: a redacted row falls to the last arm, which asks for
the task, and one that named the task and its next revision would reach the
`unreachable!` of `apply_into`.

* `apply_panicked_iff`: the events that reach that arm.
* `foldApply_withRedacted`: a journal into which a redacted row was put is refused.
-/

namespace DevManager

/-- A row as the purge sweep leaves it (`purge.rs:300-325`). -/
structure DomainEvent.Redacted (event : DomainEvent) : Prop where
  payload : event.payload = .purged
  taskId : event.taskId = none
  taskRevision : event.taskRevision = none

/-- The second list is the first with redacted rows put in at any positions. -/
inductive WithRedacted : List DomainEvent → List DomainEvent → Prop
  | nil : WithRedacted [] []
  | keep (event : DomainEvent) {journal rows : List DomainEvent}
      (h : WithRedacted journal rows) : WithRedacted (event :: journal) (event :: rows)
  | redacted {row : DomainEvent} {journal rows : List DomainEvent} (hrow : row.Redacted)
      (h : WithRedacted journal rows) : WithRedacted journal (row :: rows)

section Redacted

variable [Externals]

/-! ## The unreachable arm -/

/-- The payloads of the last arm of `apply_into`. -/
def Event.isHandledByApply : Event → Bool
  | .taskCreated .. | .purged | .hostCloseBegun .. | .hostCleanupBranchCompleted ..
  | .operationAccepted _ | .operationSettled _ | .operationFailed _ | .operationCancelled _
  | .operationUncertain _ | .browser _ => true
  | _ => false

omit [Externals] in
@[simp] theorem applyBrowserError_ne (error) :
    applyBrowserError error ≠ .panicked := by
  cases error <;> simp [applyBrowserError]

omit [Externals] in
@[simp] theorem applyStripError_ne (error) :
    applyStripError error ≠ .panicked := by
  cases error <;> simp [applyStripError]

/-! ### The calls inside the arms -/

variable (snap : TaskSnapshot)

theorem checkHandoffRefs_avoids (artifact) :
    Avoids (checkHandoffRefs snap artifact) .panicked := by
  rw [checkHandoffRefs, avoids_bind]
  exact ⟨by simp, fun result _ => .forM fun id _ => by simp⟩

omit [Externals] in
theorem checkHandoffBody_avoids (artifact) :
    Avoids (checkHandoffBody artifact) .panicked := by
  unfold checkHandoffBody
  split <;> simp

omit [Externals] in
theorem checkSpecialistResource_avoids (fact) :
    Avoids (checkSpecialistResource snap fact) .panicked := by
  unfold checkSpecialistResource
  split <;> simp

theorem validateSnapshotProviderFence_avoids (id) (fence) (action) (wait) (currentTurn)
    (allowClosing : Bool) :
    Avoids (validateSnapshotProviderFence snap id fence action wait currentTurn allowClosing)
      .panicked := by
  simp [validateSnapshotProviderFence]

omit [Externals] in
theorem acceptIntoSession_avoids (session) (fact) (taskId : TaskId) (t : ℤ) :
    Avoids (acceptIntoSession session fact taskId t) .panicked := by
  have hopen : Avoids (checkOpen session fact.action) .panicked := by
    cases fact.action <;> simp [checkOpen]
  simp only [acceptIntoSession, avoids_bind]
  refine ⟨hopen, fun _ _ => ⟨by simp, fun won _ => ?_⟩⟩
  split_ifs <;> simp

/-! ### One arm after the other -/

theorem applyInto_avoids {payload} (t : ℤ)
    (h : payload.isHandledByApply = false) : Avoids (applyInto snap payload t) .panicked := by
  cases payload <;> try cases h
  case taskRenamed => simp [applyInto, applyTaskRenamed]
  case taskAttentionSet => simp [applyInto]
  case taskCloseBegun => simp [applyInto, applyTaskCloseBegun]
  case taskSettled => simp [applyInto, applyTaskSettled]
  case taskReopened => simp [applyInto, applyTaskReopened]
  case taskArchived => simp [applyInto, applyTaskArchived]
  case taskDeleted => simp [applyInto, applyTaskDeleted]
  case agentSessionRegistered => simp [applyInto, applyAgentSessionRegistered]
  case agentProviderSessionBound agent resource session generation =>
    simp only [applyInto, applyAgentProviderSessionBound, avoids_bind]
    refine ⟨by simp, fun _ _ => ⟨by simp, fun _ _ => ⟨by simp, fun _ _ => ⟨by simp, ?_⟩⟩⟩⟩
    intro _ _
    split <;> simp
  case agentProviderSessionAbandoned agent abandoned generation =>
    simp only [applyInto, applyAgentProviderSessionAbandoned, avoids_bind]
    refine ⟨by simp, fun _ _ => ⟨by simp, fun _ _ => ?_⟩⟩
    split <;> simp
  case primaryAgentSet => simp [applyInto, applyPrimaryAgentSet]
  case unstartedPrimaryProviderRebound =>
    simp [applyInto, applyUnstartedPrimaryProviderRebound]
  case specialistRequested fact =>
    simp [applyInto, applySpecialistRequested, checkSpecialistResource_avoids]
  case primaryPromoted => simp [applyInto, applyPrimaryPromoted]
  case specialistHandoffRecorded fact =>
    have hrefs := checkHandoffRefs_avoids snap fact.artifact
    have hbody := checkHandoffBody_avoids fact.artifact
    by_cases hs : fact.structured = true <;>
      simp [applyInto, applySpecialistHandoffRecorded, hbody, hrefs, hs]
  case specialistClosed => simp [applyInto, applySpecialistClosed]
  case artifactRegistered => simp [applyInto, applyArtifactRegistered]
  case resourceRegistered => simp [applyInto, applyResourceRegistered]
  case resourceReleaseBegun => simp [applyInto, applyResourceReleaseBegun]
  case resourceReleased => simp [applyInto, applyResourceReleased]
  case terminalRenamed => simp [applyInto, applyTerminalRenamed]
  case terminalCwdReported => simp [applyInto, applyTerminalCwdReported, updateTerminal]
  case terminalExited => simp [applyInto, applyTerminalExited, updateTerminal]
  case terminalActivity => simp [applyInto, applyTerminalActivity, updateTerminal]
  case taskTerminalStripSet => simp [applyInto, applyTaskTerminalStripSet]
  case providerInputAccepted fact =>
    simp [applyInto, applyProviderInputAccepted, validateSnapshotProviderFence_avoids,
      acceptIntoSession_avoids]
  case providerQuestionPresented =>
    simp [applyInto, applyProviderQuestionPresented, validateSnapshotProviderFence_avoids]
  case providerApprovalPresented =>
    simp [applyInto, applyProviderApprovalPresented, validateSnapshotProviderFence_avoids]
  case providerWaitSettled =>
    simp [applyInto, applyProviderWaitSettled, validateSnapshotProviderFence_avoids]
  case providerInputDelivered =>
    simp only [applyInto, applyProviderInputDelivered, avoids_bind]
    refine ⟨validateSnapshotProviderFence_avoids _ _ _ _ _ _ _, fun _ _ => ⟨by simp, fun _ _ =>
      ⟨by simp, fun _ _ => ?_⟩⟩⟩
    split_ifs <;> simp

variable (event : DomainEvent)

theorem applyTaskCreated_avoids (task) (connectivity) (attention) (activity) (reviewReadiness) :
    Avoids (applyTaskCreated event task connectivity attention activity reviewReadiness)
      .panicked := by
  simp [applyTaskCreated]

omit [Externals] in
theorem requireNextRevision_avoids :
    Avoids (requireNextRevision snap event) .panicked := by
  simp [requireNextRevision]

omit [Externals] in
theorem requireMatchingTaskId_avoids :
    Avoids (requireMatchingTaskId snap event) .panicked := by
  simp [requireMatchingTaskId]

theorem apply_avoids (snapshot) {event}
    (h : event.payload ≠ .purged) : Avoids (apply snapshot event) .panicked := by
  by_cases hhandle : event.payload.isHandledByApply = true
  · -- what `apply_into` leaves to `apply`, `apply` has an arm for
    cases hpayload : event.payload <;> rw [hpayload] at h hhandle <;> try cases hhandle
    case purged.refl => exact absurd rfl h
    case taskCreated.refl =>
      simp only [apply, hpayload]
      split_ifs
      · simp
      · exact applyTaskCreated_avoids _ _ _ _ _ _
    all_goals simp [apply, hpayload, requireMatchingTaskId_avoids, requireNextRevision_avoids]
  · have hin : ∀ snap, Avoids (applyInto snap event.payload event.occurredAtMs) .panicked :=
      fun snap => applyInto_avoids snap event.occurredAtMs (by simpa using hhandle)
    cases hpayload : event.payload <;> rw [hpayload] at hin hhandle <;>
      first
      | exact absurd rfl hhandle
      | simp [apply, hpayload, requireMatchingTaskId_avoids, requireNextRevision_avoids, hin]

/-- A snapshot on which a row is the next mutation of the task. -/
def IsNext : Prop :=
  event.taskId = some snap.task.id ∧ event.taskRevision = some (snap.task.revision + 1) ∧
    snap.task.revision + 1 ≤ u64Max

theorem apply_panicked_iff (snapshot) (event) :
    apply snapshot event = .error .panicked ↔
      event.payload = .purged ∧ ∃ snap, snapshot = some snap ∧ IsNext snap event := by
  by_cases hpurged : event.payload = .purged
  · constructor
    · intro h
      simp only [apply, hpurged, bind_eq_error, okOr_eq_error, reduceCtorEq, and_false,
        false_or, okOr_eq_ok] at h
      obtain ⟨snap, hsnap, h⟩ := h
      have hmatch := requireMatchingTaskId_avoids snap event
      have hnext := requireNextRevision_avoids snap event
      obtain h | ⟨_, hid, h⟩ := h
      · exact absurd h hmatch
      obtain h | ⟨revision, hrev, h⟩ := h
      · exact absurd h hnext
      obtain ⟨hobserved, hle, -⟩ := requireNextRevision_eq_ok.mp hrev
      simp only [requireMatchingTaskId, failIf_eq_ok, ne_eq, not_not] at hid
      exact ⟨hpurged, snap, hsnap, hid, hobserved, hle⟩
    · rintro ⟨-, snap, rfl, hid, hobserved, hle⟩
      have hrev : requireNextRevision snap event = .ok (snap.task.revision + 1) :=
        requireNextRevision_eq_ok.mpr ⟨hobserved, hle, rfl⟩
      have hmatch : requireMatchingTaskId snap event = .ok () := by
        simp [requireMatchingTaskId, hid]
      simp only [apply, hpurged]
      show (requireMatchingTaskId snap event >>= _) = _
      rw [hmatch, ok_bind, hrev]
      rfl
  · have havoids := apply_avoids snapshot hpurged
    constructor
    · intro h
      exact absurd h havoids
    · rintro ⟨h, -⟩
      exact absurd h hpurged

/-! ## A journal with redacted rows -/

theorem apply_redacted {row} (hrow : row.Redacted) (snap) :
    apply (some snap) row = .error .taskMismatch := by
  have hmatch : requireMatchingTaskId snap row = .error .taskMismatch := by
    simp [requireMatchingTaskId, failIf, hrow.taskId]
  simp only [apply, hrow.payload]
  show (requireMatchingTaskId snap row >>= _) = _
  rw [hmatch]
  rfl

theorem foldApply_withRedacted {journal rows} (h : WithRedacted journal rows) :
    ∀ {snap : TaskSnapshot} {snapshot : Option TaskSnapshot},
      foldApply (some snap) journal = .ok snapshot → rows ≠ journal →
        foldApply (some snap) rows = .error .taskMismatch := by
  induction h with
  | nil =>
    intro snap snapshot _ hne
    exact absurd rfl hne
  | @keep event journal rows h ih =>
    intro snap snapshot hall hne
    obtain ⟨next, hone, hrest⟩ := foldlM_cons_ok.mp hall
    simp only [ok_iff] at hone
    obtain ⟨snap', happly, rfl⟩ := hone
    have hne' : rows ≠ journal := fun heq => hne (by rw [heq])
    have htail : foldApply (some snap') rows = .error .taskMismatch := ih hrest hne'
    show (apply (some snap) event >>= fun s => pure (some s)) >>= (fun s => foldApply s rows) = _
    rw [happly]
    exact htail
  | @redacted row journal rows hrow h ih =>
    intro snap snapshot _ _
    show (apply (some snap) row >>= fun s => pure (some s)) >>= (fun s => foldApply s rows) = _
    rw [apply_redacted hrow]
    rfl

/-- Redacted rows in a replay. A journal that folds to `s`, with redacted rows put in after its
first event, folds to `s` only if none was put in; and `apply` reaches its `unreachable!` arm
unless the event is no `Purged` row or is not the next mutation of the task. -/
theorem redacted_rows_replay_iff {first : DomainEvent} {journal rows : List DomainEvent}
    {s : TaskSnapshot} (h : foldApply none (first :: journal) = .ok (some s))
    (hrows : WithRedacted journal rows) (snapshot : Option TaskSnapshot) (event : DomainEvent) :
    (foldApply none (first :: rows) = .ok (some s) ↔ rows = journal) ∧
      (apply snapshot event ≠ .error .panicked ↔
        ¬ (event.payload = .purged ∧ ∃ snap, snapshot = some snap ∧ IsNext snap event)) := by
  refine ⟨⟨fun hall => ?_, fun heq => ?_⟩, not_congr (apply_panicked_iff snapshot event)⟩
  · obtain ⟨_, hone, hrest⟩ := foldlM_cons_ok.mp h
    obtain ⟨_, hone', hrest'⟩ := foldlM_cons_ok.mp hall
    rw [hone] at hone'
    cases hone'
    simp only [ok_iff] at hone
    obtain ⟨snap, -, rfl⟩ := hone
    by_contra hne
    have hstop := foldApply_withRedacted hrows hrest hne
    rw [foldApply, hrest'] at hstop
    cases hstop
  · rw [heq]
    exact h

end Redacted

/-! ## A purged journal -/

def sampleCreated : DomainEvent where
  id := ⟨1⟩
  taskId := some ⟨1⟩
  sequence := 1
  taskRevision := some 1
  occurredAtMs := 0
  payload := .taskCreated sampleTask .connected .none .idle .notReady

def samplePurged : DomainEvent where
  id := ⟨2⟩
  taskId := none
  sequence := 2
  taskRevision := none
  occurredAtMs := 0
  payload := .purged

theorem redacted_samplePurged : samplePurged.Redacted := ⟨rfl, rfl, rfl⟩

section Sample

attribute [local instance] sampleExternals

theorem foldApply_sampleCreated : foldApply none [sampleCreated] = .ok (some sampleSnapshot) := rfl

/-- One redacted row after the first event stops the replay, and a row that names the task and
its next revision reaches the `unreachable!` arm. -/
theorem redacted_row_refused :
    foldApply none [sampleCreated] = .ok (some sampleSnapshot) ∧ samplePurged.Redacted ∧
      foldApply none [sampleCreated, samplePurged] = .error .taskMismatch ∧
      apply (some sampleSnapshot)
        { samplePurged with taskId := some ⟨1⟩, taskRevision := some 2 } = .error .panicked :=
  ⟨rfl, redacted_samplePurged, rfl, rfl⟩

theorem redacted_rows_replay_sample :
    (foldApply none [sampleCreated, samplePurged] = .ok (some sampleSnapshot) ↔
      [samplePurged] = []) ∧
    (apply none samplePurged ≠ .error .panicked ↔
      ¬ (samplePurged.payload = .purged ∧
        ∃ snap, (none : Option TaskSnapshot) = some snap ∧ IsNext snap samplePurged)) :=
  redacted_rows_replay_iff foldApply_sampleCreated (.redacted redacted_samplePurged .nil) none
    samplePurged

end Sample

end DevManager
