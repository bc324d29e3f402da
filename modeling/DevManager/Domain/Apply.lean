import DevManager.Domain.Event

/-!
# Applying events (`src/domain/event.rs`)

`apply` folds one domain event into a snapshot: it checks the event's task and
revision and hands the payload to `apply_into`.

* `apply_some_eq_ok`: on an existing snapshot, `apply` succeeds iff the event
  names the task, carries the next revision when it is a task mutation, and its
  `effect` succeeds.
-/

namespace DevManager

section Apply

variable [Externals]

/-! ## `apply_into` and `apply` -/

variable (snap : TaskSnapshot)

/-- `apply_into`, L2520-3384 -/
def applyInto (payload : Event) (occurredAtMs : ℤ) :
    Except ApplyError TaskSnapshot :=
  match payload with
  | .taskRenamed title => applyTaskRenamed snap title
  | .taskAttentionSet attention => .ok { snap with attention }
  | .taskCloseBegun actionEpoch => applyTaskCloseBegun snap actionEpoch
  | .taskSettled => applyTaskSettled snap
  | .taskReopened => applyTaskReopened snap
  | .taskArchived => applyTaskArchived snap
  | .taskDeleted => applyTaskDeleted snap
  | .agentSessionRegistered agent => applyAgentSessionRegistered snap agent
  | .agentProviderSessionBound agent resource session generation =>
    applyAgentProviderSessionBound snap agent resource session generation
  | .agentProviderSessionAbandoned agent abandoned generation =>
    applyAgentProviderSessionAbandoned snap agent abandoned generation
  | .primaryAgentSet agent => applyPrimaryAgentSet snap agent
  | .unstartedPrimaryProviderRebound agent kind =>
    applyUnstartedPrimaryProviderRebound snap agent kind
  | .specialistRequested fact => applySpecialistRequested snap fact
  | .primaryPromoted previous promoted epoch generation =>
    applyPrimaryPromoted snap previous promoted epoch generation
  | .specialistHandoffRecorded fact => applySpecialistHandoffRecorded snap fact
  | .specialistClosed specialist epoch generation =>
    applySpecialistClosed snap specialist epoch generation
  | .artifactRegistered artifact => applyArtifactRegistered snap artifact
  | .resourceRegistered resource => applyResourceRegistered snap resource occurredAtMs
  | .resourceReleaseBegun resource generation =>
    applyResourceReleaseBegun snap resource generation occurredAtMs
  | .resourceReleased resource generation =>
    applyResourceReleased snap resource generation occurredAtMs
  | .terminalRenamed resource title => applyTerminalRenamed snap resource title
  | .terminalCwdReported resource cwd => applyTerminalCwdReported snap resource cwd occurredAtMs
  | .terminalExited resource code summary =>
    applyTerminalExited snap resource code summary occurredAtMs
  | .terminalActivity resource => applyTerminalActivity snap resource occurredAtMs
  | .taskTerminalStripSet strip => applyTaskTerminalStripSet snap strip
  | .providerInputAccepted fact => applyProviderInputAccepted snap fact occurredAtMs
  | .providerQuestionPresented fact => applyProviderQuestionPresented snap fact
  | .providerApprovalPresented fact => applyProviderApprovalPresented snap fact
  | .providerWaitSettled fence => applyProviderWaitSettled snap fence
  | .providerInputDelivered fact => applyProviderInputDelivered snap fact
  | .taskCreated .. | .purged | .hostCloseBegun .. | .hostCleanupBranchCompleted ..
  | .operationAccepted _ | .operationSettled _ | .operationFailed _ | .operationCancelled _
  | .operationUncertain _ | .browser _ => .error .panicked

variable (event : DomainEvent)

/-- `require_matching_task_id`, L2468-2474 -/
def requireMatchingTaskId : Except ApplyError Unit :=
  failIf (event.taskId ≠ some snap.task.id) .taskMismatch

/-- `require_next_revision`, L2476-2489 -/
def requireNextRevision : Except ApplyError ℕ := do
  let observed ← okOr event.taskRevision .revisionConflict
  let expected ← okOr (checkedAdd snap.task.revision 1) .invalidTransition
  failIf (observed ≠ expected) .revisionConflict
  pure expected

/-- The `Browser` arm of `apply` without the revision (L2412-2418). -/
def applyBrowserFact (fact : BrowserDurableFact) :
    Except ApplyError TaskSnapshot := do
  failIf (fact.taskId ≠ snap.task.id) .ownershipConflict
  let browser ← mapErr (snap.browser.applyFacts [fact]) applyBrowserError
  pure { snap with browser }

/-- The `TaskCreated` arm of `apply` (L2370-2408). -/
def applyTaskCreated (task : TaskFacts) (connectivity : TaskConnectivity)
    (attention : TaskAttention) (activity : TaskActivity) (reviewReadiness : ReviewReadiness) :
    Except ApplyError TaskSnapshot := do
  failIf (event.taskId ≠ some task.id) .taskMismatch
  failIf (event.taskRevision ≠ some 1 ∨ task.revision ≠ 1) .revisionConflict
  mapErr task.validateForCreate fun _ => .invalidTransition
  let browser ← mapErr (BrowserBook.new.openTask task.id) applyBrowserError
  pure {
    task, connectivity, attention, activity, reviewReadiness, agents := ∅, primaryAgentId := none,
    artifacts := ∅, resources := ∅, providerSessions := ∅, browser, terminalFacts := ∅,
    terminalStrip := .default }

/-- `apply`, L2365-2466 -/
def apply (snapshot : Option TaskSnapshot) (event : DomainEvent) : Except ApplyError TaskSnapshot :=
  match event.payload with
  | .taskCreated task connectivity attention activity reviewReadiness =>
    if snapshot.isSome then .error .snapshotAlreadyExists
    else applyTaskCreated event task connectivity attention activity reviewReadiness
  | .browser fact => do
    let snap ← okOr snapshot .missingSnapshot
    requireMatchingTaskId snap event
    failIf (fact.taskId ≠ snap.task.id) .ownershipConflict
    let nextRevision ← requireNextRevision snap event
    let browser ← mapErr (snap.browser.applyFacts [fact]) applyBrowserError
    pure ({ snap with browser }.withRevision nextRevision)
  | .operationAccepted _ | .operationSettled _ | .operationFailed _ | .operationCancelled _
  | .operationUncertain _ => do
    let snap ← okOr snapshot .missingSnapshot
    requireMatchingTaskId snap event
    pure snap
  | .hostCloseBegun .. | .hostCleanupBranchCompleted .. => .error .invalidTransition
  | .providerInputDelivered _ | .terminalCwdReported .. | .terminalExited ..
  | .terminalActivity _ => do
    let snap ← okOr snapshot .missingSnapshot
    requireMatchingTaskId snap event
    applyInto snap event.payload event.occurredAtMs
  | other => do
    let snap ← okOr snapshot .missingSnapshot
    requireMatchingTaskId snap event
    let nextRevision ← requireNextRevision snap event
    let snap ← applyInto snap other event.occurredAtMs
    pure (snap.withRevision nextRevision)

/-! ## One step -/

/-- What an event does to a snapshot, apart from the task revision: the arm of `apply_into`, the
browser arm of `apply`, or nothing for an operation fact. -/
def effect (payload : Event) (occurredAtMs : ℤ) :
    Except ApplyError TaskSnapshot :=
  match payload with
  | .browser fact => applyBrowserFact snap fact
  | .operationAccepted _ | .operationSettled _ | .operationFailed _ | .operationCancelled _
  | .operationUncertain _ => .ok snap
  | payload => applyInto snap payload occurredAtMs

omit [Externals] in
theorem requireNextRevision_eq_ok {snap event} {revision : ℕ} :
    requireNextRevision snap event = .ok revision ↔
      event.taskRevision = some (snap.task.revision + 1) ∧ snap.task.revision + 1 ≤ u64Max ∧
        revision = snap.task.revision + 1 := by
  unfold requireNextRevision
  simp only [ok_iff, checkedAdd_eq_some]
  constructor
  · rintro ⟨observed, hobserved, expected, ⟨hle, rfl⟩, rfl, rfl⟩
    exact ⟨hobserved, hle, rfl⟩
  · rintro ⟨hobserved, hle, rfl⟩
    exact ⟨_, hobserved, _, ⟨hle, rfl⟩, rfl, rfl⟩

theorem apply_some_eq_ok {snap snap' event} :
    apply (some snap) event = .ok snap' ↔
      event.taskId = some snap.task.id ∧
        (event.payload.isTaskMutation = true →
          event.taskRevision = some (snap.task.revision + 1) ∧ snap.task.revision + 1 ≤ u64Max) ∧
        ∃ mid, effect snap event.payload event.occurredAtMs = .ok mid ∧
          snap' = if event.payload.isTaskMutation then mid.withRevision (snap.task.revision + 1)
            else mid := by
  cases hp : event.payload <;>
    simp only [apply, hp, effect, applyInto, applyBrowserFact, Event.isTaskMutation,
      requireMatchingTaskId, ok_iff, requireNextRevision_eq_ok, Option.some.injEq, Except.ok.injEq,
      exists_eq_left', exists_eq_left, exists_eq_right', Option.isSome_some, and_assoc,
      exists_and_left, true_implies, reduceCtorEq, false_and, exists_false, and_false, if_true,
      if_false, false_implies, true_and, Bool.false_eq_true]
  -- the browser arm checks the fact's task before the revision
  case browser fact =>
    constructor
    · rintro ⟨h1, h2, h3, h4, b, h5, h6⟩
      exact ⟨h1, h3, h4, h2, _, ⟨b, h5, rfl⟩, h6⟩
    · rintro ⟨h1, h3, h4, h2, _, ⟨b, h5, rfl⟩, h6⟩
      exact ⟨h1, h2, h3, h4, b, h5, h6⟩

end Apply

end DevManager
