import DevManager.Domain.Operation
import DevManager.Domain.Snapshot

/-!
# Events (`src/domain/event.rs`)

The domain events, and the arms of `apply_into`: one definition for each event,
named after it. A failing arm drops the snapshot, so an arm is a function to the
next snapshot or an error. `DevManager.Domain.Apply` puts the arms together.
-/

namespace DevManager

/-! ## The events -/

/-- The payload of `SpecialistRequested` (L1092-1102). -/
structure SpecialistRequestedFact where
  specialistId : AgentSessionId
  requestedBy : AgentSessionId
  purpose : String
  agent : AgentSessionFacts
  permission : SpecialistPermission
  workspace : WorkspaceRef
  actionEpoch : ℕ
  runtimeGeneration : ℕ
  resourceId : Option ResourceId

/-- The payload of `SpecialistHandoffRecorded` (L1109-1115). -/
structure SpecialistHandoffFact where
  specialistId : AgentSessionId
  artifact : ArtifactFacts
  structured : Bool
  actionEpoch : ℕ
  runtimeGeneration : ℕ

/-- The payload of `ProviderInputAccepted` (L1170-1185). -/
structure ProviderInputAcceptedFact where
  commandId : CommandId
  clientId : ClientId
  operationId : OperationId
  agentSessionId : AgentSessionId
  providerKind : ProviderKind
  providerSessionId : Option ProviderSessionId
  runtimeGeneration : ℕ
  turnId : TurnId
  actionEpoch : ℕ
  questionId : Option QuestionId
  approvalId : Option ApprovalId
  action : ProviderInputAction
  wait : Bool
  delivery : ProviderDeliveryVisibility

/-- The payload of `ProviderQuestionPresented` (L1186-1194). -/
structure ProviderQuestionPresentedFact where
  agentSessionId : AgentSessionId
  providerKind : ProviderKind
  providerSessionId : ProviderSessionId
  runtimeGeneration : ℕ
  turnId : TurnId
  actionEpoch : ℕ
  questionId : QuestionId

/-- The payload of `ProviderApprovalPresented` (L1195-1203). -/
structure ProviderApprovalPresentedFact where
  agentSessionId : AgentSessionId
  providerKind : ProviderKind
  providerSessionId : ProviderSessionId
  runtimeGeneration : ℕ
  turnId : TurnId
  actionEpoch : ℕ
  approvalId : ApprovalId

/-- The payload of `ProviderInputDelivered` (L1207-1219). -/
structure ProviderInputDeliveredFact where
  commandId : CommandId
  clientId : ClientId
  operationId : OperationId
  agentSessionId : AgentSessionId
  providerKind : ProviderKind
  providerSessionId : Option ProviderSessionId
  runtimeGeneration : ℕ
  turnId : TurnId
  actionEpoch : ℕ
  questionId : Option QuestionId
  approvalId : Option ApprovalId

/-- `Event`, L1047-1233 -/
inductive Event
  | taskCreated (task : TaskFacts) (connectivity : TaskConnectivity) (attention : TaskAttention)
      (activity : TaskActivity) (reviewReadiness : ReviewReadiness)
  | taskRenamed (title : String)
  | taskAttentionSet (attention : TaskAttention)
  | taskCloseBegun (actionEpoch : ℕ)
  | taskSettled
  | taskReopened
  | taskArchived
  | taskDeleted
  | agentSessionRegistered (agent : AgentSessionFacts)
  | agentProviderSessionBound (agentSessionId : AgentSessionId) (resourceId : ResourceId)
      (providerSessionId : ProviderSessionId) (runtimeGeneration : ℕ)
  | agentProviderSessionAbandoned (agentSessionId : AgentSessionId)
      (abandonedProviderSessionId : ProviderSessionId) (runtimeGeneration : ℕ)
  | primaryAgentSet (agentSessionId : AgentSessionId)
  | unstartedPrimaryProviderRebound (agentSessionId : AgentSessionId)
      (providerKind : ProviderKind)
  | specialistRequested (fact : SpecialistRequestedFact)
  | primaryPromoted (previous promoted : AgentSessionId) (actionEpoch runtimeGeneration : ℕ)
  | specialistHandoffRecorded (fact : SpecialistHandoffFact)
  | specialistClosed (specialistId : AgentSessionId) (actionEpoch runtimeGeneration : ℕ)
  | artifactRegistered (artifact : ArtifactFacts)
  | resourceRegistered (resource : ResourceFacts)
  | resourceReleaseBegun (resourceId : ResourceId) (runtimeGeneration : ℕ)
  | resourceReleased (resourceId : ResourceId) (runtimeGeneration : ℕ)
  | terminalRenamed (resourceId : ResourceId) (title : String)
  | terminalCwdReported (resourceId : ResourceId) (cwd : String)
  | terminalExited (resourceId : ResourceId) (code : Option ℤ) (summary : String)
  | terminalActivity (resourceId : ResourceId)
  | taskTerminalStripSet (strip : TaskTerminalStrip)
  | hostCloseBegun (operationId : OperationId) (actionEpoch inspectionId : ℕ)
  | hostCleanupBranchCompleted (operationId : OperationId) (actionEpoch : ℕ)
      (branch : HostCleanupBranch) (outcome : HostCleanupBranchOutcome)
  | operationAccepted (fact : OperationAcceptedFact)
  | operationSettled (fact : OperationSettledFact)
  | operationFailed (fact : OperationFailedFact)
  | operationCancelled (fact : OperationCancelledFact)
  | operationUncertain (fact : OperationUncertainFact)
  | providerInputAccepted (fact : ProviderInputAcceptedFact)
  | providerQuestionPresented (fact : ProviderQuestionPresentedFact)
  | providerApprovalPresented (fact : ProviderApprovalPresentedFact)
  | providerWaitSettled (fence : ProviderWaitFence)
  | providerInputDelivered (fact : ProviderInputDeliveredFact)
  | browser (fact : BrowserDurableFact)
  | purged

/-- `is_task_mutation`, L1283-1301 -/
def Event.isTaskMutation : Event → Bool
  | purged | hostCloseBegun .. | hostCleanupBranchCompleted .. | operationAccepted _
  | operationSettled _ | operationFailed _ | operationCancelled _ | operationUncertain _
  | providerInputDelivered _ | terminalCwdReported .. | terminalExited ..
  | terminalActivity _ => false
  | _ => true

/-- `DomainEvent`, L44-51 -/
structure DomainEvent where
  id : EventId
  taskId : Option TaskId
  sequence : ℕ
  taskRevision : Option ℕ
  occurredAtMs : ℤ
  payload : Event

/-- `ApplyError` (L2337-2346), and `panicked` for the `unreachable!` of
`apply_into`. -/
inductive ApplyError
  | missingSnapshot | snapshotAlreadyExists | taskMismatch | notFound | invalidTransition
  | revisionConflict | ownershipConflict | alreadyExists | panicked
deriving DecidableEq

/-- `apply_browser_error`, L3386-3396 -/
def applyBrowserError : BrowserContractError → ApplyError
  | .crossTask => .ownershipConflict
  | _ => .invalidTransition

section Apply

variable [Externals]

/-! ## The task's own arms -/

variable (snap : TaskSnapshot)

/-- In `apply_into`, L2526-2530 -/
def applyTaskRenamed (title : String) : Except ApplyError TaskSnapshot := do
  let title ← mapErr (TaskFacts.canonicalizeTitle title) fun _ => .invalidTransition
  pure { snap with task := { snap.task with title } }

/-- In `apply_into`, L2534-2554 -/
def applyTaskCloseBegun (actionEpoch : ℕ) :
    Except ApplyError TaskSnapshot := do
  failIf (¬ (snap.task.lifecycle = .opened ∨ snap.task.lifecycle = .settled)) .invalidTransition
  let expected ← okOr (checkedAdd snap.task.actionEpoch 1) .invalidTransition
  failIf (actionEpoch ≠ expected) .invalidTransition
  let browser ← mapErr (snap.browser.closeTask snap.task.id) applyBrowserError
  pure { snap with
    task := { snap.task with lifecycle := .closing, actionEpoch }, browser }

/-- In `apply_into`, L2555-2560 -/
def applyTaskSettled : Except ApplyError TaskSnapshot := do
  failIf (snap.task.lifecycle ≠ .opened) .invalidTransition
  pure (snap.withLifecycle .settled)

/-- In `apply_into`, L2561-2572 -/
def applyTaskReopened : Except ApplyError TaskSnapshot := do
  failIf (snap.task.lifecycle = .opened ∨ snap.task.lifecycle = .deleted) .invalidTransition
  let browser ← mapErr (snap.browser.openTask snap.task.id) applyBrowserError
  pure { snap.withLifecycle .opened with browser }

/-- In `apply_into`, L2573-2592 -/
def applyTaskArchived : Except ApplyError TaskSnapshot := do
  failIf (snap.task.lifecycle ≠ .closing) .invalidTransition
  failIf (OrdMap.valuesAny snap.resources fun resource =>
    resource.lifecycle = .active || resource.lifecycle = .releasing) .invalidTransition
  failIf (OrdMap.valuesAny snap.agents fun agent =>
    agent.lifecycle = .opened && agent.role.isSpecialist) .invalidTransition
  pure (snap.withLifecycle .archived)

/-- In `apply_into`, L2593-2598 -/
def applyTaskDeleted : Except ApplyError TaskSnapshot := do
  failIf (snap.task.lifecycle ≠ .archived) .invalidTransition
  pure (snap.withLifecycle .deleted)

/-! ## Agents and artifacts -/

/-- In `apply_into`, L2599-2614 -/
def applyAgentSessionRegistered (agent : AgentSessionFacts) :
    Except ApplyError TaskSnapshot := do
  failIf (agent.taskId ≠ snap.task.id) .ownershipConflict
  failIf agent.role.isSpecialist .invalidTransition
  mapErr agent.validateForRegistration fun _ => .invalidTransition
  failIf (agent.id ∈ snap.agents) .alreadyExists
  pure { snap with
    agents := snap.agents.insert agent.id agent,
    providerSessions := snap.providerSessions.insertIfNew agent.id .default }

variable (agentSessionId : AgentSessionId) (resourceId : ResourceId)

/-- In `apply_into`, L2615-2646 -/
def applyAgentProviderSessionBound (providerSessionId : ProviderSessionId) (runtimeGeneration : ℕ) :
    Except ApplyError TaskSnapshot := do
  let agent ← okOr snap.agents[agentSessionId]? .notFound
  failIf (agent.lifecycle ≠ .opened ∨ agent.runtimeGeneration ≠ runtimeGeneration)
    .invalidTransition
  let resource ← okOr snap.resources[resourceId]? .notFound
  let _ ← mapErr (AgentResourceBinding.fromFacts agent resource) fun _ =>
    ApplyError.invalidTransition
  match agent.providerSessionId with
  | some bound => do
    failIf (bound ≠ providerSessionId) .ownershipConflict
    pure snap
  | none => pure (snap.setAgent agentSessionId { agent with
      providerSessionId := some providerSessionId, revision := saturatingAdd agent.revision 1 })

/-- In `apply_into`, L2647-2674 -/
def applyAgentProviderSessionAbandoned
    (abandoned : ProviderSessionId) (runtimeGeneration : ℕ) : Except ApplyError TaskSnapshot := do
  let agent ← okOr snap.agents[agentSessionId]? .notFound
  failIf (agent.lifecycle ≠ .opened ∨ agent.runtimeGeneration ≠ runtimeGeneration)
    .invalidTransition
  match agent.providerSessionId with
  | some bound => do
    failIf (bound ≠ abandoned) .ownershipConflict
    pure (snap.setAgent agentSessionId { agent with
      providerSessionId := none, revision := saturatingAdd agent.revision 1 })
  | none => pure snap

/-- In `apply_into`, L2675-2683 -/
def applyPrimaryAgentSet :
    Except ApplyError TaskSnapshot := do
  let agent ← okOr snap.agents[agentSessionId]? .notFound
  failIf (¬ agent.role.isPrimary) .invalidTransition
  pure { snap with primaryAgentId := some agentSessionId }

/-- In `apply_into`, L2684-2705 -/
def applyUnstartedPrimaryProviderRebound
    (providerKind : ProviderKind) : Except ApplyError TaskSnapshot := do
  failIf (¬ snap.isUnstartedDraft) .invalidTransition
  failIf (snap.primaryAgentId ≠ some agentSessionId) .ownershipConflict
  let agent ← okOr snap.agents[agentSessionId]? .notFound
  failIf (¬ agent.role.isPrimary ∨ agent.lifecycle ≠ .opened ∨ agent.providerSessionId.isSome)
    .invalidTransition
  pure (snap.setAgent agentSessionId { agent with
    providerKind, revision := saturatingAdd agent.revision 1 })

/-- The resource check of `SpecialistRequested` (L2758-2767). -/
def checkSpecialistResource (fact : SpecialistRequestedFact) :
    Except ApplyError Unit :=
  match fact.resourceId with
  | some resourceId => do
    let resource ← okOr snap.resources[resourceId]? .notFound
    failIf (resource.taskId ≠ some snap.task.id ∨
      resource.runtimeGeneration ≠ fact.runtimeGeneration) .invalidTransition
  | none => .ok ()

/-- In `apply_into`, L2706-2775 -/
def applySpecialistRequested (fact : SpecialistRequestedFact) :
    Except ApplyError TaskSnapshot := do
  failIf (fact.agent.id ≠ fact.specialistId ∨ fact.agent.taskId ≠ snap.task.id)
    .ownershipConflict
  failIf (¬ Canonical.isBoundedCanonical fact.purpose ∨ ¬ fact.agent.role.isSpecialist ∨
    fact.permission ≠ .readOnly ∨ fact.actionEpoch ≠ snap.task.actionEpoch ∨
    fact.agent.runtimeGeneration ≠ fact.runtimeGeneration ∨ fact.agent.id = fact.requestedBy)
    .invalidTransition
  mapErr fact.workspace.validate fun _ => .invalidTransition
  let requester ← okOr snap.agents[fact.requestedBy]? .notFound
  failIf (requester.lifecycle ≠ .opened ∨ ¬ requester.role.isPrimary ∨
    snap.primaryAgentId ≠ some fact.requestedBy ∨
    requester.runtimeGeneration ≠ fact.runtimeGeneration) .invalidTransition
  failIf (snap.topLevelRuntimeCount ≥ defaultMaxTopLevelRuntimes) .invalidTransition
  checkSpecialistResource snap fact
  mapErr fact.agent.validateForRegistration fun _ => .invalidTransition
  failIf (fact.agent.id ∈ snap.agents) .alreadyExists
  pure (snap.setAgent fact.agent.id fact.agent)

/-- In `apply_into`, L2776-2810 -/
def applyPrimaryPromoted (previous promoted : AgentSessionId)
    (actionEpoch runtimeGeneration : ℕ) : Except ApplyError TaskSnapshot := do
  failIf (previous = promoted ∨ actionEpoch ≠ snap.task.actionEpoch) .invalidTransition
  failIf (snap.primaryAgentId ≠ some previous) .invalidTransition
  let previousAgent ← okOr snap.agents[previous]? .notFound
  failIf (¬ previousAgent.role.isPrimary ∨ previousAgent.lifecycle ≠ .opened ∨
    previousAgent.runtimeGeneration ≠ runtimeGeneration) .invalidTransition
  let role ← mapErr (AgentRole.ofSpecialist "primary") fun _ => ApplyError.invalidTransition
  let snap := snap.setAgent previous { previousAgent with role }
  let promotedAgent ← okOr snap.agents[promoted]? .notFound
  failIf (¬ promotedAgent.role.isSpecialist ∨ promotedAgent.lifecycle ≠ .opened ∨
    promotedAgent.runtimeGeneration ≠ runtimeGeneration) .invalidTransition
  let snap := snap.setAgent promoted { promotedAgent with role := .primary }
  pure { snap with primaryAgentId := some promoted }

variable (artifact : ArtifactFacts)

/-- The body of the handed-off artifact is inline and bounded (L2826-2831). -/
def checkHandoffBody : Except ApplyError Unit :=
  match artifact.contentRef with
  | .inlineUtf8 body => failIf (body.utf8ByteSize > maxSpecialistRawArtifactBytes)
      .invalidTransition
  | .contentAddressed _ => .error .invalidTransition

/-- The references of a structured handoff (L2837-2844). -/
def checkHandoffRefs :
    Except ApplyError Unit := do
  let result ← mapErr (structuredSpecialistResult artifact) fun _ => ApplyError.invalidTransition
  (result.evidence ++ result.artifacts).forM fun id => do
    let existing ← okOr snap.artifacts[id]? .notFound
    failIf (existing.taskId ≠ snap.task.id) .ownershipConflict

/-- In `apply_into`, L2811-2860 -/
def applySpecialistHandoffRecorded (fact : SpecialistHandoffFact) :
    Except ApplyError TaskSnapshot := do
  failIf (fact.artifact.taskId ≠ snap.task.id) .ownershipConflict
  failIf (fact.artifact.kind ≠ .reviewReport ∨ fact.actionEpoch ≠ snap.task.actionEpoch)
    .invalidTransition
  checkHandoffBody fact.artifact
  mapErr fact.artifact.validate fun _ => .invalidTransition
  mapErr (verifyInlineContentDigest fact.artifact) fun _ => .invalidTransition
  (if fact.structured then checkHandoffRefs snap fact.artifact else .ok ())
  failIf (fact.artifact.id ∈ snap.artifacts) .alreadyExists
  let specialist ← okOr snap.agents[fact.specialistId]? .notFound
  failIf (¬ specialist.role.isSpecialist ∨ specialist.lifecycle ≠ .opened ∨
    specialist.runtimeGeneration ≠ fact.runtimeGeneration) .invalidTransition
  pure { snap.setAgent fact.specialistId { specialist with lifecycle := .closed } with
    artifacts := snap.artifacts.insert fact.artifact.id fact.artifact }

/-- In `apply_into`, L2861-2877 -/
def applySpecialistClosed (specialistId : AgentSessionId)
    (actionEpoch runtimeGeneration : ℕ) : Except ApplyError TaskSnapshot := do
  let specialist ← okOr snap.agents[specialistId]? .notFound
  failIf (¬ specialist.role.isSpecialist ∨ specialist.lifecycle ≠ .opened ∨
    specialist.runtimeGeneration ≠ runtimeGeneration ∨ actionEpoch ≠ snap.task.actionEpoch)
    .invalidTransition
  pure (snap.setAgent specialistId { specialist with lifecycle := .closed })

/-- In `apply_into`, L2878-2889 -/
def applyArtifactRegistered :
    Except ApplyError TaskSnapshot := do
  failIf (artifact.taskId ≠ snap.task.id) .ownershipConflict
  mapErr artifact.validate fun _ => .invalidTransition
  failIf (artifact.id ∈ snap.artifacts) .alreadyExists
  pure { snap with artifacts := snap.artifacts.insert artifact.id artifact }

/-! ## Resources and terminals -/

/-- What `ResourceRegistered` does to the terminal facts and the strip
(L2915-2936). -/
def registerTerminal (resource : ResourceFacts) (occurredAtMs : ℤ) :
    TaskSnapshot :=
  let snap := snap.setTerminal resource.id
    (TerminalFacts.registered resource.id resource.recipe.title occurredAtMs)
  if resource.recipe.isPlainShell then
    { snap with terminalStrip := {
      order := snap.terminalStrip.order ++ [resource.id]
      focused := if snap.terminalStrip.focused.isNone then some resource.id
        else snap.terminalStrip.focused } }
  else snap

/-- In `apply_into`, L2890-2937 -/
def applyResourceRegistered (resource : ResourceFacts) (occurredAtMs : ℤ) :
    Except ApplyError TaskSnapshot := do
  failIf (resource.ownerKind ≠ .task) .ownershipConflict
  failIf (resource.taskId ≠ some snap.task.id) .ownershipConflict
  mapErr resource.validate fun _ => .invalidTransition
  failIf (resource.lifecycle ≠ .active) .invalidTransition
  failIf (resource.id ∈ snap.resources) .alreadyExists
  failIf (resource.recipe.isPlainShell ∧
    snap.terminalStrip.order.length ≥ maxPlainShellsPerTask) .invalidTransition
  let snap := snap.setResource resource.id resource
  pure (if resource.resourceKind = .terminal then registerTerminal snap resource occurredAtMs
    else snap)

/-- In `apply_into`, L2938-2958 -/
def applyResourceReleaseBegun
    (runtimeGeneration : ℕ) (occurredAtMs : ℤ) : Except ApplyError TaskSnapshot := do
  let resource ← okOr snap.resources[resourceId]? .notFound
  failIf (resource.ownerKind ≠ .task ∨ resource.taskId ≠ some snap.task.id) .ownershipConflict
  failIf (resource.lifecycle ≠ .active) .invalidTransition
  failIf (resource.runtimeGeneration ≠ runtimeGeneration) .invalidTransition
  pure (snap.setResource resourceId { resource with
    lifecycle := .releasing, updatedAtMs := occurredAtMs })

/-- In `apply_into`, L2959-2981 -/
def applyResourceReleased
    (runtimeGeneration : ℕ) (occurredAtMs : ℤ) : Except ApplyError TaskSnapshot := do
  let resource ← okOr snap.resources[resourceId]? .notFound
  failIf (resource.ownerKind ≠ .task ∨ resource.taskId ≠ some snap.task.id) .ownershipConflict
  failIf (resource.lifecycle ≠ .releasing) .invalidTransition
  failIf (resource.runtimeGeneration ≠ runtimeGeneration) .invalidTransition
  pure { snap.setResource resourceId { resource with
      lifecycle := .released, updatedAtMs := occurredAtMs } with
    terminalFacts := snap.terminalFacts.erase resourceId
    terminalStrip := snap.terminalStrip.remove resourceId }

/-- In `apply_into`, L2982-3007 -/
def applyTerminalRenamed (title : String) :
    Except ApplyError TaskSnapshot := do
  let resource ← okOr snap.resources[resourceId]? .notFound
  failIf (¬ resource.recipe.isPlainShell) .invalidTransition
  mapErr (validateTerminalTitle title) fun _ => .invalidTransition
  let facts ← okOr snap.terminalFacts[resourceId]? .notFound
  pure ((snap.setTerminal resourceId { facts with title := some title }).setResource resourceId
    { resource with recipe := resource.recipe.withTitle (some title) })

/-- `facts.get_mut(resource_id).ok_or(NotFound)?` and a write, the shape of the three host
terminal facts. -/
def updateTerminal (update : TerminalFacts → TerminalFacts) : Except ApplyError TaskSnapshot := do
  let facts ← okOr snap.terminalFacts[resourceId]? .notFound
  pure (snap.setTerminal resourceId (update facts))

/-- In `apply_into`, L3008-3015 -/
def applyTerminalCwdReported (cwd : String)
    (occurredAtMs : ℤ) : Except ApplyError TaskSnapshot :=
  updateTerminal snap resourceId fun facts =>
    { facts with liveCwd := some cwd, lastActivityAtMs := occurredAtMs }

/-- In `apply_into`, L3016-3030 -/
def applyTerminalExited (code : Option ℤ)
    (summary : String) (occurredAtMs : ℤ) : Except ApplyError TaskSnapshot :=
  updateTerminal snap resourceId fun facts =>
    { facts with exit := some { code, summary, atMs := occurredAtMs } }

/-- In `apply_into`, L3031-3037 -/
def applyTerminalActivity (occurredAtMs : ℤ) :
    Except ApplyError TaskSnapshot :=
  updateTerminal snap resourceId fun facts => { facts with lastActivityAtMs := occurredAtMs }

/-- How `apply_into` reports a bad strip (L3041-3049). -/
def applyStripError : TerminalStripError → ApplyError
  | .foreignTask _ => .notFound
  | _ => .invalidTransition

/-- In `apply_into`, L3038-3051 -/
def applyTaskTerminalStripSet (strip : TaskTerminalStrip) :
    Except ApplyError TaskSnapshot := do
  mapErr (strip.validate snap.task.id snap.resources) applyStripError
  pure { snap with terminalStrip := strip }

/-! ## Provider input -/

/-- The context `validate_snapshot_provider_fence` checks a fence against
(L2504-2515). -/
def fenceContext (agent : AgentSessionFacts) (currentTurn : Option TurnId) (allowClosing : Bool) :
    ProviderFenceContext :=
  { agent with
    taskId := snap.task.id
    agentSessionId := agentSessionId
    agentTaskId := agent.taskId
    actionEpoch := snap.task.actionEpoch
    currentTurn := currentTurn
    allowClosing := allowClosing }

/-- `validate_snapshot_provider_fence`, L2491-2518 -/
def validateSnapshotProviderFence
    (fence : ProviderFenceIdentity) (action : Option ProviderInputAction) (wait : Option Bool)
    (currentTurn : Option TurnId) (allowClosing : Bool) : Except ApplyError Unit := do
  let agent ← okOr snap.agents[agentSessionId]? .notFound
  mapErr (validateProviderFence fence action wait
    (some (fenceContext snap agentSessionId agent currentTurn allowClosing)))
    fun _ => .invalidTransition

variable (fact : ProviderInputAcceptedFact)

/-- The turn `ProviderInputAccepted` is fenced on (L3071-3082). -/
def acceptedCurrentTurn : Option TurnId :=
  snap.providerSessions[fact.agentSessionId]?.bind fun session =>
    if fact.action.isSendNow ∧ session.canBeginSendNowTurn fact.turnId then none
    else session.currentTurn

/-- The fence of `ProviderInputAccepted` (L3083-3095). -/
def ProviderInputAcceptedFact.fence (taskId : TaskId) :
    ProviderFenceIdentity :=
  { fact with
    commandId := some fact.commandId
    taskId := some taskId
    providerKind := some fact.providerKind
    operationId := some fact.operationId }

/-- The wait record of `ProviderInputAccepted` (L3165-3180). -/
def ProviderInputAcceptedFact.waitRecord (taskId : TaskId) :
    ProviderWaitRecord where
  fence := { fact with
    taskId, operationId := some fact.operationId, providerKind := some fact.providerKind }
  pending := true

variable (session : ProviderSessionProjection)

/-- The answered question or approval must be open and not yet won (L3111-3129). -/
def checkOpen : ProviderInputAction →
    Except ApplyError Unit
  | .answerQuestion questionId _ => do
    failIf (questionId ∈ session.questionWinners) .alreadyExists
    failIf (session.openQuestion ≠ some questionId) .invalidTransition
  | .resolveApproval approvalId _ => do
    failIf (approvalId ∈ session.approvalWinners) .alreadyExists
    failIf (session.openApproval ≠ some approvalId) .invalidTransition
  | _ => .ok ()

/-- Record the winner of an answered question or approval (L3142-3160). -/
def insertWinner (winner : ProviderResolutionWinner) :
    ProviderInputAction → Except ProviderInputIntentError ProviderSessionProjection
  | .answerQuestion questionId _ => do
    let session ← session.boundedInsertQuestionWinner questionId winner
    pure { session with openQuestion := none }
  | .resolveApproval approvalId _ => do
    let session ← session.boundedInsertApprovalWinner approvalId winner
    pure { session with openApproval := none }
  | _ => .ok session

/-- What `ProviderInputAccepted` does to its session (L3111-3183). -/
def acceptIntoSession (fact : ProviderInputAcceptedFact)
    (taskId : TaskId) (occurredAtMs : ℤ) : Except ApplyError ProviderSessionProjection := do
  checkOpen session fact.action
  let session := { session with
    currentTurn := some fact.turnId
    lastSettlement := some {
      commandId := fact.commandId, operationId := some fact.operationId, intent := .accepted,
      delivery := fact.delivery } }
  let winner : ProviderResolutionWinner := {
    commandId := fact.commandId, clientId := fact.clientId, acceptedAtMs := occurredAtMs }
  let session ← mapErr (insertWinner session winner fact.action) fun _ =>
    ApplyError.invalidTransition
  if fact.wait then
    mapErr (session.boundedInsertWait fact.commandId (fact.waitRecord taskId)) fun _ =>
      .invalidTransition
  else pure session

/-- In `apply_into`, L3052-3184 -/
def applyProviderInputAccepted (occurredAtMs : ℤ) : Except ApplyError TaskSnapshot := do
  failIf fact.delivery.isDelivered .invalidTransition
  validateSnapshotProviderFence snap fact.agentSessionId (fact.fence snap.task.id)
    (some fact.action) (some fact.wait) (acceptedCurrentTurn snap fact) false
  let snap := if snap.task.lifecycle = .settled ∧ fact.action.isSendNow then
      snap.withLifecycle .opened
    else snap
  let session ← acceptIntoSession (snap.sessionOf fact.agentSessionId) fact snap.task.id
    occurredAtMs
  pure (snap.setSession fact.agentSessionId session)

/-- `self.provider_sessions.get(id).and_then(|session| session.current_turn)`. -/
def currentTurnOf (id : AgentSessionId) : Option TurnId :=
  snap.providerSessions[id]?.bind fun session => session.currentTurn

variable (fact : ProviderQuestionPresentedFact)

/-- The fence of `ProviderQuestionPresented` (L3198-3210). -/
def ProviderQuestionPresentedFact.fence (taskId : TaskId) : ProviderFenceIdentity :=
  { fact with
    commandId := none
    taskId := some taskId
    providerKind := some fact.providerKind
    providerSessionId := some fact.providerSessionId
    operationId := none
    questionId := some fact.questionId
    approvalId := none }

/-- In `apply_into`, L3185-3229 -/
def applyProviderQuestionPresented :
    Except ApplyError TaskSnapshot := do
  validateSnapshotProviderFence snap fact.agentSessionId (fact.fence snap.task.id) none none
    (currentTurnOf snap fact.agentSessionId) false
  let session := snap.sessionOf fact.agentSessionId
  failIf (fact.questionId ∈ session.questionWinners) .alreadyExists
  failIf session.openQuestion.isSome .alreadyExists
  pure (snap.setSession fact.agentSessionId { session with
    currentTurn := some fact.turnId, openQuestion := some fact.questionId })

variable (fact : ProviderApprovalPresentedFact)

/-- The fence of `ProviderApprovalPresented` (L3243-3255). -/
def ProviderApprovalPresentedFact.fence (taskId : TaskId) : ProviderFenceIdentity :=
  { fact with
    commandId := none
    taskId := some taskId
    providerKind := some fact.providerKind
    providerSessionId := some fact.providerSessionId
    operationId := none
    questionId := none
    approvalId := some fact.approvalId }

/-- In `apply_into`, L3230-3274 -/
def applyProviderApprovalPresented :
    Except ApplyError TaskSnapshot := do
  validateSnapshotProviderFence snap fact.agentSessionId (fact.fence snap.task.id) none none
    (currentTurnOf snap fact.agentSessionId) false
  let session := snap.sessionOf fact.agentSessionId
  failIf (fact.approvalId ∈ session.approvalWinners) .alreadyExists
  failIf session.openApproval.isSome .alreadyExists
  pure (snap.setSession fact.agentSessionId { session with
    currentTurn := some fact.turnId, openApproval := some fact.approvalId })

/-- In `apply_into`, L3275-3304 -/
def applyProviderWaitSettled (fence : ProviderWaitFence) :
    Except ApplyError TaskSnapshot := do
  validateSnapshotProviderFence snap fence.agentSessionId fence.identity none none
    (currentTurnOf snap fence.agentSessionId) true
  let session ← okOr snap.providerSessions[fence.agentSessionId]? .notFound
  let record ← okOr session.waits[fence.commandId]? .notFound
  failIf (record.fence ≠ fence) .invalidTransition
  failIf (¬ record.pending) .alreadyExists
  pure (snap.setSession fence.agentSessionId { session with
    waits := session.waits.insert fence.commandId { record with pending := false } })

variable (fact : ProviderInputDeliveredFact)

/-- The fence of `ProviderInputDelivered` (L3322-3334). -/
def ProviderInputDeliveredFact.fence (taskId : TaskId) :
    ProviderFenceIdentity :=
  { fact with
    commandId := some fact.commandId
    taskId := some taskId
    providerKind := some fact.providerKind
    operationId := some fact.operationId }

/-- In `apply_into`, L3305-3371 -/
def applyProviderInputDelivered :
    Except ApplyError TaskSnapshot := do
  validateSnapshotProviderFence snap fact.agentSessionId (fact.fence snap.task.id) none none
    (currentTurnOf snap fact.agentSessionId) true
  let session ← okOr snap.providerSessions[fact.agentSessionId]? .notFound
  let settlement ← okOr session.lastSettlement .invalidTransition
  -- a newer accepted input has taken over the presentation fact
  if settlement.commandId ≠ fact.commandId ∨ settlement.operationId ≠ some fact.operationId then
    pure snap
  else do
    failIf settlement.delivery.isDelivered .invalidTransition
    pure (snap.setSession fact.agentSessionId { session with
      lastSettlement := some {
        commandId := fact.commandId, operationId := some fact.operationId, intent := .accepted,
        delivery := .delivered } })

end Apply

end DevManager
