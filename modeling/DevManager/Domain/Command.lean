import DevManager.Domain.Event

/-!
# Commands (`src/domain/command.rs`)

The commands, and the arms of `decide` for the task itself, its agents and its
artifacts: one definition for each command. An arm returns the events that record
the command or a rejection; it never changes the snapshot. The other arms, and
`decide`, are in `DevManager.Domain.Decide`.
-/

namespace DevManager

/-! ## Commands -/

/-- `RejectionCode`, L40-52 -/
inductive RejectionCode
  | notFound | alreadyExists | revisionConflict | invalidTransition | ownershipConflict
  | unsupportedCapability | closing | idempotencyConflict | alreadyResolved | tooManyTerminals
deriving DecidableEq

/-- `CreateTaskIntent`, L704-717 -/
structure CreateTaskIntent where
  id : TaskId
  environmentId : EnvironmentId
  title : String
  description : Option String
  projectId : ProjectId
  workspace : WorkspaceRef
  assignment : TaskAssignment
  createdAtMs : ℤ
  connectivity : TaskConnectivity
  attention : TaskAttention
  activity : TaskActivity
  reviewReadiness : ReviewReadiness

/-- `SubmitProviderInputIntent`, L840-848 -/
structure SubmitProviderInputIntent where
  agentSessionId : AgentSessionId
  runtimeGeneration : ℕ
  turnId : TurnId
  actionEpoch : ℕ
  questionId : Option QuestionId
  approvalId : Option ApprovalId
  action : ProviderInputAction

/-- `PresentProviderQuestionIntent`, `provider_input.rs:1269-1275` -/
structure PresentProviderQuestionIntent where
  agentSessionId : AgentSessionId
  runtimeGeneration : ℕ
  turnId : TurnId
  actionEpoch : ℕ
  questionId : QuestionId

/-- `PresentProviderApprovalIntent`, `provider_input.rs:1341-1347` -/
structure PresentProviderApprovalIntent where
  agentSessionId : AgentSessionId
  runtimeGeneration : ℕ
  turnId : TurnId
  actionEpoch : ℕ
  approvalId : ApprovalId

/-- `RequestSpecialistIntent`, L949-960 -/
structure RequestSpecialistIntent where
  specialist : AgentSessionFacts
  requestedBy : AgentSessionId
  purpose : String
  permission : SpecialistPermission
  workspace : WorkspaceRef
  expectedArtifactKind : ArtifactKind
  expectedActionEpoch : ℕ
  expectedRuntimeGeneration : ℕ
  resourceId : Option ResourceId
  maxTopLevelRuntimes : ℕ

/-- `PromotePrimaryIntent`, L1082-1086 -/
structure PromotePrimaryIntent where
  agentSessionId : AgentSessionId
  expectedActionEpoch : ℕ
  expectedRuntimeGeneration : ℕ

/-- `CancelSpecialistIntent`, L1090-1094 -/
structure CancelSpecialistIntent where
  agentSessionId : AgentSessionId
  expectedActionEpoch : ℕ
  expectedRuntimeGeneration : ℕ

/-- `AcceptSpecialistHandoffIntent`, L1097-1104 -/
structure AcceptSpecialistHandoffIntent where
  specialistId : AgentSessionId
  artifactId : ArtifactId
  expectedActionEpoch : ℕ
  expectedRuntimeGeneration : ℕ
  structured : Option SpecialistResult
  rawInlineUtf8 : Option String

/-- `OpenTaskBrowserIntent`, `native_browser.rs:16-22` -/
structure OpenTaskBrowserIntent where
  agentSessionId : AgentSessionId
  resource : ResourceFacts
  tabId : BrowserTabId
  createRequestId : BrowserRequestId
  openRequestId : BrowserRequestId

/-- `Command` (L1208-1314). The payloads of the commands that `decide` always rejects
are left out. -/
inductive Command
  | createTask (intent : CreateTaskIntent)
  | createTaskV2
  | renameTask (title : String)
  | setTaskAttention (attention : TaskAttention)
  | settleTask
  | beginCloseTask
  | reopenTask
  | deleteTask
  | registerAgentSession (agent : AgentSessionFacts)
  | bindProviderSession (agentSessionId : AgentSessionId) (resourceId : ResourceId)
      (providerSessionId : ProviderSessionId) (expectedRuntimeGeneration : ℕ)
  | abandonProviderSession (agentSessionId : AgentSessionId)
      (abandonedProviderSessionId : ProviderSessionId) (expectedRuntimeGeneration : ℕ)
  | setPrimaryAgent (agentSessionId : AgentSessionId)
  | rebindUnstartedPrimaryProvider (agentSessionId : AgentSessionId) (providerKind : ProviderKind)
  | registerArtifact (artifact : ArtifactFacts)
  | registerResource (resource : ResourceFacts)
  | releaseResource (resourceId : ResourceId)
  | confirmHostQuit
  | submitProviderInput (intent : SubmitProviderInputIntent)
  | presentProviderQuestion (intent : PresentProviderQuestionIntent)
  | presentProviderApproval (intent : PresentProviderApprovalIntent)
  | settleProviderWait (fence : ProviderWaitFence)
  | requestSpecialist (intent : RequestSpecialistIntent)
  | promotePrimary (intent : PromotePrimaryIntent)
  | cancelSpecialist (intent : CancelSpecialistIntent)
  | acceptSpecialistHandoff (intent : AcceptSpecialistHandoffIntent)
  | promptLibrary
  | promptChain
  | serviceControl
  | startProviderSession
  | browser (request : BrowserRequest)
  | openTaskBrowser (intent : OpenTaskBrowserIntent)
  | prepareUpdate
  | confirmUpdateDrain
  | abortUpdateHandoff
  | armUpdateInstall
  | openShellTerminal (resource : ResourceFacts)
  | closeTerminal (resourceId : ResourceId)
  | renameTerminal (resourceId : ResourceId) (title : String)
  | setTerminalStrip (strip : TaskTerminalStrip)

/-- `CommandEnvelope`, L107-114 -/
structure CommandEnvelope where
  commandId : CommandId
  clientId : ClientId
  taskId : Option TaskId
  issuedAtMs : ℤ
  expectedTaskRevision : Option ℕ
  command : Command

/-! ## What every arm asks first -/

variable (snapshot : Option TaskSnapshot) (envelope : CommandEnvelope)

/-- `require_task`, L2243-2257 -/
def requireTask :
    Except RejectionCode TaskSnapshot := do
  let snap ← okOr snapshot .notFound
  let taskId ← okOr envelope.taskId .invalidTransition
  failIf (snap.task.id ≠ taskId) .notFound
  pure snap

/-- `require_expected_revision`, L2259-2267 -/
def requireExpectedRevision (snap : TaskSnapshot) (envelope : CommandEnvelope) :
    Except RejectionCode Unit :=
  failIf (envelope.expectedTaskRevision ≠ some snap.task.revision) .revisionConflict

/-- `require_open_or_closing_task`, L2269-2278 -/
def requireOpenOrClosingTask :
    Except RejectionCode TaskSnapshot := do
  let snap ← requireTask snapshot envelope
  match snap.task.lifecycle with
  | .opened | .settled | .closing => pure snap
  | .archived | .deleted => .error .invalidTransition

/-- `require_runtime_capable_task`, L2280-2290 -/
def requireRuntimeCapableTask :
    Except RejectionCode TaskSnapshot := do
  let snap ← requireTask snapshot envelope
  match snap.task.lifecycle with
  | .opened | .settled => pure snap
  | .closing => .error .closing
  | .archived | .deleted => .error .invalidTransition

/-- `require_open_agent`, L2292-2299 -/
def requireOpenAgent (agent : AgentSessionFacts) : Except RejectionCode Unit :=
  failIf (agent.lifecycle ≠ .opened) .invalidTransition

/-- `require_live_agent`, L2301-2306 -/
def requireLiveAgent (agent : AgentSessionFacts) : Except RejectionCode Unit :=
  failIf (agent.lifecycle = .closed) .invalidTransition

/-- `require_orchestration_fences`, L2308-2320 -/
def requireOrchestrationFences (snap : TaskSnapshot) (expectedActionEpoch : ℕ)
    (agent : AgentSessionFacts) (expectedRuntimeGeneration : ℕ) : Except RejectionCode Unit :=
  failIf (snap.task.actionEpoch ≠ expectedActionEpoch ∨
    agent.runtimeGeneration ≠ expectedRuntimeGeneration) .revisionConflict

section Decide

variable [Externals]

/-! ## The task's own commands -/

/-- The description `decide_create_task` stores (L1927-1933). -/
def createDescription : Option String → Except RejectionCode (Option String)
  | some value => do
    failIf (trim value = "") .invalidTransition
    pure (some (trim value))
  | none => .ok none

/-- The task `decide_create_task` builds (L1934-1946). -/
def CreateTaskIntent.task (intent : CreateTaskIntent) (description : Option String) :
    TaskFacts :=
  { intent with
    title := trim intent.title
    description := description
    lifecycle := .opened
    actionEpoch := 0
    revision := 1 }

variable (snapshot : Option TaskSnapshot) (envelope : CommandEnvelope)

/-- `decide_create_task`, L1910-1956 -/
def decideCreateTask (intent : CreateTaskIntent) : Except RejectionCode (List Event) := do
  failIf snapshot.isSome .alreadyExists
  failIf envelope.taskId.isSome .invalidTransition
  failIf envelope.expectedTaskRevision.isSome .revisionConflict
  failIf (trim intent.title = "") .invalidTransition
  let description ← createDescription intent.description
  let task := intent.task description
  mapErr task.validateForCreate fun _ => .invalidTransition
  pure [.taskCreated task intent.connectivity intent.attention intent.activity
    intent.reviewReadiness]

/-- In `decide`, L1436-1445 -/
def decideRenameTask (title : String) : Except RejectionCode (List Event) := do
  let snap ← requireOpenOrClosingTask snapshot envelope
  requireExpectedRevision snap envelope
  failIf (trim title = "") .invalidTransition
  let title ← mapErr (TaskFacts.canonicalizeTitle title) fun _ => RejectionCode.invalidTransition
  pure [.taskRenamed title]

/-- In `decide`, L1446-1452 -/
def decideSetTaskAttention (attention : TaskAttention) : Except RejectionCode (List Event) := do
  let snap ← requireOpenOrClosingTask snapshot envelope
  requireExpectedRevision snap envelope
  pure [.taskAttentionSet attention]

/-- In `decide`, L1453-1464 -/
def decideSettleTask :
    Except RejectionCode (List Event) := do
  let snap ← requireTask snapshot envelope
  requireExpectedRevision snap envelope
  match snap.task.lifecycle with
  | .opened => pure [.taskSettled]
  | .settled => pure []
  | .closing => .error .closing
  | .archived | .deleted => .error .invalidTransition

/-- `decide_begin_close`, L1958-1976 -/
def decideBeginClose :
    Except RejectionCode (List Event) := do
  let snap ← requireTask snapshot envelope
  requireExpectedRevision snap envelope
  match snap.task.lifecycle with
  | .closing => pure []
  | .archived | .deleted => .error .invalidTransition
  | .opened | .settled => do
    let actionEpoch ← okOr (checkedAdd snap.task.actionEpoch 1) .invalidTransition
    pure [.taskCloseBegun actionEpoch]

/-- In `decide`, L1466-1477 -/
def decideReopenTask :
    Except RejectionCode (List Event) := do
  let snap ← requireTask snapshot envelope
  requireExpectedRevision snap envelope
  match snap.task.lifecycle with
  | .settled | .closing | .archived => pure [.taskReopened]
  | .opened | .deleted => .error .invalidTransition

/-- In `decide`, L1478-1488 -/
def decideDeleteTask :
    Except RejectionCode (List Event) := do
  let snap ← requireTask snapshot envelope
  requireExpectedRevision snap envelope
  match snap.task.lifecycle with
  | .archived => pure [.taskDeleted]
  | .opened | .settled | .closing | .deleted => .error .invalidTransition

/-! ## Agents and artifacts -/

/-- In `decide`, L1489-1519 -/
def decideRegisterAgentSession (agent : AgentSessionFacts) : Except RejectionCode (List Event) := do
  let snap ← requireRuntimeCapableTask snapshot envelope
  requireExpectedRevision snap envelope
  failIf (agent.taskId ≠ snap.task.id) .ownershipConflict
  failIf (¬ isOk agent.validateForRegistration) .invalidTransition
  failIf (agent.id ∈ snap.agents) .alreadyExists
  failIf agent.role.isSpecialist .invalidTransition
  failIf (agent.role.isPrimary ∧
    OrdMap.valuesAny snap.agents fun existing => existing.role.isPrimary) .alreadyExists
  pure [.agentSessionRegistered agent]

variable (agentSessionId : AgentSessionId)

/-- In `decide`, L1520-1557 -/
def decideBindProviderSession (resourceId : ResourceId)
    (providerSessionId : ProviderSessionId) (expectedRuntimeGeneration : ℕ) :
    Except RejectionCode (List Event) := do
  let snap ← requireRuntimeCapableTask snapshot envelope
  requireExpectedRevision snap envelope
  let agent ← okOr snap.agents[agentSessionId]? .notFound
  requireOpenAgent agent
  failIf (agent.runtimeGeneration ≠ expectedRuntimeGeneration) .invalidTransition
  let resource ← okOr snap.resources[resourceId]? .notFound
  let binding ← mapErr (AgentResourceBinding.fromFacts agent resource) fun _ =>
    RejectionCode.invalidTransition
  failIf (binding.resourceId ≠ resourceId ∨
    binding.runtimeGeneration ≠ expectedRuntimeGeneration) .invalidTransition
  match agent.providerSessionId with
  | some bound =>
    .error (if bound = providerSessionId then .alreadyExists else .ownershipConflict)
  | none => pure [.agentProviderSessionBound agentSessionId resourceId providerSessionId
      expectedRuntimeGeneration]

/-- In `decide`, L1558-1591 -/
def decideAbandonProviderSession (abandoned : ProviderSessionId)
    (expectedRuntimeGeneration : ℕ) : Except RejectionCode (List Event) := do
  let snap ← requireRuntimeCapableTask snapshot envelope
  requireExpectedRevision snap envelope
  let agent ← okOr snap.agents[agentSessionId]? .notFound
  requireOpenAgent agent
  failIf (agent.runtimeGeneration ≠ expectedRuntimeGeneration) .invalidTransition
  match agent.providerSessionId with
  | some bound => do
    failIf (bound ≠ abandoned) .ownershipConflict
    pure [.agentProviderSessionAbandoned agentSessionId abandoned expectedRuntimeGeneration]
  | none => .error .alreadyResolved

/-- In `decide`, L1592-1604 -/
def decideSetPrimaryAgent : Except RejectionCode (List Event) := do
  let snap ← requireRuntimeCapableTask snapshot envelope
  requireExpectedRevision snap envelope
  let agent ← okOr snap.agents[agentSessionId]? .notFound
  failIf (¬ agent.role.isPrimary) .invalidTransition
  pure [.primaryAgentSet agentSessionId]

/-- In `decide`, L1605-1633 -/
def decideRebindUnstartedPrimaryProvider (providerKind : ProviderKind) :
    Except RejectionCode (List Event) := do
  let snap ← requireRuntimeCapableTask snapshot envelope
  requireExpectedRevision snap envelope
  failIf (¬ snap.isUnstartedDraft) .invalidTransition
  failIf (snap.primaryAgentId ≠ some agentSessionId) .ownershipConflict
  let agent ← okOr snap.agents[agentSessionId]? .notFound
  failIf (¬ agent.role.isPrimary ∨ agent.lifecycle ≠ .opened ∨ agent.providerSessionId.isSome)
    .invalidTransition
  if agent.providerKind = providerKind then pure []
  else pure [.unstartedPrimaryProviderRebound agentSessionId providerKind]

/-- In `decide`, L1634-1649 -/
def decideRegisterArtifact (artifact : ArtifactFacts) : Except RejectionCode (List Event) := do
  let snap ← requireOpenOrClosingTask snapshot envelope
  requireExpectedRevision snap envelope
  failIf (artifact.taskId ≠ snap.task.id) .ownershipConflict
  failIf (¬ isOk artifact.validate) .invalidTransition
  failIf (artifact.id ∈ snap.artifacts) .alreadyExists
  pure [.artifactRegistered artifact]

/-- `validate_bounds`, L1021-1040 -/
def RequestSpecialistIntent.validateBounds (intent : RequestSpecialistIntent) :
    Except RejectionCode Unit := do
  failIf (Canonical.boundedCanonical intent.purpose).isNone .invalidTransition
  failIf (intent.specialist.id = intent.requestedBy ∨ ¬ intent.specialist.role.isSpecialist)
    .invalidTransition
  mapErr intent.specialist.validateForRegistration fun _ => .invalidTransition
  mapErr intent.workspace.validate fun _ => .invalidTransition
  failIf (intent.expectedArtifactKind ≠ .reviewReport) .unsupportedCapability

/-- The permission policy of `decide_request_specialist` (L2378-2398). -/
def checkSpecialistPermission (snap : TaskSnapshot) (intent : RequestSpecialistIntent) :
    Except RejectionCode Unit :=
  match intent.permission with
  | .readOnly => failIf (¬ intent.workspace.same snap.task.workspace) .ownershipConflict
  | .isolatedWrite => do
    failIf (¬ snap.task.workspace.isWorktree ∨ ¬ intent.workspace.same snap.task.workspace)
      .invalidTransition
    .error .unsupportedCapability
  | .sharedWrite true => .error .unsupportedCapability
  | .sharedWrite false => .error .invalidTransition

/-- The resource check of `decide_request_specialist` (L2399-2410). -/
def checkRequestedResource (snap : TaskSnapshot) (intent : RequestSpecialistIntent) :
    Except RejectionCode Unit :=
  match intent.resourceId with
  | some resourceId => do
    let resource ← okOr snap.resources[resourceId]? .notFound
    failIf (resource.taskId ≠ some snap.task.id) .ownershipConflict
    failIf (resource.runtimeGeneration ≠ intent.expectedRuntimeGeneration) .revisionConflict
  | none => .ok ()

/-- `decide_request_specialist` (L2335-2431). The count of agents cannot overflow
`usize`. -/
def decideRequestSpecialist
    (intent : RequestSpecialistIntent) : Except RejectionCode (List Event) := do
  let snap ← requireRuntimeCapableTask snapshot envelope
  requireExpectedRevision snap envelope
  intent.validateBounds
  let requester ← okOr snap.agents[intent.requestedBy]? .notFound
  requireOrchestrationFences snap intent.expectedActionEpoch requester
    intent.expectedRuntimeGeneration
  failIf (¬ requester.role.isPrimary ∨ snap.primaryAgentId ≠ some intent.requestedBy)
    .ownershipConflict
  failIf (intent.specialist.taskId ≠ snap.task.id ∨ intent.specialist.id = intent.requestedBy)
    .ownershipConflict
  let purpose ← okOr (Canonical.boundedCanonical intent.purpose) .invalidTransition
  mapErr intent.workspace.validate fun _ => .invalidTransition
  failIf (intent.expectedArtifactKind ≠ .reviewReport) .unsupportedCapability
  failIf (¬ isOk intent.specialist.validateForRegistration ∨
    intent.specialist.runtimeGeneration ≠ intent.expectedRuntimeGeneration) .invalidTransition
  failIf (intent.specialist.id ∈ snap.agents) .alreadyExists
  checkSpecialistPermission snap intent
  checkRequestedResource snap intent
  let requestedCap := min intent.maxTopLevelRuntimes defaultMaxTopLevelRuntimes
  failIf (requestedCap = 0 ∨ snap.topLevelRuntimeCount + 1 > requestedCap) .invalidTransition
  pure [.specialistRequested { intent with
    specialistId := intent.specialist.id, purpose, agent := intent.specialist,
    actionEpoch := intent.expectedActionEpoch,
    runtimeGeneration := intent.expectedRuntimeGeneration }]

/-- `decide_promote_primary`, L2433-2466 -/
def decidePromotePrimary (intent : PromotePrimaryIntent) : Except RejectionCode (List Event) := do
  let snap ← requireRuntimeCapableTask snapshot envelope
  requireExpectedRevision snap envelope
  let candidate ← okOr snap.agents[intent.agentSessionId]? .notFound
  requireOrchestrationFences snap intent.expectedActionEpoch candidate
    intent.expectedRuntimeGeneration
  let previous ← okOr snap.primaryAgentId .notFound
  let previousAgent ← okOr snap.agents[previous]? .notFound
  failIf (¬ candidate.role.isSpecialist ∨ candidate.lifecycle ≠ .opened ∨
    ¬ previousAgent.role.isPrimary ∨ previousAgent.lifecycle ≠ .opened ∨
    previousAgent.runtimeGeneration ≠ intent.expectedRuntimeGeneration) .invalidTransition
  pure [.primaryPromoted previous intent.agentSessionId intent.expectedActionEpoch
    intent.expectedRuntimeGeneration]

/-- `decide_cancel_specialist`, L2468-2495 -/
def decideCancelSpecialist
    (intent : CancelSpecialistIntent) : Except RejectionCode (List Event) := do
  let snap ← requireRuntimeCapableTask snapshot envelope
  requireExpectedRevision snap envelope
  let specialist ← okOr snap.agents[intent.agentSessionId]? .notFound
  requireOrchestrationFences snap intent.expectedActionEpoch specialist
    intent.expectedRuntimeGeneration
  failIf (¬ specialist.role.isSpecialist ∨ specialist.lifecycle ≠ .opened) .invalidTransition
  pure [.specialistClosed intent.agentSessionId intent.expectedActionEpoch
    intent.expectedRuntimeGeneration]

/-- The raw body is empty or too long (L2525, 2537). -/
def rawBodyBad (raw : String) : Prop := raw = "" ∨ raw.utf8ByteSize > maxSpecialistRawArtifactBytes

instance (raw : String) : Decidable (rawBodyBad raw) := inferInstanceAs (Decidable (_ ∨ _))

/-- The body a handoff records, and whether it is structured (L2529-2543): only the
raw fallback is recorded. -/
def handoffBody (structured : Option SpecialistResult) (raw : Option String) :
    Except RejectionCode (String × Bool) :=
  match structured, raw with
  | some result, raw =>
    if isOk result.validate then .error .unsupportedCapability else rawBody raw
  | none, raw => rawBody raw
where
  /-- The last two arms of the match. -/
  rawBody : Option String → Except RejectionCode (String × Bool)
    | some raw => do
      failIf (rawBodyBad raw) .invalidTransition
      pure (raw, false)
    | none => .error .invalidTransition

/-- `decide_accept_specialist_handoff`, L2497-2575 -/
def decideAcceptSpecialistHandoff
    (intent : AcceptSpecialistHandoffIntent) : Except RejectionCode (List Event) := do
  let snap ← requireRuntimeCapableTask snapshot envelope
  requireExpectedRevision snap envelope
  let specialist ← okOr snap.agents[intent.specialistId]? .notFound
  requireOrchestrationFences snap intent.expectedActionEpoch specialist
    intent.expectedRuntimeGeneration
  failIf (¬ specialist.role.isSpecialist ∨ specialist.lifecycle ≠ .opened) .invalidTransition
  failIf (intent.artifactId ∈ snap.artifacts) .alreadyExists
  failIf (∃ raw ∈ intent.rawInlineUtf8, rawBodyBad raw) .invalidTransition
  let (body, structured) ← handoffBody intent.structured intent.rawInlineUtf8
  let label ← mapErr (ArtifactFacts.canonicalizeLabel
    (if structured then "specialist-handoff-structured" else "specialist-handoff-raw"))
    fun _ => RejectionCode.invalidTransition
  let contentRef ← mapErr (ArtifactContentRef.ofInlineUtf8 body) fun _ =>
    RejectionCode.invalidTransition
  let artifact : ArtifactFacts := {
    id := intent.artifactId, taskId := snap.task.id, kind := .reviewReport, label, contentRef,
    sha256 := Externals.sha256 (asBytes body), privacyClass := .localOnly,
    createdAtMs := envelope.issuedAtMs }
  mapErr artifact.validate fun _ => .invalidTransition
  mapErr (verifyInlineContentDigest artifact) fun _ => .invalidTransition
  pure [.specialistHandoffRecorded {
    specialistId := intent.specialistId, artifact, structured,
    actionEpoch := intent.expectedActionEpoch,
    runtimeGeneration := intent.expectedRuntimeGeneration }]

end Decide

end DevManager
