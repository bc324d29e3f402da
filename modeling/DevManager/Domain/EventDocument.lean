import DevManager.Domain.Event

/-!
# Event documents (`src/domain/event.rs`)

An event is stored and sent as an `EventDocument`: a schema version and a body
whose `event_type` tag says which payload it holds. `From<&Event>` copies the
fields of an event into a payload, `TryFrom<EventDocument>` checks the payload
and copies them back. The payloads are structures of their own, so both copies
are written out field by field, as in the source.

* `tryFrom_stable`: what is decoded is valid, is encoded with the tag it had, and
  decodes to itself from then on.
-/

namespace DevManager

/-- `EVENT_SCHEMA_VERSION`, L41 -/
def eventSchemaVersion : ℕ := 1

/-- `EventSerdeError` (L2314-2319), without what only the envelope of a stored row
raises. -/
inductive EventSerdeError
  | unsupportedSchemaVersion (version : ℕ)
  | payload

/-! ## Payloads (L520-1046) -/

structure TaskCreatedPayload where
  task : TaskFacts
  connectivity : TaskConnectivity
  attention : TaskAttention
  activity : TaskActivity
  reviewReadiness : ReviewReadiness

structure TaskRenamedPayload where
  title : String

structure TaskAttentionSetPayload where
  attention : TaskAttention

structure TaskCloseBegunPayload where
  actionEpoch : ℕ

structure TaskUnitPayload where

structure AgentSessionRegisteredPayload where
  agent : AgentSessionFacts

structure AgentProviderSessionBoundPayload where
  agentSessionId : AgentSessionId
  resourceId : ResourceId
  providerSessionId : ProviderSessionId
  runtimeGeneration : ℕ

structure AgentProviderSessionAbandonedPayload where
  agentSessionId : AgentSessionId
  abandonedProviderSessionId : ProviderSessionId
  runtimeGeneration : ℕ

structure PrimaryAgentSetPayload where
  agentSessionId : AgentSessionId

structure UnstartedPrimaryProviderReboundPayload where
  agentSessionId : AgentSessionId
  providerKind : ProviderKind

structure SpecialistRequestedPayload where
  specialistId : AgentSessionId
  requestedBy : AgentSessionId
  purpose : String
  agent : AgentSessionFacts
  permission : SpecialistPermission
  workspace : WorkspaceRef
  actionEpoch : ℕ
  runtimeGeneration : ℕ
  resourceId : Option ResourceId

structure PrimaryPromotedPayload where
  previous : AgentSessionId
  promoted : AgentSessionId
  actionEpoch : ℕ
  runtimeGeneration : ℕ

structure SpecialistHandoffRecordedPayload where
  specialistId : AgentSessionId
  artifact : ArtifactFacts
  structured : Bool
  actionEpoch : ℕ
  runtimeGeneration : ℕ

structure SpecialistClosedPayload where
  specialistId : AgentSessionId
  actionEpoch : ℕ
  runtimeGeneration : ℕ

structure ArtifactRegisteredPayload where
  artifact : ArtifactFacts

structure ResourceRegisteredPayload where
  resource : ResourceFacts

structure ResourceReleaseBegunPayload where
  resourceId : ResourceId
  runtimeGeneration : ℕ

structure ResourceReleasedPayload where
  resourceId : ResourceId
  runtimeGeneration : ℕ

structure TerminalRenamedPayload where
  resourceId : ResourceId
  title : String

structure TerminalCwdReportedPayload where
  resourceId : ResourceId
  cwd : String

structure TerminalExitedPayload where
  resourceId : ResourceId
  code : Option ℤ
  summary : String

structure TerminalActivityPayload where
  resourceId : ResourceId

structure TaskTerminalStripSetPayload where
  strip : TaskTerminalStrip

structure HostCloseBegunPayload where
  operationId : OperationId
  actionEpoch : ℕ
  inspectionId : ℕ

structure HostCleanupBranchCompletedPayload where
  operationId : OperationId
  actionEpoch : ℕ
  branch : HostCleanupBranch
  outcome : HostCleanupBranchOutcome

structure ProviderInputAcceptedPayload where
  commandId : CommandId
  clientId : ClientId
  operationId : OperationId
  agentSessionId : AgentSessionId
  providerKind : ProviderKind
  providerSessionId : Option ProviderSessionId
  runtimeGeneration : ℕ
  turnId : TurnId
  actionEpoch : ℕ
  questionId : Option QuestionId
  approvalId : Option ApprovalId
  action : ProviderInputAction
  wait : Bool
  delivery : ProviderDeliveryVisibility

structure ProviderQuestionPresentedPayload where
  agentSessionId : AgentSessionId
  providerKind : ProviderKind
  providerSessionId : ProviderSessionId
  runtimeGeneration : ℕ
  turnId : TurnId
  actionEpoch : ℕ
  questionId : QuestionId

structure ProviderApprovalPresentedPayload where
  agentSessionId : AgentSessionId
  providerKind : ProviderKind
  providerSessionId : ProviderSessionId
  runtimeGeneration : ℕ
  turnId : TurnId
  actionEpoch : ℕ
  approvalId : ApprovalId

structure ProviderWaitSettledPayload where
  fence : ProviderWaitFence

structure ProviderInputDeliveredPayload where
  commandId : CommandId
  clientId : ClientId
  operationId : OperationId
  agentSessionId : AgentSessionId
  providerKind : ProviderKind
  providerSessionId : Option ProviderSessionId
  runtimeGeneration : ℕ
  turnId : TurnId
  actionEpoch : ℕ
  questionId : Option QuestionId
  approvalId : Option ApprovalId

namespace SpecialistRequestedPayload

variable [Externals]

/-- `validate`, L799-820 -/
def validate (payload : SpecialistRequestedPayload) : Except String Unit := do
  failIf (¬ Canonical.isBoundedCanonical payload.purpose)
    "specialist purpose exceeds bound or is not canonical"
  failIf (payload.agent.id ≠ payload.specialistId ∨ payload.requestedBy = payload.specialistId ∨
    ¬ payload.agent.role.isSpecialist ∨
    payload.agent.runtimeGeneration ≠ payload.runtimeGeneration ∨ payload.permission ≠ .readOnly)
    "specialist request lineage is invalid"
  mapErr payload.agent.validateForRegistration fun _ =>
    "specialist agent registration facts are invalid"
  mapErr payload.workspace.validate fun _ => "specialist workspace is invalid"

end SpecialistRequestedPayload

/-- `validate`, L893-898 -/
def PrimaryPromotedPayload.validate (payload : PrimaryPromotedPayload) : Except String Unit :=
  failIf (payload.previous = payload.promoted)
    "primary promotion requires distinct previous and promoted agents"

namespace SpecialistHandoffRecordedPayload

variable [Externals]

/-- `validate`, L968-990 -/
def validate (payload : SpecialistHandoffRecordedPayload) : Except String Unit := do
  mapErr payload.artifact.validate fun _ => "handoff artifact is invalid"
  failIf (payload.artifact.kind ≠ .reviewReport ∨
    ¬ isOk (verifyInlineContentDigest payload.artifact))
    "handoff artifact digest or kind is invalid"
  (match payload.artifact.contentRef with
  | .inlineUtf8 body => failIf (body.utf8ByteSize > maxSpecialistRawArtifactBytes)
      "handoff artifact exceeds raw output bound"
  | .contentAddressed _ => .error "handoff artifact must retain bounded inline output")
  if payload.structured then do
    let _ ← mapErr (structuredSpecialistResult payload.artifact) fun _ =>
      "structured handoff body failed specialist result validation"
    pure ()
  else .ok ()

end SpecialistHandoffRecordedPayload

/-! ## Bodies and their tags -/

/-- `EventBody`, L1304-1387 -/
inductive EventBody
  | taskCreated (payload : TaskCreatedPayload)
  | taskRenamed (payload : TaskRenamedPayload)
  | taskAttentionSet (payload : TaskAttentionSetPayload)
  | taskCloseBegun (payload : TaskCloseBegunPayload)
  | taskSettled (payload : TaskUnitPayload)
  | taskReopened (payload : TaskUnitPayload)
  | taskArchived (payload : TaskUnitPayload)
  | taskDeleted (payload : TaskUnitPayload)
  | agentSessionRegistered (payload : AgentSessionRegisteredPayload)
  | agentProviderSessionBound (payload : AgentProviderSessionBoundPayload)
  | agentProviderSessionAbandoned (payload : AgentProviderSessionAbandonedPayload)
  | primaryAgentSet (payload : PrimaryAgentSetPayload)
  | unstartedPrimaryProviderRebound (payload : UnstartedPrimaryProviderReboundPayload)
  | specialistRequested (payload : SpecialistRequestedPayload)
  | primaryPromoted (payload : PrimaryPromotedPayload)
  | specialistHandoffRecorded (payload : SpecialistHandoffRecordedPayload)
  | specialistClosed (payload : SpecialistClosedPayload)
  | artifactRegistered (payload : ArtifactRegisteredPayload)
  | resourceRegistered (payload : ResourceRegisteredPayload)
  | resourceReleaseBegun (payload : ResourceReleaseBegunPayload)
  | resourceReleased (payload : ResourceReleasedPayload)
  | terminalRenamed (payload : TerminalRenamedPayload)
  | terminalCwdReported (payload : TerminalCwdReportedPayload)
  | terminalExited (payload : TerminalExitedPayload)
  | terminalActivity (payload : TerminalActivityPayload)
  | taskTerminalStripSet (payload : TaskTerminalStripSetPayload)
  | hostCloseBegun (payload : HostCloseBegunPayload)
  | hostCleanupBranchCompleted (payload : HostCleanupBranchCompletedPayload)
  | operationAccepted (fact : OperationAcceptedFact)
  | operationSettled (fact : OperationSettledFact)
  | operationFailed (fact : OperationFailedFact)
  | operationCancelled (fact : OperationCancelledFact)
  | operationUncertain (fact : OperationUncertainFact)
  | providerInputAccepted (payload : ProviderInputAcceptedPayload)
  | providerQuestionPresented (payload : ProviderQuestionPresentedPayload)
  | providerApprovalPresented (payload : ProviderApprovalPresentedPayload)
  | providerWaitSettled (payload : ProviderWaitSettledPayload)
  | providerInputDelivered (payload : ProviderInputDeliveredPayload)
  | browser (fact : BrowserDurableFact)
  | purged (payload : TaskUnitPayload)

/-- The `event_type` that `serde` writes for a body: its `rename` (L1307-1386). -/
def EventBody.eventType : EventBody → String
  | .taskCreated _ => "task.created"
  | .taskRenamed _ => "task.renamed"
  | .taskAttentionSet _ => "task.attention_set"
  | .taskCloseBegun _ => "task.close_begun"
  | .taskSettled _ => "task.settled"
  | .taskReopened _ => "task.reopened"
  | .taskArchived _ => "task.archived"
  | .taskDeleted _ => "task.deleted"
  | .agentSessionRegistered _ => "agent_session.registered"
  | .agentProviderSessionBound _ => "agent_session.provider_bound"
  | .agentProviderSessionAbandoned _ => "agent_session.provider_abandoned"
  | .primaryAgentSet _ => "primary_agent.set"
  | .unstartedPrimaryProviderRebound _ => "agent_session.unstarted_provider_rebound"
  | .specialistRequested _ => "specialist.requested"
  | .primaryPromoted _ => "primary_agent.promoted"
  | .specialistHandoffRecorded _ => "specialist.handoff_recorded"
  | .specialistClosed _ => "specialist.closed"
  | .artifactRegistered _ => "artifact.registered"
  | .resourceRegistered _ => "resource.registered"
  | .resourceReleaseBegun _ => "resource.release_begun"
  | .resourceReleased _ => "resource.released"
  | .terminalRenamed _ => "terminal.renamed"
  | .terminalCwdReported _ => "terminal.cwd_reported"
  | .terminalExited _ => "terminal.exited"
  | .terminalActivity _ => "terminal.activity"
  | .taskTerminalStripSet _ => "task.terminal_strip_set"
  | .hostCloseBegun _ => "host.close_begun"
  | .hostCleanupBranchCompleted _ => "host.cleanup_branch_completed"
  | .operationAccepted _ => "operation.accepted"
  | .operationSettled _ => "operation.settled"
  | .operationFailed _ => "operation.failed"
  | .operationCancelled _ => "operation.cancelled"
  | .operationUncertain _ => "operation.uncertain"
  | .providerInputAccepted _ => "provider_input.accepted"
  | .providerQuestionPresented _ => "provider_input.question_presented"
  | .providerApprovalPresented _ => "provider_input.approval_presented"
  | .providerWaitSettled _ => "provider_input.wait_settled"
  | .providerInputDelivered _ => "provider_input.delivered"
  | .browser _ => "browser.fact"
  | .purged _ => "event.purged"

/-- `event_type`, L1236-1281 -/
def Event.eventType : Event → String
  | .taskCreated .. => "task.created"
  | .taskRenamed .. => "task.renamed"
  | .taskAttentionSet .. => "task.attention_set"
  | .taskCloseBegun .. => "task.close_begun"
  | .taskSettled => "task.settled"
  | .taskReopened => "task.reopened"
  | .taskArchived => "task.archived"
  | .taskDeleted => "task.deleted"
  | .agentSessionRegistered .. => "agent_session.registered"
  | .agentProviderSessionBound .. => "agent_session.provider_bound"
  | .agentProviderSessionAbandoned .. => "agent_session.provider_abandoned"
  | .primaryAgentSet .. => "primary_agent.set"
  | .unstartedPrimaryProviderRebound .. => "agent_session.unstarted_provider_rebound"
  | .specialistRequested .. => "specialist.requested"
  | .primaryPromoted .. => "primary_agent.promoted"
  | .specialistHandoffRecorded .. => "specialist.handoff_recorded"
  | .specialistClosed .. => "specialist.closed"
  | .artifactRegistered .. => "artifact.registered"
  | .resourceRegistered .. => "resource.registered"
  | .resourceReleaseBegun .. => "resource.release_begun"
  | .resourceReleased .. => "resource.released"
  | .terminalRenamed .. => "terminal.renamed"
  | .terminalCwdReported .. => "terminal.cwd_reported"
  | .terminalExited .. => "terminal.exited"
  | .terminalActivity .. => "terminal.activity"
  | .taskTerminalStripSet .. => "task.terminal_strip_set"
  | .hostCloseBegun .. => "host.close_begun"
  | .hostCleanupBranchCompleted .. => "host.cleanup_branch_completed"
  | .operationAccepted .. => "operation.accepted"
  | .operationSettled .. => "operation.settled"
  | .operationFailed .. => "operation.failed"
  | .operationCancelled .. => "operation.cancelled"
  | .operationUncertain .. => "operation.uncertain"
  | .providerInputAccepted .. => "provider_input.accepted"
  | .providerQuestionPresented .. => "provider_input.question_presented"
  | .providerApprovalPresented .. => "provider_input.approval_presented"
  | .providerWaitSettled .. => "provider_input.wait_settled"
  | .providerInputDelivered .. => "provider_input.delivered"
  | .browser .. => "browser.fact"
  | .purged => "event.purged"

/-- `EventDocument`, L1389-1394 -/
structure EventDocument where
  schemaVersion : ℕ
  body : EventBody

/-! ## Encoding -/

/-- The body of `From<&Event> for EventDocument` (L1398-1700). -/
def EventBody.ofEvent : Event → EventBody
  | .taskCreated task connectivity attention activity reviewReadiness =>
    .taskCreated { task, connectivity, attention, activity, reviewReadiness }
  | .taskRenamed title =>
    .taskRenamed { title }
  | .taskAttentionSet attention =>
    .taskAttentionSet { attention }
  | .taskCloseBegun actionEpoch =>
    .taskCloseBegun { actionEpoch }
  | .taskSettled => .taskSettled {}
  | .taskReopened => .taskReopened {}
  | .taskArchived => .taskArchived {}
  | .taskDeleted => .taskDeleted {}
  | .agentSessionRegistered agent =>
    .agentSessionRegistered { agent }
  | .agentProviderSessionBound agentSessionId resourceId providerSessionId runtimeGeneration =>
    .agentProviderSessionBound { agentSessionId, resourceId, providerSessionId, runtimeGeneration }
  | .agentProviderSessionAbandoned agentSessionId abandonedProviderSessionId runtimeGeneration =>
    .agentProviderSessionAbandoned { agentSessionId, abandonedProviderSessionId, runtimeGeneration }
  | .primaryAgentSet agentSessionId =>
    .primaryAgentSet { agentSessionId }
  | .unstartedPrimaryProviderRebound agentSessionId providerKind =>
    .unstartedPrimaryProviderRebound { agentSessionId, providerKind }
  | .specialistRequested fact => .specialistRequested { fact with }
  | .primaryPromoted previous promoted actionEpoch runtimeGeneration =>
    .primaryPromoted { previous, promoted, actionEpoch, runtimeGeneration }
  | .specialistHandoffRecorded fact => .specialistHandoffRecorded { fact with }
  | .specialistClosed specialistId actionEpoch runtimeGeneration =>
    .specialistClosed { specialistId, actionEpoch, runtimeGeneration }
  | .artifactRegistered artifact =>
    .artifactRegistered { artifact }
  | .resourceRegistered resource =>
    .resourceRegistered { resource }
  | .resourceReleaseBegun resourceId runtimeGeneration =>
    .resourceReleaseBegun { resourceId, runtimeGeneration }
  | .resourceReleased resourceId runtimeGeneration =>
    .resourceReleased { resourceId, runtimeGeneration }
  | .terminalRenamed resourceId title =>
    .terminalRenamed { resourceId, title }
  | .terminalCwdReported resourceId cwd =>
    .terminalCwdReported { resourceId, cwd }
  | .terminalExited resourceId code summary =>
    .terminalExited { resourceId, code, summary }
  | .terminalActivity resourceId =>
    .terminalActivity { resourceId }
  | .taskTerminalStripSet strip =>
    .taskTerminalStripSet { strip }
  | .hostCloseBegun operationId actionEpoch inspectionId =>
    .hostCloseBegun { operationId, actionEpoch, inspectionId }
  | .hostCleanupBranchCompleted operationId actionEpoch branch outcome =>
    .hostCleanupBranchCompleted { operationId, actionEpoch, branch, outcome }
  | .operationAccepted fact => .operationAccepted fact
  | .operationSettled fact => .operationSettled fact
  | .operationFailed fact => .operationFailed fact
  | .operationCancelled fact => .operationCancelled fact
  | .operationUncertain fact => .operationUncertain fact
  | .providerInputAccepted fact => .providerInputAccepted { fact with }
  | .providerQuestionPresented fact => .providerQuestionPresented { fact with }
  | .providerApprovalPresented fact => .providerApprovalPresented { fact with }
  | .providerWaitSettled fence =>
    .providerWaitSettled { fence }
  | .providerInputDelivered fact => .providerInputDelivered { fact with }
  | .browser fact => .browser fact
  | .purged => .purged {}

/-- `From<&Event> for EventDocument`, L1396-1706 -/
def EventDocument.ofEvent (event : Event) : EventDocument where
  schemaVersion := eventSchemaVersion
  body := .ofEvent event

/-! ## Decoding -/

section Decode

variable [Externals]

/-- `validated`, L536-540 -/
def TaskRenamedPayload.validated (title : String) :
    Except TaskValidationError TaskRenamedPayload := do
  let title ← TaskFacts.canonicalizeTitle title
  pure { title }

/-- The arms of `TryFrom<EventDocument> for Event` (L1717-2010). -/
def EventBody.toEvent : EventBody → Except EventSerdeError Event
  | .taskCreated p => do
    mapErr p.task.validateForCreate fun _ => .payload
    pure (.taskCreated p.task p.connectivity p.attention p.activity p.reviewReadiness)
  | .taskRenamed p => do
    let payload ← mapErr (TaskRenamedPayload.validated p.title) fun _ => .payload
    pure (.taskRenamed payload.title)
  | .taskAttentionSet p => pure (.taskAttentionSet p.attention)
  | .taskCloseBegun p => pure (.taskCloseBegun p.actionEpoch)
  | .taskSettled _ => pure .taskSettled
  | .taskReopened _ => pure .taskReopened
  | .taskArchived _ => pure .taskArchived
  | .taskDeleted _ => pure .taskDeleted
  | .agentSessionRegistered p => do
    mapErr p.agent.validateForRegistration fun _ => .payload
    pure (.agentSessionRegistered p.agent)
  | .agentProviderSessionBound p =>
    pure (.agentProviderSessionBound p.agentSessionId p.resourceId p.providerSessionId
      p.runtimeGeneration)
  | .agentProviderSessionAbandoned p =>
    pure (.agentProviderSessionAbandoned p.agentSessionId p.abandonedProviderSessionId
      p.runtimeGeneration)
  | .primaryAgentSet p => pure (.primaryAgentSet p.agentSessionId)
  | .unstartedPrimaryProviderRebound p =>
    pure (.unstartedPrimaryProviderRebound p.agentSessionId p.providerKind)
  | .specialistRequested p => do
    mapErr p.validate fun _ => .payload
    pure (.specialistRequested { p with })
  | .primaryPromoted p => do
    mapErr p.validate fun _ => .payload
    pure (.primaryPromoted p.previous p.promoted p.actionEpoch p.runtimeGeneration)
  | .specialistHandoffRecorded p => do
    mapErr p.validate fun _ => .payload
    pure (.specialistHandoffRecorded { p with })
  | .specialistClosed p => pure (.specialistClosed p.specialistId p.actionEpoch p.runtimeGeneration)
  | .artifactRegistered p => do
    mapErr p.artifact.validate fun _ => .payload
    pure (.artifactRegistered p.artifact)
  | .resourceRegistered p => do
    mapErr p.resource.validate fun _ => .payload
    failIf (p.resource.ownerKind ≠ .task ∨ p.resource.lifecycle ≠ .active) .payload
    pure (.resourceRegistered p.resource)
  | .resourceReleaseBegun p => pure (.resourceReleaseBegun p.resourceId p.runtimeGeneration)
  | .resourceReleased p => pure (.resourceReleased p.resourceId p.runtimeGeneration)
  | .terminalRenamed p => do
    mapErr (validateTerminalTitle p.title) fun _ => .payload
    pure (.terminalRenamed p.resourceId p.title)
  | .terminalCwdReported p => do
    failIf (¬ Externals.isAbsolute p.cwd) .payload
    pure (.terminalCwdReported p.resourceId p.cwd)
  | .terminalExited p => pure (.terminalExited p.resourceId p.code p.summary)
  | .terminalActivity p => pure (.terminalActivity p.resourceId)
  | .taskTerminalStripSet p => pure (.taskTerminalStripSet p.strip)
  | .hostCloseBegun p => pure (.hostCloseBegun p.operationId p.actionEpoch p.inspectionId)
  | .hostCleanupBranchCompleted p =>
    pure (.hostCleanupBranchCompleted p.operationId p.actionEpoch p.branch p.outcome)
  | .operationAccepted fact => pure (.operationAccepted fact)
  | .operationSettled fact => pure (.operationSettled fact)
  | .operationFailed fact => pure (.operationFailed fact)
  | .operationCancelled fact => pure (.operationCancelled fact)
  | .operationUncertain fact => pure (.operationUncertain fact)
  | .providerInputAccepted p => do
    failIf p.delivery.isDelivered .payload
    mapErr (validateProviderFence {
      commandId := some p.commandId
      taskId := none
      agentSessionId := p.agentSessionId
      providerKind := some p.providerKind
      providerSessionId := p.providerSessionId
      operationId := some p.operationId
      runtimeGeneration := p.runtimeGeneration
      actionEpoch := p.actionEpoch
      turnId := p.turnId
      questionId := p.questionId
      approvalId := p.approvalId } (some p.action) (some p.wait) none) fun _ => .payload
    pure (.providerInputAccepted { p with })
  | .providerQuestionPresented p => do
    mapErr (validateProviderFence {
      commandId := none
      taskId := none
      agentSessionId := p.agentSessionId
      providerKind := some p.providerKind
      providerSessionId := some p.providerSessionId
      operationId := none
      runtimeGeneration := p.runtimeGeneration
      actionEpoch := p.actionEpoch
      turnId := p.turnId
      questionId := some p.questionId
      approvalId := none } none none none) fun _ => .payload
    pure (.providerQuestionPresented { p with })
  | .providerApprovalPresented p => do
    mapErr (validateProviderFence {
      commandId := none
      taskId := none
      agentSessionId := p.agentSessionId
      providerKind := some p.providerKind
      providerSessionId := some p.providerSessionId
      operationId := none
      runtimeGeneration := p.runtimeGeneration
      actionEpoch := p.actionEpoch
      turnId := p.turnId
      questionId := none
      approvalId := some p.approvalId } none none none) fun _ => .payload
    pure (.providerApprovalPresented { p with })
  | .providerWaitSettled p => do
    mapErr (validateProviderFence p.fence.identity none none none) fun _ => .payload
    pure (.providerWaitSettled p.fence)
  | .providerInputDelivered p => do
    mapErr (validateProviderFence {
      commandId := some p.commandId
      taskId := none
      agentSessionId := p.agentSessionId
      providerKind := some p.providerKind
      providerSessionId := p.providerSessionId
      operationId := some p.operationId
      runtimeGeneration := p.runtimeGeneration
      actionEpoch := p.actionEpoch
      turnId := p.turnId
      questionId := p.questionId
      approvalId := p.approvalId } none none none) fun _ => .payload
    pure (.providerInputDelivered { p with })
  | .browser fact => pure (.browser fact)
  | .purged _ => pure .purged

/-- `try_from`, L1708-2012 -/
def EventDocument.tryFrom (value : EventDocument) : Except EventSerdeError Event := do
  failIf (value.schemaVersion ≠ eventSchemaVersion) (.unsupportedSchemaVersion value.schemaVersion)
  value.body.toEvent

/-! ## Valid events -/

/-- What a request for a specialist must be to leave and enter the journal. -/
structure SpecialistRequestedFact.Valid (fact : SpecialistRequestedFact) : Prop where
  purpose : Canonical.isBoundedCanonical fact.purpose = true
  agent : fact.agent.id = fact.specialistId
  requester : fact.requestedBy ≠ fact.specialistId
  role : fact.agent.role.isSpecialist = true
  generation : fact.agent.runtimeGeneration = fact.runtimeGeneration
  permission : fact.permission = .readOnly
  registration : fact.agent.validateForRegistration = .ok ()
  workspace : fact.workspace.validate = .ok ()

/-- What a handoff must be: a review report with bounded inline text of the recorded digest,
which holds a specialist result when it is marked as structured. -/
structure SpecialistHandoffFact.Valid (fact : SpecialistHandoffFact) : Prop where
  artifact : fact.artifact.validate = .ok ()
  kind : fact.artifact.kind = .reviewReport
  digest : verifyInlineContentDigest fact.artifact = .ok ()
  inline : ∃ body, fact.artifact.contentRef = .inlineUtf8 body ∧
    body.utf8ByteSize ≤ maxSpecialistRawArtifactBytes
  result : fact.structured = true → ∃ result, structuredSpecialistResult fact.artifact = .ok result

/-- What an accepted input must be: not yet delivered, of a session unless it is for Codex,
with the nested ids and the wait flag of its action. -/
structure ProviderInputAcceptedFact.Valid (fact : ProviderInputAcceptedFact) : Prop where
  delivery : fact.delivery.isDelivered = false
  session : fact.providerSessionId = none → fact.providerKind = .codex
  nested : validateActionNestedIds fact.action fact.questionId fact.approvalId = .ok ()
  wait : fact.wait = fact.action.waitsForTurn

/-- The events that the constructors and the decoder of the journal let through, by what they
ask of the fields of the event. -/
def Event.Valid : Event → Prop
  | .taskCreated task .. => task.validateForCreate = .ok ()
  | .taskRenamed title => Canonical.isCanonical title = true
  | .agentSessionRegistered agent => agent.validateForRegistration = .ok ()
  | .specialistRequested fact => fact.Valid
  | .primaryPromoted previous promoted .. => previous ≠ promoted
  | .specialistHandoffRecorded fact => fact.Valid
  | .artifactRegistered artifact => artifact.validate = .ok ()
  | .resourceRegistered resource =>
    resource.validate = .ok () ∧ resource.ownerKind = .task ∧ resource.lifecycle = .active
  | .terminalRenamed _ title => validateTerminalTitle title = .ok ()
  | .terminalCwdReported _ cwd => Externals.isAbsolute cwd = true
  | .providerInputAccepted fact => fact.Valid
  | .providerWaitSettled fence => fence.identity.WellFormed
  | .providerInputDelivered fact =>
    (fact.providerSessionId = none → fact.providerKind = .codex) ∧
      ¬ (fact.questionId.isSome = true ∧ fact.approvalId.isSome = true)
  | _ => True

/-! ## Round trips -/

section RoundTrip

variable {e : Event} {body : EventBody}

-- on a constructor both translations compute, so their equations simplify in this section
attribute [local simp] EventBody.ofEvent EventBody.toEvent

open EventBody (ofEvent toEvent)

theorem toEvent_specialistRequested {fact : SpecialistRequestedFact} :
    (ofEvent (.specialistRequested fact)).toEvent = .ok (.specialistRequested fact) ↔
      fact.Valid := by
  simp only [ofEvent, toEvent, SpecialistRequestedPayload.validate, ok_iff, not_or, and_true]
  constructor
  · rintro ⟨hpurpose, ⟨hagent, hreq, hrole, hgen, hperm⟩, hreg, hws⟩
    exact ⟨hpurpose, hagent, hreq, hrole, hgen, hperm, hreg, hws⟩
  · intro h
    exact ⟨h.purpose, ⟨h.agent, h.requester, h.role, h.generation, h.permission⟩, h.registration,
      h.workspace⟩

theorem toEvent_specialistHandoffRecorded {fact : SpecialistHandoffFact} :
    (ofEvent (.specialistHandoffRecorded fact)).toEvent =
        .ok (.specialistHandoffRecorded fact) ↔ fact.Valid := by
  simp only [ofEvent, toEvent, SpecialistHandoffRecordedPayload.validate,
    ok_iff, not_or, and_true, isOk_eq_true]
  constructor
  · rintro ⟨hvalid, ⟨hkind, hdigest⟩, hinline, hres⟩
    refine ⟨hvalid, hkind, hdigest, ?_, fun hstruct => ?_⟩
    · cases hbody : fact.artifact.contentRef with
      | inlineUtf8 body =>
        rw [hbody, failIf_eq_ok, gt_iff_lt, not_lt] at hinline
        exact ⟨body, rfl, hinline⟩
      | contentAddressed digest =>
        rw [hbody] at hinline
        cases hinline
    · rw [if_pos hstruct, bind_eq_ok] at hres
      obtain ⟨result, h, -⟩ := hres
      exact ⟨result, mapErr_eq_ok.mp h⟩
  · rintro ⟨hvalid, hkind, hdigest, ⟨body, hbody, hbound⟩, hres⟩
    refine ⟨hvalid, ⟨hkind, hdigest⟩, ?_, ?_⟩
    · rw [hbody, failIf_eq_ok, gt_iff_lt, not_lt]
      exact hbound
    · split_ifs with hstruct
      · obtain ⟨result, h⟩ := hres hstruct
        rw [bind_eq_ok]
        exact ⟨result, mapErr_eq_ok.mpr h, rfl⟩
      · rfl

theorem toEvent_providerInputAccepted {fact : ProviderInputAcceptedFact} :
    (ofEvent (.providerInputAccepted fact)).toEvent = .ok (.providerInputAccepted fact) ↔
      fact.Valid := by
  simp only [ofEvent, toEvent, ok_iff, and_true, validateProviderFence_some,
    validateProviderFence_bare]
  constructor
  · rintro ⟨hdel, hfence, hnested, hwait, -⟩
    obtain ⟨k, hk, hsess⟩ := hfence.kind
    cases hk
    exact ⟨by simpa using hdel, hsess, hnested, hwait⟩
  · rintro ⟨hdel, hsess, hnested, hwait⟩
    refine ⟨by simp [hdel], ?_, hnested, hwait, rfl⟩
    exact ⟨⟨_, rfl, hsess⟩, fun _ => rfl, not_both_of_validateActionNestedIds hnested⟩

theorem toEvent_providerInputDelivered {fact : ProviderInputDeliveredFact} :
    (ofEvent (.providerInputDelivered fact)).toEvent =
        .ok (.providerInputDelivered fact) ↔
      (fact.providerSessionId = none → fact.providerKind = .codex) ∧
        ¬ (fact.questionId.isSome = true ∧ fact.approvalId.isSome = true) := by
  simp only [ofEvent, toEvent, ok_iff, and_true, validateProviderFence_bare]
  constructor
  · intro hfence
    obtain ⟨k, hk, hsess⟩ := hfence.kind
    cases hk
    exact ⟨hsess, hfence.nested⟩
  · rintro ⟨hsess, hnested⟩
    exact ⟨⟨_, rfl, hsess⟩, fun _ => rfl, hnested⟩

theorem toEvent_providerQuestionPresented {fact : ProviderQuestionPresentedFact} :
    (ofEvent (.providerQuestionPresented fact)).toEvent =
      .ok (.providerQuestionPresented fact) := by
  simp only [ofEvent, toEvent, ok_iff, and_true, validateProviderFence_bare]
  exact ⟨⟨_, rfl, by simp⟩, by simp, by simp⟩

theorem toEvent_providerApprovalPresented {fact : ProviderApprovalPresentedFact} :
    (ofEvent (.providerApprovalPresented fact)).toEvent =
      .ok (.providerApprovalPresented fact) := by
  simp only [ofEvent, toEvent, ok_iff, and_true, validateProviderFence_bare]
  exact ⟨⟨_, rfl, by simp⟩, by simp, by simp⟩

theorem toEvent_ofEvent : (ofEvent e).toEvent = .ok e ↔ e.Valid := by
  cases e with
  | taskCreated | agentSessionRegistered | artifactRegistered | terminalRenamed =>
    simp only [ofEvent, toEvent, ok_iff, and_true, Event.Valid]
  | taskRenamed title =>
    simp only [ofEvent, toEvent, TaskRenamedPayload.validated, ok_iff,
      Event.Valid, ← TaskFacts.canonicalizeTitle_eq_self]
    constructor
    · rintro ⟨payload, ⟨canonical, h, rfl⟩, heq⟩
      cases heq
      exact h
    · intro h
      exact ⟨_, ⟨title, h, rfl⟩, rfl⟩
  | specialistRequested => exact toEvent_specialistRequested
  | primaryPromoted previous promoted actionEpoch runtimeGeneration =>
    simp only [ofEvent, toEvent, PrimaryPromotedPayload.validate, ok_iff, and_true, Event.Valid]
  | specialistHandoffRecorded => exact toEvent_specialistHandoffRecorded
  | resourceRegistered resource =>
    simp only [ofEvent, toEvent, ok_iff, and_true, Event.Valid, not_or]
  | terminalCwdReported resourceId cwd =>
    simp only [ofEvent, toEvent, ok_iff, and_true, Event.Valid]
  | providerInputAccepted => exact toEvent_providerInputAccepted
  | providerQuestionPresented => exact iff_of_true toEvent_providerQuestionPresented trivial
  | providerApprovalPresented => exact iff_of_true toEvent_providerApprovalPresented trivial
  | providerWaitSettled fence =>
    simp only [ofEvent, toEvent, ok_iff, and_true, Event.Valid, validateProviderFence_bare]
  | providerInputDelivered => exact toEvent_providerInputDelivered
  | _ => exact iff_of_true rfl trivial

omit [Externals] in
theorem eventType_ofEvent (e : Event) : (ofEvent e).eventType = e.eventType := by
  cases e <;> rfl

theorem tryFrom_eq_ok {document : EventDocument} :
    document.tryFrom = .ok e ↔
      document.schemaVersion = eventSchemaVersion ∧ document.body.toEvent = .ok e := by
  simp only [EventDocument.tryFrom, ok_iff]

/-- For every event, its document decodes to the same event iff the event is valid, and the
document carries the tag of the event. -/
theorem document_round_trip (e : Event) : ((EventDocument.ofEvent e).tryFrom = .ok e ↔ e.Valid) ∧
      (EventDocument.ofEvent e).body.eventType = e.eventType := by
  refine ⟨?_, eventType_ofEvent e⟩
  rw [tryFrom_eq_ok, ← toEvent_ofEvent]
  exact and_iff_right rfl

theorem ofEvent_of_toEvent (h : body.toEvent = .ok e) :
    ofEvent e = body ∨ ∃ title canonical,
      body = .taskRenamed ⟨title⟩ ∧ e = .taskRenamed canonical ∧
        TaskFacts.canonicalizeTitle title = .ok canonical := by
  cases body with
  | taskRenamed payload =>
    simp only [toEvent, TaskRenamedPayload.validated, ok_iff] at h
    obtain ⟨payload', ⟨canonical, hcan, rfl⟩, rfl⟩ := h
    exact .inr ⟨payload.title, canonical, rfl, rfl, hcan⟩
  | _ =>
    simp only [toEvent, ok_iff] at h
    aesop

/-- What a document decodes to is a valid event, whose own document has the same tag and decodes to
that event. -/
theorem tryFrom_stable {document : EventDocument} (h : document.tryFrom = .ok e) :
    e.Valid ∧ (EventDocument.ofEvent e).body.eventType = document.body.eventType ∧
      (EventDocument.ofEvent e).tryFrom = .ok e := by
  obtain ⟨-, hbody⟩ := tryFrom_eq_ok.mp h
  have hvalid : e.Valid ∧ (ofEvent e).eventType = document.body.eventType := by
    rcases ofEvent_of_toEvent hbody with hsame | ⟨title, canonical, hfrom, rfl, hcan⟩
    · rw [← hsame] at hbody
      exact ⟨toEvent_ofEvent.mp hbody, by rw [hsame]⟩
    · have hstable := TaskFacts.canonicalizeTitle_canonical hcan
      exact ⟨TaskFacts.canonicalizeTitle_eq_self.mp hstable, by rw [hfrom]; rfl⟩
  exact ⟨hvalid.1, hvalid.2, tryFrom_eq_ok.mpr ⟨rfl, toEvent_ofEvent.mpr hvalid.1⟩⟩

/-- A title with blanks around it. -/
def renamedDocument : EventDocument := ⟨eventSchemaVersion, .taskRenamed ⟨" title "⟩⟩

omit [Externals] in
theorem tryFrom_stable_renamed : (EventDocument.ofEvent (.taskRenamed "title")).body.eventType =
      renamedDocument.body.eventType ∧
    @EventDocument.tryFrom sampleExternals (EventDocument.ofEvent (.taskRenamed "title")) =
      .ok (.taskRenamed "title") :=
  (@tryFrom_stable sampleExternals (.taskRenamed "title") renamedDocument rfl).2

end RoundTrip

end Decode

end DevManager
