import DevManager.Domain.PayloadWire

/-!
# Stored payloads (`src/kernel/store.rs`, `src/domain/event.rs`)

The `payload` column of the `events` table holds the MessagePack of one payload
struct. MessagePack of a wire value is the class `RmpSerde`; what the source's
serializers and deserializers do around it is written out, by the type of the
payload.

* `Event.reads_durable`: the payload of a valid event is read back as the payload of
  its durable form.
-/

namespace DevManager

/-! ## Operation facts (`event.rs`) -/

variable (commandId : CommandId) (operationId : OperationId)

/-- `new`, `event.rs:64-81` -/
def OperationAcceptedFact.new
    (acceptedAtMs : ℤ) (actionEpoch : Option ℕ) (resourceId : Option ResourceId)
    (runtimeGeneration : Option ℕ) : Except OutcomeFenceError OperationAcceptedFact := do
  validateOutcomeFence resourceId runtimeGeneration
  pure { commandId, operationId, acceptedAtMs, actionEpoch, resourceId, runtimeGeneration }

variable (settledAtMs : ℤ)

/-- `with_source`, `event.rs:249-272` -/
def OperationSettledFact.withSource (resultEventIds : List EventId) (actionEpoch : Option ℕ)
    (resourceId : Option ResourceId) (runtimeGeneration : Option ℕ) (source : OutcomeSource) :
    Except OutcomeFenceError OperationSettledFact := do
  validateOutcomeFence resourceId runtimeGeneration
  validateTerminalFactSource source
  pure {
    commandId, operationId, settledAtMs, resultEventIds, actionEpoch, resourceId, runtimeGeneration,
    source }

/-- `with_source`, `event.rs:302-325` -/
def OperationFailedFact.withSource (code : OperationErrorCode) (actionEpoch : Option ℕ)
    (resourceId : Option ResourceId) (runtimeGeneration : Option ℕ) (source : OutcomeSource) :
    Except OutcomeFenceError OperationFailedFact := do
  validateOutcomeFence resourceId runtimeGeneration
  validateTerminalFactSource source
  pure {
    commandId, operationId, settledAtMs, code, actionEpoch, resourceId, runtimeGeneration, source }

/-- `new`, `event.rs:334-353` -/
def OperationCancelledFact.new (reason : CancellationReason) (actionEpoch : Option ℕ)
    (resourceId : Option ResourceId) (runtimeGeneration : Option ℕ) :
    Except OutcomeFenceError OperationCancelledFact := do
  validateOutcomeFence resourceId runtimeGeneration
  pure { commandId, operationId, settledAtMs, reason, actionEpoch, resourceId, runtimeGeneration }

/-- `new`, `event.rs:361-380` -/
def OperationUncertainFact.new
    (observedAtMs : ℤ) (code : OperationUncertaintyCode) (actionEpoch : Option ℕ)
    (resourceId : Option ResourceId) (runtimeGeneration : Option ℕ) :
    Except OutcomeFenceError OperationUncertainFact := do
  validateOutcomeFence resourceId runtimeGeneration
  pure { commandId, operationId, observedAtMs, code, actionEpoch, resourceId, runtimeGeneration }

/-- `deserialize`, `operation.rs:257-275` -/
def OutcomeSource.deserialize : OutcomeSource → Except SerdeError OutcomeSource
  | .dispatch => .ok .dispatch
  | .verifiedReconciliation effectIndex externalIdentity => do
    customErr (requireCanonicalExternalIdentity externalIdentity) .outcome
    pure (.verifiedReconciliation effectIndex externalIdentity)

/-- `serialize`, `operation.rs:240-255` -/
def OutcomeSource.serialize (source : OutcomeSource) : Except SerdeError OutcomeSource := do
  customErr source.validate .outcome
  pure source

/-! ## The types of payloads -/

/-- The payload structs of the `events` table. -/
inductive PayloadType
  | taskCreated | taskRenamed | taskAttentionSet | taskCloseBegun | taskUnit
  | agentSessionRegistered | agentProviderSessionBound | agentProviderSessionAbandoned
  | primaryAgentSet | unstartedPrimaryProviderRebound | specialistRequested | primaryPromoted
  | specialistHandoffRecorded | specialistClosed | artifactRegistered | resourceRegistered
  | resourceReleaseBegun | resourceReleased | terminalRenamed | terminalCwdReported
  | terminalExited | terminalActivity | taskTerminalStripSet | hostCloseBegun
  | hostCleanupBranchCompleted | operationAccepted | operationSettled | operationFailed
  | operationCancelled | operationUncertain | providerInputAccepted | providerQuestionPresented
  | providerApprovalPresented | providerWaitSettled | providerInputDelivered | browserFact

/-- `TaskCreatedPayload` on the wire (`event.rs:519-527`). -/
structure TaskCreatedPayloadWire where
  task : TaskFactsWire
  connectivity : TaskConnectivity
  attention : TaskAttention
  activity : TaskActivity
  reviewReadiness : ReviewReadiness

/-- `SpecialistRequestedPayloadWire`, `event.rs:824-835` -/
structure SpecialistRequestedPayloadWire where
  specialistId : AgentSessionId
  requestedBy : AgentSessionId
  purpose : String
  agent : AgentSessionFacts
  permission : SpecialistPermission
  workspace : WorkspaceRefWire
  actionEpoch : ℕ
  runtimeGeneration : ℕ
  resourceId : Option ResourceId

/-- `ProviderInputAcceptedPayload` on the wire (`event.rs:670-687`). -/
structure ProviderInputAcceptedPayloadWire where
  commandId : CommandId
  clientId : ClientId
  operationId : OperationId
  agentSessionId : AgentSessionId
  providerKind : ProviderKind
  providerSessionId : Option ProviderSessionId
  runtimeGeneration : ℕ
  turnId : TurnId
  actionEpoch : ℕ
  questionId : Option QuestionId
  approvalId : Option ApprovalId
  action : ProviderInputActionWire
  wait : Bool
  delivery : ProviderDeliveryVisibility

namespace PayloadType

/-- The struct of a payload type. -/
@[reducible] def Struct : PayloadType → Type
  | taskCreated => TaskCreatedPayload
  | taskRenamed => TaskRenamedPayload
  | taskAttentionSet => TaskAttentionSetPayload
  | taskCloseBegun => TaskCloseBegunPayload
  | taskUnit => TaskUnitPayload
  | agentSessionRegistered => AgentSessionRegisteredPayload
  | agentProviderSessionBound => AgentProviderSessionBoundPayload
  | agentProviderSessionAbandoned => AgentProviderSessionAbandonedPayload
  | primaryAgentSet => PrimaryAgentSetPayload
  | unstartedPrimaryProviderRebound => UnstartedPrimaryProviderReboundPayload
  | specialistRequested => SpecialistRequestedPayload
  | primaryPromoted => PrimaryPromotedPayload
  | specialistHandoffRecorded => SpecialistHandoffRecordedPayload
  | specialistClosed => SpecialistClosedPayload
  | artifactRegistered => ArtifactRegisteredPayload
  | resourceRegistered => ResourceRegisteredPayload
  | resourceReleaseBegun => ResourceReleaseBegunPayload
  | resourceReleased => ResourceReleasedPayload
  | terminalRenamed => TerminalRenamedPayload
  | terminalCwdReported => TerminalCwdReportedPayload
  | terminalExited => TerminalExitedPayload
  | terminalActivity => TerminalActivityPayload
  | taskTerminalStripSet => TaskTerminalStripSetPayload
  | hostCloseBegun => HostCloseBegunPayload
  | hostCleanupBranchCompleted => HostCleanupBranchCompletedPayload
  | operationAccepted => OperationAcceptedFact
  | operationSettled => OperationSettledFact
  | operationFailed => OperationFailedFact
  | operationCancelled => OperationCancelledFact
  | operationUncertain => OperationUncertainFact
  | providerInputAccepted => ProviderInputAcceptedPayload
  | providerQuestionPresented => ProviderQuestionPresentedPayload
  | providerApprovalPresented => ProviderApprovalPresentedPayload
  | providerWaitSettled => ProviderWaitSettledPayload
  | providerInputDelivered => ProviderInputDeliveredPayload
  | browserFact => BrowserDurableFact

/-- What MessagePack is given of a payload: its struct, or one with the wire forms of the values
that have their own. -/
@[reducible] def Wire : PayloadType → Type
  | taskCreated => TaskCreatedPayloadWire
  | specialistRequested => SpecialistRequestedPayloadWire
  | resourceRegistered => ResourceFactsWire
  | providerInputAccepted => ProviderInputAcceptedPayloadWire
  | t => t.Struct

end PayloadType

/-! ## Serializers and deserializers -/

section Serde

variable [Externals]

/-- `Serialize` of a payload. Where it is derived, the serializers of its fields are what can
refuse it. -/
def PayloadType.serialize : (t : PayloadType) → t.Struct → Except SerdeError t.Wire
  | .taskCreated => fun p => do
    let task ← p.task.serialize
    pure { p with task }
  | .taskRenamed => .ok
  | .taskAttentionSet => .ok
  | .taskCloseBegun => .ok
  | .taskUnit => .ok
  | .agentSessionRegistered => .ok
  | .agentProviderSessionBound => .ok
  | .agentProviderSessionAbandoned => .ok
  | .primaryAgentSet => .ok
  | .unstartedPrimaryProviderRebound => .ok
  -- `event.rs:821-849`
  | .specialistRequested => fun p => do
    customErr p.validate .text
    let workspace ← p.workspace.serialize
    pure { p with workspace }
  -- `event.rs:901-920`
  | .primaryPromoted => fun p => do
    customErr p.validate .text
    pure p
  -- `event.rs:991-1011`
  | .specialistHandoffRecorded => fun p => do
    customErr p.validate .text
    pure p
  | .specialistClosed => .ok
  | .artifactRegistered => .ok
  | .resourceRegistered => fun p => .ok p.resource.wire
  | .resourceReleaseBegun => .ok
  | .resourceReleased => .ok
  | .terminalRenamed => .ok
  | .terminalCwdReported => .ok
  | .terminalExited => .ok
  | .terminalActivity => .ok
  | .taskTerminalStripSet => .ok
  | .hostCloseBegun => .ok
  | .hostCleanupBranchCompleted => .ok
  -- `event.rs:99-111, 387-501`
  | .operationAccepted => fun fact => do
    customErr fact.validate .outcome
    pure fact
  | .operationSettled => fun fact => do
    customErr fact.validate .outcome
    let source ← fact.source.serialize
    pure { fact with source }
  | .operationFailed => fun fact => do
    customErr fact.validate .outcome
    let source ← fact.source.serialize
    pure { fact with source }
  | .operationCancelled => fun fact => do
    customErr fact.validate .outcome
    pure fact
  | .operationUncertain => fun fact => do
    customErr fact.validate .outcome
    pure fact
  | .providerInputAccepted => fun p => .ok { p with action := p.action.wire }
  | .providerQuestionPresented => .ok
  | .providerApprovalPresented => .ok
  | .providerWaitSettled => .ok
  | .providerInputDelivered => .ok
  | .browserFact => .ok

/-- `Deserialize` of a payload. -/
def PayloadType.deserialize : (t : PayloadType) → t.Wire → Except SerdeError t.Struct
  | .taskCreated => fun wire => do
    let task ← wire.task.deserialize
    pure { wire with task }
  | .taskRenamed => .ok
  | .taskAttentionSet => .ok
  | .taskCloseBegun => .ok
  | .taskUnit => .ok
  | .agentSessionRegistered => fun wire => do
    let agent ← wire.agent.deserialize
    pure { agent }
  | .agentProviderSessionBound => .ok
  | .agentProviderSessionAbandoned => .ok
  | .primaryAgentSet => .ok
  | .unstartedPrimaryProviderRebound => .ok
  -- `event.rs:851-881`
  | .specialistRequested => fun wire => do
    let agent ← wire.agent.deserialize
    let workspace ← wire.workspace.deserialize
    let payload : SpecialistRequestedPayload := { wire with agent, workspace }
    customErr payload.validate .text
    pure payload
  -- `event.rs:922-943`
  | .primaryPromoted => fun wire => do
    customErr wire.validate .text
    pure wire
  -- `event.rs:1013-1035`
  | .specialistHandoffRecorded => fun wire => do
    let artifact ← wire.artifact.deserialize
    let payload : SpecialistHandoffRecordedPayload := { wire with artifact }
    customErr payload.validate .text
    pure payload
  | .specialistClosed => .ok
  | .artifactRegistered => fun wire => do
    let artifact ← wire.artifact.deserialize
    pure { artifact }
  | .resourceRegistered => fun wire => do
    let resource ← wire.deserialize
    pure { resource }
  | .resourceReleaseBegun => .ok
  | .resourceReleased => .ok
  | .terminalRenamed => .ok
  | .terminalCwdReported => .ok
  | .terminalExited => .ok
  | .terminalActivity => .ok
  | .taskTerminalStripSet => .ok
  | .hostCloseBegun => .ok
  | .hostCleanupBranchCompleted => .ok
  -- `event.rs:114-127, 404-517`
  | .operationAccepted => fun wire =>
    customErr (OperationAcceptedFact.new wire.commandId wire.operationId wire.acceptedAtMs
      wire.actionEpoch wire.resourceId wire.runtimeGeneration) .outcome
  | .operationSettled => fun wire => do
    let source ← wire.source.deserialize
    customErr (OperationSettledFact.withSource wire.commandId wire.operationId wire.settledAtMs
      wire.resultEventIds wire.actionEpoch wire.resourceId wire.runtimeGeneration source) .outcome
  | .operationFailed => fun wire => do
    let source ← wire.source.deserialize
    customErr (OperationFailedFact.withSource wire.commandId wire.operationId wire.settledAtMs
      wire.code wire.actionEpoch wire.resourceId wire.runtimeGeneration source) .outcome
  | .operationCancelled => fun wire =>
    customErr (OperationCancelledFact.new wire.commandId wire.operationId wire.settledAtMs
      wire.reason wire.actionEpoch wire.resourceId wire.runtimeGeneration) .outcome
  | .operationUncertain => fun wire =>
    customErr (OperationUncertainFact.new wire.commandId wire.operationId wire.observedAtMs
      wire.code wire.actionEpoch wire.resourceId wire.runtimeGeneration) .outcome
  | .providerInputAccepted => fun wire => do
    let action ← wire.action.deserialize
    pure { wire with action }
  | .providerQuestionPresented => .ok
  | .providerApprovalPresented => .ok
  | .providerWaitSettled => .ok
  | .providerInputDelivered => .ok
  | .browserFact => fun wire => wire.deserialize

end Serde

/-! ## The payload of an event -/

/-- The payload struct that `encode_event_payload` builds of an event (L1864-2149). -/
def Event.storedPayload : Event → (t : PayloadType) × t.Struct
  | .taskCreated task connectivity attention activity reviewReadiness =>
    ⟨.taskCreated, { task, connectivity, attention, activity, reviewReadiness }⟩
  | .taskRenamed title =>
    ⟨.taskRenamed, { title }⟩
  | .taskAttentionSet attention =>
    ⟨.taskAttentionSet, { attention }⟩
  | .taskCloseBegun actionEpoch =>
    ⟨.taskCloseBegun, { actionEpoch }⟩
  | .taskSettled => ⟨.taskUnit, {}⟩
  | .taskReopened => ⟨.taskUnit, {}⟩
  | .taskArchived => ⟨.taskUnit, {}⟩
  | .taskDeleted => ⟨.taskUnit, {}⟩
  | .agentSessionRegistered agent =>
    ⟨.agentSessionRegistered, { agent }⟩
  | .agentProviderSessionBound agentSessionId resourceId providerSessionId runtimeGeneration =>
    ⟨.agentProviderSessionBound, {
      agentSessionId, resourceId, providerSessionId, runtimeGeneration }⟩
  | .agentProviderSessionAbandoned agentSessionId abandonedProviderSessionId runtimeGeneration =>
    ⟨.agentProviderSessionAbandoned, {
      agentSessionId, abandonedProviderSessionId, runtimeGeneration }⟩
  | .primaryAgentSet agentSessionId =>
    ⟨.primaryAgentSet, { agentSessionId }⟩
  | .unstartedPrimaryProviderRebound agentSessionId providerKind =>
    ⟨.unstartedPrimaryProviderRebound, { agentSessionId, providerKind }⟩
  | .specialistRequested fact =>
    ⟨.specialistRequested, { fact with }⟩
  | .primaryPromoted previous promoted actionEpoch runtimeGeneration =>
    ⟨.primaryPromoted, { previous, promoted, actionEpoch, runtimeGeneration }⟩
  | .specialistHandoffRecorded fact =>
    ⟨.specialistHandoffRecorded, { fact with }⟩
  | .specialistClosed specialistId actionEpoch runtimeGeneration =>
    ⟨.specialistClosed, { specialistId, actionEpoch, runtimeGeneration }⟩
  | .artifactRegistered artifact =>
    ⟨.artifactRegistered, { artifact }⟩
  | .resourceRegistered resource =>
    ⟨.resourceRegistered, { resource }⟩
  | .resourceReleaseBegun resourceId runtimeGeneration =>
    ⟨.resourceReleaseBegun, { resourceId, runtimeGeneration }⟩
  | .resourceReleased resourceId runtimeGeneration =>
    ⟨.resourceReleased, { resourceId, runtimeGeneration }⟩
  | .terminalRenamed resourceId title =>
    ⟨.terminalRenamed, { resourceId, title }⟩
  | .terminalCwdReported resourceId cwd =>
    ⟨.terminalCwdReported, { resourceId, cwd }⟩
  | .terminalExited resourceId code summary =>
    ⟨.terminalExited, { resourceId, code, summary }⟩
  | .terminalActivity resourceId =>
    ⟨.terminalActivity, { resourceId }⟩
  | .taskTerminalStripSet strip =>
    ⟨.taskTerminalStripSet, { strip }⟩
  | .hostCloseBegun operationId actionEpoch inspectionId =>
    ⟨.hostCloseBegun, { operationId, actionEpoch, inspectionId }⟩
  | .hostCleanupBranchCompleted operationId actionEpoch branch outcome =>
    ⟨.hostCleanupBranchCompleted, { operationId, actionEpoch, branch, outcome }⟩
  | .operationAccepted fact => ⟨.operationAccepted, fact⟩
  | .operationSettled fact => ⟨.operationSettled, fact⟩
  | .operationFailed fact => ⟨.operationFailed, fact⟩
  | .operationCancelled fact => ⟨.operationCancelled, fact⟩
  | .operationUncertain fact => ⟨.operationUncertain, fact⟩
  | .providerInputAccepted fact =>
    ⟨.providerInputAccepted, { fact with }⟩
  | .providerQuestionPresented fact =>
    ⟨.providerQuestionPresented, { fact with }⟩
  | .providerApprovalPresented fact =>
    ⟨.providerApprovalPresented, { fact with }⟩
  | .providerWaitSettled fence =>
    ⟨.providerWaitSettled, { fence }⟩
  | .providerInputDelivered fact =>
    ⟨.providerInputDelivered, { fact with }⟩
  | .browser fact => ⟨.browserFact, fact⟩
  | .purged => ⟨.taskUnit, {}⟩

/-! ## What a payload is read back as -/

/-- An event with its workspace in durable form; only the creation of a task and the request of a
specialist have one. -/
def Event.durable : Event → Event
  | .taskCreated task connectivity attention activity reviewReadiness =>
    .taskCreated task.durable connectivity attention activity reviewReadiness
  | .specialistRequested fact =>
    .specialistRequested { fact with workspace := fact.workspace.durable }
  | event => event

/-- The workspace of the event, if it has one, is not named by its path alone. -/
def Event.Storable : Event → Prop
  | .taskCreated task .. => task.workspace.Storable
  | .specialistRequested fact => fact.workspace.Storable
  | _ => True

section Reads

variable [Externals] {e : Event}

/-- What the serializers ask of an event beyond `Event.Valid`. -/
def Event.Checked : Event → Prop
  | .browser fact => fact.Checked
  | .operationAccepted fact => fact.validate = .ok ()
  | .operationSettled fact => fact.validate = .ok ()
  | .operationFailed fact => fact.validate = .ok ()
  | .operationCancelled fact => fact.validate = .ok ()
  | .operationUncertain fact => fact.validate = .ok ()
  | _ => True

/-- The payload `p` is serialized, and what is written is deserialized to `q`. -/
def PayloadType.Reads (t : PayloadType) (p q : t.Struct) : Prop :=
  ∃ wire, t.serialize p = .ok wire ∧ t.deserialize wire = .ok q

omit [Externals] in
theorem OutcomeSource.deserialize_serialize {source : OutcomeSource}
    (h : source.validate = .ok ()) :
    source.serialize = .ok source ∧ source.deserialize = .ok source := by
  have hser : source.serialize = .ok source := by
    simp only [OutcomeSource.serialize, ok_iff, customErr_eq_ok, and_true]
    exact h
  refine ⟨hser, ?_⟩
  cases source with
  | dispatch => rfl
  | verifiedReconciliation effectIndex externalIdentity =>
    simp only [OutcomeSource.deserialize, ok_iff, customErr_eq_ok, and_true]
    exact h

open PayloadType (deserialize serialize)

theorem reads_specialistRequested {fact} (h : fact.Valid) (hstorable : fact.workspace.Storable) :
    PayloadType.Reads .specialistRequested (Event.specialistRequested fact).storedPayload.2
      (Event.specialistRequested
        { fact with workspace := fact.workspace.durable }).storedPayload.2 := by
  obtain ⟨workspace, hser, hdeser⟩ :=
    WorkspaceRef.deserialize_wire h.workspace hstorable
  have hagent := AgentSessionFacts.deserialize_self
    (AgentSessionFacts.validateForRegistration_eq_ok.mp h.registration).1
  have hdurable : SpecialistRequestedFact.Valid { fact with workspace := fact.workspace.durable } :=
    { h with workspace := WorkspaceRef.validate_durable h.workspace }
  have hval := toEvent_specialistRequested.mpr h
  have hvalidate' := toEvent_specialistRequested.mpr hdurable
  simp only [EventBody.ofEvent, EventBody.toEvent, ok_iff] at hval hvalidate'
  refine ⟨{ fact with workspace }, ?_, ?_⟩
  · simp only [serialize, Event.storedPayload, hser, ok_iff, customErr_eq_ok]
    exact ⟨hval.1, _, rfl, rfl⟩
  · simp only [deserialize, Event.storedPayload, hagent, hdeser, ok_bind, ok_iff,
      customErr_eq_ok, and_true]
    exact hvalidate'.1

theorem reads_specialistHandoffRecorded {fact} (h : fact.Valid) :
    PayloadType.Reads .specialistHandoffRecorded
      (Event.specialistHandoffRecorded fact).storedPayload.2
      (Event.specialistHandoffRecorded fact).storedPayload.2 := by
  have hval := toEvent_specialistHandoffRecorded.mpr h
  simp only [EventBody.ofEvent, EventBody.toEvent, bind_eq_ok, exists_unit, mapErr_eq_ok] at hval
  refine ⟨(Event.specialistHandoffRecorded fact).storedPayload.2, ?_, ?_⟩
  · simp only [serialize, Event.storedPayload, bind_eq_ok, exists_unit, customErr_eq_ok]
    exact ⟨hval.1, rfl⟩
  · simp only [deserialize, Event.storedPayload, ArtifactFacts.deserialize_self h.artifact, ok_bind,
      bind_eq_ok, exists_unit, customErr_eq_ok, pure_eq_ok, and_true]
    exact hval.1

theorem Event.reads_durable (hvalid : e.Valid) (hcheck : e.Checked) (hstorable : e.Storable) :
    ∃ q, e.durable.storedPayload = ⟨e.storedPayload.1, q⟩ ∧
      e.storedPayload.1.Reads e.storedPayload.2 q := by
  cases e with
  | taskCreated task connectivity attention activity reviewReadiness =>
    obtain ⟨hbody, -⟩ := TaskFacts.validateForCreate_eq_ok.mp hvalid
    obtain ⟨wire, hser, hdeser⟩ := TaskFacts.deserialize_wire hbody hstorable
    refine ⟨_, rfl, ⟨wire, connectivity, attention, activity, reviewReadiness⟩, ?_, ?_⟩
    · simp only [serialize, Event.storedPayload, hser, ok_bind]
      rfl
    · simp only [deserialize, Event.storedPayload, hdeser, ok_bind]
      rfl
  | agentSessionRegistered agent =>
    have hagent := AgentSessionFacts.deserialize_self
      (AgentSessionFacts.validateForRegistration_eq_ok.mp hvalid).1
    refine ⟨_, rfl, _, rfl, ?_⟩
    simp only [deserialize, Event.storedPayload, hagent, ok_bind]
    rfl
  | specialistRequested => exact ⟨_, rfl, reads_specialistRequested hvalid hstorable⟩
  | primaryPromoted previous promoted actionEpoch runtimeGeneration =>
    have hval : PrimaryPromotedPayload.validate
        ⟨previous, promoted, actionEpoch, runtimeGeneration⟩ = .ok () := failIf_eq_ok.mpr hvalid
    refine ⟨_, rfl, ⟨previous, promoted, actionEpoch, runtimeGeneration⟩, ?_, ?_⟩
    · simp only [serialize, Event.storedPayload, hval, customErr_ok, ok_bind]
      rfl
    · simp only [deserialize, Event.storedPayload, hval, customErr_ok, ok_bind]
      rfl
  | specialistHandoffRecorded => exact ⟨_, rfl, reads_specialistHandoffRecorded hvalid⟩
  | artifactRegistered artifact =>
    refine ⟨_, rfl, _, rfl, ?_⟩
    simp only [deserialize, Event.storedPayload, ArtifactFacts.deserialize_self hvalid, ok_bind]
    rfl
  | resourceRegistered resource =>
    refine ⟨_, rfl, _, rfl, ?_⟩
    simp only [deserialize, Event.storedPayload, ResourceFacts.deserialize_wire hvalid.1, ok_bind]
    rfl
  | operationAccepted fact | operationCancelled fact | operationUncertain fact =>
    have hfence : validateOutcomeFence fact.resourceId fact.runtimeGeneration = .ok () := hcheck
    refine ⟨_, rfl, fact, ?_, ?_⟩
    · simp only [serialize, Event.storedPayload, OperationAcceptedFact.validate,
        OperationCancelledFact.validate, OperationUncertainFact.validate, hfence, customErr_ok,
        ok_bind]
      rfl
    · simp only [deserialize, Event.storedPayload, OperationAcceptedFact.new,
        OperationCancelledFact.new, OperationUncertainFact.new, hfence, ok_bind]
      rfl
  | operationSettled fact | operationFailed fact =>
    have hval : fact.validate = .ok () := hcheck
    have hparts := hval
    simp only [OperationSettledFact.validate, OperationFailedFact.validate, ok_iff] at hparts
    obtain ⟨hser, hdeser⟩ := OutcomeSource.deserialize_serialize hparts.2
    refine ⟨_, rfl, fact, ?_, ?_⟩
    · simp only [serialize, Event.storedPayload, hser, ok_iff, customErr_eq_ok]
      exact ⟨hval, _, rfl, rfl⟩
    · simp only [deserialize, Event.storedPayload, hdeser, ok_bind, customErr_eq_ok,
        OperationSettledFact.withSource, OperationFailedFact.withSource, ok_iff, and_true]
      exact hparts
  | providerInputAccepted fact =>
    have hact := ProviderInputAction.deserialize_wire hvalid.nested
    refine ⟨_, rfl, _, rfl, ?_⟩
    simp only [deserialize, Event.storedPayload, hact, ok_bind]
    rfl
  | browser => exact ⟨_, rfl, _, rfl, BrowserDurableFact.deserialize_self hcheck⟩
  | _ => exact ⟨_, rfl, _, rfl, rfl⟩

end Reads

end DevManager
