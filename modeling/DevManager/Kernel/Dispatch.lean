import DevManager.Kernel.Outbox

/-!
# Outbox dispatch (`src/kernel/store.rs`, `src/kernel/command_bus.rs`)

The calls that move an outbox row: a side effect is accepted, claimed under a
lease, begun, and then settled, deferred, retried or reconciled. Every call is one
immediate transaction, so it is a function from the store to an error or to a new
store with its answer; an error leaves the store as it was.

What a call reads outside the two tables is its `Ambient`: the clock, a fresh
event id, and the answers of the receipt validators, of the ownership check and of
the task projections. Nothing is assumed about these answers, so every result
below holds whatever they are.
-/

namespace DevManager

open Std

/-! ## What a call reads outside the tables -/

/-- `StaleFenceCheck`, `command_bus.rs:5649-5676` -/
inductive StaleFenceCheck
  | operationTerminal | operationUncertain | taskMissing | taskActionEpochAdvanced
  | taskActionEpochBehind | taskLifecycleMoved | agentSessionMissing | agentSessionForeign
  | agentSessionClosed | providerIdentityMoved | providerRuntimeGenerationAdvanced
  | providerRuntimeGenerationBehind | resourceOwnershipMoved

/-- `is_permanent`, `command_bus.rs:5684-5691` -/
def StaleFenceCheck.isPermanent : StaleFenceCheck → Bool
  | operationTerminal | taskActionEpochAdvanced | providerRuntimeGenerationAdvanced => true
  | _ => false

/-- What one call reads outside the two tables. -/
structure Ambient where
  /-- Milliseconds since the epoch. -/
  clock : ℕ
  /-- `EventId::new()`. -/
  newEventId : EventId
  /-- The receipt, the decision facts and the task history of the operation
      (`validate_accepted_receipt_correlation`, but for the rows). -/
  lineage : OperationId → Except DispatchError Unit
  /-- `command_bus.rs:6570-6695` -/
  ownership : OperationId → Except DispatchError (Option StaleFenceCheck)
  /-- The result fact of a settled operation: whether it may be appended and projected. -/
  settleResult : OperationId → Except DispatchError Unit

/-- `now_ms`, L1839-1847 -/
def Ambient.nowMs (ambient : Ambient) : Except DispatchError ℤ := do
  failIf (2 ^ 63 ≤ ambient.clock) (.integerOutOfRange "applied_at_ms")
  pure ambient.clock

/-- `MAX_DISPATCH_LEASE_MS`, L54 -/
def maxDispatchLeaseMs : ℤ := 3600000

/-- `validate_dispatch_lease_ms` (L2865-2874) of a duration in nanoseconds. -/
def validateDispatchLeaseMs (lease : ℕ) : Except DispatchError ℤ := do
  failIf (lease = 0) .invalidLeaseDuration
  let ms : ℤ := (lease / 1000000 : ℕ)
  failIf (ms ≤ 0 ∨ ms > maxDispatchLeaseMs) .invalidLeaseDuration
  pure ms

/-- `lease_deadline`, L2876-2883 -/
def leaseDeadline (nowMs leaseMs : ℤ) : Except DispatchError ℤ :=
  okOr (checkedAddI64 nowMs leaseMs) (.integerOutOfRange "leased_until_ms")

/-- `renewed_lease_deadline`, L2885-2891 -/
def renewedLeaseDeadline (nowMs priorDeadlineMs leaseMs : ℤ) : Except DispatchError ℤ := do
  let deadline ← leaseDeadline nowMs leaseMs
  pure (max priorDeadlineMs deadline)

/-! ## Tokens (`dispatch.rs`) -/

/-- `DispatchClaim`, `dispatch.rs:189-192` -/
structure DispatchClaim where
  outboxId : OutboxId
  leaseGeneration : ℤ

/-- `DispatchPermit`, `dispatch.rs:213-223` -/
structure DispatchPermit where
  outboxId : OutboxId
  leaseGeneration : ℤ
  operationId : OperationId
  effectIndex : ℕ
  attempt : ℕ
  document : PlannedEffectDocument
  externalIdempotencyKey : ExternalKey
  actionEpoch : Option ℕ
  resourceFence : Option ResourceFence

/-- `ReconciliationClaim` (`dispatch.rs:301-312`). No claim of origin `Uncertain` is ever built, and
every call refuses one, so the origin is left out. -/
structure ReconciliationClaim where
  outboxId : OutboxId
  leaseGeneration : ℤ
  operationId : OperationId
  effectIndex : ℕ
  completedAttempt : ℕ
  document : PlannedEffectDocument
  lookupIdentity : ExternalKey
  actionEpoch : Option ℕ
  resourceFence : Option ResourceFence

/-- `DispatchCompletion`, `dispatch.rs:127-131` -/
inductive DispatchCompletion
  | settled
  | failed (code : OperationErrorCode)
  | cancelled (reason : CancellationReason)

/-- `AmbiguityDisposition`, `dispatch.rs:117-121` -/
inductive AmbiguityDisposition
  | retryScheduled | reconciliationRequired | uncertain
deriving DecidableEq

/-- `ambiguity_disposition`, `dispatch.rs:179-185` -/
def ambiguityDisposition : ReplayPolicy → AmbiguityDisposition
  | .retrySafe => .retryScheduled
  | .reconcileBeforeRetry => .reconciliationRequired
  | .noAutomaticRetry => .uncertain

/-- `ReconciliationFinding` (`dispatch.rs:140-158`); durations are in nanoseconds. -/
inductive ReconciliationFinding
  | absent (lookupIdentity : ExternalKey) (retryAfter : ℕ)
  | inconclusive (lookupIdentity : ExternalKey) (retryAfter : ℕ)
  | presentSettled (lookupIdentity : ExternalKey) (externalIdentity : String)
  | presentFailed (lookupIdentity : ExternalKey) (externalIdentity : String)
      (code : OperationErrorCode)

/-- `lookup_identity`, `dispatch.rs:161-176` -/
def ReconciliationFinding.lookupIdentity : ReconciliationFinding → ExternalKey
  | absent key _ | inconclusive key _ | presentSettled key _ | presentFailed key _ _ => key

/-- `OperationOutcomeKind`, `operation.rs:276-282` -/
inductive OperationOutcomeKind
  | settled (resultEventIds : List EventId)
  | failed (code : OperationErrorCode)
  | cancelled (reason : CancellationReason)
  | uncertain (code : OperationUncertaintyCode)

/-- `allows_verified_reconciliation`, `operation.rs:285-287` -/
def OperationOutcomeKind.allowsVerifiedReconciliation : OperationOutcomeKind → Bool
  | settled _ | failed _ => true
  | cancelled _ | uncertain _ => false

/-- `OperationOutcome`, `operation.rs:292-299` -/
structure OperationOutcome where
  operationId : OperationId
  occurredAtMs : ℤ
  actionEpoch : Option ℕ
  resourceFence : Option ResourceFence
  source : OutcomeSource
  kind : OperationOutcomeKind

/-- `validate_source_for_kind`, `operation.rs:328-339` -/
def validateSourceForKind (source : OutcomeSource) (kind : OperationOutcomeKind) :
    Except OutcomeFenceError Unit :=
  match source with
  | .dispatch => .ok ()
  | .verifiedReconciliation .. =>
    failIf (kind.allowsVerifiedReconciliation = false) .invalidSourceForKind

/-- `OperationOutcome::validate` (`operation.rs:322-325`), which `new` runs. -/
def OperationOutcome.validate (outcome : OperationOutcome) : Except OutcomeFenceError Unit := do
  outcome.source.validate
  validateSourceForKind outcome.source outcome.kind

/-- The state an outcome of this kind leaves its operation and its row in. -/
def OperationOutcomeKind.status : OperationOutcomeKind → OperationStatus
  | settled _ => .settled
  | failed _ => .failed
  | cancelled _ => .cancelled
  | uncertain _ => .uncertain

/-! ## Lineage (`command_bus.rs`) -/

namespace DispatchStore

/-- `rows.len() != 1 || rows[0].outbox_id != outbox_id`. -/
def onlyRow (s : DispatchStore) (operationId : OperationId) (outboxId : OutboxId) :
    Except DispatchError OutboxRow :=
  match s.loadOutboxRows operationId with
  | [row] => do
    failIf (row.outboxId ≠ outboxId) .corruption
    pure row
  | _ => .error .corruption

/-- `UPDATE outbox SET … WHERE outbox_id = … AND …`, when exactly one row has to change. -/
def updateOutbox (s : DispatchStore) (outboxId : OutboxId) (cond : OutboxRow → Prop)
    [DecidablePred cond] (set : OutboxRow → OutboxRow) (error : DispatchError) :
    Except DispatchError DispatchStore :=
  match s.outbox[outboxId]? with
  | some row =>
    if cond row then .ok { s with outbox := s.outbox.insert outboxId (set row) } else .error error
  | none => .error error

end DispatchStore

/-- `validate_effect_matches_fence`, `command_bus.rs:6136-6201` -/
def validateEffectMatchesFence (effect : Effect) (taskId : TaskId) (fence : OperationFence) :
    Except DispatchError Unit :=
  match effect with
  | .beginTaskTeardown effectTask epoch =>
    failIf (effectTask ≠ taskId ∨ fence.resourceId.isSome = true ∨
      fence.runtimeGeneration.isSome = true ∨ fence.actionEpoch ≠ some epoch) .corruption
  | .releaseResource effectTask epoch resourceFence =>
    failIf (effectTask ≠ taskId ∨ fence.actionEpoch ≠ some epoch ∨
      fence.resourceId ≠ some resourceFence.resourceId ∨
      fence.runtimeGeneration ≠ some resourceFence.runtimeGeneration) .corruption
  | .deliverProviderInput delivery =>
    failIf (delivery.taskId ≠ taskId ∨ fence.resourceId.isSome = true ∨
      fence.actionEpoch ≠ some delivery.actionEpoch ∨
      fence.runtimeGeneration.isSome = true) .corruption
  | .holdBrowserHost effectTask epoch _ _ generation _ =>
    failIf (effectTask ≠ taskId ∨ fence.resourceId.isSome = true ∨
      fence.runtimeGeneration.isSome = true ∨ fence.actionEpoch ≠ some epoch ∨
      generation = 0) .corruption

/-- `accepted_dispatch_operation_check`, `command_bus.rs:5724-5735` -/
def acceptedDispatchOperationCheck (operation : OperationRow) : Option StaleFenceCheck :=
  match operation.state with
  | .accepted => none
  | .settled | .failed | .cancelled => some .operationTerminal
  | .uncertain => some .operationUncertain

/-- `require_accepted_dispatch_operation`, `command_bus.rs:5737-5744` -/
def requireAcceptedDispatchOperation (operation : OperationRow) : Except DispatchError Unit :=
  failIf ((acceptedDispatchOperationCheck operation).isSome = true) .staleFence

section Lineage

variable (ambient : Ambient) (s : DispatchStore) (operationId : OperationId)

/-- The part of `validate_side_effect_accepted_receipt_with_projection`
(`command_bus.rs:8829-8976`) that reads the operation and its row. -/
def validateSideEffectAcceptedReceipt (operation : OperationRow)
    (allowExpiredDispatch : Bool) : Except DispatchError Unit := do
  ambient.lineage operationId
  match s.loadOutboxRows operationId with
  | [row] =>
    match operation.state with
    | .accepted => do
      failIf (operation.result.isSome = true ∨ operation.outcomeCode.isSome = true ∨
        operation.outcomeAtMs.isSome = true) .corruption
      validateSideEffectActiveOutbox row operation.acceptedAtMs allowExpiredDispatch
      failIf (s.outcomeHistory operationId ≠ []) .corruption
    | .settled | .failed | .cancelled | .uncertain =>
      validateSideEffectTerminalReceipt row operation (s.outcomeHistory operationId)
  | _ => .error .corruption

/-- `require_current_effect_ownership`, `command_bus.rs:6531-6541` -/
def requireCurrentEffectOwnership : Except DispatchError Unit := do
  let check ← ambient.ownership operationId
  failIf (check.isSome = true) .staleFence

/-- `validate_dispatch_candidate_lineage` (`command_bus.rs:5503-5509`, `5582-5642`), which
`revalidate_outbox_effect` (L2908-2919) runs. -/
def validateDispatchCandidateLineage (outboxId : OutboxId) :
    Except DispatchError (PlannedEffectDocument × OperationFence) := do
  let operation ← okOr s.operations[operationId]? .corruption
  requireAcceptedDispatchOperation operation
  validateSideEffectAcceptedReceipt ambient s operationId operation false
  let row ← s.onlyRow operationId outboxId
  validateEffectMatchesFence row.document.effect operation.taskId operation.fence
  requireCurrentEffectOwnership ambient operationId
  pure (row.document, operation.fence)

/-- The typed provider effect of this operation (`command_bus.rs:5570-5576`). -/
def isProviderAttempt (document : PlannedEffectDocument) : Bool :=
  match document.effect with
  | .deliverProviderInput delivery =>
    delivery.operationId = operationId && document.replayPolicy = .noAutomaticRetry
  | _ => false

/-- `validate_dispatch_attempt_lineage`, `command_bus.rs:5516-5580` -/
def validateDispatchAttemptLineage (outboxId : OutboxId) :
    Except DispatchError (PlannedEffectDocument × OperationFence) := do
  let operation ← okOr s.operations[operationId]? .corruption
  requireAcceptedDispatchOperation operation
  let row ← s.onlyRow operationId outboxId
  validateSideEffectAcceptedReceipt ambient s operationId operation true
  validateEffectMatchesFence row.document.effect operation.taskId operation.fence
  failIf (isProviderAttempt operationId row.document = false) .corruption
  pure (row.document, operation.fence)

/-- `revalidate_outbox_effect`, L2908-2919 -/
def revalidateOutboxEffect (row : OutboxRow) :
    Except DispatchError (PlannedEffectDocument × OperationFence) :=
  validateDispatchCandidateLineage ambient s row.operationId row.outboxId

/-- `revalidate_ambiguity_effect` (L2944-2972). Once the boundary has started, only a
no-retry provider effect is read by its immutable identity. -/
def revalidateAmbiguityEffect (row : OutboxRow) :
    Except DispatchError (PlannedEffectDocument × OperationFence) :=
  if row.document.effect.destinationClass = .providerInput ∧
      row.document.replayPolicy = .noAutomaticRetry then
    validateDispatchAttemptLineage ambient s row.operationId row.outboxId
  else revalidateOutboxEffect ambient s row

end Lineage

/-! ## Acceptance (`command_bus.rs`) -/

/-- What `persist_side_effect_acceptance` (`command_bus.rs:11652-11799`) writes to the tables. -/
structure SideEffectAcceptance where
  commandId : CommandId
  operationId : OperationId
  outboxId : OutboxId
  taskId : TaskId
  effect : Effect
  committedSequence : ℕ

variable (acceptance : SideEffectAcceptance)

/-- The row of the operations table `operation.accepted` projects (`projector.rs:1428-1451`). -/
def SideEffectAcceptance.operationRow (acceptedAtMs : ℤ) :
    OperationRow where
  commandId := acceptance.commandId
  taskId := acceptance.taskId
  fence := acceptance.effect.planned.fence
  state := .accepted
  result := none
  outcomeCode := none
  acceptedAtMs := acceptedAtMs
  outcomeAtMs := none

/-- The row that is inserted into the outbox (`command_bus.rs:11771-11795`). -/
def SideEffectAcceptance.outboxRow (acceptedAtMs : ℤ) :
    OutboxRow where
  outboxId := acceptance.outboxId
  operationId := acceptance.operationId
  effectIndex := 0
  eventSequence := acceptance.committedSequence
  document := acceptance.effect.planned.document
  state := .pending
  availableAtMs := acceptedAtMs
  leasedUntilMs := none
  dispatchStartedAtMs := none
  attempts := 0
  lastErrorClass := none
  leaseGeneration := 0
  reconciliationReceipt := none

/-- `persist_side_effect_acceptance` (`command_bus.rs:11652-11799`): the ids are primary keys, and
an operation has one row for each effect index. -/
def persistSideEffectAcceptance (ambient : Ambient) (s : DispatchStore)
    (acceptance : SideEffectAcceptance) : Except DispatchError DispatchStore := do
  let acceptedAtMs ← ambient.nowMs
  failIf (acceptance.operationId ∈ s.operations ∨ acceptance.outboxId ∈ s.outbox ∨
    s.loadOutboxRows acceptance.operationId ≠ []) .constraintViolation
  pure { s with
    operations := s.operations.insert acceptance.operationId (acceptance.operationRow acceptedAtMs),
    outbox := s.outbox.insert acceptance.outboxId (acceptance.outboxRow acceptedAtMs) }

end DevManager
