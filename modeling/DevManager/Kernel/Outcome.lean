import DevManager.Kernel.Dispatch

/-!
# Operation outcomes (`src/kernel/command_bus.rs`, `src/kernel/projector.rs`)

How an accepted side effect ends. An outcome is appended to the log as a fact,
projected onto its operation, and moves the operation's only outbox row to the same
state, all in the transaction of the call that reports it.
-/

namespace DevManager

open Std

/-! ## Projecting an outcome fact (`projector.rs`) -/

namespace HistoricalOutcome

/-- The command the fact names. -/
def commandId : HistoricalOutcome → CommandId
  | settled fact => fact.commandId
  | failed fact => fact.commandId
  | cancelled fact => fact.commandId
  | uncertain fact => fact.commandId

/-- The fence the fact carries. -/
def fence : HistoricalOutcome → OperationFence
  | settled fact => ⟨fact.actionEpoch, fact.resourceId, fact.runtimeGeneration⟩
  | failed fact => ⟨fact.actionEpoch, fact.resourceId, fact.runtimeGeneration⟩
  | cancelled fact => ⟨fact.actionEpoch, fact.resourceId, fact.runtimeGeneration⟩
  | uncertain fact => ⟨fact.actionEpoch, fact.resourceId, fact.runtimeGeneration⟩

/-- `fact.settled_at_ms` or `fact.observed_at_ms`. -/
def occurredAtMs : HistoricalOutcome → ℤ
  | settled fact => fact.settledAtMs
  | failed fact => fact.settledAtMs
  | cancelled fact => fact.settledAtMs
  | uncertain fact => fact.observedAtMs

/-- The source of a settled or failed fact. -/
def source? : HistoricalOutcome → Option OutcomeSource
  | settled fact => some fact.source
  | failed fact => some fact.source
  | cancelled _ | uncertain _ => none

/-- The operation state the fact projects to. -/
def status : HistoricalOutcome → OperationStatus
  | settled _ => .settled
  | failed _ => .failed
  | cancelled _ => .cancelled
  | uncertain _ => .uncertain

/-- The `result` column the fact projects to. -/
def result : HistoricalOutcome → Option (List EventId)
  | settled fact => some fact.resultEventIds
  | failed _ | cancelled _ | uncertain _ => none

/-- The `outcome_code` column the fact projects to. -/
def outcomeCode : HistoricalOutcome → Option OutcomeCode
  | settled _ => none
  | failed fact => some (.error fact.code)
  | cancelled fact => some (.cancel fact.reason)
  | uncertain fact => some (.uncertain fact.code)

/-- `fact.validate()`. -/
def validate : HistoricalOutcome → Except OutcomeFenceError Unit
  | settled fact => fact.validate
  | failed fact => fact.validate
  | cancelled fact => fact.validate
  | uncertain fact => fact.validate

end HistoricalOutcome

variable (s : DispatchStore)

/-- `validate_verified_reconciliation_outbox` (`projector.rs:2354-2430`) outside a rebuild. -/
def validateVerifiedReconciliationOutbox (operationId : OperationId)
    (effectIndex : ℕ) : Except DispatchError Unit := do
  failIf (effectIndex ≠ 0) (.projection "verified reconciliation requires effect_index 0")
  match s.loadOutboxRows operationId with
  | [row] => do
    failIf (row.effectIndex ≠ 0)
      (.projection "verified reconciliation requires durable outbox effect_index 0")
    failIf (row.state ≠ .uncertain)
      (.projection "live verified reconciliation requires uncertain outbox")
  | _ => .error (.projection
      "verified reconciliation requires exactly one durable outbox effect row")

variable (operation : OperationRow)

/-- The transitions `apply_operation_outcome` admits (`projector.rs:2231-2291`). -/
def admitOutcome (fact : HistoricalOutcome) :
    Except DispatchError Unit :=
  match operation.state, fact.source? with
  | .accepted, none | .accepted, some .dispatch =>
    failIf (operation.outcomeAtMs.isSome = true)
      (.projection "accepted operation must not already carry outcome_at_ms")
  | .uncertain, some (.verifiedReconciliation effectIndex _) => do
    let uncertainAtMs ← okOr operation.outcomeAtMs
      (.projection "uncertain operation requires prior outcome_at_ms")
    failIf (fact.occurredAtMs < uncertainAtMs)
      (.projection "reconciliation outcome cannot predate uncertainty observation")
    validateVerifiedReconciliationOutbox s fact.operationId effectIndex
  | .accepted, some (.verifiedReconciliation ..) =>
    .error (.projection "accepted operations accept only Dispatch terminal facts")
  | .uncertain, some .dispatch => .error (.projection
      "uncertain operations accept only VerifiedReconciliation Settled/Failed facts")
  | _, _ => .error (.projection "operation state cannot transition with the provided source")

/-- The operations row after a fact (`projector.rs:2319-2336`). -/
def OperationRow.withOutcome (fact : HistoricalOutcome) : OperationRow :=
  { operation with
    state := fact.status, result := fact.result, outcomeCode := fact.outcomeCode,
    outcomeAtMs := some fact.occurredAtMs }

/-- `append_and_project` of an outcome fact (`projector.rs:1456-1666`, `2164-2352`). The fence of a
side effect has an action epoch, so the fact is never classified as a pure one. -/
def DispatchStore.appendOutcome (fact : HistoricalOutcome) :
    Except DispatchError DispatchStore := do
  mapErr fact.validate fun _ => .projection "invalid operation fact"
  let operation ← okOr s.operations[fact.operationId]? (.projection "operation not found")
  failIf (fact.occurredAtMs < operation.acceptedAtMs)
    (.projection "operation outcome time cannot predate acceptance")
  admitOutcome s operation fact
  failIf (operation.commandId ≠ fact.commandId) (.projection "operation command_id fence mismatch")
  failIf (operation.fence.actionEpoch ≠ fact.fence.actionEpoch)
    (.projection "operation action_epoch fence mismatch")
  failIf (operation.fence.resourceId ≠ fact.fence.resourceId)
    (.projection "operation resource_id fence mismatch")
  failIf (operation.fence.runtimeGeneration ≠ fact.fence.runtimeGeneration)
    (.projection "operation runtime_generation fence mismatch")
  pure { s with
    operations := s.operations.insert fact.operationId (operation.withOutcome fact),
    outcomes := s.outcomes ++ [fact] }

/-! ## Recording an outcome (`command_bus.rs`) -/

/-- `operation.rs:32-56` -/
inductive OperationState
  | accepted
  | settled (settledAtMs : ℤ) (resultEventIds : List EventId)
  | failed (settledAtMs : ℤ) (code : OperationErrorCode)
  | cancelled (settledAtMs : ℤ) (reason : CancellationReason)
  | uncertain (observedAtMs : ℤ) (code : OperationUncertaintyCode)

/-- The state one fact reports. -/
def HistoricalOutcome.operationState : HistoricalOutcome → OperationState
  | settled fact => .settled fact.settledAtMs fact.resultEventIds
  | failed fact => .failed fact.settledAtMs fact.code
  | cancelled fact => .cancelled fact.settledAtMs fact.reason
  | uncertain fact => .uncertain fact.observedAtMs fact.code

/-- `current_operation_state_from_durable` (L6453-6529): the last fact of the
operation's own kind. -/
def currentOperationStateFromDurable
    (history : List HistoricalOutcome) : Except DispatchError OperationState :=
  match operation.state with
  | .accepted => .ok .accepted
  | status => do
    let fact ← okOr (history.reverse.find? fun fact => fact.status = status) .corruption
    pure fact.operationState

variable (outcome : OperationOutcome)

/-- `outcome_fences_match_accepted`, L6203-6208 -/
def outcomeFencesMatchAccepted (fence : OperationFence) : Bool :=
  outcome.actionEpoch = fence.actionEpoch &&
    (ResourceFence.intoParts outcome.resourceFence).1 = fence.resourceId &&
    (ResourceFence.intoParts outcome.resourceFence).2 = fence.runtimeGeneration

/-- `outcome_matches_history`, L6210-6298 -/
def outcomeMatchesHistory (fact : HistoricalOutcome) : Bool :=
  outcome.operationId = fact.operationId && outcome.occurredAtMs = fact.occurredAtMs &&
    outcomeFencesMatchAccepted outcome fact.fence &&
    match outcome.kind, fact with
    | .settled resultEventIds, .settled fact =>
      outcome.source = fact.source && resultEventIds = fact.resultEventIds
    | .failed code, .failed fact => outcome.source = fact.source && code = fact.code
    | .cancelled reason, .cancelled fact => outcome.source = .dispatch && reason = fact.reason
    | .uncertain code, .uncertain fact => outcome.source = .dispatch && code = fact.code
    | _, _ => false

/-- `transition_outbox`, L7040-7069 -/
def DispatchStore.transitionOutbox (row : OutboxRow)
    (expectedState nextState : OutboxState) (lastErrorClass : Option ErrorClass) :
    Except DispatchError DispatchStore :=
  s.updateOutbox row.outboxId
    (fun r => r.state = expectedState ∧ r.leaseGeneration = row.leaseGeneration ∧
      r.attempts = row.attempts)
    (fun r => { r with
      state := nextState, leasedUntilMs := none, lastErrorClass, reconciliationReceipt := none })
    .invalidDispatchTransition

/-- The fact of an outcome (L6885-7004). -/
def OperationOutcome.fact (commandId : CommandId) :
    HistoricalOutcome :=
  let (resourceId, runtimeGeneration) := ResourceFence.intoParts outcome.resourceFence
  match outcome.kind with
  | .settled resultEventIds =>
    .settled ⟨commandId, outcome.operationId, outcome.occurredAtMs, resultEventIds,
      outcome.actionEpoch, resourceId, runtimeGeneration, outcome.source⟩
  | .failed code =>
    .failed ⟨commandId, outcome.operationId, outcome.occurredAtMs, code, outcome.actionEpoch,
      resourceId, runtimeGeneration, outcome.source⟩
  | .cancelled reason =>
    .cancelled ⟨commandId, outcome.operationId, outcome.occurredAtMs, reason, outcome.actionEpoch,
      resourceId, runtimeGeneration⟩
  | .uncertain code =>
    .uncertain ⟨commandId, outcome.operationId, outcome.occurredAtMs, code, outcome.actionEpoch,
      resourceId, runtimeGeneration⟩

/-- The state and the error class an outcome gives its row. -/
def OperationOutcomeKind.rowState : OperationOutcomeKind → OutboxState × Option ErrorClass
  | settled _ => (.settled, none)
  | failed _ => (.failed, some .sideEffectFailed)
  | cancelled _ => (.cancelled, some .superseded)
  | uncertain _ => (.uncertain, some .ambiguousDispatch)

section Record

variable (ambient : Ambient) (s : DispatchStore) (outcome : OperationOutcome)

/-- A dispatch outcome does not predate the start of its attempt (L6820-6828). -/
def requireStarted (row : OutboxRow) : Except DispatchError Unit :=
  if outcome.source = .dispatch ∧ 0 < row.attempts then do
    let started ← okOr row.dispatchStartedAtMs .corruption
    failIf (started > outcome.occurredAtMs) .corruption
  else .ok ()

/-- What a settled outcome needs of its result (L6831-6882). -/
def requireResult (row : OutboxRow) : Except DispatchError Unit :=
  match outcome.kind with
  | .settled resultEventIds => do
    failIf (resultEventIds.length ≠ 1) .conflictingOutcome
    match row.document.effect with
    | .holdBrowserHost .. => .error .invalidDispatchTransition
    | _ => ambient.settleResult outcome.operationId
  | .failed _ | .cancelled _ | .uncertain _ => .ok ()

/-- `apply_new_outcome`, L6807-7007 -/
def applyNewOutcome (commandId : CommandId) (outcome : OperationOutcome) (row : OutboxRow)
    (expectedState : OutboxState) : Except DispatchError (DispatchStore × OperationState) := do
  requireStarted outcome row
  requireResult ambient outcome row
  let s ← s.appendOutcome (outcome.fact commandId)
  let s ← s.transitionOutbox row expectedState outcome.kind.rowState.1 outcome.kind.rowState.2
  pure (s, (outcome.fact commandId).operationState)

variable (operationId : OperationId)

/-- The operation an outcome names (L4938-4946). -/
def loadOutcomeOperation : Except DispatchError OperationRow :=
  match s.operations[operationId]? with
  | some operation => .ok operation
  | none =>
    if s.loadOutboxRows operationId ≠ [] ∨ s.outcomeHistory operationId ≠ [] then
      .error .corruption
    else .error .missingOperation

/-- `record_outcome_in_tx`, L4930-5097 -/
def recordOutcomeInTx :
    Except DispatchError (DispatchStore × OperationState) := do
  mapErr outcome.validate fun _ => .constraintViolation
  let operation ← loadOutcomeOperation s outcome.operationId
  validateSideEffectAcceptedReceipt ambient s outcome.operationId operation false
  match s.loadOutboxRows outcome.operationId with
  | [row] => do
    failIf (outcomeFencesMatchAccepted outcome operation.fence = false) .staleFence
    if (s.outcomeHistory outcome.operationId).any (outcomeMatchesHistory outcome) then do
      let state ← currentOperationStateFromDurable operation (s.outcomeHistory outcome.operationId)
      pure (s, state)
    else
      match operation.state with
      | .accepted => do
        validateEffectMatchesFence row.document.effect operation.taskId operation.fence
        failIf (outcome.source ≠ .dispatch) .conflictingOutcome
        failIf (row.state = .pending ∨ row.state = .claimed) .invalidDispatchTransition
        failIf (row.state ≠ .dispatching) .corruption
        failIf (outcome.occurredAtMs < operation.acceptedAtMs) .staleFence
        requireCurrentEffectOwnership ambient outcome.operationId
        applyNewOutcome ambient s operation.commandId outcome row .dispatching
      | .uncertain => do
        validateEffectMatchesFence row.document.effect operation.taskId operation.fence
        match outcome.source with
        | .dispatch => .error .conflictingOutcome
        | .verifiedReconciliation effectIndex _ => do
          failIf (effectIndex ≠ row.effectIndex) .conflictingOutcome
          failIf (row.state ≠ .uncertain) .corruption
          failIf (outcome.kind.allowsVerifiedReconciliation = false) .conflictingOutcome
          let uncertainAtMs ← okOr ((s.outcomeHistory outcome.operationId).reverse.findSome?
            HistoricalOutcome.uncertainAt?) .corruption
          failIf (outcome.occurredAtMs < uncertainAtMs) .staleFence
          requireCurrentEffectOwnership ambient outcome.operationId
          applyNewOutcome ambient s operation.commandId outcome row .uncertain
      | .settled | .failed | .cancelled => .error .conflictingOutcome
  | [] => .error .conflictingOutcome
  | _ => .error .corruption

/-- `settled_result_ids_for_callback`, L6039-6069 -/
def settledResultIdsForCallback :
    Except DispatchError (List EventId) := do
  let operation ← okOr s.operations[operationId]? .corruption
  match operation.state with
  | .settled => do
    let resultEventIds ← okOr operation.result .corruption
    failIf (resultEventIds.length ≠ 1) .corruption
    pure resultEventIds
  | .accepted | .uncertain | .failed | .cancelled => do
    failIf (operation.result.isSome = true) .corruption
    pure [ambient.newEventId]

/-- `record_no_retry_dispatch_uncertainty_in_tx`, L5221-5289 -/
def recordNoRetryDispatchUncertaintyInTx (row : OutboxRow) (document : PlannedEffectDocument)
    (fence : OperationFence) (observedAtMs : ℤ) : Except DispatchError DispatchStore := do
  failIf (document.replayPolicy ≠ .noAutomaticRetry ∨ row.state ≠ .dispatching ∨
    row.attempts ≤ 0 ∨ row.reconciliationReceipt.isSome = true) .invalidDispatchTransition
  let operation ← okOr s.operations[row.operationId]? .corruption
  failIf (operation.state ≠ .accepted) .invalidDispatchTransition
  failIf (isProviderAttempt row.operationId document = false) .corruption
  let stored ← validateDispatchAttemptLineage ambient s row.operationId row.outboxId
  failIf (stored ≠ (document, fence)) .staleClaim
  validateEffectMatchesFence document.effect operation.taskId fence
  let _ ← mapErr (ResourceFence.ofParts fence.resourceId fence.runtimeGeneration) fun _ =>
    .corruption
  let s ← s.appendOutcome (.uncertain ⟨operation.commandId, row.operationId,
    max observedAtMs operation.acceptedAtMs, .ambiguousDispatch, fence.actionEpoch,
    fence.resourceId, fence.runtimeGeneration⟩)
  s.transitionOutbox row .dispatching .uncertain (some .ambiguousDispatch)

/-- `record_present_reconciliation_in_tx` (L5322-5410): uncertainty first, then the
verified outcome, in one transaction. -/
def recordPresentReconciliationInTx (expectedOutboxId : OutboxId)
    (expectedLeaseGeneration : ℤ) : Except DispatchError (DispatchStore × OperationState) := do
  mapErr outcome.validate fun _ => .constraintViolation
  match outcome.source with
  | .dispatch => .error .conflictingOutcome
  | .verifiedReconciliation effectIndex _ => do
    failIf (outcome.kind.allowsVerifiedReconciliation = false) .conflictingOutcome
    match s.loadOutboxRows outcome.operationId with
    | [row] => do
      failIf (row.outboxId ≠ expectedOutboxId ∨ row.leaseGeneration ≠ expectedLeaseGeneration ∨
        row.effectIndex ≠ effectIndex) .staleClaim
      if row.state = .settled ∨ row.state = .failed then recordOutcomeInTx ambient s outcome
      else do
        failIf (row.state ≠ .reconciling) .invalidDispatchTransition
        let operation ← okOr s.operations[outcome.operationId]? .missingOperation
        failIf (operation.state ≠ .accepted) .invalidDispatchTransition
        failIf (outcomeFencesMatchAccepted outcome operation.fence = false) .staleFence
        let startedAtMs ← okOr row.dispatchStartedAtMs .corruption
        failIf (outcome.occurredAtMs < operation.acceptedAtMs ∨
          outcome.occurredAtMs < startedAtMs ∨ outcome.occurredAtMs < row.availableAtMs)
          .staleFence
        let (resourceId, runtimeGeneration) := ResourceFence.intoParts outcome.resourceFence
        let s ← s.appendOutcome (.uncertain ⟨operation.commandId, outcome.operationId,
          outcome.occurredAtMs, .ambiguousDispatch, outcome.actionEpoch, resourceId,
          runtimeGeneration⟩)
        let s ← s.transitionOutbox row .reconciling .uncertain (some .ambiguousDispatch)
        recordOutcomeInTx ambient s outcome
    | _ => .error .corruption

/-- `classify_stale_dispatch_fence`, L6703-6727 -/
def classifyStaleDispatchFence (outboxId : OutboxId) :
    Except DispatchError (Option StaleFenceCheck) :=
  match s.operations[operationId]? with
  | none => .ok none
  | some operation =>
    match acceptedDispatchOperationCheck operation with
    | some check => .ok (some check)
    | none =>
      match s.onlyRow operationId outboxId with
      | .error _ => .ok none
      | .ok row =>
        match validateEffectMatchesFence row.document.effect operation.taskId operation.fence with
        | .error _ => .ok none
        | .ok () => ambient.ownership operationId

/-- The failure a retired dispatch leaves (L6750-6776). -/
def appendRetirement (operation : OperationRow) (row : OutboxRow) (observedAtMs : ℤ) :
    Except DispatchError DispatchStore :=
  if operation.state = .accepted then
    s.appendOutcome (.failed ⟨operation.commandId, row.operationId,
      max (max observedAtMs operation.acceptedAtMs) row.availableAtMs, .sideEffectFailed,
      operation.fence.actionEpoch, operation.fence.resourceId,
      operation.fence.runtimeGeneration, .dispatch⟩)
  else .ok s

/-- `retire_stale_fenced_dispatch_in_tx`, L6736-6785 -/
def retireStaleFencedDispatchInTx (row : OutboxRow) (check : StaleFenceCheck)
    (observedAtMs : ℤ) : Except DispatchError DispatchStore := do
  failIf (check.isPermanent = false ∨ row.state ≠ .pending ∧ row.state ≠ .claimed)
    .invalidDispatchTransition
  let operation ← okOr s.operations[row.operationId]? .corruption
  let s ← appendRetirement s operation row observedAtMs
  s.transitionOutbox row row.state .failed (some .staleFence)

end Record

end DevManager
