import DevManager.Domain.Event

/-!
# The outbox (`src/kernel/outbox.rs`, `src/kernel/dispatch.rs`, `src/kernel/command_bus.rs`)

An accepted side effect is one row of the outbox table and one row of the
operations table. This module holds the two tables, the effects they plan and
the checks a stored row has to pass before any later call reads it.

A payload is modelled by the document it decodes to. The text of a retry identity
is injective in the operation and the effect index, so the pair stands for it.
-/

namespace DevManager

open Std

/-- The part of `StoreError` (`src/kernel/store.rs:147-172`) that the dispatch calls return. -/
inductive DispatchError
  | corruption | staleClaim | staleFence | expiredClaim | invalidDispatchTransition
  | conflictingOutcome | constraintViolation | missingOperation | invalidLeaseDuration
  | integerOutOfRange (field : String)
  | codecMismatch (detail : String)
  | projection (detail : String)

/-- `a.checked_add(b)` on `i64`. -/
def checkedAddI64 (a b : ℤ) : Option ℤ :=
  if -2 ^ 63 ≤ a + b ∧ a + b < 2 ^ 63 then some (a + b) else none

theorem checkedAddI64_eq_some {a b c : ℤ} (h : checkedAddI64 a b = some c) : c = a + b := by
  unfold checkedAddI64 at h
  split_ifs at h
  exact (Option.some.inj h).symm

/-! ## Effects (`outbox.rs`) -/

/-- `DestinationClass`, L31-36 -/
inductive DestinationClass
  | taskTeardown | resourceRelease | providerInput | browserHost
deriving DecidableEq

/-- `ReplayPolicy`, L63-67 -/
inductive ReplayPolicy
  | retrySafe | reconcileBeforeRetry | noAutomaticRetry
deriving DecidableEq

/-- `BrowserIntegrationHold`, `src/domain/browser.rs:38-42` -/
inductive BrowserIntegrationHold
  | webViewSurfaceAbsent | browserServiceAbsent | hostCapabilityUngranted
deriving DecidableEq

/-- The fields of `Effect::DeliverProviderInput` (L104-119). -/
structure ProviderInputDelivery where
  taskId : TaskId
  operationId : OperationId
  commandId : CommandId
  clientId : ClientId
  agentSessionId : AgentSessionId
  providerKind : ProviderKind
  providerSessionId : Option ProviderSessionId
  runtimeGeneration : ℕ
  actionEpoch : ℕ
  turnId : TurnId
  questionId : Option QuestionId
  approvalId : Option ApprovalId
  action : ProviderInputAction
  wait : Bool
deriving DecidableEq

/-- `Effect`, L92-128 -/
inductive Effect
  | beginTaskTeardown (taskId : TaskId) (actionEpoch : ℕ)
  | releaseResource (taskId : TaskId) (actionEpoch : ℕ) (resourceFence : ResourceFence)
  | deliverProviderInput (delivery : ProviderInputDelivery)
  | holdBrowserHost (taskId : TaskId) (actionEpoch : ℕ) (requestId : BrowserRequestId)
      (contextId : BrowserContextId) (generation : ℕ) (hold : BrowserIntegrationHold)
deriving DecidableEq

/-- `destination_class`, L578-585 -/
def Effect.destinationClass : Effect → DestinationClass
  | .beginTaskTeardown .. => .taskTeardown
  | .releaseResource .. => .resourceRelease
  | .deliverProviderInput _ => .providerInput
  | .holdBrowserHost .. => .browserHost

/-- `OperationFence`, L161-165 -/
structure OperationFence where
  actionEpoch : Option ℕ
  resourceId : Option ResourceId
  runtimeGeneration : Option ℕ
deriving DecidableEq

/-- `PlannedEffectDocument` (L589-594). The destination is the effect's own, which both
codecs check. -/
structure PlannedEffectDocument where
  replayPolicy : ReplayPolicy
  effect : Effect
deriving DecidableEq

/-- `PlannedEffect`, L168-171 -/
structure PlannedEffect where
  document : PlannedEffectDocument
  fence : OperationFence

/-- The effect a decision fact plans, with the policy and the fence of its arm of `plan_effects`
(L305-318, `352-366`, `410-439`, `464-481`). -/
def Effect.planned : Effect → PlannedEffect
  | .beginTaskTeardown taskId epoch =>
    ⟨⟨.retrySafe, .beginTaskTeardown taskId epoch⟩, ⟨some epoch, none, none⟩⟩
  | .releaseResource taskId epoch fence =>
    ⟨⟨.reconcileBeforeRetry, .releaseResource taskId epoch fence⟩,
      ⟨some epoch, some fence.resourceId, some fence.runtimeGeneration⟩⟩
  | .deliverProviderInput delivery =>
    ⟨⟨.noAutomaticRetry, .deliverProviderInput delivery⟩, ⟨some delivery.actionEpoch, none, none⟩⟩
  | .holdBrowserHost taskId epoch requestId contextId generation hold =>
    ⟨⟨.noAutomaticRetry, .holdBrowserHost taskId epoch requestId contextId generation hold⟩,
      ⟨some epoch, none, none⟩⟩

/-- The text of `external_idempotency_key` (L175-177). -/
structure ExternalKey where
  operationId : OperationId
  effectIndex : ℕ
deriving DecidableEq

/-- `external_idempotency_key`, L175-177 -/
def externalIdempotencyKey (operationId : OperationId) (effectIndex : ℕ) : ExternalKey :=
  ⟨operationId, effectIndex⟩

/-! ## Absence receipts (`dispatch.rs`) -/

/-- `AbsenceReceiptDocument` (`dispatch.rs:29-38`); the finding is always `Absent`. -/
structure AbsenceReceiptDocument where
  outboxId : OutboxId
  operationId : OperationId
  effectIndex : ℕ
  completedAttempt : ℕ
  lookupIdentity : ExternalKey
  provedAtMs : ℤ

namespace AbsenceReceiptDocument

/-- `validate`, `dispatch.rs:63-75` -/
def validate (receipt : AbsenceReceiptDocument) : Except DispatchError Unit :=
  failIf (receipt.completedAttempt = 0) (.codecMismatch "invalid absence receipt document")

/-- `new`, `dispatch.rs:41-61` -/
def new (outboxId : OutboxId) (operationId : OperationId) (effectIndex completedAttempt : ℕ)
    (lookupIdentity : ExternalKey) (provedAtMs : ℤ) :
    Except DispatchError AbsenceReceiptDocument := do
  let document : AbsenceReceiptDocument :=
    ⟨outboxId, operationId, effectIndex, completedAttempt, lookupIdentity, provedAtMs⟩
  document.validate
  pure document

/-- `authorizes`, `dispatch.rs:78-95` -/
def authorizes (receipt : AbsenceReceiptDocument) (outboxId : OutboxId)
    (operationId : OperationId) (effectIndex completedAttempt : ℕ) (lookupIdentity : ExternalKey)
    (dispatchStartedAtMs availableAtMs : ℤ) : Bool :=
  receipt.outboxId = outboxId && receipt.operationId = operationId &&
    receipt.effectIndex = effectIndex && receipt.completedAttempt = completedAttempt &&
    receipt.lookupIdentity = lookupIdentity && receipt.provedAtMs ≥ dispatchStartedAtMs &&
    receipt.provedAtMs ≤ availableAtMs

end AbsenceReceiptDocument

/-! ## The tables -/

/-- The `state` column of the outbox. -/
inductive OutboxState
  | pending | claimed | dispatching | reconcileRequired | reconciling
  | settled | failed | cancelled | uncertain
deriving DecidableEq

/-- The `state` column of the operations table. -/
inductive OperationStatus
  | accepted | settled | failed | cancelled | uncertain
deriving DecidableEq

/-- The `last_error_class` column of the outbox. -/
inductive ErrorClass
  | ambiguousDispatch | sideEffectFailed | superseded | staleFence
deriving DecidableEq

/-- `OutboxRow`, `command_bus.rs:11164-11184` -/
structure OutboxRow where
  outboxId : OutboxId
  operationId : OperationId
  effectIndex : ℕ
  eventSequence : ℕ
  document : PlannedEffectDocument
  state : OutboxState
  availableAtMs : ℤ
  leasedUntilMs : Option ℤ
  dispatchStartedAtMs : Option ℤ
  attempts : ℤ
  lastErrorClass : Option ErrorClass
  leaseGeneration : ℤ
  reconciliationReceipt : Option AbsenceReceiptDocument

/-- The `outcome_code` column of the operations table. -/
inductive OutcomeCode
  | error (code : OperationErrorCode)
  | cancel (reason : CancellationReason)
  | uncertain (code : OperationUncertaintyCode)

/-- `OperationProjectionRow` (`command_bus.rs:11075-11086`), with its command. -/
structure OperationRow where
  commandId : CommandId
  taskId : TaskId
  fence : OperationFence
  state : OperationStatus
  result : Option (List EventId)
  outcomeCode : Option OutcomeCode
  acceptedAtMs : ℤ
  outcomeAtMs : Option ℤ

/-- `HistoricalOutcome` (`command_bus.rs:5413-5460`): the outcome facts of the event log. -/
inductive HistoricalOutcome
  | settled (fact : OperationSettledFact)
  | failed (fact : OperationFailedFact)
  | cancelled (fact : OperationCancelledFact)
  | uncertain (fact : OperationUncertainFact)

/-- The operation an outcome fact is about. -/
def HistoricalOutcome.operationId : HistoricalOutcome → OperationId
  | settled fact => fact.operationId
  | failed fact => fact.operationId
  | cancelled fact => fact.operationId
  | uncertain fact => fact.operationId

/-- When an uncertain outcome was observed. -/
def HistoricalOutcome.uncertainAt? : HistoricalOutcome → Option ℤ
  | uncertain fact => some fact.observedAtMs
  | _ => none

/-- The two tables, and the outcome facts of the log in their order. -/
structure DispatchStore where
  operations : ExtTreeMap OperationId OperationRow
  outbox : ExtTreeMap OutboxId OutboxRow
  outcomes : List HistoricalOutcome

namespace DispatchStore

/-- The store before the first command. -/
def empty : DispatchStore := ⟨∅, ∅, []⟩

/-- `load_outbox_rows` (`command_bus.rs:11186-11272`). An operation plans one effect, so the index
order of the query has one row to order. -/
def loadOutboxRows (s : DispatchStore) (operationId : OperationId) : List OutboxRow :=
  (s.outbox.toList.map Prod.snd).filter fun row => row.operationId = operationId

/-- `load_operation_outcome_history`, `command_bus.rs:6298-6449` -/
def outcomeHistory (s : DispatchStore) (operationId : OperationId) : List HistoricalOutcome :=
  s.outcomes.filter fun fact => fact.operationId = operationId

end DispatchStore

/-! ## The metadata checks (`command_bus.rs`) -/

section Metadata

variable (row : OutboxRow)

/-- `u32::try_from(row.effect_index)`. -/
def OutboxRow.effectIndexU32 : Except DispatchError ℕ := do
  failIf (2 ^ 32 ≤ row.effectIndex) .corruption
  pure row.effectIndex

/-- `u64_from_nonnegative_i64("outbox.attempts", row.attempts)`. -/
def OutboxRow.attemptU64 : Except DispatchError ℕ := do
  failIf (row.attempts < 0) (.integerOutOfRange "outbox.attempts")
  pure row.attempts.toNat

/-- `validate_dispatch_attempt_generation`, `command_bus.rs:9555-9564` -/
def validateDispatchAttemptGeneration : Except DispatchError Unit :=
  failIf (row.leaseGeneration < 0 ∨ row.attempts < 0 ∨
    0 < row.attempts ∧ row.leaseGeneration < row.attempts) .corruption

/-- `validate_absence_authorization` (`store.rs:3240-3261`), which
`validate_retry_authorization` runs too (`command_bus.rs:9493-9514`). -/
def validateAbsenceAuthorization : Except DispatchError Unit := do
  let receipt ← okOr row.reconciliationReceipt .corruption
  receipt.validate
  let effectIndex ← row.effectIndexU32
  let completedAttempt ← row.attemptU64
  let startedAtMs ← okOr row.dispatchStartedAtMs .corruption
  failIf (receipt.authorizes row.outboxId row.operationId effectIndex completedAttempt
    (externalIdempotencyKey row.operationId effectIndex) startedAtMs row.availableAtMs = false)
    .corruption

/-- `validate_retry_authorization`, `command_bus.rs:9482-9517` -/
def validateRetryAuthorization : ReplayPolicy → Except DispatchError Unit
  | .retrySafe => failIf (row.reconciliationReceipt.isSome = true) .corruption
  | .reconcileBeforeRetry => validateAbsenceAuthorization row
  | .noAutomaticRetry => .error .corruption

variable (acceptedAtMs : ℤ) (policy : ReplayPolicy)

/-- The arm `"pending"` (`command_bus.rs:9358-9393`). -/
def validatePendingMetadata :
    Except DispatchError Unit :=
  if row.attempts = 0 then
    failIf (row.dispatchStartedAtMs.isSome = true ∨ row.leasedUntilMs.isSome = true ∨
      row.reconciliationReceipt.isSome = true ∨
      row.leaseGeneration = 0 ∧ row.availableAtMs ≠ acceptedAtMs ∨
      0 < row.leaseGeneration ∧ row.availableAtMs < acceptedAtMs) .corruption
  else do
    let started ← okOr row.dispatchStartedAtMs .corruption
    failIf (row.availableAtMs < acceptedAtMs ∨
      row.leaseGeneration = 0 ∧ row.availableAtMs > started ∨
      0 < row.leaseGeneration ∧ row.availableAtMs < started ∨
      row.leaseGeneration = 0 ∧ row.reconciliationReceipt.isSome = true) .corruption
    match row.leasedUntilMs with
    | some lease => failIf (lease < started) .corruption
    | none => pure ()
    if 0 < row.leaseGeneration then do
      failIf (row.leasedUntilMs.isSome = true) .corruption
      validateRetryAuthorization row policy
    else pure ()

/-- The arm `"claimed"` (`command_bus.rs:9394-9420`). -/
def validateClaimedMetadata :
    Except DispatchError Unit := do
  failIf (row.leaseGeneration ≤ 0 ∨ row.leasedUntilMs.isNone = true ∨
    row.availableAtMs < acceptedAtMs ∨ row.lastErrorClass.isSome = true) .corruption
  let lease ← okOr row.leasedUntilMs .corruption
  failIf (lease ≤ row.availableAtMs) .corruption
  if row.attempts = 0 then
    failIf (row.dispatchStartedAtMs.isSome = true ∨ row.reconciliationReceipt.isSome = true)
      .corruption
  else do
    let started ← okOr row.dispatchStartedAtMs .corruption
    failIf (row.availableAtMs < started ∨ row.leaseGeneration ≤ row.attempts) .corruption
    validateRetryAuthorization row policy

variable (allowExpiredDispatch : Bool)

/-- The arm `"dispatching"` (`command_bus.rs:9421-9444`). -/
def validateDispatchingMetadata :
    Except DispatchError Unit := do
  failIf (row.leaseGeneration ≤ 0 ∨ row.attempts ≤ 0 ∨ row.leasedUntilMs.isNone = true ∨
    row.lastErrorClass.isSome = true) .corruption
  let started ← okOr row.dispatchStartedAtMs .corruption
  failIf (row.availableAtMs < acceptedAtMs ∨ row.availableAtMs > started) .corruption
  let lease ← okOr row.leasedUntilMs .corruption
  failIf (lease < 0 ∨ allowExpiredDispatch = false ∧ lease ≤ started) .corruption
  failIf (row.reconciliationReceipt.isSome = true) .corruption

/-- The arm `"reconcile_required"` (`command_bus.rs:9445-9460`). -/
def validateReconcileRequiredMetadata :
    Except DispatchError Unit := do
  failIf (policy ≠ .reconcileBeforeRetry ∨ row.leaseGeneration ≤ 0 ∨ row.attempts ≤ 0 ∨
    row.leaseGeneration < row.attempts ∨ row.leasedUntilMs.isSome = true ∨
    row.reconciliationReceipt.isSome = true ∨
    row.lastErrorClass ≠ some .ambiguousDispatch) .corruption
  let started ← okOr row.dispatchStartedAtMs .corruption
  failIf (started < acceptedAtMs ∨ row.availableAtMs < started) .corruption

/-- The arm `"reconciling"` (`command_bus.rs:9461-9483`). -/
def validateReconcilingMetadata :
    Except DispatchError Unit := do
  failIf (policy ≠ .reconcileBeforeRetry ∨ row.leaseGeneration ≤ 0 ∨ row.attempts ≤ 0 ∨
    row.leaseGeneration ≤ row.attempts ∨ row.leasedUntilMs.isNone = true ∨
    row.reconciliationReceipt.isSome = true ∨
    row.lastErrorClass ≠ some .ambiguousDispatch) .corruption
  let started ← okOr row.dispatchStartedAtMs .corruption
  let lease ← okOr row.leasedUntilMs .corruption
  failIf (started < acceptedAtMs ∨ row.availableAtMs < started ∨ lease ≤ row.availableAtMs)
    .corruption

/-- `validate_nonterminal_outbox_dispatch_metadata_inner`, `command_bus.rs:9350-9480` -/
def validateNonterminalInner : Except DispatchError Unit := do
  validateDispatchAttemptGeneration row
  match row.state with
  | .pending => validatePendingMetadata row acceptedAtMs policy
  | .claimed => validateClaimedMetadata row acceptedAtMs policy
  | .dispatching => validateDispatchingMetadata row acceptedAtMs allowExpiredDispatch
  | .reconcileRequired => validateReconcileRequiredMetadata row acceptedAtMs policy
  | .reconciling => validateReconcilingMetadata row acceptedAtMs policy
  | .settled | .failed | .cancelled | .uncertain => .error .corruption

/-- `validate_nonterminal_outbox_dispatch_metadata`, `command_bus.rs:9319-9325` -/
def validateNonterminalOutboxDispatchMetadata :
    Except DispatchError Unit :=
  validateNonterminalInner row acceptedAtMs policy false

/-- `validate_nonterminal_outbox_dispatch_metadata_for_attempt`, `command_bus.rs:9327-9348` -/
def validateNonterminalForAttempt : Except DispatchError Unit := do
  failIf (allowExpiredDispatch = true ∧
    (policy ≠ .noAutomaticRetry ∨ row.state ≠ .dispatching)) .corruption
  validateNonterminalInner row acceptedAtMs policy allowExpiredDispatch

/-- `validate_terminal_outbox_dispatch_metadata`, `command_bus.rs:9519-9548` -/
def validateTerminalOutboxDispatchMetadata (acceptedAtMs dispatchUpperBoundMs : ℤ)
    (wasReconciled : Bool) : Except DispatchError Unit := do
  validateDispatchAttemptGeneration row
  if row.attempts = 0 then
    failIf (row.dispatchStartedAtMs.isSome = true ∨
      row.leaseGeneration = 0 ∧ row.availableAtMs ≠ acceptedAtMs ∨
      0 < row.leaseGeneration ∧ row.availableAtMs < acceptedAtMs) .corruption
  else do
    let started ← okOr row.dispatchStartedAtMs .corruption
    failIf (row.availableAtMs < acceptedAtMs ∨ started < acceptedAtMs ∨
      wasReconciled = false ∧ row.availableAtMs > started ∨
      row.availableAtMs > dispatchUpperBoundMs ∨ started > dispatchUpperBoundMs) .corruption

/-- `terminal_outbox_error_class`, `command_bus.rs:9304-9317` -/
def terminalOutboxErrorClass : OperationStatus → Except DispatchError (Option ErrorClass)
  | .settled => .ok none
  | .failed => .ok (if row.attempts = 0 then some .staleFence else some .sideEffectFailed)
  | .cancelled => .ok (some .superseded)
  | .uncertain => .ok (some .ambiguousDispatch)
  | .accepted => .error .corruption

/-- What a row has of `validate_side_effect_active_outbox` (`command_bus.rs:9002-9047`). -/
def validateSideEffectActiveOutbox :
    Except DispatchError Unit := do
  validateNonterminalForAttempt row acceptedAtMs row.document.replayPolicy allowExpiredDispatch
  failIf (row.state = .pending ∧ row.lastErrorClass.isSome = true) .corruption

end Metadata

/-- The operation state a terminal row stands in. -/
def OutboxState.terminal? : OutboxState → Option OperationStatus
  | settled => some .settled
  | failed => some .failed
  | cancelled => some .cancelled
  | uncertain => some .uncertain
  | _ => none

/-- In `validate_side_effect_terminal_receipt`, `command_bus.rs:9246-9252` -/
def dispatchUpperBound (history : List HistoricalOutcome) (outcomeAtMs : ℤ) : ℤ :=
  (history.findSome? HistoricalOutcome.uncertainAt?).getD outcomeAtMs

/-- In `validate_side_effect_terminal_receipt`, `command_bus.rs:9253-9255` -/
def wasReconciled (history : List HistoricalOutcome) : Bool :=
  history.any fun fact => fact.uncertainAt?.isSome

/-- What a row has of `validate_side_effect_terminal_receipt` (`command_bus.rs:9224-9295`). -/
def validateSideEffectTerminalReceipt (row : OutboxRow) (operation : OperationRow)
    (history : List HistoricalOutcome) : Except DispatchError Unit := do
  let outcomeAtMs ← okOr operation.outcomeAtMs .corruption
  let expectedError ← terminalOutboxErrorClass row operation.state
  failIf (row.state.terminal? ≠ some operation.state ∨ row.leasedUntilMs.isSome = true ∨
    row.lastErrorClass ≠ expectedError ∨ row.leaseGeneration < 0 ∨
    row.reconciliationReceipt.isSome = true) .corruption
  validateTerminalOutboxDispatchMetadata row operation.acceptedAtMs
    (dispatchUpperBound history outcomeAtMs) (wasReconciled history)

end DevManager
