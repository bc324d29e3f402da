import DevManager.Kernel.Outcome

/-!
# The dispatch calls (`src/kernel/store.rs`)

The calls on a claim, on a permit and on a reconciliation claim, as functions of
the store. `DispatchCall` collects them with their arguments and `DispatchStore.call`
runs one as its own transaction.
-/

namespace DevManager

open Std

/-! ## Permits and claims -/

variable (row : OutboxRow)

/-- `build_dispatch_permit`, L3191-3211 -/
def buildDispatchPermit (document : PlannedEffectDocument)
    (fence : OperationFence) : Except DispatchError DispatchPermit := do
  let effectIndex ← row.effectIndexU32
  let resourceFence ← mapErr (ResourceFence.ofParts fence.resourceId fence.runtimeGeneration)
    fun _ => DispatchError.corruption
  let attempt ← row.attemptU64
  pure
    { row with
      effectIndex
      attempt := attempt
      document := document
      externalIdempotencyKey := externalIdempotencyKey row.operationId effectIndex
      actionEpoch := fence.actionEpoch
      resourceFence := resourceFence }

/-- `validate_dispatch_permit` (L3213-3235) and `validate_dispatch_permit_identity`
(`command_bus.rs:5291-5314`). -/
def validateDispatchPermit (permit : DispatchPermit)
    (document : PlannedEffectDocument) (fence : OperationFence) : Except DispatchError Unit := do
  let effectIndex ← row.effectIndexU32
  let attempt ← row.attemptU64
  let resourceFence ← mapErr (ResourceFence.ofParts fence.resourceId fence.runtimeGeneration)
    fun _ => DispatchError.corruption
  failIf (row.outboxId ≠ permit.outboxId ∨ row.leaseGeneration ≠ permit.leaseGeneration ∨
    row.operationId ≠ permit.operationId ∨ effectIndex ≠ permit.effectIndex ∨
    attempt ≠ permit.attempt ∨ document ≠ permit.document ∨
    externalIdempotencyKey row.operationId effectIndex ≠ permit.externalIdempotencyKey ∨
    fence.actionEpoch ≠ permit.actionEpoch ∨ resourceFence ≠ permit.resourceFence) .staleClaim

/-- `pending_dispatch_is_authorized`, L3261-3292 -/
def pendingDispatchIsAuthorized (policy : ReplayPolicy) :
    Except DispatchError Bool :=
  match policy with
  | .noAutomaticRetry =>
    .ok (row.document.effect.destinationClass = .providerInput && row.attempts = 0)
  | .retrySafe =>
    if row.attempts = 0 then .ok true
    else if row.leaseGeneration = 0 then .ok false
    else do
      failIf (row.reconciliationReceipt.isSome = true) .corruption
      pure true
  | .reconcileBeforeRetry =>
    if row.attempts = 0 then .ok true
    else if row.leaseGeneration = 0 then .ok false
    else do
      validateAbsenceAuthorization row
      pure true

/-- `build_reconciliation_claim`, L3294-3318 -/
def buildReconciliationClaim (document : PlannedEffectDocument)
    (fence : OperationFence) : Except DispatchError ReconciliationClaim := do
  let effectIndex ← row.effectIndexU32
  let completedAttempt ← row.attemptU64
  failIf (completedAttempt = 0) .corruption
  let resourceFence ← mapErr (ResourceFence.ofParts fence.resourceId fence.runtimeGeneration)
    fun _ => DispatchError.corruption
  pure
    { row with
      effectIndex
      completedAttempt := completedAttempt
      document := document
      lookupIdentity := externalIdempotencyKey row.operationId effectIndex
      actionEpoch := fence.actionEpoch
      resourceFence := resourceFence }

/-- `validate_reconciliation_claim_identity`, L3336-3354 -/
def validateReconciliationClaimIdentity (claim : ReconciliationClaim)
    (document : PlannedEffectDocument) : Except DispatchError Unit := do
  let effectIndex ← row.effectIndexU32
  let attempt ← row.attemptU64
  failIf (row.outboxId ≠ claim.outboxId ∨ row.leaseGeneration ≠ claim.leaseGeneration ∨
    row.operationId ≠ claim.operationId ∨ effectIndex ≠ claim.effectIndex ∨
    attempt ≠ claim.completedAttempt ∨ document ≠ claim.document ∨
    externalIdempotencyKey row.operationId effectIndex ≠ claim.lookupIdentity) .staleClaim

/-- `validate_reconciliation_claim`, L3320-3332 -/
def validateReconciliationClaim (claim : ReconciliationClaim)
    (document : PlannedEffectDocument) (fence : OperationFence) : Except DispatchError Unit := do
  validateReconciliationClaimIdentity row claim document
  let resourceFence ← mapErr (ResourceFence.ofParts fence.resourceId fence.runtimeGeneration)
    fun _ => DispatchError.corruption
  failIf (fence.actionEpoch ≠ claim.actionEpoch ∨ resourceFence ≠ claim.resourceFence) .staleClaim

/-- `verify_claim_generation` (L2893-2906), and for a reconciliation claim
`verify_reconciliation_claim_generation` (L4091-4104). -/
def verifyClaimGeneration (leaseGeneration nowMs : ℤ) :
    Except DispatchError Unit := do
  failIf (row.leaseGeneration ≠ leaseGeneration) .staleClaim
  let leasedUntil ← okOr row.leasedUntilMs .corruption
  failIf (leasedUntil ≤ nowMs) .expiredClaim

/-! ## Scans -/

/-- `ORDER BY available_at_ms, event_sequence, effect_index, outbox_id`. -/
def scanOrder (a b : OutboxRow) : Bool :=
  a.availableAtMs < b.availableAtMs ||
    a.availableAtMs = b.availableAtMs && (a.eventSequence < b.eventSequence ||
      a.eventSequence = b.eventSequence && (a.effectIndex < b.effectIndex ||
        a.effectIndex = b.effectIndex && a.outboxId.payload ≤ b.outboxId.payload))

/-- `leased_until_ms IS NULL OR leased_until_ms <= now`. -/
def OutboxRow.leaseEnded (nowMs : ℤ) : Bool :=
  row.leasedUntilMs.all fun leasedUntil => leasedUntil ≤ nowMs

namespace DispatchStore

variable (s : DispatchStore)

/-- `JOIN operations op … WHERE op.state = 'accepted'`. -/
def operationAccepted (row : OutboxRow) : Bool :=
  match s.operations[row.operationId]? with
  | some operation => operation.state = .accepted
  | none => false

/-- The rows of `load_next_dispatch_candidate` (L2982-3099). -/
def dispatchCandidate (nowMs : ℤ) (destination : Option DestinationClass) (row : OutboxRow) :
    Bool :=
  s.operationAccepted row && (row.state = .pending && row.availableAtMs ≤ nowMs ||
      row.state = .claimed && row.availableAtMs ≤ nowMs && row.leaseEnded nowMs) &&
    destination.all fun destination => row.document.effect.destinationClass = destination

/-- The rows of `load_next_expired_dispatch_candidate` (L3825-3877). -/
def expiredCandidate (nowMs : ℤ) (row : OutboxRow) : Bool :=
  s.operationAccepted row && row.state = .dispatching && row.leaseEnded nowMs

/-- The rows of `load_next_reconciliation_candidate` (L3960-4023). -/
def reconciliationCandidate (nowMs : ℤ) (row : OutboxRow) : Bool :=
  s.operationAccepted row && (row.state = .reconcileRequired && row.availableAtMs ≤ nowMs ||
      row.state = .reconciling && row.availableAtMs ≤ nowMs && row.leaseEnded nowMs)

/-- The ids a scan visits. Each query of a scan starts strictly after the row of the one before, so
the scan goes through the candidates in order. -/
def scan (candidate : OutboxRow → Bool) : List OutboxId :=
  (((s.outbox.toList.map Prod.snd).filter candidate).mergeSort scanOrder).map (·.outboxId)

end DispatchStore

/-! ## Claiming a dispatch -/

/-- `RetiredDispatch`, L3391-3396 -/
structure RetiredDispatch where
  outboxId : OutboxId
  operationId : OperationId
  taskId : TaskId
  check : StaleFenceCheck

section Calls

variable (ambient : Ambient) (s : DispatchStore) (row : OutboxRow) (nowMs leaseMs : ℤ)

/-- `claim_outbox_row`, L3356-3384 -/
def claimOutboxRow
    (expectedState : OutboxState) : Except DispatchError (DispatchStore × DispatchClaim) := do
  let leasedUntil ← leaseDeadline nowMs leaseMs
  let nextGeneration ← okOr (checkedAddI64 row.leaseGeneration 1) .corruption
  let s ← s.updateOutbox row.outboxId
    (fun r => r.state = expectedState ∧ r.leaseGeneration = row.leaseGeneration)
    (fun r => { r with
      state := .claimed, leaseGeneration := nextGeneration, leasedUntilMs := some leasedUntil })
    .invalidDispatchTransition
  pure (s, ⟨row.outboxId, nextGeneration⟩)

/-- `retire_stale_candidate`, L3449-3473 -/
def retireStaleCandidate (nowMs : ℤ)
    (retirePermanentlyStale : Bool) :
    Except DispatchError (DispatchStore × Option RetiredDispatch) := do
  if retirePermanentlyStale = false then pure (s, none)
  else do
    let check ← classifyStaleDispatchFence ambient s row.operationId row.outboxId
    match check with
    | none => pure (s, none)
    | some check =>
      if check.isPermanent = false then pure (s, none)
      else do
        let operation ← okOr s.operations[row.operationId]? .corruption
        let s ← retireStaleFencedDispatchInTx s row check nowMs
        pure (s, some ⟨row.outboxId, row.operationId, operation.taskId, check⟩)

/-- The loop of `claim_next_dispatch_in_tx` (L3407-3445) over the ids of its scan. -/
def claimNextDispatchLoop (nowMs leaseMs : ℤ) (destination : Option DestinationClass)
    (retirePermanentlyStale : Bool) : List OutboxId → DispatchStore → Bool →
      List RetiredDispatch →
      Except DispatchError (DispatchStore × Option DispatchClaim × List RetiredDispatch)
  | [], s, sawStaleFence, retired =>
    if sawStaleFence = true ∧ retired = [] then .error .staleFence else .ok (s, none, retired)
  | id :: ids, s, sawStaleFence, retired =>
    match s.outbox[id]?.filter (s.dispatchCandidate nowMs destination) with
    | none =>
      claimNextDispatchLoop nowMs leaseMs destination retirePermanentlyStale ids s sawStaleFence
        retired
    | some row =>
      match revalidateOutboxEffect ambient s row with
      | .error .staleFence =>
        match retireStaleCandidate ambient s row nowMs retirePermanentlyStale with
        | .error error => .error error
        | .ok (s, some entry) =>
          claimNextDispatchLoop nowMs leaseMs destination retirePermanentlyStale ids s
            sawStaleFence (retired ++ [entry])
        | .ok (s, none) =>
          claimNextDispatchLoop nowMs leaseMs destination retirePermanentlyStale ids s true retired
      | .error error => .error error
      | .ok (document, _) =>
        match row.state with
        | .pending =>
          match pendingDispatchIsAuthorized row document.replayPolicy with
          | .error error => .error error
          | .ok false =>
            claimNextDispatchLoop nowMs leaseMs destination retirePermanentlyStale ids s
              sawStaleFence retired
          | .ok true => do
            let (s, claim) ← claimOutboxRow s row nowMs leaseMs .pending
            pure (s, some claim, retired)
        | .claimed => do
          let (s, claim) ← claimOutboxRow s row nowMs leaseMs .claimed
          pure (s, some claim, retired)
        | _ => .error .corruption

/-- `claim_next_dispatch_in_tx`, L3399-3445 -/
def claimNextDispatchInTx (destination : Option DestinationClass) (retirePermanentlyStale : Bool) :
    Except DispatchError (DispatchStore × Option DispatchClaim × List RetiredDispatch) :=
  claimNextDispatchLoop ambient nowMs leaseMs destination retirePermanentlyStale
    (s.scan (s.dispatchCandidate nowMs destination)) s false []

/-! ## Calls on a dispatch claim and on a permit -/

/-- `release_dispatch_claim_in_tx`, L3621-3649 -/
def releaseDispatchClaimInTx (claim : DispatchClaim) (nowMs delayMs : ℤ) :
    Except DispatchError DispatchStore := do
  let row ← okOr s.outbox[claim.outboxId]? .staleClaim
  failIf (row.state ≠ .claimed) .invalidDispatchTransition
  let _ ← revalidateOutboxEffect ambient s row
  verifyClaimGeneration row claim.leaseGeneration nowMs
  let availableAt ← leaseDeadline (max nowMs row.availableAtMs) delayMs
  s.updateOutbox claim.outboxId
    (fun r => r.state = .claimed ∧ r.leaseGeneration = claim.leaseGeneration)
    (fun r => { r with state := .pending, leasedUntilMs := none, availableAtMs := availableAt })
    .invalidDispatchTransition

/-- `renew_dispatch_claim_in_tx`, L3650-3681 -/
def renewDispatchClaimInTx (nowMs : ℤ) (claim : DispatchClaim)
    (leaseMs : ℤ) : Except DispatchError (DispatchStore × DispatchClaim) := do
  let row ← okOr s.outbox[claim.outboxId]? .staleClaim
  failIf (row.state ≠ .claimed ∧ row.state ≠ .dispatching) .invalidDispatchTransition
  let _ ← revalidateOutboxEffect ambient s row
  verifyClaimGeneration row claim.leaseGeneration nowMs
  let prior ← okOr row.leasedUntilMs .staleClaim
  let leasedUntil ← renewedLeaseDeadline nowMs prior leaseMs
  let s ← s.updateOutbox claim.outboxId (fun r => r.leaseGeneration = claim.leaseGeneration ∧
      (r.state = .claimed ∨ r.state = .dispatching))
    (fun r => { r with leasedUntilMs := some leasedUntil }) .staleClaim
  pure (s, claim)

/-- `begin_dispatch_in_tx`, L3683-3721 -/
def beginDispatchInTx (nowMs : ℤ) (claim : DispatchClaim) :
    Except DispatchError (DispatchStore × DispatchPermit) := do
  let row ← okOr s.outbox[claim.outboxId]? .staleClaim
  failIf (row.state ≠ .claimed) .invalidDispatchTransition
  let (document, fence) ← revalidateOutboxEffect ambient s row
  verifyClaimGeneration row claim.leaseGeneration nowMs
  let dispatchStartedAt := max nowMs row.availableAtMs
  let leasedUntil ← okOr row.leasedUntilMs .corruption
  failIf (dispatchStartedAt ≥ leasedUntil) .corruption
  let nextAttempts ← okOr (checkedAddI64 row.attempts 1) .corruption
  let begun (r : OutboxRow) : OutboxRow :=
    { r with
      state := .dispatching, attempts := nextAttempts,
      dispatchStartedAtMs := some dispatchStartedAt, reconciliationReceipt := none }
  let s ← s.updateOutbox claim.outboxId
    (fun r => r.state = .claimed ∧ r.leaseGeneration = claim.leaseGeneration) begun
    .invalidDispatchTransition
  let permit ← buildDispatchPermit (begun row) document fence
  pure (s, permit)

/-- `defer_dispatch_before_boundary_in_tx`, L3723-3756 -/
def deferDispatchBeforeBoundaryInTx (permit : DispatchPermit)
    (nowMs delayMs : ℤ) : Except DispatchError DispatchStore := do
  let row ← okOr s.outbox[permit.outboxId]? .staleClaim
  let (document, fence) ← revalidateAmbiguityEffect ambient s row
  validateDispatchPermit row permit document fence
  failIf (row.state ≠ .dispatching ∨ row.attempts ≤ 0) .invalidDispatchTransition
  let restoredAttempts ← okOr (checkedAddI64 row.attempts (-1)) .corruption
  let availableAt ← leaseDeadline (max nowMs row.availableAtMs) delayMs
  s.updateOutbox permit.outboxId
    (fun r => r.state = .dispatching ∧ r.leaseGeneration = permit.leaseGeneration ∧
      r.attempts = row.attempts)
    (fun r => { r with
      state := .pending, attempts := restoredAttempts, dispatchStartedAtMs := none,
      leasedUntilMs := none, availableAtMs := availableAt, reconciliationReceipt := none })
    .invalidDispatchTransition

/-- The state and the error class that a scheduled retry or reconciliation gives a row. -/
def ambiguousState : ReplayPolicy → OutboxState × Option ErrorClass
  | .retrySafe => (.pending, none)
  | .reconcileBeforeRetry => (.reconcileRequired, some .ambiguousDispatch)
  | .noAutomaticRetry => (.uncertain, some .ambiguousDispatch)

/-- `record_dispatch_ambiguity_in_tx`, L3758-3825 -/
def recordDispatchAmbiguityInTx (permit : DispatchPermit)
    (nowMs delayMs : ℤ) : Except DispatchError (DispatchStore × AmbiguityDisposition) := do
  let row ← okOr s.outbox[permit.outboxId]? .staleClaim
  let (document, fence) ← revalidateAmbiguityEffect ambient s row
  validateDispatchPermit row permit document fence
  let disposition := ambiguityDisposition document.replayPolicy
  if row.state = (ambiguousState document.replayPolicy).1 then pure (s, disposition)
  else do
    failIf (row.state ≠ .dispatching) .invalidDispatchTransition
    failIf (row.reconciliationReceipt.isSome = true) .corruption
    if disposition = .uncertain then do
      let s ← recordNoRetryDispatchUncertaintyInTx ambient s row document fence nowMs
      pure (s, disposition)
    else do
      let startedAt ← okOr row.dispatchStartedAtMs .corruption
      let availableAt ← leaseDeadline (max (max nowMs startedAt) row.availableAtMs) delayMs
      let s ← s.updateOutbox row.outboxId
        (fun r => r.state = .dispatching ∧ r.leaseGeneration = row.leaseGeneration ∧
          r.attempts = row.attempts)
        (fun r => { r with
          state := (ambiguousState document.replayPolicy).1, availableAtMs := availableAt,
          leasedUntilMs := none, lastErrorClass := (ambiguousState document.replayPolicy).2,
          reconciliationReceipt := none })
        .staleClaim
      pure (s, disposition)

/-- What `recover_next_expired_dispatch_in_tx` (L3895-3957) does with the row it finds. -/
def recoverExpiredDispatch
    (document : PlannedEffectDocument) (fence : OperationFence) (nowMs delayMs : ℤ) :
    Except DispatchError (DispatchStore × AmbiguityDisposition) := do
  failIf (row.state ≠ .dispatching ∨ row.attempts ≤ 0 ∨
    row.reconciliationReceipt.isSome = true) .corruption
  let leasedUntil ← okOr row.leasedUntilMs .corruption
  failIf (leasedUntil > nowMs) .invalidDispatchTransition
  let disposition := ambiguityDisposition document.replayPolicy
  if disposition = .uncertain then do
    let s ← recordNoRetryDispatchUncertaintyInTx ambient s row document fence nowMs
    pure (s, disposition)
  else do
    let startedAt ← okOr row.dispatchStartedAtMs .corruption
    let availableAt ← leaseDeadline (max (max nowMs startedAt) row.availableAtMs) delayMs
    let nextGeneration ← okOr (checkedAddI64 row.leaseGeneration 1) .corruption
    let s ← s.updateOutbox row.outboxId
      (fun r => r.state = .dispatching ∧ r.leaseGeneration = row.leaseGeneration ∧
        r.attempts = row.attempts ∧ r.leasedUntilMs = some leasedUntil)
      (fun r => { r with
        state := (ambiguousState document.replayPolicy).1, availableAtMs := availableAt,
        leasedUntilMs := none, lastErrorClass := (ambiguousState document.replayPolicy).2,
        reconciliationReceipt := none, leaseGeneration := nextGeneration })
      .staleClaim
    pure (s, disposition)

/-- The loop of `recover_next_expired_dispatch_in_tx` (L3879-3958). -/
def recoverNextExpiredLoop (nowMs delayMs : ℤ) (s : DispatchStore) : List OutboxId → Bool →
    Except DispatchError (DispatchStore × Option (OutboxId × AmbiguityDisposition))
  | [], sawStaleFence => if sawStaleFence = true then .error .staleFence else .ok (s, none)
  | id :: ids, sawStaleFence =>
    match s.outbox[id]?.filter (s.expiredCandidate nowMs) with
    | none => recoverNextExpiredLoop nowMs delayMs s ids sawStaleFence
    | some row =>
      match revalidateAmbiguityEffect ambient s row with
      | .error .staleFence => recoverNextExpiredLoop nowMs delayMs s ids true
      | .error error => .error error
      | .ok (document, fence) => do
        let (s, disposition) ← recoverExpiredDispatch ambient s row document fence nowMs delayMs
        pure (s, some (row.outboxId, disposition))

/-- `recover_next_expired_dispatch_in_tx` (L3879-3958), with the row it recovered. -/
def recoverNextExpiredDispatchInTx (nowMs delayMs : ℤ) :
    Except DispatchError (DispatchStore × Option (OutboxId × AmbiguityDisposition)) :=
  recoverNextExpiredLoop ambient nowMs delayMs s (s.scan (s.expiredCandidate nowMs)) false

end Calls

end DevManager
