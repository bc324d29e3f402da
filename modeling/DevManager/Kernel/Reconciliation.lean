import DevManager.Kernel.DispatchCalls
import DevManager.Lib.Machine

/-!
# Reconciliation, completion and runs of dispatch calls (`src/kernel/store.rs`)

The calls on a reconciliation claim and the completion of a permit, then every call
with its arguments as a `DispatchCall`. A call runs with an arbitrary `Ambient`, so
a run interleaves any number of workers at arbitrary times, with whatever tokens
they hold.
-/

namespace DevManager

open Std

section Calls

variable (ambient : Ambient)

/-- The loop of `claim_next_reconciliation_in_tx` (L4025-4089). -/
def claimNextReconciliationLoop (nowMs leaseMs : ℤ) (s : DispatchStore) : List OutboxId → Bool →
    Except DispatchError (DispatchStore × Option ReconciliationClaim)
  | [], sawStaleFence => if sawStaleFence = true then .error .staleFence else .ok (s, none)
  | id :: ids, sawStaleFence =>
    match s.outbox[id]?.filter (s.reconciliationCandidate nowMs) with
    | none => claimNextReconciliationLoop nowMs leaseMs s ids sawStaleFence
    | some row =>
      match revalidateOutboxEffect ambient s row with
      | .error .staleFence => claimNextReconciliationLoop nowMs leaseMs s ids true
      | .error error => .error error
      | .ok (document, fence) => do
        failIf (document.replayPolicy ≠ .reconcileBeforeRetry ∨
          row.state ≠ .reconcileRequired ∧ row.state ≠ .reconciling) .corruption
        let leasedUntil ← leaseDeadline nowMs leaseMs
        let nextGeneration ← okOr (checkedAddI64 row.leaseGeneration 1) .corruption
        let claimed (r : OutboxRow) : OutboxRow :=
          { r with
            state := .reconciling, leaseGeneration := nextGeneration,
            leasedUntilMs := some leasedUntil }
        let s ← s.updateOutbox row.outboxId
          (fun r => r.state = row.state ∧ r.leaseGeneration = row.leaseGeneration) claimed
          .invalidDispatchTransition
        let claim ← buildReconciliationClaim (claimed row) document fence
        pure (s, some claim)

variable (s : DispatchStore)

/-- `claim_next_reconciliation_in_tx`, L4025-4089 -/
def claimNextReconciliationInTx (nowMs leaseMs : ℤ) :
    Except DispatchError (DispatchStore × Option ReconciliationClaim) :=
  claimNextReconciliationLoop ambient nowMs leaseMs s (s.scan (s.reconciliationCandidate nowMs))
    false

variable (claim : ReconciliationClaim)

/-- `renew_reconciliation_claim_in_tx`, L4106-4140 -/
def renewReconciliationClaimInTx
    (nowMs leaseMs : ℤ) : Except DispatchError (DispatchStore × ReconciliationClaim) := do
  let row ← okOr s.outbox[claim.outboxId]? .staleClaim
  failIf (row.state ≠ .reconciling) .invalidDispatchTransition
  let (document, fence) ← revalidateOutboxEffect ambient s row
  validateReconciliationClaim row claim document fence
  verifyClaimGeneration row claim.leaseGeneration nowMs
  let prior ← okOr row.leasedUntilMs .corruption
  let leasedUntil ← renewedLeaseDeadline nowMs prior leaseMs
  let s ← s.updateOutbox row.outboxId
    (fun r => r.state = .reconciling ∧ r.leaseGeneration = row.leaseGeneration ∧
      r.attempts = row.attempts)
    (fun r => { r with leasedUntilMs := some leasedUntil }) .staleClaim
  pure (s, claim)

/-- `release_reconciliation_claim_in_tx`, L4142-4185 -/
def releaseReconciliationClaimInTx (nowMs delayMs : ℤ) : Except DispatchError DispatchStore := do
  let row ← okOr s.outbox[claim.outboxId]? .staleClaim
  failIf (row.state ≠ .reconciling) .invalidDispatchTransition
  let (document, fence) ← revalidateOutboxEffect ambient s row
  validateReconciliationClaim row claim document fence
  verifyClaimGeneration row claim.leaseGeneration nowMs
  let startedAt ← okOr row.dispatchStartedAtMs .corruption
  let availableAt ← leaseDeadline (max (max nowMs startedAt) row.availableAtMs) delayMs
  let nextGeneration ← okOr (checkedAddI64 row.leaseGeneration 1) .corruption
  s.updateOutbox row.outboxId
    (fun r => r.state = .reconciling ∧ r.leaseGeneration = row.leaseGeneration ∧
      r.attempts = row.attempts)
    (fun r => { r with
      state := .reconcileRequired, availableAtMs := availableAt, leasedUntilMs := none,
      lastErrorClass := some .ambiguousDispatch, reconciliationReceipt := none,
      leaseGeneration := nextGeneration })
    .staleClaim

/-- `build_present_reconciliation_outcome`, L4327-4369 -/
def buildPresentReconciliationOutcome (finding : ReconciliationFinding) (occurredAtMs : ℤ) :
    Except DispatchError (Option OperationOutcome) :=
  let outcome (externalIdentity : String) (kind : OperationOutcomeKind) :
      Except DispatchError (Option OperationOutcome) := do
    let source ← mapErr (OutcomeSource.mkVerifiedReconciliation claim.effectIndex externalIdentity)
      fun _ => DispatchError.constraintViolation
    let outcome : OperationOutcome :=
      ⟨claim.operationId, occurredAtMs, claim.actionEpoch, claim.resourceFence, source, kind⟩
    mapErr outcome.validate fun _ => .constraintViolation
    pure (some outcome)
  match finding with
  | .presentSettled _ externalIdentity => do
    let resultEventIds ← settledResultIdsForCallback ambient s claim.operationId
    outcome externalIdentity (.settled resultEventIds)
  | .presentFailed _ externalIdentity code => outcome externalIdentity (.failed code)
  | .absent .. | .inconclusive .. => .ok none

variable (row : OutboxRow)

/-- The arm `Absent` of `record_reconciliation_in_tx` (L4214-4249). -/
def recordAbsent (lookupIdentity : ExternalKey)
    (retryAfter : ℕ) (provedAtMs : ℤ) : Except DispatchError DispatchStore := do
  let delayMs ← validateDispatchLeaseMs retryAfter
  let effectIndex ← row.effectIndexU32
  let completedAttempt ← row.attemptU64
  let receipt ← AbsenceReceiptDocument.new row.outboxId row.operationId effectIndex
    completedAttempt lookupIdentity provedAtMs
  let availableAt ← leaseDeadline provedAtMs delayMs
  s.updateOutbox row.outboxId
    (fun r => r.state = .reconciling ∧ r.leaseGeneration = row.leaseGeneration ∧
      r.attempts = row.attempts)
    (fun r => { r with
      state := .pending, availableAtMs := availableAt, leasedUntilMs := none,
      lastErrorClass := none, reconciliationReceipt := some receipt })
    .staleClaim

/-- The arm `Inconclusive` of `record_reconciliation_in_tx` (L4250-4275). -/
def recordInconclusive (retryAfter : ℕ)
    (observedAtMs : ℤ) : Except DispatchError DispatchStore := do
  let delayMs ← validateDispatchLeaseMs retryAfter
  let availableAt ← leaseDeadline observedAtMs delayMs
  s.updateOutbox row.outboxId
    (fun r => r.state = .reconciling ∧ r.leaseGeneration = row.leaseGeneration ∧
      r.attempts = row.attempts)
    (fun r => { r with
      state := .reconcileRequired, availableAtMs := availableAt, leasedUntilMs := none,
      lastErrorClass := some .ambiguousDispatch, reconciliationReceipt := none })
    .staleClaim

/-- The live part of `record_reconciliation_in_tx` (L4225-4283): the row is `reconciling`
under this claim. -/
def recordLiveReconciliation (claim : ReconciliationClaim)
    (document : PlannedEffectDocument) (finding : ReconciliationFinding) (nowMs : ℤ) :
    Except DispatchError (DispatchStore × OperationState) := do
  failIf (row.state ≠ .reconciling) .invalidDispatchTransition
  let leasedUntil ← okOr row.leasedUntilMs .corruption
  failIf (leasedUntil ≤ nowMs) .expiredClaim
  failIf (document.replayPolicy ≠ .reconcileBeforeRetry) .corruption
  let startedAt ← okOr row.dispatchStartedAtMs .corruption
  let provedAtMs := max (max nowMs startedAt) row.availableAtMs
  let presentOutcome ← buildPresentReconciliationOutcome ambient s claim finding provedAtMs
  match finding with
  | .absent lookupIdentity retryAfter => do
    let s ← recordAbsent s row lookupIdentity retryAfter provedAtMs
    pure (s, .accepted)
  | .inconclusive _ retryAfter => do
    let s ← recordInconclusive s row retryAfter provedAtMs
    pure (s, .accepted)
  | .presentSettled .. | .presentFailed .. => do
    let outcome ← okOr presentOutcome .invalidDispatchTransition
    recordPresentReconciliationInTx ambient s outcome row.outboxId row.leaseGeneration

/-- `record_reconciliation_in_tx`, L4186-4325 -/
def recordReconciliationInTx (finding : ReconciliationFinding) (nowMs : ℤ) :
    Except DispatchError (DispatchStore × OperationState) := do
  let row ← okOr s.outbox[claim.outboxId]? .staleClaim
  failIf (finding.lookupIdentity ≠ claim.lookupIdentity) .conflictingOutcome
  if row.state = .settled ∨ row.state = .failed then do
    validateReconciliationClaimIdentity row claim row.document
    let operation ← okOr s.operations[claim.operationId]? .corruption
    let outcomeAtMs ← okOr operation.outcomeAtMs .corruption
    let presentOutcome ← buildPresentReconciliationOutcome ambient s claim finding outcomeAtMs
    let outcome ← okOr presentOutcome .invalidDispatchTransition
    recordPresentReconciliationInTx ambient s outcome row.outboxId row.leaseGeneration
  else do
    let (document, fence) ← revalidateOutboxEffect ambient s row
    validateReconciliationClaim row claim document fence
    match row.state, finding with
    | .pending, .absent .. => do
      validateAbsenceAuthorization row
      pure (s, .accepted)
    | .reconcileRequired, .inconclusive .. => pure (s, .accepted)
    | _, _ => recordLiveReconciliation ambient s row claim document finding nowMs

/-! ## Completion (`command_bus.rs`) -/

/-- The time of a completion (`command_bus.rs:5140-5184`): a live one is revalidated and never
predates what its row records; a repeated one has the time of the outcome it repeats. -/
def completionTime (operation : OperationRow)
    (permit : DispatchPermit) (observedAtMs : ℤ) : Except DispatchError ℤ :=
  if operation.state = .accepted then do
    failIf (row.state ≠ .dispatching) .invalidDispatchTransition
    let (document, fence) ← validateDispatchCandidateLineage ambient s row.operationId row.outboxId
    validateDispatchPermit row permit document fence
    let startedAt ← okOr row.dispatchStartedAtMs .corruption
    pure (max (max (max observedAtMs operation.acceptedAtMs) row.availableAtMs) startedAt)
  else okOr operation.outcomeAtMs .corruption

/-- Only a write receipt that matches the effect settles a provider input
(`command_bus.rs:5186-5198`). A receipt is what `provider_input_receipt_matches_effect` answers
for it. -/
def requireProviderReceipt (operation : OperationRow)
    (receipt : Option (Effect → Bool)) : Except DispatchError Unit :=
  match row.document.effect with
  | .deliverProviderInput _ =>
    failIf (operation.state = .accepted ∧ (receipt.any fun r => r row.document.effect) = false)
      .invalidDispatchTransition
  | _ => .ok ()

/-- The kind of the outcome a completion reports (`command_bus.rs:5200-5206`). -/
def completionKind (permit : DispatchPermit) :
    DispatchCompletion → Except DispatchError OperationOutcomeKind
  | .settled => do
    let resultEventIds ← settledResultIdsForCallback ambient s permit.operationId
    pure (.settled resultEventIds)
  | .failed code => .ok (.failed code)
  | .cancelled reason => .ok (.cancelled reason)

/-- `record_dispatch_completion_with_provider_receipt_in_tx`, `command_bus.rs:5140-5216` -/
def recordDispatchCompletionInTx (permit : DispatchPermit)
    (completion : DispatchCompletion) (observedAtMs : ℤ) (receipt : Option (Effect → Bool)) :
    Except DispatchError (DispatchStore × OperationState) := do
  let row ← okOr s.outbox[permit.outboxId]? .staleClaim
  let operation ← okOr s.operations[row.operationId]? .corruption
  failIf (operation.state = .uncertain) .invalidDispatchTransition
  validateDispatchPermit row permit row.document operation.fence
  let occurredAtMs ← completionTime ambient s row operation permit observedAtMs
  requireProviderReceipt row operation receipt
  let kind ← completionKind ambient s permit completion
  let outcome : OperationOutcome :=
    ⟨permit.operationId, occurredAtMs, permit.actionEpoch, permit.resourceFence, .dispatch, kind⟩
  mapErr outcome.validate fun _ => .constraintViolation
  recordOutcomeInTx ambient s outcome

end Calls

/-! ## Runs -/

/-- A call with its arguments; durations are in nanoseconds. -/
inductive DispatchCall
  | execute (acceptance : SideEffectAcceptance)
  | claimNextDispatch (lease : ℕ)
  | claimNextDispatchForDestination (destination : DestinationClass) (lease : ℕ)
  | claimNextProviderInputDispatch (lease : ℕ)
  | releaseDispatchClaim (claim : DispatchClaim) (nextAvailable : ℕ)
  | renewDispatchClaim (claim : DispatchClaim) (lease : ℕ)
  | beginDispatch (claim : DispatchClaim)
  | deferDispatchBeforeBoundary (permit : DispatchPermit) (nextAvailable : ℕ)
  | recordDispatchCompletion (permit : DispatchPermit) (completion : DispatchCompletion)
  | settleProviderInputDelivery (permit : DispatchPermit) (receipt : Effect → Bool)
  | recordDispatchAmbiguity (permit : DispatchPermit) (retryAfter : ℕ)
  | recoverNextExpiredDispatch (retryAfter : ℕ)
  | claimNextReconciliation (lease : ℕ)
  | renewReconciliationClaim (claim : ReconciliationClaim) (lease : ℕ)
  | releaseReconciliationClaim (claim : ReconciliationClaim) (retryAfter : ℕ)
  | recordReconciliation (claim : ReconciliationClaim) (finding : ReconciliationFinding)

/-- What a call answers. -/
inductive DispatchAnswer
  | accepted
  | claimed (claim : Option DispatchClaim) (retired : List RetiredDispatch)
  | released
  | renewed (claim : DispatchClaim)
  | permitted (permit : DispatchPermit)
  | ambiguous (disposition : AmbiguityDisposition)
  | recovered (recovery : Option (OutboxId × AmbiguityDisposition))
  | reconciling (claim : Option ReconciliationClaim)
  | recorded (state : OperationState)

/-- `KernelStore::execute` of a side effect, and the calls of L601-905. Every call is one
transaction: on an error the store is the one before the call. -/
def DispatchStore.call (s : DispatchStore) (ambient : Ambient) :
    DispatchCall → Except DispatchError (DispatchStore × DispatchAnswer)
  | .execute acceptance => do
    let s ← persistSideEffectAcceptance ambient s acceptance
    pure (s, .accepted)
  | .claimNextDispatch lease => do
    let leaseMs ← validateDispatchLeaseMs lease
    let (s, claim, retired) ← claimNextDispatchInTx ambient s (← ambient.nowMs) leaseMs none false
    pure (s, .claimed claim retired)
  | .claimNextDispatchForDestination destination lease => do
    let leaseMs ← validateDispatchLeaseMs lease
    let (s, claim, retired) ←
      claimNextDispatchInTx ambient s (← ambient.nowMs) leaseMs (some destination) false
    pure (s, .claimed claim retired)
  | .claimNextProviderInputDispatch lease => do
    let leaseMs ← validateDispatchLeaseMs lease
    let (s, claim, retired) ←
      claimNextDispatchInTx ambient s (← ambient.nowMs) leaseMs (some .providerInput) true
    pure (s, .claimed claim retired)
  | .releaseDispatchClaim claim nextAvailable => do
    let delayMs ← validateDispatchLeaseMs nextAvailable
    let s ← releaseDispatchClaimInTx ambient s claim (← ambient.nowMs) delayMs
    pure (s, .released)
  | .renewDispatchClaim claim lease => do
    let leaseMs ← validateDispatchLeaseMs lease
    let (s, claim) ← renewDispatchClaimInTx ambient s (← ambient.nowMs) claim leaseMs
    pure (s, .renewed claim)
  | .beginDispatch claim => do
    let (s, permit) ← beginDispatchInTx ambient s (← ambient.nowMs) claim
    pure (s, .permitted permit)
  | .deferDispatchBeforeBoundary permit nextAvailable => do
    let delayMs ← validateDispatchLeaseMs nextAvailable
    let s ← deferDispatchBeforeBoundaryInTx ambient s permit (← ambient.nowMs) delayMs
    pure (s, .released)
  | .recordDispatchCompletion permit completion => do
    let (s, state) ← recordDispatchCompletionInTx ambient s permit completion (← ambient.nowMs) none
    pure (s, .recorded state)
  | .settleProviderInputDelivery permit receipt => do
    let (s, state) ←
      recordDispatchCompletionInTx ambient s permit .settled (← ambient.nowMs) (some receipt)
    pure (s, .recorded state)
  | .recordDispatchAmbiguity permit retryAfter => do
    let delayMs ← validateDispatchLeaseMs retryAfter
    let (s, disposition) ← recordDispatchAmbiguityInTx ambient s permit (← ambient.nowMs) delayMs
    pure (s, .ambiguous disposition)
  | .recoverNextExpiredDispatch retryAfter => do
    let delayMs ← validateDispatchLeaseMs retryAfter
    let (s, recovery) ← recoverNextExpiredDispatchInTx ambient s (← ambient.nowMs) delayMs
    pure (s, .recovered recovery)
  | .claimNextReconciliation lease => do
    let leaseMs ← validateDispatchLeaseMs lease
    let (s, claim) ← claimNextReconciliationInTx ambient s (← ambient.nowMs) leaseMs
    pure (s, .reconciling claim)
  | .renewReconciliationClaim claim lease => do
    let leaseMs ← validateDispatchLeaseMs lease
    let (s, claim) ← renewReconciliationClaimInTx ambient s claim (← ambient.nowMs) leaseMs
    pure (s, .reconciling (some claim))
  | .releaseReconciliationClaim claim retryAfter => do
    let delayMs ← validateDispatchLeaseMs retryAfter
    let s ← releaseReconciliationClaimInTx ambient s claim (← ambient.nowMs) delayMs
    pure (s, .released)
  | .recordReconciliation claim finding => do
    let (s, state) ← recordReconciliationInTx ambient s claim finding (← ambient.nowMs)
    pure (s, .recorded state)

/-- The dispatch system: it starts empty, and a step is any call with any answers from outside. A
call that returns an error changes nothing. -/
def dispatchMachine : Machine DispatchStore where
  init s := s = .empty
  step s t := ∃ ambient call answer, s.call ambient call = .ok (t, answer)

end DevManager
