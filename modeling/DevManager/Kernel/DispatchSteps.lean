import DevManager.Kernel.DispatchMoves

/-!
# The calls on a claim or a permit are runs of moves

One lemma for each call: when it succeeds, the token it holds was honoured, that
is, it names the current generation of its row, and the tables have moved as the
call says.
-/

namespace DevManager

open DispatchStore OperationOutcomeKind Option

/-- The row `id` stands at generation `generation`, and is not uncertain. -/
def DispatchStore.Honours (s : DispatchStore) (id : OutboxId) (generation : ℤ) : Prop :=
  ∃ row, s.outbox[id]? = some row ∧ row.leaseGeneration = generation ∧ row.state ≠ .uncertain

section Steps

variable {P : Prop} {ambient : Ambient} {s t : DispatchStore} {id : OutboxId}
  {row row' : OutboxRow} {document : PlannedEffectDocument} {fence : OperationFence}
  {operation : OperationRow} {nowMs leaseMs delayMs : ℤ} {claim : DispatchClaim}
  {permit : DispatchPermit}

namespace Revalidated

theorem moves (hr : Revalidated s row document fence operation) (hkey : s.Keyed)
    (hrow : s.outbox[id]? = some row) (hmove : RowMove P row row') :
    Moves P s { s with outbox := s.outbox.insert id row' } := by
  obtain rfl := hkey id row hrow
  exact .single (.row row row' operation hrow hr.stored hr.accepted hmove)

theorem honours (hr : Revalidated s row document fence operation)
    (hrow : s.outbox[id]? = some row) {generation : ℤ}
    (hgen : row.leaseGeneration = generation) : s.Honours id generation := by
  obtain ⟨_, hactive⟩ := hr.active
  have hstate := state_of_active hactive
  refine ⟨row, hrow, hgen, fun h => ?_⟩
  rw [h] at hstate
  cases hstate

end Revalidated

/-! ## Calls on a claim -/

theorem release_ok (hkey : s.Keyed) (hdelay : 0 < delayMs)
    (h : releaseDispatchClaimInTx ambient s claim nowMs delayMs = .ok t) :
    s.Honours claim.outboxId claim.leaseGeneration ∧ Moves P s t := by
  simp only [releaseDispatchClaimInTx, ok_iff, verifyClaimGeneration_eq_ok, updateOutbox_eq_ok] at h
  obtain ⟨row, hrow, hstate, ⟨document, fence⟩, hvalid, ⟨hgen, -⟩, available, havail,
    row', hrow', -, rfl⟩ := h
  obtain ⟨operation, hr⟩ := candidateLineage_ok hrow hvalid
  rw [hrow, some.injEq] at hrow'
  subst hrow'
  refine ⟨hr.honours hrow hgen, hr.moves hkey hrow (.release available hstate
    (le_leaseDeadline hdelay havail).2)⟩

theorem renew_ok {claim'} (hkey : s.Keyed)
    (h : renewDispatchClaimInTx ambient s nowMs claim leaseMs = .ok (t, claim')) :
    s.Honours claim.outboxId claim.leaseGeneration ∧ claim' = claim ∧ Moves P s t := by
  simp only [renewDispatchClaimInTx, renewedLeaseDeadline, ok_iff, not_and_or,
    verifyClaimGeneration_eq_ok, updateOutbox_eq_ok] at h
  obtain ⟨row, hrow, hstate, ⟨document, fence⟩, hvalid, ⟨hgen, -⟩, prior, hprior, until',
    ⟨deadline, -, huntil⟩, t', ⟨row', hrow', -, rfl⟩, rfl, hclaim⟩ := h
  obtain ⟨operation, hr⟩ := candidateLineage_ok hrow hvalid
  rw [hrow, some.injEq] at hrow'
  subst hrow'
  refine ⟨hr.honours hrow hgen, hclaim, hr.moves hkey hrow
    (.renew prior until' (hstate.elim .inl fun h => .inr (.inl h)) hprior ?_)⟩
  rw [huntil]
  exact le_max_left prior deadline

theorem begin_ok (hkey : s.Keyed) (h : beginDispatchInTx ambient s nowMs claim = .ok (t, permit)) :
    s.Honours claim.outboxId claim.leaseGeneration ∧ permit.outboxId = claim.outboxId ∧
      permit.leaseGeneration = claim.leaseGeneration ∧ Moves P s t := by
  simp only [beginDispatchInTx, ok_iff, verifyClaimGeneration_eq_ok,
    updateOutbox_eq_ok, ge_iff_le, not_le, buildDispatchPermit] at h
  obtain ⟨row, hrow, hstate, ⟨document, fence⟩, hvalid, ⟨hgen, -⟩, until', huntil, hlive,
    attempts, htries, t', ⟨row', hrow', -, rfl⟩, permit', ⟨index, -, resourceFence, -, attempt,
    -, rfl⟩, rfl, rfl⟩ := h
  obtain ⟨operation, hr⟩ := candidateLineage_ok hrow hvalid
  rw [hrow, some.injEq] at hrow'
  subst hrow'
  obtain rfl := checkedAddI64_eq_some htries
  exact ⟨hr.honours hrow hgen, hkey _ _ hrow, hgen, hr.moves hkey hrow
    (.begin _ until' hstate huntil (le_max_right _ _) hlive)⟩

/-! ## Calls on a permit -/

theorem validateDispatchPermit_ok (h : validateDispatchPermit row permit document fence = .ok ()) :
    row.leaseGeneration = permit.leaseGeneration ∧ row.operationId = permit.operationId := by
  simp only [validateDispatchPermit, ok_iff, not_or] at h
  obtain ⟨_, -, _, -, _, -, -, hgen, hop, -⟩ := h
  exact ⟨hgen, hop⟩

theorem defer_ok (hkey : s.Keyed) (hdelay : 0 < delayMs)
    (hP : P → ∀ row, s.outbox[permit.outboxId]? = some row → row.attempts ≤ 1)
    (h : deferDispatchBeforeBoundaryInTx ambient s permit nowMs delayMs = .ok t) :
    s.Honours permit.outboxId permit.leaseGeneration ∧ Moves P s t := by
  simp only [deferDispatchBeforeBoundaryInTx, ok_iff, not_or, not_le, updateOutbox_eq_ok] at h
  obtain ⟨row, hrow, ⟨document, fence⟩, hvalid, hpermit, ⟨hstate, htries⟩, restored, hres,
    available, havail, row', hrow', -, rfl⟩ := h
  obtain ⟨operation, hr⟩ := revalidateAmbiguity_ok hrow hvalid
  rw [hrow, some.injEq] at hrow'
  subst hrow'
  obtain rfl := checkedAddI64_eq_some hres
  refine ⟨hr.honours hrow (validateDispatchPermit_ok hpermit).1, hr.moves hkey hrow
    (.defer available hstate htries (le_leaseDeadline hdelay havail).2 fun p => hP p row hrow)⟩

theorem appendOutcome_ok {fact} (h : s.appendOutcome fact = .ok t) :
    ∃ operation, s.operations[fact.operationId]? = some operation ∧
      operation.acceptedAtMs ≤ fact.occurredAtMs ∧
      t = { s with
        operations := s.operations.insert fact.operationId (operation.withOutcome fact)
        outcomes := s.outcomes ++ [fact] } := by
  simp only [appendOutcome, ok_iff, not_lt] at h
  obtain ⟨-, operation, hop, htime, -, -, -, -, -, rfl⟩ := h
  exact ⟨operation, hop, htime, rfl⟩

theorem transitionOutbox_ok {expected next error}
    (h : s.transitionOutbox row expected next error = .ok t) :
    ∃ row', s.outbox[row.outboxId]? = some row' ∧ row'.state = expected ∧
      t = { s with outbox := s.outbox.insert row.outboxId (row'.ended next error) } := by
  simp only [transitionOutbox, updateOutbox_eq_ok] at h
  obtain ⟨row', hrow', ⟨hstate, -⟩, rfl⟩ := h
  exact ⟨row', hrow', hstate, rfl⟩

theorem noRetryUncertainty_ok (hrow : s.outbox[row.outboxId]? = some row)
    (hr : Revalidated s row document fence operation)
    (hP : P → ∀ startedAt, row.document.replayPolicy = .noAutomaticRetry →
      row.dispatchStartedAtMs = some startedAt → startedAt ≤ nowMs)
    (h : recordNoRetryDispatchUncertaintyInTx ambient s row document fence nowMs = .ok t) :
    Moves P s t ∧ ∃ row', t.outbox[row.outboxId]? = some row' ∧ row'.state = .uncertain := by
  simp only [recordNoRetryDispatchUncertaintyInTx, ok_iff, not_or] at h
  obtain ⟨⟨hpolicy, hstate, -⟩, operation', hop, -, -, _, -, -, -, _, -, s₁, happend, htrans⟩ := h
  rw [hr.stored, some.injEq] at hop
  subst hop
  obtain ⟨operation', hop, -, rfl⟩ := appendOutcome_ok happend
  obtain ⟨row', hrow', -, rfl⟩ := transitionOutbox_ok htrans
  simp only [HistoricalOutcome.operationId, hr.stored, some.injEq] at hop
  subst hop
  simp only [hrow, some.injEq] at hrow'
  subst hrow'
  obtain ⟨allowExpired, hactive⟩ := hr.active
  obtain ⟨-, startedAt, hstart⟩ := started_of_active hactive hstate
  rw [hr.document_eq] at hpolicy
  refine ⟨.single (.outcome row operation _ _ _ _ hrow hr.stored hr.accepted hr.only ?_
    (.uncertain _ startedAt hstate hstart hpolicy (le_max_right _ _) fun p => ?_)),
    row.ended .uncertain (some .ambiguousDispatch), by simp, rfl⟩
  · simp [HistoricalOutcome.operationId]
  · exact (hP p startedAt hpolicy hstart).trans (le_max_left _ _)

theorem scheduled_ok {startedAt availableAt generation : ℤ} (hkey : s.Keyed)
    (hrow : s.outbox[id]? = some row) (hr : Revalidated s row document fence operation)
    (hstate : row.state = .dispatching)
    (hpolicy : ambiguityDisposition document.replayPolicy ≠ .uncertain)
    (hstart : row.dispatchStartedAtMs = some startedAt) (hdelay : 0 < delayMs)
    (havail : leaseDeadline (max (max nowMs startedAt) row.availableAtMs) delayMs = .ok availableAt)
    (hgen : generation = row.leaseGeneration ∨ generation = row.leaseGeneration + 1) :
    Moves P s { s with
      outbox := s.outbox.insert id { row with
          state := (ambiguousState document.replayPolicy).1
          availableAtMs := availableAt
          leasedUntilMs := none
          lastErrorClass := (ambiguousState document.replayPolicy).2
          reconciliationReceipt := none
          leaseGeneration := generation } } := by
  have hdoc := hr.document_eq
  subst hdoc
  have hret : row.document.replayPolicy ≠ .noAutomaticRetry := by
    intro h
    rw [h] at hpolicy
    exact hpolicy rfl
  obtain ⟨hpost, hdue⟩ := le_leaseDeadline hdelay havail
  exact hr.moves hkey hrow (.retry startedAt _ generation hstate hret hstart
    ((le_max_right _ _).trans hpost) hdue hgen)

variable {disposition : AmbiguityDisposition}

theorem ambiguity_ok (hkey : s.Keyed) (hdelay : 0 < delayMs)
    (hP : P → ∀ row startedAt, s.outbox[permit.outboxId]? = some row →
      row.document.replayPolicy = .noAutomaticRetry →
      row.dispatchStartedAtMs = some startedAt → startedAt ≤ nowMs)
    (h : recordDispatchAmbiguityInTx ambient s permit nowMs delayMs = .ok (t, disposition)) :
    s.Honours permit.outboxId permit.leaseGeneration ∧ Moves P s t := by
  simp only [recordDispatchAmbiguityInTx, ok_iff] at h
  obtain ⟨row, hrow, ⟨document, fence⟩, hvalid, hpermit, h⟩ := h
  obtain ⟨operation, hr⟩ := revalidateAmbiguity_ok hrow hvalid
  refine ⟨hr.honours hrow (validateDispatchPermit_ok hpermit).1, ?_⟩
  obtain hid := hkey _ _ hrow
  split_ifs at h with hsame hunsure
  · cases h
    exact .refl
  · simp only [ok_iff] at h
    obtain ⟨-, -, t', h, rfl, -⟩ := h
    rw [← hid] at hrow hP
    exact (noRetryUncertainty_ok hrow hr (fun p startedAt => hP p row startedAt hrow) h).1
  · simp only [ok_iff, updateOutbox_eq_ok] at h
    obtain ⟨hstate, -, startedAt, hstart, available, havail, t', ⟨row', hrow', -, rfl⟩, rfl, -⟩ := h
    rw [← hid] at hrow
    rw [hrow, some.injEq] at hrow'
    subst hrow'
    exact scheduled_ok hkey hrow hr hstate hunsure hstart hdelay havail (.inl rfl)

theorem recoverExpired_ok (hkey : s.Keyed)
    (hdelay : 0 < delayMs) (hrow : s.outbox[row.outboxId]? = some row)
    (hr : Revalidated s row document fence operation)
    (hP : P → ∀ startedAt leasedUntil, row.dispatchStartedAtMs = some startedAt →
      row.leasedUntilMs = some leasedUntil → startedAt < leasedUntil)
    (h : recoverExpiredDispatch ambient s row document fence nowMs delayMs = .ok (t, disposition)) :
    Moves P s t ∧ ∃ row', t.outbox[row.outboxId]? = some row' ∧
      (row.leaseGeneration < row'.leaseGeneration ∨ row'.state = .uncertain) := by
  simp only [recoverExpiredDispatch, ok_iff, not_or] at h
  obtain ⟨⟨hstate, -⟩, leasedUntil, hleased, hexp, h⟩ := h
  split_ifs at h with hunsure
  · simp only [ok_iff] at h
    obtain ⟨t', h, rfl, -⟩ := h
    obtain ⟨hmoves, row', hrow', hstate'⟩ := noRetryUncertainty_ok (P := P) hrow hr
      (fun p startedAt _ hstart => by
        have := hP p startedAt leasedUntil hstart hleased
        omega) h
    exact ⟨hmoves, row', hrow', .inr hstate'⟩
  · simp only [ok_iff, updateOutbox_eq_ok] at h
    obtain ⟨startedAt, hstart, available, havail, generation, hgen, t',
      ⟨row', hrow', -, rfl⟩, rfl, -⟩ := h
    rw [hrow, some.injEq] at hrow'
    subst hrow'
    have hnext : generation = row.leaseGeneration + 1 := checkedAddI64_eq_some hgen
    refine ⟨scheduled_ok hkey hrow hr hstate hunsure hstart hdelay havail (.inr hnext),
      _, by rw [OrdMap.getElem?_insert_eq, if_pos rfl], .inl ?_⟩
    show row.leaseGeneration < generation
    omega

/-! ## Outcomes -/

namespace OperationOutcome

variable {outcome : OperationOutcome} {commandId : CommandId}

@[simp] theorem fact_operationId : (outcome.fact commandId).operationId = outcome.operationId := by
  unfold fact
  cases outcome.kind <;> rfl

@[simp] theorem fact_occurredAtMs : (outcome.fact commandId).occurredAtMs =
    outcome.occurredAtMs := by
  unfold fact
  cases outcome.kind <;> rfl

@[simp] theorem fact_status : (outcome.fact commandId).status = outcome.kind.status := by
  unfold fact
  cases outcome.kind <;> rfl

end OperationOutcome

theorem rowState_terminal (kind : OperationOutcomeKind) :
    kind.rowState.1.terminal? = some kind.status := by
  cases kind <;> rfl

theorem rowState_class (kind : OperationOutcomeKind) (htries : row.attempts ≠ 0) :
    terminalOutboxErrorClass row kind.status = .ok kind.rowState.2 := by
  cases kind with
  | settled _ => rfl
  | cancelled _ => rfl
  | uncertain _ => rfl
  | failed _ => simp [terminalOutboxErrorClass, status,
      rowState, htries]

theorem applyNewOutcome_ok {commandId outcome expected state}
    (h : applyNewOutcome ambient s commandId outcome row expected = .ok (t, state)) :
    (outcome.source = .dispatch → 0 < row.attempts →
      ∃ startedAt, row.dispatchStartedAtMs = some startedAt ∧ startedAt ≤ outcome.occurredAtMs) ∧
    ∃ operation row', s.operations[outcome.operationId]? = some operation ∧
      s.outbox[row.outboxId]? = some row' ∧
      t =
        { operations := s.operations.insert outcome.operationId
            (operation.withOutcome (outcome.fact commandId))
          outbox := s.outbox.insert row.outboxId
            (row'.ended outcome.kind.rowState.1 outcome.kind.rowState.2)
          outcomes := s.outcomes ++ [outcome.fact commandId] } := by
  simp only [applyNewOutcome, ok_iff] at h
  obtain ⟨hstart, -, s₁, happend, s₂, htrans, rfl, -⟩ := h
  constructor
  · intro hsrc htries
    rw [requireStarted, if_pos ⟨hsrc, htries⟩] at hstart
    simpa only [ok_iff, not_lt, gt_iff_lt] using hstart
  · obtain ⟨operation, hop, -, rfl⟩ := appendOutcome_ok happend
    obtain ⟨row', hrow', -, rfl⟩ := transitionOutbox_ok htrans
    rw [OperationOutcome.fact_operationId] at hop ⊢
    exact ⟨operation, row', hop, hrow', rfl⟩

theorem loadOutcomeOperation_ok {operationId}
    (h : loadOutcomeOperation s operationId = .ok operation) :
    s.operations[operationId]? = some operation := by
  unfold loadOutcomeOperation at h
  split at h
  · rename_i stored hstored
    cases h
    exact hstored
  · split_ifs at h

variable {outcome : OperationOutcome} {state : OperationState}

theorem recordOutcome_ok (hrow : s.outbox[row.outboxId]? = some row)
    (hopId : row.operationId = outcome.operationId) (hsrc : outcome.source = .dispatch)
    (hkind : outcome.kind.status ≠ .uncertain)
    (h : recordOutcomeInTx ambient s outcome = .ok (t, state)) : Moves P s t := by
  simp only [recordOutcomeInTx, ok_iff] at h
  obtain ⟨-, operation, hoperation, hrec, h⟩ := h
  obtain hstored := loadOutcomeOperation_ok hoperation
  split at h
  · rename_i only honly
    rw [← hopId] at honly
    have hsame : only = row := loadOutboxRows_of_single hrow honly
    subst hsame
    simp only [ok_iff] at h
    obtain ⟨-, h⟩ := h
    split_ifs at h with hmatch
    · simp only [ok_iff] at h
      obtain ⟨_, -, rfl, -⟩ := h
      exact .refl
    · cases hstate : operation.state with
      | accepted =>
        simp only [hstate, ok_iff] at h
        obtain ⟨-, -, -, hdisp, -, -, h⟩ := h
        rw [← hopId] at hrec
        obtain ⟨-, hactive⟩ := acceptedReceipt_ok hrec hstate honly
        obtain ⟨htries, -⟩ := started_of_active hactive hdisp
        obtain ⟨hstart, operation', row', hop, hrow', rfl⟩ := applyNewOutcome_ok h
        obtain ⟨startedAt, hstarted, hpost⟩ := hstart hsrc htries
        rw [hstored, some.injEq] at hop
        subst hop
        rw [hrow, some.injEq] at hrow'
        subst hrow'
        rw [← hopId]
        rw [← hopId] at hstored
        refine .single (.outcome only operation _ _ _ _ hrow hstored hstate honly ?_
          (.completed _ startedAt _ _ hdisp hstarted ?_ ?_ ?_ ?_))
        · simpa using hopId.symm
        · simpa using hpost
        · simpa using rowState_terminal outcome.kind
        · simpa using hkind
        · simpa using rowState_class outcome.kind
      | uncertain =>
        simp only [hstate, hsrc, bind_eq_ok, reduceCtorEq, and_false, exists_const] at h
      | settled | failed | cancelled => simp [hstate] at h
  · cases h
  · cases h

theorem recordOutcome_state
    (hrow : s.outbox[row.outboxId]? = some row) (hopId : row.operationId = outcome.operationId)
    (hop : s.operations[outcome.operationId]? = some operation)
    (h : recordOutcomeInTx ambient s outcome = .ok (t, state)) :
    (operation.state = .accepted → row.state.terminal? = none) ∧
      (operation.state ≠ .accepted → row.state.terminal? = some operation.state) := by
  simp only [recordOutcomeInTx, ok_iff] at h
  obtain ⟨-, operation', hstored, hrec, h⟩ := h
  rw [loadOutcomeOperation_ok hstored, some.injEq] at hop
  subst hop
  split at h
  · rename_i only honly
    rw [← hopId] at honly
    have hsame : only = row := loadOutboxRows_of_single hrow honly
    subst hsame
    rw [← hopId] at hrec
    constructor
    · intro hacc
      exact state_of_active (acceptedReceipt_ok hrec hacc honly).2
    · intro hended
      simp only [validateSideEffectAcceptedReceipt, honly, ok_iff] at hrec
      obtain ⟨_, hrec⟩ := hrec
      cases hstate : operation'.state with
      | accepted => exact absurd hstate hended
      | settled | failed | cancelled | uncertain =>
        simp only [hstate, validateSideEffectTerminalReceipt, ok_iff, not_or] at hrec
        obtain ⟨_, -, _, -, ⟨hterminal, -⟩, -⟩ := hrec
        exact hterminal
  · cases h
  · cases h

theorem completion_ok {completion} {receipt : Option (Effect → Bool)} {state} (hkeyed : s.Keyed)
    (h : recordDispatchCompletionInTx ambient s permit completion nowMs receipt = .ok (t, state)) :
    s.Honours permit.outboxId permit.leaseGeneration ∧ Moves P s t := by
  simp only [recordDispatchCompletionInTx, ok_iff] at h
  obtain ⟨row, hrow, operation, hop, hcertain, hpermit, occurredAtMs, -, -, kind, hkind, -, h⟩ := h
  obtain ⟨hgen, hid⟩ := validateDispatchPermit_ok hpermit
  have hkey := hkeyed _ _ hrow
  constructor
  · rw [hid] at hop
    rw [← hkey] at hrow
    obtain ⟨hlive, hended⟩ := recordOutcome_state hrow hid hop h
    rw [hkey] at hrow
    refine ⟨row, hrow, hgen, fun hstate => ?_⟩
    rw [hstate] at hlive hended
    by_cases hacc : operation.state = .accepted
    · cases hlive hacc
    · exact hcertain (some.inj (hended hacc)).symm
  · rw [← hkey] at hrow
    refine recordOutcome_ok hrow hid rfl ?_ h
    cases completion with
    | settled =>
      simp only [completionKind, ok_iff] at hkind
      obtain ⟨_, -, rfl⟩ := hkind
      simp [status]
    | failed | cancelled =>
      cases hkind
      simp [status]

/-! ## Reconciliation -/

variable {claim : ReconciliationClaim}

theorem validateReconciliationClaimIdentity_ok
    (h : validateReconciliationClaimIdentity row claim document = .ok ()) :
    row.leaseGeneration = claim.leaseGeneration ∧ row.operationId = claim.operationId ∧
      ∃ effectIndex, row.effectIndexU32 = .ok effectIndex ∧
        externalIdempotencyKey row.operationId effectIndex = claim.lookupIdentity := by
  simp only [validateReconciliationClaimIdentity, ok_iff, not_or] at h
  obtain ⟨effectIndex, hidx, _, -, -, hgen, hop, -, -, -, hkey⟩ := h
  exact ⟨hgen, hop, effectIndex, hidx, hkey⟩

theorem validateReconciliationClaim_ok
    (h : validateReconciliationClaim row claim document fence = .ok ()) :
    row.leaseGeneration = claim.leaseGeneration ∧ row.operationId = claim.operationId ∧
      ∃ effectIndex, row.effectIndexU32 = .ok effectIndex ∧
        externalIdempotencyKey row.operationId effectIndex = claim.lookupIdentity := by
  simp only [validateReconciliationClaim, ok_iff] at h
  exact validateReconciliationClaimIdentity_ok h.1

theorem renewReconciliation_ok {claim claim'} (hkey : s.Keyed)
    (h : renewReconciliationClaimInTx ambient s claim nowMs leaseMs = .ok (t, claim')) :
    s.Honours claim.outboxId claim.leaseGeneration ∧ claim' = claim ∧ Moves P s t := by
  simp only [renewReconciliationClaimInTx, renewedLeaseDeadline, ok_iff, updateOutbox_eq_ok] at h
  obtain ⟨row, hrow, hstate, ⟨document, fence⟩, hvalid, hclaim, -, prior, hprior, until',
    ⟨deadline, -, huntil⟩, t', ⟨row', hrow', -, rfl⟩, rfl, hsame⟩ := h
  obtain ⟨operation, hr⟩ := candidateLineage_ok hrow hvalid
  refine ⟨hr.honours hrow (validateReconciliationClaim_ok hclaim).1, hsame, ?_⟩
  rw [← hkey _ _ hrow] at hrow
  rw [hrow, some.injEq] at hrow'
  subst hrow'
  refine hr.moves hkey hrow (.renew prior until' (.inr (.inr hstate)) hprior ?_)
  rw [huntil]
  exact le_max_left prior deadline

theorem unresolved_ok {startedAt availableAt generation : ℤ} (hkey : s.Keyed)
    (hrow : s.outbox[row.outboxId]? = some row) (hr : Revalidated s row document fence operation)
    (hstate : row.state = .reconciling) (hstart : row.dispatchStartedAtMs = some startedAt)
    (hdelay : 0 < delayMs)
    (havail : leaseDeadline (max (max nowMs startedAt) row.availableAtMs) delayMs = .ok availableAt)
    (hgen : generation = row.leaseGeneration ∨ generation = row.leaseGeneration + 1) :
    Moves P s { s with
      outbox := s.outbox.insert row.outboxId { row with
          state := .reconcileRequired
          availableAtMs := availableAt
          leasedUntilMs := none
          lastErrorClass := some .ambiguousDispatch
          reconciliationReceipt := none
          leaseGeneration := generation } } := by
  obtain ⟨hpost, hdue⟩ := le_leaseDeadline hdelay havail
  exact hr.moves hkey hrow (.unresolved startedAt _ generation hstate hstart
    ((le_max_right _ _).trans hpost) hdue hgen)

theorem releaseReconciliation_ok (hkey : s.Keyed) (hdelay : 0 < delayMs)
    (h : releaseReconciliationClaimInTx ambient s claim nowMs delayMs = .ok t) :
    s.Honours claim.outboxId claim.leaseGeneration ∧ Moves P s t := by
  simp only [releaseReconciliationClaimInTx, ok_iff, updateOutbox_eq_ok] at h
  obtain ⟨row, hrow, hstate, ⟨document, fence⟩, hvalid, hclaim, -, startedAt, hstart, available,
    havail, generation, hgen, row', hrow', -, rfl⟩ := h
  obtain ⟨operation, hr⟩ := candidateLineage_ok hrow hvalid
  refine ⟨hr.honours hrow (validateReconciliationClaim_ok hclaim).1, ?_⟩
  rw [← hkey _ _ hrow] at hrow
  rw [hrow, some.injEq] at hrow'
  subst hrow'
  exact unresolved_ok hkey hrow hr hstate hstart hdelay havail
    (.inr (checkedAddI64_eq_some hgen))

theorem ended_ended (row : OutboxRow) (state state') (error error') :
    (row.ended state error).ended state' error' = row.ended state' error' := rfl

theorem recordVerified_ok
    (hrow : s.outbox[row.outboxId]? = some row) (hopId : row.operationId = outcome.operationId)
    (hoperation : s.operations[outcome.operationId]? = some operation)
    (hunsure : operation.state = .uncertain)
    (hhist : (s.outcomeHistory outcome.operationId).any (outcomeMatchesHistory outcome) = false)
    (h : recordOutcomeInTx ambient s outcome = .ok (t, state)) :
    outcome.kind.allowsVerifiedReconciliation = true ∧
    t =
      { operations := s.operations.insert outcome.operationId
          (operation.withOutcome (outcome.fact operation.commandId))
        outbox := s.outbox.insert row.outboxId
          (row.ended outcome.kind.rowState.1 outcome.kind.rowState.2)
        outcomes := s.outcomes ++ [outcome.fact operation.commandId] } := by
  simp only [recordOutcomeInTx, ok_iff] at h
  obtain ⟨-, operation', hstored, -, h⟩ := h
  rw [loadOutcomeOperation_ok hstored, some.injEq] at hoperation
  subst hoperation
  split at h
  · rename_i only honly
    rw [← hopId] at honly
    have hsame : only = row := loadOutboxRows_of_single hrow honly
    subst hsame
    rw [hhist] at h
    simp only [Bool.false_eq_true, if_false, hunsure, ok_iff] at h
    obtain ⟨-, -, h⟩ := h
    split at h
    · cases h
    · simp only [ok_iff, Bool.not_eq_false] at h
      obtain ⟨-, -, hallows, _, -, -, -, h⟩ := h
      obtain ⟨-, operation, row', hop, hrow', rfl⟩ := applyNewOutcome_ok h
      rw [loadOutcomeOperation_ok hstored, some.injEq] at hop
      subst hop
      rw [hrow, some.injEq] at hrow'
      subst hrow'
      exact ⟨hallows, rfl⟩
  · cases h
  · cases h

theorem presentEnded_ok {generation : ℤ}
    (hrow : s.outbox[row.outboxId]? = some row) (hopId : row.operationId = outcome.operationId)
    (hended : row.state = .settled ∨ row.state = .failed)
    (h : recordPresentReconciliationInTx ambient s outcome row.outboxId generation =
      .ok (t, state)) : t = s := by
  simp only [recordPresentReconciliationInTx, ok_iff] at h
  obtain ⟨-, h⟩ := h
  split at h
  · cases h
  · rename_i effectIndex identity hsrc
    simp only [ok_iff] at h
    obtain ⟨-, h⟩ := h
    split at h
    · rename_i only honly
      rw [← hopId] at honly
      have hsame : only = row := loadOutboxRows_of_single hrow honly
      subst hsame
      rw [if_pos hended] at h
      simp only [ok_iff] at h
      obtain ⟨-, h⟩ := h
      simp only [recordOutcomeInTx, ok_iff] at h
      obtain ⟨-, operation, -, -, h⟩ := h
      rw [← hopId, honly] at h
      simp only [ok_iff] at h
      obtain ⟨-, h⟩ := h
      split_ifs at h with hmatch
      · simp only [ok_iff] at h
        obtain ⟨_, -, rfl, -⟩ := h
        rfl
      · cases hstate : operation.state with
        | accepted => simp [hstate, hsrc] at h
        | uncertain =>
          simp only [hstate, hsrc, ok_iff] at h
          obtain ⟨-, -, hrowState, -⟩ := h
          rw [hrowState] at hended
          simp at hended
        | settled | failed | cancelled => simp [hstate] at h
    · cases h

end Steps

end DevManager
