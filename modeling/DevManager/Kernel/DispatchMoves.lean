import DevManager.Kernel.Reconciliation

/-!
# What a dispatch call does to the tables

Every successful call is a run of moves. A move inserts an accepted operation with
its row, rewrites one row of an accepted operation, or ends one accepted operation
together with its row. The moves carry the guards of the calls they come from.

The parameter `P` of a move is a condition its call met: a deferral says `P` in
terms of the attempts of its row, an uncertain outcome in terms of its clock.
-/

namespace DevManager

open Std (ExtTreeMap)

/-! ## Moves -/

/-- How a call rewrites the row of an accepted operation. -/
inductive RowMove (P : Prop) (row : OutboxRow) : OutboxRow → Prop
  | claim (nowMs leaseMs : ℤ)
      (hstate : row.state = .pending ∧
        (row.document.replayPolicy = .noAutomaticRetry → row.attempts = 0) ∨
        row.state = .claimed)
      (hdue : row.availableAtMs ≤ nowMs) (hlease : 0 < leaseMs) :
      RowMove P row
        { row with
          state := .claimed, leaseGeneration := row.leaseGeneration + 1,
          leasedUntilMs := some (nowMs + leaseMs) }
  | release (availableAt : ℤ) (hstate : row.state = .claimed)
      (hdelay : row.availableAtMs ≤ availableAt) :
      RowMove P row
        { row with state := .pending, leasedUntilMs := none, availableAtMs := availableAt }
  | renew (prior leasedUntil : ℤ)
      (hstate : row.state = .claimed ∨ row.state = .dispatching ∨ row.state = .reconciling)
      (hprior : row.leasedUntilMs = some prior) (hlater : prior ≤ leasedUntil) :
      RowMove P row { row with leasedUntilMs := some leasedUntil }
  | begin (startedAt leasedUntil : ℤ) (hstate : row.state = .claimed)
      (hleased : row.leasedUntilMs = some leasedUntil) (hdue : row.availableAtMs ≤ startedAt)
      (hlive : startedAt < leasedUntil) :
      RowMove P row
        { row with
          state := .dispatching, attempts := row.attempts + 1,
          dispatchStartedAtMs := some startedAt, reconciliationReceipt := none }
  | defer (availableAt : ℤ) (hstate : row.state = .dispatching) (htries : 0 < row.attempts)
      (hdelay : row.availableAtMs ≤ availableAt) (hP : P → row.attempts ≤ 1) :
      RowMove P row
        { row with
          state := .pending, attempts := row.attempts - 1, dispatchStartedAtMs := none,
          leasedUntilMs := none, availableAtMs := availableAt, reconciliationReceipt := none }
  | retry (startedAt availableAt generation : ℤ) (hstate : row.state = .dispatching)
      (hpolicy : row.document.replayPolicy ≠ .noAutomaticRetry)
      (hstart : row.dispatchStartedAtMs = some startedAt) (hpost : startedAt ≤ availableAt)
      (hdelay : row.availableAtMs ≤ availableAt)
      (hgen : generation = row.leaseGeneration ∨ generation = row.leaseGeneration + 1) :
      RowMove P row
        { row with
          state := (ambiguousState row.document.replayPolicy).1, availableAtMs := availableAt,
          leasedUntilMs := none, lastErrorClass := (ambiguousState row.document.replayPolicy).2,
          reconciliationReceipt := none, leaseGeneration := generation }
  | reconcile (nowMs leaseMs : ℤ)
      (hstate : row.state = .reconcileRequired ∨ row.state = .reconciling)
      (hdue : row.availableAtMs ≤ nowMs) (hlease : 0 < leaseMs) :
      RowMove P row
        { row with
          state := .reconciling, leaseGeneration := row.leaseGeneration + 1,
          leasedUntilMs := some (nowMs + leaseMs) }
  | unresolved (startedAt availableAt generation : ℤ) (hstate : row.state = .reconciling)
      (hstart : row.dispatchStartedAtMs = some startedAt) (hpost : startedAt ≤ availableAt)
      (hdelay : row.availableAtMs ≤ availableAt)
      (hgen : generation = row.leaseGeneration ∨ generation = row.leaseGeneration + 1) :
      RowMove P row
        { row with
          state := .reconcileRequired, availableAtMs := availableAt, leasedUntilMs := none,
          lastErrorClass := some .ambiguousDispatch, reconciliationReceipt := none,
          leaseGeneration := generation }
  | absent (startedAt availableAt : ℤ) (receipt : AbsenceReceiptDocument)
      (hstate : row.state = .reconciling)
      (hstart : row.dispatchStartedAtMs = some startedAt) (hpost : startedAt ≤ availableAt)
      (hdelay : row.availableAtMs ≤ availableAt)
      (hrec : validateAbsenceAuthorization
        { row with availableAtMs := availableAt, reconciliationReceipt := some receipt } = .ok ()) :
      RowMove P row
        { row with
          state := .pending, availableAtMs := availableAt, leasedUntilMs := none,
          lastErrorClass := none, reconciliationReceipt := some receipt }

/-- The row after `transition_outbox`. -/
def OutboxRow.ended (row : OutboxRow) (state : OutboxState) (error : Option ErrorClass) :
    OutboxRow :=
  { row with state, leasedUntilMs := none, lastErrorClass := error, reconciliationReceipt := none }

/-- How a call ends an accepted operation: the facts it appends, of which the last one is the
outcome, and what it gives the row. -/
inductive Ending (P : Prop) (operation : OperationRow) (row : OutboxRow) :
    List HistoricalOutcome → HistoricalOutcome → OutboxState → Option ErrorClass → Prop
  | completed (fact : HistoricalOutcome) (startedAt : ℤ) (state : OutboxState)
      (error : Option ErrorClass) (hstate : row.state = .dispatching)
      (hstart : row.dispatchStartedAtMs = some startedAt) (hpost : startedAt ≤ fact.occurredAtMs)
      (hterminal : state.terminal? = some fact.status) (hcertain : fact.status ≠ .uncertain)
      (hclass : row.attempts ≠ 0 → terminalOutboxErrorClass row fact.status = .ok error) :
      Ending P operation row [fact] fact state error
  | uncertain (fact : OperationUncertainFact) (startedAt : ℤ) (hstate : row.state = .dispatching)
      (hstart : row.dispatchStartedAtMs = some startedAt)
      (hpolicy : row.document.replayPolicy = .noAutomaticRetry)
      (hpost : operation.acceptedAtMs ≤ fact.observedAtMs)
      (hP : P → startedAt ≤ fact.observedAtMs) :
      Ending P operation row [.uncertain fact] (.uncertain fact) .uncertain
        (some .ambiguousDispatch)
  | retired (fact : OperationFailedFact) (hstate : row.state = .pending ∨ row.state = .claimed)
      (hdest : row.document.effect.destinationClass = .providerInput) :
      Ending P operation row [.failed fact] (.failed fact) .failed (some .staleFence)
  | present (prior : OperationUncertainFact) (fact : HistoricalOutcome) (startedAt : ℤ)
      (state : OutboxState) (error : Option ErrorClass) (hstate : row.state = .reconciling)
      (hstart : row.dispatchStartedAtMs = some startedAt)
      (hpost : startedAt ≤ prior.observedAtMs) (hdue : row.availableAtMs ≤ prior.observedAtMs)
      (hterminal : state.terminal? = some fact.status) (hcertain : fact.status ≠ .uncertain)
      (hclass : row.attempts ≠ 0 → terminalOutboxErrorClass row fact.status = .ok error) :
      Ending P operation row [.uncertain prior, fact] fact state error

/-- One move of the tables. -/
inductive Move (P : Prop) (s : DispatchStore) : DispatchStore → Prop
  | accept (acceptance : SideEffectAcceptance) (acceptedAtMs : ℤ) (htime : 0 ≤ acceptedAtMs)
      (hop : acceptance.operationId ∉ s.operations) (houtbox : acceptance.outboxId ∉ s.outbox)
      (hrows : s.loadOutboxRows acceptance.operationId = []) :
      Move P s
        { s with
          operations :=
            s.operations.insert acceptance.operationId (acceptance.operationRow acceptedAtMs)
          outbox := s.outbox.insert acceptance.outboxId (acceptance.outboxRow acceptedAtMs) }
  | row (row row' : OutboxRow) (operation : OperationRow)
      (hrow : s.outbox[row.outboxId]? = some row)
      (hop : s.operations[row.operationId]? = some operation)
      (hacc : operation.state = .accepted) (hmove : RowMove P row row') :
      Move P s { s with outbox := s.outbox.insert row.outboxId row' }
  | outcome (row : OutboxRow) (operation : OperationRow) (facts : List HistoricalOutcome)
      (fact : HistoricalOutcome) (state : OutboxState) (error : Option ErrorClass)
      (hrow : s.outbox[row.outboxId]? = some row)
      (hop : s.operations[row.operationId]? = some operation)
      (hacc : operation.state = .accepted)
      (honly : s.loadOutboxRows row.operationId = [row])
      (hfacts : ∀ f ∈ facts, f.operationId = row.operationId)
      (hend : Ending P operation row facts fact state error) :
      Move P s
        { operations := s.operations.insert row.operationId (operation.withOutcome fact)
          outbox := s.outbox.insert row.outboxId (row.ended state error)
          outcomes := s.outcomes ++ facts }

/-- A run of moves. -/
abbrev Moves (P : Prop) : DispatchStore → DispatchStore → Prop := Relation.ReflTransGen (Move P)

/-- Every row stands under its own id. -/
def DispatchStore.Keyed (s : DispatchStore) : Prop :=
  ∀ id (row : OutboxRow), s.outbox[id]? = some row → row.outboxId = id

/-! ## The pieces of a call -/

namespace DispatchStore

variable {s t : DispatchStore} {id : OutboxId} {row : OutboxRow} {operationId : OperationId}

theorem updateOutbox_eq_ok {cond : OutboxRow → Prop} [DecidablePred cond]
    {set : OutboxRow → OutboxRow} {error} :
    s.updateOutbox id cond set error = .ok t ↔
      ∃ row, s.outbox[id]? = some row ∧ cond row ∧
        t = { s with outbox := s.outbox.insert id (set row) } := by
  unfold updateOutbox
  cases h : s.outbox[id]? with
  | none => simp
  | some row =>
    by_cases hc : cond row
    · simp [hc, eq_comm]
    · simp [hc]

theorem mem_loadOutboxRows :
    row ∈ s.loadOutboxRows operationId ↔
      (∃ id : OutboxId, s.outbox[id]? = some row) ∧ row.operationId = operationId := by
  unfold loadOutboxRows
  rw [List.mem_filter, List.mem_map]
  constructor
  · rintro ⟨⟨⟨id, row'⟩, hmem, rfl⟩, h⟩
    exact ⟨⟨id, ExtTreeMap.mem_toList_iff_getElem?_eq_some.mp hmem⟩, by simpa using h⟩
  · rintro ⟨⟨id, hget⟩, h⟩
    exact ⟨⟨(id, row), ExtTreeMap.mem_toList_iff_getElem?_eq_some.mpr hget, rfl⟩, by simpa using h⟩

theorem loadOutboxRows_of_single {row'} (hrow : s.outbox[id]? = some row)
    (h : s.loadOutboxRows row.operationId = [row']) : row' = row := by
  have hmem : row ∈ s.loadOutboxRows row.operationId := mem_loadOutboxRows.mpr ⟨⟨id, hrow⟩, rfl⟩
  rw [h, List.mem_singleton] at hmem
  exact hmem.symm

theorem onlyRow_eq_ok :
    s.onlyRow operationId id = .ok row ↔ s.loadOutboxRows operationId = [row] ∧
      row.outboxId = id := by
  unfold onlyRow
  split
  · rename_i row' h
    simp only [h, ok_iff, List.cons.injEq, and_true]
    constructor
    · rintro ⟨hid, rfl⟩
      exact ⟨rfl, hid⟩
    · rintro ⟨rfl, hid⟩
      exact ⟨hid, rfl⟩
  · rename_i h
    simp only [reduceCtorEq, false_iff, not_and]
    exact fun heq => absurd heq (h row)

end DispatchStore

section Pieces

variable {ambient : Ambient} {s t : DispatchStore} {id : OutboxId} {row : OutboxRow}
  {document : PlannedEffectDocument} {fence : OperationFence}

theorem requireAccepted_eq_ok {operation} :
    requireAcceptedDispatchOperation operation = .ok () ↔ operation.state = .accepted := by
  unfold requireAcceptedDispatchOperation acceptedDispatchOperationCheck
  rw [failIf_eq_ok]
  cases operation.state <;> simp

/-- What a revalidated row and its operation are. -/
structure Revalidated (s : DispatchStore) (row : OutboxRow) (document : PlannedEffectDocument)
    (fence : OperationFence) (operation : OperationRow) : Prop where
  stored : s.operations[row.operationId]? = some operation
  accepted : operation.state = .accepted
  only : s.loadOutboxRows row.operationId = [row]
  document_eq : document = row.document
  fence_eq : fence = operation.fence
  history : s.outcomeHistory row.operationId = []
  active : ∃ allowExpired,
    validateSideEffectActiveOutbox row operation.acceptedAtMs allowExpired = .ok ()

variable {allowExpired : Bool}

theorem acceptedReceipt_ok {operationId operation}
    (h : validateSideEffectAcceptedReceipt ambient s operationId operation allowExpired = .ok ())
    (hacc : operation.state = .accepted) (honly : s.loadOutboxRows operationId = [row]) :
    s.outcomeHistory operationId = [] ∧
      validateSideEffectActiveOutbox row operation.acceptedAtMs allowExpired = .ok () := by
  unfold validateSideEffectAcceptedReceipt at h
  rw [bind_eq_ok] at h
  obtain ⟨_, -, h⟩ := h
  rw [honly, hacc] at h
  simp only [ok_iff] at h
  exact ⟨h.2.2, h.2.1⟩

theorem state_of_active {acceptedAtMs : ℤ}
    (h : validateSideEffectActiveOutbox row acceptedAtMs allowExpired = .ok ()) :
    row.state.terminal? = none := by
  simp only [validateSideEffectActiveOutbox, validateNonterminalForAttempt,
    validateNonterminalInner, ok_iff] at h
  obtain ⟨⟨-, -, h⟩, -⟩ := h
  cases hstate : row.state <;> rw [hstate] at h <;> first | rfl | cases h

theorem started_of_active {acceptedAtMs : ℤ}
    (h : validateSideEffectActiveOutbox row acceptedAtMs allowExpired = .ok ())
    (hstate : row.state = .dispatching) :
    0 < row.attempts ∧ ∃ startedAt, row.dispatchStartedAtMs = some startedAt := by
  simp only [validateSideEffectActiveOutbox, validateNonterminalForAttempt,
    validateNonterminalInner, hstate, validateDispatchingMetadata, ok_iff, not_or] at h
  obtain ⟨⟨-, -, ⟨-, htries, -⟩, startedAt, hstart, -⟩, -⟩ := h
  exact ⟨by omega, startedAt, hstart⟩

theorem candidateLineage_ok (hrow : s.outbox[id]? = some row)
    (h : validateDispatchCandidateLineage ambient s row.operationId row.outboxId =
      .ok (document, fence)) :
    ∃ operation, Revalidated s row document fence operation := by
  simp only [validateDispatchCandidateLineage, ok_iff, requireAccepted_eq_ok,
    DispatchStore.onlyRow_eq_ok] at h
  obtain ⟨operation, hop, hacc, hrec, row', ⟨honly, -⟩, -, -, hdoc, hfence⟩ := h
  obtain rfl := DispatchStore.loadOutboxRows_of_single hrow honly
  obtain ⟨hhist, hactive⟩ := acceptedReceipt_ok hrec hacc honly
  exact ⟨operation, hop, hacc, honly, hdoc, hfence, hhist, _, hactive⟩

theorem attemptLineage_ok (hrow : s.outbox[id]? = some row)
    (h : validateDispatchAttemptLineage ambient s row.operationId row.outboxId =
      .ok (document, fence)) :
    ∃ operation, Revalidated s row document fence operation := by
  simp only [validateDispatchAttemptLineage, ok_iff, requireAccepted_eq_ok,
    DispatchStore.onlyRow_eq_ok] at h
  obtain ⟨operation, hop, hacc, row', ⟨honly, -⟩, hrec, -, -, hdoc, hfence⟩ := h
  obtain rfl := DispatchStore.loadOutboxRows_of_single hrow honly
  obtain ⟨hhist, hactive⟩ := acceptedReceipt_ok hrec hacc honly
  exact ⟨operation, hop, hacc, honly, hdoc, hfence, hhist, _, hactive⟩

theorem revalidateAmbiguity_ok (hrow : s.outbox[id]? = some row)
    (h : revalidateAmbiguityEffect ambient s row = .ok (document, fence)) :
    ∃ operation, Revalidated s row document fence operation := by
  unfold revalidateAmbiguityEffect at h
  split_ifs at h with hprovider
  · exact attemptLineage_ok hrow h
  · exact candidateLineage_ok hrow h

theorem verifyClaimGeneration_eq_ok {generation nowMs : ℤ} :
    verifyClaimGeneration row generation nowMs = .ok () ↔
      row.leaseGeneration = generation ∧ ∃ leasedUntil, row.leasedUntilMs = some leasedUntil ∧
        nowMs < leasedUntil := by
  simp only [verifyClaimGeneration, ok_iff, not_le]

theorem leaseDeadline_eq_ok {nowMs leaseMs deadline : ℤ}
    (h : leaseDeadline nowMs leaseMs = .ok deadline) : deadline = nowMs + leaseMs :=
  checkedAddI64_eq_some (okOr_eq_ok.mp h)

theorem le_leaseDeadline {nowMs due delayMs deadline : ℤ} (hdelay : 0 < delayMs)
    (h : leaseDeadline (max nowMs due) delayMs = .ok deadline) :
    nowMs ≤ deadline ∧ due ≤ deadline := by
  rw [leaseDeadline_eq_ok h]
  omega

theorem validateDispatchLeaseMs_pos {lease : ℕ} {ms : ℤ}
    (h : validateDispatchLeaseMs lease = .ok ms) : 0 < ms := by
  simp only [validateDispatchLeaseMs, ok_iff, not_or, not_le] at h
  obtain ⟨-, ⟨h, -⟩, rfl⟩ := h
  exact h

end Pieces

end DevManager
