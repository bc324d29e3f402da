import DevManager.Kernel.DispatchOnce
import DevManager.Lib.Calls

/-!
# The rows that dispatch writes can be read

Every later call checks the row of its operation first
(`validate_nonterminal_outbox_dispatch_metadata`, and for an operation that has ended
`validate_terminal_outbox_dispatch_metadata`), so a row that fails its check is lost.
`ActiveRow` says what a row has in each of its states; every move keeps it.

* `ActiveRow.validate`: such a row passes its check.
-/

namespace DevManager

open Std (ExtTreeMap)
open List OrdMap Option

/-! ## Rows -/

/-- What is left of the attempts of a row that may be claimed: none was begun, or the next one is
authorized. -/
def Resumable (row : OutboxRow) : Prop :=
  row.attempts = 0 ∧ row.dispatchStartedAtMs = none ∧ row.reconciliationReceipt = none ∨
    row.attempts ≠ 0 ∧
      (∃ startedAt, row.dispatchStartedAtMs = some startedAt ∧ startedAt ≤ row.availableAtMs) ∧
      validateRetryAuthorization row row.document.replayPolicy = .ok ()

/-- What the row of an accepted operation has in each state. -/
inductive ActiveRow (acceptedAtMs : ℤ) (row : OutboxRow) : Prop
  | pending (hstate : row.state = .pending) (herror : row.lastErrorClass = none)
      (hleased : row.leasedUntilMs = none) (hacc : acceptedAtMs ≤ row.availableAtMs)
      (hfresh : row.leaseGeneration = 0 → row.availableAtMs = acceptedAtMs)
      (hresumable : Resumable row)
  | claimed (leasedUntil : ℤ) (hstate : row.state = .claimed) (herror : row.lastErrorClass = none)
      (hleased : row.leasedUntilMs = some leasedUntil) (hlease : row.availableAtMs < leasedUntil)
      (hacc : acceptedAtMs ≤ row.availableAtMs) (hresumable : Resumable row)
  | dispatching (startedAt leasedUntil : ℤ) (hstate : row.state = .dispatching)
      (herror : row.lastErrorClass = none) (hstart : row.dispatchStartedAtMs = some startedAt)
      (hleased : row.leasedUntilMs = some leasedUntil) (hlease : startedAt < leasedUntil)
      (hacc : acceptedAtMs ≤ row.availableAtMs) (hdue : row.availableAtMs ≤ startedAt)
      (hrec : row.reconciliationReceipt = none) (htries : 0 < row.attempts)
  | reconcileRequired (startedAt : ℤ) (hstate : row.state = .reconcileRequired)
      (herror : row.lastErrorClass = some .ambiguousDispatch)
      (hstart : row.dispatchStartedAtMs = some startedAt) (hleased : row.leasedUntilMs = none)
      (hacc : acceptedAtMs ≤ startedAt) (hpost : startedAt ≤ row.availableAtMs)
      (hrec : row.reconciliationReceipt = none) (htries : 0 < row.attempts)
  | reconciling (startedAt leasedUntil : ℤ) (hstate : row.state = .reconciling)
      (herror : row.lastErrorClass = some .ambiguousDispatch)
      (hstart : row.dispatchStartedAtMs = some startedAt)
      (hleased : row.leasedUntilMs = some leasedUntil) (hlease : row.availableAtMs < leasedUntil)
      (hacc : acceptedAtMs ≤ startedAt) (hpost : startedAt ≤ row.availableAtMs)
      (hrec : row.reconciliationReceipt = none) (htries : 0 < row.attempts)
      (hgen : row.attempts < row.leaseGeneration)

section

variable {s t : DispatchStore} {row row' : OutboxRow} {acceptedAtMs : ℤ}

variable {availableAt : ℤ}

theorem validateAbsenceAuthorization_later (hlater : row.availableAtMs ≤ availableAt)
    (h : validateAbsenceAuthorization row = .ok ()) :
    validateAbsenceAuthorization { row with availableAtMs := availableAt } = .ok () := by
  simp only [validateAbsenceAuthorization, ok_iff] at h ⊢
  obtain ⟨receipt, hrec, hvalid, index, hidx, attempt, htry, startedAt, hstart, h⟩ := h
  refine ⟨receipt, hrec, hvalid, index, hidx, attempt, htry, startedAt, hstart, ?_⟩
  simp only [AbsenceReceiptDocument.authorizes, Bool.not_eq_false, Bool.and_eq_true,
    decide_eq_true_eq] at h ⊢
  exact ⟨h.1, h.2.trans hlater⟩

theorem validateRetryAuthorization_later {policy : ReplayPolicy}
    (hlater : row.availableAtMs ≤ availableAt)
    (h : validateRetryAuthorization row policy = .ok ()) :
    validateRetryAuthorization { row with availableAtMs := availableAt } policy = .ok () := by
  cases policy with
  | retrySafe => exact h
  | reconcileBeforeRetry => exact validateAbsenceAuthorization_later hlater h
  | noAutomaticRetry => exact h

theorem Resumable.later (h : Resumable row)
    (hlater : row.availableAtMs ≤ availableAt) (state) (leasedUntil)
    (generation : ℤ) :
    Resumable { row with
      state
      leasedUntilMs := leasedUntil
      leaseGeneration := generation
      availableAtMs := availableAt } := by
  rcases h with hfst | ⟨htries, ⟨startedAt, hstart, hle⟩, hauth⟩
  · exact .inl hfst
  · refine .inr ⟨htries, ⟨startedAt, hstart, hle.trans hlater⟩, ?_⟩
    have hsame := validateRetryAuthorization_later hlater hauth
    cases hpolicy : row.document.replayPolicy with
    | retrySafe | reconcileBeforeRetry | noAutomaticRetry =>
      rw [hpolicy] at hsame
      exact hsame

theorem Resumable.validate_pending (h : Resumable row) (hleased : row.leasedUntilMs = none)
    (hacc : acceptedAtMs ≤ row.availableAtMs)
    (hfresh : row.leaseGeneration = 0 → row.availableAtMs = acceptedAtMs) (hcount : Counted row) :
    validatePendingMetadata row acceptedAtMs row.document.replayPolicy = .ok () := by
  have hnonneg := hcount.nonneg
  have hbound := hcount.bounded
  unfold validatePendingMetadata
  rcases h with ⟨htries, hstart, hrec⟩ | ⟨htries, ⟨startedAt, hstart, hle⟩, hauth⟩
  · rw [if_pos htries]
    simp only [failIf_eq_ok, hstart, hleased, hrec, isSome_none, Bool.false_eq_true,
      false_or, not_or, not_and, not_lt, not_not, ne_eq]
    exact ⟨hfresh, fun _ => hacc⟩
  · have hgen : 0 < row.leaseGeneration := by omega
    rw [if_neg htries]
    simp only [ok_iff, hstart, hleased, if_pos hgen, isSome_none, Bool.false_eq_true, hauth]
    refine ⟨startedAt, rfl, by omega, ?_⟩
    simp

theorem Resumable.validate_claimed {leasedUntil : ℤ} (h : Resumable row)
    (herror : row.lastErrorClass = none) (hleased : row.leasedUntilMs = some leasedUntil)
    (hlease : row.availableAtMs < leasedUntil) (hacc : acceptedAtMs ≤ row.availableAtMs)
    (hstate : row.state = .claimed) (hcount : Counted row) :
    validateClaimedMetadata row acceptedAtMs row.document.replayPolicy = .ok () := by
  have hnonneg := hcount.nonneg
  have hlt := hcount.claimed hstate
  simp only [validateClaimedMetadata, ok_iff, hleased, herror, isNone_some,
    isSome_none, Bool.false_eq_true, or_false, false_or]
  refine ⟨by omega, leasedUntil, rfl, by omega, ?_⟩
  rcases h with ⟨htries, hstart, hrec⟩ | ⟨htries, ⟨startedAt, hstart, hle⟩, hauth⟩
  · rw [if_pos htries]
    simp [hstart, hrec]
  · rw [if_neg htries]
    simp only [ok_iff, hstart]
    exact ⟨startedAt, rfl, by omega, hauth⟩

theorem ActiveRow.validate (h : ActiveRow acceptedAtMs row) (hcount : Counted row)
    (htime : 0 ≤ acceptedAtMs) :
    validateNonterminalOutboxDispatchMetadata row acceptedAtMs
      row.document.replayPolicy = .ok () := by
  have hnonneg := hcount.nonneg
  have hbound := hcount.bounded
  simp only [validateNonterminalOutboxDispatchMetadata, validateNonterminalInner,
    validateDispatchAttemptGeneration, ok_iff]
  refine ⟨by omega, ?_⟩
  cases h with
  | pending hstate herror hleased hacc hfresh hresumable =>
    rw [hstate]
    exact hresumable.validate_pending hleased hacc hfresh hcount
  | claimed leasedUntil hstate herror hleased hlease hacc hresumable =>
    rw [hstate]
    exact hresumable.validate_claimed herror hleased hlease hacc hstate hcount
  | dispatching startedAt leasedUntil hstate herror hstart hleased hlease hacc hdue hrec =>
    simp only [hstate, validateDispatchingMetadata, ok_iff, hstart, hleased, herror, hrec,
      isNone_some, isSome_none, Bool.false_eq_true, or_false, not_false_eq_true, and_true, true_and]
    exact ⟨by omega, startedAt, rfl, by omega, leasedUntil, rfl, by omega⟩
  | reconcileRequired startedAt hstate herror hstart hleased hacc hpost hrec =>
    have hpolicy := hcount.reconciled (.inl hstate)
    simp only [hstate, validateReconcileRequiredMetadata, ok_iff, hstart, hleased, herror, hrec,
      hpolicy, isSome_none, Bool.false_eq_true, ne_eq, not_true_eq_false, or_false, false_or]
    exact ⟨by omega, startedAt, rfl, by omega⟩
  | reconciling startedAt leasedUntil hstate herror hstart hleased hlease hacc hpost
      hrec =>
    have hpolicy := hcount.reconciled (.inr hstate)
    simp only [hstate, validateReconcilingMetadata, ok_iff, hstart, hleased, herror, hrec, hpolicy,
      isNone_some, isSome_none, Bool.false_eq_true, ne_eq, not_true_eq_false, or_false, false_or]
    exact ⟨by omega, startedAt, rfl, leasedUntil, rfl, by omega⟩

/-! ## Moves -/

theorem RowMove.keepsActive (h : RowMove True row row') (hactive : ActiveRow acceptedAtMs row)
    (hcount : Counted row) : ActiveRow acceptedAtMs row' := by
  have hnonneg := hcount.nonneg
  cases h with
  | claim nowMs leaseMs hstate hdue hlease =>
    have hlater : row.availableAtMs < nowMs + leaseMs := by omega
    cases hactive with
    | pending _ herror _ hacc _ hresumable | claimed _ _ herror _ _ hacc hresumable =>
      exact .claimed _ rfl herror rfl hlater hacc (hresumable.later (le_refl _) _ _ _)
    | dispatching _ _ hother | reconcileRequired _ hother | reconciling _ _ hother =>
      simp [hother] at hstate
  | release availableAt hstate hdelay =>
    cases hactive with
    | claimed _ _ herror _ _ hacc hresumable =>
      have hclaim := hcount.claimed hstate
      refine .pending rfl herror rfl (hacc.trans hdelay) (fun hgen => ?_)
        (hresumable.later hdelay _ _ _)
      have hzero : row.leaseGeneration = 0 := hgen
      omega
    | pending hother | dispatching _ _ hother | reconcileRequired _ hother
    | reconciling _ _ hother => simp [hother] at hstate
  | renew prior leasedUntil hstate hprior hlater =>
    cases hactive with
    | claimed before hclaim herror hleased hlease hacc hresumable =>
      rw [hleased, some.injEq] at hprior
      exact .claimed leasedUntil hclaim herror rfl (by show row.availableAtMs < _; omega) hacc
        (hresumable.later (le_refl _) _ _ _)
    | dispatching startedAt before hdisp herror hstart hleased hlease hacc hdue
        hreceipt htries =>
      rw [hleased, some.injEq] at hprior
      exact .dispatching startedAt leasedUntil hdisp herror hstart rfl (by omega) hacc
        hdue hreceipt htries
    | reconciling startedAt before hrec herror hstart hleased hlease hacc hpost
        hreceipt htries hgen =>
      rw [hleased, some.injEq] at hprior
      exact .reconciling startedAt leasedUntil hrec herror hstart rfl
        (by show row.availableAtMs < _; omega) hacc hpost hreceipt htries hgen
    | pending hother | reconcileRequired _ hother => simp [hother] at hstate
  | begin startedAt leasedUntil hstate hleased hdue hlive =>
    cases hactive with
    | claimed before _ herror hpre hlease hacc hresumable =>
      refine .dispatching startedAt leasedUntil rfl herror rfl hleased hlive hacc hdue rfl ?_
      show 0 < row.attempts + 1
      omega
    | pending hother | dispatching _ _ hother | reconcileRequired _ hother
    | reconciling _ _ hother => simp [hother] at hstate
  | defer availableAt hstate htries hdelay hP =>
    have hfst : row.attempts - 1 = 0 := by
      have hone := hP trivial
      omega
    have hbound := hcount.bounded
    cases hactive with
    | dispatching startedAt leasedUntil _ herror _ _ _ hacc =>
      refine .pending rfl herror rfl (hacc.trans hdelay) (fun hgen => ?_)
        (.inl ⟨hfst, rfl, rfl⟩)
      have hzero : row.leaseGeneration = 0 := hgen
      omega
    | pending hother | claimed _ hother | reconcileRequired _ hother
    | reconciling _ _ hother => simp [hother] at hstate
  | retry startedAt availableAt generation hstate hpolicy hstart hpost hdelay hgen =>
    have hbound := hcount.bounded
    cases hactive with
    | dispatching before leasedUntil _ herror hpre _ _ hacc hdue _ htries =>
      rw [hpre, some.injEq] at hstart
      subst hstart
      cases hkind : row.document.replayPolicy with
      | retrySafe =>
        refine .pending rfl rfl rfl (hacc.trans hdelay) (fun hzero => ?_)
          (.inr ⟨by show row.attempts ≠ 0; omega, ⟨before, hpre, hpost⟩, ?_⟩)
        · have hgone : generation = 0 := hzero
          omega
        · show validateRetryAuthorization _ row.document.replayPolicy = .ok ()
          rw [hkind]
          simp [validateRetryAuthorization]
      | reconcileBeforeRetry =>
        exact .reconcileRequired before rfl rfl hpre rfl (hacc.trans hdue) hpost rfl htries
      | noAutomaticRetry => exact absurd hkind hpolicy
    | pending hother | claimed _ hother | reconcileRequired _ hother
    | reconciling _ _ hother => simp [hother] at hstate
  | reconcile nowMs leaseMs hstate hdue hlease =>
    have hbound := hcount.bounded
    have hlater : row.availableAtMs < nowMs + leaseMs := by omega
    cases hactive with
    | reconcileRequired startedAt _ herror hstart _ hacc hpost hreceipt htries
    | reconciling startedAt _ _ herror hstart _ _ hacc hpost hreceipt htries =>
      refine .reconciling startedAt _ rfl herror hstart rfl hlater hacc hpost hreceipt
        htries ?_
      show row.attempts < row.leaseGeneration + 1
      omega
    | pending hother | claimed _ hother | dispatching _ _ hother => simp [hother] at hstate
  | unresolved startedAt availableAt generation hstate hstart hpost hdelay hgen =>
    cases hactive with
    | reconciling before _ _ _ hpre _ _ hacc _ _ htries =>
      rw [hpre, some.injEq] at hstart
      subst hstart
      exact .reconcileRequired before rfl rfl hpre rfl hacc hpost rfl htries
    | pending hother | claimed _ hother | dispatching _ _ hother
    | reconcileRequired _ hother => simp [hother] at hstate
  | absent startedAt availableAt receipt hstate hstart hpost hdelay hreceipt =>
    have hbound := hcount.bounded
    have hpolicy := hcount.reconciled (.inr hstate)
    cases hactive with
    | reconciling before _ _ _ hpre _ _ hacc _ _ htries =>
      rw [hpre, some.injEq] at hstart
      subst hstart
      refine .pending rfl rfl rfl (hacc.trans hpost) (fun hzero => ?_)
        (.inr ⟨by show row.attempts ≠ 0; omega, ⟨before, hpre, hpost⟩, ?_⟩)
      · have hgone : row.leaseGeneration = 0 := hzero
        omega
      · show validateRetryAuthorization _ row.document.replayPolicy = .ok ()
        rw [hpolicy]
        exact hreceipt
    | pending hother | claimed _ hother | dispatching _ _ hother
    | reconcileRequired _ hother => simp [hother] at hstate

/-! ## Outcomes -/

/-- The check of the row of an operation that has ended, with the bounds of its history. -/
def EndedRow (operation : OperationRow) (history : List HistoricalOutcome) (row : OutboxRow) :
    Prop :=
  ∃ outcomeAtMs, operation.outcomeAtMs = some outcomeAtMs ∧
    validateTerminalOutboxDispatchMetadata row operation.acceptedAtMs
      (dispatchUpperBound history outcomeAtMs) (wasReconciled history) = .ok ()

variable {state : OutboxState} {error : Option ErrorClass}

theorem validateTerminal_begun {startedAt upper : ℤ} {reconciled : Bool} (hcount : Counted row)
    (htries : 0 < row.attempts) (hstart : row.dispatchStartedAtMs = some startedAt)
    (havail : acceptedAtMs ≤ row.availableAtMs) (hacc : acceptedAtMs ≤ startedAt)
    (hdue : reconciled = false → row.availableAtMs ≤ startedAt) (hupper : row.availableAtMs ≤ upper)
    (hpost : startedAt ≤ upper) :
    validateTerminalOutboxDispatchMetadata (row.ended state error) acceptedAtMs upper reconciled =
      .ok () := by
  have hbound := hcount.bounded
  have hne : row.attempts ≠ 0 := by omega
  simp only [validateTerminalOutboxDispatchMetadata, validateDispatchAttemptGeneration,
    OutboxRow.ended, ok_iff, if_neg hne, hstart]
  refine ⟨by omega, startedAt, rfl, ?_⟩
  rintro (h | h | ⟨hnot, h⟩ | h | h)
  · omega
  · omega
  · have hle := hdue hnot
    omega
  · omega
  · omega

theorem validateTerminal_unbegun {upper : ℤ} {reconciled : Bool} (hcount : Counted row)
    (htries : row.attempts = 0) (hstart : row.dispatchStartedAtMs = none)
    (havail : acceptedAtMs ≤ row.availableAtMs)
    (hfresh : row.leaseGeneration = 0 → row.availableAtMs = acceptedAtMs) :
    validateTerminalOutboxDispatchMetadata (row.ended state error) acceptedAtMs upper reconciled =
      .ok () := by
  have hbound := hcount.bounded
  simp only [validateTerminalOutboxDispatchMetadata, validateDispatchAttemptGeneration,
    OutboxRow.ended, ok_iff, if_pos htries, hstart, isSome_none, Bool.false_eq_true,
    false_or, not_or, not_and, not_lt]
  exact ⟨by omega, hfresh, fun _ => havail⟩

/-- The plan of an effect never changes. -/
def Planned (row : OutboxRow) : Prop := ∃ effect : Effect, row.document = effect.planned.document

theorem Planned.policy (h : Planned row)
    (hdest : row.document.effect.destinationClass = .providerInput) :
    row.document.replayPolicy = .noAutomaticRetry := by
  obtain ⟨effect, hdoc⟩ := h
  rw [hdoc] at hdest ⊢
  cases effect <;> first | rfl | cases hdest

theorem uncertainAt_eq_none {fact : HistoricalOutcome} (h : fact.status ≠ .uncertain) :
    fact.uncertainAt? = none := by
  cases fact with
  | uncertain => exact absurd rfl h
  | settled _ | failed _ | cancelled _ => rfl

variable {facts : List HistoricalOutcome}

theorem Ending.readable {operation : OperationRow} {fact}
    (h : Ending True operation row facts fact state error)
    (hactive : ActiveRow operation.acceptedAtMs row) (hcount : Counted row) (hplan : Planned row) :
    EndedRow (operation.withOutcome fact) facts (row.ended state error) := by
  refine ⟨fact.occurredAtMs, rfl, ?_⟩
  cases h with
  | completed _ startedAt _ _ hstate hstart hpost hterminal hcertain =>
    have hnone := uncertainAt_eq_none hcertain
    cases hactive with
    | dispatching before _ _ _ hpre _ _ hacc hdue _ htries =>
      rw [hpre, some.injEq] at hstart
      subst hstart
      have hupper : dispatchUpperBound [fact] fact.occurredAtMs = fact.occurredAtMs := by
        simp [dispatchUpperBound, hnone]
      rw [hupper]
      exact validateTerminal_begun hcount htries hpre hacc (hacc.trans hdue)
        (fun _ => hdue) (hdue.trans hpost) hpost
    | pending hother | claimed _ hother | reconcileRequired _ hother
    | reconciling _ _ hother => simp [hother] at hstate
  | uncertain _ startedAt hstate hstart hpolicy _ hP =>
    cases hactive with
    | dispatching before _ _ _ hpre _ _ hacc hdue _ htries =>
      rw [hpre, some.injEq] at hstart
      subst hstart
      have hpost := hP trivial
      exact validateTerminal_begun hcount htries hpre hacc (hacc.trans hdue)
        (fun _ => hdue) (hdue.trans hpost) hpost
    | pending hother | claimed _ hother | reconcileRequired _ hother
    | reconciling _ _ hother => simp [hother] at hstate
  | retired _ hstate hdest =>
    have hzero := (hcount.once (hplan.policy hdest)).2 hstate
    cases hactive with
    | pending _ _ _ hacc hfresh hresumable =>
      rcases hresumable with ⟨-, hstart, -⟩ | ⟨htries, -⟩
      · exact validateTerminal_unbegun hcount hzero hstart hacc hfresh
      · exact absurd hzero htries
    | claimed _ hclaim _ _ _ hacc hresumable =>
      have hlt := hcount.claimed hclaim
      have hnonneg := hcount.nonneg
      rcases hresumable with ⟨-, hstart, -⟩ | ⟨htries, -⟩
      · exact validateTerminal_unbegun hcount hzero hstart hacc fun hgen => by omega
      · exact absurd hzero htries
    | dispatching _ _ hother | reconcileRequired _ hother
    | reconciling _ _ hother => simp [hother] at hstate
  | present prior _ startedAt _ _ hstate hstart hpost hdue =>
    cases hactive with
    | reconciling before _ _ _ hpre _ _ hacc hbetween _ htries =>
      rw [hpre, some.injEq] at hstart
      subst hstart
      exact validateTerminal_begun hcount htries hpre (hacc.trans hbetween) hacc
        nofun hdue hpost
    | pending hother | claimed _ hother | dispatching _ _ hother
    | reconcileRequired _ hother => simp [hother] at hstate

/-! ## The tables -/

/-- What the tables have of a row and its operation. -/
structure RowKept (s : DispatchStore) (row : OutboxRow) (operation : OperationRow) : Prop where
  time : 0 ≤ operation.acceptedAtMs
  active : operation.state = .accepted →
    s.outcomeHistory row.operationId = [] ∧ ActiveRow operation.acceptedAtMs row
  ended : operation.state ≠ .accepted → EndedRow operation (s.outcomeHistory row.operationId) row

/-- The invariant of the tables in a run whose calls meet their conditions. -/
structure Kept (s : DispatchStore) : Prop where
  tracked : RowsTracked s
  facts : ∀ fact ∈ s.outcomes, fact.operationId ∈ s.operations
  rows : ∀ (id : OutboxId) row, s.outbox[id]? = some row → Planned row ∧
    ∀ operation, s.operations[row.operationId]? = some operation → RowKept s row operation

theorem RowKept.congr {operation : OperationRow} (h : RowKept s row operation)
    (hhist : t.outcomeHistory row.operationId = s.outcomeHistory row.operationId) :
    RowKept t row operation where
  time := h.time
  active := by
    rw [hhist]
    exact h.active
  ended := by
    rw [hhist]
    exact h.ended

theorem outcomeHistory_append_other {operationId other : OperationId}
    (hfacts : ∀ fact ∈ facts, fact.operationId = operationId) (hne : operationId ≠ other)
    (hout : t.outcomes = s.outcomes ++ facts) :
    t.outcomeHistory other = s.outcomeHistory other := by
  unfold DispatchStore.outcomeHistory
  rw [hout, filter_append]
  have hnone : facts.filter (fun fact => decide (fact.operationId = other)) = [] := by
    refine filter_eq_nil_iff.mpr fun fact hfact => ?_
    rw [hfacts fact hfact]
    simpa using hne
  rw [hnone, append_nil]

theorem outcomeHistory_append_self {operationId : OperationId}
    (hfacts : ∀ fact ∈ facts, fact.operationId = operationId)
    (hnone : s.outcomeHistory operationId = []) (hout : t.outcomes = s.outcomes ++ facts) :
    t.outcomeHistory operationId = facts := by
  unfold DispatchStore.outcomeHistory at hnone ⊢
  rw [hout, filter_append, hnone, nil_append]
  exact filter_eq_self.mpr fun fact hfact => by simpa using hfacts fact hfact

theorem Move.kept (h : Move True s t) (hs : Kept s) : Kept t := by
  have htracked := h.tracked hs.tracked
  cases h with
  | accept acceptance acceptedAtMs htime hop houtbox hrows =>
    refine ⟨htracked, fun fact hfact => ExtTreeMap.mem_insert.mpr (.inr (hs.facts fact hfact)),
      fun id row hrow => ?_⟩
    rcases of_insert hrow with ⟨hid, rfl⟩ | ⟨hid, hrow⟩
    · refine ⟨⟨acceptance.effect, rfl⟩, fun operation hstored => ?_⟩
      rw [show (acceptance.outboxRow acceptedAtMs).operationId = acceptance.operationId from rfl,
        getElem?_insert_eq, if_pos rfl, some.injEq] at hstored
      subst hstored
      refine ⟨htime, fun _ => ⟨?_, ?_⟩, fun hended => absurd rfl hended⟩
      · refine filter_eq_nil_iff.mpr fun fact hfact heq => ?_
        have hsame : fact.operationId = acceptance.operationId := of_decide_eq_true heq
        exact hop (hsame ▸ hs.facts fact hfact)
      · exact .pending rfl rfl rfl (le_refl _) (fun _ => rfl) (.inl ⟨rfl, rfl, rfl⟩)
    · obtain ⟨hplan, hkept⟩ := hs.rows id row hrow
      refine ⟨hplan, fun operation hstored => ?_⟩
      have hne := ne_of_not_loaded hrow (hrows ▸ not_mem_nil)
      rw [getElem?_insert_eq, if_neg hne] at hstored
      exact (hkept operation hstored).congr rfl
  | row old new operation hold hop hacc hmove =>
    refine ⟨htracked, hs.facts, fun id row hrow => ?_⟩
    rcases of_insert hrow with ⟨hid, rfl⟩ | ⟨hid, hrow⟩
    · obtain ⟨hplan, hkept⟩ := hs.rows _ old hold
      obtain ⟨-, hsame, hdoc, -⟩ := hmove.same
      refine ⟨by unfold Planned; rw [hdoc]; exact hplan, fun stored hstored => ?_⟩
      rw [hsame, hop, some.injEq] at hstored
      subst hstored
      obtain ⟨htime, hactive, -⟩ := hkept operation hop
      obtain ⟨hhist, hrow⟩ := hactive hacc
      refine ⟨htime, fun _ => ⟨by rw [hsame]; exact hhist, ?_⟩, fun hended =>
        absurd hacc hended⟩
      exact hmove.keepsActive hrow (hs.tracked.rows _ old hold).1
    · obtain ⟨hplan, hkept⟩ := hs.rows id row hrow
      exact ⟨hplan, fun stored hstored => (hkept stored hstored).congr rfl⟩
  | outcome old operation facts fact state error hold hop hacc honly hfacts hend =>
    refine ⟨htracked, fun f hf => ?_, fun id row hrow => ?_⟩
    · refine ExtTreeMap.mem_insert.mpr ?_
      rcases mem_append.mp hf with hpre | hnew
      · exact .inr (hs.facts f hpre)
      · exact .inl (by rw [hfacts f hnew]; exact Std.ReflCmp.compare_self)
    · rw [getElem?_insert_eq] at hrow
      obtain ⟨hplan, hkept⟩ := hs.rows _ old hold
      obtain ⟨htime, hactive, -⟩ := hkept operation hop
      obtain ⟨hhist, hoperating⟩ := hactive hacc
      split_ifs at hrow with hid
      · cases hrow
        refine ⟨hplan, fun stored hstored => ?_⟩
        rw [show (old.ended state error).operationId = old.operationId from rfl,
          getElem?_insert_eq, if_pos rfl, some.injEq] at hstored
        subst hstored
        refine ⟨htime, fun hlive => absurd hlive (status_ne_accepted fact), fun _ => ?_⟩
        show EndedRow _ (DispatchStore.outcomeHistory _ old.operationId) _
        rw [outcomeHistory_append_self hfacts hhist rfl]
        exact hend.readable hoperating (hs.tracked.rows _ old hold).1 hplan
      · obtain ⟨hplan, hkept⟩ := hs.rows id row hrow
        refine ⟨hplan, fun stored hstored => ?_⟩
        have hne : old.operationId ≠ row.operationId := by
          refine ne_of_not_loaded hrow ?_
          rw [honly, mem_singleton]
          exact fun heq => hid (heq ▸ hs.tracked.keyed id row hrow)
        rw [getElem?_insert_eq, if_neg hne] at hstored
        exact (hkept stored hstored).congr (outcomeHistory_append_other hfacts hne rfl)

theorem Moves.kept (h : Moves True s t) (hs : Kept s) : Kept t := by
  induction h with
  | refl => exact hs
  | tail _ hmove ih => exact hmove.kept ih

end

/-! ## Runs -/

namespace DispatchStore

variable {s : DispatchStore}

/-- The two conditions: only a first attempt is deferred, and the clock of an ambiguous attempt of a
no-retry row does not stand before its start. -/
def Careful (s : DispatchStore) (ambient : Ambient) : DispatchCall → Prop
  | .deferDispatchBeforeBoundary permit _ =>
    ∀ row, s.outbox[permit.outboxId]? = some row → row.attempts ≤ 1
  | .recordDispatchAmbiguity permit _ =>
    ∀ row startedAt, s.outbox[permit.outboxId]? = some row →
      row.document.replayPolicy = .noAutomaticRetry →
      row.dispatchStartedAtMs = some startedAt → startedAt ≤ ambient.clock
  | _ => True

/-- The dispatch system under these conditions. -/
def carefulMachine : Machine DispatchStore where
  init s := s = .empty
  step s t := ∃ ambient call answer, s.Careful ambient call ∧ s.call ambient call = .ok (t, answer)

/-- The check of a row that every later call makes, by the state of its operation. -/
def checkRow (s : DispatchStore) (row : OutboxRow) : Except DispatchError Unit := do
  let operation ← okOr s.operations[row.operationId]? .corruption
  match operation.state with
  | .accepted =>
    validateNonterminalOutboxDispatchMetadata row operation.acceptedAtMs row.document.replayPolicy
  | .settled | .failed | .cancelled | .uncertain => do
    let outcomeAtMs ← okOr operation.outcomeAtMs .corruption
    validateTerminalOutboxDispatchMetadata row operation.acceptedAtMs
      (dispatchUpperBound (s.outcomeHistory row.operationId) outcomeAtMs)
      (wasReconciled (s.outcomeHistory row.operationId))

theorem checkRow_of_kept {id : OutboxId} {row} (hs : Kept s)
    (hrow : s.outbox[id]? = some row) : s.checkRow row = .ok () := by
  obtain ⟨hcount, operation, hstored, -⟩ := hs.tracked.rows id row hrow
  obtain ⟨htime, hactive, hended⟩ := (hs.rows id row hrow).2 operation hstored
  unfold DispatchStore.checkRow
  rw [hstored, show okOr (some operation) DispatchError.corruption = .ok operation from rfl,
    ok_bind]
  cases hstate : operation.state with
  | accepted => exact (hactive hstate).2.validate hcount htime
  | settled | failed | cancelled | uncertain =>
    obtain ⟨outcomeAt, hat, hvalid⟩ := hended (by rw [hstate]; decide)
    simp only [hat, okOr, ok_bind, hvalid]

theorem fits_of_kept {ambient : Ambient} {call} (hs : Kept s)
    (hcareful : s.Careful ambient call) : s.Fits True ambient call := by
  cases call with
  | deferDispatchBeforeBoundary | recordDispatchAmbiguity => exact fun _ => hcareful
  | recoverNextExpiredDispatch retryAfter =>
    intro _ id row hrow hdisp startedAt leasedUntil hstart hleased
    obtain ⟨-, operation, hstored, hstand, -⟩ := hs.tracked.rows id row hrow
    have hacc := hstand.mp (by rw [hdisp]; rfl)
    obtain ⟨-, hactive⟩ := ((hs.rows id row hrow).2 operation hstored).active hacc
    cases hactive with
    | dispatching before until' _ _ hpre huntil hlease =>
      rw [hpre, some.injEq] at hstart
      rw [huntil, some.injEq] at hleased
      omega
    | pending hother | claimed _ hother | reconcileRequired _ hother
    | reconciling _ _ hother => simp [hother] at hdisp
  | _ => trivial

/-- Every row that a careful run writes passes its check. -/
theorem readable_of_careful (hs : carefulMachine.Reachable s) (id : OutboxId) (row : OutboxRow)
    (hrow : s.outbox[id]? = some row) : s.checkRow row = .ok () := by
  have hkept : Kept s := by
    refine hs.invariant (fun s hin => ?_) fun s t _ hkept hstep => ?_
    · rw [show s = .empty from hin]
      refine ⟨empty_tracked, fun fact hfact => ?_, fun id row hrow => ?_⟩
      · cases hfact
      · simp [DispatchStore.empty] at hrow
    · obtain ⟨ambient, call, answer, hcareful, hcall⟩ := hstep
      exact (call_done hkept.tracked.keyed (fits_of_kept hkept hcareful) hcall).moves.kept hkept
  exact checkRow_of_kept hkept hrow

theorem careful_run_after (s) (calls)
    (h : Calls.Along (fun s c => s.transact c.1 c.2) (fun s c => s.Careful c.1 c.2) s calls) :
    carefulMachine.Run s (s.after calls) := by
  induction calls generalizing s with
  | nil => exact .refl
  | cons c calls ih =>
    refine Relation.ReflTransGen.trans ?_ (ih (s.transact c.1 c.2).2 h.2)
    have hcareful := h.1
    unfold transact
    split
    · rename_i t answer hcall
      exact .single ⟨_, _, _, hcareful, hcall⟩
    · exact .refl

def samplePermit (generation : ℤ) (attempt : ℕ) (effect : Effect) : DispatchPermit where
  outboxId := ⟨3⟩
  leaseGeneration := generation
  operationId := ⟨2⟩
  effectIndex := 0
  attempt := attempt
  document := effect.planned.document
  externalIdempotencyKey := ⟨⟨2⟩, 0⟩
  actionEpoch := effect.planned.fence.actionEpoch
  resourceFence := none

/-- A first attempt that is deferred, and the next one, whose end is ambiguous. -/
def sampleRetried : List (Ambient × DispatchCall) :=
  [(sampleAmbient 10, .execute ⟨⟨1⟩, ⟨2⟩, ⟨3⟩, ⟨4⟩, .beginTaskTeardown ⟨4⟩ 1, 7⟩),
    (sampleAmbient 20, .claimNextDispatch 9000000),
    (sampleAmbient 21, .beginDispatch ⟨⟨3⟩, 1⟩),
    (sampleAmbient 22, .deferDispatchBeforeBoundary
      (samplePermit 1 1 (.beginTaskTeardown ⟨4⟩ 1)) 1000000),
    (sampleAmbient 30, .claimNextDispatch 9000000),
    (sampleAmbient 31, .beginDispatch ⟨⟨3⟩, 2⟩),
    (sampleAmbient 32, .recordDispatchAmbiguity
      (samplePermit 2 1 (.beginTaskTeardown ⟨4⟩ 1)) 1000000)]

theorem sampleRetried_readable :
    ∃ row, (DispatchStore.empty.after sampleRetried).outbox[(⟨3⟩ : OutboxId)]? = some row ∧
      row.attempts = 1 ∧ (DispatchStore.empty.after sampleRetried).checkRow row = .ok () := by
  have hdeferred : ∀ row ∈ (DispatchStore.empty.after (sampleRetried.take 3)).outbox[
      (⟨3⟩ : OutboxId)]?, row.attempts ≤ 1 := by
    decide +kernel
  have hambiguous : ∀ row ∈ (DispatchStore.empty.after (sampleRetried.take 6)).outbox[
      (⟨3⟩ : OutboxId)]?, row.document.replayPolicy ≠ .noAutomaticRetry := by
    decide +kernel
  obtain ⟨row, hrow, htries⟩ : ∃ row ∈ (DispatchStore.empty.after sampleRetried).outbox[
      (⟨3⟩ : OutboxId)]?, row.attempts = 1 := by
    decide +kernel
  have hrun : carefulMachine.Run .empty (DispatchStore.empty.after sampleRetried) :=
    careful_run_after .empty sampleRetried ⟨trivial, trivial, trivial, hdeferred, trivial, trivial,
      fun row _ hget hpolicy => absurd hpolicy (hambiguous row hget), trivial⟩
  exact ⟨row, hrow, htries, readable_of_careful ⟨.empty, rfl, hrun⟩ ⟨3⟩ row hrow⟩

/-! A second attempt that is deferred, and an attempt declared uncertain by an earlier clock. -/

def sampleDeferral : List (Ambient × DispatchCall) :=
  [(sampleAmbient 10, .execute ⟨⟨1⟩, ⟨2⟩, ⟨3⟩, ⟨4⟩, .beginTaskTeardown ⟨4⟩ 1, 7⟩),
    (sampleAmbient 20, .claimNextDispatch 9000000),
    (sampleAmbient 21, .beginDispatch ⟨⟨3⟩, 1⟩),
    (sampleAmbient 22, .recordDispatchAmbiguity
      (samplePermit 1 1 (.beginTaskTeardown ⟨4⟩ 1)) 1000000),
    (sampleAmbient 30, .claimNextDispatch 9000000),
    (sampleAmbient 31, .beginDispatch ⟨⟨3⟩, 2⟩),
    (sampleAmbient 32, .deferDispatchBeforeBoundary
      (samplePermit 2 2 (.beginTaskTeardown ⟨4⟩ 1)) 1000000)]

def sampleInput : Effect :=
  .deliverProviderInput {
    taskId := ⟨4⟩, operationId := ⟨2⟩, commandId := ⟨1⟩, clientId := ⟨5⟩, agentSessionId := ⟨6⟩,
    providerKind := .claudeCode, providerSessionId := none, runtimeGeneration := 1,
    actionEpoch := 1, turnId := ⟨7⟩, questionId := none, approvalId := none, action := .stopTurn,
    wait := false }

def sampleUncertainty : List (Ambient × DispatchCall) :=
  [(sampleAmbient 10, .execute ⟨⟨1⟩, ⟨2⟩, ⟨3⟩, ⟨4⟩, sampleInput, 7⟩),
    (sampleAmbient 20, .claimNextProviderInputDispatch 9000000),
    (sampleAmbient 21, .beginDispatch ⟨⟨3⟩, 1⟩),
    (sampleAmbient 15, .recordDispatchAmbiguity (samplePermit 1 1 sampleInput) 1000000)]

def unreadable (s : DispatchStore) : Bool :=
  s.outbox[(⟨3⟩ : OutboxId)]?.any fun row => !isOk (s.checkRow row)

theorem unreadable_spec {s : DispatchStore} (h : s.unreadable = true) :
    ∃ row, s.outbox[(⟨3⟩ : OutboxId)]? = some row ∧ s.checkRow row ≠ .ok () := by
  unfold unreadable at h
  cases hrow : s.outbox[(⟨3⟩ : OutboxId)]? with
  | none =>
    rw [hrow] at h
    cases h
  | some row =>
    rw [hrow] at h
    refine ⟨row, rfl, fun hok => ?_⟩
    simp [hok, isOk] at h

theorem deferral_unreadable :
    ¬ (∀ s, dispatchMachine.Reachable s → ∀ (id : OutboxId) row,
      s.outbox[id]? = some row → s.checkRow row = .ok ()) ∧
    (DispatchStore.empty.after sampleUncertainty).unreadable = true := by
  refine ⟨fun hall => ?_, by decide +kernel⟩
  have hbad : (DispatchStore.empty.after sampleDeferral).unreadable = true := by decide +kernel
  obtain ⟨row, hrow, hnot⟩ := unreadable_spec hbad
  exact hnot (hall _ ⟨.empty, rfl, run_after .empty sampleDeferral⟩ ⟨3⟩ row hrow)

end DispatchStore

end DevManager
