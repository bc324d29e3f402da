import DevManager.Kernel.DispatchSteps

/-!
# Scans, reconciliation and tokens

The calls that scan for a row, and the reconciliation calls, are runs of moves as
well. A claim that a scan hands out names the generation it gave its row, one above
the row's before; every other call honours the token it holds.

* `DispatchStore.call_done`: a call that succeeds is a run of moves, and has honoured the token
  it holds.
-/

namespace DevManager

open HistoricalOutcome OrdMap Option

section Steps

variable {P : Prop} {ambient : Ambient} {s t : DispatchStore} {id : OutboxId}
  {row row' : OutboxRow} {document : PlannedEffectDocument} {fence : OperationFence}
  {operation : OperationRow} {nowMs leaseMs delayMs : ℤ}

/-! ## Recording a reconciliation -/

variable {outcome : OperationOutcome}

theorem outcomeMatchesHistory_uncertain {fact : OperationUncertainFact}
    (h : outcome.kind.allowsVerifiedReconciliation = true) :
    outcomeMatchesHistory outcome (.uncertain fact) = false := by
  unfold outcomeMatchesHistory
  cases hkind : outcome.kind with
  | settled _ => simp
  | failed _ => simp
  | cancelled | uncertain =>
    rw [hkind] at h
    cases h

theorem status_ne_uncertain {kind : OperationOutcomeKind}
    (h : kind.allowsVerifiedReconciliation = true) : kind.status ≠ .uncertain := by
  cases kind <;> simp [OperationOutcomeKind.allowsVerifiedReconciliation,
    OperationOutcomeKind.status] at h ⊢

/-- The tables between the two facts of a present outcome. -/
def DispatchStore.uncertain (s : DispatchStore) (row : OutboxRow) (operation : OperationRow)
    (prior : OperationUncertainFact) : DispatchStore where
  operations := s.operations.insert row.operationId (operation.withOutcome (.uncertain prior))
  outbox := s.outbox.insert row.outboxId (row.ended .uncertain (some .ambiguousDispatch))
  outcomes := s.outcomes ++ [.uncertain prior]

variable {state : OperationState}

theorem verifiedAfterUncertain_ok
    {prior : OperationUncertainFact} (hopId : row.operationId = outcome.operationId)
    (hprior : prior.operationId = row.operationId) (hhist : s.outcomeHistory row.operationId = [])
    (hallows : outcome.kind.allowsVerifiedReconciliation = true)
    (h : recordOutcomeInTx ambient (s.uncertain row operation prior) outcome = .ok (t, state)) :
    t =
      { operations := s.operations.insert row.operationId
          (operation.withOutcome (outcome.fact operation.commandId))
        outbox := s.outbox.insert row.outboxId
          (row.ended outcome.kind.rowState.1 outcome.kind.rowState.2)
        outcomes := s.outcomes ++ [.uncertain prior, outcome.fact operation.commandId] } := by
  have hrow : (s.uncertain row operation prior).outbox[
      (row.ended .uncertain (some .ambiguousDispatch)).outboxId]? =
        some (row.ended .uncertain (some .ambiguousDispatch)) := by
    simp [DispatchStore.uncertain, OutboxRow.ended]
  have hstored : (s.uncertain row operation prior).operations[outcome.operationId]? =
      some (operation.withOutcome (.uncertain prior)) := by
    simp [DispatchStore.uncertain, hopId]
  have hfacts : ((s.uncertain row operation prior).outcomeHistory outcome.operationId).any
      (outcomeMatchesHistory outcome) = false := by
    have hpost : (s.uncertain row operation prior).outcomeHistory outcome.operationId =
        [.uncertain prior] := by
      unfold DispatchStore.outcomeHistory at hhist ⊢
      rw [← hopId]
      show (s.outcomes ++ [uncertain prior]).filter _ = _
      rw [List.filter_append, hhist]
      simp [operationId, hprior]
    rw [hpost]
    simp [outcomeMatchesHistory_uncertain hallows]
  obtain ⟨-, rfl⟩ := recordVerified_ok hrow hopId hstored rfl hfacts h
  rw [← hopId, ended_ended]
  simp only [DispatchStore.uncertain, OutboxRow.ended, insert_insert, List.append_assoc,
    List.cons_append, List.nil_append]
  rfl

theorem presentLive_ok {generation : ℤ}
    (hrow : s.outbox[row.outboxId]? = some row) (hopId : row.operationId = outcome.operationId)
    (hr : Revalidated s row document fence operation) (hstate : row.state = .reconciling)
    (h : recordPresentReconciliationInTx ambient s outcome row.outboxId generation =
      .ok (t, state)) : Moves P s t := by
  simp only [recordPresentReconciliationInTx, ok_iff] at h
  obtain ⟨-, h⟩ := h
  split at h
  · cases h
  simp only [ok_iff, Bool.not_eq_false] at h
  obtain ⟨hallows, h⟩ := h
  rw [← hopId, hr.only] at h
  simp only [ok_iff] at h
  obtain ⟨-, h⟩ := h
  rw [if_neg (by rw [hstate]; decide)] at h
  simp only [ok_iff, not_or, not_lt] at h
  obtain ⟨-, operation', hop, -, -, startedAt, hstart, ⟨-, hpost, hdue⟩, s₁, happend, s₂,
    htrans, h⟩ := h
  rw [hr.stored, some.injEq] at hop
  subst hop
  obtain ⟨operation', hop, -, rfl⟩ := appendOutcome_ok happend
  obtain ⟨row', hrow', -, rfl⟩ := transitionOutbox_ok htrans
  simp only [operationId, hr.stored, some.injEq] at hop
  subst hop
  simp only [hrow, some.injEq] at hrow'
  subst hrow'
  have hend := verifiedAfterUncertain_ok hopId rfl hr.history hallows h
  subst hend
  refine .single (.outcome row operation _ _ _ _ hrow hr.stored hr.accepted hr.only ?_
    (.present _ _ startedAt _ _ hstate hstart hpost hdue ?_ ?_ ?_))
  · intro fact hfact
    rcases List.mem_cons.mp hfact with rfl | hlast
    · rfl
    · rw [List.mem_singleton.mp hlast, OperationOutcome.fact_operationId, hopId]
  · simpa using rowState_terminal outcome.kind
  · simpa using status_ne_uncertain hallows
  · simpa using rowState_class outcome.kind

variable {finding : ReconciliationFinding} {claim : ReconciliationClaim}

theorem buildPresent_ok {occurredAtMs : ℤ}
    (h : buildPresentReconciliationOutcome ambient s claim finding occurredAtMs =
      .ok (some outcome)) : outcome.operationId = claim.operationId := by
  cases finding with
  | absent _ _ => cases h
  | inconclusive _ _ => cases h
  | presentSettled key identity =>
    simp only [buildPresentReconciliationOutcome, ok_iff, some.injEq] at h
    obtain ⟨_, -, _, -, -, rfl⟩ := h
    rfl
  | presentFailed key identity code =>
    simp only [buildPresentReconciliationOutcome, ok_iff, some.injEq] at h
    obtain ⟨_, -, -, rfl⟩ := h
    rfl

theorem recordAbsent_ok {lookupIdentity} {retryAfter : ℕ} {startedAt : ℤ}
    (hkeyed : s.Keyed) (hrow : s.outbox[row.outboxId]? = some row)
    (hr : Revalidated s row document fence operation) (hstate : row.state = .reconciling)
    (hstarted : row.dispatchStartedAtMs = some startedAt)
    (hlookup : ∃ effectIndex, row.effectIndexU32 = .ok effectIndex ∧
      externalIdempotencyKey row.operationId effectIndex = lookupIdentity)
    (h : recordAbsent s row lookupIdentity retryAfter
      (max (max nowMs startedAt) row.availableAtMs) = .ok t) : Moves P s t := by
  simp only [recordAbsent, bind_eq_ok, DispatchStore.updateOutbox_eq_ok] at h
  obtain ⟨delay, hdelay, effectIndex, hidx, attempt, htry, receipt, hrec, available,
    havail, row', hrow', -, rfl⟩ := h
  rw [hrow, some.injEq] at hrow'
  subst hrow'
  obtain ⟨hpost, hdue⟩ := le_leaseDeadline (validateDispatchLeaseMs_pos hdelay) havail
  have hstart := (le_max_right nowMs startedAt).trans hpost
  refine hr.moves hkeyed hrow (.absent startedAt available receipt hstate hstarted hstart hdue ?_)
  obtain ⟨index, hin', hkey⟩ := hlookup
  rw [hidx, Except.ok.injEq] at hin'
  subst hin'
  simp only [AbsenceReceiptDocument.new, ok_iff] at hrec
  obtain ⟨hvalid, rfl⟩ := hrec
  simp only [validateAbsenceAuthorization, ok_iff]
  exact ⟨_, rfl, hvalid, effectIndex, hidx, attempt, htry, startedAt, hstarted, by
    simp [AbsenceReceiptDocument.authorizes, hkey]
    omega⟩

theorem recordLive_ok (hkey : s.Keyed) (hrow : s.outbox[row.outboxId]? = some row)
    (hr : Revalidated s row document fence operation) (hop : row.operationId = claim.operationId)
    (hlookup : ∃ effectIndex, row.effectIndexU32 = .ok effectIndex ∧
      externalIdempotencyKey row.operationId effectIndex = finding.lookupIdentity)
    (h : recordLiveReconciliation ambient s row claim document finding nowMs = .ok (t, state)) :
    Moves P s t := by
  simp only [recordLiveReconciliation, ok_iff] at h
  obtain ⟨hstate, _, -, -, -, startedAt, hstart, present, hpre, h⟩ := h
  cases finding with
  | absent key retryAfter =>
    simp only [ok_iff] at h
    obtain ⟨t', h, rfl, -⟩ := h
    exact recordAbsent_ok hkey hrow hr hstate hstart hlookup h
  | inconclusive key retryAfter =>
    simp only [recordInconclusive, ok_iff, DispatchStore.updateOutbox_eq_ok] at h
    obtain ⟨t', ⟨delay, hdelay, available, havail, row', hrow', -, rfl⟩, rfl, -⟩ := h
    rw [hrow, some.injEq] at hrow'
    subst hrow'
    exact unresolved_ok hkey hrow hr hstate hstart (validateDispatchLeaseMs_pos hdelay)
      havail (.inl rfl)
  | presentSettled | presentFailed =>
    simp only [ok_iff] at h
    obtain ⟨outcome, rfl, h⟩ := h
    exact presentLive_ok hrow (hop.trans (buildPresent_ok hpre).symm) hr hstate h

theorem recordReconciliation_ok (hkeyed : s.Keyed)
    (h : recordReconciliationInTx ambient s claim finding nowMs = .ok (t, state)) :
    s.Honours claim.outboxId claim.leaseGeneration ∧ Moves P s t := by
  simp only [recordReconciliationInTx, ok_iff] at h
  obtain ⟨row, hrow, hsame, h⟩ := h
  have hkey := hkeyed _ _ hrow
  split_ifs at h with hended
  · simp only [ok_iff] at h
    obtain ⟨hident, operation, -, outcomeAt, -, present, hpre, outcome, rfl, h⟩ := h
    obtain ⟨hgen, hop, -⟩ := validateReconciliationClaimIdentity_ok hident
    refine ⟨⟨row, hrow, hgen, fun hunsure => ?_⟩, ?_⟩
    · rw [hunsure] at hended
      simp at hended
    · rw [← hkey] at hrow
      have hunchanged := presentEnded_ok hrow (hop.trans (buildPresent_ok hpre).symm) hended h
      rw [hunchanged]
  · simp only [ok_iff] at h
    obtain ⟨⟨document, fence⟩, hvalid, hclaim, h⟩ := h
    obtain ⟨operation, hr⟩ := candidateLineage_ok hrow hvalid
    obtain ⟨hgen, hop, hlookup⟩ := validateReconciliationClaim_ok hclaim
    rw [← hsame] at hlookup
    refine ⟨hr.honours hrow hgen, ?_⟩
    rw [← hkey] at hrow
    split at h
    · simp only [ok_iff] at h
      obtain ⟨-, rfl, -⟩ := h
      exact .refl
    · simp only [pure_eq_ok, Prod.mk.injEq] at h
      obtain ⟨rfl, -⟩ := h
      exact .refl
    · exact recordLive_ok hkeyed hrow hr hop hlookup h

/-! ## Scans -/

/-- A claim that a scan hands out: its row is at this generation, and was at an earlier one. -/
def Claims (s t : DispatchStore) (id : OutboxId) (generation : ℤ) : Prop :=
  (∃ row, t.outbox[id]? = some row ∧ row.leaseGeneration = generation) ∧
    ∀ row, s.outbox[id]? = some row → row.leaseGeneration < generation

theorem filter_eq_some {o} {p : OutboxRow → Bool}
    (h : o.filter p = some row) : o = some row ∧ p row = true := by
  rw [filter_eq_some_iff] at h
  exact h

variable {ids : List OutboxId}

theorem claimNextReconciliation_ok {saw : Bool} {claim} (hkeyed : s.Keyed) (hlease : 0 < leaseMs)
    (h : claimNextReconciliationLoop ambient nowMs leaseMs s ids saw = .ok (t, claim)) :
    Moves P s t ∧ ∀ c, claim = some c → Claims s t c.outboxId c.leaseGeneration := by
  induction ids generalizing saw with
  | nil =>
    unfold claimNextReconciliationLoop at h
    split_ifs at h
    cases h
    exact ⟨.refl, fun c hc => by cases hc⟩
  | cons id ids ih =>
    unfold claimNextReconciliationLoop at h
    split at h
    · exact ih h
    · rename_i row hfound
      obtain ⟨hrow, hcan⟩ := filter_eq_some hfound
      split at h
      · exact ih h
      · cases h
      · rename_i document fence hvalid
        obtain ⟨operation, hr⟩ := candidateLineage_ok hrow hvalid
        simp only [ok_iff, not_or, not_and_or, DispatchStore.updateOutbox_eq_ok,
          buildReconciliationClaim] at h
        obtain ⟨⟨-, hstate⟩, until', huntil, generation, hgen, t', ⟨row', hrow', -, rfl⟩,
          claim', ⟨_, -, _, -, -, _, -, rfl⟩, rfl, rfl⟩ := h
        have hkey := hkeyed _ _ hrow
        rw [← hkey] at hrow
        rw [hrow, some.injEq] at hrow'
        subst hrow'
        have hnext : generation = row.leaseGeneration + 1 := checkedAddI64_eq_some hgen
        have hdeadline := leaseDeadline_eq_ok huntil
        have hdue : row.availableAtMs ≤ nowMs := by
          simp only [DispatchStore.reconciliationCandidate, Bool.and_eq_true, Bool.or_eq_true,
            decide_eq_true_eq] at hcan
          rcases hcan.2 with ⟨-, hdue⟩ | ⟨⟨-, hdue⟩, -⟩
          · exact hdue
          · exact hdue
        subst hnext hdeadline
        refine ⟨hr.moves hkeyed hrow (.reconcile nowMs leaseMs hstate hdue hlease), fun c hc => ?_⟩
        cases hc
        refine ⟨⟨_, by rw [getElem?_insert_eq, if_pos rfl], rfl⟩, fun before hpre => ?_⟩
        rw [hrow, some.injEq] at hpre
        rw [← hpre]
        exact Int.lt_succ _

theorem claimOutboxRow_ok {expected claim} (hkey : s.Keyed)
    (hrow : s.outbox[id]? = some row) (hr : Revalidated s row document fence operation)
    (hstate : row.state = .pending ∧
      (row.document.replayPolicy = .noAutomaticRetry → row.attempts = 0) ∨ row.state = .claimed)
    (hdue : row.availableAtMs ≤ nowMs) (hlease : 0 < leaseMs)
    (h : claimOutboxRow s row nowMs leaseMs expected = .ok (t, claim)) :
    Moves P s t ∧ Claims s t claim.outboxId claim.leaseGeneration := by
  simp only [claimOutboxRow, ok_iff, DispatchStore.updateOutbox_eq_ok] at h
  obtain ⟨until', huntil, generation, hgen, t', ⟨row', hrow', -, rfl⟩, rfl, rfl⟩ := h
  rw [← hkey _ _ hrow] at hrow
  rw [hrow, some.injEq] at hrow'
  subst hrow'
  have hnext : generation = row.leaseGeneration + 1 := checkedAddI64_eq_some hgen
  have hdeadline := leaseDeadline_eq_ok huntil
  subst hnext hdeadline
  refine ⟨hr.moves hkey hrow (.claim nowMs leaseMs hstate hdue hlease),
    ⟨_, by rw [getElem?_insert_eq, if_pos rfl], rfl⟩, fun before hpre => ?_⟩
  rw [hrow, some.injEq] at hpre
  rw [← hpre]
  exact Int.lt_succ _

theorem retire_ok {retire : Bool} {entry} (hkey : s.Keyed)
    (hrow : s.outbox[id]? = some row) (hacc : s.operationAccepted row = true)
    (hdest : retire = true → row.document.effect.destinationClass = .providerInput)
    (h : retireStaleCandidate ambient s row nowMs retire = .ok (t, entry)) : Moves P s t := by
  unfold retireStaleCandidate at h
  split_ifs at h with hret
  · cases h
    exact .refl
  rw [Bool.not_eq_false] at hret
  simp only [bind_eq_ok] at h
  obtain ⟨check, hcheck, h⟩ := h
  split at h
  · cases h
    exact .refl
  rename_i check
  split_ifs at h
  · cases h
    exact .refl
  simp only [ok_iff, retireStaleFencedDispatchInTx, not_or, not_and_or] at h
  obtain ⟨operation, hstored, t', ⟨⟨-, hstate⟩, operation', hstored', s₁, happend, htrans⟩,
    rfl, -⟩ := h
  rw [hstored, some.injEq] at hstored'
  subst hstored'
  unfold DispatchStore.operationAccepted at hacc
  rw [hstored] at hacc
  have hlive : operation.state = .accepted := of_decide_eq_true hacc
  have honly : s.loadOutboxRows row.operationId = [row] := by
    unfold classifyStaleDispatchFence at hcheck
    rw [hstored] at hcheck
    simp only [acceptedDispatchOperationCheck, hlive] at hcheck
    split at hcheck
    · cases hcheck
    · rename_i only hfound
      have hsingle := (DispatchStore.onlyRow_eq_ok.mp hfound).1
      rw [DispatchStore.loadOutboxRows_of_single hrow hsingle] at hsingle
      exact hsingle
  unfold appendRetirement at happend
  rw [if_pos hlive] at happend
  obtain ⟨operation', hop, -, rfl⟩ := appendOutcome_ok happend
  obtain ⟨row', hrow', -, rfl⟩ := transitionOutbox_ok htrans
  simp only [operationId, hstored, some.injEq] at hop
  subst hop
  rw [← hkey _ _ hrow] at hrow
  simp only [hrow, some.injEq] at hrow'
  subst hrow'
  refine .single (.outcome row operation _ _ _ _ hrow hstored hlive honly ?_
    (.retired _ hstate (hdest hret)))
  simp [operationId]

/-! ## What every move keeps -/

theorem RowMove.same (h : RowMove P row row') :
    row'.outboxId = row.outboxId ∧ row'.operationId = row.operationId ∧
      row'.document = row.document ∧ row.leaseGeneration ≤ row'.leaseGeneration := by
  cases h with
  | claim | reconcile => exact ⟨rfl, rfl, rfl, Int.le_of_lt (Int.lt_succ _)⟩
  | retry _ _ generation _ _ _ _ _ _ | unresolved _ _ generation _ _ _ _ _ =>
    refine ⟨rfl, rfl, rfl, ?_⟩
    show row.leaseGeneration ≤ generation
    omega
  | release | renew | begin | defer | absent => exact ⟨rfl, rfl, rfl, le_refl _⟩

theorem Move.keyed (h : Move P s t) (hkey : s.Keyed) : t.Keyed := by
  intro id row hrow
  cases h with
  | accept | outcome =>
    rcases of_insert hrow with ⟨hid, rfl⟩ | ⟨hid, hrow⟩
    · exact hid
    · exact hkey id row hrow
  | row old new operation hold hop hacc hmove =>
    rcases of_insert hrow with ⟨hid, rfl⟩ | ⟨hid, hrow⟩
    · rw [hmove.same.1, hid]
    · exact hkey id row hrow

theorem Move.generation (h : Move P s t) (hrow : s.outbox[id]? = some row) :
    ∃ row', t.outbox[id]? = some row' ∧ row.leaseGeneration ≤ row'.leaseGeneration := by
  cases h with
  | accept acceptance acceptedAtMs htime hop houtbox =>
    refine ⟨row, ?_, le_refl _⟩
    have hne : acceptance.outboxId ≠ id := fun heq =>
      houtbox (heq ▸ mem_iff_exists.mpr ⟨row, hrow⟩)
    rw [getElem?_insert_eq, if_neg hne, hrow]
  | row old new operation hold hop hacc hmove =>
    rw [getElem?_insert_eq]
    split_ifs with hid
    · rw [hid, hrow, some.injEq] at hold
      exact ⟨new, rfl, hold ▸ hmove.same.2.2.2⟩
    · exact ⟨row, hrow, le_refl _⟩
  | outcome old operation facts fact state error hold =>
    rw [getElem?_insert_eq]
    split_ifs with hid
    · rw [hid, hrow, some.injEq] at hold
      exact ⟨_, rfl, le_of_eq (by rw [hold]; rfl)⟩
    · exact ⟨row, hrow, le_refl _⟩

theorem Moves.keyed (h : Moves P s t) (hkey : s.Keyed) : t.Keyed := by
  induction h with
  | refl => exact hkey
  | tail _ hmove ih => exact hmove.keyed ih

theorem Moves.generation (h : Moves P s t) (hrow : s.outbox[id]? = some row) :
    ∃ row', t.outbox[id]? = some row' ∧ row.leaseGeneration ≤ row'.leaseGeneration := by
  induction h with
  | refl => exact ⟨row, hrow, le_refl _⟩
  | tail _ hmove ih =>
    obtain ⟨between, hbetween, hle⟩ := ih
    obtain ⟨row', hrow', hle'⟩ := hmove.generation hbetween
    exact ⟨row', hrow', hle.trans hle'⟩

theorem Claims.earlier {u} {generation : ℤ} (hmoves : Moves P s u)
    (h : Claims u t id generation) : Claims s t id generation := by
  refine ⟨h.1, fun row hrow => ?_⟩
  obtain ⟨between, hbetween, hle⟩ := hmoves.generation hrow
  exact hle.trans_lt (h.2 between hbetween)

/-! ## The two scans of the outbox -/

theorem claimNextDispatch_ok {saw retire : Bool}
    {retired retired' destination claim} (hkey : s.Keyed) (hlease : 0 < leaseMs)
    (hdest : retire = true → destination = some .providerInput)
    (h : claimNextDispatchLoop ambient nowMs leaseMs destination retire ids s saw retired =
      .ok (t, claim, retired')) :
    Moves P s t ∧ ∀ c, claim = some c → Claims s t c.outboxId c.leaseGeneration := by
  induction ids generalizing s saw retired with
  | nil =>
    unfold claimNextDispatchLoop at h
    split_ifs at h
    cases h
    exact ⟨.refl, nofun⟩
  | cons id ids ih =>
    unfold claimNextDispatchLoop at h
    split at h
    · exact ih hkey h
    rename_i row hfound
    obtain ⟨hrow, hcan⟩ := filter_eq_some hfound
    simp only [DispatchStore.dispatchCandidate, Bool.and_eq_true, Bool.or_eq_true,
      decide_eq_true_eq] at hcan
    obtain ⟨⟨hacc, hready⟩, hclass⟩ := hcan
    have hprovider : retire = true → row.document.effect.destinationClass = .providerInput := by
      intro hret
      rw [hdest hret] at hclass
      exact of_decide_eq_true hclass
    have hdue : row.availableAtMs ≤ nowMs := by
      rcases hready with ⟨-, hdue⟩ | ⟨⟨-, hdue⟩, -⟩
      · exact hdue
      · exact hdue
    split at h
    · split at h
      · cases h
      · rename_i s' entry hretired
        have hmoves : Moves P s s' := retire_ok hkey hrow hacc hprovider hretired
        obtain ⟨hrest, hclaims⟩ := ih (hmoves.keyed hkey) h
        exact ⟨hmoves.trans hrest, fun c hc => (hclaims c hc).earlier hmoves⟩
      · rename_i s' hretired
        have hmoves : Moves P s s' := retire_ok hkey hrow hacc hprovider hretired
        obtain ⟨hrest, hclaims⟩ := ih (hmoves.keyed hkey) h
        exact ⟨hmoves.trans hrest, fun c hc => (hclaims c hc).earlier hmoves⟩
    · cases h
    rename_i document fence hvalid
    obtain ⟨operation, hr⟩ := candidateLineage_ok hrow hvalid
    split at h
    · rename_i hstate
      split at h
      · cases h
      · exact ih hkey h
      rename_i hauth
      have hfst : row.document.replayPolicy = .noAutomaticRetry → row.attempts = 0 := by
        intro hpolicy
        rw [hr.document_eq, hpolicy] at hauth
        simp only [pendingDispatchIsAuthorized, Except.ok.injEq, Bool.and_eq_true,
          decide_eq_true_eq] at hauth
        exact hauth.2
      simp only [ok_iff] at h
      obtain ⟨⟨t', c'⟩, hclaim, rfl, rfl, -⟩ := h
      obtain ⟨hmoves, hclaims⟩ := claimOutboxRow_ok (P := P) hkey hrow hr (.inl ⟨hstate, hfst⟩)
        hdue hlease hclaim
      exact ⟨hmoves, fun c hc => some.inj hc ▸ hclaims⟩
    · rename_i hstate
      simp only [ok_iff] at h
      obtain ⟨⟨t', c'⟩, hclaim, rfl, rfl, -⟩ := h
      obtain ⟨hmoves, hclaims⟩ := claimOutboxRow_ok (P := P) hkey hrow hr (.inr hstate) hdue hlease
        hclaim
      exact ⟨hmoves, fun c hc => some.inj hc ▸ hclaims⟩
    · cases h

/-- The lease of an attempt ends after its start. -/
def OutboxRow.Outlived (row : OutboxRow) : Prop :=
  row.state = .dispatching → ∀ startedAt leasedUntil, row.dispatchStartedAtMs = some startedAt →
    row.leasedUntilMs = some leasedUntil → startedAt < leasedUntil

/-- A recovered dispatch: its row has a new generation, or is uncertain. -/
def Recovers (s t : DispatchStore) (id : OutboxId) : Prop :=
  ∃ row', t.outbox[id]? = some row' ∧
    ((∀ row, s.outbox[id]? = some row → row.leaseGeneration < row'.leaseGeneration) ∨
      row'.state = .uncertain)

theorem recoverNextExpired_ok {saw : Bool} {recovery} (hkey : s.Keyed) (hdelay : 0 < delayMs)
    (hP : P → ∀ (id : OutboxId) row, s.outbox[id]? = some row → row.Outlived)
    (h : recoverNextExpiredLoop ambient nowMs delayMs s ids saw = .ok (t, recovery)) :
    Moves P s t ∧ ∀ id disposition, recovery = some (id, disposition) → Recovers s t id := by
  induction ids generalizing saw with
  | nil =>
    unfold recoverNextExpiredLoop at h
    split_ifs at h
    cases h
    exact ⟨.refl, nofun⟩
  | cons id ids ih =>
    unfold recoverNextExpiredLoop at h
    split at h
    · exact ih h
    rename_i row hfound
    obtain ⟨hrow, hcan⟩ := filter_eq_some hfound
    split at h
    · exact ih h
    · cases h
    rename_i document fence hvalid
    obtain ⟨operation, hr⟩ := revalidateAmbiguity_ok hrow hvalid
    simp only [ok_iff] at h
    obtain ⟨⟨t', disposition⟩, hrec, rfl, rfl⟩ := h
    have hdisp : row.state = .dispatching := by
      simp only [DispatchStore.expiredCandidate, Bool.and_eq_true, decide_eq_true_eq] at hcan
      exact hcan.1.2
    rw [← hkey _ _ hrow] at hrow
    obtain ⟨hmoves, row', hrow', hlater⟩ := recoverExpired_ok hkey hdelay hrow hr
      (fun p => hP p _ row hrow hdisp) hrec
    refine ⟨hmoves, fun id' disposition' hc => ?_⟩
    cases hc
    refine ⟨row', hrow', hlater.imp (fun hlt before hpre => ?_) fun hunsure => hunsure⟩
    rw [hrow, some.injEq] at hpre
    exact hpre ▸ hlt

theorem Moves.uncertain (h : Moves P s t) (hrow : s.outbox[id]? = some row)
    (hunsure : row.state = .uncertain) : t.outbox[id]? = some row := by
  induction h with
  | refl => exact hrow
  | tail _ hmove ih =>
    cases hmove with
    | accept acceptance acceptedAtMs htime hop houtbox =>
      have hne : acceptance.outboxId ≠ id := fun heq =>
        houtbox (heq ▸ mem_iff_exists.mpr ⟨row, ih⟩)
      rw [getElem?_insert_eq, if_neg hne, ih]
    | row old _ _ hold _ _ hmove | outcome old _ _ _ _ _ hold _ _ _ _ hmove =>
      have hne : old.outboxId ≠ id := by
        intro heq
        rw [heq, ih, some.injEq] at hold
        subst hold
        cases hmove <;> simp_all
      rw [getElem?_insert_eq, if_neg hne, ih]

end Steps

/-! ## Tokens -/

/-- The token that a call holds. -/
def DispatchCall.token? : DispatchCall → Option (OutboxId × ℤ)
  | releaseDispatchClaim claim _ | renewDispatchClaim claim _ | beginDispatch claim =>
    some (claim.outboxId, claim.leaseGeneration)
  | deferDispatchBeforeBoundary permit _ | recordDispatchCompletion permit _
  | settleProviderInputDelivery permit _ | recordDispatchAmbiguity permit _ =>
    some (permit.outboxId, permit.leaseGeneration)
  | renewReconciliationClaim claim _ | releaseReconciliationClaim claim _
  | recordReconciliation claim _ => some (claim.outboxId, claim.leaseGeneration)
  | execute _ | claimNextDispatch _ | claimNextDispatchForDestination _ _
  | claimNextProviderInputDispatch _ | recoverNextExpiredDispatch _
  | claimNextReconciliation _ => none

/-- The token that an answer hands out. -/
def DispatchAnswer.token? : DispatchAnswer → Option (OutboxId × ℤ)
  | claimed (some claim) _ | renewed claim => some (claim.outboxId, claim.leaseGeneration)
  | permitted permit => some (permit.outboxId, permit.leaseGeneration)
  | reconciling (some claim) => some (claim.outboxId, claim.leaseGeneration)
  | accepted | claimed none _ | released | ambiguous _ | recovered _ | reconciling none
  | recorded _ => none

/-- The row that a claim or a recovery is about. -/
def supersedes? (call : DispatchCall) (answer : DispatchAnswer) : Option OutboxId :=
  match answer with
  | .recovered (some (id, _)) => some id
  | answer => if call.token? = none then answer.token?.map Prod.fst else none

/-- What a call has to meet under `P`: a deferral is of a first attempt, an uncertain outcome is not
observed before its attempt started, and no lease ends before its attempt starts. -/
def DispatchStore.Fits (P : Prop) (s : DispatchStore) (ambient : Ambient) : DispatchCall → Prop
  | .deferDispatchBeforeBoundary permit _ =>
    P → ∀ row, s.outbox[permit.outboxId]? = some row → row.attempts ≤ 1
  | .recordDispatchAmbiguity permit _ =>
    P → ∀ row startedAt, s.outbox[permit.outboxId]? = some row →
      row.document.replayPolicy = .noAutomaticRetry →
      row.dispatchStartedAtMs = some startedAt → startedAt ≤ ambient.clock
  | .recoverNextExpiredDispatch _ =>
    P → ∀ (id : OutboxId) row, s.outbox[id]? = some row → row.Outlived
  | _ => True

theorem Ambient.nowMs_eq {ambient : Ambient} {nowMs : ℤ} (h : ambient.nowMs = .ok nowMs) :
    nowMs = ambient.clock := by
  simp only [Ambient.nowMs, ok_iff] at h
  exact h.2

/-- What a call that succeeds does: it honours the token it holds, moves the tables, and hands out
a token or supersedes those of a row. -/
structure CallDone (P : Prop) (s t : DispatchStore) (call : DispatchCall)
    (answer : DispatchAnswer) :
    Prop where
  moves : Moves P s t
  honours : ∀ id generation, call.token? = some (id, generation) → s.Honours id generation
  handed : ∀ id generation, answer.token? = some (id, generation) →
    ∃ row, t.outbox[id]? = some row ∧ generation ≤ row.leaseGeneration
  supersedes : ∀ id, supersedes? call answer = some id → Recovers s t id

namespace DispatchStore

variable {P : Prop} {ambient : Ambient} {s t : DispatchStore} {id : OutboxId} {generation : ℤ}
  {call : DispatchCall} {answer : DispatchAnswer}

theorem Honours.handed (h : s.Honours id generation) (hmoves : Moves P s t) :
    ∃ row, t.outbox[id]? = some row ∧ generation ≤ row.leaseGeneration := by
  obtain ⟨row, hrow, hgen, -⟩ := h
  obtain ⟨row', hrow', hle⟩ := hmoves.generation hrow
  exact ⟨row', hrow', hgen ▸ hle⟩

theorem recovers_of_claims (h : Claims s t id generation) : Recovers s t id := by
  obtain ⟨⟨row, hrow, rfl⟩, hearlier⟩ := h
  exact ⟨row, hrow, .inl hearlier⟩

theorem callDone_claims {claim retired} (hcall : call.token? = none) (hmoves : Moves P s t)
    (hclaim : ∀ c, claim = some c → Claims s t c.outboxId c.leaseGeneration) :
    CallDone P s t call (.claimed claim retired) := by
  refine ⟨hmoves, fun id generation htok => ?_, fun id generation htok => ?_, fun id hid => ?_⟩
  · rw [hcall] at htok
    cases htok
  · cases claim with
    | none => cases htok
    | some c =>
      cases htok
      obtain ⟨row, hrow, hgen⟩ := (hclaim c rfl).1
      exact ⟨row, hrow, le_of_eq hgen.symm⟩
  · cases claim with
    | none => simp [supersedes?, hcall, DispatchAnswer.token?] at hid
    | some c =>
      simp only [supersedes?, hcall, if_true, DispatchAnswer.token?, map_some, some.injEq] at hid
      subst hid
      exact recovers_of_claims (hclaim c rfl)

theorem callDone_token (hcall : call.token? = some (id, generation)) (hmoves : Moves P s t)
    (hhonour : s.Honours id generation)
    (hans : answer.token? = none ∨ answer.token? = some (id, generation))
    (hsupersedes : supersedes? call answer = none) : CallDone P s t call answer := by
  refine ⟨hmoves, fun id' generation' htok => ?_, fun id' generation' htok => ?_, fun id' hid => ?_⟩
  · rw [hcall] at htok
    cases htok
    exact hhonour
  · rcases hans with hnone | hsame
    · rw [hnone] at htok
      cases htok
    · rw [hsame] at htok
      cases htok
      exact hhonour.handed hmoves
  · rw [hsupersedes] at hid
    cases hid

theorem call_done (hkey : s.Keyed) (hfits : s.Fits P ambient call)
    (h : s.call ambient call = .ok (t, answer)) : CallDone P s t call answer := by
  cases call <;> simp only [DispatchStore.call, ok_iff] at h
  case execute acceptance =>
    simp only [persistSideEffectAcceptance, ok_iff, not_or] at h
    obtain ⟨_, ⟨acceptedAt, hclock, ⟨hop, houtbox, hrows⟩, rfl⟩, rfl, rfl⟩ := h
    have htime : 0 ≤ acceptedAt := by
      rw [Ambient.nowMs_eq hclock]
      omega
    exact ⟨.single (.accept acceptance acceptedAt htime hop houtbox hrows),
      fun _ _ htok => (by cases htok), fun _ _ htok => (by cases htok),
      fun _ hid => (by cases hid)⟩
  case claimNextDispatch | claimNextDispatchForDestination =>
    obtain ⟨leaseMs, hlease, nowMs, -, ⟨t', claim, retired⟩, hclaim, rfl, rfl⟩ := h
    obtain ⟨hmoves, hclaims⟩ :=
      claimNextDispatch_ok (P := P) hkey (validateDispatchLeaseMs_pos hlease)
      (fun hret => by cases hret) hclaim
    exact callDone_claims rfl hmoves hclaims
  case claimNextProviderInputDispatch lease =>
    obtain ⟨leaseMs, hlease, nowMs, -, ⟨t', claim, retired⟩, hclaim, rfl, rfl⟩ := h
    obtain ⟨hmoves, hclaims⟩ :=
      claimNextDispatch_ok (P := P) hkey (validateDispatchLeaseMs_pos hlease)
      (fun _ => rfl) hclaim
    exact callDone_claims rfl hmoves hclaims
  case releaseDispatchClaim claim nextAvailable =>
    obtain ⟨delayMs, hdelay, nowMs, -, t', hrel, rfl, rfl⟩ := h
    obtain ⟨hhonour, hmoves⟩ := release_ok (P := P) hkey (validateDispatchLeaseMs_pos hdelay) hrel
    exact callDone_token rfl hmoves hhonour (.inl rfl) rfl
  case renewDispatchClaim claim lease =>
    obtain ⟨leaseMs, -, nowMs, -, ⟨t', claim'⟩, hrenew, rfl, rfl⟩ := h
    obtain ⟨hhonour, rfl, hmoves⟩ := renew_ok (P := P) hkey hrenew
    exact callDone_token rfl hmoves hhonour (.inr rfl) rfl
  case beginDispatch claim =>
    obtain ⟨nowMs, -, ⟨t', permit⟩, hbegin, rfl, rfl⟩ := h
    obtain ⟨hhonour, hid, hgen, hmoves⟩ := begin_ok (P := P) hkey hbegin
    refine callDone_token rfl hmoves hhonour (.inr ?_) rfl
    simp only [DispatchAnswer.token?, hid, hgen]
  case deferDispatchBeforeBoundary permit nextAvailable =>
    obtain ⟨delayMs, hdelay, nowMs, -, t', hdef, rfl, rfl⟩ := h
    obtain ⟨hhonour, hmoves⟩ := defer_ok hkey (validateDispatchLeaseMs_pos hdelay) hfits hdef
    exact callDone_token rfl hmoves hhonour (.inl rfl) rfl
  case recordDispatchCompletion | settleProviderInputDelivery =>
    obtain ⟨nowMs, -, ⟨t', state⟩, hcomplete, rfl, rfl⟩ := h
    obtain ⟨hhonour, hmoves⟩ := completion_ok (P := P) hkey hcomplete
    exact callDone_token rfl hmoves hhonour (.inl rfl) rfl
  case recordDispatchAmbiguity permit retryAfter =>
    obtain ⟨delayMs, hdelay, nowMs, hclock, ⟨t', disposition⟩, hambiguity, rfl, rfl⟩ := h
    rw [Ambient.nowMs_eq hclock] at hambiguity
    obtain ⟨hhonour, hmoves⟩ := ambiguity_ok hkey (validateDispatchLeaseMs_pos hdelay) hfits
      hambiguity
    exact callDone_token rfl hmoves hhonour (.inl rfl) rfl
  case recoverNextExpiredDispatch retryAfter =>
    obtain ⟨delayMs, hdelay, nowMs, -, ⟨t', recovery⟩, hrec, rfl, rfl⟩ := h
    obtain ⟨hmoves, hrecovers⟩ := recoverNextExpired_ok hkey (validateDispatchLeaseMs_pos hdelay)
      hfits hrec
    refine ⟨hmoves, fun _ _ htok => (by cases htok), fun _ _ htok => (by cases htok),
      fun id hid => ?_⟩
    unfold supersedes? at hid
    split at hid
    · rename_i disposition heq
      cases hid
      cases heq
      exact hrecovers _ _ rfl
    · cases hid
  case claimNextReconciliation lease =>
    obtain ⟨leaseMs, hlease, nowMs, -, ⟨t', claim⟩, hclaim, rfl, rfl⟩ := h
    obtain ⟨hmoves, hclaims⟩ := claimNextReconciliation_ok (P := P) hkey
      (validateDispatchLeaseMs_pos hlease) hclaim
    refine ⟨hmoves, fun _ _ htok => (by cases htok), fun id generation htok => ?_, fun id hid => ?_⟩
    · cases claim with
      | none => cases htok
      | some c =>
        cases htok
        obtain ⟨row, hrow, hgen⟩ := (hclaims c rfl).1
        exact ⟨row, hrow, le_of_eq hgen.symm⟩
    · cases claim with
      | none => cases hid
      | some c =>
        cases hid
        exact recovers_of_claims (hclaims c rfl)
  case renewReconciliationClaim claim lease =>
    obtain ⟨leaseMs, -, nowMs, -, ⟨t', claim'⟩, hrenew, rfl, rfl⟩ := h
    obtain ⟨hhonour, rfl, hmoves⟩ := renewReconciliation_ok (P := P) hkey hrenew
    exact callDone_token rfl hmoves hhonour (.inr rfl) rfl
  case releaseReconciliationClaim claim retryAfter =>
    obtain ⟨delayMs, hdelay, nowMs, -, t', hrel, rfl, rfl⟩ := h
    obtain ⟨hhonour, hmoves⟩ := releaseReconciliation_ok (P := P) hkey
      (validateDispatchLeaseMs_pos hdelay) hrel
    exact callDone_token rfl hmoves hhonour (.inl rfl) rfl
  case recordReconciliation claim finding =>
    obtain ⟨nowMs, -, ⟨t', state⟩, hrecord, rfl, rfl⟩ := h
    obtain ⟨hhonour, hmoves⟩ := recordReconciliation_ok (P := P) hkey hrecord
    exact callDone_token rfl hmoves hhonour (.inl rfl) rfl

end DispatchStore

end DevManager
