import DevManager.Kernel.DispatchTokens

/-!
# At most one dispatch, one outcome

What holds in every reachable state of the two tables and along every run.
-/

namespace DevManager

open OrdMap

/-! ## Attempts and generations -/

/-- What the attempts of a row are bounded by. -/
structure Counted (row : OutboxRow) : Prop where
  nonneg : 0 ≤ row.attempts
  bounded : row.attempts ≤ row.leaseGeneration
  claimed : row.state = .claimed → row.attempts < row.leaseGeneration
  once : row.document.replayPolicy = .noAutomaticRetry →
    row.attempts ≤ 1 ∧ (row.state = .pending ∨ row.state = .claimed → row.attempts = 0)
  reconciled : row.state = .reconcileRequired ∨ row.state = .reconciling →
    row.document.replayPolicy = .reconcileBeforeRetry

section

variable {P : Prop} {s t : DispatchStore} {row row' : OutboxRow}

theorem RowMove.counted (h : RowMove P row row') (hc : Counted row) : Counted row' := by
  obtain ⟨hnonneg, hbound, hclaim, honce, hrec⟩ := hc
  cases h with
  | claim nowMs leaseMs hstate =>
    refine ⟨hnonneg, ?_, fun _ => ?_, fun hpolicy => ?_, fun h => (by simp at h)⟩
    · show row.attempts ≤ row.leaseGeneration + 1
      omega
    · show row.attempts < row.leaseGeneration + 1
      omega
    · obtain ⟨hle, hzero⟩ := honce hpolicy
      refine ⟨hle, fun _ => hzero ?_⟩
      rcases hstate with ⟨hpend, -⟩ | hclaim
      · exact .inl hpend
      · exact .inr hclaim
  | release availableAt hstate =>
    refine ⟨hnonneg, hbound, nofun, fun hpolicy => ?_, fun h => (by simp at h)⟩
    obtain ⟨hle, hzero⟩ := honce hpolicy
    exact ⟨hle, fun _ => hzero (.inr hstate)⟩
  | renew prior leasedUntil hstate =>
    exact ⟨hnonneg, hbound, hclaim, honce, hrec⟩
  | begin startedAt leasedUntil hstate =>
    have hlt := hclaim hstate
    refine ⟨?_, ?_, nofun, fun hpolicy => ?_, fun h => (by simp at h)⟩
    · show 0 ≤ row.attempts + 1
      omega
    · show row.attempts + 1 ≤ row.leaseGeneration
      omega
    · obtain ⟨-, hzero⟩ := honce hpolicy
      have hfst := hzero (.inr hstate)
      refine ⟨?_, fun h => (by simp at h)⟩
      show row.attempts + 1 ≤ 1
      omega
  | defer availableAt hstate htries =>
    refine ⟨?_, ?_, nofun, fun hpolicy => ?_, fun h => (by simp at h)⟩
    · show 0 ≤ row.attempts - 1
      omega
    · show row.attempts - 1 ≤ row.leaseGeneration
      omega
    · obtain ⟨hle, -⟩ := honce hpolicy
      have hzero : row.attempts - 1 = 0 := by omega
      refine ⟨?_, fun _ => hzero⟩
      show row.attempts - 1 ≤ 1
      omega
  | retry startedAt availableAt generation hstate hpolicy hstart hpost hdelay hgen =>
    refine ⟨hnonneg, ?_, fun h => ?_, fun hnoRetry => absurd hnoRetry hpolicy, fun h => ?_⟩
    · show row.attempts ≤ generation
      omega
    · cases hkind : row.document.replayPolicy <;> simp [hkind, ambiguousState] at h
    · cases hkind : row.document.replayPolicy with
      | retrySafe => simp [hkind, ambiguousState] at h
      | reconcileBeforeRetry => rfl
      | noAutomaticRetry => exact absurd hkind hpolicy
  | reconcile nowMs leaseMs hstate =>
    have hpolicy := hrec hstate
    refine ⟨hnonneg, ?_, nofun, fun hnoRetry => ?_, fun _ => hpolicy⟩
    · show row.attempts ≤ row.leaseGeneration + 1
      omega
    · exact absurd (hpolicy.symm.trans hnoRetry) (by decide)
  | unresolved startedAt availableAt generation hstate hstart hpost hdelay hgen =>
    have hpolicy := hrec (.inr hstate)
    refine ⟨hnonneg, ?_, nofun, fun hnoRetry => ?_, fun _ => hpolicy⟩
    · show row.attempts ≤ generation
      omega
    · exact absurd (hpolicy.symm.trans hnoRetry) (by decide)
  | absent startedAt availableAt receipt hstate =>
    have hpolicy := hrec (.inr hstate)
    exact ⟨hnonneg, hbound, nofun, fun hnoRetry =>
      absurd (hpolicy.symm.trans hnoRetry) (by decide), fun h => (by simp at h)⟩

theorem Counted.ended (h : Counted row) {state} {error}
    {status} (hterminal : state.terminal? = some status) :
    Counted (row.ended state error) := by
  refine ⟨h.nonneg, h.bounded, fun hstate => ?_,
    fun hpolicy => ⟨(h.once hpolicy).1, fun hstate => ?_⟩, fun hstate => ?_⟩
  · have hclaim : state = .claimed := hstate
    rw [hclaim] at hterminal
    cases hterminal
  · have hactive : state = .pending ∨ state = .claimed := hstate
    rcases hactive with rfl | rfl <;> cases hterminal
  · have hactive : state = .reconcileRequired ∨ state = .reconciling := hstate
    rcases hactive with rfl | rfl <;> cases hterminal

theorem RowMove.active (h : RowMove P row row') : row'.state.terminal? = none := by
  cases h with
  | renew prior leasedUntil hstate =>
    show row.state.terminal? = none
    rcases hstate with h | h | h <;> rw [h] <;> rfl
  | retry startedAt availableAt generation hstate hpolicy =>
    show (ambiguousState row.document.replayPolicy).1.terminal? = none
    cases hkind : row.document.replayPolicy with
    | retrySafe => rfl
    | reconcileBeforeRetry => rfl
    | noAutomaticRetry => exact absurd hkind hpolicy
  | claim | release | begin | defer | reconcile | unresolved | absent => rfl

variable {operation : OperationRow}

theorem Ending.terminal {facts fact state error}
    (h : Ending P operation row facts fact state error) : state.terminal? = some fact.status := by
  cases h with
  | completed _ _ _ _ _ _ _ hterminal | present _ _ _ _ _ _ _ _ _ hterminal => exact hterminal
  | uncertain | retired => rfl

theorem status_ne_accepted (fact : HistoricalOutcome) : fact.status ≠ .accepted := by
  cases fact <;> simp [HistoricalOutcome.status]

/-! ## Rows and their operations -/

/-- The row stands in the state of its operation. -/
def Stands (row : OutboxRow) (operation : OperationRow) : Prop :=
  (row.state.terminal? = none ↔ operation.state = .accepted) ∧
    (operation.state ≠ .accepted → row.state.terminal? = some operation.state)

/-- Every row is counted, and has its operation. -/
structure RowsTracked (s : DispatchStore) : Prop where
  keyed : s.Keyed
  rows : ∀ (id : OutboxId) row, s.outbox[id]? = some row → Counted row ∧
    ∃ operation, s.operations[row.operationId]? = some operation ∧ Stands row operation

theorem stands_of_active (hactive : row.state.terminal? = none)
    (hacc : operation.state = .accepted) : Stands row operation :=
  ⟨⟨fun _ => hacc, fun _ => hactive⟩, fun hended => absurd hacc hended⟩

theorem stands_of_ended
    (hended : row.state.terminal? = some operation.state) (hstate : operation.state ≠ .accepted) :
    Stands row operation := by
  refine ⟨⟨fun hactive => ?_, fun hacc => absurd hacc hstate⟩, fun _ => hended⟩
  rw [hended] at hactive
  cases hactive

theorem ne_of_not_loaded {id : OutboxId} (hrow : s.outbox[id]? = some row) {operationId}
    (hnot : row ∉ s.loadOutboxRows operationId) : operationId ≠ row.operationId := fun heq =>
  hnot (DispatchStore.mem_loadOutboxRows.mpr ⟨⟨id, hrow⟩, heq.symm⟩)

theorem Move.tracked (h : Move P s t) (hs : RowsTracked s) : RowsTracked t := by
  refine ⟨h.keyed hs.keyed, fun id row hrow => ?_⟩
  cases h with
  | accept acceptance acceptedAtMs htime hop houtbox hrows =>
    rcases of_insert hrow with ⟨hid, rfl⟩ | ⟨hid, hrow⟩
    · refine ⟨⟨le_refl _, le_refl _, nofun, fun _ => ⟨Int.zero_le_ofNat 1, fun _ => rfl⟩,
        fun h => (by simp [SideEffectAcceptance.outboxRow] at h)⟩,
        acceptance.operationRow acceptedAtMs, ?_, stands_of_active rfl rfl⟩
      simp [SideEffectAcceptance.outboxRow]
    · obtain ⟨hcount, operation, hstored, hstand⟩ := hs.rows id row hrow
      have hne := ne_of_not_loaded hrow (hrows ▸ List.not_mem_nil)
      refine ⟨hcount, operation, ?_, hstand⟩
      rw [getElem?_insert_eq, if_neg hne, hstored]
  | row old new operation hold hop hacc hmove =>
    rcases of_insert hrow with ⟨hid, rfl⟩ | ⟨hid, hrow⟩
    · refine ⟨hmove.counted (hs.rows _ old hold).1, operation, ?_,
        stands_of_active hmove.active hacc⟩
      rw [hmove.same.2.1, hop]
    · exact hs.rows id row hrow
  | outcome old operation facts fact state error hold hop hacc honly hfacts hend =>
    rcases of_insert hrow with ⟨hid, rfl⟩ | ⟨hid, hrow⟩
    · refine ⟨(hs.rows _ old hold).1.ended hend.terminal, operation.withOutcome fact, ?_,
        stands_of_ended hend.terminal (status_ne_accepted fact)⟩
      simp [OutboxRow.ended]
    · obtain ⟨hcount, stored, hstored, hstand⟩ := hs.rows id row hrow
      have hne : old.operationId ≠ row.operationId := by
        refine ne_of_not_loaded hrow ?_
        rw [honly, List.mem_singleton]
        exact fun heq => hid (heq ▸ hs.keyed id row hrow)
      refine ⟨hcount, stored, ?_, hstand⟩
      rw [getElem?_insert_eq, if_neg hne, hstored]

theorem Moves.tracked (h : Moves P s t) (hs : RowsTracked s) : RowsTracked t := by
  induction h with
  | refl => exact hs
  | tail _ hmove ih => exact hmove.tracked ih

theorem Moves.operation_ended (h : Moves P s t) {operationId : OperationId}
    (hstored : s.operations[operationId]? = some operation) (hended : operation.state ≠ .accepted) :
    t.operations[operationId]? = some operation := by
  induction h with
  | refl => exact hstored
  | tail _ hmove ih =>
    cases hmove with
    | accept acceptance acceptedAtMs htime hop =>
      have hne : acceptance.operationId ≠ operationId := fun heq =>
        hop (heq ▸ mem_iff_exists.mpr ⟨operation, ih⟩)
      rw [getElem?_insert_eq, if_neg hne, ih]
    | row => exact ih
    | outcome old stored facts fact state error hold hop hacc =>
      have hne : old.operationId ≠ operationId := by
        intro heq
        rw [heq, ih, Option.some.injEq] at hop
        exact hended (hop ▸ hacc)
      rw [getElem?_insert_eq, if_neg hne, ih]

end

/-! ## Runs -/

namespace DispatchStore

variable {s t : DispatchStore}

/-- A call as the transaction that it is: an error rolls it back. -/
def transact (s : DispatchStore) (ambient : Ambient) (call : DispatchCall) :
    Except DispatchError DispatchAnswer × DispatchStore :=
  match s.call ambient call with
  | .ok (t, answer) => (.ok answer, t)
  | .error error => (.error error, s)

theorem empty_tracked : RowsTracked .empty where
  keyed := fun id row hrow => by simp [DispatchStore.empty] at hrow
  rows := fun id row hrow => by simp [DispatchStore.empty] at hrow

theorem fits_of_false {ambient call} : s.Fits False ambient call := by
  cases call with
  | deferDispatchBeforeBoundary | recordDispatchAmbiguity | recoverNextExpiredDispatch =>
    exact fun p => p.elim
  | _ => trivial

theorem reachable_tracked (hs : dispatchMachine.Reachable s) : RowsTracked s := by
  refine hs.invariant (fun s hin => ?_) fun s t _ htracked hstep => ?_
  · rw [show s = .empty from hin]
    exact empty_tracked
  · obtain ⟨ambient, call, answer, hcall⟩ := hstep
    exact (call_done htracked.keyed fits_of_false hcall).moves.tracked htracked

theorem run_moves (hs : dispatchMachine.Reachable s) (hrun : dispatchMachine.Run s t) :
    Moves False s t := by
  refine Machine.run_invariant hs hrun .refl fun a b ha hmoves hstep => ?_
  obtain ⟨ambient, call, answer, hcall⟩ := hstep
  have hkey := (reachable_tracked ha).keyed
  exact hmoves.trans (call_done hkey fits_of_false hcall).moves

theorem superseded_refused {a b u v} {ambient₁ ambient₂ ambient₃} {call₁ call₂ call₃}
    {answer₁ answer₂} {id} {generation : ℤ} (hs : dispatchMachine.Reachable s)
    (h₁ : s.call ambient₁ call₁ = .ok (a, answer₁))
    (hhanded : answer₁.token? = some (id, generation))
    (hab : dispatchMachine.Run a b) (h₂ : b.call ambient₂ call₂ = .ok (u, answer₂))
    (hsupersedes : supersedes? call₂ answer₂ = some id) (huv : dispatchMachine.Run u v)
    (hholds : call₃.token? = some (id, generation)) :
    ∃ error, v.transact ambient₃ call₃ = (.error error, v) := by
  have ha : dispatchMachine.Reachable a := hs.next ⟨_, _, _, h₁⟩
  have hb : dispatchMachine.Reachable b := ha.run hab
  have hu : dispatchMachine.Reachable u := hb.next ⟨_, _, _, h₂⟩
  have hv : dispatchMachine.Reachable v := hu.run huv
  have hfst := call_done (reachable_tracked hs).keyed fits_of_false h₁
  have hsnd := call_done (reachable_tracked hb).keyed fits_of_false h₂
  obtain ⟨rowA, hrowA, hleA⟩ := hfst.handed id generation hhanded
  obtain ⟨rowB, hrowB, hleB⟩ := (run_moves ha hab).generation hrowA
  obtain ⟨rowU, hrowU, hlater⟩ := hsnd.supersedes id hsupersedes
  obtain ⟨rowV, hrowV, hleV⟩ := (run_moves hu huv).generation hrowU
  cases hcall : v.call ambient₃ call₃ with
  | error error => exact ⟨error, by simp only [transact, hcall]⟩
  | ok result =>
    obtain ⟨w, answer⟩ := result
    have hthird := call_done (reachable_tracked hv).keyed fits_of_false hcall
    obtain ⟨row, hrow, hgen, hcertain⟩ := hthird.honours id generation hholds
    rw [hrowV, Option.some.injEq] at hrow
    subst hrow
    rcases hlater with hlater | hunsure
    · have hlt := hlater rowB hrowB
      omega
    · have hkept := (run_moves hu huv).uncertain hrowU hunsure
      rw [hrowV, Option.some.injEq] at hkept
      exact absurd (hkept ▸ hunsure) hcertain

/-- At most one dispatch and one outcome. -/
theorem dispatch_at_most_once (hs : dispatchMachine.Reachable s) (hrun : dispatchMachine.Run s t) :
    (∀ (id : OutboxId) row, s.outbox[id]? = some row →
      ∃ operation, s.operations[row.operationId]? = some operation ∧
        (row.state.terminal? = none ↔ operation.state = .accepted) ∧
        (operation.state ≠ .accepted → row.state.terminal? = some operation.state)) ∧
    (∀ (operationId : OperationId) operation,
      s.operations[operationId]? = some operation → operation.state ≠ .accepted →
      operation.state ≠ .uncertain →
      ∃ operation', t.operations[operationId]? = some operation' ∧
        operation'.state = operation.state) ∧
    (∀ (id : OutboxId) row, s.outbox[id]? = some row →
      0 ≤ row.attempts ∧ row.attempts ≤ row.leaseGeneration ∧
      (row.document.replayPolicy = .noAutomaticRetry → row.attempts ≤ 1) ∧
      ∃ row', t.outbox[id]? = some row' ∧ row.leaseGeneration ≤ row'.leaseGeneration) ∧
    (∀ a b u v ambient₁ ambient₂ ambient₃
      call₁ call₂ call₃ answer₁ answer₂ id
      generation, s.call ambient₁ call₁ = .ok (a, answer₁) →
      answer₁.token? = some (id, generation) → dispatchMachine.Run a b →
      b.call ambient₂ call₂ = .ok (u, answer₂) → supersedes? call₂ answer₂ = some id →
      dispatchMachine.Run u v → call₃.token? = some (id, generation) →
      ∃ error, v.transact ambient₃ call₃ = (.error error, v)) := by
  have htracked := reachable_tracked hs
  have hmoves := run_moves hs hrun
  refine ⟨fun id row hrow => ?_, fun operationId operation hstored hended _ => ?_,
    fun id row hrow => ?_, ?_⟩
  · exact (htracked.rows id row hrow).2
  · exact ⟨operation, hmoves.operation_ended hstored hended, rfl⟩
  · have hcount := (htracked.rows id row hrow).1
    exact ⟨hcount.nonneg, hcount.bounded, fun hpolicy => (hcount.once hpolicy).1,
      hmoves.generation hrow⟩
  · intro a b u v ambient₁ ambient₂ ambient₃ call₁ call₂ call₃ answer₁ answer₂ id generation h₁
      hhanded hab h₂ hsupersedes huv hholds
    exact superseded_refused hs h₁ hhanded hab h₂ hsupersedes huv hholds

/-! A run in which a claim expires and is superseded. -/

def after (s : DispatchStore) (calls : List (Ambient × DispatchCall)) : DispatchStore :=
  calls.foldl (fun s c => (s.transact c.1 c.2).2) s

theorem run_after (s) (calls) :
    dispatchMachine.Run s (s.after calls) := by
  induction calls generalizing s with
  | nil => exact .refl
  | cons c calls ih =>
    refine Relation.ReflTransGen.trans ?_ (ih (s.transact c.1 c.2).2)
    unfold transact
    split
    · rename_i t answer hcall
      exact .single ⟨_, _, _, hcall⟩
    · exact .refl

def sampleAmbient (clock : ℕ) : Ambient where
  clock := clock
  newEventId := ⟨1⟩
  lineage _ := .ok ()
  ownership _ := .ok none
  settleResult _ := .ok ()

def sampleClaims : List (Ambient × DispatchCall) :=
  [(sampleAmbient 10, .execute ⟨⟨1⟩, ⟨2⟩, ⟨3⟩, ⟨4⟩, .beginTaskTeardown ⟨4⟩ 1, 7⟩),
    (sampleAmbient 20, .claimNextDispatch 1000000),
    (sampleAmbient 30, .claimNextDispatch 1000000)]

theorem sampleClaims_once :
    dispatchMachine.Run .empty (DispatchStore.empty.after sampleClaims) ∧
      ((DispatchStore.empty.after sampleClaims).outbox[(⟨3⟩ : OutboxId)]?.map
        fun row => (row.state, row.leaseGeneration)) = some (.claimed, 2) ∧
      ∃ row, (DispatchStore.empty.after sampleClaims).outbox[(⟨3⟩ : OutboxId)]? = some row ∧
        row.attempts ≤ row.leaseGeneration := by
  have hrun := run_after .empty sampleClaims
  have hsome : (DispatchStore.empty.after sampleClaims).outbox[(⟨3⟩ : OutboxId)]?.isSome
    = true := by
    decide +kernel
  obtain ⟨row, hrow⟩ := Option.isSome_iff_exists.mp hsome
  refine ⟨hrun, by decide +kernel, row, hrow, ?_⟩
  have hreach : dispatchMachine.Reachable (DispatchStore.empty.after sampleClaims) :=
    ⟨.empty, rfl, hrun⟩
  exact ((dispatch_at_most_once hreach .refl).2.2.1 ⟨3⟩ row hrow).2.1

end DispatchStore

end DevManager
