import DevManager.Remote.Lease

/-!
# A lease that ended does not come back

Most calls first end a lease that ran out; `Writes` says what they do then: nothing,
refresh the lease, or grant a new one where no mutation is in flight. `LeaseStep` says
what any call does to the lease and the generation: keep both, end the lease and raise
the generation, or grant a new lease under a raised one.

* `held_or_lt`: after any calls a lease is still held, or its generation is past.
* `inFlight_after`: the lease of a mutation in flight is pinned.
-/

namespace DevManager

open Calls WriterLease

/-- What does not change while a lease is held: its owner and its generation. -/
def WriterLease.token (lease : WriterLease) : ℕ × String × String × ℕ :=
  (lease.ownerConnectionId, lease.ownerClientId, lease.ownerClientInstanceId, lease.generation)

theorem WriterLease.generation_of_token {lease lease' : WriterLease}
    (h : lease'.token = lease.token) : lease'.generation = lease.generation :=
  congrArg (fun token => token.2.2.2) h

theorem WriterLease.ownedBy_of_token {lease lease' : WriterLease} (h : lease'.token = lease.token)
    (connectionId : ℕ) (clientId : String) :
    lease'.ownedBy connectionId clientId = lease.ownedBy connectionId clientId := by
  have hconn : lease'.ownerConnectionId = lease.ownerConnectionId := congrArg Prod.fst h
  have hclient : lease'.ownerClientId = lease.ownerClientId := congrArg (fun token => token.2.1) h
  rw [ownedBy, ownedBy, hconn, hclient]

/-- The lease `lease'` is `lease` with other times or another visibility, or with a mutation that
started. -/
structure WriterLease.Refreshed (lease lease' : WriterLease) : Prop where
  token : lease'.token = lease.token
  flag : lease'.releaseAfterMutation = lease.releaseAfterMutation
  active : ∀ mutationId, lease.activeMutationId = some mutationId →
    lease'.activeMutationId = some mutationId

namespace WriterLeaseManager

variable {m m' : WriterLeaseManager}

/-! ## What one call can do -/

/-- What a call can do to the lease and the generation. -/
inductive LeaseStep (m m' : WriterLeaseManager) : Prop
  | kept (hgen : m'.generation = m.generation)
      (hcur : m'.current.map WriterLease.token = m.current.map WriterLease.token) :
      LeaseStep m m'
  | ended (hcur : m'.current = none)
      (hgen : m'.generation = saturatingAdd m.generation 1) : LeaseStep m m'
  | granted {lease : WriterLease} (hcur : m'.current = some lease)
      (hlease : lease.generation = m'.generation)
      (hgen : saturatingAdd m.generation 1 ≤ m'.generation) : LeaseStep m m'

theorem LeaseStep.refl (m : WriterLeaseManager) : LeaseStep m m := .kept rfl rfl

theorem LeaseStep.rewrite {lease lease' : WriterLease} (hcur : m.current = some lease)
    (htok : lease'.token = lease.token) : LeaseStep m { m with current := some lease' } := by
  refine .kept rfl ?_
  rw [hcur]
  exact congrArg some htok

theorem le_saturatingAdd {a : ℕ} (h : a ≤ u64Max) : a ≤ saturatingAdd a 1 := by
  unfold saturatingAdd
  omega

theorem step_invalidate (m : WriterLeaseManager) : LeaseStep m m.invalidate.2 := by
  unfold invalidate
  cases hcur : m.current with
  | none => exact .refl m
  | some lease =>
    simp only
    split_ifs
    · exact .rewrite hcur rfl
    · exact .ended rfl rfl

theorem expireIfNeeded_eq (m : WriterLeaseManager) (now : ℕ) :
    m.expireIfNeeded now = m ∨
      (m.expireIfNeeded now).current = none ∧
        (m.expireIfNeeded now).generation = saturatingAdd m.generation 1 := by
  unfold expireIfNeeded isExpired invalidate
  cases hcur : m.current with
  | none => exact .inl (by simp)
  | some lease =>
    simp only
    cases hbusy : lease.busy with
    | true => exact .inl (by simp)
    | false =>
      simp only [Bool.not_false, Bool.true_and, decide_eq_true_eq, Bool.false_eq_true, if_false]
      split_ifs
      · exact .inr ⟨rfl, rfl⟩
      · exact .inl rfl

/-- What a call does once a lease that ran out has been ended. -/
inductive Writes (m m' : WriterLeaseManager) : Prop
  | nothing (h : m' = m) : Writes m m'
  | rewrite {lease lease' : WriterLease} (hcur : m.current = some lease)
      (h : m' = { m with current := some lease' }) (hlease : lease.Refreshed lease') : Writes m m'
  | grant {connectionId : ℕ} {clientId clientInstanceId : String} {now : ℕ}
      (hfree : m.isBusy = false)
      (h : m' = (m.grant connectionId clientId clientInstanceId now).2) : Writes m m'

theorem Writes.step (h : Writes m m') : LeaseStep m m' := by
  cases h with
  | nothing h => rw [h]; exact .refl m
  | rewrite hcur h hlease => rw [h]; exact .rewrite hcur hlease.token
  | grant _ h => rw [h]; exact .granted rfl rfl le_rfl

theorem Writes.step_of_expired (now : ℕ) (h : Writes (m.expireIfNeeded now) m') :
    LeaseStep m m' := by
  rcases expireIfNeeded_eq m now with hsame | ⟨hnone, hraised⟩
  · rw [hsame] at h
    exact h.step
  · cases h with
    | nothing h =>
      rw [h]
      exact .ended hnone hraised
    | rewrite hcur h hlease =>
      rw [hnone] at hcur
      cases hcur
    | grant _ h =>
      rw [h]
      refine .granted rfl rfl ?_
      show saturatingAdd m.generation 1 ≤ saturatingAdd (m.expireIfNeeded now).generation 1
      rw [hraised]
      exact le_saturatingAdd (min_le_right _ _)

variable (connectionId : ℕ) (clientId clientInstanceId : String)

theorem writes_acquire (now : ℕ) :
    Writes (m.expireIfNeeded now) (m.acquire connectionId clientId clientInstanceId now).2 := by
  unfold acquire
  cases hcur : (m.expireIfNeeded now).current with
  | none =>
    simp only [hcur]
    exact .grant (by rw [isBusy, hcur]; rfl) rfl
  | some lease =>
    simp only [hcur]
    split_ifs with howner hbusy
    · exact .rewrite hcur rfl ⟨rfl, rfl, fun _ h => h⟩
    · exact .nothing rfl
    · exact .nothing rfl
    · refine .grant ?_ rfl
      rw [isBusy, hcur]
      exact Bool.eq_false_iff.mpr hbusy

theorem fence_snd (expectedGeneration now : ℕ) :
    (m.fence expectedGeneration now).2 = m.expireIfNeeded now := by
  unfold fence
  simp only
  split_ifs
  · rfl
  · rfl
  · split <;> rfl

theorem fence_ok {expectedGeneration now : ℕ} {lease : WriterLease}
    (h : (m.fence expectedGeneration now).1 = .ok lease) :
    (m.expireIfNeeded now).current = some lease ∧
      expectedGeneration = (m.expireIfNeeded now).generation := by
  unfold fence at h
  simp only at h
  split_ifs at h with hexp hstale
  cases hcur : (m.expireIfNeeded now).current with
  | none =>
    simp only [hcur] at h
    cases h
  | some current =>
    simp only [hcur, Except.ok.injEq] at h
    exact ⟨congrArg some h, not_not.mp hstale⟩

theorem fenced_snd (expectedGeneration now : ℕ) (isOwner : WriterLease → Bool)
    (update : WriterLease → WriterLease) :
    (m.fenced expectedGeneration now isOwner update).2 = m.expireIfNeeded now ∨
      ∃ lease, (m.expireIfNeeded now).current = some lease ∧
        (m.fenced expectedGeneration now isOwner update).2 =
          { m.expireIfNeeded now with current := some (update lease) } := by
  have hsnd := fence_snd (m := m) expectedGeneration now
  have hok := fun lease (h : (m.fence expectedGeneration now).1 = .ok lease) => fence_ok h
  unfold fenced
  rcases hfence : m.fence expectedGeneration now with ⟨error | current, m₁⟩
  · rw [hfence] at hsnd
    exact .inl hsnd
  · rw [hfence] at hsnd hok
    obtain ⟨hcur, -⟩ := hok current rfl
    simp only at hsnd ⊢
    subst hsnd
    split_ifs
    · exact .inr ⟨current, hcur, rfl⟩
    · exact .inl rfl

theorem writes_fenced {expectedGeneration now : ℕ} {isOwner : WriterLease → Bool}
    {update : WriterLease → WriterLease}
    (hupd : ∀ lease : WriterLease, lease.Refreshed (update lease)) :
    Writes (m.expireIfNeeded now) (m.fenced expectedGeneration now isOwner update).2 := by
  rcases fenced_snd (m := m) expectedGeneration now isOwner update with h | ⟨lease, hcur, h⟩
  · exact .nothing h
  · exact .rewrite hcur h (hupd lease)

theorem writes_setVisibility (visible : Bool) (now : ℕ) :
    Writes (m.expireIfNeeded now)
      (m.setVisibility connectionId clientId clientInstanceId visible now).2 := by
  unfold setVisibility
  cases hcur : (m.expireIfNeeded now).current with
  | none =>
    simp only [hcur]
    exact .nothing rfl
  | some lease =>
    simp only [hcur]
    split_ifs
    · exact .rewrite hcur rfl ⟨rfl, rfl, fun _ h => h⟩
    · exact .nothing rfl

theorem writes_authorize (clientId : String) (expectedGeneration now : ℕ) :
    Writes (m.expireIfNeeded now) (m.authorize connectionId clientId expectedGeneration now).2 :=
  writes_fenced fun _ => ⟨rfl, rfl, fun _ h => h⟩

theorem writes_renew (expectedGeneration : ℕ) (visible : Bool) (now : ℕ) :
    Writes (m.expireIfNeeded now)
      (m.renew connectionId clientId clientInstanceId expectedGeneration visible now).2 :=
  writes_fenced fun _ => ⟨rfl, rfl, fun _ h => h⟩

theorem writes_beginMutation (clientId : String) (expectedGeneration : ℕ)
    (mutationId : String) (now : ℕ) :
    (m.beginMutation connectionId clientId expectedGeneration mutationId now).2 = m ∨
      Writes (m.expireIfNeeded now)
        (m.beginMutation connectionId clientId expectedGeneration mutationId now).2 := by
  unfold beginMutation
  split_ifs
  · exact .inl rfl
  · right
    cases hcur : (m.expireIfNeeded now).current with
    | none =>
      simp only [hcur]
      exact .nothing rfl
    | some lease =>
      simp only [hcur]
      split_ifs
      · cases hactive : lease.activeMutationId with
        | some active =>
          simp only
          split_ifs
          · exact .nothing rfl
          · exact .nothing rfl
        | none =>
          refine .rewrite hcur rfl ⟨rfl, rfl, fun _ h => ?_⟩
          rw [hactive] at h
          cases h
      · exact .nothing rfl

theorem step_finishMutation (clientId : String) (expectedGeneration : ℕ)
    (mutationId : String) (now : ℕ) :
    LeaseStep m (m.finishMutation connectionId clientId expectedGeneration mutationId now).2 := by
  unfold finishMutation
  cases hcur : m.current with
  | none => exact .refl m
  | some lease =>
    simp only
    split_ifs
    · exact .ended rfl rfl
    · exact .rewrite hcur rfl
    · exact .refl m

theorem step_disconnect (clientId : String) :
    LeaseStep m (m.disconnect connectionId clientId).2 := by
  unfold disconnect
  cases hcur : m.current with
  | none => exact .refl m
  | some lease =>
    simp only
    split_ifs
    · exact .rewrite hcur rfl
    · exact step_invalidate m
    · exact .refl m

theorem step_call (m) (c) : LeaseStep m (m.call c).2 := by
  cases c with
  | acquire => exact (writes_acquire ..).step_of_expired _
  | authorize => exact (writes_authorize ..).step_of_expired _
  | renew => exact (writes_renew ..).step_of_expired _
  | setVisibility => exact (writes_setVisibility ..).step_of_expired _
  | beginMutation connectionId clientId expectedGeneration mutationId now =>
    show LeaseStep m (m.beginMutation connectionId clientId expectedGeneration mutationId now).2
    rcases writes_beginMutation (m := m) connectionId clientId expectedGeneration mutationId
      now with
      hsame | hwrites
    · rw [hsame]
      exact .refl m
    · exact hwrites.step_of_expired now
  | finishMutation => exact step_finishMutation ..
  | disconnect => exact step_disconnect ..
  | invalidate => exact step_invalidate m
  | current => exact Writes.step_of_expired _ (.nothing rfl)

/-! ## Generations -/

/-- The current lease has the manager's generation. -/
def Current (m : WriterLeaseManager) : Prop :=
  ∀ lease, m.current = some lease → lease.generation = m.generation

theorem current_of_step (hm : m.Current) (h : LeaseStep m m') : m'.Current := by
  intro lease hcur
  cases h with
  | kept hgen htok =>
    rw [hcur] at htok
    obtain ⟨before, hpre, heq⟩ := Option.map_eq_some_iff.mp htok.symm
    rw [generation_of_token heq.symm, hgen]
    exact hm before hpre
  | ended hnone _ =>
    rw [hnone] at hcur
    cases hcur
  | granted hgranted hlease _ =>
    rw [hgranted] at hcur
    cases hcur
    exact hlease

theorem current_after (hm : m.Current) (calls) :
    (after call m calls).Current :=
  after_invariant hm (fun m c hm => current_of_step hm (step_call m c)) calls

theorem LeaseStep.generation_le (h : LeaseStep m m') (hmax : m'.generation < u64Max) :
    m.generation ≤ m'.generation := by
  cases h with
  | kept hgen _ => omega
  | ended _ hgen | granted _ _ hgen =>
    unfold saturatingAdd at hgen
    omega

theorem generation_le_after (calls) :
    ∀ m, (after call m calls).generation < u64Max →
      m.generation ≤ (after call m calls).generation := by
  induction calls with
  | nil =>
    intro m _
    exact le_rfl
  | cons c calls ih =>
    intro m hmax
    have hrest := ih (m.call c).2 hmax
    have hone := (step_call m c).generation_le (lt_of_le_of_lt hrest hmax)
    exact le_trans hone hrest

theorem held_or_lt_call {lease} (hm : m.Current) (hcur : m.current = some lease)
    (h : LeaseStep m m') (hmax : m'.generation < u64Max) :
    (∃ lease', m'.current = some lease' ∧ lease'.token = lease.token) ∨
      lease.generation < m'.generation := by
  have hgen := hm lease hcur
  cases h with
  | kept _ htok =>
    rw [hcur] at htok
    exact .inl (Option.map_eq_some_iff.mp htok)
  | ended _ hraised | granted _ _ hraised =>
    unfold saturatingAdd at hraised
    exact .inr (by omega)

theorem held_or_lt (calls) :
    ∀ {m : WriterLeaseManager} {lease : WriterLease}, m.Current → m.current = some lease →
      (after call m calls).generation < u64Max →
      (∃ lease', (after call m calls).current = some lease' ∧ lease'.token = lease.token) ∨
      lease.generation < (after call m calls).generation := by
  induction calls with
  | nil =>
    intro m lease _ hcur _
    exact .inl ⟨lease, hcur, rfl⟩
  | cons c calls ih =>
    intro m lease hm hcur hmax
    have hrest := generation_le_after calls (m.call c).2 hmax
    have hstep := step_call m c
    rcases held_or_lt_call hm hcur hstep (lt_of_le_of_lt hrest hmax) with
      ⟨next, hnext, htok⟩ | hlt
    · have hgen := generation_of_token htok
      rcases ih (current_of_step hm hstep) hnext hmax with ⟨last, hlast, htoken'⟩ | hlt
      · exact .inl ⟨last, hlast, htoken'.trans htok⟩
      · exact .inr (hgen ▸ hlt)
    · exact .inr (lt_of_lt_of_le hlt hrest)

end WriterLeaseManager

/-- The call names `generation` to act under its lease. -/
def LeaseCall.names (generation : ℕ) : LeaseCall → Bool
  | .authorize _ _ expectedGeneration _ => expectedGeneration = generation
  | .renew _ _ _ expectedGeneration _ _ => expectedGeneration = generation
  | .beginMutation _ _ expectedGeneration _ _ => expectedGeneration = generation
  | _ => false

/-- The call was refused. -/
def LeaseReturn.refused : LeaseReturn → Bool
  | .lease (.error _) => true
  | .began (.error _) => true
  | _ => false

namespace WriterLeaseManager

variable {m m' : WriterLeaseManager} {generation : ℕ}

theorem generation_le_expireIfNeeded (now : ℕ) (h : generation < m.generation)
    (hmax : m.generation < u64Max) : generation < (m.expireIfNeeded now).generation := by
  rcases expireIfNeeded_eq m now with hsame | ⟨-, hraised⟩
  · rw [hsame]
    exact h
  · rw [hraised]
    unfold saturatingAdd
    omega

theorem fenced_refused (now : ℕ) {isOwner : WriterLease → Bool} {update : WriterLease → WriterLease}
    (h : generation < m.generation) (hmax : m.generation < u64Max) :
    ∃ error, (m.fenced generation now isOwner update).1 = .error error := by
  have hpast := generation_le_expireIfNeeded now h hmax
  have hok := fun lease (h : (m.fence generation now).1 = .ok lease) => fence_ok h
  unfold fenced
  rcases hfence : m.fence generation now with ⟨error | current, m₁⟩
  · exact ⟨error, rfl⟩
  · rw [hfence] at hok
    obtain ⟨-, hsame⟩ := hok current rfl
    omega

theorem refused_of_lt {c} (h : generation < m.generation)
    (hmax : m.generation < u64Max) (hnames : c.names generation = true) :
    (m.call c).1.refused = true := by
  cases c with
  | authorize connectionId clientId expectedGeneration now =>
    obtain rfl : expectedGeneration = generation := of_decide_eq_true hnames
    obtain ⟨error, herror⟩ := fenced_refused now h hmax
    show (LeaseReturn.lease (m.authorize connectionId clientId expectedGeneration now).1).refused
      = _
    rw [authorize, herror]
    rfl
  | renew connectionId clientId clientInstanceId expectedGeneration visible now =>
    obtain rfl : expectedGeneration = generation := of_decide_eq_true hnames
    obtain ⟨error, herror⟩ := fenced_refused now h hmax
    show (LeaseReturn.lease (m.renew connectionId clientId clientInstanceId expectedGeneration
      visible now).1).refused = _
    rw [renew, herror]
    rfl
  | beginMutation connectionId clientId expectedGeneration mutationId now =>
    obtain rfl : expectedGeneration = generation := of_decide_eq_true hnames
    have hstale : expectedGeneration ≠ m.generation := by omega
    show (LeaseReturn.began (m.beginMutation connectionId clientId expectedGeneration mutationId
      now).1).refused = _
    rw [beginMutation, if_pos hstale]
    rfl
  | acquire | setVisibility | finishMutation | disconnect | invalidate | current => cases hnames

end WriterLeaseManager

/-! ## A mutation in flight -/

/-- The call finishes exactly this mutation: its owner, its generation and its id. -/
def LeaseCall.finishes (lease : WriterLease) (mutationId : String) : LeaseCall → Bool
  | .finishMutation connectionId clientId expectedGeneration finished _ =>
    lease.ownedBy connectionId clientId && lease.generation = expectedGeneration &&
      mutationId = finished
  | _ => false

/-- The call ends the lease unless a mutation is in flight: the owner disconnects, or the lease is
invalidated. -/
def LeaseCall.asksRelease (lease : WriterLease) : LeaseCall → Bool
  | .disconnect connectionId clientId => lease.ownedBy connectionId clientId
  | .invalidate => true
  | _ => false

namespace WriterLeaseManager

variable {m m' : WriterLeaseManager}

/-- The mutation is in flight under the lease, whose release was asked for or not. -/
def InFlight (m : WriterLeaseManager) (lease : WriterLease) (mutationId : String)
    (released : Bool) : Prop :=
  ∃ current, m.current = some current ∧ current.token = lease.token ∧
    current.activeMutationId = some mutationId ∧ current.releaseAfterMutation = released

theorem isExactMutation_of_token {lease current mutationId}
    (htok : current.token = lease.token) (hactive : current.activeMutationId = some mutationId)
    (connectionId : ℕ) (clientId : String) (expectedGeneration : ℕ) (finished : String) (now : ℕ) :
    isExactMutation current connectionId clientId expectedGeneration finished =
      (LeaseCall.finishMutation connectionId clientId expectedGeneration finished
        now).finishes lease
        mutationId := by
  rw [isExactMutation, ownedBy_of_token htok, generation_of_token htok, hactive]
  simp [LeaseCall.finishes]

theorem expireIfNeeded_of_busy {current} (hcur : m.current = some current)
    (hbusy : current.busy = true) (now : ℕ) : m.expireIfNeeded now = m := by
  have hexp : m.isExpired now = false := by simp [isExpired, hcur, hbusy]
  rw [expireIfNeeded, hexp]
  rfl

variable {lease : WriterLease} {mutationId : String} {released : Bool}

theorem Writes.inFlight (h : Writes m m') (hin : m.InFlight lease mutationId released) :
    m'.InFlight lease mutationId released := by
  obtain ⟨current, hcur, htok, hactive, hflag⟩ := hin
  cases h with
  | nothing h =>
    rw [h]
    exact ⟨current, hcur, htok, hactive, hflag⟩
  | rewrite hcurrent' h hlease =>
    rw [hcur] at hcurrent'
    cases hcurrent'
    rw [h]
    exact ⟨_, rfl, hlease.token.trans htok, hlease.active _ hactive, hlease.flag.trans hflag⟩
  | grant hfree h =>
    rw [isBusy, hcur, Option.any_some, busy, hactive] at hfree
    cases hfree

theorem inFlight_call {c : LeaseCall} (h : m.InFlight lease mutationId released)
    (hfin : c.finishes lease mutationId = false) :
    (m.call c).2.InFlight lease mutationId (released || c.asksRelease lease) := by
  obtain ⟨current, hcur, htok, hactive, hflag⟩ := h
  have hin : m.InFlight lease mutationId released := ⟨current, hcur, htok, hactive, hflag⟩
  have hbusy : current.busy = true := by rw [busy, hactive]; rfl
  have hexp : ∀ now, (m.expireIfNeeded now).InFlight lease mutationId released := by
    intro now
    rw [expireIfNeeded_of_busy hcur hbusy]
    exact hin
  cases c with
  | acquire connectionId clientId clientInstanceId now =>
    show InFlight _ lease mutationId (released || false)
    rw [Bool.or_false]
    exact (writes_acquire connectionId clientId clientInstanceId now).inFlight (hexp now)
  | authorize connectionId clientId expectedGeneration now =>
    show InFlight _ lease mutationId (released || false)
    rw [Bool.or_false]
    exact (writes_authorize connectionId clientId expectedGeneration now).inFlight (hexp now)
  | renew connectionId clientId clientInstanceId expectedGeneration visible now =>
    show InFlight _ lease mutationId (released || false)
    rw [Bool.or_false]
    exact (writes_renew connectionId clientId clientInstanceId expectedGeneration visible
      now).inFlight (hexp now)
  | setVisibility connectionId clientId clientInstanceId visible now =>
    show InFlight _ lease mutationId (released || false)
    rw [Bool.or_false]
    exact (writes_setVisibility connectionId clientId clientInstanceId visible now).inFlight
      (hexp now)
  | beginMutation connectionId clientId expectedGeneration begun now =>
    show (m.beginMutation connectionId clientId expectedGeneration begun now).2.InFlight lease
      mutationId (released || false)
    rw [Bool.or_false]
    rcases writes_beginMutation (m := m) connectionId clientId expectedGeneration begun now with
      hsame | hwrites
    · rw [hsame]
      exact hin
    · exact hwrites.inFlight (hexp now)
  | finishMutation connectionId clientId expectedGeneration finished now =>
    have hexact := isExactMutation_of_token htok hactive connectionId clientId expectedGeneration
      finished now
    rw [hfin] at hexact
    show (m.finishMutation connectionId clientId expectedGeneration finished now).2.InFlight lease
      mutationId (released || false)
    rw [Bool.or_false, finishMutation]
    simp only [hcur, hexact, Bool.false_eq_true, if_false]
    exact hin
  | disconnect connectionId clientId =>
    show (m.disconnect connectionId clientId).2.InFlight lease mutationId
      (released || lease.ownedBy connectionId clientId)
    rw [← ownedBy_of_token htok, disconnect]
    simp only [hcur, hbusy, if_true]
    cases current.ownedBy connectionId clientId with
    | true => exact ⟨_, rfl, htok, hactive, (Bool.or_true _).symm⟩
    | false =>
      rw [Bool.or_false]
      exact hin
  | invalidate =>
    show m.invalidate.2.InFlight lease mutationId (released || true)
    rw [Bool.or_true, invalidate]
    simp only [hcur, hbusy, if_true]
    exact ⟨_, rfl, htok, hactive, rfl⟩
  | current now =>
    show (m.expireIfNeeded now).InFlight lease mutationId (released || false)
    rw [Bool.or_false]
    exact hexp now

theorem inFlight_after {calls} :
    ∀ {m : WriterLeaseManager} {released : Bool}, m.InFlight lease mutationId released →
      (∀ c ∈ calls, c.finishes lease mutationId = false) →
      (after call m calls).InFlight lease mutationId
        (released || calls.any (LeaseCall.asksRelease lease)) := by
  induction calls with
  | nil =>
    intro m released h _
    rw [List.any_nil, Bool.or_false]
    exact h
  | cons c calls ih =>
    intro m released h hfin
    have hone := inFlight_call h (hfin c (.head _))
    have hrest := ih hone fun d hd => hfin d (.tail _ hd)
    rw [List.any_cons, ← Bool.or_assoc]
    exact hrest

theorem inFlight_finish {c : LeaseCall} (hm : m.Current) (h : m.InFlight lease mutationId released)
    (hfin : c.finishes lease mutationId = true) :
    if released then
      (∃ ended, (m.call c).1 = .optional (some ended) ∧ ended.token = lease.token) ∧
        (m.call c).2.current = none ∧
        (m.call c).2.generation = saturatingAdd lease.generation 1
    else
      (m.call c).1 = .optional none ∧
        ∃ kept, (m.call c).2.current = some kept ∧ kept.token = lease.token ∧
          kept.activeMutationId = none ∧ kept.releaseAfterMutation = false := by
  obtain ⟨current, hcur, htok, hactive, hflag⟩ := h
  have hgen := generation_of_token htok
  have hmanager : m.generation = lease.generation := (hm current hcur).symm.trans hgen
  cases c with
  | finishMutation connectionId clientId expectedGeneration finished now =>
    have hexact := isExactMutation_of_token htok hactive connectionId clientId expectedGeneration
      finished now
    rw [hfin] at hexact
    simp only [call, finishMutation, hcur, hexact, if_true, Prod.map, id, hflag]
    cases released with
    | true =>
      simp only [if_true, invalidate, busy, Option.isSome_none, Bool.false_eq_true, if_false]
      exact ⟨⟨_, rfl, htok⟩, trivial, congrArg (saturatingAdd · 1) hmanager⟩
    | false =>
      simp only [Bool.false_eq_true, if_false]
      exact ⟨trivial, _, rfl, htok, rfl, rfl⟩
  | acquire | authorize | renew | setVisibility | beginMutation | disconnect | invalidate
  | current => cases hfin

/-! ## The release flag -/

/-- A release is only noted on a lease that a mutation pins. -/
def FlagPinned (m : WriterLeaseManager) : Prop :=
  ∀ lease, m.current = some lease → lease.releaseAfterMutation = true → lease.busy = true

theorem flagPinned_none (h : m.current = none) : m.FlagPinned := by
  intro lease hcur
  rw [h] at hcur
  cases hcur

theorem Writes.flagPinned (h : Writes m m') (hm : m.FlagPinned) : m'.FlagPinned := by
  cases h with
  | nothing h =>
    rw [h]
    exact hm
  | @rewrite lease lease' hcur h hlease =>
    rw [h]
    intro found hfound hrel
    cases hfound
    -- the flag was set before, so a mutation was in flight and still is
    obtain ⟨mutationId, hactive⟩ :=
      Option.isSome_iff_exists.mp (hm lease hcur (hlease.flag ▸ hrel))
    rw [busy, hlease.active mutationId hactive]
    rfl
  | grant _ h =>
    rw [h]
    intro found hfound hrel
    cases hfound
    cases hrel

theorem flagPinned_expireIfNeeded (hm : m.FlagPinned) (now : ℕ) :
    (m.expireIfNeeded now).FlagPinned := by
  rcases expireIfNeeded_eq m now with hsame | ⟨hnone, -⟩
  · rw [hsame]
    exact hm
  · exact flagPinned_none hnone

theorem flagPinned_invalidate (m : WriterLeaseManager) (hm : m.FlagPinned) :
    m.invalidate.2.FlagPinned := by
  unfold invalidate
  cases hcur : m.current with
  | none => exact hm
  | some lease =>
    simp only
    split_ifs with hbusy
    · intro found hfound _
      cases hfound
      exact hbusy
    · exact flagPinned_none rfl

theorem flagPinned_call (m : WriterLeaseManager) (c) (hm : m.FlagPinned) :
    (m.call c).2.FlagPinned := by
  have hexp := flagPinned_expireIfNeeded hm
  cases c with
  | acquire connectionId clientId clientInstanceId now =>
    exact (writes_acquire connectionId clientId clientInstanceId now).flagPinned (hexp now)
  | authorize connectionId clientId expectedGeneration now =>
    exact (writes_authorize connectionId clientId expectedGeneration now).flagPinned (hexp now)
  | renew connectionId clientId clientInstanceId expectedGeneration visible now =>
    exact (writes_renew connectionId clientId clientInstanceId expectedGeneration visible
      now).flagPinned (hexp now)
  | setVisibility connectionId clientId clientInstanceId visible now =>
    exact (writes_setVisibility connectionId clientId clientInstanceId visible now).flagPinned
      (hexp now)
  | beginMutation connectionId clientId expectedGeneration mutationId now =>
    show (m.beginMutation connectionId clientId expectedGeneration mutationId now).2.FlagPinned
    rcases writes_beginMutation (m := m) connectionId clientId expectedGeneration mutationId
      now with
      hsame | hwrites
    · rw [hsame]
      exact hm
    · exact hwrites.flagPinned (hexp now)
  | finishMutation connectionId clientId expectedGeneration mutationId now =>
    show (m.finishMutation connectionId clientId expectedGeneration mutationId now).2.FlagPinned
    unfold finishMutation
    cases hcur : m.current with
    | none => exact hm
    | some lease =>
      simp only
      split_ifs with hexact hrel
      -- the mutation is over, so the flag is acted on here or was not set
      · exact flagPinned_none rfl
      · intro found hfound hflag
        cases hfound
        exact absurd hflag hrel
      · exact hm
  | disconnect connectionId clientId =>
    show (m.disconnect connectionId clientId).2.FlagPinned
    unfold disconnect
    cases hcur : m.current with
    | none => exact hm
    | some lease =>
      simp only
      split_ifs with howner hbusy
      · intro found hfound _
        cases hfound
        exact hbusy
      · exact flagPinned_invalidate m hm
      · exact hm
  | invalidate => exact flagPinned_invalidate m hm
  | current now => exact hexp now

theorem flagPinned_after (hm : m.FlagPinned) (calls : List LeaseCall) :
    (after call m calls).FlagPinned :=
  after_invariant hm flagPinned_call calls

theorem inFlight_of_started (hm : m.FlagPinned) {connectionId : ℕ} {clientId}
    {expectedGeneration : ℕ} {mutationId} {now : ℕ} {lease}
    (h : (m.call (.beginMutation connectionId clientId expectedGeneration mutationId now)).1 =
      .began (.ok (.started lease))) :
    (m.call (.beginMutation connectionId clientId expectedGeneration mutationId
      now)).2.InFlight lease mutationId false := by
  have hexp := flagPinned_expireIfNeeded hm now
  simp only [call, Prod.map, LeaseReturn.began.injEq, id] at h ⊢
  unfold beginMutation at h ⊢
  split_ifs at h ⊢ with hstale
  cases hcur : (m.expireIfNeeded now).current with
  | none =>
    simp only [hcur] at h
    cases h
  | some current =>
    simp only [hcur] at h ⊢
    split_ifs at h ⊢ with howner
    cases hactive : current.activeMutationId with
    | some active =>
      simp only [hactive] at h
      split_ifs at h
      · simp at h
    | none =>
      simp only [hactive, Except.ok.injEq, MutationBegin.started.injEq] at h ⊢
      subst h
      refine ⟨_, rfl, rfl, rfl, ?_⟩
      show current.releaseAfterMutation = false
      by_contra hflag
      have hbusy := hexp current hcur (Bool.eq_true_of_not_eq_false hflag)
      rw [busy, hactive] at hbusy
      cases hbusy

/-! ## All runs -/

variable (leaseDurationMs : ℕ)

theorem current_new : (new leaseDurationMs).Current := by
  nofun

theorem flagPinned_new : (new leaseDurationMs).FlagPinned :=
  flagPinned_none rfl

/-- Writer-lease fencing, over every list of calls that leaves the generation below `u64::MAX`.

The current lease has the manager's generation. A lease that is current later on is the same
one or has a higher generation. Once a lease is no longer current, every later lease has a
higher generation and every call that names its generation is refused. From the start of a
mutation until exactly its finish no call changes the owner, the generation or the mutation;
that finish ends the lease iff its owner disconnected or it was invalidated meanwhile. -/
theorem writer_lease_fencing (calls : List LeaseCall)
    (hmax : (after call (new leaseDurationMs) calls).generation < u64Max) :
    (∀ lease, (after call (new leaseDurationMs) calls).current = some lease →
      lease.generation = (after call (new leaseDurationMs) calls).generation) ∧
    (∀ xs ys, calls = xs ++ ys → ∀ lease lease',
      (after call (new leaseDurationMs) xs).current = some lease →
      (after call (new leaseDurationMs) calls).current = some lease' →
      lease'.token = lease.token ∨ lease.generation < lease'.generation) ∧
    (∀ xs ys zs, calls = xs ++ ys ++ zs → ∀ lease,
      (after call (new leaseDurationMs) xs).current = some lease →
      (∀ held, (after call (new leaseDurationMs) (xs ++ ys)).current = some held →
        held.generation ≠ lease.generation) →
      (∀ lease', (after call (new leaseDurationMs) calls).current = some lease' →
        lease.generation < lease'.generation) ∧
      ∀ c, c.names lease.generation = true →
        ((after call (new leaseDurationMs) calls).call c).1.refused = true) ∧
    (∀ xs ys connectionId clientId expectedGeneration mutationId now lease,
      calls = xs ++ .beginMutation connectionId clientId expectedGeneration mutationId now :: ys →
      ((after call (new leaseDurationMs) xs).call
        (.beginMutation connectionId clientId expectedGeneration mutationId now)).1 =
          .began (.ok (.started lease)) →
      (∀ c ∈ ys, c.finishes lease mutationId = false) →
      (after call (new leaseDurationMs) calls).InFlight lease mutationId
        (ys.any (LeaseCall.asksRelease lease)) ∧
      (after call (new leaseDurationMs) calls).generation = lease.generation ∧
      ∀ c, c.finishes lease mutationId = true →
        let finished := (after call (new leaseDurationMs) calls).call c
        if ys.any (LeaseCall.asksRelease lease) then
          (∃ ended, finished.1 = .optional (some ended) ∧ ended.token = lease.token) ∧
            finished.2.current = none ∧ finished.2.generation = lease.generation + 1
        else
          finished.1 = .optional none ∧
            ∃ kept, finished.2.current = some kept ∧ kept.token = lease.token ∧
              kept.activeMutationId = none ∧ kept.releaseAfterMutation = false) := by
  have hcur := fun xs => current_after (current_new leaseDurationMs) xs
  have hflag := fun xs => flagPinned_after (flagPinned_new leaseDurationMs) xs
  refine ⟨hcur calls, ?_, ?_, ?_⟩
  · rintro xs ys rfl lease lease' hlease hle'
    rw [after_append] at hmax hle'
    rcases held_or_lt ys (hcur xs) hlease hmax with ⟨held, hheld, htok⟩ | hlt
    · rw [hle'] at hheld
      cases hheld
      exact .inl htok
    · have hgen := current_after (hcur xs) ys lease' hle'
      exact .inr (hgen ▸ hlt)
  · rintro xs ys zs rfl lease hlease hended
    have hmid : (after call (new leaseDurationMs) (xs ++ ys)).generation ≤
        (after call (new leaseDurationMs) (xs ++ ys ++ zs)).generation := by
      rw [after_append _ (xs ++ ys)] at hmax ⊢
      exact generation_le_after zs _ hmax
    -- the lease is not held after `ys`, so its generation is past from there on
    have hpast : lease.generation <
        (after call (new leaseDurationMs) (xs ++ ys)).generation := by
      have hmax' := lt_of_le_of_lt hmid hmax
      rw [after_append] at hmax' hended ⊢
      rcases held_or_lt ys (hcur xs) hlease hmax' with ⟨held, hheld, htok⟩ | hlt
      · exact absurd (generation_of_token htok) (hended held hheld)
      · exact hlt
    have hlt := lt_of_lt_of_le hpast hmid
    refine ⟨fun lease' hle' => ?_, fun c hnames => refused_of_lt hlt hmax hnames⟩
    rw [hcur _ lease' hle']
    exact hlt
  · rintro xs ys connectionId clientId expectedGeneration mutationId now lease rfl hstart hfin
    have hbegun := inFlight_of_started (hflag xs) hstart
    have hin := inFlight_after hbegun hfin
    rw [Bool.false_or, ← after_cons, ← after_append] at hin
    have hgen : (after call (new leaseDurationMs) (xs ++
        .beginMutation connectionId clientId expectedGeneration mutationId now :: ys)).generation =
        lease.generation := by
      obtain ⟨current, hheld, htok, -⟩ := hin
      rw [← hcur _ current hheld]
      exact generation_of_token htok
    refine ⟨hin, hgen, fun c hc => ?_⟩
    have hfinished := inFlight_finish (hcur _) hin hc
    have hnext : saturatingAdd lease.generation 1 = lease.generation + 1 := by
      rw [hgen] at hmax
      unfold saturatingAdd
      omega
    rw [hnext] at hfinished
    exact hfinished

/-- The owner disconnects while its mutation is in flight; the finish ends the lease. -/
theorem writer_lease_fencing_disconnected : let calls : List LeaseCall :=
      [.acquire 1 "client" "tab" 0, .beginMutation 1 "client" 1 "m" 5, .disconnect 1 "client"]
    (after call (new 1000) calls).generation < u64Max ∧
      ((after call (new 1000) calls).call
        (.finishMutation 1 "client" 1 "m" 7)).2.generation = 2 := by
  intro calls
  have hmax : (after call (new 1000) calls).generation < u64Max := by decide
  refine ⟨hmax, ?_⟩
  obtain ⟨-, -, hfin⟩ := (writer_lease_fencing 1000 calls hmax).2.2.2
    [.acquire 1 "client" "tab" 0] [.disconnect 1 "client"] 1 "client" 1 "m" 5 _ rfl rfl (by decide)
  exact (hfin (.finishMutation 1 "client" 1 "m" 7) (by decide)).2.2

end WriterLeaseManager

end DevManager
