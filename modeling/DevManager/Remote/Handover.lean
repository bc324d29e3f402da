import DevManager.Remote.LeaseFence

/-!
# A deferred hand-over is delivered once

A controller request that finds a mutation in flight is deferred: the state
keeps the target, and the lease manager notes that the lease is to be released.
The target and the note live in two places; this module shows that they agree.

* `leases_call`: what a call on the state does to the lease manager, as calls of
  the manager, so that the facts about its runs apply.
* `target_call`: the pending target after one call.
-/

namespace DevManager

open Calls ControlCall WriterLeaseManager

/-! ## The lease manager under a call -/

/-- The calls of the lease manager that a call on the state makes. -/
def ControlCall.leaseCalls : ControlCall → List LeaseCall
  | .claimLegacy .. | .clearLegacyClaim .. => []
  | .releaseConnection connectionId clientId => [.disconnect connectionId clientId]
  | .requestController _ | .resetWeb _ => [.invalidate]
  | .finishMutation connectionId clientId expectedGeneration mutationId now =>
    [.finishMutation connectionId clientId expectedGeneration mutationId now]
  | .lease call _ => [call]

/-- The call finishes exactly this mutation. -/
def ControlCall.finishes (lease : WriterLease) (mutationId : String) (c : ControlCall) : Bool :=
  c.leaseCalls.any (LeaseCall.finishes lease mutationId)

/-- The call asks for the release of the lease. -/
def ControlCall.asksRelease (lease : WriterLease) (c : ControlCall) : Bool :=
  c.leaseCalls.any (LeaseCall.asksRelease lease)

/-- The pending target after a call while a mutation is in flight: the last one requested;
`reset_web` supplies `Local` when none is pending. -/
def ControlCall.nextTarget (pending : Option ControllerTarget) : ControlCall →
    Option ControllerTarget
  | .requestController target => some target
  | .resetWeb true => some (pending.getD .local)
  | _ => pending

/-- The target a call returns. -/
def ControlReturn.target : ControlReturn → Option ControllerTarget
  | .finished finish => finish.controllerTarget
  | _ => none

namespace WebControlState

variable {s : WebControlState}

variable (s)

theorem claimLegacy_frame (connectionId : ℕ) (clientId : String)
    (force : Bool) (controllerClientId : Option String) :
    (s.claimLegacy connectionId clientId force controllerClientId).2.writerLeases =
        s.writerLeases ∧
      (s.claimLegacy connectionId clientId force controllerClientId).2.deferredControllerTarget =
        s.deferredControllerTarget := by
  unfold claimLegacy
  split_ifs
  · exact ⟨rfl, rfl⟩
  · dsimp only
    split_ifs
    · exact ⟨rfl, rfl⟩
    · exact ⟨rfl, rfl⟩

theorem clearLegacyClaim_frame (connectionId : ℕ) (clientId : String) :
    (s.clearLegacyClaim connectionId clientId).2.writerLeases = s.writerLeases ∧
      (s.clearLegacyClaim connectionId clientId).2.deferredControllerTarget =
        s.deferredControllerTarget := by
  unfold clearLegacyClaim
  dsimp only
  split_ifs
  · exact ⟨rfl, rfl⟩
  · exact ⟨rfl, rfl⟩

theorem leases_call (c : ControlCall) : (s.call c).2.writerLeases =
      after WriterLeaseManager.call s.writerLeases c.leaseCalls := by
  cases c with
  | claimLegacy => exact (claimLegacy_frame s _ _ _ _).1
  | clearLegacyClaim => exact (clearLegacyClaim_frame s _ _).1
  | releaseConnection connectionId clientId => rfl
  | requestController target =>
    show (s.requestController target).2.writerLeases = _
    unfold requestController
    dsimp only
    split_ifs
    · rfl
    · rfl
  | resetWeb clearWebController =>
    show (s.resetWeb clearWebController).2.writerLeases = _
    unfold resetWeb requestController
    dsimp only
    split_ifs
    · rfl
    · rfl
    · rfl
    · rfl
  | finishMutation connectionId clientId expectedGeneration mutationId now =>
    show (s.finishMutation connectionId clientId expectedGeneration mutationId now).2.writerLeases
      = _
    unfold finishMutation
    dsimp only
    split
    · rfl
    · rfl
  | lease call other => rfl

variable {s}

/-! ## The pending target -/

theorem isBusy_of_inFlight {m : WriterLeaseManager} {lease : WriterLease} {mutationId}
    {released : Bool} (h : m.InFlight lease mutationId released) : m.isBusy = true := by
  obtain ⟨current, hcur, -, hactive, -⟩ := h
  simp [isBusy, hcur, WriterLease.busy, hactive]

theorem inFlight_of_isBusy {m : WriterLeaseManager} (h : m.isBusy = true) :
    ∃ lease mutationId, m.current = some lease ∧
      m.InFlight lease mutationId lease.releaseAfterMutation := by
  unfold isBusy at h
  cases hcur : m.current with
  | none =>
    rw [hcur] at h
    cases h
  | some lease =>
    rw [hcur] at h
    obtain ⟨mutationId, hactive⟩ := Option.isSome_iff_exists.mp h
    exact ⟨lease, mutationId, rfl, lease, hcur, rfl, hactive, rfl⟩

variable {lease : WriterLease} {mutationId : String}

theorem target_call {released : Bool} {c : ControlCall}
    (h : s.writerLeases.InFlight lease mutationId released)
    (hfin : c.finishes lease mutationId = false) :
    (s.call c).2.deferredControllerTarget = c.nextTarget s.deferredControllerTarget := by
  have hbusy := isBusy_of_inFlight h
  cases c with
  | claimLegacy => exact (claimLegacy_frame s _ _ _ _).2
  | clearLegacyClaim => exact (clearLegacyClaim_frame s _ _).2
  | releaseConnection connectionId clientId => rfl
  | requestController target =>
    show (s.requestController target).2.deferredControllerTarget = _
    unfold requestController
    dsimp only
    rw [if_pos hbusy]
    rfl
  | resetWeb clearWebController =>
    show (s.resetWeb clearWebController).2.deferredControllerTarget = _
    unfold resetWeb
    cases clearWebController with
    | true =>
      rw [if_pos rfl, if_pos hbusy]
      rfl
    | false => rfl
  | finishMutation connectionId clientId expectedGeneration finished now =>
    -- not this mutation, so the manager releases nothing
    obtain ⟨current, hcur, htok, hactive, -⟩ := h
    have hexact := isExactMutation_of_token htok hactive connectionId clientId
      expectedGeneration finished now
    have hother : (LeaseCall.finishMutation connectionId clientId expectedGeneration finished
        now).finishes lease mutationId = false := by
      simpa [finishes, leaseCalls] using hfin
    rw [hother] at hexact
    show (s.finishMutation connectionId clientId expectedGeneration finished
      now).2.deferredControllerTarget = _
    unfold finishMutation WriterLeaseManager.finishMutation
    simp only [hcur, hexact, Bool.false_eq_true, if_false]
    rfl
  | lease call other => rfl

theorem target_call_idle (hid : s.writerLeases.isBusy = false)
    (hnone : s.deferredControllerTarget = none) (c : ControlCall) :
    (s.call c).2.deferredControllerTarget = none := by
  have hbusy : ¬ s.writerLeases.isBusy = true := by rw [hid]; exact Bool.false_ne_true
  cases c with
  | claimLegacy => exact (claimLegacy_frame s _ _ _ _).2.trans hnone
  | clearLegacyClaim => exact (clearLegacyClaim_frame s _ _).2.trans hnone
  | releaseConnection => exact hnone
  | requestController target =>
    show (s.requestController target).2.deferredControllerTarget = _
    unfold requestController
    dsimp only
    rw [if_neg hbusy]
  | resetWeb clearWebController =>
    show (s.resetWeb clearWebController).2.deferredControllerTarget = _
    unfold resetWeb requestController
    dsimp only
    rw [if_neg hbusy, if_neg hbusy]
    split_ifs
    · rfl
    · exact hnone
  | finishMutation connectionId clientId expectedGeneration mutationId now =>
    show (s.finishMutation connectionId clientId expectedGeneration mutationId
      now).2.deferredControllerTarget = _
    unfold finishMutation
    dsimp only
    split
    · exact hnone
    · rfl
  | lease => exact hnone

theorem finish_call {released : Bool} {c : ControlCall}
    (hcur : s.writerLeases.Current) (h : s.writerLeases.InFlight lease mutationId released)
    (hfin : c.finishes lease mutationId = true) :
    if released then
      (∃ ended, (s.call c).1 = .finished ⟨some ended, s.deferredControllerTarget⟩ ∧
        ended.token = lease.token) ∧ (s.call c).2.deferredControllerTarget = none
    else
      (s.call c).1 = .finished ⟨none, none⟩ ∧
        (s.call c).2.deferredControllerTarget = s.deferredControllerTarget := by
  cases c with
  | finishMutation connectionId clientId expectedGeneration finished now =>
    have hexact : (LeaseCall.finishMutation connectionId clientId expectedGeneration finished
        now).finishes lease mutationId = true := by
      simpa [finishes, leaseCalls] using hfin
    have hmanager := inFlight_finish hcur h hexact
    simp only [WriterLeaseManager.call, Prod.map, id, LeaseReturn.optional.injEq] at hmanager
    simp only [call, finishMutation, Prod.map, id]
    cases released with
    | true =>
      obtain ⟨⟨ended, hended, htok⟩, -⟩ := hmanager
      simp only [hended, if_true]
      exact ⟨⟨ended, rfl, htok⟩, trivial⟩
    | false =>
      obtain ⟨hended, -⟩ := hmanager
      simp only [hended, Bool.false_eq_true, if_false]
      exact ⟨trivial, trivial⟩
  | lease call other =>
    -- the other calls of the manager finish nothing
    cases call with
    | finishMutation => cases other
    | acquire | authorize | renew | setVisibility | beginMutation | disconnect | invalidate
    | current => cases hfin
  | claimLegacy | clearLegacyClaim | releaseConnection | requestController | resetWeb =>
    cases hfin

theorem target_of_call {c} {target : ControllerTarget} (h : (s.call c).1.target = some target) :
    ∃ lease mutationId, s.writerLeases.InFlight lease mutationId true ∧
      c.finishes lease mutationId = true := by
  cases c with
  | finishMutation connectionId clientId expectedGeneration mutationId now =>
    simp only [call, Prod.map, id, ControlReturn.target, finishMutation,
      WriterLeaseManager.finishMutation] at h
    cases hcur : s.writerLeases.current with
    | none => simp [hcur] at h
    | some lease =>
      simp only [hcur] at h
      cases hexact : isExactMutation lease connectionId clientId
        expectedGeneration mutationId with
      | false => simp [hexact] at h
      | true =>
        cases hflag : lease.releaseAfterMutation with
        | false => simp [hexact, hflag] at h
        | true =>
          simp only [isExactMutation, Bool.and_eq_true, decide_eq_true_eq] at hexact
          obtain ⟨⟨howner, hgen⟩, hactive⟩ := hexact
          refine ⟨lease, mutationId, ⟨lease, hcur, rfl, hactive, hflag⟩, ?_⟩
          simp [finishes, leaseCalls, LeaseCall.finishes, howner, hgen]
  | claimLegacy | clearLegacyClaim | releaseConnection | requestController | resetWeb | lease =>
    cases h

/-! ## All runs -/

/-- A pending target belongs to a mutation in flight whose lease is to be released. -/
structure Handover (s : WebControlState) : Prop where
  current : s.writerLeases.Current
  pinned : s.writerLeases.FlagPinned
  pending : s.deferredControllerTarget ≠ none →
    ∃ lease mutationId, s.writerLeases.InFlight lease mutationId true

theorem not_finishes {c : ControlCall} (h : c.finishes lease mutationId = false) :
    ∀ d ∈ c.leaseCalls, d.finishes lease mutationId = false := by
  intro d hd
  exact Bool.eq_false_of_not_eq_true (List.any_eq_false.mp h d hd)

theorem Handover.none_of_kept (h : s.Handover)
    (hin : s.writerLeases.InFlight lease mutationId false) : s.deferredControllerTarget = none := by
  by_contra hpend
  obtain ⟨lease', mutationId', current', hcurrent', -, -, hflag'⟩ := h.pending hpend
  obtain ⟨current, hcur, -, -, hflag⟩ := hin
  rw [hcurrent'] at hcur
  cases hcur
  rw [hflag] at hflag'
  cases hflag'

theorem asksRelease_of_nextTarget {pending} {c : ControlCall}
    (lease : WriterLease) (h : c.nextTarget pending ≠ none) :
    pending ≠ none ∨ c.asksRelease lease = true := by
  cases c with
  | requestController | resetWeb => exact .inr rfl
  | claimLegacy | clearLegacyClaim | releaseConnection | finishMutation | lease => exact .inl h

theorem handover_call (s : WebControlState) (c) (h : s.Handover) :
    (s.call c).2.Handover := by
  refine ⟨?_, ?_, fun hpend => ?_⟩
  · rw [leases_call]
    exact current_after h.current _
  · rw [leases_call]
    exact flagPinned_after h.pinned _
  cases hbusy : s.writerLeases.isBusy with
  | false =>
    -- nothing is in flight, so nothing was pending
    have hnone : s.deferredControllerTarget = none := by
      by_contra hsome
      obtain ⟨lease, mutationId, hin⟩ := h.pending hsome
      rw [isBusy_of_inFlight hin] at hbusy
      cases hbusy
    exact absurd (target_call_idle hbusy hnone c) hpend
  | true =>
    obtain ⟨lease, mutationId, -, hin⟩ := inFlight_of_isBusy hbusy
    cases hfin : c.finishes lease mutationId with
    | true =>
      have hcall := finish_call h.current hin hfin
      cases hflag : lease.releaseAfterMutation with
      | true =>
        rw [hflag, if_pos rfl] at hcall
        exact absurd hcall.2 hpend
      | false =>
        rw [hflag] at hcall hin
        rw [if_neg Bool.false_ne_true] at hcall
        exact absurd (hcall.2.trans (h.none_of_kept hin)) hpend
    | false =>
      have hpost := inFlight_after hin (not_finishes hfin)
      rw [← leases_call] at hpost
      rw [target_call hin hfin] at hpend
      refine ⟨lease, mutationId, ?_⟩
      have hrel : (lease.releaseAfterMutation || c.asksRelease lease) = true := by
        rcases asksRelease_of_nextTarget lease hpend with hsome | hask
        · cases hflag : lease.releaseAfterMutation with
          | true => rfl
          | false =>
            rw [hflag] at hin
            exact absurd (h.none_of_kept hin) hsome
        · rw [hask, Bool.or_true]
      rw [← hrel]
      exact hpost

theorem handover_new (leaseDurationMs : ℕ) : (new leaseDurationMs).Handover :=
  ⟨current_new _, flagPinned_new _, fun h => absurd rfl h⟩

theorem inFlight_run {calls : List ControlCall} :
    ∀ {s : WebControlState} {released : Bool}, s.writerLeases.InFlight lease mutationId released →
      (∀ c ∈ calls, c.finishes lease mutationId = false) →
      (after call s calls).writerLeases.InFlight lease mutationId
        (released || calls.any (asksRelease lease)) ∧
      (after call s calls).deferredControllerTarget =
        calls.foldl nextTarget s.deferredControllerTarget := by
  induction calls with
  | nil =>
    intro s released h _
    rw [List.any_nil, Bool.or_false]
    exact ⟨h, rfl⟩
  | cons c calls ih =>
    intro s released h hfin
    have hc := hfin c (.head _)
    have hone := inFlight_after h (not_finishes hc)
    rw [← leases_call] at hone
    obtain ⟨hin, htarget⟩ := ih hone fun d hd => hfin d (.tail _ hd)
    rw [target_call h hc] at htarget
    rw [List.any_cons, ← Bool.or_assoc]
    exact ⟨hin, htarget⟩

/-- Deferred control hand-over, in every state that calls can lead to.

A target is pending only while a mutation is in flight whose lease is marked for release, and
none is when a mutation starts. Over any further calls that do not finish the mutation the
pending target is the last one requested (`reset_web` supplying `Local` when there is none);
the finish returns it with the released lease and clears it, and a finish that releases no lease
returns none. No other call returns a target. -/
theorem deferred_handover (leaseDurationMs : ℕ) (calls : List ControlCall) :
    let s := after call (new leaseDurationMs) calls
    (s.deferredControllerTarget ≠ none →
      ∃ lease mutationId, s.writerLeases.InFlight lease mutationId true) ∧
    (∀ connectionId clientId expectedGeneration mutationId now lease, (s.writerLeases.call
        (.beginMutation connectionId clientId expectedGeneration mutationId now)).1 =
          .began (.ok (.started lease)) →
      s.deferredControllerTarget = none) ∧
    (∀ lease mutationId released, s.writerLeases.InFlight lease mutationId released →
      ∀ ys, (∀ c ∈ ys, c.finishes lease mutationId = false) →
        let s' := after call s ys
        let target := ys.foldl nextTarget s.deferredControllerTarget
        s'.deferredControllerTarget = target ∧
        s'.writerLeases.InFlight lease mutationId
          (released || ys.any (asksRelease lease)) ∧
        ∀ c, c.finishes lease mutationId = true →
          if released || ys.any (asksRelease lease) then
            (∃ ended, (s'.call c).1 = .finished ⟨some ended, target⟩ ∧
              ended.token = lease.token) ∧ (s'.call c).2.deferredControllerTarget = none
          else
            (s'.call c).1 = .finished ⟨none, none⟩ ∧ target = none ∧
              (s'.call c).2.deferredControllerTarget = none) ∧
    ∀ c target, (s.call c).1.target = some target →
      ∃ lease mutationId, s.writerLeases.InFlight lease mutationId true ∧
        c.finishes lease mutationId = true := by
  intro s
  have hhand : s.Handover :=
    after_invariant (handover_new leaseDurationMs) handover_call calls
  refine ⟨hhand.pending, ?_, ?_, fun c target => target_of_call⟩
  · intro connectionId clientId expectedGeneration mutationId now lease hstart
    by_contra hpend
    -- a mutation in flight lets no other one start
    obtain ⟨held, mutation, hin⟩ := hhand.pending hpend
    have hkept := inFlight_call hin (c := .beginMutation connectionId clientId
      expectedGeneration mutationId now) rfl
    have hbegun := inFlight_of_started hhand.pinned hstart
    obtain ⟨_, hcur, -, -, hflag⟩ := hkept
    obtain ⟨_, hcurrent', -, -, hflag'⟩ := hbegun
    rw [hcur] at hcurrent'
    cases hcurrent'
    rw [hflag] at hflag'
    cases hflag'
  · intro lease mutationId released hin ys hfin s' target
    obtain ⟨hpost, htarget⟩ := inFlight_run hin hfin
    have hhand' : s'.Handover := after_invariant hhand handover_call ys
    refine ⟨htarget, hpost, fun c hc => ?_⟩
    have hcall := finish_call hhand'.current hpost hc
    cases hrel : (released || ys.any (asksRelease lease)) with
    | true =>
      rw [hrel, if_pos rfl, htarget] at hcall
      exact hcall
    | false =>
      rw [hrel] at hcall hpost
      have hnone := hhand'.none_of_kept hpost
      exact ⟨hcall.1, htarget.symm.trans hnone, hcall.2.trans hnone⟩

/-- A native client asks for control during a mutation, then the web is reset: the finish hands
control to the client. -/
theorem deferred_handover_native : let calls : List ControlCall :=
      [.lease (.acquire 1 "client" "tab" 0) rfl, .lease (.beginMutation 1 "client" 1 "m" 5) rfl]
    let ys : List ControlCall := [.requestController (.native "host"), .resetWeb true]
    let s := after call (after call (new 1000) calls) ys
    ∃ ended, (s.call (.finishMutation 1 "client" 1 "m" 7)).1 =
      .finished ⟨some ended, some (.native "host")⟩ := by
  intro calls ys s
  obtain ⟨-, -, hfin⟩ := (deferred_handover 1000 calls).2.2.1 _ "m" false
    ⟨_, rfl, rfl, rfl, rfl⟩ ys (by decide)
  obtain ⟨ended, hended, -⟩ := (hfin (.finishMutation 1 "client" 1 "m" 7) (by decide)).1
  exact ⟨ended, hended⟩

end WebControlState

end DevManager
