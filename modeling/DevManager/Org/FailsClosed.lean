import DevManager.Org.SeenFacts

/-!
# Organization access fails closed

Once a membership has ended, expired or gone back to pending, and until the next
confirmation, nothing of the organization is open to the host, whatever is called
(`Shut.failsClosed`). Two ways are left in which the state still moves: an expired membership
takes facts about tasks, and after the owner has left the host takes membership facts that
are older than the last one. They are the only ones (`fails_closed_iff`).
-/

namespace DevManager.Org

open FactHistory

/-- The fact takes the access away: the membership expires, or it is not enrolled. -/
def MembershipFact.Disables (fact : MembershipFact) (nowMs : Int64) : Prop :=
  fact.Expires nowMs ∨ fact.status ≠ .enrolled

instance (fact : MembershipFact) (nowMs : Int64) : Decidable (fact.Disables nowMs) :=
  inferInstanceAs (Decidable (_ ∨ _))

namespace OrganizationProjection

open TaskLinkReducer

/-- What is promised of a host without access. -/
structure FailsClosed [Externals] [UuidExternals] (p : OrganizationProjection) : Prop where
  capability : ∃ reason, p.capabilityState = .disabled reason
  exported : p.exportedTaskCount = 0
  host : p.hostIdIfEnrolled = none
  scope : ∀ taskId, p.personalScopeWithoutLink taskId = some .personal
  links : isOk p.linksMut = false
  prompts : isOk p.promptsMut = false
  promptSnapshot : ∀ snapshot nowMs entitlementExpiresAtMs,
    isOk (p.applyPromptSnapshot snapshot nowMs entitlementExpiresAtMs) = false
  policy : ∀ policy, isOk (p.applyPolicyDocument policy) = false
  localAction : ∀ request localHostId localProject localFingerprint ownerApproved nowMs,
    isOk (p.admitLocalAction request localHostId localProject localFingerprint ownerApproved
      nowMs) = false
  evidence : ∀ bundle draftId, isOk (p.ingestEvidence bundle draftId) = false

/-- No access: the host is not in the enrolled state, a host that only signed in has no membership,
and a membership that is still enrolled has expired. -/
structure Shut (p : OrganizationProjection) : Prop where
  sync : p.syncState ≠ .enrolled
  signedIn : p.syncState = .signedIn → p.membership = none
  expired : ∀ membership ∈ p.membership, membership.isEnrolled = true → p.syncState = .expired

theorem Shut.requireEnrolled {p : OrganizationProjection} (h : p.Shut) :
    ∃ error, p.requireEnrolled = .error error := by
  cases hreq : p.requireEnrolled with
  | error => exact ⟨_, rfl⟩
  | ok membership =>
    obtain ⟨hmode, hsig | henrol⟩ := requireEnrolled_eq_ok.mp hreq
    · have hnone := h.signedIn hsig
      simp [OrganizationProjection.membership, hmode] at hnone
    · exact absurd henrol h.sync

theorem Shut.failsClosed [Externals] [UuidExternals] {p : OrganizationProjection} (h : p.Shut) :
    p.FailsClosed := by
  obtain ⟨error, hreq⟩ := h.requireEnrolled
  have hhost : p.hostIdIfEnrolled = none := if_neg h.sync
  refine ⟨?_, if_pos (.inl h.sync), hhost, fun taskId => ?_, ?_, ?_, ?_, ?_, ?_, ?_⟩
  · unfold capabilityState
    cases hsync : p.syncState with
    | enrolled => exact absurd hsync h.sync
    | _ => exact ⟨_, rfl⟩
  · unfold personalScopeWithoutLink
    rw [hhost]
  · rw [linksMut, hreq]
    rfl
  · rw [promptsMut, hreq]
    rfl
  · intro snapshot nowMs entitlementExpiresAtMs
    rw [applyPromptSnapshot, hreq]
    rfl
  · intro policy
    rw [applyPolicyDocument, hreq]
    rfl
  · intro request localHostId localProject localFingerprint ownerApproved nowMs
    rw [admitLocalAction, onLocalActions, hreq]
    rfl
  · intro bundle draftId
    rw [ingestEvidence, hreq]
    rfl

/-! ## What facts leave of the access -/

section Steps

variable {p p' : OrganizationProjection}

theorem shut_of_not_enrolled (hsync : p.syncState ≠ .enrolled)
    (hsig : p.syncState = .signedIn → p.membership = none)
    (hmembership : ∀ membership ∈ p.membership, membership.isEnrolled = false) : p.Shut := by
  refine ⟨hsync, hsig, fun membership hmem henrol => ?_⟩
  rw [hmembership membership hmem] at henrol
  cases henrol

variable (p)

theorem shut_left (membership) (nowMs : Int64) :
    (p.left membership nowMs).Shut := by
  refine shut_of_not_enrolled nofun nofun fun _ h => ?_
  cases Option.some.inj h
  rfl

theorem shut_revoke (revokedAtMs : Int64) :
    (p.revoke revokedAtMs).Shut := by
  refine shut_of_not_enrolled nofun nofun fun membership h => ?_
  have hmode := membership_eq_some.mp h
  unfold revoke at hmode
  cases hold : p.mode with
  | hostEnrolled old =>
    simp only [hold, OperatingMode.hostEnrolled.injEq] at hmode
    rw [← hmode]
    rfl
  | anonymousLocal | connectSignedIn => simp [hold] at hmode

variable {p}

theorem shut_of_none (hnone : p.membership = none) (hsync : p.syncState ≠ .enrolled) : p.Shut := by
  refine shut_of_not_enrolled hsync (fun _ => hnone) fun membership h => ?_
  rw [hnone] at h
  cases h

variable (p)

theorem shut_unenroll (nowMs : Int64) : (p.unenroll nowMs).Shut := by
  cases hmem : p.membership with
  | some membership =>
    rw [unenroll_of_some hmem]
    exact shut_left p membership nowMs
  | none =>
    rw [unenroll_of_none hmem]
    exact shut_of_none hmem nofun

theorem shut_suspend : p.suspend.Shut := by
  cases hmem : p.membership with
  | some membership =>
    rw [suspend, membership_eq_some.mp hmem]
    refine shut_of_not_enrolled nofun nofun fun _ h => ?_
    cases Option.some.inj h
    rfl
  | none =>
    rw [suspend_of_none hmem]
    exact shut_of_none hmem nofun

variable {p}

theorem shut_afterFact {fact nowMs} (h : fact.Disables nowMs) :
    (p.afterFact fact nowMs).Shut := by
  unfold afterFact
  split_ifs with hexp
  · exact ⟨nofun, nofun, fun _ _ _ => rfl⟩
  cases hcase : fact.status with
  | enrolled => exact absurd hcase (h.resolve_left hexp)
  | revoked => exact shut_revoke p _
  | unenrolled => exact shut_unenroll p nowMs
  | pendingLocalConfirm => exact shut_suspend p

theorem Shut.frame [Externals] [UuidExternals] (h : p.Shut) (hframe : Frame p p') : p'.Shut := by
  refine ⟨hframe.sync ▸ h.sync, fun hsig => ?_, fun membership' hmem' henrol => ?_⟩
  · exact hframe.membership_none.mpr (h.signedIn (hframe.sync ▸ hsig))
  · rw [hframe.sync]
    cases hmem : p.membership with
    | none =>
      rw [hframe.membership_none.mpr hmem] at hmem'
      cases hmem'
    | some membership =>
      have hstand := hframe.standing
      rw [membership_eq_some.mp hmem, membership_eq_some.mp hmem', SameStanding] at hstand
      refine h.expired membership hmem ?_
      rw [hstand] at henrol
      exact henrol

theorem Shut.congr (h : p.Shut) (hmode : p'.mode = p.mode) (hsync : p'.syncState = p.syncState) :
    p'.Shut := by
  have hmembership : p'.membership = p.membership := by
    rw [OrganizationProjection.membership, hmode]
    rfl
  exact ⟨hsync ▸ h.sync, fun hsig => hmembership.trans (h.signedIn (hsync ▸ hsig)),
    fun membership hmem henrol =>
      hsync.trans (h.expired membership (hmembership ▸ hmem) henrol)⟩

theorem Shut.signIn (h : p.Shut) (account) : (p.signIn account).Shut := by
  unfold OrganizationProjection.signIn
  split_ifs
  · exact h
  · exact shut_of_none rfl h.sync
  · exact shut_of_none rfl nofun

theorem signIn_expired {account : ExternalAccount} (h : (p.signIn account).syncState = .expired) :
    p.syncState = .expired := by
  unfold OrganizationProjection.signIn at h
  split_ifs at h
  · exact h
  · exact h

theorem signIn_membershipRevision (account) :
    (p.signIn account).membershipRevision = p.membershipRevision := by
  unfold OrganizationProjection.signIn
  split_ifs <;> rfl

theorem Shut.acknowledge (h : p.Shut) : p.acknowledge.Shut := by
  cases hmem : p.membership with
  | some membership =>
    rw [acknowledge_of_some hmem]
    exact h
  | none =>
    rw [acknowledge_of_none hmem]
    exact shut_of_none hmem nofun

theorem afterFact_of_not_disables {fact nowMs}
    (h : ¬ fact.Disables nowMs) : p.afterFact fact nowMs = p.acknowledge := by
  obtain ⟨hexp, hstatus⟩ := not_or.mp h
  rw [afterFact, if_neg hexp, not_not.mp hstatus]

theorem acknowledge_syncState (p : OrganizationProjection) :
    p.acknowledge.syncState = p.syncState ∨ p.acknowledge.syncState = .signedIn := by
  cases hmem : p.membership with
  | some membership =>
    rw [acknowledge_of_some hmem]
    exact .inl rfl
  | none =>
    rw [acknowledge_of_none hmem]
    exact .inr rfl

end Steps

/-! ## What still moves -/

/-- The fact about a task makes a link, or is newer than the link of its task. -/
def Changes (p : OrganizationProjection) (s : ManagedTaskSnapshot) : Prop :=
  p.seenFacts[s.seenKey]? = none ∧ p.seenFacts.size < maxSeenFacts ∧
    ∃ membership ∈ p.membership, p.links.Creates membership s ∨
      ∃ existing, p.links.Advances membership s existing

/-- The membership fact is not refused but for its revision: the host is not standalone, and the
fact is about its account and its membership. -/
def Applicable (p : OrganizationProjection) (fact : MembershipFact) : Prop :=
  p.mode ≠ .anonymousLocal ∧ fact.revision ≠ 0 ∧ p.Concerns fact

section Moves

variable [Externals] [UuidExternals] {p p' : OrganizationProjection} {nowMs : Int64}

theorem call_fact_eq {fact : OrganizationFact} :
    (∃ outcome p', p.applyAuthoritativeFact fact nowMs = .ok (outcome, p') ∧
      (p.call (.applyAuthoritativeFact fact nowMs)).2 = p') ∨
    (∃ error, p.applyAuthoritativeFact fact nowMs = .error error) ∧
      (p.call (.applyAuthoritativeFact fact nowMs)).2 = p := by
  have htry : p.attempt (.applyAuthoritativeFact fact nowMs) =
      replied (p.applyAuthoritativeFact fact nowMs) := rfl
  unfold OrganizationProjection.call
  rw [htry]
  cases p.applyAuthoritativeFact fact nowMs with
  | error => exact .inr ⟨⟨_, rfl⟩, rfl⟩
  | ok answer => exact .inl ⟨answer.1, answer.2, rfl, rfl⟩

omit [Externals] [UuidExternals] in
theorem Changes.membership_enrolled {s : ManagedTaskSnapshot} (h : p.Changes s) :
    ∃ membership ∈ p.membership, membership.isEnrolled = true := by
  obtain ⟨-, -, membership, hmem, hchange⟩ := h
  have hvalid : validateSnapshotIdentities membership s = .ok () := by
    rcases hchange with hmakes | ⟨existing, hadv⟩
    · exact hmakes.valid
    · exact hadv.valid
  simp only [validateSnapshotIdentities, ok_iff, Bool.not_eq_false] at hvalid
  exact ⟨membership, hmem, hvalid.1⟩

theorem links_kept_iff {s : ManagedTaskSnapshot} :
    (p.call (.applyAuthoritativeFact (.managedTask s) nowMs)).2.links = p.links ↔
      ¬ p.Changes s := by
  constructor
  · rintro hkept ⟨hunseen, hroom, membership, hmem, hchange⟩
    have hmode : p.mode ≠ .anonymousLocal := by
      rw [membership_eq_some.mp hmem]
      simp
    have htaken : ∃ r', p.links.applyPortalSnapshot membership s = .ok (.applied, r') ∧
        r'.get s.hostId s.localTaskId ≠ p.links.get s.hostId s.localTaskId := by
      have hins : ∀ (link : ManagedTaskLink) cards,
          get ⟨p.links.byTask.insert (linkFromSnapshot s).key link, cards⟩ s.hostId s.localTaskId =
            some link := fun _ _ => (OrdMap.getElem?_insert_eq ..).trans (if_pos rfl)
      rcases hchange with hmakes | ⟨existing, hadv⟩
      · refine ⟨_, applyPortalSnapshot_eq_ok.mpr (.inl ⟨hmakes, rfl, rfl⟩), ?_⟩
        rw [hins, hmakes.first]
        simp
      · refine ⟨_, applyPortalSnapshot_eq_ok.mpr (.inr (.inl ⟨existing, hadv, rfl, rfl⟩)), ?_⟩
        rw [hins, hadv.stored]
        intro heq
        have hrev := congrArg ManagedTaskLink.portalRevision (Option.some.inj heq)
        exact absurd hrev hadv.newer.ne'
    obtain ⟨r', hr', hdiffers⟩ := htaken
    have hok : p.applyAuthoritativeFact (.managedTask s) nowMs = .ok (.applied, { p with
        links := r', seenFacts := p.seenFacts.insert s.seenKey s.identityHash }) := by
      simp only [applyAuthoritativeFact, failIf_neg hmode, ok_bind]
      exact applyManagedTask_eq_ok.mpr (.inr ⟨hunseen, hroom, membership, r', hmem, hr', rfl⟩)
    rcases @call_fact_eq _ _ p nowMs (.managedTask s) with
      ⟨outcome, p', hans, hcall⟩ | ⟨⟨error, hans⟩, -⟩
    · rw [hok] at hans
      cases hans
      rw [hcall] at hkept
      exact hdiffers (congrArg (fun r => get r s.hostId s.localTaskId) hkept)
    · rw [hok] at hans
      cases hans
  · intro hnot
    rcases @call_fact_eq _ _ p nowMs (.managedTask s) with
      ⟨outcome, p', hans, hcall⟩ | ⟨-, hcall⟩
    · rw [hcall]
      simp only [applyAuthoritativeFact, ok_iff] at hans
      rcases applyManagedTask_eq_ok.mp hans.2 with
        ⟨-, -, rfl⟩ | ⟨hunseen, hroom, membership, links, hmem, hlinks, rfl⟩
      · rfl
      · rcases applyPortalSnapshot_eq_ok.mp hlinks with
          ⟨hmakes, -, -⟩ | ⟨existing, hadv, -, -⟩ | ⟨-, -, hsame, -⟩
        · exact absurd ⟨hunseen, hroom, membership, hmem, .inl hmakes⟩ hnot
        · exact absurd ⟨hunseen, hroom, membership, hmem, .inr ⟨existing, hadv⟩⟩ hnot
        · exact hsame
    · rw [hcall]

theorem stale_fact_iff {fact : MembershipFact} {last : ℕ}
    (hrev : p.membershipRevision = none ∨ p.membershipRevision = some last)
    (hstale : fact.revision < last) :
    (p.call (.applyAuthoritativeFact (.membership fact) nowMs)).2 = p ↔
      (p.membershipRevision = none → ¬ p.Applicable fact) := by
  constructor
  · rintro hkept hnone ⟨hmode, hpos, hconcerns⟩
    have hok : p.applyAuthoritativeFact (.membership fact) nowMs =
        .ok (.applied, { p.afterFact fact nowMs with
          membershipRevision := some fact.revision, membershipFactHash := some fact.hash }) := by
      simp only [applyAuthoritativeFact, failIf_neg hmode, ok_bind]
      refine reconcileMembershipFact_eq_ok.mpr ⟨hpos, ?_, .inr ⟨?_, hconcerns, rfl, rfl⟩⟩
      · simp [hnone]
      · simp [hnone]
    rcases @call_fact_eq _ _ p nowMs (.membership fact) with
      ⟨outcome, p', hans, hcall⟩ | ⟨⟨error, hans⟩, -⟩
    · rw [hok] at hans
      cases hans
      have hkept := congrArg membershipRevision (hcall.symm.trans hkept)
      rw [hnone] at hkept
      cases hkept
    · rw [hok] at hans
      cases hans
  · intro hforgotten
    rcases @call_fact_eq _ _ p nowMs (.membership fact) with
      ⟨outcome, p', hans, hcall⟩ | ⟨-, hcall⟩
    · rw [hcall]
      simp only [applyAuthoritativeFact, ok_iff] at hans
      obtain ⟨hpos, hcur, ⟨-, -, -, hsame⟩ | ⟨-, hconcerns, -, -⟩⟩ :=
        reconcileMembershipFact_eq_ok.mp hans.2
      · exact hsame
      · rcases hrev with hnone | hsome
        · exact absurd ⟨hans.1, hpos, hconcerns⟩ (hforgotten hnone)
        · have hle := hcur last hsome
          omega
    · exact hcall

end Moves

end OrganizationProjection

/-! ## A run -/

/-- A projection, the revision of the last membership fact that was applied since the last
confirmation, and whether access was taken away since then. -/
structure Overseen where
  org : OrganizationProjection
  lastApplied : Option ℕ
  closed : Bool

namespace Overseen

open OrganizationProjection TaskLinkReducer

/-- Nothing has happened. -/
def start : Overseen := ⟨standalone, none, false⟩

/-- What a call that succeeds adds: a confirmation starts anew, the owner who leaves takes the
access away, and a membership fact that is applied may. -/
def note (o : Overseen) (p' : OrganizationProjection) : OrgCall → OrgReply → Overseen
  | .confirmEnrollment _ _ _, _ => ⟨p', none, false⟩
  | .unenrollOffline _, _ => ⟨p', o.lastApplied, true⟩
  | .applyAuthoritativeFact (.membership fact) nowMs, .outcome .applied =>
    ⟨p', some fact.revision, o.closed || decide (fact.Disables nowMs)⟩
  | _, _ => ⟨p', o.lastApplied, o.closed⟩

theorem note_org (o : Overseen) (p') (c : OrgCall) (reply : OrgReply) :
    (o.note p' c reply).org = p' := by
  unfold note
  split <;> rfl

section Run

variable [Externals] [UuidExternals] {o : Overseen} {c : OrgCall}

/-- One call on the projection, with what it adds. -/
def call (o : Overseen) (c : OrgCall) : Except OrgError OrgReply × Overseen :=
  Calls.keeping o ((o.org.attempt c).map fun answer => (answer.1, o.note answer.2 c answer.1))

theorem call_org (o : Overseen) (c : OrgCall) : (o.call c).2.org = (o.org.call c).2 := by
  unfold call OrganizationProjection.call
  cases o.org.attempt c with
  | error error => rfl
  | ok answer => exact note_org o answer.2 c answer.1

/-- While access is taken away the host is shut out, an expired membership is one whose access was
taken away, and the revision kept is that of the last fact, if one is kept. -/
structure Watched (o : Overseen) : Prop where
  closed : o.closed = true → o.org.Shut
  expired : o.org.syncState = .expired → o.closed = true
  revision : o.org.membershipRevision = none ∨ o.org.membershipRevision = o.lastApplied

omit [Externals] [UuidExternals] in
theorem watched_start : Watched start :=
  ⟨nofun, nofun, .inl rfl⟩

theorem Watched.frame (h : o.Watched) {p' : OrganizationProjection}
    (hframe : OrganizationProjection.Frame o.org p') : Watched ⟨p', o.lastApplied, o.closed⟩ :=
  ⟨fun hclosed => (h.closed hclosed).frame hframe, fun hexp => h.expired (hframe.sync ▸ hexp),
    hframe.revision ▸ h.revision⟩

omit [Externals] [UuidExternals] in
theorem Watched.applied (h : o.Watched) (fact : MembershipFact) (nowMs : Int64) (hash : Digest) :
    Watched ⟨{ o.org.afterFact fact nowMs with
      membershipRevision := some fact.revision, membershipFactHash := some hash },
      some fact.revision, o.closed || decide (fact.Disables nowMs)⟩ := by
  have hshut : (o.closed || decide (fact.Disables nowMs)) = true →
      (o.org.afterFact fact nowMs).Shut := by
    intro hclosed
    by_cases hdisables : fact.Disables nowMs
    · exact shut_afterFact hdisables
    · rw [afterFact_of_not_disables hdisables]
      exact (h.closed (by simpa [hdisables] using hclosed)).acknowledge
  refine ⟨fun hclosed => ?_, fun hexp => ?_, .inr rfl⟩
  · exact (hshut hclosed).congr rfl rfl
  · by_cases hdisables : fact.Disables nowMs
    · simp [hdisables]
    · have hsync : (o.org.afterFact fact nowMs).syncState = .expired := hexp
      rw [afterFact_of_not_disables hdisables] at hsync
      rcases acknowledge_syncState o.org with hkept | hsig
      · simp [h.expired (hkept ▸ hsync)]
      · rw [hsig] at hsync
        cases hsync

theorem Watched.call (h : o.Watched) (c : OrgCall) : (o.call c).2.Watched := by
  refine Calls.keeping_invariant h fun reply o' hok => ?_
  obtain ⟨⟨reply', p'⟩, htry, hnoted⟩ := map_eq_ok.mp hok
  cases hnoted
  show Watched (o.note p' c reply')
  by_cases henrol : c.Enrolling
  swap
  · have hnote : o.note p' c reply' = ⟨p', o.lastApplied, o.closed⟩ := by
      cases c <;> first | rfl | exact absurd trivial henrol
    rw [hnote]
    exact h.frame (attempt_frame henrol htry)
  cases c with
  | signIn account =>
    cases htry
    refine ⟨fun hclosed => (h.closed hclosed).signIn account,
      fun hexp => h.expired (signIn_expired hexp), ?_⟩
    exact (signIn_membershipRevision account).symm ▸ h.revision
  | confirmEnrollment membership policy nowMs =>
    obtain ⟨-, _, hconfirm⟩ := done_eq_ok.mp htry
    simp only [confirmEnrollment, ok_iff] at hconfirm
    obtain ⟨_, -, _, -, -, rfl⟩ := hconfirm
    exact ⟨by rintro ⟨⟩, by rintro ⟨⟩, .inl rfl⟩
  | unenrollOffline nowMs =>
    obtain ⟨p'', hleft, hp⟩ := map_eq_ok.mp htry
    cases hp
    obtain ⟨membership, -, rfl⟩ := unenrollOffline_eq_ok.mp hleft
    exact ⟨fun _ => shut_left o.org membership nowMs, fun _ => rfl, .inl rfl⟩
  | applyAuthoritativeFact fact nowMs =>
    obtain ⟨outcome, hreply, hfact⟩ := replied_eq_ok.mp htry
    simp only [applyAuthoritativeFact, ok_iff] at hfact
    cases fact with
    | managedTask snapshot =>
      have hnote : o.note p' (.applyAuthoritativeFact (.managedTask snapshot) nowMs) reply' =
          ⟨p', o.lastApplied, o.closed⟩ := rfl
      rw [hnote]
      rcases applyManagedTask_eq_ok.mp hfact.2 with
        ⟨-, -, rfl⟩ | ⟨-, -, membership, links, -, -, rfl⟩
      · exact h
      · exact ⟨fun hclosed => (h.closed hclosed).congr rfl rfl, h.expired, h.revision⟩
    | membership fact =>
      rcases (reconcileMembershipFact_eq_ok.mp hfact.2).2.2 with
        ⟨-, -, rfl, rfl⟩ | ⟨-, -, rfl, rfl⟩
      · rw [hreply]
        exact h
      · rw [hreply]
        exact h.applied fact nowMs fact.hash
  | _ => exact absurd henrol id

/-- What is promised of a call: without access everything is closed and no fact changes a link, and
a membership fact that is older than the last one changes nothing. -/
structure Closed (o : Overseen) (c : OrgCall) : Prop where
  closed : o.closed = true → o.org.FailsClosed
  links : o.closed = true → ∀ s ∈ c.snapshot, (o.call c).2.org.links = o.org.links
  stale : ∀ fact nowMs, c = .applyAuthoritativeFact (.membership fact) nowMs →
    ∀ last ∈ o.lastApplied, fact.revision < last → (o.call c).2.org = o.org

/-- While the membership has expired no fact about a task comes that changes a link, and while the
last revision is forgotten no older membership fact comes that is not refused otherwise. -/
structure Clean (o : Overseen) (c : OrgCall) : Prop where
  expired : o.org.syncState = .expired → ∀ s ∈ c.snapshot, ¬ o.org.Changes s
  forgotten : ∀ fact nowMs, c = .applyAuthoritativeFact (.membership fact) nowMs →
    o.org.membershipRevision = none → ∀ last ∈ o.lastApplied, fact.revision < last →
      ¬ o.org.Applicable fact

/-- After every run, access fails closed for the next call exactly when an expired host takes no
fact that changes a link, and a host that has left takes no membership fact that is older than
the last one. -/
theorem fails_closed_iff (calls : List OrgCall) (c : OrgCall) :
    Closed (Calls.after call start calls) c ↔ Clean (Calls.after call start calls) c := by
  have hw : Watched (Calls.after call start calls) :=
    Calls.after_invariant watched_start (fun _ c h => h.call c) calls
  generalize Calls.after call start calls = o at hw
  have hlast : ∀ last ∈ o.lastApplied,
      o.org.membershipRevision = none ∨ o.org.membershipRevision = some last :=
    fun last hmem => hw.revision.imp_right fun h => h.trans hmem
  constructor
  · intro h
    refine ⟨fun hexp s hs => ?_, ?_⟩
    · obtain ⟨nowMs, rfl⟩ := eq_of_snapshot hs
      exact links_kept_iff.mp (call_org o _ ▸ h.links (hw.expired hexp) s hs)
    · rintro fact nowMs rfl hnone last hmem hstale
      have hkept := h.stale fact nowMs rfl last hmem hstale
      rw [call_org] at hkept
      exact (stale_fact_iff (hlast last hmem) hstale).mp hkept hnone
  · intro h
    refine ⟨fun hclosed => (hw.closed hclosed).failsClosed, fun hclosed s hs => ?_, ?_⟩
    · obtain ⟨nowMs, rfl⟩ := eq_of_snapshot hs
      rw [call_org]
      refine links_kept_iff.mpr fun hchanges => ?_
      obtain ⟨membership, hmem, henrol⟩ := hchanges.membership_enrolled
      exact h.expired ((hw.closed hclosed).expired membership hmem henrol) s hs hchanges
    · rintro fact nowMs rfl last hmem hstale
      rw [call_org]
      exact (stale_fact_iff (hlast last hmem) hstale).mpr fun hnone =>
        h.forgotten fact nowMs rfl hnone last hmem hstale

end Run

/-! ## An expired host -/

section Samples

attribute [local instance] sampleExternals sampleUuid

def sampleExpiry : MembershipFact where
  hostId := ⟨1⟩
  tenantId := sampleTenant
  accountId := sampleAccount
  status := .enrolled
  revision := 2
  revokedAtMs := none
  expiresAtMs := some 5

/-- The host joins, its membership expires, and a fact still links its task. -/
theorem expired_host_takes_link : ∃ calls c, ¬ Closed (Calls.after call start calls) c := by
  refine ⟨[.signIn sampleOwner,
    .confirmEnrollment sampleMembership samplePolicy 1,
    .applyAuthoritativeFact (.membership sampleExpiry) 5],
    .applyAuthoritativeFact (.managedTask sampleFact) 6, fun h => ?_⟩
  have hkept := h.links (by decide +kernel) sampleFact rfl
  have hcount := congrArg (fun r => r.byTask.size) hkept
  revert hcount
  decide +kernel

end Samples

end Overseen

end DevManager.Org
