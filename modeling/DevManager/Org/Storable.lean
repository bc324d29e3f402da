import DevManager.Org.Calls
import DevManager.Org.Stored

/-!
# What every state of an organization has

`Standing` is how the mode of the host, the state of its synchronization and its policy stand
to each other; `Storable` adds that each part of the projection is what its own entries
restore. Every call keeps both (`Storable.attempt`).
-/

namespace DevManager.Org

open Std (ExtTreeMap)

namespace OrganizationProjection

/-- The call changes the projection by its own operations only, and lends out none of its parts. -/
def OrgCall.Listed : OrgCall → Prop
  | .promptsMut _ | .localActionsMut _ => False
  | _ => True

variable {p p' : OrganizationProjection}

/-! ## What the calls keep -/

/-- How the mode of the host, the state of its synchronization, and its policy stand to each
other. -/
structure Standing (p : OrganizationProjection) : Prop where
  standalone : p.mode = .anonymousLocal ↔ p.syncState = .standalone
  signedIn : p.syncState = .signedIn → p.membership = none
  enrolled : p.syncState = .enrolled →
    ∃ membership, p.membership = some membership ∧ membership.isEnrolled = true ∧ p.policy ≠ none
  policy : ∀ policy, p.policy = some policy →
    ∃ membership, p.membership = some membership ∧ membership.isEnrolled = true ∧
      membership.policyRevision = policy.revision
  unlinked : p.mode = .anonymousLocal → p.links = .new

/-- What every state of a host has, so that its parts can be restored. -/
structure Storable [Externals] [UuidExternals] (p : OrganizationProjection) : Prop where
  standing : p.Standing
  accepted : ∀ snapshot ∈ p.prompts.acceptedSnapshot, snapshot.Acceptable
  snapshot : ∀ snapshot ∈ p.promptSnapshot, snapshot.Acceptable
  seen : p.seenFacts.size ≤ maxSeenFacts
  outbox : OutboxSound p.telemetryOutbox
  localActions : p.localActions.Sound
  evidence : p.evidence.Sound

theorem standing_standalone : standalone.Standing := by
  refine ⟨by decide, fun _ => rfl, fun h => ?_, fun policy h => ?_, fun _ => rfl⟩
  · cases h
  · cases h

theorem storable_standalone [Externals] [UuidExternals] : standalone.Storable := by
  refine ⟨standing_standalone, ?_, ?_, by decide, outboxSound_empty, LocalActionRegistry.sound_new,
    EvidenceIntake.sound_new⟩
  · nofun
  · nofun

theorem Standing.congr (h : p.Standing) (hmode : p'.mode = p.mode)
    (hsync : p'.syncState = p.syncState)
    (hpolicy : p'.policy = p.policy) (hlinks : p.mode ≠ .anonymousLocal ∨ p'.links = p.links) :
    p'.Standing := by
  have hmem : p'.membership = p.membership := by
    unfold OrganizationProjection.membership
    rw [hmode]
  refine ⟨?_, ?_, ?_, ?_, ?_⟩
  · rw [hmode, hsync]
    exact h.standalone
  · rw [hsync, hmem]
    exact h.signedIn
  · rw [hsync, hmem, hpolicy]
    exact h.enrolled
  · rw [hpolicy, hmem]
    exact h.policy
  · intro hanon
    rw [hmode] at hanon
    rcases hlinks with hnot | hsame
    · exact absurd hanon hnot
    · rw [hsame]
      exact h.unlinked hanon

variable {membership : HostMembership}

theorem mode_ne_of_requireEnrolled
    (h : p.requireEnrolled = .ok membership) : p.mode ≠ .anonymousLocal := by
  rw [(requireEnrolled_eq_ok.mp h).1]
  exact OperatingMode.noConfusion

/-! ## Signing in, enrolling and leaving -/

theorem Standing.signIn (h : p.Standing) (account) : (p.signIn account).Standing := by
  unfold OrganizationProjection.signIn
  by_cases hmem : ∃ membership ∈ p.membership, membership.isEnrolled = true
  · rw [if_pos hmem]
    exact h
  · rw [if_neg hmem]
    have hpolicy : p.policy = none := by
      cases hpolicy : p.policy with
      | none => rfl
      | some policy =>
        obtain ⟨membership, hmembership, henrol, -⟩ := h.policy policy hpolicy
        exact absurd ⟨membership, hmembership, henrol⟩ hmem
    refine ⟨?_, fun _ => rfl, ?_, ?_, ?_⟩
    · by_cases hended : p.syncState = .revoked ∨ p.syncState = .expired
      · rcases hended with hended | hended <;> simp [hended]
      · simp [hended]
    · intro hsync
      by_cases hended : p.syncState = .revoked ∨ p.syncState = .expired
      · rcases hended with hended | hended <;> simp [hended] at hsync
      · simp [hended] at hsync
    · intro policy hsome
      have hsome : p.policy = some policy := hsome
      rw [hpolicy] at hsome
      cases hsome
    · nofun

theorem Standing.left (membership) (nowMs : Int64) :
    (p.left membership nowMs).Standing := by
  refine ⟨?_, fun hsync => ?_, fun hsync => ?_, fun policy hsome => ?_, fun hanon => ?_⟩
  · simp [OrganizationProjection.left]
  · cases hsync
  · cases hsync
  · cases hsome
  · cases hanon

variable {policy : OrganizationPolicyDocument} {nowMs : Int64}

theorem confirmEnrollment_eq_ok {membership'}
    (h : p.confirmEnrollment membership policy nowMs = .ok (membership', p')) :
    membership'.isEnrolled = true ∧ membership'.policyRevision = policy.revision ∧
      p' = { p with
        policy := some policy
        mode := .hostEnrolled membership'
        membershipRevision := none
        membershipFactHash := none
        syncState := .enrolled
        authenticatedOnline := true
        evidence := p.evidence.bindTenant membership'.tenantId } := by
  simp only [confirmEnrollment, HostMembership.confirmLocally, ok_iff, not_or] at h
  obtain ⟨-, _, ⟨-, ⟨hrev, -⟩, rfl⟩, rfl, rfl⟩ := h
  exact ⟨by simp [HostMembership.isEnrolled], hrev, rfl⟩

theorem Standing.confirmed
    (hmode : p.mode = .hostEnrolled membership) (hsync : p.syncState = .enrolled)
    (henrol : membership.isEnrolled = true) (hpolicy : p.policy = some policy)
    (hrev : membership.policyRevision = policy.revision) : p.Standing := by
  have hmem : p.membership = some membership := membership_eq_some.mpr hmode
  refine ⟨by simp [hmode, hsync], fun h => ?_, fun _ => ?_, fun other hother => ?_, fun h => ?_⟩
  · rw [hsync] at h
    cases h
  · exact ⟨membership, hmem, henrol, by simp [hpolicy]⟩
  · rw [hpolicy] at hother
    cases hother
    exact ⟨membership, hmem, henrol, hrev⟩
  · rw [hmode] at h
    cases h

/-! ## Facts and policies of the portal -/

theorem Standing.expire (h : p.Standing) (hmode : p.mode ≠ .anonymousLocal) :
    p.expire.Standing := by
  refine ⟨?_, fun hsync => ?_, fun hsync => ?_, h.policy, fun hanon => absurd hanon hmode⟩
  · simp [OrganizationProjection.expire, hmode]
  · cases hsync
  · cases hsync

theorem Standing.revoke (hmode : p.mode ≠ .anonymousLocal) (revokedAtMs : Int64) :
    (p.revoke revokedAtMs).Standing := by
  have hmode' : (p.revoke revokedAtMs).mode ≠ .anonymousLocal := by
    unfold OrganizationProjection.revoke
    cases hp : p.mode with
    | anonymousLocal => exact absurd hp hmode
    | connectSignedIn account => simp
    | hostEnrolled membership => simp
  refine ⟨?_, fun hsync => ?_, fun hsync => ?_, fun policy hsome => ?_, fun hanon => ?_⟩
  · have hsync : (p.revoke revokedAtMs).syncState = .revoked := rfl
    simp [hmode', hsync]
  · cases hsync
  · cases hsync
  · cases hsome
  · exact absurd hanon hmode'

theorem Standing.setSync (h : p.Standing) (hmode : p.mode ≠ .anonymousLocal)
    (hnone : p.membership = none) {sync}
    (hsync : sync = .signedIn ∨ sync = .unlinked) : Standing { p with syncState := sync } := by
  refine ⟨?_, fun _ => hnone, fun henrol => ?_, h.policy, h.unlinked⟩
  · rcases hsync with rfl | rfl <;> simp [hmode]
  · rcases hsync with rfl | rfl <;> cases henrol

theorem Standing.afterFact (h : p.Standing) (hmode : p.mode ≠ .anonymousLocal) (fact)
    (nowMs : Int64) : (p.afterFact fact nowMs).Standing := by
  unfold OrganizationProjection.afterFact
  split_ifs with hexp
  · exact h.expire hmode
  · cases hmem : p.membership with
    | none =>
      cases fact.status with
      | revoked => exact Standing.revoke hmode _
      | unenrolled =>
        simp only [unenroll_of_none hmem]
        exact h.setSync hmode hmem (.inr rfl)
      | pendingLocalConfirm =>
        simp only [suspend_of_none hmem]
        exact h.setSync hmode hmem (.inl rfl)
      | enrolled =>
        simp only [acknowledge_of_none hmem]
        exact h.setSync hmode hmem (.inl rfl)
    | some membership =>
      cases fact.status with
      | revoked => exact Standing.revoke hmode _
      | unenrolled =>
        simp only [unenroll_of_some hmem]
        exact Standing.left membership nowMs
      | pendingLocalConfirm =>
        simp only [OrganizationProjection.suspend, membership_eq_some.mp hmem]
        refine ⟨by simp, fun hsync => ?_, fun hsync => ?_, fun policy hsome => ?_, fun hanon => ?_⟩
        · cases hsync
        · cases hsync
        · cases hsome
        · cases hanon
      | enrolled =>
        simp only [acknowledge_of_some hmem]
        exact h

/-! ## The parts -/

/-- The parts of the projection are what they were, or were cleared. -/
structure Cleared (p p' : OrganizationProjection) : Prop where
  prompts : p'.prompts = p.prompts ∨ p'.prompts = .new
  snapshot : p'.promptSnapshot = p.promptSnapshot ∨ p'.promptSnapshot = none
  seen : p'.seenFacts = p.seenFacts
  outbox : p'.telemetryOutbox = p.telemetryOutbox ∨ p'.telemetryOutbox = ∅
  localActions : p'.localActions = p.localActions
  evidence : p'.evidence.imported = p.evidence.imported ∧
      p'.evidence.trustedSigners = p.evidence.trustedSigners ∨ p'.evidence = .new

theorem Cleared.same (hprompt : p'.prompts = p.prompts)
    (hsnap : p'.promptSnapshot = p.promptSnapshot) (hseen : p'.seenFacts = p.seenFacts)
    (houtbox : p'.telemetryOutbox = p.telemetryOutbox) (hact : p'.localActions = p.localActions)
    (hevid : p'.evidence = p.evidence) : p.Cleared p' :=
  ⟨.inl hprompt, .inl hsnap, hseen, .inl houtbox, hact, .inl ⟨by rw [hevid], by rw [hevid]⟩⟩

variable (p)

theorem signIn_cleared (account) :
    p.Cleared (p.signIn account) := by
  unfold OrganizationProjection.signIn
  by_cases hmem : ∃ membership ∈ p.membership, membership.isEnrolled = true
  · rw [if_pos hmem]
    exact Cleared.same rfl rfl rfl rfl rfl rfl
  · rw [if_neg hmem]
    exact Cleared.same rfl rfl rfl rfl rfl rfl

theorem left_cleared (membership) (nowMs : Int64) :
    p.Cleared (p.left membership nowMs) :=
  ⟨.inr rfl, .inr rfl, rfl, .inr rfl, rfl, .inr rfl⟩

theorem afterFact_cleared (fact) (nowMs : Int64) :
    p.Cleared (p.afterFact fact nowMs) := by
  unfold OrganizationProjection.afterFact
  split_ifs with hexp
  · exact ⟨.inr rfl, .inl rfl, rfl, .inl rfl, rfl, .inl ⟨rfl, rfl⟩⟩
  · cases fact.status with
    | revoked => exact ⟨.inr rfl, .inl rfl, rfl, .inl rfl, rfl, .inl ⟨rfl, rfl⟩⟩
    | unenrolled =>
      cases hmem : p.membership with
      | none =>
        simp only [unenroll_of_none hmem]
        exact Cleared.same rfl rfl rfl rfl rfl rfl
      | some membership =>
        simp only [unenroll_of_some hmem]
        exact left_cleared p membership nowMs
    | pendingLocalConfirm =>
      cases hmem : p.membership with
      | none =>
        simp only [suspend_of_none hmem]
        exact Cleared.same rfl rfl rfl rfl rfl rfl
      | some membership =>
        simp only [OrganizationProjection.suspend, membership_eq_some.mp hmem]
        exact ⟨.inr rfl, .inr rfl, rfl, .inl rfl, rfl, .inl ⟨rfl, rfl⟩⟩
    | enrolled =>
      cases hmem : p.membership with
      | none =>
        simp only [acknowledge_of_none hmem]
        exact Cleared.same rfl rfl rfl rfl rfl rfl
      | some membership =>
        simp only [acknowledge_of_some hmem]
        exact Cleared.same rfl rfl rfl rfl rfl rfl

variable {p}

variable [Externals] [UuidExternals]

theorem Storable.cleared (hs : p.Storable) (hparts : p.Cleared p') (hstand : p'.Standing) :
    p'.Storable := by
  refine ⟨hstand, ?_, ?_, ?_, ?_, ?_, ?_⟩
  · rcases hparts.prompts with h | h <;> rw [h]
    · exact hs.accepted
    · nofun
  · rcases hparts.snapshot with h | h <;> rw [h]
    · exact hs.snapshot
    · nofun
  · rw [hparts.seen]
    exact hs.seen
  · rcases hparts.outbox with h | h <;> rw [h]
    · exact hs.outbox
    · exact outboxSound_empty
  · rw [hparts.localActions]
    exact hs.localActions
  · rcases hparts.evidence with ⟨himported, hsig⟩ | h
    · obtain ⟨h1, h2, h3⟩ := hs.evidence
      exact ⟨by rwa [himported], by rwa [hsig], by rwa [hsig]⟩
    · rw [h]
      exact EvidenceIntake.sound_new

section Kept

variable {outcome : SyncOutcome} (hs : p.Storable)

include hs

theorem Storable.applyAuthoritativeFact {fact}
    (h : p.applyAuthoritativeFact fact nowMs = .ok (outcome, p')) : p'.Storable := by
  simp only [OrganizationProjection.applyAuthoritativeFact, ok_iff] at h
  obtain ⟨hmode, h⟩ := h
  cases fact with
  | membership fact =>
    obtain ⟨-, -, ⟨-, -, -, rfl⟩ | ⟨-, -, -, rfl⟩⟩ := reconcileMembershipFact_eq_ok.mp h
    · exact hs
    · have hpost := hs.cleared (afterFact_cleared p fact nowMs)
        (hs.standing.afterFact hmode fact nowMs)
      exact hpost.cleared (Cleared.same rfl rfl rfl rfl rfl rfl)
        (hpost.standing.congr rfl rfl rfl (.inr rfl))
  | managedTask snapshot =>
    rcases applyManagedTask_eq_ok.mp h with ⟨-, -, rfl⟩ | ⟨hnew, hroom, _, _, -, -, rfl⟩
    · exact hs
    · refine ⟨hs.standing.congr rfl rfl rfl (.inl hmode), hs.accepted, hs.snapshot, ?_, hs.outbox,
        hs.localActions, hs.evidence⟩
      exact OrdMap.size_insert_bounded hs.seen (.inl hroom)

theorem Storable.applyPolicyDocument
    (h : p.applyPolicyDocument policy = .ok (outcome, p')) : p'.Storable := by
  obtain ⟨membership, hreq, -, -, rfl | rfl⟩ := applyPolicyDocument_eq_ok h
  · exact hs
  · obtain ⟨hmode, hsync⟩ := requireEnrolled_eq_ok.mp hreq
    have hmembership := membership_eq_some.mpr hmode
    have henrol : p.syncState = .enrolled := by
      rcases hsync with hsync | hsync
      · rw [hs.standing.signedIn hsync] at hmembership
        cases hmembership
      · exact hsync
    obtain ⟨member, hmem, hstatus, -⟩ := hs.standing.enrolled henrol
    rw [hmembership] at hmem
    cases hmem
    refine hs.cleared (Cleared.same rfl rfl rfl rfl rfl rfl) ?_
    exact Standing.confirmed (p := p.adopt membership policy) rfl henrol hstatus rfl rfl

theorem Storable.applyPromptSnapshot {snapshot entitlementExpiresAtMs}
    (h : p.applyPromptSnapshot snapshot nowMs entitlementExpiresAtMs = .ok (outcome, p')) :
    p'.Storable := by
  simp only [OrganizationProjection.applyPromptSnapshot, ok_iff] at h
  obtain ⟨membership, hreq, ⟨_, prompts⟩, happly, rfl, rfl⟩ := h
  obtain ⟨hacc, hprompt⟩ :=
    OrganizationPromptProjection.applyAuthoritativeSnapshot_acceptable hs.accepted happly
  have hmode := mode_ne_of_requireEnrolled hreq
  refine ⟨hs.standing.congr rfl rfl rfl (.inr rfl), ?_, ?_, hs.seen, hs.outbox, hs.localActions,
    hs.evidence⟩
  · rcases hprompt with rfl | hprompt
    · exact hs.accepted
    · intro other hother
      rw [hprompt] at hother
      cases hother
      exact hacc
  · intro other hother
    cases hother
    exact hacc

theorem Storable.onLocalActions {α : Type} {a : α}
    {operation : HostMembership → LocalActionRegistry → Except OrgError (α × LocalActionRegistry)}
    (hop : ∀ membership r', operation membership p.localActions = .ok (a, r') → r'.Sound)
    (h : p.onLocalActions operation = .ok (a, p')) : p'.Storable := by
  simp only [OrganizationProjection.onLocalActions, ok_iff] at h
  obtain ⟨membership, -, ⟨_, r'⟩, happly, rfl, rfl⟩ := h
  exact ⟨hs.standing.congr rfl rfl rfl (.inr rfl), hs.accepted, hs.snapshot, hs.seen, hs.outbox,
    hop membership r' happly, hs.evidence⟩

theorem Storable.setOutbox {outbox}
    (houtbox : OutboxSound outbox) : Storable { p with telemetryOutbox := outbox } :=
  ⟨hs.standing.congr rfl rfl rfl (.inr rfl), hs.accepted, hs.snapshot, hs.seen, houtbox,
    hs.localActions, hs.evidence⟩

theorem Storable.setEvidence {evidence}
    (hevid : evidence.Sound) : Storable { p with evidence } :=
  ⟨hs.standing.congr rfl rfl rfl (.inr rfl), hs.accepted, hs.snapshot, hs.seen, hs.outbox,
    hs.localActions, hevid⟩

variable {intent : PersistedOutboxIntent}

theorem Storable.queueOutboxIntent
    (h : p.queueOutboxIntent intent = .ok (outcome, p')) : p'.Storable := by
  simp only [OrganizationProjection.queueOutboxIntent, ok_iff] at h
  obtain ⟨hvalid, h⟩ := h
  cases hstored : p.telemetryOutbox[intent.observationIdHex]? with
  | none =>
    simp only [hstored, ok_iff] at h
    obtain ⟨_, -, -, rfl⟩ := h
    exact hs.setOutbox (hs.outbox.insert rfl hvalid)
  | some existing =>
    simp only [hstored] at h
    split_ifs at h
    cases h
    exact hs

theorem Storable.setDelivery {id} (hstored : p.telemetryOutbox[id]? = some intent) (delivery) :
    (p.setDelivery intent id delivery).Storable := by
  obtain ⟨hid, hvalid⟩ := hs.outbox id intent hstored
  exact hs.setOutbox (hs.outbox.insert hid hvalid)

theorem Storable.acknowledgeOutboxIntent {id}
    (h : p.acknowledgeOutboxIntent id = .ok (outcome, p')) : p'.Storable := by
  simp only [OrganizationProjection.acknowledgeOutboxIntent, ok_iff] at h
  obtain ⟨intent, hstored, h⟩ := h
  split_ifs at h
  · cases h
    exact hs
  · cases h
    exact hs.setDelivery hstored _

theorem Storable.markOutboxUncertain {id}
    (h : p.markOutboxUncertain id = .ok (outcome, p')) : p'.Storable := by
  simp only [OrganizationProjection.markOutboxUncertain, bind_eq_ok, okOr_eq_ok] at h
  obtain ⟨intent, hstored, _, -, h⟩ := h
  split_ifs at h
  · cases h
    exact hs
  · cases h
    exact hs.setDelivery hstored _

theorem Storable.attempt {c reply} (hlisted : c.Listed)
    (h : p.attempt c = .ok (reply, p')) : p'.Storable := by
  cases c with
  | promptsMut | localActionsMut => exact hlisted.elim
  | signIn account =>
    cases h
    exact hs.cleared (signIn_cleared p account) (hs.standing.signIn account)
  | confirmEnrollment =>
    obtain ⟨-, membership, h⟩ := done_eq_ok.mp h
    obtain ⟨henrol, hrev, rfl⟩ := confirmEnrollment_eq_ok h
    refine hs.cleared ?_ (Standing.confirmed rfl rfl henrol rfl hrev)
    exact ⟨.inl rfl, .inl rfl, rfl, .inl rfl, rfl, .inl ⟨rfl, rfl⟩⟩
  | unenrollOffline nowMs =>
    obtain ⟨_, hleft, hp⟩ := map_eq_ok.mp h
    cases hp
    obtain ⟨membership, -, rfl⟩ := unenrollOffline_eq_ok.mp hleft
    exact hs.cleared (left_cleared p membership nowMs) (Standing.left membership nowMs)
  | applyAuthoritativeFact =>
    obtain ⟨_, -, h⟩ := replied_eq_ok.mp h
    exact hs.applyAuthoritativeFact h
  | applyPromptSnapshot =>
    obtain ⟨_, -, h⟩ := replied_eq_ok.mp h
    exact hs.applyPromptSnapshot h
  | applyPolicyDocument =>
    obtain ⟨_, -, h⟩ := replied_eq_ok.mp h
    exact hs.applyPolicyDocument h
  | linksMut =>
    obtain ⟨links, hlinks, hp⟩ := map_eq_ok.mp h
    obtain ⟨membership, hreq, rfl⟩ := map_eq_ok.mp hlinks
    cases hp
    exact hs.cleared (Cleared.same rfl rfl rfl rfl rfl rfl)
      (hs.standing.congr rfl rfl rfl (.inl (mode_ne_of_requireEnrolled hreq)))
  | setAuthenticatedOnline =>
    cases h
    exact hs.cleared (Cleared.same rfl rfl rfl rfl rfl rfl)
      (hs.standing.congr rfl rfl rfl (.inr rfl))
  | bindLocalActionCatalog =>
    obtain ⟨-, _, h⟩ := done_eq_ok.mp h
    refine hs.onLocalActions (fun _ r' hbind => ?_) h
    obtain ⟨_, hbind, hr⟩ := map_eq_ok.mp hbind
    cases hr
    exact hs.localActions.bindServerCatalog hbind
  | admitLocalAction =>
    obtain ⟨-, _, h⟩ := done_eq_ok.mp h
    exact hs.onLocalActions (fun _ _ hadmits => hs.localActions.admitWithState hadmits) h
  | markLocalActionUncertain =>
    obtain ⟨-, _, h⟩ := done_eq_ok.mp h
    exact hs.onLocalActions (fun _ _ hmark => hs.localActions.markUncertain hmark) h
  | reconcileLocalActionState =>
    obtain ⟨_, -, h⟩ := replied_eq_ok.mp h
    exact hs.onLocalActions (fun _ _ hmark => hs.localActions.reconcileRemoteState hmark) h
  | ingestEvidence =>
    obtain ⟨-, _, h⟩ := done_eq_ok.mp h
    simp only [ingestEvidence, ok_iff] at h
    obtain ⟨_, -, ⟨_, evidence⟩, hingest, -, rfl⟩ := h
    exact hs.setEvidence (hs.evidence.ingestForTenant hingest)
  | trustEvidenceSigner =>
    obtain ⟨-, _, h⟩ := done_eq_ok.mp h
    simp only [trustEvidenceSigner, ok_iff] at h
    obtain ⟨_, -, evidence, htrust, -, rfl⟩ := h
    exact hs.setEvidence (hs.evidence.trustSigner htrust)
  | authorizeEvidenceE2eRaw =>
    obtain ⟨-, _, h⟩ := done_eq_ok.mp h
    simp only [authorizeEvidenceE2eRaw, ok_iff] at h
    obtain ⟨_, -, -, rfl⟩ := h
    exact hs.setEvidence ⟨hs.evidence.imported, hs.evidence.signers, hs.evidence.signersBounded⟩
  | queueOutboxIntent =>
    obtain ⟨_, -, h⟩ := replied_eq_ok.mp h
    exact hs.queueOutboxIntent h
  | acknowledgeOutboxIntent =>
    obtain ⟨_, -, h⟩ := replied_eq_ok.mp h
    exact hs.acknowledgeOutboxIntent h
  | markOutboxUncertain =>
    obtain ⟨_, -, h⟩ := replied_eq_ok.mp h
    exact hs.markOutboxUncertain h

end Kept

end OrganizationProjection

end DevManager.Org
