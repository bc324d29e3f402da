import DevManager.Org.Projection

/-!
# What the calls of the organization projection do

One lemma for each way a projection changes: what the facts of the portal leave
(`reconcileMembershipFact_eq_ok`, `applyManagedTask_eq_ok`), and what every call that brings
no membership leaves as it is (`attempt_frame`).
-/

namespace DevManager.Org

namespace OrganizationProjection

section Answers

variable {p p' : OrganizationProjection} {reply : OrgReply}

theorem done_eq_ok {α : Type} {answer : Except OrgError (α × OrganizationProjection)} :
    done answer = .ok (reply, p') ↔ reply = .done ∧ ∃ a, answer = .ok (a, p') := by
  rcases answer with e | ⟨a, p''⟩
  · simp [done, Except.map]
  · simp [done, Except.map, eq_comm]

theorem replied_eq_ok {answer : Except OrgError (SyncOutcome × OrganizationProjection)} :
    replied answer = .ok (reply, p') ↔
      ∃ outcome, reply = .outcome outcome ∧ answer = .ok (outcome, p') := by
  rcases answer with e | ⟨a, p''⟩
  · simp [replied, Except.map]
  · simp [replied, Except.map, eq_comm]

variable {membership : HostMembership}

theorem requireEnrolled_eq_ok :
    p.requireEnrolled = .ok membership ↔
      p.mode = .hostEnrolled membership ∧ (p.syncState = .signedIn ∨ p.syncState = .enrolled) := by
  unfold requireEnrolled OrganizationProjection.membership
  cases p.mode <;> cases p.syncState <;> simp [okOr, failIf, bind, Except.bind]

theorem membership_eq_some :
    p.membership = some membership ↔ p.mode = .hostEnrolled membership := by
  unfold OrganizationProjection.membership
  cases p.mode <;> simp

theorem unenrollOffline_eq_ok {nowMs : Int64} :
    p.unenrollOffline nowMs = .ok p' ↔
      ∃ membership, p.mode = .hostEnrolled membership ∧ p' = p.left membership nowMs := by
  unfold unenrollOffline
  cases p.mode <;> simp [eq_comm]

theorem unenroll_of_none (h : p.membership = none) (nowMs : Int64) :
    p.unenroll nowMs = { p with syncState := .unlinked } := by
  unfold unenroll
  unfold OrganizationProjection.membership at h
  cases hmode : p.mode <;> simp_all

theorem unenroll_of_some (h : p.membership = some membership)
    (nowMs : Int64) : p.unenroll nowMs = p.left membership nowMs := by
  rw [unenroll, membership_eq_some.mp h]

theorem suspend_of_none (h : p.membership = none) : p.suspend =
    { p with syncState := .signedIn } := by
  unfold suspend
  unfold OrganizationProjection.membership at h
  cases hmode : p.mode <;> simp_all

theorem acknowledge_of_none (h : p.membership = none) :
    p.acknowledge = { p with syncState := .signedIn } := by
  unfold acknowledge
  unfold OrganizationProjection.membership at h
  cases hmode : p.mode <;> simp_all

theorem acknowledge_of_some (h : p.membership = some membership) : p.acknowledge = p := by
  rw [acknowledge, membership_eq_some.mp h]

theorem applyPolicyDocument_eq_ok {policy outcome}
    (h : p.applyPolicyDocument policy = .ok (outcome, p')) :
    ∃ membership, p.requireEnrolled = .ok membership ∧ membership.tenantId = policy.tenantId ∧
      policy.revision ≠ 0 ∧ (p' = p ∨ p' = p.adopt membership policy) := by
  simp only [applyPolicyDocument, ok_iff] at h
  obtain ⟨membership, hreq, htenant, hrev, h⟩ := h
  refine ⟨membership, hreq, htenant, hrev, ?_⟩
  cases hpolicy : p.policy with
  | none =>
    simp only [hpolicy, Except.ok.injEq, Prod.mk.injEq] at h
    exact .inr h.2.symm
  | some current =>
    simp only [hpolicy, ok_iff] at h
    obtain ⟨-, h⟩ := h
    split_ifs at h
    · exact .inl (Prod.mk.inj (Except.ok.inj h)).2.symm
    · exact .inr (Prod.mk.inj (Except.ok.inj h)).2.symm

end Answers

/-! ## What other calls leave alone -/

/-- The call changes the membership or its links: it signs in, confirms, leaves or brings a fact. -/
def OrgCall.Enrolling : OrgCall → Prop
  | .signIn _ | .confirmEnrollment _ _ _ | .unenrollOffline _ | .applyAuthoritativeFact _ _ => True
  | _ => False

/-- The same mode, but for the policy of the membership. -/
def SameStanding : OperatingMode → OperatingMode → Prop
  | .hostEnrolled membership, .hostEnrolled membership' =>
    membership' = { membership with
      policyRevision := membership'.policyRevision, policyHashHex := membership'.policyHashHex }
  | mode, mode' => mode' = mode

theorem SameStanding.refl (mode) : SameStanding mode mode := by
  cases mode <;> simp [SameStanding]

/-- What a call that does not change the membership leaves as it is. -/
structure Frame [Externals] [UuidExternals] (p p' : OrganizationProjection) : Prop where
  sync : p'.syncState = p.syncState
  standing : SameStanding p.mode p'.mode
  seen : p'.seenFacts = p.seenFacts
  revision : p'.membershipRevision = p.membershipRevision
  links : p'.links = p.links ∨
    ∃ change membership, p.requireEnrolled = .ok membership ∧ p'.links = (p.links.call change).2

variable [Externals] [UuidExternals] {p p' : OrganizationProjection} {c : OrgCall}
    {reply : OrgReply}

theorem Frame.of_eq (hmode : p'.mode = p.mode) (hsync : p'.syncState = p.syncState)
    (hseen : p'.seenFacts = p.seenFacts) (hrev : p'.membershipRevision = p.membershipRevision)
    (hlinks : p'.links = p.links) : Frame p p' :=
  ⟨hsync, hmode ▸ SameStanding.refl p.mode, hseen, hrev, .inl hlinks⟩

theorem Frame.membership_none (h : Frame p p') : p'.membership = none ↔ p.membership = none := by
  have hstand := h.standing
  unfold OrganizationProjection.membership
  generalize p.mode = mode at hstand ⊢
  generalize p'.mode = mode' at hstand ⊢
  cases mode with
  | hostEnrolled =>
    cases mode' with
    | hostEnrolled => simp
    | anonymousLocal => cases hstand
    | connectSignedIn => cases hstand
  | anonymousLocal | connectSignedIn =>
    cases hstand
    rfl

theorem onLocalActions_frame {α : Type} {a : α}
    {operation : HostMembership → LocalActionRegistry → Except OrgError (α × LocalActionRegistry)}
    (h : p.onLocalActions operation = .ok (a, p')) : Frame p p' := by
  simp only [onLocalActions, ok_iff] at h
  obtain ⟨_, -, _, -, -, rfl⟩ := h
  exact Frame.of_eq rfl rfl rfl rfl rfl

theorem attempt_frame (hc : ¬ c.Enrolling) (h : p.attempt c = .ok (reply, p')) : Frame p p' := by
  cases c with
  | signIn | confirmEnrollment | unenrollOffline | applyAuthoritativeFact => exact absurd trivial hc
  | applyPromptSnapshot =>
    obtain ⟨_, -, h⟩ := replied_eq_ok.mp h
    simp only [applyPromptSnapshot, ok_iff] at h
    obtain ⟨_, -, _, -, -, rfl⟩ := h
    exact Frame.of_eq rfl rfl rfl rfl rfl
  | applyPolicyDocument policy =>
    obtain ⟨_, -, h⟩ := replied_eq_ok.mp h
    obtain ⟨membership, hreq, -, -, rfl | rfl⟩ := applyPolicyDocument_eq_ok h
    · exact Frame.of_eq rfl rfl rfl rfl rfl
    · refine ⟨rfl, ?_, rfl, rfl, .inl rfl⟩
      rw [(requireEnrolled_eq_ok.mp hreq).1]
      rfl
  | linksMut change =>
    obtain ⟨links, hlinks, hp⟩ := map_eq_ok.mp h
    obtain ⟨membership, hreq, rfl⟩ := map_eq_ok.mp hlinks
    cases hp
    exact ⟨rfl, SameStanding.refl p.mode, rfl, rfl, .inr ⟨change, membership, hreq, rfl⟩⟩
  | promptsMut =>
    obtain ⟨prompts, hprompt, hp⟩ := map_eq_ok.mp h
    cases hp
    exact Frame.of_eq rfl rfl rfl rfl rfl
  | localActionsMut | setAuthenticatedOnline =>
    cases h
    exact Frame.of_eq rfl rfl rfl rfl rfl
  | bindLocalActionCatalog | admitLocalAction | markLocalActionUncertain =>
    obtain ⟨-, _, h⟩ := done_eq_ok.mp h
    exact onLocalActions_frame h
  | reconcileLocalActionState =>
    obtain ⟨_, -, h⟩ := replied_eq_ok.mp h
    exact onLocalActions_frame h
  | ingestEvidence | trustEvidenceSigner =>
    obtain ⟨-, _, h⟩ := done_eq_ok.mp h
    simp only [ingestEvidence, trustEvidenceSigner, ok_iff] at h
    obtain ⟨_, -, _, -, -, rfl⟩ := h
    exact Frame.of_eq rfl rfl rfl rfl rfl
  | authorizeEvidenceE2eRaw =>
    obtain ⟨-, _, h⟩ := done_eq_ok.mp h
    simp only [authorizeEvidenceE2eRaw, ok_iff] at h
    obtain ⟨_, -, -, rfl⟩ := h
    exact Frame.of_eq rfl rfl rfl rfl rfl
  | queueOutboxIntent intent =>
    obtain ⟨_, -, h⟩ := replied_eq_ok.mp h
    simp only [queueOutboxIntent, ok_iff] at h
    obtain ⟨-, h⟩ := h
    cases hstored : p.telemetryOutbox[intent.observationIdHex]? with
    | none =>
      simp only [hstored, ok_iff] at h
      obtain ⟨_, -, -, rfl⟩ := h
      exact Frame.of_eq rfl rfl rfl rfl rfl
    | some existing =>
      simp only [hstored] at h
      split_ifs at h
      cases h
      exact Frame.of_eq rfl rfl rfl rfl rfl
  | acknowledgeOutboxIntent =>
    obtain ⟨_, -, h⟩ := replied_eq_ok.mp h
    simp only [acknowledgeOutboxIntent, bind_eq_ok] at h
    obtain ⟨_, -, h⟩ := h
    split_ifs at h <;> cases h <;> exact Frame.of_eq rfl rfl rfl rfl rfl
  | markOutboxUncertain =>
    obtain ⟨_, -, h⟩ := replied_eq_ok.mp h
    simp only [markOutboxUncertain, bind_eq_ok] at h
    obtain ⟨_, -, _, -, h⟩ := h
    split_ifs at h <;> cases h <;> exact Frame.of_eq rfl rfl rfl rfl rfl

/-! ## Facts of the portal -/

omit [Externals] [UuidExternals] in
theorem applyMembershipFact_eq_ok {fact nowMs} :
    p.applyMembershipFact fact nowMs = .ok p' ↔ p.Concerns fact ∧ p' = p.afterFact fact nowMs := by
  simp only [applyMembershipFact, ok_iff]

theorem reconcileMembershipFact_eq_ok {fact nowMs outcome} :
    p.reconcileMembershipFact fact nowMs = .ok (outcome, p') ↔
      fact.revision ≠ 0 ∧ (∀ current ∈ p.membershipRevision, current ≤ fact.revision) ∧
        ((p.membershipRevision = some fact.revision ∧ p.membershipFactHash = some fact.hash ∧
            outcome = .duplicate ∧ p' = p) ∨
          (p.membershipRevision ≠ some fact.revision ∧ p.Concerns fact ∧ outcome = .applied ∧
            p' = { p.afterFact fact nowMs with
              membershipRevision := some fact.revision, membershipFactHash :=
                some fact.hash })) := by
  simp only [reconcileMembershipFact, ok_iff, not_exists, not_and, not_lt, ne_eq]
  refine and_congr_right fun _ => and_congr_right fun _ => ?_
  by_cases hrev : p.membershipRevision = some fact.revision
  · rw [if_pos hrev]
    split_ifs with hhash
    · simp [hrev, hhash, eq_comm]
    · simp [hrev, hhash]
  · rw [if_neg hrev]
    simp only [ok_iff, applyMembershipFact_eq_ok, hrev, false_and, false_or, not_false_eq_true,
      true_and]
    constructor
    · rintro ⟨_, ⟨hconcerns, rfl⟩, hout, hp⟩
      exact ⟨hconcerns, hout, hp⟩
    · rintro ⟨hconcerns, hout, hp⟩
      exact ⟨_, ⟨hconcerns, rfl⟩, hout, hp⟩

theorem applyManagedTask_eq_ok {snapshot outcome} :
    p.applyManagedTask snapshot = .ok (outcome, p') ↔
      (p.seenFacts[snapshot.seenKey]? = some snapshot.identityHash ∧ outcome = .duplicate ∧
        p' = p) ∨
      (p.seenFacts[snapshot.seenKey]? = none ∧ p.seenFacts.size < maxSeenFacts ∧
        ∃ membership links, p.membership = some membership ∧
          p.links.applyPortalSnapshot membership snapshot = .ok (outcome, links) ∧
          p' = { p with
            links
            seenFacts := p.seenFacts.insert snapshot.seenKey snapshot.identityHash }) := by
  unfold applyManagedTask
  cases hseen : p.seenFacts[snapshot.seenKey]? with
  | some existing =>
    by_cases hhash : existing = snapshot.identityHash
    · simp [hhash, eq_comm]
    · simp [hhash]
  | none =>
    simp only [ok_iff, not_le, reduceCtorEq, false_and, false_or, true_and]
    refine and_congr_right fun _ => ?_
    constructor
    · rintro ⟨membership, hmem, ⟨_, links⟩, hlinks, rfl, hp⟩
      exact ⟨membership, links, hmem, hlinks, hp⟩
    · rintro ⟨membership, links, hmem, hlinks, hp⟩
      exact ⟨membership, hmem, ⟨outcome, links⟩, hlinks, rfl, hp⟩

end OrganizationProjection
end DevManager.Org
