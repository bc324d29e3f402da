import DevManager.Org.SeenFacts
import DevManager.Org.Storable

/-!
# An organization survives a restart iff its state can be restored

The exporter writes every state that a host comes to. What is restored of the document is the
state of the host iff the state is `Restorable` (`state_survives_iff`). The live operations do
not keep the conditions of that structure: a host that signs in after it was revoked is not
restored (`revoked_sign_in_is_lost`).
-/

namespace DevManager.Org

open Std (ExtTreeMap)

namespace OrganizationProjection

open OrganizationStateDocument (checkEnrolled checkIntent checkMembership checkPolicy evidenceTenant
  membershipHash reapply restore restoreAccount restoreIntent restoreMode restoreSeenFact
  validateDocument)

variable {p p' : OrganizationProjection}

/-- What is restored is what the host was. -/
structure Survived (p p' : OrganizationProjection) : Prop where
  mode : p'.mode = p.mode
  syncState : p'.syncState = p.syncState
  policy : p'.policy = p.policy
  membershipRevision : p'.membershipRevision = p.membershipRevision
  membershipFactHash : p'.membershipFactHash = p.membershipFactHash
  seenFacts : p'.seenFacts = p.seenFacts
  links : p'.links = p.links
  localActions : p'.localActions = p.localActions
  imported : p'.evidence.imported = p.evidence.imported
  trustedSigners : p'.evidence.trustedSigners = p.evidence.trustedSigners
  telemetryOutbox : p'.telemetryOutbox = p.telemetryOutbox

variable (p)

/-- The stored links are those of the membership. -/
def Owned : Prop :=
  ∀ membership ∈ p.membership, ∀ link ∈ p.links.links,
    link.tenantId = membership.tenantId ∧ link.hostId = membership.hostId

/-- The policy is that of the tenant of the membership. -/
def OneTenant : Prop :=
  ∀ membership ∈ p.membership, ∀ policy ∈ p.policy, membership.tenantId = policy.tenantId

variable {p}

/-- The state can be restored: a host that was unlinked, revoked or expired still has its
membership, the policy and the links are those of the membership, the links are one-to-one, the
prompts can be read by an enrolled member and bring what they speak of, and the bundles are no
more than a restart takes. -/
structure Restorable (p : OrganizationProjection) : Prop where
  member : p.syncState = .unlinked ∨ p.syncState = .revoked ∨ p.syncState = .expired →
    p.membership ≠ none
  oneTenant : p.OneTenant
  links : p.links.Sound
  owned : p.syncState = .enrolled → p.Owned
  prompts : ∀ snapshot ∈ p.promptSnapshot, p.syncState = .enrolled ∧ snapshot.SelfContained ∧
    ∀ membership ∈ p.membership,
      membership.role.canReadPublished = true ∧ membership.tenantId = snapshot.tenantId
  evidence : p.evidence.imported.size ≤ maxEvidenceLabels * 8

/-! ## The document of a state -/

variable (p)

/-- The tenant that the document names. -/
def tenant : Option PortalTenantId :=
  (p.membership.map HostMembership.tenantId).or (p.signedInAccount.map ExternalAccount.tenantId)

/-- The account that the document names. -/
def account : Option PortalAccountId :=
  (p.membership.map HostMembership.accountId).or (p.signedInAccount.map ExternalAccount.accountId)

variable {p}

theorem document_tenantId : p.document.tenantId = p.tenant.map ExternalId.value := by
  simp only [document, tenant, Option.map_or, Option.map_map]
  rfl

theorem document_accountId : p.document.accountId = p.account.map ExternalId.value := by
  simp only [document, account, Option.map_or, Option.map_map]
  rfl

theorem document_evidenceTenant : p.document.evidenceTenant = .ok p.tenant := by
  unfold evidenceTenant
  rw [document_tenantId]
  cases p.tenant with
  | none => rfl
  | some tenantId =>
    simp only [Option.map_some, ExternalId.parse_value]
    rfl

theorem document_membershipHash : p.document.membershipHash = .ok p.membershipFactHash := by
  have hhash : p.document.membershipFactHash = p.membershipFactHash.map hexOfDigest := rfl
  unfold membershipHash
  rw [hhash]
  cases p.membershipFactHash with
  | none => rfl
  | some hash =>
    simp only [Option.map_some, decodeHash32_hexOfDigest]
    rfl

theorem document_seenFacts :
    p.document.seenFacts.foldlM restoreSeenFact ∅ = .ok p.seenFacts := by
  have hstored : p.document.seenFacts =
      p.seenFacts.toList.map fun e => (⟨e.1, hexOfDigest e.2⟩ : PersistedSeenFact) := rfl
  rw [hstored]
  refine OrdMap.foldlM_insert_toList id _ fun key hash _ seenFacts hfresh => ?_
  simp only [restoreSeenFact, decodeHash32_hexOfDigest, ok_bind, ok_iff,
    id_eq, hfresh, not_false_eq_true, true_and]

theorem exportState_eq_ok {document} :
    p.exportState = .ok document ↔
      p.telemetryOutbox.size ≤ maxOrganizationOutboxIntents ∧ document = p.document := by
  simp only [exportState, ok_iff, not_lt]

/-! ## The checks of the document -/

theorem checkPolicy_iff (hs : p.Standing) {membership} {policy}
    (hmembership : p.membership = some membership) (hpolicy : p.policy = some policy) :
    p.document.checkPolicy membership policy = .ok () ↔ membership.tenantId = policy.tenantId := by
  obtain ⟨member, hmem, -, hrev⟩ := hs.policy policy hpolicy
  rw [hmembership] at hmem
  cases hmem
  have htenant : p.document.tenantId = some membership.tenantId.value := by
    simp [document, hmembership]
  have hhost : p.document.hostId = some (.v7 membership.hostId) := by
    simp [document, hmembership]
  simp only [checkPolicy, ok_iff, htenant, hhost, hrev]
  simp

theorem checkMembership_iff (hs : p.Standing) :
    p.document.checkMembership = .ok () ↔ p.OneTenant := by
  have hdocMembership : p.document.membership = p.membership := rfl
  have hdoc : p.document.policy = p.policy := rfl
  unfold checkMembership OneTenant
  rw [hdocMembership, hdoc]
  cases hmem : p.membership with
  | none => simp
  | some membership =>
    cases hpolicy : p.policy with
    | none => simp
    | some policy => simpa using checkPolicy_iff hs hmem hpolicy

theorem checkEnrolled_iff (hs : p.Standing) (hsync : p.syncState = .enrolled) :
    p.document.checkEnrolled = .ok () ↔ p.Owned := by
  obtain ⟨membership, hmem, henrol, hpolicy⟩ := hs.enrolled hsync
  have hdocMembership : p.document.membership = some membership := hmem
  have hdoc : p.document.policy ≠ none := hpolicy
  have hlinks : p.document.managedLinks = p.links.links := rfl
  simp only [checkEnrolled, ok_iff, hdocMembership, Option.some.injEq, exists_eq_left', henrol,
    hdoc, hlinks, forM_eq_ok, Owned, hmem, Option.mem_def, Bool.true_eq_false, not_false_eq_true,
    true_and, forall_eq']

theorem document_ids (p : OrganizationProjection) : (¬ ∃ tenantId ∈ p.document.tenantId,
      (ExternalId.parse tenantId : Option PortalTenantId) = none) ∧
    ¬ ∃ accountId ∈ p.document.accountId,
      (ExternalId.parse accountId : Option PortalAccountId) = none := by
  rw [document_tenantId, document_accountId]
  refine ⟨?_, ?_⟩
  · rintro ⟨tenantId, hmem, hnone⟩
    obtain ⟨tenant, -, rfl⟩ := Option.mem_map.mp hmem
    rw [ExternalId.parse_value] at hnone
    cases hnone
  · rintro ⟨accountId, hmem, hnone⟩
    obtain ⟨account, -, rfl⟩ := Option.mem_map.mp hmem
    rw [ExternalId.parse_value] at hnone
    cases hnone

theorem document_standalone (hs : p.Standing) :
    ¬ (p.document.syncState = .standalone ∧
      (p.document.membership ≠ none ∨ p.document.managedLinks ≠ [])) := by
  rintro ⟨hsync, h⟩
  have hmode : p.mode = .anonymousLocal := hs.standalone.mpr hsync
  rcases h with h | h
  · exact h (by simp [document, OrganizationProjection.membership, hmode])
  · have hlinks : p.document.managedLinks = p.links.links := rfl
    rw [hlinks, hs.unlinked hmode] at h
    exact h rfl

theorem restoreAccount_document {account} (hmode : p.mode = .connectSignedIn account) :
    p.document.restoreAccount = .ok account := by
  obtain ⟨tenantId, accountId, deviceId⟩ := account
  have htenant : p.document.tenantId = some tenantId.value := by
    simp [document, OrganizationProjection.membership, signedInAccount, hmode]
  have hacc : p.document.accountId = some accountId.value := by
    simp [document, OrganizationProjection.membership, signedInAccount, hmode]
  have hdevice : p.document.deviceId = deviceId.map ExternalId.value := by
    simp [document, OrganizationProjection.membership, signedInAccount, hmode]
  unfold restoreAccount
  simp only [htenant, hacc, hdevice, okOr_some, ok_bind, ExternalId.parse_value]
  cases deviceId with
  | none => rfl
  | some deviceId =>
    simp only [Option.map_some, ExternalId.parse_value, okOr_some, ok_bind]
    rfl

theorem restoreMode_iff (hs : p.Standing) {mode} :
    p.document.restoreMode = .ok mode ↔
      (p.syncState = .unlinked ∨ p.syncState = .revoked ∨ p.syncState = .expired →
        p.membership ≠ none) ∧ mode = p.mode := by
  have hsync : p.document.syncState = p.syncState := rfl
  have hdoc : p.document.membership = p.membership := rfl
  -- The branch of a host with a membership, whatever its state.
  have hmem : (do
      let membership ← okOr p.document.membership .corruptState
      failIf (∃ hostId ∈ p.document.hostId, .v7 membership.hostId ≠ hostId)
        OrgError.corruptState
      return OperatingMode.hostEnrolled membership : Except OrgError OperatingMode) = .ok mode ↔
        p.membership ≠ none ∧ mode = p.mode := by
    simp only [ok_iff, hdoc]
    cases hmembership : p.membership with
    | none => simp
    | some membership =>
      have hhost : p.document.hostId = some (.v7 membership.hostId) := by
        simp [document, hmembership]
      simp [hhost, membership_eq_some.mp hmembership]
  unfold restoreMode
  rw [hsync]
  cases h : p.syncState with
  | standalone =>
    have hmode := hs.standalone.mpr h
    simp [hmode, eq_comm]
  | signedIn =>
    have hnone := hs.signedIn h
    cases hmode : p.mode with
    | anonymousLocal =>
      rw [hs.standalone.mp hmode] at h
      cases h
    | connectSignedIn account =>
      simp only [restoreAccount_document hmode, map_eq_ok, Except.ok.injEq, exists_eq_left']
      simp
    | hostEnrolled membership =>
      rw [membership_eq_some.mpr hmode] at hnone
      cases hnone
  | enrolled =>
    obtain ⟨membership, hmembership, -, -⟩ := hs.enrolled h
    refine hmem.trans ?_
    simp [hmembership]
  | unlinked | revoked | expired =>
    refine hmem.trans ?_
    simp

section Restoring

variable [Externals] [UuidExternals]

theorem validateDocument_iff (hs : p.Storable)
    (hroom : p.telemetryOutbox.size ≤ maxOrganizationOutboxIntents) :
    p.document.validateDocument = .ok () ↔ p.OneTenant ∧ (p.syncState = .enrolled → p.Owned) := by
  obtain ⟨ids, hids⟩ := hs.outbox.check
  have hid' : p.document.telemetryOutbox.foldlM checkIntent ∅ = .ok ids :=
    hids
  have hhost : p.document.hostId ≠ some .other := by
    simp [document]
  have hbounds : ¬ (maxSeenFacts < p.document.seenFacts.length ∨
      maxOrganizationOutboxIntents < p.document.telemetryOutbox.length) := by
    have hseen := hs.seen
    simp only [document, persistedSeenFacts, List.length_map, ExtTreeMap.length_toList]
    omega
  have henrol : (if p.document.syncState = .enrolled then p.document.checkEnrolled else .ok ()) =
      .ok () ↔ (p.syncState = .enrolled → p.Owned) := by
    by_cases hsync : p.syncState = .enrolled
    · have hsync' : p.document.syncState = .enrolled := hsync
      rw [if_pos hsync', checkEnrolled_iff hs.standing hsync]
      simp [hsync]
    · have hsync' : p.document.syncState ≠ .enrolled := hsync
      rw [if_neg hsync']
      simp [hsync]
  have hver : p.document.schemaVersion = organizationStateSchemaVersion := rfl
  simp only [validateDocument, ok_iff, hver, hhost, (document_ids p).1, (document_ids p).2, hbounds,
    hid', Except.ok.injEq, exists_eq_left', checkMembership_iff hs.standing, henrol,
    document_standalone hs.standing, not_false_eq_true, true_and, and_true]

/-! ## The restart -/

/-- What is restored before the prompts are. -/
def restarted (p : OrganizationProjection) : OrganizationProjection :=
  { p with
    prompts := .new
    evidence := ⟨p.evidence.imported, p.evidence.trustedSigners, p.tenant,
      p.evidence.e2eRawAuthorized⟩ }

omit [Externals] [UuidExternals] in
theorem restore_links_iff {links} :
    TaskLinkReducer.restore links.links = .ok links ↔ links.Sound := by
  constructor
  · intro h
    exact ⟨(TaskLinkReducer.restore_indexed h).1, (TaskLinkReducer.restore_indexed h).2⟩
  · exact fun h => h.indexed.restore_links h.bounded

theorem reapply_iff (hs : p.Storable) :
    (∃ p', reapply p.restarted p.promptSnapshot = .ok p') ↔
      ∀ snapshot ∈ p.promptSnapshot, p.syncState = .enrolled ∧ snapshot.SelfContained ∧
        ∀ membership ∈ p.membership,
          membership.role.canReadPublished = true ∧ membership.tenantId = snapshot.tenantId := by
  have hreq : p.restarted.requireEnrolled = p.requireEnrolled := rfl
  have hprompt : p.restarted.prompts = .new := rfl
  cases hsnap : p.promptSnapshot with
  | none => simp [reapply]
  | some snapshot =>
    have hacc := hs.snapshot snapshot hsnap
    simp only [reapply, OrganizationProjection.applyPromptSnapshot,
      ok_iff, hreq, hprompt, Option.mem_def, Option.some.injEq, forall_eq']
    constructor
    · rintro ⟨_, _, ⟨membership, hmem, answer, hans, -⟩, -⟩
      obtain ⟨hmode, hsync⟩ := requireEnrolled_eq_ok.mp hmem
      have hmembership := membership_eq_some.mpr hmode
      obtain ⟨-, hrole, htenant, hself⟩ :=
        (OrganizationPromptProjection.new_takes_iff hacc _ _).mp ⟨answer, hans⟩
      refine ⟨?_, hself, fun member hmem => ?_⟩
      · rcases hsync with hsync | hsync
        · rw [hs.standing.signedIn hsync] at hmembership
          cases hmembership
        · exact hsync
      · rw [hmembership] at hmem
        cases hmem
        exact ⟨hrole, htenant⟩
    · rintro ⟨hsync, hself, hmem⟩
      obtain ⟨membership, hmembership, henrol, -⟩ := hs.standing.enrolled hsync
      obtain ⟨hrole, htenant⟩ := hmem membership hmembership
      obtain ⟨answer, hans⟩ := (OrganizationPromptProjection.new_takes_iff hacc
        ((p.restarted.membership.bind HostMembership.lastSeenAtMs).getD 1)
        (OrganizationStateDocument.saturatingAdd
          ((p.restarted.membership.bind HostMembership.lastSeenAtMs).getD 1)
          orgPromptCacheTtlMs)).mpr ⟨henrol, hrole, htenant, hself⟩
      exact ⟨_, _, ⟨membership,
        requireEnrolled_eq_ok.mpr ⟨membership_eq_some.mp hmembership, .inr hsync⟩, answer, hans,
        rfl⟩, rfl⟩

omit [UuidExternals] in
theorem reapply_survived {q snapshot}
    (h : reapply q snapshot = .ok p') : q.Survived p' := by
  cases snapshot with
  | none =>
    cases h
    exact ⟨rfl, rfl, rfl, rfl, rfl, rfl, rfl, rfl, rfl, rfl, rfl⟩
  | some snapshot =>
    simp only [reapply, OrganizationProjection.applyPromptSnapshot, ok_iff] at h
    obtain ⟨_, ⟨_, -, _, -, rfl⟩, rfl⟩ := h
    exact ⟨rfl, rfl, rfl, rfl, rfl, rfl, rfl, rfl, rfl, rfl, rfl⟩

theorem restore_document (hs : p.Storable)
    (hroom : p.telemetryOutbox.size ≤ maxOrganizationOutboxIntents) :
    p.document.restore = .ok p' ↔
      (p.OneTenant ∧ (p.syncState = .enrolled → p.Owned)) ∧
      (p.syncState = .unlinked ∨ p.syncState = .revoked ∨ p.syncState = .expired →
        p.membership ≠ none) ∧
      ∃ links, TaskLinkReducer.restore p.links.links = .ok links ∧
        p.evidence.imported.size ≤ maxEvidenceLabels * 8 ∧
        reapply { p.restarted with links } p.promptSnapshot = .ok p' := by
  have hact : LocalActionRegistry.restore p.document.localActionCatalog
      p.document.localActionStates p.document.localActionSeen = .ok p.localActions :=
    hs.localActions.restore
  have hevid : ∀ evidence, EvidenceIntake.restore p.document.evidenceImportedIds
      p.document.evidenceTrustedSigners p.tenant p.document.evidenceE2eRawAuthorized =
        .ok evidence ↔
        p.evidence.imported.size ≤ maxEvidenceLabels * 8 ∧ evidence = p.restarted.evidence :=
    fun evidence => hs.evidence.restore p.tenant p.evidence.e2eRawAuthorized
  have houtbox : p.document.telemetryOutbox.foldlM restoreIntent ∅ =
      .ok p.telemetryOutbox := hs.outbox.restore
  simp only [restore, ok_iff, validateDocument_iff hs hroom,
    restoreMode_iff hs.standing, hact, document_evidenceTenant, hevid, document_seenFacts,
    document_membershipHash, houtbox, Except.ok.injEq, exists_eq_left']
  refine and_congr_right fun _ => ?_
  constructor
  · rintro ⟨_, ⟨hmem, rfl⟩, links, hlinks, _, ⟨hbound, rfl⟩, h⟩
    exact ⟨hmem, links, hlinks, hbound, h⟩
  · rintro ⟨hmem, links, hlinks, hbound, h⟩
    exact ⟨_, ⟨hmem, rfl⟩, links, hlinks, _, ⟨hbound, rfl⟩, h⟩

theorem survives_iff (hs : p.Storable)
    (hroom : p.telemetryOutbox.size ≤ maxOrganizationOutboxIntents) :
    (∃ p', p.document.restore = .ok p' ∧ p.Survived p') ↔ p.Restorable := by
  constructor
  · rintro ⟨p', hres, hkept⟩
    obtain ⟨⟨htenant, howned⟩, hmem, links, hlinks, hevid, hreapply⟩ :=
      (restore_document hs hroom).mp hres
    have hsame : links = p.links := (reapply_survived hreapply).links.symm.trans hkept.links
    rw [hsame] at hlinks hreapply
    exact ⟨hmem, htenant, restore_links_iff.mp hlinks, howned,
      (reapply_iff hs).mp ⟨p', hreapply⟩, hevid⟩
  · intro h
    obtain ⟨p', hreapply⟩ := (reapply_iff hs).mpr h.prompts
    refine ⟨p', (restore_document hs hroom).mpr ⟨⟨h.oneTenant, h.owned⟩, h.member, p.links,
      restore_links_iff.mpr h.links, h.evidence, hreapply⟩, ?_⟩
    have hkept := reapply_survived hreapply
    exact ⟨hkept.mode, hkept.syncState, hkept.policy, hkept.membershipRevision,
      hkept.membershipFactHash, hkept.seenFacts, hkept.links, hkept.localActions,
      hkept.imported, hkept.trustedSigners, hkept.telemetryOutbox⟩

theorem after_storable {calls} (hlisted : ∀ c ∈ calls, c.Listed) :
    (Calls.after call standalone calls).Storable :=
  Calls.along_invariant (fun _ _ hs hc => Calls.keeping_invariant hs fun _ _ h => hs.attempt hc h)
    calls storable_standalone (Calls.along_of_forall hlisted standalone)

/-- In every run of the operations of a projection, the state that is exported survives a restart
iff it can be restored, however large its document is. -/
theorem state_survives_iff (calls : List OrgCall) (hlisted : ∀ c ∈ calls, c.Listed)
    (document : OrganizationStateDocument)
    (hexport : (Calls.after call standalone calls).exportState = .ok document) :
    (∃ p', document.restore = .ok p' ∧ (Calls.after call standalone calls).Survived p') ↔
      (Calls.after call standalone calls).Restorable := by
  obtain ⟨hroom, rfl⟩ := exportState_eq_ok.mp hexport
  exact survives_iff (after_storable hlisted) hroom

end Restoring

section Samples

open TaskLinkReducer (sampleUuid sampleTenant sampleAccount sampleMembership)

attribute [local instance] sampleExternals sampleUuid

def sampleRevocation : MembershipFact where
  hostId := ⟨1⟩
  tenantId := sampleTenant
  accountId := sampleAccount
  status := .revoked
  revision := 2
  revokedAtMs := some 5
  expiresAtMs := none

def sampleRevoked : List OrgCall :=
  [.signIn FactHistory.sampleOwner,
    .confirmEnrollment sampleMembership FactHistory.samplePolicy 1,
    .applyAuthoritativeFact (.membership sampleRevocation) 5]

theorem revoked_host_survives :
    ∃ p', (Calls.after call standalone sampleRevoked).document.restore = .ok p' ∧
      (Calls.after call standalone sampleRevoked).Survived p' := by
  have hlisted : ∀ c ∈ sampleRevoked, c.Listed := by
    intro c hc
    simp only [sampleRevoked, List.mem_cons, List.not_mem_nil, or_false] at hc
    rcases hc with rfl | rfl | rfl <;> trivial
  have hexp : (Calls.after call standalone sampleRevoked).exportState =
      .ok (Calls.after call standalone sampleRevoked).document :=
    exportState_eq_ok.mpr ⟨by decide +kernel, rfl⟩
  refine (state_survives_iff sampleRevoked hlisted _ hexp).mpr ⟨?_, ?_, ?_, ?_, ?_, ?_⟩
  · exact fun _ => by decide +kernel
  · intro membership _ policy hpolicy
    have hnone : (Calls.after call standalone sampleRevoked).policy = none := by decide +kernel
    rw [hnone] at hpolicy
    cases hpolicy
  · exact ⟨TaskLinkReducer.indexed_new, by decide +kernel⟩
  · intro henrol
    exact absurd henrol (by decide +kernel)
  · intro snapshot hsnap
    have hnone : (Calls.after call standalone sampleRevoked).promptSnapshot = none := by
      decide +kernel
    rw [hnone] at hsnap
    cases hsnap
  · decide +kernel

/-- The host signs in again after it was revoked: what is stored then is refused. -/
theorem revoked_sign_in_is_lost :
    ∃ calls document, (∀ c ∈ calls, OrgCall.Listed c) ∧
      (Calls.after call standalone calls).exportState = .ok document ∧
      ¬ ∃ p', document.restore = .ok p' ∧ (Calls.after call standalone calls).Survived p' := by
  refine ⟨sampleRevoked ++ [.signIn FactHistory.sampleOwner], _, ?_,
    exportState_eq_ok.mpr ⟨?_, rfl⟩, ?_⟩
  · intro c hc
    simp only [sampleRevoked, List.cons_append, List.nil_append, List.mem_cons, List.not_mem_nil,
      or_false] at hc
    rcases hc with rfl | rfl | rfl | rfl <;> trivial
  · decide +kernel
  · have hfails : isOk (Calls.after call standalone
        (sampleRevoked ++ [.signIn FactHistory.sampleOwner])).document.restore = false := by
      decide +kernel
    rintro ⟨p', hres, -⟩
    rw [hres] at hfails
    cases hfails

end Samples

end OrganizationProjection

end DevManager.Org
