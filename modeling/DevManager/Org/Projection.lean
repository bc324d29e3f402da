import DevManager.Org.Evidence
import DevManager.Org.LocalActions
import DevManager.Org.Prompts

/-!
# The organization projection (`src/org/mod.rs`)

What the host knows of the organization it belongs to: the mode it runs in, its membership
and policy, the links of its tasks, the published prompts, the local actions, the evidence,
and the telemetry that waits to be sent. The portal changes it by facts, the owner by
signing in, by confirming an enrolment and by leaving.
-/

namespace DevManager.Org

open Std (ExtTreeMap)

/-- `MAX_SEEN_FACTS`, L114 -/
def maxSeenFacts : ℕ := 1024

/-- `OperatingMode`, L117-121 -/
inductive OperatingMode
  | anonymousLocal
  | connectSignedIn (account : ExternalAccount)
  | hostEnrolled (membership : HostMembership)
deriving DecidableEq

/-- `OrganizationCapabilityDisableReason`, L155-161 -/
inductive OrganizationCapabilityDisableReason
  | standalone | unenrolled | revoked | expired | offline

/-- `OrganizationCapabilityState`, L149-152 -/
inductive OrganizationCapabilityState
  | enabled
  | disabled (reason : OrganizationCapabilityDisableReason)

/-- `OrganizationSyncState`, L174-182 -/
inductive OrganizationSyncState
  | standalone | signedIn | enrolled | unlinked | revoked | expired
deriving DecidableEq

/-- `OrganizationFact::Membership`, L187-195 -/
structure MembershipFact where
  hostId : ConnectHostId
  tenantId : PortalTenantId
  accountId : PortalAccountId
  status : MembershipStatus
  revision : ℕ
  revokedAtMs : Option Int64
  expiresAtMs : Option Int64

/-- `OrganizationFact`, L186-197 -/
inductive OrganizationFact
  | membership (fact : MembershipFact)
  | managedTask (snapshot : ManagedTaskSnapshot)

/-! ## The telemetry outbox (`persistence.rs`) -/

/-- `MAX_ORGANIZATION_OUTBOX_INTENTS`, `persistence.rs:27` -/
def maxOrganizationOutboxIntents : ℕ := 256

/-- `MAX_ORGANIZATION_OUTBOX_INTENT_BYTES`, `persistence.rs:28` -/
def maxOrganizationOutboxIntentBytes : ℕ := 256

/-- `OutboxDeliveryState`, `persistence.rs:32-36` -/
inductive OutboxDeliveryState
  | queued | locallyAcknowledged | uncertain
deriving DecidableEq

/-- `PersistedOutboxIntent`, `persistence.rs:40-45` -/
structure PersistedOutboxIntent where
  observationIdHex : String
  intent : String
  publicationQueued : Bool
  delivery : OutboxDeliveryState
deriving DecidableEq

/-- `validate_outbox_intent`, `persistence.rs:80-94` -/
def validateOutboxIntent (intent : PersistedOutboxIntent) : Except OrgError Unit := do
  failIf (intent.observationIdHex.utf8ByteSize ≠ 64 ∨
    intent.observationIdHex.toList.all isHexDigit = false) .emptyIdentity
  failIf (trim intent.intent = "" ∨
    maxOrganizationOutboxIntentBytes < intent.intent.utf8ByteSize) .emptyIdentity

/-! ## Facts and their hashes -/

/-- The key of a fact (L997-1000): its host, task and revision, which the text determines. -/
abbrev SeenKey := PairKey HostTaskKey ℕ

instance : Std.TransOrd SeenKey := inferInstance

/-- The key that `managed_fact_identity` makes (L997-1000). -/
def ManagedTaskSnapshot.seenKey (snapshot : ManagedTaskSnapshot) : SeenKey :=
  ⟨⟨snapshot.hostId, snapshot.localTaskId⟩, snapshot.portalRevision⟩

/-- What `managed_fact_identity` hashes (L979-995). -/
def ManagedTaskSnapshot.identityBytes [UuidExternals] (snapshot : ManagedTaskSnapshot) :
    List UInt8 :=
  asBytes "managed_task" ++ (UuidExternals.bytes snapshot.hostId.payload).toList ++
    (UuidExternals.bytes snapshot.localTaskId.payload).toList ++
    lenPrefixed (asBytes snapshot.boardCardId.value) ++ [snapshot.enrollmentState.tag] ++
    toLeBytes snapshot.portalRevision ++ toLeBytes32 snapshot.metadataPolicyVersion ++
    lenPrefixed (asBytes snapshot.linkedBy) ++ toLeBytesSigned snapshot.linkedAt ++
    lenPrefixed (asBytes (UuidExternals.text snapshot.linkId.payload)) ++
    lenPrefixed (asBytes snapshot.tenantId.value)

/-- The hash that `managed_fact_identity` makes (L978-1003). -/
def ManagedTaskSnapshot.identityHash [Externals] [UuidExternals] (snapshot : ManagedTaskSnapshot) :
    Digest := Externals.sha256 snapshot.identityBytes

/-- The tag of a status in a hash (L966-971). -/
def MembershipStatus.tag : MembershipStatus → UInt8
  | pendingLocalConfirm => 1
  | enrolled => 2
  | revoked => 3
  | unenrolled => 4

/-- `membership_fact_hash`, L952-976 -/
def MembershipFact.hash [Externals] [UuidExternals] (fact : MembershipFact) : Digest :=
  Externals.sha256 (asBytes "membership" ++ (UuidExternals.bytes fact.hostId.payload).toList ++
    lenPrefixed (asBytes fact.tenantId.value) ++ lenPrefixed (asBytes fact.accountId.value) ++
    [fact.status.tag] ++ toLeBytes fact.revision ++ toLeBytesSigned (fact.revokedAtMs.getD 0) ++
    toLeBytesSigned (fact.expiresAtMs.getD 0))

/-- The membership has expired (L895-896). -/
def MembershipFact.Expires (fact : MembershipFact) (nowMs : Int64) : Prop :=
  ∃ expiresAtMs ∈ fact.expiresAtMs, expiresAtMs ≤ nowMs

instance (fact : MembershipFact) (nowMs : Int64) : Decidable (fact.Expires nowMs) :=
  inferInstanceAs (Decidable (∃ _ ∈ _, _))

/-! ## The projection -/

/-- `OrganizationProjection`, L200-214 -/
structure OrganizationProjection where
  mode : OperatingMode
  policy : Option OrganizationPolicyDocument
  links : TaskLinkReducer
  prompts : OrganizationPromptProjection
  localActions : LocalActionRegistry
  evidence : EvidenceIntake
  syncState : OrganizationSyncState
  seenFacts : ExtTreeMap SeenKey Digest
  membershipRevision : Option ℕ
  membershipFactHash : Option Digest
  authenticatedOnline : Bool
  promptSnapshot : Option OrganizationPromptSnapshot
  telemetryOutbox : ExtTreeMap String PersistedOutboxIntent

namespace OrganizationProjection

/-- `standalone`, L223-239 -/
def standalone : OrganizationProjection where
  mode := .anonymousLocal
  policy := none
  links := .new
  prompts := .new
  localActions := .new
  evidence := .new
  syncState := .standalone
  seenFacts := ∅
  membershipRevision := none
  membershipFactHash := none
  authenticatedOnline := false
  promptSnapshot := none
  telemetryOutbox := ∅

variable (p : OrganizationProjection)

/-- `membership`, L335-340 -/
def membership : Option HostMembership :=
  match p.mode with
  | .hostEnrolled membership => some membership
  | _ => none

/-- `signed_in_account`, L944-949 -/
def signedInAccount : Option ExternalAccount :=
  match p.mode with
  | .connectSignedIn account => some account
  | _ => none

/-- `exported_task_count`, L347-352 -/
def exportedTaskCount : ℕ :=
  if p.syncState ≠ .enrolled ∨ p.membership = none then 0 else p.links.enrolledCount

/-- `host_id_if_enrolled`, L354-360 -/
def hostIdIfEnrolled : Option ConnectHostId :=
  if p.syncState = .enrolled then
    (p.membership.filter HostMembership.isEnrolled).map HostMembership.hostId
  else none

/-- `require_enrolled`, L812-824 -/
def requireEnrolled : Except OrgError HostMembership := do
  failIf (p.mode = .anonymousLocal) .standaloneMode
  match p.syncState with
  | .revoked => .error .membershipRevoked
  | .expired => .error .expired
  | .unlinked => .error .hostUnenrolled
  | .standalone => .error .standaloneMode
  | .signedIn | .enrolled => okOr p.membership .hostUnenrolled

/-- `links` (L342-345): the links as an enrolled host may change them. -/
def linksMut : Except OrgError TaskLinkReducer :=
  p.requireEnrolled.map fun _ => p.links

/-- `prompts` and `prompts_mut` (L362-370). -/
def promptsMut : Except OrgError OrganizationPromptProjection :=
  p.requireEnrolled.map fun _ => p.prompts

/-- `sign_in`, L249-264 -/
def signIn (account : ExternalAccount) : OrganizationProjection :=
  if ∃ membership ∈ p.membership, membership.isEnrolled = true then p
  else { p with
    mode := .connectSignedIn account
    syncState :=
      if p.syncState = .revoked ∨ p.syncState = .expired then p.syncState else .signedIn }

variable (membership : HostMembership) (policy : OrganizationPolicyDocument) (nowMs : Int64)

/-- `confirm_enrollment`, L285-305 -/
def confirmEnrollment :
    Except OrgError (HostMembership × OrganizationProjection) := do
  failIf (p.mode = .anonymousLocal) .standaloneMode
  let membership ← membership.confirmLocally nowMs policy
  return (membership, { p with
    policy := some policy, mode := .hostEnrolled membership, membershipRevision := none,
    membershipFactHash := none, syncState := .enrolled, authenticatedOnline := true,
    evidence := p.evidence.bindTenant membership.tenantId })

/-- What the host is left with when it leaves (L317-329). -/
def left :
    OrganizationProjection :=
  { p with
    mode := .hostEnrolled (membership.unenrollOffline nowMs), policy := none,
    syncState := .unlinked, links := .new, membershipRevision := none, membershipFactHash := none,
    prompts := p.prompts.purge, promptSnapshot := none, authenticatedOnline := false,
    telemetryOutbox := ∅, evidence := .new }

/-- `unenroll_offline`, L314-333 -/
def unenrollOffline :
    Except OrgError OrganizationProjection :=
  match p.mode with
  | .hostEnrolled membership => .ok (p.left membership nowMs)
  | .anonymousLocal => .error .standaloneMode
  | .connectSignedIn _ => .error .hostUnenrolled

/-! ## Facts of the portal -/

/-- What an expired membership leaves (L895-902). -/
def expire : OrganizationProjection :=
  { p with syncState := .expired, authenticatedOnline := false, prompts := p.prompts.purge }

/-- What a revocation leaves (L904-913). -/
def revoke (revokedAtMs : Int64) : OrganizationProjection :=
  { p with
    mode := match p.mode with
      | .hostEnrolled membership => .hostEnrolled (membership.revoke revokedAtMs)
      | mode => mode
    syncState := .revoked
    policy := none
    authenticatedOnline := false
    prompts := p.prompts.purge }

/-- What the portal's word that the host has left leaves (L914-921). -/
def unenroll : OrganizationProjection :=
  match p.mode with
  | .hostEnrolled membership => p.left membership nowMs
  | _ => { p with syncState := .unlinked }

/-- What the return to a pending membership leaves (L922-934). -/
def suspend : OrganizationProjection :=
  match p.mode with
  | .hostEnrolled membership => { p with
      mode := .hostEnrolled { membership with status := .pendingLocalConfirm },
      syncState := .unlinked, policy := none, authenticatedOnline := false,
      prompts := p.prompts.purge, promptSnapshot := none }
  | _ => { p with syncState := .signedIn }

/-- What the portal's word that the host is enrolled leaves (L935-940). -/
def acknowledge : OrganizationProjection :=
  match p.mode with
  | .hostEnrolled _ => p
  | _ => { p with syncState := .signedIn }

variable (fact : MembershipFact)

/-- The fact is about the account that is signed in and about the membership of the host
(L885-894). -/
def Concerns : Prop :=
  (∀ account ∈ p.signedInAccount,
    account.tenantId = fact.tenantId ∧ account.accountId = fact.accountId) ∧
  ∀ membership ∈ p.membership, membership.hostId = fact.hostId ∧ membership.tenantId = fact.tenantId

instance (p : OrganizationProjection) (fact : MembershipFact) : Decidable (p.Concerns fact) :=
  inferInstanceAs (Decidable (_ ∧ _))

/-- What a fact about the membership leaves (L895-941). -/
def afterFact (nowMs : Int64) :
    OrganizationProjection :=
  if fact.Expires nowMs then p.expire
  else match fact.status with
    | .revoked => p.revoke (fact.revokedAtMs.getD nowMs)
    | .unenrolled => p.unenroll nowMs
    | .pendingLocalConfirm => p.suspend
    | .enrolled => p.acknowledge

/-- `apply_membership_fact`, L875-942 -/
def applyMembershipFact (nowMs : Int64) :
    Except OrgError OrganizationProjection := do
  failIf (¬ p.Concerns fact) .crossTenant
  return p.afterFact fact nowMs

/-- `reconcile_membership_fact`, L826-873 -/
def reconcileMembershipFact [Externals] [UuidExternals] (p : OrganizationProjection)
    (fact : MembershipFact) (nowMs : Int64) :
    Except OrgError (SyncOutcome × OrganizationProjection) := do
  failIf (fact.revision = 0) .stalePolicy
  failIf (∃ current ∈ p.membershipRevision, fact.revision < current) .stalePolicy
  if p.membershipRevision = some fact.revision then
    if p.membershipFactHash = some fact.hash then .ok (.duplicate, p)
    else .error .lastWriteWinsForbidden
  else do
    let p' ← p.applyMembershipFact fact nowMs
    return (.applied, { p' with
      membershipRevision := some fact.revision, membershipFactHash := some fact.hash })

/-- A fact about a task (L399-415). -/
def applyManagedTask [Externals] [UuidExternals] (p : OrganizationProjection)
    (snapshot : ManagedTaskSnapshot) : Except OrgError (SyncOutcome × OrganizationProjection) :=
  match p.seenFacts[snapshot.seenKey]? with
  | some existing =>
    if existing = snapshot.identityHash then .ok (.duplicate, p) else .error .lastWriteWinsForbidden
  | none => do
    failIf (maxSeenFacts ≤ p.seenFacts.size) .boundExceeded
    let membership ← okOr p.membership .hostUnenrolled
    let (outcome, links) ← p.links.applyPortalSnapshot membership snapshot
    return (outcome, { p with
      links, seenFacts := p.seenFacts.insert snapshot.seenKey snapshot.identityHash })

/-- `apply_authoritative_fact`, L372-417 -/
def applyAuthoritativeFact [Externals] [UuidExternals] (p : OrganizationProjection)
    (fact : OrganizationFact) (nowMs : Int64) :
    Except OrgError (SyncOutcome × OrganizationProjection) := do
  failIf (p.mode = .anonymousLocal) .standaloneMode
  match fact with
  | .membership fact => p.reconcileMembershipFact fact nowMs
  | .managedTask snapshot => p.applyManagedTask snapshot

/-! ## Prompts, policy and scopes -/

/-- `apply_prompt_snapshot`, L419-435 -/
def applyPromptSnapshot [Externals] (p : OrganizationProjection)
    (snapshot : OrganizationPromptSnapshot) (nowMs entitlementExpiresAtMs : Int64) :
    Except OrgError (SyncOutcome × OrganizationProjection) := do
  let membership ← p.requireEnrolled
  let (outcome, prompts) ←
    p.prompts.applyAuthoritativeSnapshot membership snapshot nowMs entitlementExpiresAtMs
  return (outcome, { p with prompts, promptSnapshot := some snapshot })

/-- What a new policy leaves (L461-468). -/
def adopt : OrganizationProjection :=
  { p with
    mode := .hostEnrolled { membership with
      policyRevision := policy.revision, policyHashHex := policy.contentHashHex }
    policy := some policy }

/-- `apply_policy_document`, L437-470 -/
def applyPolicyDocument :
    Except OrgError (SyncOutcome × OrganizationProjection) := do
  let membership ← p.requireEnrolled
  failIf (membership.tenantId ≠ policy.tenantId) .crossTenant
  failIf (policy.revision = 0) .stalePolicy
  match p.policy with
  | none => .ok (.applied, p.adopt membership policy)
  | some current => do
    failIf (policy.revision < current.revision) .stalePolicy
    if policy.revision = current.revision then
      if current = policy then .ok (.duplicate, p) else .error .lastWriteWinsForbidden
    else .ok (.applied, p.adopt membership policy)

/-- `personal_scope_without_link`, L472-480 -/
def personalScopeWithoutLink [UuidExternals] (p : OrganizationProjection) (taskId : TaskId) :
    Option TaskScope :=
  match p.hostIdIfEnrolled with
  | some hostId => p.links.scopeFor hostId taskId
  | none => some .personal

/-- `capability_state`, L567-603 -/
def capabilityState : OrganizationCapabilityState :=
  match p.syncState with
  | .standalone => .disabled .standalone
  | .signedIn | .unlinked => .disabled .unenrolled
  | .revoked => .disabled .revoked
  | .expired => .disabled .expired
  | .enrolled =>
    match p.membership with
    | none => .disabled .unenrolled
    | some membership =>
      if membership.role.isDisabled = true ∨ membership.isEnrolled = false then
        .disabled .unenrolled
      else if p.authenticatedOnline = false then .disabled .offline
      else .enabled

/-! ## Local actions and evidence -/

/-- An operation of the registry that only an enrolled host has (L482-536). -/
def onLocalActions {α : Type} (p : OrganizationProjection)
    (operation : HostMembership → LocalActionRegistry → Except OrgError (α × LocalActionRegistry)) :
    Except OrgError (α × OrganizationProjection) := do
  let membership ← p.requireEnrolled
  let (answer, localActions) ← operation membership p.localActions
  return (answer, { p with localActions })

/-- `admit_local_action`, L482-501 -/
def admitLocalAction [UuidExternals] (p : OrganizationProjection) (request : LocalActionRequest)
    (localHostId : String) (localProject : ProjectId) (localFingerprint : String)
    (ownerApproved : Bool) (nowMs : Int64) :
    Except OrgError (LocalActionAdmissionState × OrganizationProjection) :=
  p.onLocalActions fun membership r =>
    r.admitWithState membership request localHostId localProject localFingerprint
      ownerApproved nowMs

/-- `bind_local_action_catalog`, L503-509 -/
def bindLocalActionCatalog (entries : List LocalActionCatalogEntry) :
    Except OrgError (Unit × OrganizationProjection) :=
  p.onLocalActions fun _ r => (r.bindServerCatalog entries).map fun r' => ((), r')

/-- `reconcile_local_action_state`, L519-528 -/
def reconcileLocalActionState [UuidExternals] (p : OrganizationProjection)
    (requestId : LocalActionId) (admission : Admission) (outcome : Option ActionOutcome) :
    Except OrgError (SyncOutcome × OrganizationProjection) :=
  p.onLocalActions fun _ r => r.reconcileRemoteState requestId admission outcome

/-- `mark_local_action_uncertain`, L530-536 -/
def markLocalActionUncertain [UuidExternals] (p : OrganizationProjection)
    (requestId : LocalActionId) :
    Except OrgError (LocalActionAdmissionState × OrganizationProjection) :=
  p.onLocalActions fun _ r => r.markUncertain requestId

/-- `ingest_evidence`, L538-545 -/
def ingestEvidence [Externals] [UuidExternals] (p : OrganizationProjection)
    (bundle : EvidenceBundle) (draftId : TaskDraftId) :
    Except OrgError (EvidenceMetadataProjection × OrganizationProjection) := do
  let membership ← p.requireEnrolled
  let (metadata, evidence) ← p.evidence.ingestForTenant (some membership.tenantId) bundle draftId
  return (metadata, { p with evidence })

/-- `trust_evidence_signer`, L547-550 -/
def trustEvidenceSigner (signer : String) :
    Except OrgError (Unit × OrganizationProjection) := do
  let _ ← p.requireEnrolled
  let evidence ← p.evidence.trustSigner signer
  return ((), { p with evidence })

/-- `authorize_evidence_e2e_raw`, L552-556 -/
def authorizeEvidenceE2eRaw (authorized : Bool) :
    Except OrgError (Unit × OrganizationProjection) := do
  let _ ← p.requireEnrolled
  return ((), { p with evidence := p.evidence.authorizeE2eRaw authorized })

/-! ## The outbox -/

/-- `queue_outbox_intent`, L661-679 -/
def queueOutboxIntent (intent : PersistedOutboxIntent) :
    Except OrgError (SyncOutcome × OrganizationProjection) := do
  validateOutboxIntent intent
  match p.telemetryOutbox[intent.observationIdHex]? with
  | some existing =>
    if existing = intent then .ok (.duplicate, p) else .error .lastWriteWinsForbidden
  | none => do
    failIf (maxOrganizationOutboxIntents ≤ p.telemetryOutbox.size) .boundExceeded
    return (.applied, { p with
      telemetryOutbox := p.telemetryOutbox.insert intent.observationIdHex intent })

/-- An intent with another delivery state in its place. -/
def setDelivery (intent : PersistedOutboxIntent)
    (observationIdHex : String) (delivery : OutboxDeliveryState) : OrganizationProjection :=
  { p with
    telemetryOutbox := p.telemetryOutbox.insert observationIdHex { intent with delivery } }

/-- `acknowledge_outbox_intent`, L681-694 -/
def acknowledgeOutboxIntent (observationIdHex : String) :
    Except OrgError (SyncOutcome × OrganizationProjection) := do
  let intent ← okOr p.telemetryOutbox[observationIdHex]? .unlinked
  if intent.delivery = .locallyAcknowledged then .ok (.duplicate, p)
  else .ok (.applied, p.setDelivery intent observationIdHex .locallyAcknowledged)

/-- `mark_outbox_uncertain`, L696-712 -/
def markOutboxUncertain (observationIdHex : String) :
    Except OrgError (SyncOutcome × OrganizationProjection) := do
  let intent ← okOr p.telemetryOutbox[observationIdHex]? .unlinked
  failIf (intent.delivery = .locallyAcknowledged) .lastWriteWinsForbidden
  if intent.delivery = .uncertain then .ok (.duplicate, p)
  else .ok (.applied, p.setDelivery intent observationIdHex .uncertain)

/-! ## Calls -/

/-- The calls that change a projection. The prompts and the local actions can be borrowed and
changed in any way. -/
inductive OrgCall
  | signIn (account : ExternalAccount)
  | confirmEnrollment (membership : HostMembership) (policy : OrganizationPolicyDocument)
      (nowMs : Int64)
  | unenrollOffline (nowMs : Int64)
  | applyAuthoritativeFact (fact : OrganizationFact) (nowMs : Int64)
  | applyPromptSnapshot (snapshot : OrganizationPromptSnapshot)
      (nowMs entitlementExpiresAtMs : Int64)
  | applyPolicyDocument (policy : OrganizationPolicyDocument)
  | linksMut (change : TaskLinkReducer.LinkCall)
  | promptsMut (change : OrganizationPromptProjection → OrganizationPromptProjection)
  | localActionsMut (change : LocalActionRegistry → LocalActionRegistry)
  | bindLocalActionCatalog (entries : List LocalActionCatalogEntry)
  | admitLocalAction (request : LocalActionRequest) (localHostId : String)
      (localProject : ProjectId) (localFingerprint : String) (ownerApproved : Bool) (nowMs : Int64)
  | reconcileLocalActionState (requestId : LocalActionId) (admission : Admission)
      (outcome : Option ActionOutcome)
  | markLocalActionUncertain (requestId : LocalActionId)
  | ingestEvidence (bundle : EvidenceBundle) (draftId : TaskDraftId)
  | trustEvidenceSigner (signer : String)
  | authorizeEvidenceE2eRaw (authorized : Bool)
  | setAuthenticatedOnline (online : Bool)
  | queueOutboxIntent (intent : PersistedOutboxIntent)
  | acknowledgeOutboxIntent (observationIdHex : String)
  | markOutboxUncertain (observationIdHex : String)

/-- What a call that succeeds says of its effect. -/
inductive OrgReply
  | done
  | outcome (outcome : SyncOutcome)

/-- The answer of a call whose value is read off the projection that it leaves. -/
def done {α : Type} (answer : Except OrgError (α × OrganizationProjection)) :
    Except OrgError (OrgReply × OrganizationProjection) := answer.map fun a => (.done, a.2)

/-- The answer of a call that says whether it changed anything. -/
def replied (answer : Except OrgError (SyncOutcome × OrganizationProjection)) :
    Except OrgError (OrgReply × OrganizationProjection) := answer.map fun a => (.outcome a.1, a.2)

/-- What a call answers when it succeeds, and the projection that it then leaves. A call on the
links succeeds with what it leaves of them, whatever it answers itself. -/
def attempt [Externals] [UuidExternals] (p : OrganizationProjection) :
    OrgCall → Except OrgError (OrgReply × OrganizationProjection)
  | .signIn account => .ok (.done, p.signIn account)
  | .confirmEnrollment membership policy nowMs => done (p.confirmEnrollment membership policy nowMs)
  | .unenrollOffline nowMs => (p.unenrollOffline nowMs).map fun p' => (.done, p')
  | .applyAuthoritativeFact fact nowMs => replied (p.applyAuthoritativeFact fact nowMs)
  | .applyPromptSnapshot snapshot nowMs entitlementExpiresAtMs =>
    replied (p.applyPromptSnapshot snapshot nowMs entitlementExpiresAtMs)
  | .applyPolicyDocument policy => replied (p.applyPolicyDocument policy)
  | .linksMut change =>
    p.linksMut.map fun links => (.done, { p with links := (links.call change).2 })
  | .promptsMut change =>
    p.promptsMut.map fun prompts => (.done, { p with prompts := change prompts })
  | .localActionsMut change => .ok (.done, { p with localActions := change p.localActions })
  | .bindLocalActionCatalog entries => done (p.bindLocalActionCatalog entries)
  | .admitLocalAction request localHostId localProject localFingerprint ownerApproved nowMs =>
    done (p.admitLocalAction request localHostId localProject localFingerprint ownerApproved nowMs)
  | .reconcileLocalActionState requestId admission outcome =>
    replied (p.reconcileLocalActionState requestId admission outcome)
  | .markLocalActionUncertain requestId => done (p.markLocalActionUncertain requestId)
  | .ingestEvidence bundle draftId => done (p.ingestEvidence bundle draftId)
  | .trustEvidenceSigner signer => done (p.trustEvidenceSigner signer)
  | .authorizeEvidenceE2eRaw authorized => done (p.authorizeEvidenceE2eRaw authorized)
  | .setAuthenticatedOnline online => .ok (.done, { p with authenticatedOnline := online })
  | .queueOutboxIntent intent => replied (p.queueOutboxIntent intent)
  | .acknowledgeOutboxIntent observationIdHex =>
    replied (p.acknowledgeOutboxIntent observationIdHex)
  | .markOutboxUncertain observationIdHex => replied (p.markOutboxUncertain observationIdHex)

/-- One call: what it answers, and the projection that it leaves. -/
def call [Externals] [UuidExternals] (p : OrganizationProjection) (c : OrgCall) :
    Except OrgError OrgReply × OrganizationProjection := Calls.keeping p (p.attempt c)

end OrganizationProjection

end DevManager.Org
