import DevManager.Domain.Externals
import DevManager.Lib.Result

/-!
# Identities and membership of an organization (`src/org`)

The portal mints tenants, accounts, devices and board cards; the host keeps them as
canonical text (`identity.rs`). Links, prompts, actions and bundles carry UUIDs of
version 7 (`ids.rs`), of which the payload is kept, as for the identifiers of the
domain. The membership of a host is confirmed locally against a policy document
(`membership.rs`).
-/

namespace DevManager.Org

/-! ## Errors -/

/-- `OrgDependency`, `error.rs:42-49` -/
inductive OrgDependency
  | portalMembershipIssuer | portalBoardCard | durableOutbox | devAgentExport | signedIdentityIssuer

/-- `OrgError`, `error.rs:3-40` -/
inductive OrgError
  | standaloneMode | connectSignInDoesNotEnroll | emptyIdentity | crossTenant | roleDenied
  | disabledMember | hostUnenrolled | membershipRevoked | enrollmentNotConfirmed | duplicateLink
  | linkConflict | unlinked | personalTask | stalePolicy | staleGrant | expired | replay
  | boundExceeded | prohibitedField | prohibitedLabel | immutableVersion | missingApproval
  | fingerprintMismatch | productionRiskNotRetrySafe | uncertainOutcome | tamperedEvidence
  | untrustedSigner | reviewRequired | lastWriteWinsForbidden | autoLaunchForbidden
  | watcherReadOnly | ownerOnly | corruptState | offline
  | unavailable (dependency : OrgDependency)

/-- `SyncOutcome`, `managed.rs:72-76` -/
inductive SyncOutcome
  | applied | duplicate

/-! ## Identifiers -/

/-- The names `define_external_id!` is called with. -/
inductive ExternalKind
  | tenant | account | device | boardCard

/-- An opaque identifier of the portal (`define_external_id!`, L25-61): text that is
its own canonical form. -/
structure ExternalId (kind : ExternalKind) where
  value : String
  canonical : Canonical.isCanonical value = true
deriving DecidableEq

namespace ExternalId

variable {kind : ExternalKind}

/-- `parse`, `identity.rs:31-35` -/
def parse (value : String) : Option (ExternalId kind) :=
  if h : trim value = "" then none else some ⟨trim value, Canonical.isCanonical_trim h⟩

theorem ext_value {a b : ExternalId kind} (h : a.value = b.value) : a = b := by
  obtain ⟨_, _⟩ := a
  obtain ⟨_, _⟩ := b
  cases h
  rfl

@[simp] theorem parse_value (a : ExternalId kind) : parse a.value = some a := by
  have hcan := a.canonical
  simp only [Canonical.isCanonical, Bool.and_eq_true, decide_eq_true_eq] at hcan
  obtain ⟨hne, htrim⟩ := hcan
  unfold parse
  rw [dif_neg (htrim ▸ hne)]
  exact congrArg some (ext_value htrim.symm)

end ExternalId

abbrev PortalTenantId := ExternalId .tenant
abbrev PortalAccountId := ExternalId .account
abbrev PortalDeviceId := ExternalId .device
abbrev BoardCardId := ExternalId .boardCard

/-- The names `define_org_id!` is called with, and `ConnectHostId` of `define_connect_id!`
(`connect/envelope.rs:38-107`). -/
inductive OrgIdKind
  | managedLink | orgPrompt | orgPromptVersion | orgPromptChain | localAction | evidenceBundle
  | taskDraft | connectHost

/-- A UUID of version 7 (`define_org_id!`, `ids.rs:19-91`): the payload bits, in UUID order. -/
structure OrgId (kind : OrgIdKind) where
  payload : ℕ
deriving DecidableEq

namespace OrgId

variable {kind : OrgIdKind}

instance : Ord (OrgId kind) := ⟨fun a b => compare a.payload b.payload⟩

instance : Std.TransOrd (OrgId kind) := inferInstanceAs (Std.TransCmp (compareOn OrgId.payload))

instance : Std.LawfulEqOrd (OrgId kind) where
  eq_of_compare := by
    rintro ⟨a⟩ ⟨b⟩ h
    exact congrArg OrgId.mk (Std.LawfulEqOrd.eq_of_compare (α := ℕ) h)

end OrgId

abbrev ManagedLinkId := OrgId .managedLink
abbrev OrgPromptId := OrgId .orgPrompt
abbrev OrgPromptVersionId := OrgId .orgPromptVersion
abbrev OrgPromptChainId := OrgId .orgPromptChain
abbrev LocalActionId := OrgId .localAction
abbrev EvidenceBundleId := OrgId .evidenceBundle
abbrev TaskDraftId := OrgId .taskDraft
abbrev ConnectHostId := OrgId .connectHost

/-- `ExternalAccount`, `identity.rs:69-73` -/
structure ExternalAccount where
  tenantId : PortalTenantId
  accountId : PortalAccountId
  deviceId : Option PortalDeviceId
deriving DecidableEq

/-! ## Membership -/

/-- `MembershipRole`, `membership.rs:16-22` -/
inductive MembershipRole
  | owner | admin | manager | member | disabled
deriving DecidableEq

namespace MembershipRole

/-- `can_read_published`, `membership.rs:33-35` -/
def canReadPublished (role : MembershipRole) : Bool := role ≠ disabled

/-- `is_disabled`, `membership.rs:37-39` -/
def isDisabled (role : MembershipRole) : Bool := role = disabled

end MembershipRole

/-- `MembershipStatus`, `membership.rs:44-49` -/
inductive MembershipStatus
  | pendingLocalConfirm | enrolled | revoked | unenrolled
deriving DecidableEq

/-- `ManagedMetadataName`, `membership.rs:79-94` -/
inductive ManagedMetadataName
  | taskState | taskAttention | taskAssignmentReference | providerKind | providerState
  | sourceTimestamp | observedTimestamp | providerReportedUsage | humanMessageCount
  | humanTurnCount | activeSessionInterval | gitSummary | hostHealth | approvedArtifactReference
deriving DecidableEq

/-- `OrganizationPolicyDocument` (`membership.rs:65-75`). The ceiling of raw sharing and the
approval of local actions have one value each and are left out; the two sets are the lists of
their elements in order. -/
structure OrganizationPolicyDocument where
  revision : ℕ
  tenantId : PortalTenantId
  allowedMetadataFields : List ManagedMetadataName
  retentionMs : ℕ
  idleIntervalMs : ℕ
  promptMaintainerAccounts : List String
  contentHashHex : String
deriving DecidableEq

/-- `HostMembership`, `membership.rs:222-235` -/
structure HostMembership where
  hostId : ConnectHostId
  tenantId : PortalTenantId
  accountId : PortalAccountId
  deviceId : Option PortalDeviceId
  role : MembershipRole
  status : MembershipStatus
  enrolledAtMs : Option Int64
  lastSeenAtMs : Option Int64
  revokedAtMs : Option Int64
  displayLabel : String
  policyRevision : ℕ
  policyHashHex : String
deriving DecidableEq

namespace HostMembership

variable (membership : HostMembership)

/-- `is_enrolled`, `membership.rs:327-329` -/
def isEnrolled : Bool := membership.status = .enrolled

/-- `confirm_locally`, `membership.rs:267-284` -/
def confirmLocally (nowMs : Int64)
    (policy : OrganizationPolicyDocument) : Except OrgError HostMembership := do
  failIf (membership.status = .revoked) .membershipRevoked
  failIf (membership.policyRevision ≠ policy.revision ∨
    membership.policyHashHex ≠ policy.contentHashHex) .stalePolicy
  return { membership with
    status := .enrolled, enrolledAtMs := some nowMs, lastSeenAtMs := some nowMs }

/-- `unenroll_offline`, `membership.rs:317-320` -/
def unenrollOffline (nowMs : Int64) : HostMembership :=
  { membership with status := .unenrolled, revokedAtMs := some nowMs }

/-- `revoke`, `membership.rs:322-325` -/
def revoke (nowMs : Int64) : HostMembership :=
  { membership with status := .revoked, revokedAtMs := some nowMs }

/-- The error for a membership that is not enrolled (`managed.rs:145-153`, `376-384`). -/
def notEnrolledError : OrgError :=
  match membership.status with
  | .revoked => .membershipRevoked
  | .pendingLocalConfirm => .enrollmentNotConfirmed
  | _ => .hostUnenrolled

end HostMembership

end DevManager.Org
