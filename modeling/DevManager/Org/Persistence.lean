import DevManager.Domain.PayloadWire
import DevManager.Org.Projection

/-!
# The stored state of an organization (`src/org/persistence.rs`)

A projection is exported to a document, which is written as JSON, and a document is restored
to a projection. The exporter writes any state. The restorer checks the document, derives
the mode from the state of the synchronization, and applies the stored prompt snapshot anew.
-/

namespace DevManager.Org

open Std (ExtTreeMap ExtTreeSet)

/-- `ORGANIZATION_STATE_SCHEMA_VERSION`, L24 -/
def organizationStateSchemaVersion : ℕ := 1

/-- `PersistedSeenFact`, L49-52 -/
structure PersistedSeenFact where
  key : SeenKey
  hashHex : String

/-- A stored `Uuid`: one of version 7, or another one. -/
inductive StoredUuid
  | v7 (id : ConnectHostId)
  | other
deriving DecidableEq

/-- `OrganizationStateDocument`, L56-78 -/
structure OrganizationStateDocument where
  schemaVersion : ℕ
  tenantId : Option String
  accountId : Option String
  hostId : Option StoredUuid
  deviceId : Option String
  syncState : OrganizationSyncState
  authenticatedOnline : Bool
  membership : Option HostMembership
  policy : Option OrganizationPolicyDocument
  membershipRevision : Option ℕ
  membershipFactHash : Option String
  seenFacts : List PersistedSeenFact
  managedLinks : List ManagedTaskLink
  promptSnapshot : Option OrganizationPromptSnapshot
  localActionCatalog : List LocalActionCatalogEntry
  localActionStates : List LocalActionAdmissionState
  localActionSeen : List String
  evidenceImportedIds : List String
  evidenceTrustedSigners : List String
  evidenceE2eRawAuthorized : Bool
  telemetryOutbox : List PersistedOutboxIntent

/-! ## Hashes as text -/

/-- `u8::from_str_radix` of two characters, of which the first may be a plus sign. -/
def fromStrRadix16 (hi lo : Char) : Option UInt8 :=
  match hexValue hi, hexValue lo with
  | .ok hi, .ok lo => some (UInt8.ofNat (hi * 16 + lo))
  | .error _, .ok lo => if hi = '+' then some (UInt8.ofNat lo) else none
  | _, .error _ => none

/-- The loop of `decode_hash32` (L549-555). A character that is not ASCII is no
digit, in whatever pair of bytes it falls. -/
def decodePairs : List Char → Option (List UInt8)
  | [] => some []
  | [_] => none
  | hi :: lo :: rest => do
    let byte ← fromStrRadix16 hi lo
    let bytes ← decodePairs rest
    return byte :: bytes

/-- `decode_hash32`, L544-557 -/
def decodeHash32 (hexp : String) : Except OrgError Digest := do
  failIf (hexp.utf8ByteSize ≠ 64) .corruptState
  let bytes ← okOr (decodePairs hexp.toList) .corruptState
  if h : bytes.toArray.size = 32 then return ⟨bytes.toArray, h⟩ else .error .corruptState

/-! ## Exporting -/

namespace OrganizationProjection

variable (p : OrganizationProjection)

/-- `persisted_seen_facts`, `mod.rs:625-633` -/
def persistedSeenFacts : List PersistedSeenFact :=
  p.seenFacts.toList.map fun e => ⟨e.1, hexOfDigest e.2⟩

/-- The document of a state (L178-231). -/
def document : OrganizationStateDocument where
  schemaVersion := organizationStateSchemaVersion
  tenantId := (p.membership.map fun membership => membership.tenantId.value).or
    (p.signedInAccount.map fun account => account.tenantId.value)
  accountId := (p.membership.map fun membership => membership.accountId.value).or
    (p.signedInAccount.map fun account => account.accountId.value)
  hostId := p.membership.map fun membership => .v7 membership.hostId
  deviceId := ((p.membership.bind HostMembership.deviceId).or
    (p.signedInAccount.bind ExternalAccount.deviceId)).map ExternalId.value
  syncState := p.syncState
  authenticatedOnline := p.authenticatedOnline
  membership := p.membership
  policy := p.policy
  membershipRevision := p.membershipRevision
  membershipFactHash := p.membershipFactHash.map hexOfDigest
  seenFacts := p.persistedSeenFacts
  managedLinks := p.links.links
  promptSnapshot := p.promptSnapshot
  localActionCatalog := p.localActions.persistCatalog
  localActionStates := p.localActions.persistStates
  localActionSeen := p.localActions.persistSeen
  evidenceImportedIds := p.evidence.imported.toList
  evidenceTrustedSigners := p.evidence.trustedSigners.toList
  evidenceE2eRawAuthorized := p.evidence.e2eRawAuthorized
  telemetryOutbox := p.telemetryOutbox.toList.map Prod.snd

/-- `export_state`, L174-232 -/
def exportState : Except OrgError OrganizationStateDocument := do
  failIf (maxOrganizationOutboxIntents < p.telemetryOutbox.size) .boundExceeded
  return p.document

end OrganizationProjection

/-! ## Restoring -/

namespace OrganizationStateDocument

/-- One intent of `validate_document` (L384-389). -/
def checkIntent (ids : ExtTreeSet String) (intent : PersistedOutboxIntent) :
    Except OrgError (ExtTreeSet String) := do
  validateOutboxIntent intent
  failIf (intent.observationIdHex ∈ ids) .replay
  return ids.insert intent.observationIdHex

variable (document : OrganizationStateDocument)

/-- The check of a membership against its policy (L390-413). -/
def checkPolicy (membership : HostMembership)
    (policy : OrganizationPolicyDocument) : Except OrgError Unit := do
  failIf (membership.tenantId ≠ policy.tenantId) .crossTenant
  failIf (∃ tenantId ∈ document.tenantId, membership.tenantId.value ≠ tenantId) .crossTenant
  failIf (∃ hostId ∈ document.hostId, StoredUuid.v7 membership.hostId ≠ hostId) .corruptState
  failIf ((document.syncState = .enrolled ∨ document.syncState = .revoked ∨
    document.syncState = .expired) ∧ membership.policyRevision ≠ policy.revision) .stalePolicy

/-- The check of the membership, if there is one and a policy (L390-413). -/
def checkMembership : Except OrgError Unit :=
  match document.membership, document.policy with
  | some membership, some policy => document.checkPolicy membership policy
  | _, _ => .ok ()

/-- The check of an enrolled host (L414-430). -/
def checkEnrolled : Except OrgError Unit := do
  let membership ← okOr document.membership .corruptState
  failIf (membership.isEnrolled = false) .corruptState
  failIf (document.policy = none) .corruptState
  document.managedLinks.forM fun link => do
    failIf (link.tenantId ≠ membership.tenantId) .crossTenant
    failIf (link.hostId ≠ membership.hostId) .corruptState

/-- `validate_document`, L365-437 -/
def validateDocument : Except OrgError Unit := do
  failIf (document.schemaVersion ≠ organizationStateSchemaVersion) .corruptState
  failIf (document.hostId = some .other) .corruptState
  failIf (∃ tenantId ∈ document.tenantId,
    (ExternalId.parse tenantId : Option PortalTenantId) = none)
    .corruptState
  failIf (∃ accountId ∈ document.accountId,
    (ExternalId.parse accountId : Option PortalAccountId) = none) .corruptState
  failIf (maxSeenFacts < document.seenFacts.length ∨
    maxOrganizationOutboxIntents < document.telemetryOutbox.length) .boundExceeded
  let _ ← document.telemetryOutbox.foldlM checkIntent ∅
  document.checkMembership
  (if document.syncState = .enrolled then document.checkEnrolled else .ok ())
  failIf (document.syncState = .standalone ∧
    (document.membership ≠ none ∨ document.managedLinks ≠ [])) .corruptState

/-- The account of a host that is signed in (L323-345). -/
def restoreAccount : Except OrgError ExternalAccount := do
  let tenantId ← okOr document.tenantId .corruptState
  let tenantId ← okOr (ExternalId.parse tenantId) .corruptState
  let accountId ← okOr document.accountId .corruptState
  let accountId ← okOr (ExternalId.parse accountId) .corruptState
  match document.deviceId with
  | none => return ⟨tenantId, accountId, none⟩
  | some deviceId => do
    let deviceId ← okOr (ExternalId.parse deviceId) .corruptState
    return ⟨tenantId, accountId, some deviceId⟩

/-- `restore_mode`, L320-363 -/
def restoreMode : Except OrgError OperatingMode :=
  match document.syncState with
  | .standalone => .ok .anonymousLocal
  | .signedIn => document.restoreAccount.map .connectSignedIn
  | .enrolled | .unlinked | .revoked | .expired => do
    let membership ← okOr document.membership .corruptState
    failIf (∃ hostId ∈ document.hostId, StoredUuid.v7 membership.hostId ≠ hostId) .corruptState
    return .hostEnrolled membership

/-- One seen fact of `restore_from_document` (L267-274). -/
def restoreSeenFact (seenFacts : ExtTreeMap SeenKey Digest) (fact : PersistedSeenFact) :
    Except OrgError (ExtTreeMap SeenKey Digest) := do
  let hash ← decodeHash32 fact.hashHex
  failIf (fact.key ∈ seenFacts) .replay
  return seenFacts.insert fact.key hash

/-- One intent of `restore_from_document` (L281-289). -/
def restoreIntent (outbox : ExtTreeMap String PersistedOutboxIntent)
    (intent : PersistedOutboxIntent) :
    Except OrgError (ExtTreeMap String PersistedOutboxIntent) := do
  validateOutboxIntent intent
  failIf (intent.observationIdHex ∈ outbox) .replay
  return outbox.insert intent.observationIdHex intent

/-- `a.saturating_add(b)`. -/
def saturatingAdd (a b : Int64) : Int64 := Int64.ofIntClamp (a.toInt + b.toInt)

/-- The stored snapshot is applied to what was restored (L305-315). -/
def reapply [Externals] (p : OrganizationProjection) :
    Option OrganizationPromptSnapshot → Except OrgError OrganizationProjection
  | none => .ok p
  | some snapshot => do
    let nowMs := (p.membership.bind HostMembership.lastSeenAtMs).getD 1
    let (_, p') ← p.applyPromptSnapshot snapshot nowMs (saturatingAdd nowMs orgPromptCacheTtlMs)
    return p'

/-- The tenant that the evidence is bound to (L254-259). -/
def evidenceTenant :
    Except OrgError (Option PortalTenantId) :=
  match document.tenantId with
  | none => .ok none
  | some tenantId => (okOr (ExternalId.parse tenantId) .corruptState).map some

/-- The hash of the last membership fact (L275-279). -/
def membershipHash : Except OrgError (Option Digest) :=
  match document.membershipFactHash with
  | none => .ok none
  | some hash => (decodeHash32 hash).map some

/-- `restore_from_document`, L243-317 -/
def restore [Externals] [UuidExternals] (document : OrganizationStateDocument) :
    Except OrgError OrganizationProjection := do
  document.validateDocument
  let mode ← document.restoreMode
  let localActions ← LocalActionRegistry.restore document.localActionCatalog
    document.localActionStates document.localActionSeen
  let links ← TaskLinkReducer.restore document.managedLinks
  let tenantId ← document.evidenceTenant
  let evidence ← EvidenceIntake.restore document.evidenceImportedIds
    document.evidenceTrustedSigners tenantId document.evidenceE2eRawAuthorized
  let seenFacts ← document.seenFacts.foldlM restoreSeenFact ∅
  let membershipFactHash ← document.membershipHash
  let telemetryOutbox ← document.telemetryOutbox.foldlM restoreIntent ∅
  reapply { document with
    mode, links, prompts := .new, localActions, evidence, seenFacts, membershipFactHash,
    telemetryOutbox } document.promptSnapshot

end OrganizationStateDocument

end DevManager.Org
