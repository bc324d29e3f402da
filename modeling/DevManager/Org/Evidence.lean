import DevManager.Domain.Agent
import DevManager.Org.Managed

/-!
# Evidence bundles (`src/org/evidence.rs`)

A bundle carries the transcript of a capture and the text of a task that it proposes. The
intake takes a bundle once, from a signer that it trusts, and keeps the identifiers of the
bundles and the signers; what it hands on is metadata only.
-/

namespace DevManager.Org

open Std (ExtTreeSet)

/-! ## Limits (L14-20) -/

def evidenceBundleVersion : ℕ := 1

def maxEvidenceSegments : ℕ := 32

def maxEvidenceMediaRefs : ℕ := 32

def maxEvidenceCriteria : ℕ := 32

def maxEvidenceSteps : ℕ := 32

def maxEvidenceLabels : ℕ := 16

def maxEvidenceTextBytes : ℕ := 4096

/-! ## Bundles -/

/-- `EvidenceSegment`, L47-52 -/
structure EvidenceSegment where
  startedAtMs : Int64
  endedAtMs : Int64
  redacted : Bool
  text : Option String

/-- `EvidenceMediaRef`, L56-59 -/
structure EvidenceMediaRef where
  label : String
  digestHex : String

/-- `EvidenceBundle`, L24-43 -/
structure EvidenceBundle where
  manifestVersion : UInt16
  bundleId : EvidenceBundleId
  captureStartedAtMs : Int64
  captureEndedAtMs : Int64
  timezone : String
  sourceDevice : String
  sourceUser : String
  transcriptSegments : List EvidenceSegment
  mediaRefs : List EvidenceMediaRef
  proposedTitle : String
  proposedSummary : String
  acceptanceCriteria : List String
  steps : List String
  privacyLabels : List String
  redactions : List String
  contentHashHex : String
  signatureHex : String
  signer : String

/-- `TaskDraft`, L63-72 -/
structure TaskDraft where
  draftId : TaskDraftId
  bundleId : EvidenceBundleId
  title : String
  summary : String
  acceptanceCriteria : List String
  selectedEvidence : List String
  scope : TaskScope
  reviewed : Bool

/-- `EvidenceMetadataProjection`, L83-93 -/
structure EvidenceMetadataProjection where
  draft : TaskDraft
  captureStartedAtMs : Int64
  captureEndedAtMs : Int64
  timezone : String
  privacyLabels : List String
  redactions : List String
  contentHashHex : String
  signer : String
  rawContentIncluded : Bool

/-! ## The hash of a bundle -/

/-- `hash_len_prefixed` (L398-401): the bytes that it feeds to the hash. -/
def lenPrefixed (bytes : List UInt8) : List UInt8 := toLeBytes bytes.length ++ bytes

/-- `hash_string_list`, L391-396 -/
def stringListBytes (items : List String) : List UInt8 :=
  toLeBytes items.length ++ items.flatMap fun item => lenPrefixed (asBytes item)

/-- One segment in the hash of a bundle (L359-370). -/
def EvidenceSegment.bytes (segment : EvidenceSegment) : List UInt8 :=
  toLeBytesSigned segment.startedAtMs ++ toLeBytesSigned segment.endedAtMs ++
    [if segment.redacted then 1 else 0] ++
    match segment.text with
    | some text => 1 :: lenPrefixed (asBytes text)
    | none => [0]

/-- One reference in the hash of a bundle (L372-375). -/
def EvidenceMediaRef.bytes (media : EvidenceMediaRef) : List UInt8 :=
  lenPrefixed (asBytes media.label) ++ lenPrefixed (asBytes media.digestHex)

/-- `compute_bundle_hash_bytes`, L349-389 -/
def computeBundleHash [Externals] [UuidExternals] (bundle : EvidenceBundle) : String :=
  hexOfDigest (Externals.sha256 (asBytes "evidence.v1" ++
    [UInt8.ofNat bundle.manifestVersion.toNat, UInt8.ofNat (bundle.manifestVersion.toNat / 256)] ++
    lenPrefixed (asBytes (UuidExternals.text bundle.bundleId.payload)) ++
    toLeBytesSigned bundle.captureStartedAtMs ++ toLeBytesSigned bundle.captureEndedAtMs ++
    lenPrefixed (asBytes bundle.timezone) ++ lenPrefixed (asBytes bundle.sourceDevice) ++
    lenPrefixed (asBytes bundle.sourceUser) ++ toLeBytes bundle.transcriptSegments.length ++
    bundle.transcriptSegments.flatMap EvidenceSegment.bytes ++ toLeBytes bundle.mediaRefs.length ++
    bundle.mediaRefs.flatMap EvidenceMediaRef.bytes ++ lenPrefixed (asBytes bundle.proposedTitle) ++
    lenPrefixed (asBytes bundle.proposedSummary) ++ stringListBytes bundle.acceptanceCriteria ++
    stringListBytes bundle.steps ++ stringListBytes bundle.privacyLabels ++
    stringListBytes bundle.redactions ++ lenPrefixed (asBytes bundle.signer)))

/-! ## The intake -/

/-- `EvidenceIntake`, L95-101 -/
structure EvidenceIntake where
  imported : ExtTreeSet String
  trustedSigners : ExtTreeSet String
  tenantId : Option PortalTenantId
  e2eRawAuthorized : Bool

namespace EvidenceIntake

/-- `new` with no signers (L104-111). -/
def new : EvidenceIntake := ⟨∅, ∅, none, false⟩

variable (e : EvidenceIntake)

/-- `bind_tenant`, L113-115 -/
def bindTenant (tenantId : PortalTenantId) : EvidenceIntake :=
  { e with tenantId := some tenantId }

/-- `authorize_e2e_raw`, L117-119 -/
def authorizeE2eRaw (authorized : Bool) : EvidenceIntake :=
  { e with e2eRawAuthorized := authorized }

/-- One identifier of `restore` (L149-154). -/
def restoreImported [UuidExternals] (imported : ExtTreeSet String) (id : String) :
    Except OrgError (ExtTreeSet String) := do
  failIf (UuidExternals.parse id = none) .emptyIdentity
  failIf (id ∈ imported) .replay
  return imported.insert id

/-- One signer of `restore` (L156-163). -/
def restoreSigner (signers : ExtTreeSet String) (signer : String) :
    Except OrgError (ExtTreeSet String) := do
  failIf (trim signer = "") .emptyIdentity
  failIf (signer ∈ signers) .replay
  return signers.insert signer

/-- `restore`, L137-170 -/
def restore [UuidExternals] (importedIds trustedSigners : List String)
    (tenantId : Option PortalTenantId) (e2eRawAuthorized : Bool) :
    Except OrgError EvidenceIntake := do
  failIf (maxEvidenceLabels * 8 < importedIds.length ∨ maxEvidenceLabels < trustedSigners.length)
    .boundExceeded
  let imported ← importedIds.foldlM restoreImported ∅
  let signers ← trustedSigners.foldlM restoreSigner ∅
  return ⟨imported, signers, tenantId, e2eRawAuthorized⟩

/-- `trust_signer`, L172-184 -/
def trustSigner (signer : String) : Except OrgError EvidenceIntake := do
  failIf (trim signer = "") .emptyIdentity
  failIf (maxEvidenceLabels ≤ e.trustedSigners.size ∧ signer ∉ e.trustedSigners) .boundExceeded
  return { e with trustedSigners := e.trustedSigners.insert signer }

variable (bundle : EvidenceBundle)

/-- The checks of one segment, after the one before it (L222-243). -/
def checkSegment
    (previous : Option EvidenceSegment) (segment : EvidenceSegment) : Except OrgError Unit := do
  failIf (segment.endedAtMs < segment.startedAtMs ∨
    segment.startedAtMs < bundle.captureStartedAtMs ∨
    bundle.captureEndedAtMs < segment.endedAtMs) .boundExceeded
  failIf (∃ before ∈ previous, segment.startedAtMs < before.startedAtMs) .boundExceeded
  match segment.text with
  | none => .ok ()
  | some text => do
    failIf (maxEvidenceTextBytes < text.utf8ByteSize) .boundExceeded
    failIf (e.e2eRawAuthorized = false ∧ segment.redacted = false) .prohibitedField

/-- The checks of one reference (L244-260). -/
def checkMedia (media : EvidenceMediaRef) : Except OrgError Unit := do
  failIf (trim media.label = "" ∨ trim media.digestHex = "" ∨
    maxEvidenceTextBytes < media.label.utf8ByteSize) .untrustedSigner
  failIf (media.digestHex.utf8ByteSize ≠ 64 ∨ media.digestHex.toList.all isHexDigit = false)
    .tamperedEvidence

/-- `validate`, L186-271 -/
def validate [Externals] [UuidExternals] (e : EvidenceIntake) (bundle : EvidenceBundle) :
    Except OrgError String := do
  failIf (bundle.manifestVersion.toNat ≠ evidenceBundleVersion) .stalePolicy
  failIf (bundle.captureEndedAtMs < bundle.captureStartedAtMs) .boundExceeded
  failIf (trim bundle.timezone = "" ∨ trim bundle.sourceDevice = "" ∨
    trim bundle.sourceUser = "" ∨ trim bundle.signer = "") .emptyIdentity
  failIf (maxEvidenceSegments < bundle.transcriptSegments.length ∨
    maxEvidenceMediaRefs < bundle.mediaRefs.length ∨
    maxEvidenceCriteria < bundle.acceptanceCriteria.length ∨
    maxEvidenceSteps < bundle.steps.length ∨
    maxEvidenceLabels < bundle.privacyLabels.length ∨
    maxEvidenceLabels < bundle.redactions.length ∨
    maxEvidenceTextBytes < bundle.proposedTitle.utf8ByteSize ∨
    maxEvidenceTextBytes < bundle.proposedSummary.utf8ByteSize) .boundExceeded
  (bundle.acceptanceCriteria ++ bundle.steps ++ bundle.privacyLabels ++ bundle.redactions).forM
    fun item => failIf (maxEvidenceTextBytes < item.utf8ByteSize) .boundExceeded
  bundle.transcriptSegments.zipIdx.forM fun (segment, index) =>
    e.checkSegment bundle
      (if index = 0 then none else bundle.transcriptSegments[index - 1]?) segment
  bundle.mediaRefs.forM checkMedia
  let expected := computeBundleHash bundle
  failIf (expected ≠ bundle.contentHashHex) .tamperedEvidence
  failIf (bundle.signer ∉ e.trustedSigners) .untrustedSigner
  failIf (bundle.signatureHex ≠ expected) .tamperedEvidence
  return expected

/-- The draft of a bundle (L294-307). -/
def draftOf (draftId : TaskDraftId) : TaskDraft where
  draftId := draftId
  bundleId := bundle.bundleId
  title := bundle.proposedTitle
  summary := bundle.proposedSummary
  acceptanceCriteria := bundle.acceptanceCriteria
  selectedEvidence := bundle.mediaRefs.map EvidenceMediaRef.digestHex
  scope := .personal
  reviewed := false

/-- `project_metadata`, L311-327 -/
def projectMetadata (draft : TaskDraft) : EvidenceMetadataProjection :=
  { bundle with draft, rawContentIncluded := false }

/-- `ingest_for_tenant` (L278-309). `draftId` is the fresh identifier of the draft. -/
def ingestForTenant [Externals] [UuidExternals] (e : EvidenceIntake)
    (tenantId : Option PortalTenantId) (bundle : EvidenceBundle) (draftId : TaskDraftId) :
    Except OrgError (EvidenceMetadataProjection × EvidenceIntake) := do
  let _ ← e.validate bundle
  (match e.tenantId, tenantId with
  | some bound, some expected => failIf (bound ≠ expected) .crossTenant
  | some _, none => .error .crossTenant
  | none, _ => .ok ())
  let id := UuidExternals.text bundle.bundleId.payload
  failIf (id ∈ e.imported) .replay
  return (projectMetadata bundle (draftOf bundle draftId),
    { e with imported := e.imported.insert id })

end EvidenceIntake

end DevManager.Org
