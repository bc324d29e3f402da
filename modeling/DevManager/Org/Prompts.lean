import DevManager.Org.Managed

/-!
# Published prompts of an organization (`src/prompts/mod.rs`)

The portal publishes prompts, their versions and chains of versions in snapshots. The host
keeps what a snapshot brings beside what earlier ones brought; a version never changes.
-/

namespace DevManager.Org

open Std (ExtTreeMap)

/-- `ORGANIZATION_PROMPT_BODY_LIMIT_BYTES`, `protocol/org.rs:14` -/
def organizationPromptBodyLimitBytes : ℕ := 256 * 1024

/-- `ORGANIZATION_PROMPT_PAGE_ITEM_LIMIT`, `protocol/org.rs:15` -/
def organizationPromptPageItemLimit : ℕ := 100

/-- `ORG_PROMPT_CACHE_TTL_MS`, L48 -/
def orgPromptCacheTtlMs : Int64 := 24 * 60 * 60 * 1000

/-- `PromptLifecycle`, L52-55 -/
inductive PromptLifecycle
  | published | deprecated
deriving DecidableEq

/-- `OrgPromptVersion`, L59-68 -/
structure OrgPromptVersion where
  promptId : OrgPromptId
  versionId : OrgPromptVersionId
  author : PortalAccountId
  title : String
  tags : List String
  body : String
  contentHashHex : String
  publishedAtMs : Int64
deriving DecidableEq

/-- `OrgPrompt`, L72-79 -/
structure OrgPrompt where
  promptId : OrgPromptId
  tenantId : PortalTenantId
  promptNamespace : String
  name : String
  currentVersionId : OrgPromptVersionId
  lifecycle : PromptLifecycle
deriving DecidableEq

/-- `OrgPromptChainLink`, L83-86 -/
structure OrgPromptChainLink where
  position : ℕ
  versionId : OrgPromptVersionId
deriving DecidableEq

/-- `OrgPromptChain`, L90-95 -/
structure OrgPromptChain where
  chainId : OrgPromptChainId
  tenantId : PortalTenantId
  revision : ℕ
  links : List OrgPromptChainLink
deriving DecidableEq

/-- `CachedPrompt`, L107-111 -/
structure CachedPrompt where
  version : OrgPromptVersion
  cachedAtMs : Int64
  entitlementExpiresAtMs : Int64

/-- `OrganizationPromptSnapshot`, L115-121 -/
structure OrganizationPromptSnapshot where
  tenantId : PortalTenantId
  revision : ℕ
  prompts : List OrgPrompt
  versions : List OrgPromptVersion
  chains : List OrgPromptChain
deriving DecidableEq

/-- `prompt_key`, L539-546 -/
def OrgPrompt.key (prompt : OrgPrompt) : String :=
  prompt.tenantId.value.map Char.toLower ++ "::" ++ prompt.promptNamespace.map Char.toLower ++
    "::" ++ prompt.name.map Char.toLower

/-- `hash_body`, L548-557 -/
def hashBody [Externals] (body : String) : String := hexOfDigest (Externals.sha256 (asBytes body))

/-- `OrganizationPromptProjection` (L124-131). The text of an identifier determines
it, so the versions and chains are kept by identifier. -/
structure OrganizationPromptProjection where
  prompts : ExtTreeMap String OrgPrompt
  versions : ExtTreeMap OrgPromptVersionId OrgPromptVersion
  chains : ExtTreeMap OrgPromptChainId OrgPromptChain
  cache : ExtTreeMap OrgPromptVersionId CachedPrompt
  snapshotRevision : ℕ
  acceptedSnapshot : Option OrganizationPromptSnapshot

namespace OrganizationPromptProjection

/-- `new`, L134-136 -/
def new : OrganizationPromptProjection := ⟨∅, ∅, ∅, ∅, 0, none⟩

/-- `purge` (L343-350): every field is that of `new`. -/
def purge (_ : OrganizationPromptProjection) : OrganizationPromptProjection := new

/-- One version of `validate_prompt_snapshot` (L454-475), with the versions of the
snapshot before it. -/
def checkVersion [Externals] (p : OrganizationPromptProjection)
    (earlier : ExtTreeMap OrgPromptVersionId OrgPromptVersion) (version : OrgPromptVersion) :
    Except OrgError (ExtTreeMap OrgPromptVersionId OrgPromptVersion) := do
  failIf (organizationPromptBodyLimitBytes < version.body.utf8ByteSize ∨
    organizationPromptBodyLimitBytes < version.title.utf8ByteSize ∨
    organizationPromptPageItemLimit < version.tags.length) .boundExceeded
  failIf (version.contentHashHex ≠ hashBody version.body) .immutableVersion
  failIf (∃ existing ∈ p.versions[version.versionId]?, existing ≠ version) .immutableVersion
  failIf (version.versionId ∈ earlier) .duplicateLink
  return earlier.insert version.versionId version

variable (p : OrganizationPromptProjection) (snapshot : OrganizationPromptSnapshot)

variable (versions : ExtTreeMap OrgPromptVersionId OrgPromptVersion)

/-- One prompt of `validate_prompt_snapshot` (L476-494). -/
def checkPrompt (prompt : OrgPrompt) :
    Except OrgError Unit := do
  failIf (prompt.tenantId ≠ snapshot.tenantId) .crossTenant
  let current ← okOr ((versions[prompt.currentVersionId]?).or p.versions[prompt.currentVersionId]?)
    .unlinked
  failIf (current.promptId ≠ prompt.promptId) .unlinked

/-- One link of a chain (L502-513). -/
def checkChainLink (entry : OrgPromptChainLink × ℕ) : Except OrgError Unit := do
  failIf (entry.1.position ≠ entry.2) .lastWriteWinsForbidden
  failIf (entry.1.versionId ∉ versions ∧ entry.1.versionId ∉ p.versions) .unlinked

/-- One chain of `validate_prompt_snapshot` (L495-514). -/
def checkChain (chain : OrgPromptChain) :
    Except OrgError Unit := do
  failIf (chain.tenantId ≠ snapshot.tenantId) .crossTenant
  failIf (organizationPromptPageItemLimit < chain.links.length) .boundExceeded
  chain.links.zipIdx.forM (p.checkChainLink versions)

/-- `validate_prompt_snapshot`, L449-516 -/
def validatePromptSnapshot [Externals] (p : OrganizationPromptProjection)
    (snapshot : OrganizationPromptSnapshot) : Except OrgError Unit := do
  let versions ← snapshot.versions.foldlM p.checkVersion ∅
  snapshot.prompts.forM (p.checkPrompt snapshot versions)
  snapshot.chains.forM (p.checkChain snapshot versions)

/-- What a snapshot adds (L419-444). -/
def accept (nowMs entitlementExpiresAtMs : Int64) : OrganizationPromptProjection where
  prompts := OrdMap.insertAll p.prompts (snapshot.prompts.map fun prompt => (prompt.key, prompt))
  versions := OrdMap.insertAll p.versions
    (snapshot.versions.map fun version => (version.versionId, version))
  chains := OrdMap.insertAll p.chains (snapshot.chains.map fun chain => (chain.chainId, chain))
  cache := OrdMap.insertAll p.cache (snapshot.versions.map fun version =>
    (version.versionId, ⟨version, nowMs, entitlementExpiresAtMs⟩))
  snapshotRevision := snapshot.revision
  acceptedSnapshot := some snapshot

/-- `apply_authoritative_snapshot`, L382-446 -/
def applyAuthoritativeSnapshot [Externals] (p : OrganizationPromptProjection)
    (membership : HostMembership) (snapshot : OrganizationPromptSnapshot)
    (nowMs entitlementExpiresAtMs : Int64) :
    Except OrgError (SyncOutcome × OrganizationPromptProjection) := do
  failIf (membership.isEnrolled = false ∨ membership.role.canReadPublished = false) .roleDenied
  failIf (membership.tenantId ≠ snapshot.tenantId) .crossTenant
  failIf (snapshot.revision = 0) .stalePolicy
  failIf (organizationPromptPageItemLimit < snapshot.prompts.length ∨
    organizationPromptPageItemLimit < snapshot.versions.length ∨
    organizationPromptPageItemLimit < snapshot.chains.length) .boundExceeded
  failIf (snapshot.revision < p.snapshotRevision) .stalePolicy
  if p.snapshotRevision = snapshot.revision ∧ p.snapshotRevision ≠ 0 then
    if p.acceptedSnapshot = some snapshot then .ok (.duplicate, p)
    else .error .lastWriteWinsForbidden
  else do
    p.validatePromptSnapshot snapshot
    return (.applied, p.accept snapshot nowMs entitlementExpiresAtMs)

end OrganizationPromptProjection

end DevManager.Org
