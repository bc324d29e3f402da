import DevManager.Org.Managed

/-!
# Local actions of an organization (`src/org/local_actions.rs`)

The portal asks the host to run an action; the host's own registry says how the action may
be repeated. The registry keeps the requests that it has admitted and where each of them
stands, and is restored from what it persists.
-/

namespace DevManager.Org

open Std (ExtTreeMap ExtTreeSet)

/-- `MAX_LOCAL_ACTION_PAYLOAD_BYTES`, L14 -/
def maxLocalActionPayloadBytes : ℕ := 16384

/-- `MAX_LOCAL_ACTION_SEEN`, L15 -/
def maxLocalActionSeen : ℕ := 128

/-- `MAX_LOCAL_ACTION_CATALOG`, L16 -/
def maxLocalActionCatalog : ℕ := 32

/-- `LocalActionKind`, L20-25 -/
inductive LocalActionKind
  | dbSchemaIntrospect | dbApprovedChangeApply | envDiff | envApprovedApply

/-- `ReplayPolicy`, L29-32 -/
inductive ReplayPolicy
  | idempotentSafe | neverAssumeRetrySafe
deriving DecidableEq

/-- `ActionRisk`, L36-39 -/
inductive ActionRisk
  | low | production
deriving DecidableEq

/-- `Admission`, L43-46 -/
inductive Admission
  | accepted | rejected
deriving DecidableEq

/-- `ActionOutcome`, L50-55 -/
inductive ActionOutcome
  | settled | failed | cancelled | uncertain
deriving DecidableEq

/-- `LocalActionRequest`, L59-73 -/
structure LocalActionRequest where
  requestId : LocalActionId
  tenantId : String
  hostId : String
  projectId : ProjectId
  kind : LocalActionKind
  version : ℕ
  payload : String
  risk : ActionRisk
  requiredApprovals : ℕ
  expectedTargetFingerprint : String
  expiryMs : Int64
  remoteReplayPolicyOverride : Option ReplayPolicy

/-- `LocalActionReconcileState`, L93-100 -/
inductive LocalActionReconcileState
  | awaitingHostExecution | rejected | uncertain | settled | failed | cancelled
deriving DecidableEq

/-- `LocalActionCatalogEntry`, L104-109 -/
structure LocalActionCatalogEntry where
  kind : LocalActionKind
  version : ℕ
  replayPolicy : ReplayPolicy
  risk : ActionRisk

/-- `LocalActionAdmissionState`, L113-119 -/
structure LocalActionAdmissionState where
  requestId : LocalActionId
  admission : Admission
  replayPolicy : Option ReplayPolicy
  outcome : Option ActionOutcome
  reconcile : LocalActionReconcileState
deriving DecidableEq

/-- `action_kind_tag`, L422-429 -/
def LocalActionKind.tag : LocalActionKind → ℕ
  | dbSchemaIntrospect => 1
  | dbApprovedChangeApply => 2
  | envDiff => 3
  | envApprovedApply => 4

/-- `contains_secret`, L431-438 -/
def containsSecret (value : String) : Bool :=
  ["password", "secret", "connection string", "api_key", "token="].any fun word =>
    word.toList <:+: value.toList.map Char.toLower

/-- The kind of an action and its version. -/
abbrev CatalogKey := PairKey ℕ ℕ

/-- The place of an entry in the catalog. -/
def LocalActionCatalogEntry.key (entry : LocalActionCatalogEntry) : CatalogKey :=
  ⟨entry.kind.tag, entry.version⟩

/-- `LocalActionRegistry`, L121-126 -/
structure LocalActionRegistry where
  seen : ExtTreeSet String
  catalog : ExtTreeMap CatalogKey LocalActionCatalogEntry
  states : ExtTreeMap String LocalActionAdmissionState

namespace LocalActionRegistry

/-- `new`, L129-131 -/
def new : LocalActionRegistry := ⟨∅, ∅, ∅⟩

/-- `replay_policy`, L133-145 -/
def replayPolicy (kind : LocalActionKind) (version : ℕ) : Except OrgError ReplayPolicy := do
  failIf (version = 0) .stalePolicy
  match kind with
  | .dbSchemaIntrospect | .envDiff => .ok .idempotentSafe
  | .dbApprovedChangeApply | .envApprovedApply => .ok .neverAssumeRetrySafe

/-- One entry of `bind_server_catalog` (L155-172). -/
def bindEntry (catalog : ExtTreeMap CatalogKey LocalActionCatalogEntry)
    (entry : LocalActionCatalogEntry) :
    Except OrgError (ExtTreeMap CatalogKey LocalActionCatalogEntry) := do
  failIf (entry.version = 0) .stalePolicy
  let expected ← replayPolicy entry.kind entry.version
  failIf (entry.replayPolicy ≠ expected) .lastWriteWinsForbidden
  failIf (entry.risk = .production ∧ entry.replayPolicy ≠ .neverAssumeRetrySafe)
    .productionRiskNotRetrySafe
  failIf (entry.key ∈ catalog) .duplicateLink
  return catalog.insert entry.key entry

variable (r : LocalActionRegistry)

/-- `bind_server_catalog`, L147-175 -/
def bindServerCatalog (entries : List LocalActionCatalogEntry) :
    Except OrgError LocalActionRegistry := do
  failIf (maxLocalActionCatalog < entries.length) .boundExceeded
  let catalog ← entries.foldlM bindEntry ∅
  return { r with catalog }

/-- The checks of a request against the membership and the host (L211-250). The
requirement of a membership is that the owner approves. -/
def checkRequest (membership : HostMembership) (request : LocalActionRequest) (localHostId : String)
    (localProject : ProjectId) (localFingerprint : String) (ownerApproved : Bool) (nowMs : Int64) :
    Except OrgError Unit := do
  failIf (maxLocalActionPayloadBytes < request.payload.utf8ByteSize) .boundExceeded
  failIf (membership.isEnrolled = false) .hostUnenrolled
  failIf (request.tenantId ≠ membership.tenantId.value) .crossTenant
  failIf (request.hostId ≠ localHostId) .hostUnenrolled
  failIf (request.projectId ≠ localProject) .crossTenant
  failIf (request.expiryMs ≤ nowMs) .expired
  failIf (0 < request.requiredApprovals ∧ ownerApproved = false ∧ membership.role ≠ .owner)
    .missingApproval
  failIf (ownerApproved = false) .missingApproval
  failIf (request.expectedTargetFingerprint ≠ localFingerprint) .fingerprintMismatch
  failIf (request.remoteReplayPolicyOverride ≠ none) .lastWriteWinsForbidden
  failIf (containsSecret request.payload = true) .prohibitedField

/-- The check of a request against the catalog (L252-261). -/
def checkCatalog (request : LocalActionRequest) (policy : ReplayPolicy) :
    Except OrgError Unit :=
  match r.catalog[(⟨request.kind.tag, request.version⟩ : CatalogKey)]? with
  | some entry => failIf (entry.replayPolicy ≠ policy ∨ entry.risk ≠ request.risk) .stalePolicy
  | none => failIf (r.catalog.isEmpty = false) .stalePolicy

/-- The state of a request that was just admitted (L273-279). -/
def admitted (requestId : LocalActionId) (policy : ReplayPolicy) : LocalActionAdmissionState :=
  ⟨requestId, .accepted, some policy, none, .awaitingHostExecution⟩

/-- `admit_with_state`, L201-282 -/
def admitWithState [UuidExternals] (r : LocalActionRegistry) (membership : HostMembership)
    (request : LocalActionRequest) (localHostId : String) (localProject : ProjectId)
    (localFingerprint : String) (ownerApproved : Bool) (nowMs : Int64) :
    Except OrgError (LocalActionAdmissionState × LocalActionRegistry) := do
  checkRequest membership request localHostId localProject localFingerprint ownerApproved nowMs
  let policy ← replayPolicy request.kind request.version
  r.checkCatalog request policy
  failIf (request.risk = .production ∧ policy ≠ .neverAssumeRetrySafe) .productionRiskNotRetrySafe
  let requestKey := UuidExternals.text request.requestId.payload
  failIf (requestKey ∈ r.seen) .replay
  failIf (maxLocalActionSeen ≤ r.seen.size) .boundExceeded
  let state := admitted request.requestId policy
  return (state, { r with
    seen := r.seen.insert requestKey, states := r.states.insert requestKey state })

/-- `mark_uncertain` (L284-300): a state that awaits its execution becomes
uncertain; any other that is not uncertain stays, and is an error. -/
def markUncertain [UuidExternals] (r : LocalActionRegistry) (requestId : LocalActionId) :
    Except OrgError (LocalActionAdmissionState × LocalActionRegistry) := do
  let key := UuidExternals.text requestId.payload
  let state ← okOr r.states[key]? .unlinked
  if state.reconcile = .awaitingHostExecution then
    let state := { state with outcome := some .uncertain, reconcile := .uncertain }
    .ok (state, { r with states := r.states.insert key state })
  else if state.reconcile = .uncertain then .ok (state, r)
  else .error .uncertainOutcome

/-- What an admission and an outcome say of a request (L331-348). -/
def reconciled : Admission → Option ActionOutcome → LocalActionReconcileState
  | .rejected, _ => .rejected
  | .accepted, some .settled => .settled
  | .accepted, some .failed => .failed
  | .accepted, some .cancelled => .cancelled
  | .accepted, some .uncertain => .uncertain
  | .accepted, none => .awaitingHostExecution

/-- `reconcile_remote_state`, L318-353 -/
def reconcileRemoteState [UuidExternals] (r : LocalActionRegistry) (requestId : LocalActionId)
    (admission : Admission) (outcome : Option ActionOutcome) :
    Except OrgError (SyncOutcome × LocalActionRegistry) := do
  let key := UuidExternals.text requestId.payload
  let state ← okOr r.states[key]? .unlinked
  failIf (state.outcome ≠ none ∧ state.outcome ≠ outcome) .lastWriteWinsForbidden
  let next := { state with
    admission, outcome, reconcile := reconciled admission outcome }
  if state = next then .ok (.duplicate, r)
  else .ok (.applied, { r with states := r.states.insert key next })

/-- `persist_states`, L367-369 -/
def persistStates : List LocalActionAdmissionState :=
  r.states.toList.map Prod.snd

/-- `persist_catalog`, L371-373 -/
def persistCatalog : List LocalActionCatalogEntry :=
  r.catalog.toList.map Prod.snd

/-- `persist_seen`, L375-377 -/
def persistSeen : List String := r.seen.toList

/-- One identifier of `restore` (L390-397). -/
def restoreSeen (seen : ExtTreeSet String) (id : String) : Except OrgError (ExtTreeSet String) := do
  failIf (trim id = "") .emptyIdentity
  failIf (id ∈ seen) .replay
  return seen.insert id

/-- One state of `restore` (L399-406). -/
def restoreState [UuidExternals]
    (restored : ExtTreeSet String × ExtTreeMap String LocalActionAdmissionState)
    (state : LocalActionAdmissionState) :
    Except OrgError (ExtTreeSet String × ExtTreeMap String LocalActionAdmissionState) := do
  let key := UuidExternals.text state.requestId.payload
  failIf (key ∈ restored.2) .replay
  return (restored.1.insert key, restored.2.insert key state)

/-- `restore`, L379-413 -/
def restore [UuidExternals] (catalog : List LocalActionCatalogEntry)
    (states : List LocalActionAdmissionState) (seen : List String) :
    Except OrgError LocalActionRegistry := do
  let registry ← new.bindServerCatalog catalog
  failIf (maxLocalActionSeen < states.length ∨ maxLocalActionSeen < seen.length) .boundExceeded
  let restoredSeen ← seen.foldlM restoreSeen ∅
  let restored ← states.foldlM restoreState (restoredSeen, ∅)
  failIf (maxLocalActionSeen < restored.1.size) .boundExceeded
  return { registry with seen := restored.1, states := restored.2 }

end LocalActionRegistry

end DevManager.Org
