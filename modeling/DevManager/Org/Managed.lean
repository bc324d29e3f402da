import DevManager.Lib.Bytes
import DevManager.Lib.Calls
import DevManager.Lib.OrdMap
import DevManager.Org.Identity

/-!
# Links between tasks and board cards (`src/org/managed.rs`)

A link ties one task of a host to one board card. The reducer keeps the links by task
and, beside them, the cards that are held. The host links and unlinks; the portal sends
snapshots of the links as it sees them; a restart restores the stored links.
-/

namespace DevManager.Org

open Std (ExtTreeMap ExtTreeSet)

/-- What `uuid::Uuid` answers for the identifier with a given payload: its 16 bytes, its text, and
the payload that a text is read as when it is of version 7. The text has no space around it,
and is read as the identifier that it was written for. -/
class UuidExternals where
  bytes : ℕ → Vector UInt8 16
  text : ℕ → String
  parse : String → Option ℕ
  canonical_text : ∀ n, Canonical.isCanonical (text n) = true
  parse_text : ∀ n, parse (text n) = some n

theorem trim_text [UuidExternals] (n : ℕ) : trim (UuidExternals.text n) ≠ "" := by
  have hcan := UuidExternals.canonical_text n
  simp only [Canonical.isCanonical, Bool.and_eq_true, decide_eq_true_eq] at hcan
  exact fun h => hcan.1 (hcan.2.trans h)

/-- `MAX_MANAGED_LINKS`, L18 -/
def maxManagedLinks : ℕ := 128

/-- `EnrollmentState`, L22-27 -/
inductive EnrollmentState
  | pendingOwnerAccept | enrolled | unlinked | closed
deriving DecidableEq

/-- `TitleConflict`, L49-54 -/
structure TitleConflict where
  localTitle : String
  portalTitle : String
  localRevision : ℕ
  portalRevision : ℕ

/-- `ManagedTaskLink`, L31-45 -/
structure ManagedTaskLink where
  hostId : ConnectHostId
  localTaskId : TaskId
  boardCardId : BoardCardId
  enrollmentState : EnrollmentState
  localRevision : ℕ
  portalRevision : ℕ
  metadataPolicyVersion : UInt32
  linkedBy : String
  linkedAt : Int64
  unlinkedAt : Option Int64
  linkId : ManagedLinkId
  tenantId : PortalTenantId
  titleConflict : Option TitleConflict

/-- `ManagedTaskSnapshot`, L58-71 -/
structure ManagedTaskSnapshot where
  hostId : ConnectHostId
  localTaskId : TaskId
  boardCardId : BoardCardId
  enrollmentState : EnrollmentState
  portalRevision : ℕ
  metadataPolicyVersion : UInt32
  linkedBy : String
  linkedAt : Int64
  unlinkedAt : Option Int64
  linkId : ManagedLinkId
  tenantId : PortalTenantId
  portalTitle : Option String

/-- `TaskScope` (`domain/org.rs:12-21`): the parts of `ManagedScope` are those of `managed`. -/
inductive TaskScope
  | personal
  | managed (linkId : String) (policyRevision : UInt32)

/-- `TaskScope::managed` (`domain/org.rs:45-50`, `68-77`). -/
def managedScope (linkId : String) (policyRevision : UInt32) : Option TaskScope := do
  let linkId ← Canonical.canonicalize linkId
  if policyRevision = 0 then none else some (.managed linkId policyRevision)

/-! ## Keys and hashes -/

/-- `host_task_key` (L448-453): the two identifiers as numbers. -/
abbrev HostTaskKey := PairKey ConnectHostId TaskId

instance : Std.TransOrd HostTaskKey := inferInstance

/-- The key of a link. -/
def ManagedTaskLink.key (link : ManagedTaskLink) : HostTaskKey := ⟨link.hostId, link.localTaskId⟩

/-- The tag of a state in a hash (L433-438). -/
def EnrollmentState.tag : EnrollmentState → UInt8
  | pendingOwnerAccept => 1
  | enrolled => 2
  | unlinked => 3
  | closed => 4

/-- `n.to_le_bytes()` of a `u32`. -/
def toLeBytes32 (n : UInt32) : List UInt8 := leBytes 4 n.toNat

/-- `n.to_le_bytes()` of an `i64`. -/
def toLeBytesSigned (n : Int64) : List UInt8 := toLeBytes n.toUInt64.toNat

/-- `fact_hash`, L428-446 -/
def ManagedTaskLink.factHash [Externals] [UuidExternals] (link : ManagedTaskLink) : Digest :=
  Externals.sha256 ((UuidExternals.bytes link.hostId.payload).toList ++
    (UuidExternals.bytes link.localTaskId.payload).toList ++ asBytes link.boardCardId.value ++
    [link.enrollmentState.tag] ++ toLeBytes link.portalRevision ++
    toLeBytes32 link.metadataPolicyVersion ++ asBytes link.linkedBy ++
    toLeBytesSigned link.linkedAt ++ asBytes (UuidExternals.text link.linkId.payload) ++
    asBytes link.tenantId.value)

/-- `snapshot_fields_match`, L418-426 -/
def snapshotFieldsMatch [Externals] [UuidExternals] (existing incoming : ManagedTaskLink) : Prop :=
  existing.enrollmentState = incoming.enrollmentState ∧
    existing.metadataPolicyVersion = incoming.metadataPolicyVersion ∧
    existing.linkedBy = incoming.linkedBy ∧ existing.linkedAt = incoming.linkedAt ∧
    existing.unlinkedAt = incoming.unlinkedAt ∧ existing.boardCardId = incoming.boardCardId ∧
    existing.factHash = incoming.factHash

instance [Externals] [UuidExternals] (existing incoming : ManagedTaskLink) :
    Decidable (snapshotFieldsMatch existing incoming) :=
  inferInstanceAs (Decidable (_ ∧ _))

/-- `link_from_snapshot`, L400-416 -/
def linkFromSnapshot (snapshot : ManagedTaskSnapshot) : ManagedTaskLink :=
  { snapshot with localRevision := 1, titleConflict := none }

/-- `validate_snapshot_identities`, L372-398 -/
def validateSnapshotIdentities (membership : HostMembership) (snapshot : ManagedTaskSnapshot) :
    Except OrgError Unit := do
  failIf (membership.isEnrolled = false) membership.notEnrolledError
  failIf (membership.hostId ≠ snapshot.hostId) .hostUnenrolled
  failIf (membership.tenantId ≠ snapshot.tenantId) .crossTenant
  failIf (snapshot.portalRevision = 0 ∨ snapshot.metadataPolicyVersion = 0) .stalePolicy
  failIf (Canonical.canonicalize snapshot.linkedBy = none) .emptyIdentity

/-! ## The reducer -/

/-- `TaskLinkReducer`, L122-125 -/
structure TaskLinkReducer where
  byTask : ExtTreeMap HostTaskKey ManagedTaskLink
  byCard : ExtTreeMap String ManagedLinkId

namespace TaskLinkReducer

/-- `new`, L128-130 -/
def new : TaskLinkReducer := ⟨∅, ∅⟩

variable (r : TaskLinkReducer)

/-- `get`, L181-183 -/
def get (hostId : ConnectHostId) (localTaskId : TaskId) :
    Option ManagedTaskLink := r.byTask[(⟨hostId, localTaskId⟩ : HostTaskKey)]?

/-- `scope_for` (L185-193); nothing where the source panics. -/
def scopeFor [UuidExternals] (r : TaskLinkReducer) (hostId : ConnectHostId) (localTaskId : TaskId) :
    Option TaskScope :=
  match r.get hostId localTaskId with
  | some link =>
    if link.enrollmentState = .enrolled then
      managedScope (UuidExternals.text link.linkId.payload) link.metadataPolicyVersion
    else some .personal
  | none => some .personal

/-- The link that `link` makes (L160-174). -/
def madeLink (membership : HostMembership) (localTaskId : TaskId) (boardCardId : BoardCardId)
    (linkedBy : String) (linkedAt : Int64) (policyRevision : UInt32) (linkId : ManagedLinkId) :
    ManagedTaskLink where
  hostId := membership.hostId
  localTaskId := localTaskId
  boardCardId := boardCardId
  enrollmentState := .enrolled
  localRevision := 1
  portalRevision := 1
  metadataPolicyVersion := policyRevision
  linkedBy := linkedBy
  linkedAt := linkedAt
  unlinkedAt := none
  linkId := linkId
  tenantId := membership.tenantId
  titleConflict := none

/-- `link` (L132-179). `linkId` is the fresh identifier of the link. -/
def link (membership : HostMembership) (localTaskId : TaskId)
    (boardCardId : BoardCardId) (linkedBy : String) (linkedAt : Int64) (policyRevision : UInt32)
    (linkId : ManagedLinkId) : Except OrgError (ManagedTaskLink × TaskLinkReducer) := do
  failIf (membership.isEnrolled = false) membership.notEnrolledError
  failIf (membership.role.isDisabled = true) .disabledMember
  failIf ((⟨membership.hostId, localTaskId⟩ : HostTaskKey) ∈ r.byTask) .duplicateLink
  failIf (boardCardId.value ∈ r.byCard) .duplicateLink
  let link := madeLink membership localTaskId boardCardId linkedBy linkedAt policyRevision linkId
  return (link, ⟨r.byTask.insert link.key link, r.byCard.insert boardCardId.value linkId⟩)

/-- `record_title_conflict` (L195-224): the link without a conflict, or the error; a
conflict is recorded and is an error. -/
def recordTitleConflict (hostId : ConnectHostId) (localTaskId : TaskId)
    (localTitle portalTitle : String) (localRevision portalRevision : ℕ) :
    Except OrgError ManagedTaskLink × TaskLinkReducer :=
  match r.get hostId localTaskId with
  | none => (.error .unlinked, r)
  | some link =>
    if localTitle = portalTitle then
      let link := { link with titleConflict := none }
      (.ok link, { r with byTask := r.byTask.insert ⟨hostId, localTaskId⟩ link })
    else if localRevision = portalRevision then (.error .lastWriteWinsForbidden, r)
    else
      let link := { link with
        titleConflict := some ⟨localTitle, portalTitle, localRevision, portalRevision⟩ }
      (.error .linkConflict, { r with byTask := r.byTask.insert ⟨hostId, localTaskId⟩ link })

/-- `unlink`, L226-240 -/
def unlink (hostId : ConnectHostId) (localTaskId : TaskId) (nowMs : Int64) :
    Except OrgError (ManagedTaskLink × TaskLinkReducer) := do
  let link ← okOr (r.get hostId localTaskId) .unlinked
  let link := { link with enrollmentState := .unlinked, unlinkedAt := some nowMs }
  return (link, ⟨r.byTask.insert ⟨hostId, localTaskId⟩ link, r.byCard.erase link.boardCardId.value⟩)

/-- `close`, L242-253 -/
def close (hostId : ConnectHostId) (localTaskId : TaskId) :
    Except OrgError (ManagedTaskLink × TaskLinkReducer) := do
  let link ← okOr (r.get hostId localTaskId) .unlinked
  let link := { link with enrollmentState := .closed }
  return (link, { r with byTask := r.byTask.insert ⟨hostId, localTaskId⟩ link })

/-- `enrolled_count`, L255-260 -/
def enrolledCount : ℕ :=
  OrdMap.countValues r.byTask fun link => link.enrollmentState = .enrolled

/-- `iter` (L270-272): the stored links, in the order of their tasks. -/
def links : List ManagedTaskLink := r.byTask.toList.map Prod.snd

/-- One link of `restore` (L281-299): the reducer so far, and the links and tasks seen.
The text of a link's identifier determines the identifier. -/
def restoreLink (state : TaskLinkReducer × ExtTreeSet ManagedLinkId × ExtTreeSet HostTaskKey)
    (link : ManagedTaskLink) :
    Except OrgError (TaskLinkReducer × ExtTreeSet ManagedLinkId × ExtTreeSet HostTaskKey) := do
  let (r, seenLinks, seenTasks) := state
  failIf (link.portalRevision = 0) .stalePolicy
  failIf (link.linkId ∈ seenLinks ∨ link.key ∈ seenTasks) .duplicateLink
  failIf (link.enrollmentState = .enrolled ∧ link.boardCardId.value ∈ r.byCard) .duplicateLink
  return (⟨r.byTask.insert link.key link,
      if link.enrollmentState = .enrolled then r.byCard.insert link.boardCardId.value link.linkId
      else r.byCard⟩,
    seenLinks.insert link.linkId, seenTasks.insert link.key)

/-- `restore`, L274-300 -/
def restore (links : List ManagedTaskLink) : Except OrgError TaskLinkReducer := do
  failIf (maxManagedLinks < links.length) .boundExceeded
  let (r, _, _) ← links.foldlM restoreLink (new, ∅, ∅)
  return r

/-- The first snapshot of a task (L311-331). -/
def applyFirst (incoming : ManagedTaskLink) :
    Except OrgError (SyncOutcome × TaskLinkReducer) :=
  if incoming.enrollmentState = .unlinked ∨ incoming.enrollmentState = .closed then
    .ok (.duplicate, r)
  else do
    failIf (maxManagedLinks ≤ r.byTask.size) .boundExceeded
    failIf (incoming.boardCardId.value ∈ r.byCard) .duplicateLink
    return (.applied, ⟨r.byTask.insert incoming.key incoming,
      if incoming.enrollmentState = .enrolled then
        r.byCard.insert incoming.boardCardId.value incoming.linkId
      else r.byCard⟩)

variable (existing incoming : ManagedTaskLink)

/-- What a newer snapshot leaves of a link (L354-361). -/
def updated : ManagedTaskLink :=
  { existing with
    enrollmentState := incoming.enrollmentState, portalRevision := incoming.portalRevision,
    metadataPolicyVersion := incoming.metadataPolicyVersion, linkedBy := incoming.linkedBy,
    linkedAt := incoming.linkedAt, unlinkedAt := incoming.unlinkedAt,
    titleConflict := incoming.titleConflict }

/-- The identity that a snapshot may not change (L333-340). -/
def SameIdentity : Prop :=
  existing.linkId = incoming.linkId ∧ existing.boardCardId = incoming.boardCardId ∧
    existing.tenantId = incoming.tenantId ∧ existing.hostId = incoming.hostId ∧
    existing.localTaskId = incoming.localTaskId

instance (existing incoming : ManagedTaskLink) : Decidable (SameIdentity existing incoming) :=
  inferInstanceAs (Decidable (_ ∧ _))

/-- A later snapshot of a task (L332-368). -/
def applyNext [Externals] [UuidExternals] (r : TaskLinkReducer)
    (existing incoming : ManagedTaskLink) : Except OrgError (SyncOutcome × TaskLinkReducer) := do
  failIf (¬ SameIdentity existing incoming) .linkConflict
  failIf (incoming.portalRevision < existing.portalRevision) .stalePolicy
  if incoming.portalRevision = existing.portalRevision then
    if snapshotFieldsMatch existing incoming then .ok (.duplicate, r)
    else .error .lastWriteWinsForbidden
  else
    return (.applied, ⟨r.byTask.insert incoming.key (updated existing incoming),
      if incoming.enrollmentState ≠ .enrolled then r.byCard.erase existing.boardCardId.value
      else r.byCard.insert existing.boardCardId.value existing.linkId⟩)

/-- `apply_portal_snapshot`, L302-369 -/
def applyPortalSnapshot [Externals] [UuidExternals] (r : TaskLinkReducer)
    (membership : HostMembership) (snapshot : ManagedTaskSnapshot) :
    Except OrgError (SyncOutcome × TaskLinkReducer) := do
  validateSnapshotIdentities membership snapshot
  let incoming := linkFromSnapshot snapshot
  match r.byTask[incoming.key]? with
  | none => r.applyFirst incoming
  | some existing => r.applyNext existing incoming

/-! ## Calls -/

/-- The calls that change the links. -/
inductive LinkCall
  | link (membership : HostMembership) (localTaskId : TaskId) (boardCardId : BoardCardId)
      (linkedBy : String) (linkedAt : Int64) (policyRevision : UInt32) (linkId : ManagedLinkId)
  | unlink (hostId : ConnectHostId) (localTaskId : TaskId) (nowMs : Int64)
  | close (hostId : ConnectHostId) (localTaskId : TaskId)
  | recordTitleConflict (hostId : ConnectHostId) (localTaskId : TaskId)
      (localTitle portalTitle : String) (localRevision portalRevision : ℕ)
  | applyPortalSnapshot (membership : HostMembership) (snapshot : ManagedTaskSnapshot)

/-- One call: whether it succeeded, and the reducer that it leaves. -/
def call [Externals] [UuidExternals] (r : TaskLinkReducer) :
    LinkCall → Except OrgError Unit × TaskLinkReducer
  | .link membership localTaskId boardCardId linkedBy linkedAt policyRevision linkId =>
    (Calls.keeping r (r.link membership localTaskId boardCardId linkedBy linkedAt policyRevision
      linkId)).map (fun answer => answer.map fun _ => ()) id
  | .unlink hostId localTaskId nowMs =>
    (Calls.keeping r (r.unlink hostId localTaskId nowMs)).map (fun answer => answer.map fun _ =>
      ()) id
  | .close hostId localTaskId =>
    (Calls.keeping r (r.close hostId localTaskId)).map (fun answer => answer.map fun _ => ()) id
  | .recordTitleConflict hostId localTaskId localTitle portalTitle localRevision portalRevision =>
    (r.recordTitleConflict hostId localTaskId localTitle portalTitle localRevision
      portalRevision).map (fun answer => answer.map fun _ => ()) id
  | .applyPortalSnapshot membership snapshot =>
    (Calls.keeping r (r.applyPortalSnapshot membership snapshot)).map
      (fun answer => answer.map fun _ => ()) id

/-! ## What the operations do -/

variable {r r' : TaskLinkReducer}

/-- `link` makes a link: the host is enrolled, and neither the task nor the card has one. -/
def Linkable (r : TaskLinkReducer) (membership : HostMembership) (localTaskId : TaskId)
    (boardCardId : BoardCardId) : Prop :=
  membership.isEnrolled = true ∧ membership.role.isDisabled = false ∧
    r.get membership.hostId localTaskId = none ∧ r.byCard[boardCardId.value]? = none

variable {membership : HostMembership}

theorem link_eq_ok {localTaskId boardCardId linkedBy linkedAt policyRevision linkId made} :
    r.link membership localTaskId boardCardId linkedBy linkedAt policyRevision linkId =
        .ok (made, r') ↔
      r.Linkable membership localTaskId boardCardId ∧
        made = madeLink membership localTaskId boardCardId linkedBy linkedAt policyRevision linkId ∧
        r' = ⟨r.byTask.insert made.key made, r.byCard.insert boardCardId.value linkId⟩ := by
  simp only [link, ok_iff, Bool.not_eq_true, Bool.not_eq_false, OrdMap.not_mem_iff]
  constructor
  · rintro ⟨henrol, hrole, htask, hcard, rfl, rfl⟩
    exact ⟨⟨henrol, hrole, htask, hcard⟩, rfl, rfl⟩
  · rintro ⟨⟨henrol, hrole, htask, hcard⟩, rfl, rfl⟩
    exact ⟨henrol, hrole, htask, hcard, rfl, rfl⟩

/-- The link is pending or enrolled. -/
def Live (state : EnrollmentState) : Prop := state = .pendingOwnerAccept ∨ state = .enrolled

instance (state : EnrollmentState) : Decidable (Live state) := inferInstanceAs (Decidable (_ ∨ _))

theorem live_iff {state} :
    Live state ↔ ¬ (state = .unlinked ∨ state = .closed) := by
  cases state <;> simp [Live]

/-- The first snapshot of a task that makes a link. -/
structure Creates (r : TaskLinkReducer) (membership : HostMembership)
    (snapshot : ManagedTaskSnapshot) : Prop where
  valid : validateSnapshotIdentities membership snapshot = .ok ()
  first : r.get snapshot.hostId snapshot.localTaskId = none
  live : Live snapshot.enrollmentState
  room : r.byTask.size < maxManagedLinks
  free : r.byCard[snapshot.boardCardId.value]? = none

/-- A snapshot that is newer than the link of its task. -/
structure Advances (r : TaskLinkReducer) (membership : HostMembership)
    (snapshot : ManagedTaskSnapshot) (existing : ManagedTaskLink) : Prop where
  valid : validateSnapshotIdentities membership snapshot = .ok ()
  stored : r.get snapshot.hostId snapshot.localTaskId = some existing
  same : SameIdentity existing (linkFromSnapshot snapshot)
  newer : existing.portalRevision < snapshot.portalRevision

variable {incoming : ManagedTaskLink} {outcome : SyncOutcome}

theorem applyFirst_eq_ok :
    r.applyFirst incoming = .ok (outcome, r') ↔
      (¬ Live incoming.enrollmentState ∧ outcome = .duplicate ∧ r' = r) ∨
      (Live incoming.enrollmentState ∧ r.byTask.size < maxManagedLinks ∧
        r.byCard[incoming.boardCardId.value]? = none ∧ outcome = .applied ∧
        r' = ⟨r.byTask.insert incoming.key incoming, if incoming.enrollmentState = .enrolled then
            r.byCard.insert incoming.boardCardId.value incoming.linkId
          else r.byCard⟩) := by
  unfold applyFirst
  by_cases hlive : Live incoming.enrollmentState
  · rw [if_neg (live_iff.mp hlive)]
    simp only [ok_iff, not_le, OrdMap.not_mem_iff, hlive, not_true, false_and, false_or, true_and]
  · rw [if_pos (not_not.mp fun hnot => hlive (live_iff.mpr hnot))]
    simp only [Except.ok.injEq, Prod.mk.injEq, hlive, not_false_eq_true, true_and, false_and,
      or_false, eq_comm]

theorem applyNext_eq_ok [Externals] [UuidExternals] {existing} :
    r.applyNext existing incoming = .ok (outcome, r') ↔
      SameIdentity existing incoming ∧
        ((incoming.portalRevision = existing.portalRevision ∧
            snapshotFieldsMatch existing incoming ∧ outcome = .duplicate ∧ r' = r) ∨
          (existing.portalRevision < incoming.portalRevision ∧ outcome = .applied ∧
            r' = ⟨r.byTask.insert incoming.key (updated existing incoming),
              if incoming.enrollmentState ≠ .enrolled then
                r.byCard.erase existing.boardCardId.value
              else r.byCard.insert existing.boardCardId.value existing.linkId⟩)) := by
  simp only [applyNext, ok_iff, not_lt]
  refine and_congr_right fun _ => ?_
  by_cases hequal : incoming.portalRevision = existing.portalRevision
  · rw [if_pos hequal]
    by_cases hmatch : snapshotFieldsMatch existing incoming
    · rw [if_pos hmatch]
      simp [hequal, hmatch, eq_comm]
    · rw [if_neg hmatch]
      simp [hequal, hmatch]
  · rw [if_neg hequal]
    simp only [pure_eq_ok, Prod.mk.injEq, hequal, false_and, false_or]
    refine and_congr_left fun _ => ?_
    omega

theorem applyPortalSnapshot_eq_ok [Externals] [UuidExternals] {snapshot} :
    r.applyPortalSnapshot membership snapshot = .ok (outcome, r') ↔
      (r.Creates membership snapshot ∧ outcome = .applied ∧
        r' = ⟨r.byTask.insert (linkFromSnapshot snapshot).key (linkFromSnapshot snapshot),
          if snapshot.enrollmentState = .enrolled then
            r.byCard.insert snapshot.boardCardId.value snapshot.linkId
          else r.byCard⟩) ∨
      (∃ existing, r.Advances membership snapshot existing ∧ outcome = .applied ∧
        r' = ⟨r.byTask.insert (linkFromSnapshot snapshot).key
            (updated existing (linkFromSnapshot snapshot)),
          if snapshot.enrollmentState ≠ .enrolled then r.byCard.erase existing.boardCardId.value
          else r.byCard.insert existing.boardCardId.value existing.linkId⟩) ∨
      (validateSnapshotIdentities membership snapshot = .ok () ∧ outcome = .duplicate ∧ r' = r ∧
        (r.get snapshot.hostId snapshot.localTaskId = none ∧ ¬ Live snapshot.enrollmentState ∨
          ∃ existing, r.get snapshot.hostId snapshot.localTaskId = some existing ∧
            SameIdentity existing (linkFromSnapshot snapshot) ∧
            snapshot.portalRevision = existing.portalRevision ∧
            snapshotFieldsMatch existing (linkFromSnapshot snapshot))) := by
  have hget : r.get snapshot.hostId snapshot.localTaskId =
    r.byTask[(linkFromSnapshot snapshot).key]? := rfl
  simp only [applyPortalSnapshot, ok_iff]
  constructor
  · rintro ⟨hvalid, h⟩
    cases hstored : r.byTask[(linkFromSnapshot snapshot).key]? with
    | none =>
      simp only [hstored] at h
      rcases applyFirst_eq_ok.mp h with ⟨hgone, hout, hsame⟩ | ⟨hlive, hroom, hfree, hout, hr⟩
      · exact .inr (.inr ⟨hvalid, hout, hsame, .inl ⟨hget.trans hstored, hgone⟩⟩)
      · exact .inl ⟨⟨hvalid, hget.trans hstored, hlive, hroom, hfree⟩, hout, hr⟩
    | some existing =>
      simp only [hstored] at h
      obtain ⟨hsame, ⟨hequal, hmatch, hout, hr⟩ | ⟨hnewer, hout, hr⟩⟩ := applyNext_eq_ok.mp h
      · exact .inr (.inr ⟨hvalid, hout,
          hr, .inr ⟨existing, hget.trans hstored, hsame, hequal, hmatch⟩⟩)
      · exact .inr (.inl ⟨existing, ⟨hvalid, hget.trans hstored, hsame, hnewer⟩, hout, hr⟩)
  · rintro (⟨hmakes, hout, hr⟩ | ⟨existing, hadv, hout, hr⟩ |
      ⟨hvalid, hout, hr, ⟨hfst, hgone⟩ | ⟨existing, hstored, hsame, hequal, hmatch⟩⟩)
    · refine ⟨hmakes.valid, ?_⟩
      rw [hget.symm.trans hmakes.first]
      exact applyFirst_eq_ok.mpr (.inr ⟨hmakes.live, hmakes.room, hmakes.free, hout, hr⟩)
    · refine ⟨hadv.valid, ?_⟩
      rw [hget.symm.trans hadv.stored]
      exact applyNext_eq_ok.mpr ⟨hadv.same, .inr ⟨hadv.newer, hout, hr⟩⟩
    · refine ⟨hvalid, ?_⟩
      rw [hget.symm.trans hfst]
      exact applyFirst_eq_ok.mpr (.inl ⟨hgone, hout, hr⟩)
    · refine ⟨hvalid, ?_⟩
      rw [hget.symm.trans hstored]
      exact applyNext_eq_ok.mpr ⟨hsame, .inl ⟨hequal, hmatch, hout, hr⟩⟩

end TaskLinkReducer

end DevManager.Org
