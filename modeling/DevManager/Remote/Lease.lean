import DevManager.Domain.Id
import DevManager.Lib.Calls

/-!
# Writer leases and web control (`src/remote/web/lease.rs`)

One browser tab at a time may write. `WriterLeaseManager` hands the right to
write out as a lease with a generation; a mutation that is in flight pins its
lease, and a release asked for meanwhile is only noted on it. `WebControlState`
adds the claims of clients that know no leases, and the target to hand control
to once a pinned lease is released.

Times and durations are milliseconds in a `u64`; a call is given the time it
reads, and nothing makes these times increase. Every call is a function to what
it returns and the state it leaves.
-/

namespace DevManager

/-! ## The data -/

/-- `ACTIVE_INPUT_GUARD` (L3), in milliseconds. -/
def activeInputGuardMs : ℕ := 700

/-- `WriterLease`, L6-16 -/
structure WriterLease where
  ownerConnectionId : ℕ
  ownerClientId : String
  ownerClientInstanceId : String
  generation : ℕ
  expiresAtEpochMs : ℕ
  visible : Bool
  lastInputAtEpochMs : Option ℕ
  activeMutationId : Option String
  releaseAfterMutation : Bool

/-- `LeaseError`, L19-24 -/
inductive LeaseError
  | activeOwner
  | notOwner
  | expired
  | staleGeneration (currentGeneration : ℕ)

/-- `MutationBegin`, L28-31 -/
inductive MutationBegin
  | started (lease : WriterLease)
  | alreadyInFlight (lease : WriterLease)

/-- `WriterLeaseManager`, L34-39 -/
structure WriterLeaseManager where
  leaseDurationMs : ℕ
  activeInputGuardMs : ℕ
  generation : ℕ
  current : Option WriterLease

variable (lease : WriterLease)

/-- The lease belongs to the connection and client. -/
def WriterLease.ownedBy (connectionId : ℕ) (clientId : String) : Bool :=
  lease.ownerConnectionId = connectionId ∧ lease.ownerClientId = clientId

/-- The lease belongs to the connection, client and client instance. -/
def WriterLease.ownedByInstance (connectionId : ℕ)
    (clientId clientInstanceId : String) : Bool :=
  lease.ownedBy connectionId clientId ∧ lease.ownerClientInstanceId = clientInstanceId

/-- A mutation is in flight under the lease. -/
def WriterLease.busy : Bool := lease.activeMutationId.isSome

namespace WriterLeaseManager

/-- `WriterLeaseManager::new` (L248-255), from the duration in milliseconds. -/
def new (leaseDurationMs : ℕ) : WriterLeaseManager where
  leaseDurationMs := leaseDurationMs
  activeInputGuardMs := DevManager.activeInputGuardMs
  generation := 0
  current := none

variable (m : WriterLeaseManager)

/-! ## Ending a lease -/

/-- `invalidate`, L468-481 -/
def invalidate : Option WriterLease × WriterLeaseManager :=
  match m.current with
  | none => (none, m)
  | some current =>
    if current.busy then
      (none, { m with
        current := some { current with visible := false, releaseAfterMutation := true } })
    else (some current, { m with current := none, generation := saturatingAdd m.generation 1 })

/-- The current lease has run out, and no mutation pins it (L302-304, L524-526). -/
def isExpired (now : ℕ) : Bool :=
  match m.current with
  | none => false
  | some lease => !lease.busy && lease.expiresAtEpochMs ≤ now

/-- `expire_if_needed`, L529-535 -/
def expireIfNeeded (now : ℕ) : WriterLeaseManager :=
  if m.isExpired now then m.invalidate.2 else m

variable (connectionId : ℕ)

/-- `disconnect`, L451-466 -/
def disconnect (clientId : String) : Bool × WriterLeaseManager :=
  match m.current with
  | none => (false, m)
  | some current =>
    if current.ownedBy connectionId clientId then
      if current.busy then
        (false, { m with
          current := some { current with visible := false, releaseAfterMutation := true } })
      else (true, m.invalidate.2)
    else (false, m)

/-! ## Holding a lease -/

variable (clientId clientInstanceId : String)

/-- `grant`, L502-527 -/
def grant (now : ℕ) :
    WriterLease × WriterLeaseManager :=
  let generation := saturatingAdd m.generation 1
  let lease : WriterLease := {
    ownerConnectionId := connectionId, ownerClientId := clientId,
    ownerClientInstanceId := clientInstanceId, generation,
    expiresAtEpochMs := saturatingAdd now m.leaseDurationMs, visible := true,
    lastInputAtEpochMs := some now, activeMutationId := none, releaseAfterMutation := false }
  (lease, { m with generation, current := some lease })

/-- `input_is_guarded` of `acquire` (L281-284). -/
def inputIsGuarded (lease : WriterLease) (now : ℕ) : Bool :=
  lease.visible && lease.lastInputAtEpochMs.any fun lastInput =>
    now < saturatingAdd lastInput m.activeInputGuardMs

/-- `acquire`, L258-291 -/
def acquire (now : ℕ) :
    Except LeaseError WriterLease × WriterLeaseManager :=
  let m := m.expireIfNeeded now
  let granted := m.grant connectionId clientId clientInstanceId now
  match m.current with
  | none => (.ok granted.1, granted.2)
  | some current =>
    if current.ownedByInstance connectionId clientId clientInstanceId then
      let current := { current with
        visible := true, expiresAtEpochMs := saturatingAdd now m.leaseDurationMs }
      (.ok current, { m with current := some current })
    else if current.busy then (.error .activeOwner, m)
    else if m.inputIsGuarded current now then (.error .activeOwner, m)
    else (.ok granted.1, granted.2)

/-- The fence that `authorize` and `renew` start with (L300-320, L397-417): the
current lease if it has the expected generation, and the manager after a lease that ran out was
ended. -/
def fence (expectedGeneration now : ℕ) : Except LeaseError WriterLease × WriterLeaseManager :=
  let expired := m.isExpired now
  let m' := m.expireIfNeeded now
  if expired ∧ expectedGeneration = m.generation then (.error .expired, m')
  else if expectedGeneration ≠ m'.generation then
    (.error (.staleGeneration m'.generation), m')
  else
    match m'.current with
    | none => (.error (.staleGeneration m'.generation), m')
    | some current => (.ok current, m')

/-- `authorize` and `renew` after the fence: the owner's call rewrites the lease. -/
def fenced (expectedGeneration now : ℕ) (isOwner : WriterLease → Bool)
    (update : WriterLease → WriterLease) : Except LeaseError WriterLease × WriterLeaseManager :=
  match m.fence expectedGeneration now with
  | (.error error, m) => (.error error, m)
  | (.ok current, m) =>
    if isOwner current then
      let current := update current
      (.ok current, { m with current := some current })
    else (.error .notOwner, m)

/-- `authorize`, L293-327 -/
def authorize (expectedGeneration now : ℕ) :
    Except LeaseError WriterLease × WriterLeaseManager :=
  m.fenced expectedGeneration now (fun current => current.ownedBy connectionId clientId)
    fun current => { current with
      visible := true, lastInputAtEpochMs := some now,
      expiresAtEpochMs := saturatingAdd now m.leaseDurationMs }

variable (expectedGeneration : ℕ)

/-- `renew`, L388-427 -/
def renew (visible : Bool) (now : ℕ) : Except LeaseError WriterLease × WriterLeaseManager :=
  m.fenced expectedGeneration now
    (fun current => current.ownedByInstance connectionId clientId clientInstanceId)
    fun current => { current with visible, expiresAtEpochMs := saturatingAdd now m.leaseDurationMs }

/-- `set_visibility`, L427-449 -/
def setVisibility (visible : Bool)
    (now : ℕ) : Except LeaseError WriterLease × WriterLeaseManager :=
  let m := m.expireIfNeeded now
  match m.current with
  | none => (.error (.staleGeneration m.generation), m)
  | some current =>
    if current.ownedByInstance connectionId clientId clientInstanceId then
      let current := { current with visible }
      (.ok current, { m with current := some current })
    else (.error .notOwner, m)

/-- `current`, L483-486 -/
def currentAt (now : ℕ) : Option WriterLease × WriterLeaseManager :=
  let m := m.expireIfNeeded now
  (m.current, m)

/-- `is_busy`, L496-500 -/
def isBusy : Bool := m.current.any WriterLease.busy

/-! ## Mutations -/

/-- `begin_mutation`, L329-362 -/
def beginMutation
    (mutationId : String) (now : ℕ) : Except LeaseError MutationBegin × WriterLeaseManager :=
  if expectedGeneration ≠ m.generation then (.error (.staleGeneration m.generation), m)
  else
    let m := m.expireIfNeeded now
    match m.current with
    | none => (.error .expired, m)
    | some current =>
      if ¬ current.ownedBy connectionId clientId then (.error .notOwner, m)
      else
        match current.activeMutationId with
        | some active =>
          if active = mutationId then (.ok (.alreadyInFlight current), m)
          else (.error .activeOwner, m)
        | none =>
          let current := { current with
            visible := true, lastInputAtEpochMs := some now,
            expiresAtEpochMs := saturatingAdd now m.leaseDurationMs,
            activeMutationId := some mutationId }
          (.ok (.started current), { m with current := some current })

/-- `exact_mutation` of `finish_mutation` (L373-376). -/
def isExactMutation (lease : WriterLease) (connectionId : ℕ) (clientId : String)
    (expectedGeneration : ℕ) (mutationId : String) : Bool :=
  lease.ownedBy connectionId clientId && lease.generation = expectedGeneration &&
    lease.activeMutationId = some mutationId

/-- `finish_mutation`, L363-386 -/
def finishMutation (mutationId : String) (now : ℕ) : Option WriterLease × WriterLeaseManager :=
  match m.current with
  | none => (none, m)
  | some current =>
    if isExactMutation current connectionId clientId expectedGeneration mutationId then
      let current := { current with
        activeMutationId := none, lastInputAtEpochMs := some now,
        expiresAtEpochMs := saturatingAdd now m.leaseDurationMs }
      let m := { m with current := some current }
      if current.releaseAfterMutation then m.invalidate else (none, m)
    else (none, m)

end WriterLeaseManager

/-! ## Calls on the manager -/

/-- The calls of `WriterLeaseManager` that write its state. -/
inductive LeaseCall
  | acquire (connectionId : ℕ) (clientId clientInstanceId : String) (now : ℕ)
  | authorize (connectionId : ℕ) (clientId : String) (expectedGeneration now : ℕ)
  | renew (connectionId : ℕ) (clientId clientInstanceId : String) (expectedGeneration : ℕ)
      (visible : Bool) (now : ℕ)
  | setVisibility (connectionId : ℕ) (clientId clientInstanceId : String) (visible : Bool)
      (now : ℕ)
  | beginMutation (connectionId : ℕ) (clientId : String) (expectedGeneration : ℕ)
      (mutationId : String) (now : ℕ)
  | finishMutation (connectionId : ℕ) (clientId : String) (expectedGeneration : ℕ)
      (mutationId : String) (now : ℕ)
  | disconnect (connectionId : ℕ) (clientId : String)
  | invalidate
  | current (now : ℕ)

/-- What a call returns. -/
inductive LeaseReturn
  | lease (result : Except LeaseError WriterLease)
  | began (result : Except LeaseError MutationBegin)
  | optional (lease : Option WriterLease)
  | flag (value : Bool)

/-- One call on the manager. -/
def WriterLeaseManager.call (m : WriterLeaseManager) : LeaseCall → LeaseReturn × WriterLeaseManager
  | .acquire connectionId clientId clientInstanceId now =>
    Prod.map .lease id (m.acquire connectionId clientId clientInstanceId now)
  | .authorize connectionId clientId expectedGeneration now =>
    Prod.map .lease id (m.authorize connectionId clientId expectedGeneration now)
  | .renew connectionId clientId clientInstanceId expectedGeneration visible now =>
    Prod.map .lease id
      (m.renew connectionId clientId clientInstanceId expectedGeneration visible now)
  | .setVisibility connectionId clientId clientInstanceId visible now =>
    Prod.map .lease id (m.setVisibility connectionId clientId clientInstanceId visible now)
  | .beginMutation connectionId clientId expectedGeneration mutationId now =>
    Prod.map .began id (m.beginMutation connectionId clientId expectedGeneration mutationId now)
  | .finishMutation connectionId clientId expectedGeneration mutationId now =>
    Prod.map .optional id (m.finishMutation connectionId clientId expectedGeneration mutationId now)
  | .disconnect connectionId clientId => Prod.map .flag id (m.disconnect connectionId clientId)
  | .invalidate => Prod.map .optional id m.invalidate
  | .current now => Prod.map .optional id (m.currentAt now)

/-! ## Web control -/

/-- `ControllerTarget`, L42-45 -/
inductive ControllerTarget
  | local
  | native (clientId : String)

/-- `LegacyControlClaim`, L57-60 -/
structure LegacyControlClaim where
  connectionId : ℕ
  clientId : String

/-- `ControllerRequest`, L63-69 -/
inductive ControllerRequest
  | applied (releasedLease : Option WriterLease) (releasedLegacyClientId : Option String)
  | deferred

/-- `ConnectionRelease`, L72-76 -/
structure ConnectionRelease where
  releasedLease : Option WriterLease
  leaseReleaseDeferred : Bool
  legacyReleased : Bool

/-- `MutationFinish`, L79-82 -/
structure MutationFinish where
  releasedLease : Option WriterLease
  controllerTarget : Option ControllerTarget

/-- `WebControlState`, L85-89 -/
structure WebControlState where
  writerLeases : WriterLeaseManager
  legacyClaimant : Option LegacyControlClaim
  deferredControllerTarget : Option ControllerTarget

/-- The claimant is this connection of this client. -/
def LegacyControlClaim.isOf (claim : LegacyControlClaim) (connectionId : ℕ) (clientId : String) :
    Bool :=
  claim.connectionId = connectionId ∧ claim.clientId = clientId

namespace WebControlState

/-- `new`, L92-98 -/
def new (leaseDurationMs : ℕ) : WebControlState where
  writerLeases := .new leaseDurationMs
  legacyClaimant := none
  deferredControllerTarget := none

variable (s : WebControlState) (connectionId : ℕ) (clientId : String)

/-- `legacy_authorizes`, L131-136 -/
def legacyAuthorizes : Bool :=
  s.writerLeases.current.isNone &&
    s.legacyClaimant.any fun claimant => claimant.isOf connectionId clientId

/-- `claim_legacy`, L108-130 -/
def claimLegacy (force : Bool)
    (controllerClientId : Option String) : Bool × WebControlState :=
  if s.writerLeases.current.isSome then (false, s)
  else
    let exactClaimant := s.legacyAuthorizes connectionId clientId
    let available := controllerClientId.isNone ||
      (controllerClientId = some clientId && exactClaimant)
    if !force && !available then (false, s)
    else (true, { s with legacyClaimant := some ⟨connectionId, clientId⟩ })

/-- `clear_legacy_claim`, L144-150 -/
def clearLegacyClaim : Bool × WebControlState :=
  let exact := s.legacyAuthorizes connectionId clientId
  (exact, if exact then { s with legacyClaimant := none } else s)

/-- `release_connection`, L152-172 -/
def releaseConnection :
    ConnectionRelease × WebControlState :=
  let previousLease := s.writerLeases.current
  let wasBusyOwner := previousLease.any fun lease =>
    lease.ownedBy connectionId clientId && lease.busy
  let (releasedNow, writerLeases) := s.writerLeases.disconnect connectionId clientId
  let releasedLease := if releasedNow then previousLease else none
  let legacyReleased := s.legacyClaimant.any fun claimant => claimant.isOf connectionId clientId
  ({ releasedLease
     leaseReleaseDeferred := wasBusyOwner && !releasedNow
     legacyReleased := legacyReleased },
    { s with
      writerLeases
      legacyClaimant := if legacyReleased then none else s.legacyClaimant })

/-- `request_controller`, L174-191 -/
def requestController (target : ControllerTarget) : ControllerRequest × WebControlState :=
  let busy := s.writerLeases.isBusy
  let (releasedLease, writerLeases) := s.writerLeases.invalidate
  let releasedLegacyClientId := s.legacyClaimant.map LegacyControlClaim.clientId
  let s := { s with writerLeases, legacyClaimant := none }
  if busy then (.deferred, { s with deferredControllerTarget := some target })
  else (.applied releasedLease releasedLegacyClientId, { s with deferredControllerTarget := none })

/-- `finish_mutation`, L193-215 -/
def finishMutation (expectedGeneration : ℕ)
    (mutationId : String) (now : ℕ) : MutationFinish × WebControlState :=
  let (releasedLease, writerLeases) :=
    s.writerLeases.finishMutation connectionId clientId expectedGeneration mutationId now
  let s := { s with writerLeases }
  match releasedLease with
  | none => (⟨none, none⟩, s)
  | some lease =>
    (⟨some lease, s.deferredControllerTarget⟩, { s with deferredControllerTarget := none })

/-- `reset_web`, L217-245 -/
def resetWeb (clearWebController : Bool) : ControllerRequest × WebControlState :=
  if clearWebController then
    if s.writerLeases.isBusy then
      (.deferred, { s with
        writerLeases := s.writerLeases.invalidate.2, legacyClaimant := none,
        deferredControllerTarget := some (s.deferredControllerTarget.getD .local) })
    else s.requestController .local
  else
    let busy := s.writerLeases.isBusy
    let (releasedLease, writerLeases) := s.writerLeases.invalidate
    let releasedLegacyClientId := s.legacyClaimant.map LegacyControlClaim.clientId
    let s := { s with writerLeases, legacyClaimant := none }
    (if busy then .deferred else .applied releasedLease releasedLegacyClientId, s)

end WebControlState

/-- The call finishes a mutation, exactly or not. -/
def LeaseCall.isFinish : LeaseCall → Bool
  | .finishMutation .. => true
  | _ => false

/-- The calls on a `WebControlState`. The calls of its lease manager are made through
`writer_leases_mut`, except that a mutation is finished through the state itself. -/
inductive ControlCall
  | claimLegacy (connectionId : ℕ) (clientId : String) (force : Bool)
      (controllerClientId : Option String)
  | clearLegacyClaim (connectionId : ℕ) (clientId : String)
  | releaseConnection (connectionId : ℕ) (clientId : String)
  | requestController (target : ControllerTarget)
  | resetWeb (clearWebController : Bool)
  | finishMutation (connectionId : ℕ) (clientId : String) (expectedGeneration : ℕ)
      (mutationId : String) (now : ℕ)
  | lease (call : LeaseCall) (other : call.isFinish = false)

/-- What a call returns. -/
inductive ControlReturn
  | flag (value : Bool)
  | released (release : ConnectionRelease)
  | requested (request : ControllerRequest)
  | finished (finish : MutationFinish)
  | lease (result : LeaseReturn)

/-- One call on the state. -/
def WebControlState.call (s : WebControlState) : ControlCall → ControlReturn × WebControlState
  | .claimLegacy connectionId clientId force controllerClientId =>
    Prod.map .flag id (s.claimLegacy connectionId clientId force controllerClientId)
  | .clearLegacyClaim connectionId clientId =>
    Prod.map .flag id (s.clearLegacyClaim connectionId clientId)
  | .releaseConnection connectionId clientId =>
    Prod.map .released id (s.releaseConnection connectionId clientId)
  | .requestController target => Prod.map .requested id (s.requestController target)
  | .resetWeb clearWebController => Prod.map .requested id (s.resetWeb clearWebController)
  | .finishMutation connectionId clientId expectedGeneration mutationId now =>
    Prod.map .finished id (s.finishMutation connectionId clientId expectedGeneration mutationId now)
  | .lease call _ =>
    Prod.map .lease (fun writerLeases => { s with writerLeases })
      (s.writerLeases.call call)

end DevManager
