import DevManager.Domain.Operation
import DevManager.Services.Admission

/-!
# The service supervisor (`src/services/supervisor.rs`)

The supervisor executes admitted plans through a managed launch authority,
keeps the evidence and the health tracker of each service, reserves ports, and
projects every change of the evidence into the admission snapshot.

The launch authority is the trait of the source, as a class: each of its calls
may fail, and the state it leaves is the authority's own. What the supervisor
writes to its bounded logs and events is read by nothing modelled here and is
left out.
-/

namespace DevManager

open Std (ExtTreeMap)

/-! ## Owners and launches -/

/-- In `ConfiguredServiceOwner`, `binding.rs:27-38` -/
inductive ConfiguredServiceOwner
  | project (projectId : String)
  | workspace (projectId folderId : String)
  | task (taskId : TaskId)

namespace ConfiguredServiceOwner

/-- In `catalog_scope`, `binding.rs:41-46` -/
def catalogScope : ConfiguredServiceOwner → ServiceScope
  | task taskId => .task taskId
  | project _ | workspace _ _ => .host

/-- The ownership axis of a live service (L1070-1076). -/
def axis : ConfiguredServiceOwner → OwnershipAxis
  | task taskId => .task taskId
  | project _ | workspace _ _ => .host

/-- `owner_from_scope`, L1609-1616 -/
def fromScope : ServiceScope → ConfiguredServiceOwner
  | .task taskId => task taskId
  | .host => project "host"

end ConfiguredServiceOwner

/-- In `EnvironmentOverlay`, `binding.rs:50-52` -/
abbrev EnvironmentOverlay := ExtTreeMap String String

/-- `from_names`, `binding.rs:83-89` -/
def EnvironmentOverlay.fromNames (names : List String) : EnvironmentOverlay :=
  names.foldl (fun values name => values.insert name "") ∅

/-- `ProcessOwner`, `identity.rs:124-127` -/
inductive ProcessOwner
  | task (taskId : TaskId)
  | host

/-- `ManagedLaunchSpec` (L187-199); the kind is always `Service`. -/
structure ManagedLaunchSpec where
  resourceId : ResourceId
  generation : ℕ
  owner : ProcessOwner
  program : String
  args : List String
  cwd : String
  environment : ExtTreeMap String String
  displayLabel : String

/-- `ManagedLaunchStage`, L179-184 -/
inductive ManagedLaunchStage
  | prepare | register | resume | teardown

/-- `SupervisorRefusal`, L110-121 -/
inductive SupervisorRefusal
  | staleFence | ownership | external | dependency | operationInProgress | alreadyRunning
  | alreadyStopped | evidenceUnknown | taskClosing | other

/-- `SupervisorError`, L124-134 -/
inductive SupervisorError
  | unknownService (service : ServiceId)
  | binding (error : ValidationError)
  | refused (refusal : SupervisorRefusal)
  | staleGeneration (expected received : ℕ)
  | launch (stage : ManagedLaunchStage)
  | portBusy (port : ℕ)
  | externalPort (port : ℕ)
  | probeHotPath
  | teardownFailed

/-- `refusal_from`, L1586-1607 -/
def refusalFrom : AdmissionRejection → SupervisorRefusal
  | .staleFence _ _ _ | .planStale _ => .staleFence
  | .ownershipMismatch _ _ _ | .requesterMismatch _ => .ownership
  | .externalNotControllable _ | .dependencyExternal _ _ => .external
  | .dependencyNotReady _ _ _ => .dependency
  | .operationInProgress _ _ => .operationInProgress
  | .alreadyRunning _ => .alreadyRunning
  | .alreadyStopped _ => .alreadyStopped
  | .evidenceUnknown _ | .unknownService _ => .evidenceUnknown
  | .taskClosing _ | .taskCloseNotAdmitted _ | .taskEpochStale _ _ _ => .taskClosing
  | _ => .other

/-- `ManagedLaunchAuthority` (L221-262), the calls that the supervisor makes. -/
class ManagedLaunchAuthority (A : Type) where
  Pending : Type
  Live : Type
  prepareSuspended : A → ManagedLaunchSpec → Except SupervisorError Pending × A
  registerSuspended : A → Pending → Except SupervisorError Pending × A
  resume : A → Pending → Except SupervisorError Live × A
  teardown : A → Option Live → ResourceFence → Except SupervisorError Unit × A
  takeExit : A → Live → Option (Option ℤ)
  liveGeneration : Live → ℕ

open ManagedLaunchAuthority (Live)

/-- `authority.teardown(&mut live, fence)`. By the contract of the trait
(L233-239) a success takes the handle and a failure restores it. -/
def tearDown {A : Type} [ManagedLaunchAuthority A] (authority : A) (live : Option (Live A))
    (fence : ResourceFence) : Except SupervisorError Unit × Option (Live A) × A :=
  match ManagedLaunchAuthority.teardown authority live fence with
  | (.ok (), authority) => (.ok (), none, authority)
  | (.error error, authority) => (.error error, live, authority)

/-- `PortAuthority`, `ports.rs:1316-1322` -/
inductive PortAuthority
  | managed | provenExternal | unknown | probeError | free

/-- `PortClaim`, L265-276 -/
inductive PortClaim
  | reserved (serviceId : ServiceId) (generation : ℕ)
  | external (ownerPid : Option ℕ)
  | indeterminate
deriving DecidableEq

/-- `SupervisorAction`, L39-45 -/
inductive SupervisorAction
  | start | stop | restart | logs | health
deriving DecidableEq

/-- `SupervisorOutcome` (L1549-1561); a log is its generation, a health snapshot
its state and generation. -/
inductive SupervisorOutcome
  | changed (services : List ServiceId) (state : ServiceState)
  | coalesced (service : ServiceId) (operationId : ℕ) (action : ServiceAction)
  | logs (service : ServiceId) (generation : ℕ)
  | health (service : ServiceId) (state : ServiceState) (generation : ℕ)

/-- `stopped_evidence`, L1618-1635 -/
def stoppedEvidence (nowMs generation epoch : ℕ) : ServiceEvidence where
  lifecycle := .stopped
  process := .absent
  health := .disabled
  port := .free
  ownership := .none
  generation := generation
  epoch := epoch
  observedAtMs := nowMs
  provenance := ⟨.admission, nowMs, some generation, some epoch⟩

/-- `is_absolute_workspace_root`, L1656-1662 -/
def isAbsoluteWorkspaceRoot (path : String) : Bool :=
  path.toList.head? = some '/' || path.toList.head? = some '\\' ||
    (path.toUTF8.toList[1]? = some 0x3a &&
      (path.toUTF8.toList[2]? = some 0x2f || path.toUTF8.toList[2]? = some 0x5c))

/-- `Path::new(root).join(relative)` for a relative path. -/
def joinPath (root relative : String) : String :=
  if root.toList.getLast? = some '/' then root ++ relative else root ++ "/" ++ relative

/-- `resolve_launch_cwd`, L1637-1654 -/
def resolveLaunchCwd (workspaceRoot : String) (relative : Option String) :
    Except SupervisorError String := do
  let root := trim workspaceRoot
  failIf (root = "" ∨ isAbsoluteWorkspaceRoot root = false) (.binding (.unsafePath .cwd))
  return match relative with
    | some relative => joinPath root relative
    | none => root

/-! ## The state of the supervisor -/

/-- `ServiceRuntime` (L278-290). The suspended launch that it stores is taken out
again by the call that stored it. -/
structure ServiceRuntime (A : Type) [ManagedLaunchAuthority A] where
  bindingOwner : ConfiguredServiceOwner
  workspaceRoot : String
  resourceId : ResourceId
  overlay : EnvironmentOverlay
  evidence : ServiceEvidence
  health : Option HealthTracker
  live : Option (Live A)
  operation : Option ActiveOperation

/-- `ServiceSupervisor`, L292-303 -/
structure ServiceSupervisor (A : Type) [ManagedLaunchAuthority A] where
  catalog : ServiceCatalog
  snapshot : AdmissionSnapshot
  hostId : HostId
  nowMs : ℕ
  nextOperationId : ℕ
  authority : A
  runtimes : ExtTreeMap ServiceId (ServiceRuntime A)
  ports : ExtTreeMap ℕ PortClaim
  probeExecutions : ℕ

variable {A : Type} [ManagedLaunchAuthority A]

/-- The ownership that a record is projected with (L1437-1450). -/
def OwnershipAxis.project (hostId : HostId) : OwnershipAxis → RuntimeOwnership
  | task taskId => .task taskId
  | host => .host hostId
  | external => .external
  | none | unknown | inconsistent => .none

namespace ServiceRuntime

variable (runtime : ServiceRuntime A)

/-- The record that `project_runtime` writes (L1432-1465). -/
def record (hostId : HostId) : RuntimeRecord where
  state := reduceService runtime.evidence
  fence := ⟨runtime.evidence.generation, runtime.evidence.epoch, runtime.evidence.epoch⟩
  ownership := runtime.evidence.ownership.project hostId
  operation := runtime.operation

/-- `launch_spec`, L1362-1401 -/
def launchSpec (serviceId : ServiceId) (generation : ℕ) (intent : LaunchIntent) :
    Except SupervisorError ManagedLaunchSpec := do
  let cwd ← resolveLaunchCwd runtime.workspaceRoot intent.command.cwd
  return {
    resourceId := runtime.resourceId
    generation := generation
    owner := match intent.scope with
      | .task taskId => .task taskId
      | .host => .host
    program := intent.command.program
    args := intent.command.args
    cwd := cwd
    environment := intent.command.env.foldl (fun environment name =>
      environment.insertIfNew name "") runtime.overlay
    displayLabel := serviceId.value }

variable (nowMs : ℕ)

/-- One turn of the loop of `advance_clock` (L446-456). -/
def tick : ServiceRuntime A :=
  match runtime.health with
  | none => runtime
  | some tracker =>
    match tracker.advance nowMs runtime.evidence.generation with
    | .ok tracker =>
      { runtime with
        health := some tracker, evidence := { runtime.evidence with health := tracker.axis } }
    | .error _ => runtime

/-- A probe was recorded (L744-759). -/
def probed (tracker : HealthTracker) : ServiceRuntime A :=
  let settled := match tracker.axis with
    | .healthy _ | .unhealthy _ => true
    | _ => false
  { runtime with
    health := some tracker
    operation := if settled then none else runtime.operation
    evidence := { runtime.evidence with
      health := tracker.axis
      lifecycle := if settled then .running else runtime.evidence.lifecycle
      observedAtMs := nowMs
      provenance := ⟨.healthProbe, nowMs, some runtime.evidence.generation,
        some runtime.evidence.epoch⟩ } }

/-- The process is gone (L797-813). -/
def exited : ServiceRuntime A :=
  let tracker := runtime.health.map fun tracker =>
    match tracker.processExit runtime.evidence.generation with
    | .ok tracker => tracker
    | .error _ => tracker
  { runtime with
    live := none
    health := tracker
    operation := none
    evidence := { runtime.evidence with
      health := (tracker.map (·.axis)).getD .crashed, lifecycle := .failed,
      process := .crashed runtime.evidence.generation, port := .free, ownership := .none } }

/-- A launch was resumed (L1062-1116). -/
def launched (nowMs generation epoch operationId : ℕ) (expectedPort : Option ℕ) (live : Live A) :
    ServiceRuntime A :=
  let tracker := runtime.health.map fun tracker => tracker.start nowMs generation
  { runtime with
    live := some live
    health := tracker
    operation := tracker.map fun _ => ⟨operationId, .start⟩
    evidence := {
      lifecycle := if tracker.isSome then .starting else .running
      process := .running generation
      health := (tracker.map (·.axis)).getD .disabled
      port := match expectedPort with
        | some port => .owned port
        | none => .free
      ownership := runtime.bindingOwner.axis
      generation := generation
      epoch := epoch
      observedAtMs := nowMs
      provenance := ⟨.processRegistry, nowMs, some generation, some epoch⟩ } }

/-- A stop begins (L1180-1181). -/
def stopping : ServiceRuntime A :=
  { runtime with evidence := { runtime.evidence with lifecycle := .stopping } }

/-- A stop is complete (L1205-1225). -/
def stopped (nowMs generation epoch : ℕ) : ServiceRuntime A :=
  { runtime with
    live := none
    health := runtime.health.map fun tracker =>
      match tracker.cancel runtime.evidence.generation with
      | .ok tracker => tracker
      | .error _ => tracker
    operation := none
    evidence := {
      lifecycle := .stopped, process := .exited (some 0), health := .cancelled, port := .free,
      ownership := .none, generation, epoch, observedAtMs := nowMs,
      provenance := ⟨.processRegistry, nowMs, some generation, some epoch⟩ } }

/-- A launch failed (L1259-1276). -/
def failed (nowMs generation epoch : ℕ) : ServiceRuntime A :=
  { runtime with
    operation := none
    evidence := {
      lifecycle := .failed, process := .crashed generation, health := .crashed, port := .free,
      ownership := .none, generation, epoch, observedAtMs := nowMs,
      provenance := ⟨.processRegistry, nowMs, some generation, some epoch⟩ } }

/-- The provenance of what a port scan says about the service. -/
def portProvenance : EvidenceProvenance :=
  ⟨.portSnapshot, nowMs, some runtime.evidence.generation, some runtime.evidence.epoch⟩

/-- Another process owns the port (L1288-1301). -/
def external (nowMs port : ℕ) (ownerPid : Option ℕ) : ServiceRuntime A :=
  { runtime with
    evidence := { runtime.evidence with
      lifecycle := .running, process := .unknown, health := .unknown,
      port := .external port ownerPid, ownership := .external, observedAtMs := nowMs,
      provenance := runtime.portProvenance nowMs } }

/-- Nothing is known about the port (L1315-1325). -/
def indeterminate : ServiceRuntime A :=
  { runtime with
    evidence := { runtime.evidence with
      port := .unknown, ownership := .unknown, observedAtMs := nowMs,
      provenance := runtime.portProvenance nowMs } }

/-- The port of the live service is its own (L597-613). -/
def managed (nowMs port : ℕ) : ServiceRuntime A :=
  { runtime with
    evidence := { runtime.evidence with
      port := .owned port
      ownership := runtime.bindingOwner.axis
      observedAtMs := nowMs
      provenance := ⟨.processRegistry, nowMs, some runtime.evidence.generation,
        some runtime.evidence.epoch⟩ } }

/-- What is known about the service came from a scan that found another owner, or nothing
(L1348-1351). -/
def unclear : Bool :=
  (match runtime.evidence.ownership with
    | .external | .unknown => true
    | _ => false) || runtime.evidence.port = .unknown

end ServiceRuntime

namespace ServiceSupervisor

variable (s : ServiceSupervisor A) (serviceId : ServiceId)

/-- `project_runtime`, L1432-1465 -/
def projectRuntime : ServiceSupervisor A :=
  match s.runtimes[serviceId]? with
  | none => s
  | some runtime =>
    { s with snapshot := s.snapshot.setService serviceId (runtime.record s.hostId) }

/-- A new runtime of the service is stored and projected. -/
def put (runtime : ServiceRuntime A) : ServiceSupervisor A :=
  { s with runtimes := s.runtimes.insert serviceId runtime }.projectRuntime serviceId

/-- The record and the runtime that a definition starts with (L379-423). -/
def initialRuntime (overlays : ExtTreeMap ServiceId EnvironmentOverlay)
    (owners : ExtTreeMap ServiceId ConfiguredServiceOwner)
    (workspaceRoots : ExtTreeMap ServiceId String)
    (resourceIds : ServiceId → ResourceId) (nowMs : ℕ) (definition : ServiceDefinition) :
    ServiceRuntime A where
  bindingOwner := owners[definition.id]?.getD (.fromScope definition.scope)
  workspaceRoot := workspaceRoots[definition.id]?.getD ""
  resourceId := resourceIds definition.id
  overlay := overlays[definition.id]?.getD (.fromNames definition.command.env)
  evidence := stoppedEvidence nowMs 1 1
  health := definition.health.policy.map HealthTracker.new
  live := none
  operation := none

/-- `from_catalog_with_roots` (L368-433); `resourceIds` are the new identifiers. -/
def fromCatalog (catalog : ServiceCatalog) (overlays : ExtTreeMap ServiceId EnvironmentOverlay)
    (owners : ExtTreeMap ServiceId ConfiguredServiceOwner)
    (workspaceRoots : ExtTreeMap ServiceId String)
    (resourceIds : ServiceId → ResourceId) (authority : A) (hostId : HostId) (nowMs : ℕ) :
    ServiceSupervisor A where
  catalog := catalog
  snapshot := {
    services := catalog.services.map fun _ _ => ⟨.stopped, ⟨1, 1, 1⟩, .none, none⟩
    taskEpochs := ∅
    closingTasks := ∅ }
  hostId := hostId
  nowMs := nowMs
  nextOperationId := 1
  authority := authority
  runtimes := catalog.services.map fun _ definition =>
    initialRuntime overlays owners workspaceRoots resourceIds nowMs definition
  ports := ∅
  probeExecutions := 0

/-- `state`, L865-870 -/
def state : ServiceState :=
  match s.runtimes[serviceId]? with
  | some runtime => reduceService runtime.evidence
  | none => .unknown

/-! ## Time and probes -/

/-- One turn of the loop of `advance_clock`. -/
def tick : ServiceSupervisor A :=
  match s.runtimes[serviceId]? with
  | none => s
  | some runtime => s.put serviceId (runtime.tick s.nowMs)

/-- `advance_clock`, L439-459 -/
def advanceClock (nowMs : ℕ) : ServiceSupervisor A :=
  s.runtimes.keys.foldl (fun s serviceId => s.tick serviceId) { s with nowMs := max s.nowMs nowMs }

/-- A probe execution is counted (L722). -/
def countProbe : ServiceSupervisor A :=
  { s with probeExecutions := saturatingAdd s.probeExecutions 1 }

/-- `apply_probe`, L716-763 -/
def applyProbe (generation : ℕ) (outcome : ProbeOutcome) :
    Except SupervisorError ServiceState × ServiceSupervisor A :=
  let s := s.countProbe
  match s.runtimes[serviceId]? with
  | none => (.error (.unknownService serviceId), s)
  | some runtime =>
    if runtime.evidence.generation ≠ generation then
      (.error (.staleGeneration runtime.evidence.generation generation), s)
    else
      match runtime.health with
      | none =>
        let s := s.projectRuntime serviceId
        (.ok (s.state serviceId), s)
      | some tracker =>
        match tracker.recordProbe s.nowMs generation outcome .healthProbe with
        | .error _ => (.error (.staleGeneration generation generation), s)
        | .ok tracker =>
          let s := s.put serviceId (runtime.probed s.nowMs tracker)
          (.ok (s.state serviceId), s)

/-! ## Ports -/

/-- `release_port_for`, L1479-1496 -/
def releasePortFor (generation : ℕ) : ServiceSupervisor A :=
  match s.catalog.services[serviceId]?.bind (·.expectedPort) with
  | none => s
  | some port =>
    if s.ports[port]? = some (.reserved serviceId generation) then
      { s with ports := s.ports.erase port }
    else s

variable (port : ℕ)

/-- `service_ids_for_port`, L662-672 -/
def serviceIdsForPort : List ServiceId :=
  ((s.catalog.services.toList.map Prod.snd).filter fun definition =>
    definition.expectedPort = some port).map (·.id)

/-- `port_is_live_managed`, L674-685 -/
def portIsLiveManaged : Bool :=
  match s.ports[port]? with
  | some (.reserved serviceId generation) =>
    match s.runtimes[serviceId]? with
    | some runtime => runtime.live.isSome && runtime.evidence.generation = generation
    | none => false
  | _ => false

/-- `mark_external`, L1287-1311 -/
def markExternal (ownerPid : Option ℕ) : ServiceSupervisor A :=
  match s.runtimes[serviceId]? with
  | none => s
  | some runtime => s.put serviceId (runtime.external s.nowMs port ownerPid)

/-- `mark_port_indeterminate`, L1313-1328 -/
def markPortIndeterminate : ServiceSupervisor A :=
  match s.runtimes[serviceId]? with
  | none => s
  | some runtime => s.put serviceId (runtime.indeterminate s.nowMs)

/-- One turn of the loop of `clear_external_for_port` (L1341-1359). -/
def clearExternal : ServiceSupervisor A :=
  match s.runtimes[serviceId]? with
  | none => s
  | some runtime =>
    if runtime.live.isSome || !runtime.unclear then s
    else
      s.put serviceId { runtime with
        evidence := stoppedEvidence s.nowMs runtime.evidence.generation runtime.evidence.epoch }

/-- The service has a live handle. -/
def isLive : Bool := s.runtimes[serviceId]?.any (·.live.isSome)

/-- `observe_port` marks the services of a port that have no live handle
(L568-579). -/
def markIdle (mark : ServiceSupervisor A → ServiceId → ServiceSupervisor A) (port : ℕ) :
    ServiceSupervisor A :=
  (s.serviceIdsForPort port).foldl (fun s serviceId =>
    if s.isLive serviceId then s else mark s serviceId) s

/-- The claim on a port is set. -/
def claim (portClaim : PortClaim) : ServiceSupervisor A :=
  { s with ports := s.ports.insert port portClaim }

/-- The `Managed` arm of `observe_port` (L595-621). -/
def observeManaged : ServiceSupervisor A :=
  match (s.serviceIdsForPort port).find? fun serviceId => s.isLive serviceId with
  | none => (s.claim port .indeterminate).markIdle (fun s id => s.markPortIndeterminate id) port
  | some serviceId =>
    match s.runtimes[serviceId]? with
    | none => s
    | some runtime =>
      -- the evidence is not projected here
      { s with runtimes := s.runtimes.insert serviceId (runtime.managed s.nowMs port) }.claim port
        (.reserved serviceId runtime.evidence.generation)

/-- `observe_port`, L554-660 -/
def observePort (authority : PortAuthority) (ownerPid : Option ℕ) :
    ServiceSupervisor A :=
  match authority with
  | .provenExternal =>
    if s.portIsLiveManaged port then s
    else (s.claim port (.external ownerPid)).markIdle
      (fun s id => s.markExternal id port ownerPid) port
  | .free =>
    match s.ports[port]? with
    | some (.external _) | some .indeterminate =>
      (s.serviceIdsForPort port).foldl (fun s serviceId => s.clearExternal serviceId)
        { s with ports := s.ports.erase port }
    | _ => s
  | .managed => s.observeManaged port
  | .unknown | .probeError =>
    (s.claim port .indeterminate).markIdle (fun s id => s.markPortIndeterminate id) port

/-! ## Exits -/

/-- `report_exit`, L765-824 -/
def reportExit (generation : ℕ) :
    Except SupervisorError ServiceState × ServiceSupervisor A :=
  match s.runtimes[serviceId]? with
  | none => (.error (.unknownService serviceId), s)
  | some runtime =>
    if runtime.evidence.generation ≠ generation then
      (.error (.staleGeneration runtime.evidence.generation generation), s)
    else
      let exit (s : ServiceSupervisor A) : Except SupervisorError ServiceState × ServiceSupervisor
        A :=
        let s := (s.put serviceId runtime.exited).releasePortFor serviceId generation
        (.ok (s.state serviceId), s)
      if runtime.live.isSome then
        match tearDown s.authority runtime.live ⟨runtime.resourceId, generation⟩ with
        | (.error error, _, authority) => (.error error, { s with authority })
        | (.ok (), _, authority) => exit { s with authority }
      else exit s

/-- The exits that `pump_io` observes (L1405-1420). -/
def observedExits : List (ServiceId × ℕ) :=
  s.runtimes.toList.filterMap fun (serviceId, runtime) =>
    match runtime.live with
    | none => none
    | some live =>
      if (ManagedLaunchAuthority.takeExit s.authority live).isSome then
        some (serviceId, ManagedLaunchAuthority.liveGeneration live)
      else none

/-- `pump_io`, L1405-1430 -/
def pumpIo : ServiceSupervisor A :=
  s.observedExits.foldl (fun s exit => (s.reportExit exit.1 exit.2).2) s

/-! ## Launching -/

/-- The claim on the expected port refuses the launch (L1025-1049). -/
def portRefusal (admittedGeneration currentGeneration : ℕ)
    (expectedPort : Option ℕ) : Option (SupervisorError × ServiceSupervisor A) :=
  match expectedPort with
  | none => none
  | some port =>
    match s.ports[port]? with
    | some (.external _) => some (.externalPort port, s.markExternal serviceId port none)
    | some .indeterminate => some (.refused .evidenceUnknown, s.markPortIndeterminate serviceId)
    | some (.reserved owner claimed) =>
      if owner ≠ serviceId ∨ (claimed ≠ currentGeneration ∧ claimed ≠ admittedGeneration) then
        some (.portBusy port, s.projectRuntime serviceId)
      else none
    | none => none

/-- The launch is resumed: its port is reserved and its evidence recorded
(L1077-1158). -/
def started (runtime : ServiceRuntime A) (generation epoch : ℕ)
    (expectedPort : Option ℕ) (live : Live A) : ServiceSupervisor A :=
  { s with
    nextOperationId :=
      if runtime.health.isSome then saturatingAdd s.nextOperationId 1 else s.nextOperationId
    ports := match expectedPort with
      | some port => s.ports.insert port (.reserved serviceId generation)
      | none => s.ports }.put serviceId
    (runtime.launched s.nowMs generation epoch s.nextOperationId expectedPort live)

/-- The calls of the authority that launch a service (L1058-1077). -/
def launch (runtime : ServiceRuntime A) (generation epoch : ℕ)
    (intent : LaunchIntent) : Except SupervisorError Unit × ServiceSupervisor A :=
  match runtime.launchSpec serviceId generation intent with
  | .error error => (.error error, s)
  | .ok spec =>
    match ManagedLaunchAuthority.prepareSuspended s.authority spec with
    | (.error error, authority) => (.error error, { s with authority })
    | (.ok pending, authority) =>
      match ManagedLaunchAuthority.registerSuspended authority pending with
      | (.error error, authority) => (.error error, { s with authority })
      | (.ok registered, authority) =>
        match ManagedLaunchAuthority.resume authority registered with
        | (.error error, authority) => (.error error, { s with authority })
        | (.ok live, authority) =>
          (.ok (), { s with authority }.started serviceId runtime generation epoch
            intent.expectedPort live)

/-- `start_member`, L999-1159 -/
def startMember (fence : ServiceFence) (intent : LaunchIntent) :
    Except SupervisorError Unit × ServiceSupervisor A :=
  match s.runtimes[serviceId]? with
  | none => (.error (.unknownService serviceId), s)
  | some runtime =>
    let currentGeneration := runtime.evidence.generation
    let currentEpoch := runtime.evidence.epoch
    if currentGeneration ≠ fence.resourceGeneration ∧
        ¬ (currentGeneration = saturatingAdd fence.resourceGeneration 1 ∧
          currentEpoch = saturatingAdd fence.actionEpoch 1) then
      (.error (.refused .staleFence), s)
    else
      match s.portRefusal serviceId fence.resourceGeneration currentGeneration
        intent.expectedPort with
      | some (error, s) => (.error error, s)
      | none =>
        match checkedAdd currentGeneration 1, checkedAdd currentEpoch 1 with
        | some generation, some epoch => s.launch serviceId runtime generation epoch intent
        | _, _ => (.error (.refused .other), s)

/-- `fail_member`, L1241-1285 -/
def failMember (generation epoch : ℕ) : ServiceSupervisor A :=
  match s.runtimes[serviceId]? with
  | none => s.releasePortFor serviceId generation
  | some runtime =>
    let (_, live, authority) := tearDown s.authority runtime.live ⟨runtime.resourceId, generation⟩
    ({ s with authority }.put serviceId
      ({ runtime with live }.failed s.nowMs generation epoch)).releasePortFor
        serviceId generation

/-- The loop of `execute_start` (L942-958). -/
def startMembers (s : ServiceSupervisor A) :
    List StartPlanItem → Except SupervisorError (List ServiceId) × ServiceSupervisor A
  | [] => (.ok [], s)
  | item :: rest =>
    match item.intent with
    | none => startMembers s rest
    | some intent =>
      match s.startMember item.serviceId item.fence intent with
      | (.error error, s) =>
        (.error error, s.failMember item.serviceId (saturatingAdd item.fence.resourceGeneration 1)
          (saturatingAdd item.fence.actionEpoch 1))
      | (.ok (), s) =>
        match startMembers s rest with
        | (.error error, s) => (.error error, s)
        | (.ok started, s) => (.ok (item.serviceId :: started), s)

/-- `execute_start`, L942-962 -/
def executeStart (plan : StartPlan) : Except SupervisorError SupervisorOutcome × ServiceSupervisor
    A :=
  match s.startMembers plan.ordered with
  | (.error error, s) => (.error error, s)
  | (.ok started, s) => (.ok (.changed started (s.state plan.root)), s)

/-! ## Stopping -/

/-- `stop_member`, L1161-1239 -/
def stopMember (fence : ServiceFence) :
    Except SupervisorError Unit × ServiceSupervisor A :=
  match s.runtimes[serviceId]? with
  | none => (.error (.unknownService serviceId), s)
  | some runtime =>
    let liveGeneration := fence.resourceGeneration
    let liveEpoch := fence.actionEpoch
    if runtime.evidence.generation ≠ liveGeneration ∨ runtime.evidence.epoch ≠ liveEpoch then
      (.error (.refused .staleFence), s)
    else
      match tearDown s.authority runtime.live ⟨runtime.resourceId, liveGeneration⟩ with
      | (.error error, live, authority) =>
        -- the lifecycle is restored
        (.error error, { s with authority }.put serviceId { runtime with live })
      | (.ok (), live, authority) =>
        let s := { s with authority }
        match checkedAdd liveGeneration 1, checkedAdd liveEpoch 1 with
        | some generation, some epoch =>
          (.ok (), (s.releasePortFor serviceId liveGeneration).put serviceId
            ({ runtime with live }.stopped s.nowMs generation epoch))
        | _, _ => (.error (.refused .other), s.put serviceId { runtime with live }.stopping)

/-- The loops of `execute_stop` and `execute_task_close` (L964-997), over the members
that `skip` does not leave out. -/
def stopMembers (skip : ServiceSupervisor A → ServiceId → Bool) (s : ServiceSupervisor A) :
    List ServicePlanItem → Except SupervisorError (List ServiceId) × ServiceSupervisor A
  | [] => (.ok [], s)
  | item :: rest =>
    if skip s item.serviceId then stopMembers skip s rest
    else
      match s.stopMember item.serviceId item.fence with
      | (.error error, s) => (.error error, s)
      | (.ok (), s) =>
        match stopMembers skip s rest with
        | (.error error, s) => (.error error, s)
        | (.ok stopped, s) => (.ok (item.serviceId :: stopped), s)

/-- `execute_stop`, L964-978 -/
def executeStop (plan : StopPlan) : Except SupervisorError SupervisorOutcome × ServiceSupervisor
    A :=
  match stopMembers (fun _ _ => false) s plan.ordered with
  | (.error error, s) => (.error error, s)
  | (.ok stopped, s) => (.ok (.changed stopped (s.state plan.root)), s)

/-- `execute_task_close`, L980-997 -/
def executeTaskClose (plan : TaskClosePlan) :
    Except SupervisorError SupervisorOutcome × ServiceSupervisor A :=
  match stopMembers (fun s id => s.state id = .stopped) s plan.ordered with
  | (.error error, s) => (.error error, s)
  | (.ok stopped, s) => (.ok (.changed stopped .stopped), s)

/-! ## Requests -/

/-- `require_fence`, L1467-1477 -/
def requireFence (fence : AdmissionFence) : Except SupervisorError Unit := do
  let record ← okOr s.snapshot.services[serviceId]? (.unknownService serviceId)
  failIf (record.fence ≠ fence) (.refused .staleFence)

/-- `logs` and `health` (L826-863). -/
def read (action : SupervisorAction) (serviceId : ServiceId) (fence : AdmissionFence) :
    Except SupervisorError SupervisorOutcome := do
  s.requireFence serviceId fence
  let runtime ← okOr s.runtimes[serviceId]? (.unknownService serviceId)
  if action = .logs then return .logs serviceId runtime.evidence.generation
  else
    let _ ← okOr s.catalog.services[serviceId]? (.unknownService serviceId)
    return .health serviceId (reduceService runtime.evidence) runtime.evidence.generation

/-- A host request is made with the supervisor's own host (L477-490). -/
def requesterFor : AdmissionRequester → AdmissionRequester
  | .task taskId => .task taskId
  | .host _ => .host s.hostId

/-- The mutating arm of `handle` (L475-533). -/
def mutate (action : ServiceAction) (serviceId : ServiceId) (fence : AdmissionFence)
    (requester : AdmissionRequester) :
    Except SupervisorError SupervisorOutcome × ServiceSupervisor A :=
  let refuse (rejection : AdmissionRejection) :
      Except SupervisorError SupervisorOutcome × ServiceSupervisor A :=
    (.error (.refused (refusalFrom rejection)), s)
  match s.catalog.admitRequest ⟨action, serviceId, fence, s.requesterFor requester⟩ s.snapshot with
  | .coalesced service operationId action => (.ok (.coalesced service operationId action), s)
  | .refused rejection => refuse rejection
  | .start plan =>
    match plan.revalidate s.catalog s.snapshot with
    | .error rejection => refuse rejection
    | .ok () => s.executeStart plan
  | .stop plan =>
    match plan.revalidate s.catalog s.snapshot with
    | .error rejection => refuse rejection
    | .ok () => s.executeStop plan
  | .restart plan =>
    match plan.revalidate s.catalog s.snapshot with
    | .error rejection => refuse rejection
    | .ok () =>
      match s.executeStop plan.stop with
      | (.error error, s) => (.error error, s)
      | (.ok _, s) => s.executeStart plan.start

/-- `handle`, L461-535 -/
def handle (action : SupervisorAction) (serviceId : ServiceId) (fence : AdmissionFence)
    (requester : AdmissionRequester) :
    Except SupervisorError SupervisorOutcome × ServiceSupervisor A :=
  let s := s.pumpIo
  match action with
  | .logs | .health => (s.read action serviceId fence, s)
  | .start => s.mutate .start serviceId fence requester
  | .stop => s.mutate .stop serviceId fence requester
  | .restart => s.mutate .restart serviceId fence requester

/-- `close_task`, L537-552 -/
def closeTask (taskId : TaskId) (epoch : ℕ) :
    Except SupervisorError SupervisorOutcome × ServiceSupervisor A :=
  let s := { s with snapshot := (s.snapshot.markTaskClosing taskId).setTaskEpoch taskId epoch }
  match s.catalog.admitTaskClose taskId epoch s.snapshot with
  | .error rejection => (.error (.refused (refusalFrom rejection)), s)
  | .ok plan =>
    match plan.revalidate s.catalog s.snapshot with
    | .error rejection => (.error (.refused (refusalFrom rejection)), s)
    | .ok () => s.executeTaskClose plan

end ServiceSupervisor

/-! ## Calls -/

/-- A call of the supervisor, or a change of the launch authority's state between two calls. -/
inductive SupervisorCall (A : Type)
  | handle (action : SupervisorAction) (serviceId : ServiceId) (fence : AdmissionFence)
      (requester : AdmissionRequester)
  | closeTask (taskId : TaskId) (epoch : ℕ)
  | advanceClock (nowMs : ℕ)
  | applyProbe (serviceId : ServiceId) (generation : ℕ) (outcome : ProbeOutcome)
  | reportExit (serviceId : ServiceId) (generation : ℕ)
  | observePort (port : ℕ) (authority : PortAuthority) (ownerPid : Option ℕ)
  | pumpIo
  | environment (authority : A)

/-- What a call returns. -/
inductive SupervisorReply
  | outcome (result : Except SupervisorError SupervisorOutcome)
  | state (result : Except SupervisorError ServiceState)
  | done

/-- One call. -/
def ServiceSupervisor.call (s : ServiceSupervisor A) :
    SupervisorCall A → SupervisorReply × ServiceSupervisor A
  | .handle action serviceId fence requester =>
    let (result, s) := s.handle action serviceId fence requester
    (.outcome result, s)
  | .closeTask taskId epoch =>
    let (result, s) := s.closeTask taskId epoch
    (.outcome result, s)
  | .advanceClock nowMs => (.done, s.advanceClock nowMs)
  | .applyProbe serviceId generation outcome =>
    let (result, s) := s.applyProbe serviceId generation outcome
    (.state result, s)
  | .reportExit serviceId generation =>
    let (result, s) := s.reportExit serviceId generation
    (.state result, s)
  | .observePort port authority ownerPid => (.done, s.observePort port authority ownerPid)
  | .pumpIo => (.done, s.pumpIo)
  | .environment authority => (.done, { s with authority })

end DevManager
