import DevManager.Services.Supervisor

/-!
# What the supervisor can do

Every call of the supervisor is a sequence of moves (`call_moves`): a change of
one service's evidence, the end or the start of a process with what it does to
its port, or a change of a claim on a port. Four kinds of moves are faults; a
relation of moves says which of them it allows.

* `Base.move`, `base_calls`: both hold after any calls.
-/

namespace DevManager

open ManagedLaunchAuthority (Live)
open OrdMap

variable {A : Type} [ManagedLaunchAuthority A]

/-! ## The evidence of one service -/

/-- The health axis of an owned service is the axis of its tracker. -/
def Tracked (health : HealthAxis) (generation : ℕ) : Option HealthTracker → Prop
  | none => health = .disabled
  | some tracker =>
    tracker.generation = some generation ∧ health = tracker.axis ∧ tracker.axis.ended = false

namespace ServiceRuntime

/-- What holds of the evidence of a service: while it is owned it is owned by its binding and its
process runs; while it has a live handle it is owned and not stopping. -/
structure Ok (runtime : ServiceRuntime A) : Prop where
  numbers : runtime.evidence.generation ≤ u64Max ∧ runtime.evidence.epoch ≤ u64Max
  consistent : runtime.evidence.ownership ≠ .inconsistent
  owner : runtime.evidence.ownership.owned = true →
    runtime.evidence.ownership = runtime.bindingOwner.axis
  process : runtime.evidence.ownership.owned = true →
    runtime.evidence.process = .running runtime.evidence.generation
  lifecycle : runtime.evidence.ownership.owned = true →
    runtime.evidence.lifecycle = .starting ∨ runtime.evidence.lifecycle = .running ∨
      runtime.evidence.lifecycle = .stopping
  port : runtime.evidence.ownership.owned = true →
    runtime.evidence.port = .free ∨ ∃ port, runtime.evidence.port = .owned port
  tracked : runtime.evidence.ownership.owned = true →
    Tracked runtime.evidence.health runtime.evidence.generation runtime.health
  live : runtime.live.isSome = true → runtime.evidence.ownership.owned = true ∧
    (runtime.evidence.lifecycle = .starting ∨ runtime.evidence.lifecycle = .running)

/-- The startup deadline of the service passes while its start is in progress. -/
def MissesDeadline (runtime : ServiceRuntime A) (nowMs : ℕ) : Prop :=
  runtime.operation.isSome = true ∧ ∃ tracker, runtime.health = some tracker ∧
    tracker.generation = some runtime.evidence.generation ∧ tracker.axis.ended = false ∧
    tracker.startupMissed nowMs = true

variable {runtime : ServiceRuntime A}

@[simp] theorem axis_owned (owner : ConfiguredServiceOwner) : owner.axis.owned = true := by
  cases owner <;> rfl

theorem Ok.of_not_owned
    (hnums : runtime.evidence.generation ≤ u64Max ∧ runtime.evidence.epoch ≤ u64Max)
    (hconsistent : runtime.evidence.ownership ≠ .inconsistent)
    (howned : runtime.evidence.ownership.owned = false) (hlive : runtime.live = none) :
    runtime.Ok := by
  have hnode : ¬ runtime.evidence.ownership.owned = true := by simp [howned]
  exact ⟨hnums, hconsistent, fun h => absurd h hnode, fun h => absurd h hnode,
    fun h => absurd h hnode,
    fun h => absurd h hnode, fun h => absurd h hnode, fun h => by rw [hlive] at h; cases h⟩

theorem Ok.exited (h : runtime.Ok) : runtime.exited.Ok :=
  .of_not_owned h.numbers (by simp [ServiceRuntime.exited]) rfl rfl

variable {nowMs generation : ℕ}

theorem stopped_ok {epoch : ℕ}
    (hnums : generation ≤ u64Max ∧ epoch ≤ u64Max) :
    (runtime.stopped nowMs generation epoch).Ok :=
  .of_not_owned hnums (by simp [stopped]) rfl rfl

theorem failed_ok {epoch : ℕ} (hnums : generation ≤ u64Max ∧ epoch ≤ u64Max)
    (hlive : runtime.live = none) : (runtime.failed nowMs generation epoch).Ok :=
  .of_not_owned hnums (by simp [failed]) rfl hlive

theorem Ok.external {port : ℕ} {ownerPid : Option ℕ} (h : runtime.Ok)
    (hlive : runtime.live = none) : (runtime.external nowMs port ownerPid).Ok :=
  .of_not_owned h.numbers (by simp [ServiceRuntime.external]) rfl hlive

theorem Ok.indeterminate (h : runtime.Ok) (hlive : runtime.live = none) :
    (runtime.indeterminate nowMs).Ok :=
  .of_not_owned h.numbers (by simp [ServiceRuntime.indeterminate]) rfl hlive

theorem launched_ok {epoch operationId : ℕ} {expectedPort : Option ℕ}
    {live} (hnums : generation ≤ u64Max ∧ epoch ≤ u64Max) :
    (runtime.launched nowMs generation epoch operationId expectedPort live).Ok where
  numbers := hnums
  consistent := by
    cases h : runtime.bindingOwner <;> simp [launched, ConfiguredServiceOwner.axis, h]
  owner := fun _ => rfl
  process := fun _ => rfl
  lifecycle := fun _ => by
    cases h : runtime.health with
    | none => exact .inr (.inl (by simp [launched, h]))
    | some tracker => exact .inl (by simp [launched, h])
  port := fun _ => by
    cases expectedPort with
    | none => exact .inl rfl
    | some => exact .inr ⟨_, rfl⟩
  tracked := fun _ => by
    cases h : runtime.health with
    | none => simp [launched, h, Tracked]
    | some tracker => simp [launched, h, Tracked, HealthTracker.start, HealthAxis.ended]
  live := fun _ => ⟨axis_owned _, by
    cases h : runtime.health with
    | none => exact .inr (by simp [launched, h])
    | some tracker => exact .inl (by simp [launched, h])⟩

theorem Ok.stopping (h : runtime.Ok) :
    ({ runtime with live := none } : ServiceRuntime A).stopping.Ok where
  numbers := h.numbers
  consistent := h.consistent
  owner := h.owner
  process := h.process
  lifecycle := fun _ => Or.inr (Or.inr rfl)
  port := h.port
  tracked := h.tracked
  live := nofun

theorem Ok.managed {port : ℕ} (h : runtime.Ok) (hlive : runtime.live.isSome = true) :
    (runtime.managed nowMs port).Ok := by
  obtain ⟨howned, hlife⟩ := h.live hlive
  exact {
    numbers := h.numbers
    consistent := by
      cases howner : runtime.bindingOwner <;>
        simp [ServiceRuntime.managed, ConfiguredServiceOwner.axis, howner]
    owner := fun _ => rfl
    process := fun _ => h.process howned
    lifecycle := fun _ => h.lifecycle howned
    port := fun _ => .inr ⟨port, rfl⟩
    tracked := fun _ => h.tracked howned
    live := fun _ => ⟨axis_owned _, hlife⟩ }

theorem tick_cases (runtime : ServiceRuntime A) (nowMs : ℕ) :
    runtime.tick nowMs = runtime ∨ ∃ tracker next, runtime.health = some tracker ∧
      tracker.generation = some runtime.evidence.generation ∧ tracker.Advanced nowMs next ∧
      runtime.tick nowMs = { runtime with
        health := some next
        evidence := { runtime.evidence with health := next.axis } } := by
  unfold tick
  cases hhealth : runtime.health with
  | none => exact .inl rfl
  | some tracker =>
    cases hadv : tracker.advance nowMs runtime.evidence.generation with
    | error e => exact .inl (by simp [hadv])
    | ok next =>
      obtain ⟨hgen, hmove⟩ := HealthTracker.advance_cases hadv
      exact .inr ⟨tracker, next, rfl, hgen, hmove, by simp [hadv]⟩

theorem Ok.retracked {next : ServiceRuntime A} {tracker} (h : runtime.Ok)
    (hbind : next.bindingOwner = runtime.bindingOwner) (hlive : next.live = runtime.live)
    (hhealth : next.health = some tracker)
    (hevid : next.evidence.ownership = runtime.evidence.ownership ∧
      next.evidence.process = runtime.evidence.process ∧
      next.evidence.port = runtime.evidence.port ∧
      next.evidence.generation = runtime.evidence.generation ∧
      next.evidence.epoch = runtime.evidence.epoch)
    (hlife : next.evidence.lifecycle = runtime.evidence.lifecycle ∨
      next.evidence.lifecycle = .running)
    (htracked : runtime.evidence.ownership.owned = true →
      Tracked next.evidence.health next.evidence.generation (some tracker)) : next.Ok := by
  obtain ⟨howner, hprocess, hport, hgen, hepoch⟩ := hevid
  refine ⟨?_, ?_, ?_, ?_, ?_, ?_, ?_, ?_⟩
  · rw [hgen, hepoch]
    exact h.numbers
  · rw [howner]
    exact h.consistent
  · rw [howner, hbind]
    exact h.owner
  · rw [howner, hprocess, hgen]
    exact h.process
  · intro howned
    rcases hlife with hl | hl
    · rw [hl]
      exact h.lifecycle (howner ▸ howned)
    · exact .inr (.inl hl)
  · rw [howner, hport]
    exact h.port
  · intro howned
    rw [hhealth]
    exact htracked (howner ▸ howned)
  · intro hlive'
    obtain ⟨howned, hold⟩ := h.live (hlive ▸ hlive')
    refine ⟨howner ▸ howned, ?_⟩
    rcases hlife with hl | hl
    · rw [hl]
      exact hold
    · exact .inr hl

theorem Ok.tick (h : runtime.Ok) (nowMs : ℕ) : (runtime.tick nowMs).Ok := by
  rcases tick_cases runtime nowMs with hsame | ⟨tracker, next, hhealth, hgen, hmove, htick⟩
  · rw [hsame]
    exact h
  · rw [htick]
    refine h.retracked rfl rfl rfl ⟨rfl, rfl, rfl, rfl, rfl⟩ (.inl rfl) fun howned => ?_
    have hold := h.tracked howned
    rw [hhealth] at hold
    cases hmove with
    | same hnext => exact ⟨hnext ▸ hold.1, rfl, hnext ▸ hold.2.2⟩
    | missed _ _ hnext =>
      obtain ⟨startedAtMs, rfl⟩ := hnext
      exact ⟨hold.1, rfl, rfl⟩
    | stale _ lastProbeAtMs hnext =>
      subst hnext
      exact ⟨hold.1, rfl, rfl⟩

theorem Ok.probed {tracker next : HealthTracker} (h : runtime.Ok)
    (hgen : tracker.generation = some runtime.evidence.generation)
    (hprobed : tracker.Probed next) : (runtime.probed nowMs next).Ok := by
  refine h.retracked rfl rfl rfl ⟨rfl, rfl, rfl, rfl, rfl⟩ ?_ fun _ =>
    ⟨hprobed.generation.trans hgen, rfl, ?_⟩
  · show (if _ then _ else _) = _ ∨ (if _ then _ else _) = _
    split_ifs
    · exact .inr rfl
    · exact .inl rfl
  · rcases hprobed.axis with ⟨atMs, haxis⟩ | ⟨atMs, haxis⟩ | ⟨atMs, haxis⟩ <;> rw [haxis] <;> rfl

theorem Ok.at_work (h : runtime.Ok) (howned : runtime.evidence.ownership.owned = true) :
    reduceService runtime.evidence ≠ .stopped ∧ reduceService runtime.evidence ≠ .failed := by
  refine reduceService_tracked howned (h.process howned) (h.lifecycle howned) ?_
  have htracked := h.tracked howned
  cases hhealth : runtime.health with
  | none =>
    rw [hhealth] at htracked
    rw [show runtime.evidence.health = .disabled from htracked]
    rfl
  | some tracker =>
    rw [hhealth] at htracked
    obtain ⟨_, haxis, hended⟩ := htracked
    rw [haxis]
    exact hended

end ServiceRuntime

/-! ## Moves of one service -/

/-- The moves after which an invariant of the supervisor may fail. -/
inductive SupervisorFault
  | deadline | freed | overflow | unreleased | attempted
  | exited (serviceId : ServiceId)

namespace ServiceRuntime

variable {runtime : ServiceRuntime A}

/-- Changes of a service's evidence that leave its process alone. -/
inductive Quiet (allowed : SupervisorFault → Prop) (runtime : ServiceRuntime A) :
    ServiceRuntime A → Prop
  | same : Quiet allowed runtime runtime
  | ticked (nowMs : ℕ) (hmissed : runtime.MissesDeadline nowMs → allowed .deadline) :
    Quiet allowed runtime (runtime.tick nowMs)
  | probed (nowMs : ℕ) (tracker next : HealthTracker) (hhealth : runtime.health = some tracker)
      (hgen : tracker.generation = some runtime.evidence.generation)
      (hprobed : tracker.Probed next) : Quiet allowed runtime (runtime.probed nowMs next)
  | external (nowMs port : ℕ) (ownerPid : Option ℕ) (hlive : runtime.live = none) :
    Quiet allowed runtime (runtime.external nowMs port ownerPid)
  | indeterminate (nowMs : ℕ) (hlive : runtime.live = none) :
    Quiet allowed runtime (runtime.indeterminate nowMs)
  | cleared (nowMs : ℕ) (hlive : runtime.live = none) :
    Quiet allowed runtime { runtime with
      evidence := stoppedEvidence nowMs runtime.evidence.generation runtime.evidence.epoch }

/-- What no change of the evidence alone touches. -/
structure SameProcess (runtime next : ServiceRuntime A) : Prop where
  live : next.live = runtime.live
  generation : next.evidence.generation = runtime.evidence.generation
  epoch : next.evidence.epoch = runtime.evidence.epoch
  binding : next.bindingOwner = runtime.bindingOwner

theorem SameProcess.refl : SameProcess runtime runtime := ⟨rfl, rfl, rfl, rfl⟩

variable {allowed : SupervisorFault → Prop} {next : ServiceRuntime A}

theorem Quiet.sameProcess (h : Quiet allowed runtime next) : SameProcess runtime next := by
  cases h with
  | same => exact .refl
  | ticked nowMs _ =>
    rcases tick_cases runtime nowMs with hsame | ⟨_, _, _, _, _, htick⟩
    · rw [hsame]
      exact .refl
    · rw [htick]
      exact ⟨rfl, rfl, rfl, rfl⟩
  | probed | external | indeterminate | cleared => exact ⟨rfl, rfl, rfl, rfl⟩

theorem Quiet.ok (h : Quiet allowed runtime next) (hok : runtime.Ok) : next.Ok := by
  cases h with
  | same => exact hok
  | ticked nowMs _ => exact hok.tick nowMs
  | probed nowMs tracker next _ hgen hprobed => exact hok.probed hgen hprobed
  | external nowMs port ownerPid hlive => exact hok.external hlive
  | indeterminate nowMs hlive => exact hok.indeterminate hlive
  | cleared nowMs hlive => exact .of_not_owned hok.numbers (by simp [stoppedEvidence]) rfl hlive

/-- The ends of a process: an exit keeps its numbers, a stop passes to the next. -/
inductive Ended (runtime : ServiceRuntime A) : ServiceRuntime A → Prop
  | exited : Ended runtime runtime.exited
  | stopped (nowMs : ℕ) (hnums : runtime.evidence.generation + 1 ≤ u64Max ∧
      runtime.evidence.epoch + 1 ≤ u64Max) :
    Ended runtime
      (runtime.stopped nowMs (runtime.evidence.generation + 1) (runtime.evidence.epoch + 1))

theorem Ended.ok (h : Ended runtime next) (hok : runtime.Ok) : next.Ok := by
  cases h with
  | exited => exact hok.exited
  | stopped nowMs hnums => exact stopped_ok hnums

theorem Ended.numbers (h : Ended runtime next) :
    (next.evidence.generation = runtime.evidence.generation ∧
        next.evidence.epoch = runtime.evidence.epoch) ∨
      (next.evidence.generation = runtime.evidence.generation + 1 ∧
        next.evidence.epoch = runtime.evidence.epoch + 1) := by
  cases h with
  | exited => exact .inl ⟨rfl, rfl⟩
  | stopped => exact .inr ⟨rfl, rfl⟩

theorem Ended.live (h : Ended runtime next) : next.live = none := by
  cases h <;> rfl

theorem record_managed {nowMs port : ℕ} {hostId} (h : runtime.Ok)
    (hlive : runtime.live.isSome = true) :
    (runtime.managed nowMs port).record hostId = runtime.record hostId := by
  obtain ⟨howned, hlife⟩ := h.live hlive
  have howner : (runtime.managed nowMs port).evidence.ownership = runtime.evidence.ownership :=
    (h.owner howned).symm
  have hstate : reduceService (runtime.managed nowMs port).evidence =
      reduceService runtime.evidence :=
    reduceService_port (by rw [howner]; exact howned) howner rfl rfl rfl (.inr ⟨port, rfl⟩)
      (h.port howned)
  unfold record
  rw [hstate, howner]
  rfl

end ServiceRuntime

/-! ## Moves of the supervisor -/

namespace ServiceSupervisor

variable {s : ServiceSupervisor A}

theorem projectRuntime_of_get {serviceId runtime} (h : s.runtimes[serviceId]? = some runtime) :
    s.projectRuntime serviceId =
      { s with snapshot := s.snapshot.setService serviceId (runtime.record s.hostId) } := by
  unfold projectRuntime
  rw [h]

variable (s)

theorem put_eq (serviceId) (runtime) :
    s.put serviceId runtime = { s with
      runtimes := s.runtimes.insert serviceId runtime,
      snapshot := s.snapshot.setService serviceId (runtime.record s.hostId) } :=
  projectRuntime_of_get (by simp)

/-- The launch of the service expects the port. -/
def Expects (serviceId : ServiceId) (port : ℕ) : Prop :=
  ∃ definition : ServiceDefinition, s.catalog.services[serviceId]? = some definition ∧
    definition.effectiveExpectedPort = some port

/-- The port of the service is given by its health check only. -/
def HealthOnly (serviceId : ServiceId) : Prop :=
  ∃ definition : ServiceDefinition, s.catalog.services[serviceId]? = some definition ∧
    definition.expectedPort = none ∧ definition.health.port.isSome = true

/-- The claim on a port is that of another owner, or unknown. -/
def Blocked (port : ℕ) : Prop :=
  (∃ ownerPid, s.ports[port]? = some (.external ownerPid)) ∨ s.ports[port]? = some .indeterminate

/-- The claim on a port that a live service expects is given up. -/
def FreesLive (port : ℕ) : Prop :=
  s.Blocked port ∧ ∃ (serviceId : ServiceId) (runtime : ServiceRuntime A),
    s.runtimes[serviceId]? = some runtime ∧ runtime.live.isSome = true ∧ s.Expects serviceId port

variable {s}

/-- A launch gives a handle of the generation that it was asked for. -/
def LaunchesFaithfully (A : Type) [ManagedLaunchAuthority A] : Prop :=
  ∃ generation : ManagedLaunchAuthority.Pending A → ℕ, (∀ (authority authority' : A) spec pending,
      ManagedLaunchAuthority.prepareSuspended authority spec = (.ok pending, authority') →
        generation pending = spec.generation) ∧
    (∀ (authority authority' : A) pending registered,
      ManagedLaunchAuthority.registerSuspended authority pending = (.ok registered, authority') →
        generation registered = generation pending) ∧
    ∀ (authority authority' : A) pending live,
      ManagedLaunchAuthority.resume authority pending = (.ok live, authority') →
        ManagedLaunchAuthority.liveGeneration live = generation pending

/-- What the calls of the authority that launch nothing do to it. -/
inductive TornDown : A → A → Prop
  | same (authority : A) : TornDown authority authority
  | torn (authority : A) (live : Option (Live A)) (fence : ResourceFence) :
    TornDown authority (tearDown authority live fence).2.2

/-- What the supervisor can do, faults only where they are allowed. -/
inductive Move (allowed : SupervisorFault → Prop) (s : ServiceSupervisor A) :
    ServiceSupervisor A → Prop
  | idle (s' : ServiceSupervisor A) (hcatalog : s'.catalog = s.catalog)
      (hhost : s'.hostId = s.hostId) (hrun : s'.runtimes = s.runtimes)
      (hrecords : s'.snapshot.services = s.snapshot.services) (hports : s'.ports = s.ports)
      (hauthority : TornDown s.authority s'.authority ∨ allowed .attempted) :
    Move allowed s s'
  | projected (id : ServiceId) : Move allowed s (s.projectRuntime id)
  | quiet (id : ServiceId) (runtime next : ServiceRuntime A)
      (hget : s.runtimes[id]? = some runtime) (hquiet : runtime.Quiet allowed next) :
    Move allowed s (s.put id next)
  | managed (port : ℕ) (id : ServiceId) (runtime : ServiceRuntime A)
      (hget : s.runtimes[id]? = some runtime) (hlive : runtime.live.isSome = true)
      (hexp : s.Expects id port) :
    Move allowed s ({ s with runtimes := s.runtimes.insert id (runtime.managed s.nowMs port) }.claim
      port (.reserved id runtime.evidence.generation))
  | ended (id : ServiceId) (runtime next : ServiceRuntime A)
      (hget : s.runtimes[id]? = some runtime) (hended : runtime.Ended next)
      (hallowed : runtime.live.isSome = true → s.HealthOnly id → allowed .unreleased)
      (hexited : next.evidence.generation = runtime.evidence.generation →
        runtime.live.isSome = true → allowed (.exited id)) :
    Move allowed s ((s.put id next).releasePortFor id runtime.evidence.generation)
  | failed (id : ServiceId) (runtime : ServiceRuntime A) (generation epoch : ℕ)
      (hget : s.runtimes[id]? = some runtime) (hlive : runtime.live = none)
      (hnext : runtime.evidence.generation ≤ generation ∧ runtime.evidence.epoch ≤ epoch)
      (hnums : generation ≤ u64Max ∧ epoch ≤ u64Max) :
    Move allowed s
      ((s.put id (runtime.failed s.nowMs generation epoch)).releasePortFor id generation)
  | overflowed (id : ServiceId) (runtime : ServiceRuntime A)
      (hget : s.runtimes[id]? = some runtime)
      (hallowed : runtime.live.isSome = true → allowed .overflow) :
    Move allowed s (s.put id ({ runtime with live := none } : ServiceRuntime A).stopping)
  | started (id : ServiceId) (runtime : ServiceRuntime A) (generation epoch : ℕ)
      (intent : LaunchIntent) (live : Live A) (hget : s.runtimes[id]? = some runtime)
      (hlive : runtime.live = none) (hintent : s.catalog.launchIntent id = .ok intent)
      (hport : ∀ port, intent.expectedPort = some port →
        s.ports[port]? = none ∨ ∃ claimed, s.ports[port]? = some (.reserved id claimed))
      (hnext : runtime.evidence.generation + 1 = generation ∧ runtime.evidence.epoch + 1 = epoch)
      (hnums : generation ≤ u64Max ∧ epoch ≤ u64Max)
      (hgen : LaunchesFaithfully A → ManagedLaunchAuthority.liveGeneration live = generation) :
    Move allowed s (s.started id runtime generation epoch intent.expectedPort live)
  | blocked (port : ℕ) (portClaim : PortClaim)
      (hclaim : (∃ ownerPid, portClaim = .external ownerPid ∧ s.portIsLiveManaged port = false) ∨
        portClaim = .indeterminate) : Move allowed s (s.claim port portClaim)
  | freed (port : ℕ) (hblocked : s.Blocked port) (hallowed : s.FreesLive port → allowed .freed) :
    Move allowed s { s with ports := s.ports.erase port }

/-- A sequence of moves. -/
def Moves (allowed : SupervisorFault → Prop) : ServiceSupervisor A → ServiceSupervisor A → Prop :=
  Relation.ReflTransGen (Move allowed)

/-! ## What every move keeps -/

/-- The admission snapshot is the projection of the runtimes. -/
def Synced (s : ServiceSupervisor A) : Prop :=
  ∀ id : ServiceId, s.snapshot.services[id]? = s.runtimes[id]?.map (·.record s.hostId)

/-- The snapshot and the evidence of every service agree, and the evidence is consistent. -/
structure Base (s : ServiceSupervisor A) : Prop where
  valid : s.catalog.Valid
  keys : ∀ id, id ∈ s.runtimes ↔ id ∈ s.catalog.services
  synced : s.Synced
  ok : ∀ (id : ServiceId) runtime, s.runtimes[id]? = some runtime → runtime.Ok

theorem Base.put (h : s.Base) {id runtime next}
    (hget : s.runtimes[id]? = some runtime) (hok : next.Ok) : (s.put id next).Base := by
  rw [put_eq]
  have hkey : id ∈ s.runtimes := mem_iff_exists.mpr ⟨runtime, hget⟩
  refine ⟨h.valid, ?_, ?_, ?_⟩
  · intro k
    rw [mem_insert_iff, ← h.keys k]
    exact or_iff_right_of_imp fun hk => hk ▸ hkey
  · intro k
    show (s.snapshot.services.insert id _)[k]? = (s.runtimes.insert id next)[k]?.map _
    rw [getElem?_insert_eq, getElem?_insert_eq]
    split_ifs
    · rfl
    · exact h.synced k
  · exact forall_insert hok h.ok

variable {s' : ServiceSupervisor A}

theorem Base.congr (h : s.Base) (hcatalog : s'.catalog = s.catalog)
    (hhost : s'.hostId = s.hostId) (hrun : s'.runtimes = s.runtimes)
    (hrecords : s'.snapshot.services = s.snapshot.services) : s'.Base where
  valid := hcatalog ▸ h.valid
  keys := by rw [hrun, hcatalog]; exact h.keys
  synced := by
    intro id
    rw [hrecords, hrun, hhost]
    exact h.synced id
  ok := by rw [hrun]; exact h.ok

theorem Base.project (h : s.Base) (id) : (s.projectRuntime id).Base := by
  cases hget : s.runtimes[id]? with
  | none =>
    have hsame : s.projectRuntime id = s := by rw [projectRuntime, hget]
    rw [hsame]
    exact h
  | some runtime =>
    rw [projectRuntime_of_get hget]
    refine ⟨h.valid, h.keys, ?_, h.ok⟩
    intro k
    show (s.snapshot.services.insert id _)[k]? = s.runtimes[k]?.map _
    rw [getElem?_insert_eq]
    split_ifs with hk
    · rw [← hk, hget]
      rfl
    · exact h.synced k

theorem releasePortFor_eq (s : ServiceSupervisor A) (id) (generation : ℕ) :
    ∃ ports, s.releasePortFor id generation = { s with ports } := by
  unfold releasePortFor
  split
  · exact ⟨s.ports, rfl⟩
  · split_ifs
    · exact ⟨_, rfl⟩
    · exact ⟨s.ports, rfl⟩

theorem Base.release (h : s.Base) (id : ServiceId) (generation : ℕ) :
    (s.releasePortFor id generation).Base := by
  obtain ⟨ports, hports⟩ := releasePortFor_eq s id generation
  rw [hports]
  exact h.congr rfl rfl rfl rfl

variable {allowed : SupervisorFault → Prop}

theorem Base.move (h : s.Base) (hmove : s.Move allowed s') : s'.Base := by
  cases hmove with
  | idle _ hcatalog hhost hrun hrecords _ _ => exact h.congr hcatalog hhost hrun hrecords
  | projected => exact h.project _
  | quiet id runtime next hget hquiet => exact h.put hget (hquiet.ok (h.ok id runtime hget))
  | managed port id runtime hget hlive _ =>
    have hok := h.ok id runtime hget
    have hkey : id ∈ s.runtimes := mem_iff_exists.mpr ⟨runtime, hget⟩
    refine ⟨h.valid, ?_, ?_, ?_⟩
    · intro k
      show k ∈ s.runtimes.insert id _ ↔ k ∈ s.catalog.services
      rw [mem_insert_iff, ← h.keys k]
      exact or_iff_right_of_imp fun hk => hk ▸ hkey
    · intro k
      show s.snapshot.services[k]? = (s.runtimes.insert id _)[k]?.map _
      rw [getElem?_insert_eq, h.synced k]
      split_ifs with hk
      · rw [← hk, hget]
        exact congrArg some (ServiceRuntime.record_managed hok hlive).symm
      · rfl
    · exact forall_insert (hok.managed hlive) h.ok
  | ended id runtime next hget hended _ _ =>
    exact (h.put hget (hended.ok (h.ok id runtime hget))).release id _
  | failed id runtime generation epoch hget hlive _ hnums =>
    exact (h.put hget (ServiceRuntime.failed_ok hnums hlive)).release id generation
  | overflowed id runtime hget _ => exact h.put hget (h.ok id runtime hget).stopping
  | started id runtime generation epoch intent live hget _ _ _ _ hnums _ =>
    refine Base.put ?_ hget (ServiceRuntime.launched_ok hnums)
    exact h.congr rfl rfl rfl rfl
  | blocked | freed => exact h.congr rfl rfl rfl rfl

theorem Base.moves (h : s.Base) (hmoves : s.Moves allowed s') : s'.Base := by
  induction hmoves with
  | refl => exact h
  | tail _ hmove ih => exact ih.move hmove

end ServiceSupervisor

end DevManager
