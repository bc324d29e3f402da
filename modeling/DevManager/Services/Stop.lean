import DevManager.Services.CallMoves

/-!
# Stopping a live service

A stop of a service with an active operation is refused unless the operation is
a start and the service is still starting. The operation of a start is cleared by
the first probe that settles the health; a startup deadline that passes makes the
service unhealthy and leaves the operation.
-/

namespace DevManager

open Std (ExtTreeMap)
open ManagedLaunchAuthority (Live)
open Calls ConfiguredServiceOwner Option

variable {A : Type} [ManagedLaunchAuthority A]

/-- An active operation of a live service is the start of a service that is still starting. -/
def ServiceRuntime.StartOnly (runtime : ServiceRuntime A) : Prop :=
  runtime.live.isSome = true → ∀ operation, runtime.operation = some operation →
    operation.action = .start ∧ runtime.evidence.lifecycle = .starting ∧
      runtime.evidence.health.isUnhealthy = false

namespace ServiceRuntime

variable {runtime next : ServiceRuntime A}

theorem StartOnly.of_idle (hlive : runtime.live = none) : runtime.StartOnly :=
  fun h => by rw [hlive] at h; cases h

theorem launched_startOnly {nowMs generation epoch operationId : ℕ} {expectedPort : Option ℕ}
    {live} :
    (runtime.launched nowMs generation epoch operationId expectedPort live).StartOnly := by
  intro _ operation hop
  cases hhealth : runtime.health with
  | none => simp [launched, hhealth] at hop
  | some tracker =>
    simp only [launched, hhealth, map_some, some.injEq] at hop
    subst hop
    simp [launched, hhealth, HealthTracker.start, HealthAxis.isUnhealthy]

theorem StartOnly.tick (h : runtime.StartOnly) (hok : runtime.Ok) {nowMs : ℕ}
    (hmissed : ¬ runtime.MissesDeadline nowMs) : (runtime.tick nowMs).StartOnly := by
  rcases tick_cases runtime nowMs with hsame | ⟨tracker, next, hhealth, hgen, hmove, htick⟩
  · rw [hsame]
    exact h
  · rw [htick]
    intro hlive operation hop
    obtain ⟨hact, hlife, hhealthy⟩ := h hlive operation hop
    refine ⟨hact, hlife, ?_⟩
    have htracked := hok.tracked (hok.live hlive).1
    rw [hhealth] at htracked
    show next.axis.isUnhealthy = false
    cases hmove with
    | same hnext =>
      rw [hnext, ← htracked.2.1]
      exact hhealthy
    | missed hended hmisses hnext =>
      have hop' : runtime.operation = some operation := hop
      exact absurd ⟨by rw [hop']; rfl, tracker, hhealth, hgen, hended, hmisses⟩ hmissed
    | stale hended lastProbeAtMs hnext =>
      rw [hnext]
      rfl

theorem StartOnly.probed (h : runtime.StartOnly) {nowMs : ℕ} {next : HealthTracker} :
    (runtime.probed nowMs next).StartOnly := by
  intro hlive operation hop
  unfold ServiceRuntime.probed at hop ⊢
  simp only at hop ⊢
  split_ifs at hop ⊢ with hsettled
  obtain ⟨hact, hlife, _⟩ := h hlive operation hop
  refine ⟨hact, hlife, ?_⟩
  cases haxis : next.axis with
  | unhealthy sinceMs => exact absurd (by rw [haxis]) hsettled
  | _ => rfl

theorem StartOnly.quiet (h : runtime.StartOnly) (hok : runtime.Ok)
    (hquiet : runtime.Quiet (· ≠ .deadline) next) : next.StartOnly := by
  cases hquiet with
  | same => exact h
  | ticked nowMs hmissed => exact h.tick hok fun hmisses => hmissed hmisses rfl
  | probed => exact h.probed
  | external _ _ _ hlive | indeterminate _ hlive | cleared _ hlive => exact .of_idle hlive

end ServiceRuntime

namespace ServiceSupervisor

variable {s s' : ServiceSupervisor A}

/-- Active operations of live services are starts of services that are still starting. -/
def StartsOnly (s : ServiceSupervisor A) : Prop :=
  ∀ (id : ServiceId) runtime, s.runtimes[id]? = some runtime → runtime.StartOnly

variable {id : ServiceId}

theorem StartsOnly.put (h : s.StartsOnly) {next : ServiceRuntime A}
    (hnext : next.StartOnly) : (s.put id next).StartsOnly := by
  unfold StartsOnly
  rw [put_runtimes]
  exact OrdMap.forall_insert hnext h

theorem StartsOnly.of_eq (h : s.StartsOnly) (hrun : s'.runtimes = s.runtimes) :
    s'.StartsOnly := by
  unfold StartsOnly
  rw [hrun]
  exact h

theorem StartsOnly.move (h : s.StartsOnly) (hbase : s.Base) (hmove : s.Move (· ≠ .deadline) s') :
    s'.StartsOnly := by
  cases hmove with
  | idle _ _ _ hrun _ _ _ =>
    exact h.of_eq hrun
  | projected id => exact h.of_eq (project_runtimes id)
  | quiet id runtime next hget hquiet =>
    exact h.put ((h id runtime hget).quiet (hbase.ok id runtime hget) hquiet)
  | managed port id runtime hget _ _ =>
    -- what the scan says about the port leaves the operation, the lifecycle and the health alone
    exact OrdMap.forall_insert (P := fun _ (r : ServiceRuntime A) => r.StartOnly)
      (h id runtime hget) h
  | ended id runtime next hget hended _ _ =>
    exact (h.put (.of_idle hended.live)).of_eq (release_runtimes id _)
  | failed id runtime generation epoch hget hlive _ _ =>
    have hnext : (runtime.failed s.nowMs generation epoch).StartOnly := .of_idle hlive
    exact (h.put hnext).of_eq (release_runtimes id _)
  | overflowed id runtime hget _ => exact h.put (.of_idle rfl)
  | started id runtime generation epoch intent live _ _ _ _ _ _ _ =>
    refine StartsOnly.put ?_ ServiceRuntime.launched_startOnly
    exact h
  | blocked port portClaim _ => exact h
  | freed port _ _ => exact h

/-! ## Owners -/

/-- Every service is bound to an owner of the scope of its definition. -/
def OwnersInScope (s : ServiceSupervisor A) : Prop :=
  ∀ (id : ServiceId) runtime definition,
    s.runtimes[id]? = some runtime → s.catalog.services[id]? = some definition →
      runtime.bindingOwner.catalogScope = definition.scope

/-- The bindings of all services are those of the state before. -/
def SameBindings (s s' : ServiceSupervisor A) : Prop :=
  ∀ (id : ServiceId) next, s'.runtimes[id]? = some next →
    ∃ runtime, s.runtimes[id]? = some runtime ∧ next.bindingOwner = runtime.bindingOwner

theorem SameBindings.of_eq (h : s'.runtimes = s.runtimes) : SameBindings s s' :=
  fun _ next hget => ⟨next, h ▸ hget, rfl⟩

theorem SameBindings.of_insert {runtime next : ServiceRuntime A}
    (hget : s.runtimes[id]? = some runtime) (h : s'.runtimes = s.runtimes.insert id next)
    (howner : next.bindingOwner = runtime.bindingOwner) : SameBindings s s' := by
  intro k other hother
  rw [h] at hother
  rcases OrdMap.of_insert hother with ⟨hk, rfl⟩ | ⟨hk, hother⟩
  · exact ⟨runtime, hk ▸ hget, howner⟩
  · exact ⟨other, hother, rfl⟩

variable {allowed : SupervisorFault → Prop}

theorem Move.sameBindings (hmove : s.Move allowed s') : SameBindings s s' := by
  cases hmove with
  | idle _ _ _ hrun _ _ _ =>
    exact .of_eq hrun
  | projected id => exact .of_eq (project_runtimes id)
  | quiet id runtime next hget hquiet =>
    exact .of_insert hget (put_runtimes id next) hquiet.sameProcess.binding
  | managed port id runtime hget _ _ =>
    exact SameBindings.of_insert hget
      (rfl : _ = s.runtimes.insert id (runtime.managed s.nowMs port)) rfl
  | ended id runtime next hget hended _ _ =>
    refine .of_insert hget ((release_runtimes id _).trans (put_runtimes id next)) ?_
    cases hended <;> rfl
  | failed id runtime generation epoch hget _ _ _ =>
    exact SameBindings.of_insert hget ((release_runtimes id _).trans
      (put_runtimes id (runtime.failed s.nowMs generation epoch))) rfl
  | overflowed id runtime hget _ => exact .of_insert hget (put_runtimes id _) rfl
  | started id runtime generation epoch intent live hget _ _ _ _ _ _ =>
    exact .of_insert hget (started_runtimes live) rfl
  | blocked | freed => exact .of_eq rfl

theorem OwnersInScope.move (h : s.OwnersInScope)
    (hmove : s.Move allowed s') : s'.OwnersInScope := by
  intro id next definition hget hdef
  obtain ⟨runtime, hrun, howner⟩ := hmove.sameBindings id next hget
  rw [hmove.catalog] at hdef
  rw [howner]
  exact h id runtime definition hrun hdef

theorem Base.expectedOwnership (h : s.Base) (howned : s.OwnersInScope) {runtime : ServiceRuntime A}
    {definition requester} (hget : s.runtimes[id]? = some runtime)
    (hdef : s.catalog.services[id]? = some definition) (hlive : runtime.live.isSome = true)
    (hreq : requesterMatchesScope requester definition.scope = true) :
    DevManager.expectedOwnership definition.scope (s.requesterFor requester) =
      some (runtime.record s.hostId).ownership := by
  have hok := h.ok id runtime hget
  have howner := hok.owner (hok.live hlive).1
  have hscope := howned id runtime definition hget hdef
  rw [← hscope] at hreq ⊢
  show _ = some (runtime.evidence.ownership.project s.hostId)
  rw [howner]
  cases hbind : runtime.bindingOwner with
  | task taskId =>
    rw [hbind] at hreq
    cases requester with
    | host hostId => cases hreq
    | task other =>
      have hsame : other = taskId := by
        simpa [requesterMatchesScope, catalogScope] using hreq
      subst hsame
      simp [requesterFor, catalogScope, axis, DevManager.expectedOwnership, OwnershipAxis.project]
  | project | workspace =>
    rw [hbind] at hreq
    cases requester with
    | host hostId => rfl
    | task other => cases hreq

/-! ## Stops -/

/-- The owner of a live service whose dependents are at rest can stop it. -/
def StoppableByOwner (s : ServiceSupervisor A) : Prop :=
  ∀ id definition runtime
    requester,
    s.catalog.services[id]? = some definition → s.runtimes[id]? = some runtime →
    runtime.live.isSome = true →
    (reduceService runtime.evidence = .starting ∨ reduceService runtime.evidence = .healthy ∨
      reduceService runtime.evidence = .unhealthy) →
    s.snapshot.closing definition.scope = false →
    requesterMatchesScope requester definition.scope = true →
    (∀ other dependent, s.runtimes[other]? = some dependent →
      other ≠ id → s.catalog.Reaches other id →
        (reduceService dependent.evidence = .stopped ∨ reduceService dependent.evidence = .failed) ∧
          dependent.operation = none) →
    ∃ plan, s.catalog.admitRequest
        ⟨.stop, id, (runtime.record s.hostId).fence, s.requesterFor requester⟩ s.snapshot =
          .stop plan ∧ id ∈ plan.ordered.map (·.serviceId)

theorem requesterFor_matches (requester) (scope) :
    requesterMatchesScope (s.requesterFor requester) scope =
      requesterMatchesScope requester scope := by
  cases requester <;> cases scope <;> rfl

theorem StartsOnly.stoppable (h : s.StartsOnly) (hbase : s.Base) (howned : s.OwnersInScope) :
    s.StoppableByOwner := by
  intro id definition runtime requester hdef hget hlive hstate hclose hreq hrest
  have hrec : s.snapshot.services[id]? = some (runtime.record s.hostId) := by
    rw [hbase.synced id, hget]
    rfl
  have hmatches : requesterMatchesScope (s.requesterFor requester) definition.scope = true := by
    rw [requesterFor_matches]
    exact hreq
  have hop : ∀ operation, (runtime.record s.hostId).operation = some operation →
      operation.cancellable (runtime.record s.hostId).state = true := by
    intro operation hsome
    obtain ⟨hact, hlife, hhealth⟩ := h id runtime hget hlive operation hsome
    have hstart : reduceService runtime.evidence = .starting :=
      reduceService_starting hlife hhealth hstate
    unfold ActiveOperation.cancellable
    rw [hact, show (runtime.record s.hostId).state = .starting from hstart]
    rfl
  have hdeps : ∀ other, other ≠ id → other ∈ s.catalog.services →
      s.catalog.Reaches other id → ∃ dependent : RuntimeRecord,
        s.snapshot.services[other]? = some dependent ∧
          (dependent.state = .stopped ∨ dependent.state = .failed) ∧
            dependent.operation = none := by
    intro other hne hser hreach
    obtain ⟨dependent, hdep⟩ := OrdMap.mem_iff_exists.mp ((hbase.keys other).mpr hser)
    obtain ⟨hat, hid⟩ := hrest other dependent hdep hne hreach
    refine ⟨dependent.record s.hostId, ?_, hat, hid⟩
    rw [hbase.synced other, hdep]
    rfl
  unfold ServiceCatalog.admitRequest
  simp only [hdef, hmatches, hrec, hclose, Bool.true_eq_false, Bool.false_eq_true,
    ne_eq, not_true_eq_false, if_false]
  exact ServiceCatalog.admitStop_of_rest hdef hrec hmatches
    (hbase.expectedOwnership howned hget hdef hlive hreq) hstate hop hdeps

/-- The owner of a live service can stop it after every run in which no startup deadline passes
while the start is in progress. -/
theorem stoppable_of_deadlines (s : ServiceSupervisor A) (hfresh : s.Fresh)
    (howners : s.OwnersInScope) (calls : List (SupervisorCall A))
    (hdeadlines : Calls.Along call (fun t c => ¬ t.Faults c .deadline) s calls) :
    (after call s calls).StoppableByOwner := by
  have hstart : s.StartsOnly := fun id runtime hget => .of_idle (hfresh.runtime hget).1
  have halong : Calls.Along call (fun t c => ∀ fault, t.Faults c fault → fault ≠ .deadline) s
      calls := by
    refine along_mono (fun t c hnot fault hfault heq => hnot ?_) calls hdeadlines
    rw [← heq]
    exact hfault
  obtain ⟨hbase, hstarts, howners'⟩ := run_invariant (P := fun t => t.StartsOnly ∧ t.OwnersInScope)
    (fun t u ht hp hmove => ⟨hp.1.move ht hmove, hp.2.move hmove⟩) hfresh ⟨hstart, howners⟩ calls
    halong
  exact hstarts.stoppable hbase howners'

end ServiceSupervisor

/-! ## A sample supervisor -/

/-- An authority whose calls all succeed; a live handle is the generation it was launched with. -/
inductive ReadyAuthority
  | ready

instance : ManagedLaunchAuthority ReadyAuthority where
  Pending := ℕ
  Live := ℕ
  prepareSuspended authority spec := (.ok spec.generation, authority)
  registerSuspended authority pending := (.ok pending, authority)
  resume authority pending := (.ok pending, authority)
  teardown authority _ _ := (.ok (), authority)
  takeExit _ _ := none
  liveGeneration live := live

def sampleOwner : TaskId := ⟨7⟩

def sampleDefinition : ServiceDefinition where
  id := ⟨"api"⟩
  scope := .task sampleOwner
  command := ⟨"api-server", [], none, []⟩
  dependencies := []
  health := .tcp 5000 .default
  startup := ⟨0⟩
  stop := ⟨1000, 2000⟩
  expectedPort := none

def sampleCatalog : ServiceCatalog :=
  ⟨(∅ : ExtTreeMap ServiceId ServiceDefinition).insert ⟨"api"⟩ sampleDefinition⟩

namespace ServiceSupervisor

def sampleSupervisor : ServiceSupervisor ReadyAuthority :=
  .fromCatalog sampleCatalog ∅ ∅ ((∅ : ExtTreeMap ServiceId String).insert ⟨"api"⟩ "/srv")
    (fun _ => ⟨1⟩) .ready ⟨1⟩ 0

theorem sampleSupervisor_fresh : sampleSupervisor.Fresh :=
  ⟨[sampleDefinition], sampleCatalog, _, _, _, _, _, _, _, rfl, rfl⟩

variable {id : ServiceId}

theorem mem_sampleCatalog (h : id ∈ sampleCatalog.services) : id = ⟨"api"⟩ := by
  unfold sampleCatalog at h
  rw [OrdMap.mem_insert_iff] at h
  exact h.elim (fun heq => heq) fun hnil => absurd hnil (by simp)

theorem sampleSupervisor_owners : sampleSupervisor.OwnersInScope := by
  intro id runtime definition hget hdef
  have hid : id = ⟨"api"⟩ := mem_sampleCatalog (OrdMap.mem_iff_exists.mpr ⟨definition, hdef⟩)
  subst hid
  cases hdef
  cases hget
  rfl

def sampleRequest (action : SupervisorAction) (fence : ℕ) : SupervisorCall ReadyAuthority :=
  .handle action ⟨"api"⟩ ⟨fence, fence, fence⟩ (.task sampleOwner)

def outline (s : ServiceSupervisor ReadyAuthority) (id : ServiceId) :
    Option (Bool × ServiceState × AdmissionFence) :=
  s.runtimes[id]?.map fun runtime =>
    (runtime.live.isSome, reduceService runtime.evidence, (runtime.record s.hostId).fence)

theorem exists_of_outline {s : ServiceSupervisor ReadyAuthority} {live : Bool}
    {state fence} (h : s.outline id = some (live, state, fence)) :
    ∃ runtime, s.runtimes[id]? = some runtime ∧
      runtime.live.isSome = live ∧ reduceService runtime.evidence = state ∧
        (runtime.record s.hostId).fence = fence := by
  unfold outline at h
  obtain ⟨runtime, hget, hfields⟩ := map_eq_some_iff.mp h
  cases hfields
  exact ⟨runtime, hget, rfl, rfl, rfl⟩

theorem sample_alone (calls) {runtime : ServiceRuntime ReadyAuthority}
    (hget : (after call sampleSupervisor calls).runtimes[id]? = some runtime) :
    id = ⟨"api"⟩ := by
  have hkey := ((reachable_base sampleSupervisor_fresh calls).keys id).mp
    (OrdMap.mem_iff_exists.mpr ⟨runtime, hget⟩)
  rw [reachable_catalog sampleSupervisor_fresh calls] at hkey
  exact mem_sampleCatalog hkey

def lateCalls : List (SupervisorCall ReadyAuthority) :=
    [sampleRequest .start 1, .advanceClock 30000]

/-- A service that did not become ready before its startup deadline cannot be stopped. -/
theorem late_start_not_stoppable :
    sampleSupervisor.Fresh ∧ sampleSupervisor.OwnersInScope ∧
      ¬ (after call sampleSupervisor lateCalls).StoppableByOwner := by
  refine ⟨sampleSupervisor_fresh, sampleSupervisor_owners, fun hstop => ?_⟩
  have hout : (after call sampleSupervisor lateCalls).outline ⟨"api"⟩ =
      some (true, .unhealthy, ⟨2, 2, 2⟩) := by decide +kernel
  have hdeny : (after call sampleSupervisor lateCalls).catalog.admitRequest
      ⟨.stop, ⟨"api"⟩, ⟨2, 2, 2⟩, .task sampleOwner⟩
        (after call sampleSupervisor lateCalls).snapshot =
      .refused (.operationInProgress ⟨"api"⟩ .start) := by decide +kernel
  have hcatalog := reachable_catalog sampleSupervisor_fresh lateCalls
  obtain ⟨runtime, hget, hlive, hstate, hfence⟩ := exists_of_outline hout
  obtain ⟨plan, hplan, _⟩ := hstop ⟨"api"⟩ sampleDefinition runtime (.task sampleOwner)
    (by rw [hcatalog]; rfl) hget hlive (.inr (.inr hstate)) (by decide +kernel) (by decide)
    fun other dependent hother hne => absurd (sample_alone lateCalls hother) hne
  rw [hfence] at hplan
  exact absurd (hdeny.symm.trans hplan) AdmissionDecision.noConfusion

/-- A service can be stopped while its startup deadline has not passed. -/
theorem stoppable_of_deadlines_sample : (after call sampleSupervisor
      [sampleRequest .start 1, .advanceClock 29999]).StoppableByOwner := by
  refine stoppable_of_deadlines sampleSupervisor sampleSupervisor_fresh sampleSupervisor_owners _
    ⟨?_, ?_, trivial⟩
  · rintro ⟨_, h, _⟩
    cases h
  · rintro ⟨nowMs, h, id, runtime, hget, _, tracker, hhealth, _, _, hmissed⟩
    cases h
    have hid := sample_alone [sampleRequest .start 1] hget
    subst hid
    have hnot : (sampleSupervisor.call (sampleRequest .start 1)).2.runtimes[
        (⟨"api"⟩ : ServiceId)]?.map (fun runtime => runtime.health.map (·.startupMissed 29999)) =
          some (some false) := by decide +kernel
    rw [hget, map_some, hhealth, map_some, some.injEq, some.injEq] at hnot
    exact absurd (hnot.symm.trans hmissed) (by decide)

end ServiceSupervisor

end DevManager
