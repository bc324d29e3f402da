import DevManager.Services.Stop

/-!
# Failed services

An exit and a failed launch leave a service failed and without an owner. Admission
lets a stopped service be claimed, and asks of a failed one that it is owned by the
requester, which no failed service is.
-/

namespace DevManager

open Std (ExtTreeMap)
open Calls

variable {A : Type} [ManagedLaunchAuthority A]

/-! ## Admission of what has failed -/

theorem validateOwnership_failed {serviceId} {definition}
    {runtime} {requester} (hstate : runtime.state = .failed)
    (howned : runtime.ownership = .none)
    (hreq : requesterMatchesScope requester definition.scope = true) :
    ∃ expected, validateOwnership serviceId definition runtime .start requester true =
      .error (.ownershipMismatch serviceId expected .none) := by
  have hexp : ∃ expected, expectedOwnership definition.scope requester = some expected := by
    rcases expectedOwnership_of_matches hreq with ⟨_, _, _, h⟩ | ⟨_, _, _, h⟩
    · exact ⟨_, h⟩
    · exact ⟨_, h⟩
  obtain ⟨expected, hexp⟩ := hexp
  refine ⟨expected, ?_⟩
  have hne : RuntimeOwnership.none ≠ expected := (expectedOwnership_ne_none hexp).symm
  unfold validateOwnership
  rw [hstate, howned, hexp]
  simp [hne]

namespace ServiceCatalog

variable {catalog : ServiceCatalog} {snapshot : AdmissionSnapshot}

variable {definition : ServiceDefinition}

theorem admitStart_failed {root runtime requester} {forceRoot : Bool}
    (hstate : runtime.state = .failed) (howned : runtime.ownership = .none)
    (hreq : requesterMatchesScope requester definition.scope = true) :
    ∃ expected, catalog.admitStart root definition runtime requester snapshot forceRoot =
      .refused (.ownershipMismatch root expected .none) := by
  obtain ⟨expected, hval⟩ : ∃ expected,
      validateOwnership root definition runtime .start requester true =
        .error (.ownershipMismatch root expected .none) :=
    validateOwnership_failed hstate howned hreq
  refine ⟨expected, ?_⟩
  unfold admitStart
  rw [if_neg (by simp [hstate]), hval]

theorem closeMember_failed {taskId}
    {runtime} (hrec : snapshot.services[definition.id]? = some runtime)
    (hstate : runtime.state = .failed) (howned : runtime.ownership = .none) :
    ∃ rejection, closeMember taskId snapshot definition = .error rejection := by
  cases h : closeMember taskId snapshot definition with
  | error => exact ⟨_, rfl⟩
  | ok done =>
    unfold closeMember at h
    simp only [ok_iff] at h
    obtain ⟨record, hget, _, _, _, _, hmismatch, _⟩ := h
    rw [hrec] at hget
    cases hget
    exact absurd ⟨by simp [hstate], by simp [howned]⟩ hmismatch

theorem admitTaskClose_of_member {taskId} {epoch : ℕ}
    {rejection} (hmem : definition ∈ catalog.taskDefinitions taskId)
    (hmember : closeMember taskId snapshot definition = .error rejection) :
    ∃ refusal, catalog.admitTaskClose taskId epoch snapshot = .error refusal := by
  cases h : catalog.admitTaskClose taskId epoch snapshot with
  | error => exact ⟨_, rfl⟩
  | ok plan =>
    unfold admitTaskClose at h
    simp only [ok_iff] at h
    obtain ⟨_, _, _, _, _, hmembers, _⟩ := h
    have hok := forM_eq_ok.mp hmembers definition hmem
    rw [hmember] at hok
    cases hok

end ServiceCatalog

/-! ## Failed services of a supervisor -/

theorem ServiceRuntime.Ok.failed_ownership {runtime : ServiceRuntime A} (h : runtime.Ok)
    (hstate : reduceService runtime.evidence = .failed) (hostId : HostId) :
    (runtime.record hostId).ownership = .none := by
  have howned : runtime.evidence.ownership.owned ≠ true := fun howned => (h.at_work howned).2 hstate
  have hext := (reduceService_failed hstate).1
  show runtime.evidence.ownership.project hostId = .none
  cases howner : runtime.evidence.ownership with
  | task | host => exact absurd (by rw [howner]; rfl) howned
  | external => exact absurd howner hext
  | none => rfl
  | unknown => rfl
  | inconsistent => rfl

namespace ServiceSupervisor

variable {s : ServiceSupervisor A}

variable (s)

/-- The start of a service is admitted as a plan that launches it. -/
def StartAdmitted (id : ServiceId) (fence : AdmissionFence)
    (requester : AdmissionRequester) : Prop :=
  ∃ plan, s.catalog.admitRequest ⟨.start, id, fence, s.requesterFor requester⟩ s.snapshot =
    .start plan ∧ ∃ item ∈ plan.ordered, item.serviceId = id ∧ item.intent.isSome = true

/-- Each dependency of `id` is idle, and stopped or healthy with the ownership a start expects. -/
def DependenciesReady (id : ServiceId) (definition : ServiceDefinition)
    (requester : AdmissionRequester) : Prop :=
  ∀ dependency other, s.runtimes[dependency]? = some other →
    dependency ≠ id → s.catalog.Reaches id dependency → other.operation = none ∧
      (reduceService other.evidence = .stopped ∨ reduceService other.evidence = .healthy ∧
        expectedOwnership definition.scope (s.requesterFor requester) =
          some (other.record s.hostId).ownership)

/-- A failed service without a process can be started again, and does not hold up its task. -/
def RecoversByOwner : Prop :=
  ∀ id definition runtime,
    s.catalog.services[id]? = some definition → s.runtimes[id]? = some runtime →
    runtime.live = none → reduceService runtime.evidence = .failed →
    (∀ requester, requesterMatchesScope requester definition.scope = true →
      s.snapshot.closing definition.scope = false → s.DependenciesReady id definition requester →
      s.StartAdmitted id (runtime.record s.hostId).fence requester) ∧
    ∀ taskId, definition.scope.taskId = some taskId →
      ServiceCatalog.closeMember taskId s.snapshot definition = .ok ()

variable {s}

variable {id : ServiceId} {definition : ServiceDefinition} {runtime : ServiceRuntime A}

theorem Base.start_failed (h : s.Base) {requester : AdmissionRequester}
    (hdef : s.catalog.services[id]? = some definition)
    (hget : s.runtimes[id]? = some runtime) (hstate : reduceService runtime.evidence = .failed)
    (hreq : requesterMatchesScope requester definition.scope = true)
    (hclose : s.snapshot.closing definition.scope = false) :
    ∃ expected, s.catalog.admitRequest
        ⟨.start, id, (runtime.record s.hostId).fence, s.requesterFor requester⟩ s.snapshot =
      .refused (.ownershipMismatch id expected .none) := by
  have hrec : s.snapshot.services[id]? = some (runtime.record s.hostId) := by
    rw [h.synced id, hget]
    rfl
  have hmatches : requesterMatchesScope (s.requesterFor requester) definition.scope = true := by
    rw [requesterFor_matches]
    exact hreq
  have howned := (h.ok id runtime hget).failed_ownership hstate s.hostId
  unfold ServiceCatalog.admitRequest
  simp only [hdef, hmatches, hrec, hclose, Bool.true_eq_false, Bool.false_eq_true,
    ne_eq, not_true_eq_false, if_false]
  exact ServiceCatalog.admitStart_failed hstate howned hmatches

theorem Base.close_failed (h : s.Base) (hdef : s.catalog.services[id]? = some definition)
    (hget : s.runtimes[id]? = some runtime) (hstate : reduceService runtime.evidence = .failed)
    (taskId : TaskId) :
    ∃ rejection, ServiceCatalog.closeMember taskId s.snapshot definition = .error rejection := by
  have hid : definition.id = id := h.valid.keyed id definition hdef
  have hrec : s.snapshot.services[definition.id]? = some (runtime.record s.hostId) := by
    rw [hid, h.synced id, hget]
    rfl
  exact ServiceCatalog.closeMember_failed hrec hstate
    ((h.ok id runtime hget).failed_ownership hstate s.hostId)

theorem Base.closeTask_failed (h : s.Base) {taskId}
    (hdef : s.catalog.services[id]? = some definition)
    (hget : s.runtimes[id]? = some runtime) (hstate : reduceService runtime.evidence = .failed)
    (hscope : definition.scope.taskId = some taskId) (epoch : ℕ) :
    ∃ error, (s.closeTask taskId epoch).1 = .error error := by
  obtain ⟨rejection, hmember⟩ := h.close_failed hdef hget hstate taskId
  have hmem' : ServiceCatalog.closeMember taskId
      ((s.snapshot.markTaskClosing taskId).setTaskEpoch taskId epoch) definition =
        .error rejection := hmember
  have hmem : definition ∈ s.catalog.taskDefinitions taskId := by
    refine List.mem_filter.mpr ⟨List.mem_map.mpr ⟨(id, definition), ?_, rfl⟩, by simp [hscope]⟩
    exact ExtTreeMap.mem_toList_iff_getElem?_eq_some.mpr hdef
  obtain ⟨refusal, hdeny⟩ : ∃ refusal, s.catalog.admitTaskClose taskId epoch
      ((s.snapshot.markTaskClosing taskId).setTaskEpoch taskId epoch) = .error refusal :=
    ServiceCatalog.admitTaskClose_of_member hmem hmem'
  unfold closeTask
  simp only [hdeny]
  exact ⟨_, rfl⟩

/-- In every reachable state the owner's start of a failed service is refused, and so is closing
its task. -/
theorem failed_wedges (s : ServiceSupervisor A) (hfresh : s.Fresh) (calls : List (SupervisorCall A))
    (id : ServiceId) (definition : ServiceDefinition) (runtime : ServiceRuntime A)
    (hdef : (after call s calls).catalog.services[id]? = some definition)
    (hget : (after call s calls).runtimes[id]? = some runtime)
    (hstate : reduceService runtime.evidence = .failed) :
    (∀ requester, requesterMatchesScope requester definition.scope = true →
      (after call s calls).snapshot.closing definition.scope = false →
      ¬ (after call s calls).StartAdmitted id
        (runtime.record (after call s calls).hostId).fence requester) ∧
    ∀ taskId, definition.scope.taskId = some taskId →
      ServiceCatalog.closeMember taskId (after call s calls).snapshot definition ≠ .ok () ∧
        ∀ epoch, ∃ error, ((after call s calls).closeTask taskId epoch).1 = .error error := by
  have hbase := reachable_base hfresh calls
  constructor
  · intro requester hreq hclose hadmits
    obtain ⟨plan, hplan, _⟩ := hadmits
    obtain ⟨expected, hdeny⟩ := hbase.start_failed hdef hget hstate hreq hclose
    exact AdmissionDecision.noConfusion (hdeny.symm.trans hplan)
  · intro taskId hscope
    refine ⟨fun hok => ?_, hbase.closeTask_failed hdef hget hstate hscope⟩
    obtain ⟨rejection, hmem⟩ := hbase.close_failed hdef hget hstate taskId
    rw [hmem] at hok
    cases hok

def crashCalls : List (SupervisorCall ReadyAuthority) :=
  [sampleRequest .start 1, .reportExit ⟨"api"⟩ 2]

theorem outline_crashed : (after call sampleSupervisor crashCalls).outline ⟨"api"⟩ =
    some (false, .failed, ⟨2, 2, 2⟩) := by decide +kernel

/-- A crashed service cannot be started again, nor closed with its task. -/
theorem crash_not_recovered :
    sampleSupervisor.Fresh ∧ ¬ (after call sampleSupervisor crashCalls).RecoversByOwner := by
  refine ⟨sampleSupervisor_fresh, fun hrec => ?_⟩
  have hdeny : (after call sampleSupervisor crashCalls).catalog.admitRequest
      ⟨.start, ⟨"api"⟩, ⟨2, 2, 2⟩, .task sampleOwner⟩
        (after call sampleSupervisor crashCalls).snapshot =
      .refused (.ownershipMismatch ⟨"api"⟩ (.task sampleOwner) .none) := by decide +kernel
  obtain ⟨runtime, hget, hlive, hstate, hfence⟩ := exists_of_outline outline_crashed
  have hdef : (after call sampleSupervisor crashCalls).catalog.services[
      (⟨"api"⟩ : ServiceId)]? = some sampleDefinition := by
    rw [reachable_catalog sampleSupervisor_fresh crashCalls]
    rfl
  obtain ⟨hstart, _⟩ := hrec ⟨"api"⟩ sampleDefinition runtime hdef hget
    (by simpa using hlive) hstate
  obtain ⟨plan, hplan, _⟩ := hstart (.task sampleOwner) (by decide) (by decide +kernel)
    fun dependency other hother hne => absurd (sample_alone crashCalls hother) hne
  rw [hfence] at hplan
  exact AdmissionDecision.noConfusion (hdeny.symm.trans hplan)

theorem failed_wedges_sample :
    ∃ error, ((after call sampleSupervisor crashCalls).closeTask sampleOwner 1).1 =
      .error error := by
  obtain ⟨runtime, hget, _, hstate, _⟩ := exists_of_outline outline_crashed
  have hdef : (after call sampleSupervisor crashCalls).catalog.services[
      (⟨"api"⟩ : ServiceId)]? = some sampleDefinition := by
    rw [reachable_catalog sampleSupervisor_fresh crashCalls]
    rfl
  exact ((failed_wedges sampleSupervisor sampleSupervisor_fresh crashCalls ⟨"api"⟩ sampleDefinition
    runtime hdef hget hstate).2 sampleOwner rfl).2 1

end ServiceSupervisor

end DevManager
