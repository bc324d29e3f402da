import DevManager.Kernel.Agents
import DevManager.Kernel.Book

/-!
# `decide` and `apply` agree on the task's commands

The guards of a command are written twice, once in `decide` and once in the arms
of `apply_into`, and they are not the same: `decide_request_specialist` never
looks at the lifecycle of the requesting agent, and `ReopenTask` does not ask the
browser book for room. What closes the gap are the invariants of reachable
snapshots.
-/

namespace DevManager

open Std (ExtTreeSet)

/-- The commands on the task itself, its agents and its artifacts, apart from `BeginCloseTask`. -/
def Command.isTaskCommand : Command → Bool
  | renameTask _ | setTaskAttention _ | settleTask | reopenTask | deleteTask
  | registerAgentSession _ | bindProviderSession .. | abandonProviderSession ..
  | setPrimaryAgent _ | rebindUnstartedPrimaryProvider .. | registerArtifact _
  | requestSpecialist _ | promotePrimary _ | cancelSpecialist _
  | acceptSpecialistHandoff _ => true
  | _ => false

section Agreement

variable {s : TaskSnapshot} {envelope : CommandEnvelope} {operationId : OperationId}
  {events : List Event}

/-! ## The guards that only one side has -/

theorem openTask_isOk (h : BookInv s) : ∃ book, s.browser.openTask s.task.id = .ok book := by
  unfold BrowserBook.openTask
  split_ifs with hmem
  · exact ⟨_, rfl⟩
  · have hnil : s.browser.openTasks = ∅ := by
      refine ExtTreeSet.ext_mem fun taskId => ⟨fun htask => ?_, fun htask => ?_⟩
      · have hself : taskId = s.task.id := ((h.openTasks taskId).mp htask).1
        rw [hself] at htask
        exact absurd htask hmem
      · exact absurd htask ExtTreeSet.not_mem_empty
    have hroom : ¬ s.browser.openTasks.size ≥ maxBrowserOpenTasks := by
      rw [hnil]
      decide
    exact ⟨_, bind_eq_ok.mpr ⟨(), failIf_eq_ok.mpr hroom, rfl⟩⟩

theorem checkSpecialistResource_of_requested {intent purpose}
    (h : checkRequestedResource s intent = .ok ()) :
    checkSpecialistResource s (intent.requested purpose) = .ok () := by
  unfold checkRequestedResource at h
  unfold checkSpecialistResource
  have hid : (intent.requested purpose).resourceId = intent.resourceId := rfl
  rw [hid]
  cases hr : intent.resourceId with
  | none => rfl
  | some resourceId =>
    rw [hr] at h
    simp only [ok_iff, not_or] at h ⊢
    exact h

theorem checkHandoffBody_of_bounded {artifact body}
    (hbody : artifact.contentRef = .inlineUtf8 body) (hbad : ¬ rawBodyBad body) :
    checkHandoffBody artifact = .ok () := by
  unfold checkHandoffBody
  rw [hbody]
  exact failIf_eq_ok.mpr fun hlong => hbad (.inr hlong)

/-! ## Each command -/

variable [Externals]

theorem applicable_of_effect {p} (hmut : p.isTaskMutation = true)
    (hrev : s.task.revision < u64Max) (heff : ∀ t, ∃ mid, effect s p t = .ok mid) :
    Applicable s [p] :=
  (applicable_singleton hmut).mpr ⟨hrev, heff⟩

theorem renameTask_applicable {title} (hrev : s.task.revision < u64Max)
    (hdec : decideRenameTask (some s) envelope title = .ok events) : Applicable s events := by
  obtain ⟨-, -, -, canonical, hcan, rfl⟩ := decideRenameTask_eq_ok.mp hdec
  refine applicable_of_effect rfl hrev fun t => ?_
  exact ⟨_, applyTaskRenamed_eq_ok.mpr ⟨canonical, TaskFacts.canonicalizeTitle_canonical hcan, rfl⟩⟩

theorem reopenTask_applicable (h : BookInv s) (hrev : s.task.revision < u64Max)
    (hdec : decideReopenTask (some s) envelope = .ok events) : Applicable s events := by
  obtain ⟨-, hopen, hdel, rfl⟩ := decideReopenTask_eq_ok.mp hdec
  obtain ⟨book, hbook⟩ := openTask_isOk h
  refine applicable_of_effect rfl hrev fun t => ?_
  exact ⟨_, applyTaskReopened_eq_ok.mpr ⟨⟨hopen, hdel⟩, book, hbook, rfl⟩⟩

theorem requestSpecialist_applicable {intent} (h : AgentInv s) (hrev : s.task.revision < u64Max)
    (hdec : decideRequestSpecialist (some s) envelope intent = .ok events) :
    Applicable s events := by
  obtain ⟨-, -, purpose, hintent, rfl⟩ := decideRequestSpecialist_ok hdec
  obtain ⟨requester, hreq, hprimary, hgen⟩ := hintent.requester
  have hopen : requester.lifecycle = .opened :=
    h.primaryOpen intent.requestedBy requester hreq hprimary
  have hpurpose : Canonical.isBoundedCanonical purpose = true :=
    Canonical.isBoundedCanonical_of_boundedCanonical hintent.purposeOk
  refine applicable_of_effect rfl hrev fun t => ?_
  exact ⟨_, applySpecialistRequested_eq_ok.mpr ⟨⟨rfl, hintent.task⟩, ⟨hpurpose, hintent.role,
    hintent.permission, hintent.epoch.symm, hintent.generation, hintent.distinct⟩,
    hintent.workspace, ⟨requester, hreq, hopen, hprimary, hintent.primary, hgen⟩,
    hintent.room, checkSpecialistResource_of_requested hintent.resource, hintent.valid,
    hintent.new, rfl⟩⟩

theorem promotePrimary_applicable {intent} (hrev : s.task.revision < u64Max)
    (hdec : decidePromotePrimary (some s) envelope intent = .ok events) :
    Applicable s events := by
  obtain ⟨-, -, candidate, hcan, ⟨hepoch, hgen⟩, previous, hpre, before, hbefore,
    ⟨hrole, hopen, hprimary, hbeforeOpen, hbeforeGeneration⟩, rfl⟩ :=
    decidePromotePrimary_eq_ok.mp hdec
  have hne : previous ≠ intent.agentSessionId := by
    rintro rfl
    rw [hbefore] at hcan
    cases hcan
    rw [hprimary] at hrole
    cases hrole
  refine applicable_of_effect rfl hrev fun t => ?_
  exact ⟨_, applyPrimaryPromoted_eq_ok.mpr ⟨hne, hepoch.symm, hpre, before, candidate, hbefore,
    hcan, ⟨hprimary, hbeforeOpen, hbeforeGeneration⟩, ⟨hrole, hopen, hgen⟩, rfl⟩⟩

theorem acceptSpecialistHandoff_applicable {intent} (hrev : s.task.revision < u64Max)
    (hdec : decideAcceptSpecialistHandoff (some s) envelope intent = .ok events) :
    Applicable s events := by
  obtain ⟨-, -, fact, rfl, hraw, hepoch, ⟨a, ha, hrole, hopen, hgen⟩, hnew, htask, hkind,
    hvalid, hdigest, body, hbody, hbad⟩ := decideAcceptSpecialistHandoff_ok hdec
  -- an unstructured handoff refers to nothing
  have hrefs : fact.structured = true → checkHandoffRefs s fact.artifact = .ok () := by
    rw [hraw]
    nofun
  refine applicable_of_effect rfl hrev fun t => ?_
  exact ⟨_, applySpecialistHandoffRecorded_eq_ok.mpr ⟨htask, ⟨hkind, hepoch⟩,
    checkHandoffBody_of_bounded hbody hbad, hvalid, hdigest, hrefs, hnew, a, ha,
    ⟨hrole, hopen, hgen⟩, rfl⟩⟩

theorem applicable_of_isTaskCommand (hagents : AgentInv s) (hbook : BookInv s)
    (hrev : s.task.revision < u64Max) (hcmd : envelope.command.isTaskCommand = true)
    (hdec : Command.decide (some s) envelope operationId = .ok events) :
    Applicable s events := by
  unfold Command.decide at hdec
  cases hc : envelope.command <;> rw [hc] at hcmd <;> try cases hcmd
  all_goals simp only [hc] at hdec
  case renameTask title => exact renameTask_applicable hrev hdec
  case setTaskAttention attention =>
    obtain ⟨-, -, rfl⟩ := decideSetTaskAttention_eq_ok.mp hdec
    exact applicable_of_effect rfl hrev fun t => ⟨_, rfl⟩
  case settleTask =>
    obtain ⟨-, ⟨hopen, rfl⟩ | ⟨-, rfl⟩⟩ := decideSettleTask_eq_ok.mp hdec
    · exact applicable_of_effect rfl hrev fun t => ⟨_, applyTaskSettled_eq_ok.mpr ⟨hopen, rfl⟩⟩
    · exact applicable_nil s
  case reopenTask => exact reopenTask_applicable hbook hrev hdec
  case deleteTask =>
    obtain ⟨-, harchived, rfl⟩ := decideDeleteTask_eq_ok.mp hdec
    exact applicable_of_effect rfl hrev fun t =>
      ⟨_, applyTaskDeleted_eq_ok.mpr ⟨harchived, rfl⟩⟩
  case registerAgentSession agent =>
    obtain ⟨-, -, htask, hvalid, hnew, hrole, -, rfl⟩ :=
      decideRegisterAgentSession_eq_ok.mp hdec
    exact applicable_of_effect rfl hrev fun t =>
      ⟨_, applyAgentSessionRegistered_eq_ok.mpr ⟨htask, hrole, hvalid, hnew, rfl⟩⟩
  case bindProviderSession id resourceId session generation =>
    obtain ⟨-, -, agent, hagent, hopen, hgen, resource, hres, binding, hbind, -,
      hunbound, rfl⟩ := decideBindProviderSession_eq_ok.mp hdec
    exact applicable_of_effect rfl hrev fun t =>
      ⟨_, applyAgentProviderSessionBound_eq_ok.mpr ⟨agent, hagent, hopen, hgen, resource,
        hres, ⟨binding, hbind⟩, .inr ⟨hunbound, rfl⟩⟩⟩
  case abandonProviderSession id session generation =>
    obtain ⟨-, -, agent, hagent, hopen, hgen, hbound, rfl⟩ :=
      decideAbandonProviderSession_eq_ok.mp hdec
    exact applicable_of_effect rfl hrev fun t =>
      ⟨_, applyAgentProviderSessionAbandoned_eq_ok.mpr ⟨agent, hagent, hopen, hgen,
        Or.inr ⟨hbound, rfl⟩⟩⟩
  case setPrimaryAgent id =>
    obtain ⟨-, -, agent, hagent, hrole, rfl⟩ := decideSetPrimaryAgent_eq_ok.mp hdec
    exact applicable_of_effect rfl hrev fun t =>
      ⟨_, applyPrimaryAgentSet_eq_ok.mpr ⟨agent, hagent, hrole, rfl⟩⟩
  case rebindUnstartedPrimaryProvider id kind =>
    obtain ⟨-, -, hdraft, hprimary, agent, hagent, ⟨hrole, hopen, hunbound⟩, rfl⟩ :=
      decideRebindUnstartedPrimaryProvider_eq_ok.mp hdec
    split_ifs
    · exact applicable_nil s
    · exact applicable_of_effect rfl hrev fun t =>
        ⟨_, applyUnstartedPrimaryProviderRebound_eq_ok.mpr ⟨hdraft, hprimary, agent, hagent,
          hrole, hopen, hunbound, rfl⟩⟩
  case registerArtifact artifact =>
    obtain ⟨-, -, htask, hvalid, hnew, rfl⟩ := decideRegisterArtifact_eq_ok.mp hdec
    exact applicable_of_effect rfl hrev fun t =>
      ⟨_, applyArtifactRegistered_eq_ok.mpr ⟨htask, hvalid, hnew, rfl⟩⟩
  case requestSpecialist intent => exact requestSpecialist_applicable hagents hrev hdec
  case promotePrimary intent => exact promotePrimary_applicable hrev hdec
  case cancelSpecialist intent =>
    obtain ⟨-, -, agent, hagent, ⟨hepoch, hgen⟩, ⟨hrole, hopen⟩, rfl⟩ :=
      decideCancelSpecialist_eq_ok.mp hdec
    exact applicable_of_effect rfl hrev fun t =>
      ⟨_, applySpecialistClosed_eq_ok.mpr ⟨agent, hagent, ⟨hrole, hopen, hgen, hepoch.symm⟩, rfl⟩⟩
  case acceptSpecialistHandoff intent =>
    exact acceptSpecialistHandoff_applicable hrev hdec

theorem createTask_applicable {intent}
    (hdec : decideCreateTask none envelope intent = .ok events) :
    ∃ payload, events = [payload] ∧ ∀ event, event.payload = payload →
      event.taskId = some intent.id → event.taskRevision = some 1 →
      ∃ s, apply none event = .ok s := by
  unfold decideCreateTask at hdec
  simp only [ok_iff] at hdec
  obtain ⟨-, -, -, -, description, -, hvalid, rfl⟩ := hdec
  refine ⟨_, rfl, fun event hpayload htask hrev => ?_⟩
  obtain ⟨book, hbook⟩ : ∃ book, BrowserBook.new.openTask (intent.task description).id = .ok book :=
    ⟨_, rfl⟩
  have hrevision' : ¬ (event.taskRevision ≠ some 1 ∨ (intent.task description).revision ≠ 1) := by
    rintro (hbad | hbad)
    · exact hbad hrev
    · exact hbad rfl
  simp only [apply, hpayload, Option.isSome_none, Bool.false_eq_true, if_false, applyTaskCreated,
    ok_iff]
  exact ⟨_, htask, hrevision', hvalid, book, hbook, rfl⟩

end Agreement

/-- In every reachable snapshot with a next revision, `apply` accepts what `decide` returns for a
command on the task, its agents or its artifacts; and `apply` accepts the event that `decide`
returns for `CreateTask`. -/
theorem task_command_applicable [Externals] {envelope : CommandEnvelope}
    {operationId : OperationId} {events : List Event} :
    (∀ s, visited.Reachable s → s.task.revision < u64Max →
        envelope.command.isTaskCommand = true →
        Command.decide (some s) envelope operationId = .ok events → Applicable s events) ∧
      (∀ intent, envelope.command = .createTask intent →
        Command.decide none envelope operationId = .ok events →
        ∃ payload, events = [payload] ∧ ∀ event, event.payload = payload →
          event.taskId = some intent.id → event.taskRevision = some 1 →
          ∃ s, apply none event = .ok s) := by
  constructor
  · intro s hs hrev hcmd hdec
    have hagents : AgentInv s := agentInv_of_guarded (guarded_of_visited hs)
    have hbook : BookInv s := bookInv_of_guarded (guarded_of_visited hs)
    exact applicable_of_isTaskCommand hagents hbook hrev hcmd hdec
  · intro intent hc hdec
    unfold Command.decide at hdec
    simp only [hc] at hdec
    exact createTask_applicable hdec

section Sample

attribute [local instance] sampleExternals

theorem task_command_applicable_requestSpecialist :
    visited.Reachable chosenSnapshot ∧
      Applicable chosenSnapshot [.specialistRequested (reviewRequest.requested "review")] :=
  have hs : visited.Reachable chosenSnapshot := visited_of_kernel reachable_chosenSnapshot
  have hdec : Command.decide (some chosenSnapshot)
      (envelopeFor chosenSnapshot (.requestSpecialist reviewRequest)) ⟨1⟩ =
        .ok [.specialistRequested (reviewRequest.requested "review")] := by
    rfl
  ⟨hs, task_command_applicable.1 chosenSnapshot hs (by decide) rfl hdec⟩

end Sample

end DevManager
