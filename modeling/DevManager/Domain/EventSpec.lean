import DevManager.Domain.Apply

/-!
# When an event is accepted

One lemma for each arm of `apply_into`: the conjunction of its guards, and the
snapshot it returns. Later modules cite these and do not unfold the arms.

* `validateSnapshotProviderFence_bare`, `validateSnapshotProviderFence_action`:
  the fence of a provider event is well formed and fits the agent it names.
-/

namespace DevManager

open AgentRole Option

section Spec

variable {s s' : TaskSnapshot}

/-! ## The task's own arms -/

@[grind =]
theorem applyTaskRenamed_eq_ok {title} :
    applyTaskRenamed s title = .ok s' ↔
      ∃ canonical, TaskFacts.canonicalizeTitle title = .ok canonical ∧
        s' = { s with task := { s.task with title := canonical } } := by
  unfold applyTaskRenamed
  simp only [ok_iff]

@[grind =]
theorem applyTaskCloseBegun_eq_ok [Externals] {epoch : ℕ} :
    applyTaskCloseBegun s epoch = .ok s' ↔
      (s.task.lifecycle = .opened ∨ s.task.lifecycle = .settled) ∧
        s.task.actionEpoch + 1 ≤ u64Max ∧ epoch = s.task.actionEpoch + 1 ∧
        ∃ book, s.browser.closeTask s.task.id = .ok book ∧
          s' = { s with
            task := { s.task with lifecycle := .closing, actionEpoch := epoch }
            browser := book } := by
  unfold applyTaskCloseBegun
  simp only [ok_iff, checkedAdd_eq_some]
  constructor
  · rintro ⟨hlife, _, ⟨hle, rfl⟩, rfl, hbook⟩
    exact ⟨hlife, hle, rfl, hbook⟩
  · rintro ⟨hlife, hle, rfl, hbook⟩
    exact ⟨hlife, _, ⟨hle, rfl⟩, rfl, hbook⟩

@[grind =]
theorem applyTaskSettled_eq_ok :
    applyTaskSettled s = .ok s' ↔ s.task.lifecycle = .opened ∧ s' = s.withLifecycle .settled := by
  unfold applyTaskSettled
  simp only [ok_iff]

@[grind =]
theorem applyTaskReopened_eq_ok :
    applyTaskReopened s = .ok s' ↔
      (s.task.lifecycle ≠ .opened ∧ s.task.lifecycle ≠ .deleted) ∧
        ∃ book, s.browser.openTask s.task.id = .ok book ∧
          s' = { s.withLifecycle .opened with browser := book } := by
  unfold applyTaskReopened
  simp only [ok_iff, not_or]

@[grind =]
theorem applyTaskArchived_eq_ok :
    applyTaskArchived s = .ok s' ↔
      s.task.lifecycle = .closing ∧
        (∀ (id : ResourceId) r, s.resources[id]? = some r → r.lifecycle = .released) ∧
        (∀ (id : AgentSessionId) a, s.agents[id]? = some a →
          a.lifecycle = .opened → a.role.isPrimary = true) ∧
        s' = s.withLifecycle .archived := by
  unfold applyTaskArchived
  simp only [ok_iff, Bool.not_eq_true, OrdMap.valuesAny_eq_false]
  refine and_congr_right fun _ =>
    and_congr (forall_congr' fun id => ?_) (and_congr_left fun _ => ?_)
  · refine forall_congr' fun r => forall_congr' fun _ => ?_
    cases r.lifecycle <;> decide
  · refine forall_congr' fun id => forall_congr' fun a => forall_congr' fun _ => ?_
    cases a.lifecycle <;> simp

@[grind =]
theorem applyTaskDeleted_eq_ok :
    applyTaskDeleted s = .ok s' ↔ s.task.lifecycle = .archived ∧ s' = s.withLifecycle .deleted := by
  unfold applyTaskDeleted
  simp only [ok_iff]

/-! ## Agents and artifacts -/

@[grind =]
theorem applyAgentSessionRegistered_eq_ok {agent} :
    applyAgentSessionRegistered s agent = .ok s' ↔
      agent.taskId = s.task.id ∧ agent.role.isPrimary = true ∧
        agent.validateForRegistration = .ok () ∧ agent.id ∉ s.agents ∧
        s' = { s with
          agents := s.agents.insert agent.id agent
          providerSessions := s.providerSessions.insertIfNew agent.id .default } := by
  unfold applyAgentSessionRegistered
  simp only [ok_iff, isSpecialist_eq_not, Bool.not_eq_true', Bool.not_eq_false]

variable {session : ProviderSessionId} {generation : ℕ} {id : AgentSessionId}

@[grind =]
theorem applyAgentProviderSessionBound_eq_ok {resourceId} :
    applyAgentProviderSessionBound s id resourceId session generation = .ok s' ↔
      ∃ agent, s.agents[id]? = some agent ∧ agent.lifecycle = .opened ∧
        agent.runtimeGeneration = generation ∧
        ∃ resource, s.resources[resourceId]? = some resource ∧
          (∃ binding, AgentResourceBinding.fromFacts agent resource = .ok binding) ∧
          ((agent.providerSessionId = some session ∧ s' = s) ∨
            (agent.providerSessionId = none ∧
              s' = s.setAgent id { agent with
                providerSessionId := some session
                revision := saturatingAdd agent.revision 1 })) := by
  unfold applyAgentProviderSessionBound
  simp only [ok_iff, not_or, and_assoc]
  refine exists_congr fun agent => and_congr_right fun _ => and_congr_right fun _ =>
    and_congr_right fun _ => exists_congr fun resource => and_congr_right fun _ => ?_
  cases agent.providerSessionId with
  | none => simp only [pure_eq_ok, exists_and_right, reduceCtorEq, false_and, true_and, false_or]
  | some bound =>
    simp only [ok_iff, exists_and_right, some.injEq, reduceCtorEq, false_and, or_false]

@[grind =]
theorem applyAgentProviderSessionAbandoned_eq_ok :
    applyAgentProviderSessionAbandoned s id session generation = .ok s' ↔
      ∃ agent, s.agents[id]? = some agent ∧ agent.lifecycle = .opened ∧
        agent.runtimeGeneration = generation ∧
        ((agent.providerSessionId = none ∧ s' = s) ∨
          (agent.providerSessionId = some session ∧
            s' = s.setAgent id { agent with
              providerSessionId := none
              revision := saturatingAdd agent.revision 1 })) := by
  unfold applyAgentProviderSessionAbandoned
  simp only [ok_iff, not_or, and_assoc]
  refine exists_congr fun agent => and_congr_right fun _ => and_congr_right fun _ =>
    and_congr_right fun _ => ?_
  cases agent.providerSessionId with
  | none => simp only [pure_eq_ok, reduceCtorEq, false_and, true_and, or_false]
  | some bound =>
    simp only [ok_iff, some.injEq, reduceCtorEq, false_and, false_or]

@[grind =]
theorem applyPrimaryAgentSet_eq_ok :
    applyPrimaryAgentSet s id = .ok s' ↔
      ∃ agent, s.agents[id]? = some agent ∧ agent.role.isPrimary = true ∧
        s' = { s with primaryAgentId := some id } := by
  unfold applyPrimaryAgentSet
  simp only [ok_iff]

@[grind =]
theorem applyUnstartedPrimaryProviderRebound_eq_ok {kind} :
    applyUnstartedPrimaryProviderRebound s id kind = .ok s' ↔
      s.isUnstartedDraft = true ∧ s.primaryAgentId = some id ∧
        ∃ agent, s.agents[id]? = some agent ∧ agent.role.isPrimary = true ∧
          agent.lifecycle = .opened ∧ agent.providerSessionId = none ∧
          s' = s.setAgent id { agent with
            providerKind := kind
            revision := saturatingAdd agent.revision 1 } := by
  unfold applyUnstartedPrimaryProviderRebound
  simp only [ok_iff, not_or, not_isSome_iff_eq_none, and_assoc]

@[grind =]
theorem applySpecialistRequested_eq_ok [Externals] {fact} :
    applySpecialistRequested s fact = .ok s' ↔
      (fact.agent.id = fact.specialistId ∧ fact.agent.taskId = s.task.id) ∧
        (Canonical.isBoundedCanonical fact.purpose = true ∧ fact.agent.role.isPrimary = false ∧
          fact.permission = .readOnly ∧ fact.actionEpoch = s.task.actionEpoch ∧
          fact.agent.runtimeGeneration = fact.runtimeGeneration ∧
          fact.agent.id ≠ fact.requestedBy) ∧
        fact.workspace.validate = .ok () ∧
        (∃ requester, s.agents[fact.requestedBy]? = some requester ∧
          requester.lifecycle = .opened ∧ requester.role.isPrimary = true ∧
          s.primaryAgentId = some fact.requestedBy ∧
          requester.runtimeGeneration = fact.runtimeGeneration) ∧
        s.topLevelRuntimeCount < defaultMaxTopLevelRuntimes ∧
        checkSpecialistResource s fact = .ok () ∧
        fact.agent.validateForRegistration = .ok () ∧ fact.agent.id ∉ s.agents ∧
        s' = s.setAgent fact.agent.id fact.agent := by
  unfold applySpecialistRequested
  simp only [ok_iff, not_or, isSpecialist_eq_not, Bool.not_eq_true', not_le, ge_iff_le,
    and_assoc, exists_and_right]
  tauto

@[grind =]
theorem applyPrimaryPromoted_eq_ok {previous promoted} {epoch : ℕ} :
    applyPrimaryPromoted s previous promoted epoch generation = .ok s' ↔
      previous ≠ promoted ∧ epoch = s.task.actionEpoch ∧ s.primaryAgentId = some previous ∧
        ∃ before after, s.agents[previous]? = some before ∧ s.agents[promoted]? = some after ∧
          (before.role.isPrimary = true ∧ before.lifecycle = .opened ∧
            before.runtimeGeneration = generation) ∧
          (after.role.isPrimary = false ∧ after.lifecycle = .opened ∧
            after.runtimeGeneration = generation) ∧
          s' = { (s.setAgent previous { before with role := .specialist "primary" }).setAgent
              promoted { after with role := .primary } with
            primaryAgentId := some promoted } := by
  unfold applyPrimaryPromoted
  simp only [ok_iff, not_or, ofSpecialist_primary, Except.ok.injEq, exists_eq_left',
    isSpecialist_eq_not, Bool.not_eq_true', TaskSnapshot.setAgent, OrdMap.getElem?_insert_eq]
  constructor
  · rintro ⟨⟨hne, hepoch⟩, hprimary, before, hpre, hb, after, hpost, ha, rfl⟩
    rw [if_neg hne] at hpost
    exact ⟨hne, hepoch, hprimary, before, after, hpre, hpost, hb, ha, rfl⟩
  · rintro ⟨hne, hepoch, hprimary, before, after, hpre, hpost, hb, ha, rfl⟩
    refine ⟨⟨hne, hepoch⟩, hprimary, before, hpre, hb, after, ?_, ha, rfl⟩
    rw [if_neg hne, hpost]

@[grind =]
theorem applySpecialistHandoffRecorded_eq_ok [Externals] {fact} :
    applySpecialistHandoffRecorded s fact = .ok s' ↔
      fact.artifact.taskId = s.task.id ∧
        (fact.artifact.kind = .reviewReport ∧ fact.actionEpoch = s.task.actionEpoch) ∧
        checkHandoffBody fact.artifact = .ok () ∧ fact.artifact.validate = .ok () ∧
        verifyInlineContentDigest fact.artifact = .ok () ∧
        (fact.structured = true → checkHandoffRefs s fact.artifact = .ok ()) ∧
        fact.artifact.id ∉ s.artifacts ∧
        ∃ specialist, s.agents[fact.specialistId]? = some specialist ∧
          (specialist.role.isPrimary = false ∧ specialist.lifecycle = .opened ∧
            specialist.runtimeGeneration = fact.runtimeGeneration) ∧
          s' = { s.setAgent fact.specialistId { specialist with lifecycle := .closed } with
            artifacts := s.artifacts.insert fact.artifact.id fact.artifact } := by
  have hrefs : (if fact.structured then checkHandoffRefs s fact.artifact else .ok ()) = .ok () ↔
      (fact.structured = true → checkHandoffRefs s fact.artifact = .ok ()) := by
    split_ifs with h <;> simp [h]
  unfold applySpecialistHandoffRecorded
  simp only [ok_iff, not_or, isSpecialist_eq_not, Bool.not_eq_true', hrefs]

@[grind =]
theorem applySpecialistClosed_eq_ok {epoch : ℕ} :
    applySpecialistClosed s id epoch generation = .ok s' ↔
      ∃ specialist, s.agents[id]? = some specialist ∧
        (specialist.role.isPrimary = false ∧ specialist.lifecycle = .opened ∧
          specialist.runtimeGeneration = generation ∧ epoch = s.task.actionEpoch) ∧
        s' = s.setAgent id { specialist with lifecycle := .closed } := by
  unfold applySpecialistClosed
  simp only [ok_iff, not_or, isSpecialist_eq_not, Bool.not_eq_true']

@[grind =]
theorem applyArtifactRegistered_eq_ok {artifact} :
    applyArtifactRegistered s artifact = .ok s' ↔
      artifact.taskId = s.task.id ∧ artifact.validate = .ok () ∧ artifact.id ∉ s.artifacts ∧
        s' = { s with artifacts := s.artifacts.insert artifact.id artifact } := by
  unfold applyArtifactRegistered
  simp only [ok_iff]

/-! ## Resources and terminals -/

@[grind =]
theorem applyResourceRegistered_eq_ok [Externals] {resource} {t : ℤ} :
    applyResourceRegistered s resource t = .ok s' ↔
      resource.ownerKind = .task ∧ resource.taskId = some s.task.id ∧
        resource.validate = .ok () ∧ resource.lifecycle = .active ∧ resource.id ∉ s.resources ∧
        (resource.recipe.isPlainShell = true →
          s.terminalStrip.order.length < maxPlainShellsPerTask) ∧
        s' = if resource.resourceKind = .terminal then
            registerTerminal (s.setResource resource.id resource) resource t
          else s.setResource resource.id resource := by
  unfold applyResourceRegistered
  simp only [ok_iff, not_and, not_le, ge_iff_le]

variable {id : ResourceId}

@[grind =]
theorem applyResourceReleaseBegun_eq_ok {t : ℤ} :
    applyResourceReleaseBegun s id generation t = .ok s' ↔
      ∃ resource, s.resources[id]? = some resource ∧
        (resource.ownerKind = .task ∧ resource.taskId = some s.task.id) ∧
        resource.lifecycle = .active ∧ resource.runtimeGeneration = generation ∧
        s' = s.setResource id { resource with lifecycle := .releasing, updatedAtMs := t } := by
  unfold applyResourceReleaseBegun
  simp only [ok_iff, not_or]

@[grind =]
theorem applyResourceReleased_eq_ok {t : ℤ} :
    applyResourceReleased s id generation t = .ok s' ↔
      ∃ resource, s.resources[id]? = some resource ∧
        (resource.ownerKind = .task ∧ resource.taskId = some s.task.id) ∧
        resource.lifecycle = .releasing ∧ resource.runtimeGeneration = generation ∧
        s' = { s.setResource id { resource with lifecycle := .released, updatedAtMs := t } with
          terminalFacts := s.terminalFacts.erase id
          terminalStrip := s.terminalStrip.remove id } := by
  unfold applyResourceReleased
  simp only [ok_iff, not_or]

@[grind =]
theorem applyTerminalRenamed_eq_ok {title} :
    applyTerminalRenamed s id title = .ok s' ↔
      ∃ resource, s.resources[id]? = some resource ∧ resource.recipe.isPlainShell = true ∧
        validateTerminalTitle title = .ok () ∧
        ∃ facts, s.terminalFacts[id]? = some facts ∧
          s' = (s.setTerminal id { facts with title := some title }).setResource id
            { resource with recipe := resource.recipe.withTitle (some title) } := by
  unfold applyTerminalRenamed
  simp only [ok_iff]

@[grind =]
theorem updateTerminal_eq_ok {update : TerminalFacts → TerminalFacts} :
    updateTerminal s id update = .ok s' ↔
      ∃ facts, s.terminalFacts[id]? = some facts ∧ s' = s.setTerminal id (update facts) := by
  unfold updateTerminal
  simp only [ok_iff]

@[grind =]
theorem applyTaskTerminalStripSet_eq_ok {strip} :
    applyTaskTerminalStripSet s strip = .ok s' ↔
      strip.validate s.task.id s.resources = .ok () ∧ s' = { s with terminalStrip := strip } := by
  unfold applyTaskTerminalStripSet
  simp only [ok_iff]

/-! ## Provider input -/

section Provider

variable [Externals] {id : AgentSessionId} {fence : ProviderFenceIdentity} {turn : Option TurnId}
  {closing : Bool}

theorem validateSnapshotProviderFence_bare :
    validateSnapshotProviderFence s id fence none none turn closing = .ok () ↔
      ∃ agent, s.agents[id]? = some agent ∧ fence.WellFormed ∧
        fence.Fits (fenceContext s id agent turn closing) := by
  unfold validateSnapshotProviderFence
  simp only [ok_iff, validateProviderFence_context]

theorem validateSnapshotProviderFence_action {action} {wait : Bool} :
    validateSnapshotProviderFence s id fence (some action) (some wait) turn closing = .ok () ↔
      ∃ agent, s.agents[id]? = some agent ∧
        (fence.WellFormed ∧ fence.Fits (fenceContext s id agent turn closing)) ∧
        validateActionNestedIds action fence.questionId fence.approvalId = .ok () ∧
        wait = action.waitsForTurn ∧ fence.operationId.isSome = true := by
  unfold validateSnapshotProviderFence
  simp only [ok_iff, validateProviderFence_action]

end Provider

namespace ProviderSessionProjection

variable (session : ProviderSessionProjection)

/-- The action names an open question or approval that is not won yet, and there is room for its
winner. -/
def Resolvable : ProviderInputAction → Prop
  | .answerQuestion questionId _ =>
    questionId ∉ session.questionWinners ∧ session.openQuestion = some questionId ∧
      session.questionWinners.size < maxProviderQuestionWins
  | .resolveApproval approvalId _ =>
    approvalId ∉ session.approvalWinners ∧ session.openApproval = some approvalId ∧
      session.approvalWinners.size < maxProviderApprovalWins
  | _ => True

/-- The session after the question or approval the action answers is won. -/
def resolved (winner : ProviderResolutionWinner) :
    ProviderInputAction → ProviderSessionProjection
  | .answerQuestion questionId _ => { session with
      questionWinners := session.questionWinners.insert questionId winner, openQuestion := none }
  | .resolveApproval approvalId _ => { session with
      approvalWinners := session.approvalWinners.insert approvalId winner, openApproval := none }
  | _ => session

/-- The session with the accepted input as its current turn and last settlement. -/
def begun (fact : ProviderInputAcceptedFact) :
    ProviderSessionProjection :=
  { session with
    currentTurn := some fact.turnId
    lastSettlement := some {
      commandId := fact.commandId, operationId := some fact.operationId, intent := .accepted,
      delivery := fact.delivery } }

end ProviderSessionProjection

/-- The winner an accepted input is recorded as. -/
def ProviderInputAcceptedFact.winner (fact : ProviderInputAcceptedFact) (t : ℤ) :
    ProviderResolutionWinner where
  commandId := fact.commandId
  clientId := fact.clientId
  acceptedAtMs := t

variable {session : ProviderSessionProjection} {fact : ProviderInputAcceptedFact}

theorem checkOpen_insertWinner_eq_ok {won winner action} :
    (checkOpen session action = .ok () ∧
        insertWinner (session.begun fact) winner action = .ok won) ↔
      session.Resolvable action ∧ won = (session.begun fact).resolved winner action := by
  cases action <;>
    simp only [checkOpen, insertWinner, ProviderSessionProjection.Resolvable,
      ProviderSessionProjection.resolved, ok_iff, Except.ok.injEq, true_and, eq_comm (a := won)]
  case answerQuestion questionId answer =>
    constructor
    · rintro ⟨⟨hnew, hopen⟩, won, hwon, rfl⟩
      have hne' : questionId ∉ (session.begun fact).questionWinners := hnew
      obtain ⟨hroom, rfl⟩ :=
        (ProviderSessionProjection.boundedInsertQuestionWinner_eq_ok hne').mp hwon
      exact ⟨⟨hnew, hopen, hroom⟩, rfl⟩
    · rintro ⟨⟨hnew, hopen, hroom⟩, rfl⟩
      have hne' : questionId ∉ (session.begun fact).questionWinners := hnew
      exact ⟨⟨hnew, hopen⟩, _,
        (ProviderSessionProjection.boundedInsertQuestionWinner_eq_ok hne').mpr ⟨hroom, rfl⟩, rfl⟩
  case resolveApproval approvalId allow =>
    constructor
    · rintro ⟨⟨hnew, hopen⟩, won, hwon, rfl⟩
      have hne' : approvalId ∉ (session.begun fact).approvalWinners := hnew
      obtain ⟨hroom, rfl⟩ :=
        (ProviderSessionProjection.boundedInsertApprovalWinner_eq_ok hne').mp hwon
      exact ⟨⟨hnew, hopen, hroom⟩, rfl⟩
    · rintro ⟨⟨hnew, hopen, hroom⟩, rfl⟩
      have hne' : approvalId ∉ (session.begun fact).approvalWinners := hnew
      exact ⟨⟨hnew, hopen⟩, _,
        (ProviderSessionProjection.boundedInsertApprovalWinner_eq_ok hne').mpr ⟨hroom, rfl⟩, rfl⟩

theorem acceptIntoSession_eq_ok {session' taskId} {t : ℤ} :
    acceptIntoSession session fact taskId t = .ok session' ↔
      session.Resolvable fact.action ∧
        if fact.wait then
          ((session.begun fact).resolved (fact.winner t) fact.action).boundedInsertWait
            fact.commandId (fact.waitRecord taskId) = .ok session'
        else session' = (session.begun fact).resolved (fact.winner t) fact.action := by
  have hsplit : acceptIntoSession session fact taskId t = .ok session' ↔
      ∃ won, (checkOpen session fact.action = .ok () ∧
        insertWinner (session.begun fact) (fact.winner t) fact.action = .ok won) ∧
        (if fact.wait then
          won.boundedInsertWait fact.commandId (fact.waitRecord taskId) = .ok session'
        else session' = won) := by
    unfold acceptIntoSession
    simp only [ok_iff]
    split_ifs <;> simp only [ok_iff, and_assoc, exists_and_left] <;> rfl
  rw [hsplit]
  simp only [checkOpen_insertWinner_eq_ok]
  constructor
  · rintro ⟨_, ⟨hres, rfl⟩, h⟩
    exact ⟨hres, h⟩
  · rintro ⟨hres, h⟩
    exact ⟨_, ⟨hres, rfl⟩, h⟩

section Provider

variable [Externals]

/-- The snapshot `ProviderInputAccepted` writes its session into: a settled task is opened by a
new turn. -/
def resumed (s : TaskSnapshot) (fact : ProviderInputAcceptedFact) : TaskSnapshot :=
  if s.task.lifecycle = .settled ∧ fact.action.isSendNow then s.withLifecycle .opened else s

@[grind =]
theorem applyProviderInputAccepted_eq_ok {fact} {t : ℤ} :
    applyProviderInputAccepted s fact t = .ok s' ↔
      fact.delivery.isDelivered = false ∧
        (∃ agent, s.agents[fact.agentSessionId]? = some agent ∧
          ((fact.fence s.task.id).WellFormed ∧ (fact.fence s.task.id).Fits
            (fenceContext s fact.agentSessionId agent (acceptedCurrentTurn s fact) false)) ∧
          validateActionNestedIds fact.action fact.questionId fact.approvalId = .ok () ∧
          fact.wait = fact.action.waitsForTurn) ∧
        ∃ session, acceptIntoSession (s.sessionOf fact.agentSessionId) fact s.task.id t =
            .ok session ∧
          s' = (resumed s fact).setSession fact.agentSessionId session := by
  have hsess : (resumed s fact).sessionOf fact.agentSessionId =
      s.sessionOf fact.agentSessionId := by
    unfold resumed
    split_ifs <;> rfl
  have htask : (resumed s fact).task.id = s.task.id := by
    unfold resumed
    split_ifs <;> rfl
  unfold applyProviderInputAccepted
  rw [← resumed]
  simp only [ok_iff, validateSnapshotProviderFence_action, Bool.not_eq_true,
    ProviderInputAcceptedFact.fence, isSome_some, and_true, hsess, htask]

@[grind =]
theorem applyProviderQuestionPresented_eq_ok {fact} :
    applyProviderQuestionPresented s fact = .ok s' ↔
      (∃ agent, s.agents[fact.agentSessionId]? = some agent ∧
        (fact.fence s.task.id).WellFormed ∧ (fact.fence s.task.id).Fits
          (fenceContext s fact.agentSessionId agent (currentTurnOf s fact.agentSessionId) false)) ∧
        fact.questionId ∉ (s.sessionOf fact.agentSessionId).questionWinners ∧
        (s.sessionOf fact.agentSessionId).openQuestion = none ∧
        s' = s.setSession fact.agentSessionId { s.sessionOf fact.agentSessionId with
          currentTurn := some fact.turnId
          openQuestion := some fact.questionId } := by
  unfold applyProviderQuestionPresented
  simp only [ok_iff, validateSnapshotProviderFence_bare, not_isSome_iff_eq_none]

@[grind =]
theorem applyProviderApprovalPresented_eq_ok {fact} :
    applyProviderApprovalPresented s fact = .ok s' ↔
      (∃ agent, s.agents[fact.agentSessionId]? = some agent ∧
        (fact.fence s.task.id).WellFormed ∧ (fact.fence s.task.id).Fits
          (fenceContext s fact.agentSessionId agent (currentTurnOf s fact.agentSessionId) false)) ∧
        fact.approvalId ∉ (s.sessionOf fact.agentSessionId).approvalWinners ∧
        (s.sessionOf fact.agentSessionId).openApproval = none ∧
        s' = s.setSession fact.agentSessionId { s.sessionOf fact.agentSessionId with
          currentTurn := some fact.turnId
          openApproval := some fact.approvalId } := by
  unfold applyProviderApprovalPresented
  simp only [ok_iff, validateSnapshotProviderFence_bare, not_isSome_iff_eq_none]

@[grind =]
theorem applyProviderWaitSettled_eq_ok {fence} :
    applyProviderWaitSettled s fence = .ok s' ↔
      (∃ agent, s.agents[fence.agentSessionId]? = some agent ∧ fence.identity.WellFormed ∧
        fence.identity.Fits (fenceContext s fence.agentSessionId agent
          (currentTurnOf s fence.agentSessionId) true)) ∧
        ∃ session, s.providerSessions[fence.agentSessionId]? = some session ∧
          ∃ record, session.waits[fence.commandId]? = some record ∧ record.fence = fence ∧
            record.pending = true ∧
            s' = s.setSession fence.agentSessionId { session with
              waits := session.waits.insert fence.commandId { record with pending := false } } := by
  unfold applyProviderWaitSettled
  simp only [ok_iff, validateSnapshotProviderFence_bare]

@[grind =]
theorem applyProviderInputDelivered_eq_ok {fact} :
    applyProviderInputDelivered s fact = .ok s' ↔
      (∃ agent, s.agents[fact.agentSessionId]? = some agent ∧
        (fact.fence s.task.id).WellFormed ∧ (fact.fence s.task.id).Fits
          (fenceContext s fact.agentSessionId agent (currentTurnOf s fact.agentSessionId) true)) ∧
        ∃ session, s.providerSessions[fact.agentSessionId]? = some session ∧
          ∃ settlement, session.lastSettlement = some settlement ∧
            ((¬ (settlement.commandId = fact.commandId ∧
                settlement.operationId = some fact.operationId) ∧ s' = s) ∨
              ((settlement.commandId = fact.commandId ∧
                settlement.operationId = some fact.operationId) ∧
                settlement.delivery.isDelivered = false ∧
                s' = s.setSession fact.agentSessionId { session with
                  lastSettlement := some {
                    commandId := fact.commandId
                    operationId := some fact.operationId
                    intent := .accepted
                    delivery := .delivered } })) := by
  unfold applyProviderInputDelivered
  simp only [ok_iff, validateSnapshotProviderFence_bare]
  refine and_congr_right fun _ => exists_congr fun session => and_congr_right fun _ =>
    exists_congr fun settlement => and_congr_right fun _ => ?_
  by_cases h : settlement.commandId = fact.commandId ∧
      settlement.operationId = some fact.operationId
  · rw [if_neg (by rw [not_or, ne_eq, ne_eq, not_not, not_not]; exact h)]
    simp only [ok_iff, h, not_true_eq_false, false_and, true_and, false_or, Bool.not_eq_true,
      and_self]
  · rw [if_pos (by rw [← not_and_or]; exact h)]
    simp only [pure_eq_ok, h, not_false_eq_true, true_and, false_and, or_false]

end Provider

/-! ## The browser -/

@[grind =]
theorem applyBrowserFact_eq_ok [Externals] {fact} :
    applyBrowserFact s fact = .ok s' ↔
      fact.taskId = s.task.id ∧
        ∃ book, s.browser.applyFacts [fact] = .ok book ∧ s' = { s with browser := book } := by
  unfold applyBrowserFact
  simp only [ok_iff]

end Spec

end DevManager
