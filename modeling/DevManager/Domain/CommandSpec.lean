import DevManager.Domain.Decide

/-!
# When a command is decided

One lemma for each arm of `decide` on an existing snapshot: the conjunction of its
guards, and the events it returns. `Addressed` is what every arm asks first: the
envelope names the task and its current revision.
-/

namespace DevManager

open Std (ExtTreeSet)
open AgentRole Option

variable (s : TaskSnapshot)

/-- `require_runtime_capable_task`: the task is open or settled. -/
def RuntimeCapable : Prop :=
  s.task.lifecycle = .opened ∨ s.task.lifecycle = .settled

/-- `require_open_or_closing_task`: the task is neither archived nor deleted. -/
def OpenOrClosing : Prop :=
  s.task.lifecycle = .opened ∨ s.task.lifecycle = .settled ∨ s.task.lifecycle = .closing

/-- The envelope names the task and its current revision. -/
structure Addressed (s : TaskSnapshot) (envelope : CommandEnvelope) : Prop where
  task : envelope.taskId = some s.task.id
  revision : envelope.expectedTaskRevision = some s.task.revision

/-- An envelope addressed to the task. -/
def envelopeFor (command : Command) : CommandEnvelope where
  commandId := ⟨1⟩
  clientId := ⟨1⟩
  taskId := some s.task.id
  issuedAtMs := 0
  expectedTaskRevision := some s.task.revision
  command := command

theorem addressed_envelopeFor (command : Command) :
    Addressed s (envelopeFor s command) := ⟨rfl, rfl⟩

section Spec

variable {s s₁ : TaskSnapshot} {envelope : CommandEnvelope} {events : List Event}

theorem requireTask_eq_ok :
    requireTask (some s) envelope = .ok s₁ ↔ envelope.taskId = some s.task.id ∧ s₁ = s := by
  unfold requireTask
  simp only [ok_iff, some.injEq, exists_eq_left']
  constructor
  · rintro ⟨_, htask, rfl, h⟩
    exact ⟨htask, h⟩
  · rintro ⟨htask, h⟩
    exact ⟨_, htask, rfl, h⟩

theorem requireExpectedRevision_eq_ok :
    requireExpectedRevision s envelope = .ok () ↔
      envelope.expectedTaskRevision = some s.task.revision := by
  unfold requireExpectedRevision
  simp only [failIf_eq_ok, ne_eq, not_not]

theorem requireOpenOrClosingTask_eq_ok :
    requireOpenOrClosingTask (some s) envelope = .ok s₁ ↔
      envelope.taskId = some s.task.id ∧ OpenOrClosing s ∧ s₁ = s := by
  unfold requireOpenOrClosingTask OpenOrClosing
  simp only [bind_eq_ok, requireTask_eq_ok, and_assoc, exists_and_left, exists_eq_left]
  refine and_congr_right fun _ => ?_
  cases s.task.lifecycle <;> simp

theorem requireRuntimeCapableTask_eq_ok :
    requireRuntimeCapableTask (some s) envelope = .ok s₁ ↔
      envelope.taskId = some s.task.id ∧ RuntimeCapable s ∧ s₁ = s := by
  unfold requireRuntimeCapableTask RuntimeCapable
  simp only [bind_eq_ok, requireTask_eq_ok, and_assoc, exists_and_left, exists_eq_left]
  refine and_congr_right fun _ => ?_
  cases s.task.lifecycle <;> simp

/-! ### The three openings of an arm -/

variable {α : Type} {a : α} {body : TaskSnapshot → Except RejectionCode α}

theorem require_bind_eq_ok : (do
      let snap ← requireTask (some s) envelope
      requireExpectedRevision snap envelope
      body snap) = .ok a ↔ Addressed s envelope ∧ body s = .ok a := by
  simp only [ok_iff, requireTask_eq_ok, requireExpectedRevision_eq_ok, and_assoc, exists_and_left,
    exists_eq_left]
  constructor
  · rintro ⟨htask, hrev, h⟩
    exact ⟨⟨htask, hrev⟩, h⟩
  · rintro ⟨⟨htask, hrev⟩, h⟩
    exact ⟨htask, hrev, h⟩

theorem requireOpenOrClosing_bind_eq_ok : (do
      let snap ← requireOpenOrClosingTask (some s) envelope
      requireExpectedRevision snap envelope
      body snap) = .ok a ↔ Addressed s envelope ∧ OpenOrClosing s ∧ body s = .ok a := by
  simp only [ok_iff, requireOpenOrClosingTask_eq_ok, requireExpectedRevision_eq_ok, and_assoc,
    exists_and_left, exists_eq_left]
  constructor
  · rintro ⟨htask, hlife, hrev, h⟩
    exact ⟨⟨htask, hrev⟩, hlife, h⟩
  · rintro ⟨⟨htask, hrev⟩, hlife, h⟩
    exact ⟨htask, hlife, hrev, h⟩

theorem requireRuntimeCapable_bind_eq_ok : (do
      let snap ← requireRuntimeCapableTask (some s) envelope
      requireExpectedRevision snap envelope
      body snap) = .ok a ↔ Addressed s envelope ∧ RuntimeCapable s ∧ body s = .ok a := by
  simp only [ok_iff, requireRuntimeCapableTask_eq_ok, requireExpectedRevision_eq_ok, and_assoc,
    exists_and_left, exists_eq_left]
  constructor
  · rintro ⟨htask, hlife, hrev, h⟩
    exact ⟨⟨htask, hrev⟩, hlife, h⟩
  · rintro ⟨⟨htask, hrev⟩, hlife, h⟩
    exact ⟨htask, hlife, hrev, h⟩

/-! ## The task's own commands -/

@[grind =]
theorem decideRenameTask_eq_ok {title} :
    decideRenameTask (some s) envelope title = .ok events ↔
      Addressed s envelope ∧ OpenOrClosing s ∧ trim title ≠ "" ∧
        ∃ canonical, TaskFacts.canonicalizeTitle title = .ok canonical ∧
          events = [.taskRenamed canonical] := by
  unfold decideRenameTask
  rw [requireOpenOrClosing_bind_eq_ok]
  simp only [ok_iff]

@[grind =]
theorem decideSetTaskAttention_eq_ok {attention} :
    decideSetTaskAttention (some s) envelope attention = .ok events ↔
      Addressed s envelope ∧ OpenOrClosing s ∧ events = [.taskAttentionSet attention] := by
  unfold decideSetTaskAttention
  rw [requireOpenOrClosing_bind_eq_ok, pure_eq_ok]

@[grind =]
theorem decideSettleTask_eq_ok :
    decideSettleTask (some s) envelope = .ok events ↔
      Addressed s envelope ∧ (s.task.lifecycle = .opened ∧ events = [.taskSettled] ∨
        s.task.lifecycle = .settled ∧ events = []) := by
  unfold decideSettleTask
  rw [require_bind_eq_ok]
  cases s.task.lifecycle <;> simp

@[grind =]
theorem decideBeginClose_eq_ok :
    decideBeginClose (some s) envelope = .ok events ↔
      Addressed s envelope ∧ (s.task.lifecycle = .closing ∧ events = [] ∨
        RuntimeCapable s ∧ s.task.actionEpoch + 1 ≤ u64Max ∧
          events = [.taskCloseBegun (s.task.actionEpoch + 1)]) := by
  unfold decideBeginClose RuntimeCapable
  rw [require_bind_eq_ok]
  refine and_congr_right fun _ => ?_
  have hnext : (do
      let actionEpoch ← okOr (checkedAdd s.task.actionEpoch 1) RejectionCode.invalidTransition
      pure [Event.taskCloseBegun actionEpoch]) = .ok events ↔
        s.task.actionEpoch + 1 ≤ u64Max ∧ events = [.taskCloseBegun (s.task.actionEpoch + 1)] := by
    simp only [ok_iff, checkedAdd_eq_some, and_assoc, exists_and_left, exists_eq_left']
  cases s.task.lifecycle <;> simp only [hnext] <;> simp

@[grind =]
theorem decideReopenTask_eq_ok :
    decideReopenTask (some s) envelope = .ok events ↔
      Addressed s envelope ∧ s.task.lifecycle ≠ .opened ∧ s.task.lifecycle ≠ .deleted ∧
        events = [.taskReopened] := by
  unfold decideReopenTask
  rw [require_bind_eq_ok]
  cases s.task.lifecycle <;> simp

@[grind =]
theorem decideDeleteTask_eq_ok :
    decideDeleteTask (some s) envelope = .ok events ↔
      Addressed s envelope ∧ s.task.lifecycle = .archived ∧ events = [.taskDeleted] := by
  unfold decideDeleteTask
  rw [require_bind_eq_ok]
  cases s.task.lifecycle <;> simp

/-! ## Agents and artifacts -/

@[grind =]
theorem decideRegisterAgentSession_eq_ok {agent} :
    decideRegisterAgentSession (some s) envelope agent = .ok events ↔
      Addressed s envelope ∧ RuntimeCapable s ∧ agent.taskId = s.task.id ∧
        agent.validateForRegistration = .ok () ∧ agent.id ∉ s.agents ∧
        agent.role.isPrimary = true ∧
        (∀ (id : AgentSessionId) a, s.agents[id]? = some a → a.role.isPrimary = false) ∧
        events = [.agentSessionRegistered agent] := by
  unfold decideRegisterAgentSession
  rw [requireRuntimeCapable_bind_eq_ok]
  simp only [ok_iff, isOk_eq_true, isSpecialist_eq_not, Bool.not_eq_true',
    Bool.not_eq_false, not_and, Bool.not_eq_true, OrdMap.valuesAny_eq_false]
  refine and_congr_right fun _ => and_congr_right fun _ => and_congr_right fun _ =>
    and_congr_right fun _ => and_congr_right fun _ => and_congr_right fun hrole => ?_
  simp only [hrole, true_implies]

variable {id : AgentSessionId} {session : ProviderSessionId}

@[grind =]
theorem decideBindProviderSession_eq_ok {resourceId} {generation : ℕ} :
    decideBindProviderSession (some s) envelope id resourceId session generation = .ok events ↔
      Addressed s envelope ∧ RuntimeCapable s ∧
        ∃ agent, s.agents[id]? = some agent ∧ agent.lifecycle = .opened ∧
          agent.runtimeGeneration = generation ∧
          ∃ resource, s.resources[resourceId]? = some resource ∧
            ∃ binding, AgentResourceBinding.fromFacts agent resource = .ok binding ∧
              (binding.resourceId = resourceId ∧ binding.runtimeGeneration = generation) ∧
              agent.providerSessionId = none ∧
              events = [.agentProviderSessionBound id resourceId session generation] := by
  unfold decideBindProviderSession
  rw [requireRuntimeCapable_bind_eq_ok]
  simp only [ok_iff, requireOpenAgent, not_or]
  refine and_congr_right fun _ => and_congr_right fun _ => exists_congr fun agent =>
    and_congr_right fun _ => and_congr_right fun _ => and_congr_right fun _ =>
    exists_congr fun resource => and_congr_right fun _ => exists_congr fun binding =>
    and_congr_right fun _ => and_congr_right fun _ => ?_
  cases agent.providerSessionId <;> simp

@[grind =]
theorem decideAbandonProviderSession_eq_ok {generation : ℕ} :
    decideAbandonProviderSession (some s) envelope id session generation = .ok events ↔
      Addressed s envelope ∧ RuntimeCapable s ∧
        ∃ agent, s.agents[id]? = some agent ∧ agent.lifecycle = .opened ∧
          agent.runtimeGeneration = generation ∧ agent.providerSessionId = some session ∧
          events = [.agentProviderSessionAbandoned id session generation] := by
  unfold decideAbandonProviderSession
  rw [requireRuntimeCapable_bind_eq_ok]
  simp only [ok_iff, requireOpenAgent]
  refine and_congr_right fun _ => and_congr_right fun _ => exists_congr fun agent =>
    and_congr_right fun _ => and_congr_right fun _ => and_congr_right fun _ => ?_
  cases agent.providerSessionId with
  | none => simp
  | some bound =>
    simp only [ok_iff, some.injEq]

@[grind =]
theorem decideSetPrimaryAgent_eq_ok :
    decideSetPrimaryAgent (some s) envelope id = .ok events ↔
      Addressed s envelope ∧ RuntimeCapable s ∧
        ∃ agent, s.agents[id]? = some agent ∧ agent.role.isPrimary = true ∧
          events = [.primaryAgentSet id] := by
  unfold decideSetPrimaryAgent
  rw [requireRuntimeCapable_bind_eq_ok]
  simp only [ok_iff]

@[grind =]
theorem decideRebindUnstartedPrimaryProvider_eq_ok {kind} :
    decideRebindUnstartedPrimaryProvider (some s) envelope id kind = .ok events ↔
      Addressed s envelope ∧ RuntimeCapable s ∧ s.isUnstartedDraft = true ∧
        s.primaryAgentId = some id ∧
        ∃ agent, s.agents[id]? = some agent ∧
          (agent.role.isPrimary = true ∧ agent.lifecycle = .opened ∧
            agent.providerSessionId = none) ∧
          events = if agent.providerKind = kind then []
            else [.unstartedPrimaryProviderRebound id kind] := by
  unfold decideRebindUnstartedPrimaryProvider
  rw [requireRuntimeCapable_bind_eq_ok]
  simp only [ok_iff, not_or, not_isSome_iff_eq_none]
  refine and_congr_right fun _ => and_congr_right fun _ => and_congr_right fun _ =>
    and_congr_right fun _ => exists_congr fun agent => and_congr_right fun _ =>
    and_congr_right fun _ => ?_
  split_ifs <;> rw [pure_eq_ok]

@[grind =]
theorem decideRegisterArtifact_eq_ok {artifact} :
    decideRegisterArtifact (some s) envelope artifact = .ok events ↔
      Addressed s envelope ∧ OpenOrClosing s ∧ artifact.taskId = s.task.id ∧
        artifact.validate = .ok () ∧ artifact.id ∉ s.artifacts ∧
        events = [.artifactRegistered artifact] := by
  unfold decideRegisterArtifact
  rw [requireOpenOrClosing_bind_eq_ok]
  simp only [ok_iff, isOk_eq_true]

section Specialists

variable [Externals]

/-- What `decide_request_specialist` has checked when it returns its event. -/
structure SpecialistAdmitted (s : TaskSnapshot) (intent : RequestSpecialistIntent)
    (purpose : String) : Prop where
  requester : ∃ a, s.agents[intent.requestedBy]? = some a ∧ a.role.isPrimary = true ∧
    a.runtimeGeneration = intent.expectedRuntimeGeneration
  epoch : s.task.actionEpoch = intent.expectedActionEpoch
  primary : s.primaryAgentId = some intent.requestedBy
  task : intent.specialist.taskId = s.task.id
  distinct : intent.specialist.id ≠ intent.requestedBy
  role : intent.specialist.role.isPrimary = false
  purposeOk : Canonical.boundedCanonical intent.purpose = some purpose
  workspace : intent.workspace.validate = .ok ()
  valid : intent.specialist.validateForRegistration = .ok ()
  generation : intent.specialist.runtimeGeneration = intent.expectedRuntimeGeneration
  new : intent.specialist.id ∉ s.agents
  permission : intent.permission = .readOnly
  resource : checkRequestedResource s intent = .ok ()
  room : s.topLevelRuntimeCount < defaultMaxTopLevelRuntimes

/-- The event of an admitted request. -/
def RequestSpecialistIntent.requested (intent : RequestSpecialistIntent) (purpose : String) :
    SpecialistRequestedFact :=
  { intent with
    specialistId := intent.specialist.id
    purpose := purpose
    agent := intent.specialist
    actionEpoch := intent.expectedActionEpoch
    runtimeGeneration := intent.expectedRuntimeGeneration }

theorem checkSpecialistPermission_readOnly {intent}
    (h : checkSpecialistPermission s intent = .ok ()) : intent.permission = .readOnly := by
  unfold checkSpecialistPermission at h
  cases hp : intent.permission with
  | readOnly => rfl
  | isolatedWrite =>
    rw [hp] at h
    simp only [ok_iff, reduceCtorEq, and_false] at h
  | sharedWrite approved =>
    rw [hp] at h
    cases approved <;> simp at h

@[grind →]
theorem decideRequestSpecialist_ok {intent}
    (h : decideRequestSpecialist (some s) envelope intent = .ok events) :
    Addressed s envelope ∧ RuntimeCapable s ∧
      ∃ purpose, SpecialistAdmitted s intent purpose ∧
        events = [.specialistRequested (intent.requested purpose)] := by
  unfold decideRequestSpecialist at h
  rw [requireRuntimeCapable_bind_eq_ok] at h
  simp only [ok_iff, not_or, requireOrchestrationFences, isOk_eq_true,
    RequestSpecialistIntent.validateBounds, isSpecialist_eq_not, Bool.not_eq_true'] at h
  obtain ⟨haddr, hcap, ⟨-, ⟨-, hrole⟩, -⟩, requester, hreq, ⟨hepoch, hgen⟩,
    ⟨hprimaryRole, hprimary⟩, ⟨htask, hdist⟩, purpose, hpurpose, hws, -, ⟨hvalid, hgeneration⟩,
    hnew, hperm, hres, ⟨-, hroom⟩, rfl⟩ := h
  refine ⟨haddr, hcap, purpose, ?_, rfl⟩
  exact {
    requester := ⟨requester, hreq, hprimaryRole, hgen⟩
    epoch := hepoch
    primary := hprimary
    task := htask
    distinct := hdist
    role := hrole
    purposeOk := hpurpose
    workspace := hws
    valid := hvalid
    generation := hgeneration
    new := hnew
    permission := checkSpecialistPermission_readOnly hperm
    resource := hres
    room := by omega }

omit [Externals] in
@[grind =]
theorem decidePromotePrimary_eq_ok {intent} :
    decidePromotePrimary (some s) envelope intent = .ok events ↔
      Addressed s envelope ∧ RuntimeCapable s ∧
        ∃ candidate, s.agents[intent.agentSessionId]? = some candidate ∧
          (s.task.actionEpoch = intent.expectedActionEpoch ∧
            candidate.runtimeGeneration = intent.expectedRuntimeGeneration) ∧
          ∃ previous, s.primaryAgentId = some previous ∧
            ∃ before, s.agents[previous]? = some before ∧
              (candidate.role.isPrimary = false ∧ candidate.lifecycle = .opened ∧
                before.role.isPrimary = true ∧ before.lifecycle = .opened ∧
                before.runtimeGeneration = intent.expectedRuntimeGeneration) ∧
              events = [.primaryPromoted previous intent.agentSessionId
                intent.expectedActionEpoch intent.expectedRuntimeGeneration] := by
  unfold decidePromotePrimary
  rw [requireRuntimeCapable_bind_eq_ok]
  simp only [ok_iff, not_or, requireOrchestrationFences, isSpecialist_eq_not, Bool.not_eq_true']

omit [Externals] in
@[grind =]
theorem decideCancelSpecialist_eq_ok {intent} :
    decideCancelSpecialist (some s) envelope intent = .ok events ↔
      Addressed s envelope ∧ RuntimeCapable s ∧
        ∃ specialist, s.agents[intent.agentSessionId]? = some specialist ∧
          (s.task.actionEpoch = intent.expectedActionEpoch ∧
            specialist.runtimeGeneration = intent.expectedRuntimeGeneration) ∧
          (specialist.role.isPrimary = false ∧ specialist.lifecycle = .opened) ∧
          events = [.specialistClosed intent.agentSessionId intent.expectedActionEpoch
            intent.expectedRuntimeGeneration] := by
  unfold decideCancelSpecialist
  rw [requireRuntimeCapable_bind_eq_ok]
  simp only [ok_iff, not_or, requireOrchestrationFences, isSpecialist_eq_not, Bool.not_eq_true']

theorem handoffBody_ok {structured} {raw}
    {body} {flag : Bool} (h : handoffBody structured raw = .ok (body, flag)) :
    raw = some body ∧ flag = false ∧ ¬ rawBodyBad body := by
  have hraw : ∀ {raw : Option String}, handoffBody.rawBody raw = .ok (body, flag) →
      raw = some body ∧ flag = false ∧ ¬ rawBodyBad body := by
    intro raw h
    cases raw with
    | none => cases h
    | some raw =>
      simp only [handoffBody.rawBody, ok_iff] at h
      obtain ⟨hbad, rfl, rfl⟩ := h
      exact ⟨rfl, rfl, hbad⟩
  unfold handoffBody at h
  cases structured with
  | none => exact hraw h
  | some result =>
    dsimp only at h
    split_ifs at h with hok
    exact hraw h

@[grind →]
theorem decideAcceptSpecialistHandoff_ok {intent}
    (h : decideAcceptSpecialistHandoff (some s) envelope intent = .ok events) :
    Addressed s envelope ∧ RuntimeCapable s ∧
      ∃ fact, events = [.specialistHandoffRecorded fact] ∧
        fact.structured = false ∧ fact.actionEpoch = s.task.actionEpoch ∧
        (∃ a, s.agents[fact.specialistId]? = some a ∧ a.role.isPrimary = false ∧
          a.lifecycle = .opened ∧ a.runtimeGeneration = fact.runtimeGeneration) ∧
        fact.artifact.id ∉ s.artifacts ∧ fact.artifact.taskId = s.task.id ∧
        fact.artifact.kind = .reviewReport ∧ fact.artifact.validate = .ok () ∧
        verifyInlineContentDigest fact.artifact = .ok () ∧
        ∃ body, fact.artifact.contentRef = .inlineUtf8 body ∧ ¬ rawBodyBad body := by
  unfold decideAcceptSpecialistHandoff at h
  rw [requireRuntimeCapable_bind_eq_ok] at h
  simp only [ok_iff, not_or, requireOrchestrationFences, isSpecialist_eq_not,
    Bool.not_eq_true', ArtifactContentRef.ofInlineUtf8] at h
  obtain ⟨haddr, hcap, specialist, hspec, ⟨hepoch, hgen⟩, ⟨hrole, hopen⟩, hnew, -,
    ⟨body, flag⟩, hbody, label, -, contentRef, ⟨-, rfl⟩, hvalid, hdigest, rfl⟩ := h
  obtain ⟨-, rfl, hbound⟩ := handoffBody_ok hbody
  exact ⟨haddr, hcap, _, rfl, rfl, hepoch.symm, ⟨specialist, hspec, hrole, hopen, hgen⟩, hnew,
    rfl, rfl, hvalid, hdigest, body, rfl, hbound⟩

end Specialists

/-! ## Resources and terminals -/

variable {id : ResourceId}

theorem requireTaskPlainShell_eq_ok {resource} :
    requireTaskPlainShell s id = .ok resource ↔
      s.resources[id]? = some resource ∧
        (resource.ownerKind = .task ∧ resource.taskId = some s.task.id) ∧
        isPlainShellTerminal resource = true ∧ resource.lifecycle ≠ .released := by
  unfold requireTaskPlainShell
  simp only [ok_iff, not_or]
  constructor
  · rintro ⟨_, hget, howner, hshell, hlife, rfl⟩
    exact ⟨hget, howner, hshell, hlife⟩
  · rintro ⟨hget, howner, hshell, hlife⟩
    exact ⟨resource, hget, howner, hshell, hlife, rfl⟩

@[grind =]
theorem decideReleaseResource_eq_ok :
    decideReleaseResource (some s) envelope id = .ok events ↔
      Addressed s envelope ∧ OpenOrClosing s ∧
        ∃ resource, s.resources[id]? = some resource ∧
          (resource.ownerKind = .task ∧ resource.taskId = some s.task.id) ∧
          (resource.lifecycle = .active ∧
              events = [.resourceReleaseBegun id resource.runtimeGeneration] ∨
            resource.lifecycle = .releasing ∧ events = []) := by
  unfold decideReleaseResource
  rw [requireOpenOrClosing_bind_eq_ok]
  simp only [ok_iff, not_or]
  refine and_congr_right fun _ => and_congr_right fun _ => exists_congr fun resource =>
    and_congr_right fun _ => and_congr_right fun _ => ?_
  cases resource.lifecycle <;> simp

@[grind =]
theorem decideCloseTerminal_eq_ok :
    decideCloseTerminal (some s) envelope id = .ok events ↔
      Addressed s envelope ∧ OpenOrClosing s ∧
        ∃ resource, requireTaskPlainShell s id = .ok resource ∧ resource.lifecycle = .active ∧
          events = [.resourceReleaseBegun id resource.runtimeGeneration] := by
  unfold decideCloseTerminal
  rw [requireOpenOrClosing_bind_eq_ok]
  simp only [ok_iff]

@[grind =]
theorem decideRenameTerminal_eq_ok {title} :
    decideRenameTerminal (some s) envelope id title = .ok events ↔
      Addressed s envelope ∧ OpenOrClosing s ∧
        (∃ resource, requireTaskPlainShell s id = .ok resource) ∧
        validateTerminalTitle (trim title) = .ok () ∧
        events = [.terminalRenamed id (trim title)] := by
  unfold decideRenameTerminal
  rw [requireOpenOrClosing_bind_eq_ok]
  simp only [ok_iff, exists_and_right]

@[grind =]
theorem decideSetTerminalStrip_eq_ok {strip} :
    decideSetTerminalStrip (some s) envelope strip = .ok events ↔
      Addressed s envelope ∧ OpenOrClosing s ∧
        strip.validate s.task.id s.resources = .ok () ∧
        ExtTreeSet.ofList strip.order = occupiedPlainShellIds s ∧
        events = [.taskTerminalStripSet strip] := by
  unfold decideSetTerminalStrip
  rw [requireOpenOrClosing_bind_eq_ok]
  simp only [ok_iff]

section Resources

variable [Externals]

@[grind =]
theorem decideRegisterResource_eq_ok {resource} :
    decideRegisterResource (some s) envelope resource = .ok events ↔
      Addressed s envelope ∧ RuntimeCapable s ∧ resource.ownerKind = .task ∧
        resource.taskId = some s.task.id ∧ resource.validate = .ok () ∧
        resource.lifecycle = .active ∧ resource.id ∉ s.resources ∧
        events = [.resourceRegistered resource] := by
  unfold decideRegisterResource
  rw [requireRuntimeCapable_bind_eq_ok]
  simp only [ok_iff, isOk_eq_true]

@[grind =]
theorem decideOpenShellTerminal_eq_ok {resource} :
    decideOpenShellTerminal (some s) envelope resource = .ok events ↔
      Addressed s envelope ∧ RuntimeCapable s ∧ resource.validateForRegistration = .ok () ∧
        (resource.ownerKind = .task ∧ resource.taskId = some s.task.id) ∧
        isPlainShellTerminal resource = true ∧ resource.id ∉ s.resources ∧
        (occupiedPlainShellIds s).size < maxPlainShellsPerTask ∧
        events = [.resourceRegistered resource] := by
  unfold decideOpenShellTerminal
  rw [requireRuntimeCapable_bind_eq_ok]
  simp only [ok_iff, not_or, ge_iff_le, not_le]

end Resources

/-! ## Provider input -/

section ProviderInput

variable [Externals]

@[grind =]
theorem decideSubmitProviderInput_eq_ok {operationId intent} :
    decideSubmitProviderInput (some s) envelope operationId intent = .ok events ↔
      Addressed s envelope ∧ RuntimeCapable s ∧
        validateActionNestedIds intent.action intent.questionId intent.approvalId = .ok () ∧
        ∃ agent, s.agents[intent.agentSessionId]? = some agent ∧ agent.taskId = s.task.id ∧
          agent.lifecycle = .opened ∧
          (agent.providerSessionId = none → agent.providerKind = .codex) ∧
          agent.runtimeGeneration = intent.runtimeGeneration ∧
          s.task.actionEpoch = intent.actionEpoch ∧
          checkActionTurn (s.sessionOf intent.agentSessionId) intent = .ok () ∧
          (intent.action.waitsForTurn = true →
            envelope.commandId ∈ (s.sessionOf intent.agentSessionId).waits ∨
              (s.sessionOf intent.agentSessionId).pendingWaits < maxProviderWaits) ∧
          events = [.providerInputAccepted (intent.accepted envelope operationId agent)] := by
  unfold decideSubmitProviderInput
  rw [requireRuntimeCapable_bind_eq_ok]
  simp only [ok_iff, requireOpenAgent, not_and, isNone_iff_eq_none, ge_iff_le, not_le,
    or_iff_not_imp_left]

omit [Externals] in
@[grind =]
theorem decidePresentProviderQuestion_eq_ok {intent} :
    decidePresentProviderQuestion (some s) envelope intent = .ok events ↔
      Addressed s envelope ∧ RuntimeCapable s ∧
        ∃ agent, s.agents[intent.agentSessionId]? = some agent ∧ agent.lifecycle = .opened ∧
          ∃ session, agent.providerSessionId = some session ∧
            (agent.runtimeGeneration = intent.runtimeGeneration ∧
              s.task.actionEpoch = intent.actionEpoch) ∧
            (∀ turn, (s.sessionOf intent.agentSessionId).currentTurn = some turn →
              turn = intent.turnId) ∧
            intent.questionId ∉ (s.sessionOf intent.agentSessionId).questionWinners ∧
            (s.sessionOf intent.agentSessionId).openQuestion = none ∧
            events = [.providerQuestionPresented {
              agentSessionId := intent.agentSessionId
              providerKind := agent.providerKind
              providerSessionId := session
              runtimeGeneration := intent.runtimeGeneration
              turnId := intent.turnId
              actionEpoch := intent.actionEpoch
              questionId := intent.questionId }] := by
  unfold decidePresentProviderQuestion
  rw [requireRuntimeCapable_bind_eq_ok]
  simp only [ok_iff, requireOpenAgent, not_or, mem_def, not_exists, not_and]
  cases (s.sessionOf intent.agentSessionId).openQuestion <;> simp

omit [Externals] in
@[grind =]
theorem decidePresentProviderApproval_eq_ok {intent} :
    decidePresentProviderApproval (some s) envelope intent = .ok events ↔
      Addressed s envelope ∧ RuntimeCapable s ∧
        ∃ agent, s.agents[intent.agentSessionId]? = some agent ∧ agent.lifecycle = .opened ∧
          ∃ session, agent.providerSessionId = some session ∧
            (agent.runtimeGeneration = intent.runtimeGeneration ∧
              s.task.actionEpoch = intent.actionEpoch) ∧
            (∀ turn, (s.sessionOf intent.agentSessionId).currentTurn = some turn →
              turn = intent.turnId) ∧
            intent.approvalId ∉ (s.sessionOf intent.agentSessionId).approvalWinners ∧
            (s.sessionOf intent.agentSessionId).openApproval = none ∧
            events = [.providerApprovalPresented {
              agentSessionId := intent.agentSessionId
              providerKind := agent.providerKind
              providerSessionId := session
              runtimeGeneration := intent.runtimeGeneration
              turnId := intent.turnId
              actionEpoch := intent.actionEpoch
              approvalId := intent.approvalId }] := by
  unfold decidePresentProviderApproval
  rw [requireRuntimeCapable_bind_eq_ok]
  simp only [ok_iff, requireOpenAgent, not_or, mem_def, not_exists, not_and]
  cases (s.sessionOf intent.agentSessionId).openApproval <;> simp

@[grind =]
theorem decideSettleProviderWait_eq_ok {fence} :
    decideSettleProviderWait (some s) envelope fence = .ok events ↔
      Addressed s envelope ∧ OpenOrClosing s ∧ fence.taskId = s.task.id ∧
        fence.identity.WellFormed ∧
        ∃ session, s.providerSessions[fence.agentSessionId]? = some session ∧
          ∃ record, session.waits[fence.commandId]? = some record ∧ record.fence = fence ∧
            ∃ agent, s.agents[fence.agentSessionId]? = some agent ∧
              agent.lifecycle ≠ .closed ∧ agent.runtimeGeneration = fence.runtimeGeneration ∧
              s.task.actionEpoch = fence.actionEpoch ∧ record.pending = true ∧
              events = [.providerWaitSettled fence] := by
  unfold decideSettleProviderWait
  rw [requireOpenOrClosing_bind_eq_ok]
  simp only [ok_iff, requireLiveAgent, validateProviderFence_bare]

end ProviderInput

/-! ## The browser -/

section Browser

variable [Externals]

@[grind =]
theorem decideBrowser_eq_ok {request} :
    decideBrowser (some s) envelope request = .ok events ↔
      Addressed s envelope ∧ RuntimeCapable s ∧ request.taskId = s.task.id ∧
        ∃ accepted, s.browser.planAdmit request = .ok accepted ∧
          events = (accepted.bindCommand envelope.commandId s.task.actionEpoch).facts.map
            Event.browser := by
  unfold decideBrowser
  rw [requireRuntimeCapable_bind_eq_ok]
  simp only [ok_iff]

@[grind →]
theorem decideOpenTaskBrowser_ok {intent}
    (h : decideOpenTaskBrowser (some s) envelope intent = .ok events) :
    Addressed s envelope ∧ RuntimeCapable s ∧
      ∃ facts : List BrowserDurableFact,
        events = facts.map Event.browser ++ [.resourceRegistered intent.resource] := by
  unfold decideOpenTaskBrowser at h
  rw [requireRuntimeCapable_bind_eq_ok] at h
  obtain ⟨haddr, hcap, h⟩ := h
  simp only [decideOpen, ok_iff] at h
  obtain ⟨_, -, -, _, -, -, ⟨contextId, startUrl⟩, -, -, -, ⟨book, created⟩, -, ⟨_, opened⟩, -,
    rfl⟩ := h
  exact ⟨haddr, hcap, created ++ opened, rfl⟩

end Browser

end Spec

end DevManager
