import DevManager.Domain.CommandSpec
import DevManager.Domain.EventSpec

/-!
# What one event does to each part of a snapshot

A snapshot has five parts that change on their own: the task, the agents, the
resources with their terminals, the provider sessions and the browser. For each
part this module says once what an accepted event can do to it, as a relation
between the snapshots before and after; the invariants of runs are derived from
these relations.

* `effect_task`: the task keeps its id; its lifecycle and epoch move as
  `TaskStep` says.
* `effect_agents`: `AgentStep`.
* `effect_terminals`: `TerminalStep`.
* `effect_sessions`: `SessionStep`.
* `effect_browser`: `BrowserStep`.
-/

namespace DevManager

attribute [local grind =] TaskSnapshot.setAgent TaskSnapshot.withLifecycle TaskSnapshot.setResource
  TaskSnapshot.setSession TaskSnapshot.setTerminal registerTerminal resumed
  applyTerminalCwdReported applyTerminalExited applyTerminalActivity

variable [Externals]

/-! ## The task -/

variable (s : TaskSnapshot) (p : Event)

/-- How an event moves the task's lifecycle and epoch. -/
def TaskStep (s' : TaskSnapshot) : Prop :=
  match p with
  | .taskCloseBegun _ =>
    RuntimeCapable s ∧ s'.task.lifecycle = .closing ∧ s'.task.actionEpoch = s.task.actionEpoch + 1
  | .taskSettled =>
    s.task.lifecycle = .opened ∧ s'.task.lifecycle = .settled ∧
      s'.task.actionEpoch = s.task.actionEpoch
  | .taskReopened =>
    (s.task.lifecycle ≠ .opened ∧ s.task.lifecycle ≠ .deleted) ∧ s'.task.lifecycle = .opened ∧
      s'.task.actionEpoch = s.task.actionEpoch
  | .taskArchived =>
    s.task.lifecycle = .closing ∧ s'.task.lifecycle = .archived ∧
      s'.task.actionEpoch = s.task.actionEpoch
  | .taskDeleted =>
    s.task.lifecycle = .archived ∧ s'.task.lifecycle = .deleted ∧
      s'.task.actionEpoch = s.task.actionEpoch
  | .providerInputAccepted _ =>
    (s'.task.lifecycle = s.task.lifecycle ∨
      s.task.lifecycle = .settled ∧ s'.task.lifecycle = .opened) ∧
      s'.task.actionEpoch = s.task.actionEpoch
  | _ => s'.task.lifecycle = s.task.lifecycle ∧ s'.task.actionEpoch = s.task.actionEpoch

variable (t : ℤ)

theorem effect_task :
    Ensures (effect s p t) fun s' =>
      s'.task.id = s.task.id ∧ s'.task.revision = s.task.revision ∧ TaskStep s p s' := by
  intro s' h
  cases p <;> simp only [effect, applyInto, TaskStep, RuntimeCapable] at h ⊢ <;> grind

/-! ## The agents -/

/-- What an event does to the agents and to the choice of the primary. -/
inductive AgentStep (s : TaskSnapshot) : Event → TaskSnapshot → Prop
  | frame {p s'} (hagents : s'.agents = s.agents)
      (hprimary : s'.primaryAgentId = s.primaryAgentId) : AgentStep s p s'
  | registered {agent s'} (htask : agent.taskId = s.task.id) (hrole : agent.role.isPrimary = true)
      (hvalid : agent.validateForRegistration = .ok ()) (hnew : agent.id ∉ s.agents)
      (hagents : s'.agents = s.agents.insert agent.id agent)
      (hprimary : s'.primaryAgentId = s.primaryAgentId) :
      AgentStep s (.agentSessionRegistered agent) s'
  | session {p s' id agent session revision} (hagent : s.agents[id]? = some agent)
      (hagents : s'.agents = s.agents.insert id
        { agent with providerSessionId := session, revision })
      (hprimary : s'.primaryAgentId = s.primaryAgentId) : AgentStep s p s'
  | rebound {s' id kind agent revision} (hdraft : s.isUnstartedDraft = true)
      (hagent : s.agents[id]? = some agent)
      (hagents : s'.agents = s.agents.insert id
        { agent with providerKind := kind, revision })
      (hprimary : s'.primaryAgentId = s.primaryAgentId) :
      AgentStep s (.unstartedPrimaryProviderRebound id kind) s'
  | chosen {s' id agent} (hagent : s.agents[id]? = some agent) (hrole : agent.role.isPrimary = true)
      (hagents : s'.agents = s.agents) (hprimary : s'.primaryAgentId = some id) :
      AgentStep s (.primaryAgentSet id) s'
  | requested {s' fact} (htask : fact.agent.taskId = s.task.id)
      (hrole : fact.agent.role.isPrimary = false)
      (hvalid : fact.agent.validateForRegistration = .ok ()) (hnew : fact.agent.id ∉ s.agents)
      (hprimary : s.primaryAgentId = some fact.requestedBy)
      (hroom : s.topLevelRuntimeCount < defaultMaxTopLevelRuntimes)
      (hagents : s'.agents = s.agents.insert fact.agent.id fact.agent)
      (hprimary' : s'.primaryAgentId = s.primaryAgentId) :
      AgentStep s (.specialistRequested fact) s'
  | promoted {s' previous promoted before after epoch generation} (hne : previous ≠ promoted)
      (hprimary : s.primaryAgentId = some previous)
      (hpre : s.agents[previous]? = some before) (hpost : s.agents[promoted]? = some after)
      (hrole : before.role.isPrimary = true) (hrole' : after.role.isPrimary = false)
      (hopen : before.lifecycle = .opened) (hopen' : after.lifecycle = .opened)
      (hagents : s'.agents =
        (s.agents.insert previous { before with role := .specialist "primary" }).insert promoted
          { after with role := .primary })
      (hprimary' : s'.primaryAgentId = some promoted) :
      AgentStep s (.primaryPromoted previous promoted epoch generation) s'
  | closed {p s' id agent} (hagent : s.agents[id]? = some agent)
      (hrole : agent.role.isPrimary = false) (hopen : agent.lifecycle = .opened)
      (hagents : s'.agents = s.agents.insert id { agent with lifecycle := .closed })
      (hprimary : s'.primaryAgentId = s.primaryAgentId) : AgentStep s p s'

theorem effect_agents :
    Ensures (effect s p t) (AgentStep s p) := by
  intro s' h
  cases p with
  | agentSessionRegistered agent =>
    obtain ⟨htask, hrole, hvalid, hnew, rfl⟩ := applyAgentSessionRegistered_eq_ok.mp h
    exact .registered htask hrole hvalid hnew rfl rfl
  | agentProviderSessionBound id resource session generation =>
    obtain ⟨agent, hagent, -, -, _, -, -, ⟨-, rfl⟩ | ⟨-, rfl⟩⟩ :=
      applyAgentProviderSessionBound_eq_ok.mp h
    · exact .frame rfl rfl
    · exact .session hagent rfl rfl
  | agentProviderSessionAbandoned id session generation =>
    obtain ⟨agent, hagent, -, -, ⟨-, rfl⟩ | ⟨-, rfl⟩⟩ :=
      applyAgentProviderSessionAbandoned_eq_ok.mp h
    · exact .frame rfl rfl
    · exact .session hagent rfl rfl
  | primaryAgentSet id =>
    obtain ⟨agent, hagent, hrole, rfl⟩ := applyPrimaryAgentSet_eq_ok.mp h
    exact .chosen hagent hrole rfl rfl
  | unstartedPrimaryProviderRebound id kind =>
    obtain ⟨hdraft, -, agent, hagent, -, -, -, rfl⟩ :=
      applyUnstartedPrimaryProviderRebound_eq_ok.mp h
    exact .rebound hdraft hagent rfl rfl
  | specialistRequested fact =>
    obtain ⟨⟨-, htask⟩, ⟨-, hrole, -⟩, -, ⟨_, -, -, -, hprimary, -⟩, hroom, -, hvalid, hnew, rfl⟩ :=
      applySpecialistRequested_eq_ok.mp h
    exact .requested htask hrole hvalid hnew hprimary hroom rfl rfl
  | primaryPromoted previous promoted epoch generation =>
    obtain ⟨hne, -, hprimary, before, after, hpre, hpost, ⟨hrole, hopen, -⟩,
      ⟨hrole', hopen', -⟩, rfl⟩ := applyPrimaryPromoted_eq_ok.mp h
    exact .promoted hne hprimary hpre hpost hrole hrole' hopen hopen' rfl rfl
  | specialistHandoffRecorded fact =>
    obtain ⟨-, -, -, -, -, -, -, agent, hagent, ⟨hrole, hopen, -⟩, rfl⟩ :=
      applySpecialistHandoffRecorded_eq_ok.mp h
    exact .closed hagent hrole hopen rfl rfl
  | specialistClosed id epoch generation =>
    obtain ⟨agent, hagent, ⟨hrole, hopen, -, -⟩, rfl⟩ := applySpecialistClosed_eq_ok.mp h
    exact .closed hagent hrole hopen rfl rfl
  | _ =>
    have hframe : s'.agents = s.agents ∧ s'.primaryAgentId = s.primaryAgentId := by
      simp only [effect, applyInto] at h
      grind
    exact .frame hframe.1 hframe.2

/-! ## Resources and terminals -/

/-- What an event does to the resources, the terminal facts and the terminal strip. -/
inductive TerminalStep (s : TaskSnapshot) : Event → TaskSnapshot → Prop
  | frame {p s'} (hresources : s'.resources = s.resources)
      (hfacts : s'.terminalFacts = s.terminalFacts) (hstrip : s'.terminalStrip = s.terminalStrip) :
      TerminalStep s p s'
  | registered {s' resource t} (howner : resource.ownerKind = .task)
      (htask : resource.taskId = some s.task.id) (hvalid : resource.validate = .ok ())
      (hactive : resource.lifecycle = .active) (hnew : resource.id ∉ s.resources)
      (hroom : resource.recipe.isPlainShell = true →
        s.terminalStrip.order.length < maxPlainShellsPerTask)
      (hresources : s'.resources = s.resources.insert resource.id resource)
      (hfacts : s'.terminalFacts = if resource.resourceKind = .terminal then
          s.terminalFacts.insert resource.id
            (TerminalFacts.registered resource.id resource.recipe.title t)
        else s.terminalFacts)
      (hstrip : s'.terminalStrip = if isPlainShellTerminal resource then {
          order := s.terminalStrip.order ++ [resource.id]
          focused := if s.terminalStrip.focused.isNone then some resource.id
            else s.terminalStrip.focused }
        else s.terminalStrip) :
      TerminalStep s (.resourceRegistered resource) s'
  | releaseBegun {s' id generation resource t} (hres : s.resources[id]? = some resource)
      (hactive : resource.lifecycle = .active)
      (hresources : s'.resources = s.resources.insert id
        { resource with lifecycle := .releasing, updatedAtMs := t })
      (hfacts : s'.terminalFacts = s.terminalFacts) (hstrip : s'.terminalStrip = s.terminalStrip) :
      TerminalStep s (.resourceReleaseBegun id generation) s'
  | released {s' id generation resource t} (hres : s.resources[id]? = some resource)
      (hreleasing : resource.lifecycle = .releasing)
      (hresources : s'.resources = s.resources.insert id
        { resource with lifecycle := .released, updatedAtMs := t })
      (hfacts : s'.terminalFacts = s.terminalFacts.erase id)
      (hstrip : s'.terminalStrip = s.terminalStrip.remove id) :
      TerminalStep s (.resourceReleased id generation) s'
  | renamed {s' id title resource facts} (hres : s.resources[id]? = some resource)
      (hshell : resource.recipe.isPlainShell = true) (htitle : validateTerminalTitle title = .ok ())
      (hfound : s.terminalFacts[id]? = some facts)
      (hresources : s'.resources = s.resources.insert id
        { resource with recipe := resource.recipe.withTitle (some title) })
      (hfacts : s'.terminalFacts = s.terminalFacts.insert id { facts with title := some title })
      (hstrip : s'.terminalStrip = s.terminalStrip) :
      TerminalStep s (.terminalRenamed id title) s'
  | reported {p s' id facts facts'} (hfound : s.terminalFacts[id]? = some facts)
      (hfacts : s'.terminalFacts = s.terminalFacts.insert id facts')
      (htitle : facts'.title = facts.title) (hresources : s'.resources = s.resources)
      (hstrip : s'.terminalStrip = s.terminalStrip) : TerminalStep s p s'
  | stripSet {s' strip} (hvalid : strip.validate s.task.id s.resources = .ok ())
      (hresources : s'.resources = s.resources) (hfacts : s'.terminalFacts = s.terminalFacts)
      (hstrip : s'.terminalStrip = strip) : TerminalStep s (.taskTerminalStripSet strip) s'

theorem effect_terminals :
    Ensures (effect s p t) (TerminalStep s p) := by
  intro s' h
  cases p with
  | resourceRegistered resource =>
    obtain ⟨howner, htask, hvalid, hactive, hnew, hroom, rfl⟩ :=
      applyResourceRegistered_eq_ok.mp h
    refine .registered howner htask hvalid hactive hnew hroom (t := t) ?_ ?_ ?_ <;>
      simp only [isPlainShellTerminal, registerTerminal, TaskSnapshot.setResource,
        TaskSnapshot.setTerminal] <;> grind
  | resourceReleaseBegun id generation =>
    obtain ⟨resource, hres, -, hactive, -, rfl⟩ := applyResourceReleaseBegun_eq_ok.mp h
    exact .releaseBegun hres hactive rfl rfl rfl
  | resourceReleased id generation =>
    obtain ⟨resource, hres, -, hreleasing, -, rfl⟩ := applyResourceReleased_eq_ok.mp h
    exact .released hres hreleasing rfl rfl rfl
  | terminalRenamed id title =>
    obtain ⟨resource, hres, hshell, htitle, facts, hfound, rfl⟩ :=
      applyTerminalRenamed_eq_ok.mp h
    exact .renamed hres hshell htitle hfound rfl rfl rfl
  | terminalCwdReported | terminalExited | terminalActivity =>
    obtain ⟨facts, hfound, rfl⟩ := updateTerminal_eq_ok.mp h
    exact .reported hfound rfl rfl rfl rfl
  | taskTerminalStripSet strip =>
    obtain ⟨hvalid, rfl⟩ := applyTaskTerminalStripSet_eq_ok.mp h
    exact .stripSet hvalid rfl rfl rfl
  | _ =>
    have hframe : s'.resources = s.resources ∧ s'.terminalFacts = s.terminalFacts ∧
        s'.terminalStrip = s.terminalStrip := by
      simp only [effect, applyInto] at h
      grind
    exact .frame hframe.1 hframe.2.1 hframe.2.2

/-! ## Provider sessions -/

/-- What an event does to the provider sessions. -/
inductive SessionStep (s : TaskSnapshot) : Event → TaskSnapshot → Prop
  | frame {p s'} (hsessions : s'.providerSessions = s.providerSessions) : SessionStep s p s'
  | registered {s' agent}
      (hsessions : s'.providerSessions = s.providerSessions.insertIfNew agent.id .default) :
      SessionStep s (.agentSessionRegistered agent) s'
  | accepted {s' fact agent t session} (hagent : s.agents[fact.agentSessionId]? = some agent)
      (hformed : (fact.fence s.task.id).WellFormed)
      (hfits : (fact.fence s.task.id).Fits
        (fenceContext s fact.agentSessionId agent (acceptedCurrentTurn s fact) false))
      (hwait : fact.wait = fact.action.waitsForTurn)
      (hacc : acceptIntoSession (s.sessionOf fact.agentSessionId) fact s.task.id t = .ok session)
      (hsessions : s'.providerSessions = s.providerSessions.insert fact.agentSessionId session) :
      SessionStep s (.providerInputAccepted fact) s'
  | question {s' fact agent} (hagent : s.agents[fact.agentSessionId]? = some agent)
      (hfits : (fact.fence s.task.id).Fits
        (fenceContext s fact.agentSessionId agent (currentTurnOf s fact.agentSessionId) false))
      (hnew : fact.questionId ∉ (s.sessionOf fact.agentSessionId).questionWinners)
      (hnone : (s.sessionOf fact.agentSessionId).openQuestion = none)
      (hsessions : s'.providerSessions = s.providerSessions.insert fact.agentSessionId
        { s.sessionOf fact.agentSessionId with
          currentTurn := some fact.turnId
          openQuestion := some fact.questionId }) :
      SessionStep s (.providerQuestionPresented fact) s'
  | approval {s' fact agent} (hagent : s.agents[fact.agentSessionId]? = some agent)
      (hfits : (fact.fence s.task.id).Fits
        (fenceContext s fact.agentSessionId agent (currentTurnOf s fact.agentSessionId) false))
      (hnew : fact.approvalId ∉ (s.sessionOf fact.agentSessionId).approvalWinners)
      (hnone : (s.sessionOf fact.agentSessionId).openApproval = none)
      (hsessions : s'.providerSessions = s.providerSessions.insert fact.agentSessionId
        { s.sessionOf fact.agentSessionId with
          currentTurn := some fact.turnId
          openApproval := some fact.approvalId }) :
      SessionStep s (.providerApprovalPresented fact) s'
  | settled {s' fence session record}
      (hsess : s.providerSessions[fence.agentSessionId]? = some session)
      (hrec : session.waits[fence.commandId]? = some record) (hfence : record.fence = fence)
      (hpend : record.pending = true)
      (hsessions : s'.providerSessions = s.providerSessions.insert fence.agentSessionId
        { session with
          waits := session.waits.insert fence.commandId { record with pending := false } }) :
      SessionStep s (.providerWaitSettled fence) s'
  | delivered {s' fact session settlement}
      (hsess : s.providerSessions[fact.agentSessionId]? = some session)
      (hop : settlement.operationId.isSome = true)
      (hsessions : s'.providerSessions = s.providerSessions.insert fact.agentSessionId
        { session with lastSettlement := some settlement }) :
      SessionStep s (.providerInputDelivered fact) s'

theorem effect_sessions :
    Ensures (effect s p t) (SessionStep s p) := by
  intro s' h
  cases p with
  | agentSessionRegistered agent =>
    obtain ⟨-, -, -, -, rfl⟩ := applyAgentSessionRegistered_eq_ok.mp h
    exact .registered rfl
  | providerInputAccepted fact =>
    obtain ⟨-, ⟨agent, hagent, ⟨hformed, hfits⟩, -, hwait⟩, session, hacc, rfl⟩ :=
      applyProviderInputAccepted_eq_ok.mp h
    refine .accepted hagent hformed hfits hwait hacc ?_
    show (resumed s fact).providerSessions.insert _ _ = _
    unfold resumed
    split_ifs <;> rfl
  | providerQuestionPresented fact =>
    obtain ⟨⟨agent, hagent, -, hfits⟩, hnew, hnone, rfl⟩ :=
      applyProviderQuestionPresented_eq_ok.mp h
    exact .question hagent hfits hnew hnone rfl
  | providerApprovalPresented fact =>
    obtain ⟨⟨agent, hagent, -, hfits⟩, hnew, hnone, rfl⟩ :=
      applyProviderApprovalPresented_eq_ok.mp h
    exact .approval hagent hfits hnew hnone rfl
  | providerWaitSettled fence =>
    obtain ⟨-, session, hsess, record, hrec, hfence, hpend, rfl⟩ :=
      applyProviderWaitSettled_eq_ok.mp h
    exact .settled hsess hrec hfence hpend rfl
  | providerInputDelivered fact =>
    obtain ⟨-, session, hsess, settlement, -, ⟨-, rfl⟩ | ⟨-, -, rfl⟩⟩ :=
      applyProviderInputDelivered_eq_ok.mp h
    · exact .frame rfl
    · exact .delivered hsess (Option.isSome_some) rfl
  | _ =>
    have hframe : s'.providerSessions = s.providerSessions := by
      simp only [effect, applyInto] at h
      grind
    exact .frame hframe

/-! ## The browser -/

/-- What an event does to the browser book. -/
inductive BrowserStep (s : TaskSnapshot) : Event → TaskSnapshot → Prop
  | frame {p s'} (hclose : ∀ epoch, p ≠ .taskCloseBegun epoch) (hreopen : p ≠ .taskReopened)
      (hbrowser : s'.browser = s.browser) : BrowserStep s p s'
  | closed {s' epoch} (hbrowser : s.browser.closeTask s.task.id = .ok s'.browser) :
      BrowserStep s (.taskCloseBegun epoch) s'
  | opened {s'} (hbrowser : s.browser.openTask s.task.id = .ok s'.browser) :
      BrowserStep s .taskReopened s'
  | fact {s' fact} (htask : fact.taskId = s.task.id)
      (hbrowser : s.browser.applyFacts [fact] = .ok s'.browser) :
      BrowserStep s (.browser fact) s'

theorem effect_browser :
    Ensures (effect s p t) (BrowserStep s p) := by
  intro s' h
  cases p with
  | taskCloseBegun epoch =>
    obtain ⟨-, -, -, book, hbook, rfl⟩ := applyTaskCloseBegun_eq_ok.mp h
    exact .closed hbook
  | taskReopened =>
    obtain ⟨-, book, hbook, rfl⟩ := applyTaskReopened_eq_ok.mp h
    exact .opened hbook
  | browser fact =>
    obtain ⟨htask, book, hbook, rfl⟩ := applyBrowserFact_eq_ok.mp h
    exact .fact htask hbook
  | _ =>
    have hframe : s'.browser = s.browser := by
      simp only [effect, applyInto] at h
      grind
    exact .frame (fun _ => by simp) (by simp) hframe

end DevManager
