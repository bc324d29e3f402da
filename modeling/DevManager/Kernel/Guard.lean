import DevManager.Kernel.PlanEffects
import DevManager.Kernel.Run
import DevManager.Kernel.Steps

/-!
# What `decide` guards

`apply` alone admits events that no command leads to. `Guard` is what `decide` has
checked, beyond `apply`'s own checks, when it returns an event; the runs of the
kernel are runs of single events that meet it.

* `decide_cases`: what each command is decided as.
* `decide_decided`: a decided list is empty, one guarded event, or browser facts
  and resource registrations decided while the task was open or settled.
* `guarded_of_visited`: every state of a kernel run is a state of a run of
  guarded events.
* `decide_deleted`: no command is decided once the task is deleted.
-/

namespace DevManager

open Std (ExtTreeSet)
open List

/-- What `decide` has checked of a snapshot when it returns an event. -/
def Guard (s : TaskSnapshot) : Event → Prop
  | .agentSessionRegistered _ =>
    RuntimeCapable s ∧ ∀ (id : AgentSessionId) a, s.agents[id]? = some a → a.role.isPrimary = false
  | .specialistRequested _ | .primaryPromoted .. | .resourceRegistered _ | .browser _ =>
    RuntimeCapable s
  | .taskTerminalStripSet strip => ExtTreeSet.ofList strip.order = occupiedPlainShellIds s
  | _ => True

/-- The events that `decide` returns several of at once. -/
def Event.isBatched : Event → Bool
  | resourceRegistered _ | browser _ => true
  | _ => false

/-- What a decided list looks like. -/
inductive Decided (s : TaskSnapshot) : List Event → Prop
  | none : Decided s []
  | one {p} (hguard : Guard s p) : Decided s [p]
  | batch {events} (hcap : RuntimeCapable s) (hall : ∀ p ∈ events, p.isBatched = true) :
      Decided s events

/-- The facts about the browser of a task. -/
def Event.isBrowserFact : Event → Bool
  | browser _ => true
  | _ => false

section Decide

variable [Externals] {s : TaskSnapshot} {envelope : CommandEnvelope} {operationId : OperationId}
  {events : List Event}

/-- What a command is decided as: nothing, one event, or the facts of browser requests. -/
inductive Decision (s : TaskSnapshot) (envelope : CommandEnvelope) (operationId : OperationId) :
    List Event → Prop
  | none : Decision s envelope operationId []
  | one {p} (hguard : Guard s p) (hlone : (p.isPureSliceDecisionFact && !p.isBrowserFact) = true) :
      Decision s envelope operationId [p]
  | closeBegun (hcap : RuntimeCapable s) (hepoch : s.task.actionEpoch + 1 ≤ u64Max) :
      Decision s envelope operationId [.taskCloseBegun (s.task.actionEpoch + 1)]
  | releaseBegun {id resource} (hget : s.resources[id]? = some resource)
      (howner : resource.ownerKind = .task ∧ resource.taskId = some s.task.id)
      (hactive : resource.lifecycle = .active) :
      Decision s envelope operationId [.resourceReleaseBegun id resource.runtimeGeneration]
  | submitted {intent events}
      (h : decideSubmitProviderInput (some s) envelope operationId intent = .ok events) :
      Decision s envelope operationId events
  | browser {request events} (h : decideBrowser (some s) envelope request = .ok events) :
      Decision s envelope operationId events
  | opened {intent events} (h : decideOpenTaskBrowser (some s) envelope intent = .ok events) :
      Decision s envelope operationId events

theorem decide_cases (h : Command.decide (some s) envelope operationId = .ok events) :
    Addressed s envelope ∧ Decision s envelope operationId events := by
  unfold Command.decide at h
  cases hc : envelope.command <;> simp only [hc, reduceCtorEq] at h
  case createTask intent =>
    simp only [decideCreateTask, Option.isSome_some, ok_iff, not_true_eq_false, false_and,
      exists_false] at h
  case renameTask title =>
    obtain ⟨haddr, -, -, _, -, rfl⟩ := decideRenameTask_eq_ok.mp h
    exact ⟨haddr, .one trivial rfl⟩
  case setTaskAttention attention =>
    obtain ⟨haddr, -, rfl⟩ := decideSetTaskAttention_eq_ok.mp h
    exact ⟨haddr, .one trivial rfl⟩
  case settleTask =>
    obtain ⟨haddr, ⟨-, rfl⟩ | ⟨-, rfl⟩⟩ := decideSettleTask_eq_ok.mp h
    · exact ⟨haddr, .one trivial rfl⟩
    · exact ⟨haddr, .none⟩
  case beginCloseTask =>
    obtain ⟨haddr, ⟨-, rfl⟩ | ⟨hcap, hepoch, rfl⟩⟩ := decideBeginClose_eq_ok.mp h
    · exact ⟨haddr, .none⟩
    · exact ⟨haddr, .closeBegun hcap hepoch⟩
  case reopenTask =>
    obtain ⟨haddr, -, -, rfl⟩ := decideReopenTask_eq_ok.mp h
    exact ⟨haddr, .one trivial rfl⟩
  case deleteTask =>
    obtain ⟨haddr, -, rfl⟩ := decideDeleteTask_eq_ok.mp h
    exact ⟨haddr, .one trivial rfl⟩
  case registerAgentSession agent =>
    obtain ⟨haddr, hcap, -, -, -, -, hnone, rfl⟩ := decideRegisterAgentSession_eq_ok.mp h
    exact ⟨haddr, .one ⟨hcap, hnone⟩ rfl⟩
  case bindProviderSession id resource session generation =>
    obtain ⟨haddr, -, _, -, -, -, _, -, _, -, -, -, rfl⟩ := decideBindProviderSession_eq_ok.mp h
    exact ⟨haddr, .one trivial rfl⟩
  case abandonProviderSession id session generation =>
    obtain ⟨haddr, -, _, -, -, -, -, rfl⟩ := decideAbandonProviderSession_eq_ok.mp h
    exact ⟨haddr, .one trivial rfl⟩
  case setPrimaryAgent id =>
    obtain ⟨haddr, -, _, -, -, rfl⟩ := decideSetPrimaryAgent_eq_ok.mp h
    exact ⟨haddr, .one trivial rfl⟩
  case rebindUnstartedPrimaryProvider id kind =>
    obtain ⟨haddr, -, -, -, _, -, -, rfl⟩ := decideRebindUnstartedPrimaryProvider_eq_ok.mp h
    split_ifs
    · exact ⟨haddr, .none⟩
    · exact ⟨haddr, .one trivial rfl⟩
  case registerArtifact artifact =>
    obtain ⟨haddr, -, -, -, -, rfl⟩ := decideRegisterArtifact_eq_ok.mp h
    exact ⟨haddr, .one trivial rfl⟩
  case registerResource resource =>
    obtain ⟨haddr, hcap, -, -, -, -, -, rfl⟩ := decideRegisterResource_eq_ok.mp h
    exact ⟨haddr, .one hcap rfl⟩
  case releaseResource id =>
    obtain ⟨haddr, -, resource, hget, howner, ⟨hactive, rfl⟩ | ⟨-, rfl⟩⟩ :=
      decideReleaseResource_eq_ok.mp h
    · exact ⟨haddr, .releaseBegun hget howner hactive⟩
    · exact ⟨haddr, .none⟩
  case submitProviderInput intent => exact ⟨(decideSubmitProviderInput_eq_ok.mp h).1, .submitted h⟩
  case presentProviderQuestion intent =>
    obtain ⟨haddr, -, _, -, -, _, -, -, -, -, -, rfl⟩ := decidePresentProviderQuestion_eq_ok.mp h
    exact ⟨haddr, .one trivial rfl⟩
  case presentProviderApproval intent =>
    obtain ⟨haddr, -, _, -, -, _, -, -, -, -, -, rfl⟩ := decidePresentProviderApproval_eq_ok.mp h
    exact ⟨haddr, .one trivial rfl⟩
  case settleProviderWait fence =>
    obtain ⟨haddr, -, -, -, _, -, _, -, -, _, -, -, -, -, -, rfl⟩ :=
      decideSettleProviderWait_eq_ok.mp h
    exact ⟨haddr, .one trivial rfl⟩
  case requestSpecialist intent =>
    obtain ⟨haddr, hcap, _, -, rfl⟩ := decideRequestSpecialist_ok h
    exact ⟨haddr, .one hcap rfl⟩
  case promotePrimary intent =>
    obtain ⟨haddr, hcap, _, -, -, _, -, _, -, -, rfl⟩ := decidePromotePrimary_eq_ok.mp h
    exact ⟨haddr, .one hcap rfl⟩
  case cancelSpecialist intent =>
    obtain ⟨haddr, -, _, -, -, -, rfl⟩ := decideCancelSpecialist_eq_ok.mp h
    exact ⟨haddr, .one trivial rfl⟩
  case acceptSpecialistHandoff intent =>
    obtain ⟨haddr, -, _, rfl, -⟩ := decideAcceptSpecialistHandoff_ok h
    exact ⟨haddr, .one trivial rfl⟩
  case browser request => exact ⟨(decideBrowser_eq_ok.mp h).1, .browser h⟩
  case openTaskBrowser intent => exact ⟨(decideOpenTaskBrowser_ok h).1, .opened h⟩
  case openShellTerminal resource =>
    obtain ⟨haddr, hcap, -, -, -, -, -, rfl⟩ := decideOpenShellTerminal_eq_ok.mp h
    exact ⟨haddr, .one hcap rfl⟩
  case closeTerminal id =>
    obtain ⟨haddr, -, _, hshell, hactive, rfl⟩ := decideCloseTerminal_eq_ok.mp h
    obtain ⟨hget, howner, -, -⟩ := requireTaskPlainShell_eq_ok.mp hshell
    exact ⟨haddr, .releaseBegun hget howner hactive⟩
  case renameTerminal id title =>
    obtain ⟨haddr, -, -, -, rfl⟩ := decideRenameTerminal_eq_ok.mp h
    exact ⟨haddr, .one trivial rfl⟩
  case setTerminalStrip strip =>
    obtain ⟨haddr, -, -, hset, rfl⟩ := decideSetTerminalStrip_eq_ok.mp h
    exact ⟨haddr, .one hset rfl⟩

theorem decide_decided (h : Command.decide (some s) envelope operationId = .ok events) :
    Decided s events := by
  cases (decide_cases h).2 with
  | none => exact .none
  | one hguard => exact .one hguard
  | closeBegun | releaseBegun => exact .one trivial
  | submitted h =>
    obtain ⟨-, -, -, _, -, -, -, -, -, -, -, -, rfl⟩ := decideSubmitProviderInput_eq_ok.mp h
    exact .one trivial
  | browser h =>
    obtain ⟨-, hcap, -, _, -, rfl⟩ := decideBrowser_eq_ok.mp h
    refine .batch hcap fun p hp => ?_
    obtain ⟨fact, -, rfl⟩ := mem_map.mp hp
    rfl
  | opened h =>
    obtain ⟨-, hcap, facts, rfl⟩ := decideOpenTaskBrowser_ok h
    refine .batch hcap fun p hp => ?_
    rcases mem_append.mp hp with hp | hp
    · obtain ⟨fact, -, rfl⟩ := mem_map.mp hp
      rfl
    · rw [mem_singleton.mp hp]
      rfl

/-- Browser facts are decided of browser commands only. -/
theorem decide_browser_fact (h : Command.decide (some s) envelope operationId = .ok events)
    {fact} (hfact : Event.browser fact ∈ events) :
    (∃ request, decideBrowser (some s) envelope request = .ok events) ∨
      ∃ intent, decideOpenTaskBrowser (some s) envelope intent = .ok events := by
  cases (decide_cases h).2 with
  | browser h => exact .inl ⟨_, h⟩
  | opened h => exact .inr ⟨_, h⟩
  | none => cases hfact
  | one _ hlone =>
    rw [← mem_singleton.mp hfact] at hlone
    simp [Event.isBrowserFact] at hlone
  | closeBegun | releaseBegun => cases mem_singleton.mp hfact
  | submitted h =>
    obtain ⟨-, -, -, _, -, -, -, -, -, -, -, -, rfl⟩ := decideSubmitProviderInput_eq_ok.mp h
    cases mem_singleton.mp hfact

theorem decide_deleted (hdel : s.task.lifecycle = .deleted) :
    Command.decide (some s) envelope operationId ≠ .ok events := by
  intro h
  unfold Command.decide at h
  cases hc : envelope.command <;> simp only [hc, reduceCtorEq] at h
  case createTask intent =>
    simp only [decideCreateTask, Option.isSome_some, ok_iff, not_true_eq_false, false_and,
      exists_false] at h
  all_goals grind [OpenOrClosing, RuntimeCapable]

/-! ## Kernel runs are guarded runs -/

/-- Runs of single accepted events that `decide` has guarded. -/
def guarded : Machine TaskSnapshot := eventMachine Guard

omit [Externals] in
theorem guard_of_isHostFact {p} (h : p.isHostFact = true) : Guard s p := by
  cases p <;> trivial

omit [Externals] in
theorem guard_of_isBatched {p} (h : p.isBatched = true) (hcap : RuntimeCapable s) :
    Guard s p := by
  cases p <;> first | exact hcap | cases h

theorem runtimeCapable_of_isBatched {p} {t : ℤ} (h : p.isBatched = true)
    (hcap : RuntimeCapable s) : Ensures (effect s p t) RuntimeCapable := by
  intro s' heff
  obtain ⟨-, -, hstep⟩ := effect_task s p t s' heff
  have hlife : s'.task.lifecycle = s.task.lifecycle := by
    cases p <;> first | exact hstep.1 | cases h
  unfold RuntimeCapable
  rw [hlife]
  exact hcap

variable {s' : TaskSnapshot}

theorem guarded_step {stamp p} (hguard : Guard s p)
    (h : applyStamped s (stamp, p) = .ok s') : guarded.step s s' :=
  ⟨stampEvent s stamp p, hguard, h⟩

theorem guarded_run_of_batch {batch} :
    ∀ {s s' : TaskSnapshot}, RuntimeCapable s → (∀ e ∈ batch, e.2.isBatched = true) →
      applyBatch s batch = .ok s' → guarded.Run s s' := by
  induction batch with
  | nil =>
    intro s s' _ _ h
    cases h
    exact .refl
  | cons e batch ih =>
    intro s s' hcap hall h
    obtain ⟨stamp, p⟩ := e
    obtain ⟨mid, hfst, hrest⟩ := foldlM_cons_ok.mp h
    have hp : p.isBatched = true := hall (stamp, p) (.head _)
    have hmid : RuntimeCapable mid := by
      obtain ⟨-, m, hm, rfl⟩ := applyStamped_eq_ok.mp hfst
      have hm := runtimeCapable_of_isBatched hp hcap m hm
      unfold bumped
      split_ifs <;> exact hm
    have htail : guarded.Run mid s' :=
      ih hmid (fun e he => hall e (.tail _ he)) hrest
    exact .head (guarded_step (guard_of_isBatched hp hcap) hfst) htail

theorem guarded_run_of_visitedStep (h : VisitedStep s s') :
    guarded.Run s s' := by
  cases h with
  | host hfact happly => exact .single ⟨_, guard_of_isHostFact hfact, happly⟩
  | @decided envelope operationId batch rest hdec hbatch =>
    generalize hevents : batch.map Prod.snd ++ rest = events at hdec
    cases decide_decided hdec with
    | none =>
      obtain ⟨hnil, -⟩ := append_eq_nil_iff.mp hevents
      rw [map_eq_nil_iff.mp hnil] at hbatch
      cases hbatch
      exact .refl
    | @one p hguard =>
      rcases append_eq_singleton_iff.mp hevents with ⟨hnil, -⟩ | ⟨hone, -⟩
      · rw [map_eq_nil_iff.mp hnil] at hbatch
        cases hbatch
        exact .refl
      · obtain ⟨⟨stamp, q⟩, rfl, hq⟩ := map_eq_singleton_iff.mp hone
        cases hq
        exact .single (guarded_step hguard (applyBatch_singleton.mp hbatch))
    | batch hcap hall =>
      refine guarded_run_of_batch hcap (fun e he => hall e.2 ?_) hbatch
      rw [← hevents]
      exact mem_append_left _ (mem_map_of_mem he)

theorem guarded_of_visited (h : visited.Reachable s) : guarded.Reachable s :=
  h.simulate (fun _ hs => hs) fun _ _ _ hstep => guarded_run_of_visitedStep hstep

theorem guarded_run_of_visited (h : visited.Run s s') : guarded.Run s s' := by
  induction h with
  | refl => exact .refl
  | tail _ hstep ih => exact ih.trans (guarded_run_of_visitedStep hstep)

end Decide

end DevManager
