import DevManager.Domain.CommandSpec
import DevManager.Kernel.Outbox

/-!
# Planning the effects of a decision (`src/kernel/outbox.rs`, `src/kernel/lineage.rs`)

An accepted command is settled at once when its decision facts are pure, and waits for
an effect when they are not. Two predicates sort the events, one for the planner and
one for the check of a stored settlement, and `plan_effects` sorts them a third time.

* `planEffects_eq_ok`: what the planner accepts, all pure facts or one side effect.
-/

namespace DevManager

open List

/-! ## Sorting events -/

/-- `browser_fact_requires_host_settlement`, L251-256 -/
def browserFactRequiresHostSettlement : BrowserDurableFact → Bool
  | .requestAccepted fact => fact.action.requiresHostSettlement
  | _ => false

namespace Event

/-- `is_pure_slice_decision_fact`, L184-237 -/
def isPureSliceDecisionFact : Event → Bool
  | taskCreated .. | taskRenamed _ | taskAttentionSet _ | taskSettled | taskReopened
  | taskArchived | taskDeleted | agentSessionRegistered _ | agentProviderSessionBound ..
  | agentProviderSessionAbandoned .. | primaryAgentSet _ | unstartedPrimaryProviderRebound ..
  | specialistRequested _ | primaryPromoted .. | specialistHandoffRecorded _ | specialistClosed ..
  | artifactRegistered _ | resourceRegistered _ | resourceReleased ..
  | providerQuestionPresented _ | providerApprovalPresented _ | providerWaitSettled _
  | terminalRenamed .. | taskTerminalStripSet _ => true
  | browser fact => !browserFactRequiresHostSettlement fact
  | purged | taskCloseBegun _ | resourceReleaseBegun .. | providerInputAccepted _
  | operationAccepted _ | operationSettled _ | operationFailed _ | operationCancelled _
  | operationUncertain _ | providerInputDelivered _ | hostCloseBegun ..
  | hostCleanupBranchCompleted .. | terminalCwdReported .. | terminalExited ..
  | terminalActivity _ => false

/-- `is_side_effect_decision_fact`, L241-249 -/
def isSideEffectDecisionFact : Event → Bool
  | taskCloseBegun _ | resourceReleaseBegun .. | providerInputAccepted _ => true
  | browser fact => browserFactRequiresHostSettlement fact
  | _ => false

/-- `is_pure_decision_fact` (`lineage.rs:541-574`): a browser fact is pure whatever it asks. -/
def isPureDecisionFact : Event → Bool
  | taskCreated .. | taskRenamed _ | taskAttentionSet _ | taskSettled | taskReopened
  | taskArchived | taskDeleted | agentSessionRegistered _ | agentProviderSessionBound ..
  | agentProviderSessionAbandoned .. | primaryAgentSet _ | unstartedPrimaryProviderRebound ..
  | specialistRequested _ | primaryPromoted .. | specialistHandoffRecorded _ | specialistClosed ..
  | artifactRegistered _ | resourceRegistered _ | resourceReleased ..
  | providerQuestionPresented _ | providerApprovalPresented _ | providerWaitSettled _
  | terminalRenamed .. | taskTerminalStripSet _ | browser _ => true
  | _ => false

end Event

/-! ## The planner -/

/-- The locals of `plan_effects` (L263-265). -/
structure EffectPlan where
  planned : List PlannedEffect
  effectFactCount : ℕ
  pureFactCount : ℕ

namespace EffectPlan

def start : EffectPlan := ⟨[], 0, 0⟩

variable (plan : EffectPlan)

/-- `effect_fact_count.checked_add(1).ok_or(StoreError::Corruption)?`. -/
def countEffect : Except DispatchError EffectPlan := do
  let count ← okOr (checkedAdd plan.effectFactCount 1) .corruption
  pure { plan with effectFactCount := count }

/-- `pure_fact_count.checked_add(1).ok_or(StoreError::Corruption)?`. -/
def countPure : Except DispatchError EffectPlan := do
  let count ← okOr (checkedAdd plan.pureFactCount 1) .corruption
  pure { plan with pureFactCount := count }

/-- `planned.push(..)`. -/
def push (effect : Effect) : EffectPlan :=
  { plan with planned := plan.planned ++ [effect.planned] }

end EffectPlan

/-- The effect of an accepted provider input (L412-427). -/
def ProviderInputAcceptedFact.delivered (fact : ProviderInputAcceptedFact) (taskId : TaskId) :
    ProviderInputDelivery :=
  { fact with taskId }

section Plan

variable (snapshot : Option TaskSnapshot) (taskId : TaskId)

/-- The `TaskCloseBegun` arm (L269-319). -/
def planTaskTeardown (actionEpoch : ℕ) : Except DispatchError Effect := do
  let snap ← okOr snapshot (.projection "task teardown planning requires a pre-command snapshot")
  failIf (snap.task.id ≠ taskId) (.projection "task teardown planning task scope mismatch")
  failIf (¬ (snap.task.lifecycle = .opened ∨ snap.task.lifecycle = .settled))
    (.projection "task teardown planning requires Open or Settled lifecycle")
  let expectedEpoch ← okOr (checkedAdd snap.task.actionEpoch 1)
    (.projection "task teardown planning action_epoch overflow")
  failIf (actionEpoch ≠ expectedEpoch)
    (.projection "task teardown planning action_epoch must be snapshot.action_epoch + 1")
  pure (.beginTaskTeardown taskId actionEpoch)

/-- The `ResourceReleaseBegun` arm (L320-367). -/
def planResourceRelease (resourceId : ResourceId) (runtimeGeneration : ℕ) :
    Except DispatchError Effect := do
  let snap ← okOr snapshot (.projection "resource release planning requires a pre-command snapshot")
  failIf (snap.task.id ≠ taskId) (.projection "resource release planning task scope mismatch")
  let resource ← okOr snap.resources[resourceId]?
    (.projection "resource release planning missing pre-command resource")
  failIf (resource.ownerKind ≠ .task ∨ resource.taskId ≠ some taskId ∨
    resource.lifecycle ≠ .active ∨ resource.runtimeGeneration ≠ runtimeGeneration)
    (.projection
      "resource release planning requires task-owned Active resource with exact generation")
  pure (.releaseResource taskId snap.task.actionEpoch ⟨resourceId, runtimeGeneration⟩)

/-- The `ProviderInputAccepted` arm (L368-440). -/
def planProviderInput (fact : ProviderInputAcceptedFact) : Except DispatchError Effect := do
  let snap ← okOr snapshot (.projection "provider input planning requires a pre-command snapshot")
  failIf (snap.task.id ≠ taskId) (.projection "provider input planning task scope mismatch")
  let agent ← okOr snap.agents[fact.agentSessionId]?
    (.projection "provider input planning missing agent session")
  failIf (agent.providerSessionId ≠ fact.providerSessionId ∨
    agent.providerKind ≠ fact.providerKind ∨ agent.runtimeGeneration ≠ fact.runtimeGeneration)
    (.projection "provider input planning provider identity mismatch")
  pure (.deliverProviderInput (fact.delivered taskId))

/-- The checks of the `RequestAccepted` arm (L442-461), and its effect. -/
def planBrowserHold (fact : RequestAcceptedFact) : Except DispatchError Effect := do
  failIf (fact.taskId ≠ taskId) (.projection "browser host HOLD task scope mismatch")
  failIf (fact.generation = 0) (.projection "browser host HOLD generation must be nonzero")
  pure (.holdBrowserHost taskId fact.actionEpoch fact.requestId fact.contextId fact.generation
    .webViewSurfaceAbsent)

/-- One round of the loop (L267-543). -/
def planEvent (plan : EffectPlan) : Event → Except DispatchError EffectPlan
  | .taskCloseBegun actionEpoch => do
    let plan ← plan.countEffect
    let effect ← planTaskTeardown snapshot taskId actionEpoch
    pure (plan.push effect)
  | .resourceReleaseBegun resourceId runtimeGeneration => do
    let plan ← plan.countEffect
    let effect ← planResourceRelease snapshot taskId resourceId runtimeGeneration
    pure (plan.push effect)
  | .providerInputAccepted fact => do
    let plan ← plan.countEffect
    let effect ← planProviderInput snapshot taskId fact
    pure (plan.push effect)
  | .browser (.requestAccepted fact) =>
    if fact.action.requiresHostSettlement then do
      let effect ← planBrowserHold taskId fact
      let plan ← plan.countEffect
      pure (plan.push effect)
    else plan.countPure
  | .browser _ | .taskCreated .. | .taskRenamed _ | .taskAttentionSet _ | .taskSettled
  | .taskReopened | .taskArchived | .taskDeleted | .agentSessionRegistered _
  | .agentProviderSessionBound .. | .agentProviderSessionAbandoned .. | .primaryAgentSet _
  | .unstartedPrimaryProviderRebound .. | .specialistRequested _ | .primaryPromoted ..
  | .specialistHandoffRecorded _ | .specialistClosed .. | .artifactRegistered _
  | .resourceRegistered _ | .resourceReleased .. | .providerQuestionPresented _
  | .providerApprovalPresented _ | .providerWaitSettled _ | .terminalRenamed ..
  | .taskTerminalStripSet _ => plan.countPure
  | .operationAccepted _ | .operationSettled _ | .operationFailed _ | .operationCancelled _
  | .operationUncertain _ | .providerInputDelivered _ | .hostCloseBegun ..
  | .hostCleanupBranchCompleted .. | .terminalCwdReported .. | .terminalExited ..
  | .terminalActivity _ =>
    .error (.projection "operation outcome facts are not decision inputs for effect planning")
  | .purged => .error (.projection "event.purged is a redacted row, never a decision fact")

/-- `plan_effects`, L258-575 -/
def planEffects (decision : List Event) : Except DispatchError (List PlannedEffect) := do
  let plan ← decision.foldlM (planEvent snapshot taskId) .start
  failIf (plan.effectFactCount > 0 ∧ plan.pureFactCount > 0)
    (.projection "mixed pure and side-effect decision facts cannot be planned together")
  failIf (plan.effectFactCount > 1)
    (.projection "current side-effect commands plan exactly one decision fact")
  failIf (plan.effectFactCount ≠ plan.planned.length)
    (.projection "planner dropped a required side-effect decision fact")
  failIf (plan.planned.length > 1)
    (.projection "current side-effect commands emit exactly one planned effect")
  failIf (∃ first ∈ plan.planned.head?, ∃ effect ∈ plan.planned.tail, effect.fence ≠ first.fence)
    (.projection "planned effects disagree on accepted operation fence")
  pure plan.planned

end Plan

/-! ## What an event plans -/

/-- The effect that an event plans, with what the planner has checked of the snapshot. -/
inductive HasEffect (snapshot : Option TaskSnapshot) (taskId : TaskId) : Event → Effect → Prop
  | teardown {snap} (hsnap : snapshot = some snap) (htask : snap.task.id = taskId)
      (hlife : RuntimeCapable snap) (hepoch : snap.task.actionEpoch + 1 ≤ u64Max) :
      HasEffect snapshot taskId (.taskCloseBegun (snap.task.actionEpoch + 1))
        (.beginTaskTeardown taskId (snap.task.actionEpoch + 1))
  | release {snap resourceId resource} (hsnap : snapshot = some snap)
      (htask : snap.task.id = taskId) (hres : snap.resources[resourceId]? = some resource)
      (howner : resource.ownerKind = .task) (hscope : resource.taskId = some taskId)
      (hactive : resource.lifecycle = .active) :
      HasEffect snapshot taskId (.resourceReleaseBegun resourceId resource.runtimeGeneration)
        (.releaseResource taskId snap.task.actionEpoch ⟨resourceId, resource.runtimeGeneration⟩)
  | deliver {snap agent} {fact : ProviderInputAcceptedFact} (hsnap : snapshot = some snap)
      (htask : snap.task.id = taskId) (hagent : snap.agents[fact.agentSessionId]? = some agent)
      (hsess : agent.providerSessionId = fact.providerSessionId)
      (hkind : agent.providerKind = fact.providerKind)
      (hgen : agent.runtimeGeneration = fact.runtimeGeneration) :
      HasEffect snapshot taskId (.providerInputAccepted fact)
        (.deliverProviderInput (fact.delivered taskId))
  | hold {fact : RequestAcceptedFact} (hsettle : fact.action.requiresHostSettlement = true)
      (htask : fact.taskId = taskId) (hgen : fact.generation ≠ 0) :
      HasEffect snapshot taskId (.browser (.requestAccepted fact))
        (.holdBrowserHost taskId fact.actionEpoch fact.requestId fact.contextId fact.generation
          .webViewSurfaceAbsent)

section Spec

variable {snapshot : Option TaskSnapshot} {taskId : TaskId} {plan plan' : EffectPlan} {e : Event}
  {effect : Effect} {events : List Event} {planned : List PlannedEffect}

theorem HasEffect.isSideEffect (h : HasEffect snapshot taskId e effect) :
    e.isSideEffectDecisionFact = true := by
  cases h with
  | teardown => rfl
  | release => rfl
  | deliver => rfl
  | hold hsettle => exact hsettle

theorem isPure_of_isSideEffect (h : e.isSideEffectDecisionFact = true) :
    e.isPureSliceDecisionFact = false := by
  cases e with
  | browser fact =>
    have hsettle : browserFactRequiresHostSettlement fact = true := h
    show (!browserFactRequiresHostSettlement fact) = false
    rw [hsettle]
    rfl
  | taskCloseBegun => rfl
  | resourceReleaseBegun => rfl
  | providerInputAccepted => rfl
  | _ => cases h

theorem planTaskTeardown_eq_ok {actionEpoch : ℕ} :
    planTaskTeardown snapshot taskId actionEpoch = .ok effect ↔
      HasEffect snapshot taskId (.taskCloseBegun actionEpoch) effect := by
  unfold planTaskTeardown
  simp only [ok_iff, checkedAdd_eq_some]
  constructor
  · rintro ⟨snap, hsnap, htask, hlife, _, ⟨hepoch, rfl⟩, rfl, rfl⟩
    exact .teardown hsnap htask hlife hepoch
  · intro h
    cases h with
    | teardown hsnap htask hlife hepoch =>
      exact ⟨_, hsnap, htask, hlife, _, ⟨hepoch, rfl⟩, rfl, rfl⟩

theorem planResourceRelease_eq_ok {resourceId} {runtimeGeneration : ℕ} :
    planResourceRelease snapshot taskId resourceId runtimeGeneration = .ok effect ↔
      HasEffect snapshot taskId (.resourceReleaseBegun resourceId runtimeGeneration) effect := by
  unfold planResourceRelease
  simp only [ok_iff, not_or]
  constructor
  · rintro ⟨snap, hsnap, htask, resource, hres, ⟨howner, hscope, hactive, rfl⟩, rfl⟩
    exact .release hsnap htask hres howner hscope hactive
  · intro h
    cases h with
    | release hsnap htask hres howner hscope hactive =>
      exact ⟨_, hsnap, htask, _, hres, ⟨howner, hscope, hactive, rfl⟩, rfl⟩

theorem planProviderInput_eq_ok {fact} :
    planProviderInput snapshot taskId fact = .ok effect ↔
      HasEffect snapshot taskId (.providerInputAccepted fact) effect := by
  unfold planProviderInput
  simp only [ok_iff, not_or]
  constructor
  · rintro ⟨snap, hsnap, htask, agent, hagent, ⟨hsess, hkind, hgen⟩, rfl⟩
    exact .deliver hsnap htask hagent hsess hkind hgen
  · intro h
    cases h with
    | deliver hsnap htask hagent hsess hkind hgen =>
      exact ⟨_, hsnap, htask, _, hagent, ⟨hsess, hkind, hgen⟩, rfl⟩

theorem planBrowserHold_eq_ok {fact} (hsettle : fact.action.requiresHostSettlement = true) :
    planBrowserHold taskId fact = .ok effect ↔
      HasEffect snapshot taskId (.browser (.requestAccepted fact)) effect := by
  unfold planBrowserHold
  simp only [ok_iff]
  constructor
  · rintro ⟨htask, hgen, rfl⟩
    exact .hold hsettle htask hgen
  · intro h
    cases h with
    | hold _ htask hgen => exact ⟨htask, hgen, rfl⟩

/-! ## One round -/

/-- A round that plans nothing. -/
def EffectPlan.withPure (plan : EffectPlan) : EffectPlan :=
  { plan with pureFactCount := plan.pureFactCount + 1 }

/-- A round that plans an effect. -/
def EffectPlan.withEffect (plan : EffectPlan) (effect : Effect) : EffectPlan where
  planned := plan.planned ++ [effect.planned]
  effectFactCount := plan.effectFactCount + 1
  pureFactCount := plan.pureFactCount

@[simp] theorem withPure_pureFactCount : plan.withPure.pureFactCount = plan.pureFactCount + 1 := rfl

@[simp] theorem withEffect_effectFactCount :
    (plan.withEffect effect).effectFactCount = plan.effectFactCount + 1 := rfl

@[simp] theorem withEffect_planned :
    (plan.withEffect effect).planned = plan.planned ++ [effect.planned] := rfl

theorem countPure_eq_ok :
    plan.countPure = .ok plan' ↔ plan.pureFactCount + 1 ≤ u64Max ∧ plan' = plan.withPure := by
  unfold EffectPlan.countPure EffectPlan.withPure
  simp only [ok_iff, checkedAdd_eq_some]
  constructor
  · rintro ⟨_, ⟨hbound, rfl⟩, rfl⟩
    exact ⟨hbound, rfl⟩
  · rintro ⟨hbound, rfl⟩
    exact ⟨_, ⟨hbound, rfl⟩, rfl⟩

theorem countEffect_bind_eq_ok {body} : (do
      let plan ← plan.countEffect
      let effect ← body
      pure (plan.push effect)) = .ok plan' ↔
      plan.effectFactCount + 1 ≤ u64Max ∧
        ∃ effect, body = .ok effect ∧ plan' = plan.withEffect effect := by
  unfold EffectPlan.countEffect EffectPlan.withEffect EffectPlan.push
  simp only [ok_iff, checkedAdd_eq_some]
  constructor
  · rintro ⟨_, ⟨_, ⟨hbound, rfl⟩, rfl⟩, effect, hbody, rfl⟩
    exact ⟨hbound, effect, hbody, rfl⟩
  · rintro ⟨hbound, effect, hbody, rfl⟩
    exact ⟨_, ⟨_, ⟨hbound, rfl⟩, rfl⟩, effect, hbody, rfl⟩

theorem planBrowserHold_bind_eq_ok {fact} (hsettle : fact.action.requiresHostSettlement = true) :
    (do
      let effect ← planBrowserHold taskId fact
      let plan ← plan.countEffect
      pure (plan.push effect)) = .ok plan' ↔
      plan.effectFactCount + 1 ≤ u64Max ∧
        ∃ effect, HasEffect snapshot taskId (.browser (.requestAccepted fact)) effect ∧
          plan' = plan.withEffect effect := by
  unfold EffectPlan.countEffect EffectPlan.withEffect EffectPlan.push
  simp only [ok_iff, checkedAdd_eq_some]
  constructor
  · rintro ⟨effect, heff, _, ⟨_, ⟨hbound, rfl⟩, rfl⟩, rfl⟩
    exact ⟨hbound, effect, (planBrowserHold_eq_ok hsettle).mp heff, rfl⟩
  · rintro ⟨hbound, effect, heff, rfl⟩
    exact ⟨effect, (planBrowserHold_eq_ok hsettle).mpr heff, _, ⟨_, ⟨hbound, rfl⟩, rfl⟩, rfl⟩

theorem planEvent_of_isPure (h : e.isPureSliceDecisionFact = true) :
    planEvent snapshot taskId plan e = plan.countPure := by
  cases e with
  | browser fact =>
    cases fact with
    | requestAccepted fact =>
      have hsettle : fact.action.requiresHostSettlement = false := by
        simpa [Event.isPureSliceDecisionFact, browserFactRequiresHostSettlement] using h
      rw [planEvent, if_neg (by rw [hsettle]; exact Bool.false_ne_true)]
    | _ => rfl
  | _ => first | rfl | cases h

theorem planEvent_of_isSideEffect (h : e.isSideEffectDecisionFact = true) :
    planEvent snapshot taskId plan e = .ok plan' ↔
      plan.effectFactCount + 1 ≤ u64Max ∧
        ∃ effect, HasEffect snapshot taskId e effect ∧ plan' = plan.withEffect effect := by
  cases e with
  | taskCloseBegun actionEpoch =>
    rw [planEvent, countEffect_bind_eq_ok]
    simp only [planTaskTeardown_eq_ok]
  | resourceReleaseBegun resourceId runtimeGeneration =>
    rw [planEvent, countEffect_bind_eq_ok]
    simp only [planResourceRelease_eq_ok]
  | providerInputAccepted fact =>
    rw [planEvent, countEffect_bind_eq_ok]
    simp only [planProviderInput_eq_ok]
  | browser fact =>
    cases fact with
    | requestAccepted fact =>
      have hsettle : fact.action.requiresHostSettlement = true := h
      rw [planEvent, if_pos hsettle, planBrowserHold_bind_eq_ok hsettle]
    | _ => cases h
  | _ => cases h

theorem planEvent_of_neither (hpure : e.isPureSliceDecisionFact = false)
    (hside : e.isSideEffectDecisionFact = false) :
    planEvent snapshot taskId plan e ≠ .ok plan' := by
  intro h
  cases e with
  | browser fact =>
    have hsettle : (!browserFactRequiresHostSettlement fact) = false := hpure
    rw [show browserFactRequiresHostSettlement fact = false from hside] at hsettle
    cases hsettle
  | _ => first | exact Bool.noConfusion hpure | exact Bool.noConfusion hside | cases h

theorem planEvent_eq_ok : planEvent snapshot taskId plan e = .ok plan' ↔
    e.isPureSliceDecisionFact = true ∧ plan.pureFactCount + 1 ≤ u64Max ∧ plan' = plan.withPure ∨
      plan.effectFactCount + 1 ≤ u64Max ∧
        ∃ effect, HasEffect snapshot taskId e effect ∧ plan' = plan.withEffect effect := by
  cases hpure : e.isPureSliceDecisionFact with
  | true =>
    have hnone : ∀ effect, ¬ HasEffect snapshot taskId e effect := by
      intro effect heff
      rw [isPure_of_isSideEffect heff.isSideEffect] at hpure
      cases hpure
    simp [planEvent_of_isPure hpure, countPure_eq_ok, hnone]
  | false =>
    cases hside : e.isSideEffectDecisionFact with
    | true => simp [planEvent_of_isSideEffect hside]
    | false =>
      have hnone : ∀ effect, ¬ HasEffect snapshot taskId e effect := by
        intro effect heff
        rw [heff.isSideEffect] at hside
        cases hside
      simp [planEvent_of_neither hpure hside, hnone]

/-! ## The whole decision -/

theorem planEvents_ok : ∀ {events : List Event} {plan plan' : EffectPlan},
    events.foldlM (planEvent snapshot taskId) plan = .ok plan' →
      plan'.pureFactCount = plan.pureFactCount +
          events.countP Event.isPureSliceDecisionFact ∧
        (plan.pureFactCount ≤ u64Max → plan'.pureFactCount ≤ u64Max) ∧
        plan'.effectFactCount = plan.effectFactCount +
          events.countP Event.isSideEffectDecisionFact ∧
        (∀ e ∈ events, e.isPureSliceDecisionFact = true ∨ e.isSideEffectDecisionFact = true) ∧
        ∃ effects, plan'.planned = plan.planned ++ effects.map Effect.planned ∧
          List.Forall₂ (HasEffect snapshot taskId)
            (events.filter Event.isSideEffectDecisionFact) effects := by
  intro events
  induction events with
  | nil =>
    intro plan plan' h
    cases h
    exact ⟨rfl, id, rfl, by simp, [], by simp, .nil⟩
  | cons e events ih =>
    intro plan plan' h
    obtain ⟨mid, hfst, hrest⟩ := foldlM_cons_ok.mp h
    obtain ⟨hpures, hbound, hsides, hall, effects, hplan, hforall⟩ := ih hrest
    rcases planEvent_eq_ok.mp hfst with ⟨hpure, hcount, rfl⟩ | ⟨-, effect, heff, rfl⟩
    · have hside : ¬ e.isSideEffectDecisionFact = true := by
        intro hside
        rw [isPure_of_isSideEffect hside] at hpure
        cases hpure
      rw [countP_cons_of_pos hpure, countP_cons_of_neg hside,
        filter_cons_of_neg hside, forall_mem_cons]
      refine ⟨?_, fun _ => hbound hcount, hsides, ⟨.inl hpure, hall⟩, effects, hplan, hforall⟩
      rw [hpures, withPure_pureFactCount]
      omega
    · have hside := heff.isSideEffect
      have hpure : ¬ e.isPureSliceDecisionFact = true := by
        rw [isPure_of_isSideEffect hside]
        exact Bool.false_ne_true
      rw [countP_cons_of_neg hpure, countP_cons_of_pos hside,
        filter_cons_of_pos hside, forall_mem_cons]
      refine ⟨hpures, hbound, ?_, ⟨.inr hside, hall⟩, effect :: effects, ?_, .cons heff hforall⟩
      · rw [hsides, withEffect_effectFactCount]
        omega
      · rw [hplan, withEffect_planned, map_cons, append_assoc, singleton_append]

theorem planEvents_of_pure : ∀ {events : List Event} {plan : EffectPlan},
    (∀ e ∈ events, e.isPureSliceDecisionFact = true) →
      plan.pureFactCount + events.length ≤ u64Max →
        events.foldlM (planEvent snapshot taskId) plan =
          .ok { plan with pureFactCount := plan.pureFactCount + events.length } := by
  intro events
  induction events with
  | nil => exact fun _ _ => rfl
  | cons e events ih =>
    intro plan hall hbound
    rw [forall_mem_cons] at hall
    rw [length_cons] at hbound
    have hfst : planEvent snapshot taskId plan e = .ok plan.withPure :=
      planEvent_eq_ok.mpr (.inl ⟨hall.1, by omega, rfl⟩)
    refine foldlM_cons_ok.mpr ⟨_, hfst, ?_⟩
    rw [ih hall.2 (by rw [withPure_pureFactCount]; omega), withPure_pureFactCount, length_cons,
      Nat.add_assoc, Nat.add_comm 1]
    rfl

theorem planEffects_singleton (heff : HasEffect snapshot taskId e effect) :
    planEffects snapshot taskId [e] = .ok [effect.planned] := by
  have hround : planEvent snapshot taskId .start e = .ok (EffectPlan.start.withEffect effect) :=
    planEvent_eq_ok.mpr (.inr ⟨by decide, effect, heff, rfl⟩)
  have hloop : [e].foldlM (planEvent snapshot taskId) .start =
      .ok (EffectPlan.start.withEffect effect) := foldlM_cons_ok.mpr ⟨_, hround, rfl⟩
  unfold planEffects
  rw [hloop]
  simp [ok_bind, EffectPlan.start, EffectPlan.withEffect, failIf_neg]

theorem planEffects_of_pure (hpure : ∀ e ∈ events, e.isPureSliceDecisionFact = true)
    (hbound : events.length ≤ u64Max) : planEffects snapshot taskId events = .ok [] := by
  unfold planEffects
  rw [planEvents_of_pure hpure (by simpa [EffectPlan.start] using hbound)]
  simp [ok_bind, EffectPlan.start, failIf_neg]

theorem planEffects_eq_ok : planEffects snapshot taskId events = .ok planned ↔
    (∀ e ∈ events, e.isPureSliceDecisionFact = true) ∧ events.length ≤ u64Max ∧ planned = [] ∨
      ∃ e effect, events = [e] ∧ HasEffect snapshot taskId e effect ∧
        planned = [effect.planned] := by
  constructor
  · intro h
    unfold planEffects at h
    simp only [ok_iff] at h
    obtain ⟨plan, hplan, hmixed, hsingle, -, -, -, rfl⟩ := h
    obtain ⟨hpures, hbound, hsides, hall, effects, hplanned, hforall⟩ := planEvents_ok hplan
    have hbound := hbound (Nat.zero_le _)
    rw [show EffectPlan.start.pureFactCount = 0 from rfl, Nat.zero_add] at hpures
    rw [show EffectPlan.start.effectFactCount = 0 from rfl, Nat.zero_add] at hsides
    rw [hpures] at hmixed hbound
    rw [hsides] at hmixed hsingle
    rw [show EffectPlan.start.planned = [] from rfl, nil_append] at hplanned
    by_cases hany : events.countP Event.isSideEffectDecisionFact = 0
    · have hnone := countP_eq_zero.mp hany
      have hpure : ∀ e ∈ events, e.isPureSliceDecisionFact = true :=
        fun e he => (hall e he).resolve_right (hnone e he)
      rw [filter_eq_nil_iff.mpr hnone, forall₂_nil_left_iff] at hforall
      rw [countP_eq_length.mpr hpure] at hbound
      rw [hforall] at hplanned
      exact .inl ⟨hpure, hbound, hplanned⟩
    · -- no pure fact stands beside the side effects, and there is one of these
      have hnone := countP_eq_zero.mp
        (show events.countP Event.isPureSliceDecisionFact = 0 by omega)
      have hside : ∀ e ∈ events, e.isSideEffectDecisionFact = true :=
        fun e he => (hall e he).resolve_left (hnone e he)
      have hlen := countP_eq_length.mpr hside
      obtain ⟨e, rfl⟩ := length_eq_one_iff.mp (show events.length = 1 by omega)
      rw [filter_eq_self.mpr hside] at hforall
      obtain ⟨effect, _, heff, hrest, rfl⟩ := forall₂_cons_left_iff.mp hforall
      rw [forall₂_nil_left_iff.mp hrest] at hplanned
      exact .inr ⟨e, effect, rfl, heff, hplanned⟩
  · rintro (⟨hpure, hbound, rfl⟩ | ⟨e, effect, rfl, heff, rfl⟩)
    · exact planEffects_of_pure hpure hbound
    · exact planEffects_singleton heff

/-! ## The two predicates -/

/-- The two predicates agree on an event, and say whether a decision of it alone plans nothing. -/
def Event.InLockstep (e : Event) : Prop :=
  e.isPureDecisionFact = e.isPureSliceDecisionFact ∧
    ∀ snapshot taskId planned, planEffects snapshot taskId [e] = .ok planned →
      (e.isPureDecisionFact = true ↔ planned = [])

theorem planEffects_singleton_nil (h : planEffects snapshot taskId [e] = .ok planned) :
    e.isPureSliceDecisionFact = true ↔ planned = [] := by
  rcases planEffects_eq_ok.mp h with ⟨hpure, -, rfl⟩ | ⟨_, effect, hsingle, heff, rfl⟩
  · have hfst := hpure e (mem_singleton_self e)
    simp [hfst]
  · cases singleton_inj.mp hsingle
    have hslice := isPure_of_isSideEffect heff.isSideEffect
    simp [hslice]

theorem isPureDecisionFact_eq_iff : e.isPureDecisionFact = e.isPureSliceDecisionFact ↔
    ¬ ∃ fact, e = .browser (.requestAccepted fact) ∧ fact.action.requiresHostSettlement = true := by
  cases e with
  | browser fact =>
    cases fact with
    | requestAccepted fact =>
      show true = (!fact.action.requiresHostSettlement) ↔ _
      cases hsettle : fact.action.requiresHostSettlement with
      | true => exact iff_of_false Bool.noConfusion (not_not.mpr ⟨fact, rfl, hsettle⟩)
      | false =>
        refine iff_of_true rfl ?_
        rintro ⟨_, heq, htrue⟩
        cases heq
        rw [hsettle] at htrue
        cases htrue
    | _ =>
      refine iff_of_true rfl ?_
      rintro ⟨_, heq, -⟩
      cases heq
  | _ =>
    refine iff_of_true rfl ?_
    rintro ⟨_, heq, -⟩
    cases heq

/-- The check of a stored settlement and the planner sort an event alike, unless it accepts a
browser request that waits for the host. -/
theorem pureDecisionFact_lockstep_iff (e : Event) : e.InLockstep ↔
    ¬ ∃ fact, e = .browser (.requestAccepted fact) ∧ fact.action.requiresHostSettlement = true := by
  rw [← isPureDecisionFact_eq_iff]
  constructor
  · exact And.left
  · intro hagree
    refine ⟨hagree, fun snapshot taskId planned hplan => ?_⟩
    rw [hagree]
    exact planEffects_singleton_nil hplan

def reloadAccepted : RequestAcceptedFact where
  requestId := ⟨1⟩
  taskId := ⟨1⟩
  contextId := ⟨1⟩
  tabId := some ⟨1⟩
  generation := 1
  action := .reload
  privacyClass := BrowserAction.reload.privacyClass
  permission := BrowserAction.reload.requiredPermission
  payloadHash := Vector.replicate 32 0
  actionEpoch := 0
  commandId := some ⟨1⟩

/-- The reload plans an effect and the planner's predicate says so; the other calls it pure. -/
theorem pureDecisionFact_reloadAccepted :
    (Event.browser (.requestAccepted reloadAccepted)).isPureDecisionFact = true ∧
      (Event.browser (.requestAccepted reloadAccepted)).isPureSliceDecisionFact = false ∧
      planEffects none ⟨1⟩ [.browser (.requestAccepted reloadAccepted)] =
        .ok [(Effect.holdBrowserHost ⟨1⟩ 0 ⟨1⟩ ⟨1⟩ 1 .webViewSurfaceAbsent).planned] ∧
      ¬ (Event.browser (.requestAccepted reloadAccepted)).InLockstep := by
  refine ⟨rfl, rfl, planEffects_singleton (.hold rfl rfl (by decide)), ?_⟩
  rintro ⟨hagree, -⟩
  exact Bool.noConfusion (show true = false from hagree)

end Spec

end DevManager
