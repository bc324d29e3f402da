import DevManager.Kernel.Book

/-!
# The lifecycle of a task over whole runs

`TaskArchived` checks once that everything the task owned is gone. That it stays
gone rests on the guards of `decide`: what could bring a resource, a specialist or
a browser context back is only decided while the task is open or settled.

* `actionEpoch_of_apply`: the epoch counts the accepted `TaskCloseBegun` events.
* `quietInv_of_guarded`: an archived or deleted task has no unreleased resource and
  no open specialist.
-/

namespace DevManager

/-- Everything of the task is released, and no specialist is open. -/
structure Quiet (s : TaskSnapshot) : Prop where
  resources : ∀ (id : ResourceId) r, s.resources[id]? = some r → r.lifecycle = .released
  specialists : ∀ (id : AgentSessionId) a, s.agents[id]? = some a →
    a.role.isSpecialist = true → a.lifecycle ≠ .opened

/-- `matches!(payload, Event::TaskCloseBegun { .. })`. -/
def Event.isCloseBegun : Event → Bool
  | taskCloseBegun _ => true
  | _ => false

section Lifecycle

variable [Externals] {s s' : TaskSnapshot}

/-! ## The epoch -/

variable {event : DomainEvent}

theorem taskStep_of_apply (h : apply (some s) event = .ok s') : TaskStep s event.payload s' := by
  obtain ⟨-, -, mid, hmid, rfl⟩ := apply_some_eq_ok.mp h
  obtain ⟨-, -, hstep⟩ := effect_task s event.payload event.occurredAtMs mid hmid
  split_ifs
  · exact hstep
  · exact hstep

theorem actionEpoch_of_apply (h : apply (some s) event = .ok s') :
    s'.task.actionEpoch = s.task.actionEpoch + if event.payload.isCloseBegun then 1 else 0 := by
  have hstep : TaskStep s event.payload s' := taskStep_of_apply h
  cases hp : event.payload <;> rw [hp] at hstep <;>
    simp only [Event.isCloseBegun, Bool.false_eq_true, if_false, if_true, add_zero]
  all_goals first | exact hstep.2.2 | exact hstep.2

theorem actionEpoch_le_of_run (h : guarded.Run s s') :
    s.task.actionEpoch ≤ s'.task.actionEpoch := by
  induction h with
  | refl => exact le_refl _
  | tail _ hstep ih =>
    obtain ⟨event, -, happly⟩ := hstep
    have hnext := actionEpoch_of_apply happly
    omega

/-! ## Archived and deleted tasks -/

theorem deleted_of_apply (h : apply (some s) event = .ok s')
    (hdel : s'.task.lifecycle = .deleted) (hnot : s.task.lifecycle ≠ .deleted) :
    s.task.lifecycle = .archived := by
  have hstep : TaskStep s event.payload s' := taskStep_of_apply h
  cases hp : event.payload <;> rw [hp] at hstep <;> simp only [TaskStep] at hstep <;> grind

theorem deleted_stays (h : apply (some s) event = .ok s')
    (hdel : s.task.lifecycle = .deleted) : s'.task.lifecycle = .deleted := by
  have hstep : TaskStep s event.payload s' := taskStep_of_apply h
  cases hp : event.payload <;> rw [hp] at hstep <;>
    simp only [TaskStep, RuntimeCapable] at hstep <;> grind

theorem deleted_of_run (h : guarded.Run s s') (hdel : s.task.lifecycle = .deleted) :
    s'.task.lifecycle = .deleted := by
  induction h with
  | refl => exact hdel
  | tail _ hstep ih =>
    obtain ⟨event, -, happly⟩ := hstep
    exact deleted_stays happly ih

/-- What an archived or deleted task keeps. -/
def QuietInv (s : TaskSnapshot) : Prop :=
  s.task.lifecycle = .archived ∨ s.task.lifecycle = .deleted → Quiet s

theorem quiet_of_archived {t : ℤ} (h : effect s .taskArchived t = .ok s') : Quiet s' := by
  obtain ⟨-, hres, hagents, rfl⟩ := applyTaskArchived_eq_ok.mp h
  refine ⟨hres, fun id a ha hrole hopen => ?_⟩
  have hprimary := hagents id a ha hopen
  rw [AgentRole.isSpecialist_eq_not, hprimary] at hrole
  cases hrole

theorem resources_stay_released {p} (h : Quiet s) (hnc : ¬ RuntimeCapable s)
    (hguard : Guard s p) (hstep : TerminalStep s p s') :
    ∀ (id : ResourceId) r, s'.resources[id]? = some r → r.lifecycle = .released := by
  cases hstep with
  | frame hresources | reported _ _ _ hresources | stripSet _ hresources =>
    rw [hresources]; exact h.resources
  | registered => exact absurd hguard hnc
  | releaseBegun hres hactive | released hres hactive _ =>
    have hrel := h.resources _ _ hres
    rw [hactive] at hrel
    cases hrel
  | renamed hres _ _ _ hresources =>
    have hrel := h.resources _ _ hres
    rw [hresources]
    exact OrdMap.forall_insert hrel h.resources

omit [Externals] in
theorem specialists_stay_closed {p} (h : Quiet s) (hnc : ¬ RuntimeCapable s)
    (hguard : Guard s p) (hstep : AgentStep s p s') :
    ∀ (id : AgentSessionId) a, s'.agents[id]? = some a →
      a.role.isSpecialist = true → a.lifecycle ≠ .opened := by
  cases hstep with
  | frame hagents | chosen _ _ hagents => rw [hagents]; exact h.specialists
  | registered => exact absurd hguard.1 hnc
  | requested | promoted => exact absurd hguard hnc
  | session hagent hagents | rebound _ hagent hagents =>
    have hclosed := h.specialists _ _ hagent
    rw [hagents]
    exact OrdMap.forall_insert hclosed h.specialists
  | closed hagent _ _ hagents =>
    rw [hagents]
    exact OrdMap.forall_insert (fun _ => by simp) h.specialists

theorem quietInv_effect {p} {t : ℤ} (h : QuietInv s) (hguard : Guard s p) :
    Ensures (effect s p t) QuietInv := by
  intro s' heff hdone
  by_cases hp : p = .taskArchived
  · subst hp
    exact quiet_of_archived heff
  · -- the task was archived or deleted before, so the guards exclude what could wake it
    obtain ⟨-, -, htask⟩ := effect_task s p t s' heff
    have hpre : s.task.lifecycle = .archived ∨ s.task.lifecycle = .deleted := by
      cases p <;> simp only [TaskStep] at htask <;> grind
    have hnc : ¬ RuntimeCapable s := by
      unfold RuntimeCapable
      rcases hpre with h | h <;> rw [h] <;> decide
    exact ⟨resources_stay_released (h hpre) hnc hguard (effect_terminals s p t s' heff),
      specialists_stay_closed (h hpre) hnc hguard (effect_agents s p t s' heff)⟩

theorem quietInv_of_guarded (h : guarded.Reachable s) : QuietInv s := by
  refine eventMachine_invariant h (fun s hs => ?_) (fun _ _ h hdone => ?_)
    fun _ _ _ _ hinv hguard => quietInv_effect hinv hguard
  · intro hdone
    obtain ⟨-, hlife, -⟩ := TaskFacts.validateForCreate_eq_ok.mp hs.content
    rw [hlife] at hdone
    simp at hdone
  · exact ⟨(h hdone).resources, (h hdone).specialists⟩

end Lifecycle

/-- The lifecycle of a task over whole runs: the epoch moves by one exactly at each accepted
`TaskCloseBegun` and never back; an archived or deleted task owns nothing that is alive;
deletion comes from the archive only and is final. -/
theorem lifecycle_safety [Externals] {s : TaskSnapshot} (hs : visited.Reachable s) :
    (∀ event s', apply (some s) event = .ok s' →
        s'.task.actionEpoch = s.task.actionEpoch + if event.payload.isCloseBegun then 1 else 0) ∧
      (∀ s', visited.Run s s' → s.task.actionEpoch ≤ s'.task.actionEpoch) ∧
      (s.task.lifecycle = .archived ∨ s.task.lifecycle = .deleted →
        Quiet s ∧
          (∀ (id : BrowserContextId) c, s.browser.contexts[id]? = some c → c.closed = true) ∧
          ∀ (id : BrowserTabId) t, s.browser.tabs[id]? = some t → t.closed = true) ∧
      (∀ event s', apply (some s) event = .ok s' → s.task.lifecycle ≠ .deleted →
        s'.task.lifecycle = .deleted → s.task.lifecycle = .archived) ∧
      (s.task.lifecycle = .deleted →
        (∀ envelope operationId events, Command.decide (some s) envelope operationId ≠ .ok events) ∧
          ∀ s', visited.Run s s' → s'.task.lifecycle = .deleted) := by
  have hguard : guarded.Reachable s := guarded_of_visited hs
  refine ⟨fun event s' => actionEpoch_of_apply, fun s' hrun => ?_, fun hdone => ?_,
    fun event s' happly hnot hdel => deleted_of_apply happly hdel hnot, fun hdel => ⟨?_, ?_⟩⟩
  · exact actionEpoch_le_of_run (guarded_run_of_visited hrun)
  · have hbook := bookInv_of_guarded hguard
    have hnc : ¬ RuntimeCapable s := by
      unfold RuntimeCapable
      rcases hdone with h | h <;> rw [h] <;> decide
    exact ⟨quietInv_of_guarded hguard hdone, hbook.closedContexts hnc, hbook.closedTabs hnc⟩
  · exact fun envelope operationId events => decide_deleted hdel
  · exact fun s' hrun => deleted_of_run (guarded_run_of_visited hrun) hdel

theorem exists_deleted [Externals] : ∃ s, kernel.Reachable s ∧ s.task.lifecycle = .deleted := by
  have hstart : kernel.Reachable sampleSnapshot := .start created_sampleSnapshot
  have hclose := reachable_command hstart .beginCloseTask rfl rfl
  have harchived := reachable_host hclose .taskArchived rfl rfl
  exact ⟨_, reachable_command harchived .deleteTask rfl rfl, rfl⟩

section Sample

attribute [local instance] sampleExternals

theorem lifecycle_safety_deleted :
    ∃ s : TaskSnapshot, s.task.lifecycle = .deleted ∧ Quiet s ∧
      ∀ s', visited.Run s s' → s'.task.lifecycle = .deleted := by
  obtain ⟨s, hs, hdel⟩ := exists_deleted
  obtain ⟨-, -, hquiet, -, hfin⟩ := lifecycle_safety (visited_of_kernel hs)
  exact ⟨s, hdel, (hquiet (.inr hdel)).1, (hfin hdel).2⟩

end Sample

end DevManager
