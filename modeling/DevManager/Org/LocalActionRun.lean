import DevManager.Lib.Calls
import DevManager.Org.OneToOne
import DevManager.Org.Stored

/-!
# Runs of a registry of local actions (`src/org/local_actions.rs`)

The calls on a registry, among them a restart, which restores it from the three lists that it
persists. In every run a request is admitted at most once, and what is persisted restores the
registry. What is finished stays finished as long as no status of the portal brings another
admission that is let through: `reconcile_remote_state` compares the outcomes only
(`rejected_action_awaits_again`).
-/

namespace DevManager.Org

open Calls UuidExternals

/-- The calls on a registry. -/
inductive RegistryCall
  | bindServerCatalog (entries : List LocalActionCatalogEntry)
  | admitWithState (membership : HostMembership) (request : LocalActionRequest)
    (localHostId : String) (localProject : ProjectId) (localFingerprint : String)
    (ownerApproved : Bool) (nowMs : Int64)
  | markUncertain (requestId : LocalActionId)
  | reconcileRemoteState (requestId : LocalActionId) (admission : Admission)
    (outcome : Option ActionOutcome)
  | restart

/-- A state after which nothing more is expected of the request. -/
def LocalActionReconcileState.Final (state : LocalActionReconcileState) : Prop :=
  state ≠ .awaitingHostExecution ∧ state ≠ .uncertain

namespace LocalActionRegistry

section Runs

variable [UuidExternals] (r : LocalActionRegistry)

/-- The registry that a call leaves when it succeeds. -/
def attempt : RegistryCall → Except OrgError LocalActionRegistry
  | .bindServerCatalog entries => r.bindServerCatalog entries
  | .admitWithState membership request localHostId localProject localFingerprint ownerApproved
    nowMs =>
    (r.admitWithState membership request localHostId localProject localFingerprint ownerApproved
      nowMs).map Prod.snd
  | .markUncertain requestId => (r.markUncertain requestId).map Prod.snd
  | .reconcileRemoteState requestId admission outcome =>
    (r.reconcileRemoteState requestId admission outcome).map Prod.snd
  | .restart => restore r.persistCatalog r.persistStates r.persistSeen

/-- One call: its answer, and the registry that it leaves. -/
def call (c : RegistryCall) : Except OrgError Unit × LocalActionRegistry :=
  Calls.keeping r ((r.attempt c).map ((), ·))

omit [UuidExternals] in
/-- The call admitted the request. -/
def admits (requestId : LocalActionId) : RegistryCall × Except OrgError Unit → Bool
  | (.admitWithState _ request _ _ _ _ _, .ok ()) => request.requestId = requestId
  | _ => false

/-- The call does not bring a finished request another admission with an outcome that is let
through. -/
def Undisturbed : RegistryCall → Prop
  | .reconcileRemoteState requestId admission outcome =>
    ∀ state ∈ r.states[UuidExternals.text requestId.payload]?, state.reconcile.Final →
      (state.outcome = none ∨ state.outcome = outcome) → admission = state.admission
  | _ => True

/-- The reconcile state of every request is the one that its admission and outcome determine. -/
def Determined : Prop :=
  ∀ (key : String) state, r.states[key]? = some state →
    state.reconcile = reconciled state.admission state.outcome

variable {r r' : LocalActionRegistry} {c : RegistryCall}

/-- What a call that succeeds does to the requests: it admits one that was not seen, or restates
one that has a state, or leaves them. -/
theorem attempt_cases (hs : r.Sound) (hd : r.Determined) (h : r.attempt c = .ok r') :
    (∃ requestId policy, (∀ id, admits id (c, .ok ()) = decide (requestId = id)) ∧
      text requestId.payload ∉ r.seen ∧
      r'.seen = r.seen.insert (text requestId.payload) ∧
      r'.states = r.states.insert (text requestId.payload)
        (admitted requestId policy)) ∨
    ((∀ id, admits id (c, .ok ()) = false) ∧ r'.seen = r.seen ∧ (r'.states = r.states ∨
      ∃ key old new, r.states[key]? = some old ∧ r'.states = r.states.insert key new ∧
        new.reconcile = reconciled new.admission new.outcome ∧
        (r.Undisturbed c → old.reconcile.Final → new.reconcile = old.reconcile))) := by
  cases c with
  | bindServerCatalog =>
    simp only [attempt, LocalActionRegistry.bindServerCatalog, ok_iff] at h
    obtain ⟨-, _, -, rfl⟩ := h
    exact .inr ⟨fun _ => rfl, rfl, .inl rfl⟩
  | admitWithState _ request =>
    obtain ⟨_, hadmits, rfl⟩ := map_eq_ok.mp h
    simp only [LocalActionRegistry.admitWithState, ok_iff] at hadmits
    obtain ⟨-, policy, -, -, -, hnew, -, hstate⟩ := hadmits
    rw [hstate]
    exact .inl ⟨request.requestId, policy, fun _ => rfl, hnew, rfl, rfl⟩
  | markUncertain requestId =>
    obtain ⟨_, hmarker, rfl⟩ := map_eq_ok.mp h
    simp only [LocalActionRegistry.markUncertain, ok_iff] at hmarker
    obtain ⟨old, hold, hmarker⟩ := hmarker
    have hdetail := hd _ old hold
    refine .inr ⟨fun _ => rfl, ?_⟩
    split_ifs at hmarker with hawaits
    · cases hmarker
      refine ⟨rfl, .inr ⟨_, old, _, hold, rfl, ?_, fun _ hfinal => absurd hawaits hfinal.1⟩⟩
      -- Only an accepted request awaits its execution.
      cases hadmits : old.admission with
      | accepted => rfl
      | rejected =>
        rw [hawaits, hadmits] at hdetail
        cases hdetail
    · cases hmarker
      exact ⟨rfl, .inl rfl⟩
  | reconcileRemoteState requestId admission outcome =>
    obtain ⟨_, hrecon, rfl⟩ := map_eq_ok.mp h
    simp only [LocalActionRegistry.reconcileRemoteState, ok_iff] at hrecon
    obtain ⟨old, hold, hlet, hrecon⟩ := hrecon
    refine .inr ⟨fun _ => rfl, ?_⟩
    split_ifs at hrecon
    · cases hrecon
      exact ⟨rfl, .inl rfl⟩
    · cases hrecon
      refine ⟨rfl, .inr ⟨_, old, _, hold, rfl, rfl, fun hcalm hfinal => ?_⟩⟩
      have hout : old.outcome = none ∨ old.outcome = outcome := by
        simpa only [ne_eq, not_and_or, not_not] using hlet
      have hadmits : admission = old.admission := hcalm old hold hfinal hout
      have hdetail := hd _ old hold
      show reconciled admission outcome = old.reconcile
      rw [hdetail] at hfinal ⊢
      rw [hadmits]
      rcases hout with hnone | rfl
      · -- A finished request without an outcome was rejected.
        rw [hnone] at hfinal ⊢
        cases hold : old.admission with
        | rejected => rfl
        | accepted =>
          rw [hold] at hfinal
          exact absurd rfl hfinal.1
      · rfl
  | restart =>
    cases hs.restore.symm.trans h
    exact .inr ⟨fun _ => rfl, rfl, .inl rfl⟩

/-- A call leaves the registry, or what its attempt leaves. -/
theorem call_invariant {P : LocalActionRegistry → Prop} (hr : P r)
    (h : ∀ r', r.attempt c = .ok r' → P r') : P (r.call c).2 := by
  refine keeping_invariant hr fun _ r' hok => ?_
  obtain ⟨_, hok, heq⟩ := map_eq_ok.mp hok
  cases heq
  exact h _ hok

theorem Sound.call (hs : r.Sound) (c) : (r.call c).2.Sound := by
  refine call_invariant hs fun r' h => ?_
  cases c with
  | bindServerCatalog => exact hs.bindServerCatalog h
  | admitWithState =>
    obtain ⟨_, hadmits, rfl⟩ := map_eq_ok.mp h
    exact hs.admitWithState hadmits
  | markUncertain =>
    obtain ⟨_, hmarker, rfl⟩ := map_eq_ok.mp h
    exact hs.markUncertain hmarker
  | reconcileRemoteState =>
    obtain ⟨_, hrecon, rfl⟩ := map_eq_ok.mp h
    exact hs.reconcileRemoteState hrecon
  | restart =>
    cases hs.restore.symm.trans h
    exact hs

omit [UuidExternals] in
theorem determined_new : Determined new := by
  intro key state h
  simp [new] at h

theorem Determined.call (hd : r.Determined) (hs : r.Sound) (c) :
    (r.call c).2.Determined := by
  refine call_invariant hd fun r' h => ?_
  unfold Determined
  rcases attempt_cases hs hd h with ⟨_, _, -, -, -, hstep⟩ | ⟨-, -,
    hstep | ⟨_, _, _, -, hstep, hnew, -⟩⟩
  · rw [hstep]
    exact OrdMap.forall_insert (P := fun _ (s : LocalActionAdmissionState) =>
      s.reconcile = reconciled s.admission s.outcome) rfl hd
  · rwa [hstep]
  · rw [hstep]
    exact OrdMap.forall_insert (P := fun _ (s : LocalActionAdmissionState) =>
      s.reconcile = reconciled s.admission s.outcome) hnew hd

/-- What is finished stays so, in a call that does not disturb it. -/
theorem call_final (hs : r.Sound) (hd : r.Determined) (hcalm : r.Undisturbed c)
    {key : String} {state}
    (hget : r.states[key]? = some state) (hfinal : state.reconcile.Final) :
    ∃ state' ∈ (r.call c).2.states[key]?, state'.reconcile = state.reconcile := by
  refine call_invariant (P := fun r' => ∃ state' ∈ r'.states[key]?,
    state'.reconcile = state.reconcile) ⟨state, hget, rfl⟩ fun r' h => ?_
  rcases attempt_cases hs hd h with ⟨requestId, policy, -, hnew, -, hstep⟩ |
    ⟨-, -, hstep | ⟨key', old, new, hold, hstep, -, hkeeps⟩⟩
  · have hne : text requestId.payload ≠ key :=
      fun heq => hnew (heq ▸ (hs.states key state hget).2)
    rw [hstep, OrdMap.getElem?_insert_eq, if_neg hne]
    exact ⟨state, hget, rfl⟩
  · rw [hstep]
    exact ⟨state, hget, rfl⟩
  · rw [hstep, OrdMap.getElem?_insert_eq]
    by_cases heq : key' = key
    · subst heq
      cases hold.symm.trans hget
      rw [if_pos rfl]
      exact ⟨new, rfl, hkeeps hcalm hfinal⟩
    · rw [if_neg heq]
      exact ⟨state, hget, rfl⟩

/-- Along a history of calls: what was admitted was seen, and was admitted once. -/
structure Once (r : LocalActionRegistry) (history : List (RegistryCall × Except OrgError Unit)) :
    Prop where
  sound : r.Sound
  determined : r.Determined
  seen : ∀ requestId, ∀ e ∈ history, admits requestId e = true →
    UuidExternals.text requestId.payload ∈ r.seen
  once : ∀ requestId, history.countP (admits requestId) ≤ 1

theorem Once.call {history : List (RegistryCall × Except OrgError Unit)} (ho : Once r history)
    (c) : Once (r.call c).2 (history ++ [(c, (r.call c).1)]) := by
  have hone : ∀ requestId e, List.countP (admits requestId) [e] ≤ 1 :=
    fun _ _ => List.countP_le_length
  -- Admission is refused to a request that was seen, and every other call keeps what was seen.
  have hstep : (∀ id ∈ r.seen, id ∈ (r.call c).2.seen) ∧
      ∀ requestId, admits requestId (c, (r.call c).1) = true →
        text requestId.payload ∉ r.seen ∧ text requestId.payload ∈ (r.call c).2.seen := by
    unfold LocalActionRegistry.call
    cases h : r.attempt c with
    | error => exact ⟨fun _ => id, fun _ hadmits => by cases c <;> cases hadmits⟩
    | ok a =>
      rcases attempt_cases ho.sound ho.determined h with ⟨_, _, hadmits, hnew, hseen, -⟩ | ⟨hadmits,
        hseen, -⟩
      · simp only [keeping, Except.map, hadmits, hseen, OrdMap.mem_insertSet_iff]
        refine ⟨fun _ => .inr, fun requestId heq => ?_⟩
        cases of_decide_eq_true heq
        exact ⟨hnew, .inl rfl⟩
      · simp only [keeping, Except.map, hadmits, hseen]
        exact ⟨fun _ => id, nofun⟩
  refine ⟨ho.sound.call c, ho.determined.call ho.sound c, fun requestId e he hadmits => ?_,
    fun requestId => ?_⟩
  · rcases List.mem_append.mp he with he | he
    · exact hstep.1 _ (ho.seen requestId e he hadmits)
    · rw [List.mem_singleton.mp he] at hadmits
      exact (hstep.2 requestId hadmits).2
  · rw [List.countP_append]
    by_cases hadmits : admits requestId (c, (r.call c).1) = true
    · have hzero : history.countP (admits requestId) = 0 :=
        List.countP_eq_zero.mpr fun e he hold =>
          (hstep.2 requestId hadmits).1 (ho.seen requestId e he hold)
      have := hone requestId (c, (r.call c).1)
      omega
    · have := ho.once requestId
      rw [List.countP_singleton, if_neg hadmits]
      exact this

theorem after_once (calls) :
    Once (after call new calls) (trace call new calls) :=
  history_invariant ⟨sound_new, determined_new, fun _ _ he => (nomatch he), fun _ => Nat.zero_le 1⟩
    (fun _ _ c ho => ho.call c) calls

/-- In every run whose calls disturb nothing that is finished, a request is admitted once and
finishes once, and the registry survives a restart. -/
theorem local_actions_once (calls : List RegistryCall)
    (hclean : Calls.Along call Undisturbed new calls) :
    let r := after call new calls
    (∀ requestId, (trace call new calls).countP (admits requestId) ≤ 1) ∧
    (∀ (key : String) state, r.states[key]? = some state →
      state.reconcile = reconciled state.admission state.outcome ∧
        text state.requestId.payload = key ∧ key ∈ r.seen) ∧
    (∀ before later, calls = before ++ later → ∀ (key : String) state,
      (after call new before).states[key]? = some state → state.reconcile.Final →
        ∃ state' ∈ r.states[key]?, state'.reconcile = state.reconcile) ∧
    restore r.persistCatalog r.persistStates r.persistSeen = .ok r ∧
    ∀ c e, (r.call c).1 = .error e → (r.call c).2 = r := by
  have ho := after_once calls
  refine ⟨ho.once,
    fun key state hget => ⟨ho.determined key state hget, ho.sound.states key state hget⟩, ?_,
    ho.sound.restore, fun _ _ herror => keeping_error herror⟩
  rintro before later rfl key state hget hfinal
  obtain ⟨-, hlater⟩ := (along_append before later new).mp hclean
  have hpre := after_once before
  rw [after_append]
  refine (along_invariant (P := fun r : LocalActionRegistry => (r.Sound ∧ r.Determined) ∧
    ∃ state' ∈ r.states[key]?, state'.reconcile = state.reconcile) ?_ later
    ⟨⟨hpre.sound, hpre.determined⟩, state, hget, rfl⟩ hlater).2
  rintro r c ⟨⟨hs, hd⟩, state', hget', heq⟩ hcalm
  refine ⟨⟨hs.call c, hd.call hs c⟩, ?_⟩
  rw [← heq]
  exact call_final hs hd hcalm hget' (heq ▸ hfinal)

end Runs

/-! ## A rejected action that awaits its execution again -/

section Samples

open TaskLinkReducer (sampleUuid sampleMembership)

attribute [local instance] sampleUuid

def sampleRequest : LocalActionRequest :=
  ⟨⟨1⟩, "tenant", "host", ⟨1⟩, .envDiff, 1, "", .low, 0, "", 10, none⟩

def sampleAdmission : RegistryCall :=
  .admitWithState sampleMembership sampleRequest "host" ⟨1⟩ "" true 1

/-- A request that is admitted, and rejected by the portal. -/
def sampleRejected : List RegistryCall :=
    [sampleAdmission, .reconcileRemoteState ⟨1⟩ .rejected none]

theorem rejected_after : (after call new sampleRejected).states[text 1]? =
    some ⟨⟨1⟩, .rejected, some .idempotentSafe, none, .rejected⟩ := by
  decide +kernel

/-- The rejected request is sent again: it is admitted once, and stays rejected. -/
theorem sampleRejected_once :
    (trace call new (sampleRejected ++ [sampleAdmission])).countP (admits ⟨1⟩) ≤ 1 ∧
      ∃ state ∈ (after call new (sampleRejected ++ [sampleAdmission])).states[
        text 1]?, state.reconcile = .rejected := by
  have hawaits : ∀ state ∈ (call new sampleAdmission).2.states[text 1]?,
      state.reconcile = .awaitingHostExecution := by
    decide +kernel
  obtain ⟨honce, -, hkeeps, -⟩ := local_actions_once (sampleRejected ++ [sampleAdmission])
    ⟨trivial, fun state hget hfinal => absurd (hawaits state hget) hfinal.1, trivial, trivial⟩
  exact ⟨honce ⟨1⟩, hkeeps sampleRejected [sampleAdmission] rfl _ _ rejected_after
    ⟨by decide, by decide⟩⟩

/-- The portal accepts the request that it had rejected. -/
theorem rejected_action_awaits_again :
    ∃ before later, ∃ key : String, ∃ state state',
      (after call new before).states[key]? = some state ∧ state.reconcile.Final ∧
        (after call new (before ++ later)).states[key]? = some state' ∧
          state'.reconcile ≠ state.reconcile := by
  refine ⟨sampleRejected, [.reconcileRemoteState ⟨1⟩ .accepted none], text 1, _,
    admitted ⟨1⟩ .idempotentSafe, rejected_after, ⟨by decide, by decide⟩, by decide +kernel,
    by decide⟩

end Samples

end LocalActionRegistry

end DevManager.Org
