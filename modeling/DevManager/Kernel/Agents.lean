import DevManager.Kernel.Guard

/-!
# The primary agent and the runtime cap

A task has at most one primary agent and at most `DEFAULT_MAX_TOP_LEVEL_RUNTIMES`
open agents. `apply` alone does not ensure it: it registers any number of
primaries. `decide` registers a primary only when there is none, and promotion
swaps two roles, so over the runs of the kernel the agents of a task are either
none at all or have exactly one primary.

* `agentInv_of_guarded`: `AgentInv` holds in every state of a guarded run.
-/

namespace DevManager

open Std (ExtTreeMap)
open TaskSnapshot (isTopLevelRuntime topLevelRuntimeCount)

/-- What the agents of a task keep over runs of guarded events. -/
structure AgentInv (s : TaskSnapshot) : Prop where
  task : ∀ (id : AgentSessionId) a, s.agents[id]? = some a → a.taskId = s.task.id
  primaryOpen : ∀ (id : AgentSessionId) a, s.agents[id]? = some a →
    a.role.isPrimary = true → a.lifecycle = .opened
  unique : ∀ (i j : AgentSessionId) a b, s.agents[i]? = some a →
    s.agents[j]? = some b → a.role.isPrimary = true → b.role.isPrimary = true → i = j
  exists_primary : ∀ (id : AgentSessionId) a, s.agents[id]? = some a →
    ∃ (i : AgentSessionId) (b : AgentSessionFacts), s.agents[i]? = some b ∧ b.role.isPrimary = true
  chosen : ∀ id, s.primaryAgentId = some id → ∃ a, s.agents[id]? = some a ∧ a.role.isPrimary = true
  room : s.topLevelRuntimeCount ≤ defaultMaxTopLevelRuntimes

section Agents

variable {s s' : TaskSnapshot}

/-! ## Counting top-level runtimes -/

theorem isTopLevelRuntime_eq (a) :
    isTopLevelRuntime a = decide (a.lifecycle = .opened) := by
  unfold isTopLevelRuntime
  cases a.role <;> simp [AgentRole.isPrimary]

theorem topLevelRuntimeCount_empty (h : ∀ id : AgentSessionId, s.agents[id]? = none) :
    s.topLevelRuntimeCount = 0 := by
  unfold topLevelRuntimeCount OrdMap.countValues
  rw [List.countP_eq_zero]
  rintro ⟨id, a⟩ hmem
  rw [ExtTreeMap.mem_toList_iff_getElem?_eq_some, h id] at hmem
  cases hmem

variable {id : AgentSessionId} {a : AgentSessionFacts}

theorem topLevelRuntimeCount_new
    (hnew : id ∉ s.agents) (hagents : s'.agents = s.agents.insert id a) :
    s'.topLevelRuntimeCount ≤ s.topLevelRuntimeCount + 1 := by
  have hcount := OrdMap.countValues_insert_new isTopLevelRuntime
    (OrdMap.not_mem_iff.mp hnew) a
  unfold topLevelRuntimeCount
  rw [hagents, hcount]
  split_ifs <;> omega

theorem countValues_replace {agents a'} (hagent : agents[id]? = some a)
    (hopen : a'.lifecycle = .opened → a.lifecycle = .opened) :
    OrdMap.countValues (agents.insert id a') isTopLevelRuntime ≤
      OrdMap.countValues agents isTopLevelRuntime := by
  have hcount := OrdMap.countValues_insert isTopLevelRuntime agents id a'
  rw [hagent, Option.any_some, isTopLevelRuntime_eq, isTopLevelRuntime_eq] at hcount
  by_cases h' : a'.lifecycle = .opened
  · simp only [h', hopen h', decide_true, if_true] at hcount
    omega
  · simp only [h', decide_false, Bool.false_eq_true, if_false] at hcount
    omega

/-! ## The invariant -/

theorem agentInv_frame (h : AgentInv s) (hid : s'.task.id = s.task.id)
    (hagents : s'.agents = s.agents)
    (hchosen : ∀ id, s'.primaryAgentId = some id →
      ∃ a, s.agents[id]? = some a ∧ a.role.isPrimary = true) : AgentInv s' := by
  refine ⟨?_, ?_, ?_, ?_, ?_, ?_⟩
  · rw [hagents, hid]
    exact h.task
  · rw [hagents]
    exact h.primaryOpen
  · rw [hagents]
    exact h.unique
  · rw [hagents]
    exact h.exists_primary
  · rw [hagents]
    exact hchosen
  · unfold topLevelRuntimeCount
    rw [hagents]
    exact h.room

theorem agentInv_replace (h : AgentInv s) {a'}
    (hid : s'.task.id = s.task.id) (hagent : s.agents[id]? = some a)
    (hagents : s'.agents = s.agents.insert id a')
    (hchosen : s'.primaryAgentId = s.primaryAgentId) (htask : a'.taskId = a.taskId)
    (hrole : a'.role = a.role) (hopen : a'.lifecycle = .opened → a.lifecycle = .opened)
    (hprimary : a'.role.isPrimary = true → a'.lifecycle = .opened) : AgentInv s' := by
  -- an entry of the new map has the role of the entry the old map has at that key
  have hold : ∀ (j : AgentSessionId) b, s'.agents[j]? = some b →
      ∃ b₀, s.agents[j]? = some b₀ ∧ b₀.role = b.role := by
    rw [hagents]
    exact OrdMap.forall_insert ⟨a, hagent, hrole.symm⟩ fun j b hb => ⟨b, hb, rfl⟩
  have hnew : ∀ (j : AgentSessionId) b, s.agents[j]? = some b →
      ∃ b', s'.agents[j]? = some b' ∧ b'.role = b.role := by
    intro j b hb
    rw [hagents, OrdMap.getElem?_insert_eq]
    by_cases hj : id = j
    · subst hj
      rw [hagent] at hb
      cases hb
      exact ⟨a', if_pos rfl, hrole⟩
    · exact ⟨b, by rw [if_neg hj, hb], rfl⟩
  refine ⟨?_, ?_, ?_, ?_, ?_, ?_⟩
  · rw [hagents, hid]
    exact OrdMap.forall_insert (htask.trans (h.task id a hagent)) h.task
  · rw [hagents]
    exact OrdMap.forall_insert hprimary h.primaryOpen
  · intro i j b c hb hc hbp hcp
    obtain ⟨b₀, hb₀, hbranches⟩ := hold i b hb
    obtain ⟨c₀, hc₀, hmade⟩ := hold j c hc
    exact h.unique i j b₀ c₀ hb₀ hc₀ (by rw [hbranches, hbp]) (by rw [hmade, hcp])
  · intro j b hb
    obtain ⟨b₀, hb₀, -⟩ := hold j b hb
    obtain ⟨i, c, hc, hcp⟩ := h.exists_primary j b₀ hb₀
    obtain ⟨c', hc', hmade⟩ := hnew i c hc
    exact ⟨i, c', hc', by rw [hmade, hcp]⟩
  · intro j hj
    rw [hchosen] at hj
    obtain ⟨c, hc, hcp⟩ := h.chosen j hj
    obtain ⟨c', hc', hmade⟩ := hnew j c hc
    exact ⟨c', hc', by rw [hmade, hcp]⟩
  · unfold topLevelRuntimeCount
    rw [hagents]
    exact le_trans (countValues_replace hagent hopen) h.room

theorem agentInv_registered (h : AgentInv s) {agent}
    (hid : s'.task.id = s.task.id)
    (hnone : ∀ (id : AgentSessionId) a, s.agents[id]? = some a → a.role.isPrimary = false)
    (htask : agent.taskId = s.task.id) (hrole : agent.role.isPrimary = true)
    (hvalid : agent.validateForRegistration = .ok ()) (hnew : agent.id ∉ s.agents)
    (hagents : s'.agents = s.agents.insert agent.id agent)
    (hchosen : s'.primaryAgentId = s.primaryAgentId) : AgentInv s' := by
  have hnil : ∀ id : AgentSessionId, s.agents[id]? = none := by
    intro id
    cases ha : s.agents[id]? with
    | none => rfl
    | some a =>
      obtain ⟨i, b, hb, hbp⟩ := h.exists_primary id a ha
      rw [hnone i b hb] at hbp
      cases hbp
  have honly : ∀ id (a : AgentSessionFacts), s'.agents[id]? = some a →
      id = agent.id ∧ a = agent := by
    rw [hagents]
    refine OrdMap.forall_insert ⟨rfl, rfl⟩ fun id a ha => ?_
    rw [hnil id] at ha
    cases ha
  have hget : s'.agents[agent.id]? = some agent := by
    rw [hagents, OrdMap.getElem?_insert_eq, if_pos rfl]
  obtain ⟨-, hlife, -⟩ := AgentSessionFacts.validateForRegistration_eq_ok.mp hvalid
  refine ⟨?_, ?_, ?_, ?_, ?_, ?_⟩
  · intro id a ha
    rw [(honly id a ha).2, htask, hid]
  · intro id a ha _
    rw [(honly id a ha).2, hlife]
  · intro i j a b ha hb _ _
    rw [(honly i a ha).1, (honly j b hb).1]
  · intro id a _
    exact ⟨agent.id, agent, hget, hrole⟩
  · intro id hchoice
    rw [hchosen] at hchoice
    obtain ⟨a, ha, -⟩ := h.chosen id hchoice
    rw [hnil id] at ha
    cases ha
  · have hcount := topLevelRuntimeCount_new hnew hagents
    rw [topLevelRuntimeCount_empty hnil] at hcount
    exact le_trans hcount (by decide)

theorem agentInv_requested (h : AgentInv s) {agent requestedBy} (hid : s'.task.id = s.task.id)
    (htask : agent.taskId = s.task.id) (hrole : agent.role.isPrimary = false)
    (hnew : agent.id ∉ s.agents) (hprimary : s.primaryAgentId = some requestedBy)
    (hroom : s.topLevelRuntimeCount < defaultMaxTopLevelRuntimes)
    (hagents : s'.agents = s.agents.insert agent.id agent)
    (hchosen : s'.primaryAgentId = s.primaryAgentId) : AgentInv s' := by
  have hkeep : ∀ (j : AgentSessionId) b, s.agents[j]? = some b →
      s'.agents[j]? = some b := by
    intro j b hb
    rw [hagents, OrdMap.getElem?_insert_eq, if_neg, hb]
    rintro rfl
    exact hnew (OrdMap.mem_iff_exists.mpr ⟨b, hb⟩)
  have hold : ∀ (j : AgentSessionId) b, s'.agents[j]? = some b →
      b.role.isPrimary = true → s.agents[j]? = some b := by
    rw [hagents]
    refine OrdMap.forall_insert (fun hp => ?_) fun j b hb _ => hb
    rw [hrole] at hp
    cases hp
  refine ⟨?_, ?_, ?_, ?_, ?_, ?_⟩
  · rw [hagents, hid]
    exact OrdMap.forall_insert htask h.task
  · intro id a ha hp
    exact h.primaryOpen id a (hold id a ha hp) hp
  · intro i j a b ha hb happ hbp
    exact h.unique i j a b (hold i a ha happ) (hold j b hb hbp) happ hbp
  · intro id a _
    obtain ⟨b, hb, hbp⟩ := h.chosen requestedBy hprimary
    exact ⟨requestedBy, b, hkeep requestedBy b hb, hbp⟩
  · intro id hchoice
    rw [hchosen] at hchoice
    obtain ⟨b, hb, hbp⟩ := h.chosen id hchoice
    exact ⟨b, hkeep id b hb, hbp⟩
  · have hcount := topLevelRuntimeCount_new hnew hagents
    omega

theorem agentInv_promoted (h : AgentInv s) {previous promoted}
    {before after} (hid : s'.task.id = s.task.id) (hne : previous ≠ promoted)
    (hpre : s.agents[previous]? = some before) (hpost : s.agents[promoted]? = some after)
    (hrole : before.role.isPrimary = true) (hopen' : after.lifecycle = .opened)
    (hagents : s'.agents =
      (s.agents.insert previous { before with role := .specialist "primary" }).insert promoted
        { after with role := .primary })
    (hchosen : s'.primaryAgentId = some promoted) : AgentInv s' := by
  have hget : s'.agents[promoted]? = some { after with role := .primary } := by
    rw [hagents, OrdMap.getElem?_insert_eq, if_pos rfl]
  -- the only primary is the promoted agent: the old one has lost the role
  have honly : ∀ (j : AgentSessionId) b, s'.agents[j]? = some b →
      b.role.isPrimary = true → j = promoted ∧ b = { after with role := .primary } := by
    intro j b hb hp
    rw [hagents] at hb
    rcases OrdMap.of_insert hb with ⟨hj, rfl⟩ | ⟨hj, hb⟩
    · exact ⟨hj.symm, rfl⟩
    · rcases OrdMap.of_insert hb with ⟨hj', rfl⟩ | ⟨hj', hb⟩
      · cases hp
      · exact absurd (h.unique previous j before b hpre hb hrole hp) hj'
  refine ⟨?_, ?_, ?_, ?_, ?_, ?_⟩
  · have htask := h.task
    have hb := htask previous before hpre
    have ha := htask promoted after hpost
    rw [hagents, hid]
    exact OrdMap.forall_insert ha (OrdMap.forall_insert hb htask)
  · intro j b hb hp
    rw [(honly j b hb hp).2]
    exact hopen'
  · intro i j a b ha hb happ hbp
    rw [(honly i a ha happ).1, (honly j b hb hbp).1]
  · intro j b _
    exact ⟨promoted, _, hget, rfl⟩
  · intro j hj
    rw [hchosen] at hj
    cases hj
    exact ⟨_, hget, rfl⟩
  · unfold topLevelRuntimeCount
    rw [hagents]
    refine le_trans (countValues_replace (a := after) ?_ fun h => h) ?_
    · rw [OrdMap.getElem?_insert_eq, if_neg hne, hpost]
    · exact le_trans (countValues_replace hpre fun h => h) h.room

variable [Externals]

theorem agentInv_effect {p} {t : ℤ} (h : AgentInv s) (hguard : Guard s p) :
    Ensures (effect s p t) AgentInv := by
  intro s' heff
  obtain ⟨hid, -, -⟩ := effect_task s p t s' heff
  cases effect_agents s p t s' heff with
  | frame hagents hchosen =>
    refine agentInv_frame h hid hagents ?_
    rw [hchosen]
    exact h.chosen
  | registered htask hrole hvalid hnew hagents hchosen =>
    exact agentInv_registered h hid hguard.2 htask hrole hvalid hnew hagents hchosen
  | @session p s' id agent session revision hagent hagents hchosen =>
    exact agentInv_replace h hid hagent hagents hchosen rfl rfl (fun h => h)
      (h.primaryOpen id agent hagent)
  | @rebound s' id kind agent revision _ hagent hagents hchosen =>
    exact agentInv_replace h hid hagent hagents hchosen rfl rfl (fun h => h)
      (h.primaryOpen id agent hagent)
  | @chosen s' id agent hagent hrole hagents hchosen =>
    refine agentInv_frame h hid hagents fun j hj => ?_
    rw [hchosen] at hj
    cases hj
    exact ⟨agent, hagent, hrole⟩
  | requested htask hrole _ hnew hprimary hroom hagents hchosen =>
    exact agentInv_requested h hid htask hrole hnew hprimary hroom hagents hchosen
  | promoted hne _ hpre hpost hrole _ _ hopen' hagents hchosen =>
    exact agentInv_promoted h hid hne hpre hpost hrole hopen' hagents hchosen
  | closed hagent hrole hopen hagents hchosen =>
    refine agentInv_replace h hid hagent hagents hchosen rfl rfl (fun _ => hopen) fun hp => ?_
    rw [hrole] at hp
    cases hp

theorem agentInv_of_guarded (h : guarded.Reachable s) : AgentInv s := by
  refine eventMachine_invariant h (fun s hs => ?_)
    (fun _ _ h => ⟨h.task, h.primaryOpen, h.unique, h.exists_primary, h.chosen, h.room⟩)
    fun _ _ _ _ hinv hguard => agentInv_effect hinv hguard
  have hnone : ∀ id : AgentSessionId, s.agents[id]? = none := by
    intro id
    rw [hs.agents]
    simp
  refine ⟨?_, ?_, ?_, ?_, ?_, ?_⟩
  · intro id a ha
    simp [hnone] at ha
  · intro id a ha
    simp [hnone] at ha
  · intro i j a b ha
    simp [hnone] at ha
  · intro id a ha
    simp [hnone] at ha
  · intro id hid
    simp [hs.primary] at hid
  · rw [topLevelRuntimeCount_empty hnone]
    exact Nat.zero_le _

end Agents

/-- In every reachable snapshot at most one agent is primary, the chosen primary is an open primary
agent, and no more than `DEFAULT_MAX_TOP_LEVEL_RUNTIMES` agents are open. -/
theorem primary_and_runtime_cap [Externals] {s : TaskSnapshot} (hs : visited.Reachable s) :
    (∀ (i j : AgentSessionId) a b, s.agents[i]? = some a →
        s.agents[j]? = some b → a.role = .primary → b.role = .primary → i = j) ∧
      (∀ id, s.primaryAgentId = some id → ∃ a, s.agents[id]? = some a ∧ a.role = .primary ∧
        a.lifecycle = .opened) ∧
      s.topLevelRuntimeCount ≤ defaultMaxTopLevelRuntimes := by
  have hinv : AgentInv s := agentInv_of_guarded (guarded_of_visited hs)
  refine ⟨fun i j a b ha hb har hbranches => ?_, fun id hid => ?_, hinv.room⟩
  · exact hinv.unique i j a b ha hb (AgentRole.isPrimary_iff.mpr har)
      (AgentRole.isPrimary_iff.mpr hbranches)
  · obtain ⟨a, ha, hp⟩ := hinv.chosen id hid
    exact ⟨a, ha, AgentRole.isPrimary_iff.mp hp, hinv.primaryOpen id a ha hp⟩

def sampleAgent : AgentSessionFacts where
  id := ⟨1⟩
  taskId := ⟨1⟩
  role := .primary
  providerKind := .codex
  providerSessionId := none
  lifecycle := .opened
  runtimeGeneration := 1
  revision := 0

def registeredSnapshot : TaskSnapshot :=
  { sampleSnapshot with
    agents := (∅ : ExtTreeMap AgentSessionId AgentSessionFacts).insert ⟨1⟩ sampleAgent
    providerSessions := (∅ : ExtTreeMap AgentSessionId ProviderSessionProjection).insertIfNew ⟨1⟩
      .default }.withRevision 2

theorem reachable_registeredSnapshot [Externals] : kernel.Reachable registeredSnapshot :=
  reachable_command (.start created_sampleSnapshot) (.registerAgentSession sampleAgent) rfl rfl

def chosenSnapshot : TaskSnapshot :=
  { registeredSnapshot with primaryAgentId := some ⟨1⟩ }.withRevision 3

def reviewRequest : RequestSpecialistIntent where
  specialist := { sampleAgent with id := ⟨2⟩, role := .specialist "reviewer" }
  requestedBy := ⟨1⟩
  purpose := "review"
  permission := .readOnly
  workspace := .main
  expectedArtifactKind := .reviewReport
  expectedActionEpoch := 0
  expectedRuntimeGeneration := 1
  resourceId := none
  maxTopLevelRuntimes := 2

/-- The task with its chosen primary agent and a specialist that reviews. -/
def staffedSnapshot : TaskSnapshot :=
  (chosenSnapshot.setAgent ⟨2⟩ reviewRequest.specialist).withRevision 4

section Sample

attribute [local instance] sampleExternals

theorem reachable_chosenSnapshot : kernel.Reachable chosenSnapshot :=
  reachable_command reachable_registeredSnapshot (.setPrimaryAgent ⟨1⟩) rfl rfl

theorem reachable_staffedSnapshot : kernel.Reachable staffedSnapshot :=
  reachable_command reachable_chosenSnapshot (.requestSpecialist reviewRequest) rfl rfl

theorem primary_and_runtime_cap_staffed :
    (∀ (i j : AgentSessionId) a b, staffedSnapshot.agents[i]? = some a →
        staffedSnapshot.agents[j]? = some b → a.role = .primary → b.role = .primary → i = j) ∧
      (∃ a, staffedSnapshot.agents[(⟨1⟩ : AgentSessionId)]? = some a ∧ a.role = .primary ∧
        a.lifecycle = .opened) ∧
      staffedSnapshot.topLevelRuntimeCount ≤ defaultMaxTopLevelRuntimes := by
  obtain ⟨hunique, hchosen, hroom⟩ :=
    primary_and_runtime_cap (visited_of_kernel reachable_staffedSnapshot)
  exact ⟨hunique, hchosen ⟨1⟩ rfl, hroom⟩

end Sample

end DevManager
