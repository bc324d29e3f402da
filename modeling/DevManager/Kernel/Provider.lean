import DevManager.Kernel.Sessions

/-!
# Decided provider input

`decide` and `apply` both check provider input: `decide` guard by guard, `apply`
through the whole fence and the bounded maps. This module says when they agree.
-/

namespace DevManager

open Std (ExtTreeMap)
open OrdMap ProviderSessionProjection TaskSnapshot Option

/-! ## Input that is decided -/

/-- There is room for the winner that the action makes. -/
def HasRoom (session : ProviderSessionProjection) : ProviderInputAction → Prop
  | .answerQuestion .. => session.questionWinners.size < maxProviderQuestionWins
  | .resolveApproval .. => session.approvalWinners.size < maxProviderApprovalWins
  | _ => True

section Input

variable {s : TaskSnapshot}

theorem currentTurnOf_eq (s : TaskSnapshot) (id) :
    currentTurnOf s id = (s.sessionOf id).currentTurn := by
  unfold currentTurnOf sessionOf
  cases s.providerSessions[id]? <;> rfl

theorem fenceContext_live {id : AgentSessionId} {agent}
    {turn} {closing : Bool} (hopen : agent.lifecycle = .opened) :
    (fenceContext s id agent turn closing).live = true := by
  simp [ProviderFenceContext.live, fenceContext, hopen]

variable {envelope : CommandEnvelope}

theorem turn_of_checkActionTurn {intent : SubmitProviderInputIntent} {operationId agent t}
    (hcheck : checkActionTurn (s.sessionOf intent.agentSessionId) intent = .ok ())
    (ht : acceptedCurrentTurn s (intent.accepted envelope operationId agent) = some t) :
    intent.turnId = t := by
  unfold acceptedCurrentTurn SubmitProviderInputIntent.accepted at ht
  unfold sessionOf at hcheck
  cases hsess : s.providerSessions[intent.agentSessionId]? with
  | none =>
    rw [hsess] at ht
    cases ht
  | some session =>
    rw [hsess] at ht hcheck
    simp only [bind_some, getD_some] at ht hcheck
    unfold checkActionTurn at hcheck
    cases ha : intent.action <;> rw [ha] at ht hcheck <;>
      simp only [ProviderInputAction.isSendNow, ok_iff, Bool.false_eq_true, false_and, if_false,
        true_and] at ht hcheck
    case sendNow text wait images =>
      rw [if_pos hcheck] at ht
      cases ht
    case terminalInput text =>
      by_contra hne
      exact hcheck ⟨t, ht, fun h => hne h.symm⟩
    case answerQuestion | resolveApproval =>
      rw [hcheck.2.2] at ht
      exact some.inj ht
    all_goals
      rw [hcheck] at ht
      exact some.inj ht

variable {session : ProviderSessionProjection}

theorem resolvable_iff_hasRoom
    {intent : SubmitProviderInputIntent} (hcheck : checkActionTurn session intent = .ok ()) :
    session.Resolvable intent.action ↔ HasRoom session intent.action := by
  unfold checkActionTurn at hcheck
  cases ha : intent.action <;> rw [ha] at hcheck <;>
    simp only [ProviderSessionProjection.Resolvable, HasRoom, ok_iff] at hcheck ⊢
  case answerQuestion | resolveApproval =>
    simp only [hcheck.1, hcheck.2.1, not_false_eq_true, true_and]

theorem acceptIntoSession_iff {fact : ProviderInputAcceptedFact} {taskId} {t : ℤ}
    (hwait : fact.wait = fact.action.waitsForTurn) (hroom : fact.action.waitsForTurn = true →
      fact.commandId ∈ session.waits ∨ session.pendingWaits < maxProviderWaits) :
    (∃ session', acceptIntoSession session fact taskId t = .ok session') ↔
      session.Resolvable fact.action := by
  simp only [acceptIntoSession_eq_ok]
  constructor
  · rintro ⟨_, hres, -⟩
    exact hres
  · intro hres
    by_cases hw : fact.wait = true
    · have hwaits : fact.action.waitsForTurn = true := by rw [← hwait, hw]
      -- only a `SendNow` waits, and it resolves nothing
      have hresolved : (session.begun fact).resolved (fact.winner t) fact.action =
          session.begun fact := by
        cases ha : fact.action <;> rw [ha] at hwaits <;> first | rfl | cases hwaits
      have hfits : fact.commandId ∈ (session.begun fact).waits ∨
          (session.begun fact).pendingWaits < maxProviderWaits := hroom hwaits
      obtain ⟨session', hsess'⟩ : ∃ session', (session.begun fact).boundedInsertWait
          fact.commandId (fact.waitRecord taskId) = .ok session' :=
        boundedInsertWait_total hfits
      refine ⟨session', hres, ?_⟩
      rw [if_pos hw, hresolved]
      exact hsess'
    · exact ⟨_, hres, by rw [if_neg hw]⟩

variable [Externals]

variable {events : List Event}

theorem submit_accepted_iff {operationId : OperationId} {intent}
    (hdec : decideSubmitProviderInput (some s) envelope operationId intent = .ok events) :
    Applicable s events ↔ s.task.revision < u64Max ∧
      HasRoom (s.sessionOf intent.agentSessionId) intent.action := by
  obtain ⟨-, -, hnested, agent, hagent, htask, hopen, hcodex, hgen, hepoch, hcheck, hroom, rfl⟩ :=
    decideSubmitProviderInput_eq_ok.mp hdec
  rw [applicable_singleton rfl]
  refine and_congr_right fun _ => ?_
  rw [← resolvable_iff_hasRoom hcheck]
  set fact := intent.accepted envelope operationId agent
  have hformed : (fact.fence s.task.id).WellFormed :=
    ⟨⟨agent.providerKind, rfl, hcodex⟩, fun _ => rfl, not_both_of_validateActionNestedIds hnested⟩
  have hfits : (fact.fence s.task.id).Fits
      (fenceContext s fact.agentSessionId agent (acceptedCurrentTurn s fact) false) :=
    { task := rfl, agent := rfl, kind := rfl, session := rfl, owner := htask
      generation := hgen.symm, epoch := hepoch.symm, live := fenceContext_live hopen
      turn := fun _ ht => turn_of_checkActionTurn hcheck ht }
  have hsess : ∀ t, (∃ session, acceptIntoSession (s.sessionOf intent.agentSessionId) fact
      s.task.id t = .ok session) ↔
        (s.sessionOf intent.agentSessionId).Resolvable intent.action := fun t =>
    acceptIntoSession_iff rfl hroom
  constructor
  · intro heff
    obtain ⟨_, hmid⟩ := heff 0
    obtain ⟨-, -, session, hacc, -⟩ := applyProviderInputAccepted_eq_ok.mp hmid
    exact (hsess 0).mp ⟨session, hacc⟩
  · intro hres t
    obtain ⟨session, hacc⟩ := (hsess t).mpr hres
    exact ⟨_, applyProviderInputAccepted_eq_ok.mpr ⟨rfl,
      ⟨agent, hagent, ⟨hformed, hfits⟩, hnested, rfl⟩, session, hacc, rfl⟩⟩

theorem question_accepted_iff {intent : PresentProviderQuestionIntent} (hinv : AgentInv s)
    (hdec : decidePresentProviderQuestion (some s) envelope intent = .ok events) :
    Applicable s events ↔ s.task.revision < u64Max := by
  obtain ⟨-, -, agent, hagent, hopen, session, hsess, ⟨hgen, hepoch⟩, hturn, hnew, hnone, rfl⟩ :=
    decidePresentProviderQuestion_eq_ok.mp hdec
  rw [applicable_singleton rfl, and_iff_left]
  intro t
  refine ⟨_, applyProviderQuestionPresented_eq_ok.mpr ⟨⟨agent, hagent, ?_, ?_⟩, hnew, hnone, rfl⟩⟩
  · exact ⟨⟨agent.providerKind, rfl, nofun⟩, nofun, fun h => nomatch h.2⟩
  · exact {
      task := rfl, agent := rfl, kind := rfl, session := hsess.symm
      owner := hinv.task _ _ hagent, generation := hgen.symm, epoch := hepoch.symm
      live := fenceContext_live hopen
      turn := fun t ht => (hturn t ((currentTurnOf_eq s _).symm.trans ht)).symm }

theorem approval_accepted_iff {intent : PresentProviderApprovalIntent} (hinv : AgentInv s)
    (hdec : decidePresentProviderApproval (some s) envelope intent = .ok events) :
    Applicable s events ↔ s.task.revision < u64Max := by
  obtain ⟨-, -, agent, hagent, hopen, session, hsess, ⟨hgen, hepoch⟩, hturn, hnew, hnone, rfl⟩ :=
    decidePresentProviderApproval_eq_ok.mp hdec
  rw [applicable_singleton rfl, and_iff_left]
  intro t
  refine ⟨_, applyProviderApprovalPresented_eq_ok.mpr ⟨⟨agent, hagent, ?_, ?_⟩, hnew, hnone, rfl⟩⟩
  · exact ⟨⟨agent.providerKind, rfl, nofun⟩, nofun, fun h => nomatch h.1⟩
  · exact {
      task := rfl, agent := rfl, kind := rfl, session := hsess.symm
      owner := hinv.task _ _ hagent, generation := hgen.symm, epoch := hepoch.symm
      live := fenceContext_live hopen
      turn := fun t ht => (hturn t ((currentTurnOf_eq s _).symm.trans ht)).symm }

end Input

/-- The commands by which input and questions reach a provider session. -/
def Command.isProviderInput : Command → Bool
  | submitProviderInput _ | presentProviderQuestion _ | presentProviderApproval _ => true
  | _ => false

/-- Decided provider input is applicable iff the next revision exists and the winner it makes, if
it makes one, has room. -/
theorem provider_input_applicable_iff [Externals] {s : TaskSnapshot} {envelope : CommandEnvelope}
    {operationId : OperationId} {events : List Event} (hs : visited.Reachable s)
    (hcommand : envelope.command.isProviderInput = true)
    (hdec : Command.decide (some s) envelope operationId = .ok events) :
    Applicable s events ↔ s.task.revision < u64Max ∧
      ∀ intent, envelope.command = .submitProviderInput intent →
        HasRoom (s.sessionOf intent.agentSessionId) intent.action := by
  have hinv : AgentInv s := agentInv_of_guarded (guarded_of_visited hs)
  unfold Command.decide at hdec
  cases hc : envelope.command <;> rw [hc] at hcommand <;> try cases hcommand
  all_goals
    simp only [hc] at hdec
    simp only [reduceCtorEq, false_implies, implies_true, and_true,
      Command.submitProviderInput.injEq, forall_eq']
  case submitProviderInput intent => exact submit_accepted_iff hdec
  case presentProviderQuestion intent => exact question_accepted_iff hinv hdec
  case presentProviderApproval intent => exact approval_accepted_iff hinv hdec

/-! ## A run that fills the winners -/

structure Polled [Externals] (s : TaskSnapshot) (n : ℕ) (question : Option QuestionId) : Prop where
  reachable : kernel.Reachable s
  id : s.task.id = ⟨1⟩
  lifecycle : s.task.lifecycle = .opened
  epoch : s.task.actionEpoch = 0
  revision : s.task.revision ≤ 4 + 2 * n + question.toList.length
  agent : s.agents[(⟨1⟩ : AgentSessionId)]? = some boundAgent
  turn : ∀ t, (s.sessionOf ⟨1⟩).currentTurn = some t → t = ⟨1⟩
  begun : question.isSome = true → (s.sessionOf ⟨1⟩).currentTurn = some ⟨1⟩
  opened : (s.sessionOf ⟨1⟩).openQuestion = question
  winners : (s.sessionOf ⟨1⟩).questionWinners.size = n
  fresh : ∀ m, n < m → (⟨m⟩ : QuestionId) ∉ (s.sessionOf ⟨1⟩).questionWinners

section Polling

variable [Externals] {s : TaskSnapshot} {n : ℕ} {question : Option QuestionId}

theorem polled_boundSnapshot : Polled boundSnapshot 0 none :=
  ⟨reachable_boundSnapshot, rfl, rfl, rfl, le_refl 4, rfl, nofun, nofun, rfl, rfl, nofun⟩

omit [Externals] in
theorem sessionOf_setSession (s : TaskSnapshot) (id)
    (session) : (s.setSession id session).sessionOf id = session := by
  unfold sessionOf setSession
  simp

theorem Polled.revision_lt (h : Polled s n question) (hn : n ≤ maxProviderQuestionWins) :
    s.task.revision < u64Max := by
  have hrev := h.revision
  have hlen : question.toList.length ≤ 1 := by cases question <;> simp
  have hmax : maxProviderQuestionWins = 256 := rfl
  have hu64 : u64Max = 2 ^ 64 - 1 := rfl
  omega

theorem Polled.write {n' : ℕ} {question' : Option QuestionId} {session} (h : Polled s n question)
    (hreach : kernel.Reachable ((s.setSession ⟨1⟩ session).withRevision (s.task.revision + 1)))
    (hrev : 2 * n + question.toList.length + 1 ≤ 2 * n' + question'.toList.length)
    (hturn : session.currentTurn = some ⟨1⟩) (hopen : session.openQuestion = question')
    (hwinners : session.questionWinners.size = n')
    (hfresh : ∀ m, n' < m → (⟨m⟩ : QuestionId) ∉ session.questionWinners) :
    Polled ((s.setSession ⟨1⟩ session).withRevision (s.task.revision + 1)) n' question' := by
  have hsess : ((s.setSession ⟨1⟩ session).withRevision (s.task.revision + 1)).sessionOf ⟨1⟩ =
      session := sessionOf_setSession s ⟨1⟩ session
  refine ⟨hreach, h.id, h.lifecycle, h.epoch, ?_, h.agent, ?_, ?_, ?_, ?_, ?_⟩
  · show s.task.revision + 1 ≤ _
    have hrevision := h.revision
    omega
  · intro t ht
    rw [hsess, hturn] at ht
    exact (some.inj ht).symm
  · intro _
    rw [hsess, hturn]
  · rw [hsess, hopen]
  · rw [hsess, hwinners]
  · rw [hsess]
    exact hfresh

theorem Polled.ask (h : Polled s n none) (hn : n ≤ maxProviderQuestionWins) :
    ∃ s', Polled s' n (some ⟨n + 1⟩) := by
  have hdec : Command.decide (some s) (envelopeFor s (.presentProviderQuestion
      (sampleQuestion (n + 1)))) ⟨1⟩ = .ok [_] :=
    decidePresentProviderQuestion_eq_ok.mpr ⟨addressed_envelopeFor s _, .inl h.lifecycle,
      boundAgent, h.agent, rfl, sampleSession, rfl, ⟨rfl, h.epoch⟩, h.turn,
      h.fresh (n + 1) (by omega), h.opened, rfl⟩
  have hinv : AgentInv s := agentInv_of_guarded (guarded_of_visited (visited_of_kernel h.reachable))
  obtain ⟨s', hs'⟩ :=
    (question_accepted_iff hinv hdec).mpr (h.revision_lt hn) [(sampleStamp, _)] rfl
  have happly := applyBatch_singleton.mp hs'
  have hreach : kernel.Reachable s' := reachable_command h.reachable _ hdec happly
  obtain ⟨-, mid, hmid, rfl⟩ := applyStamped_eq_ok.mp happly
  obtain ⟨-, -, -, rfl⟩ := applyProviderQuestionPresented_eq_ok.mp hmid
  exact ⟨_, h.write hreach (by simp) rfl rfl h.winners h.fresh⟩

theorem Polled.decide_answer (h : Polled s n (some ⟨n + 1⟩)) :
    Command.decide (some s) (envelopeFor s (.submitProviderInput (sampleAnswer (n + 1)))) ⟨1⟩ =
      .ok [.providerInputAccepted ((sampleAnswer (n + 1)).accepted
        (envelopeFor s (.submitProviderInput (sampleAnswer (n + 1)))) ⟨1⟩ boundAgent)] := by
  refine decideSubmitProviderInput_eq_ok.mpr ⟨addressed_envelopeFor s _, .inl h.lifecycle, ?_,
    boundAgent, h.agent, h.id.symm, rfl, nofun, rfl, h.epoch, ?_, nofun, rfl⟩
  · simp only [sampleAnswer, validateActionNestedIds, validateProviderText, ok_iff, ne_eq,
      isSome_none, Bool.false_eq_true]
    decide
  · show checkActionTurn (s.sessionOf ⟨1⟩) (sampleAnswer (n + 1)) = .ok ()
    simp only [sampleAnswer, checkActionTurn, ok_iff, ne_eq]
    exact ⟨h.fresh (n + 1) (by omega), h.opened, failIf_eq_ok.mpr (not_not.mpr (h.begun rfl))⟩

theorem Polled.answer (h : Polled s n (some ⟨n + 1⟩)) (hn : n < maxProviderQuestionWins) :
    ∃ s', Polled s' (n + 1) none := by
  have hroom : HasRoom (s.sessionOf ⟨1⟩) (sampleAnswer (n + 1)).action := by
    show (s.sessionOf ⟨1⟩).questionWinners.size < _
    rw [h.winners]
    exact hn
  obtain ⟨s', hs'⟩ := (submit_accepted_iff h.decide_answer).mpr
    ⟨h.revision_lt (le_of_lt hn), hroom⟩ [(sampleStamp, _)] rfl
  have happly := applyBatch_singleton.mp hs'
  have hreach : kernel.Reachable s' := reachable_command h.reachable _ h.decide_answer happly
  obtain ⟨-, mid, hmid, rfl⟩ := applyStamped_eq_ok.mp happly
  obtain ⟨-, -, session, hacc, rfl⟩ := applyProviderInputAccepted_eq_ok.mp hmid
  obtain ⟨-, hsess⟩ := acceptIntoSession_eq_ok.mp hacc
  rw [if_neg (by exact Bool.false_ne_true)] at hsess
  -- an answer does not resume a settled task
  have hres : ∀ fact : ProviderInputAcceptedFact, resumed s fact = s := by
    intro fact
    unfold resumed
    rw [if_neg]
    rintro ⟨hsettled, -⟩
    rw [h.lifecycle] at hsettled
    cases hsettled
  rw [hres] at hreach
  refine ⟨_, h.write hreach (by simp; omega) ?_ ?_ ?_ ?_⟩
  · rw [hsess]
    rfl
  · rw [hsess]
    rfl
  · rw [hsess]
    show ((s.sessionOf ⟨1⟩).questionWinners.insert ⟨n + 1⟩ _).size = n + 1
    have hnew : (⟨n + 1⟩ : QuestionId) ∉ (s.sessionOf ⟨1⟩).questionWinners :=
      h.fresh (n + 1) (by omega)
    rw [ExtTreeMap.size_insert, if_neg (by rw [ExtTreeMap.contains_iff_mem]; exact hnew), h.winners]
  · rw [hsess]
    intro m hm hmem
    rcases mem_insert_iff.mp hmem with heq | hold
    · have : m = n + 1 := congrArg Uuid7.payload heq
      omega
    · exact h.fresh m (by omega) hold

theorem exists_polled : ∀ n ≤ maxProviderQuestionWins, ∃ s, Polled s n none := by
  intro n
  induction n with
  | zero => exact fun _ => ⟨_, polled_boundSnapshot⟩
  | succ n ih =>
    intro hn
    obtain ⟨s, hs⟩ := ih (by omega)
    obtain ⟨asked, hask⟩ := hs.ask (by omega)
    exact hask.answer hn

end Polling

/-- After 256 answers the next open question is decided as answered, and then refused. -/
theorem provider_input_winners_full :
    ¬ ∃ _ : Externals, ∀ s (envelope : CommandEnvelope)
      (operationId : OperationId) events, kernel.Reachable s →
      envelope.command.isProviderInput = true →
      Command.decide (some s) envelope operationId = .ok events → Applicable s events := by
  rintro ⟨_, hclaim⟩
  obtain ⟨s, hs⟩ := exists_polled maxProviderQuestionWins (le_refl _)
  obtain ⟨asked, hask⟩ := hs.ask (le_refl _)
  have happly := hclaim asked _ ⟨1⟩ _ hask.reachable rfl hask.decide_answer
  obtain ⟨-, hroom⟩ := (submit_accepted_iff hask.decide_answer).mp happly
  have hlt : (asked.sessionOf ⟨1⟩).questionWinners.size < maxProviderQuestionWins := hroom
  rw [hask.winners] at hlt
  exact lt_irrefl _ hlt

section Sample

attribute [local instance] sampleExternals

theorem provider_input_applicable_answer :
    ∃ s events, visited.Reachable s ∧
      Command.decide (some s) (envelopeFor s (.submitProviderInput (sampleAnswer 1))) ⟨1⟩ =
        .ok events ∧ Applicable s events := by
  obtain ⟨s, hs⟩ := polled_boundSnapshot.ask (Nat.zero_le _)
  have hreach : visited.Reachable s := visited_of_kernel hs.reachable
  refine ⟨s, _, hreach, hs.decide_answer,
    (provider_input_applicable_iff hreach rfl hs.decide_answer).mpr
      ⟨hs.revision_lt (Nat.zero_le _), ?_⟩⟩
  intro intent hintent
  cases hintent
  show (s.sessionOf ⟨1⟩).questionWinners.size < maxProviderQuestionWins
  rw [hs.winners]
  decide

end Sample

/-! ## Waits -/

/-- A wait record names its session, its task, and the kind and generation of its agent. -/
def WaitsInv (s : TaskSnapshot) : Prop :=
  ∀ id session (c : CommandId)
    (r : ProviderWaitRecord), s.providerSessions[id]? = some session →
    session.waits[c]? = some r → r.fence.agentSessionId = id ∧ r.fence.taskId = s.task.id ∧
      ∃ agent, s.agents[id]? = some agent ∧ r.fence.providerKind = some agent.providerKind ∧
        r.fence.runtimeGeneration = agent.runtimeGeneration

/-- An agent before and after an event: its generation stays, and its kind unless the event
rebinds an unstarted draft. -/
def KeptAgent (s : TaskSnapshot) (p : Event) (before after : AgentSessionFacts) : Prop :=
  after.runtimeGeneration = before.runtimeGeneration ∧
    (after.providerKind = before.providerKind ∨
      s.isUnstartedDraft = true ∧ ∃ id kind, p = .unstartedPrimaryProviderRebound id kind)

section Waits

variable {s s' : TaskSnapshot} {p : Event}

theorem KeptAgent.refl (agent) : KeptAgent s p agent agent :=
  ⟨rfl, .inl rfl⟩

theorem KeptAgent.trans {a b c : AgentSessionFacts} (h : KeptAgent s p a b)
    (h' : KeptAgent s p b c) : KeptAgent s p a c := by
  obtain ⟨hgen, hkind⟩ := h
  obtain ⟨hgen', hkind'⟩ := h'
  refine ⟨hgen'.trans hgen, ?_⟩
  rcases hkind with hkind | hdraft
  · rcases hkind' with hkind' | hdraft
    · exact .inl (hkind'.trans hkind)
    · exact .inr hdraft
  · exact .inr hdraft

section Insert

variable {m : ExtTreeMap AgentSessionId AgentSessionFacts} {id i : AgentSessionId}
  {agent a b : AgentSessionFacts}

theorem kept_insert_new (hnew : i ∉ m) (hagent : m[id]? = some agent) :
    ∃ agent', (m.insert i b)[id]? = some agent' ∧ KeptAgent s p agent agent' := by
  refine exists_insert_related .refl hagent ?_
  rintro rfl
  exact absurd (mem_iff_exists.mpr ⟨agent, hagent⟩) hnew

theorem kept_insert (hold : m[i]? = some a) (hkept : KeptAgent s p a b)
    (hagent : m[id]? = some agent) :
    ∃ agent', (m.insert i b)[id]? = some agent' ∧ KeptAgent s p agent agent' := by
  refine exists_insert_related .refl hagent ?_
  rintro rfl
  rw [hold] at hagent
  cases hagent
  exact hkept

end Insert

theorem AgentStep.kept (h : AgentStep s p s') {id : AgentSessionId} {agent}
    (hagent : s.agents[id]? = some agent) :
    ∃ agent', s'.agents[id]? = some agent' ∧ KeptAgent s p agent agent' := by
  cases h with
  | frame hagents | chosen _ _ hagents =>
    rw [hagents]
    exact ⟨agent, hagent, .refl agent⟩
  | registered _ _ _ hnew hagents | requested _ _ _ hnew _ _ hagents =>
    rw [hagents]
    exact kept_insert_new hnew hagent
  | session hold hagents | closed hold _ _ hagents =>
    rw [hagents]
    exact kept_insert hold ⟨rfl, .inl rfl⟩ hagent
  | rebound hdraft hold hagents =>
    rw [hagents]
    exact kept_insert hold ⟨rfl, .inr ⟨hdraft, _, _, rfl⟩⟩ hagent
  | @promoted _ previous promoted before after epoch generation hne _ hpre hpost _ _ _ _
      hagents =>
    rw [hagents]
    have hrole : KeptAgent s (.primaryPromoted previous promoted epoch generation) before
        { before with role := .specialist "primary" } := ⟨rfl, .inl rfl⟩
    obtain ⟨agent₁, hagent₁, hkept₁⟩ := kept_insert hpre hrole hagent
    have hafter' : (s.agents.insert previous
        { before with role := .specialist "primary" })[promoted]? = some after := by
      rw [getElem?_insert_eq, if_neg hne, hpost]
    have hrole' : KeptAgent s (.primaryPromoted previous promoted epoch generation) after
        { after with role := .primary } := ⟨rfl, .inl rfl⟩
    obtain ⟨agent₂, hagent₂, hkept₂⟩ := kept_insert hafter' hrole' hagent₁
    exact ⟨agent₂, hagent₂, hkept₁.trans hkept₂⟩

variable {session : ProviderSessionProjection}

theorem waits_of_isUnstartedDraft (h : s.isUnstartedDraft = true) {id : AgentSessionId}
     (hsess : s.providerSessions[id]? = some session)
    (c : CommandId) : session.waits[c]? = none := by
  unfold isUnstartedDraft at h
  simp only [Bool.and_eq_true, Bool.not_eq_true', valuesAny_eq_false] at h
  obtain ⟨⟨-, hstart⟩, -⟩ := h
  have hsess := hstart id session hsess
  unfold started at hsess
  simp only [Bool.or_eq_false_iff, Bool.not_eq_false'] at hsess
  rw [ExtTreeMap.isEmpty_iff.mp hsess.1.2]
  simp

variable {c : CommandId}

theorem waits_of_sessionOf {id : AgentSessionId} {r} (h : (s.sessionOf id).waits[c]? = some r) :
    ∃ session, s.providerSessions[id]? = some session ∧ session.waits[c]? = some r := by
  unfold sessionOf at h
  cases hsess : s.providerSessions[id]? with
  | none =>
    rw [hsess] at h
    simp [ProviderSessionProjection.default] at h
  | some session =>
    rw [hsess] at h
    exact ⟨session, rfl, h⟩

variable {session' : ProviderSessionProjection}

theorem waits_of_accept {fact : ProviderInputAcceptedFact} {taskId} {t : ℤ}
    (hacc : acceptIntoSession session fact taskId t = .ok session')
    {r} (hr : session'.waits[c]? = some r) :
    r = fact.waitRecord taskId ∨ session.waits[c]? = some r := by
  obtain ⟨-, hwait⟩ := acceptIntoSession_eq_ok.mp hacc
  have hwaits : ((session.begun fact).resolved (fact.winner t) fact.action).waits =
      session.waits := by
    cases fact.action <;> rfl
  split_ifs at hwait
  · obtain ⟨hnew, hold, -⟩ := boundedInsertWait_waits hwait
    by_cases hc : c = fact.commandId
    · rw [hc, hnew] at hr
      exact .inl (some.inj hr).symm
    · have hr' := hold c r hc hr
      rw [hwaits] at hr'
      exact .inr hr'
  · rw [hwait, hwaits] at hr
    exact .inr hr

/-- The record `r'` is an old record of the session, up to its being settled. -/
def IsOldWait (s : TaskSnapshot) (id : AgentSessionId) (c : CommandId)
    (r' : ProviderWaitRecord) : Prop :=
  ∃ session r, s.providerSessions[id]? = some session ∧ session.waits[c]? = some r ∧
    r.fence = r'.fence

theorem SessionStep.origin (h : SessionStep s p s') {id : AgentSessionId} {r'}
    (hsess : s'.providerSessions[id]? = some session') (hr : session'.waits[c]? = some r') :
    IsOldWait s id c r' ∨
      ∃ fact agent turn, p = .providerInputAccepted fact ∧ id = fact.agentSessionId ∧
        s.agents[id]? = some agent ∧ r'.fence = (fact.waitRecord s.task.id).fence ∧
        (fact.fence s.task.id).Fits (fenceContext s id agent turn false) := by
  -- an event that writes the session at `j`
  have hwrite : ∀ {j : AgentSessionId} {after : ProviderSessionProjection},
      s'.providerSessions = s.providerSessions.insert j after →
      id = j ∧ session' = after ∨ IsOldWait s id c r' := by
    intro j after hins
    rw [hins, getElem?_insert_eq] at hsess
    split_ifs at hsess with hj
    · exact .inl ⟨hj.symm, (some.inj hsess).symm⟩
    · exact .inr ⟨session', r', hsess, hr, rfl⟩
  have hkept : (s.sessionOf id).waits[c]? = some r' → IsOldWait s id c r' := by
    intro hr'
    obtain ⟨session, hsess, hr'⟩ := waits_of_sessionOf hr'
    exact ⟨session, r', hsess, hr', rfl⟩
  cases h with
  | frame hsessions =>
    rw [hsessions] at hsess
    exact .inl ⟨session', r', hsess, hr, rfl⟩
  | registered hsessions =>
    rw [hsessions, ExtTreeMap.getElem?_insertIfNew] at hsess
    split_ifs at hsess
    · cases hsess
      simp [ProviderSessionProjection.default] at hr
    · exact .inl ⟨session', r', hsess, hr, rfl⟩
  | accepted hagent _ hfits _ hacc hsessions =>
    rcases hwrite hsessions with ⟨rfl, rfl⟩ | hold
    · rcases waits_of_accept hacc hr with rfl | hold
      · exact .inr ⟨_, _, _, rfl, rfl, hagent, rfl, hfits⟩
      · exact .inl (hkept hold)
    · exact .inl hold
  | question _ _ _ _ hsessions | approval _ _ _ _ hsessions =>
    rcases hwrite hsessions with ⟨rfl, rfl⟩ | hold
    · exact .inl (hkept hr)
    · exact .inl hold
  | @settled _ fence session record hold hrec _ _ hsessions =>
    rcases hwrite hsessions with ⟨rfl, rfl⟩ | hold
    · rcases of_insert hr with ⟨hc, rfl⟩ | ⟨hc, hr⟩
      · exact .inl ⟨session, record, hold, hc ▸ hrec, rfl⟩
      · exact .inl ⟨session, r', hold, hr, rfl⟩
    · exact .inl hold
  | delivered hold _ hsessions =>
    rcases hwrite hsessions with ⟨rfl, rfl⟩ | hold'
    · exact .inl ⟨_, r', hold, hr, rfl⟩
    · exact .inl hold'

variable [Externals]

theorem waitsInv_effect {t : ℤ} (h : WaitsInv s) : Ensures (effect s p t) WaitsInv := by
  intro s' heff
  obtain ⟨hid, -, -⟩ := effect_task s p t s' heff
  have hagents : AgentStep s p s' := effect_agents s p t s' heff
  intro id session' c r' hsess hr
  rcases (effect_sessions s p t s' heff).origin hsess hr with
    ⟨session, r, hold, hr, hfence⟩ | ⟨fact, agent, turn, rfl, rfl, hagent, hfence, hfits⟩
  · obtain ⟨hsides, htask, agent, hagent, hkind, hgen⟩ := h id session c r hold hr
    obtain ⟨agent', hagent', hgen', hkind'⟩ := hagents.kept hagent
    have hsame : agent'.providerKind = agent.providerKind := by
      refine hkind'.resolve_right ?_
      rintro ⟨hdraft, -⟩
      rw [waits_of_isUnstartedDraft hdraft hold c] at hr
      cases hr
    rw [← hfence, hid]
    exact ⟨hsides, htask, agent', hagent', by rw [hkind, hsame], by rw [hgen, hgen']⟩
  · obtain ⟨agent', hagent', hgen', hkind'⟩ := hagents.kept hagent
    have hsame : agent'.providerKind = agent.providerKind := by
      refine hkind'.resolve_right ?_
      rintro ⟨-, _, _, hp⟩
      cases hp
    rw [hfence, hid]
    refine ⟨rfl, rfl, agent', hagent', ?_, ?_⟩
    · rw [hsame]
      exact hfits.kind
    · rw [hgen']
      exact hfits.generation

theorem waitsInv_of_unguarded (h : unguarded.Reachable s) : WaitsInv s := by
  refine eventMachine_invariant h (fun s hs => ?_) (fun _ _ h => h)
    fun _ _ _ _ hinv _ => waitsInv_effect hinv
  intro id session c r hsess
  rw [hs.sessions] at hsess
  simp at hsess

end Waits

/-- The command that settles the record's wait is decided as one event, which `apply` accepts; after
it that record is not pending, and nothing else of the sessions has changed. -/
def Settles [Externals] (s : TaskSnapshot) (id : AgentSessionId)
    (session : ProviderSessionProjection) (c : CommandId) (record : ProviderWaitRecord) : Prop :=
  ∀ envelope operationId stamp,
    Addressed s envelope → envelope.command = .settleProviderWait record.fence →
      Command.decide (some s) envelope operationId = .ok [.providerWaitSettled record.fence] ∧
        ∃ s', applyStamped s (stamp, .providerWaitSettled record.fence) = .ok s' ∧
          s'.providerSessions = s.providerSessions.insert id { session with
            waits := session.waits.insert c { record with pending := false } }

/-- A pending wait of an open agent can be settled by its own fence iff the task's epoch and the
agent's provider session are those of the fence, and the next revision exists. -/
theorem settle_wait_iff [Externals] {s : TaskSnapshot} {id : AgentSessionId}
    {session : ProviderSessionProjection} {c : CommandId} {record : ProviderWaitRecord}
    {agent : AgentSessionFacts} (hs : visited.Reachable s) (hlife : OpenOrClosing s)
    (hsess : s.providerSessions[id]? = some session) (hrec : session.waits[c]? = some record)
    (hpend : record.pending = true) (hagent : s.agents[id]? = some agent)
    (hopen : agent.lifecycle = .opened) :
    Settles s id session c record ↔
      record.fence.actionEpoch = s.task.actionEpoch ∧
        record.fence.providerSessionId = agent.providerSessionId ∧ s.task.revision < u64Max := by
  have hguard : guarded.Reachable s := guarded_of_visited hs
  have hunguarded : unguarded.Reachable s := unguarded_of_guarded hguard
  have hagents : AgentInv s := agentInv_of_guarded hguard
  have hinv : SessionInv session := sessionsInv_of_unguarded hunguarded id session hsess
  obtain ⟨hcmd, -, hformed⟩ := hinv.fence c record hrec
  obtain ⟨hid, htask, agent', hagent', hkind, hgen⟩ :=
    waitsInv_of_unguarded hunguarded id session c record hsess hrec
  rw [hagent] at hagent'
  cases hagent'
  have hturn : currentTurnOf s id = some record.fence.turnId := by
    unfold currentTurnOf
    rw [hsess]
    exact hinv.turn c record hrec hpend
  constructor
  · intro hset
    obtain ⟨-, s', happly, -⟩ := hset (envelopeFor s (.settleProviderWait record.fence)) ⟨1⟩
      sampleStamp (addressed_envelopeFor s _) rfl
    obtain ⟨hrev, mid, hmid, -⟩ := applyStamped_eq_ok.mp happly
    obtain ⟨⟨agent', hagent', -, hfits⟩, -⟩ := applyProviderWaitSettled_eq_ok.mp hmid
    rw [hid, hagent] at hagent'
    cases hagent'
    exact ⟨hfits.epoch, hfits.session, hrev rfl⟩
  · rintro ⟨hepoch, hprovider, hrev⟩ envelope operationId stamp haddr hc
    constructor
    · unfold Command.decide
      rw [hc]
      refine decideSettleProviderWait_eq_ok.mpr ⟨haddr, hlife, htask, hformed, session, ?_, record,
        ?_, rfl, agent, ?_, ?_, hgen.symm, hepoch.symm, hpend, rfl⟩
      · rw [hid, hsess]
      · rw [hcmd, hrec]
      · rw [hid, hagent]
      · rw [hopen]
        decide
    · have hfits : record.fence.identity.Fits (fenceContext s record.fence.agentSessionId agent
          (currentTurnOf s record.fence.agentSessionId) true) := {
        task := congrArg some htask, agent := rfl, kind := hkind, session := hprovider
        owner := hagents.task _ _ hagent, generation := hgen, epoch := hepoch
        live := fenceContext_live hopen
        turn := fun t ht => by
          rw [hid] at ht
          exact some.inj (hturn.symm.trans ht) }
      refine ⟨_, applyStamped_eq_ok.mpr ⟨fun _ => hrev, _, applyProviderWaitSettled_eq_ok.mpr
        ⟨⟨agent, ?_, hformed, hfits⟩, session, ?_, record, ?_, rfl, hpend, rfl⟩, rfl⟩, ?_⟩
      · rw [hid, hagent]
      · rw [hid, hsess]
      · rw [hcmd, hrec]
      · show s.providerSessions.insert record.fence.agentSessionId _ = _
        rw [hid, hcmd]

def samplePrompt : SubmitProviderInputIntent where
  agentSessionId := ⟨1⟩
  runtimeGeneration := 1
  turnId := ⟨1⟩
  actionEpoch := 0
  questionId := none
  approvalId := none
  action := .sendNow "go" true []

section Sample

attribute [local instance] sampleExternals

theorem settle_wait_prompted :
    ∃ s id session c record, visited.Reachable s ∧ s.providerSessions[id]? = some session ∧
      session.waits[c]? = some record ∧ Settles s id session c record := by
  have hprompt := reachable_command reachable_boundSnapshot (.submitProviderInput samplePrompt)
    rfl rfl
  have hs := visited_of_kernel hprompt
  exact ⟨_, ⟨1⟩, _, ⟨1⟩, _, hs, rfl, rfl,
    (settle_wait_iff hs (.inl rfl) rfl rfl rfl rfl rfl).mpr ⟨rfl, rfl, by decide⟩⟩

/-- Once its agent's provider session is abandoned, a pending wait is decided as settled, and then
refused. -/
theorem settle_wait_abandoned :
    ¬ ∀ s id session
      c record agent,
      kernel.Reachable s → OpenOrClosing s → s.providerSessions[id]? = some session →
      session.waits[c]? = some record → record.pending = true → s.agents[id]? = some agent →
      agent.lifecycle = .opened → Settles s id session c record := by
  intro hclaim
  have hprompt := reachable_command reachable_boundSnapshot (.submitProviderInput samplePrompt)
    rfl rfl
  have habandoned := reachable_command hprompt (.abandonProviderSession ⟨1⟩ sampleSession 1) rfl rfl
  have hset := hclaim _ ⟨1⟩ _ ⟨1⟩ _ _ habandoned (.inl rfl) rfl rfl rfl rfl rfl
  obtain ⟨-, _, happly, -⟩ := hset _ ⟨1⟩ sampleStamp (addressed_envelopeFor _ _) rfl
  obtain ⟨-, _, hmid, -⟩ := applyStamped_eq_ok.mp happly
  obtain ⟨⟨_, hagent, -, hfits⟩, -⟩ := applyProviderWaitSettled_eq_ok.mp hmid
  cases hagent
  cases hfits.session

end Sample

end DevManager
