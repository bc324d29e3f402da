import DevManager.Kernel.Agents

/-!
# Provider sessions: the first answer wins

What the provider sessions keep needs no guard of `decide`: it holds along every
run of events that `apply` accepts. The projection of one session is treated
first, on its own; a snapshot's sessions then move one at a time.

* `sessionsInv_of_unguarded`, `sessionsKept_of_run`: both over whole runs.
-/

namespace DevManager

open Std (ExtTreeMap LawfulEqCmp)
open OrdMap ProviderSessionProjection Std.ExtTreeMap

/-- What the projection of a provider session keeps. -/
structure SessionInv (session : ProviderSessionProjection) : Prop where
  question : ∀ q, session.openQuestion = some q → q ∉ session.questionWinners
  approval : ∀ a, session.openApproval = some a → a ∉ session.approvalWinners
  turn : ∀ (c : CommandId) r, session.waits[c]? = some r →
    r.pending = true → session.currentTurn = some r.fence.turnId
  questionRoom : session.questionWinners.size ≤ maxProviderQuestionWins
  approvalRoom : session.approvalWinners.size ≤ maxProviderApprovalWins
  waitRoom : session.waits.size ≤ maxProviderWaits
  settlement : ∀ x, session.lastSettlement = some x → x.operationId.isSome = true
  fence : ∀ (c : CommandId) r, session.waits[c]? = some r →
    r.fence.commandId = c ∧ r.fence.operationId.isSome = true ∧ r.fence.identity.WellFormed

/-- Every winner of the session before is the winner of the one after. -/
structure Keeps (before after : ProviderSessionProjection) : Prop where
  question : ∀ (q : QuestionId) w,
    before.questionWinners[q]? = some w → after.questionWinners[q]? = some w
  approval : ∀ (a : ApprovalId) w,
    before.approvalWinners[a]? = some w → after.approvalWinners[a]? = some w

theorem Keeps.refl (session) : Keeps session session :=
  ⟨fun _ _ h => h, fun _ _ h => h⟩

theorem Keeps.trans {a b c} (h : Keeps a b) (h' : Keeps b c) :
    Keeps a c :=
  ⟨fun q w hq => h'.question q w (h.question q w hq),
    fun q w hq => h'.approval q w (h.approval q w hq)⟩

section Session

variable {session session' : ProviderSessionProjection} {fact : ProviderInputAcceptedFact}

theorem sessionInv_default : SessionInv .default := by
  refine ⟨?_, ?_, ?_, ?_, ?_, ?_, ?_, ?_⟩ <;> simp [ProviderSessionProjection.default]

theorem SessionInv.validateBounds [Externals] (h : SessionInv session) :
    session.validateBounds = .ok () :=
  validateBounds_eq_ok.mpr
    ⟨h.questionRoom, h.approvalRoom, h.waitRoom, h.settlement, h.fence⟩

/-! ## The turn -/

/-- Every pending wait of the session is of `turn`. -/
def OnTurn (session : ProviderSessionProjection) (turn : TurnId) : Prop :=
  ∀ (c : CommandId) r, session.waits[c]? = some r → r.pending = true → r.fence.turnId = turn

variable {turn : TurnId}

theorem onTurn_of_currentTurn (h : SessionInv session)
    (hturn : ∀ t, session.currentTurn = some t → turn = t) : OnTurn session turn := by
  intro c r hr hp
  exact (hturn _ (h.turn c r hr hp)).symm

theorem onTurn_of_canBeginSendNowTurn (h : SessionInv session)
    (hcan : session.canBeginSendNowTurn turn = true) : OnTurn session turn := by
  intro c r hr hp
  have hcur : session.currentTurn = some r.fence.turnId := h.turn c r hr hp
  unfold canBeginSendNowTurn at hcan
  rw [hcur] at hcan
  simp only [Bool.or_eq_true, Bool.and_eq_true, decide_eq_true_eq] at hcan
  rcases hcan with hsame | ⟨⟨-, hall⟩, -⟩
  · exact hsame
  · have hsettled := valuesAll_eq_true.mp hall c r hr
    rw [hp] at hsettled
    cases hsettled

theorem onTurn_of_acceptedCurrentTurn {s} (h : SessionInv (s.sessionOf fact.agentSessionId))
    (hturn : ∀ t, acceptedCurrentTurn s fact = some t → fact.turnId = t) :
    OnTurn (s.sessionOf fact.agentSessionId) fact.turnId := by
  unfold acceptedCurrentTurn at hturn
  unfold TaskSnapshot.sessionOf at h ⊢
  cases hsess : s.providerSessions[fact.agentSessionId]? with
  | none =>
    intro c r hr
    simp [ProviderSessionProjection.default] at hr
  | some session =>
    rw [hsess] at h hturn
    simp only [Option.bind_some] at hturn
    split_ifs at hturn with hcan
    · exact onTurn_of_canBeginSendNowTurn h hcan.2
    · exact onTurn_of_currentTurn h hturn

theorem onTurn_of_currentTurnOf {s id}
    (h : SessionInv (s.sessionOf id)) (hturn : ∀ t, currentTurnOf s id = some t → turn = t) :
    OnTurn (s.sessionOf id) turn := by
  refine onTurn_of_currentTurn h fun t ht => hturn t ?_
  unfold TaskSnapshot.sessionOf at ht
  unfold currentTurnOf
  cases hsess : s.providerSessions[id]? with
  | none =>
    rw [hsess] at ht
    cases ht
  | some session =>
    rw [hsess] at ht
    exact ht

/-! ## One session, one event -/

theorem sessionInv_begun (h : SessionInv session) (honce : OnTurn session fact.turnId) :
    SessionInv (session.begun fact) := by
  refine ⟨h.question, h.approval, fun c r hr hp => ?_, h.questionRoom, h.approvalRoom, h.waitRoom,
    fun x hx => ?_, h.fence⟩
  · show some fact.turnId = some r.fence.turnId
    rw [honce c r hr hp]
  · cases hx
    rfl

variable {winner : ProviderResolutionWinner} {action : ProviderInputAction}

theorem sessionInv_resolved (h : SessionInv session) (hres : session.Resolvable action) :
    SessionInv (session.resolved winner action) := by
  cases action with
  | answerQuestion q answer =>
    obtain ⟨-, -, hroom⟩ := hres
    refine ⟨fun q' hq' => ?_, h.approval, h.turn, ?_, h.approvalRoom, h.waitRoom, h.settlement,
      h.fence⟩
    · cases hq'
    · have hsize := size_insert_le (t := session.questionWinners) (k := q) (v := winner)
      exact le_trans hsize hroom
  | resolveApproval a allow =>
    obtain ⟨-, -, hroom⟩ := hres
    refine ⟨h.question, fun a' ha' => ?_, h.turn, h.questionRoom, ?_, h.waitRoom, h.settlement,
      h.fence⟩
    · cases ha'
    · have hsize := size_insert_le (t := session.approvalWinners) (k := a) (v := winner)
      exact le_trans hsize hroom
  | _ => exact h

theorem keeps_resolved
    (hres : session.Resolvable action) : Keeps session (session.resolved winner action) := by
  cases action with
  | answerQuestion q answer =>
    obtain ⟨hnew, -, -⟩ := hres
    refine ⟨fun q' w hw => ?_, fun _ _ hw => hw⟩
    show (session.questionWinners.insert q winner)[q']? = some w
    rw [getElem?_insert_eq, if_neg, hw]
    rintro rfl
    exact hnew (mem_iff_exists.mpr ⟨w, hw⟩)
  | resolveApproval a allow =>
    obtain ⟨hnew, -, -⟩ := hres
    refine ⟨fun _ _ hw => hw, fun a' w hw => ?_⟩
    show (session.approvalWinners.insert a winner)[a']? = some w
    rw [getElem?_insert_eq, if_neg, hw]
    rintro rfl
    exact hnew (mem_iff_exists.mpr ⟨w, hw⟩)
  | _ => exact .refl session

variable {record : ProviderWaitRecord}

theorem boundedInsertWait_frame {commandId}
    (h : session.boundedInsertWait commandId record = .ok session') :
    ∃ waits, session' = { session with waits } := by
  obtain ⟨base, hsess', -⟩ := boundedInsertWait_eq_ok h
  exact ⟨_, hsess'⟩

variable (h : SessionInv session)

include h

theorem sessionInv_insertWait {commandId}
     (hpend : record.pending = true) (hturn : session.currentTurn = some record.fence.turnId)
    (hfence : record.fence.commandId = commandId ∧ record.fence.operationId.isSome = true ∧
      record.fence.identity.WellFormed)
    (hins : session.boundedInsertWait commandId record = .ok session') : SessionInv session' := by
  obtain ⟨hnew, hold, -⟩ := boundedInsertWait_waits hins
  have hroom : session'.waits.size ≤ maxProviderWaits :=
    boundedInsertWait_size hins hpend h.waitRoom
  -- each record is the new one or an old one of another command
  have hrec : ∀ (c : CommandId) r, session'.waits[c]? = some r →
      c = commandId ∧ r = record ∨ session.waits[c]? = some r := by
    intro c r hr
    by_cases hc : c = commandId
    · rw [hc, hnew] at hr
      cases hr
      exact .inl ⟨hc, rfl⟩
    · exact .inr (hold c r hc hr)
  obtain ⟨waits, rfl⟩ := boundedInsertWait_frame hins
  refine ⟨h.question, h.approval, fun c r hr hp => ?_, h.questionRoom, h.approvalRoom, hroom,
    h.settlement, fun c r hr => ?_⟩
  · rcases hrec c r hr with ⟨-, rfl⟩ | hr
    · exact hturn
    · exact h.turn c r hr hp
  · rcases hrec c r hr with ⟨rfl, rfl⟩ | hr
    · exact hfence
    · exact h.fence c r hr

theorem sessionInv_accepted {taskId} {t : ℤ}
    (honce : OnTurn session fact.turnId) (hformed : (fact.fence taskId).WellFormed)
    (hacc : acceptIntoSession session fact taskId t = .ok session') :
    SessionInv session' ∧ Keeps session session' := by
  obtain ⟨hres, hwait⟩ := acceptIntoSession_eq_ok.mp hacc
  have hres' : (session.begun fact).Resolvable fact.action := by
    cases ha : fact.action <;> rw [ha] at hres <;> exact hres
  have hinv : SessionInv ((session.begun fact).resolved (fact.winner t) fact.action) :=
    sessionInv_resolved (sessionInv_begun h honce) hres'
  have hkeeps : Keeps session ((session.begun fact).resolved (fact.winner t) fact.action) := by
    have hbegun : Keeps (session.begun fact)
        ((session.begun fact).resolved (fact.winner t) fact.action) := keeps_resolved hres'
    exact ⟨hbegun.question, hbegun.approval⟩
  have hturn : ((session.begun fact).resolved (fact.winner t) fact.action).currentTurn =
      some fact.turnId := by
    cases fact.action <;> rfl
  split_ifs at hwait
  · have hfence : (fact.waitRecord taskId).fence.commandId = fact.commandId ∧
        (fact.waitRecord taskId).fence.operationId.isSome = true ∧
        (fact.waitRecord taskId).fence.identity.WellFormed := ⟨rfl, rfl, hformed⟩
    refine ⟨sessionInv_insertWait hinv rfl hturn hfence hwait, ?_⟩
    obtain ⟨waits, rfl⟩ := boundedInsertWait_frame hwait
    exact ⟨hkeeps.question, hkeeps.approval⟩
  · rw [hwait]
    exact ⟨hinv, hkeeps⟩

theorem sessionInv_question {q} (honce : OnTurn session turn) (hnew : q ∉ session.questionWinners) :
    SessionInv { session with currentTurn := some turn, openQuestion := some q } := by
  refine ⟨fun q' hq' => ?_, h.approval, fun c r hr hp => ?_, h.questionRoom, h.approvalRoom,
    h.waitRoom, h.settlement, h.fence⟩
  · cases hq'
    exact hnew
  · rw [honce c r hr hp]

theorem sessionInv_approval {a} (honce : OnTurn session turn) (hnew : a ∉ session.approvalWinners) :
    SessionInv { session with currentTurn := some turn, openApproval := some a } := by
  refine ⟨h.question, fun a' ha' => ?_, fun c r hr hp => ?_, h.questionRoom, h.approvalRoom,
    h.waitRoom, h.settlement, h.fence⟩
  · cases ha'
    exact hnew
  · rw [honce c r hr hp]

theorem sessionInv_settled {c} (hrec : session.waits[c]? = some record) :
    SessionInv { session with
      waits := session.waits.insert c { record with pending := false } } := by
  have hfence := h.fence c record hrec
  refine ⟨h.question, h.approval, ?_, h.questionRoom, h.approvalRoom, ?_, h.settlement, ?_⟩
  · refine forall_insert (fun hp => ?_) h.turn
    cases hp
  · show (session.waits.insert c _).size ≤ _
    have hmem : c ∈ session.waits := mem_iff_exists.mpr ⟨record, hrec⟩
    rw [size_insert, if_pos (contains_iff_mem.mpr hmem)]
    exact h.waitRoom
  · exact forall_insert hfence h.fence

theorem sessionInv_delivered {settlement} (hop : settlement.operationId.isSome = true) :
    SessionInv { session with lastSettlement := some settlement } := by
  refine ⟨h.question, h.approval, h.turn, h.questionRoom, h.approvalRoom, h.waitRoom,
    fun x hx => ?_, h.fence⟩
  cases hx
  exact hop

end Session

/-! ## All sessions of a snapshot -/

/-- Every provider session of the snapshot has the invariant. -/
def SessionsInv (s : TaskSnapshot) : Prop :=
  ∀ (id : AgentSessionId) session, s.providerSessions[id]? = some session → SessionInv session

/-- Every provider session of the snapshot before is kept by the one after. -/
def SessionsKept (s s' : TaskSnapshot) : Prop :=
  ∀ (id : AgentSessionId) session,
    s.providerSessions[id]? = some session →
      ∃ session', s'.providerSessions[id]? = some session' ∧ Keeps session session'

section Snapshot

variable {s s' : TaskSnapshot}

theorem SessionsInv.sessionOf (h : SessionsInv s) (id) :
    SessionInv (s.sessionOf id) := by
  unfold TaskSnapshot.sessionOf
  cases hsess : s.providerSessions[id]? with
  | none => exact sessionInv_default
  | some => exact h id _ hsess

theorem sessions_insert (h : SessionsInv s) {id session} (hinv : SessionInv session)
    (hkeeps : Keeps (s.sessionOf id) session)
    (hsess : s'.providerSessions = s.providerSessions.insert id session) :
    SessionsInv s' ∧ SessionsKept s s' := by
  constructor
  · unfold SessionsInv
    rw [hsess]
    exact forall_insert hinv h
  · intro j before hpre
    rw [hsess]
    refine exists_insert_related Keeps.refl hpre ?_
    rintro rfl
    unfold TaskSnapshot.sessionOf at hkeeps
    rw [hpre] at hkeeps
    exact hkeeps

theorem sessions_frame (h : SessionsInv s) (hsessions : s'.providerSessions = s.providerSessions) :
    SessionsInv s' ∧ SessionsKept s s' := by
  constructor
  · unfold SessionsInv
    rw [hsessions]
    exact h
  · intro id session hsess
    rw [hsessions]
    exact ⟨session, hsess, .refl session⟩

theorem sessions_registered (h : SessionsInv s) {id}
    (hsessions : s'.providerSessions = s.providerSessions.insertIfNew id .default) :
    SessionsInv s' ∧ SessionsKept s s' := by
  have hget : ∀ j : AgentSessionId, s'.providerSessions[j]? =
      if id = j ∧ id ∉ s.providerSessions then some .default else s.providerSessions[j]? := by
    intro j
    rw [hsessions, getElem?_insertIfNew]
    simp only [LawfulEqCmp.compare_eq_iff_eq]
  constructor
  · intro j session hsess
    rw [hget] at hsess
    split_ifs at hsess with hj
    · cases hsess
      exact sessionInv_default
    · exact h j session hsess
  · intro j session hsess
    rw [hget, if_neg]
    · exact ⟨session, hsess, .refl session⟩
    · rintro ⟨rfl, hnew⟩
      exact hnew (mem_iff_exists.mpr ⟨session, hsess⟩)

variable [Externals]

theorem sessions_effect {p} {t : ℤ} (h : SessionsInv s) :
    Ensures (effect s p t) fun s' => SessionsInv s' ∧ SessionsKept s s' := by
  intro s' heff
  have hof : ∀ {id session}, s.providerSessions[id]? = some session → s.sessionOf id = session := by
    intro id session hsess
    unfold TaskSnapshot.sessionOf
    rw [hsess]
    rfl
  cases effect_sessions s p t s' heff with
  | frame hsessions => exact sessions_frame h hsessions
  | registered hsessions => exact sessions_registered h hsessions
  | accepted _ hformed hfits _ hacc hsessions =>
    have honce := onTurn_of_acceptedCurrentTurn (h.sessionOf _) hfits.turn
    obtain ⟨hinv, hkeeps⟩ := sessionInv_accepted (h.sessionOf _) honce hformed hacc
    exact sessions_insert h hinv hkeeps hsessions
  | question _ hfits hnew _ hsessions =>
    have honce := onTurn_of_currentTurnOf (h.sessionOf _) hfits.turn
    exact sessions_insert h (sessionInv_question (h.sessionOf _) honce hnew) ⟨fun _ _ hw => hw,
      fun _ _ hw => hw⟩ hsessions
  | approval _ hfits hnew _ hsessions =>
    have honce := onTurn_of_currentTurnOf (h.sessionOf _) hfits.turn
    exact sessions_insert h (sessionInv_approval (h.sessionOf _) honce hnew) ⟨fun _ _ hw => hw,
      fun _ _ hw => hw⟩ hsessions
  | settled hsess hrec _ _ hsessions =>
    refine sessions_insert h (sessionInv_settled (h _ _ hsess) hrec) ?_ hsessions
    rw [hof hsess]
    exact ⟨fun _ _ hw => hw, fun _ _ hw => hw⟩
  | delivered hsess hop hsessions =>
    refine sessions_insert h (sessionInv_delivered (h _ _ hsess) hop) ?_ hsessions
    rw [hof hsess]
    exact ⟨fun _ _ hw => hw, fun _ _ hw => hw⟩

/-! ## Runs -/

/-- Runs of any events that `apply` accepts, whether a command leads to them or not. -/
def unguarded : Machine TaskSnapshot := eventMachine fun _ _ => True

theorem unguarded_of_guarded (h : guarded.Reachable s) : unguarded.Reachable s := by
  refine h.simulate (fun _ hs => hs) fun a b _ hstep => ?_
  obtain ⟨event, -, happly⟩ := hstep
  exact .single ⟨event, trivial, happly⟩

theorem sessionsInv_of_unguarded (h : unguarded.Reachable s) : SessionsInv s := by
  refine eventMachine_invariant h (fun s hs => ?_) (fun _ _ h => h)
    fun _ _ _ _ hinv _ => (sessions_effect hinv).imp fun _ hmid => hmid.1
  intro id session hsess
  rw [hs.sessions] at hsess
  simp at hsess

theorem sessionsKept_of_run (hs : unguarded.Reachable s) (hrun : unguarded.Run s s') :
    SessionsKept s s' := by
  refine Machine.run_invariant hs hrun (R := SessionsKept s) ?_ fun a b ha hkeeps hstep => ?_
  · exact fun id session hsess => ⟨session, hsess, .refl session⟩
  · obtain ⟨event, -, happly⟩ := hstep
    obtain ⟨-, -, mid, hmid, rfl⟩ := apply_some_eq_ok.mp happly
    have hstep : SessionsKept a mid := (sessions_effect (sessionsInv_of_unguarded ha) mid hmid).2
    intro id session hsess
    obtain ⟨session₁, hsess₁, hkeep⟩ := hkeeps id session hsess
    obtain ⟨session₂, hsess₂, hkeeps'⟩ := hstep id session₁ hsess₁
    refine ⟨session₂, ?_, hkeep.trans hkeeps'⟩
    split_ifs
    · exact hsess₂
    · exact hsess₂

end Snapshot

/-! ## The first answer -/

/-- What accepted input does to the question or approval it answers: it was open and not won, and
after it, it is won by this input and closed. Everything else that is open or won stays. -/
def Answered (before after : ProviderSessionProjection) (winner : ProviderResolutionWinner) :
    ProviderInputAction → Prop
  | .answerQuestion q _ =>
    before.openQuestion = some q ∧ q ∉ before.questionWinners ∧ after.openQuestion = none ∧
      after.questionWinners = before.questionWinners.insert q winner ∧
      after.openApproval = before.openApproval ∧ after.approvalWinners = before.approvalWinners
  | .resolveApproval a _ =>
    before.openApproval = some a ∧ a ∉ before.approvalWinners ∧ after.openApproval = none ∧
      after.approvalWinners = before.approvalWinners.insert a winner ∧
      after.openQuestion = before.openQuestion ∧ after.questionWinners = before.questionWinners
  | _ =>
    after.openQuestion = before.openQuestion ∧ after.questionWinners = before.questionWinners ∧
      after.openApproval = before.openApproval ∧ after.approvalWinners = before.approvalWinners

theorem answered_of_accept {session session' fact taskId} {t : ℤ}
    (hacc : acceptIntoSession session fact taskId t = .ok session') :
    Answered session session' (fact.winner t) fact.action := by
  obtain ⟨hres, hwait⟩ := acceptIntoSession_eq_ok.mp hacc
  have hresolved : ∃ waits, session' =
      { (session.begun fact).resolved (fact.winner t) fact.action with waits } := by
    split_ifs at hwait
    · exact boundedInsertWait_frame hwait
    · exact ⟨_, hwait⟩
  obtain ⟨waits, rfl⟩ := hresolved
  cases ha : fact.action with
  | answerQuestion | resolveApproval =>
    rw [ha] at hres
    exact ⟨hres.2.1, hres.1, rfl, rfl, rfl, rfl⟩
  | _ => exact ⟨rfl, rfl, rfl, rfl⟩

/-- Over any run of accepted events: recorded winners stay as they are; no id is both open and won;
accepted input closes exactly the question or approval it answers; a pending wait carries the
current turn; and the bounds of every session hold. -/
theorem first_answer_wins [Externals] {s : TaskSnapshot} (hs : unguarded.Reachable s) :
    (∀ s', unguarded.Run s s' → SessionsKept s s') ∧
      (∀ (id : AgentSessionId) session,
        s.providerSessions[id]? = some session →
          (∀ q, session.openQuestion = some q → q ∉ session.questionWinners) ∧
          (∀ a, session.openApproval = some a → a ∉ session.approvalWinners) ∧
          (∀ (c : CommandId) r, session.waits[c]? = some r →
            r.pending = true → session.currentTurn = some r.fence.turnId) ∧
          session.validateBounds = .ok ()) ∧
      ∀ event fact s',
        event.payload = .providerInputAccepted fact → apply (some s) event = .ok s' →
          (∃ after, s'.providerSessions[fact.agentSessionId]? = some after ∧
            Answered (s.sessionOf fact.agentSessionId) after (fact.winner event.occurredAtMs)
              fact.action) ∧
          ∀ j, j ≠ fact.agentSessionId → s'.providerSessions[j]? = s.providerSessions[j]? := by
  refine ⟨fun s' hrun => sessionsKept_of_run hs hrun, fun id session hsess => ?_,
    fun event fact s' hpayload happly => ?_⟩
  · have hinv : SessionInv session := sessionsInv_of_unguarded hs id session hsess
    exact ⟨hinv.question, hinv.approval, hinv.turn, hinv.validateBounds⟩
  · obtain ⟨-, -, mid, hmid, rfl⟩ := apply_some_eq_ok.mp happly
    rw [hpayload] at hmid ⊢
    obtain ⟨-, -, after, hacc, rfl⟩ := applyProviderInputAccepted_eq_ok.mp hmid
    have hsessions : ((resumed s fact).setSession fact.agentSessionId after).providerSessions =
        s.providerSessions.insert fact.agentSessionId after := by
      unfold resumed
      split_ifs <;> rfl
    show (∃ x, ((resumed s fact).setSession fact.agentSessionId after).providerSessions[_]? =
      some x ∧ _) ∧ ∀ j, _ →
        ((resumed s fact).setSession fact.agentSessionId after).providerSessions[j]? = _
    rw [hsessions]
    refine ⟨⟨after, ?_, answered_of_accept hacc⟩, fun j hj => ?_⟩
    · rw [getElem?_insert_eq, if_pos rfl]
    · rw [getElem?_insert_eq, if_neg hj.symm]

/-! ## A run with an answered question -/

def sampleProviderTerminal : ResourceFacts where
  id := ⟨1⟩
  taskId := some ⟨1⟩
  ownerKind := .task
  resourceKind := .terminal
  recipe := .terminal 80 24 none none
  lifecycle := .active
  runtimeGeneration := 1
  updatedAtMs := 0

def sampleSession : ProviderSessionId := ⟨"session", by decide⟩

def sampleQuestion (n : ℕ) : PresentProviderQuestionIntent where
  agentSessionId := ⟨1⟩
  runtimeGeneration := 1
  turnId := ⟨1⟩
  actionEpoch := 0
  questionId := ⟨n⟩

def sampleAnswer (n : ℕ) : SubmitProviderInputIntent where
  agentSessionId := ⟨1⟩
  runtimeGeneration := 1
  turnId := ⟨1⟩
  actionEpoch := 0
  questionId := some ⟨n⟩
  approvalId := none
  action := .answerQuestion ⟨n⟩ "yes"

def boundAgent : AgentSessionFacts :=
  { sampleAgent with providerSessionId := some sampleSession, revision := 1 }

def boundSnapshot : TaskSnapshot :=
  let snap := registeredSnapshot.setResource ⟨1⟩ sampleProviderTerminal
  ((registerTerminal snap sampleProviderTerminal 0).setAgent ⟨1⟩ boundAgent).withRevision 4

theorem reachable_boundSnapshot [Externals] : kernel.Reachable boundSnapshot := by
  have hreg := reachable_command reachable_registeredSnapshot
    (.registerResource sampleProviderTerminal) rfl rfl
  exact reachable_command hreg (.bindProviderSession ⟨1⟩ ⟨1⟩ sampleSession 1) rfl rfl

section Sample

attribute [local instance] sampleExternals

/-- A question that was answered is not open again. -/
theorem first_answer_wins_answered :
    ∃ s session, unguarded.Reachable s ∧
      s.providerSessions[(⟨1⟩ : AgentSessionId)]? = some session ∧
      (⟨1⟩ : QuestionId) ∈ session.questionWinners ∧ session.openQuestion ≠ some ⟨1⟩ := by
  have hask := reachable_command reachable_boundSnapshot
    (.presentProviderQuestion (sampleQuestion 1)) rfl rfl
  have hanswered := reachable_command hask (.submitProviderInput (sampleAnswer 1)) rfl rfl
  have hs := unguarded_of_guarded (guarded_of_visited (visited_of_kernel hanswered))
  refine ⟨_, _, hs, rfl, by decide, fun hopen => ?_⟩
  exact ((first_answer_wins hs).2.1 ⟨1⟩ _ rfl).1 ⟨1⟩ hopen (by decide)

end Sample

end DevManager
