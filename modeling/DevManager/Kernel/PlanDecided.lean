import DevManager.Kernel.PlanEffects
import DevManager.Kernel.Receipts

/-!
# Every decision can be planned

`decide` and `plan_effects` are separate matches over the events. The planner refuses a
browser request under generation 0, and a request that waits for the host beside other
facts. `plan_admit` returns neither: a new request has its generation checked and plans
nothing else when it waits, and a replayed one is the fact that made its receipt.

* `accepting_of_planAdmit`: the facts of an admitted request.
* `receiptsNumbered_of_visited`: the receipts of every reachable book.
* `decide_plannable`: each command, on a book with such receipts.
-/

namespace DevManager

open Std (ExtTreeMap)
open List BrowserDurableFact

/-- A request is accepted under the generation of a context. -/
def BrowserDurableFact.Numbered : BrowserDurableFact → Prop
  | requestAccepted fact => fact.generation ≠ 0
  | _ => True

namespace BrowserBook

section Numbered

variable [Externals] {b b' : BrowserBook} {fact : BrowserDurableFact}
  {facts : List BrowserDurableFact}

/-! ## Receipts with a generation -/

/-- Every receipt was made by a fact with a generation. -/
def ReceiptsNumbered (b : BrowserBook) : Prop :=
  ∀ (id : BrowserRequestId) stored, b.receipts[id]? = some stored →
    ∃ fact, stored = receiptOfFact fact ∧ fact.generation ≠ 0

omit [Externals] in
theorem ReceiptsNumbered.congr (hb : ReceiptsNumbered b) (hrec : b'.receipts = b.receipts) :
    ReceiptsNumbered b' := by
  intro id stored hstored
  rw [hrec] at hstored
  exact hb id stored hstored

theorem ReceiptsNumbered.applyFact (hb : ReceiptsNumbered b) (hfact : fact.Numbered)
    (h : b.applyFact fact = .ok b') : ReceiptsNumbered b' := by
  obtain ⟨-, -, -, hrec⟩ := applyFact_frame h
  intro id stored hstored
  rw [hrec] at hstored
  rcases receiptsAfter_getElem? hstored with hold | ⟨accepted, rfl, rfl⟩
  · exact hb id stored hold
  · exact ⟨accepted, rfl, hfact⟩

theorem ReceiptsNumbered.applyFacts (hb : ReceiptsNumbered b)
    (hall : ∀ fact ∈ facts, fact.Numbered) (h : b.applyFacts facts = .ok b') :
    ReceiptsNumbered b' := by
  obtain ⟨hloop, -⟩ := applyFacts_ok h
  exact foldlM_invariant (fun fact hfact _ _ hs hstep => hs.applyFact (hall fact hfact) hstep) hb
    hloop

/-! ## An admitted request -/

variable {request : BrowserRequest} {accepted : BrowserAcceptedReceipt}

/-- The facts of a request: its acceptance, and what it decides at once if no host settles it. -/
structure Accepting (request : BrowserRequest) (actionEpoch : ℕ) (first : RequestAcceptedFact)
    (rest : List BrowserDurableFact) : Prop where
  task : first.taskId = request.taskId
  action : first.action = request.action
  generation : first.generation ≠ 0
  epoch : first.actionEpoch = actionEpoch
  others : ∀ fact ∈ rest, fact.isRequestAccepted = false
  alone : request.action.requiresHostSettlement = true → rest = []
  bounded : rest.length < maxBrowserJournalFacts

omit [Externals] in
theorem planIdentityFacts_of_settlement {identity}
    (hsettle : request.action.requiresHostSettlement = true)
    (h : b.planIdentityFacts request = .ok identity) : identity = [] := by
  unfold planIdentityFacts at h
  cases hact : request.action <;> rw [hact] at hsettle <;>
    first | exact Bool.noConfusion hsettle | skip
  all_goals
    simp only [hact] at h
    split_ifs at h <;> simp only [ok_iff] at h
    · obtain ⟨-, -, rfl⟩ := h
      rfl
    · obtain ⟨-, -, rfl⟩ := h
      rfl

theorem accepting_of_planAdmit (hb : ReceiptsNumbered b) (h : b.planAdmit request = .ok accepted)
    (commandId) (actionEpoch : ℕ) :
    ∃ first rest, (accepted.bindCommand commandId actionEpoch).facts =
        .requestAccepted first :: rest ∧ Accepting request actionEpoch first rest := by
  obtain ⟨-, ⟨prior, hprior, rfl, rfl⟩ | ⟨-, hnew⟩⟩ := planAdmit_eq_ok.mp h
  · obtain ⟨fact, rfl, hgen⟩ := hb _ prior hprior
    exact ⟨_, [], rfl, rfl, rfl, hgen, rfl, by simp, fun _ => rfl, by decide⟩
  · obtain ⟨-, -, hgen, -, identity, hident, hbound, rfl⟩ := planNew_eq_ok.mp hnew
    refine ⟨_, identity.map (bindCommand commandId actionEpoch), rfl, rfl, rfl,
      hgen, rfl, fun fact hfact => ?_, fun hsettle => ?_, ?_⟩
    · obtain ⟨planned, hplan, rfl⟩ := mem_map.mp hfact
      have hother := isRequestAccepted_of_mem_planIdentityFacts hident planned hplan
      cases planned with
      | requestAccepted => cases hother
      | _ => rfl
    · rw [planIdentityFacts_of_settlement hsettle hident, map_nil]
    · rw [length_map]
      omega

variable {actionEpoch : ℕ} {first : RequestAcceptedFact} {rest : List BrowserDurableFact}

omit [Externals] in
theorem Accepting.numbered (h : Accepting request actionEpoch first rest) :
    ∀ fact ∈ requestAccepted first :: rest, fact.Numbered := by
  intro fact hfact
  rcases mem_cons.mp hfact with rfl | hfact
  · exact h.generation
  · have hother := h.others fact hfact
    cases fact with
    | requestAccepted => cases hother
    | _ => exact trivial

omit [Externals] in
theorem Accepting.isPure (h : Accepting request actionEpoch first rest)
    (hsettle : request.action.requiresHostSettlement = false) :
    ∀ e ∈ (requestAccepted first :: rest).map Event.browser, e.isPureSliceDecisionFact = true := by
  intro e he
  obtain ⟨fact, hfact, rfl⟩ := mem_map.mp he
  rcases mem_cons.mp hfact with rfl | hfact
  · show (!first.action.requiresHostSettlement) = true
    rw [h.action, hsettle]
    rfl
  · have hother := h.others fact hfact
    cases fact with
    | requestAccepted => cases hother
    | _ => rfl

end Numbered

end BrowserBook

/-! ## What a decision plans -/

/-- The action epoch that fences the effect of a decision: the snapshot's, or the next one when
the task begins to close. -/
def TaskSnapshot.fencedEpoch (s : TaskSnapshot) : Event → ℕ
  | .taskCloseBegun _ => s.task.actionEpoch + 1
  | _ => s.task.actionEpoch

/-- Pure facts, or one fact with its effect. -/
inductive Plannable (s : TaskSnapshot) : List Event → Prop
  | pure {events} (hall : ∀ e ∈ events, e.isPureSliceDecisionFact = true)
      (hbound : events.length ≤ u64Max) : Plannable s events
  | effect {e effect} (heff : HasEffect (some s) s.task.id e effect)
      (hepoch : effect.planned.fence.actionEpoch = some (s.fencedEpoch e)) : Plannable s [e]

section Decide

variable [Externals] {s s' : TaskSnapshot} {envelope : CommandEnvelope} {operationId : OperationId}
  {events : List Event} {e : Event}

theorem plannable_browser {request accepted} (hb : s.browser.ReceiptsNumbered)
    (htask : request.taskId = s.task.id) (h : s.browser.planAdmit request = .ok accepted) :
    Plannable s
      ((accepted.bindCommand envelope.commandId s.task.actionEpoch).facts.map Event.browser) := by
  obtain ⟨first, rest, hfacts, hacc⟩ :=
    BrowserBook.accepting_of_planAdmit hb h envelope.commandId s.task.actionEpoch
  rw [hfacts]
  cases hsettle : request.action.requiresHostSettlement with
  | true =>
    rw [hacc.alone hsettle]
    have hhold : HasEffect (some s) s.task.id (.browser (.requestAccepted first)) _ :=
      .hold (hacc.action ▸ hsettle) (hacc.task.trans htask) hacc.generation
    exact .effect hhold (congrArg some hacc.epoch)
  | false =>
    refine .pure (hacc.isPure hsettle) ?_
    have hbound := hacc.bounded
    rw [length_map, length_cons]
    exact hbound.trans (by decide)

variable {intent : OpenTaskBrowserIntent}

variable (hb : s.browser.ReceiptsNumbered)

include hb

theorem decideOpenTaskBrowser_accepting
    (h : decideOpenTaskBrowser (some s) envelope intent = .ok events) :
    ∃ request request' first first' rest rest', request.action.requiresHostSettlement = false ∧
      request'.action.requiresHostSettlement = false ∧
      BrowserBook.Accepting request s.task.actionEpoch first rest ∧
      BrowserBook.Accepting request' s.task.actionEpoch first' rest' ∧
      events = (requestAccepted first :: rest ++
          .requestAccepted first' :: rest').map Event.browser ++
        [.resourceRegistered intent.resource] := by
  obtain ⟨created, opened, mid, _, _, request, request', hmake, hopen, hfst, rfl, happly,
    hsnd, rfl, rfl⟩ := decideOpenTaskBrowser_facts h
  obtain ⟨first, rest, hfacts, hacc⟩ :=
    BrowserBook.accepting_of_planAdmit hb hfst envelope.commandId s.task.actionEpoch
  rw [hfacts] at happly
  -- the second request is planned on the book with the first one's facts
  have hmid := hb.applyFacts hacc.numbered happly
  obtain ⟨first', rest', hfacts', haccepting'⟩ :=
    BrowserBook.accepting_of_planAdmit hmid hsnd envelope.commandId s.task.actionEpoch
  rw [hfacts, hfacts']
  exact ⟨request, request', first, first', rest, rest', hmake, hopen, hacc, haccepting', rfl⟩

theorem plannable_openTaskBrowser
    (h : decideOpenTaskBrowser (some s) envelope intent = .ok events) : Plannable s events := by
  obtain ⟨_, _, first, first', rest, rest', hmake, hopen, hacc, haccepting', rfl⟩ :=
    decideOpenTaskBrowser_accepting hb h
  rw [map_append]
  refine .pure (fun e he => ?_) ?_
  · rcases mem_append.mp he with he | he
    · rcases mem_append.mp he with he | he
      · exact hacc.isPure hmake e he
      · exact haccepting'.isPure hopen e he
    · rw [mem_singleton.mp he]
      rfl
  · have hbound := hacc.bounded
    have hbound' := haccepting'.bounded
    have hroom : 2 * maxBrowserJournalFacts + 1 ≤ u64Max := by decide
    simp only [length_append, length_map, length_cons, length_nil]
    omega

theorem decide_plannable (h : Command.decide (some s) envelope operationId = .ok events) :
    Addressed s envelope ∧ Plannable s events := by
  obtain ⟨haddr, hdec⟩ := decide_cases h
  refine ⟨haddr, ?_⟩
  cases hdec with
  | none => exact .pure (by simp) (Nat.zero_le _)
  | one _ hlone =>
    exact .pure (by simpa using (Bool.and_eq_true_iff.mp hlone).1) (show 1 ≤ u64Max by decide)
  | closeBegun hcap hepoch => exact .effect (.teardown rfl rfl hcap hepoch) rfl
  | releaseBegun hget howner hactive =>
    exact .effect (.release rfl rfl hget howner.1 howner.2 hactive) rfl
  | submitted h =>
    obtain ⟨-, -, -, agent, hagent, -, -, -, hgen, hepoch, -, -, rfl⟩ :=
      decideSubmitProviderInput_eq_ok.mp h
    exact .effect (.deliver rfl rfl hagent rfl rfl hgen) (congrArg some hepoch.symm)
  | browser h =>
    obtain ⟨-, -, htask, _, hplan, rfl⟩ := decideBrowser_eq_ok.mp h
    exact plannable_browser hb htask hplan
  | opened h => exact plannable_openTaskBrowser hb h

/-! ## Every reachable book -/

theorem numbered_of_decided (h : Command.decide (some s) envelope operationId = .ok events) :
    ∀ fact, Event.browser fact ∈ events → fact.Numbered := by
  intro fact hfact
  rcases decide_browser_fact h hfact with ⟨request, h⟩ | ⟨intent, h⟩
  · obtain ⟨-, -, -, _, hplan, rfl⟩ := decideBrowser_eq_ok.mp h
    obtain ⟨first, rest, hfacts, hacc⟩ :=
      BrowserBook.accepting_of_planAdmit hb hplan envelope.commandId s.task.actionEpoch
    rw [hfacts] at hfact
    obtain ⟨_, hmem, heq⟩ := mem_map.mp hfact
    cases heq
    exact hacc.numbered _ hmem
  · obtain ⟨_, _, first, first', rest, rest', -, -, hacc, haccepting', rfl⟩ :=
      decideOpenTaskBrowser_accepting hb h
    rcases mem_append.mp hfact with hfact | hfact
    · obtain ⟨_, hmem, heq⟩ := mem_map.mp hfact
      cases heq
      rcases mem_append.mp hmem with hmem | hmem
      · exact hacc.numbered _ hmem
      · exact haccepting'.numbered _ hmem
    · cases mem_singleton.mp hfact

omit hb

theorem receiptsNumbered_effect {t : ℤ} (hb : s.browser.ReceiptsNumbered)
    (he : ∀ fact, e = .browser fact → fact.Numbered) (h : effect s e t = .ok s') :
    s'.browser.ReceiptsNumbered := by
  cases effect_browser s e t s' h with
  | frame _ _ hbrowser =>
    rw [hbrowser]
    exact hb
  | closed hbrowser =>
    obtain ⟨-, hclose, -⟩ := BrowserBook.closeTask_closes hbrowser
    exact hb.congr hclose.receipts
  | opened hbrowser =>
    obtain ⟨-, -, -, -, hrec, -⟩ := openTask_ok hbrowser
    exact hb.congr hrec
  | @fact _ fact _ hbrowser =>
    exact hb.applyFacts (by simpa using he fact rfl) hbrowser

theorem receiptsNumbered_of_visited (hs : visited.Reachable s) : s.browser.ReceiptsNumbered := by
  refine hs.invariant (P := fun s => s.browser.ReceiptsNumbered) (fun s hs => ?_)
    fun s s' _ hb hstep => ?_
  · obtain ⟨-, -, -, -, hrec, -⟩ := openTask_ok (isFresh_of_created hs).browser
    intro id stored hstored
    rw [hrec] at hstored
    simp [BrowserBook.new] at hstored
  · cases hstep with
    | @decided envelope operationId batch rest hdec hbatch =>
      have hall := numbered_of_decided hb hdec
      refine foldlM_invariant (P := fun s => s.browser.ReceiptsNumbered)
        (fun entry hentry s s' hs hstep => ?_) hb hbatch
      obtain ⟨-, mid, hmid, rfl⟩ := applyStamped_eq_ok.mp hstep
      have hkept := receiptsNumbered_effect hs (fun fact heq => hall fact (heq ▸
        mem_append_left rest (mem_map_of_mem hentry))) hmid
      unfold bumped
      split_ifs <;> exact hkept
    | host hfact happly =>
      obtain ⟨-, -, mid, hmid, rfl⟩ := apply_some_eq_ok.mp happly
      have hkept := receiptsNumbered_effect hb
        (fun fact heq => by rw [heq] at hfact; cases hfact) hmid
      split_ifs <;> exact hkept

/-! ## The planner on a decision -/

/-- Pure facts without an effect, or one side effect with one. -/
def AllPureOrOne (events : List Event) (planned : List PlannedEffect) : Prop :=
  (planned = [] ↔ ∀ e ∈ events, e.isPureSliceDecisionFact = true) ∧
    (planned ≠ [] → ∃ e p, events = [e] ∧ e.isSideEffectDecisionFact = true ∧ planned = [p])

omit [Externals] in
theorem allPureOrOne_of_planEffects {snapshot} {taskId}
    {planned} (h : planEffects snapshot taskId events = .ok planned) :
    AllPureOrOne events planned := by
  rcases planEffects_eq_ok.mp h with ⟨hpure, -, rfl⟩ | ⟨e, effect, rfl, heff, rfl⟩
  · exact ⟨iff_of_true rfl hpure, fun hne => absurd rfl hne⟩
  · have hside := heff.isSideEffect
    refine ⟨iff_of_false (cons_ne_nil _ _) fun hpure => ?_, fun _ =>
      ⟨e, effect.planned, rfl, hside, rfl⟩⟩
    have hfst := hpure e (mem_singleton_self e)
    rw [isPure_of_isSideEffect hside] at hfst
    cases hfst

omit [Externals] in
theorem Plannable.planned (h : Plannable s events) :
    ∃ planned, planEffects (some s) s.task.id events = .ok planned ∧
      ∀ p ∈ planned, ∃ e effect, events = [e] ∧ HasEffect (some s) s.task.id e effect ∧
        p = effect.planned ∧ p.fence.actionEpoch = some (s.fencedEpoch e) := by
  cases h with
  | pure hall hbound => exact ⟨[], planEffects_of_pure hall hbound, by simp⟩
  | @effect e effect heff hepoch =>
    refine ⟨_, planEffects_singleton heff, fun p hp => ?_⟩
    rw [mem_singleton.mp hp]
    exact ⟨e, effect, rfl, heff, rfl, hepoch⟩

/-- Whatever is decided on a reachable snapshot can be planned: pure facts plan nothing, and the
effect of anything else is that of its one fact, fenced by the snapshot. The planner accepts no
other list. -/
theorem decide_planned :
    (∀ s envelope operationId events, visited.Reachable s →
      Command.decide (some s) envelope operationId = .ok events →
      envelope.taskId = some s.task.id ∧
        ∃ planned, planEffects (some s) s.task.id events = .ok planned ∧
          AllPureOrOne events planned ∧
          ∀ p ∈ planned, ∃ e effect, events = [e] ∧ HasEffect (some s) s.task.id e effect ∧
            p = effect.planned ∧ p.fence.actionEpoch = some (s.fencedEpoch e)) ∧
      ∀ snapshot taskId events planned, planEffects snapshot taskId events = .ok planned →
        AllPureOrOne events planned := by
  constructor
  · intro s envelope operationId events hs h
    obtain ⟨haddr, hplannable⟩ := decide_plannable (receiptsNumbered_of_visited hs) h
    obtain ⟨planned, hplan, heffects⟩ := hplannable.planned
    exact ⟨haddr.task, planned, hplan, allPureOrOne_of_planEffects hplan, heffects⟩
  · intro snapshot taskId events planned h
    exact allPureOrOne_of_planEffects h

end Decide

section Sample

attribute [local instance] sampleExternals

/-- The task begins to close, and its teardown is planned. -/
theorem decide_planned_beginCloseTask : ∃ planned,
    planEffects (some sampleSnapshot) ⟨1⟩ [.taskCloseBegun 1] = .ok planned ∧
      AllPureOrOne [.taskCloseBegun 1] planned ∧
      ∀ p ∈ planned, p.fence.actionEpoch = some 1 := by
  have hdec : Command.decide (some sampleSnapshot)
      (envelopeFor sampleSnapshot .beginCloseTask) ⟨1⟩ = .ok [.taskCloseBegun 1] := rfl
  obtain ⟨-, planned, hplan, halternative, heffects⟩ :=
    decide_planned.1 _ _ _ _ (.start created_sampleSnapshot) hdec
  refine ⟨planned, hplan, halternative, fun p hp => ?_⟩
  obtain ⟨e, effect, hsingle, -, -, hepoch⟩ := heffects p hp
  cases singleton_inj.mp hsingle
  exact hepoch

end Sample

end DevManager
