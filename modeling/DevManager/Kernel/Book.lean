import DevManager.Domain.BrowserFacts
import DevManager.Kernel.Guard

/-!
# The browser book of a task, and closing the task

The kernel keeps one browser book per task. `TaskCloseBegun` closes the task in
the book, which appends a fact for each open tab and context to a journal of at
most `MAX_BROWSER_JOURNAL_FACTS` facts.

* `bookInv_of_guarded`: the book has the one task, open iff the task is open or
  settled; all contexts and tabs are the task's; they are closed when it is not
  open or settled.
* `closeBegun_accepted_iff`: `TaskCloseBegun` is accepted iff the closing facts
  fit into the journal.
-/

namespace DevManager

open Std (ExtTreeMap)
open BrowserBook

/-- What the browser book of a task keeps over runs of guarded events. -/
structure BookInv (s : TaskSnapshot) : Prop where
  ready : s.browser.ready = true
  owned : s.browser.Owned s.task.id
  openTasks : ∀ taskId, taskId ∈ s.browser.openTasks ↔ taskId = s.task.id ∧ RuntimeCapable s
  closedContexts : ¬ RuntimeCapable s → ∀ (id : BrowserContextId) c,
    s.browser.contexts[id]? = some c → c.closed = true
  closedTabs : ¬ RuntimeCapable s → ∀ (id : BrowserTabId) t,
    s.browser.tabs[id]? = some t → t.closed = true
  journal : s.browser.facts.length ≤ maxBrowserJournalFacts

section Invariant

variable [Externals] {s s' : TaskSnapshot}

/-! ## The invariant -/

omit [Externals] in
theorem openTask_ok {b b' : BrowserBook} {taskId} (h : b.openTask taskId = .ok b') :
    b'.ready = b.ready ∧ b'.contexts = b.contexts ∧ b'.tabs = b.tabs ∧ b'.facts = b.facts ∧
      b'.receipts = b.receipts ∧ ∀ t, t ∈ b'.openTasks ↔ t = taskId ∨ t ∈ b.openTasks := by
  unfold openTask at h
  split_ifs at h with hmem
  · cases h
    refine ⟨rfl, rfl, rfl, rfl, rfl, fun t => ⟨.inr, ?_⟩⟩
    rintro (rfl | ht)
    · exact hmem
    · exact ht
  · simp only [ok_iff] at h
    obtain ⟨-, rfl⟩ := h
    exact ⟨rfl, rfl, rfl, rfl, rfl, fun t => OrdMap.mem_insertSet_iff⟩

theorem bookInv_of_isFresh (h : IsFresh s) : BookInv s := by
  obtain ⟨-, hlife, -⟩ := TaskFacts.validateForCreate_eq_ok.mp h.content
  have hcap : RuntimeCapable s := Or.inl hlife
  obtain ⟨hready, hctxs, htabs, hfacts, -, hopen⟩ := openTask_ok h.browser
  refine ⟨hready, ⟨?_, ?_⟩, fun t => ?_, fun hn => absurd hcap hn, fun hn => absurd hcap hn, ?_⟩
  · intro id c hc
    rw [hctxs] at hc
    simp [BrowserBook.new] at hc
  · intro id t ht
    rw [htabs] at ht
    simp [BrowserBook.new] at ht
  · rw [hopen]
    simp [BrowserBook.new, hcap]
  · rw [hfacts]
    simp [BrowserBook.new]

theorem bookInv_closed (h : BookInv s) (hbook : s.browser.closeTask s.task.id = .ok s'.browser)
    (hid : s'.task.id = s.task.id) (hlife : s'.task.lifecycle = .closing) : BookInv s' := by
  have hnc : ¬ RuntimeCapable s' := by
    unfold RuntimeCapable
    rw [hlife]
    decide
  obtain ⟨hopen, hcloses, hctxs, htabs, hfacts⟩ := closeTask_closes hbook
  have howned : s'.browser.Owned s'.task.id := by
    rw [hid]
    constructor
    · intro id c hc
      obtain ⟨c₀, hc₀, hclose⟩ := OrdMap.Related.of_right (hcloses.contexts id) hc
      exact hclose.task.trans (h.owned.contexts id c₀ hc₀)
    · intro id t ht
      obtain ⟨t₀, ht₀, hclose⟩ := OrdMap.Related.of_right (hcloses.tabs id) ht
      exact hclose.task.trans (h.owned.tabs id t₀ ht₀)
  refine ⟨hcloses.ready.trans h.ready, howned, fun t => ?_, fun _ id c hc => ?_, fun _ id t ht =>
    ?_, ?_⟩
  · rw [hopen, OrdMap.mem_eraseSet_iff, h.openTasks]
    constructor
    · rintro ⟨hne, heq, -⟩
      exact absurd heq hne
    · rintro ⟨-, hcap⟩
      exact absurd hcap hnc
  · exact hctxs id c hc ((howned.contexts id c hc).trans hid)
  · exact htabs id t ht ((howned.tabs id t ht).trans hid)
  · obtain ⟨-, hfits, -⟩ := closeTask_eq_ok.mp hbook
    rw [hfacts, List.length_append]
    rcases hfits with hnil | hle
    · rw [hnil]
      exact h.journal
    · exact hle

omit [Externals] in
theorem runtimeCapable_iff {p} (h : TaskStep s p s')
    (hclose : ∀ epoch, p ≠ .taskCloseBegun epoch) (hreopen : p ≠ .taskReopened) :
    RuntimeCapable s' ↔ RuntimeCapable s := by
  unfold RuntimeCapable
  cases p <;> simp only [TaskStep] at h <;> grind

theorem bookInv_effect {p : Event} {t : ℤ} (h : BookInv s) (hguard : Guard s p) :
    Ensures (effect s p t) BookInv := by
  intro s' heff
  obtain ⟨hid, -, htask⟩ := effect_task s p t s' heff
  cases effect_browser s p t s' heff with
  | closed hbook => exact bookInv_closed h hbook hid htask.2.1
  | opened hbook =>
    have hcap : RuntimeCapable s' := Or.inl htask.2.1
    obtain ⟨hready, hctxs, htabs, hfacts, -, hopen⟩ := openTask_ok hbook
    refine ⟨hready.trans h.ready, ⟨?_, ?_⟩, fun t => ?_, fun hn => absurd hcap hn,
      fun hn => absurd hcap hn, ?_⟩
    · rw [hctxs, hid]
      exact h.owned.contexts
    · rw [htabs, hid]
      exact h.owned.tabs
    · rw [hopen, h.openTasks, hid]
      tauto
    · rw [hfacts]
      exact h.journal
  | @fact _ fact hfact hbook =>
    obtain ⟨hlen, happly⟩ := applyFacts_singleton.mp hbook
    obtain ⟨hfacts, hopen, hready, -⟩ := applyFact_frame happly
    have hcap : RuntimeCapable s' := by
      unfold RuntimeCapable
      rw [htask.1]
      exact hguard
    refine ⟨hready.trans h.ready, ?_, fun t => ?_, fun hn => absurd hcap hn,
      fun hn => absurd hcap hn, ?_⟩
    · rw [hid]
      exact applyFact_owned hfact h.owned happly
    · rw [hopen, h.openTasks, hid]
      exact and_congr_right fun _ => ⟨fun _ => hcap, fun _ => hguard⟩
    · rw [hfacts, List.length_append, List.length_singleton]
      exact hlen
  | frame hclose hreopen hbook =>
    have hcap := runtimeCapable_iff htask hclose hreopen
    refine ⟨?_, ?_, ?_, ?_, ?_, ?_⟩ <;> simp only [hbook, hid, hcap]
    exacts [h.ready, h.owned, h.openTasks, h.closedContexts, h.closedTabs, h.journal]

theorem bookInv_of_guarded (h : guarded.Reachable s) : BookInv s :=
  eventMachine_invariant h (fun _ => bookInv_of_isFresh)
    (fun _ _ h => ⟨h.ready, h.owned, h.openTasks, h.closedContexts, h.closedTabs, h.journal⟩)
    fun _ _ _ _ hinv hguard => bookInv_effect hinv hguard

/-! ## Closing the task -/

/-- The tabs and contexts that closing the task has to close. -/
def openBrowserCount (s : TaskSnapshot) : ℕ :=
  OrdMap.countValues s.browser.tabs (fun tab => !tab.closed) +
    OrdMap.countValues s.browser.contexts (fun context => !context.closed)

omit [Externals] in
theorem length_planCloseTask_eq (h : BookInv s) :
    (s.browser.planCloseTask s.task.id).length = openBrowserCount s := by
  rw [length_planCloseTask]
  unfold openBrowserCount OrdMap.countValues
  refine congrArg₂ _ (List.countP_congr ?_) (List.countP_congr ?_)
  · rintro ⟨id, tab⟩ hmem
    have := h.owned.tabs id tab (ExtTreeMap.mem_toList_iff_getElem?_eq_some.mp hmem)
    simp [this]
  · rintro ⟨id, context⟩ hmem
    have := h.owned.contexts id context (ExtTreeMap.mem_toList_iff_getElem?_eq_some.mp hmem)
    simp [this]

theorem closeTask_isOk_iff (h : BookInv s) (hcap : RuntimeCapable s) :
    (∃ b, s.browser.closeTask s.task.id = .ok b) ↔
      s.browser.facts.length + openBrowserCount s ≤ maxBrowserJournalFacts := by
  rw [closeTask_isOk, h.openTasks, ← length_planCloseTask_eq h]
  have hjournal := h.journal
  constructor
  · rintro ⟨-, hnil | hle⟩
    · rw [hnil]
      exact hjournal
    · exact hle
  · intro hle
    exact ⟨⟨rfl, hcap⟩, .inr hle⟩

theorem closeBegun_effect {t : ℤ} {mid}
    (h : effect s (.taskCloseBegun (s.task.actionEpoch + 1)) t = .ok mid) :
    mid.task.lifecycle = .closing ∧ mid.task.actionEpoch = s.task.actionEpoch + 1 := by
  obtain ⟨-, -, -, hlife, hepoch⟩ := effect_task s _ t mid h
  exact ⟨hlife, hepoch⟩

theorem closeBegun_accepted_iff (h : BookInv s) (hcap : RuntimeCapable s)
    (hepoch : s.task.actionEpoch < u64Max) {t : ℤ} :
    (∃ mid, effect s (.taskCloseBegun (s.task.actionEpoch + 1)) t = .ok mid) ↔
      s.browser.facts.length + openBrowserCount s ≤ maxBrowserJournalFacts := by
  rw [← closeTask_isOk_iff h hcap]
  show (∃ mid, applyTaskCloseBegun s (s.task.actionEpoch + 1) = .ok mid) ↔ _
  constructor
  · rintro ⟨mid, hmid⟩
    obtain ⟨-, -, -, b, hb, -⟩ := applyTaskCloseBegun_eq_ok.mp hmid
    exact ⟨b, hb⟩
  · rintro ⟨b, hb⟩
    exact ⟨_, applyTaskCloseBegun_eq_ok.mpr ⟨hcap, hepoch, rfl, b, hb, rfl⟩⟩

end Invariant

/-- On a reachable open or settled task, `BeginCloseTask` is decided as `TaskCloseBegun` and the
event is accepted iff the revision has a successor and the facts that close the open tabs and
contexts fit into the browser journal. -/
theorem beginClose_closes_iff [Externals] {s : TaskSnapshot} (hs : visited.Reachable s)
    (hcap : RuntimeCapable s) (hepoch : s.task.actionEpoch < u64Max) {envelope : CommandEnvelope}
    (hcommand : envelope.command = .beginCloseTask) (haddr : Addressed s envelope)
    (operationId : OperationId) :
    (Command.decide (some s) envelope operationId =
          .ok [.taskCloseBegun (s.task.actionEpoch + 1)] ∧
        ∀ stamp, ∃ s', applyStamped s (stamp, .taskCloseBegun (s.task.actionEpoch + 1)) = .ok s' ∧
          s'.task.lifecycle = .closing ∧ s'.task.actionEpoch = s.task.actionEpoch + 1) ↔
      s.task.revision < u64Max ∧
        s.browser.facts.length + openBrowserCount s ≤ maxBrowserJournalFacts := by
  have hinv : BookInv s := bookInv_of_guarded (guarded_of_visited hs)
  have hdec : Command.decide (some s) envelope operationId =
      .ok [.taskCloseBegun (s.task.actionEpoch + 1)] := by
    unfold Command.decide
    rw [hcommand]
    exact decideBeginClose_eq_ok.mpr ⟨haddr, .inr ⟨hcap, hepoch, rfl⟩⟩
  constructor
  · rintro ⟨-, h⟩
    obtain ⟨s', hs', -⟩ := h ⟨⟨0⟩, 0, 0⟩
    obtain ⟨hrev, hmid⟩ := applyStamped_eq_ok.mp hs'
    obtain ⟨mid, hmid, -⟩ := hmid
    exact ⟨hrev rfl, (closeBegun_accepted_iff hinv hcap hepoch).mp ⟨mid, hmid⟩⟩
  · rintro ⟨hrev, hfits⟩
    refine ⟨hdec, fun stamp => ?_⟩
    obtain ⟨mid, hmid⟩ := (closeBegun_accepted_iff hinv hcap hepoch (t := stamp.occurredAtMs)).mpr
      hfits
    obtain ⟨hlife, hnext⟩ := closeBegun_effect hmid
    exact ⟨_, applyStamped_eq_ok.mpr ⟨fun _ => hrev, mid, hmid, rfl⟩, hlife, hnext⟩

/-! ## A journal that retries fill -/

section Retries

variable [Externals] {s : TaskSnapshot}

def createContextRequest : BrowserRequest where
  requestId := ⟨1⟩
  taskId := ⟨1⟩
  contextId := ⟨1⟩
  tabId := none
  generation := 1
  action := .createContext

structure Retried (s : TaskSnapshot) (n : ℕ) : Prop where
  reachable : kernel.Reachable s
  task : s.task = { sampleTask with revision := n + 1 }
  ready : s.browser.ready = true
  receipt : ∃ prior, s.browser.receipts[createContextRequest.requestId]? = some prior ∧
    prior.request = createContextRequest ∧ prior.accepted.facts = [] ∧
    prior.accepted.requestId = createContextRequest.requestId ∧
    prior.accepted.taskId = createContextRequest.taskId ∧
    prior.accepted.contextId = createContextRequest.contextId ∧
    prior.accepted.generation = createContextRequest.generation
  context : ∃ c, s.browser.contexts[createContextRequest.contextId]? = some c ∧
    c.taskId = createContextRequest.taskId ∧ c.generation = createContextRequest.generation ∧
    c.closed = false
  journal : s.browser.facts.length = n

def createContextFacts : List BrowserDurableFact :=
  [.requestAccepted {
      requestId := ⟨1⟩, taskId := ⟨1⟩, contextId := ⟨1⟩, tabId := none, generation := 1,
      action := .createContext, privacyClass := .shareable, permission := .createContext,
      payloadHash := requestPayloadHash createContextRequest, actionEpoch := 0,
      commandId := some ⟨1⟩ },
    .contextCreated ⟨1⟩ ⟨1⟩ 1]

theorem retried_two : ∃ s, Retried s 2 ∧ openBrowserCount s = 1 := by
  have hdec : Command.decide (some sampleSnapshot)
      (envelopeFor sampleSnapshot (.browser createContextRequest)) ⟨1⟩ =
        .ok ((createContextFacts.map fun fact =>
          ((⟨⟨1⟩, 1, 0⟩ : Stamp), .browser fact)).map Prod.snd) := rfl
  exact ⟨_, ⟨Machine.Reachable.next (.start created_sampleSnapshot) (.decided hdec rfl),
    rfl, rfl, ⟨_, rfl, rfl, rfl, rfl, rfl, rfl, rfl⟩, ⟨_, rfl, rfl, rfl, rfl⟩, rfl⟩, rfl⟩

theorem Retried.next {n : ℕ} (h : Retried s n) (hn : n < maxBrowserJournalFacts) :
    ∃ s', Retried s' (n + 1) := by
  obtain ⟨prior, hprior, hreq, hnofacts, hrid, htask, hctxId, hgen⟩ := h.receipt
  obtain ⟨c, hc, hctask, hcgen, hcopen⟩ := h.context
  let fact : RequestAcceptedFact := { factOfReceipt prior.accepted with
    commandId := some ⟨1⟩, actionEpoch := s.task.actionEpoch }
  have hid : s.task.id = createContextRequest.taskId := by
    rw [h.task]
    rfl
  have hdec : Command.decide (some s) (envelopeFor s (.browser createContextRequest)) ⟨1⟩ =
      .ok ([((⟨⟨1⟩, 1, 0⟩ : Stamp), Event.browser (.requestAccepted fact))].map Prod.snd) := by
    refine decideBrowser_eq_ok.mpr ⟨addressed_envelopeFor s _, .inl ?_, hid.symm, _,
      planAdmit_replay h.ready hprior hreq, ?_⟩
    · rw [h.task]
      rfl
    · simp only [replayOf, hnofacts]
      rfl
  have hadmits : s.browser.Admits fact.taskId fact.contextId fact.generation := by
    unfold BrowserBook.Admits
    rw [show fact.contextId = createContextRequest.contextId from hctxId, hc]
    exact ⟨hctask.trans htask.symm, hcgen.trans hgen.symm⟩
  let book : BrowserBook := { s.browser with
    receipts := s.browser.receipts.insertIfNew fact.requestId (receiptOfFact fact),
    facts := s.browser.facts ++ [.requestAccepted fact] }
  have happly : applyBatch s [((⟨⟨1⟩, 1, 0⟩ : Stamp), Event.browser (.requestAccepted fact))] =
      .ok ({ s with browser := book }.withRevision (s.task.revision + 1)) := by
    refine applyBatch_singleton.mpr (applyStamped_eq_ok.mpr ⟨fun _ => ?_, _,
      applyBrowserFact_eq_ok.mpr ⟨htask.trans hid.symm, _,
        applyFacts_singleton.mpr ⟨by rw [h.journal]; exact hn,
          applyFact_requestAccepted.mpr ⟨hadmits, rfl⟩⟩, rfl⟩, rfl⟩)
    rw [h.task]
    show n + 1 + 1 ≤ u64Max
    have : maxBrowserJournalFacts = 1000 := rfl
    have : u64Max = 2 ^ 64 - 1 := rfl
    omega
  refine ⟨_, h.reachable.next (.decided hdec happly), ?_, h.ready, ?_,
    ⟨c, hc, hctask, hcgen, hcopen⟩, ?_⟩
  · show { s.task with revision := s.task.revision + 1 } = _
    rw [h.task]
  · refine ⟨prior, ?_, hreq, hnofacts, hrid, htask, hctxId, hgen⟩
    show (s.browser.receipts.insertIfNew _ _)[_]? = _
    rw [ExtTreeMap.getElem?_insertIfNew, if_neg, hprior]
    rintro ⟨-, hnew⟩
    rw [show fact.requestId = createContextRequest.requestId from hrid] at hnew
    exact hnew (OrdMap.mem_iff_exists.mpr ⟨prior, hprior⟩)
  · show (s.browser.facts ++ [_]).length = n + 1
    rw [List.length_append, h.journal]
    rfl

theorem exists_retried : ∀ n, 2 + n ≤ maxBrowserJournalFacts → ∃ s, Retried s (2 + n) := by
  intro n
  induction n with
  | zero => exact fun _ => retried_two.imp fun _ hs => hs.1
  | succ n ih =>
    intro hn
    obtain ⟨s, hs⟩ := ih (by omega)
    exact hs.next (by omega)

end Retries

section Sample

attribute [local instance] sampleExternals

theorem beginClose_closes_retried :
    ∃ s, Retried s 2 ∧
      Command.decide (some s) (envelopeFor s .beginCloseTask) ⟨1⟩ = .ok [.taskCloseBegun 1] ∧
      ∀ stamp, ∃ s', applyStamped s (stamp, .taskCloseBegun 1) = .ok s' ∧
        s'.task.lifecycle = .closing ∧ s'.task.actionEpoch = 1 := by
  obtain ⟨s, hs, hcount⟩ := retried_two
  have hepoch : s.task.actionEpoch = 0 := by rw [hs.task]; rfl
  have hcap : RuntimeCapable s := .inl (by rw [hs.task]; rfl)
  have hclose := (beginClose_closes_iff (visited_of_kernel hs.reachable) hcap
    (by rw [hepoch]; decide) rfl (addressed_envelopeFor s .beginCloseTask) ⟨1⟩).mpr
    ⟨by rw [hs.task]; decide, by rw [hs.journal, hcount]; decide⟩
  rw [hepoch] at hclose
  exact ⟨s, hs, hclose⟩

end Sample

/-- The journal can be filled while a context is open; the task can then not be closed. -/
theorem beginClose_blocked :
    ¬ ∃ _ : Externals, ∀ s (envelope : CommandEnvelope)
      operationId, kernel.Reachable s → RuntimeCapable s →
      s.task.actionEpoch < u64Max → envelope.command = .beginCloseTask → Addressed s envelope →
      Command.decide (some s) envelope operationId =
          .ok [.taskCloseBegun (s.task.actionEpoch + 1)] ∧
        ∀ stamp, ∃ s', applyStamped s (stamp, .taskCloseBegun (s.task.actionEpoch + 1)) = .ok s' ∧
          s'.task.lifecycle = .closing ∧ s'.task.actionEpoch = s.task.actionEpoch + 1 := by
  rintro ⟨_, hclaim⟩
  obtain ⟨s, hs⟩ := exists_retried 998 (by decide)
  have hcap : RuntimeCapable s := by
    unfold RuntimeCapable
    rw [hs.task]
    exact .inl rfl
  have hepoch : s.task.actionEpoch < u64Max := by
    rw [hs.task]
    decide
  have hinv : BookInv s := bookInv_of_guarded (guarded_of_visited (visited_of_kernel hs.reachable))
  obtain ⟨-, happly⟩ := hclaim s (envelopeFor s .beginCloseTask) ⟨1⟩ hs.reachable hcap hepoch rfl
    (addressed_envelopeFor s _)
  obtain ⟨s', hs', -⟩ := happly ⟨⟨1⟩, 1, 0⟩
  obtain ⟨-, mid, hmid, -⟩ := applyStamped_eq_ok.mp hs'
  have hfits := (closeBegun_accepted_iff hinv hcap hepoch).mp ⟨mid, hmid⟩
  obtain ⟨c, hc, -, -, hopen⟩ := hs.context
  have hpos : 0 < OrdMap.countValues s.browser.contexts fun context => !context.closed :=
    List.countP_pos_iff.mpr ⟨(_, c), ExtTreeMap.mem_toList_iff_getElem?_eq_some.mpr hc, by
      simp [hopen]⟩
  rw [hs.journal] at hfits
  unfold openBrowserCount maxBrowserJournalFacts at hfits
  omega

end DevManager
