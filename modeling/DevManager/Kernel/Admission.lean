import DevManager.Domain.BrowserFacts
import DevManager.Lib.Machine

/-!
# Planned browser requests

`plan_admit` plans facts against a book, and `apply_facts` checks each fact again.
A new request is planned under the checks that its facts are applied under; a
request with a receipt is replayed from the receipt, without them. This module
says when the two agree.

* `receiptsInv_of_reachable`: a receipt is replayed as one `RequestAccepted` fact
  with the owner, context and generation of its request.
* `planIdentityFacts_cases`: what is planned beside that fact, with all that was checked of the book
  for it; `Planned.applied`: it can be applied after that fact.
-/

namespace DevManager.BrowserBook

open Std (ExtTreeMap ExtTreeSet)
open List

/-! ## The book as a machine -/

section Machine

variable [Externals]

/-- Facts of one request, applied as one event each. -/
def applyEach (b : BrowserBook) (facts : List BrowserDurableFact) :
    Except BrowserContractError BrowserBook :=
  facts.foldlM (fun b fact => b.applyFacts [fact]) b

/-- An operation of the book. The facts of a planned request may be bound to a command, and the
events may stop anywhere. -/
inductive Step (b b' : BrowserBook) : Prop
  | opened {taskId : TaskId} (h : b.openTask taskId = .ok b') : Step b b'
  | closed {taskId : TaskId} (h : b.closeTask taskId = .ok b') : Step b b'
  | admitted {request : BrowserRequest} {receipt : BrowserAcceptedReceipt}
      (h : b.admitRequest request = .ok (b', receipt)) : Step b b'
  | settled {outcome : BrowserHostOutcome} {receipt : BrowserAcceptedReceipt}
      (h : b.settle outcome = .ok (b', receipt)) : Step b b'
  | planned {request : BrowserRequest} {accepted : BrowserAcceptedReceipt}
      {facts : List BrowserDurableFact} (hplan : b.planAdmit request = .ok accepted)
      (hfacts : facts <+: accepted.facts) (h : b.applyEach facts = .ok b') : Step b b'
  | bound {request : BrowserRequest} {accepted : BrowserAcceptedReceipt} {commandId : CommandId}
      {actionEpoch : ℕ} {facts : List BrowserDurableFact}
      (hplan : b.planAdmit request = .ok accepted)
      (hfacts : facts <+: (accepted.bindCommand commandId actionEpoch).facts)
      (h : b.applyEach facts = .ok b') : Step b b'

/-- Runs of the book's operations from the empty book. -/
def bookMachine : Machine BrowserBook where
  init b := b = new
  step := Step

end Machine

/-! ## What is planned for a new request -/

/-- The facts that close the open tabs of a context. -/
def tabClosings (b : BrowserBook) (contextId : BrowserContextId) (taskId : TaskId) :
    List BrowserDurableFact :=
  b.tabs.toList.filterMap fun (tabId, tab) =>
    if tab.contextId = contextId ∧ tab.closed = false then some (.tabClosed tabId contextId taskId)
    else none

/-- The identity facts of a request in the request's own context, which is open, and what was
checked for them. -/
inductive PlannedIn (b : BrowserBook) (request : BrowserRequest) (context : ContextState) :
    List BrowserDurableFact → Prop
  | none : PlannedIn b request context []
  | closed : PlannedIn b request context
      (b.tabClosings request.contextId request.taskId ++
        [.contextClosed request.contextId request.taskId context.generation])
  | tabOpened {tabId kind url} (hnew : tabId ∉ b.tabs)
      (hroom : OrdMap.countValues b.tabs (fun tab => !tab.closed) < maxBrowserTabs)
      (hpopup : ∀ opener, kind = .popup opener → ∃ parent, b.tabs[opener]? = some parent ∧
        parent.closed = false ∧ parent.contextId = request.contextId ∧
        parent.taskId = request.taskId) (hurl : request.action.url = some url) :
      PlannedIn b request context
        (.tabOpened tabId request.contextId request.taskId kind url ::
          if context.selectedTabId.isNone then
            [.tabSelected tabId request.contextId request.taskId]
          else [])
  | tabClosed {tabId tab} (htabId : b.tabs[tabId]? = some tab)
      (hctx : tab.contextId = request.contextId) :
      PlannedIn b request context [.tabClosed tabId request.contextId request.taskId]
  | tabSelected {tabId tab} (htabId : b.tabs[tabId]? = some tab)
      (hctx : tab.contextId = request.contextId) (htask : tab.taskId = request.taskId)
      (hopen : tab.closed = false) :
      PlannedIn b request context [.tabSelected tabId request.contextId request.taskId]
  | artifactLinked {artifactId} :
      PlannedIn b request context [.artifactLinked request.contextId request.taskId artifactId]

/-- The identity facts of a request: its context is created, or is there and is the task's; unless
it was closed already, it is open and has the request's generation. -/
inductive Planned (b : BrowserBook) (request : BrowserRequest) : List BrowserDurableFact → Prop
  | created (hnew : request.contextId ∉ b.contexts) (hroom : b.contexts.size < maxBrowserContexts)
      (hact : request.action = .createContext) :
      Planned b request [.contextCreated request.contextId request.taskId 1]
  | again {context} (hctx : b.contexts[request.contextId]? = some context)
      (htask : context.taskId = request.taskId) : Planned b request []
  | inContext {context identity} (hctx : b.contexts[request.contextId]? = some context)
      (htask : context.taskId = request.taskId) (hopen : context.closed = false)
      (hplan : PlannedIn b request context identity) : Planned b request identity

/-- What is planned in the request's context, one fact of it. -/
inductive PlannedFact (b : BrowserBook) (request : BrowserRequest) : BrowserDurableFact → Prop
  | tabClosed {tabId tab} (htabId : b.tabs[tabId]? = some tab)
      (hin : tab.contextId = request.contextId) :
      PlannedFact b request (.tabClosed tabId request.contextId request.taskId)
  | contextClosed {generation} :
      PlannedFact b request (.contextClosed request.contextId request.taskId generation)
  | tabOpened {tabId kind url} (hurl : request.action.url = some url)
      (hpopup : ∀ opener, kind = .popup opener → ∃ parent, b.tabs[opener]? = some parent ∧
        parent.closed = false ∧ parent.contextId = request.contextId ∧
        parent.taskId = request.taskId) :
      PlannedFact b request (.tabOpened tabId request.contextId request.taskId kind url)
  | tabSelected {tabId}
      (hin : ∀ t, b.tabs[tabId]? = some t → t.contextId = request.contextId) :
      PlannedFact b request (.tabSelected tabId request.contextId request.taskId)
  | artifactLinked {artifactId} :
      PlannedFact b request (.artifactLinked request.contextId request.taskId artifactId)

section Identity

variable {b b' : BrowserBook} {request : BrowserRequest} {identity : List BrowserDurableFact}

variable {context : ContextState}

theorem requireContext_eq_ok :
    b.requireContext request = .ok context ↔
      b.contexts[request.contextId]? = some context ∧ context.taskId = request.taskId ∧
        context.closed = false ∧ context.generation = request.generation := by
  unfold requireContext requireContextIds
  simp only [ok_iff, Bool.not_eq_true]
  constructor
  · rintro ⟨_, hget, htask, hopen, hgen, rfl⟩
    exact ⟨hget, htask, hopen, hgen⟩
  · rintro ⟨hget, htask, hopen, hgen⟩
    exact ⟨context, hget, htask, hopen, hgen, rfl⟩

theorem requireTab_eq_ok {tab} (h : b.requireTab request = .ok tab) :
    (∃ context, b.contexts[request.contextId]? = some context ∧
        context.taskId = request.taskId ∧ context.closed = false) ∧
      ∃ tabId, tabIdOf request = .ok tabId ∧ b.tabs[tabId]? = some tab ∧
        tab.contextId = request.contextId ∧ tab.taskId = request.taskId ∧ tab.closed = false := by
  unfold requireTab at h
  simp only [ok_iff, not_or, requireContext_eq_ok, Bool.not_eq_true] at h
  obtain ⟨context, ⟨hcontext, htask, hopen, -⟩, tabId, htabId, tab, htab, howner, ⟨hctx, hlive⟩,
    rfl⟩ := h
  exact ⟨⟨context, hcontext, htask, hopen⟩, tabId, htabId, htab, hctx, howner, hlive⟩

theorem planCloseOpenContext_cases (h : b.planCloseOpenContext request = .ok identity) :
    Planned b request identity := by
  unfold planCloseOpenContext at h
  simp only [ok_iff, requireContext_eq_ok] at h
  obtain ⟨context, ⟨hctx, htask, hopen, -⟩, rfl⟩ := h
  exact .inContext hctx htask hopen .closed

theorem planOpenTab_cases {url kind} (hact : request.action = .openTab url kind)
    (h : b.planOpenTab request url kind = .ok identity) : Planned b request identity := by
  unfold planOpenTab at h
  simp only [ok_iff, requireContext_eq_ok, ge_iff_le, not_le] at h
  obtain ⟨context, ⟨hcontext, htask, hopen, -⟩, tabId, -, hnew, hroom, hparts, rfl⟩ := h
  refine .inContext hcontext htask hopen (.tabOpened hnew hroom ?_ (by rw [hact]; rfl))
  rintro opener rfl
  simp only [ok_iff, not_or, Bool.not_eq_true] at hparts
  obtain ⟨parent, hget, hlive, hctx, howner⟩ := hparts
  exact ⟨parent, hget, hlive, hctx, howner⟩

theorem planIdentityFacts_cases (h : b.planIdentityFacts request = .ok identity) :
    Planned b request identity := by
  unfold planIdentityFacts at h
  cases hact : request.action <;> simp only [hact] at h
  case createContext =>
    unfold planCreateContext at h
    simp only [ok_iff, ge_iff_le, not_le] at h
    obtain ⟨-, hnone, hroom, rfl⟩ := h
    refine .created ?_ hroom hact
    cases hcontext : b.contexts[request.contextId]? with
    | none => exact OrdMap.not_mem_iff.mpr hcontext
    | some context =>
      rw [hcontext] at hnone
      cases hnone
  case closeContext =>
    unfold planCloseContext at h
    cases hcontext : b.contexts[request.contextId]? with
    | none =>
      rw [hcontext] at h
      exact planCloseOpenContext_cases h
    | some context =>
      rw [hcontext] at h
      simp only [ok_iff] at h
      obtain ⟨htask, h⟩ := h
      split_ifs at h
      · rw [pure_eq_ok] at h
        rw [h]
        exact .again hcontext htask
      · exact planCloseOpenContext_cases h
  case openTab url kind => exact planOpenTab_cases hact h
  case closeTab =>
    simp only [ok_iff] at h
    obtain ⟨tab, htab, tabId, htabId, rfl⟩ := h
    obtain ⟨⟨context, hcontext, htask, hopen⟩, tabId', htabId', hget, hctx, -⟩ :=
      requireTab_eq_ok htab
    rw [htabId] at htabId'
    cases htabId'
    rw [hctx]
    exact .inContext hcontext htask hopen (.tabClosed hget hctx)
  case selectTab =>
    simp only [ok_iff] at h
    obtain ⟨tab, htab, tabId, htabId, rfl⟩ := h
    obtain ⟨⟨context, hcontext, htask, hopen⟩, tabId', htabId', hget, hctx, howner, hlive⟩ :=
      requireTab_eq_ok htab
    rw [htabId] at htabId'
    cases htabId'
    rw [hctx]
    exact .inContext hcontext htask hopen (.tabSelected hget hctx howner hlive)
  case linkArtifact artifactId =>
    simp only [ok_iff, requireContext_eq_ok] at h
    obtain ⟨context, ⟨hcontext, htask, hopen, -⟩, rfl⟩ := h
    exact .inContext hcontext htask hopen .artifactLinked
  -- the other actions plan no fact, but need a tab or a context
  all_goals
    split_ifs at h <;> simp only [ok_iff] at h
    · obtain ⟨tab, htab, rfl⟩ := h
      obtain ⟨⟨context, hcontext, htask, hopen⟩, -⟩ := requireTab_eq_ok htab
      exact .inContext hcontext htask hopen .none
    · obtain ⟨context, hreq, rfl⟩ := h
      obtain ⟨hcontext, htask, hopen, -⟩ := requireContext_eq_ok.mp hreq
      exact .inContext hcontext htask hopen .none

theorem Planned.congr (h : Planned b request identity) (hctxs : b'.contexts = b.contexts)
    (htabs : b'.tabs = b.tabs) : Planned b' request identity := by
  cases h with
  | created hnew hroom hact =>
    refine .created ?_ ?_ hact
    · rw [hctxs]
      exact hnew
    · rw [hctxs]
      exact hroom
  | again hctx htask => exact .again (by rw [hctxs]; exact hctx) htask
  | inContext hctx htask hopen hplan =>
    refine .inContext (by rw [hctxs]; exact hctx) htask hopen ?_
    cases hplan with
    | none => exact .none
    | closed =>
      unfold tabClosings
      rw [← htabs]
      exact .closed
    | tabOpened hnew hroom hpopup hurl =>
      rw [← htabs] at hnew hroom hpopup
      exact .tabOpened hnew hroom hpopup hurl
    | tabClosed htabId hin => exact .tabClosed (by rw [htabs]; exact htabId) hin
    | tabSelected htabId hin howner hlive =>
      exact .tabSelected (by rw [htabs]; exact htabId) hin howner hlive
    | artifactLinked => exact .artifactLinked

theorem Planned.fact (h : Planned b request identity) {fact} (hfact : fact ∈ identity) :
    fact = .contextCreated request.contextId request.taskId 1 ∨
      (∃ c, b.contexts[request.contextId]? = some c ∧ c.closed = false) ∧
        PlannedFact b request fact := by
  cases h with
  | created => exact .inl (mem_singleton.mp hfact)
  | again => cases hfact
  | @inContext context _ hctx _ hopen hplan =>
    refine .inr ⟨⟨context, hctx, hopen⟩, ?_⟩
    cases hplan with
    | none => cases hfact
    | closed =>
      rcases mem_append.mp hfact with hfact | hfact
      · obtain ⟨⟨tabId, tab⟩, hmem, hfact⟩ := mem_filterMap.mp hfact
        dsimp only at hfact
        split_ifs at hfact with hin
        cases hfact
        exact .tabClosed (ExtTreeMap.mem_toList_iff_getElem?_eq_some.mp hmem) hin.1
      · rw [mem_singleton.mp hfact]
        exact .contextClosed
    | tabOpened hnew _ hpopup hurl =>
      rcases mem_cons.mp hfact with rfl | hfact
      · exact .tabOpened hurl hpopup
      · split_ifs at hfact
        · rw [mem_singleton.mp hfact]
          exact .tabSelected fun t ht => absurd (OrdMap.mem_iff_exists.mpr ⟨t, ht⟩) hnew
        · cases hfact
    | tabClosed htabId hin =>
      rw [mem_singleton.mp hfact]
      exact .tabClosed htabId hin
    | @tabSelected tabId tab htabId hin =>
      rw [mem_singleton.mp hfact]
      exact .tabSelected fun t ht => Option.some.inj (htabId.symm.trans ht) ▸ hin
    | artifactLinked =>
      rw [mem_singleton.mp hfact]
      exact .artifactLinked

theorem Planned.taskId (h : Planned b request identity) :
    ∀ fact ∈ identity, fact.taskId = request.taskId := by
  intro fact hfact
  rcases h.fact hfact with rfl | ⟨-, hfact⟩
  · rfl
  · cases hfact <;> rfl

variable {contextId : BrowserContextId}

theorem applyFact_tabSelected [Externals] {tabId}
    {taskId} (htabId : tabId ∈ b.tabs) (hctx : b.contexts[contextId]? = some context) :
    ∃ b', b.applyFact (.tabSelected tabId contextId taskId) = .ok b' := by
  refine ⟨_, applyFact_eq_ok.mpr ⟨b.setContext contextId { context with
    selectedTabId := some tabId }, ?_, rfl⟩⟩
  simp only [projectFact, ok_iff]
  exact ⟨htabId, context, hctx, rfl⟩

theorem applyFact_tabOpened [Externals] {tabId} (kind) {url taskId}
    (hurl : validateUrl url = .ok ()) (hctx : b.contexts[contextId]? = some context)
    (htask : context.taskId = taskId) (hnew : tabId ∉ b.tabs) :
    ∃ b', b.applyFact (.tabOpened tabId contextId taskId kind url) = .ok b' ∧ tabId ∈ b'.tabs ∧
      b'.contexts[contextId]? = some context := by
  let mid : BrowserBook := { b with tabs := b.tabs.insert tabId {
    contextId, taskId, kind, committedUrl := some url,
    closed := false } }
  have hmid : b.projectFact (.tabOpened tabId contextId taskId kind url) = .ok mid := by
    simp only [projectFact, ownedContext, ok_iff]
    exact ⟨hurl, context, ⟨context, hctx, htask, rfl⟩, hnew, rfl⟩
  exact ⟨_, applyFact_eq_ok.mpr ⟨mid, hmid, rfl⟩, OrdMap.mem_insert_iff.mpr (.inl rfl), hctx⟩

theorem Planned.applied [Externals] (h : Planned b request identity)
    (hopen : request.taskId ∈ b.openTasks)
    (hurl : ∀ url, request.action.url = some url → validateUrl url = .ok ()) :
    ∃ b', identity.foldlM applyFact b = .ok b' := by
  cases h with
  | created hnew hroom =>
    have hfact : ∃ mid, b.projectFact (.contextCreated request.contextId request.taskId 1) =
        .ok mid := by
      simp only [projectFact, ok_iff, ge_iff_le, not_le]
      exact ⟨_, hopen, hnew, hroom, rfl⟩
    obtain ⟨mid, hmid⟩ := hfact
    exact ⟨_, foldlM_cons_ok.mpr ⟨_, applyFact_eq_ok.mpr ⟨mid, hmid, rfl⟩, rfl⟩⟩
  | again => exact ⟨b, rfl⟩
  | @inContext context identity hctx htask _ hplan =>
    have hclosing : (∀ fact ∈ identity, IsClosing b fact) →
        ∃ b', identity.foldlM applyFact b = .ok b' := by
      intro hall
      obtain ⟨b', hb', -⟩ := foldlM_applyFact_closing hall
      exact ⟨b', hb'⟩
    cases hplan with
    | none => exact ⟨b, rfl⟩
    | closed =>
      refine hclosing fun fact hfact => ?_
      rcases mem_append.mp hfact with hfact | hfact
      · obtain ⟨⟨tabId, tab⟩, hmem, hfact⟩ := mem_filterMap.mp hfact
        dsimp only at hfact
        split_ifs at hfact
        cases hfact
        exact ⟨tab, ExtTreeMap.mem_toList_iff_getElem?_eq_some.mp hmem⟩
      · rw [mem_singleton.mp hfact]
        exact ⟨context, hctx, htask⟩
    | tabClosed htabId =>
      refine hclosing fun fact hfact => ?_
      rw [mem_singleton.mp hfact]
      exact ⟨_, htabId⟩
    | @tabOpened tabId kind url hnew _ _ hact =>
      obtain ⟨b₁, hb₁, htabId, hctx'⟩ :=
        applyFact_tabOpened kind (hurl url hact) hctx htask hnew
      split_ifs
      · -- the tab is selected right after it was opened
        obtain ⟨b₂, hb₂⟩ : ∃ b₂, b₁.applyFact (.tabSelected tabId request.contextId
            request.taskId) = .ok b₂ := applyFact_tabSelected htabId hctx'
        exact ⟨b₂, foldlM_cons_ok.mpr ⟨b₁, hb₁, foldlM_cons_ok.mpr ⟨b₂, hb₂, rfl⟩⟩⟩
      · exact ⟨b₁, foldlM_cons_ok.mpr ⟨b₁, hb₁, rfl⟩⟩
    | tabSelected htabId =>
      obtain ⟨b', hb'⟩ := applyFact_tabSelected (OrdMap.mem_iff_exists.mpr ⟨_, htabId⟩) hctx
      exact ⟨b', foldlM_cons_ok.mpr ⟨b', hb', rfl⟩⟩
    | @artifactLinked artifactId =>
      have hfact : ∃ mid, b.projectFact (.artifactLinked request.contextId request.taskId
          artifactId) = .ok mid := by
        simp only [projectFact, ownedContext, ok_iff]
        exact ⟨_, context, ⟨context, hctx, htask, rfl⟩, rfl⟩
      obtain ⟨mid, hmid⟩ := hfact
      exact ⟨_, foldlM_cons_ok.mpr ⟨_, applyFact_eq_ok.mpr ⟨mid, hmid, rfl⟩, rfl⟩⟩

end Identity

/-! ## Receipts -/

/-- A receipt is replayed as one `RequestAccepted` fact of its request. -/
def ReceiptInv (stored : StoredReceipt) : Prop :=
  ∃ fact, (replayOf stored.accepted).facts = [.requestAccepted fact] ∧
    fact.taskId = stored.request.taskId ∧ fact.contextId = stored.request.contextId ∧
    fact.generation = stored.request.generation

def ReceiptsInv (b : BrowserBook) : Prop :=
  ∀ (id : BrowserRequestId) stored, b.receipts[id]? = some stored → ReceiptInv stored

section Receipts

variable {b b' : BrowserBook}

theorem receiptInv_receiptOfFact (fact) : ReceiptInv (receiptOfFact fact) :=
  ⟨factOfReceipt (receiptOfFact fact).accepted, rfl, rfl, rfl, rfl⟩

theorem isRequestAccepted_of_mem_planIdentityFacts {request}
    {identity} (h : b.planIdentityFacts request = .ok identity) :
    ∀ fact ∈ identity, fact.isRequestAccepted = false := by
  intro fact hfact
  rcases (planIdentityFacts_cases h).fact hfact with rfl | ⟨-, hfact⟩
  · rfl
  · cases hfact <;> rfl

variable [Externals]

theorem receiptsInv_applyFact {fact} (hinv : ReceiptsInv b)
    (h : b.applyFact fact = .ok b') : ReceiptsInv b' := by
  obtain ⟨-, -, -, hrec⟩ := applyFact_frame h
  intro id stored hstored
  rw [hrec] at hstored
  rcases receiptsAfter_getElem? hstored with hold | ⟨fact, -, rfl⟩
  · exact hinv id stored hold
  · exact receiptInv_receiptOfFact fact

variable {facts : List BrowserDurableFact}

theorem receiptsInv_applyFacts (hinv : ReceiptsInv b)
    (h : b.applyFacts facts = .ok b') : ReceiptsInv b' := by
  unfold applyFacts at h
  split_ifs at h
  · cases h
    exact hinv
  · simp only [ok_iff] at h
    obtain ⟨-, h⟩ := h
    exact foldlM_invariant (fun fact _ b b' hb hf => receiptsInv_applyFact hb hf) hinv h

theorem receiptsInv_applyEach (hinv : ReceiptsInv b)
    (h : b.applyEach facts = .ok b') : ReceiptsInv b' :=
  foldlM_invariant (fun _ _ _ _ hb hf => receiptsInv_applyFacts hb hf) hinv h

variable {request : BrowserRequest}

theorem receiptInv_acceptedReceipt {identity}
    (h : b.planIdentityFacts request = .ok identity) (settled : Bool)
    (settlement) :
    ReceiptInv { request, accepted := acceptedReceipt request identity, settled, settlement } := by
  have hnone : identity.filter BrowserDurableFact.isRequestAccepted = [] := by
    rw [filter_eq_nil_iff]
    intro fact hfact
    rw [isRequestAccepted_of_mem_planIdentityFacts h fact hfact]
    exact Bool.false_ne_true
  refine ⟨factOfReceipt (acceptedReceipt request identity), ?_, rfl, rfl, rfl⟩
  simp only [replayOf, acceptedReceipt, filter_cons, BrowserDurableFact.isRequestAccepted,
    if_true, hnone]
  rfl

variable {accepted : BrowserAcceptedReceipt}

theorem planNew_eq_ok :
    b.planNew request = .ok accepted ↔
      request.taskId ∈ b.openTasks ∧ b.receipts.size < maxBrowserReceipts ∧
        request.generation ≠ 0 ∧ checkAction request = .ok () ∧
        ∃ identity, b.planIdentityFacts request = .ok identity ∧
          b.facts.length + (identity.length + 1) ≤ maxBrowserJournalFacts ∧
          accepted = acceptedReceipt request identity := by
  unfold planNew
  simp only [ok_iff, ge_iff_le, not_le, not_lt]

theorem planAdmit_eq_ok :
    b.planAdmit request = .ok accepted ↔
      b.ready = true ∧
        ((∃ prior, b.receipts[request.requestId]? = some prior ∧ prior.request = request ∧
            accepted = replayOf prior.accepted) ∨
          b.receipts[request.requestId]? = none ∧ b.planNew request = .ok accepted) := by
  unfold planAdmit
  simp only [ok_iff]
  refine and_congr_right fun _ => ?_
  cases b.receipts[request.requestId]? with
  | none => simp
  | some prior =>
    simp only [Option.some.injEq, exists_eq_left', reduceCtorEq, false_and, or_false]
    split_ifs with heq
    · simp [heq, eq_comm]
    · simp [heq]

theorem receiptsInv_step (hinv : ReceiptsInv b) (h : Step b b') : ReceiptsInv b' := by
  cases h with
  | opened h =>
    unfold openTask at h
    split_ifs at h
    · cases h
      exact hinv
    · simp only [ok_iff] at h
      rw [h.2]
      exact hinv
  | closed h =>
    obtain ⟨-, hclose, -⟩ := closeTask_closes h
    unfold ReceiptsInv
    rw [hclose.receipts]
    exact hinv
  | @admitted request receipt h =>
    unfold admitRequest at h
    simp only [bind_eq_ok] at h
    obtain ⟨accepted, hplan, h⟩ := h
    cases hprior : b.receipts[request.requestId]? with
    | some prior =>
      rw [hprior] at h
      cases h
      exact hinv
    | none =>
      rw [hprior] at h
      simp only [ok_iff] at h
      obtain ⟨mid, hmid, rfl, -⟩ := h
      obtain ⟨-, ⟨_, hsome, -⟩ | ⟨-, hnew⟩⟩ := planAdmit_eq_ok.mp hplan
      · rw [hprior] at hsome
        cases hsome
      · obtain ⟨-, -, -, -, identity, hident, -, rfl⟩ := planNew_eq_ok.mp hnew
        exact OrdMap.forall_insert (receiptInv_acceptedReceipt hident _ _)
          (receiptsInv_applyFacts hinv hmid)
  | @settled outcome receipt h =>
    unfold settle at h
    simp only [ok_iff] at h
    obtain ⟨stored, hstored, -, h⟩ := h
    split_ifs at h
    · cases h
      exact hinv
    · simp only [ok_iff] at h
      obtain ⟨facts, -, mid, hmid, rfl, -⟩ := h
      have hmidInv : ReceiptsInv mid := receiptsInv_applyFacts hinv hmid
      intro id stored hstored
      simp only [OrdMap.getElem?_modify_eq] at hstored
      split_ifs at hstored
      · -- settling keeps the request and the accepted receipt
        obtain ⟨before, hpre, rfl⟩ := Option.map_eq_some_iff.mp hstored
        exact hmidInv id before hpre
      · exact hmidInv id stored hstored
  | planned _ _ h | bound _ _ h => exact receiptsInv_applyEach hinv h

theorem receiptsInv_of_reachable (h : bookMachine.Reachable b) : ReceiptsInv b := by
  refine h.invariant ?_ fun _ _ _ hinv hstep => receiptsInv_step hinv hstep
  rintro _ rfl id stored hstored
  simp [new] at hstored

end Receipts

/-! ## Planned facts, applied -/

section Planned

variable [Externals] {b b' : BrowserBook} {request : BrowserRequest}
  {accepted : BrowserAcceptedReceipt}

theorem applyFacts_cons {fact facts} :
    b.applyFacts (fact :: facts) = .ok b' ↔
      b.facts.length + (facts.length + 1) ≤ maxBrowserJournalFacts ∧
        ∃ mid, b.applyFact fact = .ok mid ∧ facts.foldlM applyFact mid = .ok b' := by
  unfold applyFacts
  rw [if_neg (by simp)]
  simp only [ok_iff, foldlM_cons_ok, length_cons, not_lt]

theorem validateUrl_of_checkAction (h : checkAction request = .ok ()) {url}
    (hurl : request.action.url = some url) : validateUrl url = .ok () := by
  unfold checkAction at h
  rw [hurl] at h
  simp only [ok_iff] at h
  exact h.1

theorem planNew_applied_iff (h : b.planNew request = .ok accepted) :
    (∃ b', b.applyFacts accepted.facts = .ok b') ↔
      b.facts.length < maxBrowserJournalFacts ∧
        b.Admits request.taskId request.contextId request.generation := by
  obtain ⟨hopen, -, -, hcheck, identity, hident, hroom, rfl⟩ := planNew_eq_ok.mp h
  simp only [acceptedReceipt, applyFacts_cons, applyFact_requestAccepted]
  constructor
  · rintro ⟨b', -, mid, ⟨hadmits, -⟩, -⟩
    exact ⟨by omega, hadmits⟩
  · rintro ⟨-, hadmits⟩
    have happ : ∀ receipts facts, ∃ b', identity.foldlM applyFact
        { b with receipts, facts } = .ok b' := by
      intro receipts facts
      have hmid : Planned { b with receipts, facts } request identity :=
        (planIdentityFacts_cases hident).congr rfl rfl
      exact hmid.applied hopen fun url hurl => validateUrl_of_checkAction hcheck hurl
    exact (happ _ _).imp fun b' hb' => ⟨hroom, _, ⟨hadmits, rfl⟩, hb'⟩

theorem replay_applied_iff {prior} (hinv : ReceiptInv prior) :
    (∃ b', b.applyFacts (replayOf prior.accepted).facts = .ok b') ↔
      b.facts.length < maxBrowserJournalFacts ∧
        b.Admits prior.request.taskId prior.request.contextId prior.request.generation := by
  obtain ⟨fact, hfacts, htask, hctx, hgen⟩ := hinv
  rw [hfacts, ← htask, ← hctx, ← hgen]
  simp only [applyFacts_singleton, applyFact_requestAccepted, exists_and_left, exists_eq, and_true]

end Planned

/-- The facts planned for a request are applied iff the journal has room and the book admits the
request: its context has the request's owner and generation, or does not exist while the task
is open. -/
theorem planned_applied_iff [Externals] {b : BrowserBook} {request : BrowserRequest}
    {accepted : BrowserAcceptedReceipt} (hb : bookMachine.Reachable b)
    (hplan : b.planAdmit request = .ok accepted) :
    (∃ b', b.applyFacts accepted.facts = .ok b') ↔
      b.facts.length < maxBrowserJournalFacts ∧
        b.Admits request.taskId request.contextId request.generation := by
  rcases planAdmit_eq_ok.mp hplan with ⟨-, ⟨prior, hprior, rfl, rfl⟩ | ⟨-, hnew⟩⟩
  · exact replay_applied_iff (receiptsInv_of_reachable hb _ prior hprior)
  · exact planNew_applied_iff hnew

def sampleRequest (n : ℕ) (generation : ℕ) (action : BrowserAction) : BrowserRequest where
  requestId := ⟨n⟩
  taskId := ⟨1⟩
  contextId := ⟨1⟩
  tabId := none
  generation := generation
  action := action

section Sample

attribute [local instance] sampleExternals

def openedBook : BrowserBook := { new with openTasks := (∅ : ExtTreeSet TaskId).insert ⟨1⟩ }

theorem reachable_openedBook : bookMachine.Reachable openedBook := by
  have hopen : new.openTask ⟨1⟩ = .ok openedBook := rfl
  exact Machine.Reachable.next (.start rfl) (.opened hopen)

theorem planned_applied_createContext :
    ∃ accepted, openedBook.planAdmit (sampleRequest 1 1 .createContext) = .ok accepted ∧
      ∃ b', openedBook.applyFacts accepted.facts = .ok b' := by
  have hplan : openedBook.planAdmit (sampleRequest 1 1 .createContext) = .ok _ := rfl
  have hadmits : openedBook.Admits ⟨1⟩ ⟨1⟩ 1 := by
    show (⟨1⟩ : TaskId) ∈ openedBook.openTasks
    decide
  exact ⟨_, hplan, (planned_applied_iff reachable_openedBook hplan).mpr ⟨by decide, hadmits⟩⟩

theorem reachable_admitRequest {b b' receipt}
    (hb : bookMachine.Reachable b) (request)
    (h : b.admitRequest request = .ok (b', receipt)) : bookMachine.Reachable b' :=
  hb.next (.admitted h)

theorem exists_refused : ∃ b accepted, bookMachine.Reachable b ∧
    b.planAdmit (sampleRequest 3 2 .closeContext) = .ok accepted ∧
    b.applyFacts accepted.facts = .error .generationMismatch := by
  have hmade :=
    reachable_admitRequest reachable_openedBook (sampleRequest 1 1 .createContext) rfl
  have hclosed := reachable_admitRequest hmade (sampleRequest 2 1 .closeContext) rfl
  exact ⟨_, _, hclosed, rfl, rfl⟩

/-- Closing a closed context again, under another generation, is planned, and then refused. -/
theorem planned_refused_closeContext :
    ¬ ∀ b request accepted,
      bookMachine.Reachable b → b.planAdmit request = .ok accepted →
      ∃ b', b.applyFacts accepted.facts = .ok b' := by
  intro hclaim
  obtain ⟨b, accepted, hb, hplan, hdeny⟩ := exists_refused
  obtain ⟨b', hb'⟩ := hclaim b _ accepted hb hplan
  rw [hdeny] at hb'
  cases hb'

end Sample

end DevManager.BrowserBook
