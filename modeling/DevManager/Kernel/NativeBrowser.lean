import DevManager.Kernel.Journal
import DevManager.Kernel.Receipts

/-!
# Opening the native browser of a task (`src/domain/native_browser.rs`)

`decide_open` plans two requests on a copy of the book, one to create the context
and one to open a tab in it, and registers the browser's resource. Whether the
task then has a browser is asked of `from_snapshot`. A request whose id has a
receipt is planned as a replay, which creates and opens nothing: an intent that
repeats the requests of a closed browser is decided, and what it is decided as
leaves a resource without a context.

* `fromSnapshot_eq_none`, `fromSnapshot_eq_some`: when a snapshot has a native browser.
* `planOpen_cases`: the two requests are both new, or change no context.
-/

namespace DevManager

open Std (ExtTreeMap LawfulEqCmp)
open NativeBrowserSessionProjection (fromSnapshot)
open List OrdMap

section NativeBrowser

variable {s s' : TaskSnapshot}

/-! ## `from_snapshot` -/

/-- The resources that `from_snapshot` looks at. -/
def isNativeBrowser (resource : ResourceFacts) : Bool :=
  resource.resourceKind = .browserContext && resource.lifecycle ≠ .released

variable (s)

/-- The unreleased browser resources of a snapshot. -/
def nativeResources : List (ResourceId × ResourceFacts) :=
  s.resources.toList.filter fun e => isNativeBrowser e.2

/-- The open browser contexts of a snapshot. -/
def openContextsOf : List (BrowserContextId × ContextState) :=
  s.browser.contexts.toList.filter fun e => !e.2.closed

theorem map_nativeResources :
    ((s.resources.toList.map Prod.snd).filter fun resource =>
      resource.resourceKind = .browserContext && resource.lifecycle ≠ .released) =
      (nativeResources s).map Prod.snd := by
  unfold nativeResources isNativeBrowser
  rw [filter_map]
  rfl

variable {s}

theorem fromSnapshot_eq_none (h : fromSnapshot s = .ok none) :
    RuntimeCapable s ∧ nativeResources s = [] ∧ openContextsOf s = [] := by
  simp only [fromSnapshot, ok_iff] at h
  obtain ⟨hcap, h⟩ := h
  rw [map_nativeResources] at h
  split at h
  case h_1 hres hctx => exact ⟨hcap, map_eq_nil_iff.mp hres, hctx⟩
  case h_2 => simp only [ok_iff, reduceCtorEq, and_false, exists_false] at h
  case h_3 => cases h

theorem openContextsOf_ne_nil {p} (h : fromSnapshot s = .ok (some p)) :
    openContextsOf s ≠ [] := by
  intro hnil
  simp only [fromSnapshot, ok_iff] at h
  obtain ⟨-, h⟩ := h
  unfold openContextsOf at hnil
  rw [hnil] at h
  split at h
  case h_1 => cases h
  case h_2 hctx => cases hctx
  case h_3 => cases h

theorem nativeBrowserTab_eq_some {id context tabId tab} (hsel : context.selectedTabId = some tabId)
    (htabs : s.browser.tabs[tabId]? = some tab) (hctx : tab.contextId = id)
    (htask : tab.taskId = s.task.id) (hopen : tab.closed = false) :
    nativeBrowserTab s id context = some (tabId, tab) := by
  have hmem : (tabId, tab) ∈ s.browser.tabs.toList :=
    ExtTreeMap.mem_toList_iff_getElem?_eq_some.mpr htabs
  cases hfind : nativeBrowserTab s id context with
  | none =>
    have hnone := find?_eq_none.mp hfind (tabId, tab) hmem
    simp [hsel, hctx, htask, hopen] at hnone
  | some found =>
    obtain ⟨foundId, foundTab⟩ := found
    have hp := find?_some hfind
    have hin := mem_of_find?_eq_some hfind
    rw [hsel] at hp
    simp only [Option.some.injEq, Bool.and_eq_true, decide_eq_true_eq] at hp
    obtain ⟨⟨⟨rfl, -⟩, -⟩, -⟩ := hp
    have hget := ExtTreeMap.mem_toList_iff_getElem?_eq_some.mp hin
    rw [htabs] at hget
    cases hget
    rfl

theorem fromSnapshot_eq_some {resource startUrl id context agentId agent tabId tab}
    (hcap : RuntimeCapable s) (hresources : nativeResources s = [(resource.id, resource)])
    (hctxs : openContextsOf s = [(id, context)])
    (hrec : resource.recipe = .browser startUrl (some id))
    (hresTask : resource.taskId = some s.task.id) (howner : resource.ownerKind = .task)
    (hactive : resource.lifecycle = .active) (hctx : context.taskId = s.task.id)
    (hgen : context.generation = 1) (hres : resource.runtimeGeneration = 1)
    (hprimary : s.primaryAgentId = some agentId) (hagent : s.agents[agentId]? = some agent)
    (hagentTask : agent.taskId = s.task.id) (hagentOpen : agent.lifecycle = .opened)
    (htabs : nativeBrowserTab s id context = some (tabId, tab)) :
    fromSnapshot s = .ok (some {
      taskId := s.task.id
      agentSessionId := agentId
      contextId := id
      resourceId := resource.id
      generation := context.generation
      tabId := tabId
      startUrl := tab.committedUrl.getD "about:blank" }) := by
  unfold openContextsOf at hctxs
  simp only [fromSnapshot, ok_iff]
  refine ⟨hcap, ?_⟩
  rw [map_nativeResources, hresources, hctxs, map_singleton]
  simp only [ok_iff, hrec, htabs]
  refine ⟨id, rfl, ?_, agentId, hprimary, agent, hagent, ?_, _, rfl, rfl⟩
  · simp [hresTask, howner, hactive, hctx, hgen, hres]
  · simp [hagentTask, hagentOpen]

/-! ## The two requests -/

section Requests

variable [Externals] {envelope : CommandEnvelope} {intent : OpenTaskBrowserIntent}
  {events : List Event}

/-- What `decide_open` checked for the events it returns. -/
structure OpenDecided (s : TaskSnapshot) (envelope : CommandEnvelope)
    (intent : OpenTaskBrowserIntent)
    (contextId : BrowserContextId) (created opened : List BrowserDurableFact)
    (mid book : BrowserBook) : Prop where
  none : NativeBrowserSessionProjection.fromSnapshot s = .ok none
  agent : ∃ agent, s.agents[intent.agentSessionId]? = some agent ∧ agent.taskId = s.task.id ∧
    agent.lifecycle = .opened
  primary : s.primaryAgentId = some intent.agentSessionId
  recipe : intent.resource.recipe = .browser "about:blank" (some contextId)
  valid : intent.resource.validate = .ok ()
  kind : intent.resource.resourceKind = .browserContext
  owner : intent.resource.ownerKind = .task
  task : intent.resource.taskId = some s.task.id
  active : intent.resource.lifecycle = .active
  generation : intent.resource.runtimeGeneration = 1
  requests : intent.createRequestId ≠ intent.openRequestId
  fresh : intent.resource.id ∉ s.resources
  create : planOpenRequest s envelope s.browser {
    requestId := intent.createRequestId, taskId := s.task.id, contextId, tabId := Option.none,
    generation := 1, action := .createContext } = .ok (mid, created)
  opening : planOpenRequest s envelope mid {
    requestId := intent.openRequestId, taskId := s.task.id, contextId, tabId := some intent.tabId,
    generation := 1, action := .openTab "about:blank" .page } = .ok (book, opened)

theorem decideOpen_decided (h : decideOpenTaskBrowser (some s) envelope intent = .ok events) :
    ∃ contextId created opened mid book,
      OpenDecided s envelope intent contextId created opened mid book ∧
      events = (created ++ opened).map Event.browser ++ [.resourceRegistered intent.resource] := by
  unfold decideOpenTaskBrowser at h
  rw [requireRuntimeCapable_bind_eq_ok] at h
  obtain ⟨-, -, h⟩ := h
  simp only [decideOpen, ok_iff, not_or, isOk_eq_true] at h
  obtain ⟨existing, hexisting, hnone, agent, hagent, ⟨hprimary, hagentTask, hagentOpen⟩,
    ⟨contextId, startUrl⟩, hrec, ⟨hvalid, hkind, howner, htask, hactive, hgen, hurl, hreq⟩, hfresh,
    ⟨mid, created⟩, hmake, ⟨book, opened⟩, hopen, rfl⟩ := h
  have hexisting' : existing = none := by simpa using hnone
  subst hexisting'
  have hrecipe' : intent.resource.recipe = .browser startUrl (some contextId) := by
    unfold browserRecipe at hrec
    split at hrec
    · cases hrec
      assumption
    · cases hrec
  subst hurl
  rw [hgen] at hmake hopen
  exact ⟨contextId, created, opened, mid, book, ⟨hexisting, ⟨agent, hagent, hagentTask, hagentOpen⟩,
    hprimary, hrecipe', hvalid, hkind, howner, htask, hactive, hgen, hreq, hfresh, hmake,
    hopen⟩, rfl⟩

end Requests

end NativeBrowser

namespace BrowserBook

section Requests

variable [Externals] {b b' : BrowserBook} {facts : List BrowserDurableFact}

/-! ### Replays -/

omit [Externals] in
theorem isRequestAccepted_bindCommand {commandId} {actionEpoch : ℕ} {fact : BrowserDurableFact} :
    (fact.bindCommand commandId actionEpoch).isRequestAccepted = fact.isRequestAccepted := by
  cases fact <;> rfl

omit [Externals] in
theorem isRequestAccepted_of_replay {accepted} {commandId : CommandId} {actionEpoch : ℕ} :
    ∀ fact ∈ ((replayOf accepted).bindCommand commandId actionEpoch).facts,
      fact.isRequestAccepted = true := by
  intro fact hfact
  obtain ⟨planned, hplan, rfl⟩ := mem_map.mp hfact
  rw [isRequestAccepted_bindCommand]
  simp only [replayOf] at hplan
  split_ifs at hplan
  · rw [mem_singleton.mp hplan]
    rfl
  · exact (mem_filter.mp hplan).2

theorem foldlM_requestAccepted (hall : ∀ fact ∈ facts, fact.isRequestAccepted = true)
    (h : facts.foldlM applyFact b = .ok b') : b'.contexts = b.contexts ∧ b'.tabs = b.tabs := by
  refine foldlM_invariant (P := fun x => x.contexts = b.contexts ∧ x.tabs = b.tabs)
    (fun fact hfact x y hx hy => ?_) ⟨rfl, rfl⟩ h
  have hreq := hall fact hfact
  cases fact <;> first
    | cases hreq; done
    | skip
  obtain ⟨-, rfl⟩ := applyFact_requestAccepted.mp hy
  exact hx

/-! ### New requests -/

/-- The context that `ContextCreated` makes. -/
def newContext (taskId : TaskId) : ContextState where
  taskId := taskId
  generation := 1
  selectedTabId := none
  health := .healthy
  closed := false
  permissions := ∅
  linkedArtifacts := ∅
  recipeId := none
  recordingId := none

variable {id : BrowserContextId} {taskId : TaskId}

theorem applyFact_contextCreated (h : b.applyFact (.contextCreated id taskId 1) = .ok b') :
    id ∉ b.contexts ∧ b'.contexts = b.contexts.insert id (newContext taskId) ∧
      b'.tabs = b.tabs ∧ b'.receipts = b.receipts := by
  obtain ⟨mid, hmid, rfl⟩ := applyFact_eq_ok.mp h
  simp only [projectFact, ok_iff] at hmid
  obtain ⟨-, hnew, -, rfl⟩ := hmid
  exact ⟨hnew, rfl, rfl, rfl⟩

variable {tabId : BrowserTabId}

theorem applyFact_tabOpened_page
    {url} (h : b.applyFact (.tabOpened tabId id taskId .page url) = .ok b') :
    b'.contexts = b.contexts ∧ b'.tabs = b.tabs.insert tabId {
      contextId := id
      taskId := taskId
      kind := .page
      committedUrl := some url
      closed := false } := by
  obtain ⟨mid, hmid, rfl⟩ := applyFact_eq_ok.mp h
  simp only [projectFact, ok_iff] at hmid
  obtain ⟨-, _, -, -, rfl⟩ := hmid
  exact ⟨rfl, rfl⟩

theorem applyFact_tabSelected_eq (h : b.applyFact (.tabSelected tabId id taskId) = .ok b') :
    ∃ context, b.contexts[id]? = some context ∧
      b'.contexts = b.contexts.insert id { context with selectedTabId := some tabId } ∧
      b'.tabs = b.tabs := by
  obtain ⟨mid, hmid, rfl⟩ := applyFact_eq_ok.mp h
  simp only [projectFact, ok_iff] at hmid
  obtain ⟨-, context, hctx, rfl⟩ := hmid
  exact ⟨context, hctx, rfl, rfl⟩

variable {request : BrowserRequest} {accepted : BrowserAcceptedReceipt} {commandId : CommandId}
  {actionEpoch : ℕ}

theorem planNew_bound (h : b.planNew request = .ok accepted)
    (happly : b.applyFacts (accepted.bindCommand commandId actionEpoch).facts = .ok b') :
    ∃ identity fact mid, b.planIdentityFacts request = .ok identity ∧
      (accepted.bindCommand commandId actionEpoch).facts = .requestAccepted fact ::
        identity.map (BrowserDurableFact.bindCommand commandId actionEpoch) ∧
      fact.requestId = request.requestId ∧
      mid = { b with
        receipts := b.receipts.insertIfNew request.requestId (receiptOfFact fact),
        facts := b.facts ++ [.requestAccepted fact] } ∧
      (identity.map (BrowserDurableFact.bindCommand commandId actionEpoch)).foldlM applyFact mid =
        .ok b' := by
  obtain ⟨-, -, -, -, identity, hident, -, rfl⟩ := planNew_eq_ok.mp h
  obtain ⟨hloop, -⟩ := applyFacts_ok happly
  obtain ⟨mid, hmid, hfold⟩ := foldlM_cons_ok.mp hloop
  obtain ⟨-, rfl⟩ := applyFact_requestAccepted.mp hmid
  exact ⟨identity, _, _, hident, rfl, rfl, rfl, hfold⟩

theorem taskId_of_planNew (h : b.planNew request = .ok accepted) :
    ∀ fact ∈ (accepted.bindCommand commandId actionEpoch).facts, fact.taskId = request.taskId := by
  intro fact hfact
  obtain ⟨-, -, -, -, identity, hident, -, rfl⟩ := planNew_eq_ok.mp h
  obtain ⟨planned, hplan, rfl⟩ := mem_map.mp hfact
  have hbound : (planned.bindCommand commandId actionEpoch).taskId = planned.taskId := by
    cases planned <;> rfl
  rw [hbound]
  rcases mem_cons.mp hplan with rfl | hplan
  · rfl
  · exact (planIdentityFacts_cases hident).taskId planned hplan

theorem created_new (hact : request.action = .createContext) (h : b.planNew request = .ok accepted)
    (happly : b.applyFacts (accepted.bindCommand commandId actionEpoch).facts = .ok b') :
    (accepted.bindCommand commandId actionEpoch).facts.length = 2 ∧
      request.contextId ∉ b.contexts ∧
      b'.contexts = b.contexts.insert request.contextId (newContext request.taskId) ∧
      b'.tabs = b.tabs ∧
      ∀ id ≠ request.requestId, b'.receipts[id]? = b.receipts[id]? := by
  obtain ⟨identity, fact, mid, hident, hfacts, -, hmid, hfold⟩ := planNew_bound h happly
  unfold planIdentityFacts planCreateContext at hident
  rw [hact] at hident
  simp only [ok_iff] at hident
  obtain ⟨-, -, -, rfl⟩ := hident
  obtain ⟨last, hlast, hnil⟩ := foldlM_cons_ok.mp hfold
  cases hnil
  obtain ⟨hnew, hctxs, htabs, hrec⟩ := applyFact_contextCreated hlast
  rw [hmid] at hnew hctxs htabs hrec
  refine ⟨by rw [hfacts]; rfl, hnew, hctxs, htabs, fun id hid => ?_⟩
  rw [hrec, ExtTreeMap.getElem?_insertIfNew, if_neg]
  rintro ⟨heq, -⟩
  exact hid (LawfulEqCmp.compare_eq_iff_eq.mp heq).symm

theorem opened_new {url context}
    (hact : request.action = .openTab url .page) (htab : request.tabId = some tabId)
    (hctx : b.contexts[request.contextId]? = some context)
    (hunselected : context.selectedTabId = none) (h : b.planNew request = .ok accepted)
    (happly : b.applyFacts (accepted.bindCommand commandId actionEpoch).facts = .ok b') :
    (accepted.bindCommand commandId actionEpoch).facts.length = 3 ∧
      b'.contexts = b.contexts.insert request.contextId
        { context with selectedTabId := some tabId } ∧
      b'.tabs[tabId]? = some {
        contextId := request.contextId
        taskId := request.taskId
        kind := .page
        committedUrl := some url
        closed := false } := by
  obtain ⟨identity, fact, mid, hident, hfacts, -, hmid, hfold⟩ := planNew_bound h happly
  unfold planIdentityFacts planOpenTab at hident
  rw [hact] at hident
  simp only [ok_iff, requireContext_eq_ok, htab, Option.some.injEq, exists_eq_left'] at hident
  obtain ⟨context', ⟨hctx', -⟩, -, -, -, rfl⟩ := hident
  rw [hctx] at hctx'
  cases hctx'
  rw [hunselected] at hfold hfacts
  obtain ⟨first, hfst, hrest⟩ := foldlM_cons_ok.mp hfold
  obtain ⟨second, hsnd, hnil⟩ := foldlM_cons_ok.mp hrest
  cases hnil
  obtain ⟨hctxs, htabs⟩ := applyFact_tabOpened_page hfst
  obtain ⟨found, hfound, hsel, hkept⟩ := applyFact_tabSelected_eq hsnd
  rw [hctxs, hmid] at hfound hsel
  have hfound' : b.contexts[request.contextId]? = some found := hfound
  rw [hctx] at hfound'
  cases hfound'
  refine ⟨by rw [hfacts]; rfl, hsel, ?_⟩
  rw [hkept, htabs, getElem?_insert_eq, if_pos rfl]

end Requests

end BrowserBook

section Effect

variable [Externals] {s s' : TaskSnapshot} {envelope : CommandEnvelope}
  {intent : OpenTaskBrowserIntent} {contextId : BrowserContextId}
  {created opened : List BrowserDurableFact} {mid book : BrowserBook}

/-- The browser that the two new requests leave in the book. -/
structure OpenedBook (s : TaskSnapshot) (intent : OpenTaskBrowserIntent)
    (contextId : BrowserContextId) (book : BrowserBook) : Prop where
  contexts : ∃ context,
    book.contexts = s.browser.contexts.insert contextId context ∧
    context.taskId = s.task.id ∧ context.generation = 1 ∧
    context.selectedTabId = some intent.tabId ∧ context.closed = false
  tab : ∃ tab, book.tabs[intent.tabId]? = some tab ∧ tab.contextId = contextId ∧
    tab.taskId = s.task.id ∧ tab.closed = false

theorem planOpen_cases (hb : s.browser.ReceiptsBacked)
    (h : OpenDecided s envelope intent contextId created opened mid book) :
    (intent.createRequestId ∈ s.browser.receipts ∧
        ∀ fact ∈ created ++ opened, fact.isRequestAccepted = true) ∨
      (intent.createRequestId ∉ s.browser.receipts ∧ created.length = 2 ∧ opened.length = 3 ∧
        (∀ fact ∈ created ++ opened, fact.taskId = s.task.id) ∧
        OpenedBook s intent contextId book) := by
  obtain ⟨-, -, hclosed⟩ := fromSnapshot_eq_none h.none
  obtain ⟨first, hfst, rfl, hmid⟩ := planOpenRequest_ok h.create
  obtain ⟨second, hsnd, rfl, hbook⟩ := planOpenRequest_ok h.opening
  obtain ⟨-, ⟨prior, hprior, -, rfl⟩ | ⟨hnone, hnew⟩⟩ := BrowserBook.planAdmit_eq_ok.mp hfst
  · -- the context of a replayed creation is closed, so that the tab request is no new one
    refine .inl ⟨mem_iff_exists.mpr ⟨prior, hprior⟩, ?_⟩
    have hreplay := @BrowserBook.isRequestAccepted_of_replay prior.accepted envelope.commandId
      s.task.actionEpoch
    obtain ⟨hloop, -⟩ := BrowserBook.applyFacts_ok hmid
    obtain ⟨hcontexts, -⟩ := BrowserBook.foldlM_requestAccepted hreplay hloop
    obtain ⟨-, ⟨prior', -, -, rfl⟩ | ⟨-, hne'⟩⟩ := BrowserBook.planAdmit_eq_ok.mp hsnd
    · intro fact hfact
      rcases mem_append.mp hfact with hfact | hfact
      · exact hreplay fact hfact
      · exact BrowserBook.isRequestAccepted_of_replay fact hfact
    · obtain ⟨-, -, -, -, identity, hident, -⟩ := BrowserBook.planNew_eq_ok.mp hne'
      simp only [BrowserBook.planIdentityFacts, BrowserBook.planOpenTab, bind_eq_ok,
        BrowserBook.requireContext_eq_ok] at hident
      obtain ⟨context, ⟨hctx, -, hopen, -⟩, -⟩ := hident
      rw [hcontexts] at hctx
      have hmem := filter_eq_nil_iff.mp hclosed (contextId, context)
        (ExtTreeMap.mem_toList_iff_getElem?_eq_some.mpr hctx)
      simp [hopen] at hmem
  · obtain ⟨hlen, hfresh, hcontexts, htabs, hrec⟩ :=
      BrowserBook.created_new rfl hnew hmid
    have hctx : mid.contexts[contextId]? = some (BrowserBook.newContext s.task.id) := by
      rw [hcontexts, getElem?_insert_eq, if_pos rfl]
    obtain ⟨-, ⟨prior, hprior, hreq, -⟩ | ⟨-, hne'⟩⟩ :=
      BrowserBook.planAdmit_eq_ok.mp hsnd
    · -- a receipt of the tab request would name the context
      rw [hrec _ (Ne.symm h.requests)] at hprior
      obtain ⟨fact, rfl, hfact⟩ := hb _ prior hprior
      have hact : fact.action = .openTab "about:blank" .page :=
        congrArg BrowserRequest.action hreq
      have hctxs : fact.contextId = contextId := congrArg BrowserRequest.contextId hreq
      have hmem := hfact.context fact rfl (by rw [hact]; simp)
      rw [hctxs] at hmem
      exact absurd hmem hfresh
    · obtain ⟨hle', hctxs', htab⟩ :=
        BrowserBook.opened_new rfl rfl hctx rfl hne' hbook
      refine .inr ⟨not_mem_iff.mpr hnone, hlen, hle', fun fact hfact => ?_,
        ⟨{ BrowserBook.newContext s.task.id with selectedTabId := some intent.tabId }, ?_, rfl,
          rfl, rfl, rfl⟩, ⟨_, htab, rfl, rfl, rfl⟩⟩
      · rcases mem_append.mp hfact with hfact | hfact
        · exact BrowserBook.taskId_of_planNew hnew fact hfact
        · exact BrowserBook.taskId_of_planNew hne' fact hfact
      · rw [hctxs', hcontexts, insert_insert]

theorem OpenDecided.folded (h : OpenDecided s envelope intent contextId created opened mid book)
    (hopen : opened ≠ []) :
    (created ++ opened).foldlM BrowserBook.applyFact s.browser = .ok book ∧
      s.browser.facts.length + (created ++ opened).length ≤ maxBrowserJournalFacts := by
  obtain ⟨_, -, -, hmid⟩ := planOpenRequest_ok h.create
  obtain ⟨_, -, -, hbook⟩ := planOpenRequest_ok h.opening
  obtain ⟨hloop, -⟩ := BrowserBook.applyFacts_ok hmid
  obtain ⟨hloop', -⟩ := BrowserBook.applyFacts_ok hbook
  refine ⟨?_, ?_⟩
  · rw [foldlM_append, bind_eq_ok]
    exact ⟨mid, hloop, hloop'⟩
  · have hroom : mid.facts.length + opened.length ≤ maxBrowserJournalFacts := by
      unfold BrowserBook.applyFacts at hbook
      rw [if_neg (by simpa using hopen)] at hbook
      simp only [ok_iff, not_lt] at hbook
      exact hbook.1
    rw [BrowserBook.foldlM_facts hloop, length_append] at hroom
    rw [length_append]
    omega

/-! ## Opening the browser -/

/-- Folding the events over the snapshot succeeds, and the browser of the result is the one of the
intent. -/
def Opens (s : TaskSnapshot) (intent : OpenTaskBrowserIntent) (events : List Event) : Prop :=
  ∀ batch, batch.map Prod.snd = events →
    ∃ s' p, applyBatch s batch = .ok s' ∧
      NativeBrowserSessionProjection.fromSnapshot s' = .ok (some p) ∧
      (browserRecipe intent.resource.recipe).map Prod.fst = some p.contextId ∧
      p.resourceId = intent.resource.id ∧ p.tabId = intent.tabId ∧
      p.agentSessionId = intent.agentSessionId

theorem applyStamped_resource {stamp} {count : ℕ} {after}
    (h : OpenDecided s envelope intent contextId created opened mid book) :
    applyStamped (s.withBook after count) (stamp, .resourceRegistered intent.resource) = .ok s' ↔
      s.task.revision + count + 1 ≤ u64Max ∧
        s' = ((s.withBook after count).setResource intent.resource.id intent.resource).withRevision
          (s.task.revision + count + 1) := by
  have heff : ∀ t mid, effect (s.withBook after count) (.resourceRegistered intent.resource) t =
      .ok mid ↔ mid = (s.withBook after count).setResource intent.resource.id intent.resource := by
    intro t mid
    show applyResourceRegistered (s.withBook after count) intent.resource t = .ok mid ↔ _
    rw [applyResourceRegistered_eq_ok, if_neg (by rw [h.kind]; simp)]
    constructor
    · rintro ⟨-, -, -, -, -, -, heq⟩
      exact heq
    · intro heq
      refine ⟨h.owner, h.task, h.valid, h.active, h.fresh, fun hshell => ?_, heq⟩
      rw [h.recipe] at hshell
      cases hshell
  rw [applyStamped_eq_ok]
  have hmut : (Event.resourceRegistered intent.resource).isTaskMutation = true := rfl
  simp only [hmut, true_implies, heff, exists_eq_left, bumped, if_true]
  rfl

theorem fromSnapshot_opened {count revision : ℕ}
    (h : OpenDecided s envelope intent contextId created opened mid book)
    (hbook : OpenedBook s intent contextId book) :
    ∃ p, fromSnapshot
        (((s.withBook book count).setResource intent.resource.id intent.resource).withRevision
          revision) = .ok (some p) ∧
      p.contextId = contextId ∧ p.resourceId = intent.resource.id ∧ p.tabId = intent.tabId ∧
      p.agentSessionId = intent.agentSessionId := by
  obtain ⟨hcap, hresources, hclosed⟩ := fromSnapshot_eq_none h.none
  obtain ⟨agent, hagent, hagentTask, hagentOpen⟩ := h.agent
  obtain ⟨context, hctxs, hctxTask, hgen, hsel, hopen⟩ := hbook.contexts
  obtain ⟨tab, htabs, htabContext, htabTask, htabOpen⟩ := hbook.tab
  have hnative : isNativeBrowser intent.resource = true := by
    simp [isNativeBrowser, h.kind, h.active]
  have hres : (s.resources.insert intent.resource.id intent.resource).toList.filter
      (fun e => isNativeBrowser e.2) = [(intent.resource.id, intent.resource)] :=
    filter_toList_insert hresources hnative
  have hctx : book.contexts.toList.filter (fun e => !e.2.closed) = [(contextId, context)] := by
    rw [hctxs]
    exact filter_toList_insert hclosed (by simp [hopen])
  refine ⟨_, @fromSnapshot_eq_some _ intent.resource _ contextId context intent.agentSessionId agent
    intent.tabId tab hcap hres hctx h.recipe h.task h.owner h.active hctxTask hgen h.generation
      h.primary hagent hagentTask hagentOpen
    (nativeBrowserTab_eq_some hsel htabs htabContext htabTask htabOpen), rfl, rfl, rfl, rfl⟩

end Effect

theorem map_snd_stamped (events : List Event) :
    (events.map fun p => (sampleStamp, p)).map Prod.snd = events := by
  rw [map_map]
  exact map_id events

/-- `OpenTaskBrowser` is atomic and effective. In every reachable snapshot, what the command is
decided as can be applied and leaves the browser of the intent iff the request that creates
the context has no receipt and the revision has room for the six events. -/
theorem openTaskBrowser_effective_iff [Externals] {s : TaskSnapshot} (hs : kernel.Reachable s)
    {envelope : CommandEnvelope} {operationId : OperationId} {intent : OpenTaskBrowserIntent}
    {events : List Event} (hcommand : envelope.command = .openTaskBrowser intent)
    (hdecide : Command.decide (some s) envelope operationId = .ok events) :
    Opens s intent events ↔
      intent.createRequestId ∉ s.browser.receipts ∧ s.task.revision + 6 ≤ u64Max := by
  unfold Command.decide at hdecide
  rw [hcommand] at hdecide
  obtain ⟨contextId, created, opened, mid, book, hdec, rfl⟩ := decideOpen_decided hdecide
  have hcases := planOpen_cases (receiptsBacked_of_reachable hs) hdec
  constructor
  · intro hopens
    obtain ⟨s', p, hbatch, hp, -⟩ := hopens _ (map_snd_stamped _)
    rw [map_append] at hbatch
    obtain ⟨s₁, hfst, hlast⟩ := applyBatch_append.mp hbatch
    obtain ⟨after, hfold, rfl, -⟩ := applyBatch_browser_ok (map_snd_stamped _) hfst
    obtain ⟨hrev, rfl⟩ := (applyStamped_resource hdec).mp (applyBatch_singleton.mp hlast)
    rcases hcases with ⟨-, hall⟩ | ⟨hnew, hmade, hopen, -⟩
    · -- the acceptances opened no context
      obtain ⟨-, -, hclosed⟩ := fromSnapshot_eq_none hdec.none
      obtain ⟨hctxs, -⟩ := BrowserBook.foldlM_requestAccepted hall hfold
      refine absurd ?_ (openContextsOf_ne_nil hp)
      show after.contexts.toList.filter _ = []
      rw [hctxs]
      exact hclosed
    · rw [length_append, hmade, hopen] at hrev
      exact ⟨hnew, hrev⟩
  · rintro ⟨hnew, hrev⟩ batch hmap
    obtain ⟨first, last, rfl, hfst, hlast⟩ := map_eq_append_iff.mp hmap
    obtain ⟨⟨stamp, payload⟩, rfl, hpayload⟩ := map_eq_singleton_iff.mp hlast
    cases hpayload
    rcases hcases with ⟨hold, -⟩ | ⟨-, hmade, hopen, htasks, hbook⟩
    · exact absurd hold hnew
    · have hlen : (created ++ opened).length = 5 := by
        rw [length_append, hmade, hopen]
      obtain ⟨hfold, hroom⟩ := hdec.folded (by
        rintro rfl
        cases hopen)
      have hfacts := applyBatch_browser_mpr hfst htasks hroom (by omega) hfold
      rw [hlen] at hfacts
      obtain ⟨p, hp, hctx, hres, htabs, hagent⟩ :=
        @fromSnapshot_opened _ s _ _ _ _ _ _ _ 5 (s.task.revision + 5 + 1) hdec hbook
      refine ⟨_, p, applyBatch_append.mpr ⟨_, hfacts, applyBatch_singleton.mpr
        ((applyStamped_resource hdec).mpr ⟨by omega, rfl⟩)⟩, hp, ?_, hres, htabs, hagent⟩
      rw [hdec.recipe, hctx]
      rfl

/-! ## A browser opened twice with the same requests -/

def browserIntent (n : ℕ) : OpenTaskBrowserIntent where
  agentSessionId := ⟨1⟩
  resource := {
    id := ⟨n⟩, taskId := some ⟨1⟩, ownerKind := .task, resourceKind := .browserContext,
    recipe := .browser "about:blank" (some ⟨1⟩), lifecycle := .active, runtimeGeneration := 1,
    updatedAtMs := 0 }
  tabId := ⟨1⟩
  createRequestId := ⟨1⟩
  openRequestId := ⟨2⟩

def runCommand [Externals] (s : TaskSnapshot) (command : Command) : Option TaskSnapshot :=
  match Command.decide (some s) (envelopeFor s command) ⟨1⟩ with
  | .ok events => (applyBatch s (events.map fun p => (sampleStamp, p))).toOption
  | .error _ => none

theorem runCommand_eq_some [Externals] {s s' command} :
    runCommand s command = some s' ↔
      ∃ events, Command.decide (some s) (envelopeFor s command) ⟨1⟩ = .ok events ∧
        applyBatch s (events.map fun p => (sampleStamp, p)) = .ok s' := by
  unfold runCommand
  cases hdec : Command.decide (some s) (envelopeFor s command) ⟨1⟩ with
  | error error => simp
  | ok events =>
    simp only [Except.ok.injEq, exists_eq_left']
    cases applyBatch s (events.map fun p => (sampleStamp, p)) <;> simp [Except.toOption]

theorem reachable_runCommand [Externals] {s s' command}
    (hs : kernel.Reachable s) (h : runCommand s command = some s') : kernel.Reachable s' := by
  obtain ⟨events, hdec, hbatch⟩ := runCommand_eq_some.mp h
  rw [← map_snd_stamped events] at hdec
  exact hs.next (.decided hdec hbatch)

section Sample

attribute [local instance] sampleExternals

def primarySnapshot : Option TaskSnapshot := runCommand registeredSnapshot (.setPrimaryAgent ⟨1⟩)

def closedBrowser : Option TaskSnapshot :=
  primarySnapshot.bind fun s =>
    (runCommand s (.openTaskBrowser (browserIntent 1))).bind fun s =>
      (runCommand s (.browser {
        requestId := ⟨3⟩
        taskId := ⟨1⟩
        contextId := ⟨1⟩
        tabId := none
        generation := 1
        action := .closeContext })).bind fun s =>
          (runCommand s (.releaseResource ⟨1⟩)).bind fun s =>
            (applyStamped s (sampleStamp, .resourceReleased ⟨1⟩ 1)).toOption

theorem exists_primarySnapshot :
    ∃ s, kernel.Reachable s ∧ s.task.revision = 3 ∧ ⟨1⟩ ∉ s.browser.receipts ∧
      ∃ s', runCommand s (.openTaskBrowser (browserIntent 1)) = some s' := by
  have hsome : primarySnapshot.map (fun s => (s.task.revision, decide (⟨1⟩ ∈ s.browser.receipts),
      (runCommand s (.openTaskBrowser (browserIntent 1))).isSome)) = some (3, false, true) := by
    decide +kernel
  obtain ⟨s, hs, heq⟩ := Option.map_eq_some_iff.mp hsome
  simp only [Prod.mk.injEq, decide_eq_false_iff_not, Option.isSome_iff_exists] at heq
  exact ⟨s, reachable_runCommand reachable_registeredSnapshot hs, heq.1, heq.2.1, heq.2.2⟩

theorem exists_closedBrowser : ∃ s, kernel.Reachable s ∧
    (runCommand s (.openTaskBrowser (browserIntent 2))).map
      fromSnapshot = some (.error .ownershipConflict) := by
  have hsome : closedBrowser.bind (fun s =>
      (runCommand s (.openTaskBrowser (browserIntent 2))).map
        fromSnapshot) = some (.error .ownershipConflict) := by
    decide +kernel
  obtain ⟨s, hs, hlast⟩ := Option.bind_eq_some_iff.mp hsome
  refine ⟨s, ?_, hlast⟩
  simp only [closedBrowser, Option.bind_eq_some_iff] at hs
  obtain ⟨s₁, h₁, s₂, h₂, s₃, h₃, s₄, h₄, hs⟩ := hs
  have hreleasing : kernel.Reachable s₄ := reachable_runCommand (reachable_runCommand
    (reachable_runCommand (reachable_runCommand reachable_registeredSnapshot h₁) h₂) h₃) h₄
  refine reachable_host hreleasing (.resourceReleased ⟨1⟩ 1) rfl ?_
  cases happly : applyStamped s₄ (sampleStamp, .resourceReleased ⟨1⟩ 1) with
  | ok s' =>
    rw [happly] at hs
    cases hs
    rfl
  | error error =>
    rw [happly] at hs
    cases hs

/-- With the requests of a browser that was closed the command is decided and applied, but the
task then has a browser resource without a context. -/
theorem openTaskBrowser_replayed :
    ∃ s events s', kernel.Reachable s ∧
      Command.decide (some s) (envelopeFor s (.openTaskBrowser (browserIntent 2))) ⟨1⟩ =
        .ok events ∧
      applyBatch s (events.map fun p => (sampleStamp, p)) = .ok s' ∧
      NativeBrowserSessionProjection.fromSnapshot s' = .error .ownershipConflict := by
  obtain ⟨s, hs, hlast⟩ := exists_closedBrowser
  obtain ⟨s', hrun, hshown⟩ := Option.map_eq_some_iff.mp hlast
  obtain ⟨events, hdec, hbatch⟩ := runCommand_eq_some.mp hrun
  exact ⟨s, events, s', hs, hdec, hbatch, hshown⟩

theorem openTaskBrowser_effective_primary :
    ∃ s events, kernel.Reachable s ∧
      Command.decide (some s) (envelopeFor s (.openTaskBrowser (browserIntent 1))) ⟨1⟩ =
        .ok events ∧ Opens s (browserIntent 1) events := by
  obtain ⟨s, hs, hrev, hnew, s', hrun⟩ := exists_primarySnapshot
  obtain ⟨events, hdec, -⟩ := runCommand_eq_some.mp hrun
  refine ⟨s, events, hs, hdec, ?_⟩
  exact (openTaskBrowser_effective_iff hs rfl hdec).mpr ⟨hnew, by rw [hrev]; decide⟩

end Sample

end DevManager
