import DevManager.Kernel.Agreement
import DevManager.Kernel.Ended
import DevManager.Kernel.Replay
import DevManager.Kernel.Revision

/-!
# Reloading the browser book (`src/kernel/command_bus.rs`)

The browser book of a task is not stored. `load_browser_book` builds it again from
the `browser` facts among the stored events of the task and closes the task in it
when the task is closing, archived or deleted. `apply` closes it at every
`TaskCloseBegun`, also when the task was reopened later; the closing facts are no
stored events.
-/

namespace DevManager

open Std (ExtTreeMap ExtTreeSet)
open List OrdMap Std.ExtTreeMap Option

/-! ## Loading the book -/

/-- The errors of `load_browser_book`, with the book's error where the source keeps its text. -/
inductive LoadBookError
  | projection (error : BrowserContractError)
  | codecMismatch (detail : String)

section Load

variable [Externals]

/-- The loop body of `load_browser_book` (L12080-12092) on a decoded row. -/
def loadBrowserRow (taskId : TaskId) (book : BrowserBook) (event : DomainEvent) :
    Except LoadBookError BrowserBook :=
  match event.payload with
  | .browser fact => do
    failIf (fact.taskId ≠ taskId)
      (.codecMismatch "browser fact task identity disagrees with event scope")
    mapErr (book.applyFacts [fact]) .projection
  | _ => pure book

/-- The rows of `SELECT .. FROM events WHERE task_id = ?1 ORDER BY sequence ASC`, of a table in the
order of its sequences. -/
def eventsOf (table : List DomainEvent) (taskId : TaskId) : List DomainEvent :=
  table.filter fun event => event.taskId = some taskId

/-- `load_browser_book`, L12057-12100 -/
def loadBrowserBook (table : List DomainEvent) (taskId : TaskId) (lifecycle : TaskLifecycle) :
    Except LoadBookError BrowserBook := do
  let book ← mapErr (BrowserBook.new.openTask taskId) .projection
  let book ← (eventsOf table taskId).foldlM (loadBrowserRow taskId) book
  if lifecycle = .closing ∨ lifecycle = .archived ∨ lifecycle = .deleted then
    mapErr (book.closeTask taskId) .projection
  else pure book

end Load

namespace BrowserBook

/-! ## The folded and the reloaded book -/

/-- The folded book `live` is the book `loaded` with what `e` lists closed. What `e` lists is open
in `loaded`, and the context of a tab that `e` lists is closed in `live`. -/
structure Reloaded (e : Ended) (taskId : TaskId) (live loaded : BrowserBook) : Prop where
  ready : live.ready = loaded.ready
  contexts : live.contexts = loaded.contexts.map e.context
  tabs : live.tabs = loaded.tabs.map e.tab
  receipts : live.receipts = loaded.receipts
  liveTasks : ∀ t ∈ live.openTasks, t = taskId
  openTasks : ∀ t, t ∈ loaded.openTasks ↔ t = taskId
  homes : ∀ (id : BrowserTabId) t, loaded.tabs[id]? = some t → t.contextId ∈ loaded.contexts
  endedTabs : ∀ x ∈ e.tabs, ∃ t, loaded.tabs[x.1]? = some t ∧ t.closed = false ∧ t.contextId = x.2
  endedHomes : ∀ x ∈ e.tabs, ∃ c, live.contexts[x.2]? = some c ∧ c.closed = true
  endedContexts : ∀ id ∈ e.contexts, ∃ c, loaded.contexts[id]? = some c ∧ c.closed = false

variable {e : Ended} {taskId : TaskId} {live loaded live' : BrowserBook}

namespace Reloaded

theorem context (h : Reloaded e taskId live loaded) (id) :
    live.contexts[id]? = loaded.contexts[id]?.map (e.context id) := by
  rw [h.contexts, ExtTreeMap.getElem?_map]

theorem tab (h : Reloaded e taskId live loaded) (id) :
    live.tabs[id]? = loaded.tabs[id]?.map (e.tab id) := by
  rw [h.tabs, ExtTreeMap.getElem?_map]

variable {c : ContextState}

variable (h : Reloaded e taskId live loaded)

include h

variable {id : BrowserContextId}

theorem context_of_live (hc : live.contexts[id]? = some c) :
    ∃ d, loaded.contexts[id]? = some d ∧ c = e.context id d := by
  rw [h.context] at hc
  obtain ⟨d, hd, rfl⟩ := Option.map_eq_some_iff.mp hc
  exact ⟨d, hd, rfl⟩

theorem tab_of_live {id : BrowserTabId} {t}
    (ht : live.tabs[id]? = some t) : ∃ u, loaded.tabs[id]? = some u ∧ t = e.tab id u := by
  rw [h.tab] at ht
  obtain ⟨u, hu, rfl⟩ := Option.map_eq_some_iff.mp ht
  exact ⟨u, hu, rfl⟩

theorem mem_contexts (id) :
    id ∈ live.contexts ↔ id ∈ loaded.contexts := by
  rw [h.contexts, ExtTreeMap.mem_map]

theorem mem_tabs (id) :
    id ∈ live.tabs ↔ id ∈ loaded.tabs := by
  rw [h.tabs, ExtTreeMap.mem_map]

theorem away_of_open (hc : live.contexts[id]? = some c) (hopen : c.closed = false) :
    id ∉ e.contexts ∧ ∀ t, (t, id) ∉ e.tabs := by
  constructor
  · intro hmem
    obtain ⟨d, -, rfl⟩ := h.context_of_live hc
    simp [Ended.context, hmem] at hopen
  · intro t hmem
    obtain ⟨d, hd, hclosed⟩ := h.endedHomes _ hmem
    rw [hc] at hd
    cases hd
    rw [hclosed] at hopen
    cases hopen

/-! ### Writing both books -/

theorem setContext {d : ContextState} (hc : c = e.context id d)
    (hkeep : (∃ f, loaded.contexts[id]? = some f ∧ d.closed = f.closed) ∨
      (id ∉ e.contexts ∧ ∀ t, (t, id) ∉ e.tabs)) :
    Reloaded e taskId (live.setContext id c) (loaded.setContext id d) := by
  subst hc
  refine { h with contexts := ?_, homes := ?_, endedHomes := ?_, endedContexts := ?_ }
  · refine ext_getElem? fun k => ?_
    simp only [BrowserBook.setContext, ExtTreeMap.getElem?_map, getElem?_insert_eq]
    by_cases hk : id = k
    · subst hk
      simp
    · rw [if_neg hk, if_neg hk]
      exact h.context k
  · intro tabId t ht
    exact mem_insert_iff.mpr (.inr (h.homes tabId t ht))
  · intro x hx
    simp only [BrowserBook.setContext, getElem?_insert_eq]
    split_ifs with hk
    · refine ⟨_, rfl, ?_⟩
      rcases hkeep with ⟨f, hf, hkeep⟩ | ⟨-, htabs⟩
      · obtain ⟨k, hget, hclosed⟩ := h.endedHomes x hx
        rw [← hk, h.context, hf] at hget
        cases hget
        simpa [Ended.context, hkeep] using hclosed
      · subst hk
        exact absurd hx (htabs x.1)
    · exact h.endedHomes x hx
  · intro k hk
    obtain ⟨f, hf, hopen⟩ := h.endedContexts k hk
    simp only [BrowserBook.setContext, getElem?_insert_eq]
    split_ifs with hid
    · refine ⟨d, rfl, ?_⟩
      rcases hkeep with ⟨g, hg, hkeep⟩ | ⟨hnot, -⟩
      · rw [← hid, hg] at hf
        cases hf
        rw [hkeep, hopen]
      · exact absurd hk (hid ▸ hnot)
    · exact ⟨f, hf, hopen⟩

theorem newContext (hnew : id ∉ loaded.contexts) (hsel : c.selectedTabId = none) :
    Reloaded e taskId (live.setContext id c) (loaded.setContext id c) := by
  have hid : id ∉ e.contexts := by
    intro hmem
    obtain ⟨d, hd, -⟩ := h.endedContexts id hmem
    exact hnew (mem_iff_exists.mpr ⟨d, hd⟩)
  refine h.setContext ?_ (.inr ⟨hid, fun t hmem => ?_⟩)
  · cases c
    cases hsel
    simp [Ended.context, hid]
  · obtain ⟨d, hd, -⟩ := h.endedHomes _ hmem
    exact hnew ((h.mem_contexts _).mp (mem_iff_exists.mpr ⟨d, hd⟩))

theorem setTab {id : BrowserTabId} {t u} (hu : u = e.tab id t)
    (hhome : t.contextId ∈ loaded.contexts)
    (hkeep : (∃ u, loaded.tabs[id]? = some u ∧ t.contextId = u.contextId ∧ t.closed = u.closed) ∨
      ∀ c, (id, c) ∉ e.tabs) :
    Reloaded e taskId { live with tabs := live.tabs.insert id u }
      { loaded with tabs := loaded.tabs.insert id t } := by
  subst hu
  refine { h with tabs := ?_, homes := ?_, endedTabs := ?_ }
  · refine ext_getElem? fun k => ?_
    simp only [ExtTreeMap.getElem?_map, getElem?_insert_eq]
    by_cases hk : id = k
    · subst hk
      simp
    · rw [if_neg hk, if_neg hk]
      exact h.tab k
  · refine forall_insert hhome ?_
    exact h.homes
  · intro x hx
    obtain ⟨u, hu, hopen, hctx⟩ := h.endedTabs x hx
    simp only [getElem?_insert_eq]
    split_ifs with hid
    · rcases hkeep with ⟨v, hv, hsame, hclosed⟩ | hnot
      · rw [← hid, hv] at hu
        cases hu
        exact ⟨t, rfl, hclosed.trans hopen, hsame.trans hctx⟩
      · subst hid
        exact absurd hx (hnot x.2)
    · exact ⟨u, hu, hopen, hctx⟩

theorem closeTabs (haway : ∀ t, (t, id) ∉ e.tabs) :
    Reloaded e taskId { live with tabs := closeTabsOf live.tabs id }
      { loaded with tabs := closeTabsOf loaded.tabs id } := by
  refine { h with tabs := ?_, homes := ?_, endedTabs := ?_ }
  · refine ext_getElem? fun k => ?_
    simp only [ExtTreeMap.getElem?_map, getElem?_closeTabsOf, h.tab, Option.map_map]
    refine congrArg (fun f => loaded.tabs[k]?.map f) (funext fun t => ?_)
    by_cases ht : t.contextId = id
    · simp [Ended.tab, ht]
    · simp [Ended.tab, ht]
  · intro tabId t ht
    simp only [getElem?_closeTabsOf] at ht
    obtain ⟨u, hu, rfl⟩ := Option.map_eq_some_iff.mp ht
    have hhome := h.homes tabId u hu
    split_ifs
    · exact hhome
    · exact hhome
  · intro x hx
    obtain ⟨u, hu, hopen, hctx⟩ := h.endedTabs x hx
    have hne : u.contextId ≠ id := by
      rintro rfl
      exact haway x.1 (hctx ▸ hx)
    refine ⟨u, ?_, hopen, hctx⟩
    simp only [getElem?_closeTabsOf, hu, map_some, if_neg hne]

theorem modifyContext (id)
    (f : ContextState → ContextState) (hcommon : ∀ c, f (e.context id c) = e.context id (f c))
    (hclosed : ∀ c, (f c).closed = c.closed) :
    Reloaded e taskId { live with contexts := live.contexts.modify id f }
      { loaded with contexts := loaded.contexts.modify id f } := by
  refine { h with contexts := ?_, homes := ?_, endedHomes := ?_, endedContexts := ?_ }
  · refine ext_getElem? fun k => ?_
    simp only [ExtTreeMap.getElem?_map, OrdMap.getElem?_modify_eq, h.context]
    by_cases hk : id = k
    · subst hk
      rw [if_pos rfl, if_pos rfl, Option.map_map, Option.map_map]
      exact congrArg (fun g => loaded.contexts[id]?.map g) (funext hcommon)
    · rw [if_neg hk, if_neg hk]
  · intro tabId t ht
    exact mem_modify.mpr (h.homes tabId t ht)
  · intro x hx
    obtain ⟨c, hc, hended⟩ := h.endedHomes x hx
    simp only [OrdMap.getElem?_modify_eq, hc, map_some]
    split_ifs
    · exact ⟨f c, rfl, (hclosed c).trans hended⟩
    · exact ⟨c, rfl, hended⟩
  · intro k hk
    obtain ⟨c, hc, hopen⟩ := h.endedContexts k hk
    simp only [OrdMap.getElem?_modify_eq, hc, map_some]
    split_ifs
    · exact ⟨f c, rfl, (hclosed c).trans hopen⟩
    · exact ⟨c, rfl, hopen⟩

theorem push (fact fact') :
    Reloaded e taskId { live with facts := live.facts ++ [fact] }
      { loaded with facts := loaded.facts ++ [fact'] } :=
  { h with }

end Reloaded

/-! ### One fact -/

/-- A fact that writes nothing of `e` but what stays closed. -/
def Away (e : Ended) : BrowserDurableFact → Prop
  | .tabClosed id _ _ => ∀ c, (id, c) ∉ e.tabs
  | .tabSelected id _ _ => ∀ c, (id, c) ∉ e.tabs
  | .contextClosed id _ _ => id ∉ e.contexts ∧ ∀ t, (t, id) ∉ e.tabs
  | _ => True

variable {id : BrowserContextId}

theorem Reloaded.ownedContext (h : Reloaded e taskId live loaded)
    {owner : TaskId} {c} (hc : live.ownedContext id owner = .ok c) :
    ∃ d, loaded.ownedContext id owner = .ok d ∧ c = e.context id d := by
  obtain ⟨hget, htask⟩ := ownedContext_eq_ok.mp hc
  obtain ⟨d, hd, rfl⟩ := h.context_of_live hget
  exact ⟨d, ownedContext_eq_ok.mpr ⟨hd, htask⟩, rfl⟩

theorem Reloaded.admits (h : Reloaded e taskId live loaded) {owner : TaskId} {generation : ℕ}
    (hadmits : live.Admits owner id generation) :
    loaded.Admits owner id generation := by
  unfold Admits at hadmits ⊢
  rw [h.context] at hadmits
  cases hget : loaded.contexts[id]? with
  | none =>
    rw [hget] at hadmits
    exact (h.openTasks owner).mpr (h.liveTasks owner hadmits)
  | some d =>
    rw [hget] at hadmits
    exact hadmits

variable [Externals] {fact : BrowserDurableFact}

theorem Reloaded.projectFact (h : Reloaded e taskId live loaded) (haway : Away e fact)
    (hlive : live.projectFact fact = .ok live') :
    ∃ loaded', loaded.projectFact fact = .ok loaded' ∧ Reloaded e taskId live' loaded' := by
  cases fact <;> simp only [BrowserBook.projectFact, ok_iff] at hlive ⊢
  case requestAccepted fact =>
    obtain ⟨hadmits, rfl⟩ := projectRequestAccepted_eq_ok.mp hlive
    refine ⟨_, projectRequestAccepted_eq_ok.mpr ⟨h.admits hadmits, rfl⟩, ?_⟩
    refine { h with receipts := ?_ }
    show live.receipts.insertIfNew _ _ = loaded.receipts.insertIfNew _ _
    rw [h.receipts]
  case permissionDecided | artifactLinked | recipeIdentified | recordingIdentified =>
    obtain ⟨_, hc, rfl⟩ := hlive
    obtain ⟨d, hd, rfl⟩ := h.ownedContext hc
    exact ⟨_, ⟨d, hd, rfl⟩, h.setContext rfl (.inl ⟨d, (ownedContext_eq_ok.mp hd).1, rfl⟩)⟩
  case downloadSettled id owner downloadId fileName sha256Hex artifactId =>
    obtain ⟨hname, hdigest, _, hc, rfl⟩ := hlive
    obtain ⟨d, hd, rfl⟩ := h.ownedContext hc
    refine ⟨_, ⟨hname, hdigest, d, hd, rfl⟩, ?_⟩
    cases artifactId with
    | none => exact h
    | some artifactId => exact h.setContext rfl (.inl ⟨d, (ownedContext_eq_ok.mp hd).1, rfl⟩)
  case contextCreated id owner generation =>
    simp only [ge_iff_le, not_le] at hlive ⊢
    obtain ⟨hopen, hnew, hroom, rfl⟩ := hlive
    rw [h.mem_contexts] at hnew
    rw [h.contexts, size_map] at hroom
    exact ⟨_, ⟨(h.openTasks owner).mpr (h.liveTasks owner hopen), hnew, hroom, rfl⟩,
      h.newContext hnew rfl⟩
  case contextClosed id owner generation =>
    obtain ⟨_, hc, rfl⟩ := hlive
    obtain ⟨d, hd, rfl⟩ := h.ownedContext hc
    have hset := h.setContext (d := { d with closed := true }) rfl (.inr haway)
    exact ⟨_, ⟨d, hd, rfl⟩, hset.closeTabs haway.2⟩
  case tabOpened id contextId owner kind url =>
    obtain ⟨hurl, _, hc, hnew, rfl⟩ := hlive
    obtain ⟨d, hd, rfl⟩ := h.ownedContext hc
    rw [h.mem_tabs] at hnew
    have hnot : ∀ c, (id, c) ∉ e.tabs := by
      intro c hmem
      obtain ⟨u, hu, -⟩ := h.endedTabs _ hmem
      exact hnew (mem_iff_exists.mpr ⟨u, hu⟩)
    exact ⟨_, ⟨hurl, d, hd, hnew, rfl⟩, h.setTab (Ended.tab_of_not_mem (hnot contextId)).symm
      (mem_iff_exists.mpr ⟨d, (ownedContext_eq_ok.mp hd).1⟩) (.inr hnot)⟩
  case tabClosed id contextId owner =>
    obtain ⟨_, ht, rfl⟩ := hlive
    obtain ⟨u, hu, rfl⟩ := h.tab_of_live ht
    refine ⟨_, ⟨u, hu, rfl⟩, ?_⟩
    have hset := h.setTab (t := { u with closed := true }) rfl (h.homes id u hu) (.inr haway)
    refine hset.modifyContext contextId _ (fun c => ?_) fun c => ?_
    · cases hsel : c.selectedTabId with
      | none => simp [Ended.context, hsel]
      | some s =>
        by_cases hs : s = id
        · subst hs
          simp [Ended.context, hsel, Option.filter, haway contextId]
        · by_cases hmem : (s, contextId) ∈ e.tabs
          · simp [Ended.context, hsel, Option.filter, hs, hmem]
          · simp [Ended.context, hsel, Option.filter, hs, hmem]
    · split_ifs <;> rfl
  case tabSelected id contextId owner =>
    obtain ⟨hmem, _, hc, rfl⟩ := hlive
    obtain ⟨d, hd, rfl⟩ := h.context_of_live hc
    rw [h.mem_tabs] at hmem
    refine ⟨_, ⟨hmem, d, hd, rfl⟩, h.setContext ?_ (.inl ⟨d, hd, rfl⟩)⟩
    simp [Ended.context, Option.filter, haway contextId]
  case navigationCommitted id contextId owner url documentId =>
    obtain ⟨hurl, _, ht, rfl⟩ := hlive
    obtain ⟨u, hu, rfl⟩ := h.tab_of_live ht
    exact ⟨_, ⟨hurl, u, hu, rfl⟩, h.setTab rfl (h.homes id u hu) (.inl ⟨u, hu, rfl, rfl⟩)⟩
  case healthTransitioned id owner fromHealth toHealth generation =>
    obtain ⟨_, hc, rfl⟩ := hlive
    obtain ⟨d, hd, rfl⟩ := h.context_of_live hc
    exact ⟨_, ⟨d, hd, rfl⟩, h.setContext rfl (.inl ⟨d, hd, rfl⟩)⟩

theorem Reloaded.applyFact (h : Reloaded e taskId live loaded) (haway : Away e fact)
    (hlive : live.applyFact fact = .ok live') :
    ∃ loaded', loaded.applyFact fact = .ok loaded' ∧ Reloaded e taskId live' loaded' := by
  obtain ⟨mid, hmid, rfl⟩ := applyFact_eq_ok.mp hlive
  obtain ⟨mid', hmids', hmids⟩ := h.projectFact haway hmid
  exact ⟨_, applyFact_eq_ok.mpr ⟨mid', hmids', rfl⟩, hmids.push fact fact⟩

theorem Reloaded.foldlM {facts : List BrowserDurableFact} :
    ∀ {live loaded : BrowserBook}, Reloaded e taskId live loaded →
      (∀ fact ∈ facts, Away e fact) → facts.foldlM BrowserBook.applyFact live = .ok live' →
      ∃ loaded', Reloaded e taskId live' loaded' := by
  induction facts with
  | nil =>
    intro live loaded h _ hlive
    cases hlive
    exact ⟨loaded, h⟩
  | cons fact facts ih =>
    intro live loaded h haway hlive
    obtain ⟨mid, hfst, hrest⟩ := foldlM_cons_ok.mp hlive
    obtain ⟨mid', -, hmid⟩ := h.applyFact (haway fact (.head _)) hfst
    exact ih hmid (fun f hf => haway f (.tail _ hf)) hrest

/-! ### Planned facts -/

section Planned

variable {request : BrowserRequest} {identity : List BrowserDurableFact}
  {accepted : BrowserAcceptedReceipt}

omit [Externals]

theorem Reloaded.tab_away (h : Reloaded e taskId live loaded) {id t}
    (ht : live.tabs[id]? = some t) (haway : ∀ s, (s, t.contextId) ∉ e.tabs) :
    ∀ c, (id, c) ∉ e.tabs := by
  intro c hmem
  obtain ⟨u, hu, rfl⟩ := h.tab_of_live ht
  obtain ⟨v, hv, -, hctx⟩ := h.endedTabs _ hmem
  rw [hu] at hv
  cases hv
  have hhome : u.contextId = c := hctx
  exact haway id (hhome ▸ hmem)

theorem Reloaded.planned (h : Reloaded e taskId live loaded)
    (hplan : Planned live request identity) : ∀ fact ∈ identity, Away e fact := by
  intro fact hfact
  rcases hplan.fact hfact with rfl | ⟨⟨c, hctx, hopen⟩, hfact⟩
  · trivial
  obtain ⟨hid, htabs⟩ := h.away_of_open hctx hopen
  cases hfact with
  | tabOpened | artifactLinked => trivial
  | contextClosed => exact ⟨hid, htabs⟩
  | tabClosed htab hin =>
    refine h.tab_away htab ?_
    rw [hin]
    exact htabs
  | tabSelected hin =>
    intro c hmem
    obtain ⟨u, hu, -⟩ := h.endedTabs _ hmem
    obtain ⟨t, ht⟩ := mem_iff_exists.mp
      ((h.mem_tabs _).mpr (mem_iff_exists.mpr ⟨u, hu⟩))
    refine h.tab_away ht ?_ c hmem
    rw [hin t ht]
    exact htabs

theorem away_bindCommand {commandId} {actionEpoch : ℕ} {fact}
    (h : Away e fact) : Away e (fact.bindCommand commandId actionEpoch) := by
  cases fact with
  | requestAccepted fact => trivial
  | _ => exact h

theorem away_of_isRequestAccepted {fact}
    (h : fact.isRequestAccepted = true) : Away e fact := by
  cases fact <;> trivial

theorem Reloaded.admitted [Externals] (h : Reloaded e taskId live loaded)
    (hplan : live.planAdmit request = .ok accepted) {commandId} {actionEpoch : ℕ} :
    ∀ fact ∈ (accepted.bindCommand commandId actionEpoch).facts, Away e fact := by
  intro fact hfact
  obtain ⟨fact, hmem, rfl⟩ := mem_map.mp hfact
  refine away_bindCommand ?_
  obtain ⟨-, ⟨prior, -, -, rfl⟩ | ⟨-, hnew⟩⟩ := planAdmit_eq_ok.mp hplan
  · refine away_of_isRequestAccepted ?_
    simp only [replayOf] at hmem
    split_ifs at hmem
    · rw [mem_singleton.mp hmem]
      rfl
    · exact (mem_filter.mp hmem).2
  · obtain ⟨-, -, -, -, identity, hident, -, rfl⟩ := planNew_eq_ok.mp hnew
    rcases mem_cons.mp hmem with rfl | hmem
    · trivial
    · exact h.planned (planIdentityFacts_cases hident) fact hmem

end Planned

/-! ### Closing and reopening the task -/

section Close

omit [Externals]

theorem openTasks_of_openTask {b b' : BrowserBook} (h : b.openTask taskId = .ok b') :
    b' = { b with openTasks := b'.openTasks } ∧ ∀ t, t ∈ b'.openTasks ↔ t = taskId ∨
      t ∈ b.openTasks := by
  obtain ⟨hready, hctxs, htabs, hfacts, hrec, hopen⟩ := openTask_ok h
  refine ⟨?_, hopen⟩
  rw [← hready, ← hctxs, ← htabs, ← hfacts, ← hrec]

theorem Reloaded.reopened (h : Reloaded e taskId live loaded)
    (hopen : live.openTask taskId = .ok live') : Reloaded e taskId live' loaded := by
  obtain ⟨hsame, htasks⟩ := openTasks_of_openTask hopen
  rw [hsame]
  refine { h with liveTasks := fun t ht => ?_ }
  rcases (htasks t).mp ht with rfl | ht
  · rfl
  · exact h.liveTasks t ht

theorem Reloaded.closed [Externals] (h : Reloaded e taskId live loaded)
    (howned : Owned live taskId) (hclose : live.closeTask taskId = .ok live') :
    Reloaded (e.append live.ended) taskId live' loaded := by
  have hlive := closeTask_ended howned hclose
  have hctxs : live'.contexts = loaded.contexts.map (e.append live.ended).context := by
    rw [hlive, h.contexts, ExtTreeMap.map_map]
    refine congrArg loaded.contexts.map ?_
    funext id c
    rw [Ended.context_append]
  have hclosed : ∀ id ∈ loaded.contexts, ∃ c, live'.contexts[id]? = some c ∧ c.closed = true := by
    intro id hid
    obtain ⟨c, hc⟩ := mem_iff_exists.mp ((h.mem_contexts id).mpr hid)
    rw [hlive]
    refine ⟨live.ended.context id c, ?_, ?_⟩
    · simp only [ExtTreeMap.getElem?_map, hc, map_some]
    · cases hwas : c.closed with
      | true => simp [Ended.context, hwas]
      | false => simp [Ended.context, mem_ended_contexts.mpr ⟨c, hc, hwas⟩]
  have hended : ∀ x ∈ (e.append live.ended).tabs,
      ∃ t, loaded.tabs[x.1]? = some t ∧ t.closed = false ∧ t.contextId = x.2 := by
    intro x hx
    rcases mem_append.mp hx with hx | hx
    · exact h.endedTabs x hx
    · obtain ⟨t, ht, hopen, hctx⟩ := mem_openTabs.mp hx
      obtain ⟨u, hu, rfl⟩ := h.tab_of_live ht
      exact ⟨u, hu, (Bool.or_eq_false_iff.mp hopen).1, hctx⟩
  refine ⟨?_, hctxs, ?_, ?_, fun t ht => ?_, h.openTasks, h.homes, hended, fun x hx => ?_,
    fun id hid => ?_⟩
  · rw [hlive]
    exact h.ready
  · rw [hlive, h.tabs, ExtTreeMap.map_map]
    refine congrArg loaded.tabs.map ?_
    funext id t
    rw [Ended.tab_append]
  · rw [hlive]
    exact h.receipts
  · rw [hlive, mem_eraseSet_iff] at ht
    exact h.liveTasks t ht.2
  · obtain ⟨t, ht, -, hctx⟩ := hended x hx
    exact hclosed x.2 (hctx ▸ h.homes x.1 t ht)
  · rcases mem_append.mp hid with hid | hid
    · exact h.endedContexts id hid
    · obtain ⟨c, hc, hopen⟩ := mem_ended_contexts.mp hid
      obtain ⟨d, hd, rfl⟩ := h.context_of_live hc
      exact ⟨d, hd, (Bool.or_eq_false_iff.mp hopen).1⟩

end Close

end BrowserBook

open BrowserBook (Away Ended Reloaded applyFact_frame applyFacts_singleton
  length_planCloseTask_ended mem_ended_contexts mem_openTabs)

/-! ## Histories of one task -/

section History

variable [Externals]

/-- Fold `apply` over stored events, from a snapshot. -/
def applyEvents (s : TaskSnapshot) (events : List DomainEvent) : Except ApplyError TaskSnapshot :=
  events.foldlM (fun s event => apply (some s) event) s

/-- The stored events of one task with the snapshot they fold to: `TaskCreated`, then decided
events, of which a reader may not have seen the last ones yet, and host facts. -/
inductive History : List DomainEvent → TaskSnapshot → Prop
  | created {event s} (happly : apply none event = .ok s) : History [event] s
  | decided {events s batch s' envelope operationId rest} (h : History events s)
      (hdec : Command.decide (some s) envelope operationId =
        .ok (batch.map DomainEvent.payload ++ rest))
      (hbatch : applyEvents s batch = .ok s') : History (events ++ batch) s'
  | host {events s event s'} (h : History events s) (hfact : event.payload.isHostFact = true)
      (happly : apply (some s) event = .ok s') : History (events ++ [event]) s'

/-- At every `TaskCloseBegun` of the events, no tab and no context of the folded book is open. -/
def ClosesEmpty (events : List DomainEvent) : Prop :=
  ∀ before event after epoch s, events = before ++ event :: after →
    event.payload = .taskCloseBegun epoch → foldApply none before = .ok (some s) →
    openBrowserCount s = 0

/-- The book has the contexts, the tabs and the receipts of the snapshot's. -/
structure SameBook (s : TaskSnapshot) (book : BrowserBook) : Prop where
  contexts : book.contexts = s.browser.contexts
  tabs : book.tabs = s.browser.tabs
  receipts : book.receipts = s.browser.receipts

/-- The commands that are decided on the browser book. -/
def Command.isBrowser : Command → Bool
  | browser _ | openTaskBrowser _ => true
  | _ => false

/-- Every browser command is decided the same with the book in the place of the snapshot's. -/
def DecidesSame (s : TaskSnapshot) (book : BrowserBook) : Prop :=
  ∀ envelope operationId, envelope.command.isBrowser = true →
    Command.decide (some { s with browser := book }) envelope operationId =
      Command.decide (some s) envelope operationId

variable {s s' : TaskSnapshot} {events : List DomainEvent} {event : DomainEvent}

theorem foldApply_concat (hfold : foldApply none events = .ok (some s))
    (happly : apply (some s) event = .ok s') :
    foldApply none (events ++ [event]) = .ok (some s') := by
  unfold foldApply at hfold ⊢
  rw [foldlM_append, hfold, ok_bind, foldlM_cons, happly]
  rfl

theorem closesEmpty_concat (hfold : foldApply none events = .ok (some s)) :
    ClosesEmpty (events ++ [event]) ↔ ClosesEmpty events ∧
      ∀ epoch, event.payload = .taskCloseBegun epoch → openBrowserCount s = 0 := by
  constructor
  · intro h
    refine ⟨fun before event' after epoch s₀ hsplit hclose hpre => ?_, fun epoch hclose => ?_⟩
    · refine h before event' (after ++ [event]) epoch s₀ ?_ hclose hpre
      rw [hsplit, append_assoc, cons_append]
    · exact h events event [] epoch s rfl hclose hfold
  · rintro ⟨hevents, hlast⟩ before event' after epoch s₀ hsplit hclose hpre
    rcases Calls.concat_eq_split hsplit with ⟨rfl, rfl, -⟩ | ⟨rest, -, hrest⟩
    · rw [hfold] at hpre
      cases hpre
      exact hlast epoch hclose
    · exact hevents before event' rest epoch s₀ hrest hclose hpre

/-! ### Following a history -/

/-- What the reload of the events so far has in common with their fold: `book` is the book before
the close at the end, and `e` is what the closes of the history ended. -/
structure Followed (e : BrowserBook.Ended) (events : List DomainEvent) (s : TaskSnapshot)
    (book : BrowserBook) : Prop where
  fold : foldApply none events = .ok (some s)
  guarded : guarded.Reachable s
  loads : ∃ opened, BrowserBook.new.openTask s.task.id = .ok opened ∧
    events.foldlM (loadBrowserRow s.task.id) opened = .ok book
  reloaded : BrowserBook.Reloaded e s.task.id s.browser book
  journal : s.browser.facts.length = book.facts.length + e.size
  facts : e = .nothing → s.browser.facts = book.facts
  ended : e = .nothing ↔ ClosesEmpty events

theorem apply_effect (happly : apply (some s) event = .ok s') :
    ∃ mid, effect s event.payload event.occurredAtMs = .ok mid ∧ s'.browser = mid.browser ∧
      s'.task.id = s.task.id ∧ s'.task.lifecycle = mid.task.lifecycle := by
  obtain ⟨-, -, mid, hmid, rfl⟩ := apply_some_eq_ok.mp happly
  obtain ⟨hid, -, -⟩ := effect_task s _ _ mid hmid
  refine ⟨mid, hmid, ?_⟩
  split_ifs
  · exact ⟨rfl, hid, rfl⟩
  · exact ⟨rfl, hid, rfl⟩

omit [Externals] in
theorem ended_eq_nothing (h : BookInv s) : s.browser.ended = .nothing ↔ openBrowserCount s = 0 := by
  rw [← Ended.size_eq_zero, ← length_planCloseTask_ended h.owned, length_planCloseTask_eq h]

omit [Externals] in
theorem append_eq_nothing {e e' : Ended} :
    e.append e' = .nothing ↔ e = .nothing ∧ e' = .nothing := by
  simp only [← Ended.size_eq_zero, Ended.size_append, Nat.add_eq_zero_iff]

theorem loadBrowserRow_other {taskId book} (h : ∀ fact, event.payload ≠ .browser fact) :
    loadBrowserRow taskId book event = .ok book := by
  unfold loadBrowserRow
  split
  · rename_i fact hfact
    exact absurd hfact (h fact)
  · rfl

theorem Followed.next {e book} (h : Followed e events s book) (hguard : Guard s event.payload)
    (haway : ∀ fact, event.payload = .browser fact → Away e fact)
    (happly : apply (some s) event = .ok s') :
    ∃ e' book', Followed e' (events ++ [event]) s' book' ∧
      ((∀ epoch, event.payload ≠ .taskCloseBegun epoch) → e' = e) := by
  have hinv : BookInv s := bookInv_of_guarded h.guarded
  have hfold := foldApply_concat h.fold happly
  have hguarded : DevManager.guarded.Reachable s' := h.guarded.next ⟨event, hguard, happly⟩
  obtain ⟨mid, hmid, hbrowser, hid, -⟩ := apply_effect happly
  obtain ⟨opened, hopened, hloads⟩ := h.loads
  have hnil : ClosesEmpty (events ++ [event]) ↔ _ := closesEmpty_concat h.fold
  -- a row that leaves the reloaded book alone
  have hrow : ∀ book', loadBrowserRow s.task.id book event = .ok book' →
      ∃ opened, BrowserBook.new.openTask s'.task.id = .ok opened ∧
        (events ++ [event]).foldlM (loadBrowserRow s'.task.id) opened = .ok book' := by
    intro book' hbook'
    rw [hid]
    refine ⟨opened, hopened, ?_⟩
    rw [foldlM_append, hloads, ok_bind, foldlM_cons, hbook']
    rfl
  have hopen : (∀ epoch, event.payload ≠ .taskCloseBegun epoch) →
      (e = .nothing ↔ ClosesEmpty (events ++ [event])) := by
    intro hne
    rw [hnil, h.ended]
    exact ⟨fun hevents => ⟨hevents, fun epoch heq => absurd heq (hne epoch)⟩, And.left⟩
  have hother : (∀ fact, event.payload ≠ .browser fact) →
      loadBrowserRow s.task.id book event = .ok book := loadBrowserRow_other
  generalize hp : event.payload = p at hmid hopen hother
  cases effect_browser s p event.occurredAtMs mid hmid with
  | frame hclose hreopen hbook =>
    by_cases hfact : ∃ fact, p = .browser fact
    · -- a browser fact is applied; this case of the step does not arise from it
      obtain ⟨fact, rfl⟩ := hfact
      obtain ⟨htask, book', hbook', hsame⟩ := applyBrowserFact_eq_ok.mp hmid
      obtain ⟨hlen, happlied⟩ := applyFacts_singleton.mp hbook'
      obtain ⟨hfacts, -⟩ := applyFact_frame happlied
      rw [hsame] at hbook
      have hlength := congrArg (fun b => b.facts.length) hbook
      simp only [hfacts, length_append, length_singleton] at hlength
      omega
    · refine ⟨e, book, ⟨hfold, hguarded, hrow book (hother (not_exists.mp hfact)), ?_, ?_, ?_,
        hopen hclose⟩, fun _ => rfl⟩
      · rw [hbrowser, hbook, hid]
        exact h.reloaded
      · rw [hbrowser, hbook]
        exact h.journal
      · rw [hbrowser, hbook]
        exact h.facts
  | @closed _ epoch hbook =>
    obtain ⟨-, -, -, -, hfacts⟩ := BrowserBook.closeTask_closes hbook
    refine ⟨e.append s.browser.ended, book, ⟨hfold, hguarded,
      hrow book (hother (by simp)), ?_, ?_, ?_, ?_⟩, fun hne => absurd rfl (hne epoch)⟩
    · rw [hbrowser, hid]
      exact h.reloaded.closed hinv.owned hbook
    · rw [hbrowser, hfacts, length_append, h.journal,
        length_planCloseTask_ended hinv.owned, Ended.size_append]
      omega
    · intro hnothing
      obtain ⟨he, hended⟩ := append_eq_nothing.mp hnothing
      have hplan : s.browser.planCloseTask s.task.id = [] := by
        rw [← length_eq_zero_iff, length_planCloseTask_ended hinv.owned, hended]
        rfl
      rw [hbrowser, hfacts, hplan, append_nil]
      exact h.facts he
    · rw [append_eq_nothing, h.ended, hnil, ended_eq_nothing hinv]
      exact and_congr_right fun _ => ⟨fun hzero _ _ => hzero, fun hlast => hlast epoch hp⟩
  | opened hbook =>
    obtain ⟨-, -, -, hfacts, -⟩ := openTask_ok hbook
    refine ⟨e, book, ⟨hfold, hguarded, hrow book (hother (by simp)), ?_, ?_, ?_, hopen (by simp)⟩,
      fun _ => rfl⟩
    · rw [hbrowser, hid]
      exact h.reloaded.reopened hbook
    · rw [hbrowser, hfacts]
      exact h.journal
    · rw [hbrowser, hfacts]
      exact h.facts
  | @fact _ fact htask hbook =>
    obtain ⟨hlen, happlied⟩ := applyFacts_singleton.mp hbook
    obtain ⟨hfacts, -⟩ := applyFact_frame happlied
    obtain ⟨book', hbook', hrel⟩ := h.reloaded.applyFact (haway fact hp) happlied
    obtain ⟨hfacts', -⟩ := applyFact_frame hbook'
    have hjournal := h.journal
    have happend : loadBrowserRow s.task.id book event = .ok book' := by
      unfold loadBrowserRow
      rw [hp]
      simp only [ok_iff]
      exact ⟨htask, applyFacts_singleton.mpr ⟨by omega, hbook'⟩⟩
    refine ⟨e, book', ⟨hfold, hguarded, hrow book' happend, ?_, ?_, ?_, hopen (by simp)⟩,
      fun _ => rfl⟩
    · rw [hbrowser, hid]
      exact hrel
    · rw [hbrowser, hfacts, hfacts', length_append, length_append, hjournal]
      omega
    · intro he
      rw [hbrowser, hfacts, hfacts', h.facts he]

/-! ### Decided browser facts -/

variable {envelope : CommandEnvelope}

theorem planOpenRequest_ok {book next request facts}
    (h : planOpenRequest s envelope book request = .ok (next, facts)) :
    ∃ accepted, book.planAdmit request = .ok accepted ∧
      facts = (accepted.bindCommand envelope.commandId s.task.actionEpoch).facts ∧
      book.applyFacts facts = .ok next := by
  unfold planOpenRequest at h
  simp only [ok_iff] at h
  obtain ⟨accepted, hplan, next, happly, rfl, rfl⟩ := h
  exact ⟨accepted, hplan, rfl, happly⟩

theorem decideOpenTaskBrowser_facts {intent}
    {events} (h : decideOpenTaskBrowser (some s) envelope intent = .ok events) :
    ∃ created opened mid first second request request',
      request.action.requiresHostSettlement = false ∧
      request'.action.requiresHostSettlement = false ∧
      s.browser.planAdmit request = .ok first ∧
      created = (first.bindCommand envelope.commandId s.task.actionEpoch).facts ∧
      s.browser.applyFacts created = .ok mid ∧
      mid.planAdmit request' = .ok second ∧
      opened = (second.bindCommand envelope.commandId s.task.actionEpoch).facts ∧
      events = (created ++ opened).map Event.browser ++ [.resourceRegistered intent.resource] := by
  unfold decideOpenTaskBrowser at h
  rw [requireRuntimeCapable_bind_eq_ok] at h
  obtain ⟨-, -, h⟩ := h
  simp only [decideOpen, ok_iff] at h
  obtain ⟨_, -, -, _, -, -, ⟨contextId, startUrl⟩, -, -, -, ⟨mid, created⟩, hcreated,
    ⟨_, opened⟩, hopen, rfl⟩ := h
  obtain ⟨first, hfst, hmade, happly⟩ := planOpenRequest_ok hcreated
  obtain ⟨second, hsnd, hopenedFacts, -⟩ := planOpenRequest_ok hopen
  exact ⟨created, opened, mid, first, second, _, _, rfl, rfl, hfst, hmade, happly, hsnd,
    hopenedFacts, rfl⟩

theorem decided_away {e book} (h : Reloaded e s.task.id s.browser book) {operationId decided}
    (hdec : Command.decide (some s) envelope operationId = .ok decided) :
    ∀ fact, Event.browser fact ∈ decided → Away e fact := by
  intro fact hfact
  rcases decide_browser_fact hdec hfact with ⟨request, hdec⟩ | ⟨intent, hdec⟩
  · obtain ⟨-, -, -, accepted, hplan, rfl⟩ := decideBrowser_eq_ok.mp hdec
    obtain ⟨f, hf, heq⟩ := mem_map.mp hfact
    cases heq
    exact h.admitted hplan fact hf
  · obtain ⟨created, opened, mid, first, second, _, _, -, -, hfst, hmade, happly, hsnd, hopen,
      rfl⟩ := decideOpenTaskBrowser_facts hdec
    have hawayCreated : ∀ f ∈ created, Away e f := by
      rw [hmade]
      exact h.admitted hfst
    rcases mem_append.mp hfact with hmem | hmem
    · obtain ⟨f, hf, heq⟩ := mem_map.mp hmem
      cases heq
      rcases mem_append.mp hf with hmem | hmem
      · exact hawayCreated fact hmem
      · -- the second request is planned on the book with the first one's facts
        obtain ⟨hloop, -⟩ := BrowserBook.applyFacts_ok happly
        obtain ⟨_, hmid⟩ := h.foldlM hawayCreated hloop
        rw [hopen] at hmem
        exact hmid.admitted hsnd fact hmem
    · cases mem_singleton.mp hmem

theorem Followed.batch {batch} :
    ∀ {e : Ended} {events : List DomainEvent} {s : TaskSnapshot} {book : BrowserBook},
      Followed e events s book → RuntimeCapable s →
      (∀ event ∈ batch, event.payload.isBatched = true ∧
        ∀ fact, event.payload = .browser fact → Away e fact) →
      applyEvents s batch = .ok s' → ∃ e' book', Followed e' (events ++ batch) s' book' := by
  induction batch with
  | nil =>
    intro e events s book h _ _ hbatch
    cases hbatch
    rw [append_nil]
    exact ⟨e, book, h⟩
  | cons event batch ih =>
    intro e events s book h hcap hall hbatch
    obtain ⟨mid, hfst, hrest⟩ := foldlM_cons_ok.mp hbatch
    obtain ⟨hbatched, haway⟩ := hall event (.head _)
    obtain ⟨e', book', hmid, hsame⟩ := h.next (guard_of_isBatched hbatched hcap) haway hfst
    have hopen : ∀ epoch, event.payload ≠ .taskCloseBegun epoch := by
      intro epoch heq
      rw [heq] at hbatched
      cases hbatched
    rw [hsame hopen] at hmid
    have hcapMid : RuntimeCapable mid := by
      obtain ⟨mid', hmid', -, -, hlife⟩ := apply_effect hfst
      have hcapMid' := runtimeCapable_of_isBatched hbatched hcap mid' hmid'
      unfold RuntimeCapable at hcapMid' ⊢
      rw [hlife]
      exact hcapMid'
    rw [← singleton_append, ← append_assoc]
    exact ih hmid hcapMid (fun f hf => hall f (.tail _ hf)) hrest

theorem applyEvents_singleton : applyEvents s [event] = .ok s' ↔ apply (some s) event = .ok s' := by
  unfold applyEvents
  rw [foldlM_cons_ok]
  simp only [foldlM_nil, pure_eq_ok, exists_eq_right']

theorem followed_created (happly : apply none event = .ok s) :
    ∃ book, Followed .nothing [event] s book := by
  have hmade : Created s := ⟨event, happly⟩
  have hbook := (isFresh_of_created hmade).browser
  obtain ⟨hready, hctxs, htabs, hfacts, hrec, hopen⟩ := openTask_ok hbook
  have htasks : ∀ t, t ∈ s.browser.openTasks ↔ t = s.task.id := by
    intro t
    rw [hopen]
    simp [BrowserBook.new]
  have hother : ∀ fact, event.payload ≠ .browser fact := by
    intro fact heq
    unfold apply at happly
    rw [heq] at happly
    simp [okOr, bind, Except.bind] at happly
  refine ⟨s.browser, ⟨?_, .start hmade, ⟨s.browser, hbook, ?_⟩, ?_, rfl, fun _ => rfl, ?_⟩⟩
  · unfold foldApply
    rw [foldlM_cons, happly]
    rfl
  · rw [foldlM_cons, loadBrowserRow_other hother]
    rfl
  · refine ⟨rfl, (Ended.map_context_nothing _).symm, (Ended.map_tab_nothing _).symm, rfl,
      fun t ht => (htasks t).mp ht, htasks, ?_, fun x hx => ?_, fun x hx => ?_, fun id hid => ?_⟩
    · intro id t ht
      rw [htabs] at ht
      simp [BrowserBook.new] at ht
    · cases hx
    · cases hx
    · cases hid
  · refine ⟨fun _ before event' after epoch s₀ hsplit hclose hpre => ?_, fun _ => rfl⟩
    -- nothing precedes the only event, and nothing folds to no snapshot
    rcases append_eq_singleton_iff.mp hsplit.symm with ⟨rfl, -⟩ | ⟨-, hnil⟩
    · cases hpre
    · cases hnil

theorem followed_of_history (h : History events s) : ∃ e book, Followed e events s book := by
  induction h with
  | created happly =>
    obtain ⟨book, hfollow⟩ := followed_created happly
    exact ⟨_, book, hfollow⟩
  | host h hfact happly ih =>
    obtain ⟨e, book, hfollow⟩ := ih
    obtain ⟨e', book', hnext, -⟩ := hfollow.next (guard_of_isHostFact hfact) (fun fact heq => by
        rw [heq] at hfact
        cases hfact) happly
    exact ⟨e', book', hnext⟩
  | @decided events s batch s' envelope operationId rest h hdec hbatch ih =>
    obtain ⟨e, book, hfollow⟩ := ih
    have haway : ∀ event ∈ batch, ∀ fact, event.payload = .browser fact →
        Away e fact := by
      intro event hevent fact heq
      refine decided_away hfollow.reloaded hdec fact (mem_append_left _ ?_)
      exact mem_map.mpr ⟨event, hevent, heq⟩
    generalize hall : batch.map DomainEvent.payload ++ rest = all at hdec
    cases decide_decided hdec with
    | none =>
      obtain ⟨hnil, -⟩ := append_eq_nil_iff.mp hall
      rw [map_eq_nil_iff.mp hnil] at hbatch ⊢
      cases hbatch
      rw [append_nil]
      exact ⟨e, book, hfollow⟩
    | @one p hguard =>
      rcases append_eq_singleton_iff.mp hall with ⟨hnil, -⟩ | ⟨hone, -⟩
      · rw [map_eq_nil_iff.mp hnil] at hbatch ⊢
        cases hbatch
        rw [append_nil]
        exact ⟨e, book, hfollow⟩
      · obtain ⟨event, rfl, hp⟩ := map_eq_singleton_iff.mp hone
        obtain ⟨e', book', hnext, -⟩ := hfollow.next (hp ▸ hguard)
          (haway event (.head _)) (applyEvents_singleton.mp hbatch)
        exact ⟨e', book', hnext⟩
    | batch hcap hbatched =>
      refine hfollow.batch hcap (fun event hevent => ⟨hbatched _ ?_, haway event hevent⟩) hbatch
      rw [← hall]
      exact mem_append_left _ (mem_map_of_mem hevent)

/-! ## The loaded book -/

section Loaded

variable {e : BrowserBook.Ended} {book : BrowserBook}

omit [Externals]

variable {taskId : TaskId} {live loaded : BrowserBook}

theorem BrowserBook.Reloaded.owned (h : Reloaded e taskId live loaded)
    (howned : live.Owned taskId) :
    loaded.Owned taskId where
  contexts id c hc := by
    refine howned.contexts id (e.context id c) ?_
    rw [h.context, hc]
    rfl
  tabs id t ht := by
    refine howned.tabs id (e.tab id t) ?_
    rw [h.tab, ht]
    rfl

theorem BrowserBook.Reloaded.mem_tabs_iff (h : Reloaded e taskId live loaded)
    (hclosed : ∀ (id : BrowserTabId) t, live.tabs[id]? = some t → t.closed = true)
    (x : BrowserTabId × BrowserContextId) : x ∈ e.tabs ↔ x ∈ loaded.ended.tabs := by
  constructor
  · intro hx
    exact mem_openTabs.mpr (h.endedTabs x hx)
  · intro hx
    obtain ⟨t, ht, hopen, hctx⟩ := mem_openTabs.mp hx
    have hended := hclosed x.1 (e.tab x.1 t) (by rw [h.tab, ht]; rfl)
    simpa [Ended.tab, hopen, hctx] using hended

theorem BrowserBook.Reloaded.mem_contexts_iff (h : Reloaded e taskId live loaded)
    (hclosed : ∀ (id : BrowserContextId) c, live.contexts[id]? = some c → c.closed = true)
    (id) : id ∈ e.contexts ↔ id ∈ loaded.ended.contexts := by
  constructor
  · intro hid
    exact mem_ended_contexts.mpr (h.endedContexts id hid)
  · intro hid
    obtain ⟨c, hc, hopen⟩ := mem_ended_contexts.mp hid
    have hended := hclosed id (e.context id c) (by rw [h.context, hc]; rfl)
    simpa [Ended.context, hopen] using hended

theorem not_runtimeCapable_iff : ¬ RuntimeCapable s ↔
    s.task.lifecycle = .closing ∨ s.task.lifecycle = .archived ∨ s.task.lifecycle = .deleted := by
  unfold RuntimeCapable
  cases s.task.lifecycle <;> simp

theorem decidesSame_of_not_capable [Externals] (hcap : ¬ RuntimeCapable s) (book) :
    DecidesSame s book := by
  intro envelope operationId hbrowser
  have hreq : ∃ error, requireRuntimeCapableTask (some s) envelope = .error error ∧
      requireRuntimeCapableTask (some { s with browser := book }) envelope = .error error := by
    unfold requireRuntimeCapableTask requireTask
    have hlife := not_runtimeCapable_iff.mp hcap
    cases htask : envelope.taskId with
    | none => exact ⟨_, rfl, rfl⟩
    | some taskId =>
      by_cases hid : s.task.id = taskId
      · rcases hlife with hlife | hlife | hlife <;>
          simp [okOr, failIf, hid, hlife, bind, Except.bind, pure, Except.pure]
      · simp [okOr, failIf, hid, bind, Except.bind]
  obtain ⟨error, hfolded, hloaded⟩ := hreq
  unfold Command.decide
  cases hc : envelope.command <;> rw [hc] at hbrowser <;>
    simp only [Command.isBrowser, Bool.false_eq_true] at hbrowser
  case browser request =>
    simp only [decideBrowser, hfolded, hloaded, bind, Except.bind]
  case openTaskBrowser intent =>
    simp only [decideOpenTaskBrowser, hfolded, hloaded, bind, Except.bind]

theorem Followed.load_capable [Externals] {table}
    (h : Followed e events s book) (htable : eventsOf table s.task.id = events)
    (hcap : RuntimeCapable s) : loadBrowserBook table s.task.id s.task.lifecycle = .ok book := by
  obtain ⟨opened, hopen, hloads⟩ := h.loads
  have hkept : ¬ (s.task.lifecycle = .closing ∨ s.task.lifecycle = .archived ∨
      s.task.lifecycle = .deleted) := fun hended => not_runtimeCapable_iff.mpr hended hcap
  unfold loadBrowserBook
  rw [htable]
  simp only [if_neg hkept, ok_iff]
  exact ⟨opened, hopen, book, hloads, rfl⟩

theorem Followed.load_closed [Externals] {table} (h : Followed e events s book)
    (htable : eventsOf table s.task.id = events) (hcap : ¬ RuntimeCapable s) :
    ∃ closed, loadBrowserBook table s.task.id s.task.lifecycle = .ok closed ∧
      SameBook s closed := by
  have hinv : BookInv s := bookInv_of_guarded h.guarded
  have howned : book.Owned s.task.id := h.reloaded.owned hinv.owned
  have htabs := h.reloaded.mem_tabs_iff (hinv.closedTabs hcap)
  have hctxs := h.reloaded.mem_contexts_iff (hinv.closedContexts hcap)
  -- the closing facts are no more than the folded journal has
  have hfits : book.facts.length + (book.planCloseTask s.task.id).length ≤
      maxBrowserJournalFacts := by
    have htabsLe : book.ended.tabs.length ≤ e.tabs.length :=
      (BrowserBook.nodup_openTabs.subperm fun x hx => (htabs x).mpr hx).length_le
    have hcontextsLe : book.ended.contexts.length ≤ e.contexts.length :=
      (BrowserBook.nodup_ended_contexts.subperm fun x hx => (hctxs x).mpr hx).length_le
    have hjournal := hinv.journal
    rw [length_planCloseTask_ended howned]
    rw [h.journal] at hjournal
    unfold Ended.size at hjournal ⊢
    omega
  obtain ⟨closed, hclosed⟩ := BrowserBook.closeTask_isOk.mpr
    ⟨(h.reloaded.openTasks s.task.id).mpr rfl, .inr hfits⟩
  have hbook := BrowserBook.closeTask_ended howned hclosed
  refine ⟨closed, ?_, ?_, ?_, ?_⟩
  · obtain ⟨opened, hopen, hloads⟩ := h.loads
    unfold loadBrowserBook
    rw [htable]
    simp only [if_pos (not_runtimeCapable_iff.mp hcap), ok_iff]
    exact ⟨opened, hopen, book, hloads, hclosed⟩
  · rw [hbook, h.reloaded.contexts, Ended.context_congr htabs hctxs]
  · rw [hbook, h.reloaded.tabs, Ended.tab_congr htabs]
  · rw [hbook]
    exact h.reloaded.receipts.symm

theorem Followed.book_eq [Externals] (h : Followed .nothing events s book)
    (hcap : RuntimeCapable s) : book = s.browser := by
  have hinv : BookInv s := bookInv_of_guarded h.guarded
  have hctxs := h.reloaded.contexts
  have htabs := h.reloaded.tabs
  rw [Ended.map_context_nothing] at hctxs
  rw [Ended.map_tab_nothing] at htabs
  have htasks : book.openTasks = s.browser.openTasks := by
    refine ExtTreeSet.ext_mem fun t => ?_
    rw [h.reloaded.openTasks, hinv.openTasks]
    simp [hcap]
  have hready := h.reloaded.ready
  have hrec := h.reloaded.receipts
  have hfacts := h.facts rfl
  cases hb : s.browser
  cases book
  simp_all

theorem nothing_of_sameBook (h : Reloaded e s.task.id s.browser book)
    (hsame : SameBook s book) : e = .nothing := by
  obtain ⟨tabs, contexts⟩ := e
  have hctxs : contexts = [] := by
    refine eq_nil_iff_forall_not_mem.mpr fun id hid => ?_
    obtain ⟨c, hc, hopen⟩ := h.endedContexts id hid
    have hlive := h.context id
    rw [← hsame.contexts, hc, map_some, some.injEq] at hlive
    rw [hlive] at hopen
    simp [Ended.context, hid] at hopen
  have htabs : tabs = [] := by
    refine eq_nil_iff_forall_not_mem.mpr fun x hx => ?_
    obtain ⟨t, ht, hopen, hctx⟩ := h.endedTabs x hx
    have hlive := h.tab x.1
    rw [← hsame.tabs, ht, map_some, some.injEq] at hlive
    rw [hlive] at hopen
    have hmem : (x.1, t.contextId) ∈ tabs := by
      rw [hctx]
      exact hx
    simp [Ended.tab, hmem] at hopen
  rw [hctxs, htabs]
  rfl

end Loaded

end History

/-- For every history of a task, the book is loaded from its stored events. It has the contexts, the
tabs and the receipts of the folded book, and every browser command is decided the same with
it, iff the task is not open or settled, or at every `TaskCloseBegun` of the history no tab
and no context was open. -/
theorem reload_exact [Externals] {table events : List DomainEvent} {s : TaskSnapshot}
    (h : History events s) (htable : eventsOf table s.task.id = events) :
    ∃ book, loadBrowserBook table s.task.id s.task.lifecycle = .ok book ∧
      (SameBook s book ∧ DecidesSame s book ↔ (RuntimeCapable s → ClosesEmpty events)) := by
  obtain ⟨e, book, hfollow⟩ := followed_of_history h
  by_cases hcap : RuntimeCapable s
  · refine ⟨book, hfollow.load_capable htable hcap, ?_⟩
    constructor
    · rintro ⟨hsame, -⟩ -
      exact hfollow.ended.mp (nothing_of_sameBook hfollow.reloaded hsame)
    · intro hnil
      have hnothing : e = .nothing := hfollow.ended.mpr (hnil hcap)
      subst hnothing
      have hbook : book = s.browser := hfollow.book_eq hcap
      subst hbook
      exact ⟨⟨rfl, rfl, rfl⟩, fun _ _ _ => rfl⟩
  · obtain ⟨closed, hload, hsame⟩ := hfollow.load_closed htable hcap
    refine ⟨closed, hload, ?_⟩
    exact ⟨fun _ hopen => absurd hopen hcap,
      fun _ => ⟨hsame, decidesSame_of_not_capable hcap closed⟩⟩

section Sample

attribute [local instance] sampleExternals

def sampleEvent (sequence : ℕ) (payload : Event) : DomainEvent where
  id := ⟨sequence⟩
  taskId := some ⟨1⟩
  sequence := sequence
  taskRevision := some sequence
  occurredAtMs := 0
  payload := payload

def reopenedEvents : List DomainEvent :=
  [sampleEvent 1 (.taskCreated sampleTask .connected .none .idle .notReady)] ++
    (createContextFacts.map Event.browser).mapIdx (fun i => sampleEvent (i + 2)) ++
    [sampleEvent 4 (.taskCloseBegun 1)] ++ [sampleEvent 5 .taskReopened]

theorem History.command {events s s'}
    (h : History events s) (command : Command) (batch)
    (hdec : Command.decide (some s) (envelopeFor s command) ⟨1⟩ =
      .ok (batch.map DomainEvent.payload))
    (hbatch : applyEvents s batch = .ok s') : History (events ++ batch) s' := by
  have hwhole : Command.decide (some s) (envelopeFor s command) ⟨1⟩ =
      .ok (batch.map DomainEvent.payload ++ []) := by
    rw [append_nil]
    exact hdec
  exact h.decided hwhole hbatch

theorem history_reopened : ∃ s, History reopenedEvents s ∧ s.task.id = ⟨1⟩ ∧
    s.task.lifecycle = .opened ∧ ∃ c, s.browser.contexts[(⟨1⟩ : BrowserContextId)]? = some c ∧
      c.closed = true := by
  have hmade : apply none (sampleEvent 1
      (.taskCreated sampleTask .connected .none .idle .notReady)) = .ok sampleSnapshot := by
    simp only [apply, sampleEvent, applyTaskCreated, ok_iff, isSome_none, Bool.false_eq_true,
      if_false]
    refine ⟨by decide, by decide, rfl, _, ?_, rfl⟩
    simp only [BrowserBook.openTask, BrowserBook.new, sampleTask]
    rfl
  have hbrowser := (History.created hmade).command (.browser createContextRequest)
    ((createContextFacts.map Event.browser).mapIdx fun i => sampleEvent (i + 2)) rfl rfl
  have hclosed := hbrowser.command .beginCloseTask [sampleEvent 4 (.taskCloseBegun 1)] rfl rfl
  have hreopened := hclosed.command .reopenTask [sampleEvent 5 .taskReopened] rfl rfl
  exact ⟨_, hreopened, rfl, rfl, _, rfl, rfl⟩

theorem reload_exact_reopened : ∃ s book, RuntimeCapable s ∧
    loadBrowserBook reopenedEvents ⟨1⟩ .opened = .ok book ∧
      (SameBook s book ∧ DecidesSame s book ↔ (RuntimeCapable s → ClosesEmpty reopenedEvents)) := by
  obtain ⟨s, hhist, hid, hlife, -⟩ := history_reopened
  have htable : eventsOf reopenedEvents s.task.id = reopenedEvents := by
    rw [hid]
    rfl
  obtain ⟨book, hload, hexact⟩ := reload_exact hhist htable
  rw [hid, hlife] at hload
  exact ⟨s, book, .inl hlife, hload, hexact⟩

/-- The context that the close ended is open again in the reloaded book. -/
theorem reopened_book_differs :
    ¬ ∀ table events s, History events s → eventsOf table s.task.id = events →
      ∃ book, loadBrowserBook table s.task.id s.task.lifecycle = .ok book ∧
        SameBook s book ∧ DecidesSame s book := by
  intro hclaim
  obtain ⟨s, hhist, hid, hlife, c, hc, hclosed⟩ := history_reopened
  have htable : eventsOf reopenedEvents s.task.id = reopenedEvents := by
    rw [hid]
    rfl
  obtain ⟨book, hload, hsame, -⟩ := hclaim reopenedEvents reopenedEvents s hhist htable
  rw [hid, hlife] at hload
  have hopen : ∃ book, loadBrowserBook reopenedEvents ⟨1⟩ .opened = .ok book ∧
      ∃ d, book.contexts[(⟨1⟩ : BrowserContextId)]? = some d ∧ d.closed = false :=
    ⟨_, rfl, _, rfl, rfl⟩
  obtain ⟨book', hload', d, hd, hopened⟩ := hopen
  rw [hload] at hload'
  cases hload'
  rw [hsame.contexts, hc] at hd
  cases hd
  rw [hclosed] at hopened
  cases hopened

end Sample

end DevManager
