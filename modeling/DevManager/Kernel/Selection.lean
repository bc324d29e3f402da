import DevManager.Kernel.BookCalls

/-!
# Contexts, tabs and selections of a browser book

`apply_fact` checks little of what the contexts and the tabs of a book say of
each other: it selects a closed tab, closes a context that has a selection and
opens a tab in a closed context when a fact says so. No planner emits such a
fact. `Fits` is what the planners check of the book for a fact, and every fact
of a batch fits the book it is applied to.

* `applyFact_selected`: a fact that fits keeps `Selected`.
* `step_selected`: so does every call.
-/

namespace DevManager.BrowserBook

open Std (ExtTreeMap)
open List Calls OrdMap Std.ExtTreeMap Option

/-- The selected tab of a context is an open tab of it, a closed context has only closed tabs and
no selection, every tab is in a context of its task, and both kinds are bounded. -/
structure Selected (b : BrowserBook) : Prop where
  selected : ∀ (id : BrowserContextId) c tabId,
    b.contexts[id]? = some c → c.selectedTabId = some tabId →
      ∃ t, b.tabs[tabId]? = some t ∧ t.closed = false ∧ t.contextId = id ∧ t.taskId = c.taskId
  closed : ∀ id c, b.contexts[id]? = some c →
    c.closed = true → c.selectedTabId = none ∧
      ∀ (tabId : BrowserTabId) t, b.tabs[tabId]? = some t → t.contextId = id → t.closed = true
  owned : ∀ (tabId : BrowserTabId) t, b.tabs[tabId]? = some t →
    ∃ c, b.contexts[t.contextId]? = some c ∧ c.taskId = t.taskId
  contexts_le : b.contexts.size ≤ maxBrowserContexts
  tabs_le : OrdMap.countValues b.tabs (fun tab => !tab.closed) ≤ maxBrowserTabs

/-- What the planners check for a fact of the book it is applied to. -/
def Fits (b : BrowserBook) : BrowserDurableFact → Prop
  | .contextClosed contextId _ _ => ∀ (tabId : BrowserTabId) t,
      b.tabs[tabId]? = some t → t.contextId = contextId → t.closed = true
  | .tabOpened _ contextId _ _ _ =>
      (∀ c, b.contexts[contextId]? = some c → c.closed = false) ∧
        OrdMap.countValues b.tabs (fun tab => !tab.closed) < maxBrowserTabs
  | .tabClosed tabId contextId _ => ∀ t, b.tabs[tabId]? = some t → t.contextId = contextId
  | .tabSelected tabId contextId _ =>
      ∃ t, b.tabs[tabId]? = some t ∧ t.contextId = contextId ∧ t.closed = false
  | _ => True

variable {b b' mid : BrowserBook}

/-! ## What one fact writes -/

theorem Selected.congr (h : Selected b) (hctxs : b'.contexts = b.contexts)
    (htabs : b'.tabs = b.tabs) : Selected b' := by
  obtain ⟨hsel, hclosed, howned, hsize, hcount⟩ := h
  constructor <;> simp only [hctxs, htabs] <;> assumption

theorem new_selected : Selected new where
  selected id c tabId h := by simp [new] at h
  closed id c h := by simp [new] at h
  owned tabId t h := by simp [new] at h
  contexts_le := by simp [new]
  tabs_le := Nat.zero_le _

variable {id : BrowserContextId} {c : ContextState}

theorem Selected.setContext (hb : Selected b) {c' : ContextState}
    (hc : b.contexts[id]? = some c) (htask : c'.taskId = c.taskId)
    (hsel : ∀ tabId, c'.selectedTabId = some tabId →
      ∃ t, b.tabs[tabId]? = some t ∧ t.closed = false ∧ t.contextId = id ∧ t.taskId = c.taskId)
    (hclosed : c'.closed = true → c'.selectedTabId = none ∧
      ∀ (tabId : BrowserTabId) t, b.tabs[tabId]? = some t → t.contextId = id →
        t.closed = true) : Selected (b.setContext id c') where
  selected k d tabId hd htabs := by
    rcases of_insert hd with ⟨rfl, rfl⟩ | ⟨-, hd⟩
    · rw [htask]
      exact hsel tabId htabs
    · exact hb.selected k d tabId hd htabs
  closed k d hd hdone := by
    rcases of_insert hd with ⟨rfl, rfl⟩ | ⟨-, hd⟩
    · exact hclosed hdone
    · exact hb.closed k d hd hdone
  owned tabId t ht := by
    obtain ⟨d, hd, howner⟩ := hb.owned tabId t ht
    simp only [BrowserBook.setContext, getElem?_insert_eq]
    by_cases hk : id = t.contextId
    · rw [← hk, hc] at hd
      cases hd
      exact ⟨c', if_pos hk, htask.trans howner⟩
    · exact ⟨d, by rw [if_neg hk]; exact hd, howner⟩
  contexts_le := by
    show (b.contexts.insert id c').size ≤ _
    rw [size_insert, if_pos (show b.contexts.contains id = true from
      mem_iff_exists.mpr ⟨c, hc⟩)]
    exact hb.contexts_le
  tabs_le := hb.tabs_le

theorem Selected.setContext_same (hb : Selected b) {c' : ContextState}
    (hc : b.contexts[id]? = some c) (htask : c'.taskId = c.taskId)
    (hsel : c'.selectedTabId = c.selectedTabId) (hclosed : c'.closed = c.closed) :
    Selected (b.setContext id c') := by
  refine hb.setContext hc htask ?_ ?_
  · intro tabId htabs
    rw [hsel] at htabs
    exact hb.selected id c tabId hc htabs
  · intro hdone
    rw [hclosed] at hdone
    rw [hsel]
    exact hb.closed id c hc hdone

theorem Selected.createContext (hb : Selected b)
    (hnew : id ∉ b.contexts) (hroom : b.contexts.size < maxBrowserContexts)
    (hsel : c.selectedTabId = none) (hopen : c.closed = false) : Selected (b.setContext id c) where
  selected k d tabId hd htabs := by
    rcases of_insert hd with ⟨-, rfl⟩ | ⟨-, hd⟩
    · rw [hsel] at htabs
      cases htabs
    · exact hb.selected k d tabId hd htabs
  closed k d hd hdone := by
    rcases of_insert hd with ⟨-, rfl⟩ | ⟨-, hd⟩
    · rw [hopen] at hdone
      cases hdone
    · exact hb.closed k d hd hdone
  owned tabId t ht := by
    obtain ⟨d, hd, howner⟩ := hb.owned tabId t ht
    have hk : id ≠ t.contextId := by
      rintro rfl
      exact hnew (mem_iff_exists.mpr ⟨d, hd⟩)
    refine ⟨d, ?_, howner⟩
    simp only [BrowserBook.setContext, getElem?_insert_eq, if_neg hk]
    exact hd
  contexts_le := by
    show (b.contexts.insert id c).size ≤ _
    rw [size_insert, if_neg (show ¬ b.contexts.contains id = true from hnew)]
    omega
  tabs_le := hb.tabs_le

variable {tabId : BrowserTabId} {t : TabState}

theorem Selected.openTab (hb : Selected b)
    (hnew : tabId ∉ b.tabs) (hctx : b.contexts[t.contextId]? = some c)
    (htask : c.taskId = t.taskId) (hopen : c.closed = false)
    (hroom : countValues b.tabs (fun tab => !tab.closed) < maxBrowserTabs) :
    Selected { b with tabs := b.tabs.insert tabId t } where
  selected k d selected hd htabs := by
    obtain ⟨u, hu, hrest⟩ := hb.selected k d selected hd htabs
    have hk : tabId ≠ selected := by
      rintro rfl
      exact hnew (mem_iff_exists.mpr ⟨u, hu⟩)
    refine ⟨u, ?_, hrest⟩
    simp only [getElem?_insert_eq, if_neg hk]
    exact hu
  closed k d hd hdone := by
    obtain ⟨hnone, hall⟩ := hb.closed k d hd hdone
    refine ⟨hnone, fun key u hu hin => ?_⟩
    rcases of_insert hu with ⟨-, rfl⟩ | ⟨-, hu⟩
    · rw [hin] at hctx
      rw [show b.contexts[k]? = some d from hd] at hctx
      cases hctx
      rw [hopen] at hdone
      cases hdone
    · exact hall key u hu hin
  owned key u hu := by
    rcases of_insert hu with ⟨-, rfl⟩ | ⟨-, hu⟩
    · exact ⟨c, hctx, htask⟩
    · exact hb.owned key u hu
  contexts_le := hb.contexts_le
  tabs_le := by
    have hcount := countValues_insert_new (fun tab : TabState => !tab.closed)
      (not_mem_iff.mp hnew) t
    show countValues (b.tabs.insert tabId t) _ ≤ _
    rw [hcount]
    split_ifs <;> omega

theorem Selected.setTab_same (hb : Selected b) {t' : TabState}
    (ht : b.tabs[tabId]? = some t) (hctx : t'.contextId = t.contextId)
    (htask : t'.taskId = t.taskId) (hclosed : t'.closed = t.closed) :
    Selected { b with tabs := b.tabs.insert tabId t' } where
  selected k d selected hd htabs := by
    obtain ⟨u, hu, hopen, hin, howner⟩ := hb.selected k d selected hd htabs
    simp only [getElem?_insert_eq]
    by_cases hk : tabId = selected
    · rw [← hk, ht] at hu
      cases hu
      exact ⟨t', if_pos hk, hclosed.trans hopen, hctx.trans hin, htask.trans howner⟩
    · exact ⟨u, by rw [if_neg hk]; exact hu, hopen, hin, howner⟩
  closed k d hd hdone := by
    obtain ⟨hnone, hall⟩ := hb.closed k d hd hdone
    refine ⟨hnone, fun key u hu hin => ?_⟩
    rcases of_insert hu with ⟨-, rfl⟩ | ⟨-, hu⟩
    · rw [hclosed]
      exact hall tabId t ht (hctx.symm.trans hin)
    · exact hall key u hu hin
  owned key u hu := by
    rcases of_insert hu with ⟨-, rfl⟩ | ⟨-, hu⟩
    · rw [hctx, htask]
      exact hb.owned tabId t ht
    · exact hb.owned key u hu
  contexts_le := hb.contexts_le
  tabs_le := by
    have hcount := countValues_insert (fun tab : TabState => !tab.closed) b.tabs tabId t'
    have hbound := hb.tabs_le
    rw [ht, hclosed] at hcount
    show countValues (b.tabs.insert tabId t') _ ≤ _
    simp only [any_some] at hcount
    omega

theorem Selected.context_of_modify (hb : Selected b)
    (ht : b.tabs[tabId]? = some t) {k : BrowserContextId} {d}
    (hd : (b.contexts.modify t.contextId fun context =>
      if context.selectedTabId = some tabId then { context with selectedTabId := none }
      else context)[k]? = some d) :
    ∃ d₀, b.contexts[k]? = some d₀ ∧ d.taskId = d₀.taskId ∧ d.closed = d₀.closed ∧
      d.selectedTabId ≠ some tabId ∧
      (d.selectedTabId = none ∨ d.selectedTabId = d₀.selectedTabId) := by
  rw [OrdMap.getElem?_modify_eq] at hd
  split_ifs at hd with hk
  · rw [map_eq_some_iff] at hd
    obtain ⟨d₀, hd₀, rfl⟩ := hd
    refine ⟨d₀, hd₀, ?_⟩
    split_ifs with hsel
    · exact ⟨rfl, rfl, by simp, .inl rfl⟩
    · exact ⟨rfl, rfl, hsel, .inr rfl⟩
  · refine ⟨d, hd, rfl, rfl, ?_, .inr rfl⟩
    intro hsel
    -- the tab is in another context, which therefore does not select it
    obtain ⟨u, hu, -, hin, -⟩ := hb.selected k d tabId hd hsel
    rw [ht] at hu
    cases hu
    exact hk hin

theorem Selected.closeTab (hb : Selected b) (ht : b.tabs[tabId]? = some t) :
    Selected { b with
      tabs := b.tabs.insert tabId { t with closed := true }
      contexts := b.contexts.modify t.contextId fun context =>
        if context.selectedTabId = some tabId then { context with selectedTabId := none }
        else context } := by
  constructor
  · intro k d selected hd hsel
    obtain ⟨d₀, hd₀, htask, -, hne, hsame⟩ := hb.context_of_modify ht hd
    rw [hsel] at hne hsame
    obtain ⟨u, hu, hopen, hin, howner⟩ :=
      hb.selected k d₀ selected hd₀ (hsame.resolve_left (by simp)).symm
    have hk : tabId ≠ selected := fun heq => hne (by rw [heq])
    refine ⟨u, ?_, hopen, hin, howner.trans htask.symm⟩
    simp only [getElem?_insert_eq, if_neg hk]
    exact hu
  · intro k d hd hdone
    obtain ⟨d₀, hd₀, -, hclosed, -, hsame⟩ := hb.context_of_modify ht hd
    rw [hclosed] at hdone
    obtain ⟨hnone, hall⟩ := hb.closed k d₀ hd₀ hdone
    refine ⟨hsame.elim id fun heq => heq.trans hnone, fun key u hu hin => ?_⟩
    rcases of_insert hu with ⟨-, rfl⟩ | ⟨-, hu⟩
    · rfl
    · exact hall key u hu hin
  · intro key u hu
    have howned : ∃ c, b.contexts[u.contextId]? = some c ∧ c.taskId = u.taskId := by
      rcases of_insert hu with ⟨-, rfl⟩ | ⟨-, hu⟩
      · exact hb.owned tabId t ht
      · exact hb.owned key u hu
    obtain ⟨c, hc, howner⟩ := howned
    simp only [OrdMap.getElem?_modify_eq, hc, map_some]
    split_ifs
    · exact ⟨_, rfl, howner⟩
    · exact ⟨c, rfl, howner⟩
    · exact ⟨c, rfl, howner⟩
  · show (b.contexts.modify _ _).size ≤ _
    rw [size_modify]
    exact hb.contexts_le
  · have hcount := countValues_insert (fun tab : TabState => !tab.closed) b.tabs tabId
      { t with closed := true }
    have hbound := hb.tabs_le
    show countValues (b.tabs.insert tabId _) _ ≤ _
    simp only [Bool.not_true, Bool.false_eq_true, if_false] at hcount
    omega

/-! ## One fact -/

theorem closeTabsOf_eq
    (h : ∀ (tabId : BrowserTabId) t, b.tabs[tabId]? = some t → t.contextId = id →
      t.closed = true) : closeTabsOf b.tabs id = b.tabs := by
  apply ExtTreeMap.ext_getElem?
  intro tabId
  rw [getElem?_closeTabsOf]
  cases ht : b.tabs[tabId]? with
  | none => rfl
  | some t =>
    simp only [map_some, some.injEq]
    split_ifs with hin
    · rw [← h tabId t ht hin]
    · rfl

section Facts

variable [Externals] {fact : BrowserDurableFact} {facts : List BrowserDurableFact}

theorem applyFact_selected (hb : Selected b) (h : b.applyFact fact = .ok b')
    (hfits : Fits b fact) : Selected b' := by
  obtain ⟨mid, hmid, rfl⟩ := applyFact_eq_ok.mp h
  suffices hs : Selected mid from hs.congr rfl rfl
  cases fact <;> simp only [projectFact, ok_iff] at hmid
  case requestAccepted fact =>
    obtain ⟨-, rfl⟩ := projectRequestAccepted_eq_ok.mp hmid
    exact hb.congr rfl rfl
  case permissionDecided | artifactLinked | recipeIdentified | recordingIdentified =>
    obtain ⟨c, hc, rfl⟩ := hmid
    exact hb.setContext_same (ownedContext_eq_ok.mp hc).1 rfl rfl rfl
  case downloadSettled contextId taskId downloadId fileName sha256Hex artifactId =>
    obtain ⟨-, -, c, hc, rfl⟩ := hmid
    cases artifactId with
    | none => exact hb
    | some => exact hb.setContext_same (ownedContext_eq_ok.mp hc).1 rfl rfl rfl
  case contextCreated contextId taskId generation =>
    obtain ⟨-, hnew, hroom, rfl⟩ := hmid
    exact hb.createContext hnew (by omega) rfl rfl
  case contextClosed contextId taskId generation =>
    obtain ⟨c, hc, rfl⟩ := hmid
    obtain ⟨hc, -⟩ := ownedContext_eq_ok.mp hc
    -- a selected tab would be an open tab of the context
    have hnone : c.selectedTabId = none := by
      cases hsel : c.selectedTabId with
      | none => rfl
      | some tabId =>
        obtain ⟨t, ht, hopen, hin, -⟩ := hb.selected contextId c tabId hc hsel
        rw [hfits tabId t ht hin] at hopen
        cases hopen
    have hset : Selected (b.setContext contextId { c with closed := true }) := by
      refine hb.setContext hc rfl ?_ fun _ => ⟨hnone, hfits⟩
      intro tabId hsel
      exact hb.selected contextId c tabId hc hsel
    exact hset.congr rfl (closeTabsOf_eq hfits)
  case tabOpened tabId contextId taskId kind url =>
    obtain ⟨-, c, hc, hnew, rfl⟩ := hmid
    obtain ⟨hc, htask⟩ := ownedContext_eq_ok.mp hc
    exact hb.openTab hnew hc htask (hfits.1 c hc) hfits.2
  case tabClosed tabId contextId taskId =>
    obtain ⟨t, ht, rfl⟩ := hmid
    rw [← hfits t ht]
    exact hb.closeTab ht
  case tabSelected tabId contextId taskId =>
    obtain ⟨-, c, hc, rfl⟩ := hmid
    obtain ⟨t, ht, hin, hopen⟩ := hfits
    obtain ⟨c₀, hc₀, howner⟩ := hb.owned tabId t ht
    rw [hin, hc] at hc₀
    cases hc₀
    refine hb.setContext hc rfl ?_ ?_
    · intro selected hsel
      cases hsel
      exact ⟨t, ht, hopen, hin, howner.symm⟩
    · intro hdone
      rw [(hb.closed contextId c hc hdone).2 tabId t ht hin] at hopen
      cases hopen
  case navigationCommitted tabId contextId taskId url documentId =>
    obtain ⟨-, t, ht, rfl⟩ := hmid
    exact hb.setTab_same ht rfl rfl rfl
  case healthTransitioned contextId taskId fromHealth toHealth generation =>
    obtain ⟨c, hc, rfl⟩ := hmid
    exact hb.setContext_same hc rfl rfl rfl

/-! ## Batches -/

omit [Externals] in
theorem Fits.mono (h : Closes b b') (hclose : IsClosing b fact) (hfits : Fits b fact) :
    Fits b' fact := by
  -- a tab after closing facts is a tab before them
  have hback : ∀ (tabId : BrowserTabId) t', b'.tabs[tabId]? = some t' →
      ∃ t, b.tabs[tabId]? = some t ∧ TabCloses t t' := by
    intro tabId t' ht'
    exact OrdMap.Related.of_right (h.tabs tabId) ht'
  cases fact with
  | tabClosed tabId contextId taskId =>
    intro t' ht'
    obtain ⟨t, ht, hcloses⟩ := hback tabId t' ht'
    exact hcloses.context.trans (hfits t ht)
  | contextClosed contextId taskId generation =>
    intro tabId t' ht' hin
    obtain ⟨t, ht, hcloses⟩ := hback tabId t' ht'
    exact hcloses.closed (hfits tabId t ht (hcloses.context.symm.trans hin))
  | _ => exact hclose.elim

theorem foldlM_closing_selected :
    ∀ {b : BrowserBook}, Selected b → (∀ fact ∈ facts, IsClosing b fact ∧ Fits b fact) →
      facts.foldlM applyFact b = .ok b' → Selected b' := by
  induction facts with
  | nil =>
    intro b hb _ h
    cases h
    exact hb
  | cons fact facts ih =>
    intro b hb hall h
    obtain ⟨hclose, hfits⟩ := hall fact (.head _)
    obtain ⟨mid, hfst, hrest⟩ := foldlM_cons_ok.mp h
    obtain ⟨mid', hmid', hclosing, -⟩ := applyFact_closing hclose
    rw [hfst] at hmid'
    cases hmid'
    refine ih (applyFact_selected hb hfst hfits) (fun other hother => ?_) hrest
    obtain ⟨hclose', hfits'⟩ := hall other (.tail _ hother)
    exact ⟨hclose'.mono hclosing, hfits'.mono hclosing hclose'⟩

theorem foldlM_closings_selected {tabs contexts : List BrowserDurableFact} (hb : Selected b)
    (htabs : ∀ fact ∈ tabs, IsClosing b fact ∧ Fits b fact)
    (hctxs : ∀ fact ∈ contexts, IsClosing b fact ∧
      ∃ contextId taskId generation, fact = .contextClosed contextId taskId generation ∧
        ∀ (tabId : BrowserTabId) t, b.tabs[tabId]? = some t →
          t.contextId = contextId → t.closed = false → .tabClosed tabId contextId taskId ∈ tabs)
    (h : (tabs ++ contexts).foldlM applyFact b = .ok b') : Selected b' := by
  rw [foldlM_append, bind_eq_ok] at h
  obtain ⟨mid, hfst, hrest⟩ := h
  obtain ⟨mid', hmid', hclose, hclosed, -⟩ :=
    foldlM_applyFact_closing fun fact hfact => (htabs fact hfact).1
  rw [hfst] at hmid'
  cases hmid'
  refine foldlM_closing_selected (foldlM_closing_selected hb htabs hfst) ?_ hrest
  intro fact hfact
  obtain ⟨hclosing, contextId, taskId, generation, rfl, hnamed⟩ := hctxs fact hfact
  refine ⟨hclosing.mono hclose, ?_⟩
  intro tabId t' ht' hin
  obtain ⟨t, ht, htab⟩ := OrdMap.Related.of_right (hclose.tabs tabId) ht'
  by_cases hopen : t.closed = true
  · exact htab.closed hopen
  · have hmem := hnamed tabId t ht (htab.context.symm.trans hin) (by simpa using hopen)
    obtain ⟨u, hu, hdone⟩ := hclosed _ hmem
    rw [ht'] at hu
    cases hu
    exact hdone

variable {taskId : TaskId}

theorem closeTask_selected (hb : Selected b)
    (h : (b.planCloseTask taskId).foldlM applyFact b = .ok b') : Selected b' := by
  unfold planCloseTask at h
  refine foldlM_closings_selected hb ?_ ?_ h
  · intro fact hfact
    have hplan : fact ∈ b.planCloseTask taskId := mem_append_left _ hfact
    have hclose := isClosing_of_mem_planCloseTask hplan
    obtain ⟨⟨tabId, t⟩, hmem, hfact⟩ := mem_filterMap.mp hfact
    dsimp only at hfact
    split_ifs at hfact
    cases hfact
    refine ⟨hclose, fun u hu => ?_⟩
    rw [mem_toList_iff_getElem?_eq_some.mp hmem] at hu
    cases hu
    rfl
  · intro fact hfact
    have hplan : fact ∈ b.planCloseTask taskId := mem_append_right _ hfact
    have hclose := isClosing_of_mem_planCloseTask hplan
    obtain ⟨⟨contextId, c⟩, hmem, hfact⟩ := mem_filterMap.mp hfact
    dsimp only at hfact
    split_ifs at hfact with howned
    cases hfact
    have hc := mem_toList_iff_getElem?_eq_some.mp hmem
    refine ⟨hclose, contextId, taskId, c.generation, rfl, fun tabId t ht hin hopen => ?_⟩
    -- the tab is of the context's task, so it is named
    obtain ⟨c', hc', howner⟩ := hb.owned tabId t ht
    rw [hin, hc] at hc'
    cases hc'
    refine mem_filterMap.mpr
      ⟨(tabId, t), mem_toList_iff_getElem?_eq_some.mpr ht, ?_⟩
    simp [← howner, howned.1, hopen, hin]

omit [Externals] in
theorem Settling.fits {outcome} (h : Settling outcome fact)
    (s : BrowserBook) : Fits s fact := by
  cases h <;> trivial

theorem foldlM_fits_selected (hb : Selected b) (hfits : ∀ fact ∈ facts, ∀ s, Fits s fact)
    (h : facts.foldlM applyFact b = .ok b') : Selected b' :=
  foldlM_invariant (fun fact hfact s _ hs hstep => applyFact_selected hs hstep (hfits fact hfact s))
    hb h

variable {request : BrowserRequest} {identity : List BrowserDurableFact}

variable {tabId : BrowserTabId} {contextId : BrowserContextId}

theorem applyFact_tabOpened_tabs {kind url}
    (h : b.applyFact (.tabOpened tabId contextId taskId kind url) = .ok b') :
    tabId ∉ b.tabs ∧ b'.tabs = b.tabs.insert tabId {
      contextId
      taskId := taskId
      kind := kind
      committedUrl := some url
      closed := false } := by
  obtain ⟨mid, hmid, rfl⟩ := applyFact_eq_ok.mp h
  simp only [projectFact, ok_iff] at hmid
  obtain ⟨-, c, -, hnew, rfl⟩ := hmid
  exact ⟨hnew, rfl⟩

theorem plannedIn_selected {context : ContextState} (hb : Selected b)
    (hctx : b.contexts[request.contextId]? = some context)
    (htask : context.taskId = request.taskId) (hopen : context.closed = false)
    (hplan : PlannedIn b request context identity)
    (h : identity.foldlM applyFact b = .ok b') : Selected b' := by
  cases hplan with
  | none =>
    cases h
    exact hb
  | closed =>
    refine foldlM_closings_selected hb ?_ ?_ h
    · intro fact hfact
      obtain ⟨⟨tabId, t⟩, hmem, hfact⟩ := mem_filterMap.mp hfact
      dsimp only at hfact
      split_ifs at hfact with hin
      cases hfact
      have ht := mem_toList_iff_getElem?_eq_some.mp hmem
      refine ⟨⟨t, ht⟩, fun u hu => ?_⟩
      rw [ht] at hu
      cases hu
      exact hin.1
    · intro fact hfact
      rw [mem_singleton.mp hfact]
      refine ⟨⟨context, hctx, htask⟩, request.contextId, request.taskId, context.generation,
        rfl, fun tabId t ht hin hlive => ?_⟩
      refine mem_filterMap.mpr
        ⟨(tabId, t), mem_toList_iff_getElem?_eq_some.mpr ht, ?_⟩
      simp [hin, hlive]
  | @tabOpened tabId kind url hnew hroom hpopup =>
    obtain ⟨mid, hfst, hrest⟩ := foldlM_cons_ok.mp h
    have hmid : Selected mid := by
      refine applyFact_selected hb hfst ⟨fun c hc => ?_, hroom⟩
      rw [hctx] at hc
      cases hc
      exact hopen
    split_ifs at hrest
    · obtain ⟨last, hsnd, hlast⟩ := foldlM_cons_ok.mp hrest
      cases hlast
      obtain ⟨-, htabs⟩ := applyFact_tabOpened_tabs hfst
      have hfits : ∃ t, mid.tabs[tabId]? = some t ∧ t.contextId = request.contextId ∧
          t.closed = false := by
        rw [htabs, getElem?_insert_eq, if_pos rfl]
        exact ⟨_, rfl, rfl, rfl⟩
      exact applyFact_selected hmid hsnd hfits
    · cases hrest
      exact hmid
  | tabClosed htab hin =>
    refine foldlM_closing_selected hb (fun fact hfact => ?_) h
    rw [mem_singleton.mp hfact]
    refine ⟨⟨_, htab⟩, fun u hu => ?_⟩
    rw [htab] at hu
    cases hu
    exact hin
  | tabSelected htab hin howner hlive =>
    obtain ⟨last, hfst, hlast⟩ := foldlM_cons_ok.mp h
    cases hlast
    exact applyFact_selected hb hfst ⟨_, htab, hin, hlive⟩
  | artifactLinked =>
    refine foldlM_fits_selected hb (fun fact hfact s => ?_) h
    rw [mem_singleton.mp hfact]
    trivial

theorem planned_selected (hb : Selected b) (hplan : Planned b request identity)
    (h : identity.foldlM applyFact b = .ok b') : Selected b' := by
  cases hplan with
  | created hnew hroom =>
    refine foldlM_fits_selected hb (fun fact hfact s => ?_) h
    rw [mem_singleton.mp hfact]
    trivial
  | again =>
    cases h
    exact hb
  | inContext hctx htask hopen hplan =>
    exact plannedIn_selected hb hctx htask hopen hplan h

theorem step_selected (hb : Selected b) (h : CallStep b b') : Selected b' := by
  cases h with
  | kept hctxs htabs => exact hb.congr hctxs htabs
  | closed happly h =>
    rw [h]
    exact (closeTask_selected hb (applyFacts_ok happly).1).congr rfl rfl
  | admitted hopen hplan happly h =>
    rw [h]
    obtain ⟨accepted, hfst, hrest⟩ := foldlM_cons_ok.mp (applyFacts_ok happly).1
    obtain ⟨-, hacc⟩ := applyFact_requestAccepted.mp hfst
    have hctxs : accepted.contexts = b.contexts := by rw [hacc]
    have htabs : accepted.tabs = b.tabs := by rw [hacc]
    have hplanned := (planIdentityFacts_cases hplan).congr hctxs htabs
    exact (planned_selected (hb.congr hctxs htabs) hplanned hrest).congr rfl rfl
  | settled hstored htask hctx hfacts happly h =>
    rw [h]
    refine (foldlM_fits_selected hb (fun fact hfact s => ?_) (applyFacts_ok happly).1).congr rfl rfl
    exact (settlementFacts_cases hfacts fact hfact).fits s

/-! ## Popups -/

/-- The tab of an id before and after facts: its context, its task and its kind stay, and a new tab
was opened by a fact. -/
inductive TabStep (facts : List BrowserDurableFact) (tabId : BrowserTabId) :
    Option TabState → Option TabState → Prop
  | absent : TabStep facts tabId none none
  | same {t t' : TabState} (hctx : t'.contextId = t.contextId) (htask : t'.taskId = t.taskId)
      (hkind : t'.kind = t.kind) : TabStep facts tabId (some t) (some t')
  | opened {t : TabState} {url : String}
      (h : .tabOpened tabId t.contextId t.taskId t.kind url ∈ facts) :
      TabStep facts tabId none (some t)

omit [Externals] in
theorem TabStep.refl (tabId : BrowserTabId) (tab : Option TabState) :
    TabStep facts tabId tab tab := by
  cases tab with
  | none => exact .absent
  | some => exact .same rfl rfl rfl

omit [Externals] in
theorem TabStep.insert_same {id t t'} (ht : b.tabs[id]? = some t)
    (hctx : t'.contextId = t.contextId) (htask : t'.taskId = t.taskId)
    (hkind : t'.kind = t.kind) :
    TabStep facts tabId b.tabs[tabId]? (b.tabs.insert id t')[tabId]? := by
  rw [getElem?_insert_eq]
  split_ifs with hid
  · rw [← hid, ht]
    exact .same hctx htask hkind
  · exact .refl tabId _

theorem applyFact_tab (h : b.applyFact fact = .ok b') (tabId : BrowserTabId) :
    TabStep [fact] tabId b.tabs[tabId]? b'.tabs[tabId]? := by
  obtain ⟨mid, hmid, rfl⟩ := applyFact_eq_ok.mp h
  cases fact <;> simp only [projectFact, ok_iff] at hmid
  case requestAccepted fact =>
    obtain ⟨-, rfl⟩ := projectRequestAccepted_eq_ok.mp hmid
    exact .refl tabId _
  case contextClosed contextId taskId generation =>
    obtain ⟨c, -, rfl⟩ := hmid
    simp only [getElem?_closeTabsOf]
    cases b.tabs[tabId]? with
    | none => exact .absent
    | some t =>
      rw [map_some]
      split_ifs <;> exact .same rfl rfl rfl
  case tabOpened id contextId taskId kind url =>
    obtain ⟨hnew, htabs⟩ := applyFact_tabOpened_tabs h
    rw [htabs, getElem?_insert_eq]
    split_ifs with hid
    · subst hid
      rw [not_mem_iff.mp hnew]
      exact .opened (.head _)
    · exact .refl tabId _
  case tabClosed id contextId taskId =>
    obtain ⟨t, ht, rfl⟩ := hmid
    exact .insert_same ht rfl rfl rfl
  case navigationCommitted id contextId taskId url documentId =>
    obtain ⟨-, t, ht, rfl⟩ := hmid
    exact .insert_same ht rfl rfl rfl
  case downloadSettled contextId taskId downloadId fileName sha256Hex artifactId =>
    obtain ⟨-, -, c, -, rfl⟩ := hmid
    cases artifactId <;> exact .refl tabId _
  case contextCreated contextId taskId generation =>
    obtain ⟨-, -, -, rfl⟩ := hmid
    exact .refl tabId _
  case tabSelected id contextId taskId =>
    obtain ⟨-, c, -, rfl⟩ := hmid
    exact .refl tabId _
  all_goals
    obtain ⟨c, -, rfl⟩ := hmid
    exact .refl tabId _

theorem foldlM_tab (tabId : BrowserTabId) :
    ∀ {b : BrowserBook}, facts.foldlM applyFact b = .ok b' →
      TabStep facts tabId b.tabs[tabId]? b'.tabs[tabId]? := by
  induction facts with
  | nil =>
    intro b h
    cases h
    exact .refl tabId _
  | cons fact facts ih =>
    intro b h
    obtain ⟨mid, hfst, hrest⟩ := foldlM_cons_ok.mp h
    have hone := applyFact_tab hfst tabId
    have hmore := ih hrest
    generalize b.tabs[tabId]? = first at hone ⊢
    generalize mid.tabs[tabId]? = second at hone hmore
    generalize b'.tabs[tabId]? = third at hmore ⊢
    cases hone with
    | absent =>
      cases hmore with
      | absent => exact .absent
      | opened hmem => exact .opened (.tail _ hmem)
    | same hctx htask hkind =>
      cases hmore with
      | same hctx' htask' hkind' =>
        exact .same (hctx'.trans hctx) (htask'.trans htask) (hkind'.trans hkind)
    | opened hmem =>
      cases hmore with
      | same hctx htask hkind =>
        rw [← hctx, ← htask, ← hkind] at hmem
        exact .opened (mem_cons.mpr (.inl (mem_singleton.mp hmem)))

/-- What is checked before a tab is opened: its context is open, and so is the tab of that context
that a popup comes from. -/
structure MayOpen (b : BrowserBook) (contextId : BrowserContextId) (taskId : TaskId)
    (kind : BrowserTabKind) : Prop where
  context : ∃ c, b.contexts[contextId]? = some c ∧ c.closed = false
  popup : ∀ opener, kind = .popup opener → ∃ parent, b.tabs[opener]? = some parent ∧
    parent.closed = false ∧ parent.contextId = contextId ∧ parent.taskId = taskId

omit [Externals] in
theorem Planned.opens (h : Planned b request identity) {kind url}
    (hmem : .tabOpened tabId contextId taskId kind url ∈ identity) :
    MayOpen b contextId taskId kind := by
  rcases h.fact hmem with h | ⟨hopen, h⟩
  · cases h
  · cases h with
    | tabOpened _ hpopup => exact ⟨hopen, hpopup⟩

omit [Externals] in
theorem tabOpened_not_mem_planCloseTask {closing kind url} :
    .tabOpened tabId contextId taskId kind url ∉ b.planCloseTask closing := by
  intro hmem
  exact isClosing_of_mem_planCloseTask hmem

/-- A call applies facts, if any, and checked the book for those that open a tab. -/
theorem step_facts (h : CallStep b b') : ∃ (facts : List BrowserDurableFact) (mid : BrowserBook),
    facts.foldlM applyFact b = .ok mid ∧ b'.contexts = mid.contexts ∧ b'.tabs = mid.tabs ∧
    ∀ {tabId contextId taskId kind url},
      .tabOpened tabId contextId taskId kind url ∈ facts → MayOpen b contextId taskId kind := by
  cases h with
  | kept hctxs htabs => exact ⟨[], b, rfl, hctxs, htabs, fun h => by cases h⟩
  | closed happly h =>
    exact ⟨_, _, (applyFacts_ok happly).1, by rw [h], by rw [h],
      fun hmem => (tabOpened_not_mem_planCloseTask hmem).elim⟩
  | admitted _ hplan happly h =>
    refine ⟨_, _, (applyFacts_ok happly).1, by rw [h], by rw [h], fun hmem => ?_⟩
    rcases mem_cons.mp hmem with hfact | hmem
    · cases hfact
    · exact (planIdentityFacts_cases hplan).opens hmem
  | settled _ _ _ hfacts happly h =>
    refine ⟨_, _, (applyFacts_ok happly).1, by rw [h], by rw [h], fun hmem => ?_⟩
    cases settlementFacts_cases hfacts _ hmem

theorem step_tab (h : CallStep b b') (ht : b'.tabs[tabId]? = some t) :
    (∃ t₀, b.tabs[tabId]? = some t₀ ∧ t₀.contextId = t.contextId ∧ t₀.taskId = t.taskId ∧
        t₀.kind = t.kind) ∨
      tabId ∉ b.tabs ∧ MayOpen b t.contextId t.taskId t.kind := by
  obtain ⟨facts, mid, hfold, -, htabs, hopens⟩ := step_facts h
  have htab := foldlM_tab tabId hfold
  rw [← htabs, ht] at htab
  cases hfst : b.tabs[tabId]? with
  | none =>
    rw [hfst] at htab
    cases htab with
    | opened hmem => exact .inr ⟨not_mem_iff.mpr hfst, hopens hmem⟩
  | some t₀ =>
    rw [hfst] at htab
    cases htab with
    | same hctx htask hkind => exact .inl ⟨t₀, rfl, hctx.symm, htask.symm, hkind.symm⟩

theorem step_context (h : CallStep b b') (hc : b.contexts[id]? = some c) :
    ∃ c', b'.contexts[id]? = some c' ∧ c'.taskId = c.taskId ∧
      (c.closed = true → c'.closed = true) := by
  obtain ⟨facts, mid, hfold, hctxs, -⟩ := step_facts h
  rw [hctxs]
  refine foldlM_invariant (P := fun b : BrowserBook => ∃ c', b.contexts[id]? = some c' ∧
    c'.taskId = c.taskId ∧ (c.closed = true → c'.closed = true)) ?_ ⟨c, hc, rfl, fun h => h⟩ hfold
  rintro fact - s s' ⟨c₁, hc₁, htask, hclosed⟩ happend
  obtain ⟨c₂, hc₂, htask', hclosed'⟩ := applyFact_context happend hc₁
  exact ⟨c₂, hc₂, htask'.trans htask, fun h => hclosed' (hclosed h)⟩

end Facts

/-! ## Every run -/

section Runs

variable [Externals] (calls : List BookCall)

/-- The popup `tabId` was opened by one of the calls, and before that call its opener was an open
tab of the same context and task. -/
def OpenedFrom (tabId opener : BrowserTabId) (t : TabState) : Prop :=
  ∃ earlier c later, calls = earlier ++ c :: later ∧
    tabId ∉ (Calls.after call new earlier).tabs ∧
    tabId ∈ (Calls.after call new (earlier ++ [c])).tabs ∧
    ∃ parent, (Calls.after call new earlier).tabs[opener]? = some parent ∧
      parent.closed = false ∧ parent.contextId = t.contextId ∧ parent.taskId = t.taskId

theorem openedFrom_of_popup :
    ∀ {tabId opener : BrowserTabId} {t : TabState},
      (after call new calls).tabs[tabId]? = some t → t.kind = .popup opener →
        OpenedFrom calls tabId opener t := by
  induction calls using List.reverseRecOn with
  | nil =>
    intro tabId opener t ht
    simp [new] at ht
  | append_singleton calls c ih =>
    intro tabId opener t ht hkind
    have hstep := step_call (after call new calls) c
    rw [after_concat] at ht
    rcases step_tab hstep ht with ⟨t₀, ht₀, hctx, htask, hkind₀⟩ | ⟨hnew, hmay⟩
    · obtain ⟨earlier, d, later, rfl, hnew, hthere, hparent⟩ := ih ht₀ (hkind₀.trans hkind)
      rw [hctx, htask] at hparent
      exact ⟨earlier, d, later ++ [c], by simp, hnew, hthere, hparent⟩
    · refine ⟨calls, c, [], rfl, hnew, ?_, hmay.popup opener hkind⟩
      rw [after_concat]
      exact mem_iff_exists.mpr ⟨t, ht⟩

/-- A closed context is closed for good: whatever calls follow, it is there, of the same task and
closed, all its tabs are closed, and none of them was opened since. -/
theorem closed_context_final {id : BrowserContextId} {c : ContextState}
    (hc : (after call new calls).contexts[id]? = some c) (hclosed : c.closed = true)
    (later : List BookCall) :
    ∃ c', (after call new (calls ++ later)).contexts[id]? = some c' ∧
      c'.taskId = c.taskId ∧ c'.closed = true ∧
      ∀ (tabId : BrowserTabId) t, (after call new (calls ++ later)).tabs[tabId]? = some t →
        t.contextId = id → t.closed = true ∧ tabId ∈ (after call new calls).tabs := by
  have hsel : Selected (after call new (calls ++ later)) :=
    after_invariant new_selected (fun b c hb => step_selected hb (step_call b c)) _
  rw [after_append] at hsel ⊢
  obtain ⟨⟨c', hc', htask, hclosed'⟩, htabs⟩ := after_invariant (P := fun b : BrowserBook =>
      (∃ c', b.contexts[id]? = some c' ∧ c'.taskId = c.taskId ∧ c'.closed = true) ∧
        ∀ (tabId : BrowserTabId) t, b.tabs[tabId]? = some t → t.contextId = id →
          tabId ∈ (after call new calls).tabs)
    ⟨⟨c, hc, rfl, hclosed⟩, fun tabId t ht _ => mem_iff_exists.mpr ⟨t, ht⟩⟩
    (fun b call hb => by
      obtain ⟨⟨c₁, hc₁, htask, hclosed₁⟩, htabs⟩ := hb
      obtain ⟨c₂, hc₂, htask', hclosed₂⟩ := step_context (step_call b call) hc₁
      refine ⟨⟨c₂, hc₂, htask'.trans htask, hclosed₂ hclosed₁⟩, fun tabId t ht hin => ?_⟩
      rcases step_tab (step_call b call) ht with ⟨t₀, ht₀, hin₀, -⟩ | ⟨-, hmay⟩
      · exact htabs tabId t₀ ht₀ (hin₀.trans hin)
      · -- no tab is opened in a closed context
        obtain ⟨d, hd, hopen⟩ := hmay.context
        rw [hin, hc₁] at hd
        cases hd
        rw [hclosed₁] at hopen
        cases hopen) later
  exact ⟨c', hc', htask, hclosed', fun tabId t ht hin =>
    ⟨(hsel.closed id c' hc' hclosed').2 tabId t ht hin, htabs tabId t ht hin⟩⟩

def closingCalls : List BookCall :=
  [.openTask ⟨1⟩, .admitRequest (sampleRequest 0 1 .createContext), .closeTask ⟨1⟩]

omit [Externals] in
theorem closed_context_final_closing :
    ∃ c', (after (@call sampleExternals) new (closingCalls ++ [.openTask ⟨1⟩])).contexts[
      (⟨1⟩ : BrowserContextId)]? = some c' ∧ c'.closed = true := by
  have hany : ((after (@call sampleExternals) new closingCalls).contexts[
      (⟨1⟩ : BrowserContextId)]?).any (·.closed) = true := by decide +kernel
  obtain ⟨c, hc, hclosed⟩ := (any_eq_true _ _).mp hany
  obtain ⟨c', hc', -, hclosed', -⟩ :=
    @closed_context_final sampleExternals closingCalls ⟨1⟩ c hc hclosed [.openTask ⟨1⟩]
  exact ⟨c', hc', hclosed'⟩

/-- In every book that `open_task`, `close_task`, `admit` and `settle` make of an empty one, a
selected tab is an open tab of its context and task, a closed context has only closed tabs and
no selection, every tab is in a context of its task, contexts and open tabs are bounded, and
every popup was opened from an open tab of the same context. -/
theorem selection_invariant :
    Selected (after call new calls) ∧
      ∀ tabId opener t,
        (after call new calls).tabs[tabId]? = some t → t.kind = .popup opener →
          OpenedFrom calls tabId opener t := by
  constructor
  · exact after_invariant new_selected (fun b c hb => step_selected hb (step_call b c)) calls
  · intro tabId opener t ht hkind
    exact openedFrom_of_popup calls ht hkind

end Runs

end DevManager.BrowserBook
