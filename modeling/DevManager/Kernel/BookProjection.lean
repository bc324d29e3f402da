import DevManager.Kernel.Selection

/-!
# Projecting a browser book (`src/domain/browser.rs`)

A client builds a book of its own from the views of contexts and tabs that it
is sent. `project_context_view` and `project_tab_view` check the bounds of the
whole maps. Admission counts the open tabs of the book only, and a closed tab
stays in it, so that a book can hold more tabs than a projection takes.

* `project_contexts`: the contexts of a book can always be projected.
* `project_tabs_iff`: its tabs can be iff there are at most as many as the bound, open or closed.
-/

namespace DevManager

open Std (ExtTreeMap ExtTreeSet)
open OrdMap Std.ExtTreeMap

/-- The state that `project_context_view` inserts (L1060-1073). -/
def BrowserContextView.state (view : BrowserContextView) : ContextState :=
  { view with }

/-- The state that `project_tab_view` inserts (L1091-1100). -/
def BrowserTabView.state (view : BrowserTabView) : TabState :=
  { view with }

namespace BrowserBook

/-- `project_context_view`, L1049-1075 -/
def projectContextView (book : BrowserBook) (view : BrowserContextView) :
    Except BrowserContractError BrowserBook := do
  let book ← book.openTask view.taskId
  failIf (view.contextId ∈ book.contexts) .invalidRequest
  failIf (book.contexts.size ≥ maxBrowserContexts) .boundExceeded
  pure (book.setContext view.contextId view.state)

/-- `project_tab_view`, L1077-1102 -/
def projectTabView (book : BrowserBook) (view : BrowserTabView) :
    Except BrowserContractError BrowserBook := do
  let book ← book.openTask view.taskId
  let context ← okOr book.contexts[view.contextId]? .invalidRequest
  failIf (context.taskId ≠ view.taskId ∨ view.tabId ∈ book.tabs) .invalidRequest
  failIf (book.tabs.size ≥ maxBrowserTabs) .boundExceeded
  pure { book with tabs := book.tabs.insert view.tabId view.state }

/-- Every context view and then every tab view of a snapshot, projected into a fresh book. -/
def projectSnapshot (snapshot : BrowserIdentitySnapshot) :
    Except BrowserContractError BrowserBook := do
  let book ← snapshot.contexts.foldlM projectContextView new
  snapshot.tabs.foldlM projectTabView book

variable {b b' : BrowserBook}

/-! ## Contexts -/

theorem projectContextView_ok {view} (hnew : view.contextId ∉ b.contexts)
    (hroom : b.contexts.size < maxBrowserContexts) (htasks : b.openTasks.size ≤ b.contexts.size) :
    ∃ b', b.projectContextView view = .ok b' ∧
      b'.contexts = b.contexts.insert view.contextId view.state ∧ b'.tabs = b.tabs ∧
      b'.openTasks.size ≤ b'.contexts.size ∧ view.taskId ∈ b'.openTasks ∧
      ∀ taskId ∈ b.openTasks, taskId ∈ b'.openTasks := by
  have hsize : (b.contexts.insert view.contextId view.state).size = b.contexts.size + 1 :=
    size_insert_new hnew
  by_cases hopen : view.taskId ∈ b.openTasks
  · have hok : b.openTask view.taskId = .ok b := if_pos hopen
    refine ⟨b.setContext view.contextId view.state, ?_, rfl, rfl, ?_, hopen, fun _ h => h⟩
    · simp only [projectContextView, ok_iff]
      exact ⟨b, hok, hnew, by omega, rfl⟩
    · show b.openTasks.size ≤ (b.contexts.insert view.contextId view.state).size
      omega
  · have hbound : b.openTasks.size < maxBrowserOpenTasks := lt_of_le_of_lt htasks hroom
    have hok : b.openTask view.taskId =
        .ok { b with openTasks := b.openTasks.insert view.taskId } := by
      rw [openTask, if_neg hopen, bind_eq_ok]
      exact ⟨(), by simpa using hbound, rfl⟩
    refine ⟨{ b with openTasks := b.openTasks.insert view.taskId }.setContext view.contextId
      view.state, ?_, rfl, rfl, ?_, ?_, fun taskId h => ?_⟩
    · simp only [projectContextView, ok_iff]
      exact ⟨_, hok, hnew, by simpa using hroom, rfl⟩
    · show (b.openTasks.insert view.taskId).size ≤
        (b.contexts.insert view.contextId view.state).size
      have hle := ExtTreeSet.size_insert_le (t := b.openTasks) (k := view.taskId)
      omega
    · exact mem_insertSet_iff.mpr (.inl rfl)
    · exact mem_insertSet_iff.mpr (.inr h)

theorem project_contexts {entries} :
    ∀ {b : BrowserBook}, entries.Pairwise (fun a b => a.1 ≠ b.1) →
      (∀ e ∈ entries, e.1 ∉ b.contexts) →
      b.contexts.size + entries.length ≤ maxBrowserContexts →
      b.openTasks.size ≤ b.contexts.size →
      ∃ b', (entries.map fun (id, context) => context.view id).foldlM projectContextView b =
          .ok b' ∧
        b'.contexts = insertAll b.contexts entries ∧ b'.tabs = b.tabs ∧
        (∀ e ∈ entries, e.2.taskId ∈ b'.openTasks) ∧
        ∀ taskId ∈ b.openTasks, taskId ∈ b'.openTasks := by
  induction entries with
  | nil =>
    intro b _ _ _ _
    exact ⟨b, rfl, rfl, rfl, by simp, fun _ h => h⟩
  | cons entry entries ih =>
    intro b hdist hnew hroom htasks
    obtain ⟨id, context⟩ := entry
    obtain ⟨hfst, hrest⟩ := List.pairwise_cons.mp hdist
    rw [List.length_cons] at hroom
    have hid : id ∉ b.contexts := hnew (id, context) (.head _)
    obtain ⟨mid, hmid, hctxs, htabs, hmidTasks, hopen, hkept⟩ :=
      @projectContextView_ok b (context.view id) hid (by omega) htasks
    have hctxs' : mid.contexts = b.contexts.insert id context := hctxs
    have hsize : mid.contexts.size = b.contexts.size + 1 := by
      rw [hctxs', size_insert_new hid]
    have hne' : ∀ e ∈ entries, e.1 ∉ mid.contexts := by
      intro e he hmem
      rw [hctxs', mem_insert_iff] at hmem
      rcases hmem with heq | hmem
      · exact hfst e he heq.symm
      · exact hnew e (.tail _ he) hmem
    obtain ⟨b', hfold, hall, htabs', hopened, hkept'⟩ := ih hrest hne' (by omega) hmidTasks
    refine ⟨b', foldlM_cons_ok.mpr ⟨mid, hmid, hfold⟩, ?_, htabs'.trans htabs, ?_, ?_⟩
    · rw [hall, hctxs', insertAll_cons]
    · intro e he
      rcases List.mem_cons.mp he with rfl | he
      · exact hkept' _ hopen
      · exact hopened e he
    · intro taskId htask
      exact hkept' _ (hkept _ htask)

/-! ## Tabs -/

theorem projectTabView_eq_ok {view context}
    (hopen : view.taskId ∈ b.openTasks) (hctx : b.contexts[view.contextId]? = some context)
    (howner : context.taskId = view.taskId) (hnew : view.tabId ∉ b.tabs) :
    b.projectTabView view = .ok b' ↔ b.tabs.size < maxBrowserTabs ∧
      b' = { b with tabs := b.tabs.insert view.tabId view.state } := by
  have hok : b.openTask view.taskId = .ok b := if_pos hopen
  simp only [projectTabView, hok, ok_bind, ok_iff, hctx, Option.some.injEq, exists_eq_left',
    howner, hnew, or_false, true_and, ge_iff_le, not_le]

theorem project_tabs_iff {entries} :
    ∀ {b : BrowserBook}, entries.Pairwise (fun a b => a.1 ≠ b.1) →
      (∀ e ∈ entries, e.1 ∉ b.tabs) →
      (∀ e ∈ entries, e.2.taskId ∈ b.openTasks ∧
        ∃ c, b.contexts[e.2.contextId]? = some c ∧ c.taskId = e.2.taskId) →
      b.tabs.size ≤ maxBrowserTabs →
      ∀ b', (entries.map fun (id, tab) => tab.view id).foldlM projectTabView b = .ok b' ↔
        b.tabs.size + entries.length ≤ maxBrowserTabs ∧
          b' = { b with tabs := insertAll b.tabs entries } := by
  induction entries with
  | nil =>
    intro b _ _ _ hsize b'
    constructor
    · intro h
      cases h
      exact ⟨hsize, rfl⟩
    · rintro ⟨-, rfl⟩
      rfl
  | cons entry entries ih =>
    intro b hdist hnew howned hsize b'
    obtain ⟨id, tab⟩ := entry
    obtain ⟨hfst, hrest⟩ := List.pairwise_cons.mp hdist
    have hid : id ∉ b.tabs := hnew (id, tab) (.head _)
    obtain ⟨hopen, context, hctx, howner⟩ := howned (id, tab) (.head _)
    have hone : ∀ mid, b.projectTabView (tab.view id) = .ok mid ↔
        b.tabs.size < maxBrowserTabs ∧ mid = { b with tabs := b.tabs.insert id tab } :=
      fun mid => @projectTabView_eq_ok b mid (tab.view id) _ hopen hctx howner hid
    have hgrown : (b.tabs.insert id tab).size = b.tabs.size + 1 := size_insert_new hid
    have hne' : ∀ e ∈ entries, e.1 ∉ b.tabs.insert id tab := by
      intro e he hmem
      rw [mem_insert_iff] at hmem
      rcases hmem with heq | hmem
      · exact hfst e he heq.symm
      · exact hnew e (.tail _ he) hmem
    have howns' := fun e (he : e ∈ entries) => howned e (.tail _ he)
    rw [List.map_cons, foldlM_cons_ok, List.length_cons]
    constructor
    · rintro ⟨mid, hmid, hfold⟩
      obtain ⟨hroom, rfl⟩ := (hone mid).mp hmid
      obtain ⟨hfits, hb'⟩ := (ih (b := { b with tabs := b.tabs.insert id tab }) hrest hne'
        howns' (by show (b.tabs.insert id tab).size ≤ _; omega) b').mp hfold
      refine ⟨?_, hb'⟩
      have hfits' : (b.tabs.insert id tab).size + entries.length ≤ maxBrowserTabs := hfits
      omega
    · rintro ⟨hfits, hb'⟩
      refine ⟨_, (hone _).mpr ⟨by omega, rfl⟩, ?_⟩
      refine (ih (b := { b with tabs := b.tabs.insert id tab }) hrest hne' howns'
        (by show (b.tabs.insert id tab).size ≤ _; omega) b').mpr ⟨?_, hb'⟩
      show (b.tabs.insert id tab).size + entries.length ≤ maxBrowserTabs
      omega

/-! ## Every run -/

theorem project_of_selected (hb : Selected b) :
    (∃ r, projectSnapshot b.identitySnapshot = .ok r ∧ r.identitySnapshot = b.identitySnapshot) ↔
      b.tabs.size ≤ maxBrowserTabs := by
  have hctxs : (new.contexts : ExtTreeMap BrowserContextId ContextState).size +
      b.contexts.toList.length ≤ maxBrowserContexts := by
    rw [length_toList]
    have hnil : (new.contexts : ExtTreeMap BrowserContextId ContextState).size = 0 := rfl
    have hle := hb.contexts_le
    omega
  obtain ⟨mid, hmid, hcontexts, htabs, hopened, -⟩ :=
    project_contexts (b := new) (distinct_toList b.contexts) (by simp [new]) hctxs
      (Nat.le_refl _)
  have hctxs' : mid.contexts = b.contexts := by
    rw [hcontexts]
    exact insertAll_toList b.contexts
  have htabs' : mid.tabs = ∅ := htabs
  have howned : ∀ e ∈ b.tabs.toList, e.2.taskId ∈ mid.openTasks ∧
      ∃ c, mid.contexts[e.2.contextId]? = some c ∧ c.taskId = e.2.taskId := by
    rintro ⟨id, tab⟩ he
    obtain ⟨c, hc, htask⟩ := hb.owned id tab (mem_toList_iff_getElem?_eq_some.mp he)
    have hopen := hopened (tab.contextId, c) (mem_toList_iff_getElem?_eq_some.mpr hc)
    exact ⟨htask ▸ hopen, c, hctxs' ▸ hc, htask⟩
  have hiff := project_tabs_iff (b := mid) (distinct_toList b.tabs) (by simp [htabs'])
    howned (by simp [htabs'])
  have hfits : mid.tabs.size + b.tabs.toList.length ≤ maxBrowserTabs ↔
      b.tabs.size ≤ maxBrowserTabs := by
    rw [length_toList, htabs', size_empty, Nat.zero_add]
  have hproj : projectSnapshot b.identitySnapshot =
      (b.identitySnapshot.tabs.foldlM projectTabView mid) := by
    rw [projectSnapshot]
    show (List.foldlM projectContextView new _ >>= _) = _
    rw [identitySnapshot, hmid, ok_bind]
  constructor
  · rintro ⟨r, hr, -⟩
    rw [hproj] at hr
    exact hfits.mp ((hiff r).mp hr).1
  · intro hle
    have hr := (hiff { mid with tabs := insertAll mid.tabs b.tabs.toList }).mpr
      ⟨hfits.mpr hle, rfl⟩
    refine ⟨_, hproj.trans hr, ?_⟩
    simp only [identitySnapshot, hctxs', htabs', insertAll_toList]

/-- Lossless projection. After every list of `open_task`, `close_task`, `admit` and `settle` calls
the identity snapshot of the book projects to a book with the same snapshot iff the book has at
most `MAX_BROWSER_TABS` tabs, the closed ones counted. -/
theorem projection_lossless_iff [Externals] (calls : List BookCall) :
    (∃ r, projectSnapshot (Calls.after call new calls).identitySnapshot = .ok r ∧
        r.identitySnapshot = (Calls.after call new calls).identitySnapshot) ↔
      (Calls.after call new calls).tabs.size ≤ maxBrowserTabs := by
  refine project_of_selected ?_
  exact Calls.after_invariant (P := Selected) new_selected
    (fun b c hb => step_selected hb (step_call b c)) calls

/-! ## A tab opened and closed again and again -/

def tabRequest (request tab : ℕ) (action : BrowserAction) : BrowserRequest where
  requestId := ⟨request⟩
  taskId := ⟨1⟩
  contextId := ⟨1⟩
  tabId := some ⟨tab⟩
  generation := 1
  action := action

def openAndClose (n : ℕ) : List BookCall :=
  [.openTask ⟨1⟩, .admitRequest { tabRequest 0 0 .createContext with tabId := none }] ++
    (List.range n).flatMap fun i =>
      [.admitRequest (tabRequest (2 * i + 1) i (.openTab "about:blank" .page)),
        .admitRequest (tabRequest (2 * i + 2) i .closeTab)]

section Sample

attribute [local instance] sampleExternals

/-- All calls are accepted and at most one tab is open at a time, but the 33rd tab is one too many
for the projection. -/
theorem projection_of_closed_tabs :
    (∀ entry ∈ Calls.trace call new (openAndClose 33), entry.2 = .ok ()) ∧
      (Calls.after call new (openAndClose 33)).tabs.size = 33 ∧
      projectSnapshot (Calls.after call new (openAndClose 33)).identitySnapshot =
        .error .boundExceeded := by
  decide +kernel

end Sample

end BrowserBook

end DevManager
