import DevManager.Kernel.BookCalls

/-!
# What closing a task does to its browser book

`close_task` appends a fact for each open tab and context and applies the facts
one by one. On a book that is all one task's, the whole of it is a map over the
tabs and the contexts: what was open is closed, and a context loses its selection
if the selected tab was open in it.

* `foldlM_tabClosed`, `foldlM_contextClosed`: lists of closing facts as one map.
* `closeTask_ended`: `close_task` as one map.
-/

namespace DevManager.BrowserBook

open Std (ExtTreeMap)
open Std.ExtTreeMap (ext_getElem? getElem?_map map_map mem_toList_iff_getElem?_eq_some)

/-- Tabs with their contexts, and contexts, that are closed together. -/
structure Ended where
  tabs : List (BrowserTabId × BrowserContextId)
  contexts : List BrowserContextId

namespace Ended

def nothing : Ended := ⟨[], []⟩

def size (e : Ended) : ℕ := e.tabs.length + e.contexts.length

def append (e e' : Ended) : Ended := ⟨e.tabs ++ e'.tabs, e.contexts ++ e'.contexts⟩

/-- A context after they are closed. -/
def context (e : Ended) (id : BrowserContextId) (c : ContextState) : ContextState :=
  { c with
    closed := c.closed || decide (id ∈ e.contexts)
    selectedTabId := c.selectedTabId.filter fun tabId => decide ((tabId, id) ∉ e.tabs) }

/-- A tab after they are closed. -/
def tab (e : Ended) (id : BrowserTabId) (t : TabState) : TabState :=
  { t with closed := t.closed || decide ((id, t.contextId) ∈ e.tabs) }

variable {e e' : Ended}

theorem context_append (id) (c) :
    (e.append e').context id c = e'.context id (e.context id c) := by
  unfold context append
  simp only [List.mem_append, Option.filter_filter, Bool.or_assoc, Bool.decide_or, not_or,
    Bool.decide_and]

theorem tab_append (id : BrowserTabId) (t : TabState) :
    (e.append e').tab id t = e'.tab id (e.tab id t) := by
  unfold tab append
  simp only [List.mem_append, Bool.or_assoc, Bool.decide_or]

theorem size_append : (e.append e').size = e.size + e'.size := by
  unfold size append
  simp only [List.length_append]
  omega

theorem size_eq_zero : e.size = 0 ↔ e = nothing := by
  obtain ⟨tabs, contexts⟩ := e
  simp only [size, nothing, Nat.add_eq_zero_iff, List.length_eq_zero_iff, mk.injEq]

theorem context_of_not_mem {id : BrowserContextId} (hid : id ∉ e.contexts)
    (htabs : ∀ s, (s, id) ∉ e.tabs) (c : ContextState) : e.context id c = c := by
  obtain ⟨task, generation, selected, health, closed, permissions, artifacts, recipe,
    recording⟩ := c
  cases selected <;> simp [context, hid, htabs, Option.filter]

theorem tab_of_not_mem {id : BrowserTabId} {t} (h : (id, t.contextId) ∉ e.tabs) :
    e.tab id t = t := by
  obtain ⟨contextId, task, kind, url, closed⟩ := t
  simp [tab, h]

theorem context_closed {id : BrowserContextId} (hid : id ∈ e.contexts)
    (htabs : ∀ s, (s, id) ∉ e.tabs) (c : ContextState) :
    e.context id c = { c with closed := true } := by
  obtain ⟨task, generation, selected, health, closed, permissions, artifacts, recipe,
    recording⟩ := c
  cases selected <;> simp [context, hid, htabs, Option.filter]

theorem map_context_nothing (contexts : ExtTreeMap BrowserContextId ContextState) :
    contexts.map nothing.context = contexts := by
  refine ext_getElem? fun k => ?_
  rw [getElem?_map]
  cases contexts[k]? with
  | none => rfl
  | some c =>
    exact congrArg some (context_of_not_mem List.not_mem_nil (fun _ => List.not_mem_nil) c)

theorem map_tab_nothing (tabs : ExtTreeMap BrowserTabId TabState) :
    tabs.map nothing.tab = tabs := by
  refine ext_getElem? fun k => ?_
  rw [getElem?_map]
  cases tabs[k]? with
  | none => rfl
  | some => exact congrArg some (tab_of_not_mem List.not_mem_nil)

theorem context_congr (htabs : ∀ x, x ∈ e.tabs ↔ x ∈ e'.tabs)
    (hctxs : ∀ x, x ∈ e.contexts ↔ x ∈ e'.contexts) : e.context = e'.context := by
  funext id c
  simp only [context, htabs, hctxs]

theorem tab_congr (htabs : ∀ x, x ∈ e.tabs ↔ x ∈ e'.tabs) : e.tab = e'.tab := by
  funext id t
  simp only [tab, htabs]

end Ended

/-! ## Closing facts as a map -/

section Facts

variable [Externals] {b b' : BrowserBook} {taskId : TaskId}

theorem applyFact_tabClosed_eq {x : BrowserTabId × BrowserContextId} {t}
    (ht : b.tabs[x.1]? = some t) (hctx : t.contextId = x.2) :
    b.applyFact (.tabClosed x.1 x.2 taskId) = .ok { b with
      contexts := b.contexts.map (Ended.mk [x] []).context
      tabs := b.tabs.map (Ended.mk [x] []).tab
      facts := b.facts ++ [.tabClosed x.1 x.2 taskId] } := by
  rw [applyFact_tabClosed ht]
  have hctxs : b.contexts.modify x.2 (fun context =>
      if context.selectedTabId = some x.1 then { context with selectedTabId := none }
      else context) = b.contexts.map (Ended.mk [x] []).context := by
    refine ext_getElem? fun k => ?_
    rw [OrdMap.getElem?_modify_eq, getElem?_map]
    cases b.contexts[k]? with
    | none => simp
    | some c =>
      obtain ⟨id, contextId⟩ := x
      by_cases hk : contextId = k
      · subst hk
        rw [if_pos rfl]
        obtain ⟨task, generation, selected, health, closed, permissions, artifacts, recipe,
          recording⟩ := c
        cases selected with
        | none => simp [Ended.context]
        | some s =>
          by_cases hs : s = id
          · simp [Ended.context, hs, Option.filter]
          · simp [Ended.context, hs, Option.filter]
      · have hother : ∀ s, (s, k) ∉ (Ended.mk [(id, contextId)] []).tabs := by
          intro s hmem
          cases List.mem_singleton.mp hmem
          exact hk rfl
        rw [if_neg hk]
        exact congrArg some (Ended.context_of_not_mem List.not_mem_nil hother c).symm
  have htabs : b.tabs.insert x.1 { t with closed := true } = b.tabs.map (Ended.mk [x] []).tab := by
    refine ext_getElem? fun k => ?_
    rw [OrdMap.getElem?_insert_eq, getElem?_map]
    by_cases hk : x.1 = k
    · subst hk
      rw [if_pos rfl, ht]
      simp [Ended.tab, hctx]
    · rw [if_neg hk]
      cases b.tabs[k]? with
      | none => rfl
      | some u =>
        have hother : (k, u.contextId) ∉ (Ended.mk [x] []).tabs := by
          intro hmem
          cases List.mem_singleton.mp hmem
          exact hk rfl
        exact congrArg some (Ended.tab_of_not_mem hother).symm
  rw [hctxs, htabs]

theorem foldlM_tabClosed (tabs : List (BrowserTabId × BrowserContextId)) :
    ∀ {b : BrowserBook}, (∀ x ∈ tabs, ∃ t, b.tabs[x.1]? = some t ∧ t.contextId = x.2) →
      (tabs.map fun x => BrowserDurableFact.tabClosed x.1 x.2 taskId).foldlM applyFact b = .ok
        { b with
          contexts := b.contexts.map (Ended.mk tabs []).context
          tabs := b.tabs.map (Ended.mk tabs []).tab
          facts := b.facts ++ tabs.map fun x => .tabClosed x.1 x.2 taskId } := by
  induction tabs with
  | nil =>
    intro b _
    have hctxs : b.contexts.map (Ended.mk [] []).context = b.contexts :=
      Ended.map_context_nothing _
    have htabs : b.tabs.map (Ended.mk [] []).tab = b.tabs := Ended.map_tab_nothing _
    rw [hctxs, htabs, List.map_nil, List.append_nil]
    rfl
  | cons x tabs ih =>
    intro b hall
    obtain ⟨t, ht, hctx⟩ := hall x (.head _)
    rw [List.map_cons, foldlM_cons_ok]
    refine ⟨_, applyFact_tabClosed_eq ht hctx, ?_⟩
    rw [ih]
    · have hcons : Ended.mk (x :: tabs) [] = (Ended.mk [x] []).append (Ended.mk tabs []) := rfl
      rw [hcons]
      simp only [map_map, List.append_assoc, List.singleton_append]
      congr 2
      · congr 1
        funext id c
        exact (Ended.context_append id c).symm
      · congr 1
        funext id t
        exact (Ended.tab_append id t).symm
    · intro y hy
      obtain ⟨u, hu, hctx⟩ := hall y (.tail _ hy)
      refine ⟨(Ended.mk [x] []).tab y.1 u, ?_, hctx⟩
      rw [getElem?_map, hu]
      rfl

theorem applyFact_contextClosed_eq {x : BrowserContextId × ℕ} {c}
    (hc : b.contexts[x.1]? = some c) (htask : c.taskId = taskId)
    (htabs : ∀ (id : BrowserTabId) t, b.tabs[id]? = some t → t.closed = true) :
    b.applyFact (.contextClosed x.1 taskId x.2) = .ok { b with
      contexts := b.contexts.map (Ended.mk [] [x.1]).context
      facts := b.facts ++ [.contextClosed x.1 taskId x.2] } := by
  subst htask
  rw [applyFact_contextClosed hc]
  have hctxs : b.contexts.insert x.1 { c with closed := true } =
      b.contexts.map (Ended.mk [] [x.1]).context := by
    refine ext_getElem? fun k => ?_
    rw [OrdMap.getElem?_insert_eq, getElem?_map]
    by_cases hk : x.1 = k
    · subst hk
      rw [if_pos rfl, hc]
      exact congrArg some (Ended.context_closed (List.mem_singleton.mpr rfl)
        (fun _ => List.not_mem_nil) c).symm
    · rw [if_neg hk]
      cases b.contexts[k]? with
      | none => rfl
      | some d =>
        have hother : k ∉ (Ended.mk [] [x.1]).contexts := by
          intro hmem
          exact hk (List.mem_singleton.mp hmem).symm
        exact congrArg some (Ended.context_of_not_mem hother (fun _ => List.not_mem_nil) d).symm
  -- the tabs of the context are closed already
  have hkept : closeTabsOf b.tabs x.1 = b.tabs := by
    refine ext_getElem? fun k => ?_
    rw [getElem?_closeTabsOf]
    cases ht : b.tabs[k]? with
    | none => rfl
    | some t =>
      have hclosed := htabs k t ht
      obtain ⟨contextId, task, kind, url, closed⟩ := t
      cases hclosed
      simp
  rw [hctxs, hkept]

theorem foldlM_contextClosed (contexts : List (BrowserContextId × ℕ)) :
    ∀ {b : BrowserBook}, (∀ x ∈ contexts, ∃ c, b.contexts[x.1]? = some c ∧ c.taskId = taskId) →
      (∀ (id : BrowserTabId) t, b.tabs[id]? = some t → t.closed = true) →
      (contexts.map fun x => BrowserDurableFact.contextClosed x.1 taskId x.2).foldlM applyFact b =
        .ok { b with
          contexts := b.contexts.map (Ended.mk [] (contexts.map Prod.fst)).context
          facts := b.facts ++ contexts.map fun x => .contextClosed x.1 taskId x.2 } := by
  induction contexts with
  | nil =>
    intro b _ _
    have hctxs : b.contexts.map (Ended.mk [] []).context = b.contexts :=
      Ended.map_context_nothing _
    rw [List.map_nil, List.map_nil, hctxs, List.append_nil]
    rfl
  | cons x contexts ih =>
    intro b hall htabs
    obtain ⟨c, hc, htask⟩ := hall x (.head _)
    rw [List.map_cons, foldlM_cons_ok]
    refine ⟨_, applyFact_contextClosed_eq hc htask htabs, ?_⟩
    rw [ih ?_ (by exact htabs)]
    · have hcons : Ended.mk [] ((x :: contexts).map Prod.fst) =
          (Ended.mk [] [x.1]).append (Ended.mk [] (contexts.map Prod.fst)) := rfl
      rw [hcons]
      simp only [map_map, List.append_assoc, List.singleton_append]
      congr 2
      congr 1
      funext id c
      exact (Ended.context_append id c).symm
    · intro y hy
      obtain ⟨d, hd, htask⟩ := hall y (.tail _ hy)
      refine ⟨(Ended.mk [] [x.1]).context y.1 d, ?_, htask⟩
      rw [getElem?_map, hd]
      rfl

/-! ## `close_task` as a map -/

variable (b)

/-- The open tabs of a book, with their contexts. -/
def openTabs : List (BrowserTabId × BrowserContextId) :=
  (b.tabs.toList.filter fun e => !e.2.closed).map fun e => (e.1, e.2.contextId)

/-- The open contexts of a book, with their generations. -/
def openContexts : List (BrowserContextId × ℕ) :=
  (b.contexts.toList.filter fun e => !e.2.closed).map fun e => (e.1, e.2.generation)

/-- What closing the task closes in a book that is all the task's. -/
def ended : Ended := ⟨b.openTabs, b.openContexts.map Prod.fst⟩

variable {b}

omit [Externals]

theorem mem_openTabs {x} :
    x ∈ b.openTabs ↔ ∃ t, b.tabs[x.1]? = some t ∧ t.closed = false ∧ t.contextId = x.2 := by
  unfold openTabs
  simp only [List.mem_map, List.mem_filter, Bool.not_eq_true']
  constructor
  · rintro ⟨⟨id, t⟩, ⟨hmem, hopen⟩, rfl⟩
    exact ⟨t, mem_toList_iff_getElem?_eq_some.mp hmem, hopen, rfl⟩
  · rintro ⟨t, hget, hopen, hctx⟩
    refine ⟨(x.1, t), ⟨mem_toList_iff_getElem?_eq_some.mpr hget, hopen⟩, ?_⟩
    exact Prod.ext rfl hctx

theorem mem_openContexts {x} :
    x ∈ b.openContexts ↔ ∃ c, b.contexts[x.1]? = some c ∧ c.closed = false ∧
      c.generation = x.2 := by
  unfold openContexts
  simp only [List.mem_map, List.mem_filter, Bool.not_eq_true']
  constructor
  · rintro ⟨⟨id, c⟩, ⟨hmem, hopen⟩, rfl⟩
    exact ⟨c, mem_toList_iff_getElem?_eq_some.mp hmem, hopen, rfl⟩
  · rintro ⟨c, hget, hopen, hgen⟩
    refine ⟨(x.1, c), ⟨mem_toList_iff_getElem?_eq_some.mpr hget, hopen⟩, ?_⟩
    exact Prod.ext rfl hgen

theorem mem_ended_contexts {id} :
    id ∈ b.ended.contexts ↔ ∃ c, b.contexts[id]? = some c ∧ c.closed = false := by
  unfold ended
  simp only [List.mem_map, mem_openContexts]
  constructor
  · rintro ⟨⟨k, g⟩, ⟨c, hget, hopen, -⟩, rfl⟩
    exact ⟨c, hget, hopen⟩
  · rintro ⟨c, hget, hopen⟩
    exact ⟨(id, c.generation), ⟨c, hget, hopen, rfl⟩, rfl⟩

theorem nodup_openTabs : b.openTabs.Nodup := by
  refine List.Nodup.map_on ?_ ((OrdMap.nodup_toList b.tabs).filter _)
  rintro ⟨id, t⟩ ht ⟨k, u⟩ hu heq
  have hget := mem_toList_iff_getElem?_eq_some.mp (List.mem_filter.mp ht).1
  have hget' := mem_toList_iff_getElem?_eq_some.mp (List.mem_filter.mp hu).1
  simp only [Prod.mk.injEq] at heq hget hget'
  obtain ⟨rfl, -⟩ := heq
  rw [hget] at hget'
  cases hget'
  rfl

theorem nodup_ended_contexts : b.ended.contexts.Nodup := by
  unfold ended openContexts
  rw [List.map_map]
  refine List.Nodup.map_on ?_ ((OrdMap.nodup_toList b.contexts).filter _)
  rintro ⟨id, t⟩ ht ⟨k, u⟩ hu heq
  have hget := mem_toList_iff_getElem?_eq_some.mp (List.mem_filter.mp ht).1
  have hget' := mem_toList_iff_getElem?_eq_some.mp (List.mem_filter.mp hu).1
  simp only [Function.comp_apply] at heq hget hget'
  subst heq
  rw [hget] at hget'
  cases hget'
  rfl

theorem planCloseTask_eq (howned : Owned b taskId) :
    b.planCloseTask taskId = (b.openTabs.map fun x => .tabClosed x.1 x.2 taskId) ++
        b.openContexts.map fun x => .contextClosed x.1 taskId x.2 := by
  unfold planCloseTask openTabs openContexts
  rw [List.map_map, List.map_map, ← List.filterMap_eq_map, List.filterMap_filter,
    ← List.filterMap_eq_map, List.filterMap_filter]
  congr 1
  · refine List.filterMap_congr fun ⟨id, t⟩ hmem => ?_
    have htask := howned.tabs id t (mem_toList_iff_getElem?_eq_some.mp hmem)
    cases hclosed : t.closed <;> simp [htask, hclosed]
  · refine List.filterMap_congr fun ⟨id, c⟩ hmem => ?_
    have htask := howned.contexts id c (mem_toList_iff_getElem?_eq_some.mp hmem)
    cases hclosed : c.closed <;> simp [htask, hclosed]

theorem length_planCloseTask_ended (howned : Owned b taskId) :
    (b.planCloseTask taskId).length = b.ended.size := by
  rw [planCloseTask_eq howned]
  simp [Ended.size, ended]

theorem closeTask_ended [Externals] (howned : Owned b taskId) (h : b.closeTask taskId = .ok b') :
    b' = { b with
      contexts := b.contexts.map b.ended.context
      tabs := b.tabs.map b.ended.tab
      facts := b.facts ++ b.planCloseTask taskId
      openTasks := b.openTasks.erase taskId } := by
  obtain ⟨-, -, mid, hmid, rfl⟩ := closeTask_eq_ok.mp h
  rw [planCloseTask_eq howned] at hmid ⊢
  rw [List.foldlM_append] at hmid
  have htabs := @foldlM_tabClosed _ taskId b.openTabs b fun x hx => by
    obtain ⟨t, ht, -, hctx⟩ := mem_openTabs.mp hx
    exact ⟨t, ht, hctx⟩
  rw [htabs, ok_bind, foldlM_contextClosed] at hmid
  · cases hmid
    have happend : b.ended = (Ended.mk b.openTabs []).append
        (Ended.mk [] (b.openContexts.map Prod.fst)) := by
      simp [Ended.append, ended]
    have hctxs : (fun id c => (Ended.mk [] (b.openContexts.map Prod.fst)).context id
        ((Ended.mk b.openTabs []).context id c)) = b.ended.context := by
      funext id c
      rw [happend, Ended.context_append]
    have htab : (Ended.mk b.openTabs []).tab = b.ended.tab := Ended.tab_congr fun _ => .rfl
    simp only [map_map, hctxs, htab, List.append_assoc]
  · intro x hx
    obtain ⟨c, hc, -⟩ := mem_openContexts.mp hx
    refine ⟨(Ended.mk b.openTabs []).context x.1 c, ?_, howned.contexts x.1 c hc⟩
    rw [getElem?_map, hc]
    rfl
  · intro id t ht
    rw [getElem?_map] at ht
    obtain ⟨u, hu, rfl⟩ := Option.map_eq_some_iff.mp ht
    cases hclosed : u.closed with
    | true => simp [Ended.tab, hclosed]
    | false =>
      have hmem : (id, u.contextId) ∈ b.openTabs := mem_openTabs.mpr ⟨u, hu, hclosed, rfl⟩
      simp [Ended.tab, hmem]

end Facts

end DevManager.BrowserBook
