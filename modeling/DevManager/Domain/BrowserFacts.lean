import DevManager.Domain.Browser

/-!
# Applying browser facts

What one fact does to a book, and what lists of closing facts do. `close_task` and
`CloseContext` append one fact for each open tab and context. Such a list is
applied as a whole, whatever its order: a closing fact only ever turns `closed`
flags on, so it invalidates no later one.

* `applyFact_frame`: a fact is appended to the journal, keeps the open tasks and
  keeps every receipt there is.
* `applyFact_owned`: the facts of a task keep a book whose contexts and tabs are
  all that task's.
* `foldlM_applyFact_closing`: a list of closing facts of existing tabs and
  contexts is applied in full, and closes what it names.
* `closeTask_isOk`: `close_task` succeeds iff the task is open in the book and its
  closing facts fit into the journal.
* `closeTask_closes`: after `close_task` every tab and context of the task is
  closed.
-/

namespace DevManager.BrowserBook

open Std (ExtTreeMap)
open List OrdMap.Related Option

variable {b b' b'' : BrowserBook}

/-! ## One fact -/

/-- Every context and every tab of the book belongs to the task. -/
structure Owned (b : BrowserBook) (taskId : TaskId) : Prop where
  contexts : ∀ (id : BrowserContextId) (c : ContextState), b.contexts[id]? = some c →
    c.taskId = taskId
  tabs : ∀ (id : BrowserTabId) t, b.tabs[id]? = some t → t.taskId = taskId

@[simp] theorem getElem?_closeTabsOf (tabs)
    (contextId) (id : BrowserTabId) :
    (closeTabsOf tabs contextId)[id]? = tabs[id]?.map fun tab =>
      if tab.contextId = contextId then { tab with closed := true } else tab := by
  unfold closeTabsOf
  rw [ExtTreeMap.getElem?_map]

section Fact

variable [Externals] {fact : BrowserDurableFact}

theorem applyFact_eq_ok :
    b.applyFact fact = .ok b' ↔
      ∃ mid, b.projectFact fact = .ok mid ∧ b' = { mid with facts := mid.facts ++ [fact] } := by
  unfold applyFact
  simp only [ok_iff]

/-- The receipts after a fact: `RequestAccepted` adds one if there is none. -/
def receiptsAfter (b : BrowserBook) : BrowserDurableFact →
    ExtTreeMap BrowserRequestId StoredReceipt
  | .requestAccepted fact => b.receipts.insertIfNew fact.requestId (receiptOfFact fact)
  | _ => b.receipts

omit [Externals] in
theorem receiptsAfter_getElem? {id : BrowserRequestId} {stored}
    (h : (b.receiptsAfter fact)[id]? = some stored) :
    b.receipts[id]? = some stored ∨
      ∃ accepted, fact = .requestAccepted accepted ∧ stored = receiptOfFact accepted := by
  cases fact with
  | requestAccepted accepted =>
    simp only [receiptsAfter, ExtTreeMap.getElem?_insertIfNew] at h
    split_ifs at h
    · exact .inr ⟨accepted, rfl, (some.inj h).symm⟩
    · exact .inl h
  | _ => exact .inl h

theorem applyFact_frame (h : b.applyFact fact = .ok b') :
    b'.facts = b.facts ++ [fact] ∧ b'.openTasks = b.openTasks ∧ b'.ready = b.ready ∧
      b'.receipts = b.receiptsAfter fact := by
  obtain ⟨mid, hmid, rfl⟩ := applyFact_eq_ok.mp h
  have hframe : mid.facts = b.facts ∧ mid.openTasks = b.openTasks ∧ mid.ready = b.ready ∧
      mid.receipts = b.receiptsAfter fact := by
    cases fact <;>
      simp only [projectFact, projectRequestAccepted, ownedContext, setContext, receiptsAfter,
        ok_iff] at hmid ⊢ <;>
      grind
  exact ⟨by rw [← hframe.1], hframe.2⟩

theorem applyFact_owned {taskId : TaskId} (htask : fact.taskId = taskId) (howned : Owned b taskId)
    (h : b.applyFact fact = .ok b') : Owned b' taskId := by
  obtain ⟨mid, hmid, rfl⟩ := applyFact_eq_ok.mp h
  obtain ⟨hctxs, htabs⟩ := howned
  suffices hs : Owned mid taskId from ⟨hs.contexts, hs.tabs⟩
  cases fact <;>
    simp only [projectFact, projectRequestAccepted, ownedContext, setContext, ok_iff] at hmid <;>
    constructor <;> intro id x hx <;>
    grind [OrdMap.getElem?_insert_eq, OrdMap.getElem?_modify_eq, getElem?_closeTabsOf,
      BrowserDurableFact.taskId]

/-- The book takes a `RequestAccepted` fact of the request: the context it names has its owner and
its generation, or there is no such context and the task is open. -/
def Admits (b : BrowserBook) (taskId : TaskId) (contextId : BrowserContextId) (generation : ℕ) :
    Prop :=
  match b.contexts[contextId]? with
  | some c => c.taskId = taskId ∧ c.generation = generation
  | none => taskId ∈ b.openTasks

omit [Externals] in
theorem projectRequestAccepted_eq_ok {fact : RequestAcceptedFact} :
    b.projectRequestAccepted fact = .ok b' ↔
      b.Admits fact.taskId fact.contextId fact.generation ∧
        b' = { b with
          receipts := b.receipts.insertIfNew fact.requestId (receiptOfFact fact) } := by
  unfold projectRequestAccepted Admits
  cases b.contexts[fact.contextId]? with
  | some c =>
    simp only [ok_iff, map_some, some_or, some.injEq, exists_eq_left']
    tauto
  | none =>
    simp only [ok_iff, map_none, none_or, true_and]
    constructor
    · rintro ⟨owner, howner, -, rfl⟩
      split_ifs at howner with hopen
      exact ⟨hopen, rfl⟩
    · rintro ⟨hopen, rfl⟩
      exact ⟨fact.taskId, if_pos hopen, rfl, rfl⟩

theorem applyFact_requestAccepted {fact : RequestAcceptedFact} :
    b.applyFact (.requestAccepted fact) = .ok b' ↔
      b.Admits fact.taskId fact.contextId fact.generation ∧
        b' = { b with
          receipts := b.receipts.insertIfNew fact.requestId (receiptOfFact fact)
          facts := b.facts ++ [.requestAccepted fact] } := by
  rw [applyFact_eq_ok]
  simp only [projectFact, projectRequestAccepted_eq_ok]
  constructor
  · rintro ⟨_, ⟨hadmits, rfl⟩, rfl⟩
    exact ⟨hadmits, rfl⟩
  · rintro ⟨hadmits, rfl⟩
    exact ⟨_, ⟨hadmits, rfl⟩, rfl⟩

theorem planAdmit_replay {request : BrowserRequest} {prior}
    (hready : b.ready = true) (hprior : b.receipts[request.requestId]? = some prior)
    (hreq : prior.request = request) : b.planAdmit request = .ok (replayOf prior.accepted) := by
  unfold planAdmit failIf
  rw [if_neg (by simp [hready]), hprior]
  exact if_pos hreq

end Fact

/-! ## Books that differ in `closed` flags and selections -/

/-- A context after closing facts: the same owner and generation, and closed if it was. -/
structure ContextCloses (c c' : ContextState) : Prop where
  task : c'.taskId = c.taskId
  generation : c'.generation = c.generation
  closed : c.closed = true → c'.closed = true

/-- A tab after closing facts. -/
structure TabCloses (t t' : TabState) : Prop where
  task : t'.taskId = t.taskId
  context : t'.contextId = t.contextId
  closed : t.closed = true → t'.closed = true

/-- The book after closing facts: the same keys, owners and generations, and `closed` flags only
turned on. -/
structure Closes (b b' : BrowserBook) : Prop where
  ready : b'.ready = b.ready
  openTasks : b'.openTasks = b.openTasks
  receipts : b'.receipts = b.receipts
  contexts : ∀ id : BrowserContextId, (b.contexts[id]? = none ∧ b'.contexts[id]? = none) ∨
    ∃ c c', b.contexts[id]? = some c ∧ b'.contexts[id]? = some c' ∧ ContextCloses c c'
  tabs : ∀ id : BrowserTabId, (b.tabs[id]? = none ∧ b'.tabs[id]? = none) ∨
    ∃ t t', b.tabs[id]? = some t ∧ b'.tabs[id]? = some t' ∧ TabCloses t t'

theorem Closes.refl (b) : Closes b b where
  ready := rfl
  openTasks := rfl
  receipts := rfl
  contexts id := by
    cases h : b.contexts[id]? with
    | none => exact .inl ⟨rfl, rfl⟩
    | some c => exact .inr ⟨c, c, rfl, rfl, rfl, rfl, fun h => h⟩
  tabs id := by
    cases h : b.tabs[id]? with
    | none => exact .inl ⟨rfl, rfl⟩
    | some t => exact .inr ⟨t, t, rfl, rfl, rfl, rfl, fun h => h⟩

theorem Closes.trans (h : Closes b b') (h' : Closes b' b'') : Closes b b'' where
  ready := h'.ready.trans h.ready
  openTasks := h'.openTasks.trans h.openTasks
  receipts := h'.receipts.trans h.receipts
  contexts id := OrdMap.Related.trans (h.contexts id) (h'.contexts id) fun _ _ _ hc hc' =>
    ⟨hc'.task.trans hc.task, hc'.generation.trans hc.generation,
      fun hd => hc'.closed (hc.closed hd)⟩
  tabs id := OrdMap.Related.trans (h.tabs id) (h'.tabs id) fun _ _ _ ht ht' =>
    ⟨ht'.task.trans ht.task, ht'.context.trans ht.context, fun hd => ht'.closed (ht.closed hd)⟩

/-! ## Closing facts -/

/-- A fact that closes a tab the book has, or a context it has under that task. -/
def IsClosing (b : BrowserBook) : BrowserDurableFact → Prop
  | .tabClosed id _ _ => ∃ t, b.tabs[id]? = some t
  | .contextClosed id taskId _ => ∃ c, b.contexts[id]? = some c ∧ c.taskId = taskId
  | _ => False

/-- What the fact closes is closed. -/
def IsClosed (b : BrowserBook) : BrowserDurableFact → Prop
  | .tabClosed id _ _ => ∃ t, b.tabs[id]? = some t ∧ t.closed = true
  | .contextClosed id _ _ => ∃ c, b.contexts[id]? = some c ∧ c.closed = true
  | _ => False

theorem IsClosing.mono {fact : BrowserDurableFact} (h : Closes b b') (hf : IsClosing b fact) :
    IsClosing b' fact := by
  cases fact with
  | tabClosed id contextId taskId =>
    obtain ⟨t, ht⟩ := hf
    obtain ⟨t', ht', -⟩ := of_left (h.tabs _) ht
    exact ⟨t', ht'⟩
  | contextClosed id taskId generation =>
    obtain ⟨c, hc, htask⟩ := hf
    obtain ⟨c', hc', hclose⟩ := of_left (h.contexts _) hc
    exact ⟨c', hc', hclose.task.trans htask⟩
  | _ => exact hf.elim

theorem IsClosed.mono {fact : BrowserDurableFact} (h : Closes b b') (hf : IsClosed b fact) :
    IsClosed b' fact := by
  cases fact with
  | tabClosed id contextId taskId =>
    obtain ⟨t, ht, hclosed⟩ := hf
    obtain ⟨t', ht', hclose⟩ := of_left (h.tabs _) ht
    exact ⟨t', ht', hclose.closed hclosed⟩
  | contextClosed id taskId generation =>
    obtain ⟨c, hc, hclosed⟩ := hf
    obtain ⟨c', hc', hclose⟩ := of_left (h.contexts _) hc
    exact ⟨c', hc', hclose.closed hclosed⟩
  | _ => exact hf.elim

theorem closes_of_lookup (hready : b'.ready = b.ready) (hopen : b'.openTasks = b.openTasks)
    (hrec : b'.receipts = b.receipts)
    (f : BrowserContextId → ContextState → ContextState) (g : BrowserTabId → TabState → TabState)
    (hctxs : ∀ id : BrowserContextId, b'.contexts[id]? = b.contexts[id]?.map (f id))
    (htabs : ∀ id : BrowserTabId, b'.tabs[id]? = b.tabs[id]?.map (g id))
    (hf : ∀ id c, ContextCloses c (f id c)) (hg : ∀ id t, TabCloses t (g id t)) :
    Closes b b' where
  ready := hready
  openTasks := hopen
  receipts := hrec
  contexts id := by
    rw [hctxs id]
    cases b.contexts[id]? with
    | none => exact .inl ⟨rfl, rfl⟩
    | some => exact .inr ⟨_, f id _, rfl, rfl, hf id _⟩
  tabs id := by
    rw [htabs id]
    cases b.tabs[id]? with
    | none => exact .inl ⟨rfl, rfl⟩
    | some => exact .inr ⟨_, g id _, rfl, rfl, hg id _⟩

section Facts

variable [Externals]

theorem applyFact_tabClosed {id t} (ht : b.tabs[id]? = some t)
    (contextId) (taskId : TaskId) :
    b.applyFact (.tabClosed id contextId taskId) = .ok { b with
      tabs := b.tabs.insert id { t with closed := true }
      contexts := b.contexts.modify contextId fun context =>
        if context.selectedTabId = some id then { context with selectedTabId := none } else context
      facts := b.facts ++ [.tabClosed id contextId taskId] } := by
  simp only [applyFact, projectFact, ht, okOr]
  rfl

theorem applyFact_contextClosed {id c}
    (hc : b.contexts[id]? = some c) (generation : ℕ) :
    b.applyFact (.contextClosed id c.taskId generation) = .ok { b with
      contexts := b.contexts.insert id { c with closed := true }
      tabs := closeTabsOf b.tabs id
      facts := b.facts ++ [.contextClosed id c.taskId generation] } := by
  simp only [applyFact, projectFact, ownedContext, hc, okOr, ok_bind, failIf, ne_eq,
    not_true_eq_false, if_false]
  rfl

theorem applyFact_closing {fact} (h : IsClosing b fact) :
    ∃ b', b.applyFact fact = .ok b' ∧ Closes b b' ∧ IsClosed b' fact ∧
      b'.facts = b.facts ++ [fact] := by
  cases fact with
  | tabClosed id contextId taskId =>
    obtain ⟨t, ht⟩ := h
    refine ⟨_, applyFact_tabClosed ht contextId taskId, ?_, ?_, rfl⟩
    · refine closes_of_lookup rfl rfl rfl (fun k c => if contextId = k then
          if c.selectedTabId = some id then { c with selectedTabId := none } else c else c)
        (fun k u => if id = k then { u with closed := true } else u) ?_ ?_ ?_ ?_
      · intro k
        show (b.contexts.modify contextId _)[k]? = _
        rw [OrdMap.getElem?_modify_eq]
        split_ifs <;> cases b.contexts[k]? <;> rfl
      · intro k
        show (b.tabs.insert id _)[k]? = _
        rw [OrdMap.getElem?_insert_eq]
        split_ifs with hk
        · subst hk
          rw [ht]
          rfl
        · cases b.tabs[k]? <;> rfl
      · intro k c
        split_ifs <;> exact ⟨rfl, rfl, fun h => h⟩
      · intro k u
        split_ifs
        · exact ⟨rfl, rfl, fun _ => rfl⟩
        · exact ⟨rfl, rfl, fun h => h⟩
    · exact ⟨{ t with closed := true }, by simp, rfl⟩
  | contextClosed id taskId generation =>
    obtain ⟨c, hc, rfl⟩ := h
    refine ⟨_, applyFact_contextClosed hc generation, ?_, ?_, rfl⟩
    · refine closes_of_lookup rfl rfl rfl
        (fun k d => if id = k then { d with closed := true } else d)
        (fun _ u => if u.contextId = id then { u with closed := true } else u) ?_ ?_ ?_ ?_
      · intro k
        show (b.contexts.insert id _)[k]? = _
        rw [OrdMap.getElem?_insert_eq]
        split_ifs with hk
        · subst hk
          rw [hc]
          rfl
        · cases b.contexts[k]? <;> rfl
      · intro k
        show (closeTabsOf b.tabs id)[k]? = _
        rw [getElem?_closeTabsOf]
      · intro k d
        split_ifs
        · exact ⟨rfl, rfl, fun _ => rfl⟩
        · exact ⟨rfl, rfl, fun h => h⟩
      · intro k u
        split_ifs
        · exact ⟨rfl, rfl, fun _ => rfl⟩
        · exact ⟨rfl, rfl, fun h => h⟩
    · exact ⟨{ c with closed := true }, by simp, rfl⟩
  | _ => exact h.elim

theorem foldlM_applyFact_closing {facts} :
    ∀ {b : BrowserBook}, (∀ fact ∈ facts, IsClosing b fact) →
      ∃ b', facts.foldlM applyFact b = .ok b' ∧ Closes b b' ∧ (∀ fact ∈ facts, IsClosed b' fact) ∧
        b'.facts = b.facts ++ facts := by
  induction facts with
  | nil =>
    intro b _
    exact ⟨b, rfl, .refl b, by simp, by simp⟩
  | cons fact facts ih =>
    intro b hall
    obtain ⟨b₁, hfst, hcloses, hclosed, hfacts⟩ :=
      applyFact_closing (hall fact (.head _))
    obtain ⟨b', hrest, hclose', hcloses', hfacts'⟩ := ih fun f hf =>
      (hall f (.tail _ hf)).mono hcloses
    refine ⟨b', foldlM_cons_ok.mpr ⟨b₁, hfst, hrest⟩, hcloses.trans hclose', ?_, ?_⟩
    · rintro f (_ | ⟨_, hf⟩)
      · exact hclosed.mono hclose'
      · exact hcloses' f hf
    · rw [hfacts', hfacts, append_assoc, singleton_append]

theorem applyFacts_singleton {fact} :
    b.applyFacts [fact] = .ok b' ↔
      b.facts.length < maxBrowserJournalFacts ∧ b.applyFact fact = .ok b' := by
  unfold applyFacts
  rw [if_neg (by simp)]
  simp only [ok_iff, foldlM_cons_ok, foldlM_nil, length_singleton, not_lt,
    Order.add_one_le_iff, exists_eq_right']

/-! ## `close_task` -/

variable {taskId : TaskId}

omit [Externals] in
theorem mem_planCloseTask {fact} : fact ∈ b.planCloseTask taskId ↔
    (∃ id t, b.tabs[id]? = some t ∧ (t.taskId = taskId ∧ t.closed = false) ∧
      .tabClosed id t.contextId taskId = fact) ∨
    ∃ id c, b.contexts[id]? = some c ∧ (c.taskId = taskId ∧ c.closed = false) ∧
      .contextClosed id taskId c.generation = fact := by
  simp only [planCloseTask, mem_append, mem_filterMap, Prod.exists,
    ExtTreeMap.mem_toList_iff_getElem?_eq_some, ite_none_right_eq_some, some.injEq]

omit [Externals] in
theorem isClosing_of_mem_planCloseTask {fact} (h : fact ∈ b.planCloseTask taskId) :
    IsClosing b fact := by
  rcases mem_planCloseTask.mp h with ⟨id, t, ht, -, rfl⟩ | ⟨id, c, hc, howned, rfl⟩
  · exact ⟨t, ht⟩
  · exact ⟨c, hc, howned.1⟩

omit [Externals] in
theorem length_planCloseTask : (b.planCloseTask taskId).length =
      OrdMap.countValues b.tabs (fun t => decide (t.taskId = taskId ∧ t.closed = false)) +
        OrdMap.countValues b.contexts (fun c => decide (c.taskId = taskId ∧ c.closed = false)) := by
  have hcount : ∀ {α β : Type} (l : List α) (p : α → Prop) [DecidablePred p] (f : α → β),
      (l.filterMap fun a => if p a then some (f a) else none).length =
        l.countP fun a => decide (p a) := by
    intro α β l p _ f
    rw [length_filterMap_eq_countP]
    refine countP_congr fun a _ => ?_
    split_ifs with h <;> simp [h]
  unfold planCloseTask OrdMap.countValues
  rw [length_append]
  exact congrArg₂ _ (hcount _ _ _) (hcount _ _ _)

theorem closeTask_eq_ok :
    b.closeTask taskId = .ok b' ↔
      taskId ∈ b.openTasks ∧
        ((b.planCloseTask taskId) = [] ∨
          b.facts.length + (b.planCloseTask taskId).length ≤ maxBrowserJournalFacts) ∧
        ∃ mid, (b.planCloseTask taskId).foldlM applyFact b = .ok mid ∧
          b' = { mid with openTasks := mid.openTasks.erase taskId } := by
  unfold closeTask applyFacts
  simp only [ok_iff]
  refine and_congr_right fun _ => ?_
  split_ifs with hnil
  · rw [List.isEmpty_iff] at hnil
    simp only [hnil, true_or, true_and, foldlM_nil, pure_eq_ok, Except.ok.injEq, eq_comm (a := b)]
  · rw [List.isEmpty_iff] at hnil
    simp only [ok_iff, not_lt, hnil, false_or, and_assoc, exists_and_left]

theorem closeTask_isOk : (∃ b', b.closeTask taskId = .ok b') ↔
      taskId ∈ b.openTasks ∧
        (b.planCloseTask taskId = [] ∨
          b.facts.length + (b.planCloseTask taskId).length ≤ maxBrowserJournalFacts) := by
  constructor
  · rintro ⟨b', h⟩
    obtain ⟨hopen, hfits, -⟩ := closeTask_eq_ok.mp h
    exact ⟨hopen, hfits⟩
  · rintro ⟨hopen, hfits⟩
    obtain ⟨mid, hmid, -⟩ := foldlM_applyFact_closing fun _ h => isClosing_of_mem_planCloseTask h
    exact ⟨_, closeTask_eq_ok.mpr ⟨hopen, hfits, mid, hmid, rfl⟩⟩

theorem closeTask_closes (h : b.closeTask taskId = .ok b') :
    b'.openTasks = b.openTasks.erase taskId ∧
      Closes { b with openTasks := b.openTasks.erase taskId } b' ∧
      (∀ (id : BrowserContextId) (c : ContextState), b'.contexts[id]? = some c →
        c.taskId = taskId → c.closed = true) ∧
      (∀ (id : BrowserTabId) t, b'.tabs[id]? = some t → t.taskId = taskId → t.closed = true) ∧
      b'.facts = b.facts ++ b.planCloseTask taskId := by
  obtain ⟨-, -, mid, hmid, rfl⟩ := closeTask_eq_ok.mp h
  obtain ⟨mid', hmid', hcloses, hclosed, hfacts⟩ :=
    foldlM_applyFact_closing (b := b) fun _ h => isClosing_of_mem_planCloseTask h
  rw [hmid] at hmid'
  cases hmid'
  refine ⟨by rw [hcloses.openTasks], ⟨hcloses.ready, by rw [hcloses.openTasks], hcloses.receipts,
    hcloses.contexts, hcloses.tabs⟩, ?_, ?_, hfacts⟩
  · intro id c hc htask
    obtain ⟨c₀, hc₀, hclose⟩ := of_right (hcloses.contexts id) hc
    by_cases hwas : c₀.closed = true
    · exact hclose.closed hwas
    · -- an open context of the task is named by a fact
      have hmem : BrowserDurableFact.contextClosed id taskId c₀.generation ∈
          b.planCloseTask taskId := by
        refine mem_append_right _ (mem_filterMap.mpr
          ⟨(id, c₀), ExtTreeMap.mem_toList_iff_getElem?_eq_some.mpr hc₀, ?_⟩)
        simp [← hclose.task, htask, hwas]
      obtain ⟨d, hd, hdone⟩ := hclosed _ hmem
      rw [show mid.contexts[id]? = some c from hc] at hd
      cases hd
      exact hdone
  · intro id t ht htask
    obtain ⟨t₀, ht₀, hclose⟩ := of_right (hcloses.tabs id) ht
    by_cases hwas : t₀.closed = true
    · exact hclose.closed hwas
    · have hmem : BrowserDurableFact.tabClosed id t₀.contextId taskId ∈
          b.planCloseTask taskId := by
        refine mem_append_left _ (mem_filterMap.mpr
          ⟨(id, t₀), ExtTreeMap.mem_toList_iff_getElem?_eq_some.mpr ht₀, ?_⟩)
        simp [← hclose.task, htask, hwas]
      obtain ⟨d, hd, hdone⟩ := hclosed _ hmem
      rw [show mid.tabs[id]? = some t from ht] at hd
      cases hd
      exact hdone

end Facts

end DevManager.BrowserBook
