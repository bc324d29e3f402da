import DevManager.Kernel.Selection

/-!
# The journal of a browser book

`replay_browser_snapshot` opens every task that the journal names, and applies
the journal to the book it has. Facts read the contexts, the tabs and, where a
context is new, the open tasks; a book that agrees in the first two and has the
task open takes the fact alike, whatever its receipts. There is room for the
tasks, since every fact's task owns a context and there are at most as many
contexts as there may be open tasks.

* `applyFact_congr`: books that agree in contexts and tabs take a fact alike.
* `foldlM_openTask`: the tasks of a journal can all be opened.
-/

namespace DevManager.BrowserBook

open Std (ExtTreeMap ExtTreeSet)
open List Calls OrdMap

/-- The task owns the context. -/
def Owns (b : BrowserBook) (id : BrowserContextId) (taskId : TaskId) : Prop :=
  ∃ c, b.contexts[id]? = some c ∧ c.taskId = taskId

/-- The journal, applied to an empty book with its tasks open, leaves the contexts and the tabs of
the book. -/
def Replays (b : BrowserBook) [Externals] : Prop :=
  ∀ tasks : ExtTreeSet TaskId, (∀ fact ∈ b.facts, fact.taskId ∈ tasks) →
    ∃ r, b.facts.foldlM applyFact { new with openTasks := tasks } = .ok r ∧
      r.contexts = b.contexts ∧ r.tabs = b.tabs ∧ r.openTasks = tasks

/-- What the calls keep so that the journal can be replayed. -/
structure Journaled (b : BrowserBook) [Externals] : Prop where
  length_le : b.facts.length ≤ maxBrowserJournalFacts
  owners : ∀ fact ∈ b.facts, ∃ id, Owns b id fact.taskId
  receipts : ∀ (id : BrowserRequestId) stored, b.receipts[id]? = some stored →
    Owns b stored.request.contextId stored.request.taskId
  replays : Replays b

section Facts

variable [Externals] {b b' r : BrowserBook} {fact : BrowserDurableFact}
  {facts : List BrowserDurableFact}

/-! ## Facts on books that agree -/

variable {mid : BrowserBook}

theorem projectFact_congr (h : b.projectFact fact = .ok mid) (hctxs : r.contexts = b.contexts)
    (htabs : r.tabs = b.tabs) (hopen : fact.taskId ∈ r.openTasks) :
    ∃ mid', r.projectFact fact = .ok mid' ∧ mid'.contexts = mid.contexts ∧
      mid'.tabs = mid.tabs := by
  obtain ⟨ready, openTasks, contexts, tabs, facts, receipts⟩ := r
  dsimp only at hctxs htabs
  subst hctxs htabs
  cases fact <;> simp only [projectFact, ownedContext, ok_iff] at h ⊢
  case requestAccepted fact =>
    obtain ⟨hadmits, rfl⟩ := projectRequestAccepted_eq_ok.mp h
    refine ⟨_, projectRequestAccepted_eq_ok.mpr ⟨?_, rfl⟩, rfl, rfl⟩
    unfold Admits at hadmits ⊢
    cases hc : b.contexts[fact.contextId]? with
    | none => exact hopen
    | some c =>
      rw [hc] at hadmits
      exact hadmits
  case contextCreated =>
    obtain ⟨-, hnew, hroom, rfl⟩ := h
    exact ⟨_, ⟨hopen, hnew, hroom, rfl⟩, rfl, rfl⟩
  case downloadSettled contextId taskId downloadId fileName sha256Hex artifactId =>
    obtain ⟨hname, hdigest, c, hc, rfl⟩ := h
    refine ⟨_, ⟨hname, hdigest, c, hc, rfl⟩, ?_⟩
    cases artifactId <;> exact ⟨rfl, rfl⟩
  case tabOpened =>
    obtain ⟨hurl, c, hc, hnew, rfl⟩ := h
    exact ⟨_, ⟨hurl, c, hc, hnew, rfl⟩, rfl, rfl⟩
  case tabSelected | navigationCommitted =>
    obtain ⟨hok, found, hfound, rfl⟩ := h
    exact ⟨_, ⟨hok, found, hfound, rfl⟩, rfl, rfl⟩
  all_goals
    obtain ⟨found, hfound, rfl⟩ := h
    exact ⟨_, ⟨found, hfound, rfl⟩, rfl, rfl⟩

theorem applyFact_congr (h : b.applyFact fact = .ok b') (hctxs : r.contexts = b.contexts)
    (htabs : r.tabs = b.tabs) (hopen : fact.taskId ∈ r.openTasks) :
    ∃ r', r.applyFact fact = .ok r' ∧ r'.contexts = b'.contexts ∧ r'.tabs = b'.tabs ∧
      r'.openTasks = r.openTasks := by
  obtain ⟨mid, hmid, rfl⟩ := applyFact_eq_ok.mp h
  obtain ⟨mid', hmid', hctxs', htabs'⟩ := projectFact_congr hmid hctxs htabs hopen
  have happly : r.applyFact fact = .ok { mid' with facts := mid'.facts ++ [fact] } :=
    applyFact_eq_ok.mpr ⟨mid', hmid', rfl⟩
  exact ⟨_, happly, hctxs', htabs', (applyFact_frame happly).2.1⟩

theorem foldlM_congr :
    ∀ {b r : BrowserBook}, facts.foldlM applyFact b = .ok b' → r.contexts = b.contexts →
      r.tabs = b.tabs → (∀ fact ∈ facts, fact.taskId ∈ r.openTasks) →
      ∃ r', facts.foldlM applyFact r = .ok r' ∧ r'.contexts = b'.contexts ∧ r'.tabs = b'.tabs ∧
        r'.openTasks = r.openTasks := by
  induction facts with
  | nil =>
    intro b r h hctxs htabs _
    cases h
    exact ⟨r, rfl, hctxs, htabs, rfl⟩
  | cons fact facts ih =>
    intro b r h hctxs htabs hopen
    obtain ⟨mid, hfst, hrest⟩ := foldlM_cons_ok.mp h
    obtain ⟨next, hnext, hctxs', htabs', hopen'⟩ :=
      applyFact_congr hfst hctxs htabs (hopen fact (.head _))
    obtain ⟨last, hlast, hctxs'', htabs'', hop''⟩ := ih hrest hctxs' htabs' (by
      intro other hother
      rw [hopen']
      exact hopen other (.tail _ hother))
    exact ⟨last, foldlM_cons_ok.mpr ⟨next, hnext, hlast⟩, hctxs'', htabs'', hop''.trans hopen'⟩

/-! ## Owners stay -/

variable {taskId : TaskId}

omit [Externals] in
theorem Owns.setContext {id k : BrowserContextId} {c c'}
    (hc : b.contexts[k]? = some c) (htask : c'.taskId = c.taskId) (h : Owns b id taskId) :
    Owns (b.setContext k c') id taskId := by
  obtain ⟨d, hd, howner⟩ := h
  unfold Owns BrowserBook.setContext
  simp only [getElem?_insert_eq]
  split_ifs with hk
  · rw [hk, hd] at hc
    cases hc
    exact ⟨c', rfl, htask.trans howner⟩
  · exact ⟨d, hd, howner⟩

theorem applyFact_owns {id : BrowserContextId} (h : b.applyFact fact = .ok b')
    (howns : Owns b id taskId) : Owns b' id taskId := by
  obtain ⟨mid, hmid, rfl⟩ := applyFact_eq_ok.mp h
  show Owns mid id taskId
  cases fact <;> simp only [projectFact, ok_iff] at hmid
  case requestAccepted fact =>
    obtain ⟨-, rfl⟩ := projectRequestAccepted_eq_ok.mp hmid
    exact howns
  case contextCreated contextId owner generation =>
    obtain ⟨-, hnew, -, rfl⟩ := hmid
    obtain ⟨c, hc, htask⟩ := howns
    have hne : contextId ≠ id := by
      rintro rfl
      exact hnew (mem_iff_exists.mpr ⟨c, hc⟩)
    refine ⟨c, ?_, htask⟩
    simp only [setContext, getElem?_insert_eq, if_neg hne]
    exact hc
  case downloadSettled contextId owner downloadId fileName sha256Hex artifactId =>
    obtain ⟨-, -, c, hc, rfl⟩ := hmid
    cases artifactId with
    | none => exact howns
    | some => exact howns.setContext (ownedContext_eq_ok.mp hc).1 rfl
  case tabOpened =>
    obtain ⟨-, c, -, -, rfl⟩ := hmid
    exact howns
  case tabClosed =>
    obtain ⟨t, -, rfl⟩ := hmid
    obtain ⟨c, hc, htask⟩ := howns
    unfold Owns
    simp only [OrdMap.getElem?_modify_eq, hc, Option.map_some]
    split_ifs <;> exact ⟨_, rfl, htask⟩
  case tabSelected =>
    obtain ⟨-, c, hc, rfl⟩ := hmid
    exact howns.setContext hc rfl
  case navigationCommitted =>
    obtain ⟨-, t, -, rfl⟩ := hmid
    exact howns
  case healthTransitioned =>
    obtain ⟨c, hc, rfl⟩ := hmid
    exact howns.setContext hc rfl
  all_goals
    obtain ⟨c, hc, rfl⟩ := hmid
    exact howns.setContext (ownedContext_eq_ok.mp hc).1 rfl

theorem foldlM_owns {id : BrowserContextId}
    (h : facts.foldlM applyFact b = .ok b') (howns : Owns b id taskId) : Owns b' id taskId :=
  foldlM_invariant (P := fun s => Owns s id taskId)
    (fun _ _ _ _ hs hstep => applyFact_owns hstep hs) howns h

theorem foldlM_facts :
    ∀ {b : BrowserBook}, facts.foldlM applyFact b = .ok b' → b'.facts = b.facts ++ facts := by
  induction facts with
  | nil =>
    intro b h
    cases h
    exact (append_nil _).symm
  | cons fact facts ih =>
    intro b h
    obtain ⟨mid, hfst, hrest⟩ := foldlM_cons_ok.mp h
    rw [ih hrest, (applyFact_frame hfst).1, append_assoc, singleton_append]

/-! ## One batch -/

theorem applyFacts_replays (hb : Journaled b) (h : b.applyFacts facts = .ok b')
    (howned : ∀ fact ∈ facts, ∃ id, Owns b' id fact.taskId) :
    b'.facts.length ≤ maxBrowserJournalFacts ∧ (∀ fact ∈ b'.facts, ∃ id, Owns b' id fact.taskId) ∧
      Replays b' := by
  obtain ⟨hfold, hlen⟩ := applyFacts_ok h
  have hfacts := foldlM_facts hfold
  refine ⟨?_, ?_, ?_⟩
  · rw [hfacts, length_append]
    exact hlen hb.length_le
  · intro fact hfact
    rw [hfacts] at hfact
    rcases mem_append.mp hfact with hold | hnew
    · obtain ⟨id, howns⟩ := hb.owners fact hold
      exact ⟨id, foldlM_owns hfold howns⟩
    · exact howned fact hnew
  · intro tasks htasks
    rw [hfacts] at htasks ⊢
    obtain ⟨r, hr, hctxs, htabs, hopen⟩ := hb.replays tasks fun fact hfact =>
      htasks fact (mem_append_left _ hfact)
    obtain ⟨r', hr', hctxs', htabs', hopen'⟩ := foldlM_congr hfold hctxs htabs (by
      intro fact hfact
      rw [hopen]
      exact htasks fact (mem_append_right _ hfact))
    refine ⟨r', ?_, hctxs', htabs', hopen'.trans hopen⟩
    rw [foldlM_append, bind_eq_ok]
    exact ⟨r, hr, hr'⟩

theorem foldlM_receipts {id : BrowserRequestId} {stored} :
    ∀ {b : BrowserBook}, facts.foldlM applyFact b = .ok b' → b'.receipts[id]? = some stored →
      b.receipts[id]? = some stored ∨
        ∃ accepted, .requestAccepted accepted ∈ facts ∧ stored = receiptOfFact accepted := by
  induction facts with
  | nil =>
    intro b h hstored
    cases h
    exact .inl hstored
  | cons fact facts ih =>
    intro b h hstored
    obtain ⟨mid, hfst, hrest⟩ := foldlM_cons_ok.mp h
    rcases ih hrest hstored with hmid | ⟨accepted, hmem, heq⟩
    · rw [(applyFact_frame hfst).2.2.2] at hmid
      rcases receiptsAfter_getElem? hmid with hold | ⟨accepted, rfl, heq⟩
      · exact .inl hold
      · exact .inr ⟨accepted, .head _, heq⟩
    · exact .inr ⟨accepted, .tail _ hmem, heq⟩

/-! ## One call -/

theorem Journaled.batch (hb : Journaled b) (h : b.applyFacts facts = .ok mid)
    (howned : ∀ fact ∈ facts, ∃ id, Owns mid id fact.taskId)
    (hctxs : b'.contexts = mid.contexts) (htabs : b'.tabs = mid.tabs)
    (hfacts : b'.facts = mid.facts) (hrec : ∀ (id : BrowserRequestId) stored,
      b'.receipts[id]? = some stored → Owns mid stored.request.contextId stored.request.taskId) :
    Journaled b' := by
  obtain ⟨hlen, howners', hreplays⟩ := applyFacts_replays hb h howned
  constructor
  · rw [hfacts]
    exact hlen
  · unfold Owns
    rw [hfacts, hctxs]
    exact howners'
  · unfold Owns
    rw [hctxs]
    exact hrec
  · unfold Replays
    rw [hfacts, hctxs, htabs]
    exact hreplays

omit [Externals] in
theorem closeTask_owners (hs : Selected b) (h : fact ∈ b.planCloseTask taskId) :
    ∃ id, Owns b id fact.taskId := by
  rcases mem_planCloseTask.mp h with ⟨tabId, t, ht, howned, rfl⟩ | ⟨contextId, c, hc, howned, rfl⟩
  · obtain ⟨c, hc, howner⟩ := hs.owned tabId t ht
    exact ⟨t.contextId, c, hc, howner.trans howned.1⟩
  · exact ⟨contextId, c, hc, howned.1⟩

theorem Planned.owns {request : BrowserRequest} {identity}
    (hplan : Planned b request identity) (h : identity.foldlM applyFact b = .ok b') :
    Owns b' request.contextId request.taskId := by
  cases hplan with
  | created hnew hroom =>
    obtain ⟨last, hfst, hlast⟩ := foldlM_cons_ok.mp h
    cases hlast
    obtain ⟨mid, hmid, rfl⟩ := applyFact_eq_ok.mp hfst
    simp only [projectFact, ok_iff] at hmid
    obtain ⟨-, -, -, rfl⟩ := hmid
    unfold Owns BrowserBook.setContext
    simp only [getElem?_insert_eq, if_true]
    exact ⟨_, rfl, rfl⟩
  | again hctx htask | inContext hctx htask => exact foldlM_owns h ⟨_, hctx, htask⟩

theorem Journaled.receipts_fold (hb : Journaled b) (hfold : facts.foldlM applyFact b = .ok mid)
    (hacc : ∀ accepted, .requestAccepted accepted ∈ facts →
      Owns mid (receiptOfFact accepted).request.contextId (receiptOfFact accepted).request.taskId)
    (id : BrowserRequestId) (stored) (hstored : mid.receipts[id]? = some stored) :
    Owns mid stored.request.contextId stored.request.taskId := by
  rcases foldlM_receipts hfold hstored with hold | ⟨accepted, hmem, rfl⟩
  · exact foldlM_owns hfold (hb.receipts id stored hold)
  · exact hacc accepted hmem

theorem step_journaled (hs : Selected b) (hb : Journaled b) (h : CallStep b b') : Journaled b' := by
  cases h with
  | kept hctxs htabs hfacts hrec =>
    have hnone : b.applyFacts [] = .ok b := rfl
    refine hb.batch hnone (by simp) hctxs htabs hfacts ?_
    rw [hrec]
    exact hb.receipts
  | closed happly h =>
    have hfold := (applyFacts_ok happly).1
    have hkept := hb.receipts_fold hfold fun accepted hmem =>
      (isClosing_of_mem_planCloseTask hmem).elim
    subst h
    refine hb.batch happly ?_ rfl rfl rfl hkept
    intro fact hfact
    obtain ⟨id, howns⟩ := closeTask_owners hs hfact
    exact ⟨id, foldlM_owns hfold howns⟩
  | @admitted request identity mid settled hopen hplan happly h =>
    have hfold := (applyFacts_ok happly).1
    have howns : Owns mid request.contextId request.taskId := by
      obtain ⟨next, hfst, hrest⟩ := foldlM_cons_ok.mp hfold
      obtain ⟨-, hnext⟩ := applyFact_requestAccepted.mp hfst
      have hplanned : Planned next request identity :=
        (planIdentityFacts_cases hplan).congr (by rw [hnext]) (by rw [hnext])
      exact hplanned.owns hrest
    have hkept := hb.receipts_fold hfold fun accepted hmem => by
      rcases mem_cons.mp hmem with hfact | hmem
      · cases hfact
        exact howns
      · cases isRequestAccepted_of_mem_planIdentityFacts hplan _ hmem
    subst h
    refine hb.batch happly ?_ rfl rfl rfl ?_
    · intro fact hfact
      refine ⟨request.contextId, ?_⟩
      rcases mem_cons.mp hfact with rfl | hfact
      · exact howns
      · rw [(planIdentityFacts_cases hplan).taskId fact hfact]
        exact howns
    · intro id stored hstored
      rcases of_insert hstored with ⟨-, rfl⟩ | ⟨-, hstored⟩
      · exact howns
      · exact hkept id stored hstored
  | @settled outcome prior facts mid hprior htask hctx hfacts happly h =>
    have hfold := (applyFacts_ok happly).1
    have howns : Owns mid outcome.contextId outcome.taskId := by
      rw [← htask, ← hctx]
      exact foldlM_owns hfold (hb.receipts outcome.requestId prior hprior)
    have hkept := hb.receipts_fold hfold fun accepted hmem => by
      cases settlementFacts_cases hfacts _ hmem
    subst h
    refine hb.batch happly ?_ rfl rfl rfl ?_
    · intro fact hfact
      rw [(settlementFacts_cases hfacts fact hfact).taskId]
      exact ⟨outcome.contextId, howns⟩
    · intro id stored hstored
      simp only [OrdMap.getElem?_modify_eq] at hstored
      split_ifs at hstored
      · obtain ⟨before, hpre, rfl⟩ := Option.map_eq_some_iff.mp hstored
        exact hkept id before hpre
      · exact hkept id stored hstored

/-! ## Opening the tasks of a journal -/

omit [Externals] in
theorem size_lt_of_not_mem {opened : ExtTreeSet TaskId} {tasks : List TaskId}
    (hsub : ∀ id ∈ opened, id ∈ tasks) (htask : taskId ∈ tasks) (hnew : taskId ∉ opened) :
    opened.size < tasks.length := by
  have hnodup : (taskId :: opened.toList).Nodup := by
    refine nodup_cons.mpr ⟨?_, ?_⟩
    · rw [ExtTreeSet.mem_toList]
      exact hnew
    · refine List.Pairwise.imp (fun {a b} h => ?_) (ExtTreeSet.distinct_toList (t := opened))
      rintro rfl
      exact h Std.ReflCmp.compare_self
  have hsubset : taskId :: opened.toList ⊆ tasks := by
    intro id hid
    rcases mem_cons.mp hid with rfl | hid
    · exact htask
    · exact hsub id (ExtTreeSet.mem_toList.mp hid)
  have hlen := (hnodup.subperm hsubset).length_le
  rw [length_cons, ExtTreeSet.length_toList] at hlen
  omega

omit [Externals] in
theorem foldlM_openTask {tasks : List TaskId} (hbound : tasks.length ≤ maxBrowserOpenTasks) :
    ∀ {opened : ExtTreeSet TaskId}, (∀ id ∈ opened, id ∈ tasks) →
      (∀ fact ∈ facts, fact.taskId ∈ tasks) →
      ∃ opened', facts.foldlM (fun book fact => book.openTask fact.taskId)
          { new with openTasks := opened } =
            (.ok { new with openTasks := opened' } : Except BrowserContractError BrowserBook) ∧
        (∀ id ∈ opened, id ∈ opened') ∧ ∀ fact ∈ facts, fact.taskId ∈ opened' := by
  induction facts with
  | nil =>
    intro opened _ _
    exact ⟨opened, rfl, fun _ h => h, by simp⟩
  | cons fact facts ih =>
    intro opened hsub hall
    have htask := hall fact (.head _)
    have hrest := fun other hother => hall other (mem_cons_of_mem fact hother)
    by_cases hmem : fact.taskId ∈ opened
    · obtain ⟨opened', hfold, hkept, hopened⟩ := ih hsub hrest
      refine ⟨opened', foldlM_cons_ok.mpr ⟨_, if_pos hmem, hfold⟩, hkept, ?_⟩
      intro other hother
      rcases mem_cons.mp hother with rfl | hother
      · exact hkept _ hmem
      · exact hopened other hother
    · have hroom : opened.size < maxBrowserOpenTasks :=
        lt_of_lt_of_le (size_lt_of_not_mem hsub htask hmem) hbound
      have hopen : openTask { new with openTasks := opened } fact.taskId =
          .ok { new with openTasks := opened.insert fact.taskId } := by
        unfold openTask failIf
        rw [if_neg hmem, if_neg (by simpa using hroom)]
        rfl
      have hsub' : ∀ id ∈ opened.insert fact.taskId, id ∈ tasks := by
        intro id hid
        rcases mem_insertSet_iff.mp hid with rfl | hid
        · exact htask
        · exact hsub id hid
      obtain ⟨opened', hfold, hkept, hopened⟩ := ih hsub' hrest
      refine ⟨opened', foldlM_cons_ok.mpr ⟨_, hopen, hfold⟩, ?_, ?_⟩
      · intro id hid
        exact hkept id (mem_insertSet_iff.mpr (.inr hid))
      · intro other hother
        rcases mem_cons.mp hother with rfl | hother
        · exact hkept _ (mem_insertSet_iff.mpr (.inl rfl))
        · exact hopened other hother

/-! ## Every run -/

theorem replay_of_journaled (hs : Selected b) (hb : Journaled b) :
    replayBrowserSnapshot b.facts = .ok b.identitySnapshot := by
  -- the owners of the contexts, which every fact's task is among
  have hbound : (b.contexts.toList.map fun entry => entry.2.taskId).length ≤
      maxBrowserOpenTasks := by
    rw [length_map, ExtTreeMap.length_toList]
    exact hs.contexts_le
  have htasks : ∀ fact ∈ b.facts,
      fact.taskId ∈ b.contexts.toList.map fun entry => entry.2.taskId := by
    intro fact hfact
    obtain ⟨id, c, hc, htask⟩ := hb.owners fact hfact
    rw [← htask]
    exact mem_map.mpr ⟨(id, c), ExtTreeMap.mem_toList_iff_getElem?_eq_some.mpr hc, rfl⟩
  have hnil : ∀ id ∈ (∅ : ExtTreeSet TaskId),
      id ∈ b.contexts.toList.map fun entry => entry.2.taskId := by simp
  obtain ⟨opened, hopen, -, hopened⟩ := foldlM_openTask hbound hnil htasks
  obtain ⟨r, hr, hctxs, htabs, -⟩ := hb.replays opened hopened
  have happly : applyFacts { new with openTasks := opened } b.facts = .ok r := by
    unfold applyFacts
    split_ifs with hnil
    · rw [isEmpty_iff.mp hnil] at hr
      exact hr
    · have hfits : ¬ (new.facts.length + b.facts.length > maxBrowserJournalFacts) := by
        have hlen := hb.length_le
        show ¬ (0 + b.facts.length > maxBrowserJournalFacts)
        omega
      rw [failIf, if_neg hfits]
      exact hr
  unfold replayBrowserSnapshot
  simp only [ok_iff, not_lt]
  refine ⟨hb.length_le, _, hopen, r, happly, ?_⟩
  unfold identitySnapshot
  rw [hctxs, htabs]

theorem new_journaled : Journaled new where
  length_le := Nat.zero_le _
  owners fact h := by cases h
  receipts id stored h := by simp [new] at h
  replays tasks _ := ⟨_, rfl, rfl, rfl, rfl⟩

/-- After every list of `open_task`, `close_task`, `admit` and `settle` calls on an empty book,
accepted or refused, the journal replays to the identity snapshot of the book, and a next call
that is refused leaves the book as it is. -/
theorem journal_replay (calls : List BookCall) :
    replayBrowserSnapshot (after call new calls).facts =
        .ok (after call new calls).identitySnapshot ∧
      ∀ (c : BookCall) error,
        ((after call new calls).call c).1 = .error error →
          ((after call new calls).call c).2 = after call new calls := by
  have hinv : Selected (after call new calls) ∧ Journaled (after call new calls) := by
    refine after_invariant (P := fun b => Selected b ∧ Journaled b)
      ⟨new_selected, new_journaled⟩ (fun b c hb => ?_) calls
    have hstep := step_call b c
    exact ⟨step_selected hb.1 hstep, step_journaled hb.1 hb.2 hstep⟩
  exact ⟨replay_of_journaled hinv.1 hinv.2, fun c error h => call_of_error h⟩

end Facts

end DevManager.BrowserBook
