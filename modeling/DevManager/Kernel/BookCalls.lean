import DevManager.Domain.BrowserCalls
import DevManager.Kernel.Admission

/-!
# What a call does to a browser book

* `call_of_error`: a call that returns an error leaves the book as it was.
* `step_call`: any other call applies one batch of facts, or none.
-/

namespace DevManager.BrowserBook

section Calls

variable [Externals] {b b' : BrowserBook}

/-! ## One call -/

/-- What a call can do to the book: nothing but open a task, or apply one batch of facts. -/
inductive CallStep (b b' : BrowserBook) : Prop
  | kept (hctxs : b'.contexts = b.contexts) (htabs : b'.tabs = b.tabs)
      (hfacts : b'.facts = b.facts) (hrec : b'.receipts = b.receipts) : CallStep b b'
  | closed {taskId : TaskId} {mid : BrowserBook}
      (happly : b.applyFacts (b.planCloseTask taskId) = .ok mid)
      (h : b' = { mid with openTasks := mid.openTasks.erase taskId }) : CallStep b b'
  | admitted {request : BrowserRequest} {identity : List BrowserDurableFact} {mid : BrowserBook}
      {settled : Bool}
      (hopen : request.taskId ∈ b.openTasks)
      (hplan : b.planIdentityFacts request = .ok identity)
      (happly : b.applyFacts (acceptedReceipt request identity).facts = .ok mid)
      (h : b' = { mid with receipts := mid.receipts.insert request.requestId {
        request, accepted := acceptedReceipt request identity, settled,
        settlement := none } }) : CallStep b b'
  | settled {outcome : BrowserHostOutcome} {stored : StoredReceipt}
      {facts : List BrowserDurableFact} {mid : BrowserBook}
      (hstored : b.receipts[outcome.requestId]? = some stored)
      (htask : stored.request.taskId = outcome.taskId)
      (hctx : stored.request.contextId = outcome.contextId)
      (hfacts : b.settlementFacts stored.request.action outcome = .ok facts)
      (happly : b.applyFacts facts = .ok mid)
      (h : b' = { mid with receipts := mid.receipts.modify outcome.requestId fun stored =>
        { stored with settled := true, settlement := some outcome.settlement } }) : CallStep b b'

theorem applyFacts_ok {facts} (h : b.applyFacts facts = .ok b') :
    facts.foldlM applyFact b = .ok b' ∧ (b.facts.length ≤ maxBrowserJournalFacts →
      b.facts.length + facts.length ≤ maxBrowserJournalFacts) := by
  unfold applyFacts at h
  split_ifs at h with hnil
  · rw [List.isEmpty_iff.mp hnil]
    exact ⟨h, id⟩
  · simp only [ok_iff, not_lt] at h
    exact ⟨h.2, fun _ => h.1⟩

/-- A fact keeps the contexts that there are, in their tasks, and the closed ones closed. -/
theorem applyFact_context {fact} {id : BrowserContextId} {c} (h : b.applyFact fact = .ok b')
    (hc : b.contexts[id]? = some c) : ∃ c', b'.contexts[id]? = some c' ∧ c'.taskId = c.taskId ∧
      (c.closed = true → c'.closed = true) := by
  obtain ⟨mid, hmid, rfl⟩ := applyFact_eq_ok.mp h
  show ∃ c', mid.contexts[id]? = some c' ∧ _
  cases fact <;>
    simp only [projectFact, projectRequestAccepted, ownedContext, setContext, ok_iff] at hmid <;>
    grind [OrdMap.getElem?_insert_eq, OrdMap.getElem?_modify_eq, OrdMap.not_mem_iff]

omit [Externals] in
theorem ownedContext_eq_ok {id : BrowserContextId} {c taskId} :
    b.ownedContext id taskId = .ok c ↔ b.contexts[id]? = some c ∧ c.taskId = taskId := by
  unfold ownedContext
  simp only [ok_iff]
  constructor
  · rintro ⟨d, hd, htask, rfl⟩
    exact ⟨hd, htask⟩
  · rintro ⟨hc, htask⟩
    exact ⟨c, hc, htask, rfl⟩

theorem CallStep.refl (b) : CallStep b b := .kept rfl rfl rfl rfl

theorem step_openTask (taskId : TaskId) : CallStep b (b.openTaskInPlace taskId).2 := by
  unfold openTaskInPlace
  split_ifs
  · exact .refl b
  · exact .refl b
  · exact .kept rfl rfl rfl rfl

theorem step_closeTask (taskId : TaskId) : CallStep b (b.closeTaskInPlace taskId).2 := by
  unfold closeTaskInPlace
  rw [applyFactsInPlace_eq]
  split_ifs
  · cases happly : b.applyFacts (b.planCloseTask taskId) with
    | error => exact .refl b
    | ok => exact .closed happly rfl
  · exact .refl b

theorem step_admit (request) : CallStep b (b.admitInPlace request).2 := by
  unfold admitInPlace
  cases hplan : b.planAdmit request with
  | error => exact .refl b
  | ok accepted =>
    simp only
    cases hprior : b.receipts[request.requestId]? with
    | some => exact .refl b
    | none =>
      obtain ⟨-, ⟨_, hsome, -⟩ | ⟨-, hnew⟩⟩ := planAdmit_eq_ok.mp hplan
      · rw [hprior] at hsome
        cases hsome
      · obtain ⟨hopen, -, -, -, identity, hident, -, rfl⟩ := planNew_eq_ok.mp hnew
        simp only
        rw [applyFactsInPlace_eq]
        cases happly : b.applyFacts (acceptedReceipt request identity).facts with
        | error => exact .refl b
        | ok => exact .admitted hopen hident happly rfl

theorem step_settle (outcome) : CallStep b (b.settleInPlace outcome).2 := by
  unfold settleInPlace
  cases hplan : b.planSettle outcome with
  | error => exact .refl b
  | ok planned =>
    cases planned with
    | inl => exact .refl b
    | inr facts =>
      simp only [planSettle, ok_iff, not_or] at hplan
      obtain ⟨stored, hstored, ⟨htask, hctx, -⟩, hplan⟩ := hplan
      split_ifs at hplan
      · cases hplan
      · simp only [ok_iff, Sum.inr.injEq] at hplan
        obtain ⟨_, hfacts, rfl⟩ := hplan
        simp only
        rw [applyFactsInPlace_eq]
        cases happly : b.applyFacts facts with
        | error => exact .refl b
        | ok => exact .settled hstored htask hctx hfacts happly rfl

theorem step_call (b) (c : BookCall) : CallStep b (b.call c).2 := by
  cases c with
  | openTask => exact step_openTask _
  | closeTask => exact step_closeTask _
  | admitRequest => exact step_admit _
  | settle => exact step_settle _

theorem call_of_error {c error}
    (h : (b.call c).1 = .error error) : (b.call c).2 = b := by
  cases c with
  | openTask taskId =>
    simp only [call, openTaskInPlace] at h ⊢
    split_ifs at h ⊢
    rfl
  | closeTask taskId =>
    simp only [call, closeTaskInPlace] at h ⊢
    rw [applyFactsInPlace_eq] at h ⊢
    split_ifs at h ⊢
    · cases happly : b.applyFacts (b.planCloseTask taskId) with
      | error error => rfl
      | ok mid =>
        rw [happly] at h
        cases h
    · rfl
  | admitRequest request =>
    simp only [call, admitInPlace, Prod.map, id] at h ⊢
    cases hplan : b.planAdmit request with
    | error error => rfl
    | ok accepted =>
      rw [hplan] at h
      simp only at h ⊢
      cases hprior : b.receipts[request.requestId]? with
      | some prior => rfl
      | none =>
        rw [hprior] at h
        simp only at h ⊢
        rw [applyFactsInPlace_eq] at h ⊢
        cases happly : b.applyFacts accepted.facts with
        | error error => rfl
        | ok mid =>
          rw [happly] at h
          cases h
  | settle outcome =>
    simp only [call, settleInPlace, Prod.map, id] at h ⊢
    cases hplan : b.planSettle outcome with
    | error error => rfl
    | ok planned =>
      cases planned with
      | inl receipt => rfl
      | inr facts =>
        rw [hplan] at h
        simp only at h ⊢
        rw [applyFactsInPlace_eq] at h ⊢
        cases happly : b.applyFacts facts with
        | error error => rfl
        | ok mid =>
          rw [happly] at h
          cases h

end Calls

/-! ## What an outcome settles -/

/-- The facts that an outcome settles. -/
inductive Settling (outcome : BrowserHostOutcome) : BrowserDurableFact → Prop
  | navigationCommitted {tabId url documentId} : Settling outcome
      (.navigationCommitted tabId outcome.contextId outcome.taskId url documentId)
  | permissionDecided {permission allowed} : Settling outcome
      (.permissionDecided outcome.contextId outcome.taskId permission allowed)
  | recovered {health generation} : Settling outcome
      (.healthTransitioned outcome.contextId outcome.taskId health .recovering generation)
  | recipeIdentified {recipeId} : Settling outcome
      (.recipeIdentified outcome.contextId outcome.taskId recipeId)
  | recordingIdentified {recordingId} : Settling outcome
      (.recordingIdentified outcome.contextId outcome.taskId recordingId)

variable {outcome : BrowserHostOutcome}

theorem settlementFacts_cases [Externals] {b : BrowserBook} {action} {facts}
    (h : b.settlementFacts action outcome = .ok facts) :
    ∀ fact ∈ facts, Settling outcome fact := by
  unfold settlementFacts at h
  intro fact hfact
  split at h
  all_goals simp only [settlementFacts.commitNavigation, ok_iff, Except.ok.injEq, reduceCtorEq] at h
  · obtain ⟨-, -, tabId, -, rfl⟩ := h
    rw [List.mem_singleton.mp hfact]
    exact .navigationCommitted
  · obtain ⟨-, -, tabId, -, rfl⟩ := h
    rw [List.mem_singleton.mp hfact]
    exact .navigationCommitted
  · rw [← h] at hfact
    rw [List.mem_singleton.mp hfact]
    exact .permissionDecided
  · rw [← h] at hfact
    rw [List.mem_singleton.mp hfact]
    exact .permissionDecided
  · obtain ⟨context, -, rfl⟩ := h
    rw [List.mem_singleton.mp hfact]
    exact .recovered
  · obtain ⟨-, rfl⟩ := h
    rw [List.mem_singleton.mp hfact]
    exact .recipeIdentified
  · obtain ⟨-, rfl⟩ := h
    rw [List.mem_singleton.mp hfact]
    exact .recordingIdentified

theorem Settling.taskId {fact}
    (h : Settling outcome fact) : fact.taskId = outcome.taskId := by
  cases h <;> rfl

end DevManager.BrowserBook
