import DevManager.Domain.BrowserFacts
import DevManager.Lib.Calls

/-!
# Calls on a browser book (`src/domain/browser.rs`)

The operations of `BrowserBook` write it in place. `apply_facts` keeps a copy of
the contexts, the tabs, the journal and the receipts, and puts it back when a
fact is refused; `replay_browser_snapshot` builds a book from a journal alone.
`DevManager.Domain.Browser` has the same operations as functions to the next book
or an error; here they are functions to what a call returns and the book it
leaves, also when it fails.

* `applyFactsInPlace_eq`: a refused batch leaves the book as it was.
-/

namespace DevManager

open Std (ExtTreeMap ExtTreeSet)

/-! ## The identity snapshot -/

/-- `BrowserContextView`, L834-845 -/
structure BrowserContextView where
  contextId : BrowserContextId
  taskId : TaskId
  generation : ℕ
  selectedTabId : Option BrowserTabId
  health : BrowserHealth
  closed : Bool
  permissions : ExtTreeMap BrowserPermission Bool
  linkedArtifacts : ExtTreeSet ArtifactId
  recipeId : Option String
  recordingId : Option String
deriving DecidableEq

/-- `BrowserTabView`, L848-855 -/
structure BrowserTabView where
  tabId : BrowserTabId
  contextId : BrowserContextId
  taskId : TaskId
  kind : BrowserTabKind
  committedUrl : Option String
  closed : Bool
deriving DecidableEq

/-- `BrowserIdentitySnapshot`, L858-861 -/
structure BrowserIdentitySnapshot where
  contexts : List BrowserContextView
  tabs : List BrowserTabView

/-- `view`, L952-966 -/
def ContextState.view (context : ContextState) (contextId : BrowserContextId) :
    BrowserContextView :=
  { context with contextId }

/-- `view`, L969-979 -/
def TabState.view (tab : TabState) (tabId : BrowserTabId) : BrowserTabView :=
  { tab with tabId }

/-- The calls on a book that write it; `admitRequest` is `admit`, which is a tactic of Lean. -/
inductive BookCall
  | openTask (taskId : TaskId)
  | closeTask (taskId : TaskId)
  | admitRequest (request : BrowserRequest)
  | settle (outcome : BrowserHostOutcome)

namespace BrowserBook

/-- `identity_snapshot`, L1037-1046 -/
def identitySnapshot (book : BrowserBook) : BrowserIdentitySnapshot where
  contexts := book.contexts.toList.map fun (id, context) => context.view id
  tabs := book.tabs.toList.map fun (id, tab) => tab.view id

section Calls

variable [Externals]

/-- `replay_browser_snapshot`, L1949-1968 -/
def replayBrowserSnapshot (facts : List BrowserDurableFact) :
    Except BrowserContractError BrowserIdentitySnapshot := do
  failIf (facts.length > maxBrowserJournalFacts) .boundExceeded
  let book ← facts.foldlM (fun book fact => book.openTask fact.taskId) new
  let book ← book.applyFacts facts
  pure book.identitySnapshot

/-! ## Writing in place -/

/-- The loop of `apply_facts` (L1493-1501). `apply_fact` checks a fact before it writes
anything of it; a refused fact puts back what the facts before it wrote. -/
def applyFactsFrom (backup : BrowserBook) : BrowserBook → List BrowserDurableFact →
    Except BrowserContractError Unit × BrowserBook
  | book, [] => (.ok (), book)
  | book, fact :: facts =>
    match book.applyFact fact with
    | .ok book => applyFactsFrom backup book facts
    | .error error => (.error error, { book with
        contexts := backup.contexts, tabs := backup.tabs, facts := backup.facts,
        receipts := backup.receipts })

variable (book : BrowserBook)

/-- `apply_facts`, L1477-1503 -/
def applyFactsInPlace (facts : List BrowserDurableFact) :
    Except BrowserContractError Unit × BrowserBook :=
  if facts.isEmpty then (.ok (), book)
  else if book.facts.length + facts.length > maxBrowserJournalFacts then
    (.error .boundExceeded, book)
  else applyFactsFrom book book facts

/-- `open_task`, L1104-1113 -/
def openTaskInPlace (taskId : TaskId) :
    Except BrowserContractError Unit × BrowserBook :=
  if taskId ∈ book.openTasks then (.ok (), book)
  else if book.openTasks.size ≥ maxBrowserOpenTasks then (.error .boundExceeded, book)
  else (.ok (), { book with openTasks := book.openTasks.insert taskId })

/-- `close_task`, L1115-1141 -/
def closeTaskInPlace (taskId : TaskId) :
    Except BrowserContractError Unit × BrowserBook :=
  if ¬ taskId ∈ book.openTasks then (.error .closedTask, book)
  else
    match book.applyFactsInPlace (book.planCloseTask taskId) with
    | (.error error, book) => (.error error, book)
    | (.ok (), book) => (.ok (), { book with openTasks := book.openTasks.erase taskId })

/-- `admit`, L1330-1357 -/
def admitInPlace (request : BrowserRequest) :
    Except BrowserContractError BrowserAcceptedReceipt × BrowserBook :=
  match book.planAdmit request with
  | .error error => (.error error, book)
  | .ok accepted =>
    match book.receipts[request.requestId]? with
    | some prior => (.ok (returned prior.accepted), book)
    | none =>
      match book.applyFactsInPlace accepted.facts with
      | (.error error, book) => (.error error, book)
      | (.ok (), book) => (.ok (returned accepted), { book with
          receipts := book.receipts.insert request.requestId {
            request, accepted, settled := !request.action.requiresHostSettlement,
            settlement := none } })

/-- The checks of `settle` (L1363-1438): the receipt as it is returned when the outcome
was settled before, or the facts to apply. -/
def planSettle (outcome : BrowserHostOutcome) :
    Except BrowserContractError (BrowserAcceptedReceipt ⊕ List BrowserDurableFact) := do
  let receipt ← okOr book.receipts[outcome.requestId]? .invalidRequest
  failIf (receipt.request.taskId ≠ outcome.taskId ∨ receipt.request.contextId ≠ outcome.contextId ∨
    receipt.request.tabId ≠ outcome.tabId ∨ receipt.request.generation ≠ outcome.generation)
    .invalidRequest
  if receipt.settled then
    if receipt.settlement = some outcome.settlement then .ok (.inl receipt.accepted)
    else .error .idempotencyConflict
  else do
    let facts ← book.settlementFacts receipt.request.action outcome
    pure (.inr facts)

/-- `settle` (L1359-1452). The receipt is read again after the facts are applied; `none`
is the `expect` there. -/
def settleInPlace (outcome : BrowserHostOutcome) :
    Except BrowserContractError (Option BrowserAcceptedReceipt) × BrowserBook :=
  match book.planSettle outcome with
  | .error error => (.error error, book)
  | .ok (.inl receipt) => (.ok (some receipt), book)
  | .ok (.inr facts) =>
    match book.applyFactsInPlace facts with
    | (.error error, book) => (.error error, book)
    | (.ok (), book) =>
      let accepted := book.receipts[outcome.requestId]?.map fun stored =>
        { stored.accepted with facts }
      (.ok accepted, { book with receipts := book.receipts.modify outcome.requestId fun stored =>
        { stored with settled := true, settlement := some outcome.settlement } })

/-- One call on the book. Only whether it succeeds is kept of what it returns. -/
def call : BookCall → Except BrowserContractError Unit × BrowserBook
  | .openTask taskId => book.openTaskInPlace taskId
  | .closeTask taskId => book.closeTaskInPlace taskId
  | .admitRequest request =>
    Prod.map (fun result => result.map fun _ => ()) id (book.admitInPlace request)
  | .settle outcome =>
    Prod.map (fun result => result.map fun _ => ()) id (book.settleInPlace outcome)

/-! ## Refused batches -/

variable {b : BrowserBook}

theorem applyFactsFrom_eq {backup} (facts) :
    ∀ {book : BrowserBook}, book.openTasks = backup.openTasks → book.ready = backup.ready →
      applyFactsFrom backup book facts =
        match facts.foldlM applyFact book with
        | .ok book => (.ok (), book)
        | .error error => (.error error, backup) := by
  induction facts with
  | nil =>
    intro book _ _
    rfl
  | cons fact facts ih =>
    intro book hopen hready
    rw [List.foldlM_cons, applyFactsFrom]
    cases happly : book.applyFact fact with
    | error error =>
      -- the open tasks and `ready` are not put back, but no fact writes them
      show (Except.error error, _) = (Except.error error, backup)
      rw [hopen, hready]
    | ok next =>
      obtain ⟨-, hopen', hready', -⟩ := applyFact_frame happly
      exact ih (hopen'.trans hopen) (hready'.trans hready)

theorem applyFactsInPlace_eq (facts) :
    b.applyFactsInPlace facts =
      match b.applyFacts facts with
      | .ok book => (.ok (), book)
      | .error error => (.error error, b) := by
  unfold applyFactsInPlace applyFacts
  by_cases hnil : facts.isEmpty = true
  · rw [if_pos hnil, if_pos hnil]
  · rw [if_neg hnil, if_neg hnil]
    by_cases hfull : b.facts.length + facts.length > maxBrowserJournalFacts
    · rw [if_pos hfull, failIf, if_pos hfull]
      rfl
    · rw [if_neg hfull, failIf, if_neg hfull]
      exact applyFactsFrom_eq facts rfl rfl

end Calls

end BrowserBook

end DevManager
