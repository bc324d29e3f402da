import DevManager.Domain.Externals
import DevManager.Lib.OrdMap
import DevManager.Lib.Result

/-!
# The browser book (`src/domain/browser.rs`)

A `BrowserBook` is the projection of a journal of browser facts: contexts, tabs
and request receipts. Requests enter in two ways. `admit` plans the facts of a
request (`plan_admit`), applies them and stores a receipt; the task kernel only
plans them, persists each fact as a domain event and applies the events one by
one (`apply_facts` on one fact). `settle` records what the host did, and
`close_task` closes every open tab and context of a task.

`apply_facts` restores the book when a fact is refused; here a refused call
returns no book, which says the same.
-/

namespace DevManager

open Std (ExtTreeMap ExtTreeSet)

/-- The bounds of L26-33. -/
def maxBrowserJournalFacts : ℕ := 1000
def maxBrowserOpenTasks : ℕ := 32
def maxBrowserContexts : ℕ := 32
def maxBrowserTabs : ℕ := 32
def maxBrowserReceipts : ℕ := 256
def maxBrowserFactUrlBytes : ℕ := 2048
def maxBrowserIdentityBytes : ℕ := 256
def maxBrowserDimension : ℕ := 32768

/-! ## Permissions as map keys -/

namespace BrowserPermission

/-- `#[derive(Ord)]`: the order of declaration. -/
instance : Ord BrowserPermission := ⟨fun a b => compare a.ctorIdx b.ctorIdx⟩

instance : Std.TransOrd BrowserPermission :=
    inferInstanceAs (Std.TransCmp (compareOn BrowserPermission.ctorIdx))

instance : Std.LawfulEqOrd BrowserPermission where
  eq_of_compare := by
    intro a b h
    have hidx : a.ctorIdx = b.ctorIdx := Std.LawfulEqOrd.eq_of_compare (α := ℕ) h
    cases a <;> cases b <;> first | rfl | cases hidx

end BrowserPermission

/-! ## Actions and facts -/

namespace BrowserAction

/-- `privacy_class`, L609-627 -/
def privacyClass : BrowserAction → PrivacyClass
  | openTab .. | navigate _ | back | forward | reload | stop | capture | automate
  | decideDownload _ | readClipboard | writeClipboard | fillSecret .. | record | replay =>
    .localOnly
  | _ => .shareable

/-- `required_permission`, L629-654 -/
def requiredPermission : BrowserAction → BrowserPermission
  | createContext => .createContext
  | closeContext => .closeContext
  | openTab .. => .openTab
  | closeTab => .closeTab
  | selectTab => .selectTab
  | navigate _ => .navigate
  | back | forward | reload | stop => .history
  | setBounds .. => .setBounds
  | setVisibility _ => .setVisibility
  | setFocus _ => .setFocus
  | capture => .capture
  | automate => .automate
  | decideDownload _ => .download
  | readClipboard | writeClipboard => .clipboard
  | chooseFile _ => .fileChooser
  | fillSecret .. => .secretFill
  | decidePermission .. => .permissionDecide
  | record => .record
  | replay => .replay
  | cancel => .cancel
  | recover => .recover
  | linkArtifact _ => .linkArtifact

/-- `url`, L656-661 -/
def url : BrowserAction → Option String
  | openTab url _ => some url
  | navigate url => some url
  | _ => none

/-- `requires_host_settlement`, L663-687 -/
def requiresHostSettlement : BrowserAction → Bool
  | navigate _ | back | forward | reload | stop | setBounds .. | setVisibility _ | setFocus _
  | capture | automate | decideDownload _ | readClipboard | writeClipboard | chooseFile _
  | fillSecret .. | decidePermission .. | record | replay | cancel | recover => true
  | _ => false

end BrowserAction

namespace BrowserDurableFact

/-- `fact_task_id`, L2044-2060 -/
def taskId : BrowserDurableFact → TaskId
  | requestAccepted fact => fact.taskId
  | contextCreated _ taskId _ => taskId
  | contextClosed _ taskId _ => taskId
  | tabOpened _ _ taskId _ _ => taskId
  | tabClosed _ _ taskId => taskId
  | tabSelected _ _ taskId => taskId
  | navigationCommitted _ _ taskId _ _ => taskId
  | permissionDecided _ taskId _ _ => taskId
  | artifactLinked _ taskId _ => taskId
  | recipeIdentified _ taskId _ => taskId
  | recordingIdentified _ taskId _ => taskId
  | downloadSettled _ taskId _ _ _ _ => taskId
  | healthTransitioned _ taskId _ _ _ => taskId

/-- `matches!(fact, BrowserDurableFact::RequestAccepted { .. })`. -/
def isRequestAccepted : BrowserDurableFact → Bool
  | requestAccepted _ => true
  | _ => false

/-- One round of the loop of `bind_command` (L788-798). -/
def bindCommand (commandId : CommandId) (actionEpoch : ℕ) :
    BrowserDurableFact → BrowserDurableFact
  | requestAccepted fact =>
    .requestAccepted { fact with commandId := some commandId, actionEpoch }
  | fact => fact

end BrowserDurableFact

/-! ## Receipts and the state of the book -/

/-- `BrowserAcceptedReceipt`, L769-782 -/
structure BrowserAcceptedReceipt where
  requestId : BrowserRequestId
  commandId : Option CommandId
  taskId : TaskId
  contextId : BrowserContextId
  tabId : Option BrowserTabId
  generation : ℕ
  action : BrowserAction
  facts : List BrowserDurableFact
  privacyClass : PrivacyClass
  permission : BrowserPermission
  payloadHash : Digest
  actionEpoch : ℕ
deriving DecidableEq

/-- `bind_command`, L785-799 -/
def BrowserAcceptedReceipt.bindCommand (receipt : BrowserAcceptedReceipt) (commandId : CommandId)
    (actionEpoch : ℕ) : BrowserAcceptedReceipt :=
  { receipt with
    commandId := some commandId, actionEpoch,
    facts := receipt.facts.map (BrowserDurableFact.bindCommand commandId actionEpoch) }

/-- `BrowserSettlement`, L813-831 -/
inductive BrowserSettlement
  | navigationCommitted (url documentId : String)
  | permissionDecided (permission : BrowserPermission) (allowed : Bool)
  | recovered (generation : ℕ)
  | recipeIdentified (recipeId : String)
  | recordingIdentified (recordingId : String)
deriving DecidableEq

/-- `BrowserHostOutcome`, L803-810 -/
structure BrowserHostOutcome where
  requestId : BrowserRequestId
  taskId : TaskId
  contextId : BrowserContextId
  tabId : Option BrowserTabId
  generation : ℕ
  settlement : BrowserSettlement

/-- `ContextState`, L930-940 -/
structure ContextState where
  taskId : TaskId
  generation : ℕ
  selectedTabId : Option BrowserTabId
  health : BrowserHealth
  closed : Bool
  permissions : ExtTreeMap BrowserPermission Bool
  linkedArtifacts : ExtTreeSet ArtifactId
  recipeId : Option String
  recordingId : Option String
deriving DecidableEq

/-- `TabState`, L943-949 -/
structure TabState where
  contextId : BrowserContextId
  taskId : TaskId
  kind : BrowserTabKind
  committedUrl : Option String
  closed : Bool
deriving DecidableEq

/-- `StoredReceipt`, L982-987 -/
structure StoredReceipt where
  request : BrowserRequest
  accepted : BrowserAcceptedReceipt
  settled : Bool
  settlement : Option BrowserSettlement
deriving DecidableEq

/-- `BrowserBook`, L997-1004 -/
structure BrowserBook where
  ready : Bool
  openTasks : ExtTreeSet TaskId
  contexts : ExtTreeMap BrowserContextId ContextState
  tabs : ExtTreeMap BrowserTabId TabState
  facts : List BrowserDurableFact
  receipts : ExtTreeMap BrowserRequestId StoredReceipt
deriving DecidableEq

/-! ## Validators -/

section Validators

variable [Externals]

/-- `validate_url`, L1974-1993 -/
def validateUrl (raw : String) : Except BrowserContractError Unit :=
  if raw = "about:blank" then .ok ()
  else do
    failIf (raw.utf8ByteSize > maxBrowserFactUrlBytes) .boundExceeded
    let parsed ← okOr (Externals.parseUrl raw) .invalidRequest
    failIf (parsed.username ≠ "" ∨ parsed.password.isSome) .invalidRequest
    failIf (parsed.query.isSome ∨ parsed.fragment.isSome) .invalidRequest
    failIf (¬ ((parsed.scheme = "http" ∨ parsed.scheme = "https") ∧ parsed.host.isSome))
      .invalidRequest

/-- `validate_identity`, L1995-2003 -/
def validateIdentity (value : String) : Except BrowserContractError Unit := do
  failIf (value = "") .invalidRequest
  failIf (value.utf8ByteSize > maxBrowserIdentityBytes) .boundExceeded

/-- `request_payload_hash`, L2039-2042 -/
def requestPayloadHash (request : BrowserRequest) : Digest :=
  Externals.sha256 (Externals.packRequest request)

/-- `tab_id_of`, L1970-1972 -/
def tabIdOf (request : BrowserRequest) : Except BrowserContractError BrowserTabId :=
  okOr request.tabId .invalidRequest

end Validators

namespace BrowserBook

/-- `new`, L1007-1012 -/
def new : BrowserBook where
  ready := true
  openTasks := ∅
  contexts := ∅
  tabs := ∅
  facts := []
  receipts := ∅

variable (book : BrowserBook)

/-- `open_task`, L1104-1113 -/
def openTask (taskId : TaskId) : Except BrowserContractError BrowserBook :=
  if taskId ∈ book.openTasks then .ok book
  else do
    failIf (book.openTasks.size ≥ maxBrowserOpenTasks) .boundExceeded
    pure { book with openTasks := book.openTasks.insert taskId }

/-! ## Applying facts -/

/-- `self.contexts.get_mut(context_id).ok_or(InvalidRequest)?` and the task check that follows
it in six arms of `apply_fact`. -/
def ownedContext (contextId : BrowserContextId) (taskId : TaskId) :
    Except BrowserContractError ContextState := do
  let context ← okOr book.contexts[contextId]? .invalidRequest
  failIf (context.taskId ≠ taskId) .crossTask
  pure context

/-- Write a context back. -/
def setContext (contextId : BrowserContextId) (context : ContextState) :
    BrowserBook :=
  { book with contexts := book.contexts.insert contextId context }

/-- The receipt a `RequestAccepted` fact leaves when there is none (L1706-1731). -/
def receiptOfFact (fact : RequestAcceptedFact) : StoredReceipt where
  request := { fact with }
  accepted := { fact with facts := [] }
  settled := !fact.action.requiresHostSettlement
  settlement := none

/-- The `RequestAccepted` arm of `apply_fact` (L1674-1732). -/
def projectRequestAccepted (fact : RequestAcceptedFact) :
    Except BrowserContractError BrowserBook := do
  let owner ← okOr ((book.contexts[fact.contextId]?.map ContextState.taskId).or
    (if fact.taskId ∈ book.openTasks then some fact.taskId else none)) .closedTask
  failIf (owner ≠ fact.taskId) .crossTask
  (match book.contexts[fact.contextId]? with
  | some context => do
    failIf (context.taskId ≠ fact.taskId) .crossTask
    failIf (context.generation ≠ fact.generation) .generationMismatch
  | none => .ok ())
  pure { book with receipts := book.receipts.insertIfNew fact.requestId (receiptOfFact fact) }

/-- A lower-case SHA-256 in hexadecimal (L1800-1804). -/
def digestHexOk (digest : String) : Bool :=
  digest.utf8ByteSize == 64 && digest.toList.all isLowerHex

/-- `ContextClosed` closes every tab of the context (L1861-1865). -/
def closeTabsOf (tabs : ExtTreeMap BrowserTabId TabState) (contextId : BrowserContextId) :
    ExtTreeMap BrowserTabId TabState :=
  tabs.map fun _ tab => if tab.contextId = contextId then { tab with closed := true } else tab

section Facts

variable [Externals] (book : BrowserBook)

/-- `apply_fact` (L1672-1946) up to the final `self.facts.push`. -/
def projectFact : BrowserDurableFact → Except BrowserContractError BrowserBook
  | .requestAccepted fact => book.projectRequestAccepted fact
  | .permissionDecided contextId taskId permission allowed => do
    let context ← book.ownedContext contextId taskId
    pure (book.setContext contextId
      { context with permissions := context.permissions.insert permission allowed })
  | .artifactLinked contextId taskId artifactId => do
    let context ← book.ownedContext contextId taskId
    pure (book.setContext contextId
      { context with linkedArtifacts := context.linkedArtifacts.insert artifactId })
  | .recipeIdentified contextId taskId recipeId => do
    let context ← book.ownedContext contextId taskId
    pure (book.setContext contextId { context with recipeId := some recipeId })
  | .recordingIdentified contextId taskId recordingId => do
    let context ← book.ownedContext contextId taskId
    pure (book.setContext contextId { context with recordingId := some recordingId })
  | .downloadSettled contextId taskId _ fileName sha256Hex artifactId => do
    validateIdentity fileName
    failIf (∃ digest ∈ sha256Hex, ¬ digestHexOk digest) .invalidRequest
    let context ← book.ownedContext contextId taskId
    pure (match artifactId with
      | some artifactId => book.setContext contextId
          { context with linkedArtifacts := context.linkedArtifacts.insert artifactId }
      | none => book)
  | .contextCreated contextId taskId generation => do
    failIf (¬ taskId ∈ book.openTasks) .closedTask
    failIf (contextId ∈ book.contexts) .invalidRequest
    failIf (book.contexts.size ≥ maxBrowserContexts) .boundExceeded
    pure (book.setContext contextId {
      taskId, generation, selectedTabId := none, health := .healthy, closed := false,
      permissions := ∅, linkedArtifacts := ∅, recipeId := none, recordingId := none })
  | .contextClosed contextId taskId _ => do
    let context ← book.ownedContext contextId taskId
    pure { book.setContext contextId { context with closed := true } with
      tabs := closeTabsOf book.tabs contextId }
  | .tabOpened tabId contextId taskId kind url => do
    validateUrl url
    let _ ← book.ownedContext contextId taskId
    failIf (tabId ∈ book.tabs) .invalidRequest
    pure { book with tabs := book.tabs.insert tabId {
      contextId, taskId, kind, committedUrl := some url, closed := false } }
  | .tabClosed tabId contextId _ => do
    let tab ← okOr book.tabs[tabId]? .invalidRequest
    pure { book with
      tabs := book.tabs.insert tabId { tab with closed := true }
      contexts := book.contexts.modify contextId fun context =>
        if context.selectedTabId = some tabId then { context with selectedTabId := none }
        else context }
  | .tabSelected tabId contextId _ => do
    failIf (¬ tabId ∈ book.tabs) .invalidRequest
    let context ← okOr book.contexts[contextId]? .invalidRequest
    pure (book.setContext contextId { context with selectedTabId := some tabId })
  | .navigationCommitted tabId _ _ url _ => do
    validateUrl url
    let tab ← okOr book.tabs[tabId]? .invalidRequest
    pure { book with tabs := book.tabs.insert tabId { tab with committedUrl := some url } }
  | .healthTransitioned contextId _ _ toHealth generation => do
    let context ← okOr book.contexts[contextId]? .invalidRequest
    pure (book.setContext contextId { context with health := toHealth, generation })

/-- `apply_fact`, L1672-1946 -/
def applyFact (fact : BrowserDurableFact) :
    Except BrowserContractError BrowserBook := do
  let book ← book.projectFact fact
  pure { book with facts := book.facts ++ [fact] }

/-- `apply_facts`, L1477-1503 -/
def applyFacts (facts : List BrowserDurableFact) :
    Except BrowserContractError BrowserBook :=
  if facts.isEmpty then .ok book
  else do
    failIf (book.facts.length + facts.length > maxBrowserJournalFacts) .boundExceeded
    facts.foldlM applyFact book

end Facts

/-! ## Closing a task -/

/-- `plan_close_task` (L1454-1475), and the facts `close_task` applies. -/
def planCloseTask (taskId : TaskId) : List BrowserDurableFact :=
  (book.tabs.toList.filterMap fun (tabId, tab) =>
    if tab.taskId = taskId ∧ tab.closed = false then some (.tabClosed tabId tab.contextId taskId)
    else none) ++
  book.contexts.toList.filterMap fun (contextId, context) =>
    if context.taskId = taskId ∧ context.closed = false then
      some (.contextClosed contextId taskId context.generation)
    else none

/-- `close_task`, L1115-1141 -/
def closeTask [Externals] (book : BrowserBook) (taskId : TaskId) :
    Except BrowserContractError BrowserBook := do
  failIf (¬ taskId ∈ book.openTasks) .closedTask
  let book ← book.applyFacts (book.planCloseTask taskId)
  pure { book with openTasks := book.openTasks.erase taskId }

/-! ## Planning a request -/

/-- `require_context_ids`, L1636-1655 -/
def requireContextIds (taskId : TaskId) (contextId : BrowserContextId)
    (generation : ℕ) : Except BrowserContractError ContextState := do
  let context ← okOr book.contexts[contextId]? .invalidRequest
  failIf (context.taskId ≠ taskId) .crossTask
  failIf context.closed .invalidRequest
  failIf (context.generation ≠ generation) .generationMismatch
  pure context

variable (request : BrowserRequest)

/-- `require_context`, L1629-1634 -/
def requireContext :
    Except BrowserContractError ContextState :=
  book.requireContextIds request.taskId request.contextId request.generation

/-- `require_tab`, L1657-1670 -/
def requireTab :
    Except BrowserContractError TabState := do
  let _ ← book.requireContext request
  let tabId ← tabIdOf request
  let tab ← okOr book.tabs[tabId]? .invalidRequest
  failIf (tab.taskId ≠ request.taskId) .crossTask
  failIf (tab.contextId ≠ request.contextId ∨ tab.closed) .invalidRequest
  pure tab

/-- The `CreateContext` arm of `plan_identity_facts` (L1510-1529). -/
def planCreateContext :
    Except BrowserContractError (List BrowserDurableFact) := do
  failIf (request.generation ≠ 1) .generationMismatch
  (match book.contexts[request.contextId]? with
  | some existing =>
    .error (if existing.taskId = request.taskId then .invalidRequest else .crossTask)
  | none => .ok ())
  failIf (book.contexts.size ≥ maxBrowserContexts) .boundExceeded
  pure [.contextCreated request.contextId request.taskId 1]

/-- The `CloseContext` arm past the early return (L1539-1555). -/
def planCloseOpenContext :
    Except BrowserContractError (List BrowserDurableFact) := do
  let context ← book.requireContext request
  pure ((book.tabs.toList.filterMap fun (tabId, tab) =>
      if tab.contextId = request.contextId ∧ tab.closed = false then
        some (.tabClosed tabId request.contextId request.taskId)
      else none) ++
    [.contextClosed request.contextId request.taskId context.generation])

/-- The `CloseContext` arm of `plan_identity_facts` (L1530-1556). -/
def planCloseContext :
    Except BrowserContractError (List BrowserDurableFact) :=
  match book.contexts[request.contextId]? with
  | some existing => do
    failIf (existing.taskId ≠ request.taskId) .crossTask
    if existing.closed then pure [] else book.planCloseOpenContext request
  | none => book.planCloseOpenContext request

/-- The `OpenTab` arm of `plan_identity_facts` (L1557-1593). -/
def planOpenTab (url : String)
    (kind : BrowserTabKind) : Except BrowserContractError (List BrowserDurableFact) := do
  let context ← book.requireContext request
  let tabId ← okOr request.tabId .invalidRequest
  failIf (tabId ∈ book.tabs) .invalidRequest
  failIf (OrdMap.countValues book.tabs (fun tab => !tab.closed) ≥ maxBrowserTabs) .boundExceeded
  (match kind with
  | .popup opener => do
    let parent ← okOr book.tabs[opener]? .invalidRequest
    failIf (parent.closed ∨ parent.contextId ≠ request.contextId ∨ parent.taskId ≠ request.taskId)
      .invalidRequest
  | .page => .ok ())
  pure (.tabOpened tabId request.contextId request.taskId kind url ::
    if context.selectedTabId.isNone then [.tabSelected tabId request.contextId request.taskId]
    else [])

/-- `plan_identity_facts`, L1505-1627 -/
def planIdentityFacts :
    Except BrowserContractError (List BrowserDurableFact) :=
  match request.action with
  | .createContext => book.planCreateContext request
  | .closeContext => book.planCloseContext request
  | .openTab url kind => book.planOpenTab request url kind
  | .closeTab => do
    let tab ← book.requireTab request
    let tabId ← tabIdOf request
    pure [.tabClosed tabId tab.contextId request.taskId]
  | .selectTab => do
    let tab ← book.requireTab request
    let tabId ← tabIdOf request
    pure [.tabSelected tabId tab.contextId request.taskId]
  | .linkArtifact artifactId => do
    let _ ← book.requireContext request
    pure [.artifactLinked request.contextId request.taskId artifactId]
  | _ =>
    if request.tabId.isSome then do
      let _ ← book.requireTab request
      pure []
    else do
      let _ ← book.requireContext request
      pure []

/-- The fact a receipt stands for (L1242-1254). -/
def factOfReceipt (receipt : BrowserAcceptedReceipt) : RequestAcceptedFact :=
  { receipt with }

/-- What `plan_admit` returns for a request it has a receipt of (L1237-1256): the
stored receipt with its `RequestAccepted` facts only, or with one built from it. -/
def replayOf (accepted : BrowserAcceptedReceipt) : BrowserAcceptedReceipt :=
  let kept := accepted.facts.filter BrowserDurableFact.isRequestAccepted
  { accepted with
    facts := if kept.isEmpty then [.requestAccepted (factOfReceipt accepted)] else kept }

section Admission

variable [Externals]

/-- The shape checks of `plan_admit` on a new request (L1269-1288). -/
def checkAction (request : BrowserRequest) : Except BrowserContractError Unit := do
  (match request.action.url with
  | some url => validateUrl url
  | none => .ok ())
  match request.action with
  | .fillSecret vaultRef fieldSelector => do
    validateIdentity vaultRef
    validateIdentity fieldSelector
  | .setBounds width height =>
    failIf (width = 0 ∨ height = 0 ∨ width > maxBrowserDimension ∨ height > maxBrowserDimension)
      .invalidRequest
  | _ => .ok ()

/-- The receipt of a new request with the facts planned for it (L1298-1327). -/
def acceptedReceipt (request : BrowserRequest) (identity : List BrowserDurableFact) :
    BrowserAcceptedReceipt :=
  { request with
    commandId := none
    facts := .requestAccepted { request with
      privacyClass := request.action.privacyClass, permission := request.action.requiredPermission,
      payloadHash := requestPayloadHash request, actionEpoch := 0, commandId := none } :: identity
    privacyClass := request.action.privacyClass
    permission := request.action.requiredPermission
    payloadHash := requestPayloadHash request
    actionEpoch := 0 }

variable (book : BrowserBook) (request : BrowserRequest)

/-- `plan_admit` on a request id without a receipt (L1260-1327). -/
def planNew :
    Except BrowserContractError BrowserAcceptedReceipt := do
  failIf (¬ request.taskId ∈ book.openTasks) .closedTask
  failIf (book.receipts.size ≥ maxBrowserReceipts) .boundExceeded
  failIf (request.generation = 0) .generationMismatch
  checkAction request
  let identity ← book.planIdentityFacts request
  failIf (book.facts.length + (identity.length + 1) > maxBrowserJournalFacts) .boundExceeded
  pure (acceptedReceipt request identity)

/-- `plan_admit`, L1228-1328 -/
def planAdmit :
    Except BrowserContractError BrowserAcceptedReceipt := do
  failIf (¬ book.ready) .hostEffectUnavailable
  match book.receipts[request.requestId]? with
  | some prior =>
    if prior.request = request then .ok (replayOf prior.accepted) else .error .idempotencyConflict
  | none => book.planNew request

/-- The receipt as `admit` returns it, without its `RequestAccepted` fact. -/
def returned (accepted : BrowserAcceptedReceipt) : BrowserAcceptedReceipt :=
  { accepted with facts := accepted.facts.filter fun fact => !fact.isRequestAccepted }

/-- `admit` (L1330-1357); the bare word is a tactic of Lean. -/
def admitRequest :
    Except BrowserContractError (BrowserBook × BrowserAcceptedReceipt) := do
  let accepted ← book.planAdmit request
  match book.receipts[request.requestId]? with
  | some prior => .ok (book, returned prior.accepted)
  | none => do
    let book ← book.applyFacts accepted.facts
    pure ({ book with receipts := book.receipts.insert request.requestId {
      request, accepted, settled := !request.action.requiresHostSettlement,
      settlement := none } }, returned accepted)

/-- The facts `settle` derives from an outcome (L1380-1438). -/
def settlementFacts (action : BrowserAction) (outcome : BrowserHostOutcome) :
    Except BrowserContractError (List BrowserDurableFact) :=
  match action, outcome.settlement with
  | .navigate _, .navigationCommitted url documentId => commitNavigation outcome url documentId
  | .reload, .navigationCommitted url documentId => commitNavigation outcome url documentId
  | .decidePermission .., .permissionDecided permission allowed =>
    .ok [.permissionDecided outcome.contextId outcome.taskId permission allowed]
  | .decideDownload _, .permissionDecided permission allowed =>
    .ok [.permissionDecided outcome.contextId outcome.taskId permission allowed]
  | .recover, .recovered generation => do
    let context ← book.requireContextIds outcome.taskId outcome.contextId outcome.generation
    pure [.healthTransitioned outcome.contextId outcome.taskId context.health .recovering
      generation]
  | .replay, .recipeIdentified recipeId => do
    validateIdentity recipeId
    pure [.recipeIdentified outcome.contextId outcome.taskId recipeId]
  | .record, .recordingIdentified recordingId => do
    validateIdentity recordingId
    pure [.recordingIdentified outcome.contextId outcome.taskId recordingId]
  | _, _ => .error .invalidRequest
where
  /-- The `NavigationCommitted` arm (L1381-1394). -/
  commitNavigation (outcome : BrowserHostOutcome) (url documentId : String) :
      Except BrowserContractError (List BrowserDurableFact) := do
    validateUrl url
    validateIdentity documentId
    let tabId ← okOr outcome.tabId .invalidRequest
    pure [.navigationCommitted tabId outcome.contextId outcome.taskId url documentId]

/-- `settle`, L1359-1452 -/
def settle (outcome : BrowserHostOutcome) :
    Except BrowserContractError (BrowserBook × BrowserAcceptedReceipt) := do
  let receipt ← okOr book.receipts[outcome.requestId]? .invalidRequest
  failIf (receipt.request.taskId ≠ outcome.taskId ∨ receipt.request.contextId ≠ outcome.contextId ∨
    receipt.request.tabId ≠ outcome.tabId ∨ receipt.request.generation ≠ outcome.generation)
    .invalidRequest
  if receipt.settled then
    if receipt.settlement = some outcome.settlement then .ok (book, receipt.accepted)
    else .error .idempotencyConflict
  else do
    let facts ← book.settlementFacts receipt.request.action outcome
    let book ← book.applyFacts facts
    pure ({ book with receipts := book.receipts.modify outcome.requestId fun stored =>
        { stored with settled := true, settlement := some outcome.settlement } },
      { receipt.accepted with facts })

end Admission

end BrowserBook

end DevManager
