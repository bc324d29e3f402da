import DevManager.Domain.Command

/-!
# Deciding commands (`src/domain/command.rs`, `src/domain/native_browser.rs`)

The arms of `decide` for resources and terminals, provider input and the
browser, and `decide` itself. The one value the source mints inside `decide`, the
`OperationId` of an accepted provider input, is an argument here.
-/

namespace DevManager

open Std (ExtTreeSet)

section Decide

variable [Externals]

/-! ## Resources and terminals -/

/-- `is_plain_shell_terminal`, L1795-1798 -/
def isPlainShellTerminal (resource : ResourceFacts) : Bool :=
  resource.resourceKind = .terminal && resource.recipe.isPlainShell

/-- The filter of `occupied_plain_shell_ids`: a plain shell that is not yet released. -/
def isOccupied (resource : ResourceFacts) : Bool :=
  isPlainShellTerminal resource && resource.lifecycle ≠ .released

/-- `occupied_plain_shell_ids`, L1810-1819 -/
def occupiedPlainShellIds (snap : TaskSnapshot) : ExtTreeSet ResourceId :=
  .ofList (((snap.resources.toList.map Prod.snd).filter isOccupied).map ResourceFacts.id)

/-- `require_task_plain_shell`, L1828-1848 -/
def requireTaskPlainShell (snap : TaskSnapshot) (resourceId : ResourceId) :
    Except RejectionCode ResourceFacts := do
  let resource ← okOr snap.resources[resourceId]? .notFound
  failIf (resource.ownerKind ≠ .task ∨ resource.taskId ≠ some snap.task.id) .ownershipConflict
  failIf (¬ isPlainShellTerminal resource) .invalidTransition
  failIf (resource.lifecycle = .released) .notFound
  pure resource

variable (snapshot : Option TaskSnapshot) (envelope : CommandEnvelope)

/-- In `decide`, L1650-1672 -/
def decideRegisterResource (resource : ResourceFacts) : Except RejectionCode (List Event) := do
  let snap ← requireRuntimeCapableTask snapshot envelope
  requireExpectedRevision snap envelope
  failIf (resource.ownerKind ≠ .task) .ownershipConflict
  failIf (resource.taskId ≠ some snap.task.id) .ownershipConflict
  failIf (¬ isOk resource.validate) .invalidTransition
  failIf (resource.lifecycle ≠ .active) .invalidTransition
  failIf (resource.id ∈ snap.resources) .alreadyExists
  pure [.resourceRegistered resource]

variable (resourceId : ResourceId)

/-- In `decide`, L1673-1696 -/
def decideReleaseResource : Except RejectionCode (List Event) := do
  let snap ← requireOpenOrClosingTask snapshot envelope
  requireExpectedRevision snap envelope
  let existing ← okOr snap.resources[resourceId]? .notFound
  failIf (existing.ownerKind ≠ .task ∨ existing.taskId ≠ some snap.task.id) .ownershipConflict
  match existing.lifecycle with
  | .active => pure [.resourceReleaseBegun resourceId existing.runtimeGeneration]
  | .releasing => pure []
  | .released => .error .invalidTransition

/-- `decide_open_shell_terminal`, L1850-1878 -/
def decideOpenShellTerminal (resource : ResourceFacts) : Except RejectionCode (List Event) := do
  let snap ← requireRuntimeCapableTask snapshot envelope
  requireExpectedRevision snap envelope
  mapErr resource.validateForRegistration fun _ => .invalidTransition
  failIf (resource.ownerKind ≠ .task ∨ resource.taskId ≠ some snap.task.id) .ownershipConflict
  failIf (¬ isPlainShellTerminal resource) .invalidTransition
  failIf (resource.id ∈ snap.resources) .alreadyExists
  failIf ((occupiedPlainShellIds snap).size ≥ maxPlainShellsPerTask) .tooManyTerminals
  pure [.resourceRegistered resource]

/-- In `decide`, L1735-1746 -/
def decideCloseTerminal : Except RejectionCode (List Event) := do
  let snap ← requireOpenOrClosingTask snapshot envelope
  requireExpectedRevision snap envelope
  let resource ← requireTaskPlainShell snap resourceId
  failIf (resource.lifecycle ≠ .active) .invalidTransition
  pure [.resourceReleaseBegun resourceId resource.runtimeGeneration]

/-- In `decide`, L1747-1761 -/
def decideRenameTerminal (title : String) : Except RejectionCode (List Event) := do
  let snap ← requireOpenOrClosingTask snapshot envelope
  requireExpectedRevision snap envelope
  let _ ← requireTaskPlainShell snap resourceId
  mapErr (validateTerminalTitle (trim title)) fun _ => .invalidTransition
  pure [.terminalRenamed resourceId (trim title)]

/-- How `decide` reports a bad strip (L1767-1779). -/
def stripRejection : TerminalStripError → RejectionCode
  | .tooManyTerminals _ => .tooManyTerminals
  | .foreignTask _ => .notFound
  | .duplicate _ | .focusedNotInOrder _ | .notATerminal _ => .invalidTransition

/-- In `decide`, L1762-1791 -/
def decideSetTerminalStrip (strip : TaskTerminalStrip) : Except RejectionCode (List Event) := do
  let snap ← requireOpenOrClosingTask snapshot envelope
  requireExpectedRevision snap envelope
  mapErr (strip.validate snap.task.id snap.resources) stripRejection
  failIf (ExtTreeSet.ofList strip.order ≠ occupiedPlainShellIds snap) .invalidTransition
  pure [.taskTerminalStripSet strip]

/-! ## Provider input -/

/-- The per-action guard of `decide_submit_provider_input` (L2017-2063). -/
def checkActionTurn (session : ProviderSessionProjection) (intent : SubmitProviderInputIntent) :
    Except RejectionCode Unit :=
  match intent.action with
  | .sendNow .. => failIf (¬ session.canBeginSendNowTurn intent.turnId) .invalidTransition
  | .steerCurrentTurn _ | .queueFollowUp _ | .stopTurn =>
    failIf (session.currentTurn ≠ some intent.turnId) .invalidTransition
  | .terminalInput _ =>
    failIf (∃ current ∈ session.currentTurn, current ≠ intent.turnId) .invalidTransition
  | .answerQuestion questionId _ => do
    failIf (questionId ∈ session.questionWinners) .alreadyResolved
    failIf (session.openQuestion ≠ some questionId) .invalidTransition
    failIf (session.currentTurn ≠ some intent.turnId) .invalidTransition
  | .resolveApproval approvalId _ => do
    failIf (approvalId ∈ session.approvalWinners) .alreadyResolved
    failIf (session.openApproval ≠ some approvalId) .invalidTransition
    failIf (session.currentTurn ≠ some intent.turnId) .invalidTransition

/-- The event of an accepted provider input (L2075-2090). -/
def SubmitProviderInputIntent.accepted (intent : SubmitProviderInputIntent)
    (envelope : CommandEnvelope) (operationId : OperationId) (agent : AgentSessionFacts) :
    ProviderInputAcceptedFact :=
  { intent with
    commandId := envelope.commandId
    clientId := envelope.clientId
    operationId := operationId
    providerKind := agent.providerKind
    providerSessionId := agent.providerSessionId
    wait := intent.action.waitsForTurn
    delivery := .holdUntilDestinationAdapter }

/-- `decide_submit_provider_input` (L1978-2092). The session id of the event is the
agent's; a session other than Codex must have one. -/
def decideSubmitProviderInput (operationId : OperationId) (intent : SubmitProviderInputIntent) :
    Except RejectionCode (List Event) := do
  let snap ← requireRuntimeCapableTask snapshot envelope
  requireExpectedRevision snap envelope
  mapErr (validateActionNestedIds intent.action intent.questionId intent.approvalId) fun _ =>
    .invalidTransition
  let agent ← okOr snap.agents[intent.agentSessionId]? .notFound
  failIf (agent.taskId ≠ snap.task.id) .ownershipConflict
  requireOpenAgent agent
  failIf (agent.providerSessionId.isNone ∧ agent.providerKind ≠ .codex) .unsupportedCapability
  failIf (agent.runtimeGeneration ≠ intent.runtimeGeneration) .invalidTransition
  failIf (snap.task.actionEpoch ≠ intent.actionEpoch) .invalidTransition
  let session := snap.sessionOf intent.agentSessionId
  checkActionTurn session intent
  failIf (intent.action.waitsForTurn ∧ ¬ envelope.commandId ∈ session.waits ∧
    session.pendingWaits ≥ maxProviderWaits) .invalidTransition
  pure [.providerInputAccepted (intent.accepted envelope operationId agent)]

/-- `decide_present_provider_question`, L2094-2143 -/
def decidePresentProviderQuestion
    (intent : PresentProviderQuestionIntent) : Except RejectionCode (List Event) := do
  let snap ← requireRuntimeCapableTask snapshot envelope
  requireExpectedRevision snap envelope
  let agent ← okOr snap.agents[intent.agentSessionId]? .notFound
  requireOpenAgent agent
  let providerSessionId ← okOr agent.providerSessionId .unsupportedCapability
  failIf (agent.runtimeGeneration ≠ intent.runtimeGeneration ∨
    snap.task.actionEpoch ≠ intent.actionEpoch) .invalidTransition
  let session := snap.sessionOf intent.agentSessionId
  failIf (∃ current ∈ session.currentTurn, current ≠ intent.turnId) .invalidTransition
  failIf (intent.questionId ∈ session.questionWinners) .alreadyResolved
  (match session.openQuestion with
  | some opened => .error
      (if opened ≠ intent.questionId then .invalidTransition else .alreadyExists)
  | none => .ok ())
  pure [.providerQuestionPresented { intent with
    providerKind := agent.providerKind, providerSessionId }]

/-- `decide_present_provider_approval`, L2145-2194 -/
def decidePresentProviderApproval
    (intent : PresentProviderApprovalIntent) : Except RejectionCode (List Event) := do
  let snap ← requireRuntimeCapableTask snapshot envelope
  requireExpectedRevision snap envelope
  let agent ← okOr snap.agents[intent.agentSessionId]? .notFound
  requireOpenAgent agent
  let providerSessionId ← okOr agent.providerSessionId .unsupportedCapability
  failIf (agent.runtimeGeneration ≠ intent.runtimeGeneration ∨
    snap.task.actionEpoch ≠ intent.actionEpoch) .invalidTransition
  let session := snap.sessionOf intent.agentSessionId
  failIf (∃ current ∈ session.currentTurn, current ≠ intent.turnId) .invalidTransition
  failIf (intent.approvalId ∈ session.approvalWinners) .alreadyResolved
  (match session.openApproval with
  | some opened => .error
      (if opened ≠ intent.approvalId then .invalidTransition else .alreadyExists)
  | none => .ok ())
  pure [.providerApprovalPresented { intent with
    providerKind := agent.providerKind, providerSessionId }]

/-- `decide_settle_provider_wait`, L2196-2241 -/
def decideSettleProviderWait (fence : ProviderWaitFence) : Except RejectionCode (List Event) := do
  let snap ← requireOpenOrClosingTask snapshot envelope
  requireExpectedRevision snap envelope
  failIf (fence.taskId ≠ snap.task.id) .ownershipConflict
  mapErr (validateProviderFence fence.identity none none none) fun _ => .invalidTransition
  let session ← okOr snap.providerSessions[fence.agentSessionId]? .notFound
  let record ← okOr session.waits[fence.commandId]? .notFound
  failIf (record.fence ≠ fence) .invalidTransition
  let agent ← okOr snap.agents[fence.agentSessionId]? .notFound
  requireLiveAgent agent
  failIf (agent.runtimeGeneration ≠ fence.runtimeGeneration) .invalidTransition
  failIf (snap.task.actionEpoch ≠ fence.actionEpoch) .invalidTransition
  failIf (¬ record.pending) .alreadyExists
  pure [.providerWaitSettled fence]

/-! ## The browser -/

/-- `browser_rejection`, L1898-1908 -/
def browserRejection : BrowserContractError → RejectionCode
  | .crossTask => .ownershipConflict
  | _ => .invalidTransition

/-- `decide_browser`, L1880-1896 -/
def decideBrowser (request : BrowserRequest) : Except RejectionCode (List Event) := do
  let snap ← requireRuntimeCapableTask snapshot envelope
  requireExpectedRevision snap envelope
  failIf (request.taskId ≠ snap.task.id) .ownershipConflict
  let accepted ← mapErr (snap.browser.planAdmit request) browserRejection
  pure ((accepted.bindCommand envelope.commandId snap.task.actionEpoch).facts.map Event.browser)

/-- `NativeBrowserSessionProjection`, `native_browser.rs:26-34` -/
structure NativeBrowserSessionProjection where
  taskId : TaskId
  agentSessionId : AgentSessionId
  contextId : BrowserContextId
  resourceId : ResourceId
  generation : ℕ
  tabId : BrowserTabId
  startUrl : String
deriving DecidableEq

variable (snap : TaskSnapshot)

/-- The tab a native session shows (`native_browser.rs:100-109`). -/
def nativeBrowserTab (contextId : BrowserContextId)
    (context : ContextState) : Option (BrowserTabId × TabState) :=
  snap.browser.tabs.toList.find? fun (tabId, tab) =>
    some tabId = context.selectedTabId && tab.contextId = contextId &&
      tab.taskId = snap.task.id && !tab.closed

/-- `from_snapshot`, `native_browser.rs:44-122` -/
def NativeBrowserSessionProjection.fromSnapshot :
    Except RejectionCode (Option NativeBrowserSessionProjection) := do
  failIf (¬ (snap.task.lifecycle = .opened ∨ snap.task.lifecycle = .settled)) .invalidTransition
  let resources := (snap.resources.toList.map Prod.snd).filter fun resource =>
    resource.resourceKind = .browserContext && resource.lifecycle ≠ .released
  let contexts := snap.browser.contexts.toList.filter fun entry => !entry.2.closed
  match resources, contexts with
  | [], [] => pure none
  | [resource], [(id, context)] => do
    let contextId ← okOr (match resource.recipe with
      | .browser _ contextId => contextId
      | _ => none) .ownershipConflict
    failIf (resource.taskId ≠ some snap.task.id ∨ resource.ownerKind ≠ .task ∨
      resource.lifecycle ≠ .active ∨ contextId ≠ id ∨ context.taskId ≠ snap.task.id ∨
      context.generation = 0 ∨ resource.runtimeGeneration ≠ context.generation)
      .ownershipConflict
    let agentSessionId ← okOr snap.primaryAgentId .notFound
    let agent ← okOr snap.agents[agentSessionId]? .notFound
    failIf (agent.taskId ≠ snap.task.id ∨ agent.lifecycle ≠ .opened) .invalidTransition
    let (tabId, tab) ← okOr (nativeBrowserTab snap id context) .invalidTransition
    pure (some {
      taskId := snap.task.id, agentSessionId, contextId := id, resourceId := resource.id,
      generation := context.generation, tabId, startUrl := tab.committedUrl.getD "about:blank" })
  | _, _ => .error .ownershipConflict

/-- One round of the loop of `decide_open` (`native_browser.rs:178-193`): plan a request, and
apply its facts to the working copy of the book. -/
def planOpenRequest (envelope : CommandEnvelope) (book : BrowserBook)
    (request : BrowserRequest) : Except RejectionCode (BrowserBook × List BrowserDurableFact) := do
  let accepted ← mapErr (book.planAdmit request) fun _ => RejectionCode.invalidTransition
  let facts := (accepted.bindCommand envelope.commandId snap.task.actionEpoch).facts
  let book ← mapErr (book.applyFacts facts) fun _ => RejectionCode.invalidTransition
  pure (book, facts)

/-- The context id and start URL of a browser recipe (`native_browser.rs:144-150`). -/
def browserRecipe : ResourceRecipe → Option (BrowserContextId × String)
  | .browser startUrl (some contextId) => some (contextId, startUrl)
  | _ => none

/-- `decide_open`, `native_browser.rs:125-199` -/
def decideOpen (envelope : CommandEnvelope)
    (intent : OpenTaskBrowserIntent) : Except RejectionCode (List Event) := do
  let existing ← NativeBrowserSessionProjection.fromSnapshot snap
  failIf existing.isSome .alreadyExists
  let agent ← okOr snap.agents[intent.agentSessionId]? .notFound
  failIf (snap.primaryAgentId ≠ some intent.agentSessionId ∨ agent.taskId ≠ snap.task.id ∨
    agent.lifecycle ≠ .opened) .ownershipConflict
  let resource := intent.resource
  let (contextId, startUrl) ← okOr (browserRecipe resource.recipe) .invalidTransition
  failIf (¬ isOk resource.validate ∨ resource.resourceKind ≠ .browserContext ∨
    resource.ownerKind ≠ .task ∨ resource.taskId ≠ some snap.task.id ∨
    resource.lifecycle ≠ .active ∨ resource.runtimeGeneration ≠ 1 ∨ startUrl ≠ "about:blank" ∨
    intent.createRequestId = intent.openRequestId) .ownershipConflict
  failIf (resource.id ∈ snap.resources) .alreadyExists
  let (book, created) ← planOpenRequest snap envelope snap.browser {
    requestId := intent.createRequestId, taskId := snap.task.id, contextId, tabId := none,
    generation := resource.runtimeGeneration, action := .createContext }
  let (_, opened) ← planOpenRequest snap envelope book {
    requestId := intent.openRequestId, taskId := snap.task.id, contextId,
    tabId := some intent.tabId, generation := resource.runtimeGeneration,
    action := .openTab startUrl .page }
  pure ((created ++ opened).map Event.browser ++ [.resourceRegistered resource])

/-- In `decide`, L1723-1727 -/
def decideOpenTaskBrowser (intent : OpenTaskBrowserIntent) : Except RejectionCode (List Event) := do
  let snap ← requireRuntimeCapableTask snapshot envelope
  requireExpectedRevision snap envelope
  decideOpen snap envelope intent

/-! ## `decide` -/

/-- `decide` (L1426-1793); `operationId` is what `OperationId::new()` mints. -/
def Command.decide (operationId : OperationId) : Except RejectionCode (List Event) :=
  match envelope.command with
  | .createTask intent => decideCreateTask snapshot envelope intent
  | .createTaskV2 => .error .invalidTransition
  | .renameTask title => decideRenameTask snapshot envelope title
  | .setTaskAttention attention => decideSetTaskAttention snapshot envelope attention
  | .settleTask => decideSettleTask snapshot envelope
  | .beginCloseTask => decideBeginClose snapshot envelope
  | .reopenTask => decideReopenTask snapshot envelope
  | .deleteTask => decideDeleteTask snapshot envelope
  | .registerAgentSession agent => decideRegisterAgentSession snapshot envelope agent
  | .bindProviderSession agent resource session generation =>
    decideBindProviderSession snapshot envelope agent resource session generation
  | .abandonProviderSession agent abandoned generation =>
    decideAbandonProviderSession snapshot envelope agent abandoned generation
  | .setPrimaryAgent agent => decideSetPrimaryAgent snapshot envelope agent
  | .rebindUnstartedPrimaryProvider agent kind =>
    decideRebindUnstartedPrimaryProvider snapshot envelope agent kind
  | .registerArtifact artifact => decideRegisterArtifact snapshot envelope artifact
  | .registerResource resource => decideRegisterResource snapshot envelope resource
  | .releaseResource resource => decideReleaseResource snapshot envelope resource
  | .confirmHostQuit => .error .invalidTransition
  | .submitProviderInput intent =>
    decideSubmitProviderInput snapshot envelope operationId intent
  | .presentProviderQuestion intent => decidePresentProviderQuestion snapshot envelope intent
  | .presentProviderApproval intent => decidePresentProviderApproval snapshot envelope intent
  | .settleProviderWait fence => decideSettleProviderWait snapshot envelope fence
  | .requestSpecialist intent => decideRequestSpecialist snapshot envelope intent
  | .promotePrimary intent => decidePromotePrimary snapshot envelope intent
  | .cancelSpecialist intent => decideCancelSpecialist snapshot envelope intent
  | .acceptSpecialistHandoff intent => decideAcceptSpecialistHandoff snapshot envelope intent
  | .promptLibrary | .promptChain => .error .invalidTransition
  | .serviceControl | .startProviderSession => .error .invalidTransition
  | .browser request => decideBrowser snapshot envelope request
  | .openTaskBrowser intent => decideOpenTaskBrowser snapshot envelope intent
  | .prepareUpdate | .confirmUpdateDrain | .abortUpdateHandoff | .armUpdateInstall =>
    .error .invalidTransition
  | .openShellTerminal resource => decideOpenShellTerminal snapshot envelope resource
  | .closeTerminal resource => decideCloseTerminal snapshot envelope resource
  | .renameTerminal resource title => decideRenameTerminal snapshot envelope resource title
  | .setTerminalStrip strip => decideSetTerminalStrip snapshot envelope strip

end Decide

end DevManager
