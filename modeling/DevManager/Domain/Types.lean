import DevManager.Domain.Canonical
import DevManager.Domain.Id

/-!
# The data model of the domain

The records and enumerations of `src/domain/{task,agent,artifact,resource,
terminal_facts,provider_input,browser}.rs`, field by field. `String` stands for
both `String` and `PathBuf` (paths are only compared, measured and asked whether
they are absolute), `ℕ` for `u64`/`u32`/`u16`, `ℤ` for `i64`/`i32`.

`RepositoryFingerprint` and `ProviderSessionId` have private fields and one
validating constructor in the source; here they carry the constructor's check as
a field, so an unchecked value cannot be built.
-/

namespace DevManager

/-- `[u8; 32]`, a SHA-256 digest. -/
abbrev Digest := Vector UInt8 32

/-- `ProviderKind`, `src/providers/capabilities.rs:76-80` -/
inductive ProviderKind
  | claudeCode | codex | cursor
deriving DecidableEq

/-! ## `task.rs` -/

/-- `TaskLifecycle`, `task.rs:825-844` -/
inductive TaskLifecycle
  | opened | settled | closing | archived | deleted
deriving DecidableEq

inductive TaskConnectivity
  | connected | disconnected

inductive TaskAttention
  | none | needsAnswer | needsApproval | uncertainOutcome | failed

inductive TaskActivity
  | idle | working | settling

inductive ReviewReadiness
  | notReady | ready

/-- `TaskValidationError`, `task.rs:13-23` -/
inductive TaskValidationError
  | emptyTitle | emptyDescription | emptyPath | emptyBranch | emptyRepositoryFingerprint
  | invalidRepositoryFingerprint | emptyPrincipalAuthority | emptyPrincipalSubject
  | invalidCreateState
deriving DecidableEq

/-- `b'0'..=b'9' | b'a'..=b'f'`. -/
def isLowerHex (c : Char) : Bool :=
  (0x30 ≤ c.toNat && c.toNat ≤ 0x39) || (0x61 ≤ c.toNat && c.toNat ≤ 0x66)

/-- The checks of `RepositoryFingerprint::from_host_token` (`task.rs:72-87`): the prefix
`sha256:` and 64 lower-case hexadecimal digits. -/
def hostTokenOk (token : String) : Bool :=
  "sha256:".toList.isPrefixOf token.toList &&
    ((token.toList.drop 7).length == 64 && (token.toList.drop 7).all isLowerHex)

/-- `RepositoryFingerprint`, `task.rs:63` -/
structure RepositoryFingerprint where
  token : String
  hostToken : hostTokenOk token = true
deriving DecidableEq

/-- `from_host_token`, `task.rs:72-87` -/
def RepositoryFingerprint.fromHostToken (token : String) :
    Except TaskValidationError RepositoryFingerprint :=
  if trim token = "" then .error .emptyRepositoryFingerprint
  else if h : hostTokenOk token = true then .ok ⟨token, h⟩
  else .error .invalidRepositoryFingerprint

inductive WorkspaceBindingKind
  | main | worktree | external
deriving DecidableEq

/-- `WorkspacePathFact`, `task.rs:120-129` -/
structure WorkspacePathFact where
  path : String
  identity : String
  opaqueId : String
  contentLength : Option ℕ
  contentFingerprint : Option RepositoryFingerprint

/-- `WorkspaceBindingFact`, `task.rs:267-280` -/
structure WorkspaceBindingFact where
  kind : WorkspaceBindingKind
  projectRoot : WorkspacePathFact
  workspaceRoot : WorkspacePathFact
  repositoryRoot : Option WorkspacePathFact
  commonGitDir : Option WorkspacePathFact
  adminDir : Option WorkspacePathFact
  marker : Option WorkspacePathFact
  commondir : Option WorkspacePathFact
  gitdir : Option WorkspacePathFact
  head : Option WorkspacePathFact
  branch : Option String
  bindingFingerprint : RepositoryFingerprint

/-- `WorkspaceRef`, `task.rs:559-583` -/
inductive WorkspaceRef
  | main
  | worktree (path branch : String)
  | external (path : String)
  | mainWithFingerprint (repositoryFingerprint : RepositoryFingerprint)
  | worktreeWithFingerprint (path branch : String) (repositoryFingerprint : RepositoryFingerprint)
  | hostBound (binding : WorkspaceBindingFact)
  | externalWithFingerprint (path : String) (binding : WorkspaceBindingFact)

/-- `TaskAssignment`, `task.rs:923-926` -/
inductive TaskAssignment
  | localOwner
  | externalPrincipal (authority subject : String)

/-- `TaskFacts`, `task.rs:980-992` -/
structure TaskFacts where
  id : TaskId
  environmentId : EnvironmentId
  title : String
  description : Option String
  projectId : ProjectId
  workspace : WorkspaceRef
  assignment : TaskAssignment
  lifecycle : TaskLifecycle
  actionEpoch : ℕ
  revision : ℕ
  createdAtMs : ℤ

/-! ## `agent.rs` -/

/-- `is_unsafe_provider_session_character`, `agent.rs:185-200` -/
def isUnsafeProviderSessionCharacter (c : Char) : Bool :=
  isControl c || (0x200b ≤ c.toNat && c.toNat ≤ 0x200f) ||
    (0x202a ≤ c.toNat && c.toNat ≤ 0x202e) || (0x2060 ≤ c.toNat && c.toNat ≤ 0x2064) ||
    (0x2066 ≤ c.toNat && c.toNat ≤ 0x2069) || c.toNat == 0xfeff

/-- `MAX_PROVIDER_SESSION_ID_BYTES`, `agent.rs:13` -/
def maxProviderSessionIdBytes : ℕ := 256

/-- The checks of `ProviderSessionId::new` (`agent.rs:64-79`). -/
def providerSessionIdOk (value : String) : Bool :=
  value ≠ "" && trim value = value && value.utf8ByteSize ≤ maxProviderSessionIdBytes &&
    !value.toList.any isUnsafeProviderSessionCharacter

/-- `ProviderSessionId`, `agent.rs:52` -/
structure ProviderSessionId where
  value : String
  checked : providerSessionIdOk value = true
deriving DecidableEq

inductive AgentValidationError
  | emptyProviderSessionId | emptySpecialistName | invalidRegistrationState
deriving DecidableEq

/-- `SpecialistPermission`, `agent.rs:233-237` -/
inductive SpecialistPermission
  | readOnly
  | isolatedWrite
  | sharedWrite (explicitApproval : Bool)
deriving DecidableEq

/-- `AgentRole`, `agent.rs:241-244` -/
inductive AgentRole
  | primary
  | specialist (name : String)
deriving DecidableEq

/-- `AgentSessionLifecycle`, `agent.rs:285-289` -/
inductive AgentSessionLifecycle
  | opened | closing | closed
deriving DecidableEq

/-- `AgentSessionFacts`, `agent.rs:292-301` -/
structure AgentSessionFacts where
  id : AgentSessionId
  taskId : TaskId
  role : AgentRole
  providerKind : ProviderKind
  providerSessionId : Option ProviderSessionId
  lifecycle : AgentSessionLifecycle
  runtimeGeneration : ℕ
  revision : ℕ

/-! ## `artifact.rs` -/

inductive ArtifactValidationError
  | emptyLabel | emptyContent | contentDigestMismatch | invalidSpecialistResult
deriving DecidableEq

inductive ArtifactKind
  | specification | finding | decision | evidence | reviewReport
deriving DecidableEq

inductive PrivacyClass
  | localOnly | shareable
deriving DecidableEq

inductive SpecialistStatus
  | completed | failed | cancelled

/-- `SpecialistResult`, `artifact.rs:68-77` -/
structure SpecialistResult where
  role : String
  status : SpecialistStatus
  summary : String
  evidence : List ArtifactId
  artifacts : List ArtifactId
  workspace : Option WorkspaceRef
  commit : Option String
  requestedFollowUp : Option String

/-- `ArtifactContentRef`, `artifact.rs:209-212` -/
inductive ArtifactContentRef
  | inlineUtf8 (body : String)
  | contentAddressed (digestHex : String)

/-- `ArtifactFacts`, `artifact.rs:290-299` -/
structure ArtifactFacts where
  id : ArtifactId
  taskId : TaskId
  kind : ArtifactKind
  label : String
  contentRef : ArtifactContentRef
  sha256 : Digest
  privacyClass : PrivacyClass
  createdAtMs : ℤ

/-! ## `resource.rs` and `terminal_facts.rs` -/

/-- `ResourceValidationError`, `resource.rs:10-18` -/
inductive ResourceValidationError
  | invalidTerminalGeometry | invalidTerminalLaunch | invalidTerminalTitle | emptyRecipe
  | ownerBinding | kindRecipeMismatch | invalidRegistrationLifecycle
deriving DecidableEq

inductive OwnerKind
  | task | host
deriving DecidableEq

inductive ResourceKind
  | terminal | browserContext | service
deriving DecidableEq

inductive ResourceLifecycle
  | active | releasing | released
deriving DecidableEq

/-- `TerminalLaunch`, `resource.rs:92-96` -/
structure TerminalLaunch where
  cwd : String
  program : String
  args : List String

/-- `ResourceRecipe` (`resource.rs:109-133`). A terminal with a launch is a plain shell, one
without is owned by a provider. -/
inductive ResourceRecipe
  | terminal (cols rows : ℕ) (launch : Option TerminalLaunch) (title : Option String)
  | browser (startUrl : String) (contextId : Option BrowserContextId)
  | service (command : String)

/-- `ResourceFacts`, `resource.rs:317-326` -/
structure ResourceFacts where
  id : ResourceId
  taskId : Option TaskId
  ownerKind : OwnerKind
  resourceKind : ResourceKind
  recipe : ResourceRecipe
  lifecycle : ResourceLifecycle
  runtimeGeneration : ℕ
  updatedAtMs : ℤ

/-- `TerminalExit`, `terminal_facts.rs:20-24` -/
structure TerminalExit where
  code : Option ℤ
  summary : String
  atMs : ℤ

/-- `TerminalFacts`, `terminal_facts.rs:28-35` -/
structure TerminalFacts where
  resourceId : ResourceId
  title : Option String
  liveCwd : Option String
  exit : Option TerminalExit
  createdAtMs : ℤ
  lastActivityAtMs : ℤ

/-- `TaskTerminalStrip`, `terminal_facts.rs:105-108` -/
structure TaskTerminalStrip where
  order : List ResourceId
  focused : Option ResourceId

/-! ## `provider_input.rs` -/

/-- `ProviderInputIntentError`, `provider_input.rs:31-44` -/
inductive ProviderInputIntentError
  | emptyText | textTooLarge | inconsistentNestedIds | questionWinnerLimit | approvalWinnerLimit
  | waitLimit | missingOperationId | invalidFence | imageAttachmentInvalid | tooManyImages
deriving DecidableEq

/-- `ProviderImageAttachment`, `provider_input.rs:94-99` -/
structure ProviderImageAttachment where
  path : String
  sha256 : Digest
  byteLen : ℕ
deriving DecidableEq

/-- `ProviderInputAction`, `provider_input.rs:181-209` -/
inductive ProviderInputAction
  | sendNow (text : String) (wait : Bool) (images : List ProviderImageAttachment)
  | steerCurrentTurn (text : String)
  | queueFollowUp (text : String)
  | answerQuestion (questionId : QuestionId) (answer : String)
  | resolveApproval (approvalId : ApprovalId) (allow : Bool)
  | terminalInput (text : String)
  | stopTurn
deriving DecidableEq

inductive ProviderIntentPhase
  | accepted

inductive ProviderDeliveryHoldReason
  | destinationAdapterNotWired

/-- `ProviderDeliveryVisibility`, `provider_input.rs:333-336` -/
inductive ProviderDeliveryVisibility
  | hold (reason : ProviderDeliveryHoldReason)
  | delivered

/-- `ProviderInputSettlement`, `provider_input.rs:365-370` -/
structure ProviderInputSettlement where
  commandId : CommandId
  operationId : Option OperationId
  intent : ProviderIntentPhase
  delivery : ProviderDeliveryVisibility

/-- `ProviderResolutionWinner`, `provider_input.rs:389-393` -/
structure ProviderResolutionWinner where
  commandId : CommandId
  clientId : ClientId
  acceptedAtMs : ℤ

/-- `ProviderWaitFence`, `provider_input.rs:404-416` -/
structure ProviderWaitFence where
  commandId : CommandId
  taskId : TaskId
  operationId : Option OperationId
  actionEpoch : ℕ
  agentSessionId : AgentSessionId
  providerKind : Option ProviderKind
  providerSessionId : Option ProviderSessionId
  runtimeGeneration : ℕ
  turnId : TurnId
  questionId : Option QuestionId
  approvalId : Option ApprovalId
deriving DecidableEq

/-- `ProviderWaitRecord`, `provider_input.rs:397-400` -/
structure ProviderWaitRecord where
  fence : ProviderWaitFence
  pending : Bool

/-- `ProviderFenceIdentity`, `provider_input.rs:545-557` -/
structure ProviderFenceIdentity where
  commandId : Option CommandId
  taskId : Option TaskId
  agentSessionId : AgentSessionId
  providerKind : Option ProviderKind
  providerSessionId : Option ProviderSessionId
  operationId : Option OperationId
  runtimeGeneration : ℕ
  actionEpoch : ℕ
  turnId : TurnId
  questionId : Option QuestionId
  approvalId : Option ApprovalId

/-- `ProviderFenceContext`, `provider_input.rs:616-627` -/
structure ProviderFenceContext where
  taskId : TaskId
  agentSessionId : AgentSessionId
  agentTaskId : TaskId
  providerKind : ProviderKind
  providerSessionId : Option ProviderSessionId
  runtimeGeneration : ℕ
  actionEpoch : ℕ
  lifecycle : AgentSessionLifecycle
  currentTurn : Option TurnId
  allowClosing : Bool

/-- `ProviderFenceError`, `provider_input.rs:630-644` -/
inductive ProviderFenceError
  | taskMismatch | agentSessionMismatch | agentOwnershipMismatch | runtimeGenerationMismatch
  | actionEpochMismatch | turnMismatch | agentNotLive | invalidNestedIds | waitFlagMismatch
  | missingProviderIdentity | providerKindMismatch | providerSessionMismatch | missingOperationId

/-! ## `browser.rs` -/

/-- `BrowserPermission`, `browser.rs:363-386` -/
inductive BrowserPermission
  | createContext | closeContext | openTab | closeTab | selectTab | navigate | history | setBounds
  | setVisibility | setFocus | capture | automate | download | clipboard | fileChooser | secretFill
  | permissionDecide | record | replay | cancel | recover | linkArtifact
deriving DecidableEq

inductive BrowserHealth
  | healthy | recovering | interrupted
deriving DecidableEq

inductive BrowserTabKind
  | page
  | popup (opener : BrowserTabId)
deriving DecidableEq

inductive BrowserContractError
  | crossTask | generationMismatch | closedTask | idempotencyConflict | boundExceeded
  | invalidRequest | hostEffectUnavailable
deriving DecidableEq

/-- `BrowserAction`, `browser.rs:551-606` -/
inductive BrowserAction
  | createContext
  | closeContext
  | openTab (url : String) (kind : BrowserTabKind)
  | closeTab
  | selectTab
  | navigate (url : String)
  | back
  | forward
  | reload
  | stop
  | setBounds (width height : ℕ)
  | setVisibility (visible : Bool)
  | setFocus (focused : Bool)
  | capture
  | automate
  | decideDownload (allow : Bool)
  | readClipboard
  | writeClipboard
  | chooseFile (artifactId : ArtifactId)
  | fillSecret (vaultRef fieldSelector : String)
  | decidePermission (permission : BrowserPermission) (allowed : Bool)
  | record
  | replay
  | cancel
  | recover
  | linkArtifact (artifactId : ArtifactId)
deriving DecidableEq

/-- `BrowserRequest`, `browser.rs:691-698` -/
structure BrowserRequest where
  requestId : BrowserRequestId
  taskId : TaskId
  contextId : BrowserContextId
  tabId : Option BrowserTabId
  generation : ℕ
  action : BrowserAction
deriving DecidableEq

/-- The fields of `BrowserDurableFact::RequestAccepted` (`browser.rs:452-464`). -/
structure RequestAcceptedFact where
  requestId : BrowserRequestId
  taskId : TaskId
  contextId : BrowserContextId
  tabId : Option BrowserTabId
  generation : ℕ
  action : BrowserAction
  privacyClass : PrivacyClass
  permission : BrowserPermission
  payloadHash : Digest
  actionEpoch : ℕ
  commandId : Option CommandId
deriving DecidableEq

/-- `BrowserDurableFact`, `browser.rs:451-541` -/
inductive BrowserDurableFact
  | requestAccepted (fact : RequestAcceptedFact)
  | contextCreated (contextId : BrowserContextId) (taskId : TaskId) (generation : ℕ)
  | contextClosed (contextId : BrowserContextId) (taskId : TaskId) (generation : ℕ)
  | tabOpened (tabId : BrowserTabId) (contextId : BrowserContextId) (taskId : TaskId)
      (kind : BrowserTabKind) (url : String)
  | tabClosed (tabId : BrowserTabId) (contextId : BrowserContextId) (taskId : TaskId)
  | tabSelected (tabId : BrowserTabId) (contextId : BrowserContextId) (taskId : TaskId)
  | navigationCommitted (tabId : BrowserTabId) (contextId : BrowserContextId) (taskId : TaskId)
      (url documentId : String)
  | permissionDecided (contextId : BrowserContextId) (taskId : TaskId)
      (permission : BrowserPermission) (allowed : Bool)
  | artifactLinked (contextId : BrowserContextId) (taskId : TaskId) (artifactId : ArtifactId)
  | recipeIdentified (contextId : BrowserContextId) (taskId : TaskId) (recipeId : String)
  | recordingIdentified (contextId : BrowserContextId) (taskId : TaskId) (recordingId : String)
  | downloadSettled (contextId : BrowserContextId) (taskId : TaskId) (allowed : Bool)
      (fileName : String) (sha256Hex : Option String) (artifactId : Option ArtifactId)
  | healthTransitioned (contextId : BrowserContextId) (taskId : TaskId)
      (fromHealth toHealth : BrowserHealth) (generation : ℕ)
deriving DecidableEq

end DevManager
