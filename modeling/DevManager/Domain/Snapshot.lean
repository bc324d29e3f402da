import DevManager.Domain.Browser
import DevManager.Domain.ProviderInput
import DevManager.Domain.Resource

/-!
# The task snapshot (`src/domain/snapshot.rs`)

`TaskSnapshot` is everything the kernel knows of one task; `apply` folds domain
events into it and `decide` reads it.
-/

namespace DevManager

open Std (ExtTreeMap)

/-- `TaskSnapshot`, L26-40 -/
structure TaskSnapshot where
  task : TaskFacts
  connectivity : TaskConnectivity
  attention : TaskAttention
  activity : TaskActivity
  reviewReadiness : ReviewReadiness
  agents : ExtTreeMap AgentSessionId AgentSessionFacts
  primaryAgentId : Option AgentSessionId
  artifacts : ExtTreeMap ArtifactId ArtifactFacts
  resources : ExtTreeMap ResourceId ResourceFacts
  providerSessions : ExtTreeMap AgentSessionId ProviderSessionProjection
  browser : BrowserBook
  terminalFacts : ExtTreeMap ResourceId TerminalFacts
  terminalStrip : TaskTerminalStrip

/-- `DEFAULT_MAX_TOP_LEVEL_RUNTIMES`, `command.rs:946` -/
def defaultMaxTopLevelRuntimes : ℕ := 2

/-- The provider session has seen input (L60-64). -/
def ProviderSessionProjection.started (session : ProviderSessionProjection) : Bool :=
  session.currentTurn.isSome || session.openQuestion.isSome || session.openApproval.isSome ||
    !session.waits.isEmpty || session.lastSettlement.isSome

namespace TaskSnapshot

variable (snap : TaskSnapshot)

/-- `is_unstarted_draft`, L48-72 -/
def isUnstartedDraft : Bool :=
  snap.task.lifecycle = .opened &&
    !OrdMap.valuesAny snap.agents (fun agent => agent.providerSessionId.isSome) &&
    !OrdMap.valuesAny snap.providerSessions ProviderSessionProjection.started &&
    match snap.primaryAgentId with
    | none => false
    | some primary => snap.agents[primary]?.isSome

/-- An agent that counts as a top-level runtime (`command.rs:2325-2331`, `event.rs:2746-2752`):
every role does. -/
def isTopLevelRuntime (agent : AgentSessionFacts) : Bool :=
  agent.lifecycle = .opened && (agent.role.isPrimary || agent.role.isSpecialist)

/-- `top_level_runtime_count`, `command.rs:2322-2333` -/
def topLevelRuntimeCount : ℕ :=
  OrdMap.countValues snap.agents isTopLevelRuntime

variable (id : AgentSessionId)

/-- `self.provider_sessions.get(id).cloned().unwrap_or_default()`. -/
def sessionOf : ProviderSessionProjection :=
  snap.providerSessions[id]?.getD .default

/-! ## Writing one part of a snapshot -/

def withLifecycle (lifecycle : TaskLifecycle) : TaskSnapshot :=
  { snap with task := { snap.task with lifecycle } }

def withRevision (revision : ℕ) : TaskSnapshot :=
  { snap with task := { snap.task with revision } }

def setAgent (agent : AgentSessionFacts) :
    TaskSnapshot :=
  { snap with agents := snap.agents.insert id agent }

def setResource (id : ResourceId) (resource : ResourceFacts) : TaskSnapshot :=
  { snap with resources := snap.resources.insert id resource }

def setSession (session : ProviderSessionProjection) : TaskSnapshot :=
  { snap with providerSessions := snap.providerSessions.insert id session }

def setTerminal (id : ResourceId) (facts : TerminalFacts) : TaskSnapshot :=
  { snap with terminalFacts := snap.terminalFacts.insert id facts }

end TaskSnapshot

end DevManager
