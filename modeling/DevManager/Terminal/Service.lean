import DevManager.Lib.Calls
import DevManager.Terminal.Methods

/-!
# The terminal service (`src/terminal/service.rs`)

The service is a map of hosted terminals behind one lock, so its calls happen one
after the other. Between them the process behind a terminal acts: its reader
publishes output, its end is noticed, its fence is retired, it is restarted. Both
are calls here, on one terminal (`HostedCall`) or on the service (`TerminalCall`).
-/

namespace DevManager.Terminal

open Std (ExtTreeMap)

variable [TerminalEmulator]

/-! ## Opening -/

namespace HostedTerminal

variable (taskId : TaskId) (spec : TerminalSpec) (resourceId : ResourceId)

/-- The fields that `open_fixture` and `open_attached` share (L256-295,
`326-364`). -/
def opened
    (generation : TerminalGeneration) (projection : ProjectionSource) (title : Option String) :
    HostedTerminal where
  taskId := taskId
  agentSessionId := none
  runtimeGeneration := none
  actionEpoch := none
  sessionId := spec.sessionId
  resourceId := resourceId
  generation := generation
  sequence := .zero
  focusEpoch := .initial
  spec := spec
  projection := projection
  pendingOutput := .default
  pendingLifecycle := []
  closed := false
  exitSummary := none
  isPlainShell := false
  unknown := false
  truncated := false
  observedOutputBytes := 0
  outputPressureCoalesced := false
  acceptedInputSequence := 0
  acceptedInputIds := ∅
  acceptedBytes := []
  lastRows := rowsFromScreen projection.screen
  lastCursor := projection.screen.cursor
  lastModes := projection.screen.mode
  lastTitle := title
  deltas := []
  clients := ∅

/-- `open_fixture` (L237-292). The new grid shows `blank`. -/
def openFixture (blank : TerminalScreenSnapshot) : Except TerminalError HostedTerminal := do
  let spec ← spec.validated
  let grid : FixtureGrid := {
    screen := blank.boundHistory spec.maxScrollbackRows, view := ⟨spec.title, spec.size⟩,
    scrollbackBytes := 0 }
  return opened taskId spec resourceId .initial (.fixture grid) spec.title

/-- `open_attached`, L294-361 -/
def openAttached (runtime : AttachedRuntime) :
    Except TerminalError HostedTerminal := do
  let spec ← spec.validated
  let attachment ← runtime.fence
  let projection := (ProjectionSource.attached runtime).boundHistory spec.maxScrollbackRows
  let title := match runtime.view with
    | .ok view => view.title <|> spec.title
    | .error _ => spec.title
  return opened taskId spec attachment.resourceId attachment.generation projection title

/-- `attach_bound_task_runtime`, before the slot check (L1183-1191). -/
def openBound (runtime : AttachedRuntime)
    (agentSessionId : AgentSessionId) (runtimeGeneration actionEpoch : ℕ) :
    Except TerminalError HostedTerminal := do
  failIf (runtimeGeneration = 0 ∨ actionEpoch = 0) .invalidFence
  let hosted ← openAttached taskId spec runtime
  return { hosted with
    agentSessionId := some agentSessionId, runtimeGeneration := some runtimeGeneration,
    actionEpoch := some actionEpoch }

/-- `attach_plain_shell`, before the slot check (L1214-1223). -/
def openPlainShell (resourceGeneration : ℕ)
    (spec : TerminalSpec) (runtime : AttachedRuntime) : Except TerminalError HostedTerminal := do
  let generation ← TerminalGeneration.fromRaw resourceGeneration
  let attachment ← runtime.fence
  failIf (attachment.resourceId ≠ resourceId ∨ attachment.generation ≠ generation) .invalidFence
  let hosted ← openAttached taskId spec runtime
  return { hosted with isPlainShell := true }

/-! ## Calls on one terminal -/

/-- The reader has parsed a chunk of `chunkLen` bytes and runs the output sink
(`session.rs:2950-2975`, L312-319). A read of no bytes is the end of the stream. -/
def readerOutput (screen : TerminalScreenSnapshot) (title : Option String) (chunkLen : ℕ)
    (t : HostedTerminal) : HostedTerminal :=
  match t.projection with
  | .fixture _ => t
  | .attached runtime =>
    if chunkLen = 0 then t
    else
      { t with
        projection := .attached { runtime with
          screen
          view := runtime.view.map fun view => { view with title } }
        pendingOutput := t.pendingOutput.push chunkLen }

/-- The lifecycle sink (L320-325). -/
def notifyLifecycle (event : TerminalLifecycleEvent) (t : HostedTerminal) : HostedTerminal :=
  { t with pendingLifecycle := t.pendingLifecycle ++ [event] }

/-- A change of the attached runtime that its process makes. -/
def onRuntime (f : AttachedRuntime → AttachedRuntime) (t : HostedTerminal) : HostedTerminal :=
  match t.projection with
  | .fixture _ => t
  | .attached runtime => { t with projection := .attached (f runtime) }

/-- The managed teardown retires the fence; the screen stays (`session.rs:746-765`). -/
def retireFence : HostedTerminal → HostedTerminal :=
  onRuntime fun runtime => { runtime with fence := .error .teardownFenceMissing }

/-- `restart_command` publishes the fence of a new process. On the same resource it refuses a
generation that is not newer than the attached one (`session.rs:1168`, `3513-3546`). -/
def restartProcess (fence : AttachmentFence) (screen : TerminalScreenSnapshot) (view : RuntimeView)
    (t : HostedTerminal) : HostedTerminal :=
  if fence.resourceId = t.resourceId ∧ fence.generation.get ≤ t.generation.get then t
  else onRuntime (fun runtime => { runtime with fence := .ok fence, screen, view := .ok view }) t

/-- The session's runtime entry is gone, so `session_view` fails (`session.rs:819-824`). -/
def loseView : HostedTerminal → HostedTerminal :=
  onRuntime fun runtime => { runtime with view := .error .canonicalReaderPoisoned }

/-- Which calls of the runtime fail from now on. -/
def setFaults (writeFails resizeFails scrollFails closeFails : Bool) :
    HostedTerminal → HostedTerminal :=
  onRuntime fun runtime => { runtime with writeFails, resizeFails, scrollFails, closeFails }

/-- `grant_client`, L1439-1457 -/
def grantClient (clientId : ClientId) (grant : ClientInputGrant) : TerminalM PUnit := do
  ensureOpen
  modify fun t => { t with clients := t.clients.insert clientId ⟨grant, none, none⟩ }

/-- `disconnect_view`, L1427-1437 -/
def disconnectView (clientId : ClientId) : TerminalM PUnit := do
  ensureOpen
  modify fun t => { t with clients := t.clients.erase clientId }

/-- `retarget_task`, L1676-1682 -/
def retargetTask : TerminalM PUnit := do
  ensureOpen
  modify fun t => { t with taskId }

/-- `retarget_session`, L1684-1694 -/
def retargetSession (sessionId : TerminalSessionId) : TerminalM PUnit := do
  ensureOpen
  modify fun t => { t with sessionId }

/-- `advance_focus`, L1696-1702 -/
def advanceFocus : TerminalM FocusEpoch := do
  ensureOpen
  let t ← get
  let focusEpoch ← liftResult t.focusEpoch.next
  set { t with focusEpoch }
  return focusEpoch

/-- `bind_task_identity`, L1236-1271 -/
def bindTaskIdentity (agentSessionId : AgentSessionId) (runtimeGeneration actionEpoch : ℕ) :
    TerminalM PUnit := do
  ensureOpen
  let t ← get
  if t.agentSessionId = some agentSessionId ∧ t.runtimeGeneration = some runtimeGeneration ∧
      t.actionEpoch = some actionEpoch then
    pure ()
  else if t.agentSessionId = none ∧ t.runtimeGeneration = none ∧ t.actionEpoch = none then
    set { t with
      agentSessionId := some agentSessionId, runtimeGeneration := some runtimeGeneration,
      actionEpoch := some actionEpoch }
  else
    throw .invalidFence

end HostedTerminal

/-- The calls that select a terminal by its task (L1738-1928). -/
inductive TaskCall
  | view
  | scroll (deltaLines : ℤ) (scrolled : TerminalScreenSnapshot)
  | resize (size : TerminalSize) (reflow : TerminalScreenSnapshot)

/-- What happens to one hosted terminal: acts of its process, and calls of clients. -/
inductive HostedCall
  | readerOutput (screen : TerminalScreenSnapshot) (title : Option String) (chunkLen : ℕ)
  | lifecycle (event : TerminalLifecycleEvent)
  | retireFence
  | restartProcess (fence : AttachmentFence) (screen : TerminalScreenSnapshot) (view : RuntimeView)
  | loseView
  | setFaults (writeFails resizeFails scrollFails closeFails : Bool)
  | admitReaderBytes (bytes : List UInt8) (shown : FixtureGrid)
  | pump
  | snapshot
  | updatesSince (clientId : ClientId) (generation : TerminalGeneration)
      (since : TerminalSequence)
  | write (envelope : InputEnvelope)
  | writeTaskInput (request : TerminalInputRequest)
  | resize (size : TerminalSize) (fence : Option ResizeFence) (reflow : TerminalScreenSnapshot)
  | close
  | grantClient (clientId : ClientId) (grant : ClientInputGrant)
  | disconnectView (clientId : ClientId)
  | bindTaskIdentity (agentSessionId : AgentSessionId) (runtimeGeneration actionEpoch : ℕ)
  | retargetTask (taskId : TaskId)
  | retargetSession (sessionId : TerminalSessionId)
  | advanceFocus
  | replaceGeneration (blank : TerminalScreenSnapshot)
  | task (call : TaskCall)

/-- What a call answers. -/
inductive TerminalAnswer
  | done
  | opened (terminalId : TerminalId)
  | sequence (sequence : TerminalSequence)
  | snapshot (snapshot : TerminalSnapshot)
  | update (update : ReplicaUpdate)
  | ack (ack : InputAck)
  | focus (epoch : FocusEpoch)
  | generation (generation : TerminalGeneration)
  | view (view : Option HostedTerminal.TaskTerminalView)
deriving DecidableEq

namespace HostedTerminal

variable (terminalId : TerminalId)

/-- A call that selected this terminal by its task. -/
def taskCall : TaskCall → TerminalM TerminalAnswer
  | .view => return .view (← taskTerminalView terminalId)
  | .scroll deltaLines scrolled => do
    scrollTaskTerminal terminalId deltaLines scrolled
    return .done
  | .resize size reflow => do
    ensureOpen
    resize terminalId size none reflow
    return .done

/-- A call on this terminal, once the service has found it. -/
def method : HostedCall → TerminalM TerminalAnswer
  | .readerOutput screen title chunkLen => do
    modify (HostedTerminal.readerOutput screen title chunkLen)
    return .done
  | .lifecycle event => do
    modify (notifyLifecycle event)
    return .done
  | .retireFence => do
    modify HostedTerminal.retireFence
    return .done
  | .restartProcess fence screen view => do
    modify (HostedTerminal.restartProcess fence screen view)
    return .done
  | .loseView => do
    modify HostedTerminal.loseView
    return .done
  | .setFaults writeFails resizeFails scrollFails closeFails => do
    modify (HostedTerminal.setFaults writeFails resizeFails scrollFails closeFails)
    return .done
  | .admitReaderBytes bytes shown =>
    return .sequence (← applyFixtureReaderBytes terminalId bytes shown)
  | .pump => do
    ensureOpen
    drainAttachedOutput terminalId
    return .done
  | .snapshot => do
    ensureOpen
    return .snapshot (← HostedTerminal.snapshot terminalId)
  | .updatesSince clientId generation since =>
    return .update (← HostedTerminal.updatesSince terminalId clientId generation since)
  | .write envelope => return .ack (← modifyGet (HostedTerminal.write envelope))
  | .writeTaskInput request => return .ack (← HostedTerminal.writeTaskInput request)
  | .resize size fence reflow => do
    HostedTerminal.resize terminalId size fence reflow
    return .done
  | .close => do
    HostedTerminal.close
    return .done
  | .grantClient clientId grant => do
    HostedTerminal.grantClient clientId grant
    return .done
  | .disconnectView clientId => do
    HostedTerminal.disconnectView clientId
    return .done
  | .bindTaskIdentity agentSessionId runtimeGeneration actionEpoch => do
    HostedTerminal.bindTaskIdentity agentSessionId runtimeGeneration actionEpoch
    return .done
  | .retargetTask taskId => do
    HostedTerminal.retargetTask taskId
    return .done
  | .retargetSession sessionId => do
    HostedTerminal.retargetSession sessionId
    return .done
  | .advanceFocus => return .focus (← HostedTerminal.advanceFocus)
  | .replaceGeneration blank =>
    return .generation (← HostedTerminal.replaceGeneration terminalId blank)
  | .task call => taskCall terminalId call

/-- One call on a terminal: what it answers, and the terminal it leaves. -/
def call (t : HostedTerminal) (c : HostedCall) :
    Except TerminalError TerminalAnswer × HostedTerminal :=
  runOn (method terminalId c) t

end HostedTerminal

/-! ## The service -/

/-- `TerminalService`, L1060-1062 -/
structure TerminalService where
  terminals : ExtTreeMap TerminalId HostedTerminal

/-- The calls on the service. Identifiers of new terminals are fresh, as `TerminalId::new` makes
them. -/
inductive TerminalCall
  | createFixture (terminalId : TerminalId) (owner : TaskId) (spec : TerminalSpec)
      (resourceId : ResourceId) (blank : TerminalScreenSnapshot)
  | attach (terminalId : TerminalId) (owner : TaskId) (spec : TerminalSpec)
      (runtime : AttachedRuntime)
  | attachBoundTaskRuntime (terminalId : TerminalId) (owner : TaskId) (spec : TerminalSpec)
      (runtime : AttachedRuntime) (agentSessionId : AgentSessionId)
      (runtimeGeneration actionEpoch : ℕ)
  | attachPlainShell (terminalId : TerminalId) (owner : TaskId) (resourceId : ResourceId)
      (resourceGeneration : ℕ) (spec : TerminalSpec) (runtime : AttachedRuntime)
  | removeClosed (resourceId : ResourceId)
  | on (terminalId : TerminalId) (call : HostedCall)
  | forTask (taskId : TaskId) (resourceId : Option ResourceId) (call : TaskCall)

namespace TerminalService

def new : TerminalService := ⟨∅⟩

variable (s : TerminalService)

/-- The open terminals with `p`. -/
def openWith (p : HostedTerminal → Bool) : List (TerminalId × HostedTerminal) :=
  s.terminals.toList.filter fun entry => !entry.2.closed && p entry.2

variable (terminalId : TerminalId)

/-- A new terminal is published unless `occupied` says that its slot is taken. -/
def publish (hosted : Except TerminalError HostedTerminal) (occupied : HostedTerminal → Bool) :
    Except TerminalError TerminalAnswer × TerminalService :=
  match hosted with
  | .error error => (.error error, s)
  | .ok hosted =>
    if terminalId ∈ s.terminals then (.error .invalidFence, s)
    else if s.openWith occupied ≠ [] then (.error .invalidFence, s)
    else (.ok (.opened terminalId), ⟨s.terminals.insert terminalId hosted⟩)

/-- `select_terminal`, L1713-1732 -/
def selectTerminal (taskId : TaskId) (resourceId : Option ResourceId) :
    Except TerminalError (Option TerminalId) :=
  match s.openWith fun hosted => decide (hosted.taskId = taskId) &&
      match resourceId with
      | some id => decide (hosted.resourceId = id)
      | none => !hosted.isPlainShell with
  | [] => .ok none
  | [one] => .ok (some one.1)
  | _ => .error .invalidFence

/-- What a call checks before it looks its terminal up (L1273-1276, `1286-1287`,
`1243-1245`); `write_task_input` names its terminal itself, and the calls for a task do not
come with a terminal. -/
def checkCall : HostedCall → Except TerminalError Unit
  | .write envelope => failIf (envelope.terminalId ≠ terminalId) .invalidFence
  | .writeTaskInput request => do
    failIf (request.terminalId ≠ terminalId) .notFound
    request.validate
  | .bindTaskIdentity _ runtimeGeneration actionEpoch =>
    failIf (runtimeGeneration = 0 ∨ actionEpoch = 0) .invalidFence
  | .task _ => .error .notFound
  | _ => .ok ()

/-- `terminals.get_mut(&id).ok_or(NotFound)?`, and the method. -/
def onTerminal (c : HostedCall) :
    Except TerminalError TerminalAnswer × TerminalService :=
  match s.terminals[terminalId]? with
  | none => (.error .notFound, s)
  | some t =>
    ((t.call terminalId c).1, ⟨s.terminals.insert terminalId (t.call terminalId c).2⟩)

/-- `remove_closed`, L1414-1425 -/
def removeClosed (resourceId : ResourceId) :
    Except TerminalError TerminalAnswer × TerminalService :=
  match s.terminals.toList.find? fun entry =>
      decide (entry.2.resourceId = resourceId) && entry.2.closed with
  | none => (.ok .done, s)
  | some entry => (.ok .done, ⟨s.terminals.erase entry.1⟩)

/-- One call on the service. -/
def call : TerminalCall → Except TerminalError TerminalAnswer × TerminalService
  | .createFixture terminalId owner spec resourceId blank =>
    s.publish terminalId (HostedTerminal.openFixture owner spec resourceId blank) fun _ => false
  | .attach terminalId owner spec runtime =>
    s.publish terminalId (HostedTerminal.openAttached owner spec runtime) fun _ => false
  | .attachBoundTaskRuntime terminalId owner spec runtime agent runtimeGeneration actionEpoch =>
    s.publish terminalId
      (HostedTerminal.openBound owner spec runtime agent runtimeGeneration actionEpoch)
      fun current => decide (current.taskId = owner) && !current.isPlainShell
  | .attachPlainShell terminalId owner resourceId resourceGeneration spec runtime =>
    s.publish terminalId
      (HostedTerminal.openPlainShell owner resourceId resourceGeneration spec runtime)
      fun current => decide (current.resourceId = resourceId)
  | .removeClosed resourceId => s.removeClosed resourceId
  | .on terminalId c =>
    match checkCall terminalId c with
    | .error error => (.error error, s)
    | .ok () => s.onTerminal terminalId c
  | .forTask taskId resourceId c =>
    match s.selectTerminal taskId resourceId with
    | .error error => (.error error, s)
    | .ok (some terminalId) => s.onTerminal terminalId (.task c)
    | .ok none =>
      match c with
      | .view => (.ok (.view none), s)
      | _ => (.error .notFound, s)

end TerminalService

end DevManager.Terminal
