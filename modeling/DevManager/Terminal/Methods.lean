import DevManager.Terminal.Hosted

/-!
# The methods of a hosted terminal (`src/terminal/service.rs`)

Snapshots and updates for the clients, raw input, resizes, closing, scrolling, the
restart of the process behind the terminal, and the view of a task's terminal.
-/

namespace DevManager.Terminal

open Std (ExtTreeMap)

variable [TerminalEmulator]

/-- The envelope that `write_task_input` hands to `write` (L1353-1362). -/
def TerminalInputRequest.envelope (request : TerminalInputRequest) : InputEnvelope :=
  { request with
    taskId := request.context.taskId
    sessionId := request.context.sessionId
    terminalGeneration := request.context.terminalGeneration
    focusEpoch := request.context.focusEpoch }

namespace HostedTerminal

/-! ## Reading -/

variable (terminalId : TerminalId)

/-- `snapshot`, L682-702 -/
def snapshot : TerminalM TerminalSnapshot := do
  drainAttachedOutput terminalId
  let t ← get
  return {
    terminalId
    generation := t.generation
    sequence := t.sequence
    size := t.spec.size
    cursor := t.screenSnapshot.cursor
    modes := t.screenSnapshot.mode
    title := t.currentTitle
    rows := rowsFromScreen t.screenSnapshot
    historyRows := t.screenSnapshot.historySize
    truncated := t.truncated }

/-- `remember_client_cursor`, L769-782 -/
def rememberClientCursor (clientId : ClientId) (generation : TerminalGeneration)
    (sequence : TerminalSequence) (t : HostedTerminal) : HostedTerminal :=
  { t with
    clients := t.clients.modify clientId fun client =>
      { client with cursor := some ⟨generation, sequence⟩ } }

variable (t : HostedTerminal) (since : TerminalSequence)

/-- The retained window reaches back to `since` and may be replayed (L729-734). -/
def contiguous : Prop :=
  (∃ oldest ∈ t.deltas.head?, oldest.sequence.get ≤ saturatingAdd since.get 1) ∧
    t.sequence.saturatingDistance since ≤ maxRetainedDeltas ∧ ¬ t.truncated ∧
    ¬ t.outputPressureCoalesced

instance (t : HostedTerminal) (since : TerminalSequence) : Decidable (t.contiguous since) :=
  inferInstanceAs (Decidable ((∃ oldest ∈ t.deltas.head?, _) ∧ _ ∧ _ ∧ _))

/-- Why a snapshot is sent in place of deltas (L736-744). -/
def coalesceReason : CoalesceReason :=
  if t.outputPressureCoalesced then .slowClient
  else if t.truncated then .scrollbackTruncated
  else if maxRetainedDeltas < t.sequence.saturatingDistance since then .slowClient
  else .sequenceGap

/-- The deltas after `since` (L750-755). -/
def deltasAfter : List TerminalDelta :=
  t.deltas.filter fun delta => since.get < delta.sequence.get

variable (clientId : ClientId) (generation : TerminalGeneration) (since : TerminalSequence)

/-- `updates_since` from a window that reaches back to `since` (L750-767). -/
def replayDeltas : TerminalM ReplicaUpdate := do
  let t ← get
  if ∃ last ∈ (t.deltasAfter since).getLast?, last.sequence ≠ t.sequence then
    let snapshot ← snapshot terminalId
    modify (rememberClientCursor clientId generation snapshot.sequence)
    return .coalescedSnapshot snapshot .sequenceGap
  else
    modify (rememberClientCursor clientId generation t.sequence)
    return .deltas (t.deltasAfter since)

/-- `updates_since` from a window that does not (L735-749). -/
def replaySnapshot : TerminalM ReplicaUpdate := do
  let t ← get
  let snapshot ← snapshot terminalId
  modify fun t => rememberClientCursor clientId generation snapshot.sequence
    { t with outputPressureCoalesced := false }
  return .coalescedSnapshot snapshot (t.coalesceReason since)

/-- `updates_since`, L704-767 -/
def updatesSince : TerminalM ReplicaUpdate := do
  ensureOpen
  drainAttachedOutput terminalId
  let t ← get
  if generation ≠ t.generation then
    let snapshot ← snapshot terminalId
    return .coalescedSnapshot snapshot .generationMismatch
  else if t.sequence.get < since.get then
    let snapshot ← snapshot terminalId
    return .coalescedSnapshot snapshot .sequenceGap
  else if since = t.sequence then
    modify (rememberClientCursor clientId generation since)
    return .empty
  else if t.contiguous since then
    replayDeltas terminalId clientId generation since
  else
    replaySnapshot terminalId clientId generation since

/-! ## Input -/

/-- `write` up to the runtime: the sequence that the input would get
(L785-846). -/
def admitInput (envelope : InputEnvelope) : Except InputAck ℕ := do
  failIf t.closed (.rejected .closed)
  failIf (envelope.taskId ≠ t.taskId) (.rejected .staleTask)
  failIf (envelope.sessionId ≠ t.sessionId) (.rejected .staleSession)
  failIf (envelope.terminalGeneration ≠ t.generation) (.rejected .staleGeneration)
  failIf (envelope.focusEpoch ≠ t.focusEpoch) (.rejected .staleFocus)
  failIf (envelope.bytes = []) (.rejected .empty)
  failIf (maxInputBytes < envelope.bytes.length) (.rejected .boundExceeded)
  match t.acceptedInputIds[envelope.inputId]? with
  | some sequence => .error (.duplicate sequence)
  | none => do
    failIf ((t.clients[envelope.clientId]?.map (·.grant)).getD .readOnly ≠ .readWrite)
      (.rejected .readOnly)
    failIf (maxTrackedInputIds ≤ t.acceptedInputIds.size) (.rejected .boundExceeded)
    let total ← okOr (checkedAdd t.acceptedBytes.length envelope.bytes.length)
      (.rejected .boundExceeded)
    failIf (maxAcceptedInputHistoryBytes < total) (.rejected .boundExceeded)
    okOr (checkedAdd t.acceptedInputSequence 1) (.rejected .boundExceeded)

/-- The reason that `write` gives for a fence that no longer holds (L852-857). -/
def fenceReason (error : TerminalError) : InputRejectReason :=
  if error = .teardownFenceMissing ∨ error = .staleGeneration then .staleGeneration
  else .runtimeForwardFailed

/-- `write` at the runtime (L848-871). -/
def forwardInput (bytes : List UInt8) :
    Except InputRejectReason ProjectionSource :=
  match t.projection with
  | .fixture grid => .ok (.fixture grid)
  | .attached runtime =>
    match t.verifyAttachment with
    | .error error => .error (fenceReason error)
    | .ok () =>
      match runtime.writeBytes bytes t.attachmentFence with
      | .error _ => .error .runtimeForwardFailed
      | .ok runtime => .ok (.attached runtime)

/-- `write`, L784-883 -/
def write (envelope : InputEnvelope) (t : HostedTerminal) : InputAck × HostedTerminal :=
  match t.admitInput envelope with
  | .error ack => (ack, t)
  | .ok sequence =>
    match t.forwardInput envelope.bytes with
    | .error reason => (.rejected reason, t)
    | .ok projection =>
      (.accepted sequence, { t with
        projection
        acceptedInputSequence := sequence
        acceptedInputIds := t.acceptedInputIds.insert envelope.inputId sequence
        acceptedBytes := t.acceptedBytes ++ envelope.bytes })

/-- The fences of `write_task_input` (L1299-1351). -/
def fenceTaskInput (context : TerminalInputContext) :
    Except InputRejectReason Unit := do
  failIf (t.taskId ≠ context.taskId) .staleTask
  failIf (if t.isPlainShell then ¬ context.isPlainShellFence
    else ¬ (context.agentSessionId.isSome ∧ t.agentSessionId = context.agentSessionId)) .staleAgent
  failIf (t.resourceId ≠ context.resourceId) .staleResource
  failIf (¬ t.isPlainShell ∧ t.runtimeGeneration ≠ some context.runtimeGeneration)
    .staleRuntimeGeneration
  failIf (t.generation ≠ context.terminalGeneration ∨
    t.generation.get ≠ context.resourceGeneration) .staleGeneration
  failIf (t.sessionId ≠ context.sessionId) .staleSession
  failIf (t.focusEpoch ≠ context.focusEpoch) .staleFocus
  failIf (¬ t.isPlainShell ∧ t.actionEpoch ≠ some context.actionEpoch) .staleAction

/-- `write_task_input` on the terminal it addresses (L1294-1371). -/
def writeTaskInput (request : TerminalInputRequest) : TerminalM InputAck := do
  ensureOpen
  let t ← get
  match t.fenceTaskInput request.context with
  | .error reason => return .rejected reason
  | .ok () =>
    if t.acceptedInputIds[request.inputId]? = none ∧
        request.context.inputSequence ≠ saturatingAdd t.acceptedInputSequence 1 then
      return .rejected .staleInputSequence
    else
      modifyGet (write request.envelope)

/-! ## Size -/

/-- What the fence of a resize decides (L892-914): an older view sequence is ignored. -/
inductive ResizeAdmission
  | ignored
  | admitted (commit : Option (ClientId × ℕ))

/-- The fence check of `resize` (L890-914). -/
def admitResize : Option ResizeFence → Except TerminalError ResizeAdmission
  | none => .ok (.admitted none)
  | some fence => do
    failIf (fence.generation ≠ t.generation) .staleGeneration
    failIf (fence.viewSequence = 0) .invalidFence
    let client ← okOr t.clients[fence.clientId]? .invalidFence
    return if ∃ current ∈ client.resizeSequence, fence.viewSequence < current then .ignored
      else .admitted (some (fence.clientId, fence.viewSequence))

variable (size : TerminalSize)

/-- The projection after a resize (L916-923). -/
def resizeProjection (reflow : TerminalScreenSnapshot) : Except TerminalError ProjectionSource :=
  match t.projection with
  | .attached runtime =>
    (runtime.resize size t.attachmentFence reflow).map .attached
  | .fixture grid =>
    .ok (.fixture { grid with screen := reflow, view := { grid.view with dimensions := size } })

variable (commit : Option (ClientId × ℕ)) (clients : ExtTreeMap ClientId ClientViewState)

/-- The client whose resize was admitted keeps its view sequence (L924-928). -/
def commitResize :
    ExtTreeMap ClientId ClientViewState :=
  match commit with
  | none => clients
  | some (clientId, viewSequence) =>
    clients.modify clientId fun client => { client with resizeSequence := some viewSequence }

/-- `resize` once admitted (L916-934). -/
def applyResize (reflow : TerminalScreenSnapshot) : TerminalM PUnit := do
  let t ← get
  let projection ← liftResult (t.resizeProjection size reflow)
  set { t with
    projection
    clients := commitResize commit t.clients
    spec := { t.spec with size } }
  let sequence ← bumpSequence
  modify fun t => t.recordDeltaFromScreen terminalId sequence t.screenSnapshot

/-- `resize` (L885-934). The emulator shows `reflow` once it has the new size. -/
def resize (fence : Option ResizeFence)
    (reflow : TerminalScreenSnapshot) : TerminalM PUnit := do
  ensureOpen
  let t ← get
  liftResult t.verifyAttachment
  drainAttachedOutput terminalId
  let size ← liftResult (TerminalSize.new size.cols size.rows)
  let t ← get
  let admission ← liftResult (t.admitResize fence)
  match admission with
  | .ignored => pure ()
  | .admitted commit => applyResize terminalId size commit reflow

/-! ## The process behind the terminal -/

/-- `close` (L936-962), short of its report. -/
def close : TerminalM PUnit := do
  let t ← get
  if t.closed then
    pure ()
  else
    match t.projection with
    | .fixture _ => set { t with closed := true, clients := ∅ }
    | .attached runtime =>
      liftResult t.verifyAttachment
      liftResult (runtime.closeExact t.attachmentFence)
      set { t with closed := true, clients := ∅ }

/-- No client of the new generation has a cursor or a resize (L1010-1013,
`1050-1053`). -/
def forgetCursors :
    ExtTreeMap ClientId ClientViewState :=
  clients.map fun _ client => { client with cursor := none, resizeSequence := none }

/-- The state that both kinds of restart begin with (L992-1013, `1033-1053`). -/
def restarted (projection : ProjectionSource)
    (title : Option String) (t : HostedTerminal) : HostedTerminal :=
  { t with
    projection
    generation
    sequence := .zero
    truncated := false
    observedOutputBytes := 0
    acceptedInputSequence := 0
    acceptedInputIds := ∅
    acceptedBytes := []
    deltas := []
    lastRows := rowsFromScreen projection.screen
    lastCursor := projection.screen.cursor
    lastModes := projection.screen.mode
    lastTitle := title
    clients := forgetCursors t.clients }

/-- `replace_generation` on an attached runtime (L969-1016). -/
def rebindAttached (runtime : AttachedRuntime) :
    TerminalM TerminalGeneration := do
  let attachment ← liftResult runtime.fence
  let t ← get
  refuseIf (attachment.resourceId = t.resourceId ∧ attachment.generation.get ≤ t.generation.get)
    .staleGeneration
  drainLifecycle terminalId
  modify fun t => { t with pendingOutput := t.pendingOutput.take.2 }
  let view ← liftResult runtime.view
  let t ← get
  let spec := match TerminalSize.new view.dimensions.cols view.dimensions.rows with
    | .ok size => { t.spec with size }
    | .error _ => t.spec
  set { restarted attachment.generation (.attached runtime) (view.title <|> t.spec.title) t with
    spec
    resourceId := attachment.resourceId
    exitSummary := none
    outputPressureCoalesced := false }
  return attachment.generation

/-- `replace_generation` on a fixture (L1018-1056). The new grid shows `blank`. -/
def rebuildFixture (blank : TerminalScreenSnapshot) : TerminalM TerminalGeneration := do
  let t ← get
  let next ← liftResult t.generation.next
  let grid : FixtureGrid := {
    screen := blank.boundHistory t.spec.maxScrollbackRows, view := ⟨t.spec.title, t.spec.size⟩,
    scrollbackBytes := 0 }
  set { restarted next (.fixture grid) t.spec.title t with
    agentSessionId := none
    runtimeGeneration := none
    actionEpoch := none }
  return next

/-- `replace_generation`, L964-1057 -/
def replaceGeneration (blank : TerminalScreenSnapshot) :
    TerminalM TerminalGeneration := do
  ensureOpen
  let t ← get
  match t.projection with
  | .attached runtime => rebindAttached terminalId runtime
  | .fixture _ => rebuildFixture blank

/-! ## A task's terminal -/

/-- `TaskTerminalView`, L1105-1121 -/
structure TaskTerminalView where
  taskId : TaskId
  terminalId : TerminalId
  sessionId : TerminalSessionId
  agentSessionId : Option AgentSessionId
  runtimeGeneration : Option ℕ
  actionEpoch : Option ℕ
  focusEpoch : FocusEpoch
  resourceId : ResourceId
  resourceGeneration : ℕ
  acceptedInputSequence : ℕ
  sequence : ℕ
  isProvider : Bool
  runtimeState : TerminalRuntimeState
  view : RuntimeView
  screen : TerminalScreenSnapshot
deriving DecidableEq

/-- The provider slot is invisible without its durable identity (L1761-1770). -/
def checkProviderIdentity : Except TerminalError Unit :=
  failIf (¬ t.isPlainShell ∧
    (t.agentSessionId = none ∨ t.runtimeGeneration = none ∨ t.actionEpoch = none)) .invalidFence

/-- A terminal that is viewed has a sequence after zero (L1758-1760). -/
def leaveZero : TerminalM TerminalSequence := do
  let t ← get
  if t.sequence = .zero then bumpSequence else return t.sequence

/-- `task_terminal_view_for` on the terminal it selects (L1755-1792). -/
def taskTerminalView : TerminalM TaskTerminalView := do
  ensureOpen
  drainAttachedOutput terminalId
  let _ ← leaveZero
  let t ← get
  liftResult t.checkProviderIdentity
  let view ← liftResult t.sessionView
  return {
    taskId := t.taskId
    terminalId
    sessionId := t.sessionId
    agentSessionId := t.agentSessionId
    runtimeGeneration := t.runtimeGeneration
    actionEpoch := t.actionEpoch
    focusEpoch := t.focusEpoch
    resourceId := t.resourceId
    resourceGeneration := t.generation.get
    acceptedInputSequence := t.acceptedInputSequence
    sequence := t.sequence.get
    isProvider := !t.isPlainShell
    runtimeState := t.runtimeState
    view
    screen := t.screenSnapshot }

variable (deltaLines : ℤ)

/-- `alternate_scroll_bytes`, L1934-1941 -/
def alternateScrollBytes : List UInt8 :=
  (List.replicate deltaLines.natAbs
    [0x1b, 'O'.toUInt8, if 0 < deltaLines then 'A'.toUInt8 else 'B'.toUInt8]).flatten

/-- `encode_position` of `normal_mouse_scroll_bytes` (L1970-1973). -/
def encodePosition (position : ℕ) : List UInt8 :=
  [.ofNat (0xC0 + (33 + position) / 64), .ofNat (0x80 + (33 + position) % 64)]

/-- `normal_mouse_scroll_bytes`, L1963-1985 -/
def normalMouseScrollBytes (column row : ℕ) (button : UInt8) (utf8 : Bool) : Option (List UInt8) :=
  let maxPoint := if utf8 then 2015 else 223
  if maxPoint ≤ row ∨ maxPoint ≤ column then none
  else
    let position (n : ℕ) : List UInt8 :=
      if utf8 ∧ 95 ≤ n then encodePosition n else [.ofNat (33 + n)]
    some ([0x1b, '['.toUInt8, 'M'.toUInt8, 32 + button] ++ position column ++ position row)

/-- `mouse_scroll_bytes`, L1946-1961 -/
def mouseScrollBytes (mode : TerminalModeSnapshot) (rows columns : ℕ) (deltaLines : ℤ) :
    List UInt8 :=
  let button := if 0 < deltaLines then 64 else 65
  let row := (rows - 1) / 2
  let column := (columns - 1) / 2
  let report :=
    if mode.sgrMouse then
      ("\x1b[<" ++ toString button ++ ";" ++ toString (column + 1) ++ ";" ++ toString (row + 1)
        ++ "M").toUTF8.toList
    else
      (normalMouseScrollBytes column row (.ofNat button) mode.utf8Mouse).getD []
  (List.replicate deltaLines.natAbs report).flatten

variable (scrolled : TerminalScreenSnapshot)

/-- `scroll_lines` (L427-448). The emulator shows `scrolled` once its viewport has
moved. -/
def scrollLines :
    Except TerminalError ProjectionSource :=
  match t.projection with
  | .fixture _ => .error .runtimeIo
  | .attached runtime => do
    let _ ← runtime.view
    let mode := runtime.screen.mode
    if mode.mouseReporting then
      return .attached (← runtime.writeBytes
        (mouseScrollBytes mode runtime.screen.rows runtime.screen.cols deltaLines)
        t.attachmentFence)
    else if mode.alternateScreen && mode.alternateScroll then
      return .attached (← runtime.writeBytes (alternateScrollBytes deltaLines) t.attachmentFence)
    else
      return .attached (← runtime.scrollLines scrolled)

/-- `scroll_task_terminal_for` on the terminal it selects (L1866-1873). -/
def scrollTaskTerminal : TerminalM PUnit := do
  ensureOpen
  drainAttachedOutput terminalId
  let t ← get
  let projection ← liftResult (t.scrollLines deltaLines scrolled)
  set { t with projection }
  let _ ← bumpSequence

/-! ## The fixture's reader -/

/-- `apply_fixture_reader_bytes` (L559-581). The grid is `shown` once it has the
bytes. -/
def applyFixtureReaderBytes (bytes : List UInt8) (shown : FixtureGrid) :
    TerminalM TerminalSequence := do
  ensureOpen
  let t ← get
  if bytes = [] then
    return t.sequence
  else if maxInputBytes < bytes.length then
    throw .boundExceeded
  else
    modify (noteObservedOutput bytes.length)
    match t.projection with
    | .attached _ => throw .fixtureOnly
    | .fixture _ =>
      modify fun t => enforceScrollbackBoundFromScreen shown.screen
        { t with projection := .fixture shown }
      let sequence ← bumpSequence
      modify fun t => t.recordDeltaFromScreen terminalId sequence t.screenSnapshot
      return sequence

end HostedTerminal

end DevManager.Terminal
