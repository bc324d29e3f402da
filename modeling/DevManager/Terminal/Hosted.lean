import DevManager.Lib.Stateful
import DevManager.Terminal.Protocol
import Std.Data.ExtTreeMap

/-!
# A hosted terminal (`src/terminal/service.rs`)

The host keeps for each terminal one projection of its screen, the window of the
last deltas, the clients and the input accepted in the present generation. The
projection is the attached runtime of a real process, or an in-memory grid of
the tests.

The emulator that turns bytes into a screen is third-party code: what it shows
after it took bytes, a new size or a scroll is an argument of the call, and how it
drops scrollback a parameter (`TerminalEmulator`).
-/

namespace DevManager.Terminal

open Std (ExtTreeMap)

/-! ## The projection of the screen -/

/-- What `session_view` answers beside the screen: `runtime.title` and `runtime.dimensions`. -/
structure RuntimeView where
  title : Option String
  dimensions : TerminalSize
deriving DecidableEq

/-- What an implementation of `AttachedTerminalRuntime` (L25-51) answers: its fence,
its screen and view, the bytes it has taken, and which of its calls fail. -/
structure AttachedRuntime where
  fence : Except TerminalError AttachmentFence
  screen : TerminalScreenSnapshot
  view : Except TerminalError RuntimeView
  written : List UInt8
  writeFails : Bool
  resizeFails : Bool
  scrollFails : Bool
  closeFails : Bool

/-- `Term::set_options` of the emulator: the screen under a bound on its scrollback, of which the
lines, the size, the cursor and the modes stay. -/
class TerminalEmulator where
  setOptions : (scrollingHistory : ℕ) → TerminalScreenSnapshot → TerminalScreenSnapshot
  viewport : ∀ scrollingHistory screen, ∃ displayOffset historySize,
    setOptions scrollingHistory screen = { screen with displayOffset, historySize }

/-- `bound_history_exact` (`session.rs:805-817`): the bound is at least one line. -/
def TerminalScreenSnapshot.boundHistory [TerminalEmulator] (screen : TerminalScreenSnapshot)
    (maxLines : ℕ) : TerminalScreenSnapshot :=
  TerminalEmulator.setOptions (max maxLines 1) screen

namespace AttachedRuntime

variable (runtime : AttachedRuntime)

/-- `matches_attachment`, L42-50 -/
def matchesAttachment (expected : AttachmentFence) :
    Except TerminalError Unit := do
  let current ← runtime.fence
  failIf (current.resourceId ≠ expected.resourceId ∨ current.generation ≠ expected.generation)
    .staleGeneration

/-- `write_bytes` (L54-57): all the bytes, or none. -/
def writeBytes (bytes : List UInt8) (expected : AttachmentFence) :
    Except TerminalError AttachedRuntime := do
  runtime.matchesAttachment expected
  failIf runtime.writeFails .runtimeIo
  return { runtime with written := runtime.written ++ bytes }

/-- `resize`, L59-63 -/
def resize (size : TerminalSize) (expected : AttachmentFence)
    (reflow : TerminalScreenSnapshot) : Except TerminalError AttachedRuntime := do
  runtime.matchesAttachment expected
  failIf runtime.resizeFails .runtimeIo
  return { runtime with
    screen := reflow
    view := runtime.view.map fun view => { view with dimensions := size } }

/-- `scroll_lines`, L97-99 -/
def scrollLines (scrolled : TerminalScreenSnapshot) :
    Except TerminalError AttachedRuntime := do
  failIf runtime.scrollFails .runtimeIo
  return { runtime with screen := scrolled }

/-- `close_exact`, L65-87 -/
def closeExact (expected : AttachmentFence) :
    Except TerminalError Unit := do
  runtime.matchesAttachment expected
  failIf runtime.closeFails .teardownFailed

end AttachedRuntime

/-- The in-memory grid of a fixture (`TerminalReplica`, `session.rs:305-312`), as the service
reads it. -/
structure FixtureGrid where
  screen : TerminalScreenSnapshot
  view : RuntimeView
  scrollbackBytes : ℕ

/-- `ProjectionSource`, L138-143 -/
inductive ProjectionSource
  | fixture (grid : FixtureGrid)
  | attached (runtime : AttachedRuntime)

namespace ProjectionSource

/-- `screen_snapshot`, L401-406 -/
def screen : ProjectionSource → TerminalScreenSnapshot
  | fixture grid => grid.screen
  | attached runtime => runtime.screen

/-- `session_view` before the title of the specification is filled in
(L406-413). -/
def view : ProjectionSource → Except TerminalError RuntimeView
  | fixture grid => .ok grid.view
  | attached runtime => runtime.view

/-- `bound_history` of either projection (L610-617). -/
def boundHistory [TerminalEmulator] (maxLines : ℕ) : ProjectionSource → ProjectionSource
  | fixture grid => fixture { grid with screen := grid.screen.boundHistory maxLines }
  | attached runtime => attached { runtime with screen := runtime.screen.boundHistory maxLines }

end ProjectionSource

/-! ## Pending notifications -/

/-- `PendingOutputDrain`, L190-194 -/
inductive PendingOutputDrain
  | empty
  | notifications (count bytes : ℕ)
  | coalesced (bytes : ℕ)
deriving DecidableEq

/-- `PendingOutputQueue`, L146-152 -/
structure PendingOutputQueue where
  chunks : List ℕ
  bytes : ℕ
  coalesced : Bool

namespace PendingOutputQueue

/-- `PendingOutputQueue::default`. -/
def default : PendingOutputQueue := ⟨[], 0, false⟩

/-- `push`, L155-170 -/
def push (queue : PendingOutputQueue) (chunkLen : ℕ) : PendingOutputQueue :=
  let nextBytes := saturatingAdd queue.bytes chunkLen
  if queue.coalesced then
    { queue with bytes := nextBytes }
  else if maxPendingOutputChunks < saturatingAdd queue.chunks.length 1 ∨
      maxPendingOutputBytes < nextBytes then
    { chunks := [], bytes := nextBytes, coalesced := true }
  else
    { queue with chunks := queue.chunks ++ [chunkLen], bytes := nextBytes }

/-- `take`, L172-187 -/
def take (queue : PendingOutputQueue) : PendingOutputDrain × PendingOutputQueue :=
  if queue.coalesced then
    (.coalesced queue.bytes, default)
  else if queue.chunks.length = 0 then
    (.empty, { queue with chunks := [], bytes := 0 })
  else
    (.notifications queue.chunks.length queue.bytes, { queue with chunks := [], bytes := 0 })

end PendingOutputQueue

/-- `TerminalLifecycleEvent` (`session.rs:146-150`), with what the service reads of it. -/
inductive TerminalLifecycleEvent
  | readerEof
  | readerFailed (summary : String)
  | childExited (summary : String)

/-- The summary that `drain_lifecycle` keeps (L541-545). -/
def TerminalLifecycleEvent.summary : TerminalLifecycleEvent → String
  | readerEof => "PTY reader reached EOF"
  | readerFailed summary => summary
  | childExited summary => summary

/-! ## The hosted terminal -/

/-- `ClientReplicaCursor`, L127-130 -/
structure ClientReplicaCursor where
  generation : TerminalGeneration
  sequence : TerminalSequence

/-- `ClientViewState`, L132-136 -/
structure ClientViewState where
  grant : ClientInputGrant
  cursor : Option ClientReplicaCursor
  resizeSequence : Option ℕ

/-- `HostedTerminal`, L196-234 -/
structure HostedTerminal where
  taskId : TaskId
  agentSessionId : Option AgentSessionId
  runtimeGeneration : Option ℕ
  actionEpoch : Option ℕ
  sessionId : TerminalSessionId
  resourceId : ResourceId
  generation : TerminalGeneration
  sequence : TerminalSequence
  focusEpoch : FocusEpoch
  spec : TerminalSpec
  projection : ProjectionSource
  pendingOutput : PendingOutputQueue
  pendingLifecycle : List TerminalLifecycleEvent
  closed : Bool
  exitSummary : Option String
  isPlainShell : Bool
  unknown : Bool
  truncated : Bool
  observedOutputBytes : ℕ
  outputPressureCoalesced : Bool
  acceptedInputSequence : ℕ
  acceptedInputIds : ExtTreeMap InputId ℕ
  acceptedBytes : List UInt8
  lastRows : List String
  lastCursor : Option TerminalCursorSnapshot
  lastModes : TerminalModeSnapshot
  lastTitle : Option String
  deltas : List TerminalDelta
  clients : ExtTreeMap ClientId ClientViewState

/-- A method of the hosted terminal that may fail. -/
abbrev TerminalM (α : Type) : Type := EStateM TerminalError HostedTerminal α

/-- `TerminalRuntimeState`, L1064-1073 -/
inductive TerminalRuntimeState
  | running
  | exited (summary : String)
  | unknown
deriving DecidableEq

namespace HostedTerminal

variable (t : HostedTerminal)

/-- `screen_snapshot`, L401-406 -/
def screenSnapshot : TerminalScreenSnapshot := t.projection.screen

/-- `session_view`, L408-419 -/
def sessionView : Except TerminalError RuntimeView :=
  t.projection.view.map fun view => { view with title := view.title <|> t.spec.title }

/-- The title of snapshots and deltas (L632-636, `690-694`). -/
def currentTitle : Option String :=
  match t.sessionView with
  | .ok view => view.title <|> t.spec.title
  | .error _ => t.spec.title

/-- `runtime_state`, L369-377 -/
def runtimeState : TerminalRuntimeState :=
  if t.unknown then .unknown
  else
    match t.exitSummary with
    | some summary => .exited summary
    | none => .running

/-- `attachment_fence`, L450-455 -/
def attachmentFence : AttachmentFence := ⟨t.resourceId, t.generation⟩

/-- `verify_attachment`, L457-474 -/
def verifyAttachment : Except TerminalError Unit :=
  match t.projection with
  | .fixture _ => .ok ()
  | .attached runtime =>
    match runtime.fence with
    | .error _ => .error .teardownFenceMissing
    | .ok current =>
      failIf (current.resourceId ≠ t.resourceId ∨ current.generation ≠ t.generation)
        .staleGeneration

/-- The fence check of `drain_attached_output`: the final projection stays readable once the
process has exited (L483-490). -/
def verifyReadable : Except TerminalError Unit :=
  match t.verifyAttachment with
  | .ok () => .ok ()
  | .error error =>
    if error = .teardownFenceMissing ∧ t.exitSummary.isSome then .ok () else .error error

/-- `note_observed_output`, L420-425 -/
def noteObservedOutput (bytes : ℕ) (t : HostedTerminal) : HostedTerminal :=
  let observed := saturatingAdd t.observedOutputBytes bytes
  { t with
    observedOutputBytes := observed,
    truncated := t.truncated || decide (t.spec.maxScrollbackBytes < observed) }

variable (screen : TerminalScreenSnapshot)

/-- The size that `enforce_scrollback_bound_from_screen` compares (L590-607). -/
def scrollbackBytes : ℕ :=
  match t.projection with
  | .fixture grid => grid.scrollbackBytes
  | .attached _ =>
    saturatingAdd (screen.lines.map fun line => (line.map Char.utf8Size).sum).sum
      (min (screen.historySize * (screen.cols % 2 ^ 16)) u64Max)

/-- `enforce_scrollback_bound_from_screen`, L588-620 -/
def enforceScrollbackBoundFromScreen [TerminalEmulator] (t : HostedTerminal) :
    HostedTerminal :=
  if t.spec.maxScrollbackRows < screen.historySize ∨
      t.spec.maxScrollbackBytes < t.scrollbackBytes screen then
    { t with projection := t.projection.boundHistory t.spec.maxScrollbackRows, truncated := true }
  else t

/-- The bounded window of deltas (L672-680, `548-556`). -/
def pushDelta (delta : TerminalDelta) (t : HostedTerminal) : HostedTerminal :=
  { t with
    deltas := (if maxRetainedDeltas ≤ t.deltas.length then t.deltas.drop 1 else t.deltas) ++
      [delta] }

/-- The changes of the screen since the last delta (L632-667). -/
def changedOps : List TerminalDeltaOp :=
  let truncated : List TerminalDeltaOp :=
    if t.truncated then [.truncated screen.historySize] else []
  truncated
    ++ (if rowsFromScreen screen ≠ t.lastRows ∨ truncated = [] then
        [.rowsChanged 0 (rowsFromScreen screen)] else [])
    ++ (if screen.cursor ≠ t.lastCursor then [.cursor screen.cursor] else [])
    ++ (if screen.mode ≠ t.lastModes then [.mode screen.mode] else [])
    ++ (if t.currentTitle ≠ t.lastTitle then [.title t.currentTitle] else [])
    ++ (if screen.displayOffset ≠ 0 then [.scroll screen.displayOffset] else [])

/-- The fields that the next delta is compared with (L668-671). -/
def seen (t : HostedTerminal) : HostedTerminal :=
  { t with
    lastRows := rowsFromScreen screen, lastCursor := screen.cursor, lastModes := screen.mode,
    lastTitle := t.currentTitle }

variable (terminalId : TerminalId)

/-- `record_delta_from_screen`, L621-680 -/
def recordDeltaFromScreen (sequence : TerminalSequence)
    (screen : TerminalScreenSnapshot) (t : HostedTerminal) : HostedTerminal :=
  let ops := t.changedOps screen
  if ops = [] then t.seen screen
  else (t.seen screen).pushDelta ⟨terminalId, t.generation, sequence, ops⟩

/-- `ensure_open`, L379-385 -/
def ensureOpen : TerminalM Unit := do
  let t ← get
  refuseIf t.closed .closed

/-- `bump_sequence`, L396-399 -/
def bumpSequence : TerminalM TerminalSequence := do
  let t ← get
  let sequence ← liftResult t.sequence.next
  set { t with sequence }
  return sequence

/-! ## Draining -/

variable [TerminalEmulator]

/-- One event of `drain_lifecycle` (L540-557). -/
def settleLifecycleEvent (event : TerminalLifecycleEvent) :
    TerminalM PUnit := do
  modify fun t => { t with exitSummary := some event.summary }
  let sequence ← bumpSequence
  modify fun t => t.pushDelta ⟨terminalId, t.generation, sequence, [.exit event.summary]⟩

/-- `drain_lifecycle`, L530-557 -/
def drainLifecycle : TerminalM PUnit := do
  let t ← get
  set { t with pendingLifecycle := [] }
  t.pendingLifecycle.forM (settleLifecycleEvent terminalId)

/-- One new sequence for the screen as it is now (L500-511, `516-527`). -/
def recordScreen (coalesced : Bool) : TerminalM PUnit := do
  let t ← get
  match t.projection with
  | .fixture _ => pure ()
  | .attached runtime =>
    modify fun t => { t.enforceScrollbackBoundFromScreen runtime.screen with
      outputPressureCoalesced := t.outputPressureCoalesced || coalesced }
    let sequence ← bumpSequence
    modify (recordDeltaFromScreen terminalId sequence runtime.screen)

/-- The pending output that `drain_attached_output` took (L497-530). -/
def ingestOutput : PendingOutputDrain → TerminalM PUnit
  | .empty => pure ()
  | .coalesced bytes => do
    modify (noteObservedOutput bytes)
    recordScreen terminalId true
  | .notifications count bytes => do
    modify (noteObservedOutput bytes)
    (List.replicate count ()).forM fun _ => recordScreen terminalId false

/-- `pending.take()` on the shared queue (L491-497). -/
def takePendingOutput : TerminalM PendingOutputDrain := do
  let t ← get
  set { t with pendingOutput := t.pendingOutput.take.2 }
  return t.pendingOutput.take.1

/-- `drain_attached_output`, L475-528 -/
def drainAttachedOutput : TerminalM PUnit := do
  drainLifecycle terminalId
  let t ← get
  liftResult t.verifyReadable
  let drain ← takePendingOutput
  ingestOutput terminalId drain

end HostedTerminal

end DevManager.Terminal
