import DevManager.Domain.Id
import DevManager.Lib.Result
import Mathlib.Data.Char

/-!
# The terminal protocol (`src/terminal/protocol.rs`)

Identities, fences, sizes, snapshots, deltas and input envelopes, as the host's
terminal service and its clients exchange them. Values of type `u64` and `usize`
are modelled in `ℕ`; the checked additions of the source refer to `u64Max`.

A screen snapshot keeps what the service reads of it: the characters of each
line, the cursor, the modes, the viewport's offset and the sizes. Colours, margins
and the indexed copy of the cells are left out.
-/

namespace DevManager.Terminal

/-- `TerminalSessionId` and `InputId` (L119-180), newtypes around a UUID of version 7. -/
abbrev TerminalSessionId := Uuid7 .terminalSession
abbrev InputId := Uuid7 .input

def maxTerminalCols : ℕ := 512
def maxTerminalRows : ℕ := 256
def maxScrollbackRows : ℕ := 10_000
def maxScrollbackBytes : ℕ := 1024 * 1024
def maxRetainedDeltas : ℕ := 64
def maxPendingOutputChunks : ℕ := 64
def maxPendingOutputBytes : ℕ := 256 * 1024
def maxInputBytes : ℕ := 4 * 1024 * 1024
def maxAcceptedInputHistoryBytes : ℕ := 4 * 1024 * 1024
def maxTrackedInputIds : ℕ := 4_096
def maxTitleBytes : ℕ := 1_024

/-- `TerminalError`, L502-520 -/
inductive TerminalError
  | notFound | closed | staleGeneration | staleSession | staleTask | staleFocus
  | sequenceOverflow | generationOverflow | focusOverflow | boundExceeded | invalidSize
  | invalidFence | canonicalReaderPoisoned | runtimeIo | teardownFenceMissing | teardownFailed
  | fixtureOnly
deriving DecidableEq

/-! ## Counters -/

/-- `TerminalGeneration` (L31-57), a `NonZeroU64`. -/
structure TerminalGeneration where
  get : ℕ
  nonzero : 0 < get := by decide
deriving DecidableEq

namespace TerminalGeneration

def initial : TerminalGeneration := ⟨1, by decide⟩

def fromRaw (raw : ℕ) : Except TerminalError TerminalGeneration :=
  if h : 0 < raw then .ok ⟨raw, h⟩ else .error .invalidFence

def next (generation : TerminalGeneration) : Except TerminalError TerminalGeneration :=
  if generation.get + 1 ≤ u64Max then .ok ⟨generation.get + 1, Nat.succ_pos _⟩
  else .error .generationOverflow

theorem get_next {generation next : TerminalGeneration} (h : generation.next = .ok next) :
    next.get = generation.get + 1 := by
  unfold TerminalGeneration.next at h
  split_ifs at h
  cases h
  rfl

end TerminalGeneration

/-- `TerminalSequence`, L59-85 -/
structure TerminalSequence where
  get : ℕ
deriving DecidableEq

namespace TerminalSequence

def zero : TerminalSequence := ⟨0⟩

def next (sequence : TerminalSequence) : Except TerminalError TerminalSequence :=
  match checkedAdd sequence.get 1 with
  | some raw => .ok ⟨raw⟩
  | none => .error .sequenceOverflow

def saturatingDistance (sequence earlier : TerminalSequence) : ℕ := sequence.get - earlier.get

theorem eq_of_get {s s' : TerminalSequence} (h : s.get = s'.get) : s = s' :=
  congrArg TerminalSequence.mk h

theorem next_eq_ok {s s' : TerminalSequence} :
    s.next = .ok s' ↔ s.get + 1 ≤ u64Max ∧ s'.get = s.get + 1 := by
  obtain ⟨n⟩ := s
  obtain ⟨n'⟩ := s'
  unfold next checkedAdd
  split_ifs with h <;> simp [h, eq_comm]

end TerminalSequence

/-- `FocusEpoch` (L87-113), a `NonZeroU64`. -/
structure FocusEpoch where
  get : ℕ
  nonzero : 0 < get := by decide
deriving DecidableEq

namespace FocusEpoch

def initial : FocusEpoch := ⟨1, by decide⟩

def next (epoch : FocusEpoch) : Except TerminalError FocusEpoch :=
  if epoch.get + 1 ≤ u64Max then .ok ⟨epoch.get + 1, Nat.succ_pos _⟩ else .error .focusOverflow

end FocusEpoch

/-! ## Sizes and specifications -/

/-- `TerminalSize`, L187-206 -/
structure TerminalSize where
  cols : ℕ
  rows : ℕ
deriving DecidableEq

/-- `TerminalSize::new`. -/
def TerminalSize.new (cols rows : ℕ) : Except TerminalError TerminalSize :=
  if cols = 0 ∨ rows = 0 ∨ maxTerminalCols < cols ∨ maxTerminalRows < rows then
    .error .invalidSize
  else
    .ok ⟨cols, rows⟩

/-- `TerminalSpec`, L208-245 -/
structure TerminalSpec where
  sessionId : TerminalSessionId
  size : TerminalSize
  maxScrollbackRows : ℕ
  maxScrollbackBytes : ℕ
  title : Option String

/-- `TerminalSpec::validated`. -/
def TerminalSpec.validated (spec : TerminalSpec) : Except TerminalError TerminalSpec := do
  let _ ← TerminalSize.new spec.size.cols spec.size.rows
  failIf (spec.maxScrollbackRows = 0 ∨ Terminal.maxScrollbackRows < spec.maxScrollbackRows)
    .boundExceeded
  failIf (spec.maxScrollbackBytes = 0 ∨ Terminal.maxScrollbackBytes < spec.maxScrollbackBytes)
    .boundExceeded
  failIf (∃ title ∈ spec.title, maxTitleBytes < title.utf8ByteSize) .boundExceeded
  return spec

/-! ## Screens -/

/-- `CursorShape` of the terminal emulator, as `cursor_shape_serde` tells them apart
(`session.rs:2478-2505`). -/
inductive CursorShape
  | block | underline | beam | hidden
deriving DecidableEq

/-- `TerminalCursorSnapshot`, `session.rs:170-175` -/
structure TerminalCursorSnapshot where
  row : ℕ
  column : ℕ
  shape : CursorShape
deriving DecidableEq

/-- `TerminalModeSnapshot`, `session.rs:228-239` -/
structure TerminalModeSnapshot where
  alternateScreen : Bool
  appCursor : Bool
  bracketedPaste : Bool
  focusInOut : Bool
  mouseReportClick : Bool
  mouseDrag : Bool
  mouseMotion : Bool
  sgrMouse : Bool
  utf8Mouse : Bool
  alternateScroll : Bool
deriving DecidableEq

namespace TerminalModeSnapshot

/-- `TerminalModeSnapshot::default`. -/
def default : TerminalModeSnapshot :=
  ⟨false, false, false, false, false, false, false, false, false, false⟩

/-- `mouse_reporting`, `session.rs:242-244` -/
def mouseReporting (mode : TerminalModeSnapshot) : Bool :=
  mode.mouseReportClick || mode.mouseDrag || mode.mouseMotion

end TerminalModeSnapshot

/-- `TerminalScreenSnapshot`, `session.rs:248-279` -/
structure TerminalScreenSnapshot where
  lines : List (List Char)
  cursor : Option TerminalCursorSnapshot
  displayOffset : ℕ
  historySize : ℕ
  rows : ℕ
  cols : ℕ
  mode : TerminalModeSnapshot
deriving DecidableEq

/-- `rows_from_screen`, `service.rs:1987-1993` -/
def rowsFromScreen (screen : TerminalScreenSnapshot) : List String := screen.lines.map String.ofList

/-! ## Snapshots, deltas and updates -/

/-- `TerminalSnapshot`, L247-258 -/
structure TerminalSnapshot where
  terminalId : TerminalId
  generation : TerminalGeneration
  sequence : TerminalSequence
  size : TerminalSize
  cursor : Option TerminalCursorSnapshot
  modes : TerminalModeSnapshot
  title : Option String
  rows : List String
  historyRows : ℕ
  truncated : Bool
deriving DecidableEq

/-- `TerminalDeltaOp`, L261-284 -/
inductive TerminalDeltaOp
  | rowsChanged (startRow : ℕ) (rows : List String)
  | scroll (displayOffset : ℕ)
  | cursor (cursor : Option TerminalCursorSnapshot)
  | mode (modes : TerminalModeSnapshot)
  | title (title : Option String)
  | truncated (droppedRows : ℕ)
  | exit (summary : String)
deriving DecidableEq

/-- `TerminalDelta`, L287-292 -/
structure TerminalDelta where
  terminalId : TerminalId
  generation : TerminalGeneration
  sequence : TerminalSequence
  ops : List TerminalDeltaOp
deriving DecidableEq

/-- `ReplicaApplyResult`, L295-298 -/
inductive ReplicaApplyResult
  | applied | needSnapshot

/-- `CoalesceReason`, L312-317 -/
inductive CoalesceReason
  | sequenceGap | generationMismatch | slowClient | scrollbackTruncated
deriving DecidableEq

/-- `ReplicaUpdate`, L301-309 -/
inductive ReplicaUpdate
  | empty
  | deltas (deltas : List TerminalDelta)
  | snapshot (snapshot : TerminalSnapshot)
  | coalescedSnapshot (snapshot : TerminalSnapshot) (reason : CoalesceReason)
deriving DecidableEq

/-! ## Input -/

/-- `InputEnvelope`, L320-329 -/
structure InputEnvelope where
  clientId : ClientId
  inputId : InputId
  taskId : TaskId
  sessionId : TerminalSessionId
  terminalId : TerminalId
  terminalGeneration : TerminalGeneration
  focusEpoch : FocusEpoch
  bytes : List UInt8
deriving DecidableEq

/-- `TerminalInputContext` (L335-346). The nil sentinel that a plain shell sends
for its agent session is `none`. -/
structure TerminalInputContext where
  taskId : TaskId
  agentSessionId : Option AgentSessionId
  resourceId : ResourceId
  runtimeGeneration : ℕ
  resourceGeneration : ℕ
  sessionId : TerminalSessionId
  terminalGeneration : TerminalGeneration
  focusEpoch : FocusEpoch
  actionEpoch : ℕ
  inputSequence : ℕ

namespace TerminalInputContext

/-- `is_plain_shell_fence`, L359-361 -/
def isPlainShellFence (context : TerminalInputContext) : Prop :=
  context.agentSessionId = none ∧ context.runtimeGeneration = 0 ∧ context.actionEpoch = 0

instance (context : TerminalInputContext) : Decidable context.isPlainShellFence :=
  inferInstanceAs (Decidable (_ ∧ _ ∧ _))

/-- `validate`, L363-376 -/
def validate (context : TerminalInputContext) : Except TerminalError Unit := do
  failIf (context.resourceGeneration = 0 ∨ context.inputSequence = 0) .invalidFence
  if context.isPlainShellFence then
    return ()
  failIf (context.runtimeGeneration = 0 ∨ context.actionEpoch = 0) .invalidFence

end TerminalInputContext

/-- `TerminalInputRequest`, L383-389 -/
structure TerminalInputRequest where
  clientId : ClientId
  inputId : InputId
  terminalId : TerminalId
  context : TerminalInputContext
  bytes : List UInt8

/-- `validate`, L400-406 -/
def TerminalInputRequest.validate (request : TerminalInputRequest) : Except TerminalError Unit := do
  request.context.validate
  failIf (request.bytes = [] ∨ maxInputBytes < request.bytes.length) .boundExceeded

/-- `InputRejectReason`, L424-440 -/
inductive InputRejectReason
  | staleTask | staleAgent | staleResource | staleRuntimeGeneration | staleSession
  | staleGeneration | staleFocus | staleAction | staleInputSequence | readOnly | closed | empty
  | boundExceeded | runtimeForwardFailed
deriving DecidableEq

/-- `InputAck`, L409-414 -/
inductive InputAck
  | accepted (sequence : ℕ)
  | duplicate (sequence : ℕ)
  | rejected (reason : InputRejectReason)
deriving DecidableEq

/-- `ClientInputGrant`, L442-446 -/
inductive ClientInputGrant
  | readWrite | readOnly
deriving DecidableEq

/-- `ResizeFence`, L464-469 -/
structure ResizeFence where
  generation : TerminalGeneration
  clientId : ClientId
  viewSequence : ℕ

/-- `AttachmentFence`, L493-498 -/
structure AttachmentFence where
  resourceId : ResourceId
  generation : TerminalGeneration

end DevManager.Terminal
