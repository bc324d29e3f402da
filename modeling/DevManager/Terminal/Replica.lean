import DevManager.Lib.Stateful
import DevManager.Terminal.Protocol

/-!
# The client's replica (`src/terminal/replica.rs`)

A client applies the snapshots and the deltas that the host hands it. A delta that
does not continue the replica leaves it waiting for a snapshot. The queue
`pending`, which nothing fills, the viewport and the owning client are left out.
-/

namespace DevManager.Terminal

/-- `TerminalReplica`, L22-38 -/
structure TerminalReplica where
  terminalId : Option TerminalId
  generation : Option TerminalGeneration
  sequence : TerminalSequence
  sizeCols : ℕ
  sizeRows : ℕ
  cursor : Option TerminalCursorSnapshot
  modes : TerminalModeSnapshot
  title : Option String
  rows : List String
  historyRows : ℕ
  truncated : Bool
  needsSnapshot : Bool

namespace TerminalReplica

/-- `new`, L47-65 -/
def new : TerminalReplica where
  terminalId := none
  generation := none
  sequence := .zero
  sizeCols := 0
  sizeRows := 0
  cursor := none
  modes := .default
  title := none
  rows := []
  historyRows := 0
  truncated := false
  needsSnapshot := true

/-- `apply_snapshot`, L103-117 -/
def applySnapshot (snapshot : TerminalSnapshot) (_replica : TerminalReplica) :
    TerminalReplica :=
  { snapshot with
    terminalId := some snapshot.terminalId
    generation := some snapshot.generation
    sizeCols := snapshot.size.cols
    sizeRows := snapshot.size.rows
    needsSnapshot := false }

/-- `force_resync`, L212-215 -/
def forceResync (replica : TerminalReplica) : TerminalReplica :=
  { replica with needsSnapshot := true }

/-- `rows.resize(end, String::new())`, only ever to more rows (L180-182). -/
def growRows (rows : List String) (stop : ℕ) : List String :=
  rows ++ List.replicate (stop - rows.length) ""

/-- The rows from `start` on are overwritten (L172-183). The checked addition never
fails: `start` is a `u16`, and a vector holds fewer than `2 ^ 63` rows. -/
def changeRows (start : ℕ) (rows : List String) (replica : TerminalReplica) :
    Except TerminalError TerminalReplica := do
  failIf (replica.rows.length < start) .invalidFence
  let stop := start + rows.length
  let grown := growRows replica.rows stop
  return { replica with rows := grown.take start ++ rows ++ grown.drop stop }

/-- One turn of the loop of `apply_ops` (L170-203). -/
def applyOp (op : TerminalDeltaOp) : EStateM TerminalError TerminalReplica PUnit :=
  match op with
  | .rowsChanged start rows => do
    let replica ← get
    let replica ← liftResult (replica.changeRows start rows)
    set replica
  | .scroll _ => pure ()
  | .cursor cursor => modify fun replica => { replica with cursor }
  | .mode modes => modify fun replica => { replica with modes }
  | .title title => modify fun replica => { replica with title }
  | .truncated droppedRows => modify fun replica =>
    { replica with truncated := true, historyRows := replica.historyRows - droppedRows }
  | .exit _ => pure ()

/-- `apply_ops`, L173-210 -/
def applyOps (ops : List TerminalDeltaOp) : EStateM TerminalError TerminalReplica PUnit :=
  ops.forM applyOp

/-- A delta continues the replica: the same terminal and generation, and the next sequence
(L124-146). -/
def continues (replica : TerminalReplica) (delta : TerminalDelta) : Bool :=
  replica.terminalId = some delta.terminalId && replica.generation = some delta.generation &&
    match replica.sequence.next with
    | .ok expected => delta.sequence = expected
    | .error _ => false

/-- `apply_delta`, L119-153 -/
def applyDelta (delta : TerminalDelta) (replica : TerminalReplica) :
    ReplicaApplyResult × TerminalReplica :=
  if replica.needsSnapshot then (.needSnapshot, replica)
  else if ¬ replica.continues delta then (.needSnapshot, replica.forceResync)
  else
    match runOn (applyOps delta.ops) replica with
    | (.error _, replica) => (.needSnapshot, replica.forceResync)
    | (.ok _, replica) => (.applied, { replica with sequence := delta.sequence })

/-- The replica after a list of deltas, each applied in turn. -/
def applyDeltas (deltas : List TerminalDelta) (replica : TerminalReplica) : TerminalReplica :=
  deltas.foldl (fun replica delta => (replica.applyDelta delta).2) replica

/-- What a client does with an answer of the host (`tests/terminal_replication.rs:37-48`). -/
def applyUpdate (update : ReplicaUpdate) (replica : TerminalReplica) : TerminalReplica :=
  match update with
  | .empty => replica
  | .deltas deltas => replica.applyDeltas deltas
  | .snapshot snapshot | .coalescedSnapshot snapshot _ => replica.applySnapshot snapshot

end TerminalReplica

end DevManager.Terminal
