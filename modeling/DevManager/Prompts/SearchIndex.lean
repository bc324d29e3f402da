import DevManager.Domain.Id
import DevManager.Lib.OrdMap
import DevManager.Lib.Result

/-!
# The index of the prompt search (`src/prompts/history.rs`)

Prompts are searched in a table that a scheduler keeps up with the history and the
saved prompts: writers queue the sources that they change, as long as the queue has
room, `drain_index` indexes what is queued, and `rebuild_search` indexes everything
anew in batches. Every call is one transaction.

A batch is cut off by its deadline or its budget at any point its loop allows: the
number of turns it gets to is an argument, and so is whether it is cancelled, which
rolls it back. Digests are compared on every read of a row; which rows fail that
comparison is an argument (`corrupt`). The state of the tables of versions and chains is
read only by the check of a provenance, whose answer is an argument too.
-/

namespace DevManager.Prompts

open Std (ExtTreeMap)

/-- `PromptHistoryErrorCode` (L40-54), as the functions below return it. -/
inductive PromptHistoryError
  | storage | validation | invalidPolicy | provenanceMismatch | cancelled | conflict | unconfirmed
deriving DecidableEq

def defaultHistoryIndexCapacity : ℕ := 1024

def historyIndexBatchRows : ℕ := 50

def maxProviderKindBytes : ℕ := 32

def maxPromptBodyBytes : ℕ := 256 * 1024

def msPerDay : ℤ := 86400000

/-! ## The sources -/

/-- `PromptHistoryProvenance`, L136-141 -/
structure PromptHistoryProvenance where
  promptId : Option PromptId
  promptVersionId : Option PromptVersionId
  chainId : Option PromptChainId
  chainLinkId : Option PromptChainLinkId
deriving DecidableEq

/-- A row of `prompt_history` beside its identifier (`PromptHistoryEntry`,
L150-163). -/
structure PromptHistoryEntry where
  requestId : RequestId
  submittedEventId : EventId
  taskId : TaskId
  agentSessionId : AgentSessionId
  providerKind : String
  body : String
  submittedAtMs : ℤ
  provenance : PromptHistoryProvenance
deriving DecidableEq

/-- `ValidatedDeliveredInputProof` (L272-282): the entry that it is stored as. -/
structure ValidatedDeliveredInputProof where
  historyId : PromptHistoryId
  entry : PromptHistoryEntry

/-- A row of `saved_prompts` as the index reads it: its title, the body of its current version,
and its tags in order. -/
structure SavedPrompt where
  title : String
  body : String
  tags : List String

/-- What a row of the index is about: `source_kind` and `source_id`. -/
inductive PromptSource
  | history (id : PromptHistoryId)
  | saved (id : PromptId)
deriving DecidableEq

/-- The indexed columns of `prompt_search`. -/
structure SearchRow where
  title : String
  body : String
  tags : String
deriving DecidableEq

def PromptHistoryEntry.row (entry : PromptHistoryEntry) : SearchRow := ⟨"", entry.body, ""⟩

/-- `group_concat(tag, ' ')` over the tags in order (L1905-1913). -/
def SavedPrompt.row (prompt : SavedPrompt) : SearchRow :=
  ⟨prompt.title, prompt.body, " ".intercalate prompt.tags⟩

/-- A table keyed by `source_kind` and `source_id`. -/
structure BySource (V : Type) where
  history : ExtTreeMap PromptHistoryId V
  saved : ExtTreeMap PromptId V

namespace BySource

variable {V : Type}

def empty : BySource V := ⟨∅, ∅⟩

variable (m : BySource V)

def get? : PromptSource → Option V
  | .history id => m.history[id]?
  | .saved id => m.saved[id]?

def insert (source : PromptSource) (v : V) : BySource V :=
  match source with
  | .history id => { m with history := m.history.insert id v }
  | .saved id => { m with saved := m.saved.insert id v }

def erase : PromptSource → BySource V
  | .history id => { m with history := m.history.erase id }
  | .saved id => { m with saved := m.saved.erase id }

/-- `SELECT COUNT(*)`. -/
def size : ℕ := m.history.size + m.saved.size

/-- `ORDER BY source_kind, source_id`. -/
def entries : List (PromptSource × V) :=
  m.history.toList.map (fun e => (.history e.1, e.2)) ++
    m.saved.toList.map fun e => (.saved e.1, e.2)

end BySource

/-! ## The store -/

/-- `PromptHistoryPolicy` (L106-133); the checks of its table keep it valid. -/
structure PromptHistoryPolicy where
  enabled : Bool
  retentionDays : ℕ
  maxEntries : ℕ
  days : 1 ≤ retentionDays ∧ retentionDays ≤ 365 := by decide
  entries : 100 ≤ maxEntries ∧ maxEntries ≤ 100000 := by decide

def PromptHistoryPolicy.default : PromptHistoryPolicy := ⟨true, 90, 10000, by decide, by decide⟩

/-- `RebuildPhase`, L1932-1937 -/
inductive RebuildPhase
  | idle | history | saved | pending
deriving DecidableEq

/-- `prompt_search_state` (`schema.rs:1229-1242`). The source that a rebuild got to is a history
entry or a saved prompt, by its phase; both are kept as the bytes of their identifier. -/
structure PromptSearchState where
  dirty : Bool
  overflow : Bool
  phase : RebuildPhase
  submittedAtMs : Option ℤ
  sourceId : Option ℕ
  currentSeq : ℕ
  highWaterSeq : ℕ

/-- The tables of the prompt history and of the search. -/
structure PromptStore where
  policy : PromptHistoryPolicy
  revision : ℕ
  history : ExtTreeMap PromptHistoryId PromptHistoryEntry
  saved : ExtTreeMap PromptId SavedPrompt
  search : BySource SearchRow
  pending : BySource ℕ
  state : PromptSearchState

namespace PromptStore

/-- The migration that adds the history and the search to a store of saved prompts: it queues the
first of them (`schema.rs:1337-1353`). -/
def migrated (saved : ExtTreeMap PromptId SavedPrompt) : PromptStore where
  policy := .default
  revision := 1
  history := ∅
  saved := saved
  search := .empty
  pending := (saved.toList.take defaultHistoryIndexCapacity).foldl
    (fun pending e => pending.insert (.saved e.1) 1) .empty
  state := {
    dirty := decide (saved.size ≠ 0), overflow := decide (defaultHistoryIndexCapacity < saved.size),
    phase := .idle, submittedAtMs := none, sourceId := none, currentSeq := saved.size,
    highWaterSeq := 0 }

variable (s : PromptStore)

/-- What the index should hold for a source. -/
def row : PromptSource → Option SearchRow
  | .history id => s.history[id]?.map (·.row)
  | .saved id => s.saved[id]?.map (·.row)

/-! ## The queue -/

/-- `bump_current_seq`, L1728-1734 -/
def bumpCurrentSeq : PromptStore :=
  { s with state := { s.state with currentSeq := s.state.currentSeq + 1 } }

/-- `mark_dirty`, L1779-1785 -/
def markDirty : PromptStore := { s with state := { s.state with dirty := true } }

/-- `UPDATE prompt_search_state SET dirty = 1, overflow = 1`. -/
def markOverflow : PromptStore :=
  { s with state := { s.state with dirty := true, overflow := true } }

/-- `reserve_pending_or_overflow`, L1660-1673 -/
def reservePendingOrOverflow : PromptStore :=
  let s := s.bumpCurrentSeq
  if defaultHistoryIndexCapacity ≤ s.pending.size then s.markOverflow else s.markDirty

/-- The queue refuses a source that is not queued once it overflowed or is full. -/
def refuses (source : PromptSource) : Prop :=
  s.pending.get? source = none ∧
    (s.state.overflow = true ∨ defaultHistoryIndexCapacity ≤ s.pending.size)

instance (s : PromptStore) (source : PromptSource) : Decidable (s.refuses source) :=
  inferInstanceAs (Decidable (_ ∧ _))

/-- `mark_pending`, L1675-1726 -/
def markPending (source : PromptSource) (s : PromptStore) : PromptStore :=
  let s := s.bumpCurrentSeq
  if s.refuses source then s.markOverflow
  else markDirty { s with pending := s.pending.insert source s.state.currentSeq }

/-- The triggers that queue a saved prompt, which all do the same (`schema.rs:1252-1336`). -/
def enqueueSaved (id : PromptId) (s : PromptStore) : PromptStore :=
  let queued := s.pending.get? (.saved id) ≠ none
  let overflow := s.state.overflow ||
    (decide (defaultHistoryIndexCapacity ≤ s.pending.size) && !decide queued)
  let state := { s.state with currentSeq := s.state.currentSeq + 1, dirty := true, overflow }
  if (overflow = false ∧ s.pending.size < defaultHistoryIndexCapacity) ∨ queued then
    { s with state, pending := s.pending.insert (.saved id) state.currentSeq }
  else { s with state }

/-- A write of a saved prompt: its row, version and tags are written, which fires `firings + 1`
of the triggers (`store.rs:2442-2530`, `3927-4050`). -/
def writeSaved (id : PromptId) (prompt : SavedPrompt) (firings : ℕ) (s : PromptStore) :
    PromptStore :=
  (List.replicate (firings + 1) ()).foldl (fun s _ => s.enqueueSaved id)
    { s with saved := s.saved.insert id prompt }

/-! ## The history -/

variable (proof : ValidatedDeliveredInputProof)

/-- `validate_provider_kind` and `validate_proof` (L1382-1406). -/
def validateProof : Except PromptHistoryError Unit := do
  failIf (proof.entry.submittedAtMs < 0) .validation
  failIf (proof.entry.providerKind = "" ∨
    maxProviderKindBytes < proof.entry.providerKind.utf8ByteSize ∨
    ¬ proof.entry.providerKind.toList.all fun c => c.isAlphanum || c == '-') .validation
  failIf (maxPromptBodyBytes < proof.entry.body.utf8ByteSize) .validation

/-- The rows that `load_identity_collision` selects (L1473-1504). -/
def identityCollision :
    List (PromptHistoryId × PromptHistoryEntry) :=
  s.history.toList.filter fun e => decide (e.1 = proof.historyId) ||
    decide (e.2.submittedEventId = proof.entry.submittedEventId) ||
    decide (e.2.requestId = proof.entry.requestId)

/-- `apply_delivered_in_tx` (L444-502): the identifier of the entry, unless the
history is off. -/
def applyDelivered (provenanceHolds : Bool)
    (s : PromptStore) : Except PromptHistoryError (Option PromptHistoryId) × PromptStore :=
  match validateProof proof with
  | .error error => (.error error, s)
  | .ok () =>
    if s.policy.enabled = false then (.ok none, s)
    else
      match s.identityCollision proof with
      | [] =>
        if provenanceHolds then
          let s := s.reservePendingOrOverflow
          (.ok (some proof.historyId), markPending (.history proof.historyId)
              { s with history := s.history.insert proof.historyId proof.entry })
        else (.error .provenanceMismatch, s)
      | [existing] =>
        if existing = (proof.historyId, proof.entry) then
          (.ok (some existing.1), s.markPending (.history existing.1))
        else (.error .conflict, s)
      | _ => (.error .storage, s)

/-- One turn of `delete_history_batch` (L1832-1846). -/
def deleteHistory (id : PromptHistoryId) : PromptStore :=
  { s with
    search := s.search.erase (.history id), pending := s.pending.erase (.history id),
    history := s.history.erase id }

/-- `ORDER BY submitted_at_ms ASC, prompt_history_id ASC`. -/
def older (a b : PromptHistoryId × PromptHistoryEntry) : Prop :=
  a.2.submittedAtMs < b.2.submittedAtMs ∨
    a.2.submittedAtMs = b.2.submittedAtMs ∧ a.1.payload ≤ b.1.payload

instance (a b : PromptHistoryId × PromptHistoryEntry) : Decidable (older a b) :=
  inferInstanceAs (Decidable (_ ∨ _))

/-- The entries with `p`, oldest first. -/
def oldest (p : PromptHistoryEntry → Bool) (s : PromptStore) : List PromptHistoryId :=
  ((s.history.toList.filter fun e => p e.2).insertionSort older).map (·.1)

/-- The batches of one call delete a prefix of the entries with `p`, of at most `count`
(`delete_history_batch`, L1818-1849). -/
def deleteOldest (p : PromptHistoryEntry → Bool) (count : ℕ) (s : PromptStore) : PromptStore :=
  ((s.oldest p).take count).foldl deleteHistory s

/-- `MaintenanceProgress`. -/
structure MaintenanceProgress where
  removed : ℕ
  done : Bool

/-- The cutoff of the retention (L641). -/
def cutoff (nowMs : ℤ) : ℤ := nowMs - s.policy.retentionDays * msPerDay

/-- `apply_retention` (L662-732). Its two loops are cut off after `first` and `second`
rows. -/
def applyRetention (nowMs : ℤ) (revision first second : ℕ) (s : PromptStore) :
    Except PromptHistoryError MaintenanceProgress × PromptStore :=
  if nowMs < 0 then (.error .validation, s)
  else if s.revision ≠ revision then (.error .unconfirmed, s)
  else
    let expired (entry : PromptHistoryEntry) : Bool := entry.submittedAtMs < s.cutoff nowMs
    let s₁ := s.deleteOldest expired (min first historyIndexBatchRows)
    let slots := historyIndexBatchRows - (s.history.size - s₁.history.size)
    let overflow := min (s₁.history.size - s.policy.maxEntries) slots
    let s₂ := s₁.deleteOldest (fun _ => true) (min overflow second)
    (.ok ⟨s.history.size - s₂.history.size,
      decide (s₂.oldest expired = [] ∧ s₂.history.size ≤ s.policy.maxEntries)⟩, s₂)

/-- `apply_clear` (L745-791), cut off after `rows` rows. -/
def applyClear (revision rows : ℕ) (s : PromptStore) :
    Except PromptHistoryError MaintenanceProgress × PromptStore :=
  if s.revision ≠ revision then (.error .unconfirmed, s)
  else
    let s' := s.deleteOldest (fun _ => true) (min rows historyIndexBatchRows)
    (.ok ⟨s.history.size - s'.history.size, decide (s'.history.size = 0)⟩, s')

/-! ## Draining the queue -/

/-- `IndexProgress`. -/
structure IndexProgress where
  processed : ℕ
  remaining : ℕ

variable (corrupt : PromptSource → Bool)

/-- `apply_index_work` (L1851-1929). A source that is gone is skipped. -/
def applyIndexWork (source : PromptSource) (s : PromptStore) :
    Except PromptHistoryError PromptStore :=
  match s.row source with
  | none => .ok s
  | some row => do
    failIf (corrupt source) .storage
    return { s with search := s.search.insert source row }

/-- `DELETE FROM prompt_search_pending WHERE … AND enqueue_seq = ?3`. -/
def dequeue (source : PromptSource) (enqueueSeq : ℕ) (s : PromptStore) : PromptStore :=
  if s.pending.get? source = some enqueueSeq then { s with pending := s.pending.erase source }
  else s

/-- `maybe_clear_dirty`, L1787-1816 -/
def maybeClearDirty : PromptStore :=
  if s.pending.size ≠ 0 ∨ s.state.phase ≠ .idle ∨ s.state.overflow = true then s
  else if s.search.size = s.history.size + s.saved.size then
    { s with state := { s.state with dirty := false } }
  else s

/-- The loop of `drain_index` (L824-841): how many rows it indexed, and whether it
failed. -/
def drainLoop (corrupt : PromptSource → Bool) :
    List (PromptSource × ℕ) → PromptStore → Option ℕ × PromptStore
  | [], s => (some 0, s)
  | (source, enqueueSeq) :: rows, s =>
    match s.applyIndexWork corrupt source with
    | .error _ => (none, s.markDirty)
    | .ok s =>
      match drainLoop corrupt rows (s.dequeue source enqueueSeq) with
      | (processed, s) => (processed.map (· + 1), s)

/-- `drain_index` (L793-851), cut off after `turns` rows. -/
def drainIndex (turns : ℕ) (cancelled : Bool) (s : PromptStore) :
    Except PromptHistoryError IndexProgress × PromptStore :=
  if cancelled then (.error .cancelled, s)
  else
    match drainLoop corrupt ((s.pending.entries.take historyIndexBatchRows).take turns) s with
    | (none, s) => (.error .storage, s)
    | (some processed, s) =>
      let s := s.maybeClearDirty
      (.ok ⟨processed, s.pending.size⟩, s)

/-! ## Rebuilding -/

/-- `persist_rebuild_state`, L1986-2009 -/
def persistRebuildState (phase : RebuildPhase) (submittedAtMs : Option ℤ) (sourceId : Option ℕ)
    (s : PromptStore) : PromptStore :=
  { s with state := { s.state with phase, submittedAtMs, sourceId } }

/-- `clear_search_index` and `capture_rebuild_high_water`. -/
def restartIndex : PromptStore :=
  { s with search := .empty, state := { s.state with highWaterSeq := s.state.currentSeq } }

/-- The entries that the rebuild has not got to (L2011-2016). -/
def historyAhead (e : PromptHistoryId × PromptHistoryEntry) : Bool :=
  match s.state.submittedAtMs with
  | none => true
  | some at_ => decide (e.2.submittedAtMs < at_) ||
      (decide (e.2.submittedAtMs = at_) && s.state.sourceId.any fun id => decide (e.1.payload < id))

/-- The saved prompts that the rebuild has not got to (L2087). -/
def savedAhead (id : PromptId) : Bool :=
  match s.state.sourceId with
  | none => true
  | some at_ => decide (id.payload < at_)

/-- `next_history_rebuild_row` (L2011-2079): the newest that is left. -/
def nextHistoryRebuildRow : Option (PromptHistoryId × PromptHistoryEntry) :=
  ((s.history.toList.filter s.historyAhead).insertionSort fun a b => older b a).head?

/-- `next_saved_rebuild_row` (L2081-2128): the last that is left. -/
def nextSavedRebuildRow : Option (PromptId × SavedPrompt) :=
  (s.saved.toList.filter fun e => s.savedAhead e.1).getLast?

/-- `count_rebuild_remaining`, L2130-2174 -/
def countRebuildRemaining : ℕ :=
  let history := match s.state.phase with
    | .history => (s.history.toList.filter s.historyAhead).length
    | _ => 0
  let saved := match s.state.phase with
    | .idle | .pending => 0
    | .history => s.saved.size
    | .saved => (s.saved.toList.filter fun e => s.savedAhead e.1).length
  let pending := match s.state.phase with
    | .idle => 0
    | _ => s.pending.size
  history + saved + pending

/-- What one turn of the loop of `rebuild_search` does. -/
inductive RebuildTurn
  | indexed (s : PromptStore)
  | moved (s : PromptStore)
  | finished (s : PromptStore)
  | failed (s : PromptStore)

/-- One turn of the loop of `rebuild_search` (L878-952). -/
def rebuildTurn (s : PromptStore) : RebuildTurn :=
  match s.state.phase with
  | .idle => .finished s
  | .history =>
    match s.nextHistoryRebuildRow with
    | none => .moved (s.persistRebuildState .saved none none)
    | some (id, entry) =>
      if corrupt (.history id) then .failed s.markDirty
      else .indexed
        ({ s with search := s.search.insert (.history id) entry.row }.persistRebuildState
          .history (some entry.submittedAtMs) (some id.payload))
  | .saved =>
    match s.nextSavedRebuildRow with
    | none => .moved (s.persistRebuildState .pending none none)
    | some (id, prompt) =>
      if corrupt (.saved id) then .failed s.markDirty
      else .indexed ({ s with search := s.search.insert (.saved id) prompt.row }.persistRebuildState
        .saved s.state.submittedAtMs (some id.payload))
  | .pending =>
    match s.pending.entries.head? with
    | none => .finished (s.persistRebuildState .idle none none)
    | some (source, enqueueSeq) =>
      match s.applyIndexWork corrupt source with
      | .error _ => .failed s.markDirty
      | .ok s => .indexed (s.dequeue source enqueueSeq)

/-- The loop of `rebuild_search`, cut off after `turns` turns: how many rows it indexed, and
whether it failed (L877-952). -/
def rebuildLoop (corrupt : PromptSource → Bool) : ℕ → ℕ → PromptStore → Option ℕ × PromptStore
  | 0, processed, s => (some processed, s)
  | turns + 1, processed, s =>
    if historyIndexBatchRows ≤ processed then (some processed, s)
    else
      match s.rebuildTurn corrupt with
      | .indexed s => rebuildLoop corrupt turns (processed + 1) s
      | .moved s => rebuildLoop corrupt turns processed s
      | .finished s => (some processed, s)
      | .failed s => (none, s)

/-- What `rebuild_search` begins with when no rebuild is under way (L866-873). -/
def beginRebuild : PromptStore :=
  if s.state.phase = .idle then (s.restartIndex.markDirty).persistRebuildState .history none none
  else s

/-- What `rebuild_search` ends with (L953-988). -/
def settleRebuild : PromptStore :=
  if s.countRebuildRemaining = 0 ∧ s.state.phase = .idle then
    if s.search.size = s.history.size + s.saved.size ∧
        s.state.highWaterSeq ≤ s.state.currentSeq then
      { s with state := { s.state with
          dirty := false, overflow := false, highWaterSeq := s.state.currentSeq } }
    else if s.state.highWaterSeq < s.state.currentSeq then
      (s.restartIndex.persistRebuildState .history none none).markDirty
    else (s.persistRebuildState .history none none).markDirty
  else s.markDirty

/-- `rebuild_search`, L853-993 -/
def rebuildSearch (turns : ℕ) (cancelled : Bool)
    (s : PromptStore) : Except PromptHistoryError IndexProgress × PromptStore :=
  if cancelled then (.error .cancelled, s)
  else
    match rebuildLoop corrupt turns 0 s.beginRebuild with
    | (none, s) => (.error .storage, s)
    | (some processed, s) =>
      let s := s.settleRebuild
      (.ok ⟨processed, s.countRebuildRemaining⟩, s)

/-- `set_policy`, L606-632 -/
def setPolicy (enabled : Bool) (retentionDays maxEntries revision : ℕ) (s : PromptStore) :
    Except PromptHistoryError Unit × PromptStore :=
  if h : (1 ≤ retentionDays ∧ retentionDays ≤ 365) ∧ 100 ≤ maxEntries ∧ maxEntries ≤ 100000 then
    if s.revision = revision then
      (.ok (), { s with
        policy := ⟨enabled, retentionDays, maxEntries, h.1, h.2⟩, revision := s.revision + 1 })
    else (.error .unconfirmed, s)
  else (.error .invalidPolicy, s)

end PromptStore

/-! ## Calls -/

/-- The transactions on the tables. -/
inductive IndexCall
  | deliver (proof : ValidatedDeliveredInputProof) (provenanceHolds : Bool)
  | writeSaved (id : PromptId) (prompt : SavedPrompt) (firings : ℕ)
  | setPolicy (enabled : Bool) (retentionDays maxEntries revision : ℕ)
  | retain (nowMs : ℤ) (revision first second : ℕ)
  | clear (revision rows : ℕ)
  | drain (corrupt : PromptSource → Bool) (turns : ℕ) (cancelled : Bool)
  | rebuild (corrupt : PromptSource → Bool) (turns : ℕ) (cancelled : Bool)

/-- What a call answers. -/
inductive IndexAnswer
  | recorded (id : Option PromptHistoryId)
  | done
  | maintained (progress : PromptStore.MaintenanceProgress)
  | indexed (progress : PromptStore.IndexProgress)

namespace PromptStore

/-- One call. -/
def call (s : PromptStore) : IndexCall → Except PromptHistoryError IndexAnswer × PromptStore
  | .deliver proof provenanceHolds =>
    let (answer, s) := s.applyDelivered proof provenanceHolds
    (answer.map .recorded, s)
  | .writeSaved id prompt firings => (.ok .done, s.writeSaved id prompt firings)
  | .setPolicy enabled retentionDays maxEntries revision =>
    let (answer, s) := s.setPolicy enabled retentionDays maxEntries revision
    (answer.map fun _ => .done, s)
  | .retain nowMs revision first second =>
    let (answer, s) := s.applyRetention nowMs revision first second
    (answer.map .maintained, s)
  | .clear revision rows =>
    let (answer, s) := s.applyClear revision rows
    (answer.map .maintained, s)
  | .drain corrupt turns cancelled =>
    let (answer, s) := s.drainIndex corrupt turns cancelled
    (answer.map .indexed, s)
  | .rebuild corrupt turns cancelled =>
    let (answer, s) := s.rebuildSearch corrupt turns cancelled
    (answer.map .indexed, s)

end PromptStore

end DevManager.Prompts
