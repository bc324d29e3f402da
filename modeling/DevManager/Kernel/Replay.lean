import DevManager.Domain.Event
import DevManager.Domain.SnapshotPage
import DevManager.Lib.Paging

/-!
# Event replay (`src/kernel/replay.rs`)

A replay session is a read transaction on the `events` table, pinned to the
range from the sequence a client has seen to the newest one. `page` reads one
page of it: it fetches one sequence more than fits, decodes and measures event
by event, and stops before the event that would pass the byte limit. Unless the
page is the last, it carries a cursor of the last event it holds, which is a
MessagePack document followed by an HMAC under a key of the session.

The table is a finite map from sequences to rows, and the query of
`load_event_sequences_after` is what SQL says of it. MessagePack, HMAC and the
decoding of a row are fields of `ReplayExternals`.
-/

namespace DevManager

open Std (ExtTreeMap)

/-! ## Scopes and pages -/

/-- `SessionScope` (`src/kernel/mod.rs:28-34`); `connectionId` is a plain UUID. -/
structure SessionScope where
  clientId : Option ClientId
  taskId : Option TaskId
  connectionId : Option ℕ
  actionEpoch : Option ℕ
  runtimeGeneration : Option ℕ
deriving DecidableEq

/-- `GLOBAL`, `kernel/mod.rs:37-43` -/
def SessionScope.global : SessionScope := ⟨none, none, none, none, none⟩

/-- `EventPage`, `snapshot.rs:479-486` -/
structure EventPage where
  afterSequence : ℕ
  throughSequence : ℕ
  events : List DomainEvent
  nextCursor : Option (List UInt8)

/-! ## Errors -/

/-- The part of `StoreError` (`src/kernel/store.rs:147-172`) that replay returns. -/
inductive StoreError
  | corruption
  | integerOutOfRange (field : String) (value : ℕ)
  | codecMismatch (detail : String)
  | eventDecode (detail : String)

/-- `ReplayError`, L28-50 -/
inductive ReplayError
  | store (error : StoreError)
  | invalidLimits (error : PageLimitsError)
  | entropyUnavailable
  | invalidRange (afterSequence throughSequence : ℕ)
  | replayUnavailable (oldestSequence newestSequence : ℕ)
  | invalidCursor
  | cursorContextMismatch
  | pageEnvelopeTooLarge (encodedBytes maxEncodedBytes : ℕ)
  | pageItemTooLarge (sequence encodedBytes maxEncodedBytes : ℕ)

/-- `u64_to_sqlite_i64`, `store.rs:1786-1788` -/
def u64ToSqliteI64 (field : String) (value : ℕ) : Except StoreError ℤ :=
  if value < 2 ^ 63 then .ok value else .error (.integerOutOfRange field value)

/-- `u64_from_nonnegative_i64`, `store.rs:1790-1795` -/
def u64FromNonnegativeI64 (field : String) (value : ℤ) : Except StoreError ℕ :=
  if 0 ≤ value then .ok value.toNat else .error (.integerOutOfRange field value.natAbs)

/-! ## The table, and what other crates compute -/

/-- The columns of a row of `events` besides its sequence (`src/kernel/schema.rs:22-31`). -/
structure StoredEventRow where
  eventId : List UInt8
  taskId : Option (List UInt8)
  taskRevision : Option ℤ
  eventType : String
  schemaVersion : ℤ
  occurredAtMs : ℤ
  payload : List UInt8

/-- `EventCursorDocument`, L116-123 -/
structure EventCursorDocument where
  version : ℕ
  startAfterSequence : ℕ
  throughSequence : ℕ
  lastSequence : ℕ
  limits : PageLimits
  scope : SessionScope
deriving DecidableEq

/-- The 32 bytes of `cursor_hmac_key`. -/
abbrev CursorKey := Vector UInt8 32

/-- The decoding of a row, and what `replay.rs` calls of `rmp_serde` and `hmac`. -/
class ReplayExternals where
  /-- `store.rs:2659-2687` -/
  decodeStoredDomainEvent : ℤ → StoredEventRow → Except StoreError DomainEvent
  /-- `rmp_serde::to_vec_named(page)`, or the text of its error. -/
  packEventPage : EventPage → Except String (List UInt8)
  /-- `rmp_serde::to_vec_named(document)`, or the text of its error. -/
  packCursor : EventCursorDocument → Except String (List UInt8)
  /-- `rmp_serde::from_slice(payload).ok()`. -/
  unpackCursor : List UInt8 → Option EventCursorDocument
  /-- The HMAC-SHA256 tag of a message under a key. -/
  hmacSha256 : CursorKey → List UInt8 → Digest

/-- A byte string literal, which has ASCII characters only. -/
def byteString (literal : String) : List UInt8 := literal.toList.map fun c => UInt8.ofNat c.toNat

/-- `EVENT_CURSOR_VERSION`, `EVENT_CURSOR_DOMAIN`, `CURSOR_TAG_BYTES` and `MAX_CURSOR_BYTES`
(L20-23). -/
def eventCursorVersion : ℕ := 1
def eventCursorDomain : List UInt8 := byteString "devmanager:event-cursor:v1\x00"
def cursorTagBytes : ℕ := 32
def EventReplaySession.maxCursorBytes : ℕ := 4096

/-- `EventReplaySession` (L129-137). `events` is the table in the view that the session's
transaction holds; the limits were validated when it began. -/
structure EventReplaySession where
  startAfterSequence : ℕ
  throughSequence : ℕ
  limits : PageLimits
  scope : SessionScope
  cursorHmacKey : CursorKey
  events : ExtTreeMap ℤ StoredEventRow
  validLimits : limits.validate = .ok ()

/-- The newest sequence of `load_event_log_bounds` (`store.rs:1826-1836`), given the
`pruned_through_sequence` it read. -/
def newestSequence (prunedThroughSequence : ℕ) (events : ExtTreeMap ℤ StoredEventRow) :
    Except StoreError ℕ := do
  let maxStored := (events.toList.getLast?.map Prod.fst).getD 0
  let maxStoredSequence ← u64FromNonnegativeI64 "events.sequence" maxStored
  pure (max prunedThroughSequence maxStoredSequence)

/-- `begin_event_replay_scoped` (L160-195), with the key that `getrandom` fills. -/
def beginEventReplayScoped (prunedThroughSequence : ℕ) (events : ExtTreeMap ℤ StoredEventRow)
    (entropy : Option CursorKey) (afterSequence : ℕ) (limits : PageLimits) (scope : SessionScope) :
    Except ReplayError EventReplaySession :=
  match hlimits : limits.validate with
  | .error error => .error (.invalidLimits error)
  | .ok () => do
    let cursorHmacKey ← okOr entropy .entropyUnavailable
    let throughSequence ← mapErr (newestSequence prunedThroughSequence events) .store
    failIf (afterSequence < prunedThroughSequence)
      (.replayUnavailable (prunedThroughSequence + 1) throughSequence)
    failIf (afterSequence > throughSequence) (.invalidRange afterSequence throughSequence)
    pure {
      startAfterSequence := afterSequence, throughSequence, limits, scope, cursorHmacKey, events,
      validLimits := hlimits }

namespace EventReplaySession

variable [ReplayExternals]

/-! ## Cursors -/

variable (session : EventReplaySession)

/-- `encode_cursor` (L285-310). HMAC takes a key of any length, so `new_from_slice` does
not fail. -/
def encodeCursor (lastSequence : ℕ) :
    Except ReplayError (List UInt8) := do
  failIf (lastSequence ≤ session.startAfterSequence ∨ lastSequence > session.throughSequence)
    .invalidCursor
  let document : EventCursorDocument := { session with version := eventCursorVersion, lastSequence }
  let payload ← mapErr (ReplayExternals.packCursor document) fun error =>
    .store (.codecMismatch ("encode event replay cursor: " ++ error))
  let tag := ReplayExternals.hmacSha256 session.cursorHmacKey (eventCursorDomain ++ payload)
  pure (payload ++ tag.toList)

/-- `decode_cursor`, L312-345 -/
def decodeCursor (cursor : List UInt8) :
    Except ReplayError EventCursorDocument := do
  failIf (cursor.length ≤ cursorTagBytes ∨ cursor.length > maxCursorBytes) .invalidCursor
  let payload := cursor.take (cursor.length - cursorTagBytes)
  let tag := cursor.drop (cursor.length - cursorTagBytes)
  let expected := ReplayExternals.hmacSha256 session.cursorHmacKey (eventCursorDomain ++ payload)
  failIf (expected.toList ≠ tag) .invalidCursor
  let document ← okOr (ReplayExternals.unpackCursor payload) .invalidCursor
  let canonical ← mapErr (ReplayExternals.packCursor document) fun _ => .invalidCursor
  failIf (canonical ≠ payload ∨ document.version ≠ eventCursorVersion) .invalidCursor
  mapErr document.limits.validate .invalidLimits
  failIf (document.startAfterSequence ≠ session.startAfterSequence ∨
    document.throughSequence ≠ session.throughSequence ∨ document.limits ≠ session.limits ∨
    document.scope ≠ session.scope) .cursorContextMismatch
  failIf (document.lastSequence ≤ document.startAfterSequence ∨
    document.lastSequence > document.throughSequence) .invalidCursor
  pure document

/-! ## Reading the table -/

omit [ReplayExternals] in
/-- In `load_event_sequences_after`, L355-357 -/
def selectSequences (events : ExtTreeMap ℤ StoredEventRow) (after through : ℤ) (limit : ℕ) :
    List ℤ :=
  ((events.toList.map Prod.fst).filter fun sequence =>
    decide (after < sequence ∧ sequence ≤ through)).take limit

omit [ReplayExternals] in
/-- The loop of `load_event_sequences_after` (L367-376) over the rows. -/
def checkSequences (afterSequence throughSequence : ℕ) :
    List ℕ → List ℤ → Except ReplayError (List ℕ)
  | sequences, [] => .ok sequences
  | sequences, row :: rows => do
    let sequence ← mapErr (u64FromNonnegativeI64 "events.sequence" row) .store
    failIf (sequence ≤ afterSequence ∨ sequence > throughSequence) (.store .corruption)
    failIf (∃ prior ∈ sequences.getLast?, sequence ≤ prior) (.store .corruption)
    checkSequences afterSequence throughSequence (sequences ++ [sequence]) rows

omit [ReplayExternals] in
/-- `load_event_sequences_after`, L348-378 -/
def loadEventSequencesAfter (afterSequence throughSequence : ℕ)
    (fetchLimit : ℕ) : Except ReplayError (List ℕ) := do
  let after ← mapErr (u64ToSqliteI64 "event_replay.after_sequence" afterSequence) .store
  let through ← mapErr (u64ToSqliteI64 "event_replay.through_sequence" throughSequence) .store
  checkSequences afterSequence throughSequence []
    (selectSequences session.events after through fetchLimit)

/-- `load_event_at_sequence`, L381-444 -/
def loadEventAtSequence (expectedSequence : ℕ) :
    Except ReplayError (Option DomainEvent) := do
  let sequence ← mapErr (u64ToSqliteI64 "event_replay.expected_sequence" expectedSequence) .store
  match session.events[sequence]? with
  | none => pure none
  | some row => do
    let event ← mapErr (ReplayExternals.decodeStoredDomainEvent sequence row) .store
    failIf (event.sequence ≠ expectedSequence) (.store .corruption)
    pure (some event)

/-- `canonical_event_page_encoded_bytes` (L446-471) over `canonical_event_page_size`
(`snapshot.rs:568-576`). -/
def canonicalEventPageEncodedBytes (page : EventPage) : Except ReplayError ℕ := do
  let encoded ← mapErr (ReplayExternals.packEventPage page) fun error =>
    .store (.codecMismatch ("encode event page: " ++ error))
  failIf (encoded.length ≥ 2 ^ 32)
    (.store (.integerOutOfRange "event_page.encoded_bytes" (min encoded.length u64Max)))
  pure encoded.length

/-! ## Pages -/

/-- The cursor of an event that is followed by more (L240-245). -/
def nextCursorOf (sequence : ℕ) (hasMore : Bool) :
    Except ReplayError (Option (List UInt8)) :=
  match hasMore with
  | true => do
    let cursor ← session.encodeCursor sequence
    pure (some cursor)
  | false => pure none

/-- The loop of `assemble_page` (L232-261), at `index` of `fetched` sequences, with the
events and the cursor accepted so far. -/
def assembleEvents (session : EventReplaySession) (afterSequence fetched : ℕ) :
    ℕ → List ℕ → List DomainEvent → Option (List UInt8) →
      Except ReplayError (List DomainEvent × Option (List UInt8))
  | _, [], events, acceptedNextCursor => .ok (events, acceptedNextCursor)
  | index, sequence :: sequences, events, acceptedNextCursor => do
    let loaded ← session.loadEventAtSequence sequence
    let event ← okOr loaded (.store .corruption)
    let nextCursor ← session.nextCursorOf sequence (index + 1 < fetched)
    let encodedBytes ← canonicalEventPageEncodedBytes {
      afterSequence, throughSequence := session.throughSequence, events := events ++ [event],
      nextCursor }
    if encodedBytes > session.limits.maxEncodedBytes then
      if events.isEmpty then
        .error (.pageItemTooLarge sequence encodedBytes session.limits.maxEncodedBytes)
      else .ok (events, acceptedNextCursor)
    else
      assembleEvents session afterSequence fetched (index + 1) sequences (events ++ [event])
        nextCursor

/-- The check of a page without events (L263-276). -/
def checkEmptyPage (afterSequence : ℕ) (events : List DomainEvent) :
    Except ReplayError Unit :=
  if events.isEmpty then do
    let encodedBytes ← canonicalEventPageEncodedBytes {
      afterSequence, throughSequence := session.throughSequence, events, nextCursor := none }
    failIf (encodedBytes > session.limits.maxEncodedBytes)
      (.pageEnvelopeTooLarge encodedBytes session.limits.maxEncodedBytes)
  else .ok ()

/-- `assemble_page`, L222-283 -/
def assemblePage (afterSequence : ℕ) (sequences : List ℕ) :
    Except ReplayError EventPage := do
  let (events, acceptedNextCursor) ← session.assembleEvents afterSequence sequences.length 0
    (sequences.take session.limits.maxItems) [] none
  session.checkEmptyPage afterSequence events
  pure {
    afterSequence, throughSequence := session.throughSequence, events,
    nextCursor := acceptedNextCursor }

/-- Where a page starts (L208-211). -/
def resumeAfter : Option (List UInt8) → Except ReplayError ℕ
  | some cursor => do
    let document ← session.decodeCursor cursor
    pure document.lastSequence
  | none => pure session.startAfterSequence

/-- `page`, L207-220 -/
def page (resumeCursor : Option (List UInt8)) :
    Except ReplayError EventPage := do
  let afterSequence ← session.resumeAfter resumeCursor
  let sequences ← session.loadEventSequencesAfter afterSequence session.throughSequence
    (session.limits.maxItems + 1)
  session.assemblePage afterSequence sequences

/-- A client that asks for a first page and follows the cursors, for so many rounds. -/
def follow (rounds : ℕ) :
    Except ReplayError (Option (List EventPage)) :=
  Paging.follow session.page EventPage.nextCursor rounds none

/-- The stored events of the session's range in order of their sequences, or the error of the first
that cannot be decoded. -/
def stored : Except StoreError (List DomainEvent) :=
  (session.events.toList.filter fun entry =>
    decide ((session.startAfterSequence : ℤ) < entry.1 ∧
      entry.1 ≤ (session.throughSequence : ℤ))).mapM fun entry =>
        ReplayExternals.decodeStoredDomainEvent entry.1 entry.2

end EventReplaySession

end DevManager
