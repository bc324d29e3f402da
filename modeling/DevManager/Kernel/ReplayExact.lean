import DevManager.Kernel.Replay

/-!
# Replay is exact

What is left of a session's range above a sequence is `rangeAfter`, a sorted
list. A page holds a nonempty prefix of it, or all of it when it is empty, and a
cursor stands for the last sequence of the page, so that what is left above it
is the rest of the list.

* `decodeCursor_encoded`: a cursor decodes to the sequence it was minted for, and
  only in a session that agrees with the one that minted it.
* `rangeAfter_of_begin`: the range of a session that was begun is all that is above its start.
* `page_ok`: what a page takes of the range.
-/

namespace DevManager

namespace EventReplaySession

open Std (ExtTreeMap)
open List ReplayExternals

section Exact

variable [ReplayExternals] {session session' : EventReplaySession}

/-! ## Cursors -/

/-- The document of a session's cursor. -/
def cursorDocument (session : EventReplaySession) (lastSequence : ℕ) : EventCursorDocument :=
  { session with version := eventCursorVersion, lastSequence }

theorem encodeCursor_eq_ok {lastSequence : ℕ} {cursor} :
    session.encodeCursor lastSequence = .ok cursor ↔
      session.startAfterSequence < lastSequence ∧ lastSequence ≤ session.throughSequence ∧
        ∃ payload, packCursor (session.cursorDocument lastSequence) = .ok payload ∧
          cursor = payload ++ (hmacSha256 session.cursorHmacKey
            (eventCursorDomain ++ payload)).toList := by
  unfold encodeCursor
  simp only [ok_iff, not_or, not_le, not_lt, and_assoc]
  rfl

/-- MessagePack reads back what it wrote. -/
def UnpacksCursors : Prop :=
  ∀ document bytes, ReplayExternals.packCursor document = .ok bytes →
    ReplayExternals.unpackCursor bytes = some document

/-- A tag is only valid under the key it was made with. -/
def UnforgeableTags : Prop :=
  ∀ (key key' : CursorKey) message,
    ReplayExternals.hmacSha256 key message = ReplayExternals.hmacSha256 key' message → key = key'

theorem decodeCursor_encoded (hunpack : UnpacksCursors) {lastSequence : ℕ} {cursor}
    {document} (hminted : session.encodeCursor lastSequence = .ok cursor)
    (h : session'.decodeCursor cursor = .ok document) :
    document = session.cursorDocument lastSequence ∧
      session'.startAfterSequence = session.startAfterSequence ∧
      session'.throughSequence = session.throughSequence ∧ session'.limits = session.limits ∧
      session'.scope = session.scope ∧
      ∃ message, hmacSha256 session'.cursorHmacKey message =
        hmacSha256 session.cursorHmacKey message := by
  obtain ⟨-, -, payload, hpack, rfl⟩ := encodeCursor_eq_ok.mp hminted
  unfold decodeCursor at h
  simp only [ok_iff, not_or] at h
  obtain ⟨-, htag, found, hfound, canonical, -, -, -, ⟨hstart, hthrough, hlim, hscope⟩, -, rfl⟩ := h
  -- the last 32 bytes are the tag, and the rest is the payload
  have hsplit : ∀ tag : Digest, (payload ++ tag.toList).length - cursorTagBytes =
    payload.length := by
    intro tag
    rw [length_append, Vector.length_toList, cursorTagBytes, Nat.add_sub_cancel]
  rw [hsplit, take_left] at htag hfound
  rw [drop_left] at htag
  rw [hunpack _ payload hpack] at hfound
  cases hfound
  refine ⟨rfl, hstart.symm, hthrough.symm, hlim.symm, hscope.symm, eventCursorDomain ++ payload, ?_⟩
  exact Vector.toList_inj.mp htag

/-! ## The range above a sequence -/

/-- The sequences of the table above `after`, up to the session's end. -/
def rangeAfter (session : EventReplaySession) (after : ℕ) : List ℕ :=
  ((session.events.toList.map Prod.fst).filter fun sequence =>
    decide ((after : ℤ) < sequence ∧ sequence ≤ (session.throughSequence : ℤ))).map Int.toNat

omit [ReplayExternals] in
theorem mem_rangeAfter {after sequence : ℕ} (h : sequence ∈ session.rangeAfter after) :
    after < sequence ∧ sequence ≤ session.throughSequence := by
  unfold rangeAfter at h
  obtain ⟨key, hkey, rfl⟩ := mem_map.mp h
  have hrange := (mem_filter.mp hkey).2
  rw [decide_eq_true_eq] at hrange
  omega

omit [ReplayExternals] in
theorem pairwise_keys (events : ExtTreeMap ℤ StoredEventRow) :
    (events.toList.map Prod.fst).Pairwise (· < ·) := by
  rw [pairwise_map]
  refine List.Pairwise.imp (fun {a b} h => ?_) ExtTreeMap.ordered_keys_toList
  exact Int.compare_eq_lt.mp h

omit [ReplayExternals] in
theorem pairwise_rangeAfter (after : ℕ) : (session.rangeAfter after).Pairwise (· < ·) := by
  unfold rangeAfter
  rw [pairwise_map]
  refine List.Pairwise.imp_of_mem (fun {a b} ha hb h => ?_) ((pairwise_keys _).filter _)
  have hrange := (mem_filter.mp ha).2
  rw [decide_eq_true_eq] at hrange
  omega

omit [ReplayExternals] in
theorem rangeAfter_of_le {after later : ℕ} (h : after ≤ later) :
    session.rangeAfter later = (session.rangeAfter after).filter (fun sequence =>
      later < sequence) := by
  unfold rangeAfter
  generalize session.events.toList.map Prod.fst = keys
  rw [filter_map, filter_filter]
  congr 1
  refine filter_congr fun key _ => ?_
  rw [Function.comp_apply, ← Bool.decide_and, decide_eq_decide]
  omega

omit [ReplayExternals] in
theorem rangeAfter_of_split {after last : ℕ} {before rest}
    (h : session.rangeAfter after = before ++ last :: rest) : session.rangeAfter last = rest := by
  have hmem : last ∈ session.rangeAfter after := by
    rw [h]
    exact mem_append_right _ (.head _)
  rw [rangeAfter_of_le (mem_rangeAfter hmem).1.le, h]
  apply Paging.filter_lt_of_pairwise
  rw [← h]
  exact pairwise_rangeAfter after

/-! ## The range that a session is pinned to -/

omit [ReplayExternals] in
theorem le_newestSequence {prunedThroughSequence newest : ℕ} {events}
    (h : newestSequence prunedThroughSequence events = .ok newest) {key : ℤ}
    (hkey : key ∈ events.toList.map Prod.fst) : key ≤ newest := by
  unfold newestSequence at h
  simp only [ok_iff] at h
  obtain ⟨maxStored, hstored, rfl⟩ := h
  rw [← getLast?_map] at hstored
  have hsorted := pairwise_keys events
  generalize events.toList.map Prod.fst = keys at hstored hsorted hkey
  obtain ⟨before, last, rfl⟩ : ∃ before last, keys = before ++ [last] :=
    eq_nil_or_concat' keys |>.resolve_left (ne_nil_of_mem hkey)
  rw [getLast?_concat, Option.getD_some, u64FromNonnegativeI64] at hstored
  split_ifs at hstored
  cases hstored
  -- the keys are sorted, so that the last one bounds them
  have hle : key ≤ last := by
    rcases mem_append.mp hkey with hpre | hlast
    · exact ((pairwise_append.mp hsorted).2.2 key hpre last (.head _)).le
    · exact (mem_singleton.mp hlast).le
  omega

omit [ReplayExternals] in
theorem rangeAfter_of_begin {prunedThroughSequence afterSequence : ℕ}
    {events entropy limits scope}
    (h : beginEventReplayScoped prunedThroughSequence events entropy afterSequence limits scope =
      .ok session) :
    prunedThroughSequence ≤ afterSequence ∧
      session.rangeAfter session.startAfterSequence =
        ((events.toList.map Prod.fst).filter fun sequence =>
          decide ((afterSequence : ℤ) < sequence)).map Int.toNat := by
  unfold beginEventReplayScoped at h
  split at h
  · cases h
  · simp only [ok_iff, not_lt] at h
    obtain ⟨key, -, newest, hnewest, hpruned, -, rfl⟩ := h
    refine ⟨hpruned, ?_⟩
    unfold rangeAfter
    congr 1
    refine filter_congr fun sequence hseq => ?_
    have hle := le_newestSequence hnewest hseq
    rw [decide_eq_decide]
    exact and_iff_left hle

/-! ## The sequences that a page fetches -/

omit [ReplayExternals] in
theorem checkSequences_ok {afterSequence throughSequence : ℕ} {rows} :
    ∀ {sequences result : List ℕ},
      checkSequences afterSequence throughSequence sequences rows = .ok result →
        result = sequences ++ rows.map Int.toNat := by
  induction rows with
  | nil =>
    intro sequences result h
    cases h
    rw [map_nil, append_nil]
  | cons row rows ih =>
    intro sequences result h
    rw [checkSequences] at h
    simp only [ok_iff] at h
    obtain ⟨sequence, hseq, -, -, hrest⟩ := h
    have htoNat : sequence = row.toNat := by
      unfold u64FromNonnegativeI64 at hseq
      split_ifs at hseq
      cases hseq
      rfl
    rw [ih hrest, htoNat, map_cons, append_assoc, singleton_append]

omit [ReplayExternals] in
theorem loadEventSequencesAfter_ok {afterSequence fetchLimit : ℕ} {sequences}
    (h : session.loadEventSequencesAfter afterSequence session.throughSequence fetchLimit =
      .ok sequences) : sequences = (session.rangeAfter afterSequence).take fetchLimit := by
  have hintent : ∀ {field : String} {value : ℕ} {key : ℤ},
      u64ToSqliteI64 field value = .ok key → key = value := by
    intro field value key hkey
    unfold u64ToSqliteI64 at hkey
    split_ifs at hkey
    cases hkey
    rfl
  unfold loadEventSequencesAfter at h
  simp only [ok_iff] at h
  obtain ⟨after, hpost, through, hthrough, hrows⟩ := h
  rw [checkSequences_ok hrows, hintent hpost, hintent hthrough, nil_append, selectSequences,
    map_take]
  rfl

/-! ## One page -/

/-- The event is the one the table has under its sequence. -/
def Loads (session : EventReplaySession) (event : DomainEvent) : Prop :=
  ∃ row, session.events[(event.sequence : ℤ)]? = some row ∧
    ReplayExternals.decodeStoredDomainEvent event.sequence row = .ok event

theorem loadEventAtSequence_ok {sequence : ℕ} {event}
    (h : session.loadEventAtSequence sequence = .ok (some event)) :
    event.sequence = sequence ∧ session.Loads event := by
  unfold loadEventAtSequence u64ToSqliteI64 at h
  simp only [ok_iff] at h
  obtain ⟨key, hkey, h⟩ := h
  split_ifs at hkey
  cases hkey
  cases hrow : session.events[(sequence : ℤ)]? with
  | none =>
    rw [hrow] at h
    simp only [pure_eq_ok, reduceCtorEq] at h
  | some row =>
    rw [hrow] at h
    simp only [ok_iff, Option.some.injEq] at h
    obtain ⟨found, hdec, hseq, rfl⟩ := h
    refine ⟨hseq, row, ?_, ?_⟩
    · rw [hseq]
      exact hrow
    · rw [hseq]
      exact hdec

/-- The page fits the session's byte limit. -/
def Fits (session : EventReplaySession) (page : EventPage) : Prop :=
  ∃ bytes, ReplayExternals.packEventPage page = .ok bytes ∧
    bytes.length ≤ session.limits.maxEncodedBytes

theorem fits_of_measured {page} {encodedBytes : ℕ}
    (h : canonicalEventPageEncodedBytes page = .ok encodedBytes)
    (hle : ¬ encodedBytes > session.limits.maxEncodedBytes) : session.Fits page := by
  unfold canonicalEventPageEncodedBytes at h
  simp only [ok_iff] at h
  obtain ⟨bytes, hbytes, -, rfl⟩ := h
  exact ⟨bytes, hbytes, not_lt.mp hle⟩

/-- The cursor that goes with the last accepted event, at so many of the fetched sequences. -/
def CursorAt (session : EventReplaySession) (taken fetched lastSequence : ℕ)
    (nextCursor : Option (List UInt8)) : Prop :=
  if taken < fetched then ∃ cursor, nextCursor = some cursor ∧
    session.encodeCursor lastSequence = .ok cursor
  else nextCursor = none

theorem assembleEvents_ok {afterSequence fetched : ℕ} {sequences} :
    ∀ {index : ℕ} {events events' : List DomainEvent} {accepted accepted' : Option (List UInt8)},
      session.assembleEvents afterSequence fetched index sequences events accepted =
        .ok (events', accepted') →
      ∃ new rest, events' = events ++ new ∧ sequences = new.map DomainEvent.sequence ++ rest ∧
        (∀ event ∈ new, session.Loads event) ∧
        (new = [] → accepted' = accepted ∧ (events = [] → rest = [])) ∧
        ∀ last, new.getLast? = some last →
          session.CursorAt (index + new.length) fetched last.sequence accepted' ∧
            session.Fits ⟨afterSequence, session.throughSequence, events', accepted'⟩ := by
  induction sequences with
  | nil =>
    intro index events events' accepted accepted' h
    cases h
    exact ⟨[], [], (append_nil _).symm, rfl, by simp, fun _ => ⟨rfl, fun _ => rfl⟩, by simp⟩
  | cons sequence sequences ih =>
    intro index events events' accepted accepted' h
    rw [assembleEvents] at h
    simp only [ok_iff] at h
    obtain ⟨_, hload, event, rfl, nextCursor, hcur, encodedBytes, hmeasured, h⟩ := h
    obtain ⟨hseq, hloads⟩ := loadEventAtSequence_ok hload
    have hat : session.CursorAt (index + 1) fetched event.sequence nextCursor := by
      unfold CursorAt
      rw [hseq]
      split_ifs with hmore
      · rw [decide_eq_true hmore] at hcur
        simp only [nextCursorOf, ok_iff] at hcur
        obtain ⟨cursor, henc, rfl⟩ := hcur
        exact ⟨cursor, rfl, henc⟩
      · rw [decide_eq_false hmore] at hcur
        exact pure_eq_ok.mp hcur
    split_ifs at h with hlarge hnil
    · -- the page is full, and not empty
      cases h
      refine ⟨[], sequence :: sequences, (append_nil _).symm, rfl, by simp, ?_, by simp⟩
      intro _
      refine ⟨rfl, fun hnone => ?_⟩
      rw [hnone] at hnil
      exact absurd rfl hnil
    · obtain ⟨new, rest, rfl, hpre, hall, hnone, hlast⟩ := ih h
      refine ⟨event :: new, rest, by simp, ?_, ?_, by simp, ?_⟩
      · rw [map_cons, hseq, cons_append, hpre]
      · intro other hother
        rcases mem_cons.mp hother with rfl | hother
        · exact hloads
        · exact hall other hother
      · intro last hmem
        cases new with
        | nil =>
          obtain ⟨rfl, -⟩ := hnone rfl
          cases hmem
          rw [append_nil]
          exact ⟨hat, fits_of_measured hmeasured hlarge⟩
        | cons second new =>
          obtain ⟨hcursorAt, hfits⟩ := hlast last hmem
          refine ⟨?_, hfits⟩
          rw [length_cons, ← Nat.add_assoc, Nat.add_right_comm]
          exact hcursorAt

omit [ReplayExternals] in
theorem maxItems_pos (session : EventReplaySession) : 0 < session.limits.maxItems := by
  have hvalid := session.validLimits
  unfold PageLimits.validate at hvalid
  simp only [ok_iff] at hvalid
  omega

theorem page_ok {resumeCursor} {after : ℕ} {page}
    (hres : session.resumeAfter resumeCursor = .ok after)
    (h : session.page resumeCursor = .ok page) :
    page.events.length ≤ session.limits.maxItems ∧ session.Fits page ∧
      (∀ event ∈ page.events, session.Loads event) ∧
      ((page.nextCursor = none ∧
          session.rangeAfter after = page.events.map DomainEvent.sequence) ∨
        ∃ cursor before last rest, page.nextCursor = some cursor ∧
          page.events.map DomainEvent.sequence = before ++ [last] ∧
          session.rangeAfter after = page.events.map DomainEvent.sequence ++ rest ∧
          session.encodeCursor last = .ok cursor) := by
  unfold EventReplaySession.page at h
  rw [hres, ok_bind] at h
  simp only [bind_eq_ok] at h
  obtain ⟨sequences, hseq, h⟩ := h
  rw [loadEventSequencesAfter_ok hseq] at h
  have hpos := session.maxItems_pos
  generalize session.rangeAfter after = range at h ⊢
  unfold assemblePage at h
  simp only [ok_iff, take_take, Nat.min_eq_left (Nat.le_succ _)] at h
  obtain ⟨⟨events, accepted⟩, hassembled, hempty, rfl⟩ := h
  obtain ⟨new, rest, hnew, hpre, hloads, hnone, hlast⟩ := assembleEvents_ok hassembled
  rw [nil_append] at hnew
  subst hnew
  have hlen : events.length ≤ session.limits.maxItems := by
    have htaken := congrArg List.length hpre
    rw [length_take, length_append, length_map] at htaken
    omega
  -- the page's sequences start the whole range too
  have hrange : range = events.map DomainEvent.sequence ++ range.drop events.length := by
    have htake : range.take events.length = events.map DomainEvent.sequence := by
      have heq := congrArg (List.take events.length) hpre
      rw [take_take, Nat.min_eq_left hlen] at heq
      rw [heq, take_left' (length_map _)]
    rw [← htake, take_append_drop]
  rcases eq_nil_or_concat' events with rfl | ⟨before, last, rfl⟩
  · obtain ⟨hacc, hrest⟩ := hnone rfl
    rw [hrest rfl, map_nil, append_nil] at hpre
    have hnil : range = [] := by
      rcases take_eq_nil_iff.mp hpre with hzero | hnil
      · omega
      · exact hnil
    refine ⟨hlen, ?_, hloads, .inl ⟨hacc, hnil⟩⟩
    rw [hacc]
    simp only [checkEmptyPage, isEmpty_nil, if_true, ok_iff] at hempty
    obtain ⟨encodedBytes, hmeasured, hfits⟩ := hempty
    exact fits_of_measured hmeasured hfits
  · obtain ⟨hcursorAt, hfits⟩ := hlast last (getLast?_concat ..)
    refine ⟨hlen, hfits, hloads, ?_⟩
    generalize hcount : (before ++ [last]).length = count at hcursorAt hlen hrange
    unfold CursorAt at hcursorAt
    rw [length_take, Nat.zero_add] at hcursorAt
    split_ifs at hcursorAt with hmore
    · obtain ⟨cursor, hcur, henc⟩ := hcursorAt
      exact .inr ⟨cursor, before.map DomainEvent.sequence, last.sequence, range.drop count, hcur,
        by rw [map_append]; rfl, hrange, henc⟩
    · refine .inl ⟨hcursorAt, ?_⟩
      have hall : range.length ≤ count := by omega
      rw [drop_eq_nil_of_le hall, append_nil] at hrange
      exact hrange

/-! ## Following the cursors -/

/-- What is left of the range at a cursor: all of it at the start, and then what is above the
sequence that the cursor was minted for. -/
inductive At (session : EventReplaySession) : Option (List UInt8) → List ℕ → Prop
  | start : At session none (session.rangeAfter session.startAfterSequence)
  | resumed {cursor : List UInt8} {lastSequence : ℕ}
      (h : session.encodeCursor lastSequence = .ok cursor) :
      At session (some cursor) (session.rangeAfter lastSequence)

theorem at_resumeAfter (hunpack : UnpacksCursors) {cursor} {left}
    {page} (hat : session.At cursor left) (h : session.page cursor = .ok page) :
    ∃ after, session.resumeAfter cursor = .ok after ∧ left = session.rangeAfter after := by
  cases hat with
  | start => exact ⟨session.startAfterSequence, rfl, rfl⟩
  | @resumed cursor lastSequence hminted =>
    unfold EventReplaySession.page at h
    simp only [bind_eq_ok] at h
    obtain ⟨after, hres, -⟩ := h
    refine ⟨after, hres, ?_⟩
    simp only [resumeAfter, ok_iff] at hres
    obtain ⟨document, hdec, rfl⟩ := hres
    rw [(decodeCursor_encoded hunpack hminted hdec).1]
    rfl

theorem page_advances (hunpack : UnpacksCursors) (session : EventReplaySession) :
    Paging.Advances session.page EventPage.nextCursor
      (fun page => page.events.map DomainEvent.sequence) session.At := by
  intro cursor left page hat hpage
  obtain ⟨after, hres, rfl⟩ := at_resumeAfter hunpack hat hpage
  obtain ⟨-, -, -, ⟨hnone, hrange⟩ | ⟨next, before, last, rest, hnext, hlast, hrange, henc⟩⟩ :=
    page_ok hres hpage
  · exact .inl ⟨hnone, hrange⟩
  · refine .inr ⟨next, rest, hnext, hrange, ?_, ?_⟩
    · show page.events.map DomainEvent.sequence ≠ []
      rw [hlast]
      exact append_ne_nil_of_right_ne_nil _ (cons_ne_nil _ _)
    · rw [hlast, append_assoc, singleton_append] at hrange
      rw [← rangeAfter_of_split hrange]
      exact .resumed henc

theorem stored_eq_ok {events}
    (hrange : events.map DomainEvent.sequence = session.rangeAfter session.startAfterSequence)
    (hloads : ∀ event ∈ events, session.Loads event) : session.stored = .ok events := by
  unfold stored
  apply mapM_eq_ok (g := fun entry => entry.1.toNat) (k := DomainEvent.sequence)
  · rw [hrange, rangeAfter, filter_map, map_map]
    rfl
  · rintro ⟨key, row⟩ hentry event hevent (hkey : key.toNat = event.sequence)
    obtain ⟨hmem, hin⟩ := mem_filter.mp hentry
    obtain ⟨row', hrow, hdec⟩ := hloads event hevent
    rw [decide_eq_true_eq] at hin
    obtain rfl : key = (event.sequence : ℤ) := by omega
    rw [ExtTreeMap.mem_toList_iff_getElem?_eq_some.mp hmem] at hrow
    cases hrow
    exact hdec

/-- Event replay is exact. If no page call fails, following the cursors ends, within one round
more than there are sequences in the range; the pages together hold the stored events of the
range in increasing order of their sequences; and every page is within both limits. A cursor is
accepted only by a session with the start, the end, the limits, the scope and the key of the
session that minted it. -/
theorem event_replay_exact (hunpack : UnpacksCursors) (hhmac : UnforgeableTags)
    (session : EventReplaySession)
    (hok : ∀ rounds error, session.follow rounds ≠ .error error) :
    (∃ pages, session.follow
          ((session.rangeAfter session.startAfterSequence).length + 1) = .ok (some pages) ∧
        session.stored = .ok (pages.flatMap EventPage.events) ∧
        (pages.flatMap EventPage.events).Pairwise (fun a b => a.sequence < b.sequence) ∧
        ∀ page ∈ pages, page.events.length ≤ session.limits.maxItems ∧
          ∃ bytes, packEventPage page = .ok bytes ∧ bytes.length ≤ session.limits.maxEncodedBytes) ∧
      ∀ (accepting : EventReplaySession) lastSequence cursor
        document, session.encodeCursor lastSequence = .ok cursor →
        accepting.decodeCursor cursor = .ok document →
        accepting.startAfterSequence = session.startAfterSequence ∧
          accepting.throughSequence = session.throughSequence ∧
          accepting.limits = session.limits ∧ accepting.scope = session.scope ∧
          accepting.cursorHmacKey = session.cursorHmacKey := by
  constructor
  · obtain ⟨pages, hfollow, hitems, hpages⟩ :=
      Paging.follow_exact (page_advances hunpack session) .start (Nat.lt_succ_self _) hok
    have hbounds : ∀ page ∈ pages, page.events.length ≤ session.limits.maxItems ∧
        session.Fits page ∧ ∀ event ∈ page.events, session.Loads event := by
      intro page hpage
      obtain ⟨cursor, left, hat, hread⟩ := hpages page hpage
      obtain ⟨after, hres, -⟩ := at_resumeAfter hunpack hat hread
      obtain ⟨hlen, hfits, hloads, -⟩ := page_ok hres hread
      exact ⟨hlen, hfits, hloads⟩
    have hrange : (pages.flatMap EventPage.events).map DomainEvent.sequence =
        session.rangeAfter session.startAfterSequence := by
      rw [map_flatMap]
      exact hitems
    refine ⟨pages, hfollow, ?_, ?_, ?_⟩
    · apply stored_eq_ok hrange
      intro event hevent
      obtain ⟨page, hpage, hevent⟩ := mem_flatMap.mp hevent
      exact (hbounds page hpage).2.2 event hevent
    · rw [← pairwise_map (f := DomainEvent.sequence), hrange]
      exact pairwise_rangeAfter _
    · intro page hpage
      exact ⟨(hbounds page hpage).1, (hbounds page hpage).2.1⟩
  · intro accepting lastSequence cursor document hminted hdec
    obtain ⟨-, hstart, hthrough, hlim, hscope, message, htag⟩ :=
      decodeCursor_encoded hunpack hminted hdec
    exact ⟨hstart, hthrough, hlim, hscope, hhmac _ _ message htag⟩

/-- A session that was begun after `afterSequence` replays the log: if no page call fails, following
the cursors ends, and the pages together name all sequences above `afterSequence` that are
stored, in order and each once. What was pruned is below them. -/
theorem begun_replay_exact (hunpack : UnpacksCursors) {prunedThroughSequence afterSequence : ℕ}
    {events : ExtTreeMap ℤ StoredEventRow} {entropy limits scope}
    (hbegin : beginEventReplayScoped prunedThroughSequence events entropy afterSequence limits
      scope = .ok session)
    (hok : ∀ rounds error, session.follow rounds ≠ .error error) :
    prunedThroughSequence ≤ afterSequence ∧
      ∃ pages, session.follow (events.size + 1) = .ok (some pages) ∧
        (pages.flatMap EventPage.events).map DomainEvent.sequence =
          ((events.toList.map Prod.fst).filter fun sequence =>
            decide ((afterSequence : ℤ) < sequence)).map Int.toNat := by
  obtain ⟨hpruned, hrange⟩ := rangeAfter_of_begin hbegin
  have hlength : (session.rangeAfter session.startAfterSequence).length < events.size + 1 := by
    rw [hrange, length_map]
    refine Nat.lt_succ_of_le ((length_filter_le _ _).trans ?_)
    rw [length_map, ExtTreeMap.length_toList]
  obtain ⟨pages, hfollow, hitems, -⟩ :=
    Paging.follow_exact (page_advances hunpack session) .start hlength hok
  refine ⟨hpruned, pages, hfollow, ?_⟩
  rw [map_flatMap, hitems, hrange]

end Exact

/-! ## Two pages of purged rows

The rows of purged events have no content, so that their MessagePack is short. Documents, pages and
the tag below are the bytes that the encoders give for a session of two such rows, one to a page,
under a key of zeros. -/

def packStr (s : String) : List UInt8 := UInt8.ofNat (0xa0 + s.toList.length) :: byteString s

def packUint (n : ℕ) : List UInt8 :=
  if n < 128 then [UInt8.ofNat n]
  else if n < 256 then [0xcc, UInt8.ofNat n]
  else [0xcd, UInt8.ofNat (n / 256), UInt8.ofNat n]

def purgedDocument : List UInt8 :=
  [0x83] ++ packStr "schema_version" ++ packUint 1 ++ packStr "event_type" ++
    packStr "event.purged" ++ packStr "payload" ++ [0x80]

def idBytes (payload : ℕ) : List UInt8 :=
  [0, 0, 0, 0, 0, 0, 0x70, 0, 0x80, 0, 0, 0, 0, 0, 0, UInt8.ofNat payload]

def purgedRow (payload : ℕ) : StoredEventRow where
  eventId := idBytes payload
  taskId := none
  taskRevision := none
  eventType := "event.purged"
  schemaVersion := 1
  occurredAtMs := 0
  payload := purgedDocument

def purgedEvent (sequence : ℕ) : DomainEvent where
  id := ⟨sequence⟩
  taskId := none
  sequence := sequence
  taskRevision := none
  occurredAtMs := 0
  payload := .purged

def packPurgedEvent (event : DomainEvent) : List UInt8 :=
  [0x86] ++ packStr "id" ++ [0xc4, 16] ++ idBytes event.id.payload ++ packStr "task_id" ++ [0xc0] ++
    packStr "sequence" ++ packUint event.sequence ++ packStr "task_revision" ++ [0xc0] ++
    packStr "occurred_at_ms" ++ packUint event.occurredAtMs.toNat ++ packStr "payload" ++
    purgedDocument

def packPurgedPage (page : EventPage) : List UInt8 :=
  [0x84] ++ packStr "after_sequence" ++ packUint page.afterSequence ++
    packStr "through_sequence" ++ packUint page.throughSequence ++ packStr "events" ++
    [UInt8.ofNat (0x90 + page.events.length)] ++ page.events.flatMap packPurgedEvent ++
    packStr "next_cursor" ++
    match page.nextCursor with
    | none => [0xc0]
    | some cursor => [0xdc, UInt8.ofNat (cursor.length / 256), UInt8.ofNat cursor.length] ++
        cursor.flatMap fun byte => packUint byte.toNat

def sampleSession : EventReplaySession where
  startAfterSequence := 0
  throughSequence := 2
  limits := ⟨1, 1000⟩
  scope := .global
  cursorHmacKey := Vector.replicate 32 0
  events := ((∅ : ExtTreeMap ℤ StoredEventRow).insert 1 (purgedRow 1)).insert 2 (purgedRow 2)
  validLimits := rfl

def samplePayload : List UInt8 :=
  [0x86] ++ packStr "version" ++ packUint 1 ++ packStr "start_after_sequence" ++ packUint 0 ++
    packStr "through_sequence" ++ packUint 2 ++ packStr "last_sequence" ++ packUint 1 ++
    packStr "limits" ++ [0x82] ++ packStr "max_items" ++ packUint 1 ++
    packStr "max_encoded_bytes" ++ packUint 1000 ++ packStr "scope" ++ [0x85] ++
    ["client_id", "task_id", "connection_id", "action_epoch", "runtime_generation"].flatMap
      fun field => packStr field ++ [0xc0]

def sampleTag : Digest :=
  #v[0x4d, 0xe9, 0x08, 0x9b, 0xc2, 0x3f, 0x8b, 0x96, 0xcd, 0xeb, 0x62, 0xa9, 0x95, 0x65, 0xed, 0xcd,
    0x73, 0xf9, 0x17, 0x9d, 0xd3, 0x6c, 0x87, 0x96, 0xe9, 0x41, 0x23, 0x2a, 0x2f, 0x93, 0x33, 0xc9]

@[reducible] def sampleReplay : ReplayExternals where
  decodeStoredDomainEvent sequence row :=
    if row.payload = purgedDocument then .ok (purgedEvent sequence.toNat)
    else .error (.eventDecode "not purged")
  packEventPage page := .ok (packPurgedPage page)
  packCursor document :=
    if document = sampleSession.cursorDocument 1 then .ok samplePayload else .error "not sampled"
  unpackCursor bytes :=
    if bytes = samplePayload then some (sampleSession.cursorDocument 1) else none
  hmacSha256 key message :=
    if message = eventCursorDomain ++ samplePayload then
      Equiv.swap sampleSession.cursorHmacKey sampleTag key
    else key

theorem unpacksCursors_sample : @UnpacksCursors sampleReplay := by
  intro document bytes hpack
  change (if document = sampleSession.cursorDocument 1 then _ else _) = _ at hpack
  split_ifs at hpack with hdoc
  cases hpack
  rw [hdoc]
  exact if_pos rfl

theorem unforgeableTags_sample : @UnforgeableTags sampleReplay := by
  intro key key' message htag
  change (if message = eventCursorDomain ++ samplePayload then _ else _) =
    if message = eventCursorDomain ++ samplePayload then _ else _ at htag
  split_ifs at htag
  · exact (Equiv.swap _ _).injective htag
  · exact htag

set_option maxRecDepth 4000 in
theorem page_sample_first : @page sampleReplay sampleSession none =
    .ok ⟨0, 2, [purgedEvent 1], some (samplePayload ++ sampleTag.toList)⟩ := rfl

set_option maxRecDepth 4000 in
theorem page_sample_second :
    @page sampleReplay sampleSession (some (samplePayload ++ sampleTag.toList)) =
      .ok ⟨1, 2, [purgedEvent 2], none⟩ := rfl

theorem follow_sample (rounds : ℕ) (error) :
    @follow sampleReplay sampleSession rounds ≠ .error error := by
  have hsome : ∀ result, (.ok result : Except ReplayError (Option (List EventPage))) ≠ .error
    error :=
    fun _ => by simp
  cases rounds with
  | zero => exact hsome _
  | succ rounds =>
    unfold follow
    rw [Paging.follow, page_sample_first, ok_bind]
    cases rounds with
    | zero => exact hsome none
    | succ rounds =>
      simp only [Paging.follow, page_sample_second, ok_bind]
      exact hsome _

theorem event_replay_exact_two_pages :
    ∃ pages, @follow sampleReplay sampleSession 3 = .ok (some pages) ∧
      @stored sampleReplay sampleSession = .ok (pages.flatMap EventPage.events) := by
  obtain ⟨⟨pages, hfollow, hstored, -⟩, -⟩ := @event_replay_exact sampleReplay
    unpacksCursors_sample unforgeableTags_sample sampleSession follow_sample
  exact ⟨pages, hfollow, hstored⟩

theorem begun_replay_exact_two_pages :
    ∃ pages, @follow sampleReplay sampleSession 3 = .ok (some pages) ∧
      (pages.flatMap EventPage.events).map DomainEvent.sequence = [1, 2] :=
  (@begun_replay_exact sampleReplay sampleSession unpacksCursors_sample 0 0 sampleSession.events
    (some (Vector.replicate 32 0)) ⟨1, 1000⟩ .global rfl follow_sample).2

end EventReplaySession

end DevManager
