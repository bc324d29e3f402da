import DevManager.Domain.Externals
import DevManager.Lib.Calls
import DevManager.Lib.Result

/-!
# Chunk transfers (`src/protocol/chunk.rs`)

A message that is too large for one frame is sent as chunks. The receiver's
`ChunkContext` checks that they arrive in order, belong to one transfer and hash
to what the sender says; the first refusal poisons it for good. The running
`Sha256` is the bytes it has been fed.

* `checkFrame_eq_ok`: what a frame passed that was not refused.
* `transferred_accept`: one more frame of a transfer.
-/

namespace DevManager

open List Calls

/-! ## Limits -/

/-- `MAX_CHUNK_BYTES`, L10 -/
def maxChunkBytes : ℕ := 256 * 1024

/-- `MAX_CUMULATIVE_BYTES`, L11 -/
def maxCumulativeBytes : ℕ := 16 * 1024 * 1024

/-- `MAX_CURSOR_BYTES`, L12 -/
def maxCursorBytes : ℕ := 64 * 1024

/-- `u32::MAX`. -/
def u32Max : ℕ := 2 ^ 32 - 1

/-- `a.checked_add(b)` on `u32`. -/
def checkedAdd32 (a b : ℕ) : Option ℕ := if a + b ≤ u32Max then some (a + b) else none

/-- `ChunkLimitField`, L19-23 -/
inductive ChunkLimitField
  | chunkBytes | cumulativeBytes | cursorBytes
deriving DecidableEq

/-- `ChunkLimitsError`, L36-48 -/
inductive ChunkLimitsError
  | zero (field : ChunkLimitField)
  | exceedsHardMaximum (field : ChunkLimitField) (declared maximum : ℕ)
  | chunkExceedsCumulative (chunk cumulative : ℕ)
deriving DecidableEq

/-- `ChunkError`, L74-89 -/
inductive ChunkError
  | limits (error : ChunkLimitsError)
  | emptyPayload
  | chunkTooLarge (declared maximum : ℕ)
  | cumulativeOverflow
  | cumulativeTooLarge (declared maximum : ℕ)
  | cursorEmpty
  | cursorTooLarge (declared maximum : ℕ)
  | transferIdMismatch
  | indexMismatch (expected received : ℕ)
  | resumeCursorMismatch
  | cumulativeHashMismatch
  | alreadyComplete
  | finalRequired
  | poisoned

/-- `ChunkLimits`, L134-138 -/
structure ChunkLimits where
  maxChunkBytes : ℕ
  maxCumulativeBytes : ℕ
  maxCursorBytes : ℕ

namespace ChunkLimits

/-- `v1_default`, L142-148 -/
def v1Default : ChunkLimits where
  maxChunkBytes := DevManager.maxChunkBytes
  maxCumulativeBytes := DevManager.maxCumulativeBytes
  maxCursorBytes := DevManager.maxCursorBytes

variable (limits : ChunkLimits)

/-- `validate`, L168-204 -/
def validate : Except ChunkLimitsError Unit := do
  [(.chunkBytes, limits.maxChunkBytes, DevManager.maxChunkBytes),
    (.cumulativeBytes, limits.maxCumulativeBytes, DevManager.maxCumulativeBytes),
    (.cursorBytes, limits.maxCursorBytes, DevManager.maxCursorBytes)].forM
      fun (field, value, maximum) => do
        failIf (value = 0) (.zero field)
        failIf (value > maximum) (.exceedsHardMaximum field value maximum)
  failIf (limits.maxChunkBytes > limits.maxCumulativeBytes)
    (.chunkExceedsCumulative limits.maxChunkBytes limits.maxCumulativeBytes)

/-- `try_new`, L153-166 -/
def tryNew (maxChunkBytes maxCumulativeBytes maxCursorBytes : ℕ) :
    Except ChunkLimitsError ChunkLimits := do
  let limits : ChunkLimits := ⟨maxChunkBytes, maxCumulativeBytes, maxCursorBytes⟩
  limits.validate
  pure limits

/-- `negotiate`, L206-214 -/
def negotiate (limits peer : ChunkLimits) : Except ChunkLimitsError ChunkLimits := do
  limits.validate
  peer.validate
  tryNew (min limits.maxChunkBytes peer.maxChunkBytes)
    (min limits.maxCumulativeBytes peer.maxCumulativeBytes)
    (min limits.maxCursorBytes peer.maxCursorBytes)

/-- `validate_chunk` (L216-238): the cumulative length with the payload. -/
def validateChunk (cumulativeBefore : ℕ) (payload : List UInt8) :
    Except ChunkError ℕ := do
  failIf (payload = []) .emptyPayload
  let declared := payload.length
  failIf (declared > limits.maxChunkBytes) (.chunkTooLarge declared limits.maxChunkBytes)
  let cumulative ← okOr (checkedAdd cumulativeBefore declared) .cumulativeOverflow
  failIf (cumulative > limits.maxCumulativeBytes)
    (.cumulativeTooLarge cumulative limits.maxCumulativeBytes)
  pure cumulative

/-- `validate_cursor_len`, L239-251 -/
def validateCursorLen (length : ℕ) : Except ChunkError Unit := do
  failIf (length = 0) .cursorEmpty
  failIf (length > limits.maxCursorBytes) (.cursorTooLarge length limits.maxCursorBytes)

/-- `if let Some(cursor) = … { limits.validate_cursor_len(cursor.len())? }`
(L462-464, L665-667). -/
def validateCursor : Option (List UInt8) → Except ChunkError Unit
  | none => pure ()
  | some cursor => limits.validateCursorLen cursor.length

variable {limits : ChunkLimits}

theorem validate_eq_ok :
    limits.validate = .ok () ↔
      (0 < limits.maxChunkBytes ∧ limits.maxChunkBytes ≤ DevManager.maxChunkBytes) ∧
      (0 < limits.maxCumulativeBytes ∧ limits.maxCumulativeBytes ≤ DevManager.maxCumulativeBytes) ∧
      (0 < limits.maxCursorBytes ∧ limits.maxCursorBytes ≤ DevManager.maxCursorBytes) ∧
      limits.maxChunkBytes ≤ limits.maxCumulativeBytes := by
  unfold validate
  simp only [ok_iff, forM_eq_ok, forall_mem_cons, not_mem_nil, false_implies,
    implies_true, and_true]
  omega

theorem validateChunk_eq_ok {before cumulative : ℕ}
    {payload} (h : limits.validateChunk before payload = .ok cumulative) :
    0 < payload.length ∧ cumulative = before + payload.length ∧
      cumulative ≤ limits.maxCumulativeBytes := by
  simp only [validateChunk, ok_iff, checkedAdd_eq_some] at h
  obtain ⟨hne, -, _, ⟨-, rfl⟩, hle, rfl⟩ := h
  have hpos : 0 < payload.length := length_pos_iff.mpr hne
  exact ⟨hpos, rfl, by omega⟩

end ChunkLimits

/-! ## Frames -/

/-- `validate_shape` (L448-472), on the two fields it reads. -/
def ChunkFrame.validateShape (payload : List UInt8) (resumeCursor : Option (List UInt8)) :
    Except ChunkError Unit := do
  failIf (payload = []) .emptyPayload
  let declared := payload.length
  failIf (declared > maxChunkBytes) (.chunkTooLarge declared maxChunkBytes)
  match resumeCursor with
  | none => pure ()
  | some cursor => do
    let declared := cursor.length
    failIf (declared = 0) .cursorEmpty
    failIf (declared > maxCursorBytes) (.cursorTooLarge declared maxCursorBytes)

/-- `ChunkFrame` (L376-383). The fields are private, and `new` and the decoder check the
shape. -/
structure ChunkFrame where
  transferId : TransferId
  index : ℕ
  finalChunk : Bool
  payload : List UInt8
  cumulativeSha256 : Digest
  resumeCursor : Option (List UInt8)
  shape : ChunkFrame.validateShape payload resumeCursor = .ok ()

/-- `validate`, L474-482 -/
def ChunkFrame.validate (frame : ChunkFrame) (limits : ChunkLimits) : Except ChunkError Unit := do
  mapErr limits.validate ChunkError.limits
  validateShape frame.payload frame.resumeCursor
  let _ ← limits.validateChunk 0 frame.payload
  limits.validateCursor frame.resumeCursor

/-! ## The receiving context -/

/-- `ChunkContext` (L647-656). `cumulativeHasher` is what the hasher has been fed. -/
structure ChunkContext where
  transferId : TransferId
  limits : ChunkLimits
  resumeCursor : Option (List UInt8)
  nextIndex : ℕ
  cumulativeBytes : ℕ
  cumulativeHasher : List UInt8
  complete : Bool
  poisoned : Bool

/-- The calls of a receiver that can fail. -/
inductive ChunkCall
  | accept (frame : ChunkFrame)
  | requireComplete

namespace ChunkContext

/-- `new`, L659-679 -/
def new (transferId : TransferId) (limits : ChunkLimits) (resumeCursor : Option (List UInt8)) :
    Except ChunkError ChunkContext := do
  mapErr limits.validate ChunkError.limits
  limits.validateCursor resumeCursor
  pure {
    transferId, limits, resumeCursor, nextIndex := 0, cumulativeBytes := 0, cumulativeHasher := [],
    complete := false, poisoned := false }

section Accept

variable [Externals] (ctx : ChunkContext) (frame : ChunkFrame)

/-- The checks of `accept_inner` (L702-729): the cumulative length with the frame. -/
def checkFrame : Except ChunkError ℕ := do
  failIf (ctx.complete = true) .alreadyComplete
  frame.validate ctx.limits
  failIf (frame.transferId ≠ ctx.transferId) .transferIdMismatch
  failIf (frame.index ≠ ctx.nextIndex) (.indexMismatch ctx.nextIndex frame.index)
  failIf (frame.resumeCursor ≠ ctx.resumeCursor) .resumeCursorMismatch
  let cumulative ← ctx.limits.validateChunk ctx.cumulativeBytes frame.payload
  let candidateHash := Externals.sha256 (ctx.cumulativeHasher ++ frame.payload)
  failIf (frame.cumulativeSha256 ≠ candidateHash) .cumulativeHashMismatch
  pure cumulative

/-- `accept_inner` (L701-738). The hasher and the length are written before the index is
counted up. -/
def acceptInner : Except ChunkError Unit × ChunkContext :=
  match ctx.checkFrame frame with
  | .error error => (.error error, ctx)
  | .ok cumulative =>
    let ctx := { ctx with
      cumulativeHasher := ctx.cumulativeHasher ++ frame.payload, cumulativeBytes := cumulative }
    match checkedAdd32 ctx.nextIndex 1 with
    | none => (.error .cumulativeOverflow, ctx)
    | some next => (.ok (), { ctx with nextIndex := next, complete := frame.finalChunk })

/-- `accept`, L688-698 -/
def accept : Except ChunkError Unit × ChunkContext :=
  if ctx.poisoned then (.error .poisoned, ctx)
  else
    match ctx.acceptInner frame with
    | (.ok (), ctx) => (.ok (), ctx)
    | (.error error, ctx) => (.error error, { ctx with poisoned := true, complete := false })

/-- `require_complete`, L754-764 -/
def requireComplete : Except ChunkError Unit × ChunkContext :=
  if ctx.poisoned then (.error .poisoned, ctx)
  else if ctx.complete then (.ok (), ctx)
  else (.error .finalRequired, { ctx with poisoned := true })

/-- `is_complete`, L738-740 -/
def isComplete : Bool := ctx.complete && !ctx.poisoned

/-- One call on the context. -/
def call : ChunkCall → Except ChunkError Unit × ChunkContext
  | .accept frame => ctx.accept frame
  | .requireComplete => ctx.requireComplete

/-! ## One call -/

variable {ctx : ChunkContext} {frame : ChunkFrame}

theorem checkFrame_eq_ok {cumulative : ℕ} (h : ctx.checkFrame frame = .ok cumulative) :
    ctx.complete = false ∧ frame.transferId = ctx.transferId ∧ frame.index = ctx.nextIndex ∧
      frame.resumeCursor = ctx.resumeCursor ∧ 0 < frame.payload.length ∧
      cumulative = ctx.cumulativeBytes + frame.payload.length ∧
      cumulative ≤ ctx.limits.maxCumulativeBytes ∧
      frame.cumulativeSha256 = Externals.sha256 (ctx.cumulativeHasher ++ frame.payload) := by
  simp only [checkFrame, ok_iff, Bool.not_eq_true] at h
  obtain ⟨hopen, -, hid, hidx, hcur, _, hchunk, hhash, rfl⟩ := h
  obtain ⟨hpos, hsum, hle⟩ := ChunkLimits.validateChunk_eq_ok hchunk
  exact ⟨hopen, hid, hidx, hcur, hpos, hsum, hle, hhash⟩

theorem accept_eq_ok {ctx'} (h : ctx.accept frame = (.ok (), ctx')) :
    ctx.poisoned = false ∧ ∃ cumulative, ctx.checkFrame frame = .ok cumulative ∧
      ctx' = { ctx with
        cumulativeHasher := ctx.cumulativeHasher ++ frame.payload
        cumulativeBytes := cumulative
        nextIndex := ctx.nextIndex + 1
        complete := frame.finalChunk } := by
  unfold accept at h
  split_ifs at h with hpoisoned
  · simp at h
  split at h
  case h_2 => simp at h
  rename_i ctx₁ hinner
  simp only [Prod.mk.injEq, true_and] at h
  subst h
  unfold acceptInner at hinner
  split at hinner
  · simp at hinner
  rename_i cumulative hcheck
  simp only [checkedAdd32] at hinner
  split_ifs at hinner with hidx
  · simp only [Prod.mk.injEq, true_and] at hinner
    exact ⟨Bool.not_eq_true _ ▸ hpoisoned, cumulative, hcheck, hinner.symm⟩
  · simp at hinner

theorem poisoned_of_error {c error}
    (h : (ctx.call c).1 = .error error) : (ctx.call c).2.poisoned = true := by
  cases c with
  | accept frame =>
    simp only [call, accept] at h ⊢
    split_ifs at h ⊢ with hpoisoned
    · exact hpoisoned
    · split at h
      · simp at h
      · rfl
  | requireComplete =>
    simp only [call, requireComplete] at h ⊢
    split_ifs at h ⊢ with hpoisoned hcomplete
    · exact hpoisoned
    · rfl

theorem call_of_poisoned (h : ctx.poisoned = true) (c) :
    ctx.call c = (.error .poisoned, ctx) := by
  cases c with
  | accept frame => simp only [call, accept, h, if_true]
  | requireComplete => simp only [call, requireComplete, h, if_true]

/-! ## The index never overflows -/

/-- Every frame carries a byte, so the index stays below the length, which the limits bound. -/
structure Bounded (ctx : ChunkContext) : Prop where
  valid : ctx.limits.validate = .ok ()
  index_le : ctx.nextIndex ≤ ctx.cumulativeBytes
  bytes_le : ctx.cumulativeBytes ≤ ctx.limits.maxCumulativeBytes

omit [Externals] in
theorem Bounded.checkedAdd (h : ctx.Bounded) :
    checkedAdd32 ctx.nextIndex 1 = some (ctx.nextIndex + 1) := by
  obtain ⟨-, ⟨-, hmax⟩, -⟩ := ChunkLimits.validate_eq_ok.mp h.valid
  have hidx := h.index_le
  have hbytes := h.bytes_le
  have hle : ctx.nextIndex + 1 ≤ u32Max := by
    unfold maxCumulativeBytes at hmax
    unfold u32Max
    omega
  rw [checkedAdd32, if_pos hle]

theorem bounded_acceptInner (h : ctx.Bounded) (frame) :
    (ctx.acceptInner frame).2.Bounded := by
  unfold acceptInner
  cases hcheck : ctx.checkFrame frame with
  | error => exact h
  | ok cumulative =>
    obtain ⟨-, -, -, -, hpos, hsum, hle, -⟩ := checkFrame_eq_ok hcheck
    have hidx := h.index_le
    simp only [h.checkedAdd]
    refine ⟨h.valid, ?_, hle⟩
    show ctx.nextIndex + 1 ≤ cumulative
    omega

theorem bounded_call (h : ctx.Bounded) (c) : (ctx.call c).2.Bounded := by
  cases c with
  | accept frame =>
    have hinner := bounded_acceptInner h frame
    simp only [call, accept]
    split_ifs
    · exact h
    · split
      · rename_i heq
        rw [heq] at hinner
        exact hinner
      · rename_i heq
        rw [heq] at hinner
        exact ⟨hinner.valid, hinner.index_le, hinner.bytes_le⟩
  | requireComplete =>
    simp only [call, requireComplete]
    split_ifs
    · exact h
    · exact h
    · exact ⟨h.valid, h.index_le, h.bytes_le⟩

/-! ## What has been received -/

/-- The frames form the transfer `transferId` with this cursor, as far as it went: indices from 0
on, a hash over all payloads up to each frame, and no frame but the last one final. -/
structure IsTransfer (transferId : TransferId) (resumeCursor : Option (List UInt8))
    (frames : List ChunkFrame) : Prop where
  ids : ∀ frame ∈ frames, frame.transferId = transferId ∧ frame.resumeCursor = resumeCursor
  indices : frames.map ChunkFrame.index = List.range frames.length
  hashes : ∀ before frame after, frames = before ++ frame :: after →
    frame.cumulativeSha256 = Externals.sha256 ((before ++ [frame]).flatMap ChunkFrame.payload)
  finals : ∀ before frame after, frames = before ++ frame :: after → after ≠ [] →
    frame.finalChunk = false

/-- The total payload length of frames. -/
def totalLength (frames : List ChunkFrame) : ℕ :=
  (frames.map fun frame => frame.payload.length).sum

/-- The context has accepted exactly these frames. -/
structure Transferred (start ctx : ChunkContext) (frames : List ChunkFrame) : Prop where
  transfer : IsTransfer start.transferId start.resumeCursor frames
  transferId : ctx.transferId = start.transferId
  resumeCursor : ctx.resumeCursor = start.resumeCursor
  limits : ctx.limits = start.limits
  nextIndex : ctx.nextIndex = frames.length
  bytes : ctx.cumulativeBytes = totalLength frames
  hasher : ctx.cumulativeHasher = frames.flatMap ChunkFrame.payload
  complete : ctx.complete = (frames.getLast?.map ChunkFrame.finalChunk).getD false

variable {cursor : Option (List UInt8)}

theorem IsTransfer.append {transferId frames} (h : IsTransfer transferId cursor frames)
    (hid : frame.transferId = transferId ∧ frame.resumeCursor = cursor)
    (hidx : frame.index = frames.length) (hhash : frame.cumulativeSha256 =
      Externals.sha256 ((frames ++ [frame]).flatMap ChunkFrame.payload))
    (hopen : ∀ last ∈ frames.getLast?, last.finalChunk = false) :
    IsTransfer transferId cursor (frames ++ [frame]) where
  ids := by
    intro f hf
    rcases mem_append.mp hf with hf | hf
    · exact h.ids f hf
    · rw [mem_singleton.mp hf]
      exact hid
  indices := by
    rw [map_append, h.indices, length_append, length_singleton, range_succ, map_singleton, hidx]
  hashes := by
    intro before f after heq
    rcases concat_eq_split heq with ⟨rfl, rfl, rfl⟩ | ⟨rest, rfl, hframes⟩
    · exact hhash
    · exact h.hashes before f rest hframes
  finals := by
    intro before f after heq hpost
    rcases concat_eq_split heq with ⟨rfl, rfl, rfl⟩ | ⟨rest, rfl, hframes⟩
    · exact absurd rfl hpost
    · by_cases hrest : rest = []
      · apply hopen f
        rw [hframes, hrest, getLast?_concat]
        rfl
      · exact h.finals before f rest hframes hrest

theorem transferred_new {transferId limits} (h : new transferId limits cursor = .ok ctx) :
    (ctx.transferId = transferId ∧ ctx.limits = limits ∧ ctx.resumeCursor = cursor) ∧
      ctx.Bounded ∧ ctx.poisoned = false ∧ Transferred ctx ctx [] := by
  simp only [new, ok_iff] at h
  obtain ⟨hvalid, -, rfl⟩ := h
  refine ⟨⟨rfl, rfl, rfl⟩, ⟨hvalid, le_rfl, Nat.zero_le _⟩, rfl, ?_⟩
  exact {
    transfer := ⟨by simp, rfl, by simp, by simp⟩
    transferId := rfl
    resumeCursor := rfl
    limits := rfl
    nextIndex := rfl
    bytes := rfl
    hasher := rfl
    complete := rfl }

variable {start : ChunkContext}

theorem transferred_accept {ctx' frames}
     (h : Transferred start ctx frames)
    (hacc : ctx.accept frame = (.ok (), ctx')) : Transferred start ctx' (frames ++ [frame]) := by
  obtain ⟨-, cumulative, hcheck, rfl⟩ := accept_eq_ok hacc
  obtain ⟨hopen, hid, hidx, hcur, -, hsum, -, hhash⟩ := checkFrame_eq_ok hcheck
  have hhasher : ctx.cumulativeHasher ++ frame.payload =
      (frames ++ [frame]).flatMap ChunkFrame.payload := by
    rw [h.hasher, flatMap_append, flatMap_singleton]
  have hlast : ∀ last ∈ frames.getLast?, last.finalChunk = false := by
    intro last hmem
    have hcomplete := h.complete
    rw [hopen, Option.mem_def.mp hmem] at hcomplete
    exact hcomplete.symm
  refine {
    transfer := h.transfer.append ⟨hid.trans h.transferId, hcur.trans h.resumeCursor⟩
      (hidx.trans h.nextIndex) (hhasher ▸ hhash) hlast
    transferId := h.transferId
    resumeCursor := h.resumeCursor
    limits := h.limits
    nextIndex := ?_
    bytes := ?_
    hasher := hhasher
    complete := ?_ }
  · show ctx.nextIndex + 1 = _
    rw [length_append, h.nextIndex, length_singleton]
  · show cumulative = _
    rw [hsum, h.bytes]
    simp [totalLength]
  · simp

/-! ## Any calls -/

/-- The frames that `accept` took. -/
def accepted (history : List (ChunkCall × Except ChunkError Unit)) : List ChunkFrame :=
  history.filterMap fun
    | (.accept frame, .ok ()) => some frame
    | _ => none

variable {history : List (ChunkCall × Except ChunkError Unit)}

theorem transferred_call {c}
    (h : Transferred start ctx (accepted history)) (hok : (ctx.call c).1 = .ok ()) :
    Transferred start (ctx.call c).2 (accepted (history ++ [(c, .ok ())])) := by
  cases c with
  | accept frame =>
    have hacc : ctx.accept frame = (.ok (), (ctx.accept frame).2) := Prod.ext hok rfl
    have happend : accepted (history ++ [(.accept frame, .ok ())]) =
      accepted history ++ [frame] := by
      simp [accepted]
    rw [happend]
    exact transferred_accept h hacc
  | requireComplete =>
    have hsame : (ctx.call .requireComplete).2 = ctx := by
      simp only [call, requireComplete] at hok ⊢
      split_ifs at hok ⊢
      rfl
    have happend : accepted (history ++ [(.requireComplete, .ok ())]) = accepted history := by
      simp [accepted]
    rw [hsame, happend]
    exact h

/-- The state of a context after the calls in `history`: unless it is poisoned nothing was refused
and the accepted frames are a transfer; after a refusal everything is refused. -/
structure Received (start ctx : ChunkContext)
    (history : List (ChunkCall × Except ChunkError Unit)) : Prop where
  bounded : ctx.Bounded
  transferred : ctx.poisoned = false → Transferred start ctx (accepted history)
  refused : (∃ entry ∈ history, isOk entry.2 = false) → ctx.poisoned = true
  fatal : history.Pairwise fun earlier later => isOk earlier.2 = false → isOk later.2 = false

theorem received_call (h : Received start ctx history)
    (c) : Received start (ctx.call c).2 (history ++ [(c, (ctx.call c).1)]) := by
  cases hres : (ctx.call c).1 with
  | error error =>
    have hpoisoned : (ctx.call c).2.poisoned = true := poisoned_of_error hres
    refine ⟨bounded_call h.bounded c, ?_, fun _ => hpoisoned, ?_⟩
    · intro hclean
      rw [hpoisoned] at hclean
      cases hclean
    · refine pairwise_append.mpr ⟨h.fatal, pairwise_singleton _ _, ?_⟩
      intro earlier _ later hlater _
      rw [mem_singleton.mp hlater]
      rfl
  | ok u =>
    -- a call that succeeds finds the context clean, so nothing was refused before
    have hclean : ctx.poisoned = false := by
      by_contra hpoisoned
      rw [call_of_poisoned (by simpa using hpoisoned)] at hres
      cases hres
    have hnone : ∀ entry ∈ history, isOk entry.2 = true := by
      intro entry hentry
      by_contra hdeny
      have := h.refused ⟨entry, hentry, Bool.eq_false_of_not_eq_true hdeny⟩
      rw [hclean] at this
      cases this
    refine ⟨bounded_call h.bounded c, fun _ => ?_, ?_, ?_⟩
    · exact transferred_call (h.transferred hclean) hres
    · rintro ⟨entry, hentry, hdeny⟩
      rcases mem_append.mp hentry with hentry | hentry
      · rw [hnone entry hentry] at hdeny
        cases hdeny
      · rw [mem_singleton.mp hentry] at hdeny
        cases hdeny
    · refine pairwise_append.mpr ⟨h.fatal, pairwise_singleton _ _, ?_⟩
      intro earlier hearlier later _ hdeny
      rw [hnone earlier hearlier] at hdeny
      cases hdeny

/-- Chunk transfer safety. Whatever calls are made on a new context: if it is complete at the end,
then no call was refused and the accepted frames are one whole transfer within the limits,
with a final frame at its end; after a refusal every call is refused; and the index can always
be counted up. -/
theorem chunk_transfer_safe (transferId : TransferId) (limits : ChunkLimits)
    (resumeCursor : Option (List UInt8)) (start : ChunkContext)
    (hnew : new transferId limits resumeCursor = .ok start) (calls : List ChunkCall) :
    ((after call start calls).isComplete = true →
      IsTransfer transferId resumeCursor (accepted (trace call start calls)) ∧
      (∃ last, (accepted (trace call start calls)).getLast? = some last ∧ last.finalChunk = true) ∧
      totalLength (accepted (trace call start calls)) ≤ limits.maxCumulativeBytes ∧
      ∀ entry ∈ trace call start calls, entry.2 = .ok ()) ∧
    (trace call start calls).Pairwise (fun earlier later =>
      isOk earlier.2 = false → isOk later.2 = false) ∧
    checkedAdd32 (after call start calls).nextIndex 1 ≠ none := by
  obtain ⟨⟨hid, hlim, hcur⟩, hbound, hclean, hstart⟩ := transferred_new hnew
  have hrec : Received start (after call start calls) (trace call start calls) :=
    history_invariant (P := Received start)
      ⟨hbound, fun _ => hstart, by simp, .nil⟩
      (fun _ _ c h => received_call h c) calls
  refine ⟨?_, hrec.fatal, ?_⟩
  · intro hcomplete
    simp only [isComplete, Bool.and_eq_true, Bool.not_eq_true'] at hcomplete
    obtain ⟨hdone, hpoisoned⟩ := hcomplete
    have hmoved := hrec.transferred hpoisoned
    refine ⟨?_, ?_, ?_, ?_⟩
    · rw [← hid, ← hcur]
      exact hmoved.transfer
    · have hlast := hmoved.complete
      rw [hdone] at hlast
      cases hget : (accepted (trace call start calls)).getLast? with
      | none =>
        rw [hget] at hlast
        cases hlast
      | some last =>
        rw [hget] at hlast
        exact ⟨last, rfl, hlast.symm⟩
    · rw [← hmoved.bytes, ← hlim, ← hmoved.limits]
      exact hrec.bounded.bytes_le
    · intro entry hentry
      cases hres : entry.2 with
      | ok u => rfl
      | error error =>
        have := hrec.refused ⟨entry, hentry, by rw [hres]; rfl⟩
        rw [hpoisoned] at this
        cases this
  · rw [hrec.bounded.checkedAdd]
    exact Option.some_ne_none _

end Accept

section Sample

attribute [local instance] sampleExternals

def sampleFrame (index : ℕ) (finalChunk : Bool) : ChunkFrame where
  transferId := ⟨1⟩
  index := index
  finalChunk := finalChunk
  payload := [7]
  cumulativeSha256 := Vector.replicate 32 0
  resumeCursor := none
  shape := rfl

theorem chunk_transfer_safe_sample :
    ∃ start, new ⟨1⟩ ⟨1, 2, 1⟩ none = .ok start ∧
      let calls := [.accept (sampleFrame 0 false), .accept (sampleFrame 1 true), .requireComplete]
      (after call start calls).isComplete = true ∧
        ∀ entry ∈ trace call start calls, entry.2 = .ok () := by
  have hnew : new ⟨1⟩ ⟨1, 2, 1⟩ none = .ok _ := rfl
  exact ⟨_, hnew, rfl, ((chunk_transfer_safe ⟨1⟩ ⟨1, 2, 1⟩ none _ hnew
    [.accept (sampleFrame 0 false), .accept (sampleFrame 1 true), .requireComplete]).1 rfl).2.2.2⟩

end Sample

end ChunkContext

end DevManager
