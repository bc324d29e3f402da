import DevManager.Domain.SnapshotPage

/-!
# Physical frames (`src/protocol/frame.rs`)

A frame on the wire is a four-byte big-endian length and that many payload
bytes. The writer is a growing byte vector, the reader the bytes of the stream
that are still unread; a `u32` is a number, and `usize` is at least as wide.
Reserving storage for a payload can fail, so `read` is given what the allocator
answers.

* `read_eq_ok`: what `read` accepts is exactly what `write` makes.
-/

namespace DevManager

open List

/-! ## Limits -/

/-- `MAX_PHYSICAL_FRAME_BYTES`, L9 -/
def maxPhysicalFrameBytes : ℕ := 1024 * 1024

/-- `MAX_REASSEMBLED_MESSAGE_BYTES`, L10 -/
def maxReassembledMessageBytes : ℕ := 16 * 1024 * 1024

/-- `FrameLimitField`, L13-18 -/
inductive FrameLimitField
  | physicalFrameBytes | reassembledMessageBytes | pageItems | pageEncodedBytes
deriving DecidableEq

/-- `FrameLimitsError`, L32-34 -/
inductive FrameLimitsError
  | zero (field : FrameLimitField)
deriving DecidableEq

/-- `FrameLimits`, L90-95 -/
structure FrameLimits where
  maxPhysicalFrameBytes : ℕ
  maxReassembledMessageBytes : ℕ
  maxPageItems : ℕ
  maxPageEncodedBytes : ℕ
deriving DecidableEq

/-- `validate_offer`, L107-129 -/
def FrameLimits.validateOffer (limits : FrameLimits) : Except FrameLimitsError Unit :=
  [(.physicalFrameBytes, limits.maxPhysicalFrameBytes),
    (.reassembledMessageBytes, limits.maxReassembledMessageBytes),
    (.pageItems, limits.maxPageItems),
    (.pageEncodedBytes, limits.maxPageEncodedBytes)].forM
      fun (field, value) => failIf (value = 0) (.zero field)

/-- `v1_default`, L98-105 -/
def FrameLimits.v1Default : FrameLimits where
  maxPhysicalFrameBytes := DevManager.maxPhysicalFrameBytes
  maxReassembledMessageBytes := DevManager.maxReassembledMessageBytes
  maxPageItems := maxSnapshotPageItems
  maxPageEncodedBytes := maxSnapshotPageEncodedBytes

/-- `negotiate`, L130-151 -/
def FrameLimits.negotiate (limits peer : FrameLimits) : Except FrameLimitsError FrameLimits := do
  limits.validateOffer
  peer.validateOffer
  pure {
    maxPhysicalFrameBytes := min (min limits.maxPhysicalFrameBytes peer.maxPhysicalFrameBytes)
      DevManager.maxPhysicalFrameBytes
    maxReassembledMessageBytes :=
      min (min limits.maxReassembledMessageBytes peer.maxReassembledMessageBytes)
        DevManager.maxReassembledMessageBytes
    maxPageItems := min (min limits.maxPageItems peer.maxPageItems) maxSnapshotPageItems
    maxPageEncodedBytes := min (min limits.maxPageEncodedBytes peer.maxPageEncodedBytes)
      maxSnapshotPageEncodedBytes }

/-- `PhysicalFrameCodec` (L198-200). The field is private and `from_limits` is the only
constructor. -/
structure PhysicalFrameCodec where
  maxPayloadBytes : ℕ
  pos : 0 < maxPayloadBytes
  le_max : maxPayloadBytes ≤ maxPhysicalFrameBytes

theorem FrameLimits.physicalFrameBytes_pos {limits : FrameLimits}
    (h : limits.validateOffer = .ok ()) : 0 < limits.maxPhysicalFrameBytes := by
  have hfst := forM_eq_ok.mp h (.physicalFrameBytes, limits.maxPhysicalFrameBytes) (by simp)
  rw [failIf_eq_ok] at hfst
  omega

namespace PhysicalFrameCodec

/-- `from_limits`, L203-210 -/
def fromLimits (limits : FrameLimits) : Except FrameLimitsError PhysicalFrameCodec :=
  match h : limits.validateOffer with
  | .error error => .error error
  | .ok () => .ok {
      maxPayloadBytes := min limits.maxPhysicalFrameBytes DevManager.maxPhysicalFrameBytes
      pos := lt_min (limits.physicalFrameBytes_pos h) (by decide)
      le_max := min_le_right _ _ }

end PhysicalFrameCodec

/-- `PhysicalFrameError` (L47-55). The only I/O error of a byte stream is that it ends;
a byte vector does not fail to grow, so the two write errors do not occur. -/
inductive PhysicalFrameError
  | empty
  | oversized (declared maximum : ℕ)
  | allocation (declared : ℕ)
  | readHeader
  | readPayload (declared : ℕ)

namespace PhysicalFrameCodec

variable (codec : PhysicalFrameCodec) (reserves : ℕ → Bool)

/-! ## The codec -/

/-- `validate_declared`, L221-235 -/
def validateDeclared (declared : ℕ) : Except PhysicalFrameError ℕ := do
  failIf (declared = 0) .empty
  failIf (declared > codec.maxPayloadBytes) (.oversized declared codec.maxPayloadBytes)
  pure declared

/-- `declared_for_payload`, L237-252 -/
def declaredForPayload (payload : List UInt8) : Except PhysicalFrameError ℕ := do
  let declared := payload.length
  failIf (declared = 0) .empty
  failIf (declared > codec.maxPayloadBytes) (.oversized declared codec.maxPayloadBytes)
  pure declared

/-- `read` (L260-280): the payload or the error, and what is still unread. `reserves n`
is whether `try_reserve_exact(n)` succeeds. -/
def read (stream : List UInt8) : Except PhysicalFrameError (List UInt8) × List UInt8 :=
  match readExact 4 stream with
  | (none, rest) => (.error .readHeader, rest)
  | (some header, rest) =>
    let declared := ofBeBytes header
    match codec.validateDeclared declared with
    | .error error => (.error error, rest)
    | .ok payloadLen =>
      if reserves payloadLen then
        match readExact payloadLen rest with
        | (none, rest) => (.error (.readPayload declared), rest)
        | (some payload, rest) => (.ok payload, rest)
      else (.error (.allocation declared), rest)

/-- `write` (L286-302): the bytes of the writer after the call. -/
def write (writer payload : List UInt8) : Except PhysicalFrameError (List UInt8) := do
  let declared ← codec.declaredForPayload payload
  let writer := writer ++ beBytes 4 declared
  pure (writer ++ payload)

/-- Write payloads one after another. -/
def writeAll (writer : List UInt8) (payloads : List (List UInt8)) :
    Except PhysicalFrameError (List UInt8) :=
  payloads.foldlM codec.write writer

/-- Read `count` frames one after another, stopping at the first that fails. -/
def readAll : (count : ℕ) → List UInt8 → Except PhysicalFrameError (List (List UInt8)) × List UInt8
  | 0, stream => (.ok [], stream)
  | count + 1, stream =>
    match codec.read reserves stream with
    | (.error error, rest) => (.error error, rest)
    | (.ok payload, rest) =>
      match readAll count rest with
      | (.error error, rest) => (.error error, rest)
      | (.ok payloads, rest) => (.ok (payload :: payloads), rest)

/-! ## One frame -/

/-- The bytes of one frame. -/
def frame (payload : List UInt8) : List UInt8 := beBytes 4 payload.length ++ payload

variable {codec reserves}

theorem validateDeclared_eq_ok {declared payloadLen : ℕ} :
    codec.validateDeclared declared = .ok payloadLen ↔
      0 < declared ∧ declared ≤ codec.maxPayloadBytes ∧ payloadLen = declared := by
  unfold validateDeclared
  simp only [ok_iff]
  omega

theorem write_eq_ok {writer payload stream} :
    codec.write writer payload = .ok stream ↔
      (payload ≠ [] ∧ payload.length ≤ codec.maxPayloadBytes) ∧ stream = writer ++
        frame payload := by
  have hnil : payload ≠ [] ↔ ¬ payload.length = 0 := by rw [length_eq_zero_iff]
  unfold write declaredForPayload
  simp only [ok_iff, hnil, frame, append_assoc, not_lt, and_assoc, gt_iff_lt]
  constructor
  · rintro ⟨_, h1, h2, rfl, h3⟩
    exact ⟨h1, h2, h3⟩
  · rintro ⟨h1, h2, h3⟩
    exact ⟨_, h1, h2, rfl, h3⟩

variable {rest : List UInt8}

theorem read_append {header} (h : header.length = 4) :
    codec.read reserves (header ++ rest) =
      match codec.validateDeclared (ofBeBytes header) with
      | .error error => (.error error, rest)
      | .ok payloadLen =>
        if reserves payloadLen then
          match readExact payloadLen rest with
          | (none, rest) => (.error (.readPayload (ofBeBytes header)), rest)
          | (some payload, rest) => (.ok payload, rest)
        else (.error (.allocation (ofBeBytes header)), rest) := by
  unfold read
  rw [readExact_append h]

theorem read_refused {header} (h : header.length = 4)
    (hbad : ofBeBytes header = 0 ∨ codec.maxPayloadBytes < ofBeBytes header) :
    ∃ error, codec.read reserves (header ++ rest) = (.error error, rest) := by
  rw [read_append h]
  cases hcheck : codec.validateDeclared (ofBeBytes header) with
  | error => exact ⟨_, rfl⟩
  | ok payloadLen =>
    obtain ⟨hpos, hle, -⟩ := validateDeclared_eq_ok.mp hcheck
    omega

theorem read_eq_ok {stream payload} :
    codec.read reserves stream = (.ok payload, rest) ↔
      (payload ≠ [] ∧ payload.length ≤ codec.maxPayloadBytes) ∧ reserves payload.length = true ∧
        stream = frame payload ++ rest := by
  constructor
  · intro h
    unfold read at h
    split at h
    · simp at h
    rename_i header after hheader
    obtain ⟨hlen, rfl⟩ := readExact_eq_some.mp hheader
    simp only at h
    split at h
    · simp at h
    rename_i payloadLen hcheck
    obtain ⟨hpos, hle, rfl⟩ := validateDeclared_eq_ok.mp hcheck
    split_ifs at h with hres
    · split at h
      · simp at h
      rename_i bytes after' hpayload
      simp only [Prod.mk.injEq, Except.ok.injEq] at h
      obtain ⟨rfl, rfl⟩ := h
      obtain ⟨hbytes, rfl⟩ := readExact_eq_some.mp hpayload
      have hheader4 : beBytes 4 bytes.length = header := by
        rw [hbytes, ← hlen]
        exact beBytes_ofBeBytes header
      refine ⟨⟨?_, by omega⟩, ?_, ?_⟩
      · rintro rfl
        simp at hbytes
        omega
      · rw [hbytes]
        exact hres
      · rw [frame, hheader4, append_assoc]
    · simp at h
  · rintro ⟨⟨hne, hle⟩, hres, rfl⟩
    have hmax : payload.length < 256 ^ 4 := by
      have := codec.le_max
      unfold maxPhysicalFrameBytes at this
      omega
    have hdec : ofBeBytes (beBytes 4 payload.length) = payload.length :=
      ofBeBytes_beBytes 4 _ hmax
    have hpos : 0 < payload.length := length_pos_iff.mpr hne
    have hcheck : codec.validateDeclared payload.length = .ok payload.length :=
      validateDeclared_eq_ok.mpr ⟨hpos, hle, rfl⟩
    rw [frame, append_assoc, read_append (length_beBytes 4 _), hdec, hcheck]
    simp only [hres, if_true]
    rw [readExact_append rfl]

/-! ## A list of frames -/

variable {payloads : List (List UInt8)}

theorem writeAll_eq_ok :
    ∀ writer, (∀ payload ∈ payloads, payload ≠ [] ∧ payload.length ≤ codec.maxPayloadBytes) →
      codec.writeAll writer payloads = .ok (writer ++ payloads.flatMap frame) := by
  induction payloads with
  | nil =>
    intro writer _
    simp [writeAll, pure, Except.pure]
  | cons payload payloads ih =>
    intro writer hvalid
    have hone : codec.write writer payload = .ok (writer ++ frame payload) :=
      write_eq_ok.mpr ⟨hvalid payload (.head _), rfl⟩
    have hrest : codec.writeAll (writer ++ frame payload) payloads = _ :=
      ih _ fun p hp => hvalid p (.tail _ hp)
    refine foldlM_cons_ok.mpr ⟨_, hone, ?_⟩
    rw [flatMap_cons, ← append_assoc]
    exact hrest

theorem readAll_frames {suffix}
    (hvalid : ∀ payload ∈ payloads, payload ≠ [] ∧ payload.length ≤ codec.maxPayloadBytes)
    (hres : ∀ payload ∈ payloads, reserves payload.length = true) :
    codec.readAll reserves payloads.length (payloads.flatMap frame ++ suffix) =
      (.ok payloads, suffix) := by
  induction payloads with
  | nil => rfl
  | cons payload payloads ih =>
    have hone : codec.read reserves (frame payload ++ (payloads.flatMap frame ++ suffix)) =
        (.ok payload, payloads.flatMap frame ++ suffix) :=
      read_eq_ok.mpr ⟨hvalid payload (.head _), hres payload (.head _), rfl⟩
    have hrest := ih (fun p hp => hvalid p (.tail _ hp))
      (fun p hp => hres p (.tail _ hp))
    rw [length_cons, flatMap_cons, append_assoc, readAll, hone]
    simp only
    rw [hrest]

/-- Frames round-trip on a stream: payloads that are nonempty and within the limit are written,
and read back in order from what was written followed by any suffix, which stays unread. A
declared length of zero or above the limit is refused with all after the header unread. -/
theorem frames_round_trip (codec : PhysicalFrameCodec) (reserves : ℕ → Bool)
    (payloads : List (List UInt8)) (suffix : List UInt8)
    (hvalid : ∀ payload ∈ payloads, payload ≠ [] ∧ payload.length ≤ codec.maxPayloadBytes)
    (hreserves : ∀ payload ∈ payloads, reserves payload.length = true) :
    (∃ stream, codec.writeAll [] payloads = .ok stream ∧
      codec.readAll reserves payloads.length (stream ++ suffix) = (.ok payloads, suffix)) ∧
    ∀ header rest, header.length = 4 →
      (ofBeBytes header = 0 ∨ codec.maxPayloadBytes < ofBeBytes header) →
      ∃ error, codec.read reserves (header ++ rest) = (.error error, rest) := by
  refine ⟨⟨payloads.flatMap frame, ?_, ?_⟩, ?_⟩
  · have hwritten : codec.writeAll [] payloads = .ok ([] ++ payloads.flatMap frame) :=
      writeAll_eq_ok [] hvalid
    rwa [nil_append] at hwritten
  · exact readAll_frames hvalid hreserves
  · intro header rest hheader hbad
    exact read_refused hheader hbad

theorem frames_round_trip_sample :
    ∃ codec, fromLimits ⟨3, 1, 1, 1⟩ = .ok codec ∧
      ∃ stream, codec.writeAll [] [[1, 2, 3], [0]] = .ok stream ∧
        codec.readAll (fun _ => true) 2 (stream ++ [7]) = (.ok [[1, 2, 3], [0]], [7]) :=
  ⟨⟨3, by decide, by decide⟩, rfl,
    (frames_round_trip ⟨3, by decide, by decide⟩ (fun _ => true) [[1, 2, 3], [0]] [7] (by decide)
      (by decide)).1⟩

end PhysicalFrameCodec

end DevManager
