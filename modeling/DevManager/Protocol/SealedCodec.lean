import DevManager.Lib.Slices
import DevManager.Protocol.Sealed

/-!
# The bytes of a sealed frame (`src/protocol/crypto.rs`)

`encode` writes the version, the sequence, the nonce, the ciphertext and the tag one behind the
other; `decode` cuts the bytes at the offsets of these parts.

* `decode_joined`: what `decode` makes of five parts that are one behind the other.
* `decode_encode`, `encode_decode`, `decode_returns`: the two are inverse to each other, and
  `decode` never panics.
-/

namespace DevManager

open Checked

/-- `CryptoError` (L1424-1448), the errors of `decode`. -/
inductive FrameDecodeError
  | truncatedFrame (declared : ℕ)
  | refused (error : CryptoError)

/-- `SEALED_FRAME_OVERHEAD_BYTES`, L46-47 -/
def sealedFrameOverheadBytes : ℕ := 1 + 8 + sealedNonceBytes + sealedTagBytes

theorem constantTimeEq_self (bytes) : constantTimeEq bytes bytes = true := by
  have hdiff : ∀ f : UInt8 → UInt8 × UInt8 → UInt8, (∀ b, f 0 (b, b) = 0) →
      (List.zip bytes bytes).foldl f 0 = 0 := by
    intro f hf
    induction bytes with
    | nil => rfl
    | cons byte bytes ih =>
      rw [List.zip_cons_cons, List.foldl_cons, hf]
      exact ih
  unfold constantTimeEq
  rw [hdiff _ fun b => by simp]
  simp

namespace SealedFrame

/-- The parts of a frame one behind the other (L569-575). -/
def bytes (frame : SealedFrame) : List UInt8 :=
  [frame.version] ++ beBytes 8 frame.sequence ++ frame.nonce.toList ++ frame.ciphertext ++
    frame.tag.toList

/-- `encode`, L566-575 -/
def encode (frame : SealedFrame) : Except CryptoError (List UInt8) := do
  frame.validate
  pure frame.bytes

/-- `decode`, L577-600 -/
def decode (bytes : List UInt8) : Checked FrameDecodeError SealedFrame := do
  Checked.failIf (bytes.length > maxSealedFrameBytes) (.refused (.frameExceeded bytes.length))
  Checked.failIf (bytes.length < sealedFrameOverheadBytes) (.truncatedFrame bytes.length)
  let version ← byteAt bytes 0
  let sequence ← toArray 8 (← sliceAt bytes 1 9)
  let nonce ← toArray 16 (← sliceAt bytes 9 25)
  let tagOffset ← checkedSub bytes.length sealedTagBytes
  let ciphertext ← sliceAt bytes 25 tagOffset
  let tag ← toArray 32 (← sliceAt bytes tagOffset bytes.length)
  Checked.ofExcept (mapErr
    (fromParts version (ofBeBytes sequence.toList) nonce ciphertext tag) .refused)

variable {frame : SealedFrame} {bytes : List UInt8} (version : UInt8) (sequence : Vector UInt8 8)

variable (nonce : Vector UInt8 16) (ciphertext : List UInt8) (tag : Vector UInt8 32)

/-- Five parts one behind the other. -/
def joined : List UInt8 :=
  [[version], sequence.toList, nonce.toList, ciphertext, tag.toList].flatten

theorem length_joined :
    (joined version sequence nonce ciphertext tag).length = 57 + ciphertext.length := by
  simp [joined]
  omega

theorem exists_joined (h : sealedFrameOverheadBytes ≤ bytes.length) :
    ∃ version sequence nonce ciphertext tag,
      bytes = joined version sequence nonce ciphertext tag := by
  have hlen : 57 ≤ bytes.length := h
  cases bytes with
  | nil => exact absurd hlen (by decide)
  | cons version rest =>
    rw [List.length_cons] at hlen
    obtain ⟨sequence, rest₁, rfl, hrest₁⟩ := exists_split (show 8 ≤ rest.length by omega)
    obtain ⟨nonce, rest₂, rfl, hrest₂⟩ := exists_split (show 16 ≤ rest₁.length by omega)
    obtain ⟨ciphertext, tag, rfl⟩ := exists_split_end (show 32 ≤ rest₂.length by omega)
    exact ⟨version, sequence, nonce, ciphertext, tag, by simp [joined]⟩

theorem decode_joined (hmax : 57 + ciphertext.length ≤ maxSealedFrameBytes) :
    decode (joined version sequence nonce ciphertext tag) = Checked.ofExcept (mapErr
      (fromParts version (ofBeBytes sequence.toList) nonce ciphertext tag) .refused) := by
  have hlen := length_joined version sequence nonce ciphertext tag
  have hoverhead : sealedFrameOverheadBytes = 57 := rfl
  have htagBytes : sealedTagBytes = 32 := rfl
  have hver : (byteAt (joined version sequence nonce ciphertext tag) 0 :
      Checked FrameDecodeError UInt8) = pure version := byteAt_part (k := 0) rfl rfl
  have hseq : (sliceAt (joined version sequence nonce ciphertext tag) 1 9 :
      Checked FrameDecodeError (List UInt8)) = pure sequence.toList :=
    sliceAt_part (k := 1) rfl rfl (by simp)
  have hnonceAt : (sliceAt (joined version sequence nonce ciphertext tag) 9 25 :
      Checked FrameDecodeError (List UInt8)) = pure nonce.toList :=
    sliceAt_part (k := 2) rfl (by simp) (by simp)
  have hciphertextAt : (sliceAt (joined version sequence nonce ciphertext tag) 25
      (57 + ciphertext.length - 32) : Checked FrameDecodeError (List UInt8)) = pure ciphertext :=
    sliceAt_part (k := 3) rfl (by simp) (by omega)
  have htag : (sliceAt (joined version sequence nonce ciphertext tag)
      (57 + ciphertext.length - 32) (57 + ciphertext.length) : Checked FrameDecodeError
      (List UInt8)) = pure tag.toList := by
    refine sliceAt_part (k := 4) rfl ?_ ?_
    · simp
      omega
    · simp
      omega
  unfold decode
  rw [failIf_false (by omega), failIf_false (by omega), hver, pure_bind,
    hseq, pure_bind, toArray_toList, pure_bind, hnonceAt, pure_bind, toArray_toList,
    pure_bind, checkedSub_of_le (by omega), pure_bind, hlen, htagBytes, hciphertextAt,
      pure_bind, htag,
    pure_bind, toArray_toList, pure_bind]

theorem decode_returns (bytes) : ∃ result, decode bytes = Checked.ofExcept result := by
  by_cases hmax : bytes.length > maxSealedFrameBytes
  · refine ⟨.error (.refused (.frameExceeded bytes.length)), ?_⟩
    unfold decode
    rw [failIf_true hmax]
    rfl
  by_cases hminted : bytes.length < sealedFrameOverheadBytes
  · refine ⟨.error (.truncatedFrame bytes.length), ?_⟩
    unfold decode
    rw [failIf_false hmax, failIf_true hminted]
    rfl
  obtain ⟨version, sequence, nonce, ciphertext, tag, rfl⟩ := exists_joined (not_lt.mp hminted)
  rw [length_joined] at hmax
  exact ⟨_, decode_joined _ _ _ _ _ (not_lt.mp hmax)⟩

theorem decode_encode (hseq : frame.sequence < 2 ^ 64) (h : frame.encode = .ok bytes) :
    decode bytes = pure frame := by
  simp only [encode, ok_iff] at h
  obtain ⟨hvalid, rfl⟩ := h
  have hlen : frame.encodedLen ≤ maxSealedFrameBytes := by
    simp only [validate, ok_iff, not_lt] at hvalid
    exact hvalid.2.2
  have hjoined : frame.bytes = joined frame.version ⟨(beBytes 8 frame.sequence).toArray, by simp⟩
      frame.nonce frame.ciphertext frame.tag := by
    simp [SealedFrame.bytes, joined]
  have hmax : 57 + frame.ciphertext.length ≤ maxSealedFrameBytes := by
    refine le_trans (le_of_eq ?_) hlen
    simp only [encodedLen, sealedNonceBytes, sealedTagBytes]
    omega
  rw [hjoined, decode_joined _ _ _ _ _ hmax]
  show Checked.ofExcept (mapErr (fromParts _ (ofBeBytes (beBytes 8 frame.sequence)) _ _ _) _) = _
  rw [ofBeBytes_beBytes 8 _ hseq, fromParts, hvalid]
  rfl

theorem encode_decode (h : decode bytes = pure frame) : frame.encode = .ok bytes := by
  by_cases hmax : bytes.length > maxSealedFrameBytes
  · unfold decode at h
    rw [failIf_true hmax] at h
    cases h
  by_cases hminted : bytes.length < sealedFrameOverheadBytes
  · unfold decode at h
    rw [failIf_false hmax, failIf_true hminted] at h
    cases h
  obtain ⟨version, sequence, nonce, ciphertext, tag, rfl⟩ := exists_joined (not_lt.mp hminted)
  rw [length_joined] at hmax
  rw [decode_joined _ _ _ _ _ (not_lt.mp hmax)] at h
  have hparts : mapErr (fromParts version (ofBeBytes sequence.toList) nonce ciphertext tag)
      FrameDecodeError.refused = .ok frame := Option.some.inj h
  simp only [ok_iff, fromParts] at hparts
  obtain ⟨hvalid, rfl⟩ := hparts
  have hseq : beBytes 8 (ofBeBytes sequence.toList) = sequence.toList := by
    have hbytes := beBytes_ofBeBytes sequence.toList
    rwa [Vector.length_toList] at hbytes
  rw [encode, hvalid, ok_bind]
  exact congrArg Except.ok (by simp [SealedFrame.bytes, joined, hseq])

end SealedFrame

end DevManager
