import DevManager.Protocol.Frame
import DevManager.Protocol.ReplayWindow

/-!
# Sealed frames and the two ciphers of a channel (`src/protocol/crypto.rs`)

A sealed frame carries its sequence in the clear. A production channel seals
with a `snow` transport, and binds the sequence, the session and the sender into
the plaintext of the Noise message; a source-level channel encrypts and then
authenticates with HMAC-SHA256. `snow` and `hmac` are third-party crates: they
enter as the fields of `SealExternals`, and nothing is assumed about them.

* `SourceLevelSealer.sealFrame_sequence`, `NoiseTransport.sealFrame_sequence`: a sealed
  frame carries the sequence that it was sealed with.
-/

namespace DevManager

/-- `CredentialPurpose`, L60-64 -/
inductive CredentialPurpose
  | ownerPairing | taskInvitation

/-- `ChannelRole`, L83-87 -/
inductive ChannelRole
  | initiator | responder

/-- The errors of `snow` that `map_transport_error` tells apart. -/
inductive SnowError
  | decrypt | input | exhausted | other

/-- The functions of `snow` and `hmac` that sealing and opening call. -/
class SealExternals where
  /-- `Hmac<Sha256>` of a message under a 32-byte key. -/
  hmacSha256 : Vector UInt8 32 → List UInt8 → Vector UInt8 32
  /-- `snow::TransportState`. -/
  TransportState : Type
  /-- `write_message` into a buffer of 16 bytes more than the payload: the written bytes. -/
  writeMessage : TransportState → List UInt8 → Except SnowError (List UInt8) × TransportState
  /-- `read_message` into a buffer as long as the message: the read bytes. -/
  readMessage : TransportState → List UInt8 → Except SnowError (List UInt8) × TransportState

/-! ## Roles and prologues -/

/-- `transcript_label`, L67-72 -/
def CredentialPurpose.transcriptLabel : CredentialPurpose → List UInt8
  | .ownerPairing => asBytes "owner-pairing"
  | .taskInvitation => asBytes "task-invitation"

namespace ChannelRole

/-- `send_role_label`, L90-95 -/
def sendRoleLabel : ChannelRole → List UInt8
  | .initiator => asBytes "send" ++ [0]
  | .responder => asBytes "recv" ++ [0]

/-- `recv_role_label`, L97-102 -/
def recvRoleLabel : ChannelRole → List UInt8
  | .initiator => asBytes "recv" ++ [0]
  | .responder => asBytes "send" ++ [0]

end ChannelRole

/-- `CryptoPrologue`, L393-399 -/
structure CryptoPrologue where
  protocolMajor : ℕ
  purpose : CredentialPurpose
  routeId : Vector UInt8 16
  sessionId : Vector UInt8 16

/-- `canonical_bytes`, L435-446 -/
def CryptoPrologue.canonicalBytes (prologue : CryptoPrologue) : List UInt8 :=
  let label := prologue.purpose.transcriptLabel
  asBytes "DevManagerConnect/v1" ++ [0] ++ beBytes 2 prologue.protocolMajor ++
    [UInt8.ofNat label.length] ++ label ++ prologue.routeId.toList ++ prologue.sessionId.toList

/-! ## Frames (the constants: L33-49) -/

def sealedFrameVersion : UInt8 := 1

def sealedNonceBytes : ℕ := 16

def sealedTagBytes : ℕ := 32

def noiseAeadTagBytes : ℕ := 16

def maxSealedFrameBytes : ℕ := maxPhysicalFrameBytes

def maxSealedPlaintextBytes : ℕ := maxSealedFrameBytes - (1 + 8 + sealedNonceBytes + sealedTagBytes)

/-- `SealedFrame`, L498-504 -/
structure SealedFrame where
  version : UInt8
  sequence : ℕ
  nonce : Vector UInt8 16
  ciphertext : List UInt8
  tag : Vector UInt8 32
deriving DecidableEq

namespace SealedFrame

/-- `encoded_len`, L562-564 -/
def encodedLen (frame : SealedFrame) : ℕ :=
  1 + 8 + sealedNonceBytes + frame.ciphertext.length + sealedTagBytes

/-- `validate`, L525-540 -/
def validate (frame : SealedFrame) : Except CryptoError Unit := do
  failIf (frame.version ≠ sealedFrameVersion) (.unsupportedVersion frame.version)
  failIf (frame.sequence = 0) .zeroSequence
  failIf (frame.encodedLen > maxSealedFrameBytes) (.frameExceeded frame.encodedLen)

/-- `from_parts`, L507-523 -/
def fromParts (version : UInt8) (sequence : ℕ) (nonce : Vector UInt8 16)
    (ciphertext : List UInt8) (tag : Vector UInt8 32) : Except CryptoError SealedFrame := do
  let frame : SealedFrame := ⟨version, sequence, nonce, ciphertext, tag⟩
  frame.validate
  pure frame

theorem fromParts_sequence {version} {sequence : ℕ} {nonce ciphertext tag frame}
    (h : fromParts version sequence nonce ciphertext tag = .ok frame) :
    frame.sequence = sequence := by
  simp only [fromParts, ok_iff] at h
  obtain ⟨_, _, rfl⟩ := h
  rfl

end SealedFrame

/-- `constant_time_eq`, L1412-1421 -/
def constantTimeEq (left right : List UInt8) : Bool :=
  left.length = right.length &&
    (List.zip left right).foldl (fun diff (a, b) => diff ||| (a ^^^ b)) 0 = 0

/-! ## The source-level sealer -/

section SourceLevel

variable [SealExternals]

/-- `apply_keystream` (L1341-1360) from block `blockIndex` on. -/
def applyKeystream (encKey : Vector UInt8 32) (nonce : Vector UInt8 16) (sequence : ℕ) :
    (blockIndex : ℕ) → (buffer : List UInt8) → List UInt8
  | _, [] => []
  | blockIndex, byte :: buffer =>
    let message := asBytes "e2e-ks-v1" ++ [0] ++ nonce.toList ++ beBytes 8 sequence ++
      beBytes 4 blockIndex
    let block := SealExternals.hmacSha256 encKey message
    List.zipWith (· ^^^ ·) ((byte :: buffer).take 32) block.toList ++
      applyKeystream encKey nonce sequence (blockIndex + 1) ((byte :: buffer).drop 32)
termination_by _ buffer => buffer.length
decreasing_by simp

/-- `authenticate`, L1362-1375 -/
def authenticate (macKey : Vector UInt8 32) (sequence : ℕ) (nonce : Vector UInt8 16)
    (ciphertext : List UInt8) : Vector UInt8 32 :=
  SealExternals.hmacSha256 macKey (asBytes "e2e-tag-v1" ++ [0] ++ [sealedFrameVersion] ++
    beBytes 8 sequence ++ nonce.toList ++ ciphertext)

/-- `seal_with`, L1377-1395 -/
def sealWith (encKey macKey : Vector UInt8 32) (sequence : ℕ) (nonce : Vector UInt8 16)
    (plaintext : List UInt8) : Except CryptoError SealedFrame := do
  failIf (sequence = 0) .zeroSequence
  failIf (plaintext.length > maxSealedPlaintextBytes) (.plaintextExceeded plaintext.length)
  let ciphertext := applyKeystream encKey nonce sequence 0 plaintext
  let tag := authenticate macKey sequence nonce ciphertext
  SealedFrame.fromParts sealedFrameVersion sequence nonce ciphertext tag

/-- `open_with`, L1397-1410 -/
def openWith (encKey macKey : Vector UInt8 32) (frame : SealedFrame) :
    Except CryptoError (List UInt8) := do
  frame.validate
  let expected := authenticate macKey frame.sequence frame.nonce frame.ciphertext
  failIf (¬ constantTimeEq expected.toList frame.tag.toList) .authenticity
  pure (applyKeystream encKey frame.nonce frame.sequence 0 frame.ciphertext)

/-- `SourceLevelSealer`, L672-677 -/
structure SourceLevelSealer where
  sendEnc : Vector UInt8 32
  sendMac : Vector UInt8 32
  recvEnc : Vector UInt8 32
  recvMac : Vector UInt8 32

namespace SourceLevelSealer

/-- `derive` (L680-688), with `derive_key` (L1321-1333). -/
def derive (master : Vector UInt8 32) (prologue : CryptoPrologue) (role : ChannelRole) :
    SourceLevelSealer :=
  let deriveKey (label role : List UInt8) :=
    SealExternals.hmacSha256 master (label ++ role ++ prologue.canonicalBytes)
  let encLabel := asBytes "e2e-enc-v1" ++ [0]
  let macLabel := asBytes "e2e-mac-v1" ++ [0]
  { sendEnc := deriveKey encLabel role.sendRoleLabel
    sendMac := deriveKey macLabel role.sendRoleLabel
    recvEnc := deriveKey encLabel role.recvRoleLabel
    recvMac := deriveKey macLabel role.recvRoleLabel }

/-- `seal`, L690-697 -/
def sealFrame (sealer : SourceLevelSealer) (sequence : ℕ) (nonce : Vector UInt8 16)
    (plaintext : List UInt8) : Except CryptoError SealedFrame :=
  sealWith sealer.sendEnc sealer.sendMac sequence nonce plaintext

/-- `open`, L699-701 -/
def openFrame (sealer : SourceLevelSealer) (frame : SealedFrame) : Except CryptoError
    (List UInt8) :=
  openWith sealer.recvEnc sealer.recvMac frame

theorem sealFrame_sequence {sealer : SourceLevelSealer} {sequence : ℕ} {nonce plaintext frame}
    (h : sealer.sealFrame sequence nonce plaintext = .ok frame) : frame.sequence = sequence := by
  simp only [sealFrame, sealWith, bind_eq_ok] at h
  obtain ⟨_, _, _, _, hparts⟩ := h
  exact SealedFrame.fromParts_sequence hparts

end SourceLevelSealer

end SourceLevel

/-! ## The Noise transport -/

/-- `INNER_AD_HEADER_BYTES`, L805 -/
def innerAdHeaderBytes : ℕ := 1 + 8 + 1 + 1 + 16 + 32 + sealedNonceBytes

/-- `reject_all_zero_key`, L1170-1175 -/
def rejectAllZeroKey (key : Vector UInt8 32) : Except CryptoError Unit :=
  failIf (key.toList.all (· = 0)) .identityBinding

/-- The byte of a purpose (L1196-1199). -/
def CredentialPurpose.wire : CredentialPurpose → UInt8
  | .ownerPairing => 0
  | .taskInvitation => 1

/-- The byte of a route (L1200, L1240). -/
def routeByte (directReachable : Bool) : UInt8 := if directReachable then 1 else 2

/-- `encode_transport_inner`, L1177-1206 -/
def encodeTransportInner (prologue : CryptoPrologue) (directReachable : Bool) (sequence : ℕ)
    (nonce : Vector UInt8 16) (senderStatic remoteStatic : Vector UInt8 32)
    (plaintext : List UInt8) : Except CryptoError (List UInt8) := do
  let declared := plaintext.length + innerAdHeaderBytes
  failIf (declared > maxSealedPlaintextBytes) (.plaintextExceeded declared)
  rejectAllZeroKey senderStatic
  rejectAllZeroKey remoteStatic
  pure ([1] ++ beBytes 8 sequence ++ [prologue.purpose.wire] ++ [routeByte directReachable] ++
    prologue.sessionId.toList ++ senderStatic.toList ++ nonce.toList ++ plaintext)

/-- `decode_transport_inner`, L1208-1262 -/
def decodeTransportInner (prologue : CryptoPrologue) (directReachable : Bool) (frame : SealedFrame)
    (remoteStatic : Vector UInt8 32) (inner : List UInt8) : Except CryptoError (List UInt8) := do
  failIf (inner.length < innerAdHeaderBytes) .authenticity
  failIf (inner[0]? ≠ some 1) .authenticity
  failIf (ofBeBytes ((inner.drop 1).take 8) ≠ frame.sequence) .authenticity
  failIf (inner[9]? ≠ some prologue.purpose.wire) .authenticity
  failIf (inner[10]? ≠ some (routeByte directReachable)) .authenticity
  failIf ((inner.drop 11).take 16 ≠ prologue.sessionId.toList) .authenticity
  mapErr (rejectAllZeroKey remoteStatic) fun _ => .authenticity
  failIf (¬ constantTimeEq ((inner.drop 27).take 32) remoteStatic.toList) .authenticity
  failIf ((inner.drop 59).take 16 ≠ frame.nonce.toList) .authenticity
  pure (inner.drop innerAdHeaderBytes)

/-- `frame_from_noise_output`, L1264-1282 -/
def frameFromNoiseOutput (sequence : ℕ) (nonce : Vector UInt8 16) (message : List UInt8) :
    Except CryptoError SealedFrame := do
  failIf (message.length < noiseAeadTagBytes) .handshakeFailed
  let split := message.length - noiseAeadTagBytes
  let tag : Vector UInt8 32 := Vector.ofFn fun i => (message.drop split).getD i 0
  SealedFrame.fromParts sealedFrameVersion sequence nonce (message.take split) tag

/-- `noise_output_from_frame`, L1284-1293 -/
def noiseOutputFromFrame (frame : SealedFrame) : Except CryptoError (List UInt8) := do
  failIf ((frame.tag.toList.drop noiseAeadTagBytes).any (· ≠ 0)) .authenticity
  pure (frame.ciphertext ++ frame.tag.toList.take noiseAeadTagBytes)

/-- `map_transport_error`, L1310-1319 -/
def mapTransportError : SnowError → CryptoError
  | .decrypt => .authenticity
  | .input => .plaintextExceeded (maxSealedPlaintextBytes + 1)
  | .exhausted => .sequenceExhausted
  | .other => .authenticity

section Noise

variable [SealExternals]

/-- `NoiseTransport` (L383-391), with the remote peer by its static key. -/
structure NoiseTransport where
  transport : SealExternals.TransportState
  role : ChannelRole
  prologue : CryptoPrologue
  localStatic : Vector UInt8 32
  remoteStatic : Vector UInt8 32
  openedAtUnix : ℕ
  directReachable : Bool

namespace NoiseTransport

/-- `seal`, L1063-1088 -/
def sealFrame (noise : NoiseTransport) (sequence : ℕ) (nonce : Vector UInt8 16)
    (plaintext : List UInt8) : Except CryptoError SealedFrame × NoiseTransport :=
  if sequence = 0 then (.error .zeroSequence, noise)
  else
    match encodeTransportInner noise.prologue noise.directReachable sequence nonce
      noise.localStatic noise.remoteStatic plaintext with
    | .error e => (.error e, noise)
    | .ok inner =>
      let (written, transport) := SealExternals.writeMessage noise.transport inner
      (do
        let message ← mapErr written mapTransportError
        frameFromNoiseOutput sequence nonce message, { noise with transport })

/-- `open`, L1090-1106 -/
def openFrame (noise : NoiseTransport) (frame : SealedFrame) :
    Except CryptoError (List UInt8) × NoiseTransport :=
  match (do frame.validate; noiseOutputFromFrame frame) with
  | .error e => (.error e, noise)
  | .ok message =>
    let (read, transport) := SealExternals.readMessage noise.transport message
    (do
      let payload ← mapErr read mapTransportError
      decodeTransportInner noise.prologue noise.directReachable frame noise.remoteStatic payload,
      { noise with transport })

theorem sealFrame_sequence {noise : NoiseTransport} {sequence : ℕ} {nonce plaintext frame}
    (h : (noise.sealFrame sequence nonce plaintext).1 = .ok frame) : frame.sequence = sequence := by
  unfold sealFrame at h
  split_ifs at h
  split at h
  · cases h
  · simp only [bind_eq_ok, frameFromNoiseOutput] at h
    obtain ⟨_, _, _, _, hparts⟩ := h
    exact SealedFrame.fromParts_sequence hparts

end NoiseTransport

end Noise

end DevManager
