import DevManager.Protocol.Frame

/-!
# The native Connect envelope (`src/connect/envelope.rs`)

Every message of a Connect channel travels in one envelope. `validate` checks
the version, the identifiers, the limits, the channel that the payload kind
belongs to, and what the privacy class allows the kind to carry. Kinds that are
not known stay inert extension data.

* `ConnectLimits.validate_eq_ok`: the limits that are accepted.
* `ConnectEnvelope.validate_eq_ok`: the envelopes that are accepted.
-/

namespace DevManager

/-! ## Identifiers -/

/-- `uuid::Uuid`: its 16 bytes. -/
structure Uuid where
  bytes : Vector UInt8 16

namespace Uuid

/-- `get_version_num`: the high half of byte 6. -/
def versionNum (id : Uuid) : UInt8 := id.bytes[6] >>> 4

/-- `get_variant() == Variant::RFC4122`: byte 8 starts with the bits `10`. -/
def isRfc4122 (id : Uuid) : Bool := id.bytes[8] &&& 0xC0 = 0x80

/-- What every Connect and domain identifier is checked for. -/
def IsV7 (id : Uuid) : Prop := id.versionNum = 7 ∧ id.isRfc4122 = true

end Uuid

/-- `RequestId` and `OperationId` (`src/domain/id.rs:39-42`): a UUID that passed
`validate_uuid_v7` (`src/domain/id.rs:27-37`). -/
structure TypedUuid where
  uuid : Uuid
  isV7 : uuid.IsV7

/-! ## Limits (L142-149) -/

def connectProtocolMajor : ℕ := 1

def connectProtocolMinor : ℕ := 0

def maxConnectPhysicalFrameBytes : ℕ := maxPhysicalFrameBytes

def maxConnectReassembledMessageBytes : ℕ := 16 * 1024 * 1024

def maxConnectPageItems : ℕ := 1000

def maxConnectPageEncodedBytes : ℕ := 512 * 1024

def maxConnectChunkBytes : ℕ := 256 * 1024

def maxConnectCumulativeBytes : ℕ := maxConnectReassembledMessageBytes

/-- `ConnectLimitField` (L155-164), the fields that `validate` names. -/
inductive ConnectLimitField
  | physicalFrameBytes | reassembledMessageBytes | pageItems | pageEncodedBytes | chunkBytes
  | cumulativeBytes
deriving DecidableEq

/-- `ConnectLimitError` (L181-234), as far as envelopes are refused with it. -/
inductive ConnectLimitError
  | zero (field : ConnectLimitField)
  | exceedsHardMaximum (field : ConnectLimitField) (declared maximum : ℕ)
  | chunkExceedsPhysicalFrame (chunk physical : ℕ)
  | chunkExceedsMessage (chunk message : ℕ)
  | cumulativeBelowChunk (cumulative chunk : ℕ)
  | payloadExceeded (declared maximum : ℕ)
deriving DecidableEq

/-- `ConnectLimits`, L304-311 -/
structure ConnectLimits where
  maxPhysicalFrameBytes : ℕ
  maxReassembledMessageBytes : ℕ
  maxPageItems : ℕ
  maxPageEncodedBytes : ℕ
  maxChunkBytes : ℕ
  maxCumulativeBytes : ℕ

namespace ConnectLimits

/-- `v1_default`, L314-323 -/
def v1Default : ConnectLimits :=
  { maxPhysicalFrameBytes := maxConnectPhysicalFrameBytes
    maxReassembledMessageBytes := maxConnectReassembledMessageBytes
    maxPageItems := maxConnectPageItems
    maxPageEncodedBytes := maxConnectPageEncodedBytes
    maxChunkBytes := maxConnectChunkBytes
    maxCumulativeBytes := maxConnectCumulativeBytes }

/-- `validate`, L365-436 -/
def validate (limits : ConnectLimits) : Except ConnectLimitError Unit := do
  [(.physicalFrameBytes, limits.maxPhysicalFrameBytes, maxConnectPhysicalFrameBytes),
    (.reassembledMessageBytes, limits.maxReassembledMessageBytes,
      maxConnectReassembledMessageBytes),
    (.pageItems, limits.maxPageItems, maxConnectPageItems),
    (.pageEncodedBytes, limits.maxPageEncodedBytes, maxConnectPageEncodedBytes),
    (.chunkBytes, limits.maxChunkBytes, maxConnectChunkBytes),
    (.cumulativeBytes, limits.maxCumulativeBytes, maxConnectCumulativeBytes)].forM
      fun (field, value, maximum) => do
        failIf (value = 0) (.zero field)
        failIf (value > maximum) (.exceedsHardMaximum field value maximum)
  failIf (limits.maxChunkBytes > limits.maxPhysicalFrameBytes)
    (.chunkExceedsPhysicalFrame limits.maxChunkBytes limits.maxPhysicalFrameBytes)
  failIf (limits.maxChunkBytes > limits.maxReassembledMessageBytes)
    (.chunkExceedsMessage limits.maxChunkBytes limits.maxReassembledMessageBytes)
  failIf (limits.maxCumulativeBytes < limits.maxChunkBytes)
    (.cumulativeBelowChunk limits.maxCumulativeBytes limits.maxChunkBytes)
  failIf (limits.maxCumulativeBytes > limits.maxReassembledMessageBytes)
    (.exceedsHardMaximum .cumulativeBytes limits.maxCumulativeBytes
      limits.maxReassembledMessageBytes)

/-- `validate_payload_len`, L462-471 -/
def validatePayloadLen (limits : ConnectLimits) (declared : ℕ) : Except ConnectLimitError Unit :=
  failIf (declared > limits.maxReassembledMessageBytes)
    (.payloadExceeded declared limits.maxReassembledMessageBytes)

/-- Limits within the hard maxima and consistent with one another. -/
structure Sound (limits : ConnectLimits) : Prop where
  physicalFrame : 0 < limits.maxPhysicalFrameBytes ∧
    limits.maxPhysicalFrameBytes ≤ maxConnectPhysicalFrameBytes
  reassembledMessage : 0 < limits.maxReassembledMessageBytes ∧
    limits.maxReassembledMessageBytes ≤ maxConnectReassembledMessageBytes
  pageItems : 0 < limits.maxPageItems ∧ limits.maxPageItems ≤ maxConnectPageItems
  pageEncoded : 0 < limits.maxPageEncodedBytes ∧
    limits.maxPageEncodedBytes ≤ maxConnectPageEncodedBytes
  chunk : 0 < limits.maxChunkBytes ∧ limits.maxChunkBytes ≤ maxConnectChunkBytes
  chunkFits : limits.maxChunkBytes ≤ limits.maxPhysicalFrameBytes ∧
    limits.maxChunkBytes ≤ limits.maxReassembledMessageBytes
  cumulative : limits.maxChunkBytes ≤ limits.maxCumulativeBytes ∧
    limits.maxCumulativeBytes ≤ limits.maxReassembledMessageBytes

theorem validate_eq_ok {limits : ConnectLimits} : limits.validate = .ok () ↔ limits.Sound := by
  unfold validate
  simp only [ok_iff, forM_eq_ok, List.forall_mem_cons, List.not_mem_nil, false_implies,
    implies_true, and_true]
  constructor
  · rintro ⟨⟨hphysical, hmessage, hitems, hpage, hchunk, hcumulative⟩, hframe, hfits,
      hbelow, habove⟩
    constructor <;> omega
  · rintro ⟨hphysical, hmessage, hitems, hpage, hchunk, hfits, hcumulative⟩
    unfold maxConnectCumulativeBytes
    omega

end ConnectLimits

/-! ## Payload kinds -/

/-- `ChannelKind`, L721-725 -/
inductive ChannelKind
  | critical | durable | ephemeral
deriving DecidableEq

/-- `Compression`, L729-731 -/
inductive Compression
  | none
deriving DecidableEq

/-- `ConnectPrivacyClass`, L735-740 -/
inductive ConnectPrivacyClass
  | localOnly | managedMetadata | rawContent
deriving DecidableEq

/-- `KnownPayloadKind`, L834-859 -/
inductive KnownPayloadKind
  | hello | capabilities | snapshotPage | eventPage | query | queryReply | command
  | commandReceipt | operationSettlement | presence | terminalDelta | browserFrame
  | promptExtension | browserExtension | chunk | resync | error | extension | hostDurableOutput
  | hostCriticalOutput | hostStreamOutput | hostConversationOutput | terminalInput
  | terminalInputAck

namespace KnownPayloadKind

/-- `channel`, L1268-1295 -/
def channel : KnownPayloadKind → ChannelKind
  | hello | capabilities | query | queryReply | command | commandReceipt | operationSettlement
  | resync | error | hostCriticalOutput | terminalInput | terminalInputAck => .critical
  | snapshotPage | eventPage | promptExtension | browserExtension | chunk | extension
  | hostDurableOutput => .durable
  | presence | terminalDelta | browserFrame | hostStreamOutput | hostConversationOutput =>
    .ephemeral

/-- `allows_raw_content`, L1297-1306 -/
def allowsRawContent : KnownPayloadKind → Bool
  | terminalDelta | terminalInput | browserFrame | chunk | hostStreamOutput => true
  | _ => false

/-- `is_host_output`, L1308-1316 -/
def isHostOutput : KnownPayloadKind → Bool
  | hostDurableOutput | hostCriticalOutput | hostStreamOutput | hostConversationOutput => true
  | _ => false

end KnownPayloadKind

/-- `PayloadKind` (L744): a nonzero discriminant. -/
structure PayloadKind where
  value : ℕ
  nonzero : value ≠ 0

/-- `PayloadKind::known` (L783-811) on the discriminant. -/
def knownPayloadKind : ℕ → Option KnownPayloadKind
  | 1 => some .hello
  | 2 => some .capabilities
  | 3 => some .snapshotPage
  | 4 => some .eventPage
  | 5 => some .query
  | 18 => some .queryReply
  | 6 => some .command
  | 7 => some .commandReceipt
  | 8 => some .operationSettlement
  | 9 => some .presence
  | 10 => some .terminalDelta
  | 11 => some .browserFrame
  | 12 => some .promptExtension
  | 13 => some .browserExtension
  | 14 => some .chunk
  | 15 => some .resync
  | 16 => some .error
  | 17 => some .extension
  | 19 => some .hostDurableOutput
  | 20 => some .hostCriticalOutput
  | 21 => some .hostStreamOutput
  | 22 => some .hostConversationOutput
  | 23 => some .terminalInput
  | 24 => some .terminalInputAck
  | _ => none

/-- `known`, L783-811 -/
def PayloadKind.known (kind : PayloadKind) : Option KnownPayloadKind := knownPayloadKind kind.value

theorem knownPayloadKind_eq_none {kind : ℕ} (h : 24 < kind) : knownPayloadKind kind = none := by
  obtain ⟨n, rfl⟩ : ∃ n, kind = n + 25 := ⟨kind - 25, by omega⟩
  rfl

/-! ## Envelopes -/

/-- The fields that `EnvelopeError::InvalidUuid` names. -/
inductive UuidField
  | connectionId | sessionId | channelId
deriving DecidableEq

/-- `EnvelopeError` (L868-881), as far as `validate` returns it. -/
inductive EnvelopeError
  | invalidVersion (major minor : ℕ)
  | invalidUuid (field : UuidField)
  | invalidSequence
  | invalidPayloadVersion
  | compressionUnsupported
  | channelMismatch
  | privacyViolation
  | limits (error : ConnectLimitError)
deriving DecidableEq

/-- `ConnectEnvelope`, L962-978 -/
structure ConnectEnvelope where
  protocolMajor : ℕ
  protocolMinor : ℕ
  connectionId : Uuid
  sessionId : Uuid
  channelId : Uuid
  channel : ChannelKind
  sequence : ℕ
  requestId : Option TypedUuid
  operationId : Option TypedUuid
  limits : ConnectLimits
  compression : Compression
  privacyClass : ConnectPrivacyClass
  payloadKind : PayloadKind
  payloadVersion : ℕ
  payload : List UInt8

/-- `validate_uuid`, L1209-1214 -/
def validateUuid (id : Uuid) (field : UuidField) : Except EnvelopeError Unit :=
  failIf (id.versionNum ≠ 7 ∨ ¬ id.isRfc4122 = true) (.invalidUuid field)

theorem validateUuid_eq_ok {id : Uuid} {field} :
    validateUuid id field = .ok () ↔ id.IsV7 := by
  unfold validateUuid Uuid.IsV7
  rw [failIf_eq_ok]
  tauto

namespace ConnectEnvelope

/-- The check of the channel (L1040-1044). -/
def validateChannel (known : Option KnownPayloadKind) (channel : ChannelKind) :
    Except EnvelopeError Unit :=
  match known with
  | some kind => failIf (kind.channel ≠ channel) .channelMismatch
  | none => pure ()

/-- The checks of the privacy class (L1049-1062). -/
def validatePrivacy (known : Option KnownPayloadKind) (privacyClass : ConnectPrivacyClass) :
    Except EnvelopeError Unit := do
  failIf (known.any KnownPayloadKind.isHostOutput = true ∧ privacyClass = .managedMetadata)
    .privacyViolation
  failIf (privacyClass = .rawContent ∧ ¬ known.any KnownPayloadKind.allowsRawContent = true)
    .privacyViolation

/-- `validate`, L1019-1065 -/
def validate (envelope : ConnectEnvelope) : Except EnvelopeError Unit := do
  failIf (envelope.protocolMajor ≠ connectProtocolMajor ∨
      envelope.protocolMinor > connectProtocolMinor)
    (.invalidVersion envelope.protocolMajor envelope.protocolMinor)
  validateUuid envelope.connectionId .connectionId
  validateUuid envelope.sessionId .sessionId
  validateUuid envelope.channelId .channelId
  failIf (envelope.sequence = 0) .invalidSequence
  failIf (envelope.payloadVersion = 0) .invalidPayloadVersion
  failIf (envelope.compression ≠ .none) .compressionUnsupported
  mapErr envelope.limits.validate .limits
  mapErr (envelope.limits.validatePayloadLen envelope.payload.length) .limits
  validateChannel envelope.payloadKind.known envelope.channel
  validatePrivacy envelope.payloadKind.known envelope.privacyClass

/-- What an accepted envelope satisfies beside its payload kind: version, identifiers, counters
and limits. -/
structure Header (major minor : ℕ) (connectionId sessionId channelId : Uuid)
    (sequence payloadVersion : ℕ) (limits : ConnectLimits) (payloadLen : ℕ) : Prop where
  majorSupported : major = connectProtocolMajor
  minorSupported : minor ≤ connectProtocolMinor
  connectionIsV7 : connectionId.IsV7
  sessionIsV7 : sessionId.IsV7
  channelIsV7 : channelId.IsV7
  sequenceNonzero : sequence ≠ 0
  versionNonzero : payloadVersion ≠ 0
  limitsSound : limits.Sound
  payloadFits : payloadLen ≤ limits.maxReassembledMessageBytes

theorem validate_eq_ok {envelope : ConnectEnvelope} :
    envelope.validate = .ok () ↔
      Header envelope.protocolMajor envelope.protocolMinor envelope.connectionId
          envelope.sessionId envelope.channelId envelope.sequence envelope.payloadVersion
          envelope.limits envelope.payload.length ∧
        validateChannel envelope.payloadKind.known envelope.channel = .ok () ∧
        validatePrivacy envelope.payloadKind.known envelope.privacyClass = .ok () := by
  unfold validate ConnectLimits.validatePayloadLen
  simp only [ok_iff, validateUuid_eq_ok, ConnectLimits.validate_eq_ok]
  constructor
  · rintro ⟨hver, hconn, hsess, hchanId, hseq, hpayload, _, hlim, hlen, hchan, hpriv⟩
    push Not at hver
    exact ⟨⟨hver.1, hver.2, hconn, hsess, hchanId, hseq, hpayload, hlim, by omega⟩, hchan, hpriv⟩
  · rintro ⟨h, hchan, hpriv⟩
    have hver : ¬ (envelope.protocolMajor ≠ connectProtocolMajor ∨
        envelope.protocolMinor > connectProtocolMinor) := by
      rintro (hmajor | hminor)
      · exact hmajor h.majorSupported
      · exact absurd h.minorSupported (by omega)
    exact ⟨hver, h.connectionIsV7, h.sessionIsV7, h.channelIsV7, h.sequenceNonzero,
      h.versionNonzero, trivial, h.limitsSound, not_lt.mpr h.payloadFits, hchan, hpriv⟩

end ConnectEnvelope

end DevManager
