import DevManager.Connect.Envelope

/-!
# The browser's Connect envelope (`crates/connect-crypto/src/wire.rs`)

The WASM crate carries its own copy of the limits and of the tables of payload
kinds, which are meant to mirror the native ones. The two copies agree on the
version, the identifiers, the limits and every kind but two: the native tables
know `TerminalInput` (23) and `TerminalInputAck` (24), and the copies do not.

* `WireEnvelope.validate_eq_ok`, `nativeAccepts_iff`: the envelopes that each
  side accepts.
* `forPayloadKind_eq`, `allowsRawContent_eq`, `rejectsManagedMetadata_eq`: the
  tables agree away from the two kinds.
-/

namespace DevManager

open ConnectEnvelope KnownPayloadKind

/-- The one error of the WASM boundary (L33-45). -/
inductive WireError
  | rejected
deriving DecidableEq

/-- `WireChannel`, L538-542 -/
inductive WireChannel
  | critical | durable | ephemeral
deriving DecidableEq

namespace WireChannel

/-- `for_payload_kind`, L545-562 -/
def forPayloadKind : ℕ → Option WireChannel
  | 1 | 2 | 5 | 18 | 6 | 7 | 8 | 15 | 16 | 20 => some .critical
  | 3 | 4 | 12 | 13 | 14 | 17 | 19 => some .durable
  | 9 | 10 | 11 | 21 | 22 => some .ephemeral
  | _ => none

/-- `allows_raw_content`, L564-567 -/
def allowsRawContent : ℕ → Bool
  | 10 | 11 | 14 | 21 => true
  | _ => false

/-- `rejects_managed_metadata`, L571-573 -/
def rejectsManagedMetadata : ℕ → Bool
  | 19 | 20 | 21 | 22 => true
  | _ => false

end WireChannel

/-- `WireCompression`, L578-580 -/
inductive WireCompression
  | none
deriving DecidableEq

/-- `WirePrivacy`, L584-588 -/
inductive WirePrivacy
  | localOnly | managedMetadata | rawContent
deriving DecidableEq

/-- `WireLimits`, L499-506 -/
structure WireLimits where
  maxPhysicalFrameBytes : ℕ
  maxReassembledMessageBytes : ℕ
  maxPageItems : ℕ
  maxPageEncodedBytes : ℕ
  maxChunkBytes : ℕ
  maxCumulativeBytes : ℕ

namespace WireLimits

/-- `validate` (L509-533), with the maxima of L20-25. -/
def validate (limits : WireLimits) (payloadLen : ℕ) : Except WireError Unit :=
  let bounded := [limits.maxPhysicalFrameBytes, limits.maxReassembledMessageBytes,
    limits.maxPageItems, limits.maxPageEncodedBytes, limits.maxChunkBytes]
  failIf (bounded.any (· = 0) = true
    ∨ limits.maxPhysicalFrameBytes > 1024 * 1024
    ∨ limits.maxReassembledMessageBytes > 16 * 1024 * 1024
    ∨ limits.maxPageItems > 1000
    ∨ limits.maxPageEncodedBytes > 512 * 1024
    ∨ limits.maxChunkBytes > 256 * 1024
    ∨ limits.maxChunkBytes > limits.maxPhysicalFrameBytes
    ∨ limits.maxChunkBytes > limits.maxReassembledMessageBytes
    ∨ limits.maxChunkBytes > limits.maxCumulativeBytes
    ∨ limits.maxCumulativeBytes > 16 * 1024 * 1024
    ∨ limits.maxCumulativeBytes > limits.maxReassembledMessageBytes
    ∨ payloadLen > limits.maxReassembledMessageBytes) .rejected

/-- The native limits with the same values. -/
def toNative (limits : WireLimits) : ConnectLimits :=
  { limits with }

theorem validate_eq_ok {limits : WireLimits} {payloadLen : ℕ} :
    limits.validate payloadLen = .ok () ↔
      limits.toNative.Sound ∧ payloadLen ≤ limits.toNative.maxReassembledMessageBytes := by
  unfold validate
  rw [failIf_eq_ok]
  simp only [List.any_cons, List.any_nil, Bool.or_false, Bool.or_eq_true, decide_eq_true_eq]
  constructor
  · intro h
    refine ⟨⟨?_, ?_, ?_, ?_, ?_, ?_, ?_⟩, ?_⟩ <;>
      simp only [toNative, maxConnectPhysicalFrameBytes, DevManager.maxPhysicalFrameBytes,
        maxConnectReassembledMessageBytes, maxConnectPageItems, maxConnectPageEncodedBytes,
        maxConnectChunkBytes] <;> omega
  · rintro ⟨⟨hphysical, hmessage, hitems, hpage, hchunk, hfits, hcumulative⟩, hlen⟩
    simp only [toNative, maxConnectPhysicalFrameBytes, DevManager.maxPhysicalFrameBytes,
      maxConnectReassembledMessageBytes, maxConnectPageItems, maxConnectPageEncodedBytes,
      maxConnectChunkBytes] at hphysical hmessage hitems hpage hchunk hfits hcumulative hlen
    omega

end WireLimits

/-- `WireEnvelope`, L640-658 -/
structure WireEnvelope where
  protocolMajor : ℕ
  protocolMinor : ℕ
  connectionId : Uuid
  sessionId : Uuid
  channelId : Uuid
  channel : WireChannel
  sequence : ℕ
  requestId : Option Uuid
  operationId : Option Uuid
  limits : WireLimits
  compression : WireCompression
  privacyClass : WirePrivacy
  payloadKind : ℕ
  payloadVersion : ℕ
  payload : List UInt8

namespace WireEnvelope

/-- The check of an identifier (L673-675, L678-680). -/
def validateIdentifier (identifier : Uuid) : Except WireError Unit :=
  failIf (identifier.versionNum ≠ 7 ∨ ¬ identifier.isRfc4122 = true) .rejected

/-- The check of the channel (L683-687). -/
def validateChannel (expected : Option WireChannel) (channel : WireChannel) :
    Except WireError Unit :=
  match expected with
  | some expectedChannel => failIf (expectedChannel ≠ channel) .rejected
  | none => pure ()

/-- `validate`, L662-699 -/
def validate (envelope : WireEnvelope) : Except WireError Unit := do
  failIf (envelope.protocolMajor ≠ 1 ∨ envelope.protocolMinor > 0 ∨ envelope.sequence = 0
    ∨ envelope.payloadKind = 0 ∨ envelope.payloadVersion = 0 ∨ envelope.compression ≠ .none)
    .rejected
  [envelope.connectionId, envelope.sessionId, envelope.channelId].forM validateIdentifier
  ([envelope.requestId, envelope.operationId].filterMap id).forM validateIdentifier
  envelope.limits.validate envelope.payload.length
  validateChannel (WireChannel.forPayloadKind envelope.payloadKind) envelope.channel
  failIf (envelope.privacyClass = .managedMetadata ∧
    WireChannel.rejectsManagedMetadata envelope.payloadKind = true) .rejected
  failIf (envelope.privacyClass = .rawContent ∧
    ¬ WireChannel.allowsRawContent envelope.payloadKind = true) .rejected

/-- The checks that do not read the tables of kinds: version, identifiers, counters, limits. -/
structure Common (envelope : WireEnvelope) : Prop where
  header : ConnectEnvelope.Header envelope.protocolMajor envelope.protocolMinor
    envelope.connectionId envelope.sessionId envelope.channelId envelope.sequence
    envelope.payloadVersion envelope.limits.toNative envelope.payload.length
  kindNonzero : envelope.payloadKind ≠ 0
  requestIsV7 : ∀ id, envelope.requestId = some id → id.IsV7
  operationIsV7 : ∀ id, envelope.operationId = some id → id.IsV7

/-- The checks against the WASM tables. -/
structure KindAllowed (envelope : WireEnvelope) : Prop where
  channel : ∀ expected, WireChannel.forPayloadKind envelope.payloadKind = some expected →
    expected = envelope.channel
  metadata : envelope.privacyClass = .managedMetadata →
    WireChannel.rejectsManagedMetadata envelope.payloadKind = false
  rawContent : envelope.privacyClass = .rawContent →
    WireChannel.allowsRawContent envelope.payloadKind = true

theorem validateIdentifier_eq_ok {identifier : Uuid} :
    validateIdentifier identifier = .ok () ↔ identifier.IsV7 := by
  unfold validateIdentifier Uuid.IsV7
  rw [failIf_eq_ok]
  tauto

theorem validateChannel_eq_ok {expected channel} :
    validateChannel expected channel = .ok () ↔ ∀ c, expected = some c → c = channel := by
  cases expected <;> simp [validateChannel]

theorem validate_eq_ok {envelope : WireEnvelope} :
    envelope.validate = .ok () ↔ envelope.Common ∧ envelope.KindAllowed := by
  have hoptional : (∀ i ∈ [envelope.requestId, envelope.operationId].filterMap id, i.IsV7) ↔
      (∀ i, envelope.requestId = some i → i.IsV7) ∧
        ∀ i, envelope.operationId = some i → i.IsV7 := by
    simp only [List.mem_filterMap, id_eq, List.mem_cons, List.not_mem_nil, or_false]
    constructor
    · intro h
      exact ⟨fun i hi => h i ⟨_, .inl rfl, hi⟩, fun i hi => h i ⟨_, .inr rfl, hi⟩⟩
    · rintro ⟨hreq, hop⟩ i ⟨_, rfl | rfl, hi⟩
      · exact hreq i hi
      · exact hop i hi
  have hcomp : envelope.compression = .none := by
    cases envelope.compression
    rfl
  unfold validate
  simp only [ok_iff, forM_eq_ok, validateIdentifier_eq_ok, hoptional, validateChannel_eq_ok,
    WireLimits.validate_eq_ok, List.forall_mem_cons, List.not_mem_nil, false_implies, implies_true,
    and_true, hcomp, ne_eq, not_true_eq_false, or_false]
  constructor
  · rintro ⟨hver, ⟨hconn, hsess, hchanId⟩, ⟨hreq, hop⟩, ⟨hlim, hlen⟩, htable, hmeta, hraw⟩
    push Not at hver
    obtain ⟨hmajor, hminor, hseq, hkind, hpayload⟩ := hver
    refine ⟨⟨⟨hmajor, hminor, hconn, hsess, hchanId, hseq, hpayload, hlim,
      hlen⟩, hkind, hreq, hop⟩, htable, ?_, ?_⟩
    · intro hpriv
      simpa [hpriv] using hmeta
    · intro hpriv
      simpa [hpriv] using hraw
  · rintro ⟨⟨h, hkind, hreq, hop⟩, htable, hmeta, hraw⟩
    have hmajor : envelope.protocolMajor = 1 := h.majorSupported
    have hminor : envelope.protocolMinor ≤ 0 := h.minorSupported
    refine ⟨?_, ⟨h.connectionIsV7, h.sessionIsV7, h.channelIsV7⟩, ⟨hreq, hop⟩,
      ⟨h.limitsSound, h.payloadFits⟩, htable, ?_, ?_⟩
    · rintro (hne | hlt | hzero | hzero | hzero)
      · exact hne hmajor
      · omega
      · exact h.sequenceNonzero hzero
      · exact hkind hzero
      · exact h.versionNonzero hzero
    · rintro ⟨hpriv, hrejects⟩
      simp [hmeta hpriv] at hrejects
    · rintro ⟨hpriv, hnot⟩
      exact hnot (hraw hpriv)

end WireEnvelope

/-! ## The same envelope on the native side -/

/-- The WASM name of a channel. -/
def ChannelKind.toWire : ChannelKind → WireChannel
  | .critical => .critical
  | .durable => .durable
  | .ephemeral => .ephemeral

/-- The WASM name of a compression. -/
def Compression.toWire : Compression → WireCompression
  | .none => .none

/-- The WASM name of a privacy class. -/
def ConnectPrivacyClass.toWire : ConnectPrivacyClass → WirePrivacy
  | .localOnly => .localOnly
  | .managedMetadata => .managedMetadata
  | .rawContent => .rawContent

/-- The WASM limits with the same values. -/
def ConnectLimits.toWire (limits : ConnectLimits) : WireLimits :=
  { limits with }

/-- The fields of a native envelope as they stand on the wire. -/
def ConnectEnvelope.toWire (envelope : ConnectEnvelope) : WireEnvelope :=
  { envelope with
    channel := envelope.channel.toWire
    requestId := envelope.requestId.map TypedUuid.uuid
    operationId := envelope.operationId.map TypedUuid.uuid
    limits := envelope.limits.toWire
    compression := envelope.compression.toWire
    privacyClass := envelope.privacyClass.toWire
    payloadKind := envelope.payloadKind.value }

/-- The native side accepts an envelope: it has a native value, and `validate` accepts it. -/
def NativeAccepts (wire : WireEnvelope) : Prop :=
  ∃ envelope : ConnectEnvelope, envelope.toWire = wire ∧ envelope.validate = .ok ()

/-! ## The tables -/

theorem forPayloadKind_eq {kind : ℕ} (h23 : kind ≠ 23) (h24 : kind ≠ 24) :
    WireChannel.forPayloadKind kind =
      (knownPayloadKind kind).map fun known => known.channel.toWire := by
  by_cases h : kind ≤ 24
  · interval_cases kind <;> first | rfl | contradiction
  · rw [knownPayloadKind_eq_none (by omega)]
    obtain ⟨n, rfl⟩ : ∃ n, kind = n + 25 := ⟨kind - 25, by omega⟩
    rfl

theorem rejectsManagedMetadata_eq (kind : ℕ) :
    WireChannel.rejectsManagedMetadata kind = (knownPayloadKind kind).any isHostOutput := by
  by_cases h : kind ≤ 24
  · interval_cases kind <;> rfl
  · rw [knownPayloadKind_eq_none (by omega)]
    obtain ⟨n, rfl⟩ : ∃ n, kind = n + 25 := ⟨kind - 25, by omega⟩
    rfl

theorem allowsRawContent_eq {kind : ℕ} (h23 : kind ≠ 23) :
    WireChannel.allowsRawContent kind = (knownPayloadKind kind).any allowsRawContent := by
  by_cases h : kind ≤ 24
  · interval_cases kind <;> first | rfl | contradiction
  · rw [knownPayloadKind_eq_none (by omega)]
    obtain ⟨n, rfl⟩ : ∃ n, kind = n + 25 := ⟨kind - 25, by omega⟩
    rfl

/-! ## Where the two sides agree -/

/-- The checks against the native tables. -/
structure NativeKindAllowed (wire : WireEnvelope) : Prop where
  channel : ∀ known, knownPayloadKind wire.payloadKind = some known →
    known.channel.toWire = wire.channel
  metadata : wire.privacyClass = .managedMetadata →
    (knownPayloadKind wire.payloadKind).any KnownPayloadKind.isHostOutput = false
  rawContent : wire.privacyClass = .rawContent →
    (knownPayloadKind wire.payloadKind).any KnownPayloadKind.allowsRawContent = true

theorem channelKind_toWire_injective {a b : ChannelKind} : a.toWire = b.toWire ↔ a = b := by
  cases a <;> cases b <;> simp [ChannelKind.toWire]

variable {known : Option KnownPayloadKind}

theorem validateChannel_eq_ok {channel : ChannelKind} :
    validateChannel known channel = .ok () ↔
      ∀ kind, known = some kind → kind.channel.toWire = channel.toWire := by
  cases known with
  | none => simp [validateChannel]
  | some kind => simp [validateChannel, channelKind_toWire_injective]

theorem validatePrivacy_eq_ok {privacyClass : ConnectPrivacyClass} :
    validatePrivacy known privacyClass = .ok () ↔
      (privacyClass.toWire = .managedMetadata → known.any isHostOutput = false) ∧
      (privacyClass.toWire = .rawContent → known.any allowsRawContent = true) := by
  unfold validatePrivacy
  rw [bind_eq_ok, exists_unit, failIf_eq_ok, failIf_eq_ok]
  cases privacyClass <;> simp [ConnectPrivacyClass.toWire]

theorem exists_typed {id : Option Uuid} (h : ∀ i, id = some i → i.IsV7) :
    ∃ typed : Option TypedUuid, typed.map TypedUuid.uuid = id := by
  cases id with
  | none => exact ⟨none, rfl⟩
  | some => exact ⟨some ⟨_, h _ rfl⟩, rfl⟩

variable {wire : WireEnvelope}

theorem nativeAccepts_iff : NativeAccepts wire ↔ wire.Common ∧ NativeKindAllowed wire := by
  constructor
  · rintro ⟨envelope, rfl, hvalid⟩
    obtain ⟨hheader, hchan, hpriv⟩ := validate_eq_ok.mp hvalid
    have hids : ∀ typed : Option TypedUuid, ∀ i, typed.map TypedUuid.uuid = some i → i.IsV7 := by
      intro typed i hi
      obtain ⟨id, _, rfl⟩ := Option.map_eq_some_iff.mp hi
      exact id.isV7
    obtain ⟨hmeta, hraw⟩ := validatePrivacy_eq_ok.mp hpriv
    exact ⟨⟨hheader, envelope.payloadKind.nonzero, hids _, hids _⟩,
      ⟨validateChannel_eq_ok.mp hchan, hmeta, hraw⟩⟩
  · rintro ⟨⟨hheader, hkind, hreq, hop⟩, hchan, hmeta, hraw⟩
    obtain ⟨request, hreq⟩ := exists_typed hreq
    obtain ⟨operation, hop⟩ := exists_typed hop
    obtain ⟨channel, hwireChannel⟩ : ∃ channel : ChannelKind, channel.toWire = wire.channel := by
      cases wire.channel
      exacts [⟨.critical, rfl⟩, ⟨.durable, rfl⟩, ⟨.ephemeral, rfl⟩]
    obtain ⟨privacyClass, hwire⟩ :
        ∃ privacyClass : ConnectPrivacyClass, privacyClass.toWire = wire.privacyClass := by
      cases wire.privacyClass
      exacts [⟨.localOnly, rfl⟩, ⟨.managedMetadata, rfl⟩, ⟨.rawContent, rfl⟩]
    have hcomp : Compression.none.toWire = wire.compression := by
      cases wire.compression
      rfl
    let envelope : ConnectEnvelope :=
      { wire with
        channel
        requestId := request
        operationId := operation
        limits := wire.limits.toNative
        compression := .none
        privacyClass := privacyClass
        payloadKind := ⟨wire.payloadKind, hkind⟩ }
    refine ⟨envelope, ?_, validate_eq_ok.mpr ⟨hheader, ?_, ?_⟩⟩
    · show WireEnvelope.mk .. = wire
      rw [hwireChannel, hwire, hcomp, hreq, hop]
      rfl
    · exact validateChannel_eq_ok.mpr fun kind hknown => (hchan kind hknown).trans hwireChannel.symm
    · exact validatePrivacy_eq_ok.mpr
        ⟨fun h => hmeta (hwire ▸ h), fun h => hraw (hwire ▸ h)⟩

theorem kindAllowed_iff (h23 : wire.payloadKind ≠ 23)
    (h24 : wire.payloadKind ≠ 24) : wire.KindAllowed ↔ NativeKindAllowed wire := by
  have hchan := forPayloadKind_eq h23 h24
  have hmeta := rejectsManagedMetadata_eq wire.payloadKind
  have hraw := allowsRawContent_eq h23
  have htable : (∀ expected, WireChannel.forPayloadKind wire.payloadKind = some expected →
        expected = wire.channel) ↔
      ∀ known, knownPayloadKind wire.payloadKind = some known →
        known.channel.toWire = wire.channel := by
    rw [hchan]
    cases knownPayloadKind wire.payloadKind <;> simp
  constructor
  · rintro ⟨h1, h2, h3⟩
    exact ⟨htable.mp h1, hmeta ▸ h2, hraw ▸ h3⟩
  · rintro ⟨h1, h2, h3⟩
    exact ⟨htable.mpr h1, hmeta ▸ h2, hraw ▸ h3⟩

theorem kindAllowed_terminal (h : wire.payloadKind = 23 ∨ wire.payloadKind = 24) :
    wire.KindAllowed ↔ wire.privacyClass ≠ .rawContent := by
  constructor
  · intro hallowed hraw
    have hkind := hallowed.rawContent hraw
    rcases h with h | h <;> simp [h, WireChannel.allowsRawContent] at hkind
  · intro hraw
    refine ⟨fun _ => ?_, fun _ => ?_, fun h => absurd h hraw⟩
    · rcases h with h | h <;> simp [h, WireChannel.forPayloadKind]
    · rcases h with h | h <;> simp [h, WireChannel.rejectsManagedMetadata]

theorem kindAllowed_terminalInput (h : wire.payloadKind = 23) :
    (wire.KindAllowed ↔ wire.privacyClass ≠ .rawContent) ∧
      (NativeKindAllowed wire ↔ wire.channel = .critical) := by
  constructor
  · exact kindAllowed_terminal (.inl h)
  · constructor
    · intro hallowed
      exact (hallowed.channel .terminalInput (by rw [h]; rfl)).symm
    · intro hcritical
      exact ⟨by rw [h, hcritical]; rintro _ ⟨⟩; rfl, fun _ => by rw [h]; rfl,
        fun _ => by rw [h]; rfl⟩

theorem kindAllowed_terminalInputAck (h : wire.payloadKind = 24) :
    (wire.KindAllowed ↔ wire.privacyClass ≠ .rawContent) ∧
      (NativeKindAllowed wire ↔ wire.channel = .critical ∧ wire.privacyClass ≠ .rawContent) := by
  constructor
  · exact kindAllowed_terminal (.inr h)
  · constructor
    · intro hallowed
      refine ⟨(hallowed.channel .terminalInputAck (by rw [h]; rfl)).symm, fun hraw => ?_⟩
      have := hallowed.rawContent hraw
      rw [h] at this
      cases this
    · rintro ⟨hcritical, hraw⟩
      exact ⟨by rw [h, hcritical]; rintro _ ⟨⟩; rfl, fun _ => by rw [h]; rfl,
        fun h => absurd h hraw⟩

/-- The two validators agree on an envelope exactly when another check refuses it on both sides,
or its kind is in both tables, or what the browser does not check for the two terminal kinds
does not matter. -/
theorem validators_agree_iff (wire : WireEnvelope) : (wire.validate = .ok () ↔ NativeAccepts wire) ↔
      (wire.Common →
        (wire.payloadKind = 23 → (wire.channel = .critical ↔ wire.privacyClass ≠ .rawContent)) ∧
        (wire.payloadKind = 24 → wire.channel = .critical ∨ wire.privacyClass = .rawContent)) := by
  rw [WireEnvelope.validate_eq_ok, nativeAccepts_iff]
  by_cases hcommon : wire.Common
  · simp only [hcommon, true_and, true_implies]
    by_cases h23 : wire.payloadKind = 23
    · obtain ⟨hbrowser, hnative⟩ := kindAllowed_terminalInput h23
      rw [hbrowser, hnative]
      simp [h23]
      tauto
    by_cases h24 : wire.payloadKind = 24
    · obtain ⟨hbrowser, hnative⟩ := kindAllowed_terminalInputAck h24
      rw [hbrowser, hnative]
      simp [h24]
      tauto
    · simp [kindAllowed_iff h23 h24, h23, h24]
  · simp [hcommon]

def sampleTerminalInput : WireEnvelope :=
  let id : Uuid := ⟨#v[0, 0, 0, 0, 0, 0, 0x70, 0, 0x80, 0, 0, 0, 0, 0, 0, 0]⟩
  { protocolMajor := 1
    protocolMinor := 0
    connectionId := id
    sessionId := id
    channelId := id
    channel := .critical
    sequence := 1
    requestId := none
    operationId := none
    limits := ConnectLimits.v1Default.toWire
    compression := .none
    privacyClass := .rawContent
    payloadKind := 23
    payloadVersion := 1
    payload := [] }

theorem validators_disagree :
    ¬ ∀ wire, wire.payloadKind ≠ 0 → (wire.validate = .ok () ↔ NativeAccepts wire) := by
  intro h
  have hnative : NativeAccepts sampleTerminalInput := by
    let id : Uuid := ⟨#v[0, 0, 0, 0, 0, 0, 0x70, 0, 0x80, 0, 0, 0, 0, 0, 0, 0]⟩
    refine ⟨⟨1, 0, id, id, id, .critical, 1, none, none, .v1Default, .none, .rawContent,
      ⟨23, by decide⟩, 1, []⟩, rfl, by decide⟩
  have hdeny : sampleTerminalInput.validate = .error .rejected := by decide
  rw [(h sampleTerminalInput (by decide)).mpr hnative] at hdeny
  cases hdeny

end DevManager
