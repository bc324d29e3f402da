import DevManager.Protocol.Sealed

/-!
# The end-to-end channel (`src/connect/crypto.rs`)

A channel seals frames under a cursor of its own and opens the frames of its
peer behind a replay window. A frame is tried on a copy of the window before it
is opened, and recorded in the window after it was.

* `sealBytes_cases`, `openBytes_cases`: everything one call can do.
* `progress_after`: what a channel has sealed and opened after any calls.
-/

namespace DevManager

open Calls ReplayWindow

section Channel

variable [SealExternals]

/-- `MAX_SESSION_AGE_SECS`, `protocol/crypto.rs:44` -/
def maxSessionAgeSecs : ℕ := 60 * 60

/-- `ConnectRoute`, `src/connect/transport.rs:33-36` -/
inductive ConnectRoute
  | direct | relay

/-- `preferred_connect_route`, L291-297 -/
def preferredConnectRoute (directReachable : Bool) : ConnectRoute :=
  if directReachable then .direct else .relay

/-- `ChannelCipher`, L36-39 -/
inductive ChannelCipher
  | sourceLevel (sealer : SourceLevelSealer)
  | production (noise : NoiseTransport)

namespace ChannelCipher

/-- The cipher in `seal_bytes`, L222-225 -/
def sealFrame (cipher : ChannelCipher) (sequence : ℕ) (nonce : Vector UInt8 16)
    (plaintext : List UInt8) : Except CryptoError SealedFrame × ChannelCipher :=
  match cipher with
  | .sourceLevel sealer => (sealer.sealFrame sequence nonce plaintext, .sourceLevel sealer)
  | .production noise =>
    let (frame, noise) := noise.sealFrame sequence nonce plaintext
    (frame, .production noise)

/-- The cipher in `open_bytes`, L247-250 -/
def openFrame (cipher : ChannelCipher) (frame : SealedFrame) :
    Except CryptoError (List UInt8) × ChannelCipher :=
  match cipher with
  | .sourceLevel sealer => (sealer.openFrame frame, .sourceLevel sealer)
  | .production noise =>
    let (plaintext, noise) := noise.openFrame frame
    (plaintext, .production noise)

theorem sealFrame_sequence {cipher : ChannelCipher} {sequence : ℕ} {nonce plaintext frame}
    (h : (cipher.sealFrame sequence nonce plaintext).1 = .ok frame) :
    frame.sequence = sequence := by
  cases cipher with
  | sourceLevel => exact SourceLevelSealer.sealFrame_sequence h
  | production => exact NoiseTransport.sealFrame_sequence h

end ChannelCipher

/-- `EndToEndChannel`, L41-49 -/
structure EndToEndChannel where
  role : ChannelRole
  preferredRoute : ConnectRoute
  prologue : CryptoPrologue
  cipher : ChannelCipher
  sendSequence : ℕ
  recvWindow : ReplayWindow
  openedAtUnix : ℕ

namespace EndToEndChannel

/-- `from_noise_transport`, L105-115 -/
def fromNoiseTransport (noise : NoiseTransport) : EndToEndChannel :=
  { noise with
    preferredRoute := preferredConnectRoute noise.directReachable
    cipher := .production noise
    sendSequence := 0
    recvWindow := .new }

/-- `open_source_level`, L118-138 -/
def openSourceLevel (secret : Vector UInt8 32) (prologue : CryptoPrologue) (role : ChannelRole)
    (directReachable : Bool) (nowUnix : ℕ) (revoked : Bool) :
    Except CryptoError EndToEndChannel := do
  failIf (revoked = true) .revokedKey
  pure
    { role
      preferredRoute := preferredConnectRoute directReachable
      prologue := prologue
      cipher := .sourceLevel (SourceLevelSealer.derive secret prologue role)
      sendSequence := 0
      recvWindow := .new
      openedAtUnix := nowUnix }

variable (channel : EndToEndChannel)

/-- `with_send_cursor`, L255-258 -/
def withSendCursor (sendSequence : ℕ) : EndToEndChannel :=
  { channel with sendSequence }

/-- `ensure_fresh`, L269-274 -/
def ensureFresh (nowUnix : ℕ) : Except CryptoError Unit :=
  failIf (nowUnix - channel.openedAtUnix ≥ maxSessionAgeSecs) .sessionExpired

/-- `seal_bytes`, L211-228 -/
def sealBytes (plaintext : List UInt8) (nonce : Vector UInt8 16)
    (nowUnix : ℕ) : Except CryptoError SealedFrame × EndToEndChannel :=
  match channel.ensureFresh nowUnix with
  | .error e => (.error e, channel)
  | .ok () =>
    match checkedAdd channel.sendSequence 1 with
    | none => (.error .sequenceExhausted, channel)
    | some sequence =>
      match channel.cipher.sealFrame sequence nonce plaintext with
      | (.error e, cipher) => (.error e, { channel with cipher })
      | (.ok frame, cipher) =>
        (.ok frame, { channel with cipher, sendSequence := sequence })

/-- `open_bytes`, L239-253 -/
def openBytes (frame : SealedFrame) (nowUnix : ℕ) :
    Except CryptoError (List UInt8) × EndToEndChannel :=
  match channel.ensureFresh nowUnix with
  | .error e => (.error e, channel)
  | .ok () =>
    let probe := channel.recvWindow
    match (probe.accept frame.sequence).1 with
    | .error e => (.error e, channel)
    | .ok () =>
      match channel.cipher.openFrame frame with
      | (.error e, cipher) => (.error e, { channel with cipher })
      | (.ok plaintext, cipher) =>
        match channel.recvWindow.accept frame.sequence with
        | (.error e, window) =>
          (.error e, { channel with cipher, recvWindow := window })
        | (.ok (), window) =>
          (.ok plaintext, { channel with cipher, recvWindow := window })

/-! ## One call -/

theorem sealBytes_cases (plaintext) (nonce) (nowUnix : ℕ) :
    (channel.sealBytes plaintext nonce nowUnix).2.recvWindow = channel.recvWindow ∧
    ((∃ e, (channel.sealBytes plaintext nonce nowUnix).1 = .error e ∧
        (channel.sealBytes plaintext nonce nowUnix).2.sendSequence = channel.sendSequence) ∨
      ∃ frame, (channel.sealBytes plaintext nonce nowUnix).1 = .ok frame ∧
        frame.sequence = channel.sendSequence + 1 ∧
        (channel.sealBytes plaintext nonce nowUnix).2.sendSequence = channel.sendSequence + 1) := by
  unfold sealBytes
  split
  · exact ⟨rfl, .inl ⟨_, rfl, rfl⟩⟩
  · split
    · exact ⟨rfl, .inl ⟨_, rfl, rfl⟩⟩
    · rename_i sequence hnext
      have hseq : channel.sendSequence + 1 = sequence := (checkedAdd_eq_some.mp hnext).2
      split
      · exact ⟨rfl, .inl ⟨_, rfl, rfl⟩⟩
      · rename_i frame cipher hseal
        have hframe : frame.sequence = sequence :=
          ChannelCipher.sealFrame_sequence (congrArg Prod.fst hseal)
        exact ⟨rfl, .inr ⟨frame, rfl, hframe.trans hseq.symm, hseq.symm⟩⟩

theorem openBytes_cases (frame) (nowUnix : ℕ) :
    (channel.openBytes frame nowUnix).2.sendSequence = channel.sendSequence ∧
    ((∃ e, (channel.openBytes frame nowUnix).1 = .error e ∧
        (channel.openBytes frame nowUnix).2.recvWindow = channel.recvWindow ∧
        ¬ (channel.ensureFresh nowUnix = .ok () ∧
          (channel.recvWindow.accept frame.sequence).1 = .ok () ∧
          ∃ plaintext, (channel.cipher.openFrame frame).1 = .ok plaintext)) ∨
      ∃ plaintext, (channel.openBytes frame nowUnix).1 = .ok plaintext ∧
        channel.ensureFresh nowUnix = .ok () ∧
        (channel.recvWindow.accept frame.sequence).1 = .ok () ∧
        (channel.cipher.openFrame frame).1 = .ok plaintext ∧
        (channel.openBytes frame nowUnix).2.recvWindow =
          (channel.recvWindow.accept frame.sequence).2) := by
  rcases hfresh : channel.ensureFresh nowUnix with e | u
  · simp only [openBytes, hfresh]
    exact ⟨trivial, .inl ⟨e, rfl, trivial, fun h => by simp at h⟩⟩
  rcases hprobe : channel.recvWindow.accept frame.sequence with ⟨e | u, window⟩
  · simp only [openBytes, hfresh, hprobe]
    exact ⟨trivial, .inl ⟨e, rfl, trivial, fun h => by simp at h⟩⟩
  -- the window that the copy was made of accepts what the copy accepted
  rcases hopen : channel.cipher.openFrame frame with ⟨e | plaintext, cipher⟩
  · simp only [openBytes, hfresh, hprobe, hopen]
    exact ⟨trivial, .inl ⟨e, rfl, trivial, fun h => by simp at h⟩⟩
  · simp only [openBytes, hfresh, hprobe, hopen]
    exact ⟨trivial, .inr ⟨plaintext, rfl, trivial, trivial, rfl, trivial⟩⟩

end EndToEndChannel

/-! ## Runs -/

/-- A call of `seal_bytes` or `open_bytes`. -/
inductive ChannelCall
  | sealBytes (plaintext : List UInt8) (nonce : Vector UInt8 16) (nowUnix : ℕ)
  | openBytes (frame : SealedFrame) (nowUnix : ℕ)

/-- What a call returned. -/
inductive ChannelReply
  | sealed (result : Except CryptoError SealedFrame)
  | opened (result : Except CryptoError (List UInt8))

namespace EndToEndChannel

/-- One call on a channel. -/
def call (channel : EndToEndChannel) : ChannelCall → ChannelReply × EndToEndChannel
  | .sealBytes plaintext nonce nowUnix =>
    let (result, channel) := channel.sealBytes plaintext nonce nowUnix
    (.sealed result, channel)
  | .openBytes frame nowUnix =>
    let (result, channel) := channel.openBytes frame nowUnix
    (.opened result, channel)

/-- The sequence of the frame that a call sealed. -/
def sealedSequence : ChannelCall × ChannelReply → Option ℕ
  | (_, .sealed (.ok frame)) => some frame.sequence
  | _ => none

/-- The sequence of the frame that a call opened. -/
def openedSequence : ChannelCall × ChannelReply → Option ℕ
  | (.openBytes frame _, .opened (.ok _)) => some frame.sequence
  | _ => none

/-- What a channel with cursor `start` has done: it sealed the sequences after `start` up to its
cursor, and its window records what it opened. -/
structure Progress (start : ℕ) (channel : EndToEndChannel)
    (history : List (ChannelCall × ChannelReply)) : Prop where
  cursor : channel.sendSequence = start + (history.filterMap sealedSequence).length
  sealed : history.filterMap sealedSequence =
    List.range' (start + 1) (history.filterMap sealedSequence).length
  window : channel.recvWindow.Records (history.filterMap openedSequence)
  once : (history.filterMap openedSequence).Nodup

variable {channel : EndToEndChannel} {history : List (ChannelCall × ChannelReply)}

theorem Progress.concat {start : ℕ} {channel' entry} (h : Progress start channel history)
    (hsealed : (sealedSequence entry = none ∧ channel'.sendSequence = channel.sendSequence) ∨
      sealedSequence entry = some (channel.sendSequence + 1) ∧
        channel'.sendSequence = channel.sendSequence + 1)
    (hopen : (openedSequence entry = none ∧ channel'.recvWindow = channel.recvWindow) ∨
      ∃ s, openedSequence entry = some s ∧ (channel.recvWindow.accept s).1 = .ok () ∧
        channel'.recvWindow = (channel.recvWindow.accept s).2) :
    Progress start channel' (history ++ [entry]) := by
  obtain ⟨hcur, hrange, hwindow, honce⟩ := h
  have hseals : channel'.sendSequence =
        start + ((history ++ [entry]).filterMap sealedSequence).length ∧
      (history ++ [entry]).filterMap sealedSequence =
        List.range' (start + 1) ((history ++ [entry]).filterMap sealedSequence).length := by
    rw [List.filterMap_append]
    rcases hsealed with ⟨hnone, hkeep⟩ | ⟨hsome, hnext⟩
    · rw [List.filterMap_cons_none hnone, List.filterMap_nil, List.append_nil, hkeep]
      exact ⟨hcur, hrange⟩
    · rw [List.filterMap_cons_some hsome, List.filterMap_nil, List.length_append, hnext,
        List.length_singleton, List.range'_concat, ← hrange, hcur]
      refine ⟨by omega, ?_⟩
      congr 2
      omega
  have hopens : channel'.recvWindow.Records ((history ++ [entry]).filterMap openedSequence) ∧
      ((history ++ [entry]).filterMap openedSequence).Nodup := by
    rw [List.filterMap_append]
    rcases hopen with ⟨hnone, hkeep⟩ | ⟨s, hsome, hacc, hnext⟩
    · rw [List.filterMap_cons_none hnone, List.filterMap_nil, List.append_nil, hkeep]
      exact ⟨hwindow, honce⟩
    · rw [List.filterMap_cons_some hsome, List.filterMap_nil, hnext]
      have hnew : s ∉ history.filterMap openedSequence :=
        ((hwindow.accept_ok_iff s).mp hacc).2.1
      exact ⟨hwindow.accept hacc, List.nodup_append_comm.mp (List.nodup_cons.mpr ⟨hnew, honce⟩)⟩
  exact ⟨hseals.1, hseals.2, hopens.1, hopens.2⟩

theorem progress_call {start : ℕ} (h : Progress start channel history) (c) :
    Progress start (channel.call c).2 (history ++ [(c, (channel.call c).1)]) := by
  cases c with
  | sealBytes plaintext nonce nowUnix =>
    obtain ⟨hkeep, ⟨e, hr, hs⟩ | ⟨frame, hr, hframe, hs⟩⟩ :=
      sealBytes_cases channel plaintext nonce nowUnix
    · exact h.concat (.inl ⟨by simp [call, hr, sealedSequence], hs⟩) (.inl ⟨rfl, hkeep⟩)
    · exact h.concat (.inr ⟨by simp [call, hr, sealedSequence, hframe], hs⟩) (.inl ⟨rfl, hkeep⟩)
  | openBytes frame nowUnix =>
    obtain ⟨hkeep, ⟨e, hr, hw, _⟩ | ⟨plaintext, hr, _, hacc, _, hw⟩⟩ :=
      openBytes_cases channel frame nowUnix
    · exact h.concat (.inl ⟨rfl, hkeep⟩) (.inl ⟨by simp [call, hr, openedSequence], hw⟩)
    · exact h.concat (.inl ⟨rfl, hkeep⟩)
        (.inr ⟨frame.sequence, by simp [call, hr, openedSequence], hacc, hw⟩)

/-- The channels that the constructors make. -/
def Opened (channel : EndToEndChannel) : Prop :=
  (∃ noise, channel = fromNoiseTransport noise) ∨
    ∃ secret prologue role directReachable nowUnix revoked,
      openSourceLevel secret prologue role directReachable nowUnix revoked = .ok channel

theorem Opened.recvWindow (h : Opened channel) : channel.recvWindow = .new := by
  rcases h with ⟨noise, rfl⟩ | ⟨secret, prologue, role, directReachable, nowUnix, revoked, h⟩
  · rfl
  · simp only [openSourceLevel, ok_iff] at h
    obtain ⟨_, _, rfl⟩ := h
    rfl

theorem progress_after (hopen : Opened channel) (cursor : ℕ) (calls) :
    Progress cursor (after call (channel.withSendCursor cursor) calls)
      (trace call (channel.withSendCursor cursor) calls) := by
  refine history_invariant (P := Progress cursor) ⟨rfl, rfl, ?_, List.nodup_nil⟩
    (fun s history c h => progress_call h c) calls
  show channel.recvWindow.Records []
  rw [hopen.recvWindow]
  exact records_new

/-- A window accepts exactly the nonzero sequences that it has not accepted before and that are
not too far below the highest; a channel opens no sequence twice, does not record a frame that
it could not open, and numbers the frames that it seals one after the other. -/
theorem replay_protection (sequences : List ℕ) (s : ℕ) {channel : EndToEndChannel}
    (hopened : Opened channel) (cursor : ℕ) (calls : List ChannelCall) :
    (let window := after accept .new sequences
     let accepted := accepted (trace accept .new sequences)
     ((window.accept s).1 = .ok () ↔
        s ≠ 0 ∧ s ∉ accepted ∧ (accepted = [] ∨ highestOf accepted < s ∨
          highestOf accepted - s < replayWindowSize)) ∧
      ((window.accept s).1 ≠ .ok () → (window.accept s).2 = window)) ∧
    (let start := channel.withSendCursor cursor
     let reached := after call start calls
     let history := trace call start calls
     (history.filterMap openedSequence).Nodup ∧
      (∀ frame nowUnix e, (reached.openBytes frame nowUnix).1 = .error e →
        (reached.openBytes frame nowUnix).2.recvWindow = reached.recvWindow) ∧
      (∀ frame nowUnix plaintext, reached.ensureFresh nowUnix = .ok () →
        (reached.recvWindow.accept frame.sequence).1 = .ok () →
        (reached.cipher.openFrame frame).1 = .ok plaintext →
        (reached.openBytes frame nowUnix).1 = .ok plaintext) ∧
      history.filterMap sealedSequence =
        List.range' (cursor + 1) (history.filterMap sealedSequence).length ∧
      ∀ plaintext nonce nowUnix e, (reached.sealBytes plaintext nonce nowUnix).1 = .error e →
        (reached.sealBytes plaintext nonce nowUnix).2.sendSequence = reached.sendSequence) := by
  have hprogress := progress_after hopened cursor calls
  refine ⟨⟨(records_after sequences).accept_ok_iff s, accept_refused⟩,
    hprogress.once, ?_, ?_, hprogress.sealed, ?_⟩
  · intro frame nowUnix e he
    obtain ⟨_, ⟨e', _, hw, _⟩ | ⟨plaintext, hr, _⟩⟩ := openBytes_cases _ frame nowUnix
    · exact hw
    · rw [hr] at he
      cases he
  · intro frame nowUnix plaintext hfresh hacc hopen
    obtain ⟨_, ⟨e, _, _, hnot⟩ | ⟨plaintext', hr, _, _, hopen', _⟩⟩ :=
      openBytes_cases _ frame nowUnix
    · exact absurd ⟨hfresh, hacc, plaintext, hopen⟩ hnot
    · rw [hopen] at hopen'
      exact hr.trans hopen'.symm
  · intro plaintext nonce nowUnix e he
    obtain ⟨_, ⟨e', _, hs⟩ | ⟨frame, hr, _⟩⟩ := sealBytes_cases _ plaintext nonce nowUnix
    · exact hs
    · rw [hr] at he
      cases he

end EndToEndChannel

end Channel

namespace EndToEndChannel

@[reducible] def sampleSealing : SealExternals where
  hmacSha256 key message :=
    Vector.replicate 32 (message.foldl (· + ·) (key.toList.foldl (· + ·) 0))
  TransportState := Unit
  writeMessage _ payload := (.ok (payload ++ List.replicate 16 0), ())
  readMessage _ message := (.ok (message.take (message.length - 16)), ())

attribute [local instance] sampleSealing

def sampleNonce : Vector UInt8 16 := Vector.replicate 16 0

def sampleSecret : Vector UInt8 32 := Vector.replicate 32 0

def samplePrologue : CryptoPrologue := ⟨1, .ownerPairing, sampleNonce, sampleNonce⟩

def sampleSealer : SourceLevelSealer := .derive sampleSecret samplePrologue .initiator

/-- The frame in which the initiator seals `[7]` first. -/
def sampleFrame : SealedFrame :=
  ⟨1, 1, sampleNonce, [187], authenticate sampleSealer.sendMac 1 sampleNonce [187]⟩

/-- A frame that the initiator sealed is presented to the responder twice. -/
theorem replay_protection_sample : ∃ initiator responder,
    openSourceLevel sampleSecret samplePrologue .initiator true 0 false = .ok initiator ∧
      openSourceLevel sampleSecret samplePrologue .responder true 0 false = .ok responder ∧
      (initiator.sealBytes [7] sampleNonce 0).1 = .ok sampleFrame ∧
      ((after accept .new [3, 1]).accept 2).1 = .ok () ∧
      let history := trace call (responder.withSendCursor 4)
        [.sealBytes [7] sampleNonce 0, .openBytes sampleFrame 0, .openBytes sampleFrame 0]
      1 ∈ history.filterMap openedSequence ∧ (history.filterMap openedSequence).Nodup := by
  have hstream : applyKeystream sampleSealer.sendEnc sampleNonce 1 0 [7] = [187] := by
    simp only [applyKeystream, List.drop_succ_cons, List.drop_nil]
    decide +kernel
  refine ⟨_, _, rfl, rfl, ?_, ?_⟩
  · have hsealed : sampleSealer.sealFrame 1 sampleNonce [7] = .ok sampleFrame := by
      unfold SourceLevelSealer.sealFrame sealWith
      rw [hstream]
      rfl
    have hfresh : failIf (0 - 0 ≥ maxSessionAgeSecs) CryptoError.sessionExpired = .ok () := rfl
    have hnext : checkedAdd 0 1 = some 1 := rfl
    unfold sampleSealer at hsealed
    simp only [sealBytes, ensureFresh, hfresh, hnext, ChannelCipher.sealFrame, hsealed]
  · have hopen : Opened _ := .inr ⟨sampleSecret, samplePrologue, .responder, true, 0, false, rfl⟩
    obtain ⟨⟨hwindow, -⟩, honce, -⟩ := replay_protection [3, 1] 2 hopen 4
      [.sealBytes [7] sampleNonce 0, .openBytes sampleFrame 0, .openBytes sampleFrame 0]
    exact ⟨hwindow.mpr (by decide), by decide +kernel, honce⟩

end EndToEndChannel

end DevManager
