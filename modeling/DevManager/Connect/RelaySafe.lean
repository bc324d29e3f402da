import DevManager.Connect.RelaySteps

/-!
# Revocation and queues of the relay over whole runs

* `accounted_call`: the bytes of a queue are counted exactly while their number
  cannot saturate.
* `queue_after`: what is taken from a socket is what was forwarded to it, in
  order.
-/

namespace DevManager.OpaqueRelay

open Std (ExtTreeSet)
open List Calls

/-! ## Accounts of a queue -/

/-- The number of bytes of a queue cannot reach `u32::MAX` unnoticed. -/
def Countable (relay : OpaqueRelay) : Prop :=
  relay.maxQueueBytes < u32Max ∨ relay.maxQueueFrames < 4096

/-- The bytes of every queue are counted, and both bounds hold. -/
def Accounted (relay : OpaqueRelay) : Prop :=
  ∀ routeId audience channel, relay.socket routeId audience = some channel →
    channel.queuedBytes = (channel.queued.map SealedFrame.encodedLen).sum ∧
      channel.queued.length ≤ relay.maxQueueFrames ∧ channel.queuedBytes ≤ relay.maxQueueBytes

/-- `Accounted`, with what keeps it. -/
structure AccountInv (relay : OpaqueRelay) : Prop where
  wired : Wired relay
  countable : Countable relay
  accounted : Accounted relay
  frames : ∀ routeId audience channel, relay.socket routeId audience = some channel →
    ∀ frame ∈ channel.queued, frame.encodedLen ≤ maxSealedFrameBytes

variable {relay next : OpaqueRelay}

theorem AccountInv.drops (h : AccountInv relay) (hdrops : Drops relay next) : AccountInv next where
  wired := hdrops.wired h.wired
  countable := by
    have hcountable := h.countable
    unfold Countable at hcountable ⊢
    rwa [hdrops.bounds.1, hdrops.bounds.2]
  accounted := by
    intro r a channel hsocket
    rw [hdrops.bounds.1, hdrops.bounds.2]
    exact h.accounted r a channel (hdrops.sockets r a channel hsocket)
  frames := fun r a channel hsocket => h.frames r a channel (hdrops.sockets r a channel hsocket)

theorem sum_le_of_frames (queued : List SealedFrame)
    (h : ∀ frame ∈ queued, frame.encodedLen ≤ maxSealedFrameBytes) :
    (queued.map SealedFrame.encodedLen).sum ≤ queued.length * maxSealedFrameBytes := by
  have hsum := sum_le_card_nsmul (queued.map SealedFrame.encodedLen) maxSealedFrameBytes (by
    intro n hn
    obtain ⟨frame, hframe, rfl⟩ := mem_map.mp hn
    exact h frame hframe)
  rwa [length_map, smul_eq_mul] at hsum

variable {routeId : RouteId} {audience : TicketAudience}

theorem saturatingAdd32_exact (h : AccountInv relay) {channel} {frame : SealedFrame}
    (hsocket : relay.socket routeId audience = some channel)
    (hlen : frame.encodedLen ≤ maxSealedFrameBytes)
    (hframes : channel.queued.length < relay.maxQueueFrames)
    (hbytes : saturatingAdd32 channel.queuedBytes frame.encodedLen ≤ relay.maxQueueBytes) :
    saturatingAdd32 channel.queuedBytes frame.encodedLen =
      channel.queuedBytes + frame.encodedLen := by
  refine Nat.min_eq_left ?_
  rcases h.countable with hbound | hbound
  · -- a saturated sum would exceed the bound
    by_contra hover
    have hmax : saturatingAdd32 channel.queuedBytes frame.encodedLen = u32Max :=
      Nat.min_eq_right (by omega)
    omega
  · have hsum := sum_le_of_frames channel.queued (h.frames routeId audience channel hsocket)
    rw [← (h.accounted routeId audience channel hsocket).1] at hsum
    have hroom : 4095 * maxSealedFrameBytes ≤ u32Max := by decide
    have hcount : (channel.queued.length + 1) * maxSealedFrameBytes ≤ 4095 * maxSealedFrameBytes :=
      Nat.mul_le_mul_right _ (by omega)
    rw [Nat.add_mul] at hcount
    omega

/-! ## The queue of a binding -/

/-- The frames that wait for the socket. -/
def pending (relay : OpaqueRelay) (routeId : RouteId) (audience : TicketAudience) :
    List SealedFrame :=
  ((relay.socket routeId audience).map BoundChannel.queued).getD []

/-- While the socket is not bound anew, what is forwarded goes to the end of its queue and what is
taken comes from the front. Only a dropped socket loses frames, and it does not come back. -/
structure Queue (routeId : RouteId) (audience : TicketAudience) (before after : OpaqueRelay)
    (forwarded taken : List SealedFrame) : Prop where
  frames : ∃ lost, before.pending routeId audience ++ forwarded =
      taken ++ after.pending routeId audience ++ lost ∧
    (∀ channel, after.socket routeId audience = some channel → lost = [])
  gone : before.socket routeId audience = none →
    after.socket routeId audience = none ∧ forwarded = [] ∧ taken = []

theorem Queue.trans {a b c} {forwarded forwarded' taken taken' : List SealedFrame}
    (hab : Queue routeId audience a b forwarded taken)
    (hbc : Queue routeId audience b c forwarded' taken') :
    Queue routeId audience a c (forwarded ++ forwarded') (taken ++ taken') where
  frames := by
    obtain ⟨lost, hframes, hkept⟩ := hab.frames
    obtain ⟨lost', hframes', hkept'⟩ := hbc.frames
    rw [← append_assoc, hframes]
    rcases hsocket : b.socket routeId audience with _ | channel
    · obtain ⟨hnone, rfl, rfl⟩ := hbc.gone hsocket
      have hb : b.pending routeId audience = [] := by simp [pending, hsocket]
      have hc : c.pending routeId audience = [] := by simp [pending, hnone]
      refine ⟨lost, by simp [hb, hc], fun channel hsome => ?_⟩
      rw [hnone] at hsome
      cases hsome
    · rw [hkept channel hsocket, append_nil, append_assoc, hframes']
      exact ⟨lost', by simp only [append_assoc], hkept'⟩
  gone := by
    intro hnone
    obtain ⟨hb, rfl, rfl⟩ := hab.gone hnone
    obtain ⟨hc, rfl, rfl⟩ := hbc.gone hb
    exact ⟨hc, rfl, rfl⟩

theorem Queue.of_drops (h : Drops relay next) (routeId : RouteId)
    (audience) : Queue routeId audience relay next [] [] where
  frames := by
    rcases hsocket : next.socket routeId audience with _ | channel
    · refine ⟨relay.pending routeId audience, ?_, nofun⟩
      simp [pending, hsocket]
    · have hold := h.sockets routeId audience channel hsocket
      exact ⟨[], by simp [pending, hsocket, hold], fun _ _ => rfl⟩
  gone := by
    intro hnone
    refine ⟨?_, rfl, rfl⟩
    rcases hsocket : next.socket routeId audience with _ | channel
    · rfl
    · rw [h.sockets routeId audience channel hsocket] at hnone
      cases hnone

theorem Queue.of_socket {r}
    {a : TicketAudience} {old channel} (forwarded taken)
    (hold : relay.socket routeId audience = some old) (hnext : next.socket r a =
      if routeId = r ∧ audience = a then some channel else relay.socket r a)
    (hqueue : old.queued ++ forwarded = taken ++ channel.queued) :
    Queue r a relay next (if routeId = r ∧ audience = a then forwarded else [])
      (if routeId = r ∧ audience = a then taken else []) := by
  by_cases hsame : routeId = r ∧ audience = a
  · obtain ⟨rfl, rfl⟩ := hsame
    rw [if_pos ⟨rfl, rfl⟩] at hnext
    rw [if_pos ⟨rfl, rfl⟩, if_pos ⟨rfl, rfl⟩]
    refine ⟨⟨[], ?_, fun _ _ => rfl⟩, fun hnone => ?_⟩
    · simpa [pending, hold, hnext] using hqueue
    · rw [hold] at hnone
      cases hnone
  · rw [if_neg hsame] at hnext
    rw [if_neg hsame, if_neg hsame]
    refine ⟨⟨[], ?_, fun _ _ => rfl⟩, fun hnone => ⟨hnext.trans hnone, rfl, rfl⟩⟩
    simp [pending, hnext]

/-! ## Calls -/

section Calls

variable [RelayExternals]

theorem accounted_call (relay) (c) (h : AccountInv relay) :
    AccountInv (relay.call c).2 := by
  have hwired := wired_call relay c h.wired
  cases relayStep_call relay h.wired c with
  | dropped hdrops _ _ _ => exact h.drops hdrops
  | bound left claims now hdrops _ _ _ _ _ _ _ hnext =>
    have hleft := h.drops hdrops
    rw [hnext] at hwired ⊢
    refine ⟨hwired, hleft.countable, ?_, ?_⟩
    · exact forall_socket (socket_bound left claims now)
        ⟨rfl, Nat.zero_le _, Nat.zero_le _⟩ hleft.accounted
    · exact forall_socket (socket_bound left claims now) nofun hleft.frames
  | forwarded left routeId sender frame now inbound hdrops hinbound hlen hframes hbytes _ _ _
      hnext =>
    have hleft := h.drops hdrops
    have hold := hleft.accounted routeId sender.peer inbound hinbound
    have hexact := saturatingAdd32_exact hleft hinbound hlen hframes hbytes
    rw [hnext] at hwired ⊢
    refine ⟨hwired, hleft.countable, ?_, ?_⟩
    · refine forall_socket (socket_forward left _ _ _ _ _ _) ⟨?_, ?_, hbytes⟩ hleft.accounted
      · show saturatingAdd32 _ _ = _
        rw [hexact, hold.1, map_append, sum_append, map_singleton, sum_singleton]
      · show (inbound.queued ++ [frame]).length ≤ left.maxQueueFrames
        rw [length_append, length_singleton]
        exact hframes
    · refine forall_socket (socket_forward left _ _ _ _ _ _) (fun other hother => ?_) hleft.frames
      rcases mem_append.mp hother with hmem | hmem
      · exact hleft.frames routeId sender.peer inbound hinbound other hmem
      · rw [mem_singleton.mp hmem]
        exact hlen
  | taken routeId audience old frame queued hold hqueue _ _ _ hnext =>
    obtain ⟨hsum, hcount, hbytes⟩ := h.accounted routeId audience old hold
    have hframes := h.frames routeId audience old hold
    rw [hqueue] at hsum hcount hframes
    rw [map_cons, sum_cons] at hsum
    rw [length_cons] at hcount
    have hlen := hframes frame (.head _)
    have hexact : u32Or 0 frame.encodedLen = frame.encodedLen := by
      have hbound : maxSealedFrameBytes ≤ u32Max := by decide
      exact if_pos (hlen.trans hbound)
    rw [hnext] at hwired ⊢
    refine ⟨hwired, h.countable, ?_, ?_⟩
    · refine forall_socket (fun r a => socket_setSocket relay routeId r audience a _) ?_ h.accounted
      dsimp only [setSocket]
      rw [hexact]
      exact ⟨by omega, by omega, by omega⟩
    · exact forall_socket (fun r a => socket_setSocket relay routeId r audience a _)
        (fun other hother => hframes other (.tail _ hother)) h.frames

theorem queue_call (relay) (h : Wired relay) (c) (routeId : RouteId)
    (audience) (hbinds : ¬ Binds routeId audience (c, (relay.call c).1)) :
    Queue routeId audience relay (relay.call c).2
      (forwardedTo routeId audience (c, (relay.call c).1)).toList
      (takenFrom routeId audience (c, (relay.call c).1)).toList := by
  cases relayStep_call relay h c with
  | dropped hdrops _ hfwd htaken =>
    rw [hfwd, htaken]
    exact Queue.of_drops hdrops routeId audience
  | bound left claims now hdrops _ _ _ _ hbound hfwd htaken hnext =>
    rw [hfwd, htaken]
    have hother : ¬ (claims.routeId = routeId ∧ claims.audience = audience) := fun hsame =>
      hbinds ⟨claims, hbound, hsame⟩
    have hsocket := socket_bound left claims now routeId audience
    rw [← hnext, if_neg hother] at hsocket
    have hdropped := Queue.of_drops hdrops routeId audience
    refine ⟨?_, fun hnone => ⟨hsocket.trans (hdropped.gone hnone).1, rfl, rfl⟩⟩
    have hpend : (relay.call c).2.pending routeId audience = left.pending routeId audience := by
      simp only [pending, hsocket]
    rw [hpend, hsocket]
    exact hdropped.frames
  | forwarded left r sender frame now inbound hdrops hinbound _ _ _ _ hfwd htaken hnext =>
    have hsocket := socket_forward left r sender inbound frame frame.encodedLen now routeId audience
    rw [← hnext] at hsocket
    have hqueue := Queue.of_socket [frame] [] hinbound hsocket rfl
    rw [hfwd, htaken]
    have hall := (Queue.of_drops hdrops routeId audience).trans hqueue
    by_cases hsame : r = routeId ∧ sender.peer = audience <;> simpa [hsame] using hall
  | taken r a channel frame queued hold hqueued _ hfwd htaken hnext =>
    have hsocket := socket_setSocket relay r routeId a audience
      ⟨channel.claims, queued, channel.queuedBytes - u32Or 0 frame.encodedLen⟩
    rw [← hnext] at hsocket
    have hqueue := Queue.of_socket [] [frame] hold hsocket (by simp [hqueued])
    rw [hfwd, htaken]
    by_cases hsame : r = routeId ∧ a = audience <;> simpa [hsame] using hqueue

theorem queue_after (routeId : RouteId) (audience) (calls) :
    ∀ {relay : OpaqueRelay}, Wired relay →
      (∀ entry ∈ trace call relay calls, ¬ Binds routeId audience entry) →
      Queue routeId audience relay (after call relay calls)
        ((trace call relay calls).filterMap (forwardedTo routeId audience))
        ((trace call relay calls).filterMap (takenFrom routeId audience)) := by
  induction calls with
  | nil => exact fun _ _ => Queue.of_drops (Drops.refl _) routeId audience
  | cons c calls ih =>
    intro relay h hbinds
    have hcons : ∀ f : RelayCall × RelayReply → Option SealedFrame,
        (trace call relay (c :: calls)).filterMap f = (f (c, (relay.call c).1)).toList ++
            (trace call (relay.call c).2 calls).filterMap f := by
      intro f
      rw [trace, filterMap_cons]
      rcases f (c, (relay.call c).1) with _ | frame <;> rfl
    rw [hcons, hcons, after_cons]
    exact (queue_call relay h c routeId audience (hbinds _ (.head _))).trans
      (ih (wired_call relay c h) fun entry hentry => hbinds entry (.tail _ hentry))

/-! ## Whole runs -/

/-- The relays that the constructors build. -/
inductive Started : OpaqueRelay → Prop
  | new : Started new
  | withSigningKey (key : TicketSigningKey) : Started (withSigningKey key)
  | withQueueBounds (relay : OpaqueRelay) (maxFrames maxBytes : ℕ) (h : Started relay) :
    Started (relay.withQueueBounds maxFrames maxBytes)

variable {relay : OpaqueRelay}

omit [RelayExternals] in
theorem Started.unbound (h : Started relay) : relay.channels = ∅ ∧ relay.presence = ∅ := by
  induction h with
  | new | withSigningKey => exact ⟨rfl, rfl⟩
  | withQueueBounds relay maxFrames maxBytes _ ih => exact ih

omit [RelayExternals] in
theorem Started.wired (h : Started relay) : Wired relay := by
  obtain ⟨hchans, hpre⟩ := h.unbound
  refine ⟨?_, ?_⟩
  · intro routeId sockets hget
    simp [hchans] at hget
  · simp [hchans, hpre]

omit [RelayExternals] in
theorem Started.socket (h : Started relay) (routeId : RouteId)
    (audience) : relay.socket routeId audience = none := by
  unfold OpaqueRelay.socket socketIn
  rw [h.unbound.1]
  simp

/-- What was taken from a socket since it was bound is what was forwarded to it, in order and
without the frames that wait in its queue. -/
def TakenInOrder (start : OpaqueRelay) (calls : List RelayCall) (routeId : RouteId)
    (audience : TicketAudience) : Prop :=
  ∀ before c mid, calls = before ++ c :: mid →
    let relay := Calls.after call start before
    let since := Calls.trace call (relay.call c).2 mid
    Binds routeId audience (c, (relay.call c).1) →
    (∀ entry ∈ since, ¬ Binds routeId audience entry) →
    since.filterMap (takenFrom routeId audience) <+:
        since.filterMap (forwardedTo routeId audience) ∧
      ∀ channel, (Calls.after call start calls).socket routeId audience = some channel →
        since.filterMap (forwardedTo routeId audience) =
          since.filterMap (takenFrom routeId audience) ++ channel.queued

theorem takenInOrder_after {start} (h : Wired start) (calls) (routeId : RouteId) (audience) :
    TakenInOrder start calls routeId audience := by
  intro before c mid hcalls relay since hbound hbinds
  have hrel : Wired relay := after_invariant h wired_call before
  have hpend : (relay.call c).2.pending routeId audience = [] := by
    obtain ⟨claims, hticket, hroute, haudience⟩ := hbound
    cases relayStep_call relay hrel c with
    | dropped _ hnone _ _ | forwarded _ _ _ _ _ _ _ _ _ _ _ hnone _ _ _
    | taken _ _ _ _ _ _ _ hnone _ _ _ =>
      rw [hticket] at hnone
      cases hnone
    | bound left other now _ _ _ _ _ hother _ _ hnext =>
      rw [hticket] at hother
      cases hother
      simp [pending, hnext, socket_bound, hroute, haudience]
  have hpost : after call start calls = after call (relay.call c).2 mid := by
    rw [hcalls, after_append, after_cons]
  obtain ⟨lost, hframes, hkept⟩ :=
    (queue_after routeId audience mid (wired_call relay c hrel) hbinds).frames
  rw [hpend, nil_append] at hframes
  refine ⟨⟨_, (hframes.trans (append_assoc _ _ _)).symm⟩, fun channel hsocket => ?_⟩
  rw [hpost] at hsocket
  rw [hkept channel hsocket, append_nil] at hframes
  simpa [pending, hsocket] using hframes

theorem barred_after {start} {hitems : RouteTicket → Prop} {before rest c}
    (hbarred : Barred hitems ((after call start before).call c).2) :
    Barred hitems (after call start (before ++ c :: rest)) := by
  rw [after_append, after_cons]
  exact after_invariant hbarred barred_call rest

/-- In every run a nonce is bound at most once, a revoked ticket or device is never bound again and
no frame is admitted from or to it, the routes with presence are those with a socket, the bytes
of every queue are counted and both its bounds hold when the relay is `Countable`, and what is
taken from a binding is what was forwarded to it, in order; from a socket that was never bound
nothing is taken. -/
theorem relay_safety (start : OpaqueRelay) (hstart : Started start) (calls : List RelayCall) :
    let relay := after call start calls
    let history := trace call start calls
    ((history.filterMap boundTicket).map RouteTicket.nonce).Nodup ∧
    ((∀ before ticketId rest, calls = before ++ .revokeTicket ticketId :: rest →
        relay.Refuses fun claims => claims.ticketId = ticketId) ∧
      ∀ before device rest, calls = before ++ .revokeDevice device :: rest →
        relay.Refuses fun claims => claims.devicePublicId = device) ∧
    (∀ routeId, routeId ∈ relay.presence ↔
      ∃ audience channel, relay.socket routeId audience = some channel) ∧
    (start.Countable → relay.Accounted) ∧
    ∀ routeId audience, TakenInOrder start calls routeId audience ∧
      ((∀ entry ∈ history, ¬ Binds routeId audience entry) →
        history.filterMap (takenFrom routeId audience) = []) := by
  intro relay history
  have hwired : ∀ before, Wired (after call start before) := fun before =>
    after_invariant hstart.wired wired_call before
  have hconsumed : Consumed relay history :=
    history_invariant (P := Consumed) ⟨hstart.wired, nofun, nodup_nil⟩ consumed_call calls
  refine ⟨hconsumed.once, ⟨?_, ?_⟩, (hwired calls).presence_iff, fun hcountable => ?_,
    fun routeId audience => ⟨takenInOrder_after hstart.wired calls routeId audience, ?_⟩⟩
  · rintro before ticketId rest rfl
    exact (barred_after (barred_revokeTicket _ (hwired before) ticketId)).refuses
  · rintro before device rest rfl
    exact (barred_after (barred_revokeDevice _ (hwired before) device)).refuses
  · have hnone : ∀ routeId audience channel, ¬ start.socket routeId audience = some channel := by
      intro routeId audience channel hsocket
      rw [hstart.socket] at hsocket
      cases hsocket
    have hinv : AccountInv start := ⟨hstart.wired, hcountable,
      fun r a channel hsocket => absurd hsocket (hnone r a channel),
      fun r a channel hsocket => absurd hsocket (hnone r a channel)⟩
    exact (after_invariant hinv accounted_call calls).accounted
  · intro hbinds
    exact ((queue_after routeId audience calls hstart.wired hbinds).gone (hstart.socket _ _)).2.2

end Calls

/-! ## A relay that miscounts -/

variable {relay : OpaqueRelay} {frame : SealedFrame}

theorem admitFrame_forwards (h : Wired relay) {routeId sender} {now : ℕ} {source inbound}
    (hvalid : frame.validate = .ok ()) (hlen : frame.encodedLen ≤ maxSealedFrameBytes)
    (hpre : routeId ∉ relay.expiredPresence now)
    (hsrc : relay.socket routeId sender = some source) (hsourceLive : ¬ relay.stale now source)
    (hinbound : relay.socket routeId sender.peer = some inbound) (hin : ¬ relay.stale now inbound)
    (honline : source.claims.hostPublicId ∈ relay.onlineHosts ∧
      inbound.claims.hostPublicId ∈ relay.onlineHosts)
    (hframes : inbound.queued.length < relay.maxQueueFrames)
    (hbytes : saturatingAdd32 inbound.queuedBytes frame.encodedLen ≤ relay.maxQueueBytes) :
    (relay.admitFrame routeId sender frame now).2 =
      (relay.expireStale now).forward routeId sender inbound frame frame.encodedLen now := by
  have hexact : u32Or u32Max frame.encodedLen = frame.encodedLen := by
    have hbound : maxSealedFrameBytes ≤ u32Max := by decide
    exact if_pos (hlen.trans hbound)
  have hkept : ∀ a channel, relay.socket routeId a = some channel → ¬ relay.stale now channel →
      (relay.expireStale now).socket routeId a = some channel := by
    intro a channel hsocket hlive
    rw [socket_expireStale h, if_neg hpre, hsocket]
    simp [Option.filter, hlive]
  have hlive : ∀ channel, ¬ relay.stale now channel →
      (relay.expireStale now).channelLive channel now = .ok () := by
    intro channel hnot
    simp only [stale, not_or] at hnot
    simp only [channelLive, ok_iff]
    exact hnot
  have hcheck : (relay.expireStale now).checkFrame routeId sender frame now =
      .ok (frame.encodedLen, inbound) := by
    obtain ⟨sockets, hsockets, hget⟩ := socketIn_eq_some.mp (hkept _ _ hsrc hsourceLive)
    obtain ⟨other, hother, hgetP⟩ := socketIn_eq_some.mp (hkept _ _ hinbound hin)
    rw [hsockets] at hother
    cases hother
    simp only [checkFrame, ok_iff, hexact]
    exact ⟨not_lt.mpr hlen, hvalid, sockets, hsockets, source, hget, hlive source hsourceLive,
      inbound, hgetP, hlive inbound hin, fun hoff => hoff.2 honline.1,
      fun hoff => hoff.2 honline.2, trivial, rfl⟩
  unfold admitFrame
  dsimp only
  rw [hcheck]
  dsimp only
  rw [if_neg]
  rw [not_or, not_le, not_lt]
  exact ⟨hframes, hbytes⟩

/-- What is neither a binding nor a presence is unchanged. -/
structure SameFrame (relay next : OpaqueRelay) : Prop where
  tickets : next.revokedTickets = relay.revokedTickets
  devices : next.revokedDevices = relay.revokedDevices
  online : next.onlineHosts = relay.onlineHosts
  frames : next.maxQueueFrames = relay.maxQueueFrames
  bytes : next.maxQueueBytes = relay.maxQueueBytes

variable (relay)

theorem expireStale_frame (now : ℕ) :
    SameFrame relay (relay.expireStale now) :=
  ⟨rfl, rfl, rfl, rfl, rfl⟩

theorem forward_frame (routeId : RouteId) (sender) (inbound) (frame) (encodedLen now : ℕ) :
    SameFrame relay (relay.forward routeId sender inbound frame encodedLen now) :=
  ⟨rfl, rfl, rfl, rfl, rfl⟩

theorem presence_forward (routeId : RouteId) (sender)
    (inbound) (frame) (encodedLen now : ℕ) :
    (relay.forward routeId sender inbound frame encodedLen now).presence =
      relay.presence.modify routeId fun _ => ⟨saturatingAdd now presenceTtlSecs⟩ :=
  rfl

variable {relay}

abbrev sampleExternals : RelayExternals :=
  { hmacSha256 := fun _ _ => Vector.replicate 32 0, uuidBytes := fun _ => Vector.replicate 16 0 }

def sampleClaims (audience : TicketAudience) (nonce : UInt8) : RouteTicket :=
  { ticketId := ⟨nonce.toNat⟩
    routeId := ⟨1⟩
    hostPublicId := ⟨1⟩
    devicePublicId := ⟨1⟩
    accountId := ⟨1⟩
    audience := audience
    issuedAtUnix := 0
    expiresAtUnix := 300
    nonce := Vector.replicate 16 nonce }

def sampleKey : TicketSigningKey := ⟨Vector.replicate 32 0⟩

def sampleBind (audience : TicketAudience) (nonce : UInt8) : RelayCall :=
  .bind (@SignedRouteTicket.issue sampleExternals sampleKey (sampleClaims audience nonce)) 0
    (.account ⟨1⟩)

def wideRelay : OpaqueRelay := (withSigningKey sampleKey).withQueueBounds 4096 u32Max

def sampleBinds : List RelayCall := [sampleBind .hostSocket 1, sampleBind .deviceSocket 2]

def wideCalls (frame : SealedFrame) (count : ℕ) : List RelayCall :=
  sampleBinds ++ List.replicate count (.admitFrame ⟨1⟩ .hostSocket frame 0)

structure Filling (frame : SealedFrame) (count : ℕ) (relay : OpaqueRelay) : Prop where
  wired : Wired relay
  source : relay.socket ⟨1⟩ .hostSocket = some ⟨sampleClaims .hostSocket 1, [], 0⟩
  inbound : relay.socket ⟨1⟩ .deviceSocket = some ⟨sampleClaims .deviceSocket 2,
    List.replicate count frame, min (count * maxSealedFrameBytes) u32Max⟩
  presence : ∀ record, relay.presence[(⟨1⟩ : RouteId)]? = some record → 0 < record.expiresAtUnix
  revoked : relay.revokedTickets.isEmpty = true ∧ relay.revokedDevices.isEmpty = true
  online : (⟨1⟩ : HostPublicId) ∈ relay.onlineHosts
  bounds : relay.maxQueueFrames = 4096 ∧ relay.maxQueueBytes = u32Max

theorem filling_start (frame) :
    Filling frame 0 (after (@call sampleExternals) wideRelay sampleBinds) where
  wired := after_invariant (Started.withQueueBounds _ _ _ (.withSigningKey _)).wired
    (@wired_call sampleExternals) sampleBinds
  source := by decide +kernel
  inbound := by
    have hinbound : (after (@call sampleExternals) wideRelay sampleBinds).socket ⟨1⟩
        .deviceSocket = some ⟨sampleClaims .deviceSocket 2, [], 0⟩ := by decide +kernel
    exact hinbound
  presence := by
    have hpre : (after (@call sampleExternals) wideRelay sampleBinds).presence[
        (⟨1⟩ : RouteId)]? = some ⟨presenceTtlSecs⟩ := by decide +kernel
    intro record hget
    rw [hpre] at hget
    cases hget
    decide
  revoked := by decide +kernel
  online := by decide +kernel
  bounds := by decide +kernel

theorem Filling.live {count : ℕ} (h : Filling frame count relay) {channel}
    (hissued : channel.claims.issuedAtUnix = 0) (hexp : channel.claims.expiresAtUnix = 300) :
    ¬ relay.stale 0 channel := by
  have htickets := ExtTreeSet.isEmpty_iff.mp h.revoked.1
  have hdevices := ExtTreeSet.isEmpty_iff.mp h.revoked.2
  simp [stale, expired, hissued, hexp, htickets, hdevices]

theorem filling_call (hvalid : frame.validate = .ok ())
    (hlen : frame.encodedLen = maxSealedFrameBytes) {count : ℕ} (hcount : count < 4096)
    (h : Filling frame count relay) :
    Filling frame (count + 1)
      (@call sampleExternals relay (.admitFrame ⟨1⟩ .hostSocket frame 0)).2 := by
  have hpre : (⟨1⟩ : RouteId) ∉ relay.expiredPresence 0 := by
    intro hmem
    obtain ⟨record, hget, hexp⟩ := mem_expiredPresence.mp hmem
    have hpos := h.presence record hget
    omega
  have hnext : (@call sampleExternals relay (.admitFrame ⟨1⟩ .hostSocket frame 0)).2 =
      (relay.expireStale 0).forward ⟨1⟩ .hostSocket
        ⟨sampleClaims .deviceSocket 2, List.replicate count frame,
          min (count * maxSealedFrameBytes) u32Max⟩ frame frame.encodedLen 0 := by
    refine admitFrame_forwards h.wired hvalid hlen.le hpre h.source (h.live rfl rfl) h.inbound
      (h.live rfl rfl) ⟨h.online, h.online⟩ ?_ ?_
    · rw [h.bounds.1, length_replicate]
      exact hcount
    · rw [h.bounds.2]
      exact Nat.min_le_right _ _
  have hkept : ∀ a channel, relay.socket ⟨1⟩ a = some channel → ¬ relay.stale 0 channel →
      (relay.expireStale 0).socket ⟨1⟩ a = some channel := by
    intro a channel hsocket hlive
    rw [socket_expireStale h.wired, if_neg hpre, hsocket]
    simp [Option.filter, hlive]
  have hexp := expireStale_frame relay 0
  have hframe := forward_frame (relay.expireStale 0) ⟨1⟩ .hostSocket
    ⟨sampleClaims .deviceSocket 2, List.replicate count frame,
      min (count * maxSealedFrameBytes) u32Max⟩ frame frame.encodedLen 0
  refine ⟨@wired_call sampleExternals relay _ h.wired, ?_, ?_, ?_, ?_, ?_, ?_⟩
  · rw [hnext, socket_forward]
    exact hkept _ _ h.source (h.live rfl rfl)
  · rw [hnext, socket_forward, if_pos ⟨rfl, rfl⟩, hlen]
    have hbytes : saturatingAdd32 (min (count * maxSealedFrameBytes) u32Max) maxSealedFrameBytes =
        min ((count + 1) * maxSealedFrameBytes) u32Max := by
      unfold saturatingAdd32
      rw [Nat.add_mul]
      omega
    rw [hbytes, replicate_succ']
  · rw [hnext, presence_forward, OrdMap.getElem?_modify_eq, if_pos rfl]
    intro record hget
    obtain ⟨_, _, rfl⟩ := Option.map_eq_some_iff.mp hget
    decide
  · rw [hnext, hframe.tickets, hframe.devices, hexp.tickets, hexp.devices]
    exact h.revoked
  · rw [hnext, hframe.online, hexp.online]
    exact h.online
  · rw [hnext, hframe.frames, hframe.bytes, hexp.frames, hexp.bytes]
    exact h.bounds

def shortFrame : SealedFrame := ⟨1, 1, Vector.replicate 16 0, [7], Vector.replicate 32 0⟩

def sampleQueued : List RelayCall := sampleBinds ++ [.admitFrame ⟨1⟩ .hostSocket shortFrame 0]

/-- A frame is queued for the device, then the ticket of its sender is revoked. -/
theorem relay_safety_revoked :
    let relay := after (@call sampleExternals) (withSigningKey sampleKey)
      (sampleQueued ++ [.revokeTicket ⟨1⟩])
    @Refuses sampleExternals (fun claims => claims.ticketId = ⟨1⟩) relay ∧ relay.Accounted := by
  obtain ⟨_, ⟨hticket, _⟩, _, haccounted, _⟩ := @relay_safety sampleExternals
    (withSigningKey sampleKey) (.withSigningKey sampleKey) (sampleQueued ++ [.revokeTicket ⟨1⟩])
  exact ⟨hticket sampleQueued ⟨1⟩ [] rfl, haccounted (.inl (by decide))⟩

def fullFrame : SealedFrame :=
  { version := 1
    sequence := 1
    nonce := Vector.replicate 16 0
    ciphertext := List.replicate maxSealedPlaintextBytes 0
    tag := Vector.replicate 32 0 }

theorem encodedLen_of_length {n : ℕ} (h : frame.ciphertext.length = n) :
    frame.encodedLen = 1 + 8 + sealedNonceBytes + n + sealedTagBytes := by
  rw [← h]
  rfl

theorem length_fullFrame : fullFrame.ciphertext.length = maxSealedPlaintextBytes := by
  unfold fullFrame
  exact length_replicate

theorem encodedLen_fullFrame : fullFrame.encodedLen = maxSealedFrameBytes :=
  calc fullFrame.encodedLen
      = 1 + 8 + sealedNonceBytes + maxSealedPlaintextBytes + sealedTagBytes :=
        encodedLen_of_length length_fullFrame
    _ = maxSealedFrameBytes := by decide

theorem validate_fullFrame : fullFrame.validate = .ok () := by
  unfold SealedFrame.validate
  rw [encodedLen_fullFrame]
  rfl

/-- With 4096 frames of the largest size in a queue the number of bytes is `u32::MAX`, one less
than their sum. -/
theorem relay_bytes_saturate :
    Started wideRelay ∧
      ¬ Accounted (after (@call sampleExternals) wideRelay (wideCalls fullFrame 4096)) := by
  refine ⟨.withQueueBounds _ _ _ (.withSigningKey _), fun h => ?_⟩
  have hfilling : ∀ count, count ≤ 4096 → Filling fullFrame count
      (after (@call sampleExternals) wideRelay (wideCalls fullFrame count)) := by
    intro count
    induction count with
    | zero =>
      intro _
      have hcalls : wideCalls fullFrame 0 = sampleBinds := append_nil _
      rw [hcalls]
      exact filling_start fullFrame
    | succ count ih =>
      intro hcount
      have hcalls : wideCalls fullFrame (count + 1) =
          wideCalls fullFrame count ++ [.admitFrame ⟨1⟩ .hostSocket fullFrame 0] := by
        unfold wideCalls
        rw [replicate_succ', append_assoc]
      rw [hcalls, after_concat]
      exact filling_call validate_fullFrame encodedLen_fullFrame hcount (ih (by omega))
  have hsum := (h _ _ _ (hfilling 4096 le_rfl).inbound).1
  rw [map_replicate, sum_replicate, encodedLen_fullFrame] at hsum
  exact absurd hsum (by decide)

end DevManager.OpaqueRelay
