import DevManager.Connect.RelaySockets

/-!
# What one call of the relay can do

* `relayStep_call`: the ways in which a call changes the relay.
* `consumed_call`: a nonce that was bound is consumed.
* `barred_call`: a revoked ticket or device never has a socket again, also when
  the revocation index was full.
-/

namespace DevManager.OpaqueRelay

/-! ## What a call did -/

/-- The ticket that a call bound. -/
def boundTicket : RelayCall × RelayReply → Option RouteTicket
  | (.bind ticket _ _, .observed (.ok _)) => some ticket.claims
  | _ => none

variable (routeId : RouteId) (audience : TicketAudience)

/-- The frame that a call forwarded to the socket. -/
def forwardedTo :
    RelayCall × RelayReply → Option SealedFrame
  | (.admitFrame r sender frame _, .observed (.ok observation)) =>
    if r = routeId ∧ sender.peer = audience ∧ observation.status = .forwarded then some frame
    else none
  | _ => none

/-- The frame that a call took from the socket. -/
def takenFrom :
    RelayCall × RelayReply → Option SealedFrame
  | (.take r a, .taken (.ok frame)) => if r = routeId ∧ a = audience then some frame else none
  | _ => none

/-- The call bound the socket. -/
def Binds (entry : RelayCall × RelayReply) : Prop :=
  ∃ claims, boundTicket entry = some claims ∧ claims.routeId = routeId ∧ claims.audience = audience

/-! ## What one call can do -/

variable {relay : OpaqueRelay}

theorem checkFrame_eq_ok {routeId sender frame} {now encodedLen : ℕ} {inbound}
    (h : relay.checkFrame routeId sender frame now = .ok (encodedLen, inbound)) :
    encodedLen = frame.encodedLen ∧ frame.encodedLen ≤ maxSealedFrameBytes ∧
      (∃ source, relay.socket routeId sender = some source) ∧
      relay.socket routeId sender.peer = some inbound := by
  simp only [checkFrame, ok_iff, not_lt] at h
  obtain ⟨hlen, _, sockets, hsocket, source, hsrc, _, peer, hpeer, _, _, _, rfl, rfl⟩ := h
  have hbound : maxSealedFrameBytes < u32Max := by decide
  have hexact : u32Or u32Max frame.encodedLen = frame.encodedLen := by
    unfold u32Or at hlen ⊢
    split_ifs at hlen ⊢ with hfits
    · rfl
    · omega
  rw [hexact] at hlen ⊢
  exact ⟨rfl, hlen, ⟨source, socketIn_eq_some.mpr ⟨sockets, hsocket, hsrc⟩⟩,
    socketIn_eq_some.mpr ⟨sockets, hsocket, hpeer⟩⟩

/-- The ways in which a call changes the relay. -/
inductive RelayStep (relay : OpaqueRelay) (entry : RelayCall × RelayReply) (next : OpaqueRelay) :
    Prop
  | dropped (hdrops : Drops relay next) (hbound : boundTicket entry = none)
      (hfwd : ∀ r a, forwardedTo r a entry = none)
      (htaken : ∀ r a, takenFrom r a entry = none)
  | bound (left : OpaqueRelay) (claims : RouteTicket) (now : ℕ) (hdrops : Drops relay left)
      (hticket : claims.ticketId ∉ left.revokedTickets)
      (hdevice : claims.devicePublicId ∉ left.revokedDevices)
      (hroom : left.revokedTicketOverflow = false ∧ left.revokedDeviceOverflow = false)
      (hnonce : claims.nonce ∉ left.consumedNonces) (hbound : boundTicket entry = some claims)
      (hfwd : ∀ r a, forwardedTo r a entry = none)
      (htaken : ∀ r a, takenFrom r a entry = none) (hnext : next = left.bound claims now)
  | forwarded (left : OpaqueRelay) (routeId : RouteId) (sender : TicketAudience)
      (frame : SealedFrame) (now : ℕ) (inbound : BoundChannel) (hdrops : Drops relay left)
      (hsocket : left.socket routeId sender.peer = some inbound)
      (hlen : frame.encodedLen ≤ maxSealedFrameBytes)
      (hframes : inbound.queued.length < left.maxQueueFrames)
      (hbytes : saturatingAdd32 inbound.queuedBytes frame.encodedLen ≤ left.maxQueueBytes)
      (hbound : boundTicket entry = none)
      (hfwd : ∀ r a, forwardedTo r a entry =
        if routeId = r ∧ sender.peer = a then some frame else none)
      (htaken : ∀ r a, takenFrom r a entry = none)
      (hnext : next = left.forward routeId sender inbound frame frame.encodedLen now)
  | taken (routeId : RouteId) (audience : TicketAudience) (channel : BoundChannel)
      (frame : SealedFrame) (queued : List SealedFrame)
      (hsocket : relay.socket routeId audience = some channel)
      (hqueue : channel.queued = frame :: queued) (hbound : boundTicket entry = none)
      (hfwd : ∀ r a, forwardedTo r a entry = none)
      (htaken : ∀ r a, takenFrom r a entry =
        if routeId = r ∧ audience = a then some frame else none)
      (hnext : next = relay.setSocket routeId audience
        ⟨channel.claims, queued, channel.queuedBytes - u32Or 0 frame.encodedLen⟩)

theorem relayStep_admitFrame (relay) (h : Wired relay) (routeId : RouteId)
    (sender) (frame) (now : ℕ) :
    RelayStep relay (.admitFrame routeId sender frame now,
        .observed (relay.admitFrame routeId sender frame now).1)
      (relay.admitFrame routeId sender frame now).2 := by
  have hexp := expireStale_drops relay now h
  unfold admitFrame
  dsimp only
  rcases hcheck : (relay.expireStale now).checkFrame routeId sender frame now with
    e | ⟨encodedLen, inbound⟩
  · exact .dropped hexp rfl (fun _ _ => rfl) fun _ _ => rfl
  obtain ⟨rfl, hlen, _, hsocket⟩ := checkFrame_eq_ok hcheck
  dsimp only
  split_ifs with hfull
  · refine .dropped hexp rfl (fun r a => ?_) fun _ _ => rfl
    simp [forwardedTo]
  · rw [not_or, not_le, not_lt] at hfull
    refine .forwarded (relay.expireStale now) routeId sender frame now inbound hexp hsocket hlen
      hfull.1 hfull.2 rfl (fun r a => ?_) (fun _ _ => rfl) rfl
    simp [forwardedTo]

theorem relayStep_take (relay) (routeId : RouteId) (audience) :
    RelayStep relay (.take routeId audience, .taken (relay.take routeId audience).1)
      (relay.take routeId audience).2 := by
  have hnothing : ∀ e, RelayStep relay (.take routeId audience, .taken (.error e)) relay :=
    fun e => .dropped (Drops.refl relay) rfl (fun _ _ => rfl) fun _ _ => rfl
  unfold take
  rcases hsocket : (relay.channels[routeId]?).bind (·[audience]?) with _ | channel
  · exact hnothing _
  dsimp only
  rcases hqueue : channel.queued with _ | ⟨frame, queued⟩
  · exact hnothing _
  · exact .taken routeId audience channel frame queued hsocket hqueue rfl (fun _ _ => rfl)
      (fun _ _ => rfl) rfl

/-! ## Revocation -/

/-- Tickets with `hit` are refused, and none of them has a socket. -/
structure Barred (hit : RouteTicket → Prop) (relay : OpaqueRelay) : Prop where
  wired : Wired relay
  refused : relay.revokedTicketOverflow = true ∨ relay.revokedDeviceOverflow = true ∨
    ∀ claims, hit claims → claims.ticketId ∈ relay.revokedTickets ∨
      claims.devicePublicId ∈ relay.revokedDevices
  clear : ∀ routeId audience channel, relay.socket routeId audience = some channel →
    ¬ hit channel.claims

variable {hit : RouteTicket → Prop}

theorem Barred.drops {next}
    (h : Barred hit relay) (hdrops : Drops relay next) : Barred hit next where
  wired := hdrops.wired h.wired
  refused := by
    rcases h.refused with hticket | hdevice | hrev
    · exact .inl (hdrops.ticketOverflow hticket)
    · exact .inr (.inl (hdrops.deviceOverflow hdevice))
    · refine .inr (.inr fun claims hclaim => ?_)
      exact (hrev claims hclaim).imp (hdrops.tickets _) (hdrops.devices _)
  clear := fun r a channel hsocket => h.clear r a channel (hdrops.sockets r a channel hsocket)

variable {claims : RouteTicket}

theorem Barred.not_hit (h : Barred hit relay) (hticket : claims.ticketId ∉ relay.revokedTickets)
    (hdevice : claims.devicePublicId ∉ relay.revokedDevices)
    (hroom : relay.revokedTicketOverflow = false ∧ relay.revokedDeviceOverflow = false) :
    ¬ hit claims := by
  intro hclaim
  rcases h.refused with hfull | hfull | hrev
  · rw [hroom.1] at hfull
    cases hfull
  · rw [hroom.2] at hfull
    cases hfull
  · exact (hrev claims hclaim).elim hticket hdevice

theorem barred_revokeTicket (relay) (h : Wired relay) (ticketId : TicketId) :
    Barred (fun claims => claims.ticketId = ticketId) (relay.revokeTicket ticketId) where
  wired := (revokeTicket_drops relay ticketId).wired h
  refused := by
    rcases (rememberRevokedTicket_drops relay ticketId).2 with hfull | hmem
    · exact .inl hfull
    · refine .inr (.inr ?_)
      rintro claims rfl
      exact .inl hmem
  clear := by
    intro r a channel hsocket
    have hkept := (socket_retainSockets _ _ r a).symm.trans hsocket
    simpa using (Option.filter_eq_some_iff.mp hkept).2

theorem barred_revokeDevice (relay) (h : Wired relay) (device) :
    Barred (fun claims => claims.devicePublicId = device) (relay.revokeDevice device) where
  wired := (revokeDevice_drops relay device).wired h
  refused := by
    rcases (rememberRevokedDevice_drops relay device).2 with hfull | hmem
    · exact .inr (.inl hfull)
    · refine .inr (.inr ?_)
      rintro claims rfl
      exact .inr hmem
  clear := by
    intro r a channel hsocket
    have hkept := (socket_retainSockets _ _ r a).symm.trans hsocket
    simpa using (Option.filter_eq_some_iff.mp hkept).2

/-! ## Calls -/

variable [RelayExternals]

variable {ticket : SignedRouteTicket}

theorem verify_eq_ok {key}
    (h : ticket.verify key = .ok claims) : claims = ticket.claims := by
  unfold SignedRouteTicket.verify at h
  split_ifs at h
  cases h
  rfl

theorem checkBind_eq_ok {now : ℕ} (h : relay.checkBind ticket now = .ok claims) :
    claims = ticket.claims ∧ claims.ticketId ∉ relay.revokedTickets ∧
      claims.devicePublicId ∉ relay.revokedDevices ∧ relay.revokedTicketOverflow = false ∧
      relay.revokedDeviceOverflow = false ∧ claims.nonce ∉ relay.consumedNonces := by
  simp only [checkBind, ok_iff, not_or, Bool.not_eq_true] at h
  obtain ⟨key, _, other, hver, _, hticket, hdevice, ⟨hticketRoom, hdeviceRoom⟩, _, _, _, hnonce,
    rfl⟩ := h
  exact ⟨verify_eq_ok hver, hticket, hdevice, hticketRoom, hdeviceRoom, hnonce⟩

variable (relay : OpaqueRelay)

theorem relayStep_bind (h : Wired relay) (ticket) (now : ℕ) (source : RateKey) :
    RelayStep relay (.bind ticket now source, .observed (relay.bind ticket now source).1)
      (relay.bind ticket now source).2 := by
  have hrate : Drops relay ((relay.expireStale now).admitRate source now).2 :=
    (expireStale_drops relay now h).trans (admitRate_drops _ source now)
  unfold OpaqueRelay.bind
  rcases hres : (relay.expireStale now).admitRate source now with ⟨result, left⟩
  rw [hres] at hrate
  rcases result with e | u
  · exact .dropped hrate rfl (fun _ _ => rfl) fun _ _ => rfl
  dsimp only
  rcases hcheck : left.checkBind ticket now with e | claims
  · exact .dropped hrate rfl (fun _ _ => rfl) fun _ _ => rfl
  · obtain ⟨hclaim, hticket, hdevice, hticketRoom, hdeviceRoom, hnonce⟩ := checkBind_eq_ok hcheck
    exact .bound left claims now hrate hticket hdevice ⟨hticketRoom, hdeviceRoom⟩ hnonce
      (congrArg some hclaim.symm) (fun _ _ => rfl) (fun _ _ => rfl) rfl

theorem relayStep_call (h : Wired relay) (c) :
    RelayStep relay (c, (relay.call c).1) (relay.call c).2 := by
  cases c with
  | setHostOnline host online =>
    exact .dropped (setHostOnline_drops relay host online) rfl (fun _ _ => rfl) fun _ _ => rfl
  | revokeTicket ticketId =>
    exact .dropped (revokeTicket_drops relay ticketId) rfl (fun _ _ => rfl) fun _ _ => rfl
  | revokeDevice device =>
    exact .dropped (revokeDevice_drops relay device) rfl (fun _ _ => rfl) fun _ _ => rfl
  | bind => exact relayStep_bind relay h _ _ _
  | admitFrame => exact relayStep_admitFrame relay h _ _ _ _
  | take => exact relayStep_take relay _ _
  | disconnect routeId audience =>
    exact .dropped (disconnect_drops relay routeId audience) rfl (fun _ _ => rfl) fun _ _ => rfl

theorem wired_call (c) (h : Wired relay) :
    Wired (relay.call c).2 := by
  cases relayStep_call relay h c with
  | dropped hdrops _ _ _ => exact hdrops.wired h
  | bound left claims now hdrops _ _ _ _ _ _ _ hnext =>
    rw [hnext]
    exact wired_bound (hdrops.wired h) claims now
  | forwarded left routeId sender frame now inbound hdrops hsocket _ _ _ _ _ _ hnext =>
    rw [hnext]
    exact wired_forward (hdrops.wired h) frame frame.encodedLen now hsocket
  | taken routeId audience channel frame queued hsocket _ _ _ _ hnext =>
    rw [hnext]
    exact wired_setSocket h _ hsocket

/-! ### Consumed nonces -/

/-- The nonces that were bound are consumed, and no nonce was bound twice. -/
structure Consumed (relay : OpaqueRelay) (history : List (RelayCall × RelayReply)) : Prop where
  wired : Wired relay
  consumed : ∀ claims ∈ history.filterMap boundTicket, claims.nonce ∈ relay.consumedNonces
  once : ((history.filterMap boundTicket).map RouteTicket.nonce).Nodup

theorem consumed_call (history) (c) (h : Consumed relay history) :
    Consumed (relay.call c).2 (history ++ [(c, (relay.call c).1)]) := by
  have hwired := wired_call relay c h.wired
  -- a call that binds nothing keeps the bound tickets
  have hkept : boundTicket (c, (relay.call c).1) = none →
      (relay.call c).2.consumedNonces = relay.consumedNonces →
      Consumed (relay.call c).2 (history ++ [(c, (relay.call c).1)]) := by
    intro hbound hnonces
    have hsame : (history ++ [(c, (relay.call c).1)]).filterMap boundTicket =
        history.filterMap boundTicket := by
      simp [hbound]
    refine ⟨hwired, ?_, ?_⟩
    · rw [hsame, hnonces]
      exact h.consumed
    · rw [hsame]
      exact h.once
  cases relayStep_call relay h.wired c with
  | dropped hdrops hbound _ _ => exact hkept hbound hdrops.nonces
  | bound left claims now hdrops _ _ _ hnonce hbound _ _ hnext =>
    have hmore : (history ++ [(c, (relay.call c).1)]).filterMap boundTicket =
        history.filterMap boundTicket ++ [claims] := by
      simp [hbound]
    have hnonces : (relay.call c).2.consumedNonces = relay.consumedNonces.insert claims.nonce := by
      rw [hnext, ← hdrops.nonces]
      rfl
    rw [hdrops.nonces] at hnonce
    have hnew : claims.nonce ∉ (history.filterMap boundTicket).map RouteTicket.nonce := by
      intro hmem
      obtain ⟨other, hother, heq⟩ := List.mem_map.mp hmem
      exact hnonce (heq ▸ h.consumed other hother)
    refine ⟨hwired, ?_, ?_⟩
    · rw [hmore, hnonces]
      intro other hother
      rw [OrdMap.mem_insertSet_iff]
      rcases List.mem_append.mp hother with hold | hlast
      · exact .inr (h.consumed other hold)
      · rw [List.mem_singleton.mp hlast]
        exact .inl rfl
    · rw [hmore, List.map_append]
      exact List.nodup_append_comm.mp (List.nodup_cons.mpr ⟨hnew, h.once⟩)
  | forwarded left routeId sender frame now inbound hdrops _ _ _ _ hbound _ _ hnext =>
    refine hkept hbound ?_
    rw [hnext, ← hdrops.nonces]
    rfl
  | taken routeId audience channel frame queued _ _ hbound _ _ hnext =>
    refine hkept hbound ?_
    rw [hnext]
    rfl

/-! ### Revoked tickets and devices -/

theorem barred_call (c)
    (h : Barred hit relay) : Barred hit (relay.call c).2 := by
  have hwired := wired_call relay c h.wired
  cases relayStep_call relay h.wired c with
  | dropped hdrops _ _ _ => exact h.drops hdrops
  | bound left claims now hdrops hticket hdevice hroom _ _ _ _ hnext =>
    have hleft := h.drops hdrops
    rw [hnext] at hwired ⊢
    exact ⟨hwired, hleft.refused, forall_socket (socket_bound left claims now)
      (hleft.not_hit hticket hdevice hroom) hleft.clear⟩
  | forwarded left routeId sender frame now inbound hdrops hinbound _ _ _ _ _ _ hnext =>
    have hleft := h.drops hdrops
    rw [hnext] at hwired ⊢
    exact ⟨hwired, hleft.refused, forall_socket (socket_forward left _ _ _ _ _ _)
      (hleft.clear routeId sender.peer inbound hinbound) hleft.clear⟩
  | taken routeId audience old frame queued hold _ _ _ _ hnext =>
    rw [hnext] at hwired ⊢
    exact ⟨hwired, h.refused, forall_socket
      (fun r a => socket_setSocket relay routeId r audience a _)
      (h.clear routeId audience old hold) h.clear⟩

/-- No ticket with `hit` is bound, and no frame is admitted from or to a socket of such a ticket. -/
def Refuses (hit : RouteTicket → Prop) (relay : OpaqueRelay) : Prop :=
  (∀ ticket now source observation,
    (relay.bind ticket now source).1 = .ok observation → ¬ hit ticket.claims) ∧
  ∀ routeId sender frame now observation,
    (relay.admitFrame routeId sender frame now).1 = .ok observation →
      (∃ channel, relay.socket routeId sender = some channel ∧ ¬ hit channel.claims) ∧
      ∃ channel, relay.socket routeId sender.peer = some channel ∧ ¬ hit channel.claims

theorem Barred.refuses (h : Barred hit relay) : Refuses hit relay := by
  refine ⟨fun ticket now source observation hbind => ?_,
    fun routeId sender frame now observation hadmits => ?_⟩
  · have hrate : Drops relay ((relay.expireStale now).admitRate source now).2 :=
      (expireStale_drops relay now h.wired).trans (admitRate_drops _ source now)
    unfold OpaqueRelay.bind at hbind
    rcases hres : (relay.expireStale now).admitRate source now with ⟨result, left⟩
    rw [hres] at hbind hrate
    rcases result with e | u
    · cases hbind
    dsimp only at hbind
    rcases hcheck : left.checkBind ticket now with e | claims
    · rw [hcheck] at hbind
      cases hbind
    · obtain ⟨rfl, hticket, hdevice, hticketRoom, hdeviceRoom, _⟩ := checkBind_eq_ok hcheck
      exact (h.drops hrate).not_hit hticket hdevice ⟨hticketRoom, hdeviceRoom⟩
  · have hexp := expireStale_drops relay now h.wired
    unfold admitFrame at hadmits
    dsimp only at hadmits
    rcases hcheck : (relay.expireStale now).checkFrame routeId sender frame now with
      e | ⟨encodedLen, inbound⟩
    · rw [hcheck] at hadmits
      cases hadmits
    · obtain ⟨_, _, ⟨source, hsrc⟩, hinbound⟩ := checkFrame_eq_ok hcheck
      have hfrom := hexp.sockets routeId sender source hsrc
      have htold := hexp.sockets routeId sender.peer inbound hinbound
      exact ⟨⟨source, hfrom, h.clear _ _ _ hfrom⟩, inbound, htold, h.clear _ _ _ htold⟩

end DevManager.OpaqueRelay
