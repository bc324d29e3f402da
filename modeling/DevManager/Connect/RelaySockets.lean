import DevManager.Connect.Relay

/-!
# The sockets of the relay

A socket is looked up by route and audience. This module says what each
operation of the relay does to the sockets: which ones are left, and that a
route has presence exactly while it has a socket.

* `socket_retainSockets`, `socket_expireStale`: the sockets that are left.
* `socket_setSocket`: a socket that is written.
-/

namespace DevManager.OpaqueRelay

open Std (ExtTreeMap)
open OrdMap Std.ExtTreeMap Option

/-! ## Looking up a socket -/

/-- The socket of a route in the map of channels. -/
def socketIn (channels : ExtTreeMap RouteId Sockets) (routeId : RouteId)
    (audience : TicketAudience) : Option BoundChannel :=
  (channels[routeId]?).bind (·[audience]?)

/-- The socket that is bound to a route. -/
def socket (relay : OpaqueRelay) (routeId : RouteId) (audience : TicketAudience) :
    Option BoundChannel :=
  socketIn relay.channels routeId audience

variable {routeId : RouteId} {audience : TicketAudience}

theorem socketIn_eq_some {channels : ExtTreeMap RouteId Sockets} {channel} :
    socketIn channels routeId audience = some channel ↔
      ∃ sockets, channels[routeId]? = some sockets ∧ sockets[audience]? = some channel :=
  bind_eq_some_iff

variable (channels : ExtTreeMap RouteId Sockets)

theorem socketIn_insert (routeId r : RouteId) (sockets : Sockets) (a : TicketAudience) :
    socketIn (channels.insert routeId sockets) r a =
      if routeId = r then sockets[a]? else socketIn channels r a := by
  unfold socketIn
  rw [getElem?_insert_eq]
  split_ifs <;> rfl

theorem socketIn_foldl_erase (routes : List RouteId)
    (r : RouteId) (a) :
    socketIn (routes.foldl (fun channels routeId => channels.erase routeId) channels) r a =
      if r ∈ routes then none else socketIn channels r a := by
  unfold socketIn
  rw [getElem?_foldl_erase]
  split_ifs <;> rfl

theorem sockets_isEmpty_iff {sockets : Sockets} :
    sockets.isEmpty = true ↔ ∀ a : TicketAudience, sockets[a]? = none := by
  rw [ExtTreeMap.isEmpty_iff]
  constructor
  · rintro rfl a
    simp
  · intro h
    refine ext_getElem? fun a => ?_
    rw [h a]
    simp

theorem exists_socket {sockets : Sockets} (h : ¬ sockets.isEmpty = true) :
    ∃ (audience : TicketAudience) (channel : BoundChannel), sockets[audience]? = some channel := by
  by_contra hall
  push Not at hall
  refine h (sockets_isEmpty_iff.mpr fun a => ?_)
  rcases hget : sockets[a]? with _ | channel
  · rfl
  · exact absurd hget (hall a channel)

/-- No route is without a socket, and the routes with presence are those of the map. -/
structure Wired (relay : OpaqueRelay) : Prop where
  bound : ∀ (routeId : RouteId) sockets, relay.channels[routeId]? = some sockets →
    ∃ (audience : TicketAudience) (channel : BoundChannel), sockets[audience]? = some channel
  present : ∀ routeId, routeId ∈ relay.presence ↔ routeId ∈ relay.channels

variable {relay : OpaqueRelay}

theorem Wired.presence_iff (h : Wired relay) (routeId : RouteId) :
    routeId ∈ relay.presence ↔ ∃ audience channel, relay.socket routeId audience =
      some channel := by
  rw [h.present, mem_iff_exists]
  constructor
  · rintro ⟨sockets, hsocket⟩
    obtain ⟨audience, channel, hchan⟩ := h.bound routeId sockets hsocket
    exact ⟨audience, channel, socketIn_eq_some.mpr ⟨sockets, hsocket, hchan⟩⟩
  · rintro ⟨audience, channel, hchan⟩
    obtain ⟨sockets, hsocket, _⟩ := socketIn_eq_some.mp hchan
    exact ⟨sockets, hsocket⟩

/-! ## Dropping sockets -/

/-- `next` has some of the sockets of `relay` and remembers everything that it has. -/
structure Drops (relay next : OpaqueRelay) : Prop where
  sockets : ∀ (routeId : RouteId) audience (channel : BoundChannel),
    next.socket routeId audience = some channel → relay.socket routeId audience = some channel
  nonces : next.consumedNonces = relay.consumedNonces
  tickets : ∀ ticketId ∈ relay.revokedTickets, ticketId ∈ next.revokedTickets
  devices : ∀ device ∈ relay.revokedDevices, device ∈ next.revokedDevices
  ticketOverflow : relay.revokedTicketOverflow = true → next.revokedTicketOverflow = true
  deviceOverflow : relay.revokedDeviceOverflow = true → next.revokedDeviceOverflow = true
  bounds : next.maxQueueFrames = relay.maxQueueFrames ∧ next.maxQueueBytes = relay.maxQueueBytes
  wired : Wired relay → Wired next

theorem Drops.refl (relay : OpaqueRelay) : Drops relay relay :=
  ⟨fun _ _ _ h => h, rfl, fun _ h => h, fun _ h => h, id, id, ⟨rfl, rfl⟩, id⟩

theorem Drops.trans {a b c : OpaqueRelay} (hab : Drops a b) (hbc : Drops b c) : Drops a c :=
  ⟨fun r s ch h => hab.sockets r s ch (hbc.sockets r s ch h), hbc.nonces.trans hab.nonces,
    fun t h => hbc.tickets t (hab.tickets t h), fun d h => hbc.devices d (hab.devices d h),
    fun h => hbc.ticketOverflow (hab.ticketOverflow h),
    fun h => hbc.deviceOverflow (hab.deviceOverflow h),
    ⟨hbc.bounds.1.trans hab.bounds.1, hbc.bounds.2.trans hab.bounds.2⟩,
    fun h => hbc.wired (hab.wired h)⟩

theorem Drops.of_frame {next : OpaqueRelay} (hchans : next.channels = relay.channels)
    (hpre : next.presence = relay.presence) (hnonces : next.consumedNonces = relay.consumedNonces)
    (htickets : ∀ ticketId ∈ relay.revokedTickets, ticketId ∈ next.revokedTickets)
    (hdevices : ∀ device ∈ relay.revokedDevices, device ∈ next.revokedDevices)
    (hticketOverflow : relay.revokedTicketOverflow = true → next.revokedTicketOverflow = true)
    (hdeviceOverflow : relay.revokedDeviceOverflow = true → next.revokedDeviceOverflow = true)
    (hbounds : next.maxQueueFrames = relay.maxQueueFrames ∧
      next.maxQueueBytes = relay.maxQueueBytes) : Drops relay next where
  sockets := by
    intro r a channel h
    unfold socket at h ⊢
    rwa [hchans] at h
  nonces := hnonces
  tickets := htickets
  devices := hdevices
  ticketOverflow := hticketOverflow
  deviceOverflow := hdeviceOverflow
  bounds := hbounds
  wired := by
    intro h
    refine ⟨?_, ?_⟩
    · rw [hchans]
      exact h.bound
    · rw [hchans, hpre]
      exact h.present

theorem mem_foldl_erase {V : Type} {m : ExtTreeMap RouteId V} {routes : List RouteId} :
    routeId ∈ routes.foldl (fun m routeId => m.erase routeId) m ↔ routeId ∉ routes ∧
      routeId ∈ m := by
  rw [mem_iff_exists, mem_iff_exists, getElem?_foldl_erase]
  by_cases h : routeId ∈ routes <;> simp [h]

theorem socket_removeRoutes (relay : OpaqueRelay) (routes) (r : RouteId) (a) :
    (relay.removeRoutes routes).socket r a = if r ∈ routes then none else relay.socket r a :=
  socketIn_foldl_erase relay.channels routes r a

theorem removeRoutes_drops (relay : OpaqueRelay) (routes) :
    Drops relay (relay.removeRoutes routes) where
  sockets := by
    intro r a channel h
    rw [socket_removeRoutes] at h
    split_ifs at h
    exact h
  nonces := rfl
  tickets := fun _ h => h
  devices := fun _ h => h
  ticketOverflow := id
  deviceOverflow := id
  bounds := ⟨rfl, rfl⟩
  wired := by
    intro h
    refine ⟨fun r sockets hsocket => ?_, fun r => ?_⟩
    · have hsocket' : (routes.foldl (fun m routeId => m.erase routeId) relay.channels)[r]? =
          some sockets := hsocket
      rw [getElem?_foldl_erase] at hsocket'
      split_ifs at hsocket'
      exact h.bound r sockets hsocket'
    · show r ∈ routes.foldl _ relay.presence ↔ r ∈ routes.foldl _ relay.channels
      rw [mem_foldl_erase, mem_foldl_erase, h.present]

/-! ## Retaining sockets -/

variable (relay)

theorem getElem?_retainSockets (keep : BoundChannel → Bool) (r : RouteId) :
    (relay.retainSockets keep).channels[r]? = (relay.channels[r]?).bind fun sockets =>
      let kept := sockets.filter fun _ channel => keep channel
      if kept.isEmpty then none else some kept :=
  getElem?_filterMap'

theorem socket_retainSockets (keep : BoundChannel → Bool) (r : RouteId) (a : TicketAudience) :
    (relay.retainSockets keep).socket r a = (relay.socket r a).filter keep := by
  unfold socket socketIn
  rw [getElem?_retainSockets]
  rcases relay.channels[r]? with _ | sockets
  · rfl
  · simp only [bind_some]
    split_ifs with hnil
    · have hnone := sockets_isEmpty_iff.mp hnil a
      rw [getElem?_filter'] at hnone
      rw [hnone]
      rfl
    · rw [bind_some, getElem?_filter']

theorem retainSockets_drops (keep : BoundChannel → Bool) :
    Drops relay (relay.retainSockets keep) where
  sockets := by
    intro r a channel h
    rw [socket_retainSockets, filter_eq_some_iff] at h
    exact h.1
  nonces := rfl
  tickets := fun _ h => h
  devices := fun _ h => h
  ticketOverflow := id
  deviceOverflow := id
  bounds := ⟨rfl, rfl⟩
  wired := by
    intro h
    refine ⟨fun r sockets hsocket => ?_, fun r => ?_⟩
    · rw [getElem?_retainSockets, bind_eq_some_iff] at hsocket
      obtain ⟨old, _, hkept⟩ := hsocket
      simp only [] at hkept
      split_ifs at hkept with hnil
      cases hkept
      exact exists_socket hnil
    · show r ∈ List.foldl _ relay.presence _ ↔ _
      rw [mem_foldl_erase, mem_map_fst_filter, h.present, mem_iff_exists,
        mem_iff_exists, getElem?_retainSockets]
      rcases relay.channels[r]? with _ | sockets <;> simp

variable {relay}

/-! ## Expiry -/

variable (state : ExtTreeMap RouteId Sockets × List RouteId)

/-- The emptied routes of the loop are those whose sockets are all gone. -/
def TracksEmptied : Prop :=
  ∀ routeId, routeId ∈ state.2 ↔
    ∃ sockets, state.1[routeId]? = some sockets ∧ sockets.isEmpty = true

theorem removeStale_tracks {state : ExtTreeMap RouteId Sockets × List RouteId}
    (h : TracksEmptied state) (entry : RouteId × TicketAudience) :
    TracksEmptied (removeStale state entry) := by
  obtain ⟨routeId, audience⟩ := entry
  unfold removeStale
  rcases hget : state.1[routeId]? with _ | sockets
  · exact h
  · intro r
    have hold := h r
    simp only [getElem?_insert_eq]
    by_cases hr : routeId = r
    · subst hr
      by_cases hnil : (sockets.erase audience).isEmpty = true
      · rw [if_pos hnil, if_pos rfl]
        exact ⟨fun _ => ⟨_, rfl, hnil⟩, fun _ => List.mem_append_right _ (.head _)⟩
      · have hmem : routeId ∉ state.2 := by
          intro hmem
          obtain ⟨other, hother, hnone⟩ := hold.mp hmem
          rw [hget] at hother
          cases hother
          refine hnil (sockets_isEmpty_iff.mpr fun a => ?_)
          rw [getElem?_erase_eq, sockets_isEmpty_iff.mp hnone a]
          split_ifs <;> rfl
        rw [if_neg hnil, if_pos rfl]
        refine ⟨fun h => absurd h hmem, ?_⟩
        rintro ⟨_, ⟨⟩, hleft⟩
        exact absurd hleft hnil
    · have hne : r ≠ routeId := Ne.symm hr
      rw [if_neg hr]
      split_ifs <;> simp [hne, hold]

variable (entry : RouteId × TicketAudience)

theorem socketIn_removeStale (r : RouteId) (a : TicketAudience) :
    socketIn (removeStale state entry).1 r a =
      if (r, a) = entry then none else socketIn state.1 r a := by
  obtain ⟨routeId, audience⟩ := entry
  unfold removeStale
  rcases hget : state.1[routeId]? with _ | sockets
  · split_ifs with heq
    · cases heq
      simp [socketIn, hget]
    · rfl
  · show socketIn (state.1.insert routeId (sockets.erase audience)) r a = _
    rw [socketIn_insert, getElem?_erase_eq]
    by_cases hr : routeId = r
    · subst hr
      by_cases ha : audience = a
      · simp [ha]
      · simp [ha, Ne.symm ha, socketIn, hget]
    · simp [hr, Ne.symm hr]

theorem mem_removeStale (r : RouteId) :
    r ∈ (removeStale state entry).1 ↔ r ∈ state.1 := by
  unfold removeStale
  rcases hget : state.1[entry.1]? with _ | sockets
  · rfl
  · show r ∈ state.1.insert entry.1 (sockets.erase entry.2) ↔ _
    rw [mem_insert_iff]
    constructor
    · rintro (rfl | hmem)
      · exact mem_iff_exists.mpr ⟨sockets, hget⟩
      · exact hmem
    · exact .inr

theorem foldl_removeStale (entries : List (RouteId × TicketAudience)) :
    ∀ state, TracksEmptied state →
      TracksEmptied (entries.foldl removeStale state) ∧
      (∀ r a, socketIn (entries.foldl removeStale state).1 r a =
        if (r, a) ∈ entries then none else socketIn state.1 r a) ∧
      ∀ r, r ∈ (entries.foldl removeStale state).1 ↔ r ∈ state.1 := by
  induction entries with
  | nil => intro state h; exact ⟨h, fun r a => by simp, fun r => .rfl⟩
  | cons entry entries ih =>
    intro state h
    obtain ⟨htracks, hsocket, hmem⟩ := ih _ (removeStale_tracks h entry)
    refine ⟨htracks, fun r a => ?_, fun r => (hmem r).trans (mem_removeStale state entry r)⟩
    rw [List.foldl_cons, hsocket, socketIn_removeStale]
    by_cases heq : (r, a) = entry <;> simp [heq]

theorem mem_staleSockets {now : ℕ} :
    (routeId, audience) ∈ relay.staleSockets now ↔
      ∃ channel, relay.socket routeId audience = some channel ∧ relay.stale now channel := by
  unfold staleSockets
  rw [List.mem_flatMap]
  constructor
  · rintro ⟨⟨r, sockets⟩, hmem, hentry⟩
    obtain ⟨⟨a, channel⟩, hchan, heq⟩ := List.mem_map.mp hentry
    cases heq
    obtain ⟨hlist, hstale⟩ := List.mem_filter.mp hchan
    exact ⟨channel, socketIn_eq_some.mpr ⟨sockets,
      mem_toList_iff_getElem?_eq_some.mp hmem,
      mem_toList_iff_getElem?_eq_some.mp hlist⟩, of_decide_eq_true hstale⟩
  · rintro ⟨channel, hsocket, hstale⟩
    obtain ⟨sockets, hsockets, hchan⟩ := socketIn_eq_some.mp hsocket
    exact ⟨(routeId, sockets), mem_toList_iff_getElem?_eq_some.mpr hsockets,
      List.mem_map.mpr ⟨(audience, channel), List.mem_filter.mpr
        ⟨mem_toList_iff_getElem?_eq_some.mpr hchan, decide_eq_true hstale⟩, rfl⟩⟩

theorem mem_expiredPresence {now : ℕ} :
    routeId ∈ relay.expiredPresence now ↔
      ∃ record, relay.presence[routeId]? = some record ∧ record.expiresAtUnix ≤ now := by
  simp only [expiredPresence, mem_map_fst_filter, decide_eq_true_eq]

/-- The channels and the emptied routes after the loop of `expire_stale`. -/
def withoutStale (relay : OpaqueRelay) (now : ℕ) : ExtTreeMap RouteId Sockets × List RouteId :=
  (relay.staleSockets now).foldl removeStale (relay.channels, [])

theorem tracks_withoutStale (h : Wired relay) (now : ℕ) :
    TracksEmptied (relay.withoutStale now) ∧
      (∀ r a, socketIn (relay.withoutStale now).1 r a =
        (relay.socket r a).filter fun channel => ¬ relay.stale now channel) ∧
      ∀ r, r ∈ (relay.withoutStale now).1 ↔ r ∈ relay.channels := by
  have htracks : TracksEmptied (relay.channels, []) := by
    intro routeId
    refine ⟨nofun, ?_⟩
    rintro ⟨sockets, hsocket, hnil⟩
    obtain ⟨audience, channel, hchan⟩ := h.bound routeId sockets hsocket
    rw [sockets_isEmpty_iff.mp hnil audience] at hchan
    cases hchan
  obtain ⟨hout, hsocket, hmem⟩ := foldl_removeStale (relay.staleSockets now) _ htracks
  refine ⟨hout, fun r a => (hsocket r a).trans ?_, hmem⟩
  show (if (r, a) ∈ relay.staleSockets now then none else relay.socket r a) = _
  rcases hget : relay.socket r a with _ | channel
  · simp
  · by_cases hstale : relay.stale now channel
    · rw [if_pos (mem_staleSockets.mpr ⟨channel, hget, hstale⟩)]
      simp [hstale, Option.filter]
    · have hnot : (r, a) ∉ relay.staleSockets now := fun hmem => by
        obtain ⟨other, hother, hstale'⟩ := mem_staleSockets.mp hmem
        rw [hget] at hother
        cases hother
        exact hstale hstale'
      rw [if_neg hnot]
      simp [hstale, Option.filter]

theorem socket_expireStale (h : Wired relay) (now : ℕ) (r : RouteId) (a : TicketAudience) :
    (relay.expireStale now).socket r a =
      if r ∈ relay.expiredPresence now then none
      else (relay.socket r a).filter fun channel => ¬ relay.stale now channel := by
  let present := relay.removeRoutes (relay.expiredPresence now)
  obtain ⟨htracks, hsocket, _⟩ :=
    tracks_withoutStale ((removeRoutes_drops relay (relay.expiredPresence now)).wired h) now
  have hleft : (relay.expireStale now).socket r a =
      if r ∈ (present.withoutStale now).2 then none
      else socketIn (present.withoutStale now).1 r a :=
    socketIn_foldl_erase (present.withoutStale now).1 (present.withoutStale now).2 r a
  have hchans : (relay.expireStale now).socket r a = socketIn (present.withoutStale now).1 r a := by
    rw [hleft]
    split_ifs with hmem
    · obtain ⟨sockets, hget, hnil⟩ := (htracks r).mp hmem
      unfold socketIn
      rw [hget, bind_some, sockets_isEmpty_iff.mp hnil a]
    · rfl
  have hpre : present.socket r a =
      if r ∈ relay.expiredPresence now then none else relay.socket r a :=
    socket_removeRoutes relay (relay.expiredPresence now) r a
  rw [hchans, hsocket]
  show (present.socket r a).filter (fun channel => ¬ relay.stale now channel) = _
  rw [hpre]
  split_ifs <;> rfl

variable (relay)

theorem expireStale_drops (now : ℕ) (h : Wired relay) :
    Drops relay (relay.expireStale now) where
  sockets := by
    intro r a channel hget
    rw [socket_expireStale h] at hget
    split_ifs at hget
    exact (filter_eq_some_iff.mp hget).1
  nonces := rfl
  tickets := fun _ h => h
  devices := fun _ h => h
  ticketOverflow := id
  deviceOverflow := id
  bounds := ⟨rfl, rfl⟩
  wired := by
    intro _
    let present := relay.removeRoutes (relay.expiredPresence now)
    have hwired : Wired present := (removeRoutes_drops relay (relay.expiredPresence now)).wired h
    obtain ⟨htracks, _, hmem⟩ := tracks_withoutStale hwired now
    refine ⟨fun r sockets hsocket => ?_, fun r => ?_⟩
    · have hget : ((present.withoutStale now).2.foldl (fun m routeId => m.erase routeId)
          (present.withoutStale now).1)[r]? = some sockets := hsocket
      rw [getElem?_foldl_erase] at hget
      split_ifs at hget with hnil
      exact exists_socket fun hnone => hnil ((htracks r).mpr ⟨sockets, hget, hnone⟩)
    · show r ∈ (present.withoutStale now).2.foldl _ present.presence ↔
        r ∈ (present.withoutStale now).2.foldl _ (present.withoutStale now).1
      rw [mem_foldl_erase, mem_foldl_erase, hmem, hwired.present]

/-! ## The other operations that drop sockets -/

theorem setHostOnline_drops (host) (online : Bool) :
    Drops relay (relay.setHostOnline host online) := by
  unfold setHostOnline
  split_ifs
  · exact .of_frame rfl rfl rfl (fun _ h => h) (fun _ h => h) id id ⟨rfl, rfl⟩
  · refine Drops.trans ?_ (retainSockets_drops _ _)
    exact .of_frame rfl rfl rfl (fun _ h => h) (fun _ h => h) id id ⟨rfl, rfl⟩

theorem rememberRevokedTicket_drops (ticketId : TicketId) :
    Drops relay (relay.rememberRevokedTicket ticketId) ∧
      ((relay.rememberRevokedTicket ticketId).revokedTicketOverflow = true ∨
        ticketId ∈ (relay.rememberRevokedTicket ticketId).revokedTickets) := by
  unfold rememberRevokedTicket
  split_ifs
  · exact ⟨.of_frame rfl rfl rfl (fun _ h => h) (fun _ h => h) (fun _ => rfl) id ⟨rfl, rfl⟩,
      Or.inl rfl⟩
  · exact ⟨.of_frame rfl rfl rfl (fun _ h => mem_insertSet_iff.mpr (.inr h))
      (fun _ h => h) id id ⟨rfl, rfl⟩, .inr (mem_insertSet_iff.mpr (.inl rfl))⟩

theorem rememberRevokedDevice_drops (device) :
    Drops relay (relay.rememberRevokedDevice device) ∧
      ((relay.rememberRevokedDevice device).revokedDeviceOverflow = true ∨
        device ∈ (relay.rememberRevokedDevice device).revokedDevices) := by
  unfold rememberRevokedDevice
  split_ifs
  · exact ⟨.of_frame rfl rfl rfl (fun _ h => h) (fun _ h => h) id (fun _ => rfl) ⟨rfl, rfl⟩,
      Or.inl rfl⟩
  · exact ⟨.of_frame rfl rfl rfl (fun _ h => h)
      (fun _ h => mem_insertSet_iff.mpr (.inr h)) id id ⟨rfl, rfl⟩,
      Or.inr (mem_insertSet_iff.mpr (.inl rfl))⟩

theorem revokeTicket_drops (ticketId : TicketId) :
    Drops relay (relay.revokeTicket ticketId) :=
  (rememberRevokedTicket_drops relay ticketId).1.trans (retainSockets_drops _ _)

theorem revokeDevice_drops (device) :
    Drops relay (relay.revokeDevice device) :=
  (rememberRevokedDevice_drops relay device).1.trans (retainSockets_drops _ _)

theorem admitRate_drops (source : RateKey) (now : ℕ) :
    Drops relay (relay.admitRate source now).2 := by
  have hframe : ∃ attempts, (relay.admitRate source now).2 =
      { relay with bindAttempts := attempts } := by
    unfold admitRate
    dsimp only
    split_ifs <;> exact ⟨_, rfl⟩
  obtain ⟨attempts, hnext⟩ := hframe
  rw [hnext]
  exact .of_frame rfl rfl rfl (fun _ h => h) (fun _ h => h) id id ⟨rfl, rfl⟩

theorem disconnect_drops (routeId : RouteId) (audience) :
    Drops relay (relay.disconnect routeId audience).2 := by
  unfold disconnect
  dsimp only
  rcases hget : relay.channels[routeId]? with _ | sockets
  · exact Drops.refl relay
  dsimp only
  let left : Sockets := sockets.erase audience
  let cut : OpaqueRelay := { relay with channels := relay.channels.insert routeId left }
  have hcut : ∀ r a channel, cut.socket r a = some channel → relay.socket r a = some channel := by
    intro r a channel h
    have h' : socketIn (relay.channels.insert routeId left) r a = some channel := h
    rw [socketIn_insert] at h'
    split_ifs at h' with hr
    · rw [getElem?_erase_eq] at h'
      split_ifs at h'
      exact socketIn_eq_some.mpr ⟨sockets, hr ▸ hget, h'⟩
    · exact h'
  have hmem : ∀ r, r ∈ cut.channels ↔ r ∈ relay.channels := by
    intro r
    refine mem_insert_iff.trans ⟨?_, .inr⟩
    rintro (rfl | hold)
    · exact mem_iff_exists.mpr ⟨sockets, hget⟩
    · exact hold
  split_ifs with hnil
  · refine ⟨fun r a channel h => hcut r a channel ?_, rfl, fun _ h => h, fun _ h => h, id, id,
      ⟨rfl, rfl⟩, fun h => ⟨fun r other hother => ?_, fun r => ?_⟩⟩
    · exact (removeRoutes_drops cut [routeId]).sockets r a channel h
    · have hother' : ([routeId].foldl (fun m routeId => m.erase routeId)
          (relay.channels.insert routeId left))[r]? = some other := hother
      rw [getElem?_foldl_erase, getElem?_insert_eq] at hother'
      split_ifs at hother' with hin hr
      · exact absurd (hr ▸ (.head _)) hin
      · exact h.bound r other hother'
    · show r ∈ [routeId].foldl _ relay.presence ↔ r ∈ [routeId].foldl _ cut.channels
      rw [mem_foldl_erase, mem_foldl_erase, hmem, h.present]
  · refine ⟨hcut, rfl, fun _ h => h, fun _ h => h, id, id, ⟨rfl, rfl⟩,
      fun h => ⟨fun r other hother => ?_, fun r => (h.present r).trans (hmem r).symm⟩⟩
    have hother' : (relay.channels.insert routeId left)[r]? = some other := hother
    rcases of_insert hother' with ⟨hr, rfl⟩ | ⟨hr, hother'⟩
    · exact exists_socket hnil
    · exact h.bound r other hother'

/-! ## Writing a socket -/

theorem socket_setSocket (routeId r : RouteId) (audience a) (channel) :
    (relay.setSocket routeId audience channel).socket r a =
      if routeId = r ∧ audience = a then some channel else relay.socket r a := by
  show socketIn (relay.channels.insert routeId _) r a = _
  rw [socketIn_insert, getElem?_insert_eq]
  by_cases hr : routeId = r
  · subst hr
    by_cases ha : audience = a
    · simp [ha]
    · rw [if_pos rfl, if_neg ha, if_neg fun h => ha h.2]
      unfold socket socketIn
      rcases relay.channels[routeId]? with _ | sockets
      · simp
      · rfl
  · rw [if_neg hr, if_neg fun h => hr h.1]
    rfl

theorem socket_bound (claims) (now : ℕ) (r : RouteId) (a) :
    (relay.bound claims now).socket r a =
      if claims.routeId = r ∧ claims.audience = a then some ⟨claims, [], 0⟩
      else relay.socket r a :=
  socket_setSocket { relay with
    consumedNonces := relay.consumedNonces.insert claims.nonce
    onlineHosts := if claims.audience = .hostSocket then
      relay.onlineHosts.insert claims.hostPublicId else relay.onlineHosts }
    claims.routeId r claims.audience a ⟨claims, [], 0⟩

theorem socket_forward (routeId : RouteId) (sender) (inbound) (frame) (encodedLen now : ℕ)
    (r : RouteId) (a) :
    (relay.forward routeId sender inbound frame encodedLen now).socket r a =
      if routeId = r ∧ sender.peer = a then
        some ⟨inbound.claims, inbound.queued ++ [frame],
          saturatingAdd32 inbound.queuedBytes encodedLen⟩
      else relay.socket r a :=
  socket_setSocket relay routeId r sender.peer a _

variable {relay}

/-- What the sockets and the one that is written have, the sockets then have. -/
theorem forall_socket {P : BoundChannel → Prop} {next : OpaqueRelay} {routeId : RouteId}
    {audience channel} (hset : ∀ r a, next.socket r a =
      if routeId = r ∧ audience = a then some channel else relay.socket r a)
    (hnew : P channel) (hold : ∀ r a channel, relay.socket r a = some channel → P channel) :
    ∀ r a channel, next.socket r a = some channel → P channel := by
  intro r a channel h
  rw [hset] at h
  split_ifs at h
  · exact some.inj h ▸ hnew
  · exact hold r a channel h

theorem bound_setSocket (h : Wired relay) (routeId : RouteId)
    (audience) (channel) (r : RouteId) (sockets : Sockets)
    (hget : (relay.setSocket routeId audience channel).channels[r]? = some sockets) :
    ∃ (a : TicketAudience) (channel : BoundChannel), sockets[a]? = some channel := by
  have hget' : (relay.channels.insert routeId
      (((relay.channels[routeId]?).getD ∅).insert audience channel))[r]? = some sockets := hget
  rcases of_insert hget' with ⟨-, rfl⟩ | ⟨-, hget'⟩
  · exact ⟨audience, channel, by simp⟩
  · exact h.bound r sockets hget'

theorem mem_channels_of_socket {channel}
    (h : relay.socket routeId audience = some channel) : routeId ∈ relay.channels := by
  obtain ⟨sockets, hsocket, _⟩ := socketIn_eq_some.mp h
  exact mem_iff_exists.mpr ⟨sockets, hsocket⟩

theorem wired_bound (h : Wired relay) (claims) (now : ℕ) :
    Wired (relay.bound claims now) where
  bound := by
    have hwired : Wired { relay with
        consumedNonces := relay.consumedNonces.insert claims.nonce
        onlineHosts := if claims.audience = .hostSocket then
          relay.onlineHosts.insert claims.hostPublicId else relay.onlineHosts } :=
      ⟨h.bound, h.present⟩
    exact bound_setSocket hwired claims.routeId claims.audience ⟨claims, [], 0⟩
  present := by
    intro r
    show r ∈ relay.presence.insert claims.routeId _ ↔ r ∈ relay.channels.insert claims.routeId _
    rw [mem_insert_iff, mem_insert_iff, h.present]

theorem wired_forward (h : Wired relay)
    {sender inbound} (frame) (encodedLen now : ℕ)
    (hinbound : relay.socket routeId sender.peer = some inbound) :
    Wired (relay.forward routeId sender inbound frame encodedLen now) where
  bound := bound_setSocket h routeId sender.peer _
  present := by
    intro r
    show r ∈ relay.presence.modify routeId _ ↔ r ∈ relay.channels.insert routeId _
    rw [mem_modify, mem_insert_iff, h.present]
    refine ⟨.inr, ?_⟩
    rintro (rfl | hold)
    · exact mem_channels_of_socket hinbound
    · exact hold

theorem wired_setSocket (h : Wired relay) {old} (channel)
    (hold : relay.socket routeId audience = some old) :
    Wired (relay.setSocket routeId audience channel) where
  bound := bound_setSocket h routeId audience channel
  present := by
    intro r
    show r ∈ relay.presence ↔ r ∈ relay.channels.insert routeId _
    rw [mem_insert_iff, h.present]
    refine ⟨.inr, ?_⟩
    rintro (rfl | hmem)
    · exact mem_channels_of_socket hold
    · exact hmem

end DevManager.OpaqueRelay
