import DevManager.Lib.OrdMap
import DevManager.Protocol.Sealed

/-!
# The opaque relay (`src/connect/relay.rs`)

`OpaqueRelay` routes sealed frames between the host socket and the device socket
of a route. A socket is bound with a signed ticket whose nonce is consumed;
tickets and devices are revoked, hosts go offline, tickets and the presence of a
route expire, and each of these drops sockets. `hmac` and `uuid` are third-party
crates: they enter as the fields of `RelayExternals`, and nothing is assumed
about them.

The hash maps of the source are maps in key order. The source iterates over them
only to filter them and to collect keys that it then removes.
-/

namespace DevManager

open Std (ExtTreeMap ExtTreeSet)

/-- `a.saturating_add(b)` on `u32`. -/
def saturatingAdd32 (a b : ℕ) : ℕ := min (a + b) u32Max

/-- `u32::try_from(n).unwrap_or(other)`. -/
def u32Or (other n : ℕ) : ℕ := if n ≤ u32Max then n else other

/-- The functions of `hmac` and `uuid` that a ticket is signed with. -/
class RelayExternals where
  /-- `Hmac<Sha256>` of a message under a 32-byte key. -/
  hmacSha256 : Vector UInt8 32 → List UInt8 → Vector UInt8 32
  /-- `Uuid::into_bytes`. -/
  uuidBytes : {kind : IdKind} → Uuid7 kind → Vector UInt8 16

/-! ## Tickets -/

/-- `TicketAudience`, L106-109 -/
inductive TicketAudience
  | hostSocket | deviceSocket
deriving DecidableEq

namespace TicketAudience

/-- `wire_tag`, L113-118 -/
def wireTag : TicketAudience → UInt8
  | .hostSocket => 1
  | .deviceSocket => 2

instance : Ord TicketAudience := ⟨fun a b => compare a.wireTag.toNat b.wireTag.toNat⟩

instance : Std.TransOrd TicketAudience :=
  inferInstanceAs (Std.TransCmp (compareOn fun a : TicketAudience => a.wireTag.toNat))

instance : Std.LawfulEqOrd TicketAudience where
  eq_of_compare := by
    intro a b
    cases a <;> cases b <;> decide

/-- The other end of a route (L848-851). -/
def peer : TicketAudience → TicketAudience
  | .hostSocket => .deviceSocket
  | .deviceSocket => .hostSocket

end TicketAudience

/-- `RouteTicket`, L121-131 -/
structure RouteTicket where
  ticketId : TicketId
  routeId : RouteId
  hostPublicId : HostPublicId
  devicePublicId : DevicePublicId
  accountId : AccountId
  audience : TicketAudience
  issuedAtUnix : ℕ
  expiresAtUnix : ℕ
  nonce : Vector UInt8 16
deriving DecidableEq

/-- `RelayError` (L1110-1130), the errors of the router. -/
inductive RelayError
  | invalidTicket | expiredTicket | ticketReused | revokedTicket | revokedDevice | hostOffline
  | unknownRoute | peerDisconnected | opaqueFrame | frameExceeded (declared : ℕ) | queueExceeded
  | queueEmpty | rateLimited | stateBoundExceeded
deriving DecidableEq

/-- `TicketSigningKey`, L236 -/
structure TicketSigningKey where
  bytes : Vector UInt8 32

/-- `SignedRouteTicket`, L260-263 -/
structure SignedRouteTicket where
  claims : RouteTicket
  tag : Vector UInt8 32

section Tickets

variable [RelayExternals]

/-- `canonical_bytes`, L201-214 -/
def RouteTicket.canonicalBytes (ticket : RouteTicket) : List UInt8 :=
  asBytes "DevManagerConnect/v1/route-ticket" ++ [0] ++
    (RelayExternals.uuidBytes ticket.ticketId).toList ++
    (RelayExternals.uuidBytes ticket.routeId).toList ++
    (RelayExternals.uuidBytes ticket.hostPublicId).toList ++
    (RelayExternals.uuidBytes ticket.devicePublicId).toList ++
    (RelayExternals.uuidBytes ticket.accountId).toList ++ [ticket.audience.wireTag] ++
    beBytes 8 ticket.issuedAtUnix ++ beBytes 8 ticket.expiresAtUnix ++ ticket.nonce.toList

/-- `sign_ticket`, L1079-1084 -/
def signTicket (key : TicketSigningKey) (claims : RouteTicket) : Vector UInt8 32 :=
  RelayExternals.hmacSha256 key.bytes claims.canonicalBytes

namespace SignedRouteTicket

/-- `issue`, L266-269 -/
def issue (key : TicketSigningKey) (claims : RouteTicket) : SignedRouteTicket :=
  { claims, tag := signTicket key claims }

/-- `verify`, L271-277 -/
def verify (ticket : SignedRouteTicket) (key : TicketSigningKey) : Except RelayError RouteTicket :=
  if ¬ constantTimeEq (signTicket key ticket.claims).toList ticket.tag.toList then
    .error .invalidTicket
  else .ok ticket.claims

end SignedRouteTicket

end Tickets

/-! ## The router -/

/-- `RelayStatus`, L343-348 -/
inductive RelayStatus
  | bound | forwarded | dropped | disconnected
deriving DecidableEq

/-- `RelayObservation`, L351-356 -/
structure RelayObservation where
  routeId : RouteId
  frameBytes : ℕ
  status : RelayStatus
  errorClass : Option RelayError

/-- `RateKey` (L382-385), with the two cases of `IpAddr`. -/
inductive RateKey
  | account (id : AccountId)
  | ipv4 (address : BitVec 32)
  | ipv6 (address : BitVec 128)

namespace RateKey

/-- The place of a key in the order of the map. -/
def rank : RateKey → ℕ
  | .account id => 3 * id.payload
  | .ipv4 address => 3 * address.toNat + 1
  | .ipv6 address => 3 * address.toNat + 2

instance : Ord RateKey := ⟨fun a b => compare a.rank b.rank⟩

instance : Std.TransOrd RateKey := inferInstanceAs (Std.TransCmp (compareOn RateKey.rank))

end RateKey

/-- `RateWindow`, L388-391 -/
structure RateWindow where
  startedAtUnix : ℕ
  count : ℕ

/-- `BoundChannel`, L394-398 -/
structure BoundChannel where
  claims : RouteTicket
  queued : List SealedFrame
  queuedBytes : ℕ
deriving DecidableEq

/-- `PresenceRecord`, L401-403 -/
structure PresenceRecord where
  expiresAtUnix : ℕ
deriving DecidableEq

/-- The sockets of a route. -/
abbrev Sockets := ExtTreeMap TicketAudience BoundChannel

/-- `OpaqueRelay`, L653-666 -/
structure OpaqueRelay where
  signingKey : Option TicketSigningKey
  onlineHosts : ExtTreeSet HostPublicId
  revokedTickets : ExtTreeSet TicketId
  revokedDevices : ExtTreeSet DevicePublicId
  revokedTicketOverflow : Bool
  revokedDeviceOverflow : Bool
  consumedNonces : ExtTreeSet (Vector UInt8 16)
  channels : ExtTreeMap RouteId Sockets
  presence : ExtTreeMap RouteId PresenceRecord
  bindAttempts : ExtTreeMap RateKey RateWindow
  maxQueueFrames : ℕ
  maxQueueBytes : ℕ

/-! ### Limits (L28-37) -/

def maxRelayQueueFrames : ℕ := 8

def maxRelayQueueBytes : ℕ := maxSealedFrameBytes

def maxBindAttemptsPerWindow : ℕ := 8

def bindRateWindowSecs : ℕ := 60

def presenceTtlSecs : ℕ := 30

def maxRelayRoutes : ℕ := 1024

def maxRelayRevokedTickets : ℕ := 4096

def maxRelayRevokedDevices : ℕ := 4096

def maxRelayConsumedNonces : ℕ := 16384

def maxRelayRateKeys : ℕ := 4096

/-! ### The relay -/

namespace OpaqueRelay

/-- `default` and `new` (L668-703). -/
def new : OpaqueRelay :=
  { signingKey := none
    onlineHosts := ∅
    revokedTickets := ∅
    revokedDevices := ∅
    revokedTicketOverflow := false
    revokedDeviceOverflow := false
    consumedNonces := ∅
    channels := ∅
    presence := ∅
    bindAttempts := ∅
    maxQueueFrames := maxRelayQueueFrames
    maxQueueBytes := maxRelayQueueBytes }

/-- `with_signing_key`, L705-710 -/
def withSigningKey (key : TicketSigningKey) : OpaqueRelay := { new with signingKey := some key }

variable (relay : OpaqueRelay)

/-- `with_queue_bounds`, L712-716 -/
def withQueueBounds (maxFrames maxBytes : ℕ) : OpaqueRelay :=
  { relay with maxQueueFrames := max maxFrames 1, maxQueueBytes := max maxBytes 1 }

/-- The loop that `set_host_online`, `revoke_device` and `drop_ticket` have in common: the sockets
that are kept, without the routes that lose their last one. -/
def retainSockets (keep : BoundChannel → Bool) : OpaqueRelay :=
  let emptied := (relay.channels.toList.filter fun (_, sockets) =>
    (sockets.filter fun _ channel => keep channel).isEmpty).map Prod.fst
  { relay with
    channels := relay.channels.filterMap fun _ sockets =>
      let kept := sockets.filter fun _ channel => keep channel
      if kept.isEmpty then none else some kept
    presence := emptied.foldl (fun presence routeId => presence.erase routeId) relay.presence }

/-- `set_host_online`, L722-741 -/
def setHostOnline (host : HostPublicId) (online : Bool) : OpaqueRelay :=
  if online then { relay with onlineHosts := relay.onlineHosts.insert host }
  else
    retainSockets { relay with onlineHosts := relay.onlineHosts.erase host }
      fun channel => channel.claims.hostPublicId ≠ host

variable (ticketId : TicketId)

/-- `remember_revoked_ticket`, L1036-1044 -/
def rememberRevokedTicket : OpaqueRelay :=
  if relay.revokedTickets.size ≥ maxRelayRevokedTickets ∧ ¬ ticketId ∈ relay.revokedTickets then
    { relay with revokedTicketOverflow := true }
  else { relay with revokedTickets := relay.revokedTickets.insert ticketId }

/-- `remember_revoked_device`, L1046-1054 -/
def rememberRevokedDevice (device : DevicePublicId) : OpaqueRelay :=
  if relay.revokedDevices.size ≥ maxRelayRevokedDevices ∧ ¬ device ∈ relay.revokedDevices then
    { relay with revokedDeviceOverflow := true }
  else { relay with revokedDevices := relay.revokedDevices.insert device }

/-- `drop_ticket`, L1062-1076 -/
def dropTicket : OpaqueRelay :=
  relay.retainSockets fun channel => channel.claims.ticketId ≠ ticketId

/-- `revoke_ticket`, L743-746 -/
def revokeTicket : OpaqueRelay :=
  (relay.rememberRevokedTicket ticketId).dropTicket ticketId

/-- `revoke_device`, L748-763 -/
def revokeDevice (device : DevicePublicId) : OpaqueRelay :=
  (relay.rememberRevokedDevice device).retainSockets fun channel =>
    channel.claims.devicePublicId ≠ device

variable (now : ℕ)

/-- `evict_expired_rate_windows`, L1056-1060 -/
def evictExpiredRateWindows : OpaqueRelay :=
  { relay with
    bindAttempts := relay.bindAttempts.filter fun _ window =>
      now - window.startedAtUnix < bindRateWindowSecs }

/-- A ticket outside its time (L988-989). -/
def expired (claims : RouteTicket) : Prop :=
  now < claims.issuedAtUnix ∨ now ≥ claims.expiresAtUnix

instance (now : ℕ) (claims : RouteTicket) : Decidable (expired now claims) :=
  inferInstanceAs (Decidable (_ ∨ _))

/-- A socket that `expire_stale` drops (L988-994). -/
def stale (channel : BoundChannel) : Prop :=
  expired now channel.claims ∨ channel.claims.ticketId ∈ relay.revokedTickets ∨
    channel.claims.devicePublicId ∈ relay.revokedDevices

instance (relay : OpaqueRelay) (now : ℕ) (channel : BoundChannel) :
    Decidable (relay.stale now channel) :=
  inferInstanceAs (Decidable (_ ∨ _ ∨ _))

/-- The routes whose presence is over (L976-982). -/
def expiredPresence : List RouteId :=
  (relay.presence.toList.filter fun (_, record) => record.expiresAtUnix ≤ now).map Prod.fst

/-- The sockets that are collected in the first loop (L984-998). -/
def staleSockets : List (RouteId × TicketAudience) :=
  relay.channels.toList.flatMap fun (routeId, sockets) =>
    (sockets.toList.filter fun (_, channel) => relay.stale now channel).map fun (audience, _) =>
      (routeId, audience)

/-- One turn of the second loop (L1000-1007): the channels and the emptied routes. -/
def removeStale (state : ExtTreeMap RouteId Sockets × List RouteId)
    (entry : RouteId × TicketAudience) : ExtTreeMap RouteId Sockets × List RouteId :=
  match state.1[entry.1]? with
  | none => state
  | some sockets =>
    let left := sockets.erase entry.2
    (state.1.insert entry.1 left, if left.isEmpty then state.2 ++ [entry.1] else state.2)

/-- `for route_id in routes { channels.remove(&route_id); presence.remove(&route_id); }`. -/
def removeRoutes (routes : List RouteId) : OpaqueRelay :=
  { relay with
    channels := routes.foldl (fun channels routeId => channels.erase routeId) relay.channels
    presence := routes.foldl (fun presence routeId => presence.erase routeId) relay.presence }

/-- `expire_stale`, L975-1016 -/
def expireStale : OpaqueRelay :=
  let present := relay.removeRoutes (relay.expiredPresence now)
  let (channels, emptied) := (present.staleSockets now).foldl removeStale (present.channels, [])
  (removeRoutes { present with channels } emptied).evictExpiredRateWindows now

/-- `admit_rate`, L949-973 -/
def admitRate (source : RateKey) (now : ℕ) :
    Except RelayError Unit × OpaqueRelay :=
  let full := fun relay : OpaqueRelay =>
    relay.bindAttempts.size ≥ maxRelayRateKeys ∧ ¬ source ∈ relay.bindAttempts
  let relay := if full relay then relay.evictExpiredRateWindows now else relay
  if full relay then (.error .stateBoundExceeded, relay)
  else
    let window := (relay.bindAttempts[source]?).getD ⟨now, 0⟩
    let window :=
      if now - window.startedAtUnix ≥ bindRateWindowSecs then ⟨now, 0⟩ else window
    if window.count ≥ maxBindAttemptsPerWindow then
      (.error .rateLimited, { relay with bindAttempts := relay.bindAttempts.insert source window })
    else
      (.ok (), { relay with
        bindAttempts := relay.bindAttempts.insert source
          { window with count := saturatingAdd32 window.count 1 } })

/-- `channel_live`, L1018-1034 -/
def channelLive (channel : BoundChannel) (now : ℕ) :
    Except RelayError Unit := do
  failIf (expired now channel.claims) .expiredTicket
  failIf (channel.claims.ticketId ∈ relay.revokedTickets) .revokedTicket
  failIf (channel.claims.devicePublicId ∈ relay.revokedDevices) .revokedDevice

variable (routeId : RouteId)

/-- The checks of `admit` (L841-879): the length of the frame, and the channel that it
goes to. -/
def checkFrame (sender : TicketAudience)
    (frame : SealedFrame) (now : ℕ) : Except RelayError (ℕ × BoundChannel) := do
  let encodedLen := u32Or u32Max frame.encodedLen
  failIf (encodedLen > maxSealedFrameBytes) (.frameExceeded encodedLen)
  mapErr frame.validate fun _ => .opaqueFrame
  let sockets ← okOr (relay.channels[routeId]?) .unknownRoute
  let source ← okOr (sockets[sender]?) .unknownRoute
  relay.channelLive source now
  let peer ← okOr (sockets[sender.peer]?) .peerDisconnected
  relay.channelLive peer now
  failIf (sender = .deviceSocket ∧ ¬ source.claims.hostPublicId ∈ relay.onlineHosts) .hostOffline
  failIf (sender = .hostSocket ∧ ¬ peer.claims.hostPublicId ∈ relay.onlineHosts) .hostOffline
  pure (encodedLen, peer)

variable (audience : TicketAudience)

/-- The channel of a socket is written. -/
def setSocket (channel : BoundChannel) : OpaqueRelay :=
  { relay with
    channels := relay.channels.insert routeId
      (((relay.channels[routeId]?).getD ∅).insert audience channel) }

/-- The end of a forwarded frame (L889-893): it is queued, and the presence is renewed. -/
def forward (sender : TicketAudience)
    (inbound : BoundChannel) (frame : SealedFrame) (encodedLen now : ℕ) : OpaqueRelay :=
  let relay := relay.setSocket routeId sender.peer { inbound with
      queuedBytes := saturatingAdd32 inbound.queuedBytes encodedLen,
      queued := inbound.queued ++ [frame] }
  { relay with
    presence := relay.presence.modify routeId fun _ => ⟨saturatingAdd now presenceTtlSecs⟩ }

/-- `admit`, L833-900 -/
def admitFrame (sender : TicketAudience)
    (frame : SealedFrame) (now : ℕ) : Except RelayError RelayObservation × OpaqueRelay :=
  let relay := relay.expireStale now
  match relay.checkFrame routeId sender frame now with
  | .error e => (.error e, relay)
  | .ok (encodedLen, inbound) =>
    if inbound.queued.length ≥ relay.maxQueueFrames ∨
        saturatingAdd32 inbound.queuedBytes encodedLen > relay.maxQueueBytes then
      (.ok ⟨routeId, encodedLen, .dropped, some .queueExceeded⟩, relay)
    else
      (.ok ⟨routeId, encodedLen, .forwarded, none⟩,
        relay.forward routeId sender inbound frame encodedLen now)

/-- `take`, L902-915 -/
def take :
    Except RelayError SealedFrame × OpaqueRelay :=
  match (relay.channels[routeId]?).bind (·[audience]?) with
  | none => (.error .unknownRoute, relay)
  | some channel =>
    match channel.queued with
    | [] => (.error .queueEmpty, relay)
    | frame :: queued =>
      (.ok frame, relay.setSocket routeId audience
        { channel with queued, queuedBytes := channel.queuedBytes - u32Or 0 frame.encodedLen })

/-- `disconnect`, L919-933 -/
def disconnect :
    RelayObservation × OpaqueRelay :=
  (⟨routeId, 0, .disconnected, none⟩, match relay.channels[routeId]? with
    | none => relay
    | some sockets =>
      let left := sockets.erase audience
      let relay := { relay with channels := relay.channels.insert routeId left }
      if left.isEmpty then relay.removeRoutes [routeId] else relay)

section Bind

variable [RelayExternals] (relay : OpaqueRelay)

/-- The checks of `bind` (L773-806) before the nonce is consumed. -/
def checkBind (ticket : SignedRouteTicket) (now : ℕ) :
    Except RelayError RouteTicket := do
  let key ← okOr relay.signingKey .invalidTicket
  let claims ← ticket.verify key
  failIf (expired now claims) .expiredTicket
  failIf (claims.ticketId ∈ relay.revokedTickets) .revokedTicket
  failIf (claims.devicePublicId ∈ relay.revokedDevices) .revokedDevice
  failIf (relay.revokedTicketOverflow = true ∨ relay.revokedDeviceOverflow = true)
    .stateBoundExceeded
  failIf (claims.audience = .deviceSocket ∧ ¬ claims.hostPublicId ∈ relay.onlineHosts) .hostOffline
  failIf (relay.consumedNonces.size ≥ maxRelayConsumedNonces ∧
    ¬ claims.nonce ∈ relay.consumedNonces)
    .stateBoundExceeded
  failIf (¬ claims.routeId ∈ relay.channels ∧ relay.channels.size ≥ maxRelayRoutes)
    .stateBoundExceeded
  failIf (claims.nonce ∈ relay.consumedNonces) .ticketReused
  pure claims

/-- The end of a successful `bind` (L807-830). -/
def bound (claims : RouteTicket) (now : ℕ) : OpaqueRelay :=
  let relay : OpaqueRelay := { relay with
    consumedNonces := relay.consumedNonces.insert claims.nonce
    onlineHosts := if claims.audience = .hostSocket then
      relay.onlineHosts.insert claims.hostPublicId else relay.onlineHosts }
  let relay := relay.setSocket claims.routeId claims.audience ⟨claims, [], 0⟩
  { relay with
    presence := relay.presence.insert claims.routeId ⟨saturatingAdd now presenceTtlSecs⟩ }

/-- `bind`, L765-831 -/
def bind (ticket : SignedRouteTicket) (now : ℕ) (source : RateKey) :
    Except RelayError RelayObservation × OpaqueRelay :=
  match (relay.expireStale now).admitRate source now with
  | (.error e, relay) => (.error e, relay)
  | (.ok (), relay) =>
    match relay.checkBind ticket now with
    | .error e => (.error e, relay)
    | .ok claims => (.ok ⟨claims.routeId, 0, .bound, none⟩, relay.bound claims now)

end Bind

end OpaqueRelay

/-! ## Calls -/

/-- A call on the relay. -/
inductive RelayCall
  | setHostOnline (host : HostPublicId) (online : Bool)
  | revokeTicket (ticketId : TicketId)
  | revokeDevice (device : DevicePublicId)
  | bind (ticket : SignedRouteTicket) (now : ℕ) (source : RateKey)
  | admitFrame (routeId : RouteId) (sender : TicketAudience) (frame : SealedFrame) (now : ℕ)
  | take (routeId : RouteId) (audience : TicketAudience)
  | disconnect (routeId : RouteId) (audience : TicketAudience)

/-- What a call returned. -/
inductive RelayReply
  | done
  | observed (result : Except RelayError RelayObservation)
  | taken (result : Except RelayError SealedFrame)

/-- One call on the relay. -/
def OpaqueRelay.call [RelayExternals] (relay : OpaqueRelay) : RelayCall → RelayReply × OpaqueRelay
  | .setHostOnline host online => (.done, relay.setHostOnline host online)
  | .revokeTicket ticketId => (.done, relay.revokeTicket ticketId)
  | .revokeDevice device => (.done, relay.revokeDevice device)
  | .bind ticket now source =>
    (.observed (relay.bind ticket now source).1, (relay.bind ticket now source).2)
  | .admitFrame routeId sender frame now =>
    (.observed (relay.admitFrame routeId sender frame now).1,
      (relay.admitFrame routeId sender frame now).2)
  | .take routeId audience =>
    (.taken (relay.take routeId audience).1, (relay.take routeId audience).2)
  | .disconnect routeId audience =>
    (.observed (.ok (relay.disconnect routeId audience).1), (relay.disconnect routeId audience).2)

end DevManager
