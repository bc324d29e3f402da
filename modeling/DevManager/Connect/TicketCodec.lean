import DevManager.Connect.Envelope
import DevManager.Connect.Relay
import DevManager.Protocol.SealedCodec

/-!
# The bytes of a route ticket (`src/connect/relay.rs`)

A signed ticket is its domain, five identifiers, the audience, two times, a nonce and a tag, one
behind the other. `decode` checks the identifiers, the audience, the lifetime and the tag.

* `Uuid7.fromBytes_eq_ok`: which 16 bytes are an identifier.
-/

namespace DevManager

open Checked SealedFrame

/-! ## The bytes of an identifier -/

/-- `ConnectIdError`, `src/connect/envelope.rs:22-25` -/
inductive ConnectIdError
  | invalidVersion | invalidVariant
deriving DecidableEq

namespace Uuid7

variable {kind : IdKind} (id : Uuid7 kind)

/-- The 128 bits of an identifier: 48 bits of the payload, the version 7, 12 bits, the variant `10`,
and 62 bits. -/
def number : ℕ :=
  id.payload / 2 ^ 74 * 2 ^ 80 + 7 * 2 ^ 76 + id.payload / 2 ^ 62 % 2 ^ 12 * 2 ^ 64 + 2 * 2 ^ 62 +
    id.payload % 2 ^ 62

/-- The payload of 128 bits: all but the version and the variant. -/
def payloadOf (n : ℕ) : ℕ := n / 2 ^ 80 * 2 ^ 74 + n / 2 ^ 64 % 2 ^ 12 * 2 ^ 62 + n % 2 ^ 62

/-- The 16 bytes of an identifier. -/
def uuid : Uuid := ⟨⟨(beBytes 16 id.number).toArray, by simp⟩⟩

/-- `from_bytes`, with `from_uuid` (L66-78). -/
def fromBytes (value : Vector UInt8 16) : Except ConnectIdError (Uuid7 kind) := do
  failIf ((⟨value⟩ : Uuid).versionNum ≠ 7) .invalidVersion
  failIf (¬ (⟨value⟩ : Uuid).isRfc4122 = true) .invalidVariant
  pure ⟨payloadOf (ofBeBytes value.toList)⟩

/-- The payload has 122 bits. -/
def Real : Prop := id.payload < 2 ^ 122

instance (id : Uuid7 kind) : Decidable id.Real := inferInstanceAs (Decidable (_ < _))

theorem byteTable : ∀ i : Fin 256, (UInt8.ofNat i.val >>> 4 = 7 ↔ i.val / 16 = 7) ∧
    (UInt8.ofNat i.val &&& 0xC0 = 0x80 ↔ i.val / 64 = 2) := by
  decide +kernel

theorem versionNum_eq (value : Vector UInt8 16) :
    ((⟨value⟩ : Uuid).versionNum = 7 ↔ ofBeBytes value.toList / 2 ^ 76 % 16 = 7) ∧
      ((⟨value⟩ : Uuid).isRfc4122 = true ↔ ofBeBytes value.toList / 2 ^ 62 % 4 = 2) := by
  have hbytes := beBytes_ofBeBytes value.toList
  rw [Vector.length_toList] at hbytes
  generalize ofBeBytes value.toList = n at hbytes ⊢
  have hbyte : ∀ i (hi : i < 16), value[i] = UInt8.ofNat (n / 256 ^ (15 - i) % 256) := by
    intro i hi
    have hat := getElem?_beBytes 16 (n := n) hi
    rw [hbytes, Vector.getElem?_toList, Vector.getElem?_eq_getElem hi, Option.some.injEq] at hat
    rw [hat]
    exact UInt8.toNat_inj.mp (by simp)
  have hsix := byteTable ⟨n / 256 ^ (15 - 6) % 256, Nat.mod_lt _ (by decide)⟩
  have height := byteTable ⟨n / 256 ^ (15 - 8) % 256, Nat.mod_lt _ (by decide)⟩
  constructor
  · rw [Uuid.versionNum, hbyte 6 (by decide), hsix.1]
    dsimp only
    omega
  · rw [Uuid.isRfc4122, hbyte 8 (by decide), decide_eq_true_iff, height.2]
    dsimp only
    omega

theorem payload_parts {a b c : ℕ} (hb : b < 2 ^ 12) (hc : c < 2 ^ 62) :
    (a * 2 ^ 74 + b * 2 ^ 62 + c) / 2 ^ 74 = a ∧
      (a * 2 ^ 74 + b * 2 ^ 62 + c) / 2 ^ 62 % 2 ^ 12 = b ∧
      (a * 2 ^ 74 + b * 2 ^ 62 + c) % 2 ^ 62 = c := by
  refine ⟨?_, ?_, ?_⟩ <;> omega

theorem number_parts {a b c : ℕ} (hb : b < 2 ^ 12) (hc : c < 2 ^ 62) :
    (a * 2 ^ 80 + 7 * 2 ^ 76 + b * 2 ^ 64 + 2 * 2 ^ 62 + c) / 2 ^ 80 = a ∧
      (a * 2 ^ 80 + 7 * 2 ^ 76 + b * 2 ^ 64 + 2 * 2 ^ 62 + c) / 2 ^ 76 % 16 = 7 ∧
      (a * 2 ^ 80 + 7 * 2 ^ 76 + b * 2 ^ 64 + 2 * 2 ^ 62 + c) / 2 ^ 64 % 2 ^ 12 = b ∧
      (a * 2 ^ 80 + 7 * 2 ^ 76 + b * 2 ^ 64 + 2 * 2 ^ 62 + c) / 2 ^ 62 % 4 = 2 ∧
      (a * 2 ^ 80 + 7 * 2 ^ 76 + b * 2 ^ 64 + 2 * 2 ^ 62 + c) % 2 ^ 62 = c := by
  refine ⟨?_, ?_, ?_, ?_, ?_⟩ <;> omega

theorem number_spec {id : Uuid7 kind} (h : id.Real) :
    id.number < 256 ^ 16 ∧ id.number / 2 ^ 76 % 16 = 7 ∧ id.number / 2 ^ 62 % 4 = 2 ∧
      payloadOf id.number = id.payload := by
  have hb : id.payload / 2 ^ 62 % 2 ^ 12 < 2 ^ 12 := Nat.mod_lt _ (by decide)
  have hc : id.payload % 2 ^ 62 < 2 ^ 62 := Nat.mod_lt _ (by decide)
  obtain ⟨hhigh, hver, hmid, hvariant, hlow⟩ :=
    number_parts (a := id.payload / 2 ^ 74) hb hc
  refine ⟨?_, hver, hvariant, ?_⟩
  · unfold Real at h
    unfold number
    omega
  · rw [payloadOf, number, hhigh, hmid, hlow]
    omega

theorem number_payloadOf {n : ℕ} (hn : n < 256 ^ 16) (hver : n / 2 ^ 76 % 16 = 7)
    (hvariant : n / 2 ^ 62 % 4 = 2) :
    (⟨payloadOf n⟩ : Uuid7 kind).number = n ∧ (⟨payloadOf n⟩ : Uuid7 kind).Real := by
  have hb : n / 2 ^ 64 % 2 ^ 12 < 2 ^ 12 := Nat.mod_lt _ (by decide)
  have hc : n % 2 ^ 62 < 2 ^ 62 := Nat.mod_lt _ (by decide)
  obtain ⟨hhigh, hmid, hlow⟩ := payload_parts (a := n / 2 ^ 80) hb hc
  constructor
  · rw [number]
    unfold payloadOf
    rw [hhigh, hmid, hlow]
    omega
  · unfold Real payloadOf
    dsimp only
    omega

theorem fromBytes_eq_ok {value : Vector UInt8 16} {id : Uuid7 kind} :
    fromBytes value = .ok id ↔ id.Real ∧ id.uuid.bytes = value := by
  simp only [fromBytes, ok_iff, (versionNum_eq value).1, (versionNum_eq value).2]
  constructor
  · rintro ⟨hver, hvariant, rfl⟩
    have hlt := ofBeBytes_lt value.toList
    rw [Vector.length_toList] at hlt
    obtain ⟨hnum, hreal⟩ := @number_payloadOf kind _ hlt hver hvariant
    have hbytes := beBytes_ofBeBytes value.toList
    rw [Vector.length_toList] at hbytes
    refine ⟨hreal, ?_⟩
    unfold uuid
    simp only [hnum, hbytes]
    rfl
  · rintro ⟨hreal, rfl⟩
    obtain ⟨hlt, hver, hvariant, hpayload⟩ := number_spec hreal
    have hnum : ofBeBytes id.uuid.bytes.toList = id.number := ofBeBytes_beBytes 16 _ hlt
    rw [hnum, hpayload]
    exact ⟨hver, hvariant, rfl⟩

end Uuid7

/-! ## Tickets -/

/-- `MAX_ROUTE_TICKET_TTL_SECS`, L27 -/
def maxRouteTicketTtlSecs : ℕ := 5 * 60

/-- `TICKET_TAG_BYTES`, L41 -/
def ticketTagBytes : ℕ := 32

/-- `ROUTE_TICKET_DOMAIN`, L26 -/
def routeTicketDomain : List UInt8 := asBytes "DevManagerConnect/v1/route-ticket" ++ [0]

/-- The length of a ticket without its domain and tag (L290, L298). -/
def routeTicketBodyBytes : ℕ := 16 * 5 + 1 + 8 + 8 + 16

/-- `new`, L136-164 -/
def RouteTicket.new (ticketId : TicketId) (routeId : RouteId) (hostPublicId : HostPublicId)
    (devicePublicId : DevicePublicId) (accountId : AccountId) (audience : TicketAudience)
    (issuedAtUnix expiresAtUnix : ℕ) (nonce : Vector UInt8 16) : Except RelayError RouteTicket := do
  failIf (expiresAtUnix ≤ issuedAtUnix) .invalidTicket
  failIf (expiresAtUnix - issuedAtUnix > maxRouteTicketTtlSecs) .invalidTicket
  pure ⟨ticketId, routeId, hostPublicId, devicePublicId, accountId, audience, issuedAtUnix,
    expiresAtUnix, nonce⟩

/-- The times of a ticket: it expires after it is issued, and within the longest lifetime. -/
def RouteTicket.InTime (claims : RouteTicket) : Prop :=
  claims.issuedAtUnix < claims.expiresAtUnix ∧
    claims.expiresAtUnix - claims.issuedAtUnix ≤ maxRouteTicketTtlSecs

theorem RouteTicket.new_eq_ok {ticketId : TicketId} {routeId : RouteId}
    {hostPublicId devicePublicId accountId audience}
    {issuedAtUnix expiresAtUnix : ℕ} {nonce claims} :
    RouteTicket.new ticketId routeId hostPublicId devicePublicId accountId audience issuedAtUnix
        expiresAtUnix nonce = .ok claims ↔
      claims = ⟨ticketId, routeId, hostPublicId, devicePublicId, accountId, audience, issuedAtUnix,
        expiresAtUnix, nonce⟩ ∧ claims.InTime := by
  simp only [RouteTicket.new, ok_iff, not_le, not_lt]
  constructor
  · rintro ⟨hlt, hle, rfl⟩
    exact ⟨rfl, hlt, hle⟩
  · rintro ⟨rfl, hlt, hle⟩
    exact ⟨hlt, hle, rfl⟩

/-- `RelayError` (L1111-1131), the errors of decoding a ticket. -/
inductive TicketDecodeError
  | identity (error : ConnectIdError)
  | refused (error : RelayError)
deriving DecidableEq

/-- The audience of a byte (L305-309). -/
def audienceOf (tag : UInt8) : Except TicketDecodeError TicketAudience :=
  if tag = 1 then .ok .hostSocket
  else if tag = 2 then .ok .deviceSocket
  else .error (.refused .invalidTicket)

/-- An identifier in the body of a ticket (L300-304). -/
def idAt {kind : IdKind} (body : List UInt8) (start stop : ℕ) :
    Checked TicketDecodeError (Uuid7 kind) := do
  let bytes ← toArray 16 (← sliceAt body start stop)
  Checked.ofExcept (mapErr (Uuid7.fromBytes bytes) .identity)

section Tickets

variable [RelayExternals]

namespace SignedRouteTicket

/-- `encode`, L283-287 -/
def encode (ticket : SignedRouteTicket) : List UInt8 :=
  ticket.claims.canonicalBytes ++ ticket.tag.toList

/-- `decode`, L289-329 -/
def decode (key : TicketSigningKey) (bytes : List UInt8) :
    Checked TicketDecodeError SignedRouteTicket := do
  Checked.failIf (bytes.length < ticketTagBytes + routeTicketDomain.length + routeTicketBodyBytes)
    (.refused .invalidTicket)
  let split ← checkedSub bytes.length ticketTagBytes
  let canonical ← sliceAt bytes 0 split
  let tagBytes ← sliceAt bytes split bytes.length
  Checked.failIf (¬ routeTicketDomain <+: canonical) (.refused .invalidTicket)
  let body ← sliceAt canonical routeTicketDomain.length canonical.length
  Checked.failIf (body.length ≠ routeTicketBodyBytes) (.refused .invalidTicket)
  let ticketId ← idAt body 0 16
  let routeId ← idAt body 16 32
  let hostPublicId ← idAt body 32 48
  let devicePublicId ← idAt body 48 64
  let accountId ← idAt body 64 80
  let audience ← Checked.ofExcept (audienceOf (← byteAt body 80))
  let issuedAtUnix ← toArray 8 (← sliceAt body 81 89)
  let expiresAtUnix ← toArray 8 (← sliceAt body 89 97)
  let nonce ← toArray 16 (← sliceAt body 97 113)
  let tag ← toArray 32 tagBytes
  let claims ← Checked.ofExcept (mapErr (RouteTicket.new ticketId routeId hostPublicId
    devicePublicId accountId audience (ofBeBytes issuedAtUnix.toList)
      (ofBeBytes expiresAtUnix.toList) nonce)
    .refused)
  let ticket : SignedRouteTicket := ⟨claims, tag⟩
  let _ ← Checked.ofExcept (mapErr (ticket.verify key) .refused)
  pure ticket

/-- The parts of an encoded ticket behind its domain. -/
structure Parts where
  ticketId : Vector UInt8 16
  routeId : Vector UInt8 16
  hostPublicId : Vector UInt8 16
  devicePublicId : Vector UInt8 16
  accountId : Vector UInt8 16
  audience : UInt8
  issuedAt : Vector UInt8 8
  expiresAt : Vector UInt8 8
  nonce : Vector UInt8 16
  tag : Vector UInt8 32

/-- The parts without the tag, one behind the other. -/
def Parts.body (parts : Parts) : List UInt8 :=
  [parts.ticketId.toList, parts.routeId.toList, parts.hostPublicId.toList,
    parts.devicePublicId.toList, parts.accountId.toList, [parts.audience], parts.issuedAt.toList,
    parts.expiresAt.toList, parts.nonce.toList].flatten

/-- A whole ticket. -/
def Parts.bytes (parts : Parts) : List UInt8 :=
  [routeTicketDomain, parts.body, parts.tag.toList].flatten

/-- What is checked of the parts. -/
def Parts.read (key : TicketSigningKey) (parts : Parts) :
    Except TicketDecodeError SignedRouteTicket := do
  let ticketId ← mapErr (Uuid7.fromBytes parts.ticketId) .identity
  let routeId ← mapErr (Uuid7.fromBytes parts.routeId) .identity
  let hostPublicId ← mapErr (Uuid7.fromBytes parts.hostPublicId) .identity
  let devicePublicId ← mapErr (Uuid7.fromBytes parts.devicePublicId) .identity
  let accountId ← mapErr (Uuid7.fromBytes parts.accountId) .identity
  let audience ← audienceOf parts.audience
  let claims ← mapErr (RouteTicket.new ticketId routeId hostPublicId devicePublicId accountId
    audience (ofBeBytes parts.issuedAt.toList) (ofBeBytes parts.expiresAt.toList) parts.nonce)
      .refused
  let _ ← mapErr ((⟨claims, parts.tag⟩ : SignedRouteTicket).verify key) .refused
  pure ⟨claims, parts.tag⟩

variable {key : TicketSigningKey} {bytes : List UInt8} {parts : Parts}

omit [RelayExternals] in
theorem length_body (parts : Parts) : parts.body.length = routeTicketBodyBytes := by
  simp [Parts.body, routeTicketBodyBytes]

omit [RelayExternals] in
theorem idAt_part {kind : IdKind} {pieces : List (List UInt8)} {k start : ℕ} {id}
    (hpiece : pieces[k]? = some id.toList)
    (hstart : ((pieces.take k).map List.length).sum = start) :
    (idAt pieces.flatten start (start + 16) : Checked TicketDecodeError (Uuid7 kind)) =
      Checked.ofExcept (mapErr (Uuid7.fromBytes id) .identity) := by
  rw [idAt, sliceAt_part hpiece hstart (by simp), pure_bind, toArray_toList, pure_bind]

omit [RelayExternals] in
theorem split_tag (canonical : List UInt8) (tag : Vector UInt8 32) :
    (checkedSub (canonical ++ tag.toList).length ticketTagBytes : Checked TicketDecodeError ℕ) =
      pure canonical.length := by
  rw [List.length_append, Vector.length_toList]
  exact checkedSub_of_le (Nat.le_add_left 32 _)

theorem decode_parts (parts : Parts) :
    decode key parts.bytes = Checked.ofExcept (parts.read key) := by
  have hbytes : parts.bytes = (routeTicketDomain ++ parts.body) ++ parts.tag.toList := by
    simp [Parts.bytes]
  have hmin : ¬ ((routeTicketDomain ++ parts.body) ++ parts.tag.toList).length <
      ticketTagBytes + routeTicketDomain.length + routeTicketBodyBytes := by
    simp [ticketTagBytes, length_body]
    omega
  -- the body, part by part
  have haudienceAt : (byteAt parts.body 80 : Checked TicketDecodeError UInt8) =
      pure parts.audience := byteAt_part (k := 5) rfl (by simp)
  have hissuedAt : (sliceAt parts.body 81 89 : Checked TicketDecodeError (List UInt8)) =
      pure parts.issuedAt.toList := sliceAt_part (k := 6) rfl (by simp) (by simp)
  have hexp : (sliceAt parts.body 89 97 : Checked TicketDecodeError (List UInt8)) =
      pure parts.expiresAt.toList := sliceAt_part (k := 7) rfl (by simp) (by simp)
  have hnonceAt : (sliceAt parts.body 97 113 : Checked TicketDecodeError (List UInt8)) =
      pure parts.nonce.toList := sliceAt_part (k := 8) rfl (by simp) (by simp)
  have hticketAt : (idAt parts.body 0 16 : Checked TicketDecodeError TicketId) = _ :=
    idAt_part (k := 0) rfl rfl
  have hrouteAt : (idAt parts.body 16 32 : Checked TicketDecodeError RouteId) = _ :=
    idAt_part (k := 1) rfl (by simp)
  have hhostAt : (idAt parts.body 32 48 : Checked TicketDecodeError HostPublicId) = _ :=
    idAt_part (k := 2) rfl (by simp)
  have hdeviceAt : (idAt parts.body 48 64 : Checked TicketDecodeError DevicePublicId) = _ :=
    idAt_part (k := 3) rfl (by simp)
  have hacc : (idAt parts.body 64 80 : Checked TicketDecodeError AccountId) = _ :=
    idAt_part (k := 4) rfl (by simp)
  rw [hbytes, decode, failIf_false hmin, split_tag, pure_bind, sliceAt_front, pure_bind,
    sliceAt_back, pure_bind, failIf_false (not_not.mpr (List.prefix_append _ _)),
    sliceAt_back, pure_bind, failIf_false (not_not.mpr (length_body parts)), hticketAt, hrouteAt,
    hhostAt, hdeviceAt, hacc]
  simp only [Parts.read, ofExcept_bind, haudienceAt, hissuedAt, hexp, hnonceAt, toArray_toList,
    pure_bind]
  rfl

theorem decode_cases (key) (bytes) :
    decode key bytes = throw (.refused .invalidTicket) ∨ ∃ parts : Parts, bytes = parts.bytes := by
  by_cases hmin : bytes.length < ticketTagBytes + routeTicketDomain.length + routeTicketBodyBytes
  · left
    rw [decode, failIf_true hmin]
  obtain ⟨canonical, tag, rfl⟩ : ∃ (canonical : List UInt8) (tag : Vector UInt8 32),
      bytes = canonical ++ tag.toList := exists_split_end (by unfold ticketTagBytes at hmin; omega)
  by_cases hpre : routeTicketDomain <+: canonical
  · obtain ⟨body, rfl⟩ := hpre
    by_cases hbody : body.length = routeTicketBodyBytes
    · right
      have hbodyLength : body.length = 113 := hbody
      obtain ⟨ticketId, rest₁, rfl, h₁⟩ := exists_split (show 16 ≤ body.length by omega)
      obtain ⟨routeId, rest₂, rfl, h₂⟩ := exists_split (show 16 ≤ rest₁.length by omega)
      obtain ⟨hostPublicId, rest₃, rfl, h₃⟩ := exists_split (show 16 ≤ rest₂.length by omega)
      obtain ⟨devicePublicId, rest₄, rfl, h₄⟩ := exists_split (show 16 ≤ rest₃.length by omega)
      obtain ⟨accountId, rest₅, rfl, h₅⟩ := exists_split (show 16 ≤ rest₄.length by omega)
      obtain ⟨audience, rest₆, rfl⟩ :=
        List.exists_cons_of_length_pos (show 0 < rest₅.length by omega)
      rw [List.length_cons] at h₅
      obtain ⟨issuedAt, rest₇, rfl, h₇⟩ := exists_split (show 8 ≤ rest₆.length by omega)
      obtain ⟨expiresAt, rest₈, rfl, h₈⟩ := exists_split (show 8 ≤ rest₇.length by omega)
      obtain ⟨nonce, rest₉, rfl, h₉⟩ := exists_split (show 16 ≤ rest₈.length by omega)
      obtain rfl : rest₉ = [] := List.length_eq_zero_iff.mp (by omega)
      exact ⟨⟨ticketId, routeId, hostPublicId, devicePublicId, accountId, audience, issuedAt,
        expiresAt, nonce, tag⟩, by simp [Parts.bytes, Parts.body]⟩
    · left
      rw [decode, failIf_false hmin, split_tag, pure_bind, sliceAt_front, pure_bind,
        sliceAt_back, pure_bind, failIf_false (not_not.mpr (List.prefix_append _ _)),
        sliceAt_back, pure_bind, failIf_true hbody]
  · left
    rw [decode, failIf_false hmin, split_tag, pure_bind, sliceAt_front, pure_bind,
      sliceAt_back, pure_bind, failIf_true hpre]

theorem decode_returns (key) (bytes) :
    ∃ result, decode key bytes = Checked.ofExcept result := by
  rcases decode_cases key bytes with hdeny | ⟨parts, rfl⟩
  · exact ⟨.error (.refused .invalidTicket), hdeny⟩
  · exact ⟨_, decode_parts parts⟩

omit [RelayExternals] in
theorem audienceOf_eq_ok {tag audience} :
    audienceOf tag = .ok audience ↔ audience.wireTag = tag := by
  unfold audienceOf
  by_cases hhost : tag = 1
  · subst hhost
    cases audience <;> decide
  · by_cases hdevice : tag = 2
    · subst hdevice
      cases audience <;> decide
    · rw [if_neg hhost, if_neg hdevice]
      constructor
      · nofun
      · intro h
        cases audience
        · exact absurd h.symm hhost
        · exact absurd h.symm hdevice

theorem claims_of_verify {ticket : SignedRouteTicket} {claims}
    (h : ticket.verify key = .ok claims) : claims = ticket.claims := by
  unfold verify at h
  split at h
  · cases h
  · exact (Except.ok.inj h).symm

theorem read_eq_ok {ticket : SignedRouteTicket} : parts.read key = .ok ticket ↔
    (ticket.claims.ticketId.Real ∧ ticket.claims.ticketId.uuid.bytes = parts.ticketId) ∧
      (ticket.claims.routeId.Real ∧ ticket.claims.routeId.uuid.bytes = parts.routeId) ∧
      (ticket.claims.hostPublicId.Real ∧
        ticket.claims.hostPublicId.uuid.bytes = parts.hostPublicId) ∧
      (ticket.claims.devicePublicId.Real ∧
        ticket.claims.devicePublicId.uuid.bytes = parts.devicePublicId) ∧
      (ticket.claims.accountId.Real ∧ ticket.claims.accountId.uuid.bytes = parts.accountId) ∧
      ticket.claims.audience.wireTag = parts.audience ∧
      ticket.claims.InTime ∧ ticket.claims.issuedAtUnix = ofBeBytes parts.issuedAt.toList ∧
      ticket.claims.expiresAtUnix = ofBeBytes parts.expiresAt.toList ∧
      ticket.claims.nonce = parts.nonce ∧ ticket.tag = parts.tag ∧
      ticket.verify key = .ok ticket.claims := by
  simp only [Parts.read, ok_iff, Uuid7.fromBytes_eq_ok, audienceOf_eq_ok, RouteTicket.new_eq_ok]
  constructor
  · rintro ⟨_, hticket, _, hroute, _, hhost, _, hdevice, _, hacc, _, haudience, claims,
      ⟨rfl, htime⟩, _, hver, rfl⟩
    obtain rfl := claims_of_verify hver
    exact ⟨hticket, hroute, hhost, hdevice, hacc, haudience, htime, rfl, rfl, rfl, rfl, hver⟩
  · rintro ⟨hticket, hroute, hhost, hdevice, hacc, haudience, htime, hissued, hexp, hnonce,
      htag, hver⟩
    obtain ⟨claims, tag⟩ := ticket
    dsimp only at *
    refine ⟨_, hticket, _, hroute, _, hhost, _, hdevice, _, hacc, _, haudience, claims,
      ⟨?_, htime⟩, claims, ?_, ?_⟩
    · rw [← hissued, ← hexp, ← hnonce]
    · rw [← htag]
      exact hver
    · rw [htag]

variable {ticket : SignedRouteTicket}

omit [RelayExternals] in
theorem toArray_beBytes (time : Vector UInt8 8)
    (h : (beBytes 8 (ofBeBytes time.toList)).toArray.size = 8) :
    (⟨(beBytes 8 (ofBeBytes time.toList)).toArray, h⟩ : Vector UInt8 8) = time := by
  have hbytes := beBytes_ofBeBytes time.toList
  rw [Vector.length_toList] at hbytes
  apply Vector.toList_inj.mp
  exact hbytes

/-- The parts of a ticket. -/
def Parts.ofTicket (ticket : SignedRouteTicket) : Parts :=
  { ticketId := ticket.claims.ticketId.uuid.bytes
    routeId := ticket.claims.routeId.uuid.bytes
    hostPublicId := ticket.claims.hostPublicId.uuid.bytes
    devicePublicId := ticket.claims.devicePublicId.uuid.bytes
    accountId := ticket.claims.accountId.uuid.bytes
    audience := ticket.claims.audience.wireTag
    issuedAt := ⟨(beBytes 8 ticket.claims.issuedAtUnix).toArray, by simp⟩
    expiresAt := ⟨(beBytes 8 ticket.claims.expiresAtUnix).toArray, by simp⟩
    nonce := ticket.claims.nonce
    tag := ticket.tag }

variable (huu : ∀ {kind : IdKind} (id : Uuid7 kind), RelayExternals.uuidBytes id = id.uuid.bytes)

include huu

theorem encode_eq (ticket : SignedRouteTicket) : ticket.encode = (Parts.ofTicket ticket).bytes := by
  simp [encode, RouteTicket.canonicalBytes, Parts.ofTicket, Parts.bytes, Parts.body,
    routeTicketDomain, huu]

theorem encode_decode (h : decode key bytes = pure ticket) : ticket.encode = bytes := by
  rcases decode_cases key bytes with hdeny | ⟨parts, rfl⟩
  · rw [hdeny] at h
    cases h
  rw [decode_parts] at h
  have hread : parts.read key = .ok ticket := Option.some.inj h
  obtain ⟨hticket, hroute, hhost, hdevice, hacc, haudience, htime, hissued, hexp, hnonce,
    htag, hver⟩ := read_eq_ok.mp hread
  have hparts : Parts.ofTicket ticket = parts := by
    unfold Parts.ofTicket
    simp only [hticket.2, hroute.2, hhost.2, hdevice.2, hacc.2, haudience, hissued, hexp,
      hnonce, htag, toArray_beBytes]
  rw [encode_eq huu, hparts]

omit huu

/-- What a host issues: identifiers of 122 bits, times of 64 bits, and claims that `new` made. -/
structure Issuable (claims : RouteTicket) : Prop where
  ids : claims.ticketId.Real ∧ claims.routeId.Real ∧ claims.hostPublicId.Real ∧
    claims.devicePublicId.Real ∧ claims.accountId.Real
  times : claims.issuedAtUnix < 2 ^ 64 ∧ claims.expiresAtUnix < 2 ^ 64
  made : RouteTicket.new claims.ticketId claims.routeId claims.hostPublicId claims.devicePublicId
    claims.accountId claims.audience claims.issuedAtUnix claims.expiresAtUnix claims.nonce =
      .ok claims

theorem verify_issue (key) (claims) :
    (issue key claims).verify key = .ok claims := by
  unfold verify issue
  exact if_neg (not_not.mpr (constantTimeEq_self _))

theorem decode_issue
    (huu : ∀ {kind : IdKind} (id : Uuid7 kind), RelayExternals.uuidBytes id = id.uuid.bytes)
    {claims} (h : Issuable claims) :
    decode key (issue key claims).encode = pure (issue key claims) := by
  obtain ⟨hticket, hroute, hhost, hdevice, hacc⟩ := h.ids
  have hissued := ofBeBytes_beBytes 8 _ h.times.1
  have hexp := ofBeBytes_beBytes 8 _ h.times.2
  have htime := (RouteTicket.new_eq_ok.mp h.made).2
  have hread : (Parts.ofTicket (issue key claims)).read key = .ok (issue key claims) :=
    read_eq_ok.mpr ⟨⟨hticket, rfl⟩, ⟨hroute, rfl⟩, ⟨hhost, rfl⟩, ⟨hdevice, rfl⟩, ⟨hacc, rfl⟩,
      rfl, htime, hissued.symm, hexp.symm, rfl, rfl, verify_issue key claims⟩
  rw [encode_eq huu, decode_parts, hread]
  rfl

end SignedRouteTicket

/-- A valid frame is decoded from its encoding, and what is decoded encodes to the same bytes. The
same holds of the tickets issued under a key, where an identifier is written as its 16 bytes.
Neither decoder panics, on any input. -/
theorem frames_and_tickets_one_encoding
    (huuid : ∀ {kind : IdKind} (id : Uuid7 kind), RelayExternals.uuidBytes id = id.uuid.bytes) :
    ((∀ frame, frame.sequence < 2 ^ 64 → frame.validate = .ok () →
          ∃ bytes, frame.encode = .ok bytes ∧ decode bytes = pure frame) ∧
        (∀ bytes frame, decode bytes = pure frame → frame.encode = .ok bytes) ∧
        ∀ bytes, ∃ result, decode bytes = Checked.ofExcept result) ∧
      (∀ key claims, SignedRouteTicket.Issuable claims →
          SignedRouteTicket.decode key (SignedRouteTicket.issue key claims).encode =
            pure (SignedRouteTicket.issue key claims)) ∧
        (∀ key bytes ticket, SignedRouteTicket.decode key bytes = pure ticket →
          ticket.encode = bytes) ∧
        ∀ key bytes, ∃ result, SignedRouteTicket.decode key bytes = Checked.ofExcept result := by
  refine ⟨⟨?_, ?_, decode_returns⟩, ?_, ?_, SignedRouteTicket.decode_returns⟩
  · intro frame hseq hvalid
    have henc : frame.encode = .ok frame.bytes := by
      rw [encode, hvalid]
      rfl
    exact ⟨frame.bytes, henc, SealedFrame.decode_encode hseq henc⟩
  · intro bytes frame h
    exact encode_decode h
  · intro key claims h
    exact SignedRouteTicket.decode_issue huuid h
  · intro key bytes ticket h
    exact SignedRouteTicket.encode_decode huuid h

end Tickets

@[reducible] def zeroTags : RelayExternals :=
  { hmacSha256 := fun _ _ => Vector.replicate 32 0, uuidBytes := fun id => id.uuid.bytes }

def fiveMinutes : RouteTicket :=
  { ticketId := ⟨1⟩
    routeId := ⟨2⟩
    hostPublicId := ⟨3⟩
    devicePublicId := ⟨4⟩
    accountId := ⟨5⟩
    audience := .hostSocket
    issuedAtUnix := 1000
    expiresAtUnix := 1300
    nonce := Vector.replicate 16 7 }

theorem frames_and_tickets_one_encoding_decoded :
    letI := zeroTags
    let key : TicketSigningKey := ⟨Vector.replicate 32 0⟩
    SignedRouteTicket.Issuable fiveMinutes ∧
      SignedRouteTicket.decode key (SignedRouteTicket.issue key fiveMinutes).encode =
        pure (SignedRouteTicket.issue key fiveMinutes) := by
  have hissuable : SignedRouteTicket.Issuable fiveMinutes :=
    ⟨⟨by decide, by decide, by decide, by decide, by decide⟩, ⟨by decide, by decide⟩, by decide⟩
  exact ⟨hissuable, (@frames_and_tickets_one_encoding zeroTags fun _ => rfl).2.1 _ fiveMinutes
    hissuable⟩

end DevManager
