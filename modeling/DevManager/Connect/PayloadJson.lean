import DevManager.Domain.Id
import DevManager.Lib.Result
import DevManager.Lib.Serde

/-!
# Connect payloads as JSON and MessagePack (`crates/connect-crypto/src/wire.rs`)

The browser hands payloads over as JSON. `encodeConnectPayloadMsgpack` parses the document, tells a
MessagePack serializer its values, and writes bytes for the objects that are exactly a
`$connectBinary` marker. `decodeMsgpackToJson` reads MessagePack with the visitor that also parses.

* `visitValue_spec`: a value that the visitor makes shows the document, and its numbers are in the
  form that a second visit keeps.
* `visitValue_serialize`: what a second visit makes of a value.
-/

namespace DevManager

open List

namespace PayloadJson

/-- `PayloadJsonError`, L49-50 -/
inductive PayloadJsonError
  | rejected

/-! ## Limits (L20-32) -/

def maxPhysicalFrameBytes : ℕ := 1024 * 1024

def maxReassembledMessageBytes : ℕ := 16 * 1024 * 1024

def maxPayloadJsonDepth : ℕ := 128

def maxDecodedJsonBytes : ℕ := 64 * 1024 * 1024

def jsMaxSafeInteger : ℕ := 9007199254740991

def connectBinaryKey : String := "$connectBinary"

/-! ## The packages -/

/-- The functions of `serde_json`, `rmp_serde` and `base64`, and the size of a value. -/
class PayloadExternals where
  /-- `std::mem::size_of::<Value>()`. -/
  valueSize : ℕ
  /-- `f64::from` of an `f32`. -/
  widen : BitVec 32 → F64
  /-- `serde_json::Deserializer::from_str`: what the first value of a text shows, and whether
      `end()` finds nothing but blanks behind it. -/
  shownJson : String → Option (Shown × Bool)
  /-- `rmp_serde::to_vec_named`. -/
  toVecNamed : Told → Option (List UInt8)
  /-- `rmp_serde::Deserializer` with a depth: what the first value shows, and the position behind
      it. -/
  shownMsgpack : ℕ → List UInt8 → Option (Shown × ℕ)
  /-- `STANDARD.encode`. -/
  base64Encode : List UInt8 → String
  /-- `STANDARD.decode`. -/
  base64Decode : String → Option (List UInt8)

section Codec

open PayloadExternals

variable [PayloadExternals]

/-! ## The visitor -/

/-- `account` (L81-87), of the bytes used so far. -/
def account (used bytes : ℕ) : Except PayloadJsonError ℕ := do
  let used := saturatingAdd used bytes
  failIf (used > maxDecodedJsonBytes) .rejected
  pure used

/-- `account_value`, L89-91 -/
def accountValue (used : ℕ) : Except PayloadJsonError ℕ := account used valueSize

/-- `account_string`, L93-95 -/
def accountString (used len : ℕ) : Except PayloadJsonError ℕ :=
  account used (saturatingAdd valueSize len)

/-- `account_binary_array`, L97-102 -/
def accountBinaryArray (used len : ℕ) : Except PayloadJsonError ℕ :=
  account used (saturatingAdd valueSize (min (len * valueSize) u64Max))

/-- `max_container_len_hint`, L109-111 -/
def maxContainerLenHint : ℕ := maxDecodedJsonBytes / max valueSize 1

/-- `js_safe_i64`, L113-118 -/
def jsSafeI64 (value : ℤ) : Except PayloadJsonError ℤ := do
  failIf (¬ (-jsMaxSafeInteger ≤ value ∧ value ≤ jsMaxSafeInteger)) .rejected
  pure value

/-- `js_safe_u64`, L120-125 -/
def jsSafeU64 (value : ℕ) : Except PayloadJsonError ℕ := do
  failIf (value > jsMaxSafeInteger) .rejected
  pure value

/-- `js_safe_f64`, L127-138 -/
def jsSafeF64 (value : F64) : Except PayloadJsonError F64 := do
  failIf (¬ value.isFinite = true) .rejected
  failIf (value.isIntegral = true ∧ value.magnitude > jsMaxSafeInteger) .rejected
  pure value

/-- `visit_f64`, L195-206 -/
def visitF64 (value : F64) (used : ℕ) : Except PayloadJsonError (JsonValue × ℕ) := do
  let value ← jsSafeF64 value
  let used ← accountValue used
  if value.isIntegral then pure (.number (.ofInt value.toInt), used)
  else pure (.number (.float value.bits), used)

/-- `visit_bytes`, L222-236 -/
def visitBytes (value : List UInt8) (used : ℕ) : Except PayloadJsonError (JsonValue × ℕ) := do
  failIf (value.length > maxPhysicalFrameBytes) .rejected
  let used ← accountBinaryArray used value.length
  pure (.ofBytes value, used)

/-- `StringKeyVisitor`, L332-360 -/
def visitKey (key : Shown) (used : ℕ) : Except PayloadJsonError (String × ℕ) :=
  match key with
  | .str text => do
    let used ← account used text.utf8ByteSize
    pure (text, used)
  | _ => .error .rejected

mutual

/-- `ValueVisitor` (L158-313): the value of what is shown, and the bytes used behind it. -/
def visitValue : Shown → ℕ → Except PayloadJsonError (JsonValue × ℕ)
  | .bool value, used => do
    let used ← accountValue used
    pure (.bool value, used)
  | .i64 value, used => do
    let value ← jsSafeI64 value
    let used ← accountValue used
    pure (.number (.ofInt value), used)
  | .u64 value, used => do
    let value ← jsSafeU64 value
    let used ← accountValue used
    pure (.number (.posInt value), used)
  | .i128, _ | .u128, _ => .error .rejected
  | .f64 value, used => visitF64 value used
  | .f32 bits, used => visitF64 (widen bits) used
  | .str text, used => do
    let used ← accountString used text.utf8ByteSize
    pure (.string text, used)
  | .bytes value, used => visitBytes value used
  | .none, used | .unit, used => do
    let used ← accountValue used
    pure (.null, used)
  | .some inner, used => visitValue inner used
  | .newtypeStruct, _ => .error .rejected
  | .seq hintent items, used => do
    let used ← accountValue used
    failIf (hintent.any (· > maxContainerLenHint) = true) .rejected
    let (items, used) ← visitSeq items used
    pure (.array items, used)
  | .map hintent entries, used => do
    let used ← accountValue used
    failIf (hintent.any (· > maxContainerLenHint) = true) .rejected
    let (object, used) ← visitMap entries [] used
    pure (.object object, used)

/-- The loop of `visit_seq` (L281-285). -/
def visitSeq : List Shown → ℕ → Except PayloadJsonError (List JsonValue × ℕ)
  | [], used => pure ([], used)
  | item :: items, used => do
    let (value, used) ← visitValue item used
    let (values, used) ← visitSeq items used
    pure (value :: values, used)

/-- The loop of `visit_map` (L300-310). -/
def visitMap : List (Shown × Shown) → List (String × JsonValue) → ℕ →
    Except PayloadJsonError (List (String × JsonValue) × ℕ)
  | [], object, used => pure (object, used)
  | (key, value) :: entries, object, used => do
    let (key, used) ← visitKey key used
    failIf (key ∈ object.map Prod.fst) .rejected
    let (value, used) ← visitValue value used
    visitMap entries (JsonValue.insertField key value object) used

end

/-! ## The codecs -/

/-- `decode_msgpack_to_json`, L362-375 -/
def decodeMsgpackToJson (input : List UInt8) : Except PayloadJsonError JsonValue := do
  let (shown, position) ← okOr (shownMsgpack maxPayloadJsonDepth input) .rejected
  let (value, _) ← visitValue shown 0
  failIf (position ≠ input.length) .rejected
  pure value

/-- `parse_json_to_value`, L377-390 -/
def parseJsonToValue (input : String) : Except PayloadJsonError JsonValue := do
  failIf (input.utf8ByteSize = 0 ∨ input.utf8ByteSize > maxDecodedJsonBytes) .rejected
  let (shown, atEnd) ← okOr (shownJson input) .rejected
  let (value, _) ← visitValue shown 0
  failIf (¬ atEnd = true) .rejected
  pure value

/-- `decode_connect_binary_marker`, L392-418 -/
def decodeConnectBinaryMarker (map : List (String × JsonValue)) :
    Except PayloadJsonError (Option (List UInt8)) :=
  if connectBinaryKey ∉ map.map Prod.fst then pure none
  else if map.length ≠ 1 then .error .rejected
  else
    match map.lookup connectBinaryKey with
    | some (.string encoded) => do
      failIf (encoded.utf8ByteSize > (maxReassembledMessageBytes + 2) / 3 * 4) .rejected
      let decoded ← okOr (base64Decode encoded) .rejected
      failIf (decoded.length > maxReassembledMessageBytes) .rejected
      failIf (base64Encode decoded ≠ encoded) .rejected
      pure (some decoded)
    | _ => .error .rejected

/-- What a number tells (L436-446): `as_i64`, else `as_u64`, else `as_f64`. -/
def serializeNumber : JsonNumber → Told
  | .posInt n => if n < 2 ^ 63 then .i64 n else .u64 n
  | .negInt n => .i64 (.negSucc n)
  | .float bits => .f64 ⟨bits⟩

mutual

/-- `EncodeNode::serialize` (L425-476), of a value and its depth. -/
def serialize : JsonValue → ℕ → Except PayloadJsonError Told
  | value, depth =>
    if depth > maxPayloadJsonDepth then .error .rejected
    else
      match value with
      | .null => pure .unit
      | .bool value => pure (.bool value)
      | .number number => pure (serializeNumber number)
      | .string text => pure (.str text)
      | .array items => do
        let items ← serializeItems items (depth + 1)
        pure (.seq items)
      | .object fields => do
        match ← decodeConnectBinaryMarker fields with
        | some bytes => pure (.bytes bytes)
        | none => do
          let entries ← serializeFields fields (depth + 1)
          pure (.map entries)

def serializeItems : List JsonValue → ℕ → Except PayloadJsonError (List Told)
  | [], _ => pure []
  | item :: items, depth => do
    let told ← serialize item depth
    let tolds ← serializeItems items depth
    pure (told :: tolds)

def serializeFields : List (String × JsonValue) → ℕ → Except PayloadJsonError (List (String × Told))
  | [], _ => pure []
  | (name, value) :: fields, depth => do
    let told ← serialize value depth
    let tolds ← serializeFields fields depth
    pure ((name, told) :: tolds)

end

/-- `encode_connect_payload_msgpack`, L484-495 -/
def encodeConnectPayloadMsgpack (input : String) : Except PayloadJsonError (List UInt8) := do
  let value ← parseJsonToValue input
  let told ← serialize value 0
  let bytes ← okOr (toVecNamed told) .rejected
  failIf (bytes = [] ∨ bytes.length > maxReassembledMessageBytes) .rejected
  pure bytes

/-! ## What the visitor makes -/

/-- A number in the form that a second visit keeps. -/
def SettledNumber : JsonNumber → Prop
  | .posInt n => n ≤ jsMaxSafeInteger
  | .negInt n => n + 1 ≤ jsMaxSafeInteger
  | .float bits => (⟨bits⟩ : F64).isIntegral = false

mutual

/-- A value whose numbers are settled and whose objects are ordered. -/
def Settled : JsonValue → Prop
  | .null | .bool _ | .string _ => True
  | .number number => SettledNumber number
  | .array items => SettledItems items
  | .object fields => JsonValue.Ordered fields ∧ SettledFields fields

def SettledItems : List JsonValue → Prop
  | [] => True
  | item :: items => Settled item ∧ SettledItems items

def SettledFields : List (String × JsonValue) → Prop
  | [] => True
  | (_, value) :: fields => Settled value ∧ SettledFields fields

end

omit [PayloadExternals] in
theorem settledItems_iff {items} :
    SettledItems items ↔ ∀ item ∈ items, Settled item := by
  induction items with
  | nil => simp [SettledItems]
  | cons item items ih => rw [SettledItems, ih, forall_mem_cons]

variable {fields : List (String × JsonValue)}

omit [PayloadExternals] in
theorem settledFields_iff : SettledFields fields ↔ ∀ field ∈ fields, Settled field.2 := by
  induction fields with
  | nil => simp [SettledFields]
  | cons field fields ih => rw [SettledFields, ih, forall_mem_cons]

variable {used used' : ℕ} {value : JsonValue}

omit [PayloadExternals] in
theorem settled_ofInt {n : ℤ} (h : -jsMaxSafeInteger ≤ n ∧ n ≤ jsMaxSafeInteger) :
    SettledNumber (.ofInt n) := by
  cases n with
  | ofNat n =>
    show n ≤ jsMaxSafeInteger
    exact Int.ofNat_le.mp h.2
  | negSucc n =>
    show n + 1 ≤ jsMaxSafeInteger
    omega

theorem visitF64_eq_ok {x : F64} (h : visitF64 x used = .ok (value, used')) :
    value = .ofFloat x ∧ Settled value := by
  simp only [visitF64, jsSafeF64, ok_iff] at h
  obtain ⟨x, ⟨_, hsafe, rfl⟩, _, _, h⟩ := h
  rw [not_and, not_lt] at hsafe
  by_cases hin : x.isIntegral = true
  · rw [if_pos hin] at h
    obtain ⟨rfl, -⟩ := Prod.mk.inj (Except.ok.inj h)
    refine ⟨by rw [JsonValue.ofFloat, if_pos hin], settled_ofInt ?_⟩
    have hmagnitude := hsafe hin
    unfold F64.toInt
    split <;> omega
  · rw [if_neg hin] at h
    obtain ⟨rfl, -⟩ := Prod.mk.inj (Except.ok.inj h)
    refine ⟨by rw [JsonValue.ofFloat, if_neg hin], ?_⟩
    show x.isIntegral = false
    exact Bool.eq_false_iff.mpr hin

omit [PayloadExternals] in
theorem settled_ofBytes (bytes) : Settled (.ofBytes bytes) := by
  unfold JsonValue.ofBytes
  rw [Settled, settledItems_iff]
  intro item hitem
  obtain ⟨byte, -, rfl⟩ := mem_map.mp hitem
  exact (Nat.le_of_lt byte.toNat_lt).trans (by decide)

theorem visitBytes_eq_ok {bytes} (h : visitBytes bytes used = .ok (value, used')) :
    value = .ofBytes bytes := by
  simp only [visitBytes, ok_iff] at h
  obtain ⟨_, _, _, h, _⟩ := h
  exact h

omit [PayloadExternals] in
theorem visitKey_eq_ok {key name} (h : visitKey key used = .ok (name, used')) :
    key = .str name := by
  unfold visitKey at h
  split at h
  · simp only [ok_iff] at h
    obtain ⟨_, _, h, _⟩ := h
    rw [h]
  · cases h

omit [PayloadExternals] in
theorem depictsMembers_perm (widen : BitVec 32 → F64) {entries fields'}
    (hperm : fields'.Perm fields)
    (h : JsonValue.DepictsMembers widen entries fields) :
    JsonValue.DepictsMembers widen entries fields' := by
  cases entries with
  | nil =>
    obtain rfl : fields = [] := h
    exact hperm.eq_nil
  | cons entry entries =>
    obtain ⟨name, value, rest, hkey, hval, hsplit, hrest⟩ := h
    exact ⟨name, value, rest, hkey, hval, hperm.trans hsplit, hrest⟩

mutual

theorem visitValue_spec (shown : Shown) {used used' : ℕ} {value}
    (h : visitValue shown used = .ok (value, used')) :
    JsonValue.Depicts widen shown value ∧ Settled value := by
  cases shown with
  | unit | none | bool | str =>
    simp only [visitValue, ok_iff] at h
    obtain ⟨_, _, rfl, -⟩ := h
    exact ⟨rfl, trivial⟩
  | some inner =>
    rw [visitValue] at h
    exact visitValue_spec inner h
  | newtypeStruct | i128 | u128 =>
    rw [visitValue] at h
    cases h
  | i64 n =>
    simp only [visitValue, jsSafeI64, ok_iff] at h
    obtain ⟨n, ⟨hsafe, rfl⟩, _, _, rfl, -⟩ := h
    exact ⟨rfl, settled_ofInt hsafe⟩
  | u64 n =>
    simp only [visitValue, jsSafeU64, ok_iff, not_lt] at h
    obtain ⟨n, ⟨hsafe, rfl⟩, _, _, rfl, -⟩ := h
    exact ⟨rfl, hsafe⟩
  | f32 | f64 =>
    rw [visitValue] at h
    exact visitF64_eq_ok h
  | bytes bytes =>
    rw [visitValue] at h
    obtain rfl := visitBytes_eq_ok h
    exact ⟨rfl, settled_ofBytes bytes⟩
  | seq hintent items =>
    simp only [visitValue, ok_iff, Prod.exists] at h
    obtain ⟨_, _, _, values, _, hitems, rfl, -⟩ := h
    obtain ⟨hdepicts, hsettled⟩ := visitSeq_spec items hitems
    exact ⟨⟨values, rfl, hdepicts⟩, hsettled⟩
  | map hintent entries =>
    simp only [visitValue, ok_iff, Prod.exists] at h
    obtain ⟨_, _, _, fields, _, hentry, rfl, -⟩ := h
    obtain ⟨members, hperm, hmem, hord, hsettled⟩ :=
      visitMap_spec entries hentry List.Pairwise.nil trivial
    exact ⟨⟨fields, rfl, hord, depictsMembers_perm widen hperm hmem⟩, hord, hsettled⟩

theorem visitSeq_spec (items) {used used' : ℕ} {values}
    (h : visitSeq items used = .ok (values, used')) :
    JsonValue.DepictsItems widen items values ∧ SettledItems values := by
  cases items with
  | nil =>
    simp only [visitSeq, pure_eq_ok, Prod.mk.injEq] at h
    obtain ⟨rfl, -⟩ := h
    exact ⟨rfl, trivial⟩
  | cons item items =>
    simp only [visitSeq, ok_iff, Prod.exists] at h
    obtain ⟨value, _, hval, rest, _, hrest, rfl, -⟩ := h
    obtain ⟨hdepicts, hsettled⟩ := visitValue_spec item hval
    obtain ⟨hdepictsRest, hset⟩ := visitSeq_spec items hrest
    exact ⟨⟨value, rest, rfl, hdepicts, hdepictsRest⟩, hsettled, hset⟩

theorem visitMap_spec (entries) {used used' : ℕ} {object object'}
    (h : visitMap entries object used = .ok (object', used')) (hord : JsonValue.Ordered object)
    (hsettled : SettledFields object) :
    ∃ members, object'.Perm (object ++ members) ∧ JsonValue.DepictsMembers widen entries members ∧
      JsonValue.Ordered object' ∧ SettledFields object' := by
  cases entries with
  | nil =>
    simp only [visitMap, pure_eq_ok, Prod.mk.injEq] at h
    obtain ⟨rfl, -⟩ := h
    exact ⟨[], by rw [append_nil], rfl, hord, hsettled⟩
  | cons entry entries =>
    obtain ⟨key, shown⟩ := entry
    simp only [visitMap, ok_iff, Prod.exists] at h
    obtain ⟨name, _, hkey, hfresh, value, _, hval, hentry⟩ := h
    obtain ⟨hdepicts, hset⟩ := visitValue_spec shown hval
    have hins := JsonValue.insertField_perm name value object
    have hsettle : SettledFields (JsonValue.insertField name value object) := by
      rw [settledFields_iff] at hsettled ⊢
      intro field hfield
      rcases mem_cons.mp (hins.mem_iff.mp hfield) with rfl | hfield
      · exact hset
      · exact hsettled field hfield
    obtain ⟨members, hperm, hmem, hor', hsettle'⟩ := visitMap_spec entries hentry
      (JsonValue.ordered_insertField hord hfresh) hsettle
    refine ⟨(name, value) :: members, ?_, ⟨name, value, members, visitKey_eq_ok hkey, hdepicts,
      List.Perm.refl _, hmem⟩, hor', hsettle'⟩
    exact hperm.trans ((hins.append_right members).trans perm_middle.symm)

end

/-! ## A second visit -/

/-- The bytes of an object that is exactly a canonical marker. -/
def markerBytes : List (String × JsonValue) → Option (List UInt8)
  | [(name, .string text)] =>
    if name = connectBinaryKey then
      (base64Decode text).filter fun bytes => base64Encode bytes = text
    else none
  | _ => none

mutual

/-- The value with the array of its bytes for each marker. -/
def withBytes : JsonValue → JsonValue
  | .null => .null
  | .bool value => .bool value
  | .number number => .number number
  | .string text => .string text
  | .array items => .array (withBytesItems items)
  | .object fields =>
    match markerBytes fields with
    | some bytes => .ofBytes bytes
    | none => .object (withBytesFields fields)

def withBytesItems : List JsonValue → List JsonValue
  | [] => []
  | item :: items => withBytes item :: withBytesItems items

def withBytesFields : List (String × JsonValue) → List (String × JsonValue)
  | [] => []
  | (name, value) :: fields => (name, withBytes value) :: withBytesFields fields

end

variable {fields : List (String × JsonValue)}

theorem markerBytes_eq_none
    (h : connectBinaryKey ∉ fields.map Prod.fst) : markerBytes fields = none := by
  unfold markerBytes
  split
  · rename_i name text
    rw [if_neg]
    rintro rfl
    exact h (.head _)
  · rfl

theorem decodeConnectBinaryMarker_eq_ok
    {marker} (h : decodeConnectBinaryMarker fields = .ok marker) :
    marker = markerBytes fields ∧ (marker = none → connectBinaryKey ∉ fields.map Prod.fst) ∧
      ∀ bytes, marker = some bytes → bytes.length ≤ maxReassembledMessageBytes ∧
        fields = [(connectBinaryKey, .string (base64Encode bytes))] := by
  unfold decodeConnectBinaryMarker at h
  by_cases hkey : connectBinaryKey ∉ fields.map Prod.fst
  · rw [if_pos hkey] at h
    obtain rfl : none = marker := Except.ok.inj h
    exact ⟨(markerBytes_eq_none hkey).symm, fun _ => hkey, nofun⟩
  rw [if_neg hkey] at h
  by_cases hlen : fields.length ≠ 1
  · rw [if_pos hlen] at h
    cases h
  rw [if_neg hlen] at h
  obtain ⟨⟨name, value⟩, rfl⟩ := length_eq_one_iff.mp (not_not.mp hlen)
  obtain rfl : connectBinaryKey = name := by simpa using hkey
  rw [lookup_cons, beq_self_eq_true] at h
  cases value with
  | string encoded =>
    simp only [ok_iff, not_lt] at h
    obtain ⟨_, decoded, hdec, hmax, hcan, rfl⟩ := h
    refine ⟨?_, nofun, ?_⟩
    · rw [markerBytes, if_pos rfl, hdec, Option.filter_some, if_pos (decide_eq_true hcan)]
    · intro bytes hbytes
      obtain rfl := Option.some.inj hbytes
      exact ⟨hmax, by rw [hcan]⟩
  | null => cases h
  | bool => cases h
  | number => cases h
  | array => cases h
  | object => cases h

theorem visitValue_serializeNumber {number} {used used' : ℕ} {decoded}
    (hsettled : SettledNumber number)
    (h : visitValue (serializeNumber number).shown used = .ok (decoded, used')) :
    decoded = .number number := by
  have hdepicts := (visitValue_spec _ h).1
  cases number with
  | posInt n =>
    have hlt : n < 2 ^ 63 := by
      unfold SettledNumber jsMaxSafeInteger at hsettled
      omega
    rw [serializeNumber, if_pos hlt, Told.shown, if_pos (Int.natCast_nonneg n)] at hdepicts
    exact hdepicts
  | negInt n =>
    have hneg : ¬ (0 : ℤ) ≤ .negSucc n := by omega
    rw [serializeNumber, Told.shown, if_neg hneg] at hdepicts
    exact hdepicts
  | float bits =>
    have hin : ¬ (⟨bits⟩ : F64).isIntegral = true := Bool.eq_false_iff.mp hsettled
    rw [serializeNumber, Told.shown, JsonValue.Depicts, JsonValue.ofFloat, if_neg hin] at hdepicts
    exact hdepicts

mutual

theorem visitValue_serialize (value) {depth used used' : ℕ} {told : Told}
    {decoded} (hsettled : Settled value) (htold : serialize value depth = .ok told)
    (h : visitValue told.shown used = .ok (decoded, used')) : decoded = withBytes value := by
  unfold serialize at htold
  by_cases hdepth : depth > maxPayloadJsonDepth
  · rw [if_pos hdepth] at htold
    cases htold
  rw [if_neg hdepth] at htold
  cases value with
  | null =>
    obtain rfl : Told.unit = told := Except.ok.inj htold
    exact (visitValue_spec _ h).1
  | bool value =>
    obtain rfl : Told.bool value = told := Except.ok.inj htold
    exact (visitValue_spec _ h).1
  | number number =>
    obtain rfl : serializeNumber number = told := Except.ok.inj htold
    exact visitValue_serializeNumber hsettled h
  | string text =>
    obtain rfl : Told.str text = told := Except.ok.inj htold
    exact (visitValue_spec _ h).1
  | array items =>
    simp only [ok_iff] at htold
    obtain ⟨tolds, htolds, rfl⟩ := htold
    simp only [Told.shown, visitValue, ok_iff, Prod.exists] at h
    obtain ⟨_, _, _, values, _, hval, rfl, -⟩ := h
    rw [withBytes, visitSeq_serialize items hsettled htolds hval]
  | object fields =>
    simp only [bind_eq_ok] at htold
    obtain ⟨marker, hmarker, htold⟩ := htold
    obtain ⟨rfl, -, -⟩ := decodeConnectBinaryMarker_eq_ok hmarker
    rw [withBytes]
    cases hbytes : markerBytes fields with
    | some bytes =>
      rw [hbytes] at htold
      obtain rfl : Told.bytes bytes = told := Except.ok.inj htold
      exact (visitValue_spec _ h).1
    | none =>
      rw [hbytes] at htold
      simp only [ok_iff] at htold
      obtain ⟨tolds, htolds, rfl⟩ := htold
      simp only [Told.shown, visitValue, ok_iff, Prod.exists] at h
      obtain ⟨_, _, _, object, _, hobject, rfl, -⟩ := h
      have hkept := visitMap_serialize fields hsettled.2 htolds
        (show JsonValue.Ordered ([] ++ fields) from hsettled.1) hobject
      rw [hkept, nil_append]
termination_by structural value

theorem visitSeq_serialize (items) {depth used used' : ℕ} {tolds} {decoded}
    (hsettled : SettledItems items) (htolds : serializeItems items depth = .ok tolds)
    (h : visitSeq (Told.shownItems tolds) used = .ok (decoded, used')) :
    decoded = withBytesItems items := by
  cases items with
  | nil =>
    obtain rfl : [] = tolds := Except.ok.inj htolds
    simp only [Told.shownItems, visitSeq, pure_eq_ok, Prod.mk.injEq] at h
    exact h.1
  | cons item items =>
    simp only [serializeItems, ok_iff] at htolds
    obtain ⟨told, htold, rest, hrest, rfl⟩ := htolds
    simp only [Told.shownItems, visitSeq, ok_iff, Prod.exists] at h
    obtain ⟨value, _, hval, values, _, hvalues, rfl, -⟩ := h
    rw [withBytesItems, visitValue_serialize item hsettled.1 htold hval,
      visitSeq_serialize items hsettled.2 hrest hvalues]
termination_by structural items

theorem visitMap_serialize (fields) {depth used used' : ℕ} {tolds object decoded}
    (hsettled : SettledFields fields) (htolds : serializeFields fields depth = .ok tolds)
    (hord : JsonValue.Ordered (object ++ fields))
    (h : visitMap (Told.shownEntries tolds) object used = .ok (decoded, used')) :
    decoded = object ++ withBytesFields fields := by
  cases fields with
  | nil =>
    obtain rfl : [] = tolds := Except.ok.inj htolds
    simp only [Told.shownEntries, visitMap, pure_eq_ok, Prod.mk.injEq] at h
    rw [withBytesFields, append_nil]
    exact h.1
  | cons field fields =>
    obtain ⟨name, value⟩ := field
    simp only [serializeFields, ok_iff] at htolds
    obtain ⟨told, htold, rest, hrest, rfl⟩ := htolds
    simp only [Told.shownEntries, visitMap, ok_iff, Prod.exists] at h
    obtain ⟨_, _, hkey, _, item, _, hitem, hdec⟩ := h
    obtain rfl := Shown.str.inj (visitKey_eq_ok hkey)
    obtain rfl := visitValue_serialize value hsettled.1 htold hitem
    obtain ⟨-, hfields, hpre⟩ := pairwise_append.mp hord
    have hlast : JsonValue.insertField name (withBytes value) object =
        object ++ [(name, withBytes value)] :=
      JsonValue.insertField_last fun field hfield => hpre field hfield _ (.head _)
    have hor' : JsonValue.Ordered (object ++ [(name, withBytes value)] ++ fields) := by
      rw [JsonValue.ordered_iff] at hord ⊢
      simpa using hord
    rw [hlast] at hdec
    rw [withBytesFields, visitMap_serialize fields hsettled.2 hrest hor' hdec,
      append_assoc, singleton_append]
termination_by structural fields

end

/-! ## Markers at any depth -/

variable {depth : ℕ}

theorem serializeItems_mem {items} {item}
    {tolds} (h : serializeItems items depth = .ok tolds) (hitem : item ∈ items) :
    ∃ told, serialize item depth = .ok told := by
  induction items generalizing tolds with
  | nil => cases hitem
  | cons first items ih =>
    simp only [serializeItems, ok_iff] at h
    obtain ⟨told, htold, rest, hrest, -⟩ := h
    rcases mem_cons.mp hitem with rfl | hitem
    · exact ⟨told, htold⟩
    · exact ih hrest hitem

variable {fields : List (String × JsonValue)}

theorem serializeFields_mem {field tolds} (h : serializeFields fields depth = .ok tolds)
    (hfield : field ∈ fields) : ∃ told, serialize field.2 depth = .ok told := by
  induction fields generalizing tolds with
  | nil => cases hfield
  | cons first fields ih =>
    simp only [serializeFields, ok_iff] at h
    obtain ⟨told, htold, rest, hrest, -⟩ := h
    rcases mem_cons.mp hfield with rfl | hfield
    · exact ⟨told, htold⟩
    · exact ih hrest hfield

theorem serialize_within {inner value} (hwithin : JsonValue.Within inner value) {told : Told}
    (h : serialize value depth = .ok told) :
    ∃ depth told, serialize inner depth = .ok told := by
  induction hwithin generalizing depth told with
  | refl => exact ⟨depth, told, h⟩
  | item hmem _ ih =>
    unfold serialize at h
    by_cases hdepth : depth > maxPayloadJsonDepth
    · rw [if_pos hdepth] at h
      cases h
    rw [if_neg hdepth] at h
    simp only [ok_iff] at h
    obtain ⟨tolds, htolds, -⟩ := h
    obtain ⟨told, htold⟩ := serializeItems_mem htolds hmem
    exact ih htold
  | @field field fields hmem hinner ih =>
    unfold serialize at h
    by_cases hdepth : depth > maxPayloadJsonDepth
    · rw [if_pos hdepth] at h
      cases h
    rw [if_neg hdepth] at h
    simp only [bind_eq_ok] at h
    obtain ⟨marker, hmarker, h⟩ := h
    cases marker with
    | none =>
      simp only [ok_iff] at h
      obtain ⟨tolds, htolds, -⟩ := h
      obtain ⟨told, htold⟩ := serializeFields_mem htolds hmem
      exact ih htold
    | some bytes =>
      -- nothing but a text is inside a marker
      obtain ⟨-, rfl⟩ := (decodeConnectBinaryMarker_eq_ok hmarker).2.2 bytes rfl
      obtain rfl := mem_singleton.mp hmem
      exact ih (show serialize (.string (base64Encode bytes)) 0 = .ok (.str _) from rfl)

theorem serialize_marker {told : Told} (h : serialize (.object fields) depth = .ok told)
    (hkey : connectBinaryKey ∈ fields.map Prod.fst) :
    ∃ bytes, bytes.length ≤ maxReassembledMessageBytes ∧
      fields = [(connectBinaryKey, .string (base64Encode bytes))] := by
  unfold serialize at h
  by_cases hdepth : depth > maxPayloadJsonDepth
  · rw [if_pos hdepth] at h
    cases h
  rw [if_neg hdepth] at h
  simp only [bind_eq_ok] at h
  obtain ⟨marker, hmarker, -⟩ := h
  obtain ⟨-, hnone, hsome⟩ := decodeConnectBinaryMarker_eq_ok hmarker
  cases marker with
  | none => exact absurd hkey (hnone rfl)
  | some => exact ⟨_, hsome _ rfl⟩

theorem withBytes_marker (hbase64 : ∀ bytes,
    base64Decode (base64Encode bytes) = some bytes) (bytes) :
    withBytes (.object [(connectBinaryKey, .string (base64Encode bytes))]) = .ofBytes bytes := by
  rw [withBytes, markerBytes, if_pos rfl, hbase64, Option.filter_some, if_pos (decide_eq_true rfl)]

theorem withBytesFields_names (fields) :
    (withBytesFields fields).map Prod.fst = fields.map Prod.fst := by
  induction fields with
  | nil => rfl
  | cons field fields ih => rw [withBytesFields, map_cons, map_cons, ih]

/-- What is parsed shows the document, with every member of every object once. Where it is encoded,
the marker's key is nowhere but in canonical markers, and what is decoded from the encoding is
what was parsed, with the bytes of each marker in its place and the names of every other object
kept. -/
theorem payload_json_msgpack_agree
    (hrmp : ∀ told bytes, toVecNamed told = some bytes → ∀ depth shown position,
      shownMsgpack depth bytes = some (shown, position) → shown = told.shown)
    (hbase64 : ∀ bytes, base64Decode (base64Encode bytes) = some bytes) {input : String}
    {bytes : List UInt8} (h : encodeConnectPayloadMsgpack input = .ok bytes) :
    ∃ shown value, shownJson input = some (shown, true) ∧ parseJsonToValue input = .ok value ∧
      JsonValue.Depicts widen shown value ∧
      (∀ decoded, decodeMsgpackToJson bytes = .ok decoded → decoded = withBytes value) ∧
      ∀ fields, JsonValue.Within (.object fields) value →
        (connectBinaryKey ∈ fields.map Prod.fst →
          ∃ marked, marked.length ≤ maxReassembledMessageBytes ∧
            fields = [(connectBinaryKey, .string (base64Encode marked))] ∧
            withBytes (.object fields) = .ofBytes marked) ∧
        (connectBinaryKey ∉ fields.map Prod.fst →
          ∃ kept, withBytes (.object fields) = .object kept ∧
            kept.map Prod.fst = fields.map Prod.fst) := by
  simp only [encodeConnectPayloadMsgpack, ok_iff] at h
  obtain ⟨value, hparse, told, htold, bytes, hbytes, -, rfl⟩ := h
  have hparsed := hparse
  simp only [parseJsonToValue, ok_iff, Prod.exists] at hparsed
  obtain ⟨-, shown, _, hshown, value, used, hval, rfl, rfl⟩ := hparsed
  obtain ⟨hdepicts, hsettled⟩ := visitValue_spec shown hval
  refine ⟨shown, value, hshown, hparse, hdepicts, ?_, ?_⟩
  · intro decoded hdec
    simp only [decodeMsgpackToJson, ok_iff, Prod.exists] at hdec
    obtain ⟨shown, position, hshown, decoded, used, hdec, -, rfl⟩ := hdec
    obtain rfl := hrmp told bytes hbytes _ shown position hshown
    exact visitValue_serialize value hsettled htold hdec
  · intro fields hwithin
    obtain ⟨depth, told, htold⟩ := serialize_within hwithin htold
    constructor
    · intro hkey
      obtain ⟨marked, hmax, rfl⟩ := serialize_marker htold hkey
      exact ⟨marked, hmax, rfl, withBytes_marker hbase64 marked⟩
    · intro hkey
      refine ⟨withBytesFields fields, ?_, withBytesFields_names fields⟩
      rw [withBytes, markerBytes_eq_none hkey]

end Codec

/-! ## A document with a marker and a float -/

def sampleDocument : String := "[\x7b\"$connectBinary\":\"AQI=\"\x7d,2.0]"

def sampleMsgpack : List UInt8 := [0x92, 0xc4, 2, 1, 2, 2]

@[reducible] def sampleExternals : PayloadExternals where
  valueSize := 32
  widen bits := ⟨bits.setWidth 64⟩
  shownJson text :=
    if text = sampleDocument then
      some (.seq none [.map none [(.str connectBinaryKey, .str "AQI=")], .f64 ⟨0x4000000000000000⟩],
        true)
    else none
  toVecNamed
    | .seq [.bytes bytes, .i64 n] => if bytes = [1, 2] ∧ n = 2 then some sampleMsgpack else none
    | _ => none
  shownMsgpack _ bytes :=
    if bytes = sampleMsgpack then some (.seq (some 2) [.bytes [1, 2], .u64 2], 6) else none
  base64Encode bytes :=
    if bytes = [1, 2] then "AQI="
    else String.ofList ('?' :: bytes.map fun byte => Char.ofNat byte.toNat)
  base64Decode text :=
    if text = "AQI=" then some [1, 2]
    else some (text.toList.tail.map fun c => UInt8.ofNat c.toNat)

theorem sample_toVecNamed {told : Told} {bytes}
    (h : @PayloadExternals.toVecNamed sampleExternals told = some bytes) :
    bytes = sampleMsgpack ∧ told.shown = .seq (some 2) [.bytes [1, 2], .u64 2] := by
  unfold PayloadExternals.toVecNamed sampleExternals at h
  dsimp only at h
  split at h
  · split at h
    · rename_i hparts
      obtain ⟨rfl, rfl⟩ := hparts
      exact ⟨(Option.some.inj h).symm, rfl⟩
    · cases h
  · cases h

theorem sample_shownMsgpack {depth : ℕ} :
    @PayloadExternals.shownMsgpack sampleExternals depth sampleMsgpack =
      some (.seq (some 2) [.bytes [1, 2], .u64 2], 6) := rfl

theorem sample_base64 (bytes) :
    @PayloadExternals.base64Decode sampleExternals
      (@PayloadExternals.base64Encode sampleExternals bytes) = some bytes := by
  unfold PayloadExternals.base64Decode PayloadExternals.base64Encode sampleExternals
  dsimp only
  by_cases hbytes : bytes = [1, 2]
  · rw [if_pos hbytes, if_pos rfl, hbytes]
  · have hother : String.ofList ('?' :: bytes.map fun byte => Char.ofNat byte.toNat) ≠ "AQI=" := by
      intro heq
      have hlists := congrArg String.toList heq
      rw [String.toList_ofList] at hlists
      exact absurd (List.cons.inj hlists).1 (by decide)
    have hbyte : ∀ byte, UInt8.ofNat (Char.ofNat byte.toNat).toNat = byte := by
      intro byte
      have htable : ∀ i : Fin 256, (Char.ofNat i.val).toNat = i.val := by decide +kernel
      rw [htable ⟨byte.toNat, byte.toNat_lt⟩, UInt8.ofNat_toNat]
    rw [if_neg hbytes, if_neg hother, String.toList_ofList, tail_cons, map_map]
    simp only [Function.comp_def, hbyte, map_id']

theorem sample_decoded : @decodeMsgpackToJson sampleExternals sampleMsgpack =
    .ok (.array [.ofBytes [1, 2], .number (.posInt 2)]) := rfl

theorem payload_json_msgpack_agree_sample :
    letI := sampleExternals
    encodeConnectPayloadMsgpack sampleDocument = .ok sampleMsgpack ∧
      ∃ value, parseJsonToValue sampleDocument = .ok value ∧
        decodeMsgpackToJson sampleMsgpack = .ok (withBytes value) := by
  have hrmp : ∀ told bytes, @PayloadExternals.toVecNamed sampleExternals told = some bytes →
      ∀ depth shown position,
        @PayloadExternals.shownMsgpack sampleExternals depth bytes = some (shown, position) →
          shown = told.shown := by
    intro told bytes htold depth shown position hshown
    obtain ⟨rfl, htoldShown⟩ := sample_toVecNamed htold
    rw [sample_shownMsgpack] at hshown
    rw [htoldShown, (Prod.mk.inj (Option.some.inj hshown)).1]
  have henc : @encodeConnectPayloadMsgpack sampleExternals sampleDocument = .ok sampleMsgpack :=
    rfl
  obtain ⟨shown, value, -, hparse, -, hdec, -⟩ :=
    @payload_json_msgpack_agree sampleExternals hrmp sample_base64 _ _ henc
  refine ⟨henc, value, hparse, ?_⟩
  rw [← hdec _ sample_decoded]
  exact sample_decoded

end PayloadJson

end DevManager
