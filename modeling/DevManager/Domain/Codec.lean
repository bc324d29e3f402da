import DevManager.Domain.Id
import DevManager.Lib.MsgPack
import DevManager.Lib.Result

/-!
# The MessagePack preflight (`src/domain/codec.rs`)

A document is scanned before it is given to serde. The cursor is the bytes that are still unread,
so nothing else can be read. What a first byte means to `rmp::decode::read_marker` is a parameter;
`MarkersOfTable` says that it is what the table of MessagePack says.

* `scanValue_eq_ok`: a value is scanned iff the unread bytes start with a document within the
  bounds that are left.
* `preflight_eq_ok`: what is accepted is exactly one document within the bounds.
-/

namespace DevManager

open MsgPack (Doc Format Length)
open List MsgPack

/-! ## The code -/

/-- The bounds of L16-25. -/
def maxOrchestrationMsgpackBytes : ℕ := 64 * 1024
def maxOrchestrationMsgpackNodes : ℕ := 512
def maxOrchestrationMsgpackDepth : ℕ := 16
def maxOrchestrationMsgpackStringBytes : ℕ := 64 * 1024
def maxOrchestrationMsgpackCollectionItems : ℕ := 64

/-- `MsgPackPreflightError`, L27-38 -/
inductive MsgPackPreflightError
  | tooManyBytes | tooManyNodes | tooDeep | stringTooLong | collectionTooLong | truncated
  | invalidMarker | reservedMarker | trailingBytes

/-- `rmp::Marker`, as `scan_value` matches it. -/
inductive Marker
  | fixPos (n : UInt8) | fixNeg (n : Int8) | null | false | true | reserved
  | fixStr (length : UInt8) | str8 | str16 | str32 | bin8 | bin16 | bin32
  | f32 | u32 | i32 | f64 | u64 | i64 | u8 | i8 | u16 | i16
  | fixExt1 | fixExt2 | fixExt4 | fixExt8 | fixExt16 | ext8 | ext16 | ext32
  | fixArray (length : UInt8) | array16 | array32
  | fixMap (length : UInt8) | map16 | map32

/-- `ScanState`, L110-112 -/
structure ScanState where
  nodes : ℕ

/-- What a scan returns, with the bytes that it leaves unread. -/
abbrev Scanned : Type := Except MsgPackPreflightError (ScanState × List UInt8)

/-- The loop of `skip_sized` (L259-267); `scratch` has 256 bytes. -/
def skipLoop (reader : List UInt8) (remaining : ℕ) : Except MsgPackPreflightError (List UInt8) :=
  if _h : remaining > 0 then
    let take := min remaining 256
    match readExact take reader with
    | (none, _) => .error .truncated
    | (some _, reader) => skipLoop reader (remaining - take)
  else .ok reader
termination_by remaining

variable (reader : List UInt8)

/-- `skip_sized`, L251-269 -/
def skipSized (length : ℕ) (boundedString : Bool) :
    Except MsgPackPreflightError (List UInt8) := do
  failIf (boundedString ∧ length > maxOrchestrationMsgpackStringBytes) .stringTooLong
  skipLoop reader length

/-- `read_length`, L222-234 -/
def readLength (width : ℕ) : Except MsgPackPreflightError (ℕ × List UInt8) :=
  match readExact width reader with
  | (none, _) => .error .truncated
  | (some bytes, reader) => .ok (ofBeBytes bytes, reader)

/-- `skip_length_prefixed`, L236-243 -/
def skipLengthPrefixed (width : ℕ) (string : Bool) :
    Except MsgPackPreflightError (List UInt8) := do
  let (length, reader) ← readLength reader width
  skipSized reader length string

/-- `skip_extension`, L245-249 -/
def skipExtension (width : ℕ) :
    Except MsgPackPreflightError (List UInt8) := do
  let (length, reader) ← readLength reader width
  let reader ← skipSized reader 1 false
  skipSized reader length true

/-- `check_collection`, L214-220 -/
def checkCollection (length : ℕ) : Except MsgPackPreflightError Unit :=
  failIf (length > maxOrchestrationMsgpackCollectionItems) .collectionTooLong

section Scan

variable (fromU8 : UInt8 → Marker)

/-- `read_marker`, which fails at the end of the input only (L129-136). -/
def readMarker : List UInt8 → Except MsgPackPreflightError (Marker × List UInt8)
  | [] => .error .truncated
  | byte :: reader => .ok (fromU8 byte, reader)

/-- What a skipped value returns to `scan_value`. -/
def skipped (state : ScanState) (reader : Except MsgPackPreflightError (List UInt8)) : Scanned :=
  reader.map fun reader => (state, reader)

mutual

/-- `scan_value` (L117-136), to its `match`. -/
def scanValue (depth : ℕ) (state : ScanState) (reader : List UInt8) : Scanned := do
  let nodes ← okOr (checkedAdd state.nodes 1) .tooManyNodes
  let state : ScanState := { nodes }
  failIf (state.nodes > maxOrchestrationMsgpackNodes) .tooManyNodes
  let (marker, reader) ← readMarker fromU8 reader
  scanMarker marker depth state reader
termination_by (maxOrchestrationMsgpackDepth + 1 - depth, 0, 2)

/-- The `match` of `scan_value` (L138-178). -/
def scanMarker (marker : Marker) (depth : ℕ) (state : ScanState) (reader : List UInt8) : Scanned :=
  match marker with
  | .fixPos _ | .fixNeg _ | .null | .false | .true => pure (state, reader)
  | .reserved => .error .reservedMarker
  | .fixStr length => skipped state (skipSized reader length.toNat true)
  | .str8 => skipped state (skipLengthPrefixed reader 1 true)
  | .str16 => skipped state (skipLengthPrefixed reader 2 true)
  | .str32 => skipped state (skipLengthPrefixed reader 4 true)
  | .bin8 => skipped state (skipLengthPrefixed reader 1 true)
  | .bin16 => skipped state (skipLengthPrefixed reader 2 true)
  | .bin32 => skipped state (skipLengthPrefixed reader 4 true)
  | .f32 | .u32 | .i32 => skipped state (skipSized reader 4 false)
  | .f64 | .u64 | .i64 => skipped state (skipSized reader 8 false)
  | .u8 | .i8 => skipped state (skipSized reader 1 false)
  | .u16 | .i16 => skipped state (skipSized reader 2 false)
  | .fixExt1 => skipped state (skipSized reader 2 false)
  | .fixExt2 => skipped state (skipSized reader 3 false)
  | .fixExt4 => skipped state (skipSized reader 5 false)
  | .fixExt8 => skipped state (skipSized reader 9 false)
  | .fixExt16 => skipped state (skipSized reader 17 false)
  | .ext8 => skipped state (skipExtension reader 1)
  | .ext16 => skipped state (skipExtension reader 2)
  | .ext32 => skipped state (skipExtension reader 4)
  | .fixArray length => scanArray length.toNat depth state reader
  | .array16 => do
    let (length, reader) ← readLength reader 2
    scanArray length depth state reader
  | .array32 => do
    let (length, reader) ← readLength reader 4
    scanArray length depth state reader
  | .fixMap length => scanMap length.toNat depth state reader
  | .map16 => do
    let (length, reader) ← readLength reader 2
    scanMap length depth state reader
  | .map32 => do
    let (length, reader) ← readLength reader 4
    scanMap length depth state reader
termination_by (maxOrchestrationMsgpackDepth + 1 - depth, 0, 1)

/-- `scan_array`, L179-194 -/
def scanArray (length depth : ℕ) (state : ScanState) (reader : List UInt8) : Scanned := do
  checkCollection length
  let childDepth := depth + 1
  if _h : childDepth > maxOrchestrationMsgpackDepth then .error .tooDeep
  else scanItems length childDepth state reader
termination_by (maxOrchestrationMsgpackDepth + 1 - depth, 0, 0)

/-- `scan_map`, L196-212 -/
def scanMap (length depth : ℕ) (state : ScanState) (reader : List UInt8) : Scanned := do
  checkCollection length
  let childDepth := depth + 1
  if _h : childDepth > maxOrchestrationMsgpackDepth then .error .tooDeep
  else scanEntries length childDepth state reader
termination_by (maxOrchestrationMsgpackDepth + 1 - depth, 0, 0)

/-- The loop of `scan_array` (L191-193). -/
def scanItems (length depth : ℕ) (state : ScanState) (reader : List UInt8) : Scanned :=
  match length with
  | 0 => .ok (state, reader)
  | length + 1 => do
    let (state, reader) ← scanValue depth state reader
    scanItems length depth state reader
termination_by (maxOrchestrationMsgpackDepth + 1 - depth, 1, length)

/-- The loop of `scan_map` (L205-208). -/
def scanEntries (length depth : ℕ) (state : ScanState) (reader : List UInt8) : Scanned :=
  match length with
  | 0 => .ok (state, reader)
  | length + 1 => do
    let (state, reader) ← scanValue depth state reader
    let (state, reader) ← scanValue depth state reader
    scanEntries length depth state reader
termination_by (maxOrchestrationMsgpackDepth + 1 - depth, 1, length)

end

/-- `preflight_msgpack`, L59-71 -/
def preflightMsgpack (bytes : List UInt8) : Except MsgPackPreflightError Unit := do
  failIf (bytes.length > maxOrchestrationMsgpackBytes) .tooManyBytes
  let (_, reader) ← scanValue fromU8 0 ⟨0⟩ bytes
  failIf (reader ≠ []) .trailingBytes

/-! ## Skipping bytes -/

variable (reader : List UInt8)

theorem skipLoop_eq (remaining : ℕ) : skipLoop reader remaining =
    if remaining ≤ reader.length then .ok (reader.drop remaining) else .error .truncated := by
  induction remaining using Nat.strong_induction_on generalizing reader with
  | _ remaining ih =>
    rw [skipLoop]
    by_cases hpos : remaining > 0
    · rw [dif_pos hpos]
      by_cases hread : min remaining 256 ≤ reader.length
      · have hrest := ih (remaining - min remaining 256) (by omega)
          (reader.drop (min remaining 256))
        simp only [readExact, hread, if_true, hrest, length_drop, drop_drop]
        have hsum : min remaining 256 + (remaining - min remaining 256) = remaining := by omega
        have hle : remaining - min remaining 256 ≤ reader.length - min remaining 256 ↔
            remaining ≤ reader.length := by omega
        simp only [hsum, hle]
      · simp only [readExact, hread, if_false]
        rw [if_neg (by omega)]
    · rw [dif_neg hpos]
      have hzero : remaining = 0 := by omega
      subst hzero
      simp

theorem skipSized_eq_ok {reader rest} {length : ℕ} {boundedString : Bool} :
    skipSized reader length boundedString = .ok rest ↔
      (boundedString = true → length ≤ maxOrchestrationMsgpackStringBytes) ∧
        ∃ data : List UInt8, data.length = length ∧ reader = data ++ rest := by
  simp only [skipSized, ok_iff, skipLoop_eq]
  refine and_congr (by simp) ?_
  constructor
  · intro h
    split_ifs at h with hle
    cases h
    exact ⟨reader.take length, length_take_of_le hle, (take_append_drop _ _).symm⟩
  · rintro ⟨data, rfl, rfl⟩
    simp

theorem skipSized_succ {length : ℕ}
    (h : length ≤ maxOrchestrationMsgpackStringBytes) : skipSized reader (length + 1) false =
      skipSized reader 1 false >>= fun reader => skipSized reader length true := by
  have hnot : ¬ (length > maxOrchestrationMsgpackStringBytes) := by omega
  simp only [skipSized, failIf, hnot, Bool.false_eq_true, false_and, and_false, if_false, ok_bind,
    skipLoop_eq]
  by_cases hone : 1 ≤ reader.length
  · have hle : length + 1 ≤ reader.length ↔ length ≤ reader.length - 1 := by omega
    simp [hone, ok_bind, hle]
  · rw [if_neg (by omega), if_neg hone]
    rfl

/-! ## Reading lengths -/

theorem readLength_eq_ok {reader rest} {width n : ℕ} :
    readLength reader width = .ok (n, rest) ↔
      n < 256 ^ width ∧ reader = beBytes width n ++ rest := by
  unfold readLength
  constructor
  · intro h
    split at h
    · cases h
    · next bytes _ hread =>
      cases h
      obtain ⟨rfl, rfl⟩ := readExact_eq_some.mp hread
      rw [beBytes_ofBeBytes]
      exact ⟨ofBeBytes_lt bytes, rfl⟩
  · rintro ⟨hn, rfl⟩
    rw [readExact_append (length_beBytes width n)]
    show Except.ok (ofBeBytes (beBytes width n), rest) = _
    rw [ofBeBytes_beBytes width n hn]

/-- A length that stands in the marker is known, another is read. -/
def readForm : Length → Except MsgPackPreflightError (ℕ × List UInt8)
  | .inMarker n => .ok (n, reader)
  | .next width => readLength reader width

theorem readForm_eq_ok {reader rest length} {n : ℕ} :
    readForm reader length = .ok (n, rest) ↔ length.Holds n ∧ reader = length.bytes n ++ rest := by
  cases length with
  | inMarker m =>
    simp only [readForm, Length.Holds, Length.bytes, Except.ok.injEq, Prod.mk.injEq, nil_append]
    exact and_congr_left' eq_comm
  | next => exact readLength_eq_ok

/-! ## One value -/

/-- The format that a marker stands for. -/
def Marker.format : Marker → Format
  | .fixPos _ | .fixNeg _ | .null | .false | .true => .scalar 0
  | .reserved => .reserved
  | .fixStr length => .text (.inMarker length.toNat)
  | .str8 | .bin8 => .text (.next 1)
  | .str16 | .bin16 => .text (.next 2)
  | .str32 | .bin32 => .text (.next 4)
  | .f32 | .u32 | .i32 => .scalar 4
  | .f64 | .u64 | .i64 => .scalar 8
  | .u8 | .i8 => .scalar 1
  | .u16 | .i16 => .scalar 2
  | .fixExt1 => .extension (.inMarker 1)
  | .fixExt2 => .extension (.inMarker 2)
  | .fixExt4 => .extension (.inMarker 4)
  | .fixExt8 => .extension (.inMarker 8)
  | .fixExt16 => .extension (.inMarker 16)
  | .ext8 => .extension (.next 1)
  | .ext16 => .extension (.next 2)
  | .ext32 => .extension (.next 4)
  | .fixArray length => .array (.inMarker length.toNat)
  | .array16 => .array (.next 2)
  | .array32 => .array (.next 4)
  | .fixMap length => .map (.inMarker length.toNat)
  | .map16 => .map (.next 2)
  | .map32 => .map (.next 4)

/-- `rmp::decode::read_marker` reads a first byte as MessagePack has it. -/
def MarkersOfTable : Prop := ∀ byte, (fromU8 byte).format = MsgPack.format byte

/-- What `scan_value` does after a first byte of that format. -/
def scanRest (depth : ℕ) (state : ScanState) (reader : List UInt8) : Format → Scanned
  | .scalar length => skipped state (skipSized reader length false)
  | .text length => do
    let (length, reader) ← readForm reader length
    skipped state (skipSized reader length true)
  | .extension length => do
    let (length, reader) ← readForm reader length
    let reader ← skipSized reader 1 false
    skipped state (skipSized reader length true)
  | .array length => do
    let (length, reader) ← readForm reader length
    scanArray fromU8 length depth state reader
  | .map length => do
    let (length, reader) ← readForm reader length
    scanMap fromU8 length depth state reader
  | .reserved => .error .reservedMarker

variable {fromU8}

theorem scanMarker_eq (marker : Marker) (depth : ℕ) (state) (reader) :
    scanMarker fromU8 marker depth state reader =
      scanRest fromU8 depth state reader marker.format := by
  have hext : ∀ length ≤ maxOrchestrationMsgpackStringBytes,
      skipped state (skipSized reader (length + 1) false) =
        skipSized reader 1 false >>= fun reader =>
          skipped state (skipSized reader length true) := by
    intro length hle
    rw [skipSized_succ reader hle]
    cases skipSized reader 1 false <;> rfl
  have htext : ∀ width, skipped state (skipLengthPrefixed reader width true) =
      scanRest fromU8 depth state reader (.text (.next width)) := by
    intro width
    simp only [skipLengthPrefixed, scanRest, readForm]
    cases readLength reader width <;> rfl
  have hextension : ∀ width, skipped state (skipExtension reader width) =
      scanRest fromU8 depth state reader (.extension (.next width)) := by
    intro width
    simp only [skipExtension, scanRest, readForm]
    cases readLength reader width with
    | error error => rfl
    | ok read =>
      simp only [ok_bind]
      cases skipSized read.2 1 false <;> rfl
  rw [scanMarker.eq_def]
  cases marker
  case fixPos | fixNeg | null | «false» | «true» =>
    simp [scanRest, Marker.format, skipSized, skipLoop_eq, skipped, Except.map, pure, Except.pure,
      failIf_neg, ok_bind]
  case fixExt1 => exact hext 1 (by decide)
  case fixExt2 => exact hext 2 (by decide)
  case fixExt4 => exact hext 4 (by decide)
  case fixExt8 => exact hext 8 (by decide)
  case fixExt16 => exact hext 16 (by decide)
  case str8 | str16 | str32 | bin8 | bin16 | bin32 => exact htext _
  case ext8 | ext16 | ext32 => exact hextension _
  all_goals rfl

theorem scanValue_eq_ok_iff {depth : ℕ} {state state' reader reader'}
    (hmarkers : MarkersOfTable fromU8) :
    scanValue fromU8 depth state reader = .ok (state', reader') ↔
      state.nodes + 1 ≤ maxOrchestrationMsgpackNodes ∧ ∃ byte rest, reader = byte :: rest ∧
        scanRest fromU8 depth ⟨state.nodes + 1⟩ rest (format byte) = .ok (state', reader') := by
  have hfits : maxOrchestrationMsgpackNodes ≤ u64Max := by decide
  rw [scanValue]
  simp only [ok_iff, checkedAdd_eq_some, Prod.exists, scanMarker_eq]
  constructor
  · rintro ⟨nodes, ⟨-, rfl⟩, hnodes, marker, rest, hread, hrest⟩
    cases reader with
    | nil => cases hread
    | cons byte reader =>
      cases hread
      rw [hmarkers byte] at hrest
      exact ⟨by omega, byte, rest, rfl, hrest⟩
  · rintro ⟨hnodes, byte, rest, rfl, hrest⟩
    rw [← hmarkers byte] at hrest
    exact ⟨_, ⟨by omega, rfl⟩, by omega, fromU8 byte, rest, rfl, hrest⟩

/-! ## Documents -/

/-- The scanned bytes are the document's, and it is within the bounds left at that depth. -/
structure ScansDoc (depth : ℕ) (state : ScanState) (reader : List UInt8) (state' : ScanState)
    (reader' : List UInt8) (doc : Doc) : Prop where
  wellFormed : doc.WellFormed
  within : doc.Within maxOrchestrationMsgpackCollectionItems maxOrchestrationMsgpackStringBytes
  reads : reader = doc.bytes ++ reader'
  nodes : state'.nodes = state.nodes + doc.nodes
  nodes_le : state'.nodes ≤ maxOrchestrationMsgpackNodes
  depth_le : depth + doc.depth ≤ maxOrchestrationMsgpackDepth

/-- The same of documents one after another. -/
structure ScansDocs (depth : ℕ) (state : ScanState) (reader : List UInt8) (state' : ScanState)
    (reader' : List UInt8) (docs : List Doc) : Prop where
  wellFormed : MsgPack.AllWellFormed docs
  within : MsgPack.AllWithin maxOrchestrationMsgpackCollectionItems
    maxOrchestrationMsgpackStringBytes docs
  reads : reader = MsgPack.bytesAll docs ++ reader'
  nodes : state'.nodes = state.nodes + MsgPack.nodesAll docs
  nodes_le : state'.nodes ≤ maxOrchestrationMsgpackNodes
  depth_le : depth + MsgPack.depthAll docs ≤ maxOrchestrationMsgpackDepth

/-- What is to be proved of the values at one depth. -/
def ValuesScanned (fromU8 : UInt8 → Marker) (depth : ℕ) : Prop :=
  ∀ state reader state' reader', scanValue fromU8 depth state reader = .ok (state', reader') ↔
    ∃ doc, ScansDoc depth state reader state' reader' doc

variable {depth : ℕ} {state state' : ScanState} {reader reader' : List UInt8}

theorem scanItems_eq_ok (hvalues : ValuesScanned fromU8 depth)
    (hdepth : depth ≤ maxOrchestrationMsgpackDepth) (length : ℕ) :
    ∀ {state : ScanState} {reader : List UInt8}, state.nodes ≤ maxOrchestrationMsgpackNodes →
      (scanItems fromU8 length depth state reader = .ok (state', reader') ↔
        ∃ docs : List Doc, docs.length = length ∧
          ScansDocs depth state reader state' reader' docs) := by
  induction length with
  | zero =>
    intro state reader hnodes
    rw [scanItems]
    constructor
    · rintro h
      cases h
      exact ⟨[], rfl, trivial, trivial, rfl, rfl, hnodes, by simpa [depthAll]⟩
    · rintro ⟨docs, hlen, h⟩
      rw [length_eq_zero_iff] at hlen
      subst hlen
      have hstate : state' = state := by
        have hsame := h.nodes
        cases state
        cases state'
        simpa [nodesAll] using hsame
      rw [hstate, h.reads]
      rfl
  | succ length ih =>
    intro state reader _
    rw [scanItems]
    simp only [bind_eq_ok, Prod.exists]
    constructor
    · rintro ⟨mid, midReader, hval, hrest⟩
      obtain ⟨doc, hdoc⟩ := (hvalues _ _ _ _).mp hval
      obtain ⟨docs, rfl, hdocs⟩ := (ih hdoc.nodes_le).mp hrest
      refine ⟨doc :: docs, rfl, ⟨hdoc.wellFormed, hdocs.wellFormed⟩, ⟨hdoc.within, hdocs.within⟩,
        ?_, ?_, hdocs.nodes_le, ?_⟩
      · rw [hdoc.reads, hdocs.reads, bytesAll, append_assoc]
      · rw [hdocs.nodes, hdoc.nodes, nodesAll, Nat.add_assoc]
      · have hfst := hdoc.depth_le
        have hothers := hdocs.depth_le
        rw [depthAll]
        omega
    · rintro ⟨docs, hlen, h⟩
      cases docs with
      | nil => cases hlen
      | cons doc docs =>
        obtain ⟨⟨hdoc, hdocs⟩, ⟨hwithin, hwithins⟩, hreads, hnodes, hnodesLe, hdepthLe⟩ := h
        rw [bytesAll, append_assoc] at hreads
        rw [nodesAll] at hnodes
        rw [depthAll] at hdepthLe
        have hmid : state.nodes + doc.nodes ≤ maxOrchestrationMsgpackNodes := by omega
        refine ⟨⟨state.nodes + doc.nodes⟩, bytesAll docs ++ reader',
          (hvalues _ _ _ _).mpr ⟨doc, hdoc, hwithin, hreads, rfl, hmid, by omega⟩,
          (ih hmid).mpr ⟨docs, by simpa using hlen, hdocs, hwithins, rfl, ?_, hnodesLe, by omega⟩⟩
        rw [hnodes, Nat.add_assoc]

theorem scanEntries_eq (length depth : ℕ) : ∀ state reader,
    scanEntries fromU8 length depth state reader =
      scanItems fromU8 (2 * length) depth state reader := by
  induction length with
  | zero =>
    intro state reader
    rw [scanEntries, Nat.mul_zero, scanItems]
  | succ length ih =>
    intro state reader
    simp only [scanEntries, Nat.mul_succ, scanItems, ih]

theorem scanArray_eq_ok {length : ℕ} : scanArray fromU8 length depth state reader =
    .ok (state', reader') ↔ length ≤ maxOrchestrationMsgpackCollectionItems ∧
      depth + 1 ≤ maxOrchestrationMsgpackDepth ∧
        scanItems fromU8 length (depth + 1) state reader = .ok (state', reader') := by
  rw [scanArray]
  simp only [checkCollection, ok_iff, not_lt]
  refine and_congr_right fun _ => ?_
  by_cases hdeep : depth + 1 > maxOrchestrationMsgpackDepth
  · rw [dif_pos hdeep]
    exact ⟨by rintro ⟨⟩, fun h => absurd h.1 (by omega)⟩
  · rw [dif_neg hdeep]
    exact ⟨fun h => ⟨by omega, h⟩, And.right⟩

theorem scanMap_eq_ok {length : ℕ} : scanMap fromU8 length depth state reader =
    .ok (state', reader') ↔ length ≤ maxOrchestrationMsgpackCollectionItems ∧
      depth + 1 ≤ maxOrchestrationMsgpackDepth ∧
        scanItems fromU8 (2 * length) (depth + 1) state reader = .ok (state', reader') := by
  rw [scanMap]
  simp only [checkCollection, ok_iff, not_lt, scanEntries_eq]
  refine and_congr_right fun _ => ?_
  by_cases hdeep : depth + 1 > maxOrchestrationMsgpackDepth
  · rw [dif_pos hdeep]
    exact ⟨by rintro ⟨⟩, fun h => absurd h.1 (by omega)⟩
  · rw [dif_neg hdeep]
    exact ⟨fun h => ⟨by omega, h⟩, And.right⟩

theorem skipped_eq_ok {read} :
    skipped state read = .ok (state', reader') ↔ state' = state ∧ read = .ok reader' := by
  simp only [skipped, map_eq_ok, Prod.mk.injEq]
  constructor
  · rintro ⟨rest, rfl, hstate, rfl⟩
    exact ⟨hstate, rfl⟩
  · rintro ⟨hstate, rfl⟩
    exact ⟨reader', rfl, hstate, rfl⟩

variable (hchild : depth + 1 ≤ maxOrchestrationMsgpackDepth → ValuesScanned fromU8 (depth + 1))

include hchild

theorem exists_doc_of_scanRest (hdepth : depth ≤ maxOrchestrationMsgpackDepth)
    (hnodes : state.nodes + 1 ≤ maxOrchestrationMsgpackNodes) {byte}
    (h : scanRest fromU8 depth ⟨state.nodes + 1⟩ reader (format byte) = .ok (state', reader')) :
    ∃ doc, ScansDoc depth state (byte :: reader) state' reader' doc := by
  cases hformat : format byte with
  | scalar length =>
    rw [hformat, scanRest, skipped_eq_ok, skipSized_eq_ok] at h
    obtain ⟨rfl, -, data, rfl, rfl⟩ := h
    exact ⟨.scalar byte data, hformat, trivial, rfl, rfl, hnodes, hdepth⟩
  | text length =>
    simp only [hformat, scanRest, bind_eq_ok, Prod.exists, readForm_eq_ok, skipped_eq_ok,
      skipSized_eq_ok] at h
    obtain ⟨_, _, ⟨hholds, rfl⟩, rfl, hsize, data, rfl, rfl⟩ := h
    refine ⟨.text byte length data, ⟨hformat, hholds⟩, hsize trivial, ?_, rfl, hnodes, hdepth⟩
    rw [Doc.bytes, cons_append, append_assoc]
  | extension length =>
    simp only [hformat, scanRest, bind_eq_ok, Prod.exists, readForm_eq_ok, skipped_eq_ok,
      skipSized_eq_ok] at h
    obtain ⟨_, _, ⟨hholds, rfl⟩, _, ⟨-, head, hone, rfl⟩, rfl, hsize, data, rfl, rfl⟩ := h
    obtain ⟨type, rfl⟩ := length_eq_one_iff.mp hone
    refine ⟨.extension byte length type data, ⟨hformat, hholds⟩, hsize trivial, ?_, rfl,
      hnodes, hdepth⟩
    simp [Doc.bytes]
  | array length =>
    simp only [hformat, scanRest, bind_eq_ok, Prod.exists, readForm_eq_ok, scanArray_eq_ok] at h
    obtain ⟨_, _, ⟨hholds, rfl⟩, hentry, hdeep, hitems⟩ := h
    obtain ⟨items, rfl, hdocs⟩ := (scanItems_eq_ok (hchild hdeep) hdeep _ hnodes).mp hitems
    refine ⟨.array byte length items, ⟨hformat, hholds, hdocs.wellFormed⟩,
      ⟨hentry, hdocs.within⟩, ?_, ?_, hdocs.nodes_le, ?_⟩
    · rw [Doc.bytes, hdocs.reads, cons_append, append_assoc]
    · rw [hdocs.nodes, Doc.nodes, Nat.add_right_comm, Nat.add_assoc]
    · have hdepthLe := hdocs.depth_le
      rw [Doc.depth]
      omega
  | map length =>
    simp only [hformat, scanRest, bind_eq_ok, Prod.exists, readForm_eq_ok, scanMap_eq_ok] at h
    obtain ⟨entries, _, ⟨hholds, rfl⟩, hentry, hdeep, hitems⟩ := h
    obtain ⟨items, hlen, hdocs⟩ := (scanItems_eq_ok (hchild hdeep) hdeep _ hnodes).mp hitems
    refine ⟨.map byte length entries items, ⟨hformat, hholds, hlen, hdocs.wellFormed⟩,
      ⟨hentry, hdocs.within⟩, ?_, ?_, hdocs.nodes_le, ?_⟩
    · rw [Doc.bytes, hdocs.reads, cons_append, append_assoc]
    · rw [hdocs.nodes, Doc.nodes, Nat.add_right_comm, Nat.add_assoc]
    · have hdepthLe := hdocs.depth_le
      rw [Doc.depth]
      omega
  | reserved =>
    rw [hformat] at h
    cases h

theorem scanRest_of_doc {byte} {doc : Doc}
    (h : ScansDoc depth state (byte :: reader) state' reader' doc) :
    scanRest fromU8 depth ⟨state.nodes + 1⟩ reader (format byte) = .ok (state', reader') := by
  obtain ⟨hwell, hwithin, hreads, hnodes, hnodesLe, hdepthLe⟩ := h
  obtain ⟨nodes'⟩ := state'
  subst hnodes
  cases doc with
  | scalar marker data =>
    obtain ⟨rfl, rfl⟩ := cons_eq_cons.mp hreads
    rw [hwell, scanRest, skipped_eq_ok, skipSized_eq_ok]
    exact ⟨rfl, by simp, data, rfl, rfl⟩
  | text marker length data =>
    obtain ⟨rfl, rfl⟩ := cons_eq_cons.mp hreads
    simp only [hwell.1, scanRest, bind_eq_ok, Prod.exists, readForm_eq_ok, skipped_eq_ok,
      skipSized_eq_ok]
    exact ⟨_, _, ⟨hwell.2, append_assoc _ _ _⟩, rfl, fun _ => hwithin, data, rfl, rfl⟩
  | extension marker length type data =>
    obtain ⟨rfl, rfl⟩ := cons_eq_cons.mp hreads
    simp only [hwell.1, scanRest, bind_eq_ok, Prod.exists, readForm_eq_ok, skipped_eq_ok,
      skipSized_eq_ok]
    exact ⟨_, _, ⟨hwell.2, append_assoc _ _ _⟩, _, ⟨by simp, [type], rfl, rfl⟩, rfl,
      fun _ => hwithin, data, rfl, rfl⟩
  | array marker length items =>
    obtain ⟨rfl, rfl⟩ := cons_eq_cons.mp hreads
    obtain ⟨hformat, hholds, hitems⟩ := hwell
    obtain ⟨hentry, hwithin⟩ := hwithin
    have hnodesLe : state.nodes + (nodesAll items + 1) ≤ maxOrchestrationMsgpackNodes :=
      hnodesLe
    have hroom : state.nodes + 1 ≤ maxOrchestrationMsgpackNodes := by omega
    rw [Doc.depth] at hdepthLe
    have hdeep : depth + 1 ≤ maxOrchestrationMsgpackDepth := by omega
    simp only [hformat, scanRest, bind_eq_ok, Prod.exists, readForm_eq_ok, scanArray_eq_ok]
    refine ⟨_, _, ⟨hholds, append_assoc _ _ _⟩, hentry, hdeep, ?_⟩
    refine (scanItems_eq_ok (hchild hdeep) hdeep _ hroom).mpr ⟨items, rfl, hitems,
      hwithin, rfl, ?_, hnodesLe, by omega⟩
    simp only [Doc.nodes]
    omega
  | map marker length entries items =>
    obtain ⟨rfl, rfl⟩ := cons_eq_cons.mp hreads
    obtain ⟨hformat, hholds, hlen, hitems⟩ := hwell
    obtain ⟨hentry, hwithin⟩ := hwithin
    have hnodesLe : state.nodes + (nodesAll items + 1) ≤ maxOrchestrationMsgpackNodes :=
      hnodesLe
    have hroom : state.nodes + 1 ≤ maxOrchestrationMsgpackNodes := by omega
    rw [Doc.depth] at hdepthLe
    have hdeep : depth + 1 ≤ maxOrchestrationMsgpackDepth := by omega
    simp only [hformat, scanRest, bind_eq_ok, Prod.exists, readForm_eq_ok, scanMap_eq_ok]
    refine ⟨_, _, ⟨hholds, append_assoc _ _ _⟩, hentry, hdeep, ?_⟩
    refine (scanItems_eq_ok (hchild hdeep) hdeep _ hroom).mpr ⟨items, hlen,
      hitems, hwithin, rfl, ?_, hnodesLe, by omega⟩
    simp only [Doc.nodes]
    omega

omit hchild

theorem one_le_nodes (doc : Doc) : 1 ≤ doc.nodes := by
  cases doc <;> simp [Doc.nodes]

theorem bytes_ne_nil (doc : Doc) : doc.bytes ≠ [] := by
  cases doc <;> simp [Doc.bytes]

theorem scanValue_eq_ok (hmarkers : MarkersOfTable fromU8) (depth : ℕ)
    (hdepth : depth ≤ maxOrchestrationMsgpackDepth) : ValuesScanned fromU8 depth := by
  have hchild : depth + 1 ≤ maxOrchestrationMsgpackDepth → ValuesScanned fromU8 (depth + 1) :=
    scanValue_eq_ok hmarkers (depth + 1)
  intro state reader state' reader'
  rw [scanValue_eq_ok_iff hmarkers]
  constructor
  · rintro ⟨hnodes, byte, rest, rfl, hrest⟩
    exact exists_doc_of_scanRest hchild hdepth hnodes hrest
  · rintro ⟨doc, hdoc⟩
    have hpos := one_le_nodes doc
    have hnodes := hdoc.nodes
    have hnodesLe := hdoc.nodes_le
    refine ⟨by omega, ?_⟩
    cases reader with
    | nil =>
      have hnil := hdoc.reads
      rw [eq_comm, append_eq_nil_iff] at hnil
      exact absurd hnil.1 (bytes_ne_nil doc)
    | cons => exact ⟨_, _, rfl, scanRest_of_doc hchild hdoc⟩
termination_by maxOrchestrationMsgpackDepth + 1 - depth

/-! ## The preflight -/

/-- A byte string is accepted iff it is exactly one document, written as MessagePack has it and
within the bounds. Nothing but unread bytes is read, and every value takes one. -/
theorem preflightMsgpack_eq_ok (fromU8 : UInt8 → Marker) (hmarkers : MarkersOfTable fromU8)
    (bytes : List UInt8) :
    (preflightMsgpack fromU8 bytes = .ok () ↔
      bytes.length ≤ maxOrchestrationMsgpackBytes ∧ ∃ doc : Doc, doc.WellFormed ∧
        doc.bytes = bytes ∧ doc.nodes ≤ maxOrchestrationMsgpackNodes ∧
        doc.depth ≤ maxOrchestrationMsgpackDepth ∧
        doc.Within maxOrchestrationMsgpackCollectionItems maxOrchestrationMsgpackStringBytes) ∧
    ∀ depth ≤ maxOrchestrationMsgpackDepth, ∀ state reader state' reader',
      scanValue fromU8 depth state reader = .ok (state', reader') →
        ∃ read, read ≠ [] ∧ reader = read ++ reader' := by
  constructor
  · have hval := scanValue_eq_ok hmarkers 0 (Nat.zero_le _)
    simp only [preflightMsgpack, ok_iff, Prod.exists, hval _ _ _ _, not_lt]
    refine and_congr_right fun _ => ?_
    constructor
    · rintro ⟨state', _, ⟨doc, hdoc⟩, rfl⟩
      have hnodes := hdoc.nodes
      have hnodesLe := hdoc.nodes_le
      have hdepthLe := hdoc.depth_le
      have hreads := hdoc.reads
      rw [append_nil] at hreads
      refine ⟨doc, hdoc.wellFormed, hreads.symm, ?_, by omega, hdoc.within⟩
      rw [Nat.zero_add] at hnodes
      omega
    · rintro ⟨doc, hwell, rfl, hnodes, hdepth, hwithin⟩
      exact ⟨⟨0 + doc.nodes⟩, [], ⟨doc, hwell, hwithin, (append_nil _).symm, rfl, by simpa,
        by simpa⟩, rfl⟩
  · intro depth hdepth state reader state' reader' h
    obtain ⟨doc, hdoc⟩ := (scanValue_eq_ok hmarkers depth hdepth _ _ _ _).mp h
    exact ⟨doc.bytes, bytes_ne_nil doc, hdoc.reads⟩

end Scan

/-! ## A sample -/

def sampleFromU8 (byte : UInt8) : Marker :=
  let n := byte.toNat
  if n < 0x80 then .fixPos byte
  else if n < 0x90 then .fixMap (byte - 0x80)
  else if n < 0xa0 then .fixArray (byte - 0x90)
  else if n < 0xc0 then .fixStr (byte - 0xa0)
  else match n with
    | 0xc0 => .null | 0xc1 => .reserved | 0xc2 => .false | 0xc3 => .true
    | 0xc4 => .bin8 | 0xc5 => .bin16 | 0xc6 => .bin32
    | 0xc7 => .ext8 | 0xc8 => .ext16 | 0xc9 => .ext32
    | 0xca => .f32 | 0xcb => .f64
    | 0xcc => .u8 | 0xcd => .u16 | 0xce => .u32 | 0xcf => .u64
    | 0xd0 => .i8 | 0xd1 => .i16 | 0xd2 => .i32 | 0xd3 => .i64
    | 0xd4 => .fixExt1 | 0xd5 => .fixExt2 | 0xd6 => .fixExt4 | 0xd7 => .fixExt8 | 0xd8 => .fixExt16
    | 0xd9 => .str8 | 0xda => .str16 | 0xdb => .str32
    | 0xdc => .array16 | 0xdd => .array32 | 0xde => .map16 | 0xdf => .map32
    | _ => .fixNeg byte.toInt8

theorem markersOfTable_sampleFromU8 : MarkersOfTable sampleFromU8 := by
  have hall : ∀ n < 256, (sampleFromU8 (UInt8.ofNat n)).format = format (UInt8.ofNat n) := by
    decide +kernel
  intro byte
  have hbyte := hall byte.toNat byte.toNat_lt
  rwa [UInt8.ofNat_toNat] at hbyte

/-- An array of nil and a string is accepted. -/
theorem preflightMsgpack_sample :
    preflightMsgpack sampleFromU8 [0x92, 0xc0, 0xa1, 0x61] = .ok () := by
  have hsize : [(0x61 : UInt8)].length ≤ maxOrchestrationMsgpackStringBytes := by decide
  refine (preflightMsgpack_eq_ok sampleFromU8 markersOfTable_sampleFromU8 _).1.mpr ⟨by decide, ?_⟩
  refine ⟨.array 0x92 (.inMarker 2) [.scalar 0xc0 [], .text 0xa1 (.inMarker 1) [0x61]], ?_, rfl,
    by decide, by decide, ?_⟩
  · exact ⟨rfl, rfl, rfl, ⟨rfl, rfl⟩, trivial⟩
  · exact ⟨by decide, trivial, hsize, trivial⟩

end DevManager
