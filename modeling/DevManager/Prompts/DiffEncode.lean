import DevManager.Lib.Json
import DevManager.Prompts.DiffRounds

/-!
# The public projection of a diff (`src/prompts/diff.rs`)

`encode_public_diff` writes a diff without its bodies as JSON, and refuses what is longer than the
public limit. `serde_json` is an argument.

* `diff_le`: the text of a diff is not longer than what its parts are paid with, when its numbers
  have no more digits than that allows.
-/

namespace DevManager.Prompts

open List

/-- `serde_json::to_vec` of a `serde_json::Value`. -/
class SerdeJson where
  toVec : JsonValue → List UInt8

/-! ## The projection -/

section Encode

/-- `json!` of an unsigned integer. -/
def jsonNumber (n : ℕ) : JsonValue := .number (.posInt n)

/-- `json!` of a digest. -/
def jsonHash (digest : Digest) : JsonValue := .array (digest.toList.map fun b => jsonNumber b.toNat)

/-- `json!` of an `Option`. -/
def jsonOption {α : Type} (f : α → JsonValue) : Option α → JsonValue
  | none => .null
  | some a => f a

/-- The `Debug` names of `LineHunkKind`. -/
def LineHunkKind.debug : LineHunkKind → String
  | added => "Added"
  | removed => "Removed"
  | replaced => "Replaced"

/-- The `Debug` names of `LineChangeKind`. -/
def LineChangeKind.debug : LineChangeKind → String
  | removed => "Removed"
  | added => "Added"

/-- The `Debug` names of `InlineSpanKind`. -/
def InlineSpanKind.debug : InlineSpanKind → String
  | removed => "Removed"
  | added => "Added"

/-- The `Debug` names of `TruncationReason`. -/
def TruncationReason.debug : TruncationReason → String
  | inlineSpanLimit => "InlineSpanLimit"
  | payloadLimit => "PayloadLimit"
  | complexityLimit => "ComplexityLimit"
  | complexityAndPayloadLimit => "ComplexityAndPayloadLimit"
  | complexityAndInlineSpanLimit => "ComplexityAndInlineSpanLimit"

variable [Externals]

/-- A line of a hunk (L802-809). -/
def LineChange.json (change : LineChange) : JsonValue := .object [
  ("kind", .string change.kind.debug),
  ("old_line", jsonOption jsonNumber change.oldLine),
  ("new_line", jsonOption jsonNumber change.newLine),
  ("text_bytes", jsonNumber change.text.length),
  ("text_sha256", jsonHash (Externals.sha256 change.text)),
  ("terminated", .bool change.terminated)]

/-- A hunk (L796-810). -/
def LineHunk.json (hunk : LineHunk) : JsonValue := .object [
  ("old_start", jsonNumber hunk.oldStart),
  ("old_count", jsonNumber hunk.oldCount),
  ("new_start", jsonNumber hunk.newStart),
  ("new_count", jsonNumber hunk.newCount),
  ("kind", .string hunk.kind.debug),
  ("changes", .array (hunk.changes.map LineChange.json))]

/-- A range (L821-828). -/
def UnicodeRange.json (range : UnicodeRange) : JsonValue :=
  .object [("start", jsonNumber range.start), ("end", jsonNumber range.stop)]

/-- An inline span (L817-831). -/
def InlineSpan.json (span : InlineSpan) : JsonValue := .object [ ("kind", .string span.kind.debug),
  ("old_line", jsonOption jsonNumber span.oldLine),
  ("new_line", jsonOption jsonNumber span.newLine),
  ("old_range", jsonOption UnicodeRange.json span.oldRange),
  ("new_range", jsonOption UnicodeRange.json span.newRange),
  ("text_bytes", jsonNumber span.text.length),
  ("text_sha256", jsonHash (Externals.sha256 span.text))]

omit [Externals] in
/-- A cache key (L835-842). -/
def DiffCacheKey.json (key : DiffCacheKey) : JsonValue := .object [
  ("old_body_sha256", jsonHash key.oldBodySha256),
  ("new_body_sha256", jsonHash key.newBodySha256),
  ("algorithm_version", jsonNumber key.algorithmVersion),
  ("projection_version", jsonNumber key.projectionVersion),
  ("normalization", .string "CrLfOnlyUnicodeExact"),
  ("options_fingerprint", jsonNumber key.optionsFingerprint)]

/-- `encode_status`, L864-883 -/
def encodeStatus : DiffStatus → JsonValue
  | .complete => .string "Complete"
  | .approximate => .string "Approximate"
  | .truncated => .string "Truncated"
  | .approximateAndTruncated => .string "ApproximateAndTruncated"
  | .cancelled => .string "Cancelled"
  | .invalidInput oldBytes newBytes maxBytes => .object [("InvalidInput", .object [
      ("old_bytes", jsonNumber oldBytes),
      ("new_bytes", jsonNumber newBytes),
      ("max_bytes", jsonNumber maxBytes)])]

/-- `encode_truncation_marker`, L885-892 -/
def encodeTruncationMarker (marker : TruncationMarker) : JsonValue := .object [
  ("retained_hunks", jsonNumber marker.retainedHunks),
  ("retained_inline_spans", jsonNumber marker.retainedInlineSpans),
  ("retained_payload_bytes", jsonNumber marker.retainedPayloadBytes),
  ("reason", .string marker.reason.debug)]

/-- The document of `encode_public_diff` (L845-854). -/
def PromptDiff.json (diff : PromptDiff) : JsonValue := .object [
  ("old_body_sha256", jsonHash diff.oldBodySha256),
  ("new_body_sha256", jsonHash diff.newBodySha256),
  ("cache_key", jsonOption DiffCacheKey.json diff.cacheKey),
  ("hunks", .array (diff.hunks.map LineHunk.json)),
  ("inline_spans", .array (diff.inlineSpans.map InlineSpan.json)),
  ("estimated_payload_bytes", jsonNumber diff.estimatedPayloadBytes),
  ("status", encodeStatus diff.status),
  ("truncation", jsonOption encodeTruncationMarker diff.truncation)]

/-- `PromptDiffEncodeError`, L444-449 -/
inductive PromptDiffEncodeError
  | payloadLimit (encodedBytes maxBytes : ℕ)

variable [SerdeJson]

/-- `encode_public_diff`, L790-863 -/
def encodePublicDiff (diff : PromptDiff) : Except PromptDiffEncodeError (List UInt8) :=
  let encoded := SerdeJson.toVec diff.json
  if encoded.length > maxPromptDiffPayloadBytes then
    .error (.payloadLimit encoded.length maxPromptDiffPayloadBytes)
  else .ok encoded

theorem encodePublicDiff_length {diff bytes}
    (h : encodePublicDiff diff = .ok bytes) : bytes.length ≤ maxPromptDiffPayloadBytes := by
  unfold encodePublicDiff at h
  dsimp only at h
  split_ifs at h with hlim
  cases h
  exact not_lt.mp hlim

end Encode

/-! ## Sizes of the parts -/

/-- The number has no more digits than `MAX_JSON_NUMBER_BYTES`. -/
def Small (n : ℕ) : Prop := n < 10 ^ maxJsonNumberBytes

/-- The numbers of a line. -/
structure LineChange.Small (change : LineChange) : Prop where
  oldLine : ∀ n ∈ change.oldLine, Prompts.Small n
  newLine : ∀ n ∈ change.newLine, Prompts.Small n
  text : Prompts.Small change.text.length

/-- The numbers of a hunk. -/
structure LineHunk.Small (hunk : LineHunk) : Prop where
  oldStart : Prompts.Small hunk.oldStart
  oldCount : Prompts.Small hunk.oldCount
  newStart : Prompts.Small hunk.newStart
  newCount : Prompts.Small hunk.newCount
  changes : ∀ change ∈ hunk.changes, change.Small

/-- The numbers of a range. -/
def UnicodeRange.Small (range : UnicodeRange) : Prop :=
  Prompts.Small range.start ∧ Prompts.Small range.stop

/-- The numbers of an inline span. -/
structure InlineSpan.Small (span : InlineSpan) : Prop where
  oldLine : ∀ n ∈ span.oldLine, Prompts.Small n
  newLine : ∀ n ∈ span.newLine, Prompts.Small n
  oldRange : ∀ range ∈ span.oldRange, range.Small
  newRange : ∀ range ∈ span.newRange, range.Small
  text : Prompts.Small span.text.length

/-- The numbers of a status. -/
def DiffStatus.Small : DiffStatus → Prop
  | .invalidInput oldBytes newBytes maxBytes =>
    Prompts.Small oldBytes ∧ Prompts.Small newBytes ∧ Prompts.Small maxBytes
  | _ => True

/-- The numbers of a marker. -/
structure TruncationMarker.Small (marker : TruncationMarker) : Prop where
  hunks : Prompts.Small marker.retainedHunks
  spans : Prompts.Small marker.retainedInlineSpans
  bytes : Prompts.Small marker.retainedPayloadBytes

/-- The numbers of a diff. -/
structure PromptDiff.Small (diff : PromptDiff) : Prop where
  hunks : ∀ hunk ∈ diff.hunks, hunk.Small
  spans : ∀ span ∈ diff.inlineSpans, span.Small
  cacheKey : ∀ key ∈ diff.cacheKey, key.algorithmVersion = 1 ∧ key.projectionVersion = 2 ∧
    key.optionsFingerprint < 2 ^ 64
  estimate : Prompts.Small diff.estimatedPayloadBytes
  status : diff.status.Small
  truncation : ∀ marker ∈ diff.truncation, marker.Small

/-- What a hunk is paid with. -/
def hunkBytes (hunk : LineHunk) : ℕ :=
  jsonHunkBytes + hunk.changes.length * (1 + jsonLineChangeBytes)

/-- What the parts of a diff are paid with. -/
def paidBytes (diff : PromptDiff) : ℕ :=
  basePayloadBytes + (diff.hunks.map fun hunk => 1 + hunkBytes hunk).sum +
    diff.inlineSpans.length * (1 + jsonInlineSpanBytes)

theorem jsonLineChangeBytes_eq : jsonLineChangeBytes = 279 := by decide +kernel

theorem jsonInlineSpanBytes_eq : jsonInlineSpanBytes = 400 := by decide +kernel

theorem jsonHunkBytes_eq : jsonHunkBytes = 164 := by decide +kernel

theorem jsonStatusBytes_eq : jsonStatusBytes = 117 := by decide +kernel

theorem jsonTruncationMarkerBytes_eq : jsonTruncationMarkerBytes = 170 := by decide +kernel

theorem basePayloadBytes_eq : basePayloadBytes = 1159 := by decide +kernel

section Sizes

open JsonValue

variable {write : JsonValue → List UInt8} (h : Compact write)

include h

theorem jsonNumber_le {n : ℕ} (hn : Small n) : (write (jsonNumber n)).length ≤ 20 :=
  h.posInt_le (by decide) hn

theorem jsonHash_le (digest : Digest) : (write (jsonHash digest)).length ≤ 129 := by
  have hdigit : ∀ item ∈ digest.toList.map fun b => jsonNumber b.toNat,
    (write item).length ≤ 3 := by
    rintro item hitem
    obtain ⟨b, -, rfl⟩ := mem_map.mp hitem
    refine h.posInt_le (by decide) (b.toNat_lt.trans (by decide))
  have hsize := h.array_le hdigit
  have hlen : (digest.toList.map fun b => jsonNumber b.toNat).length = 32 := by simp
  rw [hlen] at hsize
  exact hsize

theorem jsonOption_le {α : Type} {f : α → JsonValue} {o} {size : ℕ} (hsize : 4 ≤ size)
    (hsome : ∀ a ∈ o, (write (f a)).length ≤ size) : (write (jsonOption f o)).length ≤ size := by
  cases o with
  | none => exact h.null.le.trans hsize
  | some => exact hsome _ rfl

theorem jsonText_le {text} (hplain : Plain text) {size : ℕ} (hsize : text.length + 2 ≤ size) :
    (write (.string text)).length ≤ size := (h.string text hplain).le.trans hsize

theorem lineChange_le [Externals] {change : LineChange} (hsmall : change.Small) :
    (write change.json).length ≤ jsonLineChangeBytes := by
  have hbytes := jsonLineChangeBytes_eq
  have hnames : "kind".length = 4 ∧ "old_line".length = 8 ∧ "new_line".length = 8 ∧
      "text_bytes".length = 10 ∧ "text_sha256".length = 11 ∧ "terminated".length = 10 := by decide
  have hkind : (write (.string change.kind.debug)).length ≤ 9 := by
    cases change.kind <;> exact jsonText_le h (by decide) (by decide)
  have hold := jsonOption_le h (f := jsonNumber) (by decide)
    fun n hn => jsonNumber_le h (hsmall.oldLine n hn)
  have hnew := jsonOption_le h (f := jsonNumber) (by decide)
    fun n hn => jsonNumber_le h (hsmall.newLine n hn)
  have htext := jsonNumber_le h hsmall.text
  have hhash := jsonHash_le h (Externals.sha256 change.text)
  have hterminated : (write (.bool change.terminated)).length ≤ 5 := by
    rw [h.bool]
    split_ifs <;> decide
  refine (h.object _ ?_).trans_le ?_
  · show ∀ name ∈ ["kind", "old_line", "new_line", "text_bytes", "text_sha256", "terminated"],
      Plain name
    decide
  · simp only [map_cons, map_nil, sum_cons, sum_nil, length_cons, length_nil]
    omega

theorem range_le {range : UnicodeRange} (hsmall : range.Small) :
    (write range.json).length ≤ 57 := by
  have hnames : "start".length = 5 ∧ "end".length = 3 := by decide
  have hstart := jsonNumber_le h hsmall.1
  have hstop := jsonNumber_le h hsmall.2
  refine (h.object _ ?_).trans_le ?_
  · show ∀ name ∈ ["start", "end"], Plain name
    decide
  · simp only [map_cons, map_nil, sum_cons, sum_nil, length_cons, length_nil]
    omega

theorem inlineSpan_le [Externals] {span : InlineSpan} (hsmall : span.Small) :
    (write span.json).length ≤ jsonInlineSpanBytes := by
  have hbytes := jsonInlineSpanBytes_eq
  have hnames : "kind".length = 4 ∧ "old_line".length = 8 ∧ "new_line".length = 8 ∧
      "old_range".length = 9 ∧ "new_range".length = 9 ∧ "text_bytes".length = 10 ∧
      "text_sha256".length = 11 := by decide
  have hkind : (write (.string span.kind.debug)).length ≤ 9 := by
    cases span.kind <;> exact jsonText_le h (by decide) (by decide)
  have hold := jsonOption_le h (f := jsonNumber) (by decide)
    fun n hn => jsonNumber_le h (hsmall.oldLine n hn)
  have hnew := jsonOption_le h (f := jsonNumber) (by decide)
    fun n hn => jsonNumber_le h (hsmall.newLine n hn)
  have holdRange := jsonOption_le h (f := UnicodeRange.json) (by decide)
    fun range hrange => range_le h (hsmall.oldRange range hrange)
  have hnewRange := jsonOption_le h (f := UnicodeRange.json) (by decide)
    fun range hrange => range_le h (hsmall.newRange range hrange)
  have htext := jsonNumber_le h hsmall.text
  have hhash := jsonHash_le h (Externals.sha256 span.text)
  refine (h.object _ ?_).trans_le ?_
  · show ∀ name ∈ ["kind", "old_line", "new_line", "old_range", "new_range", "text_bytes",
      "text_sha256"], Plain name
    decide
  · simp only [map_cons, map_nil, sum_cons, sum_nil, length_cons, length_nil]
    omega

theorem hunk_le [Externals] {hunk : LineHunk} (hsmall : hunk.Small) :
    (write hunk.json).length ≤ hunkBytes hunk := by
  have hbytes := jsonHunkBytes_eq
  have hnames : "old_start".length = 9 ∧ "old_count".length = 9 ∧ "new_start".length = 9 ∧
      "new_count".length = 9 ∧ "kind".length = 4 ∧ "changes".length = 7 := by decide
  have holdStart := jsonNumber_le h hsmall.oldStart
  have holdCount := jsonNumber_le h hsmall.oldCount
  have hnewStart := jsonNumber_le h hsmall.newStart
  have hnewCount := jsonNumber_le h hsmall.newCount
  have hkind : (write (.string hunk.kind.debug)).length ≤ 10 := by
    cases hunk.kind <;> exact jsonText_le h (by decide) (by decide)
  have hchanges : ∀ item ∈ hunk.changes.map LineChange.json,
      (write item).length ≤ jsonLineChangeBytes := by
    intro item hitem
    obtain ⟨change, hchange, rfl⟩ := mem_map.mp hitem
    exact lineChange_le h (hsmall.changes change hchange)
  have harray := h.array_le hchanges
  rw [length_map] at harray
  unfold hunkBytes
  rw [Nat.mul_add, Nat.mul_one]
  refine (h.object _ ?_).trans_le ?_
  · show ∀ name ∈ ["old_start", "old_count", "new_start", "new_count", "kind", "changes"],
      Plain name
    decide
  · simp only [map_cons, map_nil, sum_cons, sum_nil, length_cons, length_nil]
    omega

theorem cacheKey_le {key : DiffCacheKey} (hver : key.algorithmVersion = 1)
    (hproj : key.projectionVersion = 2) (hfin : key.optionsFingerprint < 2 ^ 64) :
    (write key.json).length ≤ 462 := by
  have hnames : "old_body_sha256".length = 15 ∧ "new_body_sha256".length = 15 ∧
      "algorithm_version".length = 17 ∧ "projection_version".length = 18 ∧
      "normalization".length = 13 ∧ "options_fingerprint".length = 19 := by decide
  have hold := jsonHash_le h key.oldBodySha256
  have hnew := jsonHash_le h key.newBodySha256
  have hsmall : ∀ n < 2 ^ 64, Small n := fun n hn => hn.trans (by decide)
  have halgorithm := jsonNumber_le h (hsmall key.algorithmVersion (by omega))
  have hproj := jsonNumber_le h (hsmall key.projectionVersion (by omega))
  have hnormalization : (write (.string "CrLfOnlyUnicodeExact")).length ≤ 22 :=
    jsonText_le h (by decide) (by decide)
  have hfin := jsonNumber_le h (hsmall _ hfin)
  refine (h.object _ ?_).trans_le ?_
  · show ∀ name ∈ ["old_body_sha256", "new_body_sha256", "algorithm_version", "projection_version",
      "normalization", "options_fingerprint"], Plain name
    decide
  · simp only [map_cons, map_nil, sum_cons, sum_nil, length_cons, length_nil]
    omega

theorem status_le {status} (hsmall : status.Small) :
    (write (encodeStatus status)).length ≤ jsonStatusBytes := by
  rw [jsonStatusBytes_eq]
  cases status with
  | invalidInput oldBytes newBytes maxBytes =>
    have hnames : "InvalidInput".length = 12 ∧ "old_bytes".length = 9 ∧ "new_bytes".length = 9 ∧
        "max_bytes".length = 9 := by decide
    obtain ⟨hold, hnew, hmax⟩ := hsmall
    have hold := jsonNumber_le h hold
    have hnew := jsonNumber_le h hnew
    have hmax := jsonNumber_le h hmax
    have hinner := h.object [("old_bytes", jsonNumber oldBytes), ("new_bytes", jsonNumber newBytes),
      ("max_bytes", jsonNumber maxBytes)]
      (show ∀ name ∈ ["old_bytes", "new_bytes", "max_bytes"], Plain name by decide)
    refine (h.object _ ?_).trans_le ?_
    · show ∀ name ∈ ["InvalidInput"], Plain name
      decide
    · simp only [map_cons, map_nil, sum_cons, sum_nil, length_cons, length_nil] at hinner ⊢
      omega
  | _ => exact jsonText_le h (by decide) (by decide)

theorem marker_le {marker} (hsmall : marker.Small) :
    (write (encodeTruncationMarker marker)).length ≤ jsonTruncationMarkerBytes := by
  have hbytes := jsonTruncationMarkerBytes_eq
  have hnames : "retained_hunks".length = 14 ∧ "retained_inline_spans".length = 21 ∧
      "retained_payload_bytes".length = 22 ∧ "reason".length = 6 := by decide
  have hhunks := jsonNumber_le h hsmall.hunks
  have hspans := jsonNumber_le h hsmall.spans
  have hpayload := jsonNumber_le h hsmall.bytes
  have hreason : (write (.string marker.reason.debug)).length ≤ 30 := by
    cases marker.reason <;> exact jsonText_le h (by decide) (by decide)
  refine (h.object _ ?_).trans_le ?_
  · show ∀ name ∈ ["retained_hunks", "retained_inline_spans", "retained_payload_bytes", "reason"],
      Plain name
    decide
  · simp only [map_cons, map_nil, sum_cons, sum_nil, length_cons, length_nil]
    omega

theorem diff_le [Externals] {diff : PromptDiff} (hsmall : diff.Small) :
    (write diff.json).length ≤ paidBytes diff := by
  have hbase := basePayloadBytes_eq
  have hstatusBytes := jsonStatusBytes_eq
  have hmarkerBytes := jsonTruncationMarkerBytes_eq
  have hnames : "old_body_sha256".length = 15 ∧ "new_body_sha256".length = 15 ∧
      "cache_key".length = 9 ∧ "hunks".length = 5 ∧ "inline_spans".length = 12 ∧
      "estimated_payload_bytes".length = 23 ∧ "status".length = 6 ∧ "truncation".length = 10 := by
    decide
  have hold := jsonHash_le h diff.oldBodySha256
  have hnew := jsonHash_le h diff.newBodySha256
  have hkey : (write (jsonOption DiffCacheKey.json diff.cacheKey)).length ≤ 462 := by
    refine jsonOption_le h (by decide) fun key hkey => ?_
    obtain ⟨hver, hproj, hfin⟩ := hsmall.cacheKey key hkey
    exact cacheKey_le h hver hproj hfin
  have hhunks : (write (.array (diff.hunks.map LineHunk.json))).length ≤
      2 + (diff.hunks.map fun hunk => 1 + hunkBytes hunk).sum := by
    have hsum := sum_le_sum (l := diff.hunks) (f := fun hunk => (write hunk.json).length)
      fun hunk hhunk => hunk_le h (hsmall.hunks hunk hhunk)
    have hcommas : (diff.hunks.map fun hunk => 1 + hunkBytes hunk).sum =
        diff.hunks.length + (diff.hunks.map hunkBytes).sum := by
      rw [sum_map_add]
      simp
    rw [h.array, map_map, length_map, hcommas]
    show 2 + (diff.hunks.map fun hunk => (write hunk.json).length).sum + _ ≤ _
    omega
  have hspans : (write (.array (diff.inlineSpans.map InlineSpan.json))).length ≤
      2 + diff.inlineSpans.length * (1 + jsonInlineSpanBytes) := by
    have hitems : ∀ item ∈ diff.inlineSpans.map InlineSpan.json,
        (write item).length ≤ jsonInlineSpanBytes := by
      intro item hitem
      obtain ⟨span, hspan, rfl⟩ := mem_map.mp hitem
      exact inlineSpan_le h (hsmall.spans span hspan)
    have harray := h.array_le hitems
    rw [length_map] at harray
    rw [Nat.mul_add, Nat.mul_one]
    omega
  have hestimate := jsonNumber_le h hsmall.estimate
  have hstatus := status_le h hsmall.status
  have hmarker : (write (jsonOption encodeTruncationMarker diff.truncation)).length ≤
      jsonTruncationMarkerBytes :=
    jsonOption_le h (by omega) fun marker hmarker => marker_le h (hsmall.truncation marker hmarker)
  unfold paidBytes
  refine (h.object _ ?_).trans_le ?_
  · show ∀ name ∈ ["old_body_sha256", "new_body_sha256", "cache_key", "hunks", "inline_spans",
      "estimated_payload_bytes", "status", "truncation"], Plain name
    decide
  · simp only [map_cons, map_nil, sum_cons, sum_nil, length_cons, length_nil]
    omega

end Sizes

end DevManager.Prompts
