import DevManager.Domain.Externals
import DevManager.Lib.Stateful
import DevManager.Prompts.SearchIndex

/-!
# Prompt diffs (`src/prompts/diff.rs`)

Two prompt bodies are cut into lines, CRLF folded to LF, and compared line by line: at a
mismatch a window of lines is searched for the next pair of equal ones, and what lies before
it is a hunk, with the differing clusters of its paired lines as inline spans. Work, output,
cancellation and a deadline are bounded, and a bound that is met shows in the status.

A `str` is its bytes here: every slice is cut beside a line break or a grapheme cluster. The
clock, the cancellation flag and `unicode_segmentation` are arguments.
-/

namespace DevManager.Prompts

/-- `line.grapheme_indices(true)`: the clusters of a line. -/
class UnicodeSegmentation where
  graphemes : List UInt8 → List (List UInt8)

/-! ## Bounds (L13-32) -/

def maxPromptDiffInlineSpans : ℕ := 20_000

def maxPromptDiffLineCount : ℕ := 50_000

def maxPromptDiffGraphemeCount : ℕ := 65_536

def maxPromptDiffPayloadBytes : ℕ := 2 * 1024 * 1024

def lineAnchorWindow : ℕ := 32

def inlineAnchorWindow : ℕ := 32

def largeHeuristicLineCount : ℕ := 512

def workChunkBytes : ℕ := 64

/-- `bytes.chunks(size)`. -/
def chunks (size : ℕ) (bytes : List UInt8) : List (List UInt8) :=
  (List.range ((bytes.length + size - 1) / size)).map fun k => (bytes.drop (k * size)).take size

/-- `&items[start..end]`. -/
def slice {α : Type} (items : List α) (start stop : ℕ) : List α := (items.take stop).drop start

/-! ## The result -/

inductive LineChangeKind
  | removed | added

/-- `LineChange`, L122-128 -/
structure LineChange where
  kind : LineChangeKind
  oldLine : Option ℕ
  newLine : Option ℕ
  text : List UInt8
  terminated : Bool

inductive LineHunkKind
  | added | removed | replaced

/-- `LineHunk`, L102-109 -/
structure LineHunk where
  oldStart : ℕ
  oldCount : ℕ
  newStart : ℕ
  newCount : ℕ
  kind : LineHunkKind
  changes : List LineChange

inductive InlineSpanKind
  | removed | added
deriving DecidableEq

/-- `UnicodeRange`, L224-227 -/
structure UnicodeRange where
  start : ℕ
  stop : ℕ

/-- `InlineSpan`, L170-177 -/
structure InlineSpan where
  kind : InlineSpanKind
  oldLine : Option ℕ
  newLine : Option ℕ
  oldRange : Option UnicodeRange
  newRange : Option UnicodeRange
  text : List UInt8

/-- `TruncationReason`, L232-238 -/
inductive TruncationReason
  | inlineSpanLimit | payloadLimit | complexityLimit | complexityAndPayloadLimit
  | complexityAndInlineSpanLimit

/-- `TruncationMarker`, L243-248 -/
structure TruncationMarker where
  retainedHunks : ℕ
  retainedInlineSpans : ℕ
  retainedPayloadBytes : ℕ
  reason : TruncationReason

/-- `DiffStatus`, L252-265 -/
inductive DiffStatus
  | complete | approximate | truncated | approximateAndTruncated | cancelled
  | invalidInput (oldBytes newBytes maxBytes : ℕ)
deriving DecidableEq

/-- `DiffCacheKey` (L272-279); there is one normalization policy. -/
structure DiffCacheKey where
  oldBodySha256 : Digest
  newBodySha256 : Digest
  algorithmVersion : ℕ
  projectionVersion : ℕ
  optionsFingerprint : ℕ
deriving DecidableEq

/-- `PromptDiff`, L40-51 -/
structure PromptDiff where
  oldBody : List UInt8
  newBody : List UInt8
  oldBodySha256 : Digest
  newBodySha256 : Digest
  cacheKey : Option DiffCacheKey
  hunks : List LineHunk
  inlineSpans : List InlineSpan
  estimatedPayloadBytes : ℕ
  status : DiffStatus
  truncation : Option TruncationMarker

/-! ## Encoded sizes -/

/-- `json_string_bytes`, L1558-1567 -/
def jsonStringBytes (value : String) : ℕ :=
  (asBytes value).foldl (fun bytes byte => saturatingAdd bytes (if byte = 0x22 ∨ byte = 0x5c then 2
    else if byte = 0x08 ∨ byte = 0x09 ∨ byte = 0x0a ∨ byte = 0x0c ∨ byte = 0x0d then 2
    else if byte ≤ 0x1f then 6
    else 1)) 2

/-- `json_field_bytes`, L1569-1573 -/
def jsonFieldBytes (name : String) (valueBytes : ℕ) : ℕ :=
  saturatingAdd (saturatingAdd (jsonStringBytes name) 1) valueBytes

/-- `json_object_bytes`, `json_array_bytes` (L1575-1585). -/
def jsonObjectBytes (fields : List ℕ) : ℕ :=
  saturatingAdd (saturatingAdd 2 fields.sum) (fields.length - 1)

/-- `MAX_JSON_NUMBER_BYTES`, L33 -/
def maxJsonNumberBytes : ℕ := 20

/-- `json_hash_bytes`, L1587-1589 -/
def jsonHashBytes : ℕ := jsonObjectBytes (List.replicate 32 3)

/-- `json_range_bytes`, L1591-1596 -/
def jsonRangeBytes : ℕ :=
  jsonObjectBytes [jsonFieldBytes "start" maxJsonNumberBytes,
    jsonFieldBytes "end" maxJsonNumberBytes]

/-- `json_status_bytes`, L1598-1618 -/
def jsonStatusBytes : ℕ :=
  let invalidInput := jsonObjectBytes [jsonFieldBytes "InvalidInput" (jsonObjectBytes
    [jsonFieldBytes "old_bytes" maxJsonNumberBytes, jsonFieldBytes "new_bytes" maxJsonNumberBytes,
      jsonFieldBytes "max_bytes" maxJsonNumberBytes])]
  [jsonStringBytes "Complete", jsonStringBytes "Approximate", jsonStringBytes "Truncated",
    jsonStringBytes "ApproximateAndTruncated", jsonStringBytes "Cancelled",
    invalidInput].foldl max 0

/-- `json_truncation_marker_bytes`, L1620-1639 -/
def jsonTruncationMarkerBytes : ℕ :=
  let reason := [jsonStringBytes "InlineSpanLimit", jsonStringBytes "PayloadLimit",
    jsonStringBytes "ComplexityLimit", jsonStringBytes "ComplexityAndPayloadLimit",
    jsonStringBytes "ComplexityAndInlineSpanLimit"].foldl max 0
  jsonObjectBytes [jsonFieldBytes "retained_hunks" maxJsonNumberBytes,
    jsonFieldBytes "retained_inline_spans" maxJsonNumberBytes,
    jsonFieldBytes "retained_payload_bytes" maxJsonNumberBytes, jsonFieldBytes "reason" reason]

/-- `base_payload_bytes`, L1641-1661 -/
def basePayloadBytes : ℕ :=
  jsonObjectBytes [jsonFieldBytes "old_body_sha256" jsonHashBytes,
    jsonFieldBytes "new_body_sha256" jsonHashBytes,
    jsonFieldBytes "cache_key" (jsonObjectBytes [jsonFieldBytes "old_body_sha256" jsonHashBytes,
      jsonFieldBytes "new_body_sha256" jsonHashBytes,
      jsonFieldBytes "algorithm_version" maxJsonNumberBytes,
      jsonFieldBytes "projection_version" maxJsonNumberBytes,
      jsonFieldBytes "normalization" (jsonStringBytes "CrLfOnlyUnicodeExact"),
      jsonFieldBytes "options_fingerprint" maxJsonNumberBytes]),
    jsonFieldBytes "hunks" (jsonObjectBytes []), jsonFieldBytes "inline_spans" (jsonObjectBytes []),
    jsonFieldBytes "estimated_payload_bytes" maxJsonNumberBytes,
    jsonFieldBytes "status" jsonStatusBytes, jsonFieldBytes "truncation" jsonTruncationMarkerBytes]

/-- `json_hunk_bytes`, L1663-1672 -/
def jsonHunkBytes : ℕ :=
  jsonObjectBytes [jsonFieldBytes "old_start" maxJsonNumberBytes,
    jsonFieldBytes "old_count" maxJsonNumberBytes, jsonFieldBytes "new_start" maxJsonNumberBytes,
    jsonFieldBytes "new_count" maxJsonNumberBytes,
    jsonFieldBytes "kind" (jsonStringBytes "Replaced"),
    jsonFieldBytes "changes" (jsonObjectBytes [])]

/-- `json_line_change_bytes`, L1674-1683 -/
def jsonLineChangeBytes : ℕ :=
  jsonObjectBytes [jsonFieldBytes "kind" (jsonStringBytes "Removed"),
    jsonFieldBytes "old_line" maxJsonNumberBytes, jsonFieldBytes "new_line" maxJsonNumberBytes,
    jsonFieldBytes "text_bytes" maxJsonNumberBytes, jsonFieldBytes "text_sha256" jsonHashBytes,
    jsonFieldBytes "terminated" 5]

/-- `json_inline_span_bytes`, L1685-1696 -/
def jsonInlineSpanBytes : ℕ :=
  jsonObjectBytes [jsonFieldBytes "kind" (jsonStringBytes "Removed"),
    jsonFieldBytes "old_line" maxJsonNumberBytes, jsonFieldBytes "new_line" maxJsonNumberBytes,
    jsonFieldBytes "old_range" jsonRangeBytes, jsonFieldBytes "new_range" jsonRangeBytes,
    jsonFieldBytes "text_bytes" maxJsonNumberBytes, jsonFieldBytes "text_sha256" jsonHashBytes]

/-! ## Budgets -/

/-- `BudgetStop`, L1476-1479 -/
inductive BudgetStop
  | cancelled | workLimit

/-- `PhaseStop`, L1482-1486 -/
inductive PhaseStop
  | cancelled | workLimit | outputLimit

/-- `from`, L1489-1494 -/
def BudgetStop.toPhase : BudgetStop → PhaseStop
  | .cancelled => .cancelled
  | .workLimit => .workLimit

/-- `DiffBudget`, L474-481 -/
structure DiffBudget where
  /-- What the `n`-th look at the cancellation flag and the deadline finds. -/
  stopped : ℕ → Bool
  looks : ℕ
  /-- There is a flag to raise, and whether it was. -/
  hasFlag : Bool
  raised : Bool
  workLimit : Option ℕ
  workUsed : ℕ
  cancelAfterWork : Option ℕ
  /-- `DiffOptions::work_limit`. -/
  optionsWorkLimit : Option ℕ

namespace DiffBudget

/-- `DiffBudget::default` (L483-494), with the flag and the deadline of `stopped`. -/
def default (stopped : ℕ → Bool) : DiffBudget where
  stopped := stopped
  looks := 0
  hasFlag := false
  raised := false
  workLimit := some (4 * 1024 * 1024)
  workUsed := 0
  cancelAfterWork := none
  optionsWorkLimit := some (4 * 1024 * 1024)

end DiffBudget

abbrev Budgeted := EStateM BudgetStop DiffBudget

/-- `cancellation_or_deadline`, L532-538 -/
def cancellationOrDeadline : Budgeted Bool := do
  let budget ← get
  set { budget with looks := budget.looks + 1 }
  pure (budget.raised || budget.stopped budget.looks)

/-- `checkpoint`, L540-564 -/
def checkpoint (units : ℕ) : Budgeted Unit := do
  let stop ← cancellationOrDeadline
  refuseIf (stop = true) .cancelled
  let budget ← get
  if budget.workLimit.any (units > ·) then do
    set { budget with workLimit := some 0 }
    throw .workLimit
  else do
    let workUsed := saturatingAdd budget.workUsed units
    let reached := budget.cancelAfterWork.any (workUsed ≥ ·)
    set { budget with
      workLimit := budget.workLimit.map (· - units), workUsed,
      raised := budget.raised || (reached && budget.hasFlag) }
    refuseIf (reached = true) .cancelled

/-- `observe_cancellation`, L566-572 -/
def observeCancellation : Budgeted Unit := do
  let stop ← cancellationOrDeadline
  refuseIf (stop = true) .cancelled

/-- `OutputBudget`, L1503-1508 -/
structure OutputBudget where
  bytes : ℕ
  spans : ℕ
  reason : Option TruncationReason
  approximate : Bool

namespace OutputBudget

/-- `new`, L1511-1518 -/
def new : OutputBudget := ⟨basePayloadBytes, 0, none, false⟩

variable (output : OutputBudget)

/-- `reserve_bytes`, L1540-1551 -/
def reserveBytes (bytes : ℕ) : Bool × OutputBudget :=
  match checkedAdd output.bytes bytes with
  | none => (false, { output with reason := some .payloadLimit })
  | some next =>
    if next > maxPromptDiffPayloadBytes then
      (false, { output with reason := some .payloadLimit })
    else (true, { output with bytes := next })

/-- `reserve_hunk`, L1520-1522 -/
def reserveHunk : Bool × OutputBudget :=
  output.reserveBytes (saturatingAdd 1 jsonHunkBytes)

/-- `reserve_line`, L1524-1526 -/
def reserveLine : Bool × OutputBudget :=
  output.reserveBytes (saturatingAdd 1 jsonLineChangeBytes)

/-- `reserve_span`, L1528-1538 -/
def reserveSpan : Bool × OutputBudget :=
  if output.spans ≥ maxPromptDiffInlineSpans then
    (false, { output with reason := some .inlineSpanLimit })
  else
    match output.reserveBytes (saturatingAdd 1 jsonInlineSpanBytes) with
    | (true, output) => (true, { output with spans := output.spans + 1 })
    | (false, output) => (false, output)

/-- `bytes_with_marker`, L1553-1555 -/
def bytesWithMarker : ℕ := min output.bytes maxPromptDiffPayloadBytes

end OutputBudget

/-! ## Lines -/

/-- `LineSlice`, L1464-1467 -/
structure LineSlice where
  text : List UInt8
  terminated : Bool
deriving Inhabited

variable (body : List UInt8)

/-- The text is not at a checkpoint of the scan, or pays for the next chunk
(L928-930, `966-968`). -/
def payChunk (index : ℕ) : Budgeted Unit :=
  if index % workChunkBytes = 0 then checkpoint (min (body.length - index) workChunkBytes)
  else pure ()

/-- `count_normalized_lines`, L958-983 -/
def countNormalizedLines : Budgeted ℕ :=
  if body.isEmpty then pure 0
  else do
    let count ← body.zipIdx.foldlM (fun count (byte, index) => do
      payChunk body index
      if byte = 10 then do
        let count := saturatingAdd count 1
        refuseIf (count > maxPromptDiffLineCount) BudgetStop.workLimit
        pure count
      else pure count) 0
    let count := if body.getLast? = some 10 then count else saturatingAdd count 1
    refuseIf (count > maxPromptDiffLineCount) BudgetStop.workLimit
    pure count

/-- One byte of `scan_normalized_lines` (L928-942), on the lines so far and the start
of the line that is open. -/
def scanByte (scan : List LineSlice × ℕ) (entry : UInt8 × ℕ) :
    Budgeted (List LineSlice × ℕ) := do
  payChunk body entry.2
  if entry.1 = 10 then
    let textEnd :=
      if entry.2 > scan.2 ∧ body[entry.2 - 1]? = some 13 then entry.2 - 1 else entry.2
    pure (scan.1 ++ [⟨slice body scan.2 textEnd, true⟩], entry.2 + 1)
  else pure scan

/-- `scan_normalized_lines`, L918-953 -/
def scanNormalizedLines : Budgeted (List LineSlice) := do
  let _ ← countNormalizedLines body
  let (lines, start) ← body.zipIdx.foldlM (scanByte body) ([], 0)
  if start < body.length then do
    checkpoint (min (body.length - start) workChunkBytes)
    pure (lines ++ [⟨body.drop start, false⟩])
  else pure lines

/-- The loop over pairs of chunks (L996-1006, `1261-1271`). -/
def chunksEqual : List (List UInt8 × List UInt8) → Budgeted Bool
  | [] => pure true
  | (old, new) :: rest => do
    checkpoint old.length
    if old = new then chunksEqual rest else pure false

/-- `lines_equal`, L985-1008 -/
def linesEqual (old new : LineSlice) : Budgeted Bool := do
  checkpoint 1
  if old.terminated ≠ new.terminated ∨ old.text.length ≠ new.text.length then pure false
  else chunksEqual ((chunks workChunkBytes old.text).zip (chunks workChunkBytes new.text))

/-- The candidates of an anchor search in the order in which they are tried, as offsets from the
mismatch (L1025-1029, `1290-1294`). -/
def anchorOffsets (oldSpan newSpan : ℕ) : List (ℕ × ℕ) :=
  (List.range' 1 (oldSpan - 1 + (newSpan - 1))).flatMap fun score =>
    let oldOffsetMin := score - (newSpan - 1)
    let oldOffsetMax := min score (oldSpan - 1)
    (List.range' oldOffsetMin (oldOffsetMax + 1 - oldOffsetMin)).map fun oldOffset =>
      (oldOffset, score - oldOffset)

/-- Both anchor searches: the first candidate that `equal` accepts. -/
def searchAnchor (equal : ℕ → ℕ → Budgeted Bool) (oldStart newStart : ℕ) :
    List (ℕ × ℕ) → Budgeted (Option (ℕ × ℕ))
  | [] => pure none
  | (oldOffset, newOffset) :: rest => do
    checkpoint 1
    let same ← equal (oldStart + oldOffset) (newStart + newOffset)
    if same then pure (some (oldStart + oldOffset, newStart + newOffset))
    else searchAnchor equal oldStart newStart rest

/-- `find_line_anchor`, L1010-1044 -/
def findLineAnchor (oldLines newLines : List LineSlice) (oldStart newStart : ℕ) :
    Budgeted (Option (ℕ × ℕ)) :=
  searchAnchor (fun i j => linesEqual (oldLines.getD i default) (newLines.getD j default))
    oldStart newStart (anchorOffsets (min (oldStart + lineAnchorWindow) oldLines.length - oldStart)
      (min (newStart + lineAnchorWindow) newLines.length - newStart))

/-! ## Phases -/

/-- What the phases write. -/
structure DiffWork where
  result : PromptDiff
  budget : DiffBudget
  output : OutputBudget

abbrev Phase := EStateM PhaseStop DiffWork

/-- A call on the budget, its error turned into one of the phase. -/
def onBudget {α : Type} (call : Budgeted α) : Phase α := fun work =>
  match call work.budget with
  | .ok a budget => .ok a { work with budget }
  | .error stop budget => .error stop.toPhase { work with budget }

/-- `if !output.reserve_..() { return Err(PhaseStop::OutputLimit) }`. -/
def reserve (call : OutputBudget → Bool × OutputBudget) : Phase Unit := do
  let work ← get
  let (room, output) := call work.output
  set { work with output }
  refuseIf (room = false) .outputLimit

/-- `copy_with_cancellation`, L1390-1402 -/
def copyWithCancellation (text : List UInt8) : Phase (List UInt8) := do
  onBudget observeCancellation
  (chunks workChunkBytes text).foldlM (fun bytes chunk => do
    onBudget observeCancellation
    pure (bytes ++ chunk)) []

/-- `GraphemeSlice`, L1470-1473 -/
structure GraphemeSlice where
  text : List UInt8
  start : ℕ
  stop : ℕ
deriving Inhabited

section Inline

variable [UnicodeSegmentation]

/-- `count_graphemes`, L1238-1248 -/
def countGraphemes (line : List UInt8) : Budgeted ℕ :=
  (UnicodeSegmentation.graphemes line).foldlM (fun count text => do
    checkpoint (max text.length 1)
    let count := saturatingAdd count 1
    refuseIf (count > maxPromptDiffGraphemeCount) BudgetStop.workLimit
    pure count) 0

/-- `collect_graphemes`, L1219-1233 -/
def collectGraphemes (line : List UInt8) : Budgeted (List GraphemeSlice) := do
  let _ ← countGraphemes line
  let (graphemes, _) ← (UnicodeSegmentation.graphemes line).foldlM
    (fun (graphemes, start) text => do
      checkpoint text.length
      pure (graphemes ++ [⟨text, start, start + text.length⟩], start + text.length)) ([], 0)
  pure graphemes

end Inline

/-- `graphemes_equal`, L1250-1273 -/
def graphemesEqual (old new : GraphemeSlice) : Budgeted Bool := do
  checkpoint 1
  if old.text.length ≠ new.text.length then pure false
  else chunksEqual ((chunks workChunkBytes old.text).zip (chunks workChunkBytes new.text))

/-- `find_grapheme_anchor`, L1275-1306 -/
def findGraphemeAnchor (oldGraphemes newGraphemes : List GraphemeSlice) (oldStart newStart : ℕ) :
    Budgeted (Option (ℕ × ℕ)) :=
  searchAnchor
    (fun i j => graphemesEqual (oldGraphemes.getD i default) (newGraphemes.getD j default))
    oldStart newStart (anchorOffsets
      (min (oldStart + inlineAnchorWindow) oldGraphemes.length - oldStart)
      (min (newStart + inlineAnchorWindow) newGraphemes.length - newStart))

/-- The two lines whose clusters are compared, with their numbers. -/
structure PairedLines where
  oldLine : List UInt8
  newLine : List UInt8
  oldLineNumber : ℕ
  newLineNumber : ℕ

/-- `append_inline_span`, L1350-1388 -/
def appendInlineSpan (pair : PairedLines) (graphemes : List GraphemeSlice) (start stop : ℕ)
    (kind : InlineSpanKind) : Phase Unit :=
  if start ≥ stop then pure ()
  else do
    let line := match kind with
      | .removed => pair.oldLine
      | .added => pair.newLine
    let text := slice line (graphemes.getD start default).start
      (graphemes.getD (stop - 1) default).stop
    onBudget observeCancellation
    reserve OutputBudget.reserveSpan
    let copied ← copyWithCancellation text
    modify fun work => { work with result := { work.result with
      inlineSpans := work.result.inlineSpans ++ [{
        kind
        oldLine := some pair.oldLineNumber
        newLine := some pair.newLineNumber
        oldRange := if kind = .removed then some ⟨start, stop⟩ else none
        newRange := if kind = .added then some ⟨start, stop⟩ else none
        text := copied }] } }

/-- `append_inline_span_pair`, L1308-1348 -/
def appendInlineSpanPair (pair : PairedLines) (oldGraphemes newGraphemes : List GraphemeSlice)
    (oldStart oldEnd newStart newEnd : ℕ) : Phase Unit := do
  appendInlineSpan pair oldGraphemes oldStart oldEnd .removed
  appendInlineSpan pair newGraphemes newStart newEnd .added

/-- The loop of `append_inline_spans` (L1153-1194): where it leaves off, and whether a
region was too large. `fuel` bounds the rounds, each of which moves on by a cluster. -/
def inlineLoop (pair : PairedLines) (oldGraphemes newGraphemes : List GraphemeSlice) :
    ℕ → ℕ → ℕ → Bool → Phase (ℕ × ℕ × Bool)
  | 0, oldIndex, newIndex, approximate => pure (oldIndex, newIndex, approximate)
  | fuel + 1, oldIndex, newIndex, approximate =>
    if oldIndex < oldGraphemes.length ∧ newIndex < newGraphemes.length then do
      let same ← onBudget (graphemesEqual (oldGraphemes.getD oldIndex default)
        (newGraphemes.getD newIndex default))
      if same then
        inlineLoop pair oldGraphemes newGraphemes fuel (oldIndex + 1) (newIndex + 1) approximate
      else do
        let anchor ← onBudget (findGraphemeAnchor oldGraphemes newGraphemes oldIndex newIndex)
        let (oldEnd, newEnd) := anchor.getD (oldGraphemes.length, newGraphemes.length)
        let large := anchor.isNone && decide
          (max (oldGraphemes.length - oldIndex) (newGraphemes.length - newIndex) > lineAnchorWindow)
        if large then modify fun work => { work with output := { work.output with
          approximate := true } }
        appendInlineSpanPair pair oldGraphemes newGraphemes oldIndex oldEnd newIndex newEnd
        inlineLoop pair oldGraphemes newGraphemes fuel oldEnd newEnd (approximate || large)
    else pure (oldIndex, newIndex, approximate)

section Hunks

variable [UnicodeSegmentation]

/-- `append_inline_spans` (L1138-1217): whether the outcome is `Approximate`. -/
def appendInlineSpans (pair : PairedLines) : Phase Bool := do
  let oldGraphemes ← onBudget (collectGraphemes pair.oldLine)
  let newGraphemes ← onBudget (collectGraphemes pair.newLine)
  let (oldIndex, newIndex, approximate) ← inlineLoop pair oldGraphemes newGraphemes
    (oldGraphemes.length + newGraphemes.length) 0 0 false
  if oldIndex < oldGraphemes.length ∨ newIndex < newGraphemes.length then
    appendInlineSpanPair pair oldGraphemes newGraphemes oldIndex oldGraphemes.length newIndex
      newGraphemes.length
  pure approximate

/-- `line_hunk_kind`, L1404-1410 -/
def lineHunkKind (oldCount newCount : ℕ) : LineHunkKind :=
  match oldCount, newCount with
  | 0, _ => .added
  | _, 0 => .removed
  | _, _ => .replaced

/-- `result.hunks[hunk_index].changes.push(change)`. -/
def pushChange (hunkIndex : ℕ) (change : LineChange) : Phase Unit :=
  modify fun work => { work with result := { work.result with
    hunks := work.result.hunks.modify hunkIndex fun hunk =>
      { hunk with changes := hunk.changes ++ [change] } } }

/-- One side of `append_line_changes` (L1105-1119, `1120-1134`): the change that quotes
the line of an index. -/
def appendLineChange (hunkIndex : ℕ) (lines : List LineSlice)
    (change : ℕ → LineSlice → LineChange) (index : ℕ) : Phase Unit := do
  onBudget observeCancellation
  reserve OutputBudget.reserveLine
  let line := lines.getD index default
  let text ← copyWithCancellation line.text
  pushChange hunkIndex (change (index + 1) { line with text })

/-- The change that quotes an old line. -/
def removedLine (number : ℕ) (line : LineSlice) : LineChange where
  kind := .removed
  oldLine := some number
  newLine := none
  text := line.text
  terminated := line.terminated

/-- The change that quotes a new line. -/
def addedLine (number : ℕ) (line : LineSlice) : LineChange where
  kind := .added
  oldLine := none
  newLine := some number
  text := line.text
  terminated := line.terminated

/-- `append_line_changes`, L1095-1136 -/
def appendLineChanges (hunkIndex : ℕ) (oldLines newLines : List LineSlice)
    (oldStart oldEnd newStart newEnd : ℕ) : Phase Unit := do
  (List.range' oldStart (oldEnd - oldStart)).forM (appendLineChange hunkIndex oldLines removedLine)
  (List.range' newStart (newEnd - newStart)).forM (appendLineChange hunkIndex newLines addedLine)

/-- `append_hunk` (L1046-1093): whether an inline outcome was `Approximate`. -/
def appendHunk (oldLines newLines : List LineSlice) (oldStart oldEnd newStart newEnd : ℕ) :
    Phase Bool :=
  if oldStart ≥ oldEnd ∧ newStart ≥ newEnd then pure false
  else do
    reserve OutputBudget.reserveHunk
    let work ← get
    let hunkIndex := work.result.hunks.length
    let hunk : LineHunk := {
      oldStart := oldStart + 1, oldCount := oldEnd - oldStart, newStart := newStart + 1,
      newCount := newEnd - newStart, kind := lineHunkKind (oldEnd - oldStart) (newEnd - newStart),
      changes := [] }
    set { work with result := { work.result with hunks := work.result.hunks ++ [hunk] } }
    appendLineChanges hunkIndex oldLines newLines oldStart oldEnd newStart newEnd
    (List.range (min (oldEnd - oldStart) (newEnd - newStart))).foldlM (fun approximate offset => do
        let outcome ← appendInlineSpans {
          oldLine := (oldLines.getD (oldStart + offset) default).text,
          newLine := (newLines.getD (newStart + offset) default).text,
          oldLineNumber := oldStart + offset + 1, newLineNumber := newStart + offset + 1 }
        pure (approximate || outcome)) false

end Hunks

/-! ## The ends of a comparison -/

/-- `empty_result`, L894-907 -/
def emptyResult (old new : List UInt8) (status : DiffStatus) : PromptDiff where
  oldBody := old
  newBody := new
  oldBodySha256 := Vector.replicate 32 0
  newBodySha256 := Vector.replicate 32 0
  cacheKey := none
  hunks := []
  inlineSpans := []
  estimatedPayloadBytes := min basePayloadBytes maxPromptDiffPayloadBytes
  status := status
  truncation := none

variable (work : DiffWork)

/-- `finish_cancelled`, L1412-1418 -/
def finishCancelled : PromptDiff :=
  { work.result with
    estimatedPayloadBytes := min work.output.bytes maxPromptDiffPayloadBytes, status := .cancelled,
    cacheKey := none, truncation := none }

/-- The marker of a result that ends early. -/
def markerOf (reason : TruncationReason) : TruncationMarker where
  retainedHunks := work.result.hunks.length
  retainedInlineSpans := work.result.inlineSpans.length
  retainedPayloadBytes := work.output.bytesWithMarker
  reason := reason

/-- `finish_truncated`, L1420-1448 -/
def finishTruncated (approximate : Bool) : PromptDiff :=
  let approximate := approximate || work.output.approximate
  let reason := match approximate, work.output.reason.getD .payloadLimit with
    | true, .inlineSpanLimit => .complexityAndInlineSpanLimit
    | true, _ => .complexityAndPayloadLimit
    | false, reason => reason
  { work.result with
    estimatedPayloadBytes := work.output.bytesWithMarker
    status := if approximate then .approximateAndTruncated else .truncated
    truncation := some (markerOf work reason) }

/-- `finish_approximate`, L1450-1461 -/
def finishApproximate : PromptDiff :=
  { work.result with
    estimatedPayloadBytes := work.output.bytesWithMarker, status := .approximate,
    truncation := some (markerOf work .complexityLimit) }

/-! ## The comparison -/

section Compare

variable [UnicodeSegmentation]

/-- How a round of the loop ends: it returns a result, or leaves its locals. -/
inductive RoundEnd
  | returned (result : PromptDiff)
  | left (oldIndex newIndex : ℕ) (approximate : Bool) (work : DiffWork)

variable (oldLines newLines : List LineSlice)

/-- From a mismatch to the next anchor, or to the end of both bodies (L684-751). -/
def compareRegion (oldIndex newIndex : ℕ)
    (approximate : Bool) (work : DiffWork) : RoundEnd :=
  match runOn (findLineAnchor oldLines newLines oldIndex newIndex) work.budget with
  | (.ok (some (anchorOld, anchorNew)), budget) =>
    match runOn (appendHunk oldLines newLines oldIndex anchorOld newIndex anchorNew)
      { work with budget } with
    | (.ok wasApproximate, work) =>
      .left anchorOld anchorNew (approximate || wasApproximate) work
    | (.error .cancelled, work) => .returned (finishCancelled work)
    | (.error .workLimit, work) => .returned (finishApproximate work)
    | (.error .outputLimit, work) => .returned (finishTruncated work approximate)
  | (.ok none, budget) =>
    let approximate := approximate || decide
      (max (oldLines.length - oldIndex) (newLines.length - newIndex) > lineAnchorWindow)
    match runOn (appendHunk oldLines newLines oldIndex oldLines.length newIndex newLines.length)
      { work with budget } with
    | (.ok wasApproximate, work) =>
      .left oldLines.length newLines.length (approximate || wasApproximate) work
    | (.error .cancelled, work) => .returned (finishCancelled work)
    | (.error .workLimit, work) => .left oldLines.length newLines.length true work
    | (.error .outputLimit, work) => .returned (finishTruncated work approximate)
  | (.error .cancelled, budget) => .returned (finishCancelled { work with budget })
  | (.error .workLimit, budget) =>
    match runOn (appendHunk oldLines newLines oldIndex oldLines.length newIndex newLines.length)
      { work with budget } with
    | (.ok _, work) => .left oldLines.length newLines.length true work
    | (.error .cancelled, work) => .returned (finishCancelled work)
    | (.error .workLimit, work) => .left oldLines.length newLines.length true work
    | (.error .outputLimit, work) => .returned (finishTruncated work true)

/-- In `diff_versions_with_budget`, L664 -/
def largeHeuristicInput : Bool :=
  decide (max oldLines.length newLines.length > largeHeuristicLineCount)

/-- The loop of `diff_versions_with_budget` (L667-753). `fuel` bounds the rounds, each of
which moves on by a line. -/
def compareLoop (oldLines newLines : List LineSlice) : ℕ → ℕ → ℕ → Bool → DiffWork → RoundEnd
  | 0, oldIndex, newIndex, approximate, work => .left oldIndex newIndex approximate work
  | fuel + 1, oldIndex, newIndex, approximate, work =>
    if oldIndex < oldLines.length ∧ newIndex < newLines.length then
      match runOn (linesEqual (oldLines.getD oldIndex default) (newLines.getD newIndex default))
        work.budget with
      | (.ok true, budget) =>
        compareLoop oldLines newLines fuel (oldIndex + 1) (newIndex + 1) approximate
          { work with budget }
      | (.ok false, budget) =>
        match compareRegion oldLines newLines oldIndex newIndex
          (approximate || largeHeuristicInput oldLines newLines) { work with budget } with
        | .returned result => .returned result
        | .left oldIndex newIndex approximate work =>
          compareLoop oldLines newLines fuel oldIndex newIndex approximate work
      | (.error .cancelled, budget) => .returned (finishCancelled { work with budget })
      | (.error .workLimit, budget) =>
        .left oldIndex newIndex true { work with budget }
    else .left oldIndex newIndex approximate work

/-- What is left of one body behind the end of the other, or behind a broken off comparison
(L755-771). -/
def compareRest (oldIndex newIndex : ℕ) (approximate : Bool)
    (work : DiffWork) : RoundEnd :=
  if oldIndex < oldLines.length ∨ newIndex < newLines.length then
    let approximate := approximate || largeHeuristicInput oldLines newLines
    match runOn (appendHunk oldLines newLines oldIndex oldLines.length newIndex newLines.length)
      work with
    | (.ok wasApproximate, work) =>
      .left oldLines.length newLines.length (approximate || wasApproximate) work
    | (.error .cancelled, work) => .returned (finishCancelled work)
    | (.error .workLimit, work) => .left oldLines.length newLines.length true work
    | (.error .outputLimit, work) => .returned (finishTruncated work approximate)
  else .left oldIndex newIndex approximate work

/-- The last look at the flag, and the status (L773-782). -/
def finishComparison (approximate : Bool) (work : DiffWork) : PromptDiff :=
  match runOn observeCancellation work.budget with
  | (.error _, budget) => finishCancelled { work with budget }
  | (.ok (), _) =>
    if approximate then finishApproximate work
    else { work.result with estimatedPayloadBytes := work.output.bytes, status := .complete }

/-- `diff_versions_with_budget` on the lines of both bodies (L662-783). -/
def compareLines (work : DiffWork) : PromptDiff :=
  match compareLoop oldLines newLines (oldLines.length + newLines.length) 0 0 false work with
  | .returned result => result
  | .left oldIndex newIndex approximate work =>
    match compareRest oldLines newLines oldIndex newIndex approximate work with
    | .returned result => result
    | .left _ _ approximate work => finishComparison approximate work

section Entry

variable [Externals]

/-- `hash_with_budget`, L909-916 -/
def hashWithBudget (body : List UInt8) : Budgeted Digest := do
  (chunks (4 * 1024) body).forM fun chunk => checkpoint chunk.length
  pure (Externals.sha256 body)

/-- `fingerprint`, L338-353 -/
def fingerprint (workLimit : Option ℕ) : ℕ :=
  let bytes := match workLimit with
    | some limit => 1 :: toLeBytes limit
    | none => [0]
  ((Externals.sha256 bytes).toList.take 8).foldr (fun byte n => byte.toNat + 256 * n) 0

/-- `diff_versions_with_budget`, L585-783 -/
def diffVersionsWithBudget (old new : List UInt8) (budget : DiffBudget) : PromptDiff :=
  if old.length > maxPromptBodyBytes ∨ new.length > maxPromptBodyBytes then
    emptyResult old new (.invalidInput old.length new.length maxPromptBodyBytes)
  else
    match runOn observeCancellation budget with
    | (.error _, _) => emptyResult old new .cancelled
    | (.ok (), budget) =>
      match runOn (do
        let oldHash ← hashWithBudget old
        let newHash ← hashWithBudget new
        pure (oldHash, newHash)) budget with
      | (.error .cancelled, _) => emptyResult old new .cancelled
      | (.error .workLimit, budget) =>
        finishApproximate ⟨emptyResult old new .approximate, budget, .new⟩
      | (.ok (oldHash, newHash), budget) =>
        let result : PromptDiff := {
          oldBody := old, newBody := new, oldBodySha256 := oldHash, newBodySha256 := newHash,
          cacheKey := some ⟨oldHash, newHash, 1, 2, fingerprint budget.optionsWorkLimit⟩,
          hunks := [], inlineSpans := [], estimatedPayloadBytes := basePayloadBytes,
          status := .complete, truncation := none }
        match runOn (do
          let oldLines ← scanNormalizedLines old
          let newLines ← scanNormalizedLines new
          pure (oldLines, newLines)) budget with
        | (.error .cancelled, budget) => finishCancelled ⟨result, budget, .new⟩
        | (.error .workLimit, budget) => finishApproximate ⟨result, budget, .new⟩
        | (.ok (oldLines, newLines), budget) =>
          compareLines oldLines newLines ⟨result, budget, .new⟩

/-- `diff_versions` (L579-581): the default budget has neither a flag nor a deadline. -/
def diffVersions (old new : List UInt8) : PromptDiff :=
  diffVersionsWithBudget old new (.default fun _ => false)

end Entry

end Compare

end DevManager.Prompts
