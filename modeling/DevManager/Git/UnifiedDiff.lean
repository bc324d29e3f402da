import DevManager.Domain.Canonical
import DevManager.Lib.Result
import DevManager.Lib.Utf8

/-!
# The parser of Git diffs (`src/git/review.rs`)

One loop goes through the lines of a diff and looks at the prefix of each: a line of a hunk is a
line whose prefix is that of no header.
-/

namespace DevManager.Git

/-! ## Documents (`model.rs`) -/

/-- `RepoPath` (`model.rs:20-21`): any bytes. -/
abbrev RepoPath := List UInt8

/-- `DiffChangeKind`, `model.rs:1127-1134` -/
inductive DiffChangeKind
  | added | deleted | modified | renamed | copied

/-- `DiffMarker`, `model.rs:1136-1141` -/
inductive DiffMarker
  | binary | truncated | noNewlineAtEndOfFile
deriving DecidableEq

/-- `DiffLineKind`, `model.rs:1103-1107` -/
inductive DiffLineKind
  | context | add | delete
deriving DecidableEq

/-- `DiffLine`, `model.rs:1110-1115` -/
structure DiffLine where
  kind : DiffLineKind
  content : List UInt8
  oldLine : Option ℕ
  newLine : Option ℕ
deriving DecidableEq

/-- `DiffHunk`, `model.rs:1117-1125` -/
structure DiffHunk where
  header : List UInt8
  oldStart : ℕ
  oldCount : ℕ
  newStart : ℕ
  newCount : ℕ
  lines : List DiffLine

/-- `DiffFile`, `model.rs:1143-1153` -/
structure DiffFile where
  oldPath : Option RepoPath
  newPath : Option RepoPath
  oldBlob : Option String
  newBlob : Option String
  change : DiffChangeKind
  isBinary : Bool
  hunks : List DiffHunk
  markers : List DiffMarker

/-- `DiffDocument` (`model.rs:1160-1167`), with the offset of its continuation. -/
structure DiffDocument where
  files : List DiffFile
  truncated : Bool
  bytesRead : ℕ
  continuation : Option ℕ
  markers : List DiffMarker

/-! ## Bytes -/

/-- The bytes of ASCII characters. -/
def asciiBytes (text : List Char) : List UInt8 := text.map fun c => UInt8.ofNat c.toNat

/-- `b"..."`: the bytes of an ASCII text. -/
def ascii (s : String) : List UInt8 := asciiBytes s.toList

/-- `bytes.strip_prefix(p)`. -/
def stripPrefix (p bytes : List UInt8) : Option (List UInt8) :=
  if p.isPrefixOf bytes then some (bytes.drop p.length) else none

/-- In `parse_unified_diff_limited`, L21 -/
def stripReturn (line : List UInt8) : List UInt8 :=
  if line.getLast? = some 0x0D then line.dropLast else line

/-- `str::split_whitespace`. -/
def splitWhitespace (text : List Char) : List (List Char) :=
  (text.splitOnP isWhitespace).filter fun piece => piece ≠ []

/-- `add_marker`, L426-430 -/
def addMarker (markers : List DiffMarker) (marker : DiffMarker) : List DiffMarker :=
  if marker ∈ markers then markers else markers ++ [marker]

/-! ## Paths -/

/-- An octal digit. -/
def isOctal (b : UInt8) : Bool := 0x30 ≤ b && b ≤ 0x37

/-- The digits of an octal escape after its first, of which there are `n` at most
(L410-416). The arithmetic is that of a byte. -/
def octalDigits : ℕ → UInt8 → List UInt8 → UInt8 × List UInt8
  | n + 1, octal, b :: rest =>
    if isOctal b then octalDigits n (octal * 8 + b - 0x30) rest else (octal, b :: rest)
  | _, octal, rest => (octal, rest)

/-- The byte of an escape that is not octal (L401-408, `419`). -/
def escapedByte (b : UInt8) : UInt8 :=
  if b = 0x61 then 7 else if b = 0x62 then 8 else if b = 0x74 then 0x09 else if b = 0x6E then 0x0A
  else if b = 0x76 then 11 else if b = 0x66 then 12 else if b = 0x72 then 0x0D else b

/-- The loop of `unquote` (L389-422), up to the last byte, which is a quote. -/
def unquoteLoop : ℕ → List UInt8 → List UInt8
  | n + 1, b :: c :: rest =>
    if b ≠ 0x5C then b :: unquoteLoop n (c :: rest)
    else if isOctal c then
      (octalDigits 2 (c - 0x30) rest).1 :: unquoteLoop n (octalDigits 2 (c - 0x30) rest).2
    else escapedByte c :: unquoteLoop n rest
  | _, _ => []

variable (value : List UInt8)

/-- `unquote`, L383-424 -/
def unquote : List UInt8 :=
  if value.length < 2 ∨ value.head? ≠ some 0x22 ∨ value.getLast? ≠ some 0x22 then value
  else unquoteLoop value.length value.tail

/-- `parse_path`, L373-381 -/
def parsePath (pathPrefix : Option (List UInt8)) : RepoPath :=
  match pathPrefix with
  | some pathPrefix => (stripPrefix pathPrefix (unquote value)).getD (unquote value)
  | none => unquote value

/-- `parse_optional_path`, L365-371 -/
def parseOptionalPath (value pathPrefix : List UInt8) : Option RepoPath :=
  if value = ascii "/dev/null" then none else some (parsePath value (some pathPrefix))

/-- The place of the closing quote (L352-361); the first argument says whether the last
byte was a backslash. -/
def closingQuote : Bool → List UInt8 → Option ℕ
  | _, [] => none
  | true, _ :: rest => (closingQuote false rest).map (· + 1)
  | false, b :: rest =>
    if b = 0x5C then (closingQuote true rest).map (· + 1)
    else if b = 0x22 then some 0
    else (closingQuote false rest).map (· + 1)

/-- `take_quoted_path`, L348-363 -/
def takeQuotedPath : Option (List UInt8 × List UInt8) :=
  if value.head? ≠ some 0x22 then none
  else (closingQuote false value.tail).map fun i => (value.take (i + 2), value.drop (i + 2))

/-- In `parse_git_header_paths`, L334-337 -/
def lastNewPath : Option ℕ :=
  ((List.range (value.length - 2)).filter fun i => (value.drop i).take 3 = ascii " b/").getLast?

/-- `parse_git_header_paths`, L317-346 -/
def parseGitHeaderPaths : Option RepoPath × Option RepoPath :=
  let value := (stripPrefix (ascii " ") value).getD value
  if value.head? = some 0x22 then
    match takeQuotedPath value with
    | none => (none, none)
    | some (old, remainder) =>
      match takeQuotedPath ((stripPrefix (ascii " ") remainder).getD remainder) with
      | none => (none, none)
      | some (new, _) =>
        (some (parsePath old (some (ascii "a/"))), some (parsePath new (some (ascii "b/"))))
  else
    let split := (lastNewPath value).getD 0
    if split = 0 then (none, none)
    else (some (parsePath (value.take split) (some (ascii "a/"))),
      some (parsePath (value.drop (split + 1)) (some (ascii "b/"))))

/-! ## Headers of hunks -/

/-- `parse_range`, L287-303 -/
def parseRange (value : List Char) (side : Char) : Except String (ℕ × ℕ) := do
  failIf (value.head? ≠ some side) "unified range has the wrong side"
  let pieces := value.tail.splitOn ','
  let start ← okOr pieces.head? "unified range is missing a start"
  let start ← okOr (parseU32 start) "unified range start is not numeric"
  let count ← okOr (parseU32 (pieces[1]?.getD ['1'])) "unified range count is not numeric"
  return (start, count)

/-- `parse_hunk_header`, L276-285 -/
def parseHunkHeader (line : List UInt8) : Except String ((ℕ × ℕ) × ℕ × ℕ) := do
  let pieces := splitWhitespace (fromUtf8Lossy line)
  match pieces with
  | first :: second :: third :: _ => do
    failIf (first ≠ ['@', '@']) "invalid unified hunk header"
    let old ← parseRange second '-'
    let new ← parseRange third '+'
    return (old, new)
  | _ => .error "invalid unified hunk header"

/-- `line_number`, L305-307 -/
def lineNumber (value : ℕ) : Option ℕ := if value ≠ 0 then some value else none

/-- `cursor.saturating_add(1)` of a `u32`. -/
def advance (cursor : ℕ) : ℕ := min (cursor + 1) (2 ^ 32 - 1)

/-- `parse_object_id`, L309-315 -/
def parseObjectId : Option String :=
  if value = [] ∨ value.all (· = 0x30) then none else some (String.ofList (fromUtf8Lossy value))

/-- `parse_diff_line`, L267-274 -/
def parseDiffLine : List UInt8 → Option (DiffLineKind × List UInt8)
  | [] => none
  | b :: content =>
    if b = 0x20 then some (.context, content)
    else if b = 0x2B then some (.add, content)
    else if b = 0x2D then some (.delete, content)
    else none

/-! ## The loop -/

/-- What the prefix of a line says of it, in the order in which the loop asks
(L45-96). -/
inductive Header
  | blobs (value : List UInt8)
  | newFile
  | deletedFile
  | renameFrom (value : List UInt8)
  | renameTo (value : List UInt8)
  | copyFrom (value : List UInt8)
  | copyTo (value : List UInt8)
  | oldPath (value : List UInt8)
  | newPath (value : List UInt8)
  | binary
  | hunk
  | noNewline
  | other

/-- The prefix of a line after the first of a file (L45-96). -/
def header (line : List UInt8) : Header :=
  if let some value := stripPrefix (ascii "index ") line then .blobs value
  else if (ascii "new file mode ").isPrefixOf line then .newFile
  else if (ascii "deleted file mode ").isPrefixOf line then .deletedFile
  else if let some value := stripPrefix (ascii "rename from ") line then .renameFrom value
  else if let some value := stripPrefix (ascii "rename to ") line then .renameTo value
  else if let some value := stripPrefix (ascii "copy from ") line then .copyFrom value
  else if let some value := stripPrefix (ascii "copy to ") line then .copyTo value
  else if let some value := stripPrefix (ascii "--- ") line then .oldPath value
  else if let some value := stripPrefix (ascii "+++ ") line then .newPath value
  else if (ascii "Binary files ").isPrefixOf line ∨ line = ascii "GIT binary patch" then .binary
  else if (ascii "literal ").isPrefixOf line ∨ (ascii "delta ").isPrefixOf line then .binary
  else if (ascii "@@ ").isPrefixOf line then .hunk
  else if line = ascii "\\ No newline at end of file" then .noNewline
  else .other

/-- The variables of the loop (L14-18). -/
structure ParseState where
  files : List DiffFile
  current : Option DiffFile
  currentHunk : Option ℕ
  oldCursor : ℕ
  newCursor : ℕ

/-- The blobs of an `index` line (L45-54). -/
def setBlobs (file : DiffFile) (value : List UInt8) : DiffFile :=
  let objectRange := value.takeWhile (· ≠ 0x20)
  match objectRange.findIdx? (· = 0x2E) with
  | some index => { file with
      oldBlob := parseObjectId (objectRange.take index),
      newBlob := parseObjectId ((stripPrefix (ascii "..") (objectRange.drop index)).getD []) }
  | none => file

/-- A file that is binary (L75-80). -/
def setBinary (file : DiffFile) : DiffFile :=
  { file with isBinary := true, markers := addMarker file.markers .binary }

/-- `finish_file` (L253-265): the file as it is pushed. -/
def finishFile (truncated : Bool) (file : DiffFile) : DiffFile :=
  { file with
    markers := if truncated then addMarker file.markers .truncated else file.markers
    change :=
      if file.oldPath = none ∧ file.newPath ≠ none then .added
      else if file.oldPath ≠ none ∧ file.newPath = none then .deleted
      else file.change }

/-- A file whose first line names the paths (L24-34). -/
def startFile : DiffFile where
  oldPath := (parseGitHeaderPaths value).1
  newPath := (parseGitHeaderPaths value).2
  oldBlob := none
  newBlob := none
  change := .modified
  isBinary := false
  hunks := []
  markers := []

namespace ParseState

/-- The variables before the loop. -/
def start : ParseState := ⟨[], none, none, 0, 0⟩

variable (s : ParseState)

/-- The files so far, the current one among them. -/
def closed (truncated : Bool) : List DiffFile :=
  s.files ++ (s.current.map (finishFile truncated)).toList

/-- The first line of a file (L22-39). -/
def openFile (truncated : Bool) (value : List UInt8) : ParseState :=
  ⟨s.closed truncated, some (startFile value), none, 0, 0⟩

variable (file : DiffFile) (line : List UInt8)

/-- The hunk that a header starts (L81-93). -/
def openHunk : Except String ParseState := do
  let (old, new) ← parseHunkHeader line
  return { s with
    current := some { file with hunks := file.hunks ++ [⟨line, old.1, old.2, new.1, new.2, []⟩] },
    currentHunk := some file.hunks.length, oldCursor := old.1, newCursor := new.1 }

/-- A line of a hunk, with the numbers that the cursors give it (L97-123). -/
def pushLine (hunkIndex : ℕ) (kind : DiffLineKind)
    (content : List UInt8) : ParseState :=
  let line : DiffLine := {
    kind
    content := content
    oldLine := if kind = .add then none else lineNumber s.oldCursor
    newLine := if kind = .delete then none else lineNumber s.newCursor }
  { s with
    current := some { file with
      hunks := file.hunks.modify hunkIndex fun hunk => { hunk with lines := hunk.lines ++ [line] } }
    oldCursor := if kind = .add then s.oldCursor else advance s.oldCursor
    newCursor := if kind = .delete then s.newCursor else advance s.newCursor }

/-- A line that no header starts (L96-124). -/
def hunkLine : ParseState :=
  match s.currentHunk, parseDiffLine line with
  | some hunkIndex, some (kind, content) => s.pushLine file hunkIndex kind content
  | _, _ => s

/-- A line after the first of a file (L41-124). -/
def fileLine : Except String ParseState :=
  let set (file : DiffFile) : Except String ParseState := .ok { s with current := some file }
  match header line with
  | .blobs value => set (setBlobs file value)
  | .newFile => set { file with change := .added }
  | .deletedFile => set { file with change := .deleted }
  | .renameFrom value =>
    set { file with change := .renamed, oldPath := some (parsePath value none) }
  | .renameTo value => set { file with change := .renamed, newPath := some (parsePath value none) }
  | .copyFrom value => set { file with change := .copied, oldPath := some (parsePath value none) }
  | .copyTo value => set { file with change := .copied, newPath := some (parsePath value none) }
  | .oldPath value => set { file with oldPath := parseOptionalPath value (ascii "a/") }
  | .newPath value => set { file with newPath := parseOptionalPath value (ascii "b/") }
  | .binary => set (setBinary file)
  | .hunk => s.openHunk file line
  | .noNewline => set { file with markers := addMarker file.markers .noNewlineAtEndOfFile }
  | .other => .ok (s.hunkLine file line)

/-- One line (L20-125). -/
def step (truncated : Bool) (s : ParseState) (rawLine : List UInt8) : Except String ParseState :=
  let line := stripReturn rawLine
  match stripPrefix (ascii "diff --git ") line with
  | some value => .ok (s.openFile truncated value)
  | none =>
    match s.current with
    | none => .ok s
    | some file => s.fileLine file line

end ParseState

/-- `parse_unified_diff_limited`, L11-141 -/
def parseUnifiedDiffLimited (input : List UInt8) (maxBytes : ℕ) : Except String DiffDocument := do
  let truncated : Bool := maxBytes < input.length
  let bytes := input.take maxBytes
  let s ← (bytes.splitOn 0x0A).foldlM (ParseState.step truncated) .start
  return {
    files := s.closed truncated
    truncated := truncated
    bytesRead := bytes.length
    continuation := if truncated then some bytes.length else none
    markers := if truncated then [.truncated] else [] }

/-- `parse_unified_diff`, L7-9 -/
def parseUnifiedDiff (input : List UInt8) : Except String DiffDocument :=
  parseUnifiedDiffLimited input input.length

end DevManager.Git
