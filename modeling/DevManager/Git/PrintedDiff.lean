import DevManager.Git.UnifiedDiff

/-!
# Diffs as Git prints them

What a diff is before it is printed: files, each with the paths and blobs of its two sides and
its hunks, whose lines are kept, added or deleted. The printed lines are those of Git's
unified format. `Recovered` is what a parser owes such a diff.
-/

namespace DevManager.Git

/-! ## What is printed -/

/-- A path that Git prints as it is, without quotes. -/
structure PlainPath where
  bytes : List UInt8
  plain : ∀ b ∈ bytes, 0x20 ≤ b ∧ b ≠ 0x22 ∧ b ≠ 0x5C ∧ b ≠ 0x7F

/-- The identifier of a blob: hexadecimal digits, not all of them zero. -/
structure BlobId where
  text : String
  hex : ∀ c ∈ text.toList, '0' ≤ c ∧ c ≤ '9' ∨ 'a' ≤ c ∧ c ≤ 'f'
  nonzero : ∃ c ∈ text.toList, c ≠ '0'

/-- A line of a hunk, of any bytes but a line feed. -/
structure PrintedLine where
  kind : DiffLineKind
  content : List UInt8
  whole : 0x0A ∉ content

/-- The number of the lines that are on the old side. -/
def oldLines (lines : List PrintedLine) : ℕ := lines.countP fun line => line.kind ≠ .add

/-- The number of the lines that are on the new side. -/
def newLines (lines : List PrintedLine) : ℕ := lines.countP fun line => line.kind ≠ .delete

/-- A hunk. The lines of a side are numbered from one on. -/
structure PrintedHunk where
  oldStart : ℕ
  newStart : ℕ
  lines : List PrintedLine
  oldNumbered : oldLines lines ≠ 0 → oldStart ≠ 0
  newNumbered : newLines lines ≠ 0 → newStart ≠ 0

/-- A file, of which one side may be absent. -/
structure PrintedFile where
  oldPath : Option PlainPath
  newPath : Option PlainPath
  present : oldPath ≠ none ∨ newPath ≠ none
  oldBlob : Option BlobId
  newBlob : Option BlobId
  hunks : List PrintedHunk
  nonempty : hunks ≠ []

/-! ## The printed lines -/

/-- The first byte of a line. -/
def DiffLineKind.marker : DiffLineKind → UInt8
  | context => 0x20
  | add => 0x2B
  | delete => 0x2D

/-- The line after its marker. -/
def PrintedLine.print (line : PrintedLine) : List UInt8 := line.kind.marker :: line.content

/-- One side of the header of a hunk: its sign, its start and its count. -/
def rangeText (sign : Char) (start count : ℕ) : List Char :=
  sign :: (Nat.toDigits 10 start ++ ',' :: Nat.toDigits 10 count)

/-- The header of a hunk: `@@ -s,c +s,c @@`. -/
def PrintedHunk.headerText (hunk : PrintedHunk) : List Char :=
  ['@', '@'] ++ ' ' :: (rangeText '-' hunk.oldStart (oldLines hunk.lines) ++ ' ' ::
    (rangeText '+' hunk.newStart (newLines hunk.lines) ++ ' ' :: ['@', '@']))

/-- The header and the lines of a hunk. -/
def PrintedHunk.print (hunk : PrintedHunk) : List (List UInt8) :=
  asciiBytes hunk.headerText :: hunk.lines.map PrintedLine.print

/-- The tab that ends a path with a space in it. -/
def pathEnd (path : PlainPath) : List UInt8 := if 0x20 ∈ path.bytes then [0x09] else []

/-- A side of a file: its path, or `/dev/null`. -/
def printSide (sidePrefix : String) : Option PlainPath → List UInt8
  | some path => ascii sidePrefix ++ (path.bytes ++ pathEnd path)
  | none => ascii "/dev/null"

/-- A blob; an absent one is printed as zeros. -/
def printBlob : Option BlobId → List UInt8
  | some blob => ascii blob.text
  | none => ascii "0000000"

/-- The path of a side, or that of the other side. -/
def sideName : Option PlainPath → Option PlainPath → List UInt8
  | some path, _ => path.bytes
  | none, some path => path.bytes
  | none, none => []

namespace PrintedFile

variable (file : PrintedFile)

/-- The mode of a file that is on both sides. -/
def printMode : List UInt8 :=
  if file.oldPath ≠ none ∧ file.newPath ≠ none then ascii " 100644" else []

/-- The paths as the first line gives them. -/
def printPaths : List UInt8 :=
  ascii "a/" ++ (sideName file.oldPath file.newPath ++
    (ascii " b/" ++ sideName file.newPath file.oldPath))

/-- The lines of a file. -/
def print : List (List UInt8) :=
  (ascii "diff --git " ++ file.printPaths) ::
    (ascii "index " ++ (printBlob file.oldBlob ++ (ascii ".." ++
      (printBlob file.newBlob ++ file.printMode)))) ::
    (ascii "--- " ++ printSide "a/" file.oldPath) ::
    (ascii "+++ " ++ printSide "b/" file.newPath) ::
    file.hunks.flatMap PrintedHunk.print

end PrintedFile

/-- The bytes of a diff: its lines, each with a line feed after it. -/
def printDiff (files : List PrintedFile) : List UInt8 :=
  (files.flatMap PrintedFile.print).flatMap fun line => line ++ [0x0A]

/-! ## What is recovered -/

/-- The lines of a hunk with the numbers that count up from its starts. -/
def numbered : ℕ → ℕ → List PrintedLine → List DiffLine
  | _, _, [] => []
  | old, new, line :: lines =>
    { kind := line.kind
      content := line.content
      oldLine := if line.kind = .add then none else some old
      newLine := if line.kind = .delete then none else some new } ::
    numbered (if line.kind = .add then old else old + 1)
      (if line.kind = .delete then new else new + 1)
      lines

/-- The hunk was read: its starts, its lines with their numbers, and as many lines as its header
says. -/
structure HunkRecovered (hunk : PrintedHunk) (parsed : DiffHunk) : Prop where
  oldStart : parsed.oldStart = hunk.oldStart
  newStart : parsed.newStart = hunk.newStart
  lines : parsed.lines = numbered hunk.oldStart hunk.newStart hunk.lines
  oldCount : parsed.oldCount = parsed.lines.countP fun line => line.kind ≠ .add
  newCount : parsed.newCount = parsed.lines.countP fun line => line.kind ≠ .delete

/-- The file was read: its paths, its blobs and its hunks in order. -/
structure FileRecovered (file : PrintedFile) (parsed : DiffFile) : Prop where
  oldPath : parsed.oldPath = file.oldPath.map PlainPath.bytes
  newPath : parsed.newPath = file.newPath.map PlainPath.bytes
  oldBlob : parsed.oldBlob = file.oldBlob.map BlobId.text
  newBlob : parsed.newBlob = file.newBlob.map BlobId.text
  hunks : List.Forall₂ HunkRecovered file.hunks parsed.hunks

/-- The parser returns exactly the files of the diff, in order. -/
def Recovered (files : List PrintedFile) : Prop :=
  ∃ document, parseUnifiedDiff (printDiff files) = .ok document ∧
    List.Forall₂ FileRecovered files document.files

/-! ## When it is -/

/-- The line looks like the line that names a side of a file. -/
def PrintedLine.Misread (line : PrintedLine) : Prop :=
  line.kind = .delete ∧ (ascii "-- ").isPrefixOf line.content = true ∨
    line.kind = .add ∧ (ascii "++ ").isPrefixOf line.content = true

instance (line : PrintedLine) : Decidable line.Misread := inferInstanceAs (Decidable (_ ∨ _))

/-- The line is read as it is: it looks like no header, and does not end with a carriage return. -/
def PrintedLine.Clear (line : PrintedLine) : Prop :=
  ¬ line.Misread ∧ line.content.getLast? ≠ some 0x0D

/-- The lines are clear, and their numbers are those of 32 bits. -/
structure PrintedHunk.Clear (hunk : PrintedHunk) : Prop where
  lines : ∀ line ∈ hunk.lines, line.Clear
  old : hunk.oldStart < 2 ^ 32 ∧ hunk.oldStart + oldLines hunk.lines ≤ 2 ^ 32
  new : hunk.newStart < 2 ^ 32 ∧ hunk.newStart + newLines hunk.lines ≤ 2 ^ 32

/-- The paths have no space, and the hunks are clear. -/
structure PrintedFile.Clear (file : PrintedFile) : Prop where
  oldPath : ∀ path ∈ file.oldPath, 0x20 ∉ path.bytes
  newPath : ∀ path ∈ file.newPath, 0x20 ∉ path.bytes
  hunks : ∀ hunk ∈ file.hunks, hunk.Clear

end DevManager.Git
