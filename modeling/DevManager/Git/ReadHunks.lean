import DevManager.Git.ReadLines

/-!
# What the parser makes of a printed file

The parser goes through the lines of a hunk (`run_lines`), the hunks of a file (`run_hunks`) and
the lines before them (`run_heading`). What it makes of a hunk is `readHunk`, whatever the lines
of the hunk are: those that look like a header are missing there, and carriage returns are
cut off.
-/

namespace DevManager.Git

open ParseState List

/-! ## The lines of a hunk -/

/-- What the parser makes of a line that is not misread, with the numbers of its cursors. -/
def readLine (old new : ℕ) (line : PrintedLine) : DiffLine where
  kind := line.kind
  content := stripReturn line.content
  oldLine := if line.kind = .add then none else lineNumber old
  newLine := if line.kind = .delete then none else lineNumber new

/-- The lines that the parser keeps of a hunk. -/
def readLines : ℕ → ℕ → List PrintedLine → List DiffLine
  | _, _, [] => []
  | old, new, line :: lines =>
    if line.Misread then readLines old new lines
    else readLine old new line ::
      readLines (if line.kind = .add then old else advance old)
        (if line.kind = .delete then new else advance new) lines

/-- What lines leave of the current file: these hunks, its blobs, and its paths if they are
clear. -/
structure Leaves (s : ParseState) (file : DiffFile) (clear : Prop) (hunks : List DiffHunk)
    (s' : ParseState) (file' : DiffFile) : Prop where
  files : s'.files = s.files
  current : s'.current = some file'
  hunks : file'.hunks = hunks
  oldBlob : file'.oldBlob = file.oldBlob
  newBlob : file'.newBlob = file.newBlob
  paths : clear → file'.oldPath = file.oldPath ∧ file'.newPath = file.newPath

theorem Leaves.trans {s s₁ s₂ : ParseState} {file file₁ file₂} {clear₁ clear₂ clear : Prop}
    {hunk₁ hunk₂} (h₁ : Leaves s file clear₁ hunk₁ s₁ file₁)
    (h₂ : Leaves s₁ file₁ clear₂ hunk₂ s₂ file₂) (hclear : clear → clear₁ ∧ clear₂) :
    Leaves s file clear hunk₂ s₂ file₂ := by
  refine ⟨h₂.files.trans h₁.files, h₂.current, h₂.hunks, h₂.oldBlob.trans h₁.oldBlob,
    h₂.newBlob.trans h₁.newBlob, fun h => ?_⟩
  obtain ⟨hold₁, hne₁⟩ := h₁.paths (hclear h).1
  obtain ⟨hold₂, hne₂⟩ := h₂.paths (hclear h).2
  exact ⟨hold₂.trans hold₁, hne₂.trans hne₁⟩

variable {s : ParseState} {file : DiffFile}

theorem step_print (hcur : s.current = some file) (line : PrintedLine) :
    step false s line.print = s.fileLine file (stripReturn line.print) := by
  simp only [step, stripPrefix_diff_print, hcur]

theorem step_print_of_clear (hcur : s.current = some file) {hunk : ℕ}
    (hidx : s.currentHunk = some hunk) {line : PrintedLine} (hline : ¬ line.Misread) :
    step false s line.print = .ok (s.pushLine file hunk line.kind (stripReturn line.content)) := by
  rw [step_print hcur]
  simp only [fileLine, header_print hline, hunkLine, hidx, parseDiffLine_print]

theorem step_print_of_misread (hcur : s.current = some file) {line : PrintedLine}
    (hline : line.Misread) :
    ∃ file', file'.hunks = file.hunks ∧ file'.oldBlob = file.oldBlob ∧
      file'.newBlob = file.newBlob ∧
      step false s line.print = .ok { s with current := some file' } := by
  rw [step_print hcur]
  obtain ⟨value, hheader | hheader⟩ := header_print_misread hline
  · exact ⟨{ file with oldPath := parseOptionalPath value (ascii "a/") }, rfl, rfl, rfl, by
      simp only [fileLine, hheader]⟩
  · exact ⟨{ file with newPath := parseOptionalPath value (ascii "b/") }, rfl, rfl, rfl, by
      simp only [fileLine, hheader]⟩

theorem modify_last {α : Type} (f : α → α) (l : List α) (a : α) :
    (l ++ [a]).modify l.length f = l ++ [f a] := by
  induction l with
  | nil => rfl
  | cons b l ih => simpa using ih

theorem run_lines (lines) :
    ∀ {s : ParseState} {file : DiffFile} {hunks : List DiffHunk} {hunk : DiffHunk},
      s.current = some file → file.hunks = hunks ++ [hunk] → s.currentHunk = some hunks.length →
      ∃ s' file', (lines.map PrintedLine.print).foldlM (step false) s = .ok s' ∧
        Leaves s file (∀ line ∈ lines, ¬ line.Misread)
          (hunks ++ [{ hunk with lines := hunk.lines ++ readLines s.oldCursor s.newCursor lines }])
          s' file' := by
  induction lines with
  | nil =>
    intro s file hunks hunk hcur hhunks _
    refine ⟨s, file, rfl, rfl, hcur, ?_, rfl, rfl, fun _ => ⟨rfl, rfl⟩⟩
    rw [hhunks, readLines, append_nil]
  | cons line lines ih =>
    intro s file hunks hunk hcur hhunks hidx
    by_cases hline : line.Misread
    · obtain ⟨file₁, hsame, hold, hnew, hstep⟩ := step_print_of_misread hcur hline
      obtain ⟨s', file', hrun, hleaves⟩ :=
        ih (s := { s with current := some file₁ }) rfl (hsame.trans hhunks) hidx
      refine ⟨s', file', ?_, hleaves.files, hleaves.current, ?_, hleaves.oldBlob.trans hold,
        hleaves.newBlob.trans hnew, fun h => absurd hline (h line (.head _))⟩
      · rw [map_cons, foldlM_cons, hstep, ok_bind, hrun]
      · rw [hleaves.hunks, readLines, if_pos hline]
    · have hstep := step_print_of_clear hcur hidx hline
      have hmodify : file.hunks.modify hunks.length (fun hunk => { hunk with
            lines := hunk.lines ++ [readLine s.oldCursor s.newCursor line] }) =
          hunks ++ [{ hunk with lines :=
            hunk.lines ++ [readLine s.oldCursor s.newCursor line] }] := by
        rw [hhunks, modify_last]
      obtain ⟨s', file', hrun, hleaves⟩ := ih
        (s := s.pushLine file hunks.length line.kind (stripReturn line.content)) rfl hmodify hidx
      refine ⟨s', file', ?_, hleaves.files, hleaves.current, ?_, hleaves.oldBlob, hleaves.newBlob,
        fun h => hleaves.paths fun l hl => h l (.tail _ hl)⟩
      · rw [map_cons, foldlM_cons, hstep, ok_bind, hrun]
      · rw [hleaves.hunks, readLines, if_neg hline, append_assoc]
        rfl

/-! ## The hunks of a file -/

/-- What the parser makes of a hunk. -/
def readHunk (hunk : PrintedHunk) : DiffHunk where
  header := asciiBytes hunk.headerText
  oldStart := hunk.oldStart
  oldCount := oldLines hunk.lines
  newStart := hunk.newStart
  newCount := newLines hunk.lines
  lines := readLines hunk.oldStart hunk.newStart hunk.lines

theorem step_headerText (hcur : s.current = some file) (hunk : PrintedHunk) :
    step false s (asciiBytes hunk.headerText) = s.openHunk file (asciiBytes hunk.headerText) := by
  have hsplit : asciiBytes hunk.headerText = ascii "@@ " ++ asciiBytes
      (rangeText '-' hunk.oldStart (oldLines hunk.lines) ++ ' ' ::
        (rangeText '+' hunk.newStart (newLines hunk.lines) ++ ' ' :: ['@', '@'])) := rfl
  have hlast : (asciiBytes hunk.headerText).getLast? = some 0x40 := by
    unfold asciiBytes PrintedHunk.headerText
    rw [getLast?_map]
    have hchars : (['@', '@'] ++ ' ' :: (rangeText '-' hunk.oldStart (oldLines hunk.lines) ++ ' ' ::
        (rangeText '+' hunk.newStart (newLines hunk.lines) ++ ' ' :: ['@', '@']))).getLast? =
          some '@' := by
      simp [getLast?_append, getLast?_cons]
    rw [hchars]
    rfl
  have hret : stripReturn (asciiBytes hunk.headerText) = asciiBytes hunk.headerText := by
    rw [stripReturn_eq_self, hlast]
    decide
  have hdiff : stripPrefix (ascii "diff --git ") (asciiBytes hunk.headerText) = none := by
    rw [hsplit]
    exact stripPrefix_of_head (a := 0x64) (by decide) (by decide)
  have hheader : header (asciiBytes hunk.headerText) = .hunk := by
    rw [hsplit, header_hunk]
  simp only [step, hret, hdiff, hcur, fileLine, hheader]

theorem run_hunk (hcur : s.current = some file) {hunk} (hfits : hunk.Fits) :
    ∃ s' file', hunk.print.foldlM (step false) s = .ok s' ∧
      Leaves s file (∀ line ∈ hunk.lines, ¬ line.Misread) (file.hunks ++ [readHunk hunk])
        s' file' := by
  have hparse := parseHunkHeader_eq_ok.mpr ⟨hfits, rfl⟩
  have hstep := step_headerText hcur hunk
  rw [openHunk, hparse, ok_bind] at hstep
  obtain ⟨s', file', hrun, hleaves⟩ := run_lines hunk.lines (s := { s with
      current := some { file with hunks := file.hunks ++ [{
        header := asciiBytes hunk.headerText
        oldStart := hunk.oldStart
        oldCount := oldLines hunk.lines
        newStart := hunk.newStart
        newCount := newLines hunk.lines
        lines := [] }] }
      currentHunk := some file.hunks.length
      oldCursor := hunk.oldStart
      newCursor := hunk.newStart })
    rfl rfl rfl
  refine ⟨s', file', ?_, hleaves.files, hleaves.current, hleaves.hunks, hleaves.oldBlob,
    hleaves.newBlob, hleaves.paths⟩
  rw [PrintedHunk.print, foldlM_cons, hstep]
  exact hrun

theorem fits_of_run_hunk (hcur : s.current = some file) {hunk : PrintedHunk} {s'}
    (hrun : hunk.print.foldlM (step false) s = .ok s') : hunk.Fits := by
  obtain ⟨s₁, hstep, -⟩ := foldlM_cons_ok.mp hrun
  rw [step_headerText hcur] at hstep
  simp only [openHunk, bind_eq_ok] at hstep
  obtain ⟨parsed, hparse, -⟩ := hstep
  exact (parseHunkHeader_eq_ok.mp hparse).1

theorem run_hunks (hunks : List PrintedHunk) :
    ∀ {s : ParseState} {file : DiffFile}, s.current = some file → (∀ hunk ∈ hunks, hunk.Fits) →
      ∃ s' file', (hunks.flatMap PrintedHunk.print).foldlM (step false) s = .ok s' ∧
        Leaves s file (∀ hunk ∈ hunks, ∀ line ∈ hunk.lines, ¬ line.Misread)
          (file.hunks ++ hunks.map readHunk) s' file' := by
  induction hunks with
  | nil =>
    intro s file hcur _
    refine ⟨s, file, rfl, rfl, hcur, ?_, rfl, rfl, fun _ => ⟨rfl, rfl⟩⟩
    rw [map_nil, append_nil]
  | cons hunk hunks ih =>
    intro s file hcur hfits
    obtain ⟨hfst, hrest⟩ := forall_mem_cons.mp hfits
    obtain ⟨s₁, file₁, hrun₁, hle₁⟩ := run_hunk hcur hfst
    obtain ⟨s₂, file₂, hrun₂, hle₂⟩ := ih hle₁.current hrest
    refine ⟨s₂, file₂, ?_, ?_⟩
    · rw [flatMap_cons, foldlM_append, hrun₁, ok_bind, hrun₂]
    · have htrans : Leaves s file (∀ h ∈ hunk :: hunks, ∀ line ∈ h.lines, ¬ line.Misread)
          (file₁.hunks ++ hunks.map readHunk) s₂ file₂ :=
        hle₁.trans hle₂ forall_mem_cons.mp
      rw [hle₁.hunks, append_assoc] at htrans
      exact htrans

theorem fits_of_run_hunks (hunks : List PrintedHunk) :
    ∀ {s s' : ParseState} {file : DiffFile}, s.current = some file →
      (hunks.flatMap PrintedHunk.print).foldlM (step false) s = .ok s' →
        ∀ hunk ∈ hunks, hunk.Fits := by
  induction hunks with
  | nil =>
    intro s s' file _ _ hunk hmem
    cases hmem
  | cons hunk hunks ih =>
    intro s s' file hcur hrun
    rw [flatMap_cons, foldlM_append, bind_eq_ok] at hrun
    obtain ⟨s₁, hrun₁, hrun₂⟩ := hrun
    have hfst := fits_of_run_hunk hcur hrun₁
    obtain ⟨_, file₁, hagain, hleaves⟩ := run_hunk hcur hfst
    rw [hrun₁] at hagain
    cases hagain
    exact forall_mem_cons.mpr ⟨hfst, ih hleaves.current hrun₂⟩

/-! ## The files -/

/-- What the parser makes of a file. -/
structure ReadAs (file : PrintedFile) (parsed : DiffFile) : Prop where
  hunks : parsed.hunks = file.hunks.map readHunk
  oldBlob : parsed.oldBlob = file.oldBlob.map BlobId.text
  newBlob : parsed.newBlob = file.newBlob.map BlobId.text
  paths : (∀ hunk ∈ file.hunks, ∀ line ∈ hunk.lines, ¬ line.Misread) →
    parsed.oldPath = readSide file.oldPath ∧ parsed.newPath = readSide file.newPath

theorem stripReturn_append {bytes rest} (hne : rest ≠ []) (hrest : ∀ b ∈ rest, b ≠ 0x0D) :
    stripReturn (bytes ++ rest) = bytes ++ rest := by
  rw [stripReturn_eq_self, getLast?_append_of_ne_nil bytes hne]
  intro hlast
  exact hrest 0x0D (mem_of_getLast? hlast) rfl

theorem printSide_bytes {side} (hside : ∀ b ∈ ascii side, b ≠ 0x0D ∧ b ≠ 0x0A)
    (path) : ∀ b ∈ printSide side path, b ≠ 0x0D ∧ b ≠ 0x0A := by
  cases path with
  | none =>
    show ∀ b ∈ ascii "/dev/null", b ≠ 0x0D ∧ b ≠ 0x0A
    simp [ascii, asciiBytes]
  | some path =>
    intro b hb
    simp only [printSide, mem_append] at hb
    rcases hb with hb | hb | hb
    · exact hside b hb
    · obtain ⟨hlow, -⟩ := path.plain b hb
      constructor <;> rintro rfl <;> exact absurd hlow (by decide)
    · unfold pathEnd at hb
      split_ifs at hb
      · simp only [mem_cons, not_mem_nil, or_false] at hb
        rw [hb]
        decide
      · cases hb

theorem sideName_bytes (path other) :
    ∀ b ∈ sideName path other, b ≠ 0x0D ∧ b ≠ 0x0A := by
  have hplain : ∀ path : PlainPath, ∀ b ∈ path.bytes, b ≠ 0x0D ∧ b ≠ 0x0A := by
    intro path b hb
    obtain ⟨hlow, -⟩ := path.plain b hb
    constructor <;> rintro rfl <;> exact absurd hlow (by decide)
  cases path with
  | some => exact hplain _
  | none =>
    cases other with
    | some => exact hplain _
    | none =>
      nofun

variable (file : PrintedFile)

theorem printPaths_bytes : ∀ b ∈ file.printPaths, b ≠ 0x0D ∧ b ≠ 0x0A := by
  intro b hb
  simp only [PrintedFile.printPaths, mem_append] at hb
  rcases hb with hb | hb | hb | hb
  · revert b
    simp [ascii, asciiBytes]
  · exact sideName_bytes _ _ b hb
  · revert b
    simp [ascii, asciiBytes]
  · exact sideName_bytes _ _ b hb

theorem printMode_bytes : ∀ b ∈ file.printMode, b ≠ 0x0D ∧ b ≠ 0x0A := by
  unfold PrintedFile.printMode
  split_ifs <;> simp [ascii, asciiBytes]

theorem printBlobs_bytes :
    ∀ b ∈ printBlob file.oldBlob ++ (ascii ".." ++ (printBlob file.newBlob ++ file.printMode)),
      b ≠ 0x0D ∧ b ≠ 0x0A := by
  have hblob : ∀ blob, ∀ b ∈ printBlob blob, b ≠ 0x0D ∧ b ≠ 0x0A := by
    intro blob b hb
    have hlow := printBlob_bytes blob b hb
    constructor <;> rintro rfl <;> exact absurd hlow (by decide)
  intro b hb
  simp only [mem_append] at hb
  rcases hb with hb | hb | hb | hb
  · exact hblob _ b hb
  · revert b
    simp [ascii, asciiBytes]
  · exact hblob _ b hb
  · exact printMode_bytes file b hb

theorem run_heading (s) (file : PrintedFile) :
    ∃ s' parsed, [ascii "diff --git " ++ file.printPaths,
        ascii "index " ++ (printBlob file.oldBlob ++ (ascii ".." ++
          (printBlob file.newBlob ++ file.printMode))),
        ascii "--- " ++ printSide "a/" file.oldPath,
        ascii "+++ " ++ printSide "b/" file.newPath].foldlM (step false) s = .ok s' ∧
      s'.files = s.closed false ∧ s'.current = some parsed ∧ parsed.hunks = [] ∧
      parsed.oldBlob = file.oldBlob.map BlobId.text ∧ parsed.newBlob =
        file.newBlob.map BlobId.text ∧
      parsed.oldPath = readSide file.oldPath ∧ parsed.newPath = readSide file.newPath := by
  have hpaths : stripReturn (ascii "diff --git " ++ file.printPaths) =
      ascii "diff --git " ++ file.printPaths :=
    stripReturn_append (by simp [PrintedFile.printPaths, ascii, asciiBytes])
      fun b hb => (printPaths_bytes file b hb).1
  have hblobs : stripReturn (ascii "index " ++ (printBlob file.oldBlob ++ (ascii ".." ++
      (printBlob file.newBlob ++ file.printMode)))) = ascii "index " ++ (printBlob file.oldBlob ++
        (ascii ".." ++ (printBlob file.newBlob ++ file.printMode))) :=
    stripReturn_append (by simp [ascii, asciiBytes]) fun b hb => (printBlobs_bytes file b hb).1
  have hne : ∀ side, ascii side ≠ [] → ∀ path, printSide side path ≠ [] := by
    intro side hside path
    cases path with
    | none => simp [printSide, ascii, asciiBytes]
    | some path => simp [printSide, hside]
  have hold : stripReturn (ascii "--- " ++ printSide "a/" file.oldPath) =
      ascii "--- " ++ printSide "a/" file.oldPath :=
    stripReturn_append (hne _ (by decide) _)
      fun b hb => (printSide_bytes (by simp [ascii, asciiBytes]) file.oldPath b hb).1
  have hnew : stripReturn (ascii "+++ " ++ printSide "b/" file.newPath) =
      ascii "+++ " ++ printSide "b/" file.newPath :=
    stripReturn_append (hne _ (by decide) _)
      fun b hb => (printSide_bytes (by simp [ascii, asciiBytes]) file.newPath b hb).1
  have hnot : ∀ {p rest : List UInt8} {a : UInt8}, p.head? = some a → a ≠ 0x64 →
      stripPrefix (ascii "diff --git ") (p ++ rest) = none := by
    intro p rest a hp ha
    cases p with
    | nil => cases hp
    | cons b p =>
      cases hp
      exact stripPrefix_of_head (a := 0x64) (by decide) (Ne.symm ha)
  have hread := parseOptionalPath_printSide
  refine ⟨⟨s.closed false, some { startFile file.printPaths with
      oldBlob := file.oldBlob.map BlobId.text
      newBlob := file.newBlob.map BlobId.text
      oldPath := readSide file.oldPath
      newPath := readSide file.newPath }, none, 0, 0⟩, _, ?_, rfl, rfl, rfl, rfl, rfl, rfl, rfl⟩
  · simp only [foldlM_cons, foldlM_nil]
    rw [step, hpaths, stripPrefix_append]
    simp only [ok_bind]
    rw [step, hblobs, hnot (a := 0x69) (by decide) (by decide)]
    simp only [openFile, fileLine, header_blobs, ok_bind]
    rw [step, hold, hnot (a := 0x2D) (by decide) (by decide)]
    simp only [fileLine, header_oldPath, ok_bind]
    rw [step, hnew, hnot (a := 0x2B) (by decide) (by decide)]
    simp only [fileLine, header_newPath, ok_bind, setBlobs_print, (hread _).1, (hread _).2]
    rfl

end DevManager.Git
