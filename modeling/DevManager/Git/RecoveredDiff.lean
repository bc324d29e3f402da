import DevManager.Git.ReadHunks

/-!
# A printed diff is recovered iff it is clear

The parser recovers a diff iff no path has a space, no deleted line starts with `-- ` and no
added one with `++ `, no line ends with a carriage return, and all the numbers are those of 32
bits (`diff_recovered_iff`). A deleted comment of SQL is lost (`deleted_comment_is_lost`).
-/

namespace DevManager.Git

open ParseState List PrintedFile

/-! ## The files of a diff -/

variable {file : PrintedFile}

theorem run_file (s : ParseState) (hfits : ∀ hunk ∈ file.hunks, hunk.Fits) :
    ∃ s' parsed, file.print.foldlM (step false) s = .ok s' ∧ s'.files = s.closed false ∧
      s'.current = some parsed ∧ ReadAs file parsed := by
  obtain ⟨s₁, parsed₁, hrun₁, hfiles, hcur, hhunks, hold, hnew, holdPath, hnewPath⟩ :=
    run_heading s file
  obtain ⟨s₂, parsed₂, hrun₂, hleaves⟩ := run_hunks file.hunks hcur hfits
  refine ⟨s₂, parsed₂, ?_, hleaves.files.trans hfiles, hleaves.current, ?_,
    hleaves.oldBlob.trans hold, hleaves.newBlob.trans hnew, fun hclear => ?_⟩
  · show ([_, _, _, _] ++ file.hunks.flatMap PrintedHunk.print).foldlM (step false) s = _
    rw [foldlM_append, hrun₁, ok_bind, hrun₂]
  · rw [hleaves.hunks, hhunks, nil_append]
  · obtain ⟨h1, h2⟩ := hleaves.paths hclear
    exact ⟨h1.trans holdPath, h2.trans hnewPath⟩

theorem fits_of_run_file {s s' : ParseState}
    (hrun : file.print.foldlM (step false) s = .ok s') : ∀ hunk ∈ file.hunks, hunk.Fits := by
  obtain ⟨s₁, parsed₁, hrun₁, -, hcur, -⟩ := run_heading s file
  have hsplit : ([_, _, _, _] ++ file.hunks.flatMap PrintedHunk.print).foldlM (step false)
    s = .ok s' :=
    hrun
  rw [foldlM_append, hrun₁, ok_bind] at hsplit
  exact fits_of_run_hunks file.hunks hcur hsplit

theorem ReadAs.finish {parsed : DiffFile} (h : ReadAs file parsed) :
    ReadAs file (finishFile false parsed) := ⟨h.hunks, h.oldBlob, h.newBlob, h.paths⟩

variable (files : List PrintedFile)

theorem run_files :
    ∀ s, (∀ file ∈ files, ∀ hunk ∈ file.hunks, hunk.Fits) →
      ∃ s' parsed, (files.flatMap print).foldlM (step false) s = .ok s' ∧
        s'.closed false = s.closed false ++ parsed ∧ List.Forall₂ ReadAs files parsed := by
  induction files with
  | nil => exact fun s _ => ⟨s, [], rfl, (append_nil _).symm, .nil⟩
  | cons file files ih =>
    intro s hfits
    obtain ⟨hfst, hrest⟩ := forall_mem_cons.mp hfits
    obtain ⟨s₁, parsed, hrun₁, hfiles, hcur, hread⟩ := run_file s hfst
    obtain ⟨s₂, others, hrun₂, hclosed, hothers⟩ := ih s₁ hrest
    refine ⟨s₂, finishFile false parsed :: others, ?_, ?_, .cons hread.finish hothers⟩
    · rw [flatMap_cons, foldlM_append, hrun₁, ok_bind, hrun₂]
    · rw [hclosed, closed, hfiles, hcur]
      simp

theorem fits_of_run_files :
    ∀ {s s' : ParseState}, (files.flatMap print).foldlM (step false) s = .ok s' →
      ∀ file ∈ files, ∀ hunk ∈ file.hunks, hunk.Fits := by
  induction files with
  | nil =>
    intro s s' _ file hmem
    cases hmem
  | cons file files ih =>
    intro s s' hrun
    rw [flatMap_cons, foldlM_append, bind_eq_ok] at hrun
    obtain ⟨s₁, hrun₁, hrun₂⟩ := hrun
    exact forall_mem_cons.mpr ⟨fits_of_run_file hrun₁, ih hrun₂⟩

/-! ## The bytes of a diff -/

theorem splitOn_lines (lines : List (List UInt8)) (h : ∀ line ∈ lines, 0x0A ∉ line) :
    (lines.flatMap fun line => line ++ [0x0A]).splitOn 0x0A = lines ++ [[]] := by
  induction lines with
  | nil => rfl
  | cons line lines ih =>
    obtain ⟨hline, hrest⟩ := forall_mem_cons.mp h
    rw [flatMap_cons, append_assoc, singleton_append,
      splitOn_append_cons_self_of_not_mem hline, ih hrest, cons_append]

theorem print_hunk_whole (hunk : PrintedHunk) : ∀ line ∈ hunk.print, 0x0A ∉ line := by
  intro line hline
  simp only [PrintedHunk.print, mem_cons, mem_map] at hline
  rcases hline with rfl | ⟨line, -, rfl⟩
  · intro hfeed
    obtain ⟨c, hc, hval⟩ := mem_map.mp hfeed
    obtain ⟨hlow, hhigh⟩ := headerText_char hunk c hc
    have hsame := congrArg UInt8.toNat hval
    rw [UInt8.toNat_ofNat'] at hsame
    have hconst : (0x0A : UInt8).toNat = 10 := rfl
    omega
  · simp only [PrintedLine.print, mem_cons, not_or]
    refine ⟨?_, line.whole⟩
    cases line.kind <;> decide

theorem print_file_whole (file : PrintedFile) : ∀ line ∈ file.print, 0x0A ∉ line := by
  have happend : ∀ {p rest : List UInt8}, 0x0A ∉ p → (∀ b ∈ rest, b ≠ 0x0D ∧ b ≠ 0x0A) →
      0x0A ∉ p ++ rest := by
    intro p rest hp hrest hmem
    rcases mem_append.mp hmem with hmem | hmem
    · exact hp hmem
    · exact (hrest _ hmem).2 rfl
  intro line hline
  simp only [print, mem_cons, mem_flatMap] at hline
  rcases hline with rfl | rfl | rfl | rfl | ⟨hunk, -, hline⟩
  · exact happend (by decide) (printPaths_bytes file)
  · exact happend (by decide) (printBlobs_bytes file)
  · exact happend (by decide) (printSide_bytes (by decide +kernel) file.oldPath)
  · exact happend (by decide) (printSide_bytes (by decide +kernel) file.newPath)
  · exact print_hunk_whole hunk line hline

theorem step_empty (s : ParseState) : step false s [] = .ok s := by
  have hret : stripReturn [] = [] := rfl
  have hdiff : stripPrefix (ascii "diff --git ") [] = none := by decide +kernel
  simp only [step, hret, hdiff]
  cases s.current with
  | none => rfl
  | some file =>
    have hheader : header [] = .other := by rfl
    simp only [fileLine, hheader, hunkLine, parseDiffLine]
    cases s.currentHunk <;> rfl

theorem parseUnifiedDiff_print {document : DiffDocument} :
    parseUnifiedDiff (printDiff files) = .ok document ↔
      ∃ s, (files.flatMap print).foldlM (step false) start = .ok s ∧
        document = ⟨s.closed false, false, (printDiff files).length, none, []⟩ := by
  have hwhole : ∀ line ∈ files.flatMap print, 0x0A ∉ line := by
    intro line hline
    obtain ⟨file, -, hline⟩ := mem_flatMap.mp hline
    exact print_file_whole file line hline
  have hsplit : (printDiff files).splitOn 0x0A = files.flatMap print ++ [[]] :=
    splitOn_lines _ hwhole
  have hshort : decide ((printDiff files).length < (printDiff files).length) = false := by simp
  simp only [parseUnifiedDiff, parseUnifiedDiffLimited, take_length, hshort, hsplit, foldlM_append,
    foldlM_cons, foldlM_nil, step_empty, ok_iff, Except.ok.injEq, Bool.false_eq_true, if_false]
  constructor
  · rintro ⟨_, ⟨_, hrun, _, rfl, rfl⟩, hdoc⟩
    exact ⟨_, hrun, hdoc⟩
  · rintro ⟨s, hrun, hdoc⟩
    exact ⟨s, ⟨s, hrun, s, rfl, rfl⟩, hdoc⟩

/-! ## The lines of a hunk -/

/-- The cursor of a number: it stays at the last number of 32 bits. -/
def cursor (number : ℕ) : ℕ := min number (2 ^ 32 - 1)

theorem advance_cursor (number : ℕ) : advance (cursor number) = cursor (number + 1) := by
  unfold advance cursor
  omega

theorem lineNumber_cursor {number : ℕ} (h : number ≠ 0) :
    lineNumber (cursor number) = some number ↔ number < 2 ^ 32 := by
  have hcur : cursor number ≠ 0 := by
    unfold cursor
    omega
  rw [lineNumber, if_pos hcur, Option.some.injEq, cursor]
  omega

theorem oldLines_cons (line) (lines) :
    oldLines (line :: lines) = oldLines lines + if line.kind = .add then 0 else 1 := by
  unfold oldLines
  rw [countP_cons]
  by_cases h : line.kind = .add <;> simp [h]

theorem newLines_cons (line) (lines) :
    newLines (line :: lines) = newLines lines + if line.kind = .delete then 0 else 1 := by
  unfold newLines
  rw [countP_cons]
  by_cases h : line.kind = .delete <;> simp [h]

theorem readLine_eq_iff {old new : ℕ} {line : PrintedLine} (hold : line.kind ≠ .add → old ≠ 0)
    (hnew : line.kind ≠ .delete → new ≠ 0) :
    readLine (cursor old) (cursor new) line =
        { kind := line.kind
          content := line.content
          oldLine := if line.kind = .add then none else some old
          newLine := if line.kind = .delete then none else some new } ↔
      line.content.getLast? ≠ some 0x0D ∧ (line.kind ≠ .add → old < 2 ^ 32) ∧
        (line.kind ≠ .delete → new < 2 ^ 32) := by
  simp only [readLine, DiffLine.mk.injEq, true_and, stripReturn_eq_self]
  refine and_congr_right fun _ => and_congr ?_ ?_
  · by_cases h : line.kind = .add
    · simp [h]
    · simp [h, lineNumber_cursor (hold h)]
  · by_cases h : line.kind = .delete
    · simp [h]
    · simp [h, lineNumber_cursor (hnew h)]

theorem numbers_fit_iff {absent : Prop} [Decidable absent] {number count : ℕ} :
    (¬ absent → number < 2 ^ 32) ∧
        (count ≠ 0 → (if absent then number else number + 1) + count ≤ 2 ^ 32) ↔
      (count + (if absent then 0 else 1) ≠ 0 →
        number + (count + if absent then 0 else 1) ≤ 2 ^ 32) := by
  by_cases h : absent
  · simp [h]
  · simp only [h, if_false, not_false_eq_true, forall_const]
    omega

variable (lines : List PrintedLine)

theorem length_readLines_le :
    ∀ old new, (readLines old new lines).length ≤ lines.length := by
  induction lines with
  | nil => exact fun _ _ => le_rfl
  | cons line lines ih =>
    intro old new
    rw [readLines]
    split_ifs
    all_goals
      simp only [length_cons, add_le_add_iff_right]
      first
        | exact ih _ _
        | exact (ih _ _).trans (Nat.le_succ _)

theorem length_numbered :
    ∀ old new, (numbered old new lines).length = lines.length := by
  induction lines with
  | nil => exact fun _ _ => rfl
  | cons line lines ih =>
    intro old new
    rw [numbered, length_cons, length_cons, ih]

theorem readLines_eq_iff :
    ∀ {old new : ℕ}, (oldLines lines ≠ 0 → old ≠ 0) → (newLines lines ≠ 0 → new ≠ 0) →
      (readLines (cursor old) (cursor new) lines = numbered old new lines ↔
        (∀ line ∈ lines, line.Clear) ∧ (oldLines lines ≠ 0 → old + oldLines lines ≤ 2 ^ 32) ∧
          (newLines lines ≠ 0 → new + newLines lines ≤ 2 ^ 32)) := by
  induction lines with
  | nil =>
    intro old new _ _
    simp [readLines, numbered, oldLines, newLines]
  | cons line lines ih =>
    intro old new hold hnew
    by_cases hline : line.Misread
    · have hshort : readLines (cursor old) (cursor new) (line :: lines) ≠
          numbered old new (line :: lines) := by
        intro hsame
        have hlen := congrArg List.length hsame
        rw [readLines, if_pos hline, length_numbered, length_cons] at hlen
        have hle := length_readLines_le lines (cursor old) (cursor new)
        omega
      have hunclear : ¬ ∀ l ∈ line :: lines, l.Clear := fun hall =>
        (hall line (.head _)).1 hline
      simp only [hshort, hunclear, false_and]
    · rw [oldLines_cons] at hold ⊢
      rw [newLines_cons] at hnew ⊢
      have holdEnd : (if line.kind = .add then cursor old else advance (cursor old)) =
          cursor (if line.kind = .add then old else old + 1) := by
        rw [advance_cursor, apply_ite cursor]
      have hnewCursor : (if line.kind = .delete then cursor new else advance (cursor new)) =
          cursor (if line.kind = .delete then new else new + 1) := by
        rw [advance_cursor, apply_ite cursor]
      have hread := @readLine_eq_iff old new line (fun h => hold (by simp [h]))
        (fun h => hnew (by simp [h]))
      have hrest := @ih (if line.kind = .add then old else old + 1)
        (if line.kind = .delete then new else new + 1)
        (fun h => by split_ifs <;> omega) (fun h => by split_ifs <;> omega)
      rw [readLines, if_neg hline, numbered, List.cons.injEq, hread, holdEnd, hnewCursor, hrest,
        forall_mem_cons, PrintedLine.Clear]
      simp only [hline, not_false_eq_true, true_and]
      rw [← numbers_fit_iff, ← numbers_fit_iff]
      constructor
      · rintro ⟨⟨hret, hold₁, hne₁⟩, hclear, hold₂, hne₂⟩
        exact ⟨⟨hret, hclear⟩, ⟨hold₁, hold₂⟩, hne₁, hne₂⟩
      · rintro ⟨⟨hret, hclear⟩, ⟨hold₁, hold₂⟩, hne₁, hne₂⟩
        exact ⟨⟨hret, hold₁, hne₁⟩, hclear, hold₂, hne₂⟩

theorem countP_old_numbered :
    ∀ old new, (numbered old new lines).countP (fun line => line.kind ≠ .add) = oldLines lines := by
  induction lines with
  | nil => exact fun _ _ => rfl
  | cons line lines ih =>
    intro old new
    rw [numbered, countP_cons, ih, oldLines, oldLines, countP_cons]

theorem countP_new_numbered :
    ∀ old new,
      (numbered old new lines).countP (fun line => line.kind ≠ .delete) = newLines lines := by
  induction lines with
  | nil => exact fun _ _ => rfl
  | cons line lines ih =>
    intro old new
    rw [numbered, countP_cons, ih, newLines, newLines, countP_cons]

/-! ## Hunks, files and diffs -/

theorem PrintedHunk.Clear.fits {hunk : PrintedHunk} (h : hunk.Clear) : hunk.Fits := by
  obtain ⟨holdStart, hold⟩ := h.old
  obtain ⟨hnewStart, hnew⟩ := h.new
  have holdNumbered := hunk.oldNumbered
  have hnewNumbered := hunk.newNumbered
  exact ⟨⟨holdStart, by omega⟩, hnewStart, by omega⟩

theorem cursor_of_lt {number : ℕ} (h : number < 2 ^ 32) : cursor number = number := by
  unfold cursor
  omega

theorem hunkRecovered_iff {hunk : PrintedHunk} (hfits : hunk.Fits) :
    HunkRecovered hunk (readHunk hunk) ↔ hunk.Clear := by
  obtain ⟨⟨holdStart, -⟩, hnewStart, -⟩ := hfits
  have hlines := readLines_eq_iff hunk.lines hunk.oldNumbered hunk.newNumbered
  rw [cursor_of_lt holdStart, cursor_of_lt hnewStart] at hlines
  constructor
  · intro h
    obtain ⟨hclear, hold, hnew⟩ := hlines.mp h.lines
    exact ⟨hclear, ⟨holdStart, by omega⟩, hnewStart, by omega⟩
  · intro h
    have hread : (readHunk hunk).lines = numbered hunk.oldStart hunk.newStart hunk.lines :=
      hlines.mpr ⟨h.lines, fun _ => h.old.2, fun _ => h.new.2⟩
    refine ⟨rfl, rfl, hread, ?_, ?_⟩
    · rw [hread, countP_old_numbered]
      rfl
    · rw [hread, countP_new_numbered]
      rfl

theorem fileRecovered_iff {parsed : DiffFile}
    (hfits : ∀ hunk ∈ file.hunks, hunk.Fits) (hread : ReadAs file parsed) :
    FileRecovered file parsed ↔ file.Clear := by
  have hhunks : List.Forall₂ HunkRecovered file.hunks parsed.hunks ↔
      ∀ hunk ∈ file.hunks, hunk.Clear := by
    rw [hread.hunks, forall₂_map_right_iff, forall₂_same]
    exact forall₂_congr fun hunk hmem => hunkRecovered_iff (hfits hunk hmem)
  have hpaths : (∀ hunk ∈ file.hunks, hunk.Clear) →
      parsed.oldPath = readSide file.oldPath ∧ parsed.newPath = readSide file.newPath :=
    fun hclear => hread.paths fun hunk hmem line hline => ((hclear hunk hmem).lines line hline).1
  constructor
  · intro h
    have hclear := hhunks.mp h.hunks
    obtain ⟨hold, hnew⟩ := hpaths hclear
    exact ⟨readSide_eq_iff.mp (hold.symm.trans h.oldPath),
      readSide_eq_iff.mp (hnew.symm.trans h.newPath), hclear⟩
  · intro h
    obtain ⟨hold, hnew⟩ := hpaths h.hunks
    exact ⟨hold.trans (readSide_eq_iff.mpr h.oldPath), hnew.trans (readSide_eq_iff.mpr h.newPath),
      hread.oldBlob, hread.newBlob, hhunks.mpr h.hunks⟩

theorem PrintedFile.Clear.fits (h : file.Clear) :
    ∀ hunk ∈ file.hunks, hunk.Fits := fun hunk hmem => (h.hunks hunk hmem).fits

theorem filesRecovered_iff {files parsed} (hread : List.Forall₂ ReadAs files parsed) :
    (∀ file ∈ files, ∀ hunk ∈ file.hunks, hunk.Fits) →
      (List.Forall₂ FileRecovered files parsed ↔ ∀ file ∈ files, file.Clear) := by
  induction hread with
  | nil => simp
  | cons hfst _ ih =>
    intro hfits
    obtain ⟨hfitsFirst, hfitsRest⟩ := forall_mem_cons.mp hfits
    rw [forall₂_cons, forall_mem_cons, fileRecovered_iff hfitsFirst hfst, ih hfitsRest]

/-- A diff is recovered iff its files are clear. -/
theorem diff_recovered_iff (files : List PrintedFile) :
    Recovered files ↔ ∀ file ∈ files, file.Clear := by
  constructor
  · rintro ⟨document, hparse, hrec⟩
    obtain ⟨s, hrun, rfl⟩ := (parseUnifiedDiff_print files).mp hparse
    have hfits := fits_of_run_files files hrun
    obtain ⟨s', parsed, hagain, hclosed, hread⟩ := run_files files start hfits
    rw [hrun] at hagain
    cases hagain
    have hfiles : s.closed false = parsed := hclosed
    rw [hfiles] at hrec
    exact (filesRecovered_iff hread hfits).mp hrec
  · intro hclear
    have hfits : ∀ file ∈ files, ∀ hunk ∈ file.hunks, hunk.Fits :=
      fun file hmem => (hclear file hmem).fits
    obtain ⟨s, parsed, hrun, hclosed, hread⟩ := run_files files start hfits
    have hfiles : s.closed false = parsed := hclosed
    refine ⟨_, (parseUnifiedDiff_print files).mpr ⟨s, hrun, rfl⟩, ?_⟩
    show List.Forall₂ FileRecovered files (s.closed false)
    rw [hfiles]
    exact (filesRecovered_iff hread hfits).mpr hclear

/-! ## A deleted comment -/

def deletedComment : PrintedFile where
  oldPath := some ⟨ascii "q.sql", by decide +kernel⟩
  newPath := some ⟨ascii "q.sql", by decide +kernel⟩
  present := Or.inl (by simp)
  oldBlob := none
  newBlob := none
  hunks := [{
    oldStart := 1
    newStart := 0
    lines := [⟨.delete, ascii "-- x", by decide⟩]
    oldNumbered := by decide
    newNumbered := by decide }]
  nonempty := List.cons_ne_nil _ _

theorem parse_deletedComment : (parseUnifiedDiff (printDiff [deletedComment])).map (fun document =>
      document.files.map fun file => (file.oldPath, file.hunks.map DiffHunk.lines)) =
        .ok [(some (ascii "x"), [[]])] := by
  decide +kernel

theorem deleted_comment_is_lost : ¬ Recovered [deletedComment] := by
  rintro ⟨document, hparse, hrec⟩
  have hread := parse_deletedComment
  rw [hparse] at hread
  obtain ⟨parsed, rest, hfst, hrest, hfiles⟩ := forall₂_cons_left_iff.mp hrec
  cases hrest
  simp only [Except.map, hfiles, map_cons, map_nil, Except.ok.injEq, List.cons.injEq,
    Prod.mk.injEq, and_true] at hread
  have hpath := hfst.oldPath
  rw [hread.1] at hpath
  exact absurd hpath (by decide)

end DevManager.Git
