import DevManager.Git.PrintedDiff

/-!
# What the parser makes of a printed line

The lemmas go line by line: what the prefix of a printed line says (`header_print`), how the
header of a hunk is read (`parseHunkHeader_headerText`), and what the paths and the blobs of a
file are read as.
-/

namespace DevManager.Git

open List DiffLineKind

/-! ## Prefixes -/

theorem stripPrefix_append (p rest) : stripPrefix p (p ++ rest) = some rest := by
  have hpre : p.isPrefixOf (p ++ rest) = true :=
    isPrefixOf_iff_prefix.mpr (prefix_append p rest)
  simp [stripPrefix, hpre]

theorem isPrefixOf_of_head {p rest : List UInt8} {a b} (hp : p.head? = some a) (hne : a ≠ b) :
    p.isPrefixOf (b :: rest) = false := by
  cases p with
  | nil => cases hp
  | cons c p =>
    cases hp
    simp [List.isPrefixOf, hne]

theorem stripPrefix_of_head {p rest : List UInt8} {a b} (hp : p.head? = some a) (hne : a ≠ b) :
    stripPrefix p (b :: rest) = none := by
  unfold stripPrefix
  rw [isPrefixOf_of_head hp hne]
  rfl

theorem stripReturn_cons {b : UInt8} (hb : b ≠ 0x0D) (content) :
    stripReturn (b :: content) = b :: stripReturn content := by
  cases content with
  | nil => simp [stripReturn, hb]
  | cons c content =>
    simp only [stripReturn, getLast?_cons_cons]
    split_ifs
    · rfl
    · rfl

theorem stripReturn_eq_self {line : List UInt8} :
    stripReturn line = line ↔ line.getLast? ≠ some 0x0D := by
  unfold stripReturn
  split_ifs with h
  · have hne : line ≠ [] := by
      rintro rfl
      cases h
    simp only [h, ne_eq, not_true_eq_false, iff_false]
    intro hsame
    have hlen := congrArg List.length hsame
    have hpos := length_pos_of_ne_nil hne
    rw [length_dropLast] at hlen
    omega
  · simp [h]

theorem isPrefixOf_stripReturn {p line : List UInt8} (hp : p.getLast? ≠ some 0x0D) :
    p.isPrefixOf (stripReturn line) = p.isPrefixOf line := by
  unfold stripReturn
  by_cases h : line.getLast? = some 0x0D
  · rw [if_pos h]
    have hsplit : line = line.dropLast ++ [0x0D] := (dropLast_append_getLast? _ h).symm
    rw [Bool.eq_iff_iff, isPrefixOf_iff_prefix, isPrefixOf_iff_prefix]
    constructor
    · exact fun hpre => hpre.trans <| dropLast_prefix line
    · intro hpre
      rw [hsplit] at hpre
      rcases prefix_concat_iff.mp hpre with heq | hpre
      · rw [heq] at hp
        simp at hp
      · exact hpre
  · rw [if_neg h]

/-! ## The line of a hunk -/

/-- The first bytes of the headers that are not those of a side. -/
def headerHeads : List UInt8 := [0x69, 0x6E, 0x64, 0x72, 0x63, 0x42, 0x47, 0x6C, 0x40, 0x5C]

theorem header_of_head {b : UInt8} (hb : b ∉ headerHeads) (rest) :
    header (b :: rest) =
      if let some value := stripPrefix (ascii "--- ") (b :: rest) then .oldPath value
      else if let some value := stripPrefix (ascii "+++ ") (b :: rest) then .newPath value
      else .other := by
  simp only [headerHeads, mem_cons, not_mem_nil, or_false, not_or] at hb
  obtain ⟨hi, hn, hd, hr, hc, hB, hG, hl, hat, hback⟩ := hb
  have hgitdir : b :: rest ≠ ascii "GIT binary patch" := fun h => hG (List.cons.inj h).1
  have hnewline : b :: rest ≠ ascii "\\ No newline at end of file" := fun h =>
    hback (List.cons.inj h).1
  unfold header
  rw [stripPrefix_of_head (p := ascii "index ") (by decide) (Ne.symm hi),
    isPrefixOf_of_head (p := ascii "new file mode ") (by decide) (Ne.symm hn),
    isPrefixOf_of_head (p := ascii "deleted file mode ") (by decide) (Ne.symm hd),
    stripPrefix_of_head (p := ascii "rename from ") (by decide) (Ne.symm hr),
    stripPrefix_of_head (p := ascii "rename to ") (by decide) (Ne.symm hr),
    stripPrefix_of_head (p := ascii "copy from ") (by decide) (Ne.symm hc),
    stripPrefix_of_head (p := ascii "copy to ") (by decide) (Ne.symm hc),
    isPrefixOf_of_head (p := ascii "Binary files ") (by decide) (Ne.symm hB),
    isPrefixOf_of_head (p := ascii "literal ") (by decide) (Ne.symm hl),
    isPrefixOf_of_head (p := ascii "delta ") (by decide) (Ne.symm hd),
    isPrefixOf_of_head (p := ascii "@@ ") (by decide) (Ne.symm hat)]
  cases stripPrefix (ascii "--- ") (b :: rest) with
  | some value => simp only [Bool.false_eq_true, if_false]
  | none =>
    cases stripPrefix (ascii "+++ ") (b :: rest) with
    | some value => simp only [Bool.false_eq_true, if_false]
    | none => simp only [Bool.false_eq_true, if_false, hgitdir, hnewline, or_self]

theorem stripPrefix_minus (rest) : stripPrefix (ascii "--- ") (0x2D :: rest) =
    if (ascii "-- ").isPrefixOf rest then some (rest.drop 3) else none := by
  have hsplit : ascii "--- " = 0x2D :: ascii "-- " := by decide
  have hlen : (ascii "-- ").length = 3 := by decide
  simp [stripPrefix, hsplit, hlen]

theorem stripPrefix_plus (rest) : stripPrefix (ascii "+++ ") (0x2B :: rest) =
    if (ascii "++ ").isPrefixOf rest then some (rest.drop 3) else none := by
  have hsplit : ascii "+++ " = 0x2B :: ascii "++ " := by decide
  have hlen : (ascii "++ ").length = 3 := by decide
  simp [stripPrefix, hsplit, hlen]

variable (line : PrintedLine)

theorem stripReturn_print :
    stripReturn line.print = line.kind.marker :: stripReturn line.content := by
  refine stripReturn_cons ?_ line.content
  cases line.kind <;> decide

theorem header_print {line : PrintedLine} (h : ¬ line.Misread) :
    header (stripReturn line.print) = .other := by
  simp only [PrintedLine.Misread, not_or, not_and, Bool.not_eq_true] at h
  obtain ⟨hdel, haddr⟩ := h
  rw [stripReturn_print]
  cases hkind : line.kind with
  | context =>
    rw [marker, header_of_head (by decide),
      stripPrefix_of_head (p := ascii "--- ") (a := 0x2D) (by decide) (by decide),
      stripPrefix_of_head (p := ascii "+++ ") (a := 0x2B) (by decide) (by decide)]
  | add =>
    rw [marker, header_of_head (by decide),
      stripPrefix_of_head (p := ascii "--- ") (a := 0x2D) (by decide) (by decide), stripPrefix_plus,
      isPrefixOf_stripReturn (by decide), haddr hkind]
    rfl
  | delete =>
    rw [marker, header_of_head (by decide), stripPrefix_minus,
      isPrefixOf_stripReturn (by decide), hdel hkind,
      stripPrefix_of_head (p := ascii "+++ ") (a := 0x2B) (by decide) (by decide)]
    rfl

theorem header_print_misread {line : PrintedLine} (h : line.Misread) :
    ∃ value, header (stripReturn line.print) = .oldPath value ∨
      header (stripReturn line.print) = .newPath value := by
  rw [stripReturn_print]
  rcases h with ⟨hkind, hpre⟩ | ⟨hkind, hpre⟩
  · refine ⟨(stripReturn line.content).drop 3, .inl ?_⟩
    rw [hkind, marker, header_of_head (by decide), stripPrefix_minus,
      isPrefixOf_stripReturn (by decide), hpre]
    rfl
  · refine ⟨(stripReturn line.content).drop 3, .inr ?_⟩
    rw [hkind, marker, header_of_head (by decide),
      stripPrefix_of_head (p := ascii "--- ") (a := 0x2D) (by decide) (by decide), stripPrefix_plus,
      isPrefixOf_stripReturn (by decide), hpre]
    rfl

theorem parseDiffLine_print :
    parseDiffLine (stripReturn line.print) = some (line.kind, stripReturn line.content) := by
  rw [stripReturn_print]
  cases line.kind <;> rfl

theorem stripPrefix_diff_print :
    stripPrefix (ascii "diff --git ") (stripReturn line.print) = none := by
  rw [stripReturn_print]
  refine stripPrefix_of_head (a := 0x64) (by decide) ?_
  cases line.kind <;> decide

/-! ## The lines that name the paths and the blobs -/

variable (value : List UInt8)

theorem header_blobs : header (ascii "index " ++ value) = .blobs value := by
  unfold header
  rw [stripPrefix_append]

theorem header_oldPath : header (ascii "--- " ++ value) = .oldPath value := by
  have hsplit : ascii "--- " ++ value = 0x2D :: (ascii "-- " ++ value) := rfl
  rw [hsplit, header_of_head (by decide), ← hsplit, stripPrefix_append]

theorem header_newPath : header (ascii "+++ " ++ value) = .newPath value := by
  have hsplit : ascii "+++ " ++ value = 0x2B :: (ascii "++ " ++ value) := rfl
  rw [hsplit, header_of_head (by decide),
    stripPrefix_of_head (p := ascii "--- ") (a := 0x2D) (by decide) (by decide), ← hsplit,
    stripPrefix_append]

theorem header_hunk (rest) : header (ascii "@@ " ++ rest) = .hunk := by
  have hsplit : ascii "@@ " ++ rest = 0x40 :: (ascii "@ " ++ rest) := rfl
  have hhunk : (ascii "@@ ").isPrefixOf (0x40 :: (ascii "@ " ++ rest)) = true := by
    rw [← hsplit, isPrefixOf_iff_prefix]
    exact prefix_append _ _
  have hgitdir : 0x40 :: (ascii "@ " ++ rest) ≠ ascii "GIT binary patch" := fun h =>
    absurd (List.cons.inj h).1 (by decide)
  rw [hsplit]
  unfold header
  rw [stripPrefix_of_head (p := ascii "index ") (a := 0x69) (by decide) (by decide),
    isPrefixOf_of_head (p := ascii "new file mode ") (a := 0x6E) (by decide) (by decide),
    isPrefixOf_of_head (p := ascii "deleted file mode ") (a := 0x64) (by decide) (by decide),
    stripPrefix_of_head (p := ascii "rename from ") (a := 0x72) (by decide) (by decide),
    stripPrefix_of_head (p := ascii "rename to ") (a := 0x72) (by decide) (by decide),
    stripPrefix_of_head (p := ascii "copy from ") (a := 0x63) (by decide) (by decide),
    stripPrefix_of_head (p := ascii "copy to ") (a := 0x63) (by decide) (by decide),
    stripPrefix_of_head (p := ascii "--- ") (a := 0x2D) (by decide) (by decide),
    stripPrefix_of_head (p := ascii "+++ ") (a := 0x2B) (by decide) (by decide),
    isPrefixOf_of_head (p := ascii "Binary files ") (a := 0x42) (by decide) (by decide),
    isPrefixOf_of_head (p := ascii "literal ") (a := 0x6C) (by decide) (by decide),
    isPrefixOf_of_head (p := ascii "delta ") (a := 0x64) (by decide) (by decide), hhunk]
  simp only [Bool.false_eq_true, if_false, hgitdir, or_self, if_true]

/-- The path that the parser makes of a side: the tab after a path with a space is a part of it. -/
def readSide (path : Option PlainPath) : Option RepoPath :=
  path.map fun path => path.bytes ++ pathEnd path

theorem unquote_of_head {value} (h : value.head? ≠ some 0x22) : unquote value = value := by
  unfold unquote
  rw [if_pos (Or.inr (Or.inl h))]

theorem parseOptionalPath_printSide (path) :
    parseOptionalPath (printSide "a/" path) (ascii "a/") = readSide path ∧
      parseOptionalPath (printSide "b/" path) (ascii "b/") = readSide path := by
  cases path with
  | none => exact ⟨by decide, by decide⟩
  | some path =>
    have hread : ∀ side, (ascii side).head? ≠ some 0x22 → (ascii side).head? ≠ some 0x2F →
        (ascii side).head? ≠ none →
        parseOptionalPath (ascii side ++ (path.bytes ++ pathEnd path)) (ascii side) =
          some (path.bytes ++ pathEnd path) := by
      intro side hquote hslash hsome
      have hhead : ∀ rest, (ascii side ++ rest).head? = (ascii side).head? := by
        intro rest
        cases hside : ascii side with
        | nil =>
          rw [hside] at hsome
          exact absurd rfl hsome
        | cons b bytes => rfl
      have hnull : ascii side ++ (path.bytes ++ pathEnd path) ≠ ascii "/dev/null" := by
        intro h
        have hsame := congrArg List.head? h
        rw [hhead] at hsame
        exact hslash hsame
      have hunquote : unquote (ascii side ++ (path.bytes ++ pathEnd path)) =
          ascii side ++ (path.bytes ++ pathEnd path) :=
            unquote_of_head (by rw [hhead]; exact hquote)
      simp only [parseOptionalPath, if_neg hnull, parsePath, hunquote, stripPrefix_append,
        Option.getD_some]
    exact ⟨hread "a/" (by decide) (by decide) (by decide),
      hread "b/" (by decide) (by decide) (by decide)⟩

theorem readSide_eq_iff {path} :
    readSide path = path.map PlainPath.bytes ↔ ∀ p ∈ path, 0x20 ∉ p.bytes := by
  cases path with
  | none => simp [readSide]
  | some path =>
    simp only [readSide, Option.map_some, Option.some.injEq, append_right_eq_self,
      Option.mem_def, forall_eq']
    unfold pathEnd
    split_ifs with hspace <;> simp [hspace]

/-! ## ASCII -/

theorem fromUtf8Lossy_asciiBytes {text} (h : ∀ c ∈ text, c.toNat < 0x80) :
    fromUtf8Lossy (asciiBytes text) = text := by
  have hbytes : ∀ c ∈ text, (UInt8.ofNat c.toNat).toNat = c.toNat := by
    intro c hc
    have hlt := h c hc
    rw [UInt8.toNat_ofNat']
    omega
  rw [fromUtf8Lossy_ascii]
  · unfold asciiBytes
    rw [map_map]
    conv_rhs => rw [← map_id text]
    refine map_congr_left fun c hc => ?_
    rw [Function.comp_apply, hbytes c hc, Char.ofNat_toNat, id]
  · intro b hb
    obtain ⟨c, hc, rfl⟩ := mem_map.mp hb
    rw [UInt8.lt_iff_toNat_lt, hbytes c hc]
    exact h c hc

theorem asciiBytes_forall {text} {P : UInt8 → Prop}
    (h : ∀ c ∈ text, P (UInt8.ofNat c.toNat)) : ∀ b ∈ asciiBytes text, P b := by
  intro b hb
  obtain ⟨c, hc, rfl⟩ := mem_map.mp hb
  exact h c hc

theorem hexChar_byte {c : Char} (h : '0' ≤ c ∧ c ≤ '9' ∨ 'a' ≤ c ∧ c ≤ 'f') :
    c.toNat < 0x80 ∧ 0x30 ≤ UInt8.ofNat c.toNat := by
  have hle : ∀ {a b : Char}, a ≤ b → a.toNat ≤ b.toNat := fun h => h
  have hrange : 0x30 ≤ c.toNat ∧ c.toNat ≤ 0x66 := by
    rcases h with ⟨hlow, hhigh⟩ | ⟨hlow, hhigh⟩
    · exact ⟨hle hlow, (hle hhigh).trans (by decide)⟩
    · exact ⟨le_trans (by decide) (hle hlow), hle hhigh⟩
  refine ⟨by omega, ?_⟩
  rw [UInt8.le_iff_toNat_le, UInt8.toNat_ofNat']
  have hconst : (0x30 : UInt8).toNat = 0x30 := rfl
  omega

/-! ## The blobs -/

theorem printBlob_bytes (blob) : ∀ b ∈ printBlob blob, 0x30 ≤ b := by
  cases blob with
  | none => decide +kernel
  | some blob => exact asciiBytes_forall fun c hc => (hexChar_byte (blob.hex c hc)).2

theorem parseObjectId_printBlob (blob) :
    parseObjectId (printBlob blob) = blob.map BlobId.text := by
  cases blob with
  | none => decide
  | some blob =>
    obtain ⟨c, hc, hnonzero⟩ := blob.nonzero
    have hne : ascii blob.text ≠ [] := by
      intro hnil
      have hmem : UInt8.ofNat c.toNat ∈ ascii blob.text := mem_map_of_mem hc
      rw [hnil] at hmem
      cases hmem
    have hdigit : (ascii blob.text).all (· = 0x30) = false := by
      rw [all_eq_false]
      refine ⟨UInt8.ofNat c.toNat, mem_map_of_mem hc, ?_⟩
      intro hzero
      have hval := congrArg UInt8.toNat (of_decide_eq_true hzero)
      have hlt := (hexChar_byte (blob.hex c hc)).1
      rw [UInt8.toNat_ofNat'] at hval
      have hconst : (0x30 : UInt8).toNat = '0'.toNat := rfl
      refine hnonzero (Char.toNat_inj.mp ?_)
      omega
    have hread : fromUtf8Lossy (ascii blob.text) = blob.text.toList :=
      fromUtf8Lossy_asciiBytes fun c hc => (hexChar_byte (blob.hex c hc)).1
    simp only [parseObjectId, printBlob, hne, hdigit, false_or, Bool.false_eq_true, if_false, hread,
      String.ofList_toList, Option.map_some]

theorem setBlobs_print (parsed : DiffFile) (file : PrintedFile) :
    setBlobs parsed (printBlob file.oldBlob ++ (ascii ".." ++
      (printBlob file.newBlob ++ file.printMode))) = { parsed with
          oldBlob := file.oldBlob.map BlobId.text, newBlob := file.newBlob.map BlobId.text } := by
  have hmode : file.printMode.takeWhile (· ≠ 0x20) = [] := by
    unfold PrintedFile.printMode
    split_ifs <;> decide
  have hrange : (printBlob file.oldBlob ++ (ascii ".." ++
      (printBlob file.newBlob ++ file.printMode))).takeWhile (· ≠ 0x20) =
        printBlob file.oldBlob ++ (ascii ".." ++ printBlob file.newBlob) := by
    have hall : ∀ b ∈ printBlob file.oldBlob ++ (ascii ".." ++ printBlob file.newBlob),
        (decide (b ≠ 0x20)) = true := by
      intro b hb
      simp only [mem_append] at hb
      rw [decide_eq_true_eq]
      rintro rfl
      rcases hb with hb | hb | hb
      · exact absurd (printBlob_bytes _ _ hb) (by decide)
      · exact absurd hb (by decide)
      · exact absurd (printBlob_bytes _ _ hb) (by decide)
    rw [show printBlob file.oldBlob ++ (ascii ".." ++ (printBlob file.newBlob ++ file.printMode)) =
      (printBlob file.oldBlob ++ (ascii ".." ++ printBlob file.newBlob)) ++ file.printMode by
        simp [append_assoc], takeWhile_append_of_pos hall, hmode, append_nil]
  have hdots : ascii ".." ++ printBlob file.newBlob = 0x2E :: 0x2E :: printBlob file.newBlob := rfl
  have hidx : (printBlob file.oldBlob ++ (ascii ".." ++ printBlob file.newBlob)).findIdx?
      (· = 0x2E) = some (printBlob file.oldBlob).length := by
    have hnone : (printBlob file.oldBlob).findIdx? (· = 0x2E) = none := by
      rw [findIdx?_eq_none_iff]
      intro b hb
      rw [decide_eq_false_iff_not]
      rintro rfl
      exact absurd (printBlob_bytes _ _ hb) (by decide)
    rw [findIdx?_append, hnone, hdots]
    simp [findIdx?_cons]
  simp only [setBlobs, hrange, hidx, take_left', drop_left', stripPrefix_append,
    Option.getD_some, parseObjectId_printBlob]

/-! ## The header of a hunk -/

theorem splitWhitespace_cons {piece rest} (hne : piece ≠ [])
    (hpiece : ∀ c ∈ piece, isWhitespace c = false) :
    splitWhitespace (piece ++ ' ' :: rest) = piece :: splitWhitespace rest := by
  have hspace : isWhitespace ' ' = true := by decide
  unfold splitWhitespace
  rw [splitOnP_append_cons_of_forall_mem hpiece ' ' hspace, filter_cons_of_pos]
  simpa using hne

theorem splitWhitespace_last {piece} (hne : piece ≠ [])
    (hpiece : ∀ c ∈ piece, isWhitespace c = false) : splitWhitespace piece = [piece] := by
  unfold splitWhitespace
  rw [splitOnP_eq_singleton hpiece, filter_cons_of_pos]
  · rfl
  · simpa using hne

theorem toDigits_char {n : ℕ} {c : Char} (hc : c ∈ Nat.toDigits 10 n) :
    0x30 ≤ c.toNat ∧ c.toNat ≤ 0x39 := by
  have hdigit := Nat.isDigit_of_mem_toDigits (by decide) (by decide) hc
  simp only [Char.isDigit, Bool.and_eq_true, decide_eq_true_eq] at hdigit
  exact ⟨hdigit.1, hdigit.2⟩

theorem rangeText_char {sign : Char} (hsign : sign = '-' ∨ sign = '+') {start count : ℕ} :
    ∀ c ∈ rangeText sign start count,
      (0x20 ≤ c.toNat ∧ c.toNat < 0x80) ∧ isWhitespace c = false := by
  have hdigit : ∀ c, 0x30 ≤ c.toNat → c.toNat ≤ 0x39 →
      (0x20 ≤ c.toNat ∧ c.toNat < 0x80) ∧ isWhitespace c = false := by
    intro c hlow hhigh
    refine ⟨by omega, ?_⟩
    simp only [isWhitespace, Bool.or_eq_false_iff, Bool.and_eq_false_iff, decide_eq_false_iff_not,
      beq_eq_false_iff_ne]
    omega
  intro c hc
  simp only [rangeText, mem_cons, mem_append] at hc
  rcases hc with rfl | hc | rfl | hc
  · rcases hsign with rfl | rfl <;> decide
  · exact hdigit c (toDigits_char hc).1 (toDigits_char hc).2
  · decide
  · exact hdigit c (toDigits_char hc).1 (toDigits_char hc).2

theorem atSigns_char : ∀ c ∈ ['@', '@'],
    (0x20 ≤ c.toNat ∧ c.toNat < 0x80) ∧ isWhitespace c = false := by
  intro c hc
  have hat : c = '@' := by simpa using hc
  rw [hat]
  decide

theorem headerText_char (hunk : PrintedHunk) :
    ∀ c ∈ hunk.headerText, 0x20 ≤ c.toNat ∧ c.toNat < 0x80 := by
  intro c hc
  simp only [PrintedHunk.headerText, mem_append, mem_cons (a := c) (b := ' ')] at hc
  rcases hc with hc | rfl | hc | rfl | hc | rfl | hc
  · exact (atSigns_char c hc).1
  · decide
  · exact (rangeText_char (.inl rfl) c hc).1
  · decide
  · exact (rangeText_char (.inr rfl) c hc).1
  · decide
  · exact (atSigns_char c hc).1

theorem parseRange_rangeText (sign : Char) (start count : ℕ) :
    parseRange (rangeText sign start count) sign =
      if start < 2 ^ 32 then
        if count < 2 ^ 32 then .ok (start, count) else .error "unified range count is not numeric"
      else .error "unified range start is not numeric" := by
  have hcomma : ∀ n, ',' ∉ Nat.toDigits 10 n := fun n hmem =>
    absurd (toDigits_char hmem).1 (by decide)
  have hpieces : (Nat.toDigits 10 start ++ ',' :: Nat.toDigits 10 count).splitOn ',' =
      [Nat.toDigits 10 start, Nat.toDigits 10 count] := by
    rw [splitOn_append_cons_self_of_not_mem (hcomma start), splitOn_eq_singleton (hcomma count)]
  have hcount : [Nat.toDigits 10 start, Nat.toDigits 10 count][1]?.getD ['1'] =
      Nat.toDigits 10 count := rfl
  rw [parseRange, failIf_neg (by simp [rangeText]), ok_bind]
  simp only [rangeText, tail_cons, hpieces, head?_cons, okOr_some, ok_bind, hcount,
    parseU32_toDigits]
  split_ifs <;> simp [okOr, bind, Except.bind, pure, Except.pure]

/-- The numbers of the header are those of 32 bits. -/
def PrintedHunk.Fits (hunk : PrintedHunk) : Prop :=
  (hunk.oldStart < 2 ^ 32 ∧ oldLines hunk.lines < 2 ^ 32) ∧
    hunk.newStart < 2 ^ 32 ∧ newLines hunk.lines < 2 ^ 32

theorem rangeText_ne_nil (sign : Char) (start count : ℕ) : rangeText sign start count ≠ [] :=
  cons_ne_nil _ _

theorem parseHunkHeader_headerText (hunk : PrintedHunk) :
    parseHunkHeader (asciiBytes hunk.headerText) = (do
        let old ← parseRange (rangeText '-' hunk.oldStart (oldLines hunk.lines)) '-'
        let new ← parseRange (rangeText '+' hunk.newStart (newLines hunk.lines)) '+'
        return (old, new)) := by
  have hread : fromUtf8Lossy (asciiBytes hunk.headerText) = hunk.headerText :=
    fromUtf8Lossy_asciiBytes fun c hc => (headerText_char hunk c hc).2
  have hpieces : splitWhitespace hunk.headerText =
      [['@', '@'], rangeText '-' hunk.oldStart (oldLines hunk.lines),
        rangeText '+' hunk.newStart (newLines hunk.lines), ['@', '@']] := by
    unfold PrintedHunk.headerText
    rw [splitWhitespace_cons (by decide) fun c hc => (atSigns_char c hc).2,
      splitWhitespace_cons (rangeText_ne_nil _ _ _) fun c hc =>
        (rangeText_char (Or.inl rfl) c hc).2,
      splitWhitespace_cons (rangeText_ne_nil _ _ _) fun c hc =>
        (rangeText_char (Or.inr rfl) c hc).2,
      splitWhitespace_last (by decide) fun c hc => (atSigns_char c hc).2]
  simp only [parseHunkHeader, hread, hpieces]
  rw [failIf_neg (by simp), ok_bind]

theorem parseHunkHeader_eq_ok {hunk : PrintedHunk} {parsed} :
    parseHunkHeader (asciiBytes hunk.headerText) = .ok parsed ↔
      hunk.Fits ∧ parsed = ((hunk.oldStart, oldLines hunk.lines), hunk.newStart,
        newLines hunk.lines) := by
  rw [parseHunkHeader_headerText]
  simp only [parseRange_rangeText, PrintedHunk.Fits]
  split_ifs <;> simp_all [bind, Except.bind, pure, Except.pure, eq_comm]

end DevManager.Git
