import DevManager.Domain.Canonical
import Mathlib.Data.List.Infix

/-!
# The text of a prompt search (`src/prompts/search.rs`)

A search compares folded text: lower case, without combining marks and diacritics. A character
folds to no, one or several characters, so places in a body and in its folded text drift apart. A
`str` is the list of its characters; a place in it is the number of bytes before it.

* `findTermRange_leftmost`: a highlight is a leftmost part of the body that folds to the folded
  term, and there is one when some part does.
-/

namespace DevManager.Prompts

open List

/-- The table of the standard library: `char::to_lowercase`. -/
class Unicode where
  toLowercase : Char → List Char

/-! ## Folding -/

/-- The last of a run of pairs of a capital and a small letter from `U+1E00` on, and its base. -/
def extendedPairs : List (ℕ × Char) :=
  [(0, 'A'), (3, 'B'), (4, 'C'), (9, 'D'), (14, 'E'), (15, 'F'), (16, 'G'), (21, 'H'), (23, 'I'),
    (26, 'K'), (30, 'L'), (33, 'M'), (37, 'N'), (41, 'O'), (43, 'P'), (47, 'R'), (52, 'S'),
    (56, 'T'), (61, 'U'), (63, 'V'), (68, 'W'), (70, 'X'), (71, 'Y'), (74, 'Z')]

/-- The last of a run of letters from `U+1E96` on, and the bases of its even and odd ones. -/
def extendedLetters : List (ℕ × Char × Char) :=
  [(0x1E96, 'h', 'h'), (0x1E97, 't', 't'), (0x1E98, 'w', 'w'), (0x1E99, 'y', 'y'),
    (0x1E9A, 'a', 'a'), (0x1E9D, 's', 's'), (0x1E9E, 'S', 'S'), (0x1E9F, 'd', 'd'),
    (0x1EB7, 'A', 'a'), (0x1EC7, 'E', 'e'), (0x1ECB, 'I', 'i'), (0x1EE3, 'O', 'o'),
    (0x1EF1, 'U', 'u'), (0x1EF9, 'Y', 'y'), (0x1EFB, 'l', 'l'), (0x1EFD, 'v', 'v'),
    (0x1EFF, 'y', 'y')]

variable (ch : Char)

/-- `latin_extended_additional_base`, L659-756 -/
def latinExtendedAdditionalBase : Option Char :=
  let code := ch.toNat
  if code < 0x1E00 ∨ 0x1EFF < code then none
  else if code ≤ 0x1E95 then
    (extendedPairs.find? fun row => (code - 0x1E00) / 2 ≤ row.1).map fun row =>
      if code % 2 = 0 then row.2 else row.2.toLower
  else
    (extendedLetters.find? fun row => code ≤ row.1).map fun row =>
      if code % 2 = 0 then row.2.1 else row.2.2

/-- `unicode61_base`, L651-657 -/
def unicode61Base : Char :=
  if ch ∈ ['ſ', 'ẛ', 'ẜ', 'ẝ'] then 's'
  else if ch = 'ẞ' then 'S'
  else (latinExtendedAdditionalBase ch).getD ch

/-- `is_combining_mark`, L758-767 -/
def isCombiningMark : Bool :=
  [(0x300, 0x36F), (0x1AB0, 0x1AFF), (0x1DC0, 0x1DFF), (0x20D0, 0x20FF), (0xFE20, 0xFE2F)].any
    fun (first, last) => first ≤ ch.toNat && ch.toNat ≤ last

/-- `strip_latin_diacritic`, L769-783 -/
def stripLatinDiacritic : Char :=
  let rows := [("àáâãäåāăą", 'a'), ("çćĉċč", 'c'), ("èéêëēĕėęě", 'e'), ("ìíîïĩīĭį", 'i'),
    ("ñńņň", 'n'), ("òóôõöøōŏő", 'o'), ("ùúûüũūŭůűų", 'u'), ("ýÿ", 'y'), ("śŝşš", 's'),
    ("źżž", 'z')]
  ((rows.find? fun row => ch ∈ row.1.toList).map Prod.snd).getD ch

section Folding

variable [Unicode]

/-- `fold_search_char`, L641-649 -/
def foldSearchChar (ch : Char) : List Char :=
  ((Unicode.toLowercase (unicode61Base ch)).filter fun folded => !isCombiningMark folded).map
    stripLatinDiacritic

def foldSearchText (input : List Char) : List Char := input.flatMap foldSearchChar

end Folding

/-! ## Highlights -/

def byteLen (text : List Char) : ℕ := (text.map Char.utf8Size).sum

/-- `str::is_char_boundary` -/
def isCharBoundary (body : List Char) (index : ℕ) : Bool :=
  body.inits.any fun before => byteLen before = index

structure HighlightRange where
  start : ℕ
  stop : ℕ

/-- The comparison of what one character folds to (L824-830); `none` stands for
`matched = usize::MAX`. -/
def matchFolded (needle : List Char) (matched : ℕ) : List Char → Option ℕ
  | [] => some matched
  | folded :: rest =>
    if needle[matched]? = some folded then matchFolded needle (matched + 1) rest else none

section Highlights

variable [Unicode]

/-- The end after the characters that fold to nothing (L836-842). -/
def tailEnd (endByte : ℕ) : List Char → ℕ
  | [] => endByte
  | ch :: rest => if foldSearchChar ch = [] then tailEnd (endByte + ch.utf8Size) rest else endByte

/-- The loop over the characters from a start on (L823-851); `place` is `start_byte + rel`. -/
def matchFrom (body needle : List Char) (start matched place : ℕ) :
    List Char → Option HighlightRange
  | [] => none
  | ch :: rest =>
    match matchFolded needle matched (foldSearchChar ch) with
    | none => none
    | some matched =>
      if matched = needle.length then
        let stop := tailEnd (place + ch.utf8Size) rest
        if isCharBoundary body start ∧ isCharBoundary body stop then some ⟨start, stop⟩ else none
      else matchFrom body needle start matched (place + ch.utf8Size) rest

/-- The loop over the starts (L820-852). -/
def scanFrom (body needle : List Char) (start : ℕ) : List Char → Option HighlightRange
  | [] => none
  | ch :: rest =>
    (matchFrom body needle start 0 start (ch :: rest)).or
      (scanFrom body needle (start + ch.utf8Size) rest)

/-- `find_term_range`, L812-854 -/
def findTermRange (body term : List Char) : Option HighlightRange :=
  if term.isEmpty ∨ body.isEmpty then none
  else if (foldSearchText term).isEmpty then none
  else scanFrom body (foldSearchText term) 0 body

end Highlights

/-! ## Highlights are leftmost -/

/-- A text begins with a part whose folded text is the needle. -/
def Occurs [Unicode] (needle text : List Char) : Prop :=
  ∃ part, part <+: text ∧ foldSearchText part = needle

theorem byteLen_append (a b) : byteLen (a ++ b) = byteLen a + byteLen b := by
  simp [byteLen]

theorem byteLen_cons (ch : Char) (text) :
    byteLen (ch :: text) = ch.utf8Size + byteLen text := by
  simp [byteLen]

theorem byteLen_pos {text} (h : text ≠ []) : 0 < byteLen text := by
  obtain ⟨ch, rest, rfl⟩ := exists_cons_of_ne_nil h
  rw [byteLen_cons]
  exact Nat.add_pos_left ch.utf8Size_pos _

theorem isCharBoundary_byteLen {before body} (h : before <+: body) :
    isCharBoundary body (byteLen before) = true :=
  any_eq_true.mpr ⟨before, (mem_inits _ _).mpr h, by simp⟩

theorem matchFolded_eq_some {needle folded} {matched next : ℕ} :
    matchFolded needle matched folded = some next ↔
      next = matched + folded.length ∧ folded <+: needle.drop matched := by
  induction folded generalizing matched with
  | nil => simp [matchFolded, eq_comm]
  | cons ch rest ih =>
    unfold matchFolded
    split_ifs with hcheck
    · obtain ⟨hlt, hget⟩ := List.getElem?_eq_some_iff.mp hcheck
      rw [ih, drop_eq_getElem_cons hlt, hget, cons_prefix_cons, length_cons]
      simp [Nat.add_assoc, Nat.add_comm 1]
    · refine iff_of_false nofun fun ⟨_, hpre⟩ => hcheck ?_
      obtain ⟨others, hothers⟩ := hpre
      rw [← head?_drop, ← hothers]
      rfl

section Leftmost

variable [Unicode] {body needle text : List Char} {range : HighlightRange} {start matched place : ℕ}

theorem foldSearchText_cons (ch : Char) (text) :
    foldSearchText (ch :: text) = foldSearchChar ch ++ foldSearchText text :=
  flatMap_cons

theorem tailEnd_spec (endByte : ℕ) (rest) :
    ∃ tail, tail <+: rest ∧ foldSearchText tail = [] ∧
      tailEnd endByte rest = endByte + byteLen tail := by
  induction rest generalizing endByte with
  | nil => exact ⟨[], nil_prefix, rfl, rfl⟩
  | cons ch rest ih =>
    unfold tailEnd
    split_ifs with hcheck
    · obtain ⟨tail, hpre, hfold, hend⟩ := ih (endByte + ch.utf8Size)
      refine ⟨ch :: tail, cons_prefix_cons.mpr ⟨rfl, hpre⟩, ?_, ?_⟩
      · rw [foldSearchText_cons, hcheck, hfold, append_nil]
      · rw [hend, byteLen_cons, Nat.add_assoc]
    · exact ⟨[], nil_prefix, rfl, rfl⟩

/-- What the loop over the characters returns is a part of the text that folds to the rest of the
needle. -/
theorem matchFrom_sound (h : matchFrom body needle start matched place text = some range) :
    ∃ part, part <+: text ∧ part ≠ [] ∧ foldSearchText part = needle.drop matched ∧
      range = ⟨start, place + byteLen part⟩ := by
  induction text generalizing matched place with
  | nil => cases h
  | cons ch rest ih =>
    unfold matchFrom at h
    split at h
    · cases h
    · rename_i next hnext
      obtain ⟨rfl, hpre⟩ := matchFolded_eq_some.mp hnext
      split_ifs at h with hall
      · -- the needle ends with what this character folds to
        have hcheck : foldSearchChar ch = needle.drop matched :=
          hpre.eq_of_length (by rw [length_drop]; omega)
        obtain ⟨tail, htail, hfold, hend⟩ := tailEnd_spec (place + ch.utf8Size) rest
        refine ⟨ch :: tail, cons_prefix_cons.mpr ⟨rfl, htail⟩, nofun, ?_, ?_⟩
        · rw [foldSearchText_cons, hfold, append_nil, hcheck]
        · dsimp only at h
          split_ifs at h
          cases h
          rw [hend, byteLen_cons, Nat.add_assoc]
      · obtain ⟨part, hpart, -, hfold, rfl⟩ := ih h
        refine ⟨ch :: part, cons_prefix_cons.mpr ⟨rfl, hpart⟩, nofun, ?_, ?_⟩
        · rw [foldSearchText_cons, hfold, ← drop_drop]
          exact (prefix_append_drop hpre).symm
        · rw [byteLen_cons, Nat.add_assoc]

/-- The loop over the characters returns a range when a part of the text folds to the rest of the
needle. -/
theorem matchFrom_complete {before part} (done)
    (hbody : body = before ++ (done ++ text)) (hpart : part <+: text)
    (hfold : foldSearchText part = needle.drop matched) (hlt : matched < needle.length) :
    (matchFrom body needle (byteLen before) matched (byteLen (before ++ done)) text).isSome := by
  induction text generalizing matched done part with
  | nil =>
    rw [prefix_nil.mp hpart] at hfold
    have hlen := congrArg List.length hfold
    simp [foldSearchText] at hlen
    omega
  | cons ch rest ih =>
    cases part with
    | nil =>
      have hlen := congrArg List.length hfold
      simp [foldSearchText] at hlen
      omega
    | cons first part =>
      obtain ⟨rfl, hrest⟩ := cons_prefix_cons.mp hpart
      rw [foldSearchText_cons] at hfold
      have hnext : matchFolded needle matched (foldSearchChar first) =
          some (matched + (foldSearchChar first).length) :=
        matchFolded_eq_some.mpr ⟨rfl, ⟨_, hfold⟩⟩
      have hplace : byteLen (before ++ done) + first.utf8Size =
          byteLen (before ++ (done ++ [first])) := by
        rw [← append_assoc, byteLen_append _ [first]]
        simp [byteLen]
      unfold matchFrom
      simp only [hnext, hplace]
      split_ifs with hall hbound
      · rfl
      · obtain ⟨tail, ⟨after, rfl⟩, -, hend⟩ :=
          tailEnd_spec (byteLen (before ++ (done ++ [first]))) rest
        refine absurd ⟨isCharBoundary_byteLen ⟨_, hbody.symm⟩, ?_⟩ hbound
        rw [hend, ← byteLen_append]
        exact isCharBoundary_byteLen ⟨after, by simp [hbody]⟩
      · have hdrop : foldSearchText part =
          needle.drop (matched + (foldSearchChar first).length) := by
          rw [← drop_drop, ← hfold, drop_left]
        have hle := congrArg List.length hfold
        rw [length_append, length_drop] at hle
        exact ih (done ++ [first]) (by simp [hbody]) hrest hdrop (by omega)

theorem matchFrom_isSome {before} (hbody : body = before ++ text)
    (hneedle : needle ≠ []) :
    (matchFrom body needle (byteLen before) 0 (byteLen before) text).isSome ↔
      Occurs needle text := by
  constructor
  · intro h
    obtain ⟨range, h⟩ := Option.isSome_iff_exists.mp h
    obtain ⟨part, hpart, -, hfold, -⟩ := matchFrom_sound h
    exact ⟨part, hpart, hfold⟩
  · rintro ⟨part, hpart, hfold⟩
    have hdrop : foldSearchText part = needle.drop 0 := hfold
    have h := matchFrom_complete [] hbody hpart hdrop (length_pos_iff.mpr hneedle)
    rwa [append_nil] at h

theorem scanFrom_sound (before) (hbody : body = before ++ text) (hneedle : needle ≠ [])
    (h : scanFrom body needle (byteLen before) text = some range) :
    ∃ skipped part after, text = skipped ++ (part ++ after) ∧ part ≠ [] ∧
      foldSearchText part = needle ∧
      range = ⟨byteLen (before ++ skipped), byteLen (before ++ skipped ++ part)⟩ ∧
      ∀ k < skipped.length, ¬ Occurs needle (text.drop k) := by
  induction text generalizing before with
  | nil => cases h
  | cons ch rest ih =>
    unfold scanFrom at h
    cases hmatch : matchFrom body needle (byteLen before) 0 (byteLen before) (ch :: rest) with
    | some found =>
      rw [hmatch, Option.some_or] at h
      cases h
      obtain ⟨part, ⟨after, hpost⟩, hne, hfold, rfl⟩ := matchFrom_sound hmatch
      refine ⟨[], part, after, hpost.symm, hne, hfold, ?_, nofun⟩
      rw [append_nil, byteLen_append]
    | none =>
      rw [hmatch, Option.none_or] at h
      have hnone : ¬ Occurs needle (ch :: rest) := by
        rw [← matchFrom_isSome hbody hneedle, hmatch]
        nofun
      have hstep : byteLen before + ch.utf8Size = byteLen (before ++ [ch]) := by
        rw [byteLen_append]
        simp [byteLen]
      rw [hstep] at h
      obtain ⟨skipped, part, after, rfl, hne, hfold, rfl, hskip⟩ := ih _ (by simp [hbody]) h
      refine ⟨ch :: skipped, part, after, rfl, hne, hfold, by simp, fun k hk => ?_⟩
      cases k with
      | zero => exact hnone
      | succ => exact hskip _ (Nat.lt_of_succ_lt_succ hk)

theorem scanFrom_complete (before) (hbody : body = before ++ text)
    (hneedle : needle ≠ []) {k : ℕ} (hk : Occurs needle (text.drop k)) :
    (scanFrom body needle (byteLen before) text).isSome := by
  induction text generalizing before k with
  | nil =>
    obtain ⟨part, hpart, hfold⟩ := hk
    rw [drop_nil, prefix_nil] at hpart
    exact absurd (hfold.symm.trans (congrArg foldSearchText hpart)) hneedle
  | cons ch rest ih =>
    unfold scanFrom
    rw [Option.isSome_or, Bool.or_eq_true, matchFrom_isSome hbody hneedle]
    cases k with
    | zero => exact .inl hk
    | succ k =>
      have hstep : byteLen before + ch.utf8Size = byteLen (before ++ [ch]) := by
        rw [byteLen_append]
        simp [byteLen]
      rw [hstep]
      exact .inr (ih _ (by simp [hbody]) hk)

/-- A highlight begins and ends between characters of the body, folds to the folded term and is
leftmost; and there is one when a part of the body folds to the folded term. -/
theorem findTermRange_leftmost (body term : List Char) :
    (∀ range, findTermRange body term = some range →
      isCharBoundary body range.start = true ∧ isCharBoundary body range.stop = true ∧
      range.start < range.stop ∧ range.stop ≤ byteLen body ∧
      ∃ before part after, body = before ++ (part ++ after) ∧
        range = ⟨byteLen before, byteLen (before ++ part)⟩ ∧
        foldSearchText part = foldSearchText term ∧
        ∀ k < before.length, ¬ Occurs (foldSearchText term) (body.drop k)) ∧
    ∀ part, part <:+: body → foldSearchText part = foldSearchText term →
      foldSearchText term ≠ [] → (findTermRange body term).isSome := by
  constructor
  · intro range h
    unfold findTermRange at h
    split_ifs at h with hempty hneedle
    obtain ⟨before, part, after, rfl, hne, hfold, rfl, hleft⟩ :=
      scanFrom_sound [] rfl (by simpa using hneedle) h
    have hpos := byteLen_pos hne
    refine ⟨isCharBoundary_byteLen ⟨_, rfl⟩, isCharBoundary_byteLen ⟨after, by simp⟩, ?_, ?_,
      before, part, after, rfl, rfl, hfold, hleft⟩
    · simp only [nil_append, byteLen_append]
      omega
    · simp only [nil_append, byteLen_append]
      omega
  · rintro part ⟨before, after, rfl⟩ hfold hneedle
    have hterm : term ≠ [] := by
      rintro rfl
      exact hneedle rfl
    have hpart : part ≠ [] := by
      rintro rfl
      exact hneedle hfold.symm
    unfold findTermRange
    rw [if_neg (by simp [hterm, hpart]), if_neg (by simpa using hneedle)]
    have hoccurs : Occurs (foldSearchText term) ((before ++ part ++ after).drop before.length) :=
      ⟨part, ⟨after, by simp⟩, hfold⟩
    exact scanFrom_complete [] rfl hneedle hoccurs

end Leftmost

end DevManager.Prompts
