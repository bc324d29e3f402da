import DevManager.Git.UnifiedDiff

/-!
# Quoted paths (`src/git/review.rs`)

Git writes a path with unusual bytes between quotes: `quotePath`, where `needs` says which bytes
are written as octal digits (that depends on `core.quotePath`). `unquoteIn` is `unquote` with its
index and its panics, in a build that checks the arithmetic of a byte or in one that does not.

* `unquoteIn_eq`: a build without the checks never panics, and reads what `unquote` does.
* `quoted_path_iff`: with the checks a quoted path is read iff no byte from 208 on is written as
  octal digits, since the last digit is added before its `'0'` is subtracted.
-/

namespace DevManager.Git

open List Option

/-! ## What Git writes -/

/-- The letter that stands for a byte after a backslash. -/
def escapeLetter (b : UInt8) : Option UInt8 :=
  if b = 7 then some 0x61 else if b = 8 then some 0x62 else if b = 9 then some 0x74
  else if b = 10 then some 0x6E else if b = 11 then some 0x76 else if b = 12 then some 0x66
  else if b = 13 then some 0x72 else if b = 0x22 ∨ b = 0x5C then some b else none

/-- One byte of a quoted path. -/
def quoteByte (needs : UInt8 → Bool) (b : UInt8) : List UInt8 :=
  match escapeLetter b with
  | some letter => [0x5C, letter]
  | none =>
    if needs b then [0x5C, 0x30 + b / 64, 0x30 + b / 8 % 8, 0x30 + b % 8] else [b]

def quotePath (needs : UInt8 → Bool) (path : List UInt8) : List UInt8 :=
  0x22 :: (path.flatMap (quoteByte needs) ++ [0x22])

/-! ## `unquote` with its index -/

/-- `octal * 8 + next - b'0'`; the sum of a build with checks panics beyond a byte. -/
def octalStep (checks : Bool) (octal next : UInt8) : Option UInt8 :=
  if checks ∧ 255 < octal.toNat * 8 + next.toNat then none else some (octal * 8 + next - 0x30)

/-- The digits after the first, and the index of the last of them (L411-416). -/
def octalAt (checks : Bool) (encoded : List UInt8) : ℕ → UInt8 → ℕ → Option (UInt8 × ℕ)
  | 0, octal, index => some (octal, index)
  | n + 1, octal, index =>
    match encoded[index + 1]? with
    | some next =>
      if isOctal next then
        (octalStep checks octal next).bind fun octal => octalAt checks encoded n octal (index + 1)
      else octalAt checks encoded n octal index
    | none => octalAt checks encoded n octal index

/-- The loop (L390-422): an index out of range is a panic, as is a loop that does not end. -/
def unquoteAt (checks : Bool) (encoded : List UInt8) : ℕ → ℕ → Option (List UInt8)
  | 0, index => if index + 1 < encoded.length then none else some []
  | fuel + 1, index =>
    if index + 1 < encoded.length then
      encoded[index]?.bind fun b =>
        if b ≠ 0x5C then (unquoteAt checks encoded fuel (index + 1)).map (b :: ·)
        else
          match encoded[index + 1]? with
          | none => some []
          | some escaped =>
            if isOctal escaped then
              (octalAt checks encoded 2 (escaped - 0x30) (index + 1)).bind fun e =>
                (unquoteAt checks encoded fuel (e.2 + 1)).map (e.1 :: ·)
            else (unquoteAt checks encoded fuel (index + 2)).map (escapedByte escaped :: ·)
    else some []

/-- `unquote`, L383-424 -/
def unquoteIn (checks : Bool) (value : List UInt8) : Option (List UInt8) :=
  if value.length < 2 ∨ value.head? ≠ some 0x22 ∨ value.getLast? ≠ some 0x22 then some value
  else unquoteAt checks value value.length 1

theorem octalAt_eq (encoded) (n : ℕ) :
    ∀ octal index, ∃ last, index ≤ last ∧
      octalAt false encoded n octal index =
        some ((octalDigits n octal (encoded.drop (index + 1))).1, last) ∧
      encoded.drop (last + 1) = (octalDigits n octal (encoded.drop (index + 1))).2 := by
  induction n with
  | zero => exact fun octal index => ⟨index, le_rfl, rfl, rfl⟩
  | succ n ih =>
    intro octal index
    unfold octalAt
    cases h : encoded[index + 1]? with
    | none =>
      obtain ⟨last, hle, hat, hdrop⟩ := ih octal index
      have hnil : encoded.drop (index + 1) = [] :=
        drop_eq_nil_of_le (getElem?_eq_none_iff.mp h)
      rw [hnil] at hat hdrop ⊢
      cases n <;> exact ⟨last, hle, hat, hdrop⟩
    | some next =>
      obtain ⟨hlt, rfl⟩ := List.getElem?_eq_some_iff.mp h
      rw [drop_eq_getElem_cons hlt, octalDigits]
      by_cases hoctal : isOctal encoded[index + 1] = true
      · obtain ⟨last, hle, hat, hdrop⟩ := ih (octal * 8 + encoded[index + 1] - 0x30) (index + 1)
        simp only [hoctal, if_true, octalStep, Bool.false_eq_true, false_and, if_false, bind_some]
        exact ⟨last, by omega, hat, hdrop⟩
      · obtain ⟨last, hle, hat, hdrop⟩ := ih octal index
        simp only [if_neg hoctal]
        have hstop : ∀ m, octalDigits m octal (encoded[index + 1] :: encoded.drop (index + 1 + 1)) =
            (octal, encoded[index + 1] :: encoded.drop (index + 1 + 1)) := by
          intro m
          cases m with
          | zero => rfl
          | succ m => rw [octalDigits, if_neg hoctal]
        rw [drop_eq_getElem_cons hlt, hstop] at hat hdrop
        exact ⟨last, hle, hat, hdrop⟩

theorem unquoteAt_eq (encoded) (fuel : ℕ) :
    ∀ index, encoded.length ≤ index + fuel →
      unquoteAt false encoded fuel index = some (unquoteLoop fuel (encoded.drop index)) := by
  induction fuel with
  | zero =>
    intro index hle
    rw [unquoteAt, if_neg (by omega), unquoteLoop]
    nofun
  | succ fuel ih =>
    intro index hle
    unfold unquoteAt
    by_cases hlt : index + 1 < encoded.length
    · have hhead : index < encoded.length := by omega
      rw [if_pos hlt, getElem?_eq_getElem hhead, getElem?_eq_getElem hlt,
        drop_eq_getElem_cons hhead, drop_eq_getElem_cons hlt, unquoteLoop]
      simp only [bind_some]
      by_cases hb : encoded[index] ≠ 0x5C
      · rw [if_pos hb, if_pos hb, ih _ (by omega), drop_eq_getElem_cons hlt]
        rfl
      · rw [if_neg hb, if_neg hb]
        by_cases hoctal : isOctal encoded[index + 1] = true
        · obtain ⟨last, hget, hat, hdrop⟩ :=
            octalAt_eq encoded 2 (encoded[index + 1] - 0x30) (index + 1)
          rw [if_pos hoctal, if_pos hoctal, hat, bind_some, ih _ (by omega), hdrop]
          rfl
        · rw [if_neg hoctal, if_neg hoctal, ih _ (by omega)]
          rfl
    · rw [if_neg hlt]
      have hshort : (encoded.drop index).length ≤ 1 := by
        rw [length_drop]
        omega
      rcases h : encoded.drop index with _ | ⟨b, _ | ⟨c, rest⟩⟩
      · rfl
      · rfl
      · rw [h] at hshort
        simp at hshort

theorem unquoteIn_eq (value) : unquoteIn false value = some (unquote value) := by
  unfold unquoteIn unquote
  split_ifs
  · rfl
  · rw [unquoteAt_eq value value.length 1 (by omega), drop_one]

theorem closingQuote_lt {value} :
    ∀ {escaped i}, closingQuote escaped value = some i → i < value.length := by
  induction value with
  | nil =>
    intro escaped i h
    cases escaped <;> cases h
  | cons b rest ih =>
    intro escaped i h
    have hstep : ∀ {e}, (closingQuote e rest).map (· + 1) = some i → i < rest.length + 1 := by
      intro e hnext
      obtain ⟨_, hrest, rfl⟩ := map_eq_some_iff.mp hnext
      exact Nat.succ_lt_succ (ih hrest)
    cases escaped <;> simp only [closingQuote] at h
    · split_ifs at h
      · exact hstep h
      · cases h
        exact Nat.succ_pos _
      · exact hstep h
    · exact hstep h

/-! ## Reading what Git writes -/

variable {needs : UInt8 → Bool} {b letter : UInt8}

theorem escapeLetter_read (h : escapeLetter b = some letter) :
    isOctal letter = false ∧ escapedByte letter = b ∧ b < 208 := by
  unfold escapeLetter at h
  split_ifs at h with _ _ _ _ _ _ _ hself
  all_goals
    cases h
  all_goals
    try subst_vars
    try decide
  rcases hself with rfl | rfl <;> decide

/-- The digits of a byte, and the sums of reading them. -/
theorem octal_read (b : UInt8) :
    (isOctal (0x30 + b / 64) ∧ isOctal (0x30 + b / 8 % 8) ∧ isOctal (0x30 + b % 8)) ∧
      ¬ 255 < (0x30 + b / 64 - 0x30).toNat * 8 + (0x30 + b / 8 % 8).toNat ∧
      (255 < ((0x30 + b / 64 - 0x30) * 8 + (0x30 + b / 8 % 8) - 0x30).toNat * 8 +
        (0x30 + b % 8).toNat ↔ 208 ≤ b) ∧
      ((0x30 + b / 64 - 0x30) * 8 + (0x30 + b / 8 % 8) - 0x30) * 8 + (0x30 + b % 8) - 0x30 = b := by
  have hlt : b.toNat < 256 := b.toNat_lt
  simp only [isOctal, Bool.and_eq_true, decide_eq_true_eq, UInt8.le_iff_toNat_le, ← UInt8.toNat_inj,
    UInt8.toNat_add, UInt8.toNat_sub, UInt8.toNat_mul, UInt8.toNat_div, UInt8.toNat_mod,
    UInt8.reduceToNat]
  omega

theorem escapeLetter_none (h : escapeLetter b = none) : b ≠ 0x22 ∧ b ≠ 0x5C := by
  constructor
  · rintro rfl
    cases h
  · rintro rfl
    cases h

/-- The octal digits of the byte do not fit in the arithmetic of a byte. -/
def Overflows (needs : UInt8 → Bool) (b : UInt8) : Prop := needs b = true ∧ 208 ≤ b

instance : Decidable (Overflows needs b) := inferInstanceAs (Decidable (_ ∧ _))

/-- One turn of the loop reads one byte of the path. -/
theorem unquoteAt_quoteByte (checks : Bool) (before rest) (hrest : rest ≠ []) (fuel : ℕ) :
    unquoteAt checks (before ++ (quoteByte needs b ++ rest)) (fuel + 1) before.length =
      if checks ∧ Overflows needs b then none
      else (unquoteAt checks (before ++ (quoteByte needs b ++ rest)) fuel
        (before.length + (quoteByte needs b).length)).map (b :: ·) := by
  have hpos := length_pos_iff.mpr hrest
  rw [unquoteAt]
  unfold quoteByte
  cases h : escapeLetter b with
  | some letter =>
    obtain ⟨hoctal, hread, hlt⟩ := escapeLetter_read h
    have hfits : ¬ (checks = true ∧ Overflows needs b) := fun ho =>
      absurd ho.2.2 (by simpa using hlt)
    rw [if_neg hfits]
    simp [hoctal, hread]
  | none =>
    obtain ⟨hquote, hslash⟩ := escapeLetter_none h
    by_cases hneeds : needs b = true
    · have hread := octal_read b
      simp only [Overflows, hneeds, true_and]
      generalize 0x30 + b / 64 = first, 0x30 + b / 8 % 8 = second, 0x30 + b % 8 = third at hread ⊢
      obtain ⟨⟨h1, h2, h3⟩, hfirst, hsecond, hvalue⟩ := hread
      simp only [← hsecond]
      by_cases hover : checks = true ∧
          255 < ((first - 0x30) * 8 + second - 0x30).toNat * 8 + third.toNat
      · simp [octalAt, octalStep, h1, h2, h3, hfirst, hover, add_assoc]
      · simp [octalAt, octalStep, h1, h2, h3, hfirst, hover, hvalue, add_assoc]
    · have hfits : ¬ (checks = true ∧ Overflows needs b) := fun ho => hneeds ho.2.1
      simp only [if_neg hneeds, if_neg hfits]
      simp [hslash, hpos]

theorem unquoteAt_quoted (checks : Bool) (path) :
    ∀ before fuel, path.length ≤ fuel →
      unquoteAt checks (before ++ (path.flatMap (quoteByte needs) ++ [0x22])) fuel before.length =
        if checks ∧ ∃ b ∈ path, Overflows needs b then none else some path := by
  induction path with
  | nil =>
    intro before fuel _
    cases fuel <;> simp [unquoteAt]
  | cons b path ih =>
    intro before fuel hle
    obtain ⟨fuel, rfl⟩ := Nat.exists_eq_add_of_lt (Nat.lt_of_lt_of_le (Nat.succ_pos _) hle)
    have hrest := ih (before ++ quoteByte needs b) fuel (by simpa using hle)
    rw [append_assoc, length_append] at hrest
    rw [flatMap_cons, append_assoc, Nat.zero_add,
      unquoteAt_quoteByte checks before _ (by simp), hrest]
    by_cases hb : checks = true ∧ Overflows needs b
    · simp [hb]
    · by_cases hp : checks = true ∧ ∃ b ∈ path, Overflows needs b
      · have hall : checks = true ∧ ∃ c ∈ b :: path, Overflows needs c :=
          ⟨hp.1, exists_mem_cons_of_exists hp.2⟩
        rw [if_neg hb, if_pos hp, if_pos hall]
        rfl
      · have hall : ¬ (checks = true ∧ ∃ c ∈ b :: path, Overflows needs c) := by
          rintro ⟨hc, c, hmem, ho⟩
          rcases mem_cons.mp hmem with rfl | hmem
          · exact hb ⟨hc, ho⟩
          · exact hp ⟨hc, c, hmem, ho⟩
        rw [if_neg hb, if_neg hp, if_neg hall]
        rfl

theorem closingQuote_quoteByte (b : UInt8) (rest) :
    closingQuote false (quoteByte needs b ++ rest) =
      (closingQuote false rest).map (· + (quoteByte needs b).length) := by
  obtain ⟨⟨-, h2, h3⟩, -⟩ := octal_read b
  have hdigit : ∀ d, isOctal d = true → d ≠ 0x5C ∧ d ≠ 0x22 := by
    intro d hd
    constructor
    · rintro rfl
      cases hd
    · rintro rfl
      cases hd
  unfold quoteByte
  cases h : escapeLetter b with
  | some letter => simp [closingQuote, Option.map_map, Function.comp_def]
  | none =>
    obtain ⟨hquote, hslash⟩ := escapeLetter_none h
    by_cases hneeds : needs b = true
    · simp [hneeds, closingQuote, hdigit _ h2, hdigit _ h3, Option.map_map, Function.comp_def]
    · simp [hneeds, closingQuote, hquote, hslash]

theorem takeQuotedPath_quotePath (path suffix) :
    takeQuotedPath (quotePath needs path ++ suffix) = some (quotePath needs path, suffix) := by
  have hclose : closingQuote false (path.flatMap (quoteByte needs) ++ 0x22 :: suffix) =
      some (path.flatMap (quoteByte needs)).length := by
    induction path with
    | nil => simp [closingQuote]
    | cons b path ih =>
      rw [flatMap_cons, append_assoc, closingQuote_quoteByte, ih, length_append,
        map_some, Nat.add_comm]
  have hwhole : quotePath needs path ++ suffix =
      0x22 :: (path.flatMap (quoteByte needs) ++ 0x22 :: suffix) := by
    simp [quotePath]
  have hlength : (path.flatMap (quoteByte needs)).length + 2 = (quotePath needs path).length := by
    simp [quotePath]
  unfold takeQuotedPath
  rw [hwhole, tail_cons, hclose, ← hwhole, map_some, hlength, take_left' rfl, drop_left' rfl]
  simp [quotePath]

theorem unquoteIn_quotePath (checks : Bool) (path) :
    unquoteIn checks (quotePath needs path) =
      if checks ∧ ∃ b ∈ path, Overflows needs b then none else some path := by
  have hnonempty : ∀ b, 0 < (quoteByte needs b).length := by
    intro b
    unfold quoteByte
    split
    · exact Nat.succ_pos _
    · split_ifs <;> exact Nat.succ_pos _
  have hle : path.length ≤ (path.flatMap (quoteByte needs)).length := by
    induction path with
    | nil => exact le_rfl
    | cons b path ih =>
      have := hnonempty b
      rw [flatMap_cons, length_append, length_cons]
      omega
  have hlast : (quotePath needs path).getLast? = some 0x22 := by
    rw [quotePath, ← cons_append, getLast?_concat]
  have hquoted : ¬ ((quotePath needs path).length < 2 ∨ (quotePath needs path).head? ≠ some 0x22 ∨
      (quotePath needs path).getLast? ≠ some 0x22) := by
    rw [hlast]
    simp [quotePath]
  rw [unquoteIn, if_neg hquoted]
  refine unquoteAt_quoted checks path [0x22] _ (hle.trans ?_)
  simp only [quotePath, length_cons, length_append]
  omega

/-- What Git writes of a path is taken from the front of a line and read as the path, iff it writes
no byte from 208 on as octal digits; and no read leaves the bytes that are given. -/
theorem quoted_path_iff (needs : UInt8 → Bool) (path suffix : List UInt8) :
    ((unquoteIn true (quotePath needs path) = some path ∧
        takeQuotedPath (quotePath needs path ++ suffix) = some (quotePath needs path, suffix)) ↔
      ∀ b ∈ path, needs b = true → b < 208) ∧
    ∀ value, unquoteIn false value = some (unquote value) ∧
      ∀ i, closingQuote false value.tail = some i → i + 1 < value.length := by
  refine ⟨?_, fun value => ⟨unquoteIn_eq value, fun i h => ?_⟩⟩
  · rw [unquoteIn_quotePath, and_iff_left (takeQuotedPath_quotePath path suffix)]
    simp only [true_and, Overflows, ite_eq_right_iff, reduceCtorEq, imp_false, not_exists, not_and,
      UInt8.not_le]
  · have hlt := closingQuote_lt h
    rw [length_tail] at hlt
    omega

/-- A path of one Cyrillic letter, as Git writes it by default. -/
theorem cyrillic_path_overflows :
    unquoteIn true (quotePath (fun b => 128 ≤ b) [0xD0, 0xB0]) = none ∧
      unquoteIn false (quotePath (fun b => 128 ≤ b) [0xD0, 0xB0]) = some [0xD0, 0xB0] := by
  decide

end DevManager.Git
