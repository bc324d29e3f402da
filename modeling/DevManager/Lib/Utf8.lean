import DevManager.Lib.Bytes

/-!
# Bytes as text, and text as a number

`String::from_utf8_lossy` puts one replacement character in the place of each longest prefix of
a sequence that breaks off; `str::parse::<u32>` reads the digits of a number that fits.

* `fromUtf8Lossy_ascii`: what is ASCII is read as itself.
* `parseU32_toDigits`: the digits of a number are read as that number iff it fits.
* `utf8_ne_ff`: no byte of a text is `0xff`.
-/

namespace DevManager

open List

/-! ## UTF-8 -/

/-- A continuation byte. -/
def isContinuation (b : UInt8) : Bool := 0x80 ≤ b && b ≤ 0xBF

/-- The second byte of a sequence may follow the first. -/
def mayFollow (first second : UInt8) : Bool :=
  if first = 0xE0 then 0xA0 ≤ second && second ≤ 0xBF
  else if first = 0xED then 0x80 ≤ second && second ≤ 0x9F
  else if first = 0xF0 then 0x90 ≤ second && second ≤ 0xBF
  else if first = 0xF4 then 0x80 ≤ second && second ≤ 0x8F
  else isContinuation second

/-- The number that the first byte of a sequence of `width` bytes and the others spell. -/
def codePoint (width : ℕ) (first : UInt8) (others : List UInt8) : ℕ :=
  others.foldl (fun n b => n * 64 + b.toNat % 64) (first.toNat % 2 ^ (7 - width))

/-- The character that starts with `first`, and the bytes after it. -/
def takeChar (first : UInt8) (rest : List UInt8) : Char × List UInt8 :=
  if first < 0x80 then (Char.ofNat first.toNat, rest)
  else match rest with
    | [] => ('\uFFFD', [])
    | b1 :: rest =>
      if ¬ (0xC2 ≤ first ∧ first ≤ 0xF4) ∨ mayFollow first b1 = false then ('\uFFFD', b1 :: rest)
      else if first ≤ 0xDF then (Char.ofNat (codePoint 2 first [b1]), rest)
      else match rest with
        | [] => ('\uFFFD', [])
        | b2 :: rest =>
          if isContinuation b2 = false then ('\uFFFD', b2 :: rest)
          else if first ≤ 0xEF then (Char.ofNat (codePoint 3 first [b1, b2]), rest)
          else match rest with
            | [] => ('\uFFFD', [])
            | b3 :: rest =>
              if isContinuation b3 = false then ('\uFFFD', b3 :: rest)
              else (Char.ofNat (codePoint 4 first [b1, b2, b3]), rest)

/-- The characters of the bytes, of which there are no more than the first number. -/
def lossyChars : ℕ → List UInt8 → List Char
  | 0, _ => []
  | _ + 1, [] => []
  | n + 1, first :: rest => (takeChar first rest).1 :: lossyChars n (takeChar first rest).2

/-- `String::from_utf8_lossy`. A character takes a byte at least. -/
def fromUtf8Lossy (bytes : List UInt8) : List Char := lossyChars bytes.length bytes

theorem fromUtf8Lossy_ascii (bytes) (h : ∀ b ∈ bytes, b < 0x80) :
    fromUtf8Lossy bytes = bytes.map fun b => Char.ofNat b.toNat := by
  unfold fromUtf8Lossy
  induction bytes with
  | nil => rfl
  | cons b bytes ih =>
    obtain ⟨hb, hrest⟩ := forall_mem_cons.mp h
    have htake : takeChar b bytes = (Char.ofNat b.toNat, bytes) := by
      unfold takeChar
      rw [if_pos hb]
    rw [length_cons, lossyChars, htake, map_cons]
    exact congrArg _ (ih hrest)

/-! ## Numbers -/

/-- `str::parse::<u32>`, or nothing for its errors: digits, after a plus sign if there is one. -/
def parseU32 (text : List Char) : Option ℕ :=
  let digits := if text.head? = some '+' then text.tail else text
  if digits = [] ∨ digits.all Char.isDigit = false then none
  else
    let n := Nat.ofDigitChars 10 digits 0
    if n < 2 ^ 32 then some n else none

theorem parseU32_toDigits (n : ℕ) :
    parseU32 (Nat.toDigits 10 n) = if n < 2 ^ 32 then some n else none := by
  have hdigit : (Nat.toDigits 10 n).all Char.isDigit = true := by
    rw [all_eq_true]
    exact fun c hc => Nat.isDigit_of_mem_toDigits (by decide) (by decide) hc
  have hplus : (Nat.toDigits 10 n).head? ≠ some '+' := by
    intro h
    have hmem := all_eq_true.mp hdigit '+' (mem_of_mem_head? h)
    exact absurd hmem (by decide)
  have hval : Nat.ofDigitChars 10 (Nat.toDigits 10 n) 0 = n := Nat.ofDigitChars_ten_toDigits
  simp only [parseU32, if_neg hplus, Nat.toDigits_ne_nil, hdigit, hval, false_or,
    Bool.true_eq_false, if_false]

/-! ## The bytes of a text -/

/-- The bytes of a text are those of its characters. -/
theorem utf8_eq_flatMap (text : String) :
    text.toUTF8.toList = text.toList.flatMap String.utf8EncodeChar := by
  rw [toList_eq_data]
  show text.toByteArray.data.toList = _
  rw [← String.utf8Encode_toList]
  unfold List.utf8Encode
  simp

theorem utf8EncodeChar_ne_ff (c : Char) : (0xff : UInt8) ∉ String.utf8EncodeChar c := by
  have hbyte : ∀ n < 0xff, (0xff : UInt8) ≠ UInt8.ofNat n := by
    intro n hn heq
    have htoNat := congrArg UInt8.toNat heq
    rw [UInt8.toNat_ofNat'] at htoNat
    have hff : (0xff : UInt8).toNat = 0xff := rfl
    omega
  intro hmem
  unfold String.utf8EncodeChar at hmem
  simp only at hmem
  -- one to four bytes, and none of them reaches 0xff
  split_ifs at hmem <;> simp only [mem_cons, not_mem_nil, or_false] at hmem
  · exact hbyte _ (by omega) hmem
  · rcases hmem with hmem | hmem <;> exact hbyte _ (by omega) hmem
  · rcases hmem with hmem | hmem | hmem <;> exact hbyte _ (by omega) hmem
  · rcases hmem with hmem | hmem | hmem | hmem <;> exact hbyte _ (by omega) hmem

/-- No byte of a text is `0xff`. -/
theorem utf8_ne_ff (text : String) : (0xff : UInt8) ∉ text.toUTF8.toList := by
  rw [utf8_eq_flatMap, mem_flatMap]
  rintro ⟨c, -, hc⟩
  exact utf8EncodeChar_ne_ff c hc

end DevManager
