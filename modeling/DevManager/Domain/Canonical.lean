import Mathlib.Data.List.DropRight
import Mathlib.Tactic

/-!
# Canonical text (`src/domain/canonical.rs`)

Rust's `str::trim` removes characters of Unicode property `White_Space` at both
ends; Lean's own `String.trim` only knows the ASCII ones, so `trim` is defined
here. `len()` is `String.utf8ByteSize` and `chars().count()` is `String.length`.

The facts used later are `trim_trim` (trimming twice is trimming once) and what
follows from it: a value that `canonicalize` or `bounded_canonical` returned
passes `is_canonical` or `is_bounded_canonical`.
-/

namespace DevManager

/-- `char::is_whitespace`: the Unicode property `White_Space`. -/
def isWhitespace (c : Char) : Bool :=
  (0x09 ≤ c.toNat && c.toNat ≤ 0x0d) || c.toNat == 0x20 || c.toNat == 0x85 || c.toNat == 0xa0 ||
    c.toNat == 0x1680 || (0x2000 ≤ c.toNat && c.toNat ≤ 0x200a) || c.toNat == 0x2028 ||
    c.toNat == 0x2029 || c.toNat == 0x202f || c.toNat == 0x205f || c.toNat == 0x3000

/-- `char::is_control`: the Unicode category `Cc`. -/
def isControl (c : Char) : Bool := c.toNat ≤ 0x1f || (0x7f ≤ c.toNat && c.toNat ≤ 0x9f)

/-- A text with its leading and trailing whitespace removed. -/
def trimChars (cs : List Char) : List Char :=
  (cs.dropWhile isWhitespace).rdropWhile isWhitespace

/-- `str::trim`. -/
def trim (s : String) : String := String.ofList (trimChars s.toList)

/-- `MAX_SPECIALIST_TEXT_BYTES`, L8 -/
def maxSpecialistTextBytes : ℕ := 256

/-- `MAX_SPECIALIST_ID_REFS`, L11 -/
def maxSpecialistIdRefs : ℕ := 16

namespace Canonical

variable (value : String)

/-- `canonicalize`, L14-21 -/
def canonicalize : Option String :=
  let trimmed := trim value
  if trimmed = "" then none else some trimmed

/-- `is_canonical`, L24-26 -/
def isCanonical : Bool := value ≠ "" && value = trim value

/-- `bounded_canonical`, L30-37 -/
def boundedCanonical : Option String :=
  let trimmed := trim value
  if trimmed = "" ∨ trimmed.utf8ByteSize > maxSpecialistTextBytes then none else some trimmed

/-- `is_bounded_canonical`, L39-41 -/
def isBoundedCanonical : Bool :=
  isCanonical value && value.utf8ByteSize ≤ maxSpecialistTextBytes

/-- `specialist_id_refs_ok`, L50-52 -/
def specialistIdRefsOk (count : ℕ) : Bool := count ≤ maxSpecialistIdRefs

end Canonical

/-! ## Trimming twice -/

theorem dropWhile_trimChars (cs) :
    (trimChars cs).dropWhile isWhitespace = trimChars cs := by
  rw [List.dropWhile_eq_self_iff]
  intro hl
  obtain ⟨t, ht⟩ := List.rdropWhile_prefix isWhitespace (cs.dropWhile isWhitespace)
  have hpos : 0 < (cs.dropWhile isWhitespace).length := by
    rw [← ht, List.length_append]
    unfold trimChars at hl
    omega
  have hhead : (trimChars cs).get ⟨0, hl⟩ = (cs.dropWhile isWhitespace).get ⟨0, hpos⟩ := by
    simp only [List.get_eq_getElem]
    rw [List.getElem_of_eq ht.symm, List.getElem_append_left]
    rfl
  have hnot := List.dropWhile_get_zero_not isWhitespace cs hpos
  rw [← hhead] at hnot
  exact hnot

theorem trimChars_trimChars (cs) : trimChars (trimChars cs) = trimChars cs := by
  calc trimChars (trimChars cs)
      = (trimChars cs).rdropWhile isWhitespace := by rw [trimChars, dropWhile_trimChars]
    _ = trimChars cs := List.rdropWhile_idempotent _ _

@[simp] theorem trim_trim (s : String) : trim (trim s) = trim s := by
  unfold trim
  rw [String.toList_ofList, trimChars_trimChars]

namespace Canonical

variable {s : String}

theorem isCanonical_trim (h : trim s ≠ "") : isCanonical (trim s) = true := by
  simp [isCanonical, h]

theorem canonicalize_trim (h : trim s ≠ "") : canonicalize (trim s) = some (trim s) := by
  simp [canonicalize, h]

theorem canonicalize_eq_some {t} : canonicalize s = some t ↔ trim s ≠ "" ∧ t = trim s := by
  unfold canonicalize
  simp only
  split_ifs with h <;> simp [h, eq_comm]

theorem canonicalize_eq_self : canonicalize s = some s ↔ isCanonical s = true := by
  rw [canonicalize_eq_some]
  simp only [isCanonical, Bool.and_eq_true, decide_eq_true_eq]
  constructor
  · rintro ⟨hne, hself⟩
    exact ⟨hself ▸ hne, hself⟩
  · rintro ⟨hne, hself⟩
    exact ⟨hself ▸ hne, hself⟩

theorem boundedCanonical_eq_some {t} :
    boundedCanonical s = some t ↔
      trim s ≠ "" ∧ (trim s).utf8ByteSize ≤ maxSpecialistTextBytes ∧ t = trim s := by
  unfold boundedCanonical
  simp only
  split_ifs with h
  · simp only [ne_eq, false_iff, not_and]
    rcases h with h | h
    · exact fun h' => absurd h h'
    · intro _ h'
      omega
  · push Not at h
    simp [h, eq_comm]

theorem isBoundedCanonical_of_boundedCanonical {t} (h : boundedCanonical s = some t) :
    isBoundedCanonical t = true := by
  obtain ⟨h1, h2, rfl⟩ := boundedCanonical_eq_some.mp h
  simp [isBoundedCanonical, isCanonical_trim h1, h2]

end Canonical

end DevManager
