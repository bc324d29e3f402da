import Mathlib.Algebra.Order.BigOperators.Group.List
import Mathlib.Algebra.Order.Group.Nat
import Mathlib.Algebra.Ring.Nat
import Mathlib.Data.List.Sort
import Mathlib.Data.String.Basic

/-!
# JSON documents

A JSON document as a tree. `Compact write` says how long the text of a document is when it is
written without blanks: what a bound on the size of a text rests on, whichever writer is used.

* `Compact.posInt_le`, `Compact.array_le`: numbers of so many digits, and arrays of small items.
* `compact_writeJson`: a writer that is compact.
* `insertField`: the fields of an object as an ordered map; `insertField_perm`,
  `ordered_insertField` and `insertField_last` say what an insertion does.
* `Within`: one document inside another.
-/

namespace DevManager

open List

/-- A number: an integer that is not negative, one below zero (`-1 - n`), or a float by its bits. -/
inductive JsonNumber
  | posInt (n : ℕ)
  | negInt (n : ℕ)
  | float (bits : BitVec 64)

inductive JsonValue
  | null
  | bool (value : Bool)
  | number (number : JsonNumber)
  | string (text : String)
  | array (items : List JsonValue)
  | object (fields : List (String × JsonValue))

namespace JsonValue

/-- A text that is written as it is: printable ASCII without quotes and backslashes. -/
def Plain (text : String) : Prop :=
  ∀ c ∈ text.toList, 0x20 ≤ c.toNat ∧ c.toNat < 0x7f ∧ c ≠ '"' ∧ c ≠ '\\'

instance (text : String) : Decidable (Plain text) := List.decidableBAll _ text.toList

/-- The length of the text of a document, without blanks. -/
structure Compact (write : JsonValue → List UInt8) : Prop where
  null : (write .null).length = 4
  bool : ∀ value, (write (.bool value)).length = if value then 4 else 5
  posInt : ∀ n, (write (.number (.posInt n))).length = (Nat.toDigits 10 n).length
  string : ∀ text, Plain text → (write (.string text)).length = text.length + 2
  array : ∀ items, (write (.array items)).length =
    2 + (items.map fun item => (write item).length).sum + (items.length - 1)
  object : ∀ fields, (∀ name ∈ fields.map Prod.fst, Plain name) → (write (.object fields)).length =
    2 + (fields.map fun field => field.1.length + 3 + (write field.2).length).sum +
      (fields.length - 1)

section Compact

variable {write : JsonValue → List UInt8} {items : List JsonValue} {n digits size : ℕ}

theorem Compact.posInt_le (h : Compact write) (hdigits : 0 < digits) (hn : n < 10 ^ digits) :
    (write (.number (.posInt n))).length ≤ digits := by
  rw [h.posInt, Nat.length_toDigits_le_iff (by decide) hdigits]
  exact hn

/-- An array of items of at most one size. -/
theorem Compact.array_le (h : Compact write) (hitems : ∀ item ∈ items, (write item).length ≤ size) :
    (write (.array items)).length ≤ 2 + items.length * size + (items.length - 1) := by
  have hsum : ∀ rest : List JsonValue, (∀ item ∈ rest, (write item).length ≤ size) →
      (rest.map fun item => (write item).length).sum ≤ rest.length * size := by
    intro rest hrest
    induction rest with
    | nil => simp
    | cons item rest ih =>
      rw [forall_mem_cons] at hrest
      have htail := ih hrest.2
      rw [map_cons, sum_cons, length_cons, Nat.succ_mul]
      omega
  have hbound := hsum items hitems
  rw [h.array]
  omega

end Compact

/-! ## A writer -/

def ascii (text : List Char) : List UInt8 := text.map fun c => UInt8.ofNat c.toNat

def commas : List (List UInt8) → List UInt8
  | [] => []
  | [part] => part
  | part :: parts => part ++ 44 :: commas parts

mutual

def writeJson : JsonValue → List UInt8
  | .null => ascii "null".toList
  | .bool value => ascii (if value then "true" else "false").toList
  | .number (.posInt n) => ascii (Nat.toDigits 10 n)
  | .number (.negInt n) => 45 :: ascii (Nat.toDigits 10 (n + 1))
  | .number (.float _) => []
  | .string text => 34 :: ascii text.toList ++ [34]
  | .array items => 91 :: commas (writeItems items) ++ [93]
  | .object fields => 123 :: commas (writeFields fields) ++ [125]

def writeItems : List JsonValue → List (List UInt8)
  | [] => []
  | item :: items => writeJson item :: writeItems items

def writeFields : List (String × JsonValue) → List (List UInt8)
  | [] => []
  | (name, value) :: fields =>
    (34 :: ascii name.toList ++ 34 :: 58 :: writeJson value) :: writeFields fields

end

theorem length_commas (parts) :
    (commas parts).length = (parts.map List.length).sum + (parts.length - 1) := by
  induction parts with
  | nil => rfl
  | cons part parts ih =>
    cases parts with
    | nil => simp [commas]
    | cons next parts =>
      rw [commas, length_append, length_cons, ih, map_cons, sum_cons]
      · simp only [length_cons, map_cons, sum_cons]
        omega
      · simp

theorem writeItems_eq (items) : writeItems items = items.map writeJson := by
  induction items with
  | nil => rfl
  | cons item items ih => rw [writeItems, ih, map_cons]

variable (fields : List (String × JsonValue))

theorem writeFields_eq : writeFields fields =
    fields.map fun field => 34 :: ascii field.1.toList ++ 34 :: 58 :: writeJson field.2 := by
  induction fields with
  | nil => rfl
  | cons field fields ih => rw [writeFields, ih, map_cons]

theorem compact_writeJson : Compact writeJson where
  null := by simp [writeJson, ascii]
  bool value := by cases value <;> simp [writeJson, ascii]
  posInt n := by simp [writeJson, ascii]
  string text _ := by
    rw [writeJson, ← String.length_toList]
    simp [ascii]
  array items := by
    rw [writeJson, writeItems_eq, length_append, length_cons, length_commas]
    simp [Function.comp_def]
    omega
  object fields _ := by
    have hfield : ∀ field : String × JsonValue,
        (34 :: ascii field.1.toList ++ 34 :: 58 :: writeJson field.2).length =
          field.1.length + 3 + (writeJson field.2).length := by
      intro field
      rw [← String.length_toList]
      simp only [ascii, length_append, length_cons, length_map]
      omega
    rw [writeJson, writeFields_eq, length_append, length_cons, length_commas, map_map, length_map]
    simp only [Function.comp_def, hfield, length_cons, length_nil]
    omega

/-! ## Objects as ordered maps -/

/-- `a` is not after `b`, by name. -/
def ByName (a b : String × JsonValue) : Prop := a.1 ≤ b.1

instance : DecidableRel ByName := fun a b => inferInstanceAs (Decidable (a.1 ≤ b.1))

/-- The fields of an ordered map: every name once, in order. -/
def Ordered : Prop :=
  fields.Pairwise fun a b => a.1 < b.1

/-- `map.insert(name, value)`, where the map does not have the name. -/
def insertField (name : String) (value : JsonValue) (fields : List (String × JsonValue)) :
    List (String × JsonValue) :=
  fields.orderedInsert ByName (name, value)

/-- Only the names count. -/
theorem ordered_iff {fields} :
    Ordered fields ↔ (fields.map Prod.fst).Pairwise (· < ·) :=
  pairwise_map.symm

section Ordered

variable {name : String} {value : JsonValue} {fields : List (String × JsonValue)}

theorem insertField_perm (name : String) (value) (fields) :
    (insertField name value fields).Perm ((name, value) :: fields) :=
  perm_orderedInsert _ _ _

theorem ordered_insertField (h : Ordered fields) (hname : name ∉ fields.map Prod.fst) :
    Ordered (insertField name value fields) := by
  induction fields with
  | nil => exact pairwise_singleton _ _
  | cons field fields ih =>
    rw [map_cons, mem_cons, not_or] at hname
    obtain ⟨hfst, hrest⟩ := pairwise_cons.mp h
    unfold insertField
    by_cases hle : ByName (name, value) field
    · rw [orderedInsert_cons_of_le _ _ hle]
      have hlt : name < field.1 := lt_of_le_of_ne hle hname.1
      refine pairwise_cons.mpr ⟨?_, h⟩
      intro other hother
      rcases mem_cons.mp hother with rfl | hother
      · exact hlt
      · exact hlt.trans (hfst other hother)
    · rw [orderedInsert_of_not_le _ _ hle]
      have hlt : field.1 < name := lt_of_not_ge hle
      refine pairwise_cons.mpr ⟨?_, ih hrest hname.2⟩
      intro other hother
      rcases mem_cons.mp ((insertField_perm name value fields).mem_iff.mp hother) with
        rfl | hother
      · exact hlt
      · exact hfst other hother

/-- A name after all others goes to the end. -/
theorem insertField_last (h : ∀ field ∈ fields, field.1 < name) :
    insertField name value fields = fields ++ [(name, value)] := by
  induction fields with
  | nil => rfl
  | cons field fields ih =>
    rw [forall_mem_cons] at h
    have hle : ¬ ByName (name, value) field := not_le.mpr h.1
    have hrest := ih h.2
    unfold insertField at hrest ⊢
    rw [orderedInsert_of_not_le _ _ hle, hrest, cons_append]

end Ordered

/-- A document inside another, at any depth. -/
inductive Within : JsonValue → JsonValue → Prop
  | refl (value : JsonValue) : Within value value
  | item {inner item : JsonValue} {items : List JsonValue} (hmem : item ∈ items)
      (h : Within inner item) : Within inner (.array items)
  | field {inner : JsonValue} {field : String × JsonValue} {fields : List (String × JsonValue)}
      (hmem : field ∈ fields) (h : Within inner field.2) : Within inner (.object fields)

end JsonValue

/-! ## Numbers -/

/-- `Number::from` an `i64`. -/
def JsonNumber.ofInt : ℤ → JsonNumber
  | .ofNat n => .posInt n
  | .negSucc n => .negInt n

/-- An `f64`, by its bits: sign, eleven bits of exponent, 52 of mantissa. -/
structure F64 where
  bits : BitVec 64

namespace F64

variable (x : F64)

def negative : Bool := x.bits.msb
def exponent : ℕ := (x.bits.extractLsb' 52 11).toNat
def mantissa : ℕ := (x.bits.extractLsb' 0 52).toNat

/-- `x.is_finite()`. -/
def isFinite : Bool := x.exponent ≠ 2047

/-- A finite `x` is `±significand · 2 ^ (power - 1075)`. -/
def significand : ℕ := if x.exponent = 0 then x.mantissa else x.mantissa + 2 ^ 52

def power : ℕ := max x.exponent 1

/-- `x.fract() == 0.0`, of a finite `x`. -/
def isIntegral : Bool :=
  1075 ≤ x.power || x.significand % 2 ^ (1075 - x.power) = 0

/-- The integral part of a finite `x`, without its sign. -/
def magnitude : ℕ :=
  if 1075 ≤ x.power then x.significand * 2 ^ (x.power - 1075)
  else x.significand / 2 ^ (1075 - x.power)

/-- The integral part of a finite `x`. -/
def toInt : ℤ := if x.negative then -x.magnitude else x.magnitude

end F64

end DevManager
