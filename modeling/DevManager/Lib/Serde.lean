import DevManager.Lib.Json

/-!
# The calls between a format and a value

A deserializer shows a visitor what it reads, one call for each part, and a value tells a
serializer what it is made of. `Shown` and `Told` are the trees of these calls; `Told.shown` is what
a format shows of what it was told when it keeps everything but the width and the sign of numbers.

* `Depicts`: the JSON document that shows what was shown, with every member of a map once.
-/

namespace DevManager

/-- What a deserializer shows to a visitor. -/
inductive Shown
  | unit
  | none
  | some (inner : Shown)
  | newtypeStruct
  | bool (value : Bool)
  | i64 (value : ℤ)
  | u64 (value : ℕ)
  | i128
  | u128
  | f32 (bits : BitVec 32)
  | f64 (value : F64)
  | str (text : String)
  | bytes (value : List UInt8)
  | seq (hintent : Option ℕ) (items : List Shown)
  | map (hintent : Option ℕ) (entries : List (Shown × Shown))

/-- What a value tells a serializer. -/
inductive Told
  | unit
  | bool (value : Bool)
  | i64 (value : ℤ)
  | u64 (value : ℕ)
  | f64 (value : F64)
  | str (text : String)
  | bytes (value : List UInt8)
  | seq (items : List Told)
  | map (entries : List (String × Told))

namespace Told

mutual

/-- What is shown of what was told, in a format that writes every integer by its value, and how many
items follow. -/
def shown : Told → Shown
  | .unit => .unit
  | .bool value => .bool value
  | .i64 value => if 0 ≤ value then .u64 value.toNat else .i64 value
  | .u64 value => .u64 value
  | .f64 value => .f64 value
  | .str text => .str text
  | .bytes value => .bytes value
  | .seq items => .seq (some items.length) (shownItems items)
  | .map entries => .map (some entries.length) (shownEntries entries)

def shownItems : List Told → List Shown
  | [] => []
  | item :: items => item.shown :: shownItems items

def shownEntries : List (String × Told) → List (Shown × Shown)
  | [] => []
  | (name, value) :: entries => (.str name, value.shown) :: shownEntries entries

end

end Told

namespace JsonValue

/-- The array of bytes. -/
def ofBytes (bytes : List UInt8) : JsonValue :=
  .array (bytes.map fun byte => .number (.posInt byte.toNat))

/-- The number of a float: an integer where it has no fraction. -/
def ofFloat (x : F64) : JsonValue :=
  .number (if x.isIntegral then .ofInt x.toInt else .float x.bits)

section Depicts

variable (widen : BitVec 32 → F64)

mutual

/-- The document shows what was shown. The members of a map are taken out of the object one by one,
and none is left. -/
def Depicts : Shown → JsonValue → Prop
  | .unit, value | .none, value => value = .null
  | .some inner, value => Depicts inner value
  | .newtypeStruct, _ | .i128, _ | .u128, _ => False
  | .bool b, value => value = .bool b
  | .i64 n, value => value = .number (.ofInt n)
  | .u64 n, value => value = .number (.posInt n)
  | .f32 bits, value => value = ofFloat (widen bits)
  | .f64 x, value => value = ofFloat x
  | .str text, value => value = .string text
  | .bytes bytes, value => value = ofBytes bytes
  | .seq _ items, value => ∃ values, value = .array values ∧ DepictsItems items values
  | .map _ entries, value =>
    ∃ fields, value = .object fields ∧ Ordered fields ∧ DepictsMembers entries fields

def DepictsItems : List Shown → List JsonValue → Prop
  | [], values => values = []
  | item :: items, values =>
    ∃ value rest, values = value :: rest ∧ Depicts item value ∧ DepictsItems items rest

def DepictsMembers : List (Shown × Shown) → List (String × JsonValue) → Prop
  | [], fields => fields = []
  | (key, shown) :: entries, fields => ∃ name value rest, key = .str name ∧ Depicts shown value ∧
      fields.Perm ((name, value) :: rest) ∧ DepictsMembers entries rest

end

end Depicts

end JsonValue

end DevManager
