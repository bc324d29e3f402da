import DevManager.Lib.Bytes

/-!
# The grammar of MessagePack

A value starts with a byte that says what follows: so many bytes, a text, an extension, or so many
values. Where the first byte leaves no room for a length, the length follows it as a big-endian
number. A document is the tree of what was written, with the form of every length, since a length
can be written in more than one form; the keys and the values of a map stand in turn in one list.

* `format`: the table of first bytes.
* `Doc.bytes`, `Doc.WellFormed`: how a document is written, and when that is by the table.
* `Doc.nodes`, `Doc.depth`, `Doc.Within`: what a bound can be put on.
-/

namespace DevManager.MsgPack

/-- Where a length stands: in the first byte, or in the `width` bytes after it. -/
inductive Length
  | inMarker (n : ℕ)
  | next (width : ℕ)
deriving DecidableEq

/-- The length can be written so. -/
def Length.Holds : Length → ℕ → Prop
  | .inMarker n, length => length = n
  | .next width, length => length < 256 ^ width

/-- The bytes of the length after the first byte. -/
def Length.bytes : Length → ℕ → List UInt8
  | .inMarker _, _ => []
  | .next width, length => beBytes width length

/-- What follows the first byte of a value. -/
inductive Format
  | scalar (length : ℕ)
  | text (length : Length)
  | extension (length : Length)
  | array (length : Length)
  | map (length : Length)
  | reserved
deriving DecidableEq

/-- The format of the value that a byte starts. -/
def format (byte : UInt8) : Format :=
  let n := byte.toNat
  if n < 0x80 then .scalar 0
  else if n < 0x90 then .map (.inMarker (n - 0x80))
  else if n < 0xa0 then .array (.inMarker (n - 0x90))
  else if n < 0xc0 then .text (.inMarker (n - 0xa0))
  else match n with
    | 0xc1 => .reserved
    -- binary and strings
    | 0xc4 | 0xd9 => .text (.next 1)
    | 0xc5 | 0xda => .text (.next 2)
    | 0xc6 | 0xdb => .text (.next 4)
    | 0xc7 => .extension (.next 1)
    | 0xc8 => .extension (.next 2)
    | 0xc9 => .extension (.next 4)
    | 0xd4 => .extension (.inMarker 1)
    | 0xd5 => .extension (.inMarker 2)
    | 0xd6 => .extension (.inMarker 4)
    | 0xd7 => .extension (.inMarker 8)
    | 0xd8 => .extension (.inMarker 16)
    -- floats and integers
    | 0xcc | 0xd0 => .scalar 1
    | 0xcd | 0xd1 => .scalar 2
    | 0xca | 0xce | 0xd2 => .scalar 4
    | 0xcb | 0xcf | 0xd3 => .scalar 8
    | 0xdc => .array (.next 2)
    | 0xdd => .array (.next 4)
    | 0xde => .map (.next 2)
    | 0xdf => .map (.next 4)
    -- nil, the booleans and the negative fixints
    | _ => .scalar 0

/-- A document as it was written. -/
inductive Doc
  | scalar (marker : UInt8) (data : List UInt8)
  | text (marker : UInt8) (length : Length) (data : List UInt8)
  | extension (marker : UInt8) (length : Length) (type : UInt8) (data : List UInt8)
  | array (marker : UInt8) (length : Length) (items : List Doc)
  | map (marker : UInt8) (length : Length) (entries : ℕ) (items : List Doc)

mutual

/-- The bytes of a document. -/
def Doc.bytes : Doc → List UInt8
  | .scalar marker data => marker :: data
  | .text marker length data => marker :: (length.bytes data.length ++ data)
  | .extension marker length type data => marker :: (length.bytes data.length ++ type :: data)
  | .array marker length items => marker :: (length.bytes items.length ++ bytesAll items)
  | .map marker length entries items => marker :: (length.bytes entries ++ bytesAll items)

/-- The bytes of documents one after another. -/
def bytesAll : List Doc → List UInt8
  | [] => []
  | doc :: docs => doc.bytes ++ bytesAll docs

end

mutual

/-- Every part of the document is written by the table. -/
def Doc.WellFormed : Doc → Prop
  | .scalar marker data => format marker = .scalar data.length
  | .text marker length data => format marker = .text length ∧ length.Holds data.length
  | .extension marker length _ data => format marker = .extension length ∧ length.Holds data.length
  | .array marker length items =>
    format marker = .array length ∧ length.Holds items.length ∧ AllWellFormed items
  | .map marker length entries items => format marker = .map length ∧ length.Holds entries ∧
    items.length = 2 * entries ∧ AllWellFormed items

def AllWellFormed : List Doc → Prop
  | [] => True
  | doc :: docs => doc.WellFormed ∧ AllWellFormed docs

end

mutual

/-- The values of the document, containers and map keys included. -/
def Doc.nodes : Doc → ℕ
  | .scalar .. | .text .. | .extension .. => 1
  | .array _ _ items => nodesAll items + 1
  | .map _ _ _ items => nodesAll items + 1

def nodesAll : List Doc → ℕ
  | [] => 0
  | doc :: docs => doc.nodes + nodesAll docs

end

mutual

/-- How deep the containers of the document are nested. -/
def Doc.depth : Doc → ℕ
  | .scalar .. | .text .. | .extension .. => 0
  | .array _ _ items => depthAll items + 1
  | .map _ _ _ items => depthAll items + 1

def depthAll : List Doc → ℕ
  | [] => 0
  | doc :: docs => max doc.depth (depthAll docs)

end

mutual

/-- No container has more than `entries` entries, no text or extension more than `size` bytes. -/
def Doc.Within (entries size : ℕ) : Doc → Prop
  | .scalar .. => True
  | .text _ _ data | .extension _ _ _ data => data.length ≤ size
  | .array _ _ items => items.length ≤ entries ∧ AllWithin entries size items
  | .map _ _ count items => count ≤ entries ∧ AllWithin entries size items

def AllWithin (entries size : ℕ) : List Doc → Prop
  | [] => True
  | doc :: docs => doc.Within entries size ∧ AllWithin entries size docs

end

end DevManager.MsgPack
