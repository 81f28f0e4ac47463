import SchemaDdl.Codec.Record
import SchemaDdl.Sql.Value

/-!
# SQL values in JSON

A value is written without a tag, so its shape has to tell its kind: an integer literal of 64 bits
is an integer, every other number a float, and an array of bytes a blob.

## Main definitions

* `Value.toJson`, `Value.ofJson?`
-/

namespace SchemaDdl

/-- A byte. -/
def byteOfJson? (j : Json) : Option UInt8 :=
  (natOfJson? UInt8.size j).map UInt8.ofNat

namespace Value

/-- A value in JSON. -/
def toJson : Value → Json
  | null => .null
  | bool b => .bool b
  | int n => .int n.toInt
  | float x => .float x
  | text s => .string s
  | blob bytes => .array (bytes.map fun b => .int b.toNat)

/-- The value of a JSON value. -/
def ofJson? : Json → Option Value
  | .null => some null
  | .bool b => some (bool b)
  | .int n =>
    match int64OfJson? (.int n) with
    | some i => some (int i)
    | none => (floatOfJson? (.int n)).map float
  | .float x => some (float x)
  | .string s => some (text s)
  | .array items => (items.mapM byteOfJson?).map blob
  | .object _ => none
  | .unreadable => none

end Value

end SchemaDdl
