/-!
# JSON values

The values that migration files are read into and written from. Members of an object keep their
order and may repeat a key, because both can matter to the reader of a file. Integers and floats
are kept apart: a literal without fraction and exponent is an integer when it fits 64 bits.

## Main definitions

* `Json`: a JSON value.
* `Json.Fault`: why a text is not a value of the wanted shape.
-/

namespace SchemaDdl

/-- A JSON value. -/
inductive Json where
  /-- The literal `null`. -/
  | null
  /-- The literals `true` and `false`. -/
  | bool (b : Bool)
  /-- An integer literal of at most 64 bits. -/
  | int (n : Int)
  /-- Any other number. -/
  | float (x : Float)
  /-- A string. -/
  | string (s : String)
  /-- An array. -/
  | array (items : List Json)
  /-- An object, with its members in order. -/
  | object (members : List (String × Json))
  /-- A part that is well formed but has no value: a number beyond the range of floats, a string
  with an unpaired surrogate, or an object with such a key. It can be skipped and not read. -/
  | unreadable

/-- Why a text is not a JSON value of the wanted shape. -/
inductive Json.Fault where
  /-- The text ends before the value is complete. -/
  | truncated
  /-- The text is not one JSON value. -/
  | malformed
  /-- The value has the wrong shape. -/
  | mismatch
  deriving DecidableEq, Repr

end SchemaDdl
