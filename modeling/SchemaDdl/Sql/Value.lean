import SchemaDdl.Decimal.Layout

/-!
# SQL values

The values that a statement binds to its placeholders, and their spelling when they are written
into the text of a statement instead.

## Main definitions

* `Value`: a bound value.
* `doubled`, `quoteLiteral`: string literals.
* `Value.inline`: a value as SQL text.
-/

namespace SchemaDdl

/-- A value bound to a placeholder. -/
inductive Value where
  /-- The null value. -/
  | null
  /-- A truth value. -/
  | bool (b : Bool)
  /-- An integer of 64 bits. -/
  | int (n : Int64)
  /-- A float. -/
  | float (x : Float)
  /-- A text. -/
  | text (s : String)
  /-- A string of bytes. -/
  | blob (bytes : List UInt8)

/-! ### String literals -/

/-- The quote around string literals. -/
def literalQuote : Char := '\x27'

/-- The characters of a text with every `q` written twice. -/
def doubled (q : Char) (cs : List Char) : List Char :=
  cs.flatMap fun c => if c = q then [q, q] else [c]

@[simp]
theorem doubled_nil (q : Char) : doubled q [] = [] :=
  rfl

@[simp]
theorem doubled_append (q : Char) (cs ds : List Char) :
    doubled q (cs ++ ds) = doubled q cs ++ doubled q ds :=
  List.flatMap_append

/-- A text as a string literal, with its quotes doubled. -/
def quoteLiteral (s : String) : String :=
  String.ofList (literalQuote :: doubled literalQuote s.toList ++ [literalQuote])

/-! ### Values as text -/

/-- Numbers in SQL text have the fewest digits that read back, never an exponent, and no fraction
when they are whole; a tie goes to the larger digit. -/
def sqlNumberLayout : Layout where
  tie := .up
  positional _ := true
  pointZero := false
  nan := "NaN"
  infinity := "inf"
  negativeInfinity := "-inf"

/-- The text of a float in SQL. -/
def floatText (x : Float) : String :=
  sqlNumberLayout.render x

/-- The two hexadecimal digits of a byte, in upper case. -/
def hexByte (b : UInt8) : List Char :=
  [(Nat.digitChar (b.toNat / 16)).toUpper, (Nat.digitChar (b.toNat % 16)).toUpper]

/-- A value as SQL text. -/
def Value.inline : Value → String
  | .null => "NULL"
  | .bool b => if b then "TRUE" else "FALSE"
  | .int n => toString n.toInt
  | .float x => floatText x
  | .text s => quoteLiteral s
  | .blob bytes =>
    String.ofList ('X' :: literalQuote :: bytes.flatMap hexByte ++ [literalQuote])

end SchemaDdl
