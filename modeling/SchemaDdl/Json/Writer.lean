import SchemaDdl.Json.Basic
import SchemaDdl.Decimal.Layout

/-!
# Writing JSON

Two forms of a value: the compact one without blanks, and the indented one with two blanks a level.
Only the double quote, the backslash and control characters are escaped.

## Main definitions

* `Json.numberLayout`: how floats are written.
* `Json.compact`, `Json.indented`: the two forms.
-/

namespace SchemaDdl.Json

/-! ### Leaves -/

/-- Floats have the fewest digits that read back, a tie goes to the even digit, and a whole number
ends in `.0`. An exponent is written below `0.00001` and from `1e+16` on. What is no number becomes
`null`. -/
def numberLayout : Layout where
  tie := .even
  positional leading := -5 ≤ leading && leading ≤ 15
  pointZero := true
  nan := "null"
  infinity := "null"
  negativeInfinity := "null"

/-- One character inside a string. -/
def escaped (c : Char) : List Char :=
  if c = '"' then ['\\', '"']
  else if c = '\\' then ['\\', '\\']
  else if c = '\x08' then ['\\', 'b']
  else if c = '\t' then ['\\', 't']
  else if c = '\n' then ['\\', 'n']
  else if c = '\x0c' then ['\\', 'f']
  else if c = '\r' then ['\\', 'r']
  else if c.toNat < 0x20 then
    ['\\', 'u', '0', '0', Nat.digitChar (c.toNat / 16), Nat.digitChar (c.toNat % 16)]
  else [c]

/-- A string in double quotes. -/
def quoted (s : String) : String :=
  String.ofList ('"' :: s.toList.flatMap escaped ++ ['"'])

/-! ### The compact form -/

mutual

/-- The text of a value without blanks. -/
def compact : Json → String
  | .null => "null"
  | .bool b => if b then "true" else "false"
  | .int n => toString n
  | .float x => numberLayout.render x
  | .string s => quoted s
  | .array items => "[" ++ ",".intercalate (compactItems items) ++ "]"
  | .object members => "\x7b" ++ ",".intercalate (compactMembers members) ++ "\x7d"
  | .unreadable => "null"

/-- The texts of the items of an array. -/
def compactItems : List Json → List String
  | [] => []
  | item :: items => compact item :: compactItems items

/-- The texts of the members of an object. -/
def compactMembers : List (String × Json) → List String
  | [] => []
  | (key, value) :: members => (quoted key ++ ":" ++ compact value) :: compactMembers members

end

/-! ### The indented form -/

/-- The start of a line at a level of nesting. -/
def newLine (level : Nat) : String :=
  String.ofList ('\n' :: List.replicate (2 * level) ' ')

/-- Parts on lines of their own between two brackets; nothing stands between them when there are
no parts. -/
def bracketed (level : Nat) (opening closing : String) (parts : List String) : String :=
  if parts.isEmpty then opening ++ closing
  else
    opening ++ newLine (level + 1) ++ ("," ++ newLine (level + 1)).intercalate parts ++
      newLine level ++ closing

mutual

/-- The text of a value inside `level` arrays and objects, one part a line. -/
def indentedAt (level : Nat) : Json → String
  | .array items => bracketed level "[" "]" (indentedItems (level + 1) items)
  | .object members => bracketed level "\x7b" "\x7d" (indentedMembers (level + 1) members)
  | .null => compact .null
  | .bool b => compact (.bool b)
  | .int n => compact (.int n)
  | .float x => compact (.float x)
  | .string s => compact (.string s)
  | .unreadable => compact .unreadable

/-- The texts of the items of an array. -/
def indentedItems (level : Nat) : List Json → List String
  | [] => []
  | item :: items => indentedAt level item :: indentedItems level items

/-- The texts of the members of an object. -/
def indentedMembers (level : Nat) : List (String × Json) → List String
  | [] => []
  | (key, value) :: members =>
    (quoted key ++ ": " ++ indentedAt level value) :: indentedMembers level members

end

/-- The text of a value with one part a line. -/
def indented (value : Json) : String :=
  indentedAt 0 value

end SchemaDdl.Json
