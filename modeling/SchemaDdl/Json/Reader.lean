import SchemaDdl.Json.Number

/-!
# Reading JSON

A reader of JSON text over lists of characters. It can be strict or lenient. A strict reader refuses
every fault and more than 127 arrays and objects inside one another. A lenient reader goes on past
parts that are spelled correctly but have no value and marks them as unreadable, so that whoever
uses the value decides whether they matter.

Each reader takes an amount of fuel that bounds its steps; every step but the opening of an array
or object uses up a character, so twice the length of the text is always enough.

## Main definitions

* `Json.decodeText`: one value of a wanted shape, all of it checked.
* `Json.skimText`: one value of a wanted shape, checked where the shape looks at it.
-/

namespace SchemaDdl.Json

/-- How much of a text has to have a value. -/
inductive Care where
  /-- All of it. -/
  | strict
  /-- The parts that are used. -/
  | lenient
  deriving DecidableEq, Repr

/-! ### Blanks and literals -/

/-- The four characters that may stand between the parts of a value. -/
def isBlank (c : Char) : Bool :=
  c == ' ' || c == '\t' || c == '\n' || c == '\r'

/-- A text without the blanks in front. -/
def skipBlanks (cs : List Char) : List Char :=
  cs.dropWhile isBlank

/-- Takes the rest of a literal off a text. -/
def readWord (value : Json) : List Char → List Char → Except Fault (Json × List Char)
  | [], cs => .ok (value, cs)
  | _ :: _, [] => .error .truncated
  | w :: word, c :: cs => if w = c then readWord value word cs else .error .malformed

/-! ### Strings -/

/-- The value of a hexadecimal digit. -/
def hexValue? (c : Char) : Option Nat :=
  if '0' ≤ c && c ≤ '9' then some (c.toNat - 48)
  else if 'a' ≤ c && c ≤ 'f' then some (c.toNat - 87)
  else if 'A' ≤ c && c ≤ 'F' then some (c.toNat - 55)
  else none

/-- The four hexadecimal digits of an escape. With fewer than four bytes left the text ends too
early, whatever those bytes are. -/
def readUnit (cs : List Char) : Except Fault (Nat × List Char) :=
  let digits := cs.take 4
  if (String.ofList digits).utf8ByteSize < 4 then .error .truncated
  else match digits.mapM hexValue? with
    | some [a, b, c, d] => .ok (((a * 16 + b) * 16 + c) * 16 + d, cs.drop 4)
    | _ => .error .malformed

/-- The second half of a surrogate pair, in an escape of its own. -/
def readTrailing (cs : List Char) : Except Fault (Nat × List Char) :=
  match cs with
  | [] => .error .truncated
  | ['\\'] => .error .truncated
  | '\\' :: 'u' :: rest => do
    let (low, rest) ← readUnit rest
    if 0xDC00 ≤ low && low ≤ 0xDFFF then return (low, rest) else .error .malformed
  | _ => .error .malformed

/-- The character of a four-digit escape and, for a leading surrogate, of the escape after it. A
surrogate without partner is a fault for a strict reader and no character for a lenient one. -/
def readCodePoint (care : Care) (cs : List Char) : Except Fault (Option Char × List Char) := do
  let (unit, rest) ← readUnit cs
  if unit < 0xD800 || 0xDFFF < unit then return (some (Char.ofNat unit), rest)
  let paired : Except Fault (Nat × List Char) :=
    if 0xDC00 ≤ unit then .error .malformed else readTrailing rest
  match paired, care with
  | .ok (low, rest), _ =>
    return (some (Char.ofNat (0x10000 + (unit - 0xD800) * 0x400 + (low - 0xDC00))), rest)
  | .error fault, .strict => .error fault
  | .error _, .lenient => return (none, rest)

/-- The character that an escape stands for, read after its backslash. -/
def readEscape (care : Care) (cs : List Char) : Except Fault (Option Char × List Char) :=
  match cs with
  | [] => .error .truncated
  | '"' :: rest => .ok (some '"', rest)
  | '\\' :: rest => .ok (some '\\', rest)
  | '/' :: rest => .ok (some '/', rest)
  | 'b' :: rest => .ok (some '\x08', rest)
  | 'f' :: rest => .ok (some '\x0c', rest)
  | 'n' :: rest => .ok (some '\n', rest)
  | 'r' :: rest => .ok (some '\r', rest)
  | 't' :: rest => .ok (some '\t', rest)
  | 'u' :: rest => readCodePoint care rest
  | _ => .error .malformed

/-- The rest of a string up to its closing quote, after the characters in `acc`; `intact` tells
whether all of them had a value. A control character has to be escaped. -/
def readString (care : Care) :
    Nat → List Char → Bool → List Char → Except Fault (Option String × List Char)
  | 0, _, _, _ => .error .truncated
  | _ + 1, _, _, [] => .error .truncated
  | fuel + 1, acc, intact, c :: cs =>
    if c = '"' then .ok (if intact then some (String.ofList acc.reverse) else none, cs)
    else if c = '\\' then do
      let (char, rest) ← readEscape care cs
      match char with
      | some char => readString care fuel (char :: acc) intact rest
      | none => readString care fuel acc false rest
    else if c.toNat < 0x20 then .error .malformed
    else readString care fuel (c :: acc) intact cs

/-! ### Values -/

/-- A number, or a fault if it is out of range. -/
def readNumber (care : Care) (cs : List Char) : Except Fault (Json × List Char) := do
  let (numeral, rest) ← Numeral.read cs
  match numeral.value?, care with
  | some value, _ => return (value, rest)
  | none, .strict => .error .malformed
  | none, .lenient => return (.unreadable, rest)

mutual

/-- The first value of a text, with at most `depth` arrays and objects inside one another. -/
def readValue (care : Care) : Nat → Nat → List Char → Except Fault (Json × List Char)
  | 0, _, _ => .error .truncated
  | fuel + 1, depth, cs =>
    match skipBlanks cs with
    | [] => .error .truncated
    | 'n' :: rest => readWord .null ['u', 'l', 'l'] rest
    | 't' :: rest => readWord (.bool true) ['r', 'u', 'e'] rest
    | 'f' :: rest => readWord (.bool false) ['a', 'l', 's', 'e'] rest
    | '"' :: rest => do
      let (text, rest) ← readString care (rest.length + 1) [] true rest
      return (text.elim .unreadable .string, rest)
    | '[' :: rest =>
      match depth, skipBlanks rest with
      | 0, _ => .error .malformed
      | _ + 1, ']' :: rest => .ok (.array [], rest)
      | depth + 1, rest => readItems care fuel depth [] rest
    | '\x7b' :: rest =>
      match depth, skipBlanks rest with
      | 0, _ => .error .malformed
      | _ + 1, '\x7d' :: rest => .ok (.object [], rest)
      | depth + 1, rest => readMembers care fuel depth [] true rest
    | c :: rest =>
      if c = '-' || c.isDigit then readNumber care (c :: rest) else .error .malformed

/-- The items of an array up to its closing bracket, after those in `acc`. -/
def readItems (care : Care) :
    Nat → Nat → List Json → List Char → Except Fault (Json × List Char)
  | 0, _, _, _ => .error .truncated
  | fuel + 1, depth, acc, cs => do
    let (item, rest) ← readValue care fuel depth cs
    match skipBlanks rest with
    | [] => .error .truncated
    | ']' :: rest => return (.array (item :: acc).reverse, rest)
    | ',' :: rest =>
      match skipBlanks rest with
      | ']' :: _ => .error .malformed
      | rest => readItems care fuel depth (item :: acc) rest
    | _ => .error .malformed

/-- The members of an object up to its closing brace, after those in `acc`; `intact` tells whether
all their keys had a value. -/
def readMembers (care : Care) :
    Nat → Nat → List (String × Json) → Bool → List Char → Except Fault (Json × List Char)
  | 0, _, _, _, _ => .error .truncated
  | _ + 1, _, _, _, [] => .error .truncated
  | fuel + 1, depth, acc, intact, c :: cs =>
    if c ≠ '"' then .error .malformed
    else do
      let (key, rest) ← readString care (cs.length + 1) [] true cs
      match skipBlanks rest with
      | [] => .error .truncated
      | ':' :: rest =>
        let (value, rest) ← readValue care fuel depth rest
        let acc := (key.getD "", value) :: acc
        let intact := intact && key.isSome
        match skipBlanks rest with
        | [] => .error .truncated
        | '\x7d' :: rest => return (if intact then .object acc.reverse else .unreadable, rest)
        | ',' :: rest => readMembers care fuel depth acc intact (skipBlanks rest)
        | _ => .error .malformed
      | _ => .error .malformed

end

/-! ### Whole texts -/

/-- The deepest nesting a strict reader accepts. -/
def maxDepth : Nat := 127

/-- The first value of a text and what follows it. -/
def readFirst (care : Care) (text : String) : Except Fault (Json × List Char) :=
  let cs := text.toList
  let depth := match care with
    | .strict => maxDepth
    | .lenient => cs.length
  readValue care (2 * cs.length + 2) depth cs

/-- Reads a text as one value of the shape that `decode` accepts. Faults inside the value are
reported first, then a wrong shape, and text after the value last. -/
def decodeText {α : Type} (decode : Json → Option α) (text : String) : Except Fault α := do
  let (value, rest) ← readFirst .strict text
  match decode value with
  | none => .error .mismatch
  | some result => if rest.all isBlank then return result else .error .malformed

/-- Reads a text as one value of the shape that `decode` accepts, where parts that `decode` passes
over need not have a value. -/
def skimText {α : Type} (decode : Json → Option α) (text : String) : Option α :=
  match readFirst .lenient text with
  | .ok (value, rest) => if rest.all isBlank then decode value else none
  | .error _ => none

/-- Reads a text as one JSON value. -/
def read (text : String) : Except Fault Json :=
  decodeText some text

end SchemaDdl.Json
