import SchemaDdl.Json.Basic

/-!
# JSON numbers

Reading a number in two steps: its spelling is split into sign, digits, fraction and exponent, and
the spelling is then given a value. Integers that fit 64 bits are exact. Every other number becomes
a float: as many digits as fit 64 bits are kept, and the result is scaled by powers of ten.

## Main definitions

* `Numeral`: the spelling of a number.
* `Numeral.read`: splits a number off a text.
* `Numeral.value?`: the value of a spelling, if it is in range.
-/

namespace SchemaDdl.Json

/-- The spelling of a number. -/
structure Numeral where
  /-- Whether a minus sign stands in front. -/
  negative : Bool
  /-- The digits before the point. -/
  whole : List Char
  /-- The digits after the point, if there is one. -/
  fraction : Option (List Char)
  /-- The exponent, if there is one. -/
  exponent : Option Int

namespace Numeral

/-! ### Spelling -/

/-- The value of a string of decimal digits. -/
def digitsValue (digits : List Char) : Nat :=
  digits.foldl (fun n d => n * 10 + (d.toNat - 48)) 0

/-- At least one digit. Nothing at all means that the text ends too early. -/
def readDigits (cs : List Char) : Except Fault (List Char × List Char) :=
  match cs.span Char.isDigit with
  | ([], []) => .error .truncated
  | ([], _) => .error .malformed
  | (digits, rest) => .ok (digits, rest)

/-- The digits before the point. A leading zero stands alone. -/
def readWhole (cs : List Char) : Except Fault (List Char × List Char) :=
  match readDigits cs with
  | .ok ('0' :: _ :: _, _) => .error .malformed
  | other => other

/-- The digits after the point, if there is a point. -/
def readFraction (cs : List Char) : Except Fault (Option (List Char) × List Char) :=
  match cs with
  | '.' :: rest => (readDigits rest).map fun (digits, rest) => (some digits, rest)
  | _ => .ok (none, cs)

/-- The exponent, if there is one. -/
def readExponent (cs : List Char) : Except Fault (Option Int × List Char) :=
  let signed (sign : Int) (rest : List Char) :=
    (readDigits rest).map fun (digits, rest) => (some (sign * digitsValue digits), rest)
  let afterMark (rest : List Char) :=
    match rest with
    | '+' :: rest => signed 1 rest
    | '-' :: rest => signed (-1) rest
    | _ => signed 1 rest
  match cs with
  | 'e' :: rest => afterMark rest
  | 'E' :: rest => afterMark rest
  | _ => .ok (none, cs)

/-- Splits a number off the front of a text. -/
def read (cs : List Char) : Except Fault (Numeral × List Char) := do
  let (negative, cs) := match cs with
    | '-' :: rest => (true, rest)
    | _ => (false, cs)
  let (whole, cs) ← readWhole cs
  let (fraction, cs) ← readFraction cs
  let (exponent, cs) ← readExponent cs
  return (⟨negative, whole, fraction, exponent⟩, cs)

/-! ### Value -/

/-- Appends digits to `n` while the result fits 64 bits; also says how many digits are left. -/
def absorb (n : Nat) : List Char → Nat × Nat
  | [] => (n, 0)
  | d :: rest =>
    let longer := n * 10 + (d.toNat - 48)
    if longer < UInt64.size then absorb longer rest else (n, rest.length + 1)

/-- The float nearest to a power of ten. -/
def tenTo (k : Nat) : Float :=
  Float.ofScientific 1 false k

/-- Divides by `10 ^ k`, at most 308 powers at a time. -/
def scaleDown (x : Float) (k : Nat) : Float :=
  if k ≤ 308 then x / tenTo k
  else if x == 0 then x
  else scaleDown (x / tenTo 308) (k - 308)
termination_by k

/-- Multiplies by `10 ^ k`; nothing if the result is out of range. -/
def scaleUp? (x : Float) (k : Nat) : Option Float :=
  if k ≤ 308 then
    let scaled := x * tenTo k
    if scaled.isInf then none else some scaled
  else if x == 0 then some x
  else none

/-- The value `significand * 10 ^ exponent` as a float, if it is in range. -/
def scaled? (negative : Bool) (significand : Nat) (exponent : Int) : Option Float :=
  let x := (UInt64.ofNat significand).toFloat
  let magnitude :=
    if 0 ≤ exponent then scaleUp? x exponent.toNat
    else some (scaleDown x exponent.natAbs)
  magnitude.map fun m => if negative then -m else m

/-- The value of a spelling; nothing if it is beyond the range of floats. A negative zero, and an
integer of more than 64 bits, is a float. -/
def value? (n : Numeral) : Option Json :=
  let (whole, dropped) := absorb 0 n.whole
  match n.fraction, n.exponent with
  | none, none =>
    if dropped ≠ 0 then (scaled? n.negative whole dropped).map .float
    else if n.negative then
      if 0 < whole && whole ≤ Nat.pow 2 63 then some (.int (-whole))
      else some (.float (-(UInt64.ofNat whole).toFloat))
    else some (.int whole)
  | fraction, exponent =>
    let digits := fraction.getD []
    let (significand, left) := absorb whole digits
    let shift : Int := dropped - (digits.length - left : Nat) + exponent.getD 0
    (scaled? n.negative significand shift).map .float

end Numeral

end SchemaDdl.Json
