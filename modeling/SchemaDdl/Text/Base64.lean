/-!
# Base64

The standard alphabet without padding: three bytes become four characters, and the last one or two
bytes become two or three.

## Main definitions

* `sextetChar`: the character of a six-bit number.
* `base64`: the text of a list of bytes.

## Main results

* `length_base64Chars`: the length of the text.
-/

namespace SchemaDdl.Text

/-- The character that stands for a number below 64. -/
def sextetChar (n : Nat) : Char :=
  if n < 26 then Char.ofNat ('A'.toNat + n)
  else if n < 52 then Char.ofNat ('a'.toNat + (n - 26))
  else if n < 62 then Char.ofNat ('0'.toNat + (n - 52))
  else if n = 62 then '+'
  else '/'

/-- The characters of a list of bytes, without padding. -/
def base64Chars : List UInt8 → List Char
  | [] => []
  | [a] =>
    let n := a.toNat * 16
    [sextetChar (n / 64), sextetChar (n % 64)]
  | [a, b] =>
    let n := (a.toNat * 256 + b.toNat) * 4
    [sextetChar (n / 4096), sextetChar (n / 64 % 64), sextetChar (n % 64)]
  | a :: b :: c :: rest =>
    let n := (a.toNat * 256 + b.toNat) * 256 + c.toNat
    sextetChar (n / 262144) :: sextetChar (n / 4096 % 64) :: sextetChar (n / 64 % 64) ::
      sextetChar (n % 64) :: base64Chars rest

/-- Every three bytes become four characters, and what is left over is rounded up. -/
theorem length_base64Chars (bytes : List UInt8) :
    (base64Chars bytes).length = (bytes.length * 4 + 2) / 3 := by
  fun_induction base64Chars bytes with
  | case1 => rfl
  | case2 => simp
  | case3 => simp
  | case4 a b c rest n ih => simp only [List.length_cons, ih]; omega

/-- The text of a list of bytes. -/
def base64 (bytes : List UInt8) : String :=
  String.ofList (base64Chars bytes)

end SchemaDdl.Text
