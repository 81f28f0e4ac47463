import SchemaDdl.Text.CaseTable

/-!
# Lower case

Full lower-casing of text: every character goes to its lower-case form by the Unicode tables, a
capital I with a dot becomes two characters, and a capital sigma is written in its final form at
the end of a word.

## Main definitions

* `isCased`, `isCaseIgnorable`: the two character properties that decide what a word is.
* `lowercase`: the lower-case form of a text.
-/

namespace SchemaDdl.Text

/-! ### Character properties -/

/-- Whether the code point `n` lies in one of the ranges. -/
def inRanges (ranges : List (Nat × Nat)) (n : Nat) : Bool :=
  ranges.any fun r => r.1 ≤ n && n ≤ r.2

/-- Letters that come in cases, and letters of one case only. -/
def isCased (c : Char) : Bool :=
  if c.toNat < 0x80 then c.isAlpha else inRanges casedRanges c.toNat

/-- Characters that neither begin nor end a word: accents, apostrophes, full stops. -/
def isCaseIgnorable (c : Char) : Bool :=
  if c.toNat < 0x80 then
    ['\x27', '.', ':', '^', '\x60'].contains c
  else inRanges caseIgnorableRanges c.toNat

/-! ### One character -/

/-- The lower-case code point that the first run containing `n` gives, or `n` itself. -/
def lowerCode (n : Nat) : List (Nat × Nat × Nat × Int) → Nat
  | [] => n
  | (first, last, step, shift) :: runs =>
    if first ≤ n && n ≤ last && (n - first) % step == 0 then (n + shift).toNat
    else lowerCode n runs

/-- The lower-case form of one character on its own. -/
def lowerChar (c : Char) : List Char :=
  if c.toNat < 0x80 then [c.toLower]
  else if c.toNat = 0x130 then ['i', '\u0307']
  else [Char.ofNat (lowerCode c.toNat lowerRuns)]

/-! ### Whole texts -/

/-- Whether the first character that is not case-ignorable is cased: the word goes on. -/
def wordContinues : List Char → Bool
  | [] => false
  | c :: cs => if isCaseIgnorable c then wordContinues cs else isCased c

/-- Lower-cases `cs`; `inWord` tells whether a word is under way before it. A capital sigma that
has a word before it and none after it takes the final form. -/
def lowerFrom (inWord : Bool) : List Char → List Char
  | [] => []
  | c :: cs =>
    let lower :=
      if c = 'Σ' then [if inWord && !wordContinues cs then 'ς' else 'σ'] else lowerChar c
    lower ++ lowerFrom (if isCaseIgnorable c then inWord else isCased c) cs

/-- The lower-case form of `s`. -/
def lowercase (s : String) : String :=
  String.ofList (lowerFrom false s.toList)

end SchemaDdl.Text
