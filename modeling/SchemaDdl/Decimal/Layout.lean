import SchemaDdl.Decimal.Shortest

/-!
# Number layout

How a float is written once its digits are known: where the point stands, when an exponent is used,
and what stands for the values that are no numbers. A `Layout` holds these decisions; `render`
carries them out.

## Main definitions

* `Layout`: the decisions of one output format.
* `Layout.render`: the text of a float.

## Main results

* `Layout.render_cases`: the characters in the text of a float.
-/

namespace SchemaDdl

/-- The decisions of one output format. -/
structure Layout where
  /-- The choice between two equally close shortest decimals. -/
  tie : Tie
  /-- Whether a number whose first digit stands at this power of ten is written without
  exponent. -/
  positional : Int → Bool
  /-- Whether a whole number is written with the fraction `.0`. -/
  pointZero : Bool
  /-- The text of a value that is no number. -/
  nan : String
  /-- The text of positive infinity. -/
  infinity : String
  /-- The text of negative infinity. -/
  negativeInfinity : String

namespace Layout

/-- Writes digits followed by zeros, a point among the digits, or zeros in front of them. -/
def positionalText (pointZero : Bool) (digits : List Char) (exponent : Int) : List Char :=
  let point := Int.ofNat digits.length + exponent
  if 0 ≤ exponent then
    digits ++ List.replicate exponent.toNat '0' ++ (if pointZero then ['.', '0'] else [])
  else if 0 < point then
    digits.take point.toNat ++ '.' :: digits.drop point.toNat
  else '0' :: '.' :: (List.replicate (-point).toNat '0' ++ digits)

/-- Nothing but zeros and a point is added to the digits. -/
theorem mem_positionalText {pointZero : Bool} {digits : List Char} {exponent : Int} {c : Char}
    (h : c ∈ positionalText pointZero digits exponent) : c ∈ digits ∨ c = '0' ∨ c = '.' := by
  rw [positionalText] at h
  split at h
  · rw [List.mem_append, List.mem_append] at h
    rcases h with (h | h) | h
    · exact .inl h
    · exact .inr (.inl (List.eq_of_mem_replicate h))
    · split at h
      · rw [List.mem_cons, List.mem_singleton] at h
        exact .inr h.symm
      · exact absurd h List.not_mem_nil
  split at h
  · rw [List.mem_append, List.mem_cons] at h
    rcases h with h | h | h
    · exact .inl (List.mem_of_mem_take h)
    · exact .inr (.inr h)
    · exact .inl (List.mem_of_mem_drop h)
  · rw [List.mem_cons, List.mem_cons, List.mem_append] at h
    rcases h with h | h | h | h
    · exact .inr (.inl h)
    · exact .inr (.inr h)
    · exact .inr (.inl (List.eq_of_mem_replicate h))
    · exact .inl h

/-- Writes the first digit, a point before the others if there are any, and a signed exponent. -/
def exponentText (digits : List Char) (leading : Int) : List Char :=
  let mantissa := match digits with
    | [] => []
    | [d] => [d]
    | d :: rest => d :: '.' :: rest
  let sign := if leading < 0 then '-' else '+'
  mantissa ++ 'e' :: sign :: Nat.toDigits 10 leading.natAbs

/-- A point, the mark and sign of an exponent, and its digits are added to the digits. -/
theorem mem_exponentText {digits : List Char} {leading : Int} {c : Char}
    (h : c ∈ exponentText digits leading) :
    c ∈ digits ∨ c ∈ Nat.toDigits 10 leading.natAbs ∨ c ∈ ['.', 'e', '-', '+'] := by
  rw [exponentText.eq_def] at h
  dsimp only at h
  rw [List.mem_append, List.mem_cons, List.mem_cons] at h
  rcases h with h | h | h | h
  · split at h
    · exact absurd h List.not_mem_nil
    · exact .inl h
    · rw [List.mem_cons, List.mem_cons] at h
      rcases h with rfl | rfl | h
      · exact .inl List.mem_cons_self
      · exact .inr (.inr List.mem_cons_self)
      · exact .inl (List.mem_cons_of_mem _ h)
  · simp [h]
  · split at h <;> simp [h]
  · exact .inr (.inl h)

/-- The text of a decimal without sign. -/
def decimalText (l : Layout) (d : Decimal) : List Char :=
  let digits := Nat.toDigits 10 d.coefficient
  let leading := Int.ofNat digits.length + d.exponent - 1
  if l.positional leading then positionalText l.pointZero digits d.exponent
  else exponentText digits leading

/-- The characters of a decimal are digits, a point, and the mark and sign of an exponent. -/
theorem mem_decimalText {l : Layout} {d : Decimal} {c : Char} (h : c ∈ l.decimalText d) :
    c.isDigit = true ∨ c ∈ ['.', 'e', '-', '+'] := by
  have hdigit : ∀ {n : Nat}, c ∈ Nat.toDigits 10 n → c.isDigit = true :=
    fun hc => Nat.isDigit_of_mem_toDigits (by decide) (by decide) hc
  rw [decimalText] at h
  split at h
  · rcases mem_positionalText h with h | rfl | rfl
    · exact .inl (hdigit h)
    · exact .inl rfl
    · exact .inr List.mem_cons_self
  · rcases mem_exponentText h with h | h | h
    · exact .inl (hdigit h)
    · exact .inl (hdigit h)
    · exact .inr h

/-- The text of a float. A negative zero keeps its sign. -/
def render (l : Layout) (x : Float) : String :=
  match FloatClass.ofFloat x with
  | .nan => l.nan
  | .infinite negative => if negative then l.negativeInfinity else l.infinity
  | .finite negative b =>
    let text := l.decimalText (b.shortest l.tie)
    String.ofList (if negative then '-' :: text else text)

/-- **A float is written in digits**, a point, and the mark and sign of an exponent, unless it is no
number. -/
theorem render_cases (l : Layout) (x : Float) :
    l.render x ∈ [l.nan, l.infinity, l.negativeInfinity] ∨
      ∀ c ∈ (l.render x).toList, c.isDigit = true ∨ c ∈ ['.', 'e', '-', '+'] := by
  rw [render]
  split
  · exact .inl List.mem_cons_self
  · left
    split <;> simp
  · right
    intro c hc
    rw [String.toList_ofList] at hc
    split at hc
    · rcases List.mem_cons.mp hc with rfl | hc
      · exact .inr (by decide)
      · exact mem_decimalText hc
    · exact mem_decimalText hc

end Layout

end SchemaDdl
