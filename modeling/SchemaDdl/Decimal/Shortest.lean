/-!
# Shortest decimals

Every finite binary number is the nearest one to a whole interval of reals. This module finds the
decimal in that interval with the fewest digits, and of those the one closest to the number, by
exact arithmetic on natural numbers.

## Main definitions

* `Binary`: a positive finite number as a mantissa and a power of two.
* `Decimal`: a coefficient and a power of ten.
* `Binary.readsBack`: whether a decimal lies in the interval of the number.
* `Binary.shortest`: the decimal with the fewest digits that reads back as the number.

## Main results

* `Binary.isSome_onGrid_iff`: the two multiples of a power of ten next to the number are all that
  has to be tried.
* `Binary.search_eq_some`: what the search finds reads back, and no coarser decimal does.
-/

namespace SchemaDdl

/-- The decimal `coefficient * 10 ^ exponent`. -/
structure Decimal where
  /-- The digits, as one natural number. -/
  coefficient : Nat
  /-- The power of ten. -/
  exponent : Int
  deriving DecidableEq, Repr

/-- Which of two equally close neighbours is taken. -/
inductive Tie where
  /-- The larger one. -/
  | up
  /-- The one whose last digit is even. -/
  | even
  deriving DecidableEq, Repr

/-- The number `mantissa * 2 ^ exponent`, together with its place among its neighbours. -/
structure Binary where
  /-- The significant bits. -/
  mantissa : Nat
  /-- The power of two. -/
  exponent : Int
  /-- Whether the next smaller number is only half as far away as the next larger one. -/
  narrow : Bool
  deriving DecidableEq, Repr

/-- What a 64-bit pattern stands for. -/
inductive FloatClass where
  /-- No number. -/
  | nan
  /-- An infinity. -/
  | infinite (negative : Bool)
  /-- A number with its sign; zero has mantissa zero. -/
  | finite (negative : Bool) (magnitude : Binary)
  deriving DecidableEq, Repr

/-- Takes a 64-bit pattern apart: one bit of sign, eleven of exponent and 52 of fraction. -/
def FloatClass.ofBits (bits : Nat) : FloatClass :=
  let fraction := bits % Nat.pow 2 52
  let exponent := bits / Nat.pow 2 52 % Nat.pow 2 11
  let negative := bits / Nat.pow 2 63 % 2 == 1
  if exponent = 2047 then
    if fraction = 0 then .infinite negative else .nan
  else if exponent = 0 then .finite negative ⟨fraction, -1074, false⟩
  else
    let narrow := fraction == 0 && exponent != 1
    .finite negative ⟨Nat.pow 2 52 + fraction, Int.ofNat exponent - 1075, narrow⟩

/-- What a float stands for. -/
def FloatClass.ofFloat (x : Float) : FloatClass :=
  ofBits x.toBits.toNat

namespace Binary

/-! ### The grid of one power of ten -/

/-- The factor that turns quarters of the last bit into a fraction over `scaleDown`, both whole
numbers, so that the multiples of `10 ^ e` are the multiples of `scaleDown`. -/
def scaleUp (b : Binary) (e : Int) : Nat :=
  Nat.pow 2 (b.exponent - 2).toNat * Nat.pow 10 (-e).toNat

/-- The distance of two multiples of `10 ^ e`. -/
def scaleDown (b : Binary) (e : Int) : Nat :=
  Nat.pow 2 (2 - b.exponent).toNat * Nat.pow 10 e.toNat

/-- The number, scaled. -/
def scaled (b : Binary) (e : Int) : Nat :=
  4 * b.mantissa * b.scaleUp e

/-- The lower end of the interval of reals that are nearest to the number, scaled: half the distance
to the next smaller number. -/
def lower (b : Binary) (e : Int) : Nat :=
  (4 * b.mantissa - if b.narrow then 1 else 2) * b.scaleUp e

/-- The upper end of the interval, scaled: half the distance to the next larger number. -/
def upper (b : Binary) (e : Int) : Nat :=
  (4 * b.mantissa + 2) * b.scaleUp e

/-- Whether `d * 10 ^ e` reads back as the number. The ends of the interval do when the mantissa is
even. -/
def readsBack (b : Binary) (e : Int) (d : Nat) : Bool :=
  let point := d * b.scaleDown e
  if b.mantissa % 2 = 0 then b.lower e ≤ point && point ≤ b.upper e
  else b.lower e < point && point < b.upper e

/-- The multiple of `10 ^ e` that reads back as the number and is closest to it, as its factor. Only
the two multiples next to the number are candidates. -/
def onGrid (b : Binary) (tie : Tie) (e : Int) : Option Nat :=
  let below := b.scaled e / b.scaleDown e
  let above := below + 1
  match b.readsBack e below, b.readsBack e above with
  | false, false => none
  | true, false => some below
  | false, true => some above
  | true, true =>
    let middle := (below + above) * b.scaleDown e
    if 2 * b.scaled e < middle then some below
    else if middle < 2 * b.scaled e then some above
    else match tie with
      | .up => some above
      | .even => some (if below % 2 = 0 then below else above)

/-- What is selected reads back. -/
theorem readsBack_of_onGrid {b : Binary} {tie : Tie} {e : Int} {d : Nat}
    (h : b.onGrid tie e = some d) : b.readsBack e d = true := by
  unfold onGrid at h
  dsimp only at h
  split at h <;> try split at h
  all_goals grind

theorem scaleUp_pos (b : Binary) (e : Int) : 0 < b.scaleUp e :=
  Nat.mul_pos (Nat.pow_pos (by decide)) (Nat.pow_pos (by decide))

theorem scaleDown_pos (b : Binary) (e : Int) : 0 < b.scaleDown e :=
  Nat.mul_pos (Nat.pow_pos (by decide)) (Nat.pow_pos (by decide))

/-- If any multiple of `10 ^ e` reads back, one of the two candidates does. -/
theorem readsBack_neighbour {b : Binary} {e : Int} {d : Nat} (h : b.readsBack e d = true) :
    b.readsBack e (b.scaled e / b.scaleDown e) = true ∨
      b.readsBack e (b.scaled e / b.scaleDown e + 1) = true := by
  have hpos := b.scaleDown_pos e
  have hlower : b.lower e ≤ b.scaled e := Nat.mul_le_mul_right _ (Nat.sub_le _ _)
  have hupper : b.scaled e < b.upper e :=
    Nat.mul_lt_mul_of_pos_right (by omega) (b.scaleUp_pos e)
  have hbelow := Nat.div_mul_le_self (b.scaled e) (b.scaleDown e)
  have habove := Nat.lt_mul_of_div_lt (Nat.lt_succ_self (b.scaled e / b.scaleDown e)) hpos
  rw [Nat.mul_comm] at habove
  simp only [readsBack] at h ⊢
  rcases Nat.lt_or_ge (b.scaled e / b.scaleDown e) d with hd | hd
  · right
    have := Nat.mul_le_mul_right (b.scaleDown e) (Nat.succ_le_of_lt hd)
    grind
  · left
    have := Nat.mul_le_mul_right (b.scaleDown e) hd
    grind

/-- A grid has a result exactly if one of its points reads back. -/
theorem isSome_onGrid_iff {b : Binary} {tie : Tie} {e : Int} :
    (b.onGrid tie e).isSome ↔ ∃ d, b.readsBack e d = true := by
  constructor
  · intro h
    obtain ⟨d, hd⟩ := Option.isSome_iff_exists.1 h
    exact ⟨d, readsBack_of_onGrid hd⟩
  · rintro ⟨d, hd⟩
    have := readsBack_neighbour hd
    unfold onGrid
    dsimp only
    split <;> try split
    all_goals grind

/-! ### The coarsest grid -/

/-- Tries `steps` grids, from `10 ^ e` towards finer ones. -/
def search (b : Binary) (tie : Tie) : Nat → Int → Option Decimal
  | 0, _ => none
  | steps + 1, e =>
    match b.onGrid tie e with
    | some d => some ⟨d, e⟩
    | none => search b tie steps (e - 1)

/-- What the search finds reads back, and no point of a coarser grid that it tried does. -/
theorem search_eq_some {b : Binary} {tie : Tie} {steps : Nat} {e : Int} {d : Decimal}
    (h : b.search tie steps e = some d) :
    b.readsBack d.exponent d.coefficient = true ∧
      ∀ e', d.exponent < e' → e' ≤ e → ∀ n, b.readsBack e' n = false := by
  induction steps generalizing e with
  | zero => simp [search] at h
  | succ steps ih =>
    rw [search] at h
    split at h
    · next n hn =>
      obtain rfl := Option.some.inj h
      exact ⟨readsBack_of_onGrid hn, fun e' h₁ h₂ => absurd h₁ (Int.not_lt.2 h₂)⟩
    · next hn =>
      obtain ⟨h₁, h₂⟩ := ih h
      refine ⟨h₁, fun e' hlt hle n => ?_⟩
      by_cases he : e' = e
      · subst he
        rw [← Bool.not_eq_true]
        intro hr
        have : (b.onGrid tie e').isSome := isSome_onGrid_iff.2 ⟨n, hr⟩
        simp [hn] at this
      · exact h₂ e' hlt (by omega) n

/-- A power of ten that is at least the number: 30103/100000 is just above the decimal logarithm
of two. -/
def coarsest (b : Binary) : Int :=
  (Int.ofNat (Nat.log2 b.mantissa) + b.exponent + 1) * 30103 / 100000 + 1

/-- The number itself as a decimal. -/
def exact (b : Binary) : Decimal :=
  if 0 ≤ b.exponent then ⟨b.mantissa * Nat.pow 2 b.exponent.toNat, 0⟩
  else ⟨b.mantissa * Nat.pow 5 (-b.exponent).toNat, b.exponent⟩

/-- The decimal with the fewest digits that reads back as the number. Seventeen digits always do, so
the search ends within the grids it is given. -/
def shortest (b : Binary) (tie : Tie) : Decimal :=
  if b.mantissa = 0 then ⟨0, 0⟩
  else (b.search tie 24 b.coarsest).getD b.exact

end Binary

end SchemaDdl
