import Mathlib
import SchemaDdl.Json.Number

/-!
# Numbers Are Read as Finite Floats

The reader of JSON computes the float of a numeral from its digits: they are taken as an integer of
64 bits and scaled by powers of ten in floating point. A product that is too large is refused, and a
quotient cannot be, so what is left to show is that the way there never leaves the finite floats.
The exponents of binary floats are followed through each operation; the bounds are generous, because
the range of an integer of 64 bits is far from the ends of the range of floats.

* `Within`, `From` — a float with its last bit at most, or at least, at a power of two.
* `within_roundWithAccuracy` — the bound on what is rounded.
* `isFinite_scaleDown`, `isFinite_scaleUp?` — scaling keeps floats finite.
* `Json.Numeral.isFinite_scaled?` — the value of a numeral is finite.
-/

namespace SchemaDdl

open Float.Model (Format UnpackedFloat)
open Float.Model.UnpackedFloat

/-! ### Exponents -/

/-- An unpacked float is a number **within** a bound if it is zero, or its last bit stands at most
at that power of two. -/
def Within (bound : Int) : UnpackedFloat → Prop
  | .zero _ => True
  | .finite _ _ e _ => e ≤ bound
  | .infinity _ => False
  | .notANumber => False

namespace Within

variable {bound : Int} {f : UnpackedFloat}

/-- A number within a bound is finite. -/
theorem isFinite (h : Within bound f) : f.isFinite = true := by
  cases f with
  | zero s => rfl
  | finite s m e hm => rfl
  | infinity s => cases h
  | notANumber => cases h

/-- The bound may be larger. -/
theorem mono {limit : Int} (h : Within bound f) (hle : bound ≤ limit) : Within limit f := by
  cases f with
  | zero s => trivial
  | finite s m e hm => exact Int.le_trans h hle
  | infinity s => cases h
  | notANumber => cases h

/-- The sign does not matter. -/
theorem neg (h : Within bound f) : Within bound f.neg := by
  cases f with
  | zero s => trivial
  | finite s m e hm => exact h
  | infinity s => cases h
  | notANumber => cases h

end Within

/-! ### Packing -/

/-- The exponent that is packed is that of the last bit, moved up by 1075. -/
theorem bias_eq (e : Int) : (e + (Format.binary64.exponentBias : Int) +
    (Format.binary64.mantissaBitsWithoutImplicit : Int)).toNat = (e + 1075).toNat := by
  change (e + 1023 + 52).toNat = (e + 1075).toNat
  omega

/-- An exponent in range is packed as it is, -/
theorem toNat_biased {e : Int} (h : e ≤ 971) :
    (BitVec.ofNat 11 (e + 1075).toNat).toNat = (e + 1075).toNat := by
  have hlt : (e + 1075).toNat < 2 ^ 11 := by omega
  rw [BitVec.toNat_ofNat, Nat.mod_eq_of_lt hlt]

/-- so it is not the one of infinity. -/
theorem biased_ne_infinity {e : Int} (h : e ≤ 971) :
    BitVec.ofNat 11 (e + 1075).toNat ≠ -1#11 := by
  intro heq
  have hval := congrArg BitVec.toNat heq
  rw [toNat_biased h] at hval
  change _ = 2047 at hval
  omega

/-- Bits whose exponent is not the one of infinity are a number. -/
theorem within_unpack {b : BitVec Format.binary64.numBits} {bound : Int} (hlower : -1074 ≤ bound)
    (hfinite : unpackExponent b ≠ -1#11) (hupper : (unpackExponent b).toNat ≤ bound + 1075) :
    Within bound (unpack Format.binary64 b) := by
  have hbias : (Format.binary64.exponentBias : Int) +
    (Format.binary64.mantissaBitsWithoutImplicit : Int) = 1075 := rfl
  rw [unpack.eq_def]
  dsimp only
  rw [if_neg hfinite, hbias]
  split
  · next hzero =>
    split
    · trivial
    · change ((unpackExponent b).toNat : Int) - 1075 + 1 ≤ bound
      rw [hzero]
      change ((0 : Nat) : Int) - 1075 + 1 ≤ bound
      omega
  · change ((unpackExponent b).toNat : Int) - 1075 ≤ bound
    omega

/-- A finite float is within the range of floats. -/
theorem within_of_isFinite {b : BitVec Format.binary64.numBits}
    (h : (unpack Format.binary64 b).isFinite = true) : Within 971 (unpack Format.binary64 b) := by
  have hne : unpackExponent b ≠ -1#11 := by
    intro hexponent
    rw [unpack.eq_def] at h
    dsimp only at h
    rw [if_pos hexponent] at h
    split at h <;> cases h
  have hlt : (unpackExponent b).toNat < 2 ^ 11 := (unpackExponent b).isLt
  have hval : (unpackExponent b).toNat ≠ 2047 := fun heq => hne (BitVec.eq_of_toNat_eq heq)
  exact within_unpack (by decide) hne (by omega)

/-- A number within a bound stays so when it is packed. -/
theorem Within.unpack_pack {bound : Int} {f : UnpackedFloat} (h : Within bound f)
    (hlower : -1074 ≤ bound) (hupper : bound ≤ 971) :
    Within bound (unpack Format.binary64 (pack Format.binary64 f)) := by
  have hzero : ∀ (s : Sign) (m : BitVec 52),
      Within bound (unpack Format.binary64 (packComponents Format.binary64 s 0#11 m)) := by
    intro s m
    refine within_unpack hlower ?_ ?_
    · rw [unpackExponent_packComponents]
      decide
    · rw [unpackExponent_packComponents]
      change ((0 : Nat) : Int) ≤ _
      omega
  cases f with
  | zero s => exact hzero s 0
  | finite s m e hm =>
      have he : e ≤ bound := h
      have hexponents : 2 ^ Format.binary64.exponentBits = 2048 := rfl
      rw [pack.eq_def]
      dsimp only
      rw [bias_eq, hexponents, if_neg (by omega)]
      split
      · refine within_unpack hlower ?_ ?_
        · rw [unpackExponent_packComponents]
          exact biased_ne_infinity (Int.le_trans he hupper)
        · rw [unpackExponent_packComponents]
          change ((BitVec.ofNat 11 (e + 1075).toNat).toNat : Int) ≤ bound + 1075
          rw [toNat_biased (Int.le_trans he hupper)]
          omega
      · exact hzero s _
  | infinity s => cases h
  | notANumber => cases h

/-- What is beyond the range of floats is packed as an infinity. -/
theorem isInf_unpack_pack {f : UnpackedFloat} (hfinite : f.isFinite = true) (h : ¬ Within 971 f) :
    (unpack Format.binary64 (pack Format.binary64 f)).isInf = true := by
  cases f with
  | zero s => exact absurd trivial h
  | finite s m e hm =>
      have he : ¬ e ≤ 971 := h
      have hexponents : 2 ^ Format.binary64.exponentBits = 2048 := rfl
      have hinfinity : ∀ s : Sign,
          (unpack Format.binary64 (packedInfinity Format.binary64 s)).isInf = true := by
        intro s
        cases s <;> decide
      rw [pack.eq_def]
      dsimp only
      rw [bias_eq, hexponents, if_pos (by omega)]
      exact hinfinity s
  | infinity s => cases hfinite
  | notANumber => cases hfinite

/-- The significand of a float has at most 53 bits. -/
theorem mantissa_lt_of_unpack {b : BitVec Format.binary64.numBits} {s : Sign} {m : Nat} {e : Int}
    {hm : 0 < m} (h : unpack Format.binary64 b = .finite s m e hm) : m < 2 ^ 53 := by
  rw [unpack.eq_def] at h
  dsimp only at h
  split at h
  · split at h <;> cases h
  · split at h
    · split at h
      · cases h
      · obtain ⟨-, rfl, -⟩ := UnpackedFloat.finite.inj h
        exact Nat.lt_trans (BitVec.isLt _) (by decide)
    · obtain ⟨-, rfl, -⟩ := UnpackedFloat.finite.inj h
      exact BitVec.isLt _

/-- An unpacked float is **from** a bound on if it is not zero and its last bit stands at least at
that power of two. -/
inductive From (bound : Int) : UnpackedFloat → Prop where
  /-- The exponent is that of the last bit. -/
  | finite {s : Sign} {m : Nat} {e : Int} {hm : 0 < m} (le : bound ≤ e) :
    From bound (.finite s m e hm)

instance (bound : Int) : DecidablePred (From bound)
  | .finite _ _ e _ =>
    if h : bound ≤ e then .isTrue (.finite h) else .isFalse fun | .finite le => h le
  | .zero _ => .isFalse nofun
  | .infinity _ => .isFalse nofun
  | .notANumber => .isFalse nofun

/-- A float from a bound on is finite. -/
theorem From.isFinite {bound : Int} {f : UnpackedFloat} (h : From bound f) : f.isFinite = true := by
  cases h
  rfl

/-- The bound may be smaller. -/
theorem From.mono {bound limit : Int} {f : UnpackedFloat} (h : From bound f) (hle : limit ≤ bound) :
    From limit f := by
  obtain ⟨le⟩ := h
  exact .finite (Int.le_trans hle le)

/-- A number of 53 bits in range keeps its exponent when it is packed. -/
theorem from_unpack_pack (s : Sign) {m : Nat} {e : Int} {hm : 0 < m} (hbits : m.log2 = 52)
    (hlower : -1074 ≤ e) (hupper : e ≤ 971) :
    From e (unpack Format.binary64 (pack Format.binary64 (.finite s m e hm))) := by
  have hexponents : 2 ^ Format.binary64.exponentBits = 2048 := rfl
  have hsubnormal : BitVec.ofNat 11 (e + 1075).toNat ≠ 0#11 := by
    intro heq
    have hval := congrArg BitVec.toNat heq
    rw [toNat_biased hupper] at hval
    change _ = 0 at hval
    omega
  rw [pack.eq_def]
  dsimp only
  rw [bias_eq, hexponents, if_neg (by omega), if_pos (by rw [hbits]; rfl), unpack.eq_def]
  dsimp only
  rw [unpackExponent_packComponents, if_neg (biased_ne_infinity hupper), if_neg hsubnormal]
  refine .finite ?_
  change e ≤ ((BitVec.ofNat 11 (e + 1075).toNat).toNat : Int) - 1075
  rw [toNat_biased hupper]
  omega

/-! ### Rounding -/

/-- A number with few digits in base two has a small logarithm. -/
theorem log2_le_of_lt {n k : Nat} (h : n < 2 ^ (k + 1)) : n.log2 ≤ k := by
  rcases Nat.eq_zero_or_pos n with rfl | hpos
  · exact Nat.zero_le k
  · exact Nat.le_of_lt_succ ((Nat.log2_lt (by omega)).mpr h)

/-- A shift takes a significand to the exponent of its first 53 bits, unless it is above. -/
theorem exponent_shiftToTargetExponent (m : Nat) (e : Int) (acc : Accuracy) :
    (shiftToTargetExponent Format.binary64 m e acc).2 = max e (max (m.log2 + e - 52) (-1074)) := by
  change e + ((max ((m.log2 : Int) + 1 + e - 53) (-1074) - e).toNat : Int) = _
  omega

/-- The bits behind that exponent are dropped. -/
theorem mantissa_shiftToTargetExponent (m : Nat) (e : Int) (acc : Accuracy) :
    (shiftToTargetExponent Format.binary64 m e acc).1.mantissa =
      m / 2 ^ (max (m.log2 + e - 52) (-1074) - e).toNat := by
  have hshift : ∀ (em : ExtendedMantissa) (n : Nat), (em >>> n).mantissa = em.mantissa / 2 ^ n := by
    intro em n
    change (Nat.repeat ExtendedMantissa.shiftRightOne n em).mantissa = em.mantissa / 2 ^ n
    induction n with
    | zero => rw [Nat.pow_zero, Nat.div_one, Nat.repeat]
    | succ n ih =>
        rw [Nat.pow_succ, ← Nat.div_div_eq_div_mul, ← ih]
        rfl
  have hstart : (ExtendedMantissa.ofMantissaAndAccuracy m acc).mantissa = m := by
    rw [ExtendedMantissa.ofMantissaAndAccuracy.eq_def]
    split <;> rfl
  have hamount : max ((m.log2 : Int) + 1 + e - 53) (-1074) = max (m.log2 + e - 52) (-1074) := by
    omega
  change (ExtendedMantissa.ofMantissaAndAccuracy m acc >>>
    (max ((m.log2 : Int) + 1 + e - 53) (-1074) - e).toNat).mantissa = _
  rw [hshift, hstart, hamount]

/-- Rounding adds at most one to a significand. -/
theorem roundedMantissa_mem (em : ExtendedMantissa) :
    em.mantissa ≤ em.roundedMantissa ∧ em.roundedMantissa ≤ em.mantissa + 1 := by
  rw [ExtendedMantissa.roundedMantissa, Accuracy.roundToNearestEven.eq_def]
  split <;> omega

/-- **A rounded number** has its last bit where its first 53 bits end, give or take the bits beyond
them. -/
theorem within_roundWithAccuracy (s : Sign) {m : Nat} {e : Int} (acc : Accuracy) {k : Nat}
    {bound : Int} (hm : m < 2 ^ (53 + k)) (he : e + k ≤ bound) (hlower : -1074 ≤ bound) :
    Within (bound + k + 1) (roundWithAccuracy Format.binary64 s m e acc) := by
  let first := shiftToTargetExponent Format.binary64 m e acc
  let second := shiftToTargetExponent Format.binary64 first.1.roundedMantissa first.2 .exact
  have hfirst : first.2 ≤ bound := by
    have hlog : m.log2 ≤ 52 + k := log2_le_of_lt (by rwa [show 52 + k + 1 = 53 + k by omega])
    rw [exponent_shiftToTargetExponent]
    omega
  have hrounded : first.1.roundedMantissa.log2 ≤ 53 + k := by
    have hshifted : first.1.mantissa ≤ m := by
      rw [mantissa_shiftToTargetExponent]
      exact Nat.div_le_self _ _
    refine log2_le_of_lt (Nat.lt_of_le_of_lt (roundedMantissa_mem first.1).2 ?_)
    rw [Nat.pow_succ]
    omega
  have hsecond : second.2 ≤ bound + k + 1 := by
    rw [exponent_shiftToTargetExponent]
    omega
  change Within (bound + k + 1) (if h : second.1.mantissa = 0 then .zero s
    else .finite s second.1.mantissa second.2 (Nat.pos_of_ne_zero h))
  split
  · trivial
  · exact hsecond

/-- **A rounded number of 53 bits or more** has 53 bits. -/
theorem exists_roundWithAccuracy (s : Sign) {m : Nat} {e : Int} (hm : 2 ^ 52 ≤ m)
    (he : -1074 ≤ e) :
    ∃ q i, ∃ hq : 0 < q, roundWithAccuracy Format.binary64 s m e .exact = .finite s q i hq ∧
      q.log2 = 52 ∧ e ≤ i ∧ i ≤ m.log2 + e - 51 := by
  have hlog : ∀ {n : Nat}, 2 ^ 52 ≤ n → n < 2 ^ 53 → n.log2 = 52 := by
    intro n hlower hupper
    have hne : n ≠ 0 := by omega
    exact Nat.le_antisymm (log2_le_of_lt hupper) ((Nat.le_log2 hne).mpr hlower)
  obtain ⟨k, hk⟩ : ∃ k, m.log2 = 52 + k :=
    Nat.exists_eq_add_of_le ((Nat.le_log2 (by omega)).mpr hm)
  let first := shiftToTargetExponent Format.binary64 m e .exact
  let second := shiftToTargetExponent Format.binary64 first.1.roundedMantissa first.2 .exact
  have hexponent : first.2 = e + k := by
    rw [exponent_shiftToTargetExponent, hk]
    omega
  have hmantissa : 2 ^ 52 ≤ first.1.mantissa ∧ first.1.mantissa < 2 ^ 53 := by
    have hamount : (max (((52 + k : Nat) : Int) + e - 52) (-1074) - e).toNat = k := by omega
    rw [mantissa_shiftToTargetExponent, hk, hamount]
    constructor
    · rw [Nat.le_div_iff_mul_le (Nat.two_pow_pos k), ← Nat.pow_add, ← hk]
      exact Nat.log2_self_le (by omega)
    · rw [Nat.div_lt_iff_lt_mul (Nat.two_pow_pos k), ← Nat.pow_add,
        show 53 + k = m.log2 + 1 by omega]
      exact Nat.lt_log2_self
  have hrounded := roundedMantissa_mem first.1
  -- Rounding up may carry into one bit more, which the second shift drops.
  have hsecond : second.1.mantissa.log2 = 52 ∧ e ≤ second.2 ∧ second.2 ≤ m.log2 + e - 51 := by
    rw [exponent_shiftToTargetExponent, mantissa_shiftToTargetExponent, hexponent, hk]
    rcases Nat.lt_or_ge first.1.roundedMantissa (2 ^ 53) with hlt | hge
    · have hfits := hlog (Nat.le_trans hmantissa.1 hrounded.1) hlt
      have hamount : (max (((52 : Nat) : Int) + (e + k) - 52) (-1074) - (e + k)).toNat = 0 := by
        omega
      rw [hfits, hamount, Nat.pow_zero, Nat.div_one]
      exact ⟨hfits, by omega, by omega⟩
    · have hcarry : first.1.roundedMantissa = 2 ^ 53 := by omega
      have hamount : (max (((53 : Nat) : Int) + (e + k) - 52) (-1074) - (e + k)).toNat = 1 := by
        omega
      rw [hcarry, Nat.log2_two_pow, hamount]
      exact ⟨by decide, by omega, by omega⟩
  have hpos : 0 < second.1.mantissa := by
    refine Nat.pos_of_ne_zero fun hzero => ?_
    rw [hzero] at hsecond
    cases hsecond.1
  refine ⟨second.1.mantissa, second.2, hpos, ?_, hsecond⟩
  change (if h : second.1.mantissa = 0 then UnpackedFloat.zero s
    else .finite s second.1.mantissa second.2 (Nat.pos_of_ne_zero h)) = _
  rw [dif_neg (Nat.ne_of_gt hpos)]

/-- Rounding gives a number. -/
theorem isFinite_roundWithAccuracy (s : Sign) (m : Nat) (e : Int) (acc : Accuracy) :
    (roundWithAccuracy Format.binary64 s m e acc).isFinite = true := by
  have hm : m < 2 ^ (53 + m) :=
    Nat.lt_of_lt_of_le Nat.lt_two_pow_self (Nat.pow_le_pow_right (by decide) (by omega))
  exact (within_roundWithAccuracy s acc hm (Int.le_max_left _ (-1074))
    (Int.le_max_right _ _)).isFinite

/-! ### Arithmetic -/

/-- The negative of a finite float is finite. -/
theorem isFinite_neg {x : Float} (h : x.isFinite = true) : (-x).isFinite = true :=
  ((within_of_isFinite h).neg.unpack_pack (by decide) (by decide)).isFinite

/-- A product of finite floats is finite if it is not infinite. -/
theorem isFinite_mul {x y : Float} (hx : x.isFinite = true) (hy : y.isFinite = true)
    (hinf : (x * y).isInf = false) : (x * y).isFinite = true := by
  have hproduct : ∀ f g : UnpackedFloat, f.isFinite = true → g.isFinite = true →
      (UnpackedFloat.mul Format.binary64 f g).isFinite = true := by
    intro f g hf hg
    cases f with
    | infinity s => cases hf
    | notANumber => cases hf
    | zero s =>
        cases g with
        | infinity s => cases hg
        | notANumber => cases hg
        | zero t => rfl
        | finite t m e hm => rfl
    | finite s m e hm =>
        cases g with
        | infinity s => cases hg
        | notANumber => cases hg
        | zero t => rfl
        | finite t n i hn => exact isFinite_roundWithAccuracy _ _ _ _
  by_cases h : Within 971 (UnpackedFloat.mul Format.binary64 x.toModel.unpack y.toModel.unpack)
  · exact (h.unpack_pack (by decide) (by decide)).isFinite
  · have hbeyond : (x * y).isInf = true := isInf_unpack_pack (hproduct _ _ hx hy) h
    rw [hbeyond] at hinf
    cases hinf

/-- The quotient of two significands is within the difference of the exponents, give or take the
bits of the two. -/
theorem within_divCore (s : Sign) {m n : Nat} {e i : Int} (hm : m < 2 ^ 53) (hn : n < 2 ^ 53) :
    Within (max (e - i) (-1074) + 106)
      (let (q, target, acc) := divCore Format.binary64 m e n i
      roundWithAccuracy Format.binary64 s q target acc) := by
  let target := min (e - i)
    (max ((m.log2 : Int) + 1 + e - ((n.log2 : Int) + 1 + i) - 53) (-1074))
  let shift := (e - i - target).toNat
  have hshift : shift ≤ 105 := by
    have hlog : n.log2 ≤ 52 := log2_le_of_lt hn
    omega
  have hquotient : (m <<< shift) / n < 2 ^ (53 + shift) := by
    refine Nat.lt_of_le_of_lt (Nat.div_le_self _ _) ?_
    rw [Nat.shiftLeft_eq, Nat.pow_add]
    exact Nat.mul_lt_mul_of_pos_right hm (Nat.two_pow_pos _)
  have hround := within_roundWithAccuracy s (accuracyOfFraction ((m <<< shift) % n) n) hquotient
    (by omega : target + shift ≤ max (e - i) (-1074)) (Int.le_max_right _ _)
  exact hround.mono (by omega)

/-- **A quotient** is within the difference of the bounds, give or take the bits of the two
significands. -/
theorem within_div {x y : Float} {upper lower : Int} (hx : Within upper x.toModel.unpack)
    (hy : From lower y.toModel.unpack) (hrange : max (upper - lower) (-1074) + 106 ≤ 971) :
    Within (max (upper - lower) (-1074) + 106) (x / y).toModel.unpack := by
  have hquotient : Within (max (upper - lower) (-1074) + 106)
      (UnpackedFloat.div Format.binary64 x.toModel.unpack y.toModel.unpack) := by
    cases hg : y.toModel.unpack with
    | finite t n i hn =>
        rw [hg] at hy
        obtain ⟨hi⟩ := hy
        cases hf : x.toModel.unpack with
        | zero s => trivial
        | finite s m e hm =>
            rw [hf] at hx
            have he : e ≤ upper := hx
            have hcore := @within_divCore (s / t) m n e i (mantissa_lt_of_unpack hf)
              (mantissa_lt_of_unpack hg)
            exact hcore.mono (by omega)
        | _ =>
            rw [hf] at hx
            cases hx
    | _ =>
        rw [hg] at hy
        cases hy
  exact hquotient.unpack_pack (by omega) hrange

/-- An integer of 64 bits is far within the range of floats. -/
theorem within_toFloat (n : UInt64) : Within 75 n.toFloat.toModel.unpack := by
  have hround : ∀ m : Nat, m < 2 ^ 64 →
      Within 75 (UnpackedFloat.round Format.binary64 .positive m 0) := by
    intro m hm
    let shift := (0 - max ((m.log2 : Int) + 1 + 0 - 53) (-1074)).toNat
    have hshift : shift ≤ 52 := by omega
    have hshifted : m <<< shift < 2 ^ (53 + (11 + shift)) := by
      rw [Nat.shiftLeft_eq, ← Nat.add_assoc, Nat.pow_add]
      exact Nat.mul_lt_mul_of_pos_right hm (Nat.two_pow_pos _)
    have hround := within_roundWithAccuracy .positive .exact hshifted
      (by omega : 0 - (shift : Int) + (11 + shift : Nat) ≤ 11) (by decide)
    exact hround.mono (by omega)
  refine Within.unpack_pack ?_ (by decide) (by decide)
  change Within 75 (UnpackedFloat.normalize Format.binary64 (n.toNat : Int) 0 .positive)
  rw [Float.Model.UnpackedFloat.normalize.eq_def]
  split
  · next h => exact absurd (compare_lt_iff_lt.mp h) (by omega)
  · trivial
  · exact hround n.toNat n.toNat_lt

/-! ### Numerals -/

namespace Json.Numeral

/-- A power of ten that is not one of the first few is rounded. -/
theorem unpack_tenTo {k : Nat} (hlower : 22 < k) (hupper : k ≤ 308) :
    (tenTo k).toModel.unpack = unpack Format.binary64 (pack Format.binary64
      (roundWithAccuracy Format.binary64 .positive ((1 <<< 53) * 10 ^ k) (-53) .exact)) := by
  have hrounded : ¬ (1 < 2 ^ 53 ∧ k ≤ 22) := by omega
  have hscientific : tenTo k = ⟨Float.Model.ofScientific 1 k⟩ := dif_neg hrounded
  have hrange : ¬ (k : Int) > 2 ^ Format.binary64.exponentBits := by
    change ¬ (k : Int) > 2 ^ 11
    omega
  have htiny : ¬ (k : Int) < -(2 ^ Format.binary64.exponentBits + (Nat.log2 1 : Int)) := by
    change ¬ (k : Int) < -(2 ^ 11 + (Nat.log2 1 : Int))
    omega
  rw [hscientific]
  change unpack Format.binary64 (pack Format.binary64
    (UnpackedFloat.ofScientific Format.binary64 1 k)) = _
  unfold UnpackedFloat.ofScientific
  rw [dif_neg (by decide), if_neg hrange, if_neg htiny, if_pos (by omega)]
  rfl

/-- The size of a power of ten in base two. -/
theorem log2_tenTo_le {k : Nat} (h : k ≤ 307) : ((1 <<< 53) * 10 ^ k).log2 ≤ 52 + 1020 := by
  have hproduct : ∀ n j, n < 2 ^ j → ((1 <<< 53) * n).log2 ≤ 52 + j := by
    intro n j hn
    refine log2_le_of_lt ?_
    rw [Nat.add_right_comm, Nat.pow_add, Nat.one_shiftLeft]
    exact Nat.mul_lt_mul_of_pos_left hn (Nat.two_pow_pos 53)
  have hpowers : ∀ k < 308, 10 ^ k < 2 ^ 1020 := by decide +kernel
  exact hproduct (10 ^ k) 1020 (hpowers k (Nat.lt_succ_of_le h))

/-- **The powers of ten in use** are floats from that of one on. -/
theorem from_tenTo {k : Nat} (h : k ≤ 308) : From (-53) (tenTo k).toModel.unpack := by
  rcases Nat.lt_or_ge k 23 with hsmall | hlarge
  · have hfirst : ∀ k < 23, From (-53) (tenTo k).toModel.unpack := by decide +kernel
    exact hfirst k hsmall
  rcases Nat.lt_or_ge k 308 with hlt | hge
  · have hbits : 2 ^ 52 ≤ (1 <<< 53) * 10 ^ k :=
      Nat.le_trans (by decide) (Nat.le_mul_of_pos_right (1 <<< 53) (Nat.pow_pos (by decide)))
    have hlog := log2_tenTo_le (Nat.le_of_lt_succ hlt)
    obtain ⟨q, i, hq, hround, hq52, hle, hge⟩ :=
      exists_roundWithAccuracy .positive hbits (by decide : -1074 ≤ (-53 : Int))
    rw [unpack_tenTo hlarge h, hround]
    exact (from_unpack_pack .positive hq52 (by omega) (by omega)).mono hle
  · obtain rfl : k = 308 := Nat.le_antisymm h hge
    decide +kernel

/-- The largest of them is far from one. -/
theorem from_tenTo_max : From 971 (tenTo 308).toModel.unpack := by
  decide +kernel

/-- The powers of ten in use are finite. -/
theorem isFinite_tenTo {k : Nat} (h : k ≤ 308) : (tenTo k).isFinite = true :=
  (from_tenTo h).isFinite

/-- Scaling down stays within the range of floats: as long as powers are left, a quotient is not
larger than what was divided. -/
theorem isFinite_scaleDown (x : Float) (k : Nat) (h : Within 75 x.toModel.unpack) :
    (scaleDown x k).isFinite = true := by
  fun_induction scaleDown x k with
  | case1 x k hk => exact (within_div h (from_tenTo hk) (by decide)).isFinite
  | case2 x k hk hzero => exact h.isFinite
  | case3 x k hk hzero ih =>
      have hquotient := within_div h from_tenTo_max (by decide)
      exact ih (hquotient.mono (by decide))

/-- Scaling up gives a finite float if it gives one at all. -/
theorem isFinite_scaleUp? {x y : Float} {k : Nat} (hx : x.isFinite = true)
    (h : scaleUp? x k = some y) : y.isFinite = true := by
  rw [scaleUp?] at h
  split at h
  · next hk =>
    dsimp only at h
    split at h
    · cases h
    · next hinf =>
      cases h
      exact isFinite_mul hx (isFinite_tenTo hk) (Bool.eq_false_iff.mpr hinf)
  · split at h
    · cases h
      exact hx
    · cases h

/-- **The float of a numeral is finite.** -/
theorem isFinite_scaled? {negative : Bool} {significand : Nat} {exponent : Int} {x : Float}
    (h : scaled? negative significand exponent = some x) : x.isFinite = true := by
  have hstart := within_toFloat (UInt64.ofNat significand)
  obtain ⟨m, hm, rfl⟩ := Option.map_eq_some_iff.mp h
  have hmagnitude : m.isFinite = true := by
    split at hm
    · exact isFinite_scaleUp? hstart.isFinite hm
    · cases hm
      exact isFinite_scaleDown _ _ hstart
  cases negative with
  | false => exact hmagnitude
  | true => exact isFinite_neg hmagnitude

end Json.Numeral

end SchemaDdl
