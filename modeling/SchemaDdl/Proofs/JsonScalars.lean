import Mathlib.Algebra.Group.Int.Defs
import Mathlib.Data.List.TakeDrop
import Mathlib.Data.List.TakeWhile
import SchemaDdl.Json.Reader
import SchemaDdl.Json.Writer

/-!
# Numbers and Strings Read Back

What is written inside an array or object is followed by a comma, a closing bracket or a blank. A
string ends with its own quote, but a number ends where its characters end, so its reader looks at
what follows. This module shows that such a delimiter never becomes part of a number, and that
integers and strings come back as they were written.

* `Delimited`, `Framed` — a text that is empty or starts with a delimiter, and a reader that stops
  in front of one: it reads the same with it as without. This goes through readers that are run one
  after the other (`Framed.bind`).
* `framed_readNumber` — the reader of numbers is framed.
* `readNumber_int` — an integer of 64 bits, signed or not, is read back.
* `readString_quoted` — a string is read back, whatever characters it holds.
-/

namespace SchemaDdl.Json

/-! ### Readers that stop at delimiters -/

/-- Whether a character may follow a value inside an array or object. -/
def isDelimiter (c : Char) : Bool :=
  c == ',' || c == ']' || c == '\x7d' || isBlank c

/-- A text is **delimited** if its first character, if there is one, is a delimiter. -/
def Delimited (cs : List Char) : Prop :=
  ∀ c ∈ cs.head?, isDelimiter c = true

/-- The empty text is delimited. -/
theorem delimited_nil : Delimited [] := by
  intro c hc
  cases hc

/-- A text that starts with a delimiter is delimited. -/
theorem delimited_cons {c : Char} (hc : isDelimiter c = true) (cs : List Char) :
    Delimited (c :: cs) := by
  intro d hd
  cases hd
  exact hc

/-- A delimited text does not start with a character that is no delimiter. -/
theorem Delimited.head?_ne {cs : List Char} (h : Delimited cs) {d : Char}
    (hd : isDelimiter d = false) : cs.head? ≠ some d := by
  intro hhead
  rw [h d hhead] at hd
  cases hd

/-- No digit is a delimiter. -/
theorem isDelimiter_of_isDigit {c : Char} (h : c.isDigit = true) : isDelimiter c = false := by
  have hne : ∀ d : Char, d.isDigit = false → c ≠ d := by
    rintro d hd rfl
    rw [hd] at h
    cases h
  simp [isDelimiter, isBlank, hne ',' rfl, hne ']' rfl, hne '\x7d' rfl, hne ' ' rfl, hne '\t' rfl,
    hne '\n' rfl, hne '\r' rfl]

/-- A delimited text does not start with a digit. -/
theorem Delimited.not_isDigit {c : Char} {cs : List Char} (h : Delimited (c :: cs)) :
    c.isDigit = false := by
  cases hc : c.isDigit with
  | false => rfl
  | true =>
      have hd := h c rfl
      rw [isDelimiter_of_isDigit hc] at hd
      cases hd

/-- A reader is **framed** if it leaves an end of the text, and reads the same when a delimiter
follows the text. -/
def Framed {α : Type} (read : List Char → Except Fault (α × List Char)) : Prop :=
  ∀ ⦃cs : List Char⦄ ⦃a : α⦄ ⦃rest : List Char⦄, read cs = .ok (a, rest) →
    rest <:+ cs ∧ ∀ tail, Delimited tail → read (cs ++ tail) = .ok (a, rest ++ tail)

section Framed

variable {α β : Type} {read : List Char → Except Fault (α × List Char)}

/-- A reader that reads nothing is framed. -/
theorem framed_pure (a : α) : Framed fun cs => .ok (a, cs) := by
  rintro cs _ _ ⟨⟩
  exact ⟨List.suffix_rfl, fun tail _ => rfl⟩

/-- **Framed readers one after the other** are framed. -/
theorem Framed.bind {next : α → List Char → Except Fault (β × List Char)} (h : Framed read)
    (hnext : ∀ a, Framed (next a)) : Framed fun cs => read cs >>= fun (a, rest) => next a rest := by
  intro cs b rest hread
  dsimp only at hread ⊢
  cases hfirst : read cs with
  | error e =>
      rw [hfirst] at hread
      cases hread
  | ok result =>
      obtain ⟨a, middle⟩ := result
      rw [hfirst] at hread
      obtain ⟨hmiddle, hstable⟩ := h hfirst
      obtain ⟨hrest, hnextStable⟩ := hnext a hread
      refine ⟨hrest.trans hmiddle, fun tail htail => ?_⟩
      rw [hstable tail htail]
      exact hnextStable tail htail

/-- A framed reader stays framed when its result is taken further. -/
theorem Framed.map (h : Framed read) (f : α → β) :
    Framed fun cs => (read cs).map fun (a, rest) => (f a, rest) := by
  intro cs b rest hread
  dsimp only at hread ⊢
  cases hfirst : read cs with
  | error e =>
      rw [hfirst] at hread
      cases hread
  | ok result =>
      obtain ⟨a, middle⟩ := result
      rw [hfirst] at hread
      obtain ⟨rfl, rfl⟩ := Prod.mk.inj (Except.ok.inj hread)
      obtain ⟨hsuffix, hstable⟩ := h hfirst
      refine ⟨hsuffix, fun tail htail => ?_⟩
      rw [hstable tail htail]
      rfl

/-- **A reader that looks for marks** is framed if it is so after each mark and without one, and no
mark is a delimiter. -/
theorem Framed.of_marks {marks : List Char} (hmarks : ∀ m ∈ marks, isDelimiter m = false)
    {unmarked : List Char → Except Fault (α × List Char)}
    (hmarked : ∀ m ∈ marks, Framed fun cs => read (m :: cs)) (hunmarked : Framed unmarked)
    (hother : ∀ cs, (∀ m ∈ marks, cs.head? ≠ some m) → read cs = unmarked cs) : Framed read := by
  intro cs a rest h
  by_cases hhead : ∃ m ∈ marks, cs.head? = some m
  · obtain ⟨m, hm, hcs⟩ := hhead
    obtain ⟨ds, rfl⟩ := List.head?_eq_some_iff.mp hcs
    obtain ⟨hsuffix, hstable⟩ := hmarked m hm h
    exact ⟨hsuffix.trans (List.suffix_cons _ _), hstable⟩
  · have hcs : ∀ m ∈ marks, cs.head? ≠ some m := fun m hm hcs => hhead ⟨m, hm, hcs⟩
    rw [hother cs hcs] at h
    obtain ⟨hsuffix, hstable⟩ := hunmarked h
    refine ⟨hsuffix, fun tail htail => ?_⟩
    have htailHead : ∀ m ∈ marks, (cs ++ tail).head? ≠ some m := by
      intro m hm
      cases cs with
      | nil => exact htail.head?_ne (hmarks m hm)
      | cons c cs => exact hcs m hm
    rw [hother _ htailHead, hstable tail htail]

end Framed

/-! ### The spelling of numbers -/

namespace Numeral

/-- Digits end where the text ends, or in front of what is no digit. -/
theorem span_isDigit_append (cs : List Char) {tail : List Char} (htail : Delimited tail) :
    (cs ++ tail).span Char.isDigit =
      ((cs.span Char.isDigit).1, (cs.span Char.isDigit).2 ++ tail) := by
  simp only [List.span_eq_takeWhile_dropWhile]
  induction cs with
  | nil =>
      cases tail with
      | nil => rfl
      | cons c cs => simp [htail.not_isDigit]
  | cons c cs ih =>
      cases hc : c.isDigit with
      | true => simpa [hc] using ih
      | false => simp [hc]

/-- The reader of digits in terms of where they end. -/
theorem readDigits_eq_ok_iff {cs digits rest : List Char} :
    readDigits cs = .ok (digits, rest) ↔
      digits ≠ [] ∧ cs.span Char.isDigit = (digits, rest) := by
  rw [readDigits]
  cases hspan : cs.span Char.isDigit with
  | mk ds r =>
      cases ds with
      | nil => cases r <;> simp +contextual [eq_comm]
      | cons d ds => simp +contextual [eq_comm]

/-- The reader of digits is framed. -/
theorem framed_readDigits : Framed readDigits := by
  intro cs digits rest h
  obtain ⟨hne, hspan⟩ := readDigits_eq_ok_iff.mp h
  refine ⟨?_, fun tail htail => readDigits_eq_ok_iff.mpr ⟨hne, ?_⟩⟩
  · rw [List.span_eq_takeWhile_dropWhile] at hspan
    rw [← (Prod.mk.inj hspan).2]
    exact List.dropWhile_suffix _
  · rw [span_isDigit_append cs htail, hspan]

/-- The digits before the point are all digits there are, if no zero leads others. -/
theorem readWhole_eq_ok_iff {cs digits rest : List Char} :
    readWhole cs = .ok (digits, rest) ↔
      readDigits cs = .ok (digits, rest) ∧ ∀ d ds, digits ≠ '0' :: d :: ds := by
  rw [readWhole]
  split
  · next h => simp +contextual [h, eq_comm]
  · next h =>
      refine ⟨fun hdigits => ⟨hdigits, ?_⟩, fun hdigits => hdigits.1⟩
      rintro d ds rfl
      exact h d ds rest hdigits

/-- The reader of the digits before the point is framed. -/
theorem framed_readWhole : Framed readWhole := by
  intro cs digits rest h
  obtain ⟨hdigits, hzero⟩ := readWhole_eq_ok_iff.mp h
  obtain ⟨hsuffix, hstable⟩ := framed_readDigits hdigits
  exact ⟨hsuffix, fun tail htail => readWhole_eq_ok_iff.mpr ⟨hstable tail htail, hzero⟩⟩

/-- There is no fraction where there is no point. -/
theorem readFraction_of_head?_ne {cs : List Char} (h : cs.head? ≠ some '.') :
    readFraction cs = .ok (none, cs) := by
  rw [readFraction.eq_def]
  split
  · exact absurd rfl h
  · rfl

/-- The reader of the fraction is framed. -/
theorem framed_readFraction : Framed readFraction := by
  have hpoint : Framed fun cs => readFraction ('.' :: cs) := framed_readDigits.map some
  refine Framed.of_marks (List.forall_mem_singleton.mpr (by rfl : isDelimiter '.' = false))
    (List.forall_mem_singleton.mpr hpoint) (framed_pure none) fun cs hcs => ?_
  exact readFraction_of_head?_ne (hcs '.' List.mem_cons_self)

/-- There is no exponent where there is no mark of one. -/
theorem readExponent_of_head?_ne {cs : List Char} (hlower : cs.head? ≠ some 'e')
    (hupper : cs.head? ≠ some 'E') : readExponent cs = .ok (none, cs) := by
  rw [readExponent.eq_def]
  dsimp only
  split
  · exact absurd rfl hlower
  · exact absurd rfl hupper
  · rfl

/-- The reader of the exponent is framed, and so is what it reads after its mark. -/
theorem framed_readExponent : Framed readExponent := by
  have hsigned : ∀ sign : Int, Framed fun rest =>
      (readDigits rest).map fun r => (some (sign * digitsValue r.1), r.2) :=
    fun sign => framed_readDigits.map fun digits => some (sign * digitsValue digits)
  have hafter : Framed fun rest => readExponent ('e' :: rest) := by
    have hmarks : ∀ m ∈ ['+', '-'], isDelimiter m = false :=
      List.forall_mem_cons.mpr ⟨rfl, List.forall_mem_singleton.mpr rfl⟩
    refine Framed.of_marks hmarks (List.forall_mem_cons.mpr ⟨hsigned 1,
      List.forall_mem_singleton.mpr (hsigned (-1))⟩) (hsigned 1) fun cs hcs => ?_
    rw [readExponent]
    dsimp only
    split
    · exact absurd rfl (hcs '+' (by decide))
    · exact absurd rfl (hcs '-' (by decide))
    · rfl
  have hmarks : ∀ m ∈ ['e', 'E'], isDelimiter m = false :=
    List.forall_mem_cons.mpr ⟨rfl, List.forall_mem_singleton.mpr rfl⟩
  refine Framed.of_marks hmarks (List.forall_mem_cons.mpr ⟨hafter,
    List.forall_mem_singleton.mpr hafter⟩) (framed_pure none) fun cs hcs => ?_
  exact readExponent_of_head?_ne (hcs 'e' (by decide)) (hcs 'E' (by decide))

/-- A number without a minus is read as it stands. -/
theorem read_of_head?_ne {cs : List Char} (h : cs.head? ≠ some '-') :
    read cs = do
      let (whole, cs) ← readWhole cs
      let (fraction, cs) ← readFraction cs
      let (exponent, cs) ← readExponent cs
      return (Numeral.mk false whole fraction exponent, cs) := by
  rw [read.eq_def]
  split
  next heq =>
  split at heq
  · exact absurd rfl h
  · obtain ⟨rfl, rfl⟩ := Prod.mk.inj heq
    rfl

/-- The reader of the spelling of a number is framed. -/
theorem framed_read : Framed read := by
  have hunsigned : ∀ negative : Bool, Framed fun cs => do
      let (whole, cs) ← readWhole cs
      let (fraction, cs) ← readFraction cs
      let (exponent, cs) ← readExponent cs
      return (Numeral.mk negative whole fraction exponent, cs) := fun negative =>
    framed_readWhole.bind fun whole => framed_readFraction.bind fun fraction =>
      framed_readExponent.bind fun exponent =>
        framed_pure (Numeral.mk negative whole fraction exponent)
  refine Framed.of_marks (List.forall_mem_singleton.mpr (by rfl : isDelimiter '-' = false))
    (List.forall_mem_singleton.mpr (hunsigned true)) (hunsigned false) fun cs hcs => ?_
  exact read_of_head?_ne (hcs '-' List.mem_cons_self)

/-! ### Integers -/

/-- The digits of a positive number do not start with a zero. -/
theorem head?_toDigits_ne_zero {n : Nat} (hn : 0 < n) :
    (Nat.toDigits 10 n).head? ≠ some '0' := by
  induction n using Nat.strongRecOn with
  | ind n ih =>
      rw [Nat.toDigits_eq_if (by decide)]
      split
      · have hdigit : ∀ d < 10, 0 < d → [Nat.digitChar d].head? ≠ some '0' := by decide
        exact hdigit n (by omega) hn
      · have htenth := ih (n / 10) (by omega) (by omega)
        rw [List.head?_append]
        obtain ⟨d, hd⟩ : ∃ d, (Nat.toDigits 10 (n / 10)).head? = some d :=
          Option.ne_none_iff_exists'.mp (mt List.head?_eq_none_iff.mp Nat.toDigits_ne_nil)
        rw [hd] at htenth ⊢
        exact htenth

/-- The digits of a number are read as its digits. -/
theorem readWhole_toDigits (n : Nat) :
    readWhole (Nat.toDigits 10 n) = .ok (Nat.toDigits 10 n, []) := by
  have hdigits : ∀ c ∈ Nat.toDigits 10 n, c.isDigit = true := fun c hc =>
    Nat.isDigit_of_mem_toDigits (by decide) (by decide) hc
  refine readWhole_eq_ok_iff.mpr ⟨readDigits_eq_ok_iff.mpr ⟨Nat.toDigits_ne_nil, ?_⟩, ?_⟩
  · rw [List.span_eq_takeWhile_dropWhile, List.takeWhile_eq_self_iff.mpr hdigits,
      List.dropWhile_eq_nil_iff.mpr hdigits]
  · intro d ds hzero
    rcases Nat.eq_zero_or_pos n with rfl | hn
    · cases hzero
    · exact head?_toDigits_ne_zero hn (by rw [hzero, List.head?_cons])

/-- Digits whose value fits 64 bits are taken as they are. -/
theorem absorb_eq {digits : List Char} {n : Nat}
    (h : Nat.ofDigitChars 10 digits n < UInt64.size) :
    absorb n digits = (Nat.ofDigitChars 10 digits n, 0) := by
  have hle : ∀ (digits : List Char) (n : Nat), n ≤ Nat.ofDigitChars 10 digits n := by
    intro digits
    induction digits with
    | nil => exact fun n => Nat.le_refl n
    | cons d digits ih =>
        intro n
        rw [Nat.ofDigitChars_cons]
        have hnext := ih (10 * n + (d.toNat - '0'.toNat))
        omega
  induction digits generalizing n with
  | nil => rfl
  | cons d digits ih =>
      rw [Nat.ofDigitChars_cons] at h ⊢
      have hlonger : n * 10 + (d.toNat - 48) = 10 * n + (d.toNat - '0'.toNat) := by
        rw [Nat.mul_comm]
        rfl
      have hfits := Nat.lt_of_le_of_lt (hle digits _) h
      rw [absorb, hlonger, if_pos hfits, ih h]

/-- The value of the digits of a number. -/
theorem absorb_toDigits {n : Nat} (h : n < UInt64.size) :
    absorb 0 (Nat.toDigits 10 n) = (n, 0) := by
  have hvalue : Nat.ofDigitChars 10 (Nat.toDigits 10 n) 0 = n :=
    Nat.ofDigitChars_toDigits (by decide) (by decide)
  rw [absorb_eq (by rwa [hvalue]), hvalue]

/-- The spelling of a natural number, with or without a minus in front. -/
theorem read_toDigits (negative : Bool) (n : Nat) :
    read ((if negative then ['-'] else []) ++ Nat.toDigits 10 n) =
      .ok (⟨negative, Nat.toDigits 10 n, none, none⟩, []) := by
  have hunsigned : (do
      let (whole, cs) ← readWhole (Nat.toDigits 10 n)
      let (fraction, cs) ← readFraction cs
      let (exponent, cs) ← readExponent cs
      return (Numeral.mk negative whole fraction exponent, cs)) =
        Except.ok (⟨negative, Nat.toDigits 10 n, none, none⟩, []) := by
    rw [readWhole_toDigits]
    rfl
  cases negative with
  | true => exact hunsigned
  | false =>
      have hminus : (Nat.toDigits 10 n).head? ≠ some '-' := by
        intro h
        have hmem := List.mem_of_mem_head? h
        exact absurd (Nat.isDigit_of_mem_toDigits (by decide) (by decide) hmem) (by decide)
      exact (read_of_head?_ne hminus).trans hunsigned

end Numeral

/-- The characters of an integer: its digits, after a minus if it is negative. -/
theorem toList_toString_int (n : Int) :
    (toString n).toList = (if n < 0 then ['-'] else []) ++ Nat.toDigits 10 n.natAbs := by
  cases n with
  | ofNat n =>
      have h : toString (Int.ofNat n) = toString n := rfl
      rw [h, Nat.toString_eq_repr, Nat.toList_repr]
      rfl
  | negSucc n =>
      have h : toString (Int.negSucc n) = "-" ++ toString (n + 1) := rfl
      rw [h, String.toList_append, Nat.toString_eq_repr, Nat.toList_repr,
        if_pos (Int.negSucc_lt_zero n)]
      rfl

/-- The number that a spelling stands for, if it is in range. -/
theorem readNumber_of_read (care : Care) {cs rest : List Char} {numeral : Numeral}
    (h : Numeral.read cs = .ok (numeral, rest)) :
    readNumber care cs = match numeral.value?, care with
      | some value, _ => .ok (value, rest)
      | none, .strict => .error .malformed
      | none, .lenient => .ok (.unreadable, rest) := by
  rw [readNumber, h]
  rfl

/-- The reader of numbers is framed. -/
theorem framed_readNumber (care : Care) : Framed (readNumber care) := by
  have hvalue : ∀ numeral : Numeral, Framed fun rest : List Char =>
      match numeral.value?, care with
      | some value, _ => (.ok (value, rest) : Except Fault (Json × List Char))
      | none, .strict => .error .malformed
      | none, .lenient => .ok (.unreadable, rest) := by
    intro numeral
    cases numeral.value? with
    | some value => exact framed_pure value
    | none =>
        cases care with
        | strict => exact fun _ _ _ h => nomatch h
        | lenient => exact framed_pure Json.unreadable
  exact Numeral.framed_read.bind hvalue

/-- **An integer of 64 bits is read back**, signed or not. -/
theorem readNumber_int (care : Care) {n : Int} (hlower : -2 ^ 63 ≤ n) (hupper : n < 2 ^ 64)
    {tail : List Char} (htail : Delimited tail) :
    readNumber care ((toString n).toList ++ tail) = .ok (.int n, tail) := by
  have habsorb : Numeral.absorb 0 (Nat.toDigits 10 n.natAbs) = (n.natAbs, 0) := by
    refine Numeral.absorb_toDigits ?_
    rw [UInt64.size]
    omega
  have hread := Numeral.read_toDigits (decide (n < 0)) n.natAbs
  simp only [decide_eq_true_eq, ← toList_toString_int] at hread
  have hvalue : Numeral.value? ⟨decide (n < 0), Nat.toDigits 10 n.natAbs, none, none⟩ =
      some (.int n) := by
    rw [Numeral.value?, habsorb]
    dsimp only
    rw [if_neg (not_not.mpr rfl)]
    by_cases hn : n < 0
    · have hfits : (decide (0 < n.natAbs) && decide (n.natAbs ≤ Nat.pow 2 63)) = true := by
        have hpow : Nat.pow 2 63 = 2 ^ 63 := rfl
        rw [Bool.and_eq_true, decide_eq_true_eq, decide_eq_true_eq, hpow]
        omega
      have habs : -(n.natAbs : Int) = n := by omega
      rw [if_pos (decide_eq_true hn), if_pos hfits, habs]
    · have habs : (n.natAbs : Int) = n := by omega
      rw [if_neg (mt of_decide_eq_true hn), habs]
  have hnumber : readNumber care (toString n).toList = .ok (.int n, []) := by
    rw [readNumber_of_read care hread, hvalue]
  exact (framed_readNumber care hnumber).2 tail htail

/-! ### Strings -/

/-- The four digits of the escape of a control character. -/
theorem readUnit_control {n : Nat} (hn : n < 32) (rest : List Char) :
    readUnit ('0' :: '0' :: Nat.digitChar (n / 16) :: Nat.digitChar (n % 16) :: rest) =
      .ok (n, rest) := by
  have hsize : ∀ n < 32, ¬ (String.ofList
      ['0', '0', Nat.digitChar (n / 16), Nat.digitChar (n % 16)]).utf8ByteSize < 4 := by decide
  have hvalues : ∀ n < 32, ['0', '0', Nat.digitChar (n / 16), Nat.digitChar (n % 16)].mapM
      hexValue? = some [0, 0, n / 16, n % 16] := by decide
  have hvalue : ((0 * 16 + 0) * 16 + n / 16) * 16 + n % 16 = n := by omega
  rw [readUnit, List.take, List.take, List.take, List.take, List.take_zero, if_neg (hsize n hn),
    hvalues n hn]
  dsimp only
  rw [hvalue, List.drop, List.drop, List.drop, List.drop, List.drop_zero]

/-- **A character inside a string is read back.** -/
theorem readString_escaped (care : Care) (fuel : Nat) (acc : List Char) (intact : Bool) (c : Char)
    (rest : List Char) :
    readString care (fuel + 1) acc intact (escaped c ++ rest) =
      readString care fuel (c :: acc) intact rest := by
  rw [escaped]
  -- The characters that have an escape of their own.
  iterate 7
    split
    · subst_vars
      rfl
  split
  · next hcontrol =>
      have hunit := readUnit_control hcontrol rest
      have hbelow : (decide (c.toNat < 0xD800) || decide (0xDFFF < c.toNat)) = true := by
        rw [decide_eq_true (by omega : c.toNat < 0xD800), Bool.true_or]
      have hcode : readCodePoint care ('0' :: '0' :: Nat.digitChar (c.toNat / 16) ::
          Nat.digitChar (c.toNat % 16) :: rest) = .ok (some c, rest) := by
        rw [readCodePoint, hunit]
        change (if _ then _ else _ : Except Fault (Option Char × List Char)) = _
        rw [if_pos hbelow, Char.ofNat_toNat]
        rfl
      change (readCodePoint care ('0' :: '0' :: Nat.digitChar (c.toNat / 16) ::
        Nat.digitChar (c.toNat % 16) :: rest) >>= _) = _
      rw [hcode]
      rfl
  · next hquote hbackslash _ _ _ _ _ hcontrol =>
      rw [List.singleton_append, readString, if_neg hquote, if_neg hbackslash, if_neg hcontrol]

/-- The characters of a string are read back one after the other, up to the quote that ends it. -/
theorem readString_flatMap_escaped (care : Care) (cs acc rest : List Char) {fuel : Nat}
    (hfuel : cs.length < fuel) :
    readString care fuel acc true (cs.flatMap escaped ++ '"' :: rest) =
      .ok (some (String.ofList (acc.reverse ++ cs)), rest) := by
  induction cs generalizing acc fuel with
  | nil =>
      obtain ⟨fuel, rfl⟩ := Nat.exists_eq_add_of_lt hfuel
      rw [List.flatMap_nil, List.nil_append, readString, if_pos rfl, if_pos rfl, List.append_nil]
  | cons c cs ih =>
      obtain ⟨fuel, rfl⟩ : ∃ n, fuel = n + 1 := Nat.exists_eq_succ_of_ne_zero (by omega)
      rw [List.length_cons] at hfuel
      rw [List.flatMap_cons, List.append_assoc, readString_escaped, ih (c :: acc) (by omega),
        List.reverse_cons, List.append_assoc, List.singleton_append]

/-- Escapes make no text shorter. -/
theorem length_le_length_flatMap_escaped (cs : List Char) :
    cs.length ≤ (cs.flatMap escaped).length := by
  induction cs with
  | nil => exact Nat.le_refl 0
  | cons c cs ih =>
      have hc : 1 ≤ (escaped c).length := by
        rw [escaped]
        repeat' split
        all_goals simp
      rw [List.flatMap_cons, List.length_append, List.length_cons]
      omega

/-- The characters of a string in quotes. -/
theorem toList_quoted (s : String) :
    (quoted s).toList = '"' :: (s.toList.flatMap escaped ++ ['"']) := by
  rw [quoted, String.toList_ofList, List.cons_append]

/-- **A string is read back**, whatever characters it holds. -/
theorem readString_quoted (care : Care) (s : String) (rest : List Char) :
    ∃ cs, (quoted s).toList ++ rest = '"' :: cs ∧
      readString care (cs.length + 1) [] true cs = .ok (some s, rest) := by
  refine ⟨s.toList.flatMap escaped ++ '"' :: rest, ?_, ?_⟩
  · rw [toList_quoted, List.cons_append, List.append_assoc, List.singleton_append]
  · have hlength := length_le_length_flatMap_escaped s.toList
    rw [readString_flatMap_escaped, List.reverse_nil, List.nil_append, String.ofList_toList]
    rw [List.length_append]
    omega

end SchemaDdl.Json
