import SchemaDdl.Proofs.InlinedTokens

/-!
# Placeholders Under the Lexer

The scanner of placeholders reads one character at a time and remembers one quote. It takes a
doubled quote for the end of a token and the start of another, where the lexer looks ahead and stays
in the token. This module shows that the two agree on placeholders: the scanner counts the question
marks that the lexer finds outside quoted tokens, and the values go to their positions, the first
one to the first position and so on.

A position is the number of characters before it. Positions are read off the tokens, by the
characters that these are written with, so they do not depend on the scanner.

* `Placeholder.positions` — where the question marks outside quoted tokens stand.
* `Placeholder.substitute` — a text with values in place of the characters at some positions.
* `eq_of_substituteFrom_eq` — what comes of all values tells the positions.

## Main results

* `positions_of_lexer` — what is counted, and which positions are replaced.
-/

namespace SchemaDdl

/-! ### Positions -/

/-- Positions between two bounds, in ascending order. -/
structure Ascending (start stop : Nat) (ps : List Nat) : Prop where
  /-- Each position is before the next. -/
  pairwise : ps.Pairwise (· < ·)
  /-- No position is before the first bound. -/
  start_le : ∀ p ∈ ps, start ≤ p
  /-- All positions are before the second bound. -/
  lt_stop : ∀ p ∈ ps, p < stop

namespace Ascending

variable {start stop : Nat} {ps : List Nat}

/-- There may be no positions. -/
theorem nil : Ascending start stop [] :=
  ⟨List.Pairwise.nil, List.forall_mem_nil _, List.forall_mem_nil _⟩

/-- The first bound may be lowered. -/
theorem of_le {first : Nat} (h : Ascending start stop ps) (hfirst : first ≤ start) :
    Ascending first stop ps :=
  ⟨h.pairwise, fun p hp => hfirst.trans (h.start_le p hp), h.lt_stop⟩

/-- The first bound may come in front. -/
theorem cons (h : Ascending (start + 1) stop ps) (hstop : start < stop) :
    Ascending start stop (start :: ps) where
  pairwise := List.pairwise_cons.mpr ⟨h.start_le, h.pairwise⟩
  start_le := List.forall_mem_cons.mpr ⟨le_rfl, (h.of_le start.le_succ).start_le⟩
  lt_stop := List.forall_mem_cons.mpr ⟨hstop, h.lt_stop⟩

/-- The first bound is one of the positions, and then it is the first of them, or all of them are
behind it. -/
theorem eq_cons_or (h : Ascending start stop ps) :
    (∃ qs, ps = start :: qs ∧ Ascending (start + 1) stop qs) ∨ Ascending (start + 1) stop ps := by
  cases ps with
  | nil => exact .inr nil
  | cons p qs =>
      obtain ⟨hp, hqs⟩ := List.pairwise_cons.mp h.pairwise
      obtain ⟨hstart, -⟩ := List.forall_mem_cons.mp h.start_le
      obtain ⟨-, hstop⟩ := List.forall_mem_cons.mp h.lt_stop
      rcases hstart.eq_or_lt with rfl | hlt
      · exact .inl ⟨qs, rfl, hqs, hp, hstop⟩
      · refine .inr ⟨h.pairwise, List.forall_mem_cons.mpr ⟨hlt, fun q hq => ?_⟩, h.lt_stop⟩
        exact hlt.trans (hp q hq)

/-- Between equal bounds there are no positions. -/
theorem eq_nil (h : Ascending start start ps) : ps = [] := by
  refine List.eq_nil_iff_forall_not_mem.mpr fun p hp => ?_
  exact absurd (h.lt_stop p hp) (h.start_le p hp).not_gt

end Ascending

namespace Placeholder

/-- The positions of the question marks among tokens that start at a position. -/
def positionsFrom (start : Nat) : List Token → List Nat
  | [] => []
  | t :: ts =>
    if t = .plain '?' then start :: positionsFrom (start + t.chars.length) ts
    else positionsFrom (start + t.chars.length) ts

/-- The **positions** of the question marks of a statement that stand outside quoted tokens. -/
def positions (sql : String) : List Nat :=
  positionsFrom 0 (lex sql.toList)

/-- A token other than a question mark has no position. -/
theorem positionsFrom_cons_of_ne {t : Token} (h : t ≠ .plain '?') (start : Nat) (ts : List Token) :
    positionsFrom start (t :: ts) = positionsFrom (start + t.chars.length) ts :=
  if_neg h

/-- The positions are in the text of the tokens, in ascending order. -/
theorem ascending_positionsFrom (start : Nat) (ts : List Token) :
    Ascending start (start + (ts.flatMap Token.chars).length) (positionsFrom start ts) := by
  induction ts generalizing start with
  | nil => exact .nil
  | cons t ts ih =>
      have hrest := ih (start + t.chars.length)
      rw [Nat.add_assoc, ← List.length_append, ← List.flatMap_cons] at hrest
      rw [positionsFrom]
      split
      · next hmark =>
          subst hmark
          refine Ascending.cons hrest ?_
          rw [List.flatMap_cons, List.length_append, Token.chars, List.length_singleton]
          omega
      · exact hrest.of_le (Nat.le_add_right _ _)

/-- There are as many positions as question marks outside quoted tokens. -/
theorem length_positionsFrom (start : Nat) (ts : List Token) :
    (positionsFrom start ts).length = (ts.filterMap Token.outside?).count '?' := by
  induction ts generalizing start with
  | nil => rfl
  | cons t ts ih =>
      rcases t with c | ⟨q, content⟩ | ⟨q, rest⟩
      · have houtside : Token.outside? (.plain c) = some c := rfl
        rw [List.filterMap_cons_some houtside, List.count_cons]
        rcases eq_or_ne c '?' with rfl | hc
        · simp [positionsFrom, ih]
        · simp [positionsFrom, ih, hc]
      · rw [positionsFrom_cons_of_ne (by simp), ih, List.filterMap_cons_none rfl]
      · rw [positionsFrom_cons_of_ne (by simp), ih, List.filterMap_cons_none rfl]

/-! ### Values at positions -/

/-- Replaces the characters at some positions by values, the first position by the first value and
so on, in a text that starts at a position. Positions and values that are left over have no
effect. -/
def substituteFrom (start : Nat) (ps : List Nat) (values : List Value) (cs : List Char) :
    List Char :=
  (cs.zipIdx start).flatMap fun (c, p) =>
    ((ps.zip values).lookup p).elim [c] fun v => v.inline.toList

/-- A statement with **values at positions**. -/
def substitute (ps : List Nat) (values : List Value) (sql : String) : String :=
  String.ofList (substituteFrom 0 ps values sql.toList)

variable {start stop : Nat} {ps qs : List Nat}

/-- The first character is replaced if a value belongs to its position. -/
theorem substituteFrom_cons (start : Nat) (ps : List Nat) (vs : List Value) (c : Char)
    (cs : List Char) :
    substituteFrom start ps vs (c :: cs) =
      (((ps.zip vs).lookup start).elim [c] fun v => v.inline.toList) ++
        substituteFrom (start + 1) ps vs cs := by
  rw [substituteFrom, List.zipIdx_cons, List.flatMap_cons]
  rfl

/-- No value belongs to a position before all others. -/
theorem lookup_zip_eq_none (h : Ascending (start + 1) stop ps) (vs : List Value) :
    (ps.zip vs).lookup start = none := by
  refine List.lookup_eq_none_iff.mpr fun pair hpair => ?_
  have hlt := h.start_le _ (List.of_mem_zip hpair).1
  exact bne_iff_ne.mpr (Nat.ne_of_lt hlt)

/-- A character before all positions stays. -/
theorem substituteFrom_stays (h : Ascending (start + 1) stop ps) (vs : List Value) (c : Char)
    (cs : List Char) :
    substituteFrom start ps vs (c :: cs) = c :: substituteFrom (start + 1) ps vs cs := by
  rw [substituteFrom_cons, lookup_zip_eq_none h]
  rfl

/-- A text before all positions stays. -/
theorem substituteFrom_append {cs : List Char} (h : Ascending (start + cs.length) stop ps)
    (vs : List Value) (ds : List Char) :
    substituteFrom start ps vs (cs ++ ds) =
      cs ++ substituteFrom (start + cs.length) ps vs ds := by
  induction cs generalizing start with
  | nil => rfl
  | cons c cs ih =>
      have hstart : start + (c :: cs).length = start + 1 + cs.length := by
        rw [List.length_cons]
        omega
      rw [hstart] at h ⊢
      have hfirst := h.of_le (Nat.le_add_right (start + 1) cs.length)
      rw [List.cons_append, substituteFrom_stays hfirst, ih h, List.cons_append]

/-- Without positions or without values nothing is replaced. -/
theorem substituteFrom_of_zip_eq_nil {vs : List Value} (h : ps.zip vs = []) (start : Nat)
    (cs : List Char) : substituteFrom start ps vs cs = cs := by
  induction cs generalizing start with
  | nil => rfl
  | cons c cs ih =>
      rw [substituteFrom_cons, h, ih]
      rfl

/-- A position that the text is past has no effect. -/
theorem substituteFrom_cons_of_lt {p : Nat} (h : p < start) (v : Value) (vs : List Value)
    (cs : List Char) :
    substituteFrom start (p :: ps) (v :: vs) cs = substituteFrom start ps vs cs := by
  induction cs generalizing start with
  | nil => rfl
  | cons c cs ih =>
      have hne : (start == p) = false := beq_false_of_ne (Nat.ne_of_gt h)
      rw [substituteFrom_cons, substituteFrom_cons, List.zip_cons_cons, List.lookup_cons, hne,
        ih (h.trans start.lt_succ_self)]

/-- The character at the first position is replaced by the first value. -/
theorem substituteFrom_replaces (start : Nat) (ps : List Nat) (v : Value) (vs : List Value)
    (c : Char) (cs : List Char) :
    substituteFrom start (start :: ps) (v :: vs) (c :: cs) =
      v.inline.toList ++ substituteFrom (start + 1) ps vs cs := by
  rw [substituteFrom_cons, substituteFrom_cons_of_lt start.lt_succ_self, List.zip_cons_cons,
    List.lookup_cons_self]
  rfl

/-! ### What the values tell about the positions -/

/-- A character that is replaced cannot look as if it stayed: two values that start differently
show the difference. -/
theorem substituteFrom_replaces_ne_stays {c : Char} {cs : List Char}
    (hqs : Ascending (start + 1) stop qs) :
    ¬ ∀ vs, substituteFrom start (start :: ps) vs (c :: cs) =
      substituteFrom start qs vs (c :: cs) := by
  intro h
  have hnull := h [.null]
  have htrue := h [.bool true]
  rw [substituteFrom_replaces, substituteFrom_stays hqs] at hnull htrue
  have hN : 'N' = c := (List.cons.inj hnull).1
  have hT : 'T' = c := (List.cons.inj htrue).1
  exact absurd (hN.trans hT.symm) (by decide)

/-- **The values tell the positions**: positions of a text are the same if all values give the same
texts there. The induction is on the text, by whether its first character is replaced. -/
theorem eq_of_substituteFrom_eq {cs : List Char} (hps : Ascending start (start + cs.length) ps)
    (hqs : Ascending start (start + cs.length) qs)
    (h : ∀ vs, substituteFrom start ps vs cs = substituteFrom start qs vs cs) : ps = qs := by
  induction cs generalizing start ps qs with
  | nil => rw [hps.eq_nil, hqs.eq_nil]
  | cons c cs ih =>
      have hstop : start + (c :: cs).length = start + 1 + cs.length := by
        rw [List.length_cons]
        omega
      rw [hstop] at hps hqs
      rcases hps.eq_cons_or with ⟨ps, rfl, hps'⟩ | hps' <;>
        rcases hqs.eq_cons_or with ⟨qs, rfl, hqs'⟩ | hqs'
      · -- Both replace the first character, so any value may be spent on it.
        refine congrArg _ (ih hps' hqs' fun vs => ?_)
        have hvs := h (.null :: vs)
        rw [substituteFrom_replaces, substituteFrom_replaces] at hvs
        exact List.append_cancel_left hvs
      · exact absurd h (substituteFrom_replaces_ne_stays hqs')
      · exact absurd (fun vs => (h vs).symm) (substituteFrom_replaces_ne_stays hps')
      · -- Both keep it.
        refine ih hps' hqs' fun vs => ?_
        have hvs := h vs
        rw [substituteFrom_stays hps', substituteFrom_stays hqs'] at hvs
        exact (List.cons.inj hvs).2

/-! ### The scanner and the lexer -/

/-- **Inlining replaces the positions of the lexer.** The induction follows the lexer, token by
token; a quoted token is passed over by both sides as a whole. -/
theorem inlineFrom_eq_substituteFrom (start : Nat) (vs : List Value) (cs : List Char) :
    inlineFrom none vs cs = substituteFrom start (positionsFrom start (lex cs)) vs cs := by
  induction cs using lex_induction generalizing start vs with
  | nil => rw [inlineFrom_text_nil]; rfl
  | plain c cs hc ih =>
      have hrest := ascending_positionsFrom (start + 1) (lex cs)
      rw [lex_cons_plain hc]
      rcases eq_or_ne c '?' with rfl | hmark
      · rw [positionsFrom, if_pos rfl, Token.chars, List.length_singleton]
        cases vs with
        | nil => rw [inlineFrom_nil, substituteFrom_of_zip_eq_nil List.zip_nil_right]
        | cons v vs => rw [inlineFrom_mark, substituteFrom_replaces, ← ih]
      · have hno : isMark none c = false := by simp [isMark, hmark]
        have hstep : Scan.step none c = none := by simp [Scan.step, hc]
        rw [positionsFrom_cons_of_ne (by simpa using hmark), Token.chars, List.length_singleton,
          inlineFrom_cons hno, hstep, substituteFrom_stays hrest, ← ih]
  | quoted q body rest hq hrest ih =>
      have hpasses := @Lexeme.inlineFrom_chars_append (.token (.quoted q body)) hq (by simp) trivial
        rest hrest vs
      have hbehind := ascending_positionsFrom (start + (Token.quoted q body).chars.length)
        (lex rest)
      have hchars : q :: (doubled q body ++ q :: rest) =
          (Token.quoted q body).chars ++ rest := by simp [Token.chars]
      rw [lex_quoted_append hq body hrest, positionsFrom_cons_of_ne (by simp), hchars,
        substituteFrom_append hbehind, ← ih]
      exact hpasses
  | unclosed q cs hq hread =>
      have hpasses := @Lexeme.inlineFrom_chars_append (.token (.unclosed q cs)) ⟨hq, hread⟩
        (by simp) trivial [] rfl vs
      rw [inlineFrom_text_nil, List.append_nil] at hpasses
      rw [lex_cons_unclosed hq hread, positionsFrom_cons_of_ne (by simp), positionsFrom,
        substituteFrom_of_zip_eq_nil List.zip_nil_left]
      exact hpasses

/-- **The scanner finds what the lexer finds.** It counts the question marks outside the quoted
tokens of a statement, one for each of their positions. Inlining replaces these positions and no
others: the first position by the first value and so on, as long as there are both, whatever the
values are. No other positions in the statement give the same texts. -/
theorem positions_of_lexer (sql : String) :
    count sql = (outside sql.toList).count '?' ∧
    count sql = (positions sql).length ∧
    Ascending 0 sql.length (positions sql) ∧
    ∀ ps, Ascending 0 sql.length ps →
      ((∀ values, inline sql values = substitute ps values sql) ↔ ps = positions sql) := by
  have houtside : count sql = (outside sql.toList).count '?' := by
    rw [outside_lex, count, countFrom_eq_count_unquoted]
  have hascending : Ascending 0 (0 + sql.toList.length) (positions sql) := by
    have hpositions := ascending_positionsFrom 0 (lex sql.toList)
    rwa [flatMap_chars_lex] at hpositions
  have hinline : ∀ values, inline sql values = substitute (positions sql) values sql := by
    intro values
    rw [inline, substitute, inlineFrom_eq_substituteFrom 0]
    rfl
  have hlength : 0 + sql.toList.length = sql.length := by rw [Nat.zero_add, String.length_toList]
  refine ⟨houtside, ?_, hlength ▸ hascending, fun ps hps => ⟨fun h => ?_, ?_⟩⟩
  · rw [houtside, positions, length_positionsFrom, outside]
  · refine eq_of_substituteFrom_eq (hlength ▸ hps) hascending fun values => ?_
    have hvalues := (h values).symm.trans (hinline values)
    exact String.ofList_injective hvalues
  · rintro rfl
    exact hinline

/-- A question mark behind a doubled quote, one in a token that never ends, and two placeholders
with one value. -/
theorem positions_of_lexer_of_doubled_quote :
    Ascending 0 20 [9, 14] ∧
      positions "'a''?' = ? OR ? = \"?" = [9, 14] ∧
      inline "'a''?' = ? OR ? = \"?" [.text "it's"] = "'a''?' = 'it''s' OR ? = \"?" := by
  have hascending : Ascending 0 20 [9, 14] := ⟨by decide, by decide, by decide⟩
  have hpositions : positions "'a''?' = ? OR ? = \"?" = [9, 14] := by
    decide +kernel
  obtain ⟨-, -, -, hexact⟩ := positions_of_lexer "'a''?' = ? OR ? = \"?"
  have hinline := (hexact [9, 14] hascending).mpr hpositions.symm [.text "it's"]
  refine ⟨hascending, hpositions, hinline.trans ?_⟩
  decide +kernel

end Placeholder

end SchemaDdl
