import Mathlib.Data.List.Basic
import SchemaDdl.Guard
import SchemaDdl.Proofs.Inlining

/-!
# Error Guards Run Their Statement

A guarded statement is text twice over: its values are written into its text with quotes of their
own, and the whole becomes a string literal of the block around it. This module reads such a block
back with the quote lexer, whatever the statement holds: unbalanced quotes, question marks in
literals, values that look like SQL.

* `lex_catchBlock`, `blockTokens` — a block is words, one literal whose content is the text that it
  runs, and words again. The handler in these words compares with the code that it is made for.
* `catchBlock_inj` — a block is made for one text and one code.
* `inert_catchBlock` — a block has no placeholder and leaves no quote open, even if its text does.
* `Statement.guard?_oracle` — the guard of a statement: whether there is one, what it runs and what
  it passes over.
-/

namespace SchemaDdl

/-! ### Numbers -/

/-- A natural number is determined by its decimal digits. -/
theorem toString_nat_injective : Function.Injective (toString : Nat → String) := by
  intro m n h
  rw [Nat.toString_eq_repr, Nat.toString_eq_repr] at h
  have hdigits := congrArg (fun s => Nat.ofDigitChars 10 s.toList 0) h
  simpa [Nat.toList_repr, Nat.ofDigitChars_toDigits] using hdigits

/-- No natural number starts with a minus in decimal. -/
theorem toString_nat_ne_minus (n : Nat) (s : String) : toString n ≠ "-" ++ s := by
  intro h
  rw [Nat.toString_eq_repr] at h
  have hmem : '-' ∈ Nat.toDigits 10 n := by
    rw [← Nat.toList_repr, h, String.toList_append]
    exact List.mem_cons_self
  exact absurd (Nat.isDigit_of_mem_toDigits (by decide) (by decide) hmem) (by decide)

/-- An integer is determined by its decimal text. -/
theorem toString_int_injective : Function.Injective (toString : Int → String) := by
  have hneg : ∀ n : Nat, toString (Int.negSucc n) = "-" ++ toString (n + 1) := fun _ => rfl
  have hnat : ∀ n : Nat, toString (Int.ofNat n) = toString n := fun _ => rfl
  intro m n h
  cases m with
  | ofNat m =>
      cases n with
      | ofNat n => exact congrArg Int.ofNat (toString_nat_injective h)
      | negSucc n =>
          rw [hnat, hneg] at h
          exact absurd h (toString_nat_ne_minus m _)
  | negSucc m =>
      cases n with
      | ofNat n =>
          rw [hnat, hneg] at h
          exact absurd h.symm (toString_nat_ne_minus n _)
      | negSucc n =>
          rw [hneg, hneg, String.append_right_inj] at h
          exact congrArg Int.negSucc (Nat.succ.inj (toString_nat_injective h))

/-! ### Blocks -/

/-- The words of a block after the text that it runs: they pass over one error code, and raise
every other error again. -/
def handlerText (code : Int32) : String :=
  "; EXCEPTION WHEN OTHERS THEN IF SQLCODE != " ++ toString code.toInt ++
    " THEN RAISE; END IF; END;"

/-- The tokens of a block: words, the text that it runs as one literal, and its handler. -/
def blockTokens (sql : String) (code : Int32) : List Token :=
  "BEGIN EXECUTE IMMEDIATE ".toList.map .plain ++
    .quoted literalQuote sql.toList :: (handlerText code).toList.map .plain

/-- A block is words, a literal and a handler. -/
theorem catchBlock_eq (sql : String) (code : Int32) :
    catchBlock sql code = "BEGIN EXECUTE IMMEDIATE " ++ quoteLiteral sql ++ handlerText code := by
  unfold catchBlock handlerText
  simp only [String.append_assoc]

/-- A handler is plain. -/
theorem plain_handlerText (code : Int32) : Plain (handlerText code) :=
  (Plain.append (by rfl) (plain_toString_int _)).append (by rfl)

/-- A handler starts with a semicolon. -/
theorem startsPlain_handlerText (code : Int32) : StartsPlain (handlerText code).toList := by
  have hsemi : Plain "; EXCEPTION WHEN OTHERS THEN IF SQLCODE != " := by rfl
  unfold handlerText
  rw [String.append_assoc, String.toList_append]
  exact startsPlain_append hsemi (by decide) _

/-- The tokens of a plain text are its characters. -/
theorem lex_of_plain {w : String} (hw : Plain w) : lex w.toList = w.toList.map .plain := by
  have h := lex_plain_append (fun c hc => isQuote_of_isPlain (plain_iff.mp hw c hc)) []
  rwa [List.append_nil, lex_nil, List.append_nil] at h

/-- **A block is read back**: its only literal closes in front of the handler, and holds the text
that the block runs. -/
theorem lex_catchBlock (sql : String) (code : Int32) :
    lex (catchBlock sql code).toList = blockTokens sql code := by
  have hwords : Plain "BEGIN EXECUTE IMMEDIATE " := by rfl
  unfold blockTokens
  rw [catchBlock_eq, String.append_assoc, String.toList_append, String.toList_append,
    lex_plain_append fun c hc => isQuote_of_isPlain (plain_iff.mp hwords c hc),
    lex_quoteLiteral_append sql (startsPlain_handlerText code),
    lex_of_plain (plain_handlerText code)]

/-- A block is inert, whatever text it runs. -/
theorem inert_catchBlock (sql : String) (code : Int32) : Inert (catchBlock sql code) := by
  have hwords : Plain "BEGIN EXECUTE IMMEDIATE " := by rfl
  rw [catchBlock_eq]
  exact (hwords.inert.append (inert_quoteLiteral sql)).append (plain_handlerText code).inert

/-- A handler compares with one code only. -/
theorem handlerText_injective : Function.Injective handlerText := by
  intro c d h
  unfold handlerText at h
  have hcode : toString c.toInt = toString d.toInt := by
    rwa [String.append_left_inj, String.append_right_inj] at h
  exact Int32.toInt_inj.mp (toString_int_injective hcode)

/-- **A block is made for one text and one code.** -/
theorem catchBlock_inj {a b : String} {c d : Int32} :
    catchBlock a c = catchBlock b d ↔ a = b ∧ c = d := by
  constructor
  · intro h
    have htokens : blockTokens a c = blockTokens b d := by
      rw [← lex_catchBlock, h, lex_catchBlock]
    unfold blockTokens at htokens
    obtain ⟨hliteral, hhandler⟩ := List.cons.inj (List.append_cancel_left htokens)
    have hplain : Function.Injective Token.plain := fun _ _ => Token.plain.inj
    have hwords := String.toList_injective (List.map_injective_iff.mpr hplain hhandler)
    exact ⟨String.toList_injective (Token.quoted.inj hliteral).2, handlerText_injective hwords⟩
  · rintro ⟨rfl, rfl⟩
    rfl

/-! ### The guard of a statement -/

namespace Statement

/-- **The guard of a statement.** It is there exactly if an error is suppressed. It binds nothing
and suppresses nothing, and passes the check of its placeholders whatever the statement holds. Its
only literal is the text of the statement with the values inlined, and its handler passes over the
code of the statement and no other. If the statement has a value for each placeholder, the text in
the literal has none left. -/
theorem guard?_oracle (s : Statement) :
    (s.guard? .oracle = none ↔ s.suppress = none) ∧
      ∀ code, s.suppress = some code →
        ∃ g, s.guard? .oracle = some g ∧ g.bindings = [] ∧ g.suppress = none ∧
          g.checkBindings = .ok () ∧
          lex g.sql.toList = blockTokens (Placeholder.inline s.sql s.bindings) code ∧
          (s.checkBindings = .ok () →
            Placeholder.count (Placeholder.inline s.sql s.bindings) = 0) := by
  refine ⟨Option.map_eq_none_iff, fun code hcode => ?_⟩
  refine ⟨{ sql := catchBlock (Placeholder.inline s.sql s.bindings) code }, ?_, rfl, rfl, ?_,
    lex_catchBlock _ _, ?_⟩
  · rw [guard?, hcode, Option.map_some]
  · exact (checkBindings_eq_ok_iff _).mpr (inert_catchBlock _ _).count_eq
  · intro hcheck
    rw [count_inline, (checkBindings_eq_ok_iff s).mp hcheck, Nat.sub_self]

/-- The guard of a statement with a question mark in a literal and a quote in a value. -/
theorem guard?_oracle_of_quotes :
    ∃ g, guard? ⟨"INSERT INTO t VALUES (?, '?')", [.text "it's"], some (-955)⟩ .oracle = some g ∧
      g.checkBindings = .ok () ∧
      lex g.sql.toList = blockTokens "INSERT INTO t VALUES ('it''s', '?')" (-955) ∧
      Placeholder.count "INSERT INTO t VALUES ('it''s', '?')" = 0 := by
  obtain ⟨g, hg, -, -, hcheck, hlex, hcount⟩ :=
    (guard?_oracle ⟨"INSERT INTO t VALUES (?, '?')", [.text "it's"], some (-955)⟩).2 (-955) rfl
  exact ⟨g, hg, hcheck, hlex, hcount rfl⟩

end Statement

end SchemaDdl
