import SchemaDdl.Proofs.Scanner

/-!
# The Quote Lexer

The scanner of placeholders knows nothing but the quote that is open. An SQL lexer also looks ahead,
because a quote that is written twice inside a token stands for itself and does not end the token.
This module gives that lexer and relates the two.

## Convention

A token opened by a single quote, a double quote or a backtick runs to the next such character that
is not followed by another one. Its content is what stands between the quotes, with doubled quotes
undone. A token that never ends is reported as `unclosed` with the rest of the text.

## Main results

* `readContent_eq_some_iff` — a content ends where the convention says, and nowhere else.
* `flatMap_chars_lex` — the lexer loses nothing: its tokens spell the text.
* `outside_lex` — outside the tokens stand exactly the characters that the scanner sees with no
  quote open.
* `lex_closed_iff` — every token ends exactly if the scanner leaves no quote open.
* `lex_quoted_append`, `lex_plain_append` — how a text is lexed that starts with a quoted content or
  with plain characters.
-/

namespace SchemaDdl

/-! ### Doubled quotes and the scanner -/

/-- The characters of a text with quotes doubled, one character at a time. -/
theorem doubled_cons (q c : Char) (cs : List Char) :
    doubled q (c :: cs) = (if c = q then [q, q] else [c]) ++ doubled q cs :=
  List.flatMap_cons

/-- A doubled content leaves the scanner inside the quotes. -/
theorem after_doubled {q : Char} (hq : isQuote q = true) (cs : List Char) :
    Scan.after (some q) (doubled q cs) = some q := by
  induction cs with
  | nil => rfl
  | cons c cs ih =>
      rw [doubled_cons, Scan.after_append]
      by_cases hc : c = q
      · simpa [hc, Scan.step, hq] using ih
      · simpa [hc, Scan.step] using ih

/-- A doubled content has no character outside quotes. -/
theorem unquoted_doubled {q : Char} (hq : isQuote q = true) (cs : List Char) :
    Scan.unquoted (some q) (doubled q cs) = [] := by
  induction cs with
  | nil => rfl
  | cons c cs ih =>
      rw [doubled_cons, Scan.unquoted_append]
      by_cases hc : c = q
      · simpa [hc, Scan.step, Scan.unquoted, hq] using ih
      · simpa [hc, Scan.step, Scan.unquoted] using ih

/-- A doubled content has no placeholder. -/
theorem countFrom_doubled {q : Char} (hq : isQuote q = true) (cs : List Char) :
    Placeholder.countFrom (some q) (doubled q cs) = 0 := by
  induction cs with
  | nil => rfl
  | cons c cs ih =>
      rw [doubled_cons, Placeholder.countFrom_append]
      by_cases hc : c = q
      · have hm : q ≠ '?' := by rintro rfl; exact absurd hq (by decide)
        simpa [hc, Scan.step, Placeholder.countFrom, Placeholder.isMark, hq, hm] using ih
      · simpa [hc, Scan.step, Placeholder.countFrom, Placeholder.isMark] using ih

/-! ### Contents -/

/-- Reads the content of a token opened by `q` up to its closing quote, together with what follows.
There is no result if the token never ends. -/
def readContent (q : Char) : List Char → Option (List Char × List Char)
  | [] => none
  | c :: cs =>
    if c = q then
      match cs with
      | [] => some ([], [])
      | d :: ds =>
        if d = q then (readContent q ds).map fun r => (q :: r.1, r.2) else some ([], d :: ds)
    else (readContent q cs).map fun r => (c :: r.1, r.2)

/-- A character that is not the quote belongs to the content. -/
theorem readContent_cons {q c : Char} (hc : c ≠ q) (cs : List Char) :
    readContent q (c :: cs) = (readContent q cs).map fun r => (c :: r.1, r.2) := by
  cases cs with
  | nil => simp [readContent, hc]
  | cons d ds => rw [readContent, if_neg hc]

/-- A doubled quote belongs to the content once. -/
theorem readContent_double (q : Char) (cs : List Char) :
    readContent q (q :: q :: cs) = (readContent q cs).map fun r => (q :: r.1, r.2) := by
  rw [readContent, if_pos rfl, if_pos rfl]

/-- A quote that is not doubled ends the content. -/
theorem readContent_close {q : Char} {rest : List Char} (h : rest.head? ≠ some q) :
    readContent q (q :: rest) = some ([], rest) := by
  cases rest with
  | nil => rw [readContent, if_pos rfl]
  | cons d ds =>
      have hd : d ≠ q := fun he => h (congrArg some he)
      rw [readContent, if_pos rfl, if_neg hd]

/-- A doubled content is read to its closing quote, unless another quote follows at once. -/
theorem readContent_doubled_append {q : Char} (body : List Char) {rest : List Char}
    (h : rest.head? ≠ some q) :
    readContent q (doubled q body ++ q :: rest) = some (body, rest) := by
  induction body with
  | nil => exact readContent_close h
  | cons c body ih =>
      rw [doubled_cons, List.append_assoc]
      by_cases hc : c = q
      · subst hc
        rw [if_pos rfl, List.cons_append, List.cons_append, List.nil_append, readContent_double, ih]
        rfl
      · rw [if_neg hc, List.cons_append, List.nil_append, readContent_cons hc, ih]
        rfl

/-- What is read as content stands doubled in the text, before a closing quote that no other quote
follows. -/
theorem eq_doubled_of_readContent {q : Char} {cs body rest : List Char}
    (h : readContent q cs = some (body, rest)) :
    cs = doubled q body ++ q :: rest ∧ rest.head? ≠ some q := by
  induction cs using readContent.induct q generalizing body with
  | case1 => simp [readContent] at h
  | case2 =>
      rw [readContent_close (by simp), Option.some.injEq, Prod.mk.injEq] at h
      obtain ⟨rfl, rfl⟩ := h
      exact ⟨rfl, by simp⟩
  | case3 ds ih =>
      simp only [readContent_double, Option.map_eq_some_iff, Prod.mk.injEq] at h
      obtain ⟨⟨body, _⟩, hr, rfl, rfl⟩ := h
      obtain ⟨rfl, hrest⟩ := ih hr
      rw [doubled_cons, if_pos rfl]
      exact ⟨rfl, hrest⟩
  | case4 d ds hd =>
      have hrest : (d :: ds).head? ≠ some q := by simpa using hd
      rw [readContent_close hrest, Option.some.injEq, Prod.mk.injEq] at h
      obtain ⟨rfl, rfl⟩ := h
      exact ⟨rfl, hrest⟩
  | case5 c cs hc ih =>
      simp only [readContent_cons hc, Option.map_eq_some_iff, Prod.mk.injEq] at h
      obtain ⟨⟨body, _⟩, hr, rfl, rfl⟩ := h
      obtain ⟨rfl, hrest⟩ := ih hr
      rw [doubled_cons, if_neg hc]
      exact ⟨rfl, hrest⟩

/-- A content ends at the first quote that is not doubled, and nowhere else. -/
theorem readContent_eq_some_iff {q : Char} {cs body rest : List Char} :
    readContent q cs = some (body, rest) ↔
      cs = doubled q body ++ q :: rest ∧ rest.head? ≠ some q := by
  constructor
  · exact eq_doubled_of_readContent
  · rintro ⟨rfl, h⟩
    exact readContent_doubled_append body h

/-- What follows a content is shorter than the text. -/
theorem length_lt_of_readContent {q : Char} {cs body rest : List Char}
    (h : readContent q cs = some (body, rest)) : rest.length < cs.length := by
  obtain ⟨rfl, -⟩ := readContent_eq_some_iff.mp h
  simp only [List.length_append, List.length_cons]
  omega

/-- Where no content ends, the scanner stays inside the quotes, so that nothing is outside. -/
theorem after_of_readContent_eq_none {q : Char} (hq : isQuote q = true) {cs : List Char}
    (h : readContent q cs = none) :
    Scan.after (some q) cs = some q ∧ Scan.unquoted (some q) cs = [] := by
  induction cs using readContent.induct q with
  | case1 => exact ⟨rfl, rfl⟩
  | case2 => simp [readContent] at h
  | case3 ds ih =>
      rw [readContent_double, Option.map_eq_none_iff] at h
      simpa [Scan.step, Scan.unquoted, hq] using ih h
  | case4 d ds hd =>
      have hrest : (d :: ds).head? ≠ some q := by simpa using hd
      rw [readContent_close hrest] at h
      cases h
  | case5 c cs hc ih =>
      rw [readContent_cons hc, Option.map_eq_none_iff] at h
      simpa [Scan.step, Scan.unquoted, hc] using ih h

/-! ### Tokens -/

/-- A token of the quote lexer. -/
inductive Token where
  /-- A character outside quotes. -/
  | plain (c : Char)
  /-- A quoted token with its content. -/
  | quoted (quote : Char) (content : List Char)
  /-- A quote that is never closed, with the rest of the text. -/
  | unclosed (quote : Char) (rest : List Char)
  deriving DecidableEq, Repr

namespace Token

/-- The characters that a token is written with. -/
def chars : Token → List Char
  | plain c => [c]
  | quoted q content => q :: doubled q content ++ [q]
  | unclosed q rest => q :: rest

/-- The character of a token that stands outside quotes. -/
def outside? : Token → Option Char
  | plain c => some c
  | quoted .. => none
  | unclosed .. => none

/-- The quote and the content of a token that is quoted. -/
def quoted? : Token → Option (Char × List Char)
  | plain _ => none
  | quoted q content => some (q, content)
  | unclosed .. => none

/-- Whether a token ends. -/
def closed : Token → Bool
  | plain _ => true
  | quoted .. => true
  | unclosed .. => false

end Token

/-- The tokens of a text. -/
def lex : List Char → List Token
  | [] => []
  | c :: cs =>
    if isQuote c then
      match _h : readContent c cs with
      | some (content, rest) => .quoted c content :: lex rest
      | none => [.unclosed c cs]
    else .plain c :: lex cs
termination_by cs => cs.length
decreasing_by
  · exact Nat.lt_succ_of_lt (length_lt_of_readContent _h)
  · exact Nat.lt_succ_self cs.length

/-- There are no tokens in an empty text. -/
@[simp] theorem lex_nil : lex [] = [] := by
  rw [lex]

/-- A character that is no quote is a token of its own. -/
theorem lex_cons_plain {c : Char} (hc : isQuote c = false) (cs : List Char) :
    lex (c :: cs) = .plain c :: lex cs := by
  rw [lex, hc, if_neg Bool.false_ne_true]

/-- A quote opens a token that ends with its content. -/
theorem lex_cons_quote {q : Char} (hq : isQuote q = true) {cs content rest : List Char}
    (h : readContent q cs = some (content, rest)) :
    lex (q :: cs) = .quoted q content :: lex rest := by
  rw [lex, if_pos hq]
  split
  · next h' =>
      rw [h, Option.some.injEq, Prod.mk.injEq] at h'
      obtain ⟨rfl, rfl⟩ := h'
      rfl
  · next h' => rw [h] at h'; cases h'

/-- A quote whose content never ends takes the rest of the text. -/
theorem lex_cons_unclosed {q : Char} (hq : isQuote q = true) {cs : List Char}
    (h : readContent q cs = none) : lex (q :: cs) = [.unclosed q cs] := by
  rw [lex, if_pos hq]
  split
  · next h' => rw [h] at h'; cases h'
  · rfl

/-- The three ways in which a text is lexed, as an induction principle. -/
theorem lex_induction {P : List Char → Prop} (nil : P [])
    (plain : ∀ c cs, isQuote c = false → P cs → P (c :: cs))
    (quoted : ∀ q body rest, isQuote q = true → rest.head? ≠ some q → P rest →
      P (q :: (doubled q body ++ q :: rest)))
    (unclosed : ∀ q cs, isQuote q = true → readContent q cs = none → P (q :: cs))
    (cs : List Char) : P cs := by
  induction cs using lex.induct with
  | case1 => exact nil
  | case2 q cs hq body rest h ih =>
      obtain ⟨rfl, hrest⟩ := readContent_eq_some_iff.mp h
      exact quoted q body rest hq hrest ih
  | case3 q cs hq h => exact unclosed q cs hq h
  | case4 c cs hc ih => exact plain c cs (Bool.not_eq_true _ ▸ hc) ih

/-! ### Lexing the parts of a statement -/

/-- **A quoted content is read back**, provided that the same quote does not follow at once. -/
theorem lex_quoted_append {q : Char} (hq : isQuote q = true) (body : List Char) {rest : List Char}
    (h : rest.head? ≠ some q) :
    lex (q :: (doubled q body ++ q :: rest)) = .quoted q body :: lex rest :=
  lex_cons_quote hq (readContent_doubled_append body h)

/-- Characters that are no quotes are tokens of their own. -/
theorem lex_plain_append {cs : List Char} (h : ∀ c ∈ cs, isQuote c = false) (rest : List Char) :
    lex (cs ++ rest) = cs.map .plain ++ lex rest := by
  induction cs with
  | nil => rfl
  | cons c cs ih =>
      obtain ⟨hc, hcs⟩ := List.forall_mem_cons.mp h
      rw [List.cons_append, lex_cons_plain hc, ih hcs]
      rfl

/-! ### The lexer and the text -/

/-- **The lexer loses nothing**: the tokens of a text spell it. -/
theorem flatMap_chars_lex (cs : List Char) : (lex cs).flatMap Token.chars = cs := by
  induction cs using lex_induction with
  | nil => rw [lex_nil, List.flatMap_nil]
  | plain c cs hc ih => rw [lex_cons_plain hc, List.flatMap_cons, ih]; rfl
  | quoted q body rest hq hrest ih =>
      rw [lex_quoted_append hq body hrest, List.flatMap_cons, ih, Token.chars]
      simp
  | unclosed q cs hq h => rw [lex_cons_unclosed hq h]; simp [Token.chars]

/-- The characters of a text that stand outside its tokens. -/
def outside (cs : List Char) : List Char :=
  (lex cs).filterMap Token.outside?

/-- **Outside the tokens** stand the characters that the scanner sees with no quote open, although
the scanner takes a doubled quote for the end of a token and the start of another. -/
theorem outside_lex (cs : List Char) : outside cs = Scan.unquoted none cs := by
  rw [outside]
  induction cs using lex_induction with
  | nil => rw [lex_nil]; rfl
  | plain c cs hc ih =>
      rw [lex_cons_plain hc]
      simpa [Token.outside?, Scan.unquoted, Scan.step, hc] using ih
  | quoted q body rest hq hrest ih =>
      rw [lex_quoted_append hq body hrest, List.filterMap_cons_none rfl]
      simpa [Scan.unquoted, Scan.unquoted_append, unquoted_doubled hq,
        after_doubled hq, Scan.step, hq] using ih
  | unclosed q cs hq h =>
      rw [lex_cons_unclosed hq h]
      simp [Token.outside?, Scan.unquoted, Scan.step, hq, (after_of_readContent_eq_none hq h).2]

/-- **Every token ends** exactly if the scanner leaves no quote open. -/
theorem lex_closed_iff (cs : List Char) :
    (∀ t ∈ lex cs, t.closed = true) ↔ Scan.after none cs = none := by
  induction cs using lex_induction with
  | nil => simp
  | plain c cs hc ih =>
      rw [lex_cons_plain hc]
      simpa [Token.closed, Scan.step, hc] using ih
  | quoted q body rest hq hrest ih =>
      rw [lex_quoted_append hq body hrest]
      simpa [Token.closed, after_doubled hq, Scan.step, hq] using ih
  | unclosed q cs hq h =>
      rw [lex_cons_unclosed hq h]
      simp [Token.closed, Scan.step, hq, (after_of_readContent_eq_none hq h).1]

end SchemaDdl
