import Mathlib.Data.List.Chain
import Mathlib.Data.List.TakeWhile
import SchemaDdl.Proofs.InliningSteps

/-!
# Inlined Values and Their Neighbours

A value that is written into a statement stands between whatever the statement has there. Quotes in
a value are doubled, so the value by itself is what it should be. But the characters at its ends may
join those around it: a negative number after a minus starts a comment, and a text next to a literal
becomes one literal with it. This module gives a lexer that knows comments and states exactly when
that happens.

## Convention

Two minus signs outside quotes start a comment, which runs to the end of the line. The line break
does not belong to it. Quoted tokens and other characters are those of the quote lexer.

## Main results

* `lexemes_append` — a lexeme is read back if what follows lets it end.
* `lexemes_flatMap_chars_iff` — lexemes one after the other are read back exactly if each of them
  ends where the next one starts.
* `flatMap_chars_fill` — inlining writes the lexemes of the values in place of the placeholders.
* `firm_of_mem_value` — a value by itself has neither comments nor open quotes in it.
* `lexemes_inline` — inlining keeps the lexemes exactly if none of them joins its neighbour, and it
  always does so where placeholders keep apart from what stands around them.
-/

namespace SchemaDdl

/-! ### Lexemes -/

/-- A lexeme of SQL: a token of the quote lexer or a comment. -/
inductive Lexeme where
  /-- A token of the quote lexer. -/
  | token (t : Token)
  /-- A comment with its text. -/
  | comment (text : List Char)
  deriving DecidableEq, Repr

namespace Lexeme

/-- A character outside quotes. -/
abbrev plain (c : Char) : Lexeme :=
  .token (.plain c)

/-- The lexeme that is a placeholder. -/
abbrev mark : Lexeme :=
  plain '?'

/-- The characters that a lexeme is written with. -/
def chars : Lexeme → List Char
  | token t => t.chars
  | comment text => '-' :: '-' :: text

/-- Whether a lexeme **ends** where the given character follows, or where nothing follows: a minus
does not end at another one, a quoted token at its quote, and a comment within its line. -/
def Ends : Lexeme → Option Char → Prop
  | token (.plain c), next? => c = '-' → next? ≠ some '-'
  | token (.quoted q _), next? => next? ≠ some q
  | token (.unclosed ..), next? => next? = none
  | comment _, next? => ∀ c ∈ next?, c = '\n'

/-- Whether a lexeme is one that the lexer can read. -/
def WellFormed : Lexeme → Prop
  | token (.plain c) => isQuote c = false
  | token (.quoted q _) => isQuote q = true
  | token (.unclosed q rest) => isQuote q = true ∧ readContent q rest = none
  | comment text => '\n' ∉ text

/-- Whether a lexeme ends where another one follows. -/
def Fits (t u : Lexeme) : Prop :=
  t.Ends u.chars.head?

/-- Every lexeme ends where nothing follows. -/
theorem ends_none (t : Lexeme) : t.Ends none := by
  rcases t with (c | ⟨q, content⟩ | ⟨q, rest⟩) | text
  · rintro - ⟨⟩
  · rintro ⟨⟩
  · rfl
  · rintro c ⟨⟩

/-- Every lexeme is written with some character. -/
theorem chars_ne_nil (t : Lexeme) : t.chars ≠ [] := by
  rcases t with (c | ⟨q, content⟩ | ⟨q, rest⟩) | text <;> exact List.cons_ne_nil _ _

/-- What follows a lexeme starts with the next one. -/
theorem head?_flatMap_chars (u : Lexeme) (us : List Lexeme) :
    ((u :: us).flatMap chars).head? = u.chars.head? := by
  rw [List.flatMap_cons, List.head?_append_of_ne_nil _ u.chars_ne_nil]

end Lexeme

/-! ### The lexer -/

/-- The lexemes of a text. -/
def lexemes : List Char → List Lexeme
  | [] => []
  | c :: cs =>
    if isQuote c then
      match _h : readContent c cs with
      | some (content, rest) => .token (.quoted c content) :: lexemes rest
      | none => [.token (.unclosed c cs)]
    else if c = '-' ∧ cs.head? = some '-' then
      .comment (cs.tail.takeWhile (· != '\n')) :: lexemes (cs.tail.dropWhile (· != '\n'))
    else .plain c :: lexemes cs
termination_by cs => cs.length
decreasing_by
  · exact Nat.lt_succ_of_lt (length_lt_of_readContent _h)
  · have hdrop := (List.dropWhile_suffix (l := cs.tail) (· != '\n')).length_le
    rw [List.length_tail] at hdrop
    simp only [List.length_cons]
    omega
  · exact Nat.lt_succ_self cs.length

/-- There are no lexemes in an empty text. -/
@[simp] theorem lexemes_nil : lexemes [] = [] := by
  rw [lexemes]

/-- A quote opens a token that ends with its content. -/
theorem lexemes_cons_quote {q : Char} (hq : isQuote q = true) {cs content rest : List Char}
    (h : readContent q cs = some (content, rest)) :
    lexemes (q :: cs) = .token (.quoted q content) :: lexemes rest := by
  rw [lexemes, if_pos hq]
  split
  · next h' =>
      rw [h, Option.some.injEq, Prod.mk.injEq] at h'
      obtain ⟨rfl, rfl⟩ := h'
      rfl
  · next h' =>
      rw [h] at h'
      cases h'

/-- A quote whose content never ends takes the rest of the text. -/
theorem lexemes_cons_unclosed {q : Char} (hq : isQuote q = true) {cs : List Char}
    (h : readContent q cs = none) : lexemes (q :: cs) = [.token (.unclosed q cs)] := by
  rw [lexemes, if_pos hq]
  split
  · next h' =>
      rw [h] at h'
      cases h'
  · rfl

/-- Two minus signs open a comment that ends with the line. -/
theorem lexemes_comment {text rest : List Char} (htext : '\n' ∉ text)
    (hrest : ∀ c ∈ rest.head?, c = '\n') :
    lexemes ('-' :: '-' :: (text ++ rest)) = .comment text :: lexemes rest := by
  have hline : ∀ c ∈ text, (c != '\n') = true := by
    rintro c hc
    exact bne_iff_ne.mpr fun h => htext (h ▸ hc)
  have hstop : rest.takeWhile (· != '\n') = [] ∧ rest.dropWhile (· != '\n') = rest := by
    cases rest with
    | nil => exact ⟨rfl, rfl⟩
    | cons c cs =>
        obtain rfl : c = '\n' := hrest c rfl
        exact ⟨rfl, rfl⟩
  have hminus : isQuote '-' = false := rfl
  rw [lexemes, hminus, if_neg Bool.false_ne_true, if_pos ⟨rfl, rfl⟩, List.tail_cons,
    List.takeWhile_append_of_pos hline, List.dropWhile_append_of_pos hline, hstop.1, hstop.2,
    List.append_nil]

/-- A character outside quotes is read alone, unless it starts a comment. -/
theorem lexemes_cons {c : Char} (hc : isQuote c = false) {cs : List Char}
    (hends : c = '-' → cs.head? ≠ some '-') : lexemes (c :: cs) = .plain c :: lexemes cs := by
  rw [lexemes, hc, if_neg Bool.false_ne_true, if_neg fun h => hends h.1 h.2]

/-- **A lexeme is read back**, provided that it ends where the rest of the text starts. -/
theorem lexemes_append {t : Lexeme} (ht : t.WellFormed) {rest : List Char}
    (hends : t.Ends rest.head?) : lexemes (t.chars ++ rest) = t :: lexemes rest := by
  rcases t with (c | ⟨q, content⟩ | ⟨q, body⟩) | text
  · exact lexemes_cons ht hends
  · have hread := lexemes_cons_quote ht (readContent_doubled_append content hends)
    simpa [Lexeme.chars, Token.chars] using hread
  · obtain rfl : rest = [] := List.head?_eq_none_iff.mp hends
    rw [List.append_nil, lexemes_nil]
    exact lexemes_cons_unclosed ht.1 ht.2
  · exact lexemes_comment ht hends

/-- A lexeme by itself is read back. -/
theorem lexemes_chars {t : Lexeme} (ht : t.WellFormed) : lexemes t.chars = [t] := by
  have hread := @lexemes_append t ht [] t.ends_none
  rwa [List.append_nil, lexemes_nil] at hread

/-- The lexer reads one lexeme after the other, as an induction principle. -/
theorem lexemes_induction {P : List Char → Prop} (nil : P [])
    (append : ∀ (t : Lexeme) (rest : List Char), t.WellFormed → t.Ends rest.head? → P rest →
      P (t.chars ++ rest))
    (cs : List Char) : P cs := by
  induction cs using lexemes.induct with
  | case1 => exact nil
  | case2 q cs hq content rest h ih =>
      obtain ⟨rfl, hrest⟩ := readContent_eq_some_iff.mp h
      have hP := append (.token (.quoted q content)) rest hq hrest ih
      simpa [Lexeme.chars, Token.chars] using hP
  | case3 q cs hq h =>
      have hP := append (.token (.unclosed q cs)) [] ⟨hq, h⟩ rfl nil
      simpa [Lexeme.chars, Token.chars] using hP
  | case4 c cs hc hminus ih =>
      obtain ⟨rfl, hhead⟩ := hminus
      obtain ⟨ds, rfl⟩ := List.head?_eq_some_iff.mp hhead
      rw [List.tail_cons] at ih
      have hline : '\n' ∉ ds.takeWhile (· != '\n') := by
        intro hmem
        exact absurd (List.mem_takeWhile_imp hmem) (by decide)
      have hstop : ∀ c ∈ (ds.dropWhile (· != '\n')).head?, c = '\n' := by
        intro c hc
        have hnot := List.head?_dropWhile_not (· != '\n') ds
        rw [hc] at hnot
        simpa using hnot
      have hP := append (.comment (ds.takeWhile (· != '\n'))) _ hline hstop ih
      rwa [Lexeme.chars, List.cons_append, List.cons_append, List.takeWhile_append_dropWhile] at hP
  | case5 c cs hc hminus ih =>
      exact append (.plain c) cs (eq_false_of_ne_true hc)
        (fun h hhead => hminus ⟨h, hhead⟩) ih

/-- **The lexer loses nothing**: the lexemes of a text spell it. -/
theorem flatMap_chars_lexemes (cs : List Char) : (lexemes cs).flatMap Lexeme.chars = cs := by
  induction cs using lexemes_induction with
  | nil => rw [lexemes_nil, List.flatMap_nil]
  | append t rest ht hends ih => rw [lexemes_append ht hends, List.flatMap_cons, ih]

/-- The lexemes of a text are well formed. -/
theorem wellFormed_of_mem_lexemes {cs : List Char} : ∀ t ∈ lexemes cs, t.WellFormed := by
  induction cs using lexemes_induction with
  | nil => simp
  | append t rest ht hends ih =>
      rw [lexemes_append ht hends]
      exact List.forall_mem_cons.mpr ⟨ht, ih⟩

/-- The lexemes of a text end where the next one starts. -/
theorem isChain_lexemes (cs : List Char) : (lexemes cs).IsChain Lexeme.Fits := by
  induction cs using lexemes_induction with
  | nil => simp
  | append t rest ht hends ih =>
      rw [lexemes_append ht hends, List.isChain_cons]
      refine ⟨fun u hu => ?_, ih⟩
      obtain ⟨us, hus⟩ := List.head?_eq_some_iff.mp hu
      have hrest := flatMap_chars_lexemes rest
      rwa [Lexeme.Fits, ← Lexeme.head?_flatMap_chars u us, ← hus, hrest]

/-- **Lexemes are read back** exactly if each of them ends where the next one starts. -/
theorem lexemes_flatMap_chars_iff {ts : List Lexeme} (hts : ∀ t ∈ ts, t.WellFormed) :
    lexemes (ts.flatMap Lexeme.chars) = ts ↔ ts.IsChain Lexeme.Fits := by
  constructor
  · intro h
    rw [← h]
    exact isChain_lexemes _
  · intro h
    induction ts with
    | nil => exact lexemes_nil
    | cons t ts ih =>
        obtain ⟨ht, hrest⟩ := List.forall_mem_cons.mp hts
        obtain ⟨hfits, hchain⟩ := List.isChain_cons.mp h
        have hends : t.Ends (ts.flatMap Lexeme.chars).head? := by
          cases ts with
          | nil => exact t.ends_none
          | cons u us =>
              rw [Lexeme.head?_flatMap_chars]
              exact hfits u rfl
        rw [List.flatMap_cons, lexemes_append ht hends, ih hrest hchain]

/-! ### The scanner on lexemes -/

/-- The scanner counts the question marks that stand outside quotes. -/
theorem countFrom_eq_count_unquoted (open? : Scan) (cs : List Char) :
    Placeholder.countFrom open? cs = (open?.unquoted cs).count '?' := by
  induction cs generalizing open? with
  | nil => rfl
  | cons c cs ih =>
      rw [Placeholder.countFrom, ih, Scan.unquoted, Placeholder.isMark]
      have hmark : isQuote '?' = false := rfl
      rcases eq_or_ne c '?' with rfl | hc
      · cases open? <;> simp [hmark, Nat.add_comm]
      · have hskip : ∀ ds : List Char, (c :: ds).count '?' = ds.count '?' :=
          fun ds => List.count_cons_of_ne hc
        have hno : (open?.isNone && c == '?') = false := by simp [hc]
        rw [hno, if_neg Bool.false_ne_true, Nat.zero_add]
        split
        · rw [hskip]
        · rfl

namespace Lexeme

/-- Whether the scanner, which does not know comments, finds nothing in a comment: neither quotes
nor question marks. -/
def PlainComment : Lexeme → Prop
  | token _ => True
  | comment text => ∀ c ∈ text, isPlain c = true

/-- A lexeme other than a placeholder has none in it, and it leaves no quote open unless nothing
follows. -/
theorem scan_chars {t : Lexeme} (ht : t.WellFormed) (hmark : t ≠ mark) (hplain : t.PlainComment)
    {next? : Option Char} (hends : t.Ends next?) :
    Placeholder.countFrom none t.chars = 0 ∧
      (Scan.after none t.chars = none ∨ next? = none) := by
  rcases t with (c | ⟨q, content⟩ | ⟨q, rest⟩) | text
  · have hc : isQuote c = false := ht
    have hne : c ≠ '?' := by
      rintro rfl
      exact hmark rfl
    simp [chars, Token.chars, Placeholder.countFrom, Placeholder.isMark, Scan.step, hc, hne]
  · have hq : isQuote q = true := ht
    have hne : q ≠ '?' := by
      rintro rfl
      exact absurd hq (by decide)
    have hafter := after_doubled hq content
    have hcount := countFrom_doubled hq content
    simp [chars, Token.chars, Placeholder.countFrom, Placeholder.isMark, Scan.step, hq, hne, hafter,
      hcount]
  · obtain ⟨hq, hread⟩ := ht
    have hne : q ≠ '?' := by
      rintro rfl
      exact absurd hq (by decide)
    have hcount := countFrom_eq_count_unquoted (some q) rest
    rw [(after_of_readContent_eq_none hq hread).2] at hcount
    refine ⟨?_, .inr hends⟩
    simp [chars, Token.chars, Placeholder.countFrom, Placeholder.isMark, Scan.step, hq, hne, hcount]
  · have hall : ∀ c ∈ (comment text).chars, isPlain c = true :=
      List.forall_mem_cons.mpr ⟨rfl, List.forall_mem_cons.mpr ⟨rfl, hplain⟩⟩
    exact ⟨countFrom_of_plain hall, .inl (after_of_plain hall)⟩

/-- Inlining passes over a lexeme other than a placeholder. -/
theorem inlineFrom_chars_append {t : Lexeme} (ht : t.WellFormed) (hmark : t ≠ mark)
    (hplain : t.PlainComment) {rest : List Char} (hends : t.Ends rest.head?) (vs : List Value) :
    Placeholder.inlineFrom none vs (t.chars ++ rest) =
      t.chars ++ Placeholder.inlineFrom none vs rest := by
  obtain ⟨hcount, hafter⟩ := scan_chars ht hmark hplain hends
  have hparts := Placeholder.inlineFrom_append none [] vs t.chars rest hcount
  rw [List.nil_append, Placeholder.inlineFrom_nil] at hparts
  rw [hparts]
  rcases hafter with hclosed | hend
  · rw [hclosed]
  · rw [List.head?_eq_none_iff.mp hend, Placeholder.inlineFrom_text_nil,
      Placeholder.inlineFrom_text_nil]

end Lexeme

/-! ### Filling placeholders -/

/-- Lexemes with those of the values in place of the placeholders. -/
def fill : List Value → List Lexeme → List Lexeme
  | _, [] => []
  | [], ts => ts
  | v :: vs, t :: ts =>
    if t = .mark then lexemes v.inline.toList ++ fill vs ts else t :: fill (v :: vs) ts

/-- Without values nothing is filled. -/
@[simp] theorem fill_nil (ts : List Lexeme) : fill [] ts = ts := by
  cases ts <;> rfl

/-- A placeholder is filled with the first value. -/
theorem fill_mark (v : Value) (vs : List Value) (ts : List Lexeme) :
    fill (v :: vs) (.mark :: ts) = lexemes v.inline.toList ++ fill vs ts := by
  rw [fill, if_pos rfl]

/-- Every other lexeme stays. -/
theorem fill_cons {t : Lexeme} (h : t ≠ .mark) (vs : List Value) (ts : List Lexeme) :
    fill vs (t :: ts) = t :: fill vs ts := by
  cases vs with
  | nil => rw [fill_nil, fill_nil]
  | cons v vs => rw [fill, if_neg h]

/-- What is filled is well formed. -/
theorem wellFormed_of_mem_fill {vs : List Value} {ts : List Lexeme}
    (hts : ∀ t ∈ ts, t.WellFormed) : ∀ t ∈ fill vs ts, t.WellFormed := by
  induction ts generalizing vs with
  | nil => simp [fill]
  | cons t ts ih =>
      obtain ⟨ht, hrest⟩ := List.forall_mem_cons.mp hts
      rcases eq_or_ne t .mark with rfl | hmark
      · cases vs with
        | nil => simpa using hts
        | cons v vs =>
            rw [fill_mark]
            exact List.forall_mem_append.mpr ⟨wellFormed_of_mem_lexemes, ih hrest⟩
      · rw [fill_cons hmark]
        exact List.forall_mem_cons.mpr ⟨ht, ih hrest⟩

/-- **Inlining writes the values in place of the placeholders**, lexeme by lexeme. Whether what it
writes is read as these lexemes is another question. -/
theorem flatMap_chars_fill {cs : List Char} (hplain : ∀ t ∈ lexemes cs, t.PlainComment)
    (vs : List Value) :
    (fill vs (lexemes cs)).flatMap Lexeme.chars = Placeholder.inlineFrom none vs cs := by
  induction cs using lexemes_induction generalizing vs with
  | nil => simp [fill]
  | append t rest ht hends ih =>
      rw [lexemes_append ht hends] at hplain ⊢
      obtain ⟨htplain, hrest⟩ := List.forall_mem_cons.mp hplain
      rcases eq_or_ne t .mark with rfl | hmark
      · cases vs with
        | nil => simp [flatMap_chars_lexemes]
        | cons v vs =>
            have hinline := Placeholder.inlineFrom_mark v vs rest
            rw [fill_mark, List.flatMap_append, flatMap_chars_lexemes, ih hrest]
            exact hinline.symm
      · rw [fill_cons hmark, List.flatMap_cons, ih hrest,
          Lexeme.inlineFrom_chars_append ht hmark htplain hends]

/-! ### Values -/

/-- Whether a character is a lexeme of its own whatever follows: neither a quote nor a minus. -/
def isLone (c : Char) : Bool :=
  !isQuote c && c != '-'

/-- Characters that are lexemes of their own are read as such. -/
theorem lexemes_lone_append {cs : List Char} (h : ∀ c ∈ cs, isLone c = true) (rest : List Char) :
    lexemes (cs ++ rest) = cs.map .plain ++ lexemes rest := by
  induction cs with
  | nil => rfl
  | cons c cs ih =>
      obtain ⟨hc, hcs⟩ := List.forall_mem_cons.mp h
      rw [isLone, Bool.and_eq_true, Bool.not_eq_true', bne_iff_ne] at hc
      rw [List.cons_append, lexemes_cons hc.1 fun hminus => absurd hminus hc.2, ih hcs]
      rfl

/-- A text is a **word** if it is written in such characters, with or without a minus in front. -/
def IsWord (cs : List Char) : Prop :=
  ∃ ds : List Char, (∀ c ∈ ds, isLone c = true) ∧ (cs = ds ∨ cs = '-' :: ds)

/-- A text without minus signs and quotes is a word. -/
theorem isWord_of_lone {s : String} (h : s.toList.all isLone = true) : IsWord s.toList :=
  ⟨s.toList, List.all_eq_true.mp h, .inl rfl⟩

/-- Each character of a word is a lexeme. -/
theorem IsWord.lexemes_eq {cs : List Char} (h : IsWord cs) : lexemes cs = cs.map .plain := by
  obtain ⟨ds, hds, hcs⟩ := h
  have hread := lexemes_lone_append hds []
  rw [List.append_nil, lexemes_nil, List.append_nil] at hread
  rcases hcs with rfl | rfl
  · exact hread
  · have hends : ds.head? ≠ some '-' := by
      intro hhead
      exact absurd (hds '-' (List.mem_of_mem_head? hhead)) (by decide)
    rw [@lexemes_cons '-' rfl ds fun _ => hends, hread, List.map_cons]

/-- A digit is a lexeme of its own. -/
theorem isLone_of_isDigit {c : Char} (h : c.isDigit = true) : isLone c = true := by
  have hne : c ≠ '-' := by
    rintro rfl
    exact absurd h (by decide)
  rw [isLone, isQuote_of_isPlain (isPlain_of_isDigit h), bne_iff_ne.mpr hne]
  rfl

/-- An integer is a word. -/
theorem isWord_int (n : Int) : IsWord (toString n).toList := by
  have hdigits : ∀ m : Nat, ∀ c ∈ (toString m).toList, isLone c = true := by
    intro m c hc
    rw [Nat.toString_eq_repr, Nat.toList_repr] at hc
    exact isLone_of_isDigit (Nat.isDigit_of_mem_toDigits (by decide) (by decide) hc)
  cases n with
  | ofNat n => exact ⟨(toString n).toList, hdigits n, .inl rfl⟩
  | negSucc n =>
      have hneg : toString (Int.negSucc n) = "-" ++ toString (n + 1) := rfl
      refine ⟨(toString (n + 1)).toList, hdigits (n + 1), .inr ?_⟩
      rw [hneg, String.toList_append]
      rfl

/-- A float is a word: SQL numbers have no exponent, so that the only minus is their sign. -/
theorem isWord_float (x : Float) : IsWord (floatText x).toList := by
  rw [floatText, Layout.render]
  split
  · exact isWord_of_lone rfl
  · split
    · exact ⟨['i', 'n', 'f'], List.all_eq_true.mp rfl, .inr rfl⟩
    · exact isWord_of_lone rfl
  · next negative b _ =>
    have hlone : ∀ c ∈ sqlNumberLayout.decimalText (b.shortest sqlNumberLayout.tie),
        isLone c = true := by
      intro c hc
      have hpositional : sqlNumberLayout.positional = fun _ => true := rfl
      rw [Layout.decimalText, hpositional, if_pos rfl] at hc
      rcases Layout.mem_positionalText hc with hdigit | rfl | rfl
      · exact isLone_of_isDigit (Nat.isDigit_of_mem_toDigits (by decide) (by decide) hdigit)
      · rfl
      · rfl
    refine ⟨_, hlone, ?_⟩
    rw [String.toList_ofList]
    cases negative with
    | false => exact .inl rfl
    | true => exact .inr rfl

namespace Lexeme

/-- Whether a lexeme is a character or a quoted token that ends. -/
def Firm (t : Lexeme) : Prop :=
  ∃ u : Token, t = token u ∧ u.closed = true

/-- Whether a lexeme keeps its neighbours apart: a character other than a minus that is no
placeholder. -/
def Apart (t : Lexeme) : Prop :=
  ∃ c, t = plain c ∧ isLone c = true ∧ c ≠ '?'

/-- Nothing is changed by what stands behind a lexeme that keeps apart. -/
theorem Apart.fits {t : Lexeme} (h : t.Apart) (u : Lexeme) : t.Fits u := by
  obtain ⟨c, rfl, hc, -⟩ := h
  rintro rfl
  exact absurd hc (by decide)

/-- A placeholder does not keep apart. -/
theorem Apart.ne_mark {t : Lexeme} (h : t.Apart) : t ≠ mark := by
  obtain ⟨c, rfl, -, hc⟩ := h
  rintro heq
  injection heq with heq
  injection heq with heq
  exact hc heq

/-- A firm lexeme ends before a lexeme that keeps apart. -/
theorem Firm.fits {t u : Lexeme} (ht : t.Firm) (htw : t.WellFormed) (hu : u.Apart) : t.Fits u := by
  obtain ⟨d, rfl, hd, -⟩ := hu
  rw [isLone, Bool.and_eq_true, Bool.not_eq_true', bne_iff_ne] at hd
  obtain ⟨v, rfl, hv⟩ := ht
  cases v with
  | plain c =>
      rintro - hhead
      exact hd.2 (Option.some.inj hhead)
  | quoted q content =>
      have hq : isQuote q = true := htw
      intro hhead
      obtain rfl : d = q := Option.some.inj hhead
      rw [hd.1] at hq
      cases hq
  | unclosed q rest => cases hv

end Lexeme

/-- A content without quotes has none to double. -/
theorem doubled_eq_self {q : Char} {cs : List Char} (h : q ∉ cs) : doubled q cs = cs := by
  induction cs with
  | nil => rfl
  | cons c cs ih =>
      obtain ⟨hc, hcs⟩ := not_or.mp (mt List.mem_cons.mpr h)
      rw [doubled_cons, if_neg (Ne.symm hc), ih hcs]
      rfl

/-- **Values are firm**: they have neither comments nor open quotes in them, whatever they hold. -/
theorem firm_of_mem_value (v : Value) : ∀ t ∈ lexemes v.inline.toList, t.Firm := by
  have hword : ∀ cs, IsWord cs → ∀ t ∈ lexemes cs, t.Firm := by
    intro cs hcs t ht
    rw [hcs.lexemes_eq] at ht
    obtain ⟨c, -, rfl⟩ := List.mem_map.mp ht
    exact ⟨.plain c, rfl, rfl⟩
  have hquoted : ∀ content, lexemes (literalQuote :: doubled literalQuote content ++
      [literalQuote]) = [.token (.quoted literalQuote content)] :=
    fun content => @lexemes_chars (.token (.quoted literalQuote content)) isQuote_literalQuote
  cases v with
  | null => exact hword _ (isWord_of_lone (s := "NULL") rfl)
  | bool b => cases b <;> exact hword _ (isWord_of_lone rfl)
  | int n => exact hword _ (isWord_int _)
  | float x => exact hword _ (isWord_float x)
  | text s =>
      rw [Value.inline, toList_quoteLiteral, hquoted]
      exact List.forall_mem_singleton.mpr ⟨_, rfl, rfl⟩
  | blob bytes =>
      have hdigits : doubled literalQuote (bytes.flatMap hexByte) = bytes.flatMap hexByte := by
        refine doubled_eq_self fun hmem => ?_
        obtain ⟨b, -, hb⟩ := List.mem_flatMap.mp hmem
        exact absurd (isPlain_of_mem_hexByte hb) (by decide)
      have hliteral := hquoted (bytes.flatMap hexByte)
      rw [hdigits] at hliteral
      rw [Value.inline, String.toList_ofList, List.cons_append, List.cons_append,
        @lexemes_cons 'X' rfl _ (by rintro ⟨⟩), ← List.cons_append, hliteral]
      exact List.forall_mem_cons.mpr
        ⟨⟨.plain 'X', rfl, rfl⟩, List.forall_mem_singleton.mpr ⟨_, rfl, rfl⟩⟩

/-! ### Placeholders that keep apart -/

/-- Whether two lexemes in a row are such that a placeholder keeps apart from the other one. -/
def Spaced (t u : Lexeme) : Prop :=
  (t = .mark → u.Apart) ∧ (u = .mark → t.Apart)

/-- The first lexeme stays if it is no placeholder. -/
theorem head?_fill_of_apart {vs : List Value} {ts : List Lexeme} {t : Lexeme}
    (hfirst : ∀ u ∈ ts.head?, u.Apart) (ht : t ∈ (fill vs ts).head?) : t.Apart := by
  cases ts with
  | nil => simp [fill] at ht
  | cons u us =>
      have hu := hfirst u rfl
      rw [fill_cons hu.ne_mark] at ht
      obtain rfl : u = t := Option.some.inj ht
      exact hu

/-- **Values between lexemes that keep apart join nothing.** The induction is on the lexemes; the
last lexeme of a value is firm, so that it ends before the one that keeps apart. -/
theorem isChain_fill_of_spaced {ts : List Lexeme} (hts : ts.IsChain Lexeme.Fits)
    (hspaced : ts.IsChain Spaced) (vs : List Value) : (fill vs ts).IsChain Lexeme.Fits := by
  induction ts generalizing vs with
  | nil => simp [fill]
  | cons t ts ih =>
      obtain ⟨hfits, hchain⟩ := List.isChain_cons.mp hts
      obtain ⟨hnext, hrest⟩ := List.isChain_cons.mp hspaced
      have hfill := ih hchain hrest
      rcases eq_or_ne t .mark with rfl | hmark
      · cases vs with
        | nil => rwa [fill_nil]
        | cons v vs =>
            have hfirst : ∀ u ∈ ts.head?, u.Apart := fun u hu => (hnext u hu).1 rfl
            rw [fill_mark, List.isChain_append]
            refine ⟨isChain_lexemes _, hfill vs, fun x hx y hy => ?_⟩
            have hxmem := List.mem_of_getLast? hx
            exact (firm_of_mem_value v x hxmem).fits (wellFormed_of_mem_lexemes x hxmem)
              (head?_fill_of_apart hfirst hy)
      · rw [fill_cons hmark, List.isChain_cons]
        refine ⟨fun y hy => ?_, hfill vs⟩
        cases ts with
        | nil => simp [fill] at hy
        | cons u us =>
            rcases eq_or_ne u .mark with rfl | hu
            · exact ((hnext .mark rfl).2 rfl).fits y
            · rw [fill_cons hu] at hy
              obtain rfl : u = y := Option.some.inj hy
              exact hfits u rfl

/-! ### Inlining and lexemes -/

/-- **When inlining keeps the lexemes.** In a statement whose comments hold neither quotes nor
question marks, the lexemes after inlining are those before it, with the lexemes of the values in
place of the placeholders, exactly if each lexeme ends where its new neighbour starts: no minus
before a minus, no literal before a literal. Whatever the values hold, it is enough that every
placeholder keeps apart from what stands around it. -/
theorem lexemes_inline {sql : String} (values : List Value)
    (hplain : ∀ t ∈ lexemes sql.toList, t.PlainComment) :
    (lexemes (Placeholder.inline sql values).toList = fill values (lexemes sql.toList) ↔
      (fill values (lexemes sql.toList)).IsChain Lexeme.Fits) ∧
    ((lexemes sql.toList).IsChain Spaced →
      lexemes (Placeholder.inline sql values).toList = fill values (lexemes sql.toList)) := by
  have hiff : lexemes (Placeholder.inline sql values).toList = fill values (lexemes sql.toList) ↔
      (fill values (lexemes sql.toList)).IsChain Lexeme.Fits := by
    rw [Placeholder.inline, String.toList_ofList, ← flatMap_chars_fill hplain values]
    exact lexemes_flatMap_chars_iff (wellFormed_of_mem_fill wellFormed_of_mem_lexemes)
  exact ⟨hiff, fun hspaced => hiff.mpr (isChain_fill_of_spaced (isChain_lexemes _) hspaced values)⟩

/-- A placeholder between spaces takes a text with two minus signs, in front of a comment. -/
theorem lexemes_inline_of_spaces :
    (∀ t ∈ lexemes "a > ? -- low".toList, t.PlainComment) ∧
      (lexemes "a > ? -- low".toList).IsChain Spaced ∧
      lexemes (Placeholder.inline "a > ? -- low" [.text "--"]).toList =
        fill [.text "--"] (lexemes "a > ? -- low".toList) := by
  have hcomment : lexemes "-- low".toList = [.comment " low".toList] := by
    have hline : (Lexeme.comment " low".toList).WellFormed := by
      rw [Lexeme.WellFormed]
      decide
    exact lexemes_chars hline
  have hread : lexemes "a > ? -- low".toList =
      "a > ? ".toList.map .plain ++ [.comment " low".toList] := by
    have h := @lexemes_lone_append "a > ? ".toList (List.all_eq_true.mp rfl) "-- low".toList
    rwa [hcomment] at h
  have hplain : ∀ t ∈ lexemes "a > ? -- low".toList, t.PlainComment := by
    rw [hread]
    simp [Lexeme.PlainComment, isPlain, isQuote]
  have hspaced : (lexemes "a > ? -- low".toList).IsChain Spaced := by
    rw [hread]
    simp [Spaced, Lexeme.Apart, isLone, isQuote]
  exact ⟨hplain, hspaced, (lexemes_inline [.text "--"] hplain).2 hspaced⟩

/-- **Values join their neighbours**, although there is one value for the one placeholder. A minus
and a negative number become a comment where two minus signs and a digit should stand, and a text
and the literal behind it become one literal where two should. -/
theorem lexemes_inline_joins :
    (Placeholder.count "-?" = [Value.int (-1)].length ∧
      lexemes (Placeholder.inline "-?" [.int (-1)]).toList = [.comment ['1']] ∧
      fill [.int (-1)] (lexemes "-?".toList) = ['-', '-', '1'].map .plain) ∧
    Placeholder.count "?'b'" = [Value.text "a"].length ∧
      lexemes (Placeholder.inline "?'b'" [.text "a"]).toList =
        [.token (.quoted literalQuote "a'b".toList)] ∧
      fill [.text "a"] (lexemes "?'b'".toList) =
        [.token (.quoted literalQuote ['a']), .token (.quoted literalQuote ['b'])] := by
  have hliteral : ∀ content, lexemes (Lexeme.token (.quoted literalQuote content)).chars =
      [.token (.quoted literalQuote content)] := fun _ => lexemes_chars isQuote_literalQuote
  refine ⟨⟨by decide, ?_, ?_⟩, by decide, ?_, ?_⟩
  · have hcomment : (Lexeme.comment ['1']).WellFormed := by
      rw [Lexeme.WellFormed]
      decide
    exact lexemes_chars hcomment
  · have hminus : Lexeme.plain '-' ≠ .mark := by decide
    have hvalue : lexemes (Value.int (-1)).inline.toList = ['-', '1'].map .plain :=
      @IsWord.lexemes_eq ['-', '1'] ⟨['1'], List.all_eq_true.mp rfl, .inr rfl⟩
    have hstatement : lexemes "-?".toList = ['-', '?'].map .plain :=
      IsWord.lexemes_eq ⟨['?'], List.all_eq_true.mp rfl, .inr rfl⟩
    rw [hstatement, List.map_cons, fill_cons hminus, List.map_singleton, fill_mark, hvalue]
    rfl
  · exact hliteral "a'b".toList
  · have hstatement : lexemes "?'b'".toList = [.mark, .token (.quoted literalQuote ['b'])] := by
      rw [← hliteral ['b']]
      exact lexemes_cons rfl (by rintro ⟨⟩)
    have hvalue : lexemes (Value.text "a").inline.toList =
        [.token (.quoted literalQuote ['a'])] := hliteral ['a']
    rw [hstatement, fill_mark, fill_nil, hvalue]
    rfl

end SchemaDdl
