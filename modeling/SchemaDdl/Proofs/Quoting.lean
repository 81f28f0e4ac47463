import Mathlib.Logic.Basic
import SchemaDdl.Format.Stock
import SchemaDdl.Proofs.Lexer

/-!
# Quoted Identifiers and Literals

The texts that a statement takes over from an operation stand in quotes: identifiers segment by
segment, comments and string defaults as literals. Both escape the quote that surrounds them. This
module shows what the scanner and the lexer make of them.

* `inert_wrap`, `inert_quoteLiteral` — whatever the text, no quote is left open and no placeholder
  appears.
* `lex_wrap_append`, `lex_quoteLiteral_append` — the lexer reads the segments of an identifier and
  the text of a literal back, as long as what follows starts with no quote (`StartsPlain`).
* `wrap_append_dot` — an identifier is quoted part by part around a dot.
* `filterMap_outside_segmentTokens`, `filterMap_quoted_segmentTokens` — outside the tokens of an
  identifier stand its dots, and the quoted ones are its segments.
-/

namespace SchemaDdl

/-- The quote around identifiers is one that the scanner knows. -/
theorem isQuote_quote (d : Dialect) : isQuote d.quote = true := by
  cases d <;> rfl

/-- The quote around literals is one that the scanner knows. -/
theorem isQuote_literalQuote : isQuote literalQuote = true := rfl

/-! ### Segments and dots -/

/-- The **segments** of an identifier: the texts between its dots. -/
def segments (identifier : String) : List (List Char) :=
  identifier.toList.splitOn '.'

/-- The **dots** of an identifier, one fewer than its segments. -/
def dots (identifier : String) : List Char :=
  identifier.toList.filter (· == '.')

/-- A text is split into one part more than the separator occurs in it. -/
theorem length_splitOn (sep : Char) (cs : List Char) :
    (cs.splitOn sep).length = cs.count sep + 1 := by
  induction cs with
  | nil => rfl
  | cons c cs ih =>
      rw [List.splitOn_cons_eq_if_modifyHead, List.count_cons]
      split
      · rw [List.length_cons, ih]
      · rw [List.length_modifyHead, ih]

/-- There is one segment more than there are dots. -/
theorem length_segments (identifier : String) :
    (segments identifier).length = (dots identifier).length + 1 := by
  rw [segments, dots, length_splitOn, List.count_eq_length_filter]

/-- The dots of an identifier are all alike. -/
theorem replicate_dots (identifier : String) :
    List.replicate (dots identifier).length '.' = dots identifier := by
  refine (List.eq_replicate_of_mem fun c hc => ?_).symm
  exact beq_iff_eq.mp (List.mem_filter.mp hc).2

/-- Identifiers have the same dots exactly if they have the same number of segments. -/
theorem dots_eq_dots_iff {a b : String} :
    dots a = dots b ↔ (segments a).length = (segments b).length := by
  rw [length_segments, length_segments]
  constructor
  · intro h
    rw [h]
  · intro h
    rw [← replicate_dots a, ← replicate_dots b, Nat.succ_inj.mp h]

/-! ### Quoted text under the scanner -/

/-- A quoted body one character at a time. -/
theorem quotedBody_cons (q c : Char) (cs : List Char) :
    quotedBody q (c :: cs) =
      (if c = '.' then [q, '.', q] else if c = q then [q, q] else [c]) ++ quotedBody q cs :=
  List.flatMap_cons

/-- The body of an identifier leaves the scanner inside the quotes and has no placeholder. -/
theorem scan_quotedBody {q : Char} (hq : isQuote q = true) (cs : List Char) :
    Scan.after (some q) (quotedBody q cs) = some q ∧
      Placeholder.countFrom (some q) (quotedBody q cs) = 0 := by
  have hmark : q ≠ '?' := by rintro rfl; exact absurd hq (by decide)
  have hdot : q ≠ '.' := by rintro rfl; exact absurd hq (by decide)
  have hplain : isQuote '.' = false := rfl
  induction cs with
  | nil => exact ⟨rfl, rfl⟩
  | cons c cs ih =>
      rw [quotedBody_cons, Scan.after_append, Placeholder.countFrom_append]
      rcases eq_or_ne c '.' with rfl | hc
      · simpa [Scan.step, Placeholder.countFrom, Placeholder.isMark, hq, hplain, hmark] using ih
      rcases eq_or_ne c q with rfl | hcq
      · simpa [Scan.step, Placeholder.countFrom, Placeholder.isMark, hq, hc, hmark] using ih
      · simpa [Scan.step, Placeholder.countFrom, Placeholder.isMark, hc, hcq] using ih

/-- The characters of a quoted identifier. -/
theorem toList_wrap (d : Dialect) (s : String) :
    (d.wrap s).toList = d.quote :: quotedBody d.quote s.toList ++ [d.quote] := by
  rw [Dialect.wrap, quoteIdentifier, String.toList_ofList]

/-- Quoting goes segment by segment: the dot between two parts of an identifier stays outside. -/
theorem Dialect.wrap_append_dot (d : Dialect) (schema last : String) :
    d.wrap (schema ++ "." ++ last) = d.wrap schema ++ "." ++ d.wrap last := by
  have hdot : ".".toList = ['.'] := rfl
  have hbody : ∀ cs, quotedBody d.quote ('.' :: cs) =
      d.quote :: '.' :: d.quote :: quotedBody d.quote cs := fun _ => rfl
  rw [← String.toList_inj]
  simp only [wrap, quoteIdentifier, String.toList_append, String.toList_ofList,
    quotedBody_append, hdot, hbody, List.append_assoc, List.cons_append, List.nil_append]

/-- A quoted identifier is inert. -/
theorem inert_wrap (d : Dialect) (s : String) : Inert (d.wrap s) := by
  have hq := isQuote_quote d
  obtain ⟨hafter, hcount⟩ := scan_quotedBody hq s.toList
  have hmark : d.quote ≠ '?' := by cases d <;> decide
  constructor
  · rw [QuoteClosed, toList_wrap]
    simp [Scan.step, hq, hafter]
  · rw [Placeholder.count, toList_wrap]
    simp [Placeholder.countFrom, Placeholder.isMark, Scan.step, hq, hcount, hafter, hmark]

/-- The characters of a literal. -/
theorem toList_quoteLiteral (s : String) :
    (quoteLiteral s).toList = literalQuote :: doubled literalQuote s.toList ++ [literalQuote] := by
  rw [quoteLiteral, String.toList_ofList]

/-- A literal is inert. -/
theorem inert_quoteLiteral (s : String) : Inert (quoteLiteral s) := by
  have hafter := after_doubled isQuote_literalQuote s.toList
  have hcount := countFrom_doubled isQuote_literalQuote s.toList
  have hmark : literalQuote ≠ '?' := by decide
  constructor
  · rw [QuoteClosed, toList_quoteLiteral]
    simp [Scan.step, isQuote_literalQuote, hafter]
  · rw [Placeholder.count, toList_quoteLiteral]
    simp [Placeholder.countFrom, Placeholder.isMark, Scan.step, isQuote_literalQuote, hcount,
      hafter, hmark]

/-! ### Quoted text under the lexer -/

/-- A text **starts plain** if its first character, if there is one, is no quote. -/
def StartsPlain (cs : List Char) : Prop :=
  ∀ c ∈ cs.head?, isQuote c = false

/-- The empty text starts plain. -/
theorem startsPlain_nil : StartsPlain [] := by
  intro c hc
  cases hc

/-- Plain words in front make a text start plain, whatever follows. -/
theorem startsPlain_append {w : String} (hw : Plain w) (hne : w ≠ "") (cs : List Char) :
    StartsPlain (w.toList ++ cs) := by
  obtain ⟨d, ds, hd⟩ := List.exists_cons_of_ne_nil (mt String.toList_eq_nil_iff.mp hne)
  intro c hc
  rw [hd, List.cons_append, List.head?_cons, Option.mem_some_iff] at hc
  subst hc
  exact isQuote_of_isPlain (plain_iff.mp hw d (hd ▸ List.mem_cons_self))

/-- No quote follows at once where a text starts plain. -/
theorem StartsPlain.head?_ne {q : Char} (hq : isQuote q = true) {cs : List Char}
    (h : StartsPlain cs) : cs.head? ≠ some q := by
  intro hc
  rw [h q hc] at hq
  cases hq

/-- The tokens of the segments of an identifier, with dots between them. -/
def segmentTokens (q : Char) : List (List Char) → List Token
  | [] => []
  | [s] => [.quoted q s]
  | s :: t :: rest => .quoted q s :: .plain '.' :: segmentTokens q (t :: rest)

/-- A segment in front of others is followed by a dot. -/
theorem segmentTokens_cons (q : Char) (s : List Char) {ss : List (List Char)} (h : ss ≠ []) :
    segmentTokens q (s :: ss) = .quoted q s :: .plain '.' :: segmentTokens q ss := by
  obtain ⟨t, rest, rfl⟩ := List.exists_cons_of_ne_nil h
  rfl

/-- **A literal is read back** as the text that it was made from. -/
theorem lex_quoteLiteral_append (s : String) {cs : List Char} (h : StartsPlain cs) :
    lex ((quoteLiteral s).toList ++ cs) = .quoted literalQuote s.toList :: lex cs := by
  rw [toList_quoteLiteral]
  simpa using lex_quoted_append isQuote_literalQuote s.toList (h.head?_ne isQuote_literalQuote)

/-- Putting nothing in front of the first segment changes nothing. -/
theorem modifyHead_nil_append (ss : List (List Char)) : ss.modifyHead ([] ++ ·) = ss := by
  cases ss <;> rfl

/-- The segments of the body of an identifier are read back after a beginning `pre` of the first
one. The induction is on the identifier, and `pre` holds what came after the last dot. -/
theorem lex_quotedBody_append {q : Char} (hq : isQuote q = true) (pre ds : List Char)
    {cs : List Char} (h : StartsPlain cs) :
    lex (q :: (doubled q pre ++ (quotedBody q ds ++ q :: cs))) =
      segmentTokens q ((ds.splitOn '.').modifyHead (pre ++ ·)) ++ lex cs := by
  induction ds generalizing pre with
  | nil => simpa [quotedBody, segmentTokens] using lex_quoted_append hq pre (h.head?_ne hq)
  | cons d ds ih =>
      have hdot : StartsPlain ('.' :: q :: (quotedBody q ds ++ q :: cs)) := by
        intro c hc
        cases hc
        rfl
      rw [quotedBody_cons, List.splitOn, List.splitOnP_cons_eq_if_modifyHead]
      rcases eq_or_ne d '.' with rfl | hd
      · -- The dot ends the segment, and the next one starts with nothing read.
        have hseg := lex_quoted_append hq pre (hdot.head?_ne hq)
        have hih := ih []
        rw [@lex_cons_plain '.' rfl] at hseg
        rw [modifyHead_nil_append, doubled_nil, List.nil_append] at hih
        have htokens := segmentTokens_cons q pre (List.splitOnP_ne_nil (· == '.') ds)
        simpa [hseg, List.splitOn, htokens] using hih
      · have hstep : doubled q (pre ++ [d]) =
            doubled q pre ++ (if d = q then [q, q] else [d]) := by
          rw [doubled_append, doubled_cons, doubled_nil, List.append_nil]
        have hhead : ∀ ss : List (List Char),
            (ss.modifyHead (d :: ·)).modifyHead (pre ++ ·) =
              ss.modifyHead (pre ++ [d] ++ ·) := by
          intro ss
          cases ss <;> simp
        have hih := ih (pre ++ [d])
        rw [hstep, List.append_assoc] at hih
        simpa [hd, hhead, List.splitOn] using hih

/-- **An identifier is read back** segment by segment. -/
theorem lex_wrap_append (d : Dialect) (s : String) {cs : List Char} (h : StartsPlain cs) :
    lex ((d.wrap s).toList ++ cs) = segmentTokens d.quote (segments s) ++ lex cs := by
  have hbody := lex_quotedBody_append (isQuote_quote d) [] s.toList h
  rw [modifyHead_nil_append, doubled_nil, List.nil_append] at hbody
  rw [toList_wrap, segments]
  simpa using hbody

/-- A quoted text is read back segment by segment. -/
theorem lex_wrap (d : Dialect) (name : String) :
    lex (d.wrap name).toList = segmentTokens d.quote (segments name) := by
  have hlex := lex_wrap_append d name startsPlain_nil
  rwa [List.append_nil, lex_nil, List.append_nil] at hlex

/-! ### What the tokens of an identifier show -/

/-- Outside the tokens of an identifier stand its dots. -/
theorem filterMap_outside_segmentTokens (q : Char) (s : String) :
    (segmentTokens q (segments s)).filterMap Token.outside? = dots s := by
  have hdots : ∀ ss : List (List Char), ss ≠ [] →
      (segmentTokens q ss).filterMap Token.outside? = List.replicate (ss.length - 1) '.' := by
    intro ss hss
    induction ss with
    | nil => exact absurd rfl hss
    | cons s ss ih =>
        cases ss with
        | nil => rfl
        | cons t rest =>
            have hrest := ih (List.cons_ne_nil t rest)
            exact congrArg (List.cons '.') hrest
  have hne : segments s ≠ [] := List.splitOn_ne_nil '.' s.toList
  rw [hdots _ hne, length_segments, Nat.add_sub_cancel, replicate_dots]

/-- The quoted tokens of an identifier are its segments. -/
theorem filterMap_quoted_segmentTokens (q : Char) (ss : List (List Char)) :
    (segmentTokens q ss).filterMap Token.quoted? = ss.map (Prod.mk q) := by
  induction ss with
  | nil => rfl
  | cons s ss ih =>
      cases ss with
      | nil => rfl
      | cons t rest => exact congrArg (List.cons (q, s)) ih

end SchemaDdl
