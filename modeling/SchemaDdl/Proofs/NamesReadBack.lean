import SchemaDdl.Proofs.Parts

/-!
# Quoted Names Read Back

Dots and commas have a meaning between quoted names and may also occur in them: a dot divides an
identifier into segments, which are quoted one by one, and a comma divides a list. The quotes alone
tell which is which. This module gives two readers that go by the tokens of the lexer and proves
that they undo quoting, whatever characters the names have, so that different names never look
alike. One reader serves all dialects, since a token says itself which quote it stands in.

* `Token.content` — what a token stands for, once its quotes are undone.
* `readIdentifier`, `readNames` — an identifier and a list of names as they were before quoting.
* `filter_lex_columnize` — the tokens of a list of names are those of the names, with commas between
  them.

## Main results

* `quoting_reads_back` — quoting can be undone, goes by segments and disturbs no placeholder.
-/

namespace SchemaDdl

/-! ### Identifiers -/

/-- What a token **stands for**: a character for itself, and a quoted token for its content. -/
def Token.content : Token → List Char
  | plain c => [c]
  | quoted _ content => content
  | unclosed _ rest => rest

/-- The text that tokens stand for, one after the other. -/
def contents (ts : List Token) : String :=
  String.ofList (ts.flatMap Token.content)

/-- The **identifier** in a quoted text. -/
def readIdentifier (text : String) : String :=
  contents (lex text.toList)

/-- Tokens of segments stand for the segments with dots between them. -/
theorem flatMap_content_segmentTokens (q : Char) (ss : List (List Char)) :
    (segmentTokens q ss).flatMap Token.content = ['.'].intercalate ss := by
  induction ss with
  | nil => rfl
  | cons s ss ih =>
      cases ss with
      | nil => simp [segmentTokens, Token.content]
      | cons t rest =>
          rw [segmentTokens_cons q s (List.cons_ne_nil t rest), List.flatMap_cons,
            List.flatMap_cons, ih, List.intercalate_cons_cons, List.append_assoc]
          rfl

/-- The tokens of an identifier stand for it. -/
theorem contents_segmentTokens (q : Char) (name : String) :
    contents (segmentTokens q (segments name)) = name := by
  rw [contents, flatMap_content_segmentTokens, segments, List.intercalate_splitOn,
    String.ofList_toList]

/-- **An identifier is read back** from its quoted form. -/
theorem readIdentifier_wrap (d : Dialect) (name : String) :
    readIdentifier (d.wrap name) = name := by
  rw [readIdentifier, lex_wrap, contents_segmentTokens]

/-- **Quoting loses nothing**: a quoted text determines the text. -/
theorem Dialect.wrap_injective (d : Dialect) : Function.Injective d.wrap :=
  Function.LeftInverse.injective (readIdentifier_wrap d)

/-! ### Lists of names -/

/-- The **names** in a list of quoted names: what stands between commas, without blanks. Commas and
blanks in a name are inside its quotes, so they are no tokens. -/
def readNames (text : String) : List String :=
  if text = "" then []
  else (((lex text.toList).filter (· ≠ .plain ' ')).splitOn (.plain ',')).map contents

/-- The tokens of an identifier are its dots and quoted tokens, and no other characters. -/
theorem plain_notMem_segmentTokens {c : Char} (hc : c ≠ '.') (q : Char) (ss : List (List Char)) :
    .plain c ∉ segmentTokens q ss := by
  induction ss with
  | nil => exact List.not_mem_nil
  | cons s ss ih =>
      cases ss with
      | nil => exact fun h => nomatch List.mem_singleton.mp h
      | cons t rest =>
          rw [segmentTokens_cons q s (List.cons_ne_nil t rest), List.mem_cons, List.mem_cons]
          rintro (h | h | h)
          · cases h
          · exact hc (Token.plain.inj h)
          · exact ih h

/-- The tokens of a list of names, blanks left out: those of the names, with commas between them. -/
theorem filter_lex_columnize (d : Dialect) (names : List String) :
    (lex (d.formatter.columnize names).toList).filter (· ≠ .plain ' ') =
      [.plain ','].intercalate (names.map fun name => segmentTokens d.quote (segments name)) := by
  have hname : ∀ name, (segmentTokens d.quote (segments name)).filter (· ≠ .plain ' ') =
      segmentTokens d.quote (segments name) := by
    refine fun name => List.filter_eq_self.mpr fun t ht => decide_eq_true ?_
    rintro rfl
    exact plain_notMem_segmentTokens (by decide) _ _ ht
  rw [← render_nameParts, (lex_render (legible_nameParts names)).1]
  induction names with
  | nil => rfl
  | cons name names ih =>
      cases names with
      | nil => simpa [nameParts, commaParts, Part.tokens] using hname name
      | cons other rest =>
          have hcomma : ((Part.words ", ").tokens d).filter (· ≠ .plain ' ') = [.plain ','] :=
            rfl
          rw [nameParts_cons_cons, List.flatMap_cons, List.flatMap_cons, List.filter_append,
            List.filter_append, ih, hcomma, Part.tokens, hname, List.map_cons, List.map_cons,
            List.map_cons, List.intercalate_cons_cons, List.append_assoc]

/-- A list of names has no text only if it is empty. -/
theorem columnize_ne_empty (d : Dialect) {names : List String} (h : names ≠ []) :
    d.formatter.columnize names ≠ "" := by
  obtain ⟨name, rest, rfl⟩ := List.exists_cons_of_ne_nil h
  have hname : d.wrap name ≠ "" := by
    intro hempty
    have hquote := toList_wrap d name
    rw [hempty] at hquote
    cases hquote
  rw [Dialect.columnize_formatter, List.map_cons]
  cases rest with
  | nil => exact hname
  | cons other rest =>
      rw [List.map_cons, String.intercalate_cons_cons, String.append_assoc]
      exact fun hempty => hname (String.append_eq_empty_iff.mp hempty).1

/-- **A list of names is read back** from its quoted form. -/
theorem readNames_columnize (d : Dialect) (names : List String) :
    readNames (d.formatter.columnize names) = names := by
  rcases eq_or_ne names [] with rfl | hne
  · rfl
  have hcomma : ∀ ts ∈ names.map fun name => segmentTokens d.quote (segments name),
      .plain ',' ∉ ts := by
    intro ts hts
    obtain ⟨name, -, rfl⟩ := List.mem_map.mp hts
    exact plain_notMem_segmentTokens (by decide) _ _
  have hsplit := List.splitOn_intercalate (Token.plain ',') hcomma (mt List.map_eq_nil_iff.mp hne)
  have hread : (contents ∘ fun name => segmentTokens d.quote (segments name)) = id :=
    funext fun name => contents_segmentTokens d.quote name
  rw [readNames, if_neg (columnize_ne_empty d hne), filter_lex_columnize, hsplit, List.map_map,
    hread, List.map_id]

/-- A list of quoted names is inert. -/
theorem inert_columnize (d : Dialect) (names : List String) :
    Inert (d.formatter.columnize names) := by
  rw [← render_nameParts]
  exact inert_render (legible_nameParts names)

/-! ### Quoting -/

/-- **Quoting can be undone**, in every dialect. An identifier and a list of names are read back
from their quoted forms, so that different ones never have the same form. An identifier is quoted
part by part around a dot. And whatever characters the names have, no quote is left open and no
placeholder appears. -/
theorem quoting_reads_back (d : Dialect) :
    Function.LeftInverse readIdentifier d.formatter.wrap ∧
    Function.Injective d.formatter.wrap ∧
    (∀ a b, d.formatter.wrap (a ++ "." ++ b) = d.formatter.wrap a ++ "." ++ d.formatter.wrap b) ∧
    Function.LeftInverse readNames d.formatter.columnize ∧
    Function.Injective d.formatter.columnize ∧
    (∀ name, Inert (d.formatter.wrap name)) ∧
    ∀ names, Inert (d.formatter.columnize names) := by
  have hnames : Function.LeftInverse readNames d.formatter.columnize := readNames_columnize d
  exact ⟨readIdentifier_wrap d, d.wrap_injective, d.wrap_append_dot, hnames, hnames.injective,
    inert_wrap d, inert_columnize d⟩

/-- Names with commas, dots, quotes and question marks in a list, and the list read back. -/
example : readNames "\"a, \"\"b\", \"c\".\"?\", \"\"" = ["a, \"b", "c.?", ""] := by
  decide +kernel

end SchemaDdl
