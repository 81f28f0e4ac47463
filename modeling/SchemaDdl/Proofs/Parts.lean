import SchemaDdl.Proofs.Quoting

/-!
# Statements in Parts

A statement consists of words of SQL, identifiers and literals. The identifiers and literals stand
in quotes, so a lexer can tell the parts apart again, as long as no two quoted parts touch: between
`'a'` and `'b'` nothing would show that the quotes in the middle are not a doubled one.

* `Part`, `render` — the parts of a statement and its text.
* `Legible` — words are plain, and words stand between any two quoted parts.
* `Part.outside`, `Part.quotations` — what a part shows outside quotes, and the quoted texts in it.

## Main results

* `lex_render` — the tokens of a legible statement are those of its parts.
* `closed_render`, `outside_render`, `quotations_render` — so every token ends, outside the tokens
  stand the words and the dots of identifiers, and the quoted tokens hold the segments of
  identifiers and the texts of literals, in order.
* `inert_render` — to the scanner of placeholders, a legible statement is inert.
-/

namespace SchemaDdl

/-- A **part** of a statement. -/
inductive Part where
  /-- Words of SQL. -/
  | words (sql : String)
  /-- An identifier, without quotes. -/
  | identifier (name : String)
  /-- A string literal, without quotes. -/
  | literal (text : String)
  deriving DecidableEq, Repr

namespace Part

/-- A part as text. -/
def sql (d : Dialect) : Part → String
  | words w => w
  | identifier name => d.wrap name
  | literal text => quoteLiteral text

/-- Words are written as they are. -/
@[simp] theorem sql_words (d : Dialect) (w : String) : (words w).sql d = w := rfl

/-- Identifiers are quoted. -/
@[simp] theorem sql_identifier (d : Dialect) (name : String) :
    (identifier name).sql d = d.wrap name := rfl

/-- Literals are quoted. -/
@[simp] theorem sql_literal (d : Dialect) (text : String) :
    (literal text).sql d = quoteLiteral text := rfl

/-- The tokens of a part. -/
def tokens (d : Dialect) : Part → List Token
  | words w => w.toList.map .plain
  | identifier name => segmentTokens d.quote (segments name)
  | literal text => [.quoted literalQuote text.toList]

/-- The characters that a part shows outside quotes: of an identifier its dots, of a literal
nothing. -/
def outside : Part → List Char
  | words w => w.toList
  | identifier name => dots name
  | literal _ => []

/-- The quoted texts of a part, with their quotes: an identifier has one for each segment. -/
def quotations (d : Dialect) : Part → List (Char × List Char)
  | words _ => []
  | identifier name => (segments name).map (Prod.mk d.quote)
  | literal text => [(literalQuote, text.toList)]

end Part

/-! ### Texts -/

/-- The text of some parts. -/
def render (d : Dialect) (ps : List Part) : String :=
  String.join (ps.map (Part.sql d))

/-- Nothing has no text. -/
@[simp] theorem render_nil (d : Dialect) : render d [] = "" := String.join_nil

/-- The text of one more part stands in front. -/
@[simp] theorem render_cons (d : Dialect) (p : Part) (ps : List Part) :
    render d (p :: ps) = p.sql d ++ render d ps :=
  String.join_cons

/-- Parts may be rendered one list after the other. -/
@[simp] theorem render_append (d : Dialect) (ps qs : List Part) :
    render d (ps ++ qs) = render d ps ++ render d qs := by
  induction ps with
  | nil => rw [List.nil_append, render_nil, String.empty_append]
  | cons p ps ih => rw [List.cons_append, render_cons, ih, render_cons, String.append_assoc]

/-- Lists of parts with commas between them. -/
def commaParts (pss : List (List Part)) : List Part :=
  [Part.words ", "].intercalate pss

/-- One more list of parts goes in front with a comma. -/
theorem commaParts_cons_cons (ps qs : List Part) (pss : List (List Part)) :
    commaParts (ps :: qs :: pss) = ps ++ .words ", " :: commaParts (qs :: pss) := by
  rw [commaParts, List.intercalate_cons_cons, List.append_assoc]
  rfl

/-- The text of lists of parts with commas between them. -/
@[simp] theorem render_commaParts (d : Dialect) (pss : List (List Part)) :
    render d (commaParts pss) = ", ".intercalate (pss.map (render d)) := by
  induction pss with
  | nil => rfl
  | cons ps pss ih =>
      cases pss with
      | nil => rw [commaParts, List.intercalate_singleton, List.map_singleton,
          String.intercalate_singleton]
      | cons qs rest =>
          rw [commaParts_cons_cons, render_append, render_cons, ih, List.map_cons, List.map_cons,
            List.map_cons, String.intercalate_cons_cons, String.append_assoc]
          rfl

/-- Identifiers with commas between them. -/
def nameParts (names : List String) : List Part :=
  commaParts (names.map fun name => [.identifier name])

/-- One more identifier goes in front with a comma. -/
theorem nameParts_cons_cons (name other : String) (names : List String) :
    nameParts (name :: other :: names) =
      .identifier name :: .words ", " :: nameParts (other :: names) := by
  rw [nameParts, List.map_cons, List.map_cons, commaParts_cons_cons]
  rfl

/-- A stock formatter quotes each name of a list and puts commas between them. -/
theorem Dialect.columnize_formatter (d : Dialect) (names : List String) :
    d.formatter.columnize names = ", ".intercalate (names.map d.wrap) := rfl

/-- The text of identifiers with commas between them. -/
@[simp] theorem render_nameParts (d : Dialect) (names : List String) :
    render d (nameParts names) = d.formatter.columnize names := by
  rw [nameParts, render_commaParts, List.map_map, Dialect.columnize_formatter]
  refine congrArg _ (List.map_congr_left fun name _ => ?_)
  rw [Function.comp_apply, render_cons, render_nil, String.append_empty]
  rfl

/-! ### Legible parts -/

/-- Parts are **legible** after a quoted part, or else after words, if all words are plain and no
two quoted parts touch. -/
def Legible : Bool → List Part → Prop
  | _, [] => True
  | quoted, .words w :: ps => Plain w ∧ Legible (quoted && w == "") ps
  | quoted, .identifier _ :: ps => quoted = false ∧ Legible true ps
  | quoted, .literal _ :: ps => quoted = false ∧ Legible true ps

/-- What is legible after a quoted part is legible after words. -/
theorem Legible.mono {ps : List Part} (h : Legible true ps) (quoted : Bool) :
    Legible quoted ps := by
  induction ps with
  | nil => trivial
  | cons p ps ih =>
      cases p with
      | words w =>
          obtain ⟨hw, hps⟩ := h
          refine ⟨hw, ?_⟩
          cases quoted with
          | true => exact hps
          | false =>
              rw [Bool.true_and] at hps
              by_cases hempty : w = ""
              · rw [hempty] at hps
                exact ih hps
              · rwa [beq_false_of_ne hempty] at hps
      | identifier name => cases h.1
      | literal text => cases h.1

/-- What is legible after a quoted part may follow anything legible. -/
theorem Legible.append {quoted : Bool} {ps qs : List Part} (hp : Legible quoted ps)
    (hq : Legible true qs) : Legible quoted (ps ++ qs) := by
  induction ps generalizing quoted with
  | nil => exact hq.mono quoted
  | cons p ps ih =>
      cases p with
      | words w => exact ⟨hp.1, ih hp.2⟩
      | identifier name => exact ⟨hp.1, ih hp.2⟩
      | literal text => exact ⟨hp.1, ih hp.2⟩

/-- Legible lists of parts are legible with commas between them. -/
theorem legible_commaParts {pss : List (List Part)} (h : ∀ ps ∈ pss, Legible false ps) :
    Legible false (commaParts pss) := by
  induction pss with
  | nil => trivial
  | cons ps pss ih =>
      obtain ⟨hps, hpss⟩ := List.forall_mem_cons.mp h
      cases pss with
      | nil => rwa [commaParts, List.intercalate_singleton]
      | cons qs rest =>
          rw [commaParts_cons_cons]
          exact hps.append ⟨rfl, ih hpss⟩

/-- Identifiers with commas between them are legible. -/
theorem legible_nameParts (names : List String) : Legible false (nameParts names) := by
  refine legible_commaParts fun ps hps => ?_
  obtain ⟨name, -, rfl⟩ := List.mem_map.mp hps
  exact ⟨rfl, trivial⟩

/-- Identifiers in a list that ends with a parenthesis are legible. -/
theorem legible_nameParts_close (names : List String) :
    Legible false (nameParts names ++ [.words ")"]) :=
  (legible_nameParts names).append ⟨rfl, trivial⟩

/-- **Legible parts make up an inert text**: no quote is left open, and no placeholder appears. -/
theorem inert_render {d : Dialect} {quoted : Bool} {ps : List Part} (h : Legible quoted ps) :
    Inert (render d ps) := by
  induction ps generalizing quoted with
  | nil =>
      rw [render_nil]
      exact Plain.inert rfl
  | cons p ps ih =>
      rw [render_cons]
      cases p with
      | words w => exact h.1.inert.append (ih h.2)
      | identifier name => exact (inert_wrap d name).append (ih h.2)
      | literal text => exact (inert_quoteLiteral text).append (ih h.2)

/-! ### Tokens -/

/-- **The tokens of a legible statement** are those of its parts. After a quoted part its text
starts plain, so that it cannot be taken for more of that part. -/
theorem lex_render {d : Dialect} {quoted : Bool} {ps : List Part} (h : Legible quoted ps) :
    lex (render d ps).toList = ps.flatMap (Part.tokens d) ∧
      (quoted = true → StartsPlain (render d ps).toList) := by
  induction ps generalizing quoted with
  | nil => exact ⟨lex_nil, fun _ => startsPlain_nil⟩
  | cons p ps ih =>
      rw [render_cons, String.toList_append, List.flatMap_cons]
      cases p with
      | words w =>
          obtain ⟨hw, hps⟩ := h
          obtain ⟨hlex, hstarts⟩ := ih hps
          constructor
          · rw [Part.sql, lex_plain_append fun c hc => isQuote_of_isPlain (plain_iff.mp hw c hc),
              hlex]
            rfl
          · rintro rfl
            by_cases hempty : w = ""
            · subst hempty
              exact hstarts rfl
            · exact startsPlain_append hw hempty _
      | identifier name =>
          obtain ⟨rfl, hps⟩ := h
          obtain ⟨hlex, hstarts⟩ := ih hps
          refine ⟨?_, nofun⟩
          rw [Part.sql, lex_wrap_append d name (hstarts rfl), hlex]
          rfl
      | literal text =>
          obtain ⟨rfl, hps⟩ := h
          obtain ⟨hlex, hstarts⟩ := ih hps
          refine ⟨?_, nofun⟩
          rw [Part.sql, lex_quoteLiteral_append text (hstarts rfl), hlex]
          rfl

/-- The quotes and contents of the quoted tokens of a text, in order. -/
def quotations (cs : List Char) : List (Char × List Char) :=
  (lex cs).filterMap Token.quoted?

variable {d : Dialect} {ps : List Part}

/-- **Every token of a legible statement ends.** -/
theorem closed_render (h : Legible false ps) :
    ∀ t ∈ lex (render d ps).toList, t.closed = true :=
  (lex_closed_iff _).mpr (inert_render h).closed

/-- **Outside the tokens** of a legible statement stand its words and the dots of its
identifiers. -/
theorem outside_render (h : Legible false ps) :
    outside (render d ps).toList = ps.flatMap Part.outside := by
  rw [outside, (lex_render h).1, List.filterMap_flatMap]
  refine congrArg (fun f => ps.flatMap f) (funext fun p => ?_)
  cases p with
  | words w => rw [Part.tokens, List.filterMap_map]; exact List.filterMap_some
  | identifier name => exact filterMap_outside_segmentTokens d.quote name
  | literal text => rfl

/-- **The quoted tokens** of a legible statement hold the segments of its identifiers and the texts
of its literals. -/
theorem quotations_render (h : Legible false ps) :
    quotations (render d ps).toList = ps.flatMap (Part.quotations d) := by
  rw [quotations, (lex_render h).1, List.filterMap_flatMap]
  refine congrArg (fun f => ps.flatMap f) (funext fun p => ?_)
  cases p with
  | words w =>
      rw [Part.tokens, List.filterMap_map]
      exact List.filterMap_eq_nil_iff.mpr fun c _ => rfl
  | identifier name => exact filterMap_quoted_segmentTokens d.quote _
  | literal text => rfl

end SchemaDdl
