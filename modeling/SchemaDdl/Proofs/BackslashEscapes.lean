import Mathlib.Algebra.Group.Nat.Even
import Mathlib.Data.List.DropRight
import SchemaDdl.Proofs.Binding

/-!
# Literals Where a Backslash Escapes

Literals are written alike for all dialects: the quotes of a text are doubled, and everything else
is kept. MySQL has another escape besides. There a backslash in a literal takes away the meaning of
the character after it, and of a doubled quote after a backslash the first half is escaped and the
second one stands alone. This module gives the reader of such literals, and shows which texts it
finds the end of.

## Convention

A literal starts with a single quote and ends with the next single quote that is neither escaped nor
doubled. A backslash escapes the character after it, whatever this is.

* `afterLiteral` — what follows a literal, read by these rules.
* `BackslashesPaired` — in front of each quote of a text, and at its end, the backslashes come in
  pairs.
* `LiteralPlace` — the places of a text that is written as a literal: the comment of a table and the
  default of a column.

## Main results

* `skipLiteral_iff` — a literal ends with its last character exactly if backslashes are paired.
* `literal_read_iff` — this for each literal in a statement, with all that stands after it.
-/

namespace SchemaDdl

/-! ### Reading literals -/

/-- Skips the rest of a literal, after a backslash that escapes the next character or not. There is
no result if the literal never ends. -/
def skipLiteral : Bool → List Char → Option (List Char)
  | _, [] => none
  | true, _ :: cs => skipLiteral false cs
  | false, c :: cs =>
    if c = '\\' then skipLiteral true cs
    else if c = literalQuote then
      match cs with
      | [] => some []
      | d :: ds => if d = literalQuote then skipLiteral false ds else some (d :: ds)
    else skipLiteral false cs

/-- **What follows a literal** at the start of a text. There is no result if the text starts with no
literal, or if the literal never ends. -/
def afterLiteral : List Char → Option (List Char)
  | [] => none
  | c :: cs => if c = literalQuote then skipLiteral false cs else none

/-- A quote that is neither escaped nor doubled ends the literal. -/
theorem skipLiteral_close {rest : List Char} (h : rest.head? ≠ some literalQuote) :
    skipLiteral false (literalQuote :: rest) = some rest := by
  have hquote : literalQuote ≠ '\\' := by decide
  cases rest with
  | nil => rw [skipLiteral, if_neg hquote, if_pos rfl]
  | cons d ds =>
      have hd : d ≠ literalQuote := fun he => h (congrArg some he)
      rw [skipLiteral, if_neg hquote, if_pos rfl]
      exact if_neg hd

/-- A doubled quote is skipped. -/
theorem skipLiteral_double (cs : List Char) :
    skipLiteral false (literalQuote :: literalQuote :: cs) = skipLiteral false cs := by
  have hquote : literalQuote ≠ '\\' := by decide
  rw [skipLiteral, if_neg hquote, if_pos rfl]
  exact if_pos rfl

/-- What follows a literal is shorter than the text. -/
theorem length_lt_of_skipLiteral {escaped : Bool} {cs rest : List Char}
    (h : skipLiteral escaped cs = some rest) : rest.length < cs.length := by
  fun_induction skipLiteral escaped cs with
  | case1 => cases h
  | case2 c cs ih => exact (ih h).trans (Nat.lt_succ_self _)
  | case3 cs ih => exact (ih h).trans (Nat.lt_succ_self _)
  | case4 => cases h; exact Nat.zero_lt_succ _
  | case5 _ ds ih => exact (ih h).trans ((Nat.lt_succ_self _).trans (Nat.lt_succ_self _))
  | case6 _ d ds => cases h; exact Nat.lt_succ_self _
  | case7 c cs _ _ ih => exact (ih h).trans (Nat.lt_succ_self _)

/-- **Behind the first half of a doubled quote** the end of a literal is never found: the second
half joins with the quote after it, or else it ends the literal. -/
theorem skipLiteral_half_ne (cs rest : List Char) :
    skipLiteral false (literalQuote :: (doubled literalQuote cs ++ literalQuote :: rest)) ≠
      some rest := by
  induction cs with
  | nil =>
      rw [doubled_nil, List.nil_append, skipLiteral_double]
      exact fun hskip => Nat.lt_irrefl _ (length_lt_of_skipLiteral hskip)
  | cons c cs ih =>
      rw [doubled_cons]
      by_cases hc : c = literalQuote
      · rw [if_pos hc, List.append_assoc, List.cons_append, List.cons_append, List.nil_append,
          skipLiteral_double]
        exact ih
      · have hhead : (c :: (doubled literalQuote cs ++ literalQuote :: rest)).head? ≠
            some literalQuote := fun heq => hc (Option.some.inj heq)
        rw [if_neg hc, List.append_assoc, List.cons_append, List.nil_append,
          skipLiteral_close hhead]
        intro heq
        have hlength := congrArg List.length (Option.some.inj heq)
        simp only [List.length_cons, List.length_append] at hlength
        omega

/-! ### Paired backslashes -/

/-- The number of backslashes that a text ends with. -/
def endingBackslashes (cs : List Char) : Nat :=
  (cs.rtakeWhile (· == '\\')).length

/-- In front of each quote of a text, and at its end, **backslashes are paired**. -/
def BackslashesPaired (cs : List Char) : Prop :=
  ∀ front back, cs = front ++ back → (∀ c ∈ back.head?, c = literalQuote) →
    Even (endingBackslashes front)

/-- One more backslash. -/
theorem endingBackslashes_concat_backslash (cs : List Char) :
    endingBackslashes (cs ++ ['\\']) = endingBackslashes cs + 1 := by
  rw [endingBackslashes, List.rtakeWhile_concat_pos _ _ _ rfl, List.length_append]
  rfl

/-- Any other character. -/
theorem endingBackslashes_concat {c : Char} (hc : c ≠ '\\') (cs : List Char) :
    endingBackslashes (cs ++ [c]) = 0 := by
  rw [endingBackslashes, List.rtakeWhile_concat_neg _ _ _ (by simpa using hc)]
  rfl

/-- A text is divided in front of its first character, or further behind. -/
theorem forall_append_cons_iff {P : List Char → List Char → Prop} (c : Char) (cs : List Char) :
    (∀ front back, c :: cs = front ++ back → P front back) ↔
      P [] (c :: cs) ∧ ∀ front back, cs = front ++ back → P (c :: front) back := by
  constructor
  · intro h
    exact ⟨h [] _ rfl, fun front back heq => h (c :: front) back (congrArg (List.cons c) heq)⟩
  · rintro ⟨hfirst, hrest⟩ front back heq
    cases front with
    | nil => obtain rfl := heq; exact hfirst
    | cons d front =>
        obtain ⟨rfl, htail⟩ := List.cons.inj heq
        exact hrest front back htail

/-- A backslash that is not escaped escapes what follows. -/
theorem skipLiteral_backslash (escaped : Bool) (cs : List Char) :
    skipLiteral escaped ('\\' :: cs) = skipLiteral (!escaped) cs := by
  cases escaped with
  | true => rw [skipLiteral]; rfl
  | false => rw [skipLiteral.eq_def]; exact if_pos rfl

/-- A character without meaning is skipped, whether it is escaped or not. -/
theorem skipLiteral_cons {c : Char} (hslash : c ≠ '\\') (hquote : c ≠ literalQuote)
    (escaped : Bool) (cs : List Char) :
    skipLiteral escaped (c :: cs) = skipLiteral false cs := by
  cases escaped with
  | true => rw [skipLiteral]
  | false => rw [skipLiteral.eq_def]; exact (if_neg hslash).trans (if_neg hquote)

/-- **A literal ends with its last character** exactly if backslashes are paired. The induction is
on what is left of the text. Its first character is escaped if a backslash is the odd one among
those that the text ends with up to there. -/
theorem skipLiteral_iff {escaped : Bool} {front : List Char}
    (hescaped : escaped = true ↔ ¬ Even (endingBackslashes front)) (cs : List Char)
    {rest : List Char} (h : rest.head? ≠ some literalQuote) :
    skipLiteral escaped (doubled literalQuote cs ++ literalQuote :: rest) = some rest ↔
      ∀ mid back, cs = mid ++ back → (∀ c ∈ back.head?, c = literalQuote) →
        Even (endingBackslashes (front ++ mid)) := by
  induction cs generalizing escaped front with
  | nil =>
      have hends : (∀ mid back, [] = mid ++ back → (∀ c ∈ back.head?, c = literalQuote) →
          Even (endingBackslashes (front ++ mid))) ↔ Even (endingBackslashes front) := by
        constructor
        · intro hall
          have hfront := hall [] [] rfl nofun
          rwa [List.append_nil] at hfront
        · rintro heven mid back heq -
          obtain ⟨rfl, -⟩ := List.append_eq_nil_iff.mp heq.symm
          rwa [List.append_nil]
      rw [hends, doubled_nil, List.nil_append]
      cases escaped with
      | false =>
          rw [skipLiteral_close h]
          exact iff_of_true rfl (by_contra fun hodd => absurd (hescaped.mpr hodd) nofun)
      | true =>
          rw [skipLiteral]
          exact iff_of_false (fun hskip => Nat.lt_irrefl _ (length_lt_of_skipLiteral hskip))
            (hescaped.mp rfl)
  | cons c cs ih =>
      have hquote : literalQuote ≠ '\\' := by decide
      have hplain : c ≠ '\\' → (false = true ↔ ¬ Even (endingBackslashes (front ++ [c]))) := by
        intro hc
        rw [endingBackslashes_concat hc]
        exact iff_of_false nofun (not_not_intro Even.zero)
      have hrest : (∀ mid back, cs = mid ++ back → (∀ c ∈ back.head?, c = literalQuote) →
          Even (endingBackslashes (front ++ c :: mid))) ↔
          ∀ mid back, cs = mid ++ back → (∀ c ∈ back.head?, c = literalQuote) →
            Even (endingBackslashes ((front ++ [c]) ++ mid)) := by
        simp only [List.append_assoc, List.singleton_append]
      have hhead : (∀ d ∈ (c :: cs).head?, d = literalQuote) ↔ c = literalQuote := by
        simp
      rw [forall_append_cons_iff, hrest, hhead, List.append_nil, doubled_cons, List.append_assoc]
      by_cases hc : c = literalQuote
      · rw [if_pos hc, ← ih (hplain (hc ▸ hquote)), List.cons_append, List.cons_append,
          List.nil_append]
        cases escaped with
        | false =>
            have heven : Even (endingBackslashes front) :=
              by_contra fun hodd => absurd (hescaped.mpr hodd) nofun
            rw [skipLiteral_double]
            exact (and_iff_right fun _ => heven).symm
        | true =>
            rw [skipLiteral]
            exact iff_of_false (skipLiteral_half_ne cs rest)
              fun hboth => hescaped.mp rfl (hboth.1 hc)
      · rw [if_neg hc, List.singleton_append, and_iff_right fun he => absurd he hc]
        by_cases hslash : c = '\\'
        · subst hslash
          rw [skipLiteral_backslash]
          refine ih ?_
          rw [endingBackslashes_concat_backslash, Nat.even_add_one, not_not]
          cases escaped with
          | false => exact iff_of_true rfl (by_contra fun hodd => absurd (hescaped.mpr hodd) nofun)
          | true => exact iff_of_false nofun (hescaped.mp rfl)
        · rw [skipLiteral_cons hslash hc]
          exact ih (hplain hslash)

/-- What follows a literal is found exactly if the backslashes of its text are paired. -/
theorem afterLiteral_iff (text : String) {rest : List Char} (h : rest.head? ≠ some literalQuote) :
    afterLiteral ((quoteLiteral text).toList ++ rest) = some rest ↔
      BackslashesPaired text.toList := by
  have hstart : false = true ↔ ¬ Even (endingBackslashes []) :=
    iff_of_false nofun (not_not_intro Even.zero)
  rw [toList_quoteLiteral, List.append_assoc, List.singleton_append, List.cons_append,
    afterLiteral, if_pos rfl]
  exact skipLiteral_iff hstart text.toList h

/-! ### Literals in statements -/

/-- Plain words start plain. -/
theorem startsPlain_of_plain {w : String} (h : Plain w) : StartsPlain w.toList :=
  fun c hc => isQuote_of_isPlain (plain_iff.mp h c (List.mem_of_mem_head? hc))

/-- A text starts plain if both its parts do. -/
theorem StartsPlain.append {cs ds : List Char} (hcs : StartsPlain cs) (hds : StartsPlain ds) :
    StartsPlain (cs ++ ds) := by
  cases cs with
  | nil => exact hds
  | cons c cs => exact hcs

/-- A text **holds another one as a literal**: what stands around the literal does not depend on the
other text, and does not go on with a quote. -/
def HoldsLiteral (f : String → String) : Prop :=
  ∃ before after : String, StartsPlain after.toList ∧
    ∀ text, f text = before ++ quoteLiteral text ++ after

namespace HoldsLiteral

variable {f : String → String}

/-- A literal holds its text. -/
theorem literal : HoldsLiteral quoteLiteral :=
  ⟨"", "", startsPlain_nil, fun _ => by rw [String.empty_append, String.append_empty]⟩

/-- More text in front. -/
theorem append_left (h : HoldsLiteral f) (x : String) : HoldsLiteral fun text => x ++ f text := by
  obtain ⟨before, after, hafter, hf⟩ := h
  refine ⟨x ++ before, after, hafter, fun text => ?_⟩
  dsimp only
  rw [hf, String.append_assoc, String.append_assoc, String.append_assoc]

/-- More text behind. -/
theorem append_right (h : HoldsLiteral f) {x : String} (hx : StartsPlain x.toList) :
    HoldsLiteral fun text => f text ++ x := by
  obtain ⟨before, after, hafter, hf⟩ := h
  refine ⟨before, after ++ x, ?_, fun text => ?_⟩
  · rw [String.toList_append]
    exact hafter.append hx
  · dsimp only
    rw [hf, String.append_assoc]

/-- A text between others, with commas between them. -/
theorem intercalate (h : HoldsLiteral f) (xs ys : List String) :
    HoldsLiteral fun text => ", ".intercalate (xs ++ f text :: ys) := by
  have hbehind : HoldsLiteral fun text => ", ".intercalate (f text :: ys) := by
    cases ys with
    | nil => simpa using h
    | cons y ys =>
        have hcomma : StartsPlain (", " ++ ", ".intercalate (y :: ys)).toList := by
          rw [String.toList_append]
          exact startsPlain_append (by rfl) (by decide) _
        have hrest := h.append_right hcomma
        simp only [String.intercalate_cons_cons, String.append_assoc] at hrest ⊢
        exact hrest
  induction xs with
  | nil => exact hbehind
  | cons x xs ih =>
      have hne : ∀ text, xs ++ f text :: ys ≠ [] := fun text => by simp
      simpa [String.intercalate_cons_of_ne_nil (hne _)] using ih.append_left (x ++ ", ")

end HoldsLiteral

/-- A reference starts plain. -/
theorem startsPlain_referenceClause (d : Dialect) (r : Option Reference) :
    StartsPlain (d.referenceClause r).toList := by
  cases r with
  | none => exact startsPlain_nil
  | some r =>
      have hclause : d.referenceClause (some r) =
          " REFERENCES " ++ d.wrap r.table ++ " (" ++ d.wrap r.column ++ ")" ++
            actionClauses r.onDelete r.onUpdate := rfl
      rw [hclause, String.append_assoc, String.append_assoc, String.append_assoc,
        String.append_assoc, String.toList_append]
      exact startsPlain_append (by rfl) (by decide) _

/-- A check starts plain. -/
theorem startsPlain_checkClause (check : Option String) :
    StartsPlain (Dialect.checkClause check).toList := by
  cases check with
  | none => exact startsPlain_nil
  | some sql =>
      rw [Dialect.checkClause, String.append_assoc, String.toList_append]
      exact startsPlain_append (by rfl) (by decide) _

/-- A column with a text as its default. -/
def Column.withText (c : Column) (text : String) : Column :=
  { c with defaultValue := some (.string text) }

/-- **The text of a column holds its default as a literal.** -/
theorem holdsLiteral_fragment (d : Dialect) (c : Column) :
    HoldsLiteral fun text => d.fragment (c.withText text) := by
  have hfragment : ∀ text, d.fragment (c.withText text) =
      d.wrap c.name ++ " " ++ d.columnType c ++ d.collationClause c.collation ++
        d.autoincrementClause c.autoincrement ++ (" DEFAULT " ++ quoteLiteral text) ++
        d.keyClause c ++ d.referenceClause c.references ++ Dialect.checkClause c.check :=
    fun _ => rfl
  have hdefault := HoldsLiteral.literal.append_left " DEFAULT "
  simp only [hfragment]
  exact (((hdefault.append_left _).append_right (startsPlain_of_plain (plain_keyClause d c))
    ).append_right (startsPlain_referenceClause d c.references)).append_right
    (startsPlain_checkClause c.check)

/-! ### Comments of tables -/

/-- The statement that sets a comment in MySQL. -/
def commentStatement (table text : String) : Statement :=
  { sql := "ALTER TABLE " ++ Dialect.mysql.wrap table ++ " " ++
      ("COMMENT = " ++ quoteLiteral text) }

/-- The statement that sets a comment in MySQL is there whatever the text. -/
theorem block_setComment_mysql {table text : String} {comment : Option String}
    {block : List Statement} :
    (Operation.setComment (some text)).block (.stock .mysql table comment) = .ok block ↔
      block = [commentStatement table text] := by
  have hplan : ((Operation.setComment (some text)).plan (.stock .mysql table comment)).block
      (.stock .mysql table comment) =
        ((Target.stock .mysql table comment).setComment (some text)).outcome := rfl
  have hcomment : (Target.stock .mysql table comment).setComment (some text) =
      ⟨[commentStatement table text], none⟩ := rfl
  have haccepted := @Target.fillsTo_setComment .mysql table comment (some text)
  rw [hcomment] at haccepted
  rw [Operation.block_eq_ok_iff, hplan, Emission.outcome_eq_ok_iff, hcomment]
  exact (and_iff_right rfl).trans
    ((and_iff_right fun st hst => (haccepted st hst).1.count_eq).trans (and_iff_right rfl))

/-! ### Places of a text -/

/-- A **place of a text** that is written as a literal, in an operation or the table that it is
for. -/
inductive LiteralPlace where
  /-- The comment that a table gets. -/
  | comment
  /-- The comment that a new table has. -/
  | tableComment (columns : List Column) (ifNotExists : Bool)
  /-- The default of a column of a new table, between other columns. -/
  | newTable (before : List Column) (c : Column) (after : List Column) (ifNotExists : Bool)
  /-- The default of a new column, between other ones. -/
  | newColumn (before : List Column) (c : Column) (after : List Column)
  /-- The default of a column that gets another type. -/
  | newType (c : Column)

namespace LiteralPlace

/-- The operation with a text in its place. -/
def operation (text : String) : LiteralPlace → Operation
  | comment => .setComment (some text)
  | tableComment columns ifNotExists => .createTable columns ifNotExists
  | newTable before c after ifNotExists =>
    .createTable (before ++ c.withText text :: after) ifNotExists
  | newColumn before c after => .addColumns (before ++ c.withText text :: after)
  | newType c => .changeColumnType (c.withText text)

/-- The comment of the table that the operation is for. -/
def commentOf (other : Option String) (text : String) : LiteralPlace → Option String
  | tableComment .. => some text
  | _ => other

/-- The number of the statement that the literal is in. -/
def index : LiteralPlace → Nat
  | tableComment .. => 1
  | _ => 0

/-- The statement that the literal is in. -/
def sql (table : String) (text : String) : LiteralPlace → String
  | comment | tableComment .. => (commentStatement table text).sql
  | newTable before c after ifNotExists =>
    ((Target.stock .mysql table none).createStatement
      ⟨(before ++ c.withText text :: after).map Dialect.mysql.fragment, []⟩ ifNotExists).sql
  | newColumn before c after =>
    ((Target.stock .mysql table none).addStatement
      ⟨(before ++ c.withText text :: after).map Dialect.mysql.fragment, []⟩).sql
  | newType c =>
    (Target.stock .mysql table none).alter
      ("MODIFY COLUMN " ++ Dialect.mysql.fragment (c.withText text))

/-- The statement holds the text as a literal. -/
theorem holdsLiteral_sql (p : LiteralPlace) (table : String) :
    HoldsLiteral fun text => p.sql table text := by
  cases p with
  | comment | tableComment =>
      exact (HoldsLiteral.literal.append_left "COMMENT = ").append_left _
  | newTable before c after ifNotExists =>
      have hsql : ∀ text, (newTable before c after ifNotExists).sql table text =
          "CREATE TABLE " ++ (if ifNotExists && true then "IF NOT EXISTS " else "") ++
            Dialect.mysql.wrap table ++ " (" ++ ", ".intercalate
              ((before ++ c.withText text :: after).map Dialect.mysql.fragment) ++ ")" :=
        fun _ => rfl
      have hcolumns := (holdsLiteral_fragment .mysql c).intercalate
        (before.map Dialect.mysql.fragment) (after.map Dialect.mysql.fragment)
      simp only [hsql, List.map_append, List.map_cons]
      exact (hcolumns.append_left _).append_right (startsPlain_of_plain (by rfl))
  | newColumn before c after =>
      have hsql : ∀ text, (newColumn before c after).sql table text =
          "ALTER TABLE " ++ Dialect.mysql.wrap table ++ " " ++ ", ".intercalate
            (((before ++ c.withText text :: after).map Dialect.mysql.fragment).map
              ("ADD COLUMN " ++ ·)) :=
        fun _ => rfl
      have hcolumns := ((holdsLiteral_fragment .mysql c).append_left "ADD COLUMN ").intercalate
        ((before.map Dialect.mysql.fragment).map ("ADD COLUMN " ++ ·))
        ((after.map Dialect.mysql.fragment).map ("ADD COLUMN " ++ ·))
      simp only [hsql, List.map_append, List.map_cons]
      exact hcolumns.append_left _
  | newType c => exact ((holdsLiteral_fragment .mysql c).append_left _).append_left _

/-- The statement is there if the operation compiles. -/
theorem sql_of_block (p : LiteralPlace) {table text : String} {other : Option String}
    {block : List Statement}
    (h : (p.operation text).block (.stock .mysql table (p.commentOf other text)) = .ok block) :
    block[p.index]?.map Statement.sql = some (p.sql table text) := by
  cases p with
  | comment =>
      obtain rfl := block_setComment_mysql.mp h
      rfl
  | tableComment columns ifNotExists =>
      obtain ⟨-, -, -, -, rfl⟩ := block_createTable_iff.mp h
      rfl
  | newTable before c after ifNotExists =>
      obtain ⟨-, -, -, -, rfl⟩ := block_createTable_iff.mp h
      rfl
  | newColumn before c after =>
      obtain ⟨-, -, -, rfl⟩ := block_addColumns_iff.mp h
      rfl
  | newType c =>
      obtain ⟨-, -, -, rfl⟩ := block_changeColumnType_iff.mp h
      rfl

end LiteralPlace

/-- **Literals in the statements of MySQL.** Wherever a text is written as a literal, in the comment
of a table or the default of a column, the statement holds it as a literal: what stands around it
does not depend on the text. Read by the rules of MySQL, the literal ends with its last character,
by itself and in front of the rest of the statement, exactly if the backslashes of the text are
paired. Otherwise the text ends the literal early, or what follows is taken for a part of it. -/
theorem literal_read_iff (p : LiteralPlace) (table : String) (other : Option String) :
    ∃ before after, ∀ (s : Session) (text : String) (block : List Statement),
      s.target = .stock .mysql table (p.commentOf other text) → s.Emits (p.operation text) block →
        block[p.index]?.map Statement.sql = some (before ++ quoteLiteral text ++ after) ∧
        (afterLiteral (quoteLiteral text).toList = some [] ↔ BackslashesPaired text.toList) ∧
        (afterLiteral (quoteLiteral text ++ after).toList = some after.toList ↔
          BackslashesPaired text.toList) := by
  obtain ⟨before, after, hafter, hsql⟩ := p.holdsLiteral_sql table
  refine ⟨before, after, fun s text block hs hemits => ?_⟩
  obtain ⟨hblock, -⟩ := Session.emits_iff.mp hemits
  rw [hs] at hblock
  refine ⟨(p.sql_of_block hblock).trans (congrArg some (hsql text)), ?_, ?_⟩
  · have halone := @afterLiteral_iff text [] nofun
    rwa [List.append_nil] at halone
  · rw [String.toList_append]
    exact afterLiteral_iff text (hafter.head?_ne isQuote_literalQuote)

/-- A comment is set in MySQL whatever its text. -/
theorem emits_setComment_mysql {s : Session} {table : String} {comment : Option String}
    (hs : s.target = .stock .mysql table comment) (text : String) :
    s.Emits (.setComment (some text)) [commentStatement table text] := by
  rw [Session.emits_iff, hs]
  exact ⟨block_setComment_mysql.mpr rfl, nofun⟩

/-- A comment with a quote in it and a pair of backslashes at its end. -/
theorem literal_read_of_pair :
    let s : Session := { target := .stock .mysql "t" none }
    let text := "it's C:\\\\"
    ∃ before after block, s.Emits (.setComment (some text)) block ∧
      block[0]?.map Statement.sql = some (before ++ quoteLiteral text ++ after) ∧
      afterLiteral (quoteLiteral text ++ after).toList = some after.toList := by
  intro s text
  have hemits : s.Emits (.setComment (some text)) _ := emits_setComment_mysql rfl text
  obtain ⟨before, after, hread⟩ := literal_read_iff .comment "t" none
  obtain ⟨hsql, halone, hiff⟩ := hread s text _ rfl hemits
  exact ⟨before, after, _, hemits, hsql, hiff.mpr (halone.mp (by decide +kernel))⟩

/-- **A backslash in front of a quote ends the literal early.** The backslash escapes the first half
of the doubled quote, the second half ends the literal, and the rest of the text is SQL. -/
theorem literal_read_breaks :
    let s : Session := { target := .stock .mysql "users" none }
    let text := "\\'; DROP TABLE users; -- "
    s.Emits (.setComment (some text))
        [{ sql := "ALTER TABLE `users` COMMENT = '\\''; DROP TABLE users; -- '" }] ∧
      quoteLiteral text = "'\\''; DROP TABLE users; -- '" ∧
      afterLiteral (quoteLiteral text).toList = some "; DROP TABLE users; -- '".toList ∧
      ¬ BackslashesPaired text.toList := by
  intro s text
  have hsql : commentStatement "users" text =
      { sql := "ALTER TABLE `users` COMMENT = '\\''; DROP TABLE users; -- '" } :=
    congrArg (fun sql => (⟨sql, [], none⟩ : Statement)) (by decide +kernel)
  have hafter : afterLiteral (quoteLiteral text).toList =
      some "; DROP TABLE users; -- '".toList := by decide +kernel
  refine ⟨?_, by decide +kernel, hafter, fun hpaired => ?_⟩
  · rw [← hsql]
    exact emits_setComment_mysql rfl text
  · have hends := (@afterLiteral_iff text [] nofun).mpr hpaired
    rw [List.append_nil, hafter] at hends
    exact absurd hends (by decide)

end SchemaDdl
