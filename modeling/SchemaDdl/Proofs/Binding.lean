import Mathlib.Data.List.Forall2
import SchemaDdl.Proofs.ColumnText
import SchemaDdl.Proofs.Outcome

/-!
# Values Reach Their Own Columns

A raw default comes with values for its placeholders. The placeholders are counted in each default,
and once more in the finished statement, where the values of all columns stand in a single list and
are told apart by nothing but their order. This module shows that each value still ends up where its
own column has the placeholder, in spite of the names, types, literals and checks in between: to
inline the values into the finished statements is to inline each default before the statements are
made.

* `Operation.inlined` — an operation whose raw defaults are expressions, with the values inlined.
* `Statement.FillsTo` — a statement reads as another one without values, once its own are inlined.

The pieces that are taken over as they are may not leave a quote open (`Column.Closed`), because
then the placeholders after them would be read as part of a literal.

## Main results

* `fills_fragment` — in a fragment, the values of the default reach the default.
* `createStatement_accepted_iff`, `addStatements_accepted_iff` — finished statements have as many
  placeholders as values exactly if no verbatim piece has a placeholder.
* `block_createTable_iff`, `block_addColumns_iff`, `block_changeColumnType_iff` — the blocks of
  operations that define columns.
* `inlined_emits` — the statements of an operation, with their values inlined, are those of the
  inlined operation; and an operation that creates a table or adds columns fails exactly if a
  default lacks values or a verbatim piece has a placeholder.
-/

namespace SchemaDdl

/-! ### Inlined operations -/

/-- A default with its values inlined. -/
def DefaultValue.inlined : DefaultValue → DefaultValue
  | .raw sql bindings => .expression (Placeholder.inline sql bindings)
  | value => value

/-- A column with the values of its default inlined. -/
def Column.inlined (c : Column) : Column :=
  { c with defaultValue := c.defaultValue.map DefaultValue.inlined }

/-- An operation with the values of all its defaults **inlined**. -/
def Operation.inlined : Operation → Operation
  | createTable columns ifNotExists => createTable (columns.map Column.inlined) ifNotExists
  | addColumns columns => addColumns (columns.map Column.inlined)
  | changeColumnType column => changeColumnType column.inlined
  | op => op

/-- The text of a statement with its values inlined. -/
def Statement.inlined (st : Statement) : String :=
  Placeholder.inline st.sql st.bindings

/-- An inlined column has no values left. -/
@[simp] theorem Column.bindings_inlined (c : Column) : c.inlined.bindings = [] := by
  rw [bindings, inlined]
  dsimp only
  cases c.defaultValue with
  | none => rfl
  | some v => cases v <;> rfl

/-- An inlined column has no raw default, so that it is bound. -/
theorem Column.bound_inlined (c : Column) : c.inlined.Bound := by
  intro sql bindings h
  rw [inlined] at h
  dsimp only at h
  cases hv : c.defaultValue with
  | none => rw [hv] at h; cases h
  | some v => rw [hv] at h; cases v <;> cases h

/-- Inlined columns have no values left. -/
theorem flatMap_bindings_inlined (cs : List Column) :
    (cs.map Column.inlined).flatMap Column.bindings = [] := by
  induction cs with
  | nil => rfl
  | cons c cs ih => rw [List.map_cons, List.flatMap_cons, Column.bindings_inlined, ih]; rfl

/-- Inlining leaves the names of columns alone, and with them the check of the operation. -/
theorem Operation.validate_inlined (op : Operation) : op.inlined.validate = op.validate := by
  have hnames : ∀ cs : List Column,
      (cs.map Column.inlined).map Column.name = cs.map Column.name := by
    intro cs
    rw [List.map_map]
    rfl
  cases op with
  | createTable cs ifNotExists => exact congrArg (requireColumns _) (hnames cs)
  | addColumns cs => exact congrArg (requireColumns _) (hnames cs)
  | _ => rfl

/-! ### Values in a fragment -/

/-- The values of a bound column reach its default clause, if its expression has no placeholder. -/
theorem fills_defaultFragment {d : Dialect} {c : Column} (hclosed : c.Closed d) (hbound : c.Bound)
    (hloose : c.looseMarks d = 0) :
    Fills (d.defaultFragment c.defaultValue) c.bindings
      (d.defaultFragment c.inlined.defaultValue) := by
  have hmarks := marks_defaultFragment hclosed hbound
  have hverbatim :
      ((c.defaultValue.elim [] DefaultValue.verbatim).map Placeholder.count).sum = 0 := by
    simp only [Column.looseMarks, Column.verbatim, List.map_append, List.sum_append] at hloose
    omega
  rw [hverbatim, Nat.zero_add] at hmarks
  rw [Column.bindings] at hmarks ⊢
  rw [Column.inlined]
  dsimp only
  cases hv : c.defaultValue with
  | none => rw [hv] at hmarks; exact hmarks.inert.fills
  | some v =>
      rw [hv] at hmarks
      cases v with
      | raw sql bindings =>
          have hwords : Inert " DEFAULT " := Plain.inert rfl
          exact Fills.inert_append hwords ⟨hclosed.raw sql bindings hv, hbound sql bindings hv, rfl⟩
      | _ => exact hmarks.inert.fills

/-- **In a fragment, values reach the default**: the other clauses have no placeholder. -/
theorem fills_fragment {d : Dialect} {c : Column} (hclosed : c.Closed d) (hbound : c.Bound)
    (hloose : c.looseMarks d = 0) : Fills (d.fragment c) c.bindings (d.fragment c.inlined) := by
  have hpieces := hclosed.verbatim
  have hdefault := fills_defaultFragment hclosed hbound hloose
  rw [Column.verbatim, List.forall_mem_append, List.forall_mem_append,
    List.forall_mem_append] at hpieces
  obtain ⟨⟨⟨htype, hcollation⟩, -⟩, hcheck⟩ := hpieces
  simp only [Column.looseMarks, Column.verbatim, List.map_append, List.sum_append] at hloose
  have htype := marks_columnType htype d
  have hcollation := marks_collationClause hcollation
  have hcheck := marks_checkClause hcheck
  rw [show (c.dataType.verbatim.map Placeholder.count).sum = 0 by omega] at htype
  rw [show ((d.verbatimCollation c.collation).map Placeholder.count).sum = 0 by omega] at hcollation
  rw [show (c.check.toList.map Placeholder.count).sum = 0 by omega] at hcheck
  have hname := (inert_wrap d c.name).append (b := " ") (Plain.inert rfl)
  have hbefore := ((hname.append htype.inert).append hcollation.inert).append
    (plain_autoincrementClause d c.autoincrement).inert
  have hkey : Inert (d.keyClause c) := (plain_keyClause d c).inert
  exact (((Fills.inert_append hbefore hdefault).append_inert hkey).append_inert
    (inert_referenceClause d c.references)).append_inert hcheck.inert

/-! ### Values in a statement -/

/-- A statement **fills to** another one, which has no values, if it reads as the other one once its
own values are inlined. -/
def Statement.FillsTo (st st' : Statement) : Prop :=
  Fills st.sql st.bindings st'.sql ∧ st'.bindings = []

/-- If its statements fill to those of another emission, an emission has an outcome only if the
other one has, whose texts are its own with the values inlined. -/
theorem outcome_of_fillsTo {em em' : Emission} {block : List Statement}
    (hfailure : em'.failure = em.failure)
    (hfills : List.Forall₂ Statement.FillsTo em.statements em'.statements)
    (h : em.outcome = .ok block) :
    ∃ block', em'.outcome = .ok block' ∧
      block'.map Statement.sql = block.map Statement.inlined := by
  obtain ⟨-, hnone, rfl⟩ := Emission.outcome_eq_ok_iff.mp h
  have hstatements : (∀ st' ∈ em'.statements, Placeholder.count st'.sql = st'.bindings.length) ∧
      em'.statements.map Statement.sql = em.statements.map Statement.inlined := by
    generalize em.statements = sts at hfills
    generalize em'.statements = sts' at hfills
    induction hfills with
    | nil => exact ⟨List.forall_mem_nil _, rfl⟩
    | cons hst _ ih =>
        obtain ⟨hfilled, hbindings⟩ := hst
        obtain ⟨haccepted, htexts⟩ := ih
        rw [List.forall_mem_cons, hfilled.inert.count_eq, hbindings, List.map_cons, List.map_cons,
          htexts, ← hfilled.inline_eq]
        exact ⟨⟨rfl, haccepted⟩, rfl⟩
  obtain ⟨haccepted, htexts⟩ := hstatements
  exact ⟨em'.statements,
    Emission.outcome_eq_ok_iff.mpr ⟨haccepted, hfailure.trans hnone, rfl⟩, htexts⟩

/-- Sums agree where one part of each summand is left out exactly if that part is zero. -/
theorem sum_map_add_eq_iff {α : Type} (xs : List α) (f g : α → Nat) :
    (xs.map fun x => f x + g x).sum = (xs.map g).sum ↔ ∀ x ∈ xs, f x = 0 := by
  induction xs with
  | nil => exact iff_of_true rfl (List.forall_mem_nil _)
  | cons x xs ih =>
      have hle : (xs.map g).sum ≤ (xs.map fun x => f x + g x).sum := by
        clear ih
        induction xs with
        | nil => exact Nat.le_refl _
        | cons y ys ih => simp only [List.map_cons, List.sum_cons]; omega
      rw [List.forall_mem_cons, ← ih, List.map_cons, List.map_cons, List.sum_cons, List.sum_cons]
      omega

namespace Target

variable {d : Dialect} {table : String} {comment : Option String} {cs : List Column}

/-- The words up to the table and after it are inert, so that the values of a change reach it. -/
theorem fills_alter {change filled : String} {vs : List Value} (h : Fills change vs filled) :
    Fills ((stock d table comment).alter change) vs ((stock d table comment).alter filled) := by
  have hwords : Inert "ALTER TABLE " := Plain.inert rfl
  have hblank : Inert " " := Plain.inert rfl
  exact Fills.inert_append ((hwords.append (inert_wrap d table)).append hblank) h

/-- The placeholders of a statement that alters the table are those of the change. -/
theorem marks_alter {change : String} {n : Nat} (h : Marks change n) :
    Marks ((stock d table comment).alter change) n := by
  have hwords : Inert "ALTER TABLE " := Plain.inert rfl
  have hblank : Inert " " := Plain.inert rfl
  exact Marks.inert_append ((hwords.append (inert_wrap d table)).append hblank) h

/-- The words in front of the columns of a new table are inert. -/
theorem inert_createTable_nil (condition : Bool) :
    Inert ("CREATE TABLE " ++ (if condition then "IF NOT EXISTS " else "") ++
      (stock d table comment).quotedTable ++ " (") := by
  have hwords : Inert "CREATE TABLE " := Plain.inert rfl
  have hcondition : Inert (if condition then "IF NOT EXISTS " else "") := by
    cases condition <;> exact Plain.inert rfl
  exact ((hwords.append hcondition).append (inert_wrap d table)).append (b := " (")
    (Plain.inert rfl)

/-- The comma between fragments is inert. -/
theorem inert_comma : Inert ", " := Plain.inert rfl

/-- The words in front of a column that is added are inert. -/
theorem inert_addColumnWords (d : Dialect) : Inert d.addColumnWords := by
  cases d <;> exact Plain.inert rfl

/-- The placeholders of the statement that creates a table. -/
theorem marks_createStatement {n : Column → Nat} (h : ∀ c ∈ cs, Marks (d.fragment c) (n c))
    (vs : List Value) (ifNotExists : Bool) :
    Marks ((stock d table comment).createStatement ⟨cs.map d.fragment, vs⟩ ifNotExists).sql
      (cs.map n).sum :=
  (Marks.inert_append (inert_createTable_nil _) (marks_intercalate inert_comma h)).append_inert
    (Plain.inert rfl)

/-- The placeholders of the statement that adds columns. -/
theorem marks_addStatement {n : Column → Nat} (h : ∀ c ∈ cs, Marks (d.fragment c) (n c))
    (vs : List Value) :
    Marks ((stock d table comment).addStatement ⟨cs.map d.fragment, vs⟩).sql (cs.map n).sum := by
  refine marks_alter ?_
  dsimp only
  rw [List.map_map]
  exact marks_intercalate inert_comma fun c hc =>
    Marks.inert_append (inert_addColumnWords d) (h c hc)

/-- The placeholders of the statement that adds a single column. -/
theorem marks_addOneStatement {c : Column} {n : Nat} (h : Marks (d.fragment c) n)
    (vs : List Value) :
    Marks ((stock d table comment).addOneStatement ⟨[d.fragment c], vs⟩).sql n := by
  refine marks_alter ?_
  dsimp only
  rw [String.intercalate_singleton]
  exact Marks.inert_append (inert_addColumnWords d) h

/-- **The statement that creates a table is accepted** exactly if the verbatim pieces of its columns
have no placeholders. -/
theorem createStatement_accepted_iff (hclosed : ∀ c ∈ cs, c.Closed d)
    (hbound : ∀ c ∈ cs, c.Bound) (ifNotExists : Bool) :
    let st := (stock d table comment).createStatement
      ⟨cs.map d.fragment, cs.flatMap Column.bindings⟩ ifNotExists
    Placeholder.count st.sql = st.bindings.length ↔ ∀ c ∈ cs, c.looseMarks d = 0 := by
  intro st
  have hmarks : Marks st.sql _ :=
    marks_createStatement (fun c hc => marks_fragment (hclosed c hc) (hbound c hc)) _ ifNotExists
  have hlength : st.bindings.length = (cs.map fun c => c.bindings.length).sum :=
    List.length_flatMap
  rw [hmarks.count_eq, hlength]
  exact sum_map_add_eq_iff cs _ _

/-- **The statements that add columns are accepted** exactly if the verbatim pieces of the columns
have no placeholders. -/
theorem addStatements_accepted_iff (hclosed : ∀ c ∈ cs, c.Closed d)
    (hbound : ∀ c ∈ cs, c.Bound) :
    (∀ st ∈ (stock d table comment).addStatements cs,
      Placeholder.count st.sql = st.bindings.length) ↔ ∀ c ∈ cs, c.looseMarks d = 0 := by
  have hfragment : ∀ c ∈ cs, Marks (d.fragment c) (c.looseMarks d + c.bindings.length) :=
    fun c hc => marks_fragment (hclosed c hc) (hbound c hc)
  have htogether :
      let st := (stock d table comment).addStatement
        ⟨cs.map d.fragment, cs.flatMap Column.bindings⟩
      Placeholder.count st.sql = st.bindings.length ↔ ∀ c ∈ cs, c.looseMarks d = 0 := by
    intro st
    have hmarks : Marks st.sql _ := marks_addStatement hfragment _
    have hlength : st.bindings.length = (cs.map fun c => c.bindings.length).sum :=
      List.length_flatMap
    rw [hmarks.count_eq, hlength]
    exact sum_map_add_eq_iff cs _ _
  cases d with
  | sqlite =>
      refine List.forall_mem_map.trans (forall₂_congr fun c hc => ?_)
      have hmarks : Marks
          ((stock .sqlite table comment).addOneStatement ⟨[_], c.bindings⟩).sql _ :=
        marks_addOneStatement (hfragment c hc) c.bindings
      rw [show (Target.stock .sqlite table comment).dialect = .sqlite from rfl, hmarks.count_eq]
      exact Nat.add_eq_right
  | generic | postgresql | mysql | oracle => exact List.forall_mem_singleton.trans htogether

/-! ### Values in the statements of an operation -/

/-- The statement for a comment is inert and has no values. -/
theorem fillsTo_setComment (text : Option String) :
    ∀ st ∈ ((stock d table comment).setComment text).statements, st.FillsTo st := by
  have hliteral := inert_quoteLiteral (text.getD "")
  cases d with
  | generic | postgresql | oracle =>
      have hwords : Inert "COMMENT ON TABLE " := Plain.inert rfl
      have his : Inert " IS " := Plain.inert rfl
      refine List.forall_mem_singleton.mpr ⟨Inert.fills ?_, rfl⟩
      exact ((hwords.append (inert_wrap _ table)).append his).append hliteral
  | mysql =>
      have hwords : Inert "COMMENT = " := Plain.inert rfl
      exact List.forall_mem_singleton.mpr ⟨fills_alter (hwords.append hliteral).fills, rfl⟩
  | sqlite => exact List.forall_mem_nil _

/-- The statement for the comment of a new table is inert and has no values. -/
theorem fillsTo_tableComment :
    ∀ st ∈ (stock d table comment).tableComment.statements, st.FillsTo st := by
  cases comment with
  | none => exact List.forall_mem_nil _
  | some text => exact fillsTo_setComment (some text)

/-- The statements that create a table fill to those that create it with its columns inlined. -/
theorem fillsTo_createTable (hclosed : ∀ c ∈ cs, c.Closed d) (hbound : ∀ c ∈ cs, c.Bound)
    (hloose : ∀ c ∈ cs, c.looseMarks d = 0) (ifNotExists : Bool) :
    ((stock d table comment).createTable (cs.map Column.inlined) ifNotExists).failure =
        ((stock d table comment).createTable cs ifNotExists).failure ∧
      List.Forall₂ Statement.FillsTo
        ((stock d table comment).createTable cs ifNotExists).statements
        ((stock d table comment).createTable (cs.map Column.inlined) ifNotExists).statements := by
  have hinlined : ∀ c ∈ cs.map Column.inlined, c.Bound :=
    List.forall_mem_map.mpr fun c _ => c.bound_inlined
  have hfills := fills_intercalate inert_comma fun c hc =>
    fills_fragment (hclosed c hc) (hbound c hc) (hloose c hc)
  rw [createTable_of_bound hbound, createTable_of_bound hinlined]
  refine ⟨rfl, List.Forall₂.cons ⟨?_, flatMap_bindings_inlined cs⟩ ?_⟩
  · rw [List.map_map]
    exact (Fills.inert_append (inert_createTable_nil _) hfills).append_inert (Plain.inert rfl)
  · exact List.forall₂_same.mpr fillsTo_tableComment

/-- The statements that add columns fill to those that add them inlined. -/
theorem fillsTo_addColumns (hclosed : ∀ c ∈ cs, c.Closed d) (hbound : ∀ c ∈ cs, c.Bound)
    (hloose : ∀ c ∈ cs, c.looseMarks d = 0) :
    ((stock d table comment).addColumns (cs.map Column.inlined)).failure =
        ((stock d table comment).addColumns cs).failure ∧
      List.Forall₂ Statement.FillsTo ((stock d table comment).addColumns cs).statements
        ((stock d table comment).addColumns (cs.map Column.inlined)).statements := by
  have hinlined : ∀ c ∈ cs.map Column.inlined, c.Bound :=
    List.forall_mem_map.mpr fun c _ => c.bound_inlined
  have hfragment : ∀ c ∈ cs, Fills (d.addColumnWords ++ d.fragment c) c.bindings
      (d.addColumnWords ++ d.fragment c.inlined) := fun c hc =>
    Fills.inert_append (inert_addColumnWords d)
      (fills_fragment (hclosed c hc) (hbound c hc) (hloose c hc))
  have htogether : Statement.FillsTo
      ((stock d table comment).addStatement ⟨cs.map d.fragment, cs.flatMap Column.bindings⟩)
      ((stock d table comment).addStatement ⟨(cs.map Column.inlined).map d.fragment,
        (cs.map Column.inlined).flatMap Column.bindings⟩) := by
    refine ⟨fills_alter ?_, flatMap_bindings_inlined cs⟩
    dsimp only
    rw [List.map_map, List.map_map, List.map_map]
    exact fills_intercalate inert_comma hfragment
  rw [addColumns_of_bound hbound, addColumns_of_bound hinlined]
  refine ⟨rfl, ?_⟩
  cases d with
  | sqlite =>
      refine List.forall₂_map_left_iff.mpr (List.forall₂_map_right_iff.mpr ?_)
      refine List.forall₂_map_right_iff.mpr (List.forall₂_same.mpr fun c hc => ?_)
      refine ⟨fills_alter ?_, c.bindings_inlined⟩
      dsimp only
      rw [String.intercalate_singleton, String.intercalate_singleton]
      exact hfragment c hc
  | generic | postgresql | mysql | oracle => exact List.Forall₂.cons htogether List.Forall₂.nil

/-- The placeholders of a statement that changes the type of a column alone. -/
theorem marks_typeChange {t : DataType} (h : ∀ sql ∈ t.verbatim, QuoteClosed sql) (name : String)
    {words : String} (hwords : Inert words) :
    Marks ((stock d table comment).alter ("ALTER COLUMN " ++ d.wrap name ++ words ++ t.clause d))
      (t.verbatim.map Placeholder.count).sum := by
  have hcolumn : Inert "ALTER COLUMN " := Plain.inert rfl
  exact marks_alter (Marks.inert_append ((hcolumn.append (inert_wrap d name)).append hwords)
    (marks_clause h d))

/-- A statement that changes the type of a column alone, if it is accepted, has no placeholder and
stays as it is. -/
theorem fillsTo_typeChange {t : DataType} (h : ∀ sql ∈ t.verbatim, QuoteClosed sql) (name : String)
    {words : String} (hwords : Inert words) :
    let st : Statement :=
      { sql := (stock d table comment).alter
          ("ALTER COLUMN " ++ d.wrap name ++ words ++ t.clause d) }
    Placeholder.count st.sql = 0 → st.FillsTo st := by
  intro st hcount
  have hmarks : Marks st.sql _ := marks_typeChange h name hwords
  exact ⟨Inert.fills ⟨hmarks.closed, hcount⟩, rfl⟩

/-- A statement that defines a bound column anew, if it is accepted, fills to the one for the column
inlined. -/
theorem fillsTo_modifyColumn {c : Column} (hclosed : c.Closed d) (hbound : c.Bound) {words : String}
    (hwords : Inert words) :
    let statement : Column → Statement := fun c =>
      { sql := (stock d table comment).alter (words ++ d.fragment c), bindings := c.bindings }
    Placeholder.count (statement c).sql = c.bindings.length →
      (statement c).FillsTo (statement c.inlined) := by
  intro statement hcount
  have hmarks : Marks (statement c).sql _ :=
    marks_alter (Marks.inert_append hwords (marks_fragment hclosed hbound))
  have hloose : c.looseMarks d = 0 := by
    have hsum := hmarks.count_eq.symm.trans hcount
    omega
  exact ⟨fills_alter (Fills.inert_append hwords (fills_fragment hclosed hbound hloose)),
    c.bindings_inlined⟩

/-- The statement that changes the type of a column, if it is accepted, fills to the one for the
column inlined. -/
theorem fillsTo_changeColumnType {c : Column} (hclosed : c.Closed d) {block : List Statement}
    (h : ((stock d table comment).changeColumnType c).outcome = .ok block) :
    ((stock d table comment).changeColumnType c.inlined).failure =
        ((stock d table comment).changeColumnType c).failure ∧
      List.Forall₂ Statement.FillsTo ((stock d table comment).changeColumnType c).statements
        ((stock d table comment).changeColumnType c.inlined).statements := by
  obtain ⟨haccepted, hfailure, -⟩ := Emission.outcome_eq_ok_iff.mp h
  have htype : ∀ sql ∈ c.dataType.verbatim, QuoteClosed sql := by
    intro sql hsql
    refine hclosed.verbatim sql ?_
    rw [Column.verbatim]
    simp [hsql]
  cases d with
  | generic =>
      have hwords : Inert " SET DATA TYPE " := Plain.inert rfl
      have hfills := fillsTo_typeChange htype c.name hwords (haccepted _ List.mem_cons_self)
      exact ⟨rfl, List.Forall₂.cons hfills List.Forall₂.nil⟩
  | postgresql =>
      have hwords : Inert " TYPE " := Plain.inert rfl
      have hfills := fillsTo_typeChange htype c.name hwords (haccepted _ List.mem_cons_self)
      exact ⟨rfl, List.Forall₂.cons hfills List.Forall₂.nil⟩
  | mysql =>
      by_cases hbound : c.Bound
      · have hwords : Inert "MODIFY COLUMN " := Plain.inert rfl
        rw [changeColumnType_of_bound hbound] at haccepted ⊢
        rw [changeColumnType_of_bound c.bound_inlined]
        have hfills := fillsTo_modifyColumn hclosed hbound hwords
          (haccepted _ List.mem_cons_self)
        exact ⟨rfl, List.Forall₂.cons hfills List.Forall₂.nil⟩
      · obtain ⟨e, he⟩ := changeColumnType_of_not_bound hbound
        rw [he] at hfailure
        cases hfailure
  | sqlite | oracle => cases hfailure

end Target

/-! ### Operations that define columns -/

section Operations

variable {d : Dialect} {table : String} {comment : Option String} {cs : List Column}

/-- The outcome of an emission that has its statements on a condition, and fails otherwise. -/
theorem outcome_eq_ok_iff_of_condition {p : Prop} {em full : Emission} (hfull : p → em = full)
    (hfailed : ¬ p → ∃ e, em = .failed e) {block : List Statement} :
    em.outcome = .ok block ↔
      p ∧ (∀ st ∈ block, Placeholder.count st.sql = st.bindings.length) ∧
        full.failure = none ∧ block = full.statements := by
  rw [Emission.outcome_eq_ok_iff]
  by_cases hp : p
  · rw [hfull hp, and_iff_right hp]
    constructor <;> rintro ⟨haccepted, hfailure, rfl⟩ <;> exact ⟨haccepted, hfailure, rfl⟩
  · obtain ⟨e, rfl⟩ := hfailed hp
    exact iff_of_false (fun h => by cases h.2.1) fun h => hp h.1

/-- **The block of an operation that creates a table**: its columns are bound, and each statement
has a value for each placeholder. -/
theorem block_createTable_iff {ifNotExists : Bool} {block : List Statement} :
    (Operation.createTable cs ifNotExists).block (.stock d table comment) = .ok block ↔
      (Operation.createTable cs ifNotExists).validate = .ok () ∧ (∀ c ∈ cs, c.Bound) ∧
        (∀ st ∈ block, Placeholder.count st.sql = st.bindings.length) ∧
        (Target.stock d table comment).tableComment.failure = none ∧
        block = (Target.stock d table comment).createStatement
            ⟨cs.map d.fragment, cs.flatMap Column.bindings⟩ ifNotExists ::
          (Target.stock d table comment).tableComment.statements := by
  rw [Operation.block_eq_ok_iff]
  exact and_congr_right fun _ => outcome_eq_ok_iff_of_condition
    (Target.createTable_of_bound · ifNotExists) (Target.createTable_of_not_bound · ifNotExists)

/-- **The block of an operation that adds columns**, in the same way. -/
theorem block_addColumns_iff {block : List Statement} :
    (Operation.addColumns cs).block (.stock d table comment) = .ok block ↔
      (Operation.addColumns cs).validate = .ok () ∧ (∀ c ∈ cs, c.Bound) ∧
        (∀ st ∈ block, Placeholder.count st.sql = st.bindings.length) ∧
        block = (Target.stock d table comment).addStatements cs := by
  rw [Operation.block_eq_ok_iff, Operation.plan, Plan.block,
    outcome_eq_ok_iff_of_condition Target.addColumns_of_bound Target.addColumns_of_not_bound]
  dsimp only
  rw [eq_self, true_and]

/-- **The block of an operation that changes a type** in MySQL, where the column is defined anew. -/
theorem block_changeColumnType_iff {c : Column} {block : List Statement} :
    (Operation.changeColumnType c).block (.stock .mysql table comment) = .ok block ↔
      (Operation.changeColumnType c).validate = .ok () ∧ c.Bound ∧
        (∀ st ∈ block, Placeholder.count st.sql = st.bindings.length) ∧
        block = [{
          sql := (Target.stock .mysql table comment).alter
            ("MODIFY COLUMN " ++ Dialect.mysql.fragment c)
          bindings := c.bindings }] := by
  rw [Operation.block_eq_ok_iff, Operation.plan, Plan.block, outcome_eq_ok_iff_of_condition
    Target.changeColumnType_of_bound Target.changeColumnType_of_not_bound]
  dsimp only
  rw [eq_self, true_and]

/-- An operation that creates a table has a block only if its columns are bound and their verbatim
pieces have no placeholders, and if there is no comment, then it has one. -/
theorem block_createTable (hclosed : ∀ c ∈ cs, c.Closed d) (ifNotExists : Bool)
    (hvalid : (Operation.createTable cs ifNotExists).validate = .ok ()) :
    ((∃ block, (Operation.createTable cs ifNotExists).block (.stock d table comment) = .ok block) →
      ∀ c ∈ cs, c.Bound ∧ c.looseMarks d = 0) ∧
    (comment = none → (∀ c ∈ cs, c.Bound ∧ c.looseMarks d = 0) →
      ∃ block, (Operation.createTable cs ifNotExists).block (.stock d table comment) =
        .ok block) := by
  constructor
  · rintro ⟨block, hblock⟩
    obtain ⟨-, hbound, haccepted, -, rfl⟩ := block_createTable_iff.mp hblock
    have hloose := (Target.createStatement_accepted_iff hclosed hbound ifNotExists).mp
      (haccepted _ List.mem_cons_self)
    exact fun c hc => ⟨hbound c hc, hloose c hc⟩
  · rintro rfl hall
    have hbound : ∀ c ∈ cs, c.Bound := fun c hc => (hall c hc).1
    refine ⟨_, block_createTable_iff.mpr
      ⟨hvalid, hbound, List.forall_mem_singleton.mpr ?_, rfl, rfl⟩⟩
    exact (Target.createStatement_accepted_iff hclosed hbound ifNotExists).mpr
      fun c hc => (hall c hc).2

/-- An operation that adds columns has a block exactly if the columns are bound and their verbatim
pieces have no placeholders. -/
theorem block_addColumns (hclosed : ∀ c ∈ cs, c.Closed d)
    (hvalid : (Operation.addColumns cs).validate = .ok ()) :
    (∃ block, (Operation.addColumns cs).block (.stock d table comment) = .ok block) ↔
      ∀ c ∈ cs, c.Bound ∧ c.looseMarks d = 0 := by
  constructor
  · rintro ⟨block, hblock⟩
    obtain ⟨-, hbound, haccepted, rfl⟩ := block_addColumns_iff.mp hblock
    have hloose := (Target.addStatements_accepted_iff hclosed hbound).mp haccepted
    exact fun c hc => ⟨hbound c hc, hloose c hc⟩
  · intro hall
    have hbound : ∀ c ∈ cs, c.Bound := fun c hc => (hall c hc).1
    refine ⟨_, block_addColumns_iff.mpr ⟨hvalid, hbound, ?_, rfl⟩⟩
    exact (Target.addStatements_accepted_iff hclosed hbound).mpr fun c hc => (hall c hc).2

/-- The kinds of operations that define columns. -/
def OperationKind.definesColumns : OperationKind → Bool
  | .createTable | .addColumns | .changeColumnType => true
  | _ => false

/-- The block of an operation that defines columns has the texts of its inlined operation, once its
values are inlined. -/
theorem block_inlined {op : Operation} (hkind : op.kind.definesColumns = true)
    (hclosed : ∀ c ∈ op.columns, c.Closed d) {block : List Statement}
    (h : op.block (.stock d table comment) = .ok block) :
    ∃ block', op.inlined.block (.stock d table comment) = .ok block' ∧
      block'.map Statement.sql = block.map Statement.inlined := by
  obtain ⟨hvalid, hplan⟩ := Operation.block_eq_ok_iff.mp h
  simp only [Operation.block_eq_ok_iff, Operation.validate_inlined, hvalid, true_and]
  cases op with
  | createTable cs ifNotExists =>
      have hall := (block_createTable hclosed ifNotExists hvalid).1 ⟨block, h⟩
      obtain ⟨hfailure, hfills⟩ := @Target.fillsTo_createTable d table comment cs hclosed
        (fun c hc => (hall c hc).1) (fun c hc => (hall c hc).2) ifNotExists
      exact outcome_of_fillsTo hfailure hfills hplan
  | addColumns cs =>
      have hall := (block_addColumns hclosed hvalid).mp ⟨block, h⟩
      obtain ⟨hfailure, hfills⟩ := @Target.fillsTo_addColumns d table comment cs hclosed
        (fun c hc => (hall c hc).1) fun c hc => (hall c hc).2
      exact outcome_of_fillsTo hfailure hfills hplan
  | changeColumnType c =>
      obtain ⟨hfailure, hfills⟩ :=
        Target.fillsTo_changeColumnType (hclosed c List.mem_cons_self) hplan
      exact outcome_of_fillsTo hfailure hfills hplan
  | _ => cases hkind

/-- An operation that defines columns needs no name. -/
theorem generated?_of_definesColumns {op : Operation} (hkind : op.kind.definesColumns = true)
    (t : Target) : op.generated? t = none := by
  cases op <;> first | rfl | cases hkind

/-- **Every value reaches the placeholder of its own column.** In a session with the stock
formatter, take an operation that defines columns, none of which leaves a quote open. If it
compiles, it compiles also with the values of its defaults inlined, and the texts of its statements
are then those of the original statements with their values inlined. If it creates a table without
comment or adds columns, then it fails exactly if a raw default has not one value for each
placeholder, or another verbatim piece has a placeholder. -/
theorem inlined_emits {s : Session} (hs : s.target = .stock d table comment) {op : Operation}
    (hkind : op.kind.definesColumns = true) (hclosed : ∀ c ∈ op.columns, c.Closed d) :
    (∀ block, s.Emits op block →
      ∃ block', s.Emits op.inlined block' ∧
        block'.map Statement.sql = block.map Statement.inlined) ∧
    (op.validate = .ok () → op.kind = .createTable ∧ comment = none ∨ op.kind = .addColumns →
      ((∃ e, (s.compile op).result = .error e) ↔
        ∃ c ∈ op.columns,
          (∃ sql bindings, c.defaultValue = some (.raw sql bindings) ∧
            Placeholder.count sql ≠ bindings.length) ∨
          ∃ sql ∈ c.verbatim d, Placeholder.count sql ≠ 0)) := by
  have hinlined : op.inlined.kind.definesColumns = true := by
    cases op <;> first | rfl | cases hkind
  have hnone : ∀ op : Operation, op.kind.definesColumns = true →
      ∀ g ∈ op.generated? s.target, s.unstage.Admits g := by
    intro op hop g hg
    rw [generated?_of_definesColumns hop] at hg
    cases hg
  constructor
  · intro block hblock
    obtain ⟨hb, -⟩ := Session.emits_iff.mp hblock
    rw [hs] at hb
    obtain ⟨block', hb', htexts⟩ := block_inlined hkind hclosed hb
    rw [← hs] at hb'
    exact ⟨block', Session.emits_iff.mpr ⟨hb', hnone _ hinlined⟩, htexts⟩
  · intro hvalid hcreates
    have hok : (∃ block, op.block s.target = .ok block) ↔
        ∀ c ∈ op.columns, c.Bound ∧ c.looseMarks d = 0 := by
      rw [hs]
      cases op with
      | createTable cs ifNotExists =>
          have hcomment : comment = none := by
            rcases hcreates with ⟨-, h⟩ | h
            · exact h
            · cases h
          obtain ⟨hmp, hmpr⟩ := @block_createTable d table comment cs hclosed ifNotExists hvalid
          exact ⟨hmp, hmpr hcomment⟩
      | addColumns cs => exact block_addColumns hclosed hvalid
      | _ => rcases hcreates with ⟨h, -⟩ | h <;> cases h
    have hfails : (∃ e, (s.compile op).result = .error e) ↔
        ¬ ∃ block, op.block s.target = .ok block := by
      rw [Session.compile_result_of_admits (hnone op hkind)]
      cases op.block s.target with
      | error e => exact iff_of_true ⟨e, rfl⟩ fun ⟨_, h⟩ => nomatch h
      | ok block => exact iff_of_false (fun ⟨_, h⟩ => nomatch h) (not_not_intro ⟨block, rfl⟩)
    rw [hfails, hok]
    simp only [not_forall, exists_prop, Column.not_bound_and_loose_iff]

/-- A column of which a default takes a value. -/
theorem inlined_emits_of_default :
    let c : Column :=
      { name := "size", dataType := .integer, defaultValue := some (.raw "abs(?)" [.int 5]) }
    let s : Session := { target := .stock .mysql "files" none }
    (∀ x ∈ [c], x.Closed .mysql) ∧
      ¬ ∃ e, (s.compile (.addColumns [c])).result = .error e := by
  intro c s
  have hclosed : ∀ x ∈ [c], x.Closed .mysql := by
    intro x hx
    obtain rfl := List.mem_singleton.mp hx
    refine ⟨fun sql hsql => ?_, fun sql bindings h => ?_⟩
    · cases hsql
    · cases h
      rfl
  obtain ⟨-, hfails⟩ := @inlined_emits .mysql "files" none s rfl (.addColumns [c]) rfl hclosed
  refine ⟨hclosed, fun he => ?_⟩
  obtain ⟨x, hx, hwrong⟩ := (hfails rfl (Or.inr rfl)).mp he
  obtain rfl := List.mem_singleton.mp hx
  rcases hwrong with ⟨sql, bindings, h, hcount⟩ | ⟨sql, hsql, -⟩
  · cases h
    exact hcount rfl
  · cases hsql

end Operations

end SchemaDdl
