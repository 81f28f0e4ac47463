import Mathlib.Tactic.Push
import SchemaDdl.Plan.Columns
import SchemaDdl.Plan.Table
import SchemaDdl.Proofs.Inlining
import SchemaDdl.Schema.Operation

/-!
# The Text of a Column

The stock formatter of a dialect writes a column in a single fragment of text. It fails in one case
only, a raw default that has not one value for each placeholder. This module separates the two: the
text is given for every column, and whether it is written is a condition on the default.

* `Operation.columns` — the columns that an operation defines.
* `Dialect.fragment`, `Column.bindings` — the text of a column, and the values of its placeholders.
* `Column.Bound` — the raw default, if there is one, has a value for each placeholder.
* `Column.verbatim` — the pieces of SQL that the text takes over as they are, a raw default apart.
* `Column.Closed` — none of these pieces leaves a quote open, and neither does a raw default.

## Main results

* `columnDefs_of_bound`, `columnDefs_of_not_bound` — the definitions of columns are their fragments,
  exactly if all of them are bound.
* `marks_fragment` — the placeholders of a fragment are those of its verbatim pieces and one for
  each value of its default.
* `createTable_of_bound`, `addColumns_of_bound`, `changeColumnType_of_bound` — the statements that
  are made from the fragments.
-/

namespace SchemaDdl

/-! ### Fragments -/

/-- The columns that an operation defines. -/
def Operation.columns : Operation → List Column
  | createTable columns _ => columns
  | addColumns columns => columns
  | changeColumnType column => [column]
  | _ => []

/-- A default as text. -/
def Dialect.defaultSql (d : Dialect) : DefaultValue → String
  | .null => "NULL"
  | .boolean b => d.boolText b
  | .integer n => toString n.toInt
  | .float x => floatText x
  | .string s => quoteLiteral s
  | .expression sql => sql
  | .raw sql _ => sql

/-- The values of the placeholders of a default. -/
def DefaultValue.bindings : DefaultValue → List Value
  | .raw _ bindings => bindings
  | _ => []

/-- The values of the placeholders of a column. -/
def Column.bindings (c : Column) : List Value :=
  c.defaultValue.elim [] DefaultValue.bindings

/-- A column is **bound** if its raw default has a value for each placeholder. -/
def Column.Bound (c : Column) : Prop :=
  ∀ sql bindings, c.defaultValue = some (.raw sql bindings) →
    Placeholder.count sql = bindings.length

/-- The default clause as text. -/
def Dialect.defaultFragment (d : Dialect) (value : Option DefaultValue) : String :=
  value.elim "" fun v => " DEFAULT " ++ d.defaultSql v

/-- The **fragment** of a column: its definition as text. -/
def Dialect.fragment (d : Dialect) (c : Column) : String :=
  d.wrap c.name ++ " " ++ d.columnType c ++ d.collationClause c.collation ++
    d.autoincrementClause c.autoincrement ++ d.defaultFragment c.defaultValue ++ d.keyClause c ++
    d.referenceClause c.references ++ Dialect.checkClause c.check

/-- The default of a bound column is written with its values. -/
theorem defaultClause_of_bound {c : Column} (h : c.Bound) (d : Dialect) :
    d.defaultClause c.defaultValue = .ok (d.defaultFragment c.defaultValue, c.bindings) := by
  rw [Column.Bound] at h
  rw [Column.bindings]
  cases hv : c.defaultValue with
  | none => rfl
  | some v =>
      cases v with
      | raw sql bindings =>
          have hcount := h sql bindings hv
          rw [Dialect.defaultClause, Dialect.defaultText, if_neg (not_not_intro hcount)]
          rfl
      | _ => rfl

/-- The default of a column that is not bound is refused. -/
theorem defaultClause_of_not_bound {c : Column} (h : ¬ c.Bound) (d : Dialect) :
    ∃ e, d.defaultClause c.defaultValue = .error e := by
  rw [Column.Bound] at h
  push Not at h
  obtain ⟨sql, bindings, hv, hcount⟩ := h
  rw [hv, Dialect.defaultClause, Dialect.defaultText, if_pos hcount]
  exact ⟨_, rfl⟩

/-- The definition of a bound column is its fragment. -/
theorem columnDef_of_bound {c : Column} (h : c.Bound) (d : Dialect) :
    d.formatter.columnDef c = .ok ⟨[d.fragment c], c.bindings⟩ := by
  rw [Dialect.formatter]
  dsimp only
  rw [Dialect.columnDef, defaultClause_of_bound h]
  rfl

/-- A column that is not bound has no definition. -/
theorem columnDef_of_not_bound {c : Column} (h : ¬ c.Bound) (d : Dialect) :
    ∃ e, d.formatter.columnDef c = .error e := by
  obtain ⟨e, he⟩ := defaultClause_of_not_bound h d
  rw [Dialect.formatter]
  dsimp only
  rw [Dialect.columnDef, he]
  exact ⟨e, rfl⟩

/-- A stock formatter writes columns one after the other. -/
theorem columnDefs_formatter (d : Dialect) :
    d.formatter.columnDefs = ColumnDefs.inOrder d.formatter.columnDef := rfl

/-- The definitions of bound columns are their fragments, with all values in order. -/
theorem columnDefs_of_bound {cs : List Column} (h : ∀ c ∈ cs, c.Bound) (d : Dialect) :
    d.formatter.columnDefs cs = .ok ⟨cs.map d.fragment, cs.flatMap Column.bindings⟩ := by
  rw [columnDefs_formatter]
  induction cs with
  | nil => rfl
  | cons c cs ih =>
      obtain ⟨hc, hcs⟩ := List.forall_mem_cons.mp h
      rw [ColumnDefs.inOrder, columnDef_of_bound hc, ih hcs]
      rfl

/-- Columns that are not all bound have no definitions. -/
theorem columnDefs_of_not_bound {cs : List Column} (h : ¬ ∀ c ∈ cs, c.Bound) (d : Dialect) :
    ∃ e, d.formatter.columnDefs cs = .error e := by
  rw [columnDefs_formatter]
  induction cs with
  | nil => exact absurd (List.forall_mem_nil _) h
  | cons c cs ih =>
      rw [ColumnDefs.inOrder]
      by_cases hc : c.Bound
      · have hcs : ¬ ∀ c ∈ cs, c.Bound := fun hcs => h (List.forall_mem_cons.mpr ⟨hc, hcs⟩)
        obtain ⟨e, he⟩ := ih hcs
        rw [columnDef_of_bound hc, he]
        exact ⟨e, rfl⟩
      · obtain ⟨e, he⟩ := columnDef_of_not_bound hc d
        rw [he]
        exact ⟨e, rfl⟩

/-! ### Columns in order -/

/-- If columns cannot be written one after the other, it is because one of them cannot. -/
theorem ColumnDefs.inOrder_error {columnDef : Column → Except Error ColumnDefs}
    {cs : List Column} {e : Error} (h : inOrder columnDef cs = .error e) :
    ∃ c ∈ cs, columnDef c = .error e := by
  induction cs with
  | nil => cases h
  | cons c cs ih =>
      rw [inOrder] at h
      cases hc : columnDef c with
      | error e' =>
          rw [hc] at h
          obtain rfl := Except.error.inj h
          exact ⟨c, List.mem_cons_self, hc⟩
      | ok defs =>
          rw [hc] at h
          cases hcs : inOrder columnDef cs with
          | error e' =>
              rw [hcs] at h
              obtain rfl := Except.error.inj h
              obtain ⟨c', hc', he⟩ := ih hcs
              exact ⟨c', List.mem_cons_of_mem c hc', he⟩
          | ok rest => rw [hcs] at h; cases h

/-- Columns are written alike, one after the other, if each of them is. -/
theorem ColumnDefs.inOrder_congr {columnDef columnDef' : Column → Except Error ColumnDefs}
    {cs : List Column} (h : ∀ c ∈ cs, columnDef c = columnDef' c) :
    inOrder columnDef cs = inOrder columnDef' cs := by
  induction cs with
  | nil => rfl
  | cons c cs ih =>
      obtain ⟨hc, hcs⟩ := List.forall_mem_cons.mp h
      rw [inOrder, inOrder, hc, ih hcs]

/-- Columns that are added one by one fail as those that are written one after the other do. -/
theorem Target.addEach_eq_error_iff {t : Target} {cs : List Column} {e : Error} :
    t.addEach cs = .error e ↔ ColumnDefs.inOrder t.formatter.columnDef cs = .error e := by
  induction cs generalizing e with
  | nil => exact iff_of_false (fun h => by cases h) (fun h => by cases h)
  | cons c cs ih =>
      rw [addEach, ColumnDefs.inOrder]
      cases t.formatter.columnDef c with
      | error e' =>
          dsimp only
          rw [Except.error.injEq, Except.error.injEq]
      | ok defs =>
          dsimp only
          cases hone : t.addEach cs with
          | error e' =>
              rw [ih.mp hone]
              dsimp only
              rw [Except.error.injEq, Except.error.injEq]
          | ok statements =>
              cases hall : ColumnDefs.inOrder t.formatter.columnDef cs with
              | error e' => rw [ih.mpr hall] at hone; cases hone
              | ok rest => exact iff_of_false (fun h => by cases h) (fun h => by cases h)

/-! ### Verbatim pieces -/

/-- The name of a custom type. -/
def DataType.verbatim : DataType → List String
  | .custom sql => [sql]
  | _ => []

/-- The text of an expression. -/
def DefaultValue.verbatim : DefaultValue → List String
  | .expression sql => [sql]
  | _ => []

/-- A collation where it is no identifier. -/
def Dialect.verbatimCollation (d : Dialect) (collation : Option String) : List String :=
  if d = .postgresql then [] else collation.toList

/-- The **verbatim** pieces of a column: the SQL that its fragment takes over as it is. A raw
default is not among them, since it comes with values. -/
def Column.verbatim (d : Dialect) (c : Column) : List String :=
  c.dataType.verbatim ++ d.verbatimCollation c.collation ++
    c.defaultValue.elim [] DefaultValue.verbatim ++ c.check.toList

/-- The placeholders of the verbatim pieces of a column, for which there are no values. -/
def Column.looseMarks (d : Dialect) (c : Column) : Nat :=
  ((c.verbatim d).map Placeholder.count).sum

/-- There are no loose placeholders exactly if no verbatim piece has one. -/
theorem Column.looseMarks_eq_zero_iff {d : Dialect} {c : Column} :
    c.looseMarks d = 0 ↔ ∀ sql ∈ c.verbatim d, Placeholder.count sql = 0 := by
  rw [looseMarks]
  induction c.verbatim d with
  | nil => exact iff_of_true rfl (List.forall_mem_nil _)
  | cons sql sqls ih =>
      rw [List.map_cons, List.sum_cons, List.forall_mem_cons, ← ih]
      omega

/-- What is wrong with a column that is not bound or has loose placeholders. -/
theorem Column.not_bound_and_loose_iff {d : Dialect} {c : Column} :
    ¬ (c.Bound ∧ c.looseMarks d = 0) ↔
      (∃ sql bindings, c.defaultValue = some (.raw sql bindings) ∧
        Placeholder.count sql ≠ bindings.length) ∨
      ∃ sql ∈ c.verbatim d, Placeholder.count sql ≠ 0 := by
  rw [looseMarks_eq_zero_iff, Bound, not_and_or]
  push Not
  exact Iff.rfl

/-- A column is **closed** if nothing that it takes over leaves a quote open. -/
structure Column.Closed (d : Dialect) (c : Column) : Prop where
  /-- The verbatim pieces are quote-closed. -/
  verbatim : ∀ sql ∈ c.verbatim d, QuoteClosed sql
  /-- A raw default is quote-closed. -/
  raw : ∀ sql bindings, c.defaultValue = some (.raw sql bindings) → QuoteClosed sql

/-- A verbatim piece, with its own placeholders. -/
theorem marks_verbatim {sql : String} (h : QuoteClosed sql) : Marks sql (Placeholder.count sql) :=
  ⟨h, rfl⟩

/-! ### Placeholders of the clauses -/

/-- A type that is not custom is plain, and a custom one stands as it is. -/
theorem marks_clause {t : DataType} (h : ∀ sql ∈ t.verbatim, QuoteClosed sql) (d : Dialect) :
    Marks (t.clause d) (t.verbatim.map Placeholder.count).sum := by
  by_cases hcustom : ∃ sql, t = .custom sql
  · obtain ⟨sql, rfl⟩ := hcustom
    have hclause : (DataType.custom sql).clause d = sql := by cases d <;> rfl
    rw [hclause]
    exact marks_verbatim (h sql List.mem_cons_self)
  · push Not at hcustom
    have hnone : t.verbatim = [] := by
      rw [DataType.verbatim.eq_def]
      split
      · next sql => exact absurd rfl (hcustom sql)
      · rfl
    rw [hnone]
    exact (plain_clause hcustom d).inert.marks

/-- The type of a column, where PostgreSQL may have a word of its own for it. -/
theorem marks_columnType {c : Column} (h : ∀ sql ∈ c.dataType.verbatim, QuoteClosed sql)
    (d : Dialect) : Marks (d.columnType c) (c.dataType.verbatim.map Placeholder.count).sum := by
  rw [Dialect.columnType.eq_def]
  split
  · split
    · next ht => rw [ht]; exact Inert.marks (Plain.inert rfl)
    · next ht => rw [ht]; exact Inert.marks (Plain.inert rfl)
    · next ht => rw [ht]; exact Inert.marks (Plain.inert rfl)
    · exact marks_clause h d
  · exact marks_clause h d

/-- A collation is an identifier, or stands as it is. -/
theorem marks_collationClause {d : Dialect} {collation : Option String}
    (h : ∀ sql ∈ d.verbatimCollation collation, QuoteClosed sql) :
    Marks (d.collationClause collation)
      ((d.verbatimCollation collation).map Placeholder.count).sum := by
  have hwords : Inert " COLLATE " := Plain.inert rfl
  rw [Dialect.verbatimCollation] at h ⊢
  cases collation with
  | none => rw [Option.toList_none, ite_self]; exact Inert.marks (Plain.inert rfl)
  | some name =>
      rw [Dialect.collationClause]
      split
      · exact (hwords.append (inert_wrap d name)).marks
      · next hd =>
          rw [if_neg hd] at h
          exact Marks.inert_append hwords (marks_verbatim (h name List.mem_cons_self))

/-- The default of a bound column has a placeholder for each of its values, and those of its
expression. -/
theorem marks_defaultFragment {d : Dialect} {c : Column} (hclosed : c.Closed d) (hbound : c.Bound) :
    Marks (d.defaultFragment c.defaultValue)
      (((c.defaultValue.elim [] DefaultValue.verbatim).map Placeholder.count).sum +
        c.bindings.length) := by
  have hwords : Inert " DEFAULT " := Plain.inert rfl
  rw [Column.bindings]
  cases hv : c.defaultValue with
  | none => exact Inert.marks (Plain.inert rfl)
  | some v =>
      refine Marks.inert_append hwords ?_
      cases v with
      | null => exact Inert.marks (Plain.inert (s := "NULL") rfl)
      | boolean b => exact (plain_boolText d b).inert.marks
      | integer n => exact (plain_toString_int _).inert.marks
      | float x => exact (plain_floatText x).inert.marks
      | string s => exact (inert_quoteLiteral s).marks
      | expression sql =>
          have hsql : sql ∈ c.verbatim d := by
            simp [Column.verbatim, hv, DefaultValue.verbatim]
          exact marks_verbatim (hclosed.verbatim sql hsql)
      | raw sql bindings =>
          refine ⟨hclosed.raw sql bindings hv, ?_⟩
          rw [Dialect.defaultSql, hbound sql bindings hv]
          exact (Nat.zero_add _).symm

/-- A reference is made of identifiers and words. -/
theorem inert_referenceClause (d : Dialect) (r : Option Reference) :
    Inert (d.referenceClause r) := by
  cases r with
  | none => exact Plain.inert rfl
  | some r =>
      have hwords : Inert " REFERENCES " := Plain.inert rfl
      have hopen : Inert " (" := Plain.inert rfl
      have hclose : Inert ")" := Plain.inert rfl
      exact ((((hwords.append (inert_wrap d r.table)).append hopen).append
        (inert_wrap d r.column)).append hclose).append (plain_actionClauses _ _).inert

/-- A check stands as it is, in parentheses. -/
theorem marks_checkClause {check : Option String} (h : ∀ sql ∈ check.toList, QuoteClosed sql) :
    Marks (Dialect.checkClause check) (check.toList.map Placeholder.count).sum := by
  cases check with
  | none => exact Inert.marks (Plain.inert rfl)
  | some sql =>
      have hwords : Inert " CHECK (" := Plain.inert rfl
      have hclose : Inert ")" := Plain.inert rfl
      have hsql := marks_verbatim (h sql List.mem_cons_self)
      exact (Marks.inert_append hwords hsql).append_inert hclose

/-- **The placeholders of a fragment** are those of its verbatim pieces, and one for each of its
values. -/
theorem marks_fragment {d : Dialect} {c : Column} (hclosed : c.Closed d) (hbound : c.Bound) :
    Marks (d.fragment c) (c.looseMarks d + c.bindings.length) := by
  have hpieces := hclosed.verbatim
  rw [Column.verbatim, List.forall_mem_append, List.forall_mem_append,
    List.forall_mem_append] at hpieces
  obtain ⟨⟨⟨htype, hcollation⟩, -⟩, hcheck⟩ := hpieces
  have hname := (inert_wrap d c.name).append (b := " ") (Plain.inert rfl)
  have hkey := (plain_keyClause d c).inert
  have hfragment := (((((((hname.marks.append (marks_columnType htype d)).append
    (marks_collationClause hcollation)).append_inert
    (plain_autoincrementClause d c.autoincrement).inert).append
    (marks_defaultFragment hclosed hbound)).append_inert hkey).append_inert
    (inert_referenceClause d c.references)).append (marks_checkClause hcheck))
  have hsum : c.looseMarks d = (c.dataType.verbatim.map Placeholder.count).sum +
      ((d.verbatimCollation c.collation).map Placeholder.count).sum +
      ((c.defaultValue.elim [] DefaultValue.verbatim).map Placeholder.count).sum +
      (c.check.toList.map Placeholder.count).sum := by
    simp only [Column.looseMarks, Column.verbatim, List.map_append, List.sum_append]
  refine ⟨hfragment.closed, hfragment.count_eq.trans ?_⟩
  omega

/-! ### Statements -/

/-- A target whose columns are written by the **stock formatter** of its dialect. -/
def Target.stock (d : Dialect) (table : String) (comment : Option String) : Target where
  dialect := d
  formatter := d.formatter
  table := table
  comment := comment

namespace Target

variable {d : Dialect} {table : String} {comment : Option String} {cs : List Column}

/-- The dialect of a stock target. -/
@[simp] theorem dialect_stock : (stock d table comment).dialect = d := rfl

/-- The formatter of a stock target. -/
@[simp] theorem formatter_stock : (stock d table comment).formatter = d.formatter := rfl

/-- The quoted table of a stock target. -/
@[simp] theorem quotedTable_stock : (stock d table comment).quotedTable = d.wrap table := rfl

/-- The text of a statement that alters the table of a stock target. -/
@[simp] theorem alter_stock (change : String) :
    (stock d table comment).alter change = "ALTER TABLE " ++ d.wrap table ++ " " ++ change := rfl

/-- The statements that add columns, given their fragments. -/
def addStatements (t : Target) (columns : List Column) : List Statement :=
  match t.dialect with
  | .sqlite =>
    columns.map fun c => t.addOneStatement ⟨[t.dialect.fragment c], c.bindings⟩
  | d => [t.addStatement ⟨columns.map d.fragment, columns.flatMap Column.bindings⟩]

/-- A table with bound columns is created from their fragments. -/
theorem createTable_of_bound (h : ∀ c ∈ cs, c.Bound) (ifNotExists : Bool) :
    (stock d table comment).createTable cs ifNotExists =
      Emission.andThen
        ⟨[(stock d table comment).createStatement
          ⟨cs.map d.fragment, cs.flatMap Column.bindings⟩ ifNotExists], none⟩
        (stock d table comment).tableComment := by
  rw [createTable, stock]
  dsimp only
  rw [columnDefs_of_bound h]

/-- A table with a column that is not bound cannot be created. -/
theorem createTable_of_not_bound (h : ¬ ∀ c ∈ cs, c.Bound) (ifNotExists : Bool) :
    ∃ e, (stock d table comment).createTable cs ifNotExists = .failed e := by
  obtain ⟨e, he⟩ := columnDefs_of_not_bound h d
  refine ⟨e, ?_⟩
  rw [createTable, stock]
  dsimp only
  rw [he]

/-- One statement for each of some bound columns, wherever a stock formatter writes them. -/
theorem addEach_of_bound {t : Target} (ht : t.formatter = d.formatter) (h : ∀ c ∈ cs, c.Bound) :
    t.addEach cs = .ok (cs.map fun c => t.addOneStatement ⟨[d.fragment c], c.bindings⟩) := by
  induction cs with
  | nil => rfl
  | cons c cs ih =>
      obtain ⟨hc, hcs⟩ := List.forall_mem_cons.mp h
      rw [addEach, ht, columnDef_of_bound hc, ih hcs]
      rfl

/-- Bound columns are added by their fragments. -/
theorem addColumns_of_bound (h : ∀ c ∈ cs, c.Bound) :
    (stock d table comment).addColumns cs =
      { statements := (stock d table comment).addStatements cs } := by
  have hdefs : (stock d table comment).formatter.columnDefs cs =
      .ok ⟨cs.map d.fragment, cs.flatMap Column.bindings⟩ := columnDefs_of_bound h d
  rw [addColumns]
  cases d with
  | sqlite => exact congrArg Emission.ofExcept (addEach_of_bound rfl h)
  | generic | postgresql | mysql | oracle =>
      rw [hdefs]
      rfl

/-- Columns that are not all bound are not added. -/
theorem addColumns_of_not_bound (h : ¬ ∀ c ∈ cs, c.Bound) :
    ∃ e, (stock d table comment).addColumns cs = .failed e := by
  obtain ⟨e, he⟩ := columnDefs_of_not_bound h d
  have hdefs : (stock d table comment).formatter.columnDefs cs = .error e := he
  refine ⟨e, ?_⟩
  rw [addColumns]
  cases d with
  | sqlite =>
      have heach : (stock .sqlite table comment).addEach cs = .error e :=
        addEach_eq_error_iff.mpr he
      exact congrArg Emission.ofExcept heach
  | generic | postgresql | mysql | oracle => rw [hdefs]; rfl

/-- A bound column gets its type in MySQL by its fragment. -/
theorem changeColumnType_of_bound {c : Column} (h : c.Bound) :
    (stock .mysql table comment).changeColumnType c =
      { statements := [{
          sql := (stock .mysql table comment).alter
            ("MODIFY COLUMN " ++ Dialect.mysql.fragment c)
          bindings := c.bindings }] } := by
  have hdef : (stock .mysql table comment).formatter.columnDef c =
      .ok ⟨[Dialect.mysql.fragment c], c.bindings⟩ := columnDef_of_bound h .mysql
  rw [changeColumnType, hdef]
  rfl

/-- A column that is not bound does not get its type in MySQL. -/
theorem changeColumnType_of_not_bound {c : Column} (h : ¬ c.Bound) :
    ∃ e, (stock .mysql table comment).changeColumnType c = .failed e := by
  obtain ⟨e, he⟩ := columnDef_of_not_bound h .mysql
  have hdef : (stock .mysql table comment).formatter.columnDef c = .error e := he
  rw [changeColumnType, hdef]
  exact ⟨e, rfl⟩

end Target

end SchemaDdl
