import SchemaDdl.Plan.OfOperation

/-!
# Forms of a Plan

There are fourteen kinds of operations and five dialects, but the plan of an operation has six forms
only: a missing feature, a statement around a name, statements that are nothing but text, and the
three kinds of statements with column definitions. The split over operations and dialects is made
once, in `Operation.planned`. What a plan asks for, how many statements it has, what they bind and
suppress and what ends it is read off the form.

* `Operation.missing?`, `Operation.request?` — the feature that the dialect lacks for an operation,
  and the name that the operation asks for.
* `Operation.statementCount` — the number of statements of an operation.
* `Frame`, `Operation.frame?` — the text around the name in the statement of an operation.
* `Operation.Planned` — the forms of a plan.

## Main results

* `Operation.planned` — the plan of an operation has one of the forms.
* `Target.addColumns_of_sqlite`, `Target.addColumns_of_ne_sqlite` — the two ways to add columns.
* `Target.addForeignKey_of_missing?`, `Target.addForeignKey_of_supported` — whether a foreign key
  can be added shows in the missing feature, whatever the dialect.
-/

namespace SchemaDdl

/-! ### What an operation needs -/

namespace Operation

/-- The feature that a dialect lacks for an operation. -/
def missing? (d : Dialect) (commented : Bool) (op : Operation) : Option Feature :=
  match d, op with
  | .sqlite, createTable .. => if commented then some .comment else none
  | .sqlite, setComment _ => some .comment
  | .sqlite, changeColumnType _ | .sqlite, addPrimaryKey _ | .sqlite, dropPrimaryKey _
  | .sqlite, addForeignKey _ | .sqlite, dropForeignKey _
  | .oracle, changeColumnType _ => some (.operation op.kind)
  | .oracle, addForeignKey key => Target.missingInOracle? key
  | _, _ => none

/-- The name that an operation asks for in a dialect. Primary keys are named without their columns.
Nothing is asked for where the grammar needs no name or the dialect lacks the feature. -/
def request? (d : Dialect) : Operation → Option NameRequest
  | addIndex key | dropIndex key => some ⟨.index, key.name, key.columns⟩
  | addUnique key | dropUnique key => some ⟨.unique, key.name, key.columns⟩
  | addPrimaryKey key =>
    if d = .sqlite ∨ d = .oracle ∧ key.name = none then none else some ⟨.primary, key.name, []⟩
  | dropPrimaryKey name =>
    if d = .generic ∨ d = .postgresql then some ⟨.primary, name, []⟩ else none
  | addForeignKey key =>
    if d = .sqlite ∨ d = .oracle ∧ (Target.missingInOracle? key).isSome then none
    else some ⟨.foreign, key.name, key.columns⟩
  | dropForeignKey key => if d = .sqlite then none else some ⟨.foreign, key.name, key.columns⟩
  | createTable .. | addColumns _ | dropColumns _ | renameColumn .. | changeColumnType _
  | setComment _ => none

/-- The **number of statements** of an operation in a dialect, on a table with a comment or without
one. -/
def statementCount (d : Dialect) (commented : Bool) : Operation → Nat
  | createTable .. => if commented then 2 else 1
  | addColumns columns => if d = .sqlite then columns.length else 1
  | dropColumns columns => if d = .generic ∨ d = .sqlite then columns.length else 1
  | renameColumn .. | changeColumnType _ | addPrimaryKey _ | dropPrimaryKey _ | addIndex _
  | dropIndex _ | addUnique _ | dropUnique _ | addForeignKey _ | dropForeignKey _
  | setComment _ => 1

end Operation

/-! ### Names in statements -/

/-- A statement with a gap for a name: the text before it and the text after it. -/
structure Frame where
  /-- The text before the name. -/
  before : String
  /-- The text after the name. -/
  after : String := ""

/-- A frame around a quoted name. -/
def Frame.around (f : Frame) (name : String) : String :=
  f.before ++ name ++ f.after

/-- The schema of the table in quotes with a dot after it, if the table has one. -/
def Target.schemaPrefix (t : Target) : String :=
  (Target.qualifier? t.table.toList).elim "" fun schema =>
    t.formatter.wrap (String.ofList schema) ++ "."

/-- The **frame** of an operation: the text around the name in its statement. There is none if the
statement mentions no name, or if there is no statement. -/
def Operation.frame? (t : Target) : Operation → Option Frame
  | addIndex key =>
    some ⟨"CREATE INDEX ",
      " ON " ++ t.quotedTable ++ " (" ++ t.formatter.columnize key.columns ++ ")"⟩
  | dropIndex _ =>
    match t.dialect with
    | .generic | .mysql => some ⟨"DROP INDEX ", " ON " ++ t.quotedTable⟩
    | .postgresql => some { before := "DROP INDEX " ++ t.schemaPrefix }
    | .sqlite | .oracle => some { before := "DROP INDEX " }
  | addUnique key =>
    match t.dialect with
    | .sqlite =>
      some ⟨"CREATE UNIQUE INDEX ",
        " ON " ++ t.quotedTable ++ " (" ++ t.formatter.columnize key.columns ++ ")"⟩
    | _ =>
      some ⟨t.alter "ADD CONSTRAINT ", " UNIQUE (" ++ t.formatter.columnize key.columns ++ ")"⟩
  | dropUnique _ =>
    match t.dialect with
    | .sqlite => some { before := "DROP INDEX " }
    | .mysql => some { before := t.alter "DROP INDEX " }
    | .generic | .postgresql | .oracle => some { before := t.alter "DROP CONSTRAINT " }
  | addPrimaryKey key =>
    match t.dialect, key.name with
    | .sqlite, _ | .oracle, none => none
    | _, _ =>
      some ⟨t.alter "ADD CONSTRAINT ",
        " PRIMARY KEY (" ++ t.formatter.columnize key.columns ++ ")"⟩
  | dropPrimaryKey _ =>
    match t.dialect with
    | .generic | .postgresql => some { before := t.alter "DROP CONSTRAINT " }
    | .mysql | .sqlite | .oracle => none
  | addForeignKey key =>
    if t.dialect = .sqlite ∨ t.dialect = .oracle ∧ (Target.missingInOracle? key).isSome then none
    else
      some ⟨t.alter "ADD CONSTRAINT ",
        " FOREIGN KEY (" ++ t.formatter.columnize key.columns ++ ") REFERENCES " ++
          t.formatter.wrap key.referencedTable ++ " (" ++
          t.formatter.columnize key.referencedColumns ++ ")" ++
          actionClauses key.onDelete key.onUpdate⟩
  | dropForeignKey _ =>
    match t.dialect with
    | .sqlite => none
    | .mysql => some { before := t.alter "DROP FOREIGN KEY " }
    | .generic | .postgresql | .oracle => some { before := t.alter "DROP CONSTRAINT " }
  | createTable .. | addColumns _ | dropColumns _ | renameColumn .. | changeColumnType _
  | setComment _ => none

/-- A frame without text after the name ends with the name. -/
theorem Frame.eq_around (before name : String) :
    before ++ name = Frame.around { before } name :=
  String.append_empty.symm

/-- A change that ends with a name has its frame in the whole statement. -/
theorem Target.alter_eq_around (t : Target) (words name : String) :
    t.alter (words ++ name) = Frame.around { before := t.alter words } name := by
  simp only [Frame.around, alter, String.append_assoc, String.append_empty]

/-- A quoted index name with its schema has the schema in front. -/
theorem Target.schemaQualified_eq (t : Target) (name : String) :
    t.schemaQualified name = t.schemaPrefix ++ name := by
  rw [schemaQualified, schemaPrefix]
  cases Target.qualifier? t.table.toList with
  | none => exact String.empty_append.symm
  | some schema => rfl

/-! ### Forms -/

/-- The **forms** of the plan of an operation on a target. -/
inductive Operation.Planned (t : Target) : Operation → Plan → Prop where
  /-- The dialect lacks a feature that the operation needs. -/
  | lacking {op : Operation} {feature : Feature}
      (missing : op.missing? t.dialect t.comment.isSome = some feature)
      (request : op.request? t.dialect = none) (frame : op.frame? t = none) :
      Planned t op (.unsupported t feature)
  /-- One statement, the frame around the name that the operation asks for. -/
  | named {op : Operation} {r : NameRequest} {f : Frame}
      (missing : op.missing? t.dialect t.comment.isSome = none)
      (request : op.request? t.dialect = some r) (frame : op.frame? t = some f)
      (count : op.statementCount t.dialect t.comment.isSome = 1) :
      Planned t op (.named r f.around)
  /-- Statements that are nothing but text. -/
  | texts {op : Operation} {statements : List Statement}
      (missing : op.missing? t.dialect t.comment.isSome = none)
      (request : op.request? t.dialect = none) (frame : op.frame? t = none)
      (count : op.statementCount t.dialect t.comment.isSome = statements.length)
      (bare : ∀ st ∈ statements, st.bindings = [] ∧ st.suppress = none) :
      Planned t op (.emit { statements })
  /-- A table is created with its columns. -/
  | creating (columns : List Column) (ifNotExists : Bool) :
      Planned t (.createTable columns ifNotExists) (.emit (t.createTable columns ifNotExists))
  /-- Columns are added. -/
  | adding (columns : List Column) : Planned t (.addColumns columns) (.emit (t.addColumns columns))
  /-- A column is restated to give it another type. -/
  | restating (column : Column) (hd : t.dialect = .mysql) :
      Planned t (.changeColumnType column) (.emit (t.changeColumnType column))

namespace Operation

variable {t : Target} {op : Operation}

/-- A single statement that is nothing but text. -/
theorem Planned.text {sql : String} (missing : op.missing? t.dialect t.comment.isSome = none)
    (request : op.request? t.dialect = none) (frame : op.frame? t = none)
    (count : op.statementCount t.dialect t.comment.isSome = 1) :
    op.Planned t (.emit (.sql sql)) :=
  texts missing request frame count (List.forall_mem_singleton.mpr ⟨rfl, rfl⟩)

/-- A statement that is a frame around whatever name it gets. -/
theorem Planned.around {r : NameRequest} {f : Frame} {sql : String → String}
    (hsql : ∀ name, sql name = f.around name)
    (missing : op.missing? t.dialect t.comment.isSome = none)
    (request : op.request? t.dialect = some r) (frame : op.frame? t = some f)
    (count : op.statementCount t.dialect t.comment.isSome = 1) : op.Planned t (.named r sql) := by
  obtain rfl : sql = f.around := funext hsql
  exact named missing request frame count

end Operation

/-! ### Equations -/

/-- SQLite adds columns one by one. -/
theorem Target.addColumns_of_sqlite {t : Target} (h : t.dialect = .sqlite)
    (columns : List Column) : t.addColumns columns = .ofExcept (t.addEach columns) := by
  rw [addColumns, h]

/-- The other dialects add columns by one statement. -/
theorem Target.addColumns_of_ne_sqlite {t : Target} (h : t.dialect ≠ .sqlite)
    (columns : List Column) :
    t.addColumns columns =
      .ofExcept ((t.formatter.columnDefs columns).map fun defs => [t.addStatement defs]) := by
  cases hd : t.dialect with
  | sqlite => exact absurd hd h
  | generic | postgresql | mysql | oracle =>
      rw [addColumns, hd]
      cases t.formatter.columnDefs columns <;> rfl

/-- What is missing for a foreign key. -/
theorem Operation.isSome_missing?_addForeignKey_iff {d : Dialect} {commented : Bool}
    {key : ForeignKey} :
    ((addForeignKey key).missing? d commented).isSome ↔
      d = .sqlite ∨ d = .oracle ∧ (Target.missingInOracle? key).isSome := by
  cases d <;> simp [missing?]

/-- A foreign key for which a feature is missing cannot be added. -/
theorem Target.addForeignKey_of_missing? {t : Target} {key : ForeignKey} {commented : Bool}
    {feature : Feature}
    (h : (Operation.addForeignKey key).missing? t.dialect commented = some feature) :
    t.addForeignKey key = .unsupported t feature := by
  obtain ⟨d, f, table, comment⟩ := t
  cases d with
  | generic | postgresql | mysql => cases h
  | sqlite =>
      obtain rfl := Option.some.inj h
      rfl
  | oracle =>
      have hkey : missingInOracle? key = some feature := h
      rw [addForeignKey]
      dsimp only
      rw [hkey]

/-- A foreign key for which nothing is missing is added in the same form in all dialects. -/
theorem Target.addForeignKey_of_supported {t : Target} {key : ForeignKey} {commented : Bool}
    (h : (Operation.addForeignKey key).missing? t.dialect commented = none) :
    t.addForeignKey key = t.addSupportedForeignKey key := by
  obtain ⟨d, f, table, comment⟩ := t
  cases d with
  | generic | postgresql | mysql => rfl
  | sqlite => cases h
  | oracle =>
      have hkey : missingInOracle? key = none := h
      rw [addForeignKey]
      dsimp only
      rw [hkey]

namespace Operation

/-- **The plan of an operation** has one of the forms. -/
theorem planned (t : Target) (op : Operation) : op.Planned t (op.plan t) := by
  have hconstraint := t.alter_eq_around "DROP CONSTRAINT "
  obtain ⟨d, w, table, comment⟩ := t
  cases op with
  | createTable columns ifNotExists => exact .creating columns ifNotExists
  | addColumns columns => exact .adding columns
  | dropColumns columns =>
      cases d with
      | generic | sqlite =>
          exact .texts rfl rfl rfl (List.length_map _).symm
            (List.forall_mem_map.mpr fun _ _ => ⟨rfl, rfl⟩)
      | postgresql | mysql | oracle => exact .text rfl rfl rfl rfl
  | renameColumn source target => cases d <;> exact .text rfl rfl rfl rfl
  | changeColumnType column =>
      cases d with
      | generic | postgresql => exact .text rfl rfl rfl rfl
      | mysql => exact .restating column rfl
      | sqlite | oracle => exact .lacking rfl rfl rfl
  | addPrimaryKey key =>
      obtain ⟨columns, name⟩ := key
      cases d with
      | generic | postgresql | mysql =>
          refine .around (fun name => ?_) rfl rfl rfl rfl
          simp only [Frame.around, Target.alter, String.append_assoc]
      | sqlite => exact .lacking rfl rfl rfl
      | oracle =>
          cases name with
          | none => exact .text rfl rfl rfl rfl
          | some name =>
              refine .around (fun name => ?_) rfl rfl rfl rfl
              simp only [Frame.around, Target.alter, String.append_assoc]
  | dropPrimaryKey name =>
      cases d with
      | generic | postgresql => exact .around hconstraint rfl rfl rfl rfl
      | mysql | oracle => exact .text rfl rfl rfl rfl
      | sqlite => exact .lacking rfl rfl rfl
  | addIndex key =>
      refine .around (fun name => ?_) (by cases d <;> rfl) rfl rfl rfl
      simp only [Frame.around, String.append_assoc]
  | dropIndex key =>
      cases d with
      | generic | mysql => exact .around (fun name => String.append_assoc) rfl rfl rfl rfl
      | postgresql =>
          refine .around (fun name => ?_) rfl rfl rfl rfl
          dsimp only
          rw [← Frame.eq_around, String.append_assoc, ← Target.schemaQualified_eq]
      | sqlite | oracle => exact .around (Frame.eq_around _) rfl rfl rfl rfl
  | addUnique key =>
      cases d with
      | sqlite =>
          refine .around (fun name => ?_) rfl rfl rfl rfl
          simp only [Frame.around, String.append_assoc]
      | generic | postgresql | mysql | oracle =>
          refine .around (fun name => ?_) rfl rfl rfl rfl
          simp only [Frame.around, Target.alter, String.append_assoc]
  | dropUnique key =>
      cases d with
      | sqlite => exact .around (Frame.eq_around _) rfl rfl rfl rfl
      | mysql => exact .around (Target.alter_eq_around _ _) rfl rfl rfl rfl
      | generic | postgresql | oracle => exact .around hconstraint rfl rfl rfl rfl
  | addForeignKey key =>
      rw [plan]
      cases hkey : (addForeignKey key).missing? d comment.isSome with
      | some feature =>
          have hlacking := isSome_missing?_addForeignKey_iff.mp (Option.isSome_of_eq_some hkey)
          rw [Target.addForeignKey_of_missing? hkey]
          exact .lacking hkey (if_pos hlacking) (if_pos hlacking)
      | none =>
          have hsupported := (not_congr isSome_missing?_addForeignKey_iff).mp
            (Option.not_isSome_iff_eq_none.mpr hkey)
          rw [Target.addForeignKey_of_supported hkey]
          refine .around (fun name => ?_) hkey (if_neg hsupported) (if_neg hsupported) rfl
          simp only [Frame.around, Target.alter, String.append_assoc]
  | dropForeignKey key =>
      cases d with
      | sqlite => exact .lacking rfl rfl rfl
      | mysql => exact .around (Target.alter_eq_around _ _) rfl rfl rfl rfl
      | generic | postgresql | oracle => exact .around hconstraint rfl rfl rfl rfl
  | setComment text =>
      cases d with
      | sqlite => exact .lacking rfl rfl rfl
      | generic | postgresql | mysql | oracle => exact .text rfl rfl rfl rfl

end Operation

end SchemaDdl
