import SchemaDdl.Proofs.ColumnText
import SchemaDdl.Proofs.Outcome
import SchemaDdl.Proofs.Parts

/-!
# Statement Templates

The statements of every operation, written in parts: which words, identifiers and literals they
consist of, in which order. The templates cover the operations that carry no SQL of their own
(`Operation.NoVerbatim`), in all dialects with their stock formatters.

* `Column.parts`, `Operation.parts` — the parts of a column definition, and of the statements of an
  operation, given the table, its comment, and the name that the operation gets.

## Main results

* `render_columnParts`, `render_parts` — the parts make up the texts that are written.
* `legible_columnParts`, `legible_parts` — they are legible, so that a lexer finds them again.
-/

namespace SchemaDdl

/-! ### Columns -/

/-- A column that carries **no verbatim SQL**: no custom type, no collation that is not an
identifier, no expression, no raw default and no check. -/
structure Column.NoVerbatim (d : Dialect) (c : Column) : Prop where
  /-- Nothing is taken over as it is. -/
  verbatim_eq : c.verbatim d = []
  /-- The default is not raw. -/
  not_raw : ∀ sql bindings, c.defaultValue ≠ some (.raw sql bindings)

/-- The parts of a collation clause. -/
def collationParts : Option String → List Part
  | none => []
  | some name => [.words " COLLATE ", .identifier name]

/-- The parts of a default clause. -/
def Dialect.defaultParts (d : Dialect) : Option DefaultValue → List Part
  | none => []
  | some (.string s) => [.words " DEFAULT ", .literal s]
  | some value => [.words " DEFAULT ", .words (d.defaultSql value)]

/-- The parts of a reference. -/
def referenceParts : Option Reference → List Part
  | none => []
  | some r =>
    [.words " REFERENCES ", .identifier r.table, .words " (", .identifier r.column, .words ")",
      .words (actionClauses r.onDelete r.onUpdate)]

/-- The parts of a column definition. -/
def Column.parts (d : Dialect) (c : Column) : List Part :=
  [.identifier c.name, .words " ", .words (d.columnType c)] ++ collationParts c.collation ++
    [.words (d.autoincrementClause c.autoincrement)] ++ d.defaultParts c.defaultValue ++
    [.words (d.keyClause c)] ++ referenceParts c.references

namespace Column.NoVerbatim

variable {d : Dialect} {c : Column}

/-- A column without verbatim SQL needs no values. -/
theorem bound (h : c.NoVerbatim d) : c.Bound :=
  fun sql bindings hraw => absurd hraw (h.not_raw sql bindings)

/-- Each clause of a column without verbatim SQL is without it. -/
theorem clauses (h : c.NoVerbatim d) :
    c.dataType.verbatim = [] ∧ d.verbatimCollation c.collation = [] ∧
      c.defaultValue.elim [] DefaultValue.verbatim = [] ∧ c.check = none := by
  have hpieces := h.verbatim_eq
  rw [Column.verbatim, List.append_eq_nil_iff, List.append_eq_nil_iff,
    List.append_eq_nil_iff] at hpieces
  obtain ⟨⟨⟨htype, hcollation⟩, hdefault⟩, hcheck⟩ := hpieces
  exact ⟨htype, hcollation, hdefault, Option.toList_eq_nil_iff.mp hcheck⟩

/-- The type of a column without verbatim SQL is not custom. -/
theorem dataType_ne (h : c.NoVerbatim d) : ∀ sql, c.dataType ≠ .custom sql := by
  intro sql hsql
  have hnone := h.clauses.1
  rw [hsql] at hnone
  cases hnone

/-- The type of a column without verbatim SQL is plain. -/
theorem plain_columnType (h : c.NoVerbatim d) : Plain (d.columnType c) := by
  have htype := h.dataType_ne
  rw [Dialect.columnType.eq_def]
  split
  · split
    · rfl
    · rfl
    · rfl
    · exact plain_clause htype d
  · exact plain_clause htype d

/-- The parts of a collation make up its clause, which is empty or an identifier. -/
theorem render_collationParts (h : c.NoVerbatim d) :
    render d (collationParts c.collation) = d.collationClause c.collation := by
  have hcollation := h.clauses.2.1
  rw [Dialect.verbatimCollation] at hcollation
  cases hname : c.collation with
  | none => rfl
  | some name =>
      rw [hname] at hcollation
      split at hcollation
      · next hd =>
          rw [Dialect.collationClause, if_pos hd, collationParts, render_cons, render_cons,
            render_nil, String.append_empty]
          rfl
      · cases hcollation

end Column.NoVerbatim

/-- The parts of a default make up its clause. -/
theorem render_defaultParts (d : Dialect) (value : Option DefaultValue) :
    render d (d.defaultParts value) = d.defaultFragment value := by
  cases value with
  | none => rfl
  | some v =>
      cases v <;> simp [Dialect.defaultParts, Dialect.defaultFragment, Dialect.defaultSql, Part.sql]

/-- The parts of a reference make up its clause. -/
theorem render_referenceParts (d : Dialect) (r : Option Reference) :
    render d (referenceParts r) = d.referenceClause r := by
  cases r with
  | none => rfl
  | some r =>
      have hclause : d.referenceClause (some r) =
          " REFERENCES " ++ d.wrap r.table ++ " (" ++ d.wrap r.column ++ ")" ++
            actionClauses r.onDelete r.onUpdate := rfl
      simp [hclause, referenceParts, String.append_assoc]

/-- **The parts of a column** make up its fragment. -/
theorem render_columnParts {d : Dialect} {c : Column} (h : c.NoVerbatim d) :
    render d (c.parts d) = d.fragment c := by
  have hcheck : Dialect.checkClause c.check = "" := by rw [h.clauses.2.2.2]; rfl
  rw [Column.parts, render_append, render_append, render_append, render_append, render_append,
    h.render_collationParts, render_defaultParts, render_referenceParts, Dialect.fragment, hcheck]
  simp [Part.sql, String.append_assoc]

/-- A default that is no text is plain words. -/
theorem legible_defaultParts {d : Dialect} {c : Column} (h : c.NoVerbatim d) :
    Legible true (d.defaultParts c.defaultValue) := by
  have hdefault := h.clauses.2.2.1
  have hwords : ∀ w : String, Plain w → Legible true [.words " DEFAULT ", .words w] :=
    fun w hw => ⟨rfl, hw, trivial⟩
  cases hv : c.defaultValue with
  | none => trivial
  | some v =>
      rw [hv] at hdefault
      cases v with
      | null => exact hwords "NULL" rfl
      | boolean b => exact hwords _ (plain_boolText d b)
      | integer n => exact hwords _ (plain_toString_int _)
      | float x => exact hwords _ (plain_floatText x)
      | string s => exact ⟨rfl, rfl, trivial⟩
      | expression sql => cases hdefault
      | raw sql bindings => exact absurd hv (h.not_raw sql bindings)

/-- A collation is legible after a quoted part. -/
theorem legible_collationParts (collation : Option String) :
    Legible true (collationParts collation) := by
  cases collation with
  | none => trivial
  | some name => exact ⟨rfl, rfl, trivial⟩

/-- A reference is legible after a quoted part. -/
theorem legible_referenceParts (r : Option Reference) : Legible true (referenceParts r) := by
  cases r with
  | none => trivial
  | some r =>
      exact ⟨rfl, rfl, rfl, rfl, rfl, plain_actionClauses r.onDelete r.onUpdate, trivial⟩

/-- **The parts of a column are legible.** -/
theorem legible_columnParts {d : Dialect} {c : Column} (h : c.NoVerbatim d) :
    Legible false (c.parts d) := by
  have hname : Legible false [.identifier c.name, .words " ", .words (d.columnType c)] :=
    ⟨rfl, rfl, h.plain_columnType, trivial⟩
  have hauto : Legible true [.words (d.autoincrementClause c.autoincrement)] :=
    ⟨plain_autoincrementClause d c.autoincrement, trivial⟩
  have hkey : Legible true [.words (d.keyClause c)] := ⟨plain_keyClause d c, trivial⟩
  exact ((((hname.append (legible_collationParts c.collation)).append hauto).append
    (legible_defaultParts h)).append hkey).append (legible_referenceParts c.references)

/-! ### Operations -/

/-- An operation of which no column carries **verbatim SQL**. -/
def Operation.NoVerbatim (d : Dialect) (op : Operation) : Prop :=
  ∀ c ∈ op.columns, c.NoVerbatim d

/-- The parts of a statement that alters a table. -/
def alterParts (table : String) (change : List Part) : List Part :=
  .words "ALTER TABLE " :: .identifier table :: .words " " :: change

/-- The parts of a statement that drops a constraint. -/
def dropConstraintParts (table name : String) : List Part :=
  alterParts table [.words "DROP CONSTRAINT ", .identifier name]

/-- The parts of a statement that creates an index. -/
def createIndexParts (words table name : String) (columns : List String) : List Part :=
  .words words :: .identifier name :: .words " ON " :: .identifier table :: .words " (" ::
    (nameParts columns ++ [.words ")"])

/-- The parts of a statement that adds a constraint over columns. -/
def addConstraintParts (words table name : String) (columns : List String) : List Part :=
  alterParts table
    (.words "ADD CONSTRAINT " :: .identifier name :: .words words ::
      (nameParts columns ++ [.words ")"]))

/-- The parts of an index name with the schema of its table. -/
def schemaQualifiedParts (table name : String) : List Part :=
  match Target.qualifier? table.toList with
  | some schema => [.identifier (String.ofList schema), .words ".", .identifier name]
  | none => [.identifier name]

/-- The parts of a statement that sets a comment. -/
def Dialect.commentParts (d : Dialect) (table : String) (comment : Option String) : List Part :=
  let text := Part.literal (comment.getD "")
  match d with
  | .mysql => alterParts table [.words "COMMENT = ", text]
  | _ => [.words "COMMENT ON TABLE ", .identifier table, .words " IS ", text]

/-- The parts of a statement that creates a table. -/
def Dialect.createTableParts (d : Dialect) (table : String) (columns : List Column)
    (ifNotExists : Bool) : List Part :=
  let condition := if ifNotExists && d.hasIfNotExists then "IF NOT EXISTS " else ""
  .words "CREATE TABLE " :: .words condition :: .identifier table :: .words " (" ::
    (commaParts (columns.map (Column.parts d)) ++ [.words ")"])

namespace Operation

/-- The **parts of the statements** of an operation on a table, given the name that the operation
gets if it asks for one. -/
def parts (d : Dialect) (table : String) (comment : Option String) (name : String) :
    Operation → List (List Part)
  | createTable columns ifNotExists =>
    d.createTableParts table columns ifNotExists ::
      (comment.map fun text => d.commentParts table (some text)).toList
  | addColumns columns =>
    match d with
    | .sqlite => columns.map fun c => alterParts table (.words d.addColumnWords :: c.parts d)
    | _ =>
      [alterParts table (commaParts (columns.map fun c => .words d.addColumnWords :: c.parts d))]
  | dropColumns columns =>
    match d with
    | .generic | .sqlite =>
      columns.map fun c => alterParts table [.words "DROP COLUMN ", .identifier c]
    | .postgresql | .mysql =>
      [alterParts table (commaParts (columns.map fun c => [.words "DROP COLUMN ", .identifier c]))]
    | .oracle => [alterParts table (.words "DROP (" :: nameParts columns ++ [.words ")"])]
  | renameColumn source target =>
    [alterParts table
      [.words "RENAME COLUMN ", .identifier source, .words " TO ", .identifier target]]
  | changeColumnType c =>
    match d with
    | .mysql => [alterParts table (.words "MODIFY COLUMN " :: c.parts d)]
    | .postgresql =>
      [alterParts table
        [.words "ALTER COLUMN ", .identifier c.name, .words " TYPE ",
          .words (c.dataType.clause d)]]
    | _ =>
      [alterParts table
        [.words "ALTER COLUMN ", .identifier c.name, .words " SET DATA TYPE ",
          .words (c.dataType.clause d)]]
  | addPrimaryKey key =>
    if d = .oracle ∧ key.name = none then
      [alterParts table (.words "ADD PRIMARY KEY (" :: nameParts key.columns ++ [.words ")"])]
    else [addConstraintParts " PRIMARY KEY (" table name key.columns]
  | dropPrimaryKey _ =>
    match d with
    | .mysql | .oracle => [alterParts table [.words "DROP PRIMARY KEY"]]
    | _ => [dropConstraintParts table name]
  | addIndex key => [createIndexParts "CREATE INDEX " table name key.columns]
  | dropIndex _ =>
    match d with
    | .generic | .mysql =>
      [[.words "DROP INDEX ", .identifier name, .words " ON ", .identifier table]]
    | .postgresql => [.words "DROP INDEX " :: schemaQualifiedParts table name]
    | .sqlite | .oracle => [[.words "DROP INDEX ", .identifier name]]
  | addUnique key =>
    match d with
    | .sqlite => [createIndexParts "CREATE UNIQUE INDEX " table name key.columns]
    | _ => [addConstraintParts " UNIQUE (" table name key.columns]
  | dropUnique _ =>
    match d with
    | .sqlite => [[.words "DROP INDEX ", .identifier name]]
    | .mysql => [alterParts table [.words "DROP INDEX ", .identifier name]]
    | _ => [dropConstraintParts table name]
  | addForeignKey key =>
    [alterParts table
      (.words "ADD CONSTRAINT " :: .identifier name :: .words " FOREIGN KEY (" ::
        (nameParts key.columns ++ .words ") REFERENCES " :: .identifier key.referencedTable ::
          .words " (" :: (nameParts key.referencedColumns ++
            [.words ")", .words (actionClauses key.onDelete key.onUpdate)])))]
  | dropForeignKey _ =>
    match d with
    | .mysql => [alterParts table [.words "DROP FOREIGN KEY ", .identifier name]]
    | _ => [dropConstraintParts table name]
  | setComment comment => [d.commentParts table comment]

end Operation

/-! ### Texts of the templates -/

section Texts

variable {d : Dialect} {table : String} {comment : Option String} {cs : List Column}

/-- The text of a statement that alters a table. -/
@[simp] theorem render_alterParts (d : Dialect) (table : String) (change : List Part) :
    render d (alterParts table change) =
      "ALTER TABLE " ++ d.wrap table ++ " " ++ render d change := by
  simp [alterParts, String.append_assoc]

/-- The text of an index name with the schema of its table. -/
theorem render_schemaQualifiedParts (name : String) :
    render d (schemaQualifiedParts table name) =
      (Target.stock d table comment).schemaQualified (d.wrap name) := by
  rw [schemaQualifiedParts, Target.schemaQualified]
  dsimp only [Target.stock]
  cases Target.qualifier? table.toList with
  | none => simp
  | some schema => simp [Dialect.formatter, String.append_assoc]

/-- The fragments of columns without verbatim SQL are made of their parts. -/
theorem map_render_columnParts (h : ∀ c ∈ cs, c.NoVerbatim d) :
    (cs.map (Column.parts d)).map (render d) = cs.map d.fragment := by
  rw [List.map_map]
  exact List.map_congr_left fun c hc => render_columnParts (h c hc)

/-- The text of the statement that sets a comment, where the dialect has one. -/
theorem texts_setComment {text : Option String}
    (h : ((Target.stock d table comment).setComment text).failure = none) :
    ((Target.stock d table comment).setComment text).statements.map Statement.sql =
      [render d (d.commentParts table text)] := by
  cases d with
  | sqlite => cases h
  | generic | postgresql | mysql | oracle =>
      simp [Target.setComment, Emission.sql, Dialect.commentParts, String.append_assoc]

/-- The texts of the statements that create a table. -/
theorem texts_createTable {ifNotExists : Bool} (hcs : ∀ c ∈ cs, c.NoVerbatim d)
    (h : ((Target.stock d table comment).createTable cs ifNotExists).failure = none)
    (name : String) :
    ((Target.stock d table comment).createTable cs ifNotExists).statements.map Statement.sql =
      ((Operation.createTable cs ifNotExists).parts d table comment name).map (render d) := by
  have hbound : ∀ c ∈ cs, c.Bound := fun c hc => (hcs c hc).bound
  have hcreate : ((Target.stock d table comment).createStatement
      ⟨cs.map d.fragment, cs.flatMap Column.bindings⟩ ifNotExists).sql =
      render d (d.createTableParts table cs ifNotExists) := by
    have hsql : ((Target.stock d table comment).createStatement
        ⟨cs.map d.fragment, cs.flatMap Column.bindings⟩ ifNotExists).sql =
        "CREATE TABLE " ++ (if ifNotExists && d.hasIfNotExists then "IF NOT EXISTS " else "") ++
          d.wrap table ++ " (" ++ ", ".intercalate (cs.map d.fragment) ++ ")" := rfl
    rw [hsql]
    simp [Dialect.createTableParts, String.append_assoc, map_render_columnParts hcs]
  rw [Target.createTable_of_bound hbound] at h ⊢
  rw [Operation.parts, List.map_cons, ← hcreate]
  cases comment with
  | none => rfl
  | some text => exact congrArg (List.cons _) (texts_setComment h)

/-- The texts of the statements that add columns. -/
theorem texts_addColumns (hcs : ∀ c ∈ cs, c.NoVerbatim d) (name : String) :
    ((Target.stock d table comment).addColumns cs).statements.map Statement.sql =
      ((Operation.addColumns cs).parts d table comment name).map (render d) := by
  have hbound : ∀ c ∈ cs, c.Bound := fun c hc => (hcs c hc).bound
  have hone : ∀ c ∈ cs, ((Target.stock d table comment).addOneStatement
      ⟨[d.fragment c], c.bindings⟩).sql =
      render d (alterParts table (.words d.addColumnWords :: c.parts d)) := by
    intro c hc
    simp [Target.addOneStatement, render_columnParts (hcs c hc)]
  have htogether : ((Target.stock d table comment).addStatement
      ⟨cs.map d.fragment, cs.flatMap Column.bindings⟩).sql =
      render d (alterParts table
        (commaParts (cs.map fun c => .words d.addColumnWords :: c.parts d))) := by
    have hwords : cs.map (fun c => d.addColumnWords ++ d.fragment c) =
        cs.map (fun c => d.addColumnWords ++ render d (c.parts d)) :=
      List.map_congr_left fun c hc => by rw [render_columnParts (hcs c hc)]
    simp [Target.addStatement, Function.comp_def, hwords]
  rw [Target.addColumns_of_bound hbound]
  cases d with
  | sqlite =>
      simp only [Target.addStatements, Target.dialect_stock, Operation.parts, List.map_map]
      refine List.map_congr_left fun c hc => ?_
      rw [Function.comp_apply, Function.comp_apply]
      exact hone c hc
  | generic | postgresql | mysql | oracle =>
      simp only [Target.addStatements, Target.dialect_stock, Operation.parts, List.map_cons,
        List.map_nil, htogether]

/-- The texts of the statements that drop columns. -/
theorem texts_dropColumns (columns : List String) (name : String) :
    ((Target.stock d table comment).dropColumns columns).statements.map Statement.sql =
      ((Operation.dropColumns columns).parts d table comment name).map (render d) := by
  have hclause : (Target.stock d table comment).dropClause =
      fun c => "DROP COLUMN " ++ d.wrap c := rfl
  cases d <;>
    simp [Target.dropColumns, hclause, Emission.sql, Operation.parts, Function.comp_def,
      String.append_assoc]

/-- The texts of the statement that gives a column another type, where the dialect has one. -/
theorem texts_changeColumnType {c : Column} (hc : c.NoVerbatim d)
    (h : ((Target.stock d table comment).changeColumnType c).failure = none) (name : String) :
    ((Target.stock d table comment).changeColumnType c).statements.map Statement.sql =
      ((Operation.changeColumnType c).parts d table comment name).map (render d) := by
  cases d with
  | mysql =>
      rw [Target.changeColumnType_of_bound hc.bound]
      simp [Operation.parts, render_columnParts hc]
  | generic | postgresql =>
      simp [Target.changeColumnType, Emission.sql, Operation.parts, Dialect.formatter,
        String.append_assoc]
  | sqlite | oracle => cases h

/-- The text of the statement that drops a constraint. -/
theorem text_dropConstraint (name : String) :
    (Target.stock d table comment).dropConstraint (d.wrap name) =
      render d (dropConstraintParts table name) := by
  simp [Target.dropConstraint, dropConstraintParts]

/-- The text of the statement that adds a primary key under a name. -/
theorem texts_addNamedPrimaryKey (key : KeySpec) (name : String) :
    ((Target.stock d table comment).addNamedPrimaryKey key).texts (Target.stock d table comment)
        name =
      [render d (addConstraintParts " PRIMARY KEY (" table name key.columns)] := by
  simp [Target.addNamedPrimaryKey, Plan.texts, addConstraintParts, Dialect.formatter,
    String.append_assoc]

/-- The text of the statement that adds a foreign key. -/
theorem texts_addSupportedForeignKey (key : ForeignKey) (name : String) :
    ((Target.stock d table comment).addSupportedForeignKey key).texts (Target.stock d table comment)
        name =
      ((Operation.addForeignKey key).parts d table comment name).map (render d) := by
  simp [Target.addSupportedForeignKey, Plan.texts, Operation.parts, Dialect.formatter,
    String.append_assoc]

/-- **The texts of an operation** that carries no verbatim SQL are made up of its parts. -/
theorem texts_plan {op : Operation} (hop : op.NoVerbatim d)
    (h : (op.plan (Target.stock d table comment)).failure? = none) (name : String) :
    (op.plan (Target.stock d table comment)).texts (Target.stock d table comment) name =
      (op.parts d table comment name).map (render d) := by
  -- Both sides spell out each operation, so the texts are compared operation by operation.
  cases op with
  | createTable cs ifNotExists => exact texts_createTable hop h name
  | addColumns cs => exact texts_addColumns hop name
  | dropColumns columns => exact texts_dropColumns columns name
  | renameColumn source target =>
      simp [Operation.plan, Plan.texts, Target.renameColumn, Emission.sql, Operation.parts,
        Dialect.formatter, String.append_assoc]
  | changeColumnType c => exact texts_changeColumnType (hop c List.mem_cons_self) h name
  | addPrimaryKey key =>
      obtain ⟨columns, explicit⟩ := key
      have hnamed := @texts_addNamedPrimaryKey d table comment ⟨columns, explicit⟩ name
      cases d with
      | sqlite => cases h
      | oracle =>
          cases explicit with
          | none =>
              simp [Operation.plan, Plan.texts, Target.addPrimaryKey, Emission.sql, Operation.parts,
                String.append_assoc]
          | some e => exact hnamed
      | generic | postgresql | mysql => exact hnamed
  | dropPrimaryKey explicit =>
      cases d with
      | sqlite => cases h
      | mysql | oracle =>
          simp [Operation.plan, Plan.texts, Target.dropPrimaryKey, Emission.sql, Operation.parts]
      | generic | postgresql => exact congrArg (fun sql => [sql]) (text_dropConstraint name)
  | addIndex key =>
      simp [Operation.plan, Plan.texts, Target.addIndex, Operation.parts, createIndexParts,
        Dialect.formatter, String.append_assoc]
  | dropIndex key =>
      cases d with
      | postgresql =>
          simp [Operation.plan, Plan.texts, Target.dropIndex, Operation.parts, Dialect.formatter,
            @render_schemaQualifiedParts .postgresql table comment]
      | generic | mysql | sqlite | oracle =>
          simp [Operation.plan, Plan.texts, Target.dropIndex, Operation.parts, Dialect.formatter,
            String.append_assoc]
  | addUnique key =>
      cases d <;>
        simp [Operation.plan, Plan.texts, Target.addUnique, Operation.parts, createIndexParts,
          addConstraintParts, Dialect.formatter, String.append_assoc]
  | dropUnique key =>
      cases d with
      | sqlite | mysql =>
          simp [Operation.plan, Plan.texts, Target.dropUnique, Operation.parts, Dialect.formatter]
      | generic | postgresql | oracle =>
          exact congrArg (fun sql => [sql]) (text_dropConstraint name)
  | addForeignKey key =>
      rw [Operation.plan] at h ⊢
      cases hkey : (Operation.addForeignKey key).missing? d comment.isSome with
      | some feature => rw [Target.addForeignKey_of_missing? hkey] at h; cases h
      | none =>
          rw [Target.addForeignKey_of_supported hkey]
          exact texts_addSupportedForeignKey key name
  | dropForeignKey key =>
      cases d with
      | sqlite => cases h
      | mysql =>
          simp [Operation.plan, Plan.texts, Target.dropForeignKey, Operation.parts,
            Dialect.formatter]
      | generic | postgresql | oracle =>
          exact congrArg (fun sql => [sql]) (text_dropConstraint name)
  | setComment text => exact texts_setComment h

end Texts

/-! ### Legible templates -/

section Legible

variable {d : Dialect} {table : String} {comment : Option String} {name : String}

/-- A statement that alters a table is legible if the change is. -/
theorem legible_alterParts {change : List Part} (h : Legible false change) :
    Legible false (alterParts table change) :=
  ⟨rfl, rfl, rfl, h⟩

/-- A statement that drops a constraint is legible. -/
theorem legible_dropConstraintParts : Legible false (dropConstraintParts table name) :=
  legible_alterParts ⟨rfl, rfl, trivial⟩

/-- A statement that creates an index is legible. -/
theorem legible_createIndexParts {words : String} (h : Plain words) (columns : List String) :
    Legible false (createIndexParts words table name columns) :=
  ⟨h, rfl, rfl, rfl, rfl, legible_nameParts_close columns⟩

/-- A statement that adds a constraint over columns is legible. -/
theorem legible_addConstraintParts {words : String} (h : Plain words) (hne : words ≠ "")
    (columns : List String) :
    Legible false (addConstraintParts words table name columns) := by
  have hcolumns : Legible (true && words == "") (nameParts columns ++ [.words ")"]) := by
    rw [beq_false_of_ne hne]
    exact legible_nameParts_close columns
  exact legible_alterParts ⟨rfl, rfl, h, hcolumns⟩

/-- A statement that sets a comment is legible. -/
theorem legible_commentParts (text : Option String) :
    Legible false (d.commentParts table text) := by
  cases d with
  | mysql => exact legible_alterParts ⟨rfl, rfl, trivial⟩
  | generic | postgresql | sqlite | oracle => exact ⟨rfl, rfl, rfl, rfl, trivial⟩

/-- A statement that creates a table is legible. -/
theorem legible_createTableParts {cs : List Column} (h : ∀ c ∈ cs, c.NoVerbatim d)
    (ifNotExists : Bool) : Legible false (d.createTableParts table cs ifNotExists) := by
  have hcondition : Plain (if ifNotExists && d.hasIfNotExists then "IF NOT EXISTS " else "") := by
    split <;> rfl
  have hcolumns : Legible false (commaParts (cs.map (Column.parts d)) ++ [.words ")"]) :=
    (legible_commaParts (List.forall_mem_map.mpr fun c hc =>
      legible_columnParts (h c hc))).append ⟨rfl, trivial⟩
  exact ⟨rfl, hcondition, rfl, rfl, hcolumns⟩

/-- **The templates are legible.** -/
theorem legible_parts {op : Operation} (hop : op.NoVerbatim d) :
    ∀ ps ∈ op.parts d table comment name, Legible false ps := by
  cases op with
  | createTable cs ifNotExists =>
      refine List.forall_mem_cons.mpr ⟨legible_createTableParts hop ifNotExists, ?_⟩
      cases comment with
      | none => exact List.forall_mem_nil _
      | some text => exact List.forall_mem_singleton.mpr (legible_commentParts _)
  | addColumns cs =>
      have hcolumn : ∀ c ∈ cs, Legible false (.words d.addColumnWords :: c.parts d) := fun c hc =>
        ⟨by cases d <;> rfl, legible_columnParts (hop c hc)⟩
      cases d with
      | sqlite =>
          exact List.forall_mem_map.mpr fun c hc => legible_alterParts (hcolumn c hc)
      | generic | postgresql | mysql | oracle =>
          exact List.forall_mem_singleton.mpr
            (legible_alterParts (legible_commaParts (List.forall_mem_map.mpr hcolumn)))
  | dropColumns columns =>
      have hcolumn : ∀ c ∈ columns, Legible false [.words "DROP COLUMN ", .identifier c] :=
        fun c _ => ⟨rfl, rfl, trivial⟩
      cases d with
      | generic | sqlite =>
          exact List.forall_mem_map.mpr fun c hc => legible_alterParts (hcolumn c hc)
      | postgresql | mysql =>
          exact List.forall_mem_singleton.mpr
            (legible_alterParts (legible_commaParts (List.forall_mem_map.mpr hcolumn)))
      | oracle =>
          exact List.forall_mem_singleton.mpr
            (legible_alterParts ⟨rfl, legible_nameParts_close columns⟩)
  | renameColumn source target =>
      exact List.forall_mem_singleton.mpr (legible_alterParts ⟨rfl, rfl, rfl, rfl, trivial⟩)
  | changeColumnType c =>
      have hc := hop c List.mem_cons_self
      have htype : Plain (c.dataType.clause d) := plain_clause hc.dataType_ne d
      cases d with
      | mysql =>
          exact List.forall_mem_singleton.mpr (legible_alterParts ⟨rfl, legible_columnParts hc⟩)
      | generic | postgresql | sqlite | oracle =>
          exact List.forall_mem_singleton.mpr (legible_alterParts ⟨rfl, rfl, rfl, htype, trivial⟩)
  | addPrimaryKey key =>
      rw [Operation.parts]
      split
      · exact List.forall_mem_singleton.mpr
          (legible_alterParts ⟨rfl, legible_nameParts_close key.columns⟩)
      · exact List.forall_mem_singleton.mpr
          (legible_addConstraintParts rfl (by decide) key.columns)
  | dropPrimaryKey explicit =>
      cases d with
      | mysql | oracle => exact List.forall_mem_singleton.mpr (legible_alterParts ⟨rfl, trivial⟩)
      | generic | postgresql | sqlite =>
          exact List.forall_mem_singleton.mpr legible_dropConstraintParts
  | addIndex key =>
      exact List.forall_mem_singleton.mpr (legible_createIndexParts rfl key.columns)
  | dropIndex key =>
      cases d with
      | generic | mysql =>
          exact List.forall_mem_singleton.mpr ⟨rfl, rfl, rfl, rfl, trivial⟩
      | postgresql =>
          refine List.forall_mem_singleton.mpr ⟨rfl, ?_⟩
          rw [schemaQualifiedParts]
          split
          · exact ⟨rfl, rfl, rfl, trivial⟩
          · exact ⟨rfl, trivial⟩
      | sqlite | oracle => exact List.forall_mem_singleton.mpr ⟨rfl, rfl, trivial⟩
  | addUnique key =>
      cases d with
      | sqlite =>
          exact List.forall_mem_singleton.mpr (legible_createIndexParts rfl key.columns)
      | generic | postgresql | mysql | oracle =>
          exact List.forall_mem_singleton.mpr
            (legible_addConstraintParts rfl (by decide) key.columns)
  | dropUnique key =>
      cases d with
      | sqlite => exact List.forall_mem_singleton.mpr ⟨rfl, rfl, trivial⟩
      | mysql => exact List.forall_mem_singleton.mpr (legible_alterParts ⟨rfl, rfl, trivial⟩)
      | generic | postgresql | oracle =>
          exact List.forall_mem_singleton.mpr legible_dropConstraintParts
  | addForeignKey key =>
      have hactions : Legible true
          [.words ")", .words (actionClauses key.onDelete key.onUpdate)] :=
        ⟨rfl, plain_actionClauses key.onDelete key.onUpdate, trivial⟩
      have hreferenced : Legible true
          (.words ") REFERENCES " :: .identifier key.referencedTable :: .words " (" ::
            (nameParts key.referencedColumns ++
              [.words ")", .words (actionClauses key.onDelete key.onUpdate)])) :=
        ⟨rfl, rfl, rfl, (legible_nameParts key.referencedColumns).append hactions⟩
      have hcolumns := (legible_nameParts key.columns).append hreferenced
      exact List.forall_mem_singleton.mpr (legible_alterParts ⟨rfl, rfl, rfl, hcolumns⟩)
  | dropForeignKey key =>
      cases d with
      | mysql => exact List.forall_mem_singleton.mpr (legible_alterParts ⟨rfl, rfl, trivial⟩)
      | generic | postgresql | sqlite | oracle =>
          exact List.forall_mem_singleton.mpr legible_dropConstraintParts
  | setComment text => exact List.forall_mem_singleton.mpr (legible_commentParts text)

end Legible

end SchemaDdl
