import SchemaDdl.Proofs.Templates

/-!
# Texts Do Not Change the Structure of Statements

Identifiers, comments and string defaults may hold any character, quotes and question marks and
semicolons among them. This module shows that they cannot reach out of their quotes. A lexer finds
them again exactly as they are, each in a quoted token of its own, and what it finds outside the
quoted tokens is the same for all operations that differ in such texts only.

* `outlineName`, `Operation.outline` — what remains of an identifier and of an operation when texts
  do not count: an identifier is reduced to its dots, and a comment or a string default to nothing.
  Everything else stays, so two operations of the same outline have the same constructor, options,
  flags, types, actions and other defaults, and as many columns and segments.
* `Operation.quoted` — the identifiers and literals of the statements of an operation, in order.
* `Agree` — two operations on tables of their own differ in texts only.

## Main results

* `parts_outline` — the template of the outline is the outline of the template.
* `filter_parts` — the identifiers and literals of the template are those of the operation.
* `emits_structure` — the two read off the tokens of the emitted statements.
-/

namespace SchemaDdl

/-! ### Outlines -/

/-- The **outline** of an identifier: its dots. -/
def outlineName (name : String) : String :=
  String.ofList (dots name)

/-- The outline of a default: a text does not count. -/
def DefaultValue.outline : DefaultValue → DefaultValue
  | .string _ => .string ""
  | value => value

/-- The outline of a reference. -/
def Reference.outline (r : Reference) : Reference :=
  { r with table := outlineName r.table, column := outlineName r.column }

/-- The outline of a column. -/
def Column.outline (c : Column) : Column :=
  { c with
    name := outlineName c.name
    defaultValue := c.defaultValue.map DefaultValue.outline
    references := c.references.map Reference.outline
    collation := c.collation.map outlineName }

/-- The outline of a list of columns with a name. -/
def KeySpec.outline (key : KeySpec) : KeySpec :=
  { columns := key.columns.map outlineName, name := key.name.map outlineName }

/-- The outline of a foreign key. -/
def ForeignKey.outline (key : ForeignKey) : ForeignKey :=
  { key with
    columns := key.columns.map outlineName
    name := key.name.map outlineName
    referencedTable := outlineName key.referencedTable
    referencedColumns := key.referencedColumns.map outlineName }

/-- The **outline** of an operation. -/
def Operation.outline : Operation → Operation
  | createTable columns ifNotExists => createTable (columns.map Column.outline) ifNotExists
  | addColumns columns => addColumns (columns.map Column.outline)
  | dropColumns columns => dropColumns (columns.map outlineName)
  | renameColumn source target => renameColumn (outlineName source) (outlineName target)
  | changeColumnType column => changeColumnType column.outline
  | addPrimaryKey key => addPrimaryKey key.outline
  | dropPrimaryKey name => dropPrimaryKey (name.map outlineName)
  | addIndex key => addIndex key.outline
  | dropIndex key => dropIndex key.outline
  | addUnique key => addUnique key.outline
  | dropUnique key => dropUnique key.outline
  | addForeignKey key => addForeignKey key.outline
  | dropForeignKey key => dropForeignKey key.outline
  | setComment comment => setComment (comment.map fun _ => "")

/-- The outline of a part: words stay. -/
def Part.outline : Part → Part
  | words w => words w
  | identifier name => identifier (outlineName name)
  | literal _ => literal ""

/-- Words are their own outline. -/
@[simp] theorem Part.outline_words (w : String) : (words w).outline = words w := rfl

/-- The outline of an identifier. -/
@[simp] theorem Part.outline_identifier (name : String) :
    (identifier name).outline = identifier (outlineName name) := rfl

/-- The dots of an outline are those of the identifier. -/
@[simp] theorem dots_outlineName (name : String) : dots (outlineName name) = dots name := by
  rw [outlineName, dots, String.toList_ofList, dots, List.filter_filter]
  refine List.filter_congr fun c _ => ?_
  exact Bool.and_self _

/-- Identifiers have the same outline exactly if they have the same number of segments. -/
theorem outlineName_eq_iff {a b : String} :
    outlineName a = outlineName b ↔ (segments a).length = (segments b).length := by
  rw [← dots_eq_dots_iff, outlineName, outlineName]
  exact String.ofList_inj

/-- Outside quotes, the outline of a part shows what the part shows. -/
theorem outside_outline (p : Part) : p.outline.outside = p.outside := by
  cases p with
  | words w => rfl
  | identifier name => exact dots_outlineName name
  | literal text => rfl

/-! ### The template of an outline -/

/-- The outline of parts with commas between them. -/
@[simp] theorem map_outline_commaParts (pss : List (List Part)) :
    (commaParts pss).map Part.outline = commaParts (pss.map (List.map Part.outline)) := by
  induction pss with
  | nil => rfl
  | cons ps pss ih =>
      cases pss with
      | nil => rw [commaParts, List.intercalate_singleton, List.map_singleton, commaParts,
          List.intercalate_singleton]
      | cons qs rest =>
          rw [commaParts_cons_cons, List.map_append, List.map_cons, ih, List.map_cons,
            List.map_cons, List.map_cons, commaParts_cons_cons]
          rfl

/-- The outline of identifiers with commas between them. -/
@[simp] theorem map_outline_nameParts (names : List String) :
    (nameParts names).map Part.outline = nameParts (names.map outlineName) := by
  rw [nameParts, map_outline_commaParts, nameParts, List.map_map, List.map_map]
  rfl

/-- The part of an outline before its last dot is the outline of the part before the last dot. -/
theorem qualifier?_filter (cs : List Char) :
    Target.qualifier? (cs.filter (· == '.')) =
      (Target.qualifier? cs).map (List.filter (· == '.')) := by
  induction cs with
  | nil => rfl
  | cons c cs ih =>
      by_cases hc : c = '.'
      · subst hc
        have hfilter : ('.' :: cs).filter (· == '.') = '.' :: cs.filter (· == '.') := rfl
        rw [hfilter, Target.qualifier?, ih, Target.qualifier?]
        cases Target.qualifier? cs <;> rfl
      · have hfilter : (c :: cs).filter (· == '.') = cs.filter (· == '.') := by simp [hc]
        rw [hfilter, ih, Target.qualifier?]
        cases Target.qualifier? cs with
        | none => simp [hc]
        | some q => simp [hc]

/-- The outline of an index name with the schema of its table. -/
theorem map_outline_schemaQualifiedParts (table name : String) :
    (schemaQualifiedParts table name).map Part.outline =
      schemaQualifiedParts (outlineName table) (outlineName name) := by
  have hqualifier := qualifier?_filter table.toList
  rw [schemaQualifiedParts, schemaQualifiedParts, outlineName, String.toList_ofList, dots,
    hqualifier]
  cases Target.qualifier? table.toList with
  | none => rfl
  | some schema =>
      simp [Part.outline, outlineName, dots]

/-- The outline of the parts of a column. -/
theorem map_outline_columnParts (d : Dialect) (c : Column) :
    (c.parts d).map Part.outline = c.outline.parts d := by
  obtain ⟨name, dataType, nullable, value, primaryKey, unique, autoincrement, references, check,
    collation⟩ := c
  have hcollation : (collationParts collation).map Part.outline =
      collationParts (collation.map outlineName) := by cases collation <;> rfl
  have hvalue : (d.defaultParts value).map Part.outline =
      d.defaultParts (value.map DefaultValue.outline) := by
    cases value with
    | none => rfl
    | some v => cases v <;> rfl
  have hreferences : (referenceParts references).map Part.outline =
      referenceParts (references.map Reference.outline) := by cases references <;> rfl
  rw [Column.parts, List.map_append, List.map_append, List.map_append, List.map_append,
    List.map_append, hcollation, hvalue, hreferences]
  rfl

/-- The outline of the parts of several columns. -/
theorem map_outline_columnsParts (d : Dialect) (cs : List Column) :
    (cs.map (Column.parts d)).map (List.map Part.outline) =
      (cs.map Column.outline).map (Column.parts d) := by
  rw [List.map_map, List.map_map]
  exact List.map_congr_left fun c _ => map_outline_columnParts d c

/-- The outline of the parts of a statement that alters a table. -/
@[simp] theorem map_outline_alterParts (table : String) (change : List Part) :
    (alterParts table change).map Part.outline =
      alterParts (outlineName table) (change.map Part.outline) := rfl

/-- The outline of the parts of a statement that sets a comment. -/
theorem map_outline_commentParts (d : Dialect) (table : String) (text : Option String) :
    (d.commentParts table text).map Part.outline =
      d.commentParts (outlineName table) (text.map fun _ => "") := by
  cases d <;> cases text <;> rfl

/-- **The template of an outline** is the outline of the template. -/
theorem parts_outline (d : Dialect) (table : String) (comment : Option String) (name : String)
    (op : Operation) :
    (op.parts d table comment name).map (List.map Part.outline) =
      op.outline.parts d (outlineName table) (comment.map fun _ => "") (outlineName name) := by
  cases op with
  | createTable cs ifNotExists =>
      have hcreate : (d.createTableParts table cs ifNotExists).map Part.outline =
          d.createTableParts (outlineName table) (cs.map Column.outline) ifNotExists := by
        rw [Dialect.createTableParts, Dialect.createTableParts, ← map_outline_columnsParts]
        simp
      rw [Operation.parts, List.map_cons, hcreate, Operation.outline, Operation.parts]
      cases comment with
      | none => rfl
      | some text =>
          exact congrArg (fun ps => [_, ps]) (map_outline_commentParts d table (some text))
  | addColumns cs =>
      have hcolumn := map_outline_columnParts d
      cases d <;> simp [Operation.parts, Operation.outline, Function.comp_def, hcolumn]
  | dropColumns columns =>
      cases d <;> simp [Operation.parts, Operation.outline, Function.comp_def]
  | renameColumn source target => rfl
  | changeColumnType c =>
      have hcolumn := map_outline_columnParts d c
      cases d with
      | mysql => simp [Operation.parts, Operation.outline, hcolumn]
      | generic | postgresql | sqlite | oracle => rfl
  | addPrimaryKey key =>
      obtain ⟨columns, explicit⟩ := key
      have hnone : explicit.map outlineName = none ↔ explicit = none := Option.map_eq_none_iff
      simp only [Operation.parts, Operation.outline, KeySpec.outline, hnone]
      split <;> simp [addConstraintParts]
  | dropPrimaryKey explicit => cases d <;> rfl
  | addIndex key => simp [Operation.parts, Operation.outline, KeySpec.outline, createIndexParts]
  | dropIndex key =>
      have hname := map_outline_schemaQualifiedParts table name
      cases d with
      | postgresql => simp [Operation.parts, Operation.outline, hname]
      | generic | mysql | sqlite | oracle => rfl
  | addUnique key =>
      cases d <;>
        simp [Operation.parts, Operation.outline, KeySpec.outline, createIndexParts,
          addConstraintParts]
  | dropUnique key => cases d <;> rfl
  | addForeignKey key => simp [Operation.parts, Operation.outline, ForeignKey.outline]
  | dropForeignKey key => cases d <;> rfl
  | setComment text => exact congrArg (fun ps => [ps]) (map_outline_commentParts d table text)

/-! ### Identifiers and literals -/

/-- Whether a part stands in quotes. -/
def Part.isQuoted : Part → Bool
  | words _ => false
  | identifier _ => true
  | literal _ => true

/-- The literal of a default that is a text. -/
def DefaultValue.quoted : DefaultValue → List Part
  | .string s => [.literal s]
  | _ => []

/-- The identifiers and literals of a column: its name, its collation, its default if that is a
text, and the table and column that it refers to. -/
def Column.quoted (c : Column) : List Part :=
  .identifier c.name :: (c.collation.toList.map .identifier ++
    c.defaultValue.elim [] DefaultValue.quoted ++
    c.references.elim [] fun r => [.identifier r.table, .identifier r.column])

/-- The schema of an index in front of its name, where its table has one. -/
def quotedSchema (table name : String) : List Part :=
  match Target.qualifier? table.toList with
  | some schema => [.identifier (String.ofList schema), .identifier name]
  | none => [.identifier name]

/-- The **identifiers and literals** of each statement of an operation, in order. -/
def Operation.quoted (d : Dialect) (table : String) (comment : Option String) (name : String) :
    Operation → List (List Part)
  | createTable columns _ =>
    (.identifier table :: columns.flatMap Column.quoted) ::
      (comment.map fun text => [.identifier table, .literal text]).toList
  | addColumns columns =>
    if d = .sqlite then columns.map fun c => .identifier table :: c.quoted
    else [.identifier table :: columns.flatMap Column.quoted]
  | dropColumns columns =>
    if d = .generic ∨ d = .sqlite then
      columns.map fun c => [.identifier table, .identifier c]
    else [.identifier table :: columns.map .identifier]
  | renameColumn source target => [[.identifier table, .identifier source, .identifier target]]
  | changeColumnType c =>
    if d = .mysql then [.identifier table :: c.quoted]
    else [[.identifier table, .identifier c.name]]
  | addPrimaryKey key =>
    if d = .oracle ∧ key.name = none then [.identifier table :: key.columns.map .identifier]
    else [.identifier table :: .identifier name :: key.columns.map .identifier]
  | dropPrimaryKey _ =>
    if d = .mysql ∨ d = .oracle then [[.identifier table]]
    else [[.identifier table, .identifier name]]
  | addIndex key => [.identifier name :: .identifier table :: key.columns.map .identifier]
  | dropIndex _ =>
    match d with
    | .generic | .mysql => [[.identifier name, .identifier table]]
    | .postgresql => [quotedSchema table name]
    | .sqlite | .oracle => [[.identifier name]]
  | addUnique key =>
    if d = .sqlite then [.identifier name :: .identifier table :: key.columns.map .identifier]
    else [.identifier table :: .identifier name :: key.columns.map .identifier]
  | dropUnique _ =>
    if d = .sqlite then [[.identifier name]] else [[.identifier table, .identifier name]]
  | addForeignKey key =>
    [.identifier table :: .identifier name :: (key.columns.map .identifier ++
      .identifier key.referencedTable :: key.referencedColumns.map .identifier)]
  | dropForeignKey _ => [[.identifier table, .identifier name]]
  | setComment text => [[.identifier table, .literal (text.getD "")]]

/-- Words do not stand in quotes. -/
@[simp] theorem Part.isQuoted_words (w : String) : (words w).isQuoted = false := rfl

/-- Identifiers stand in quotes. -/
@[simp] theorem Part.isQuoted_identifier (name : String) : (identifier name).isQuoted = true := rfl

/-- Literals stand in quotes. -/
@[simp] theorem Part.isQuoted_literal (text : String) : (literal text).isQuoted = true := rfl

/-- The quoted texts of some parts are those of the parts that stand in quotes. -/
theorem flatMap_quotations_filter (d : Dialect) (ps : List Part) :
    (ps.filter Part.isQuoted).flatMap (Part.quotations d) = ps.flatMap (Part.quotations d) := by
  induction ps with
  | nil => rfl
  | cons p ps ih =>
      cases p with
      | words w => exact ih
      | identifier name => exact congrArg (_ ++ ·) ih
      | literal text => exact congrArg (_ ++ ·) ih

/-- Commas do not stand in quotes. -/
@[simp] theorem filter_commaParts (pss : List (List Part)) :
    (commaParts pss).filter Part.isQuoted = pss.flatMap (List.filter Part.isQuoted) := by
  induction pss with
  | nil => rfl
  | cons ps pss ih =>
      cases pss with
      | nil => rw [commaParts, List.intercalate_singleton, List.flatMap_singleton]
      | cons qs rest =>
          rw [commaParts_cons_cons, List.filter_append, List.filter_cons_of_neg (by decide), ih]
          rfl

/-- All names stand in quotes. -/
@[simp] theorem filter_nameParts (names : List String) :
    (nameParts names).filter Part.isQuoted = names.map .identifier := by
  rw [nameParts, filter_commaParts, List.flatMap_map, List.map_eq_flatMap]
  rfl

/-- The identifiers and literals among the parts of a column. -/
theorem filter_columnParts (d : Dialect) (c : Column) :
    (c.parts d).filter Part.isQuoted = c.quoted := by
  obtain ⟨name, dataType, nullable, value, primaryKey, unique, autoincrement, references, check,
    collation⟩ := c
  have hcollation : (collationParts collation).filter Part.isQuoted =
      collation.toList.map .identifier := by cases collation <;> rfl
  have hvalue : (d.defaultParts value).filter Part.isQuoted =
      value.elim [] DefaultValue.quoted := by
    cases value with
    | none => rfl
    | some v => cases v <;> rfl
  have hreferences : (referenceParts references).filter Part.isQuoted =
      references.elim [] fun r => [.identifier r.table, .identifier r.column] := by
    cases references <;> rfl
  simp [Column.parts, Column.quoted, List.filter_append, List.filter_cons, hcollation, hvalue,
    hreferences]

/-- The identifiers and literals of a statement that alters a table. -/
@[simp] theorem filter_alterParts (table : String) (change : List Part) :
    (alterParts table change).filter Part.isQuoted =
      .identifier table :: change.filter Part.isQuoted := rfl

/-- The identifiers and literals of a statement that sets a comment. -/
theorem filter_commentParts (d : Dialect) (table : String) (text : Option String) :
    (d.commentParts table text).filter Part.isQuoted =
      [.identifier table, .literal (text.getD "")] := by
  cases d <;> rfl

/-- The identifiers and literals of a statement that creates an index. -/
theorem filter_createIndexParts (words table name : String) (columns : List String) :
    (createIndexParts words table name columns).filter Part.isQuoted =
      .identifier name :: .identifier table :: columns.map .identifier := by
  simp [createIndexParts, List.filter_append, List.filter_cons]

/-- The identifiers and literals of a statement that adds a constraint over columns. -/
theorem filter_addConstraintParts (words table name : String) (columns : List String) :
    (addConstraintParts words table name columns).filter Part.isQuoted =
      .identifier table :: .identifier name :: columns.map .identifier := by
  simp [addConstraintParts, List.filter_append, List.filter_cons]

/-- The identifiers of an index name with the schema of its table. -/
theorem filter_schemaQualifiedParts (table name : String) :
    (schemaQualifiedParts table name).filter Part.isQuoted = quotedSchema table name := by
  rw [schemaQualifiedParts, quotedSchema]
  cases Target.qualifier? table.toList <;> rfl

/-- **The identifiers and literals** among the parts of an operation. -/
theorem filter_parts (d : Dialect) (table : String) (comment : Option String) (name : String)
    (op : Operation) :
    (op.parts d table comment name).map (List.filter Part.isQuoted) =
      op.quoted d table comment name := by
  have hcolumn := filter_columnParts d
  cases op with
  | createTable cs ifNotExists =>
      have hcreate : (d.createTableParts table cs ifNotExists).filter Part.isQuoted =
          .identifier table :: cs.flatMap Column.quoted := by
        simp [Dialect.createTableParts, List.filter_append, List.filter_cons, List.flatMap_map,
          hcolumn]
      rw [Operation.parts, List.map_cons, hcreate, Operation.quoted]
      cases comment with
      | none => rfl
      | some text => exact congrArg (fun ps => [_, ps]) (filter_commentParts d table (some text))
  | addColumns cs =>
      cases d <;>
        simp [Operation.parts, Operation.quoted, List.flatMap_map, Function.comp_def, hcolumn]
  | dropColumns columns =>
      have hnames : columns.flatMap (fun c => [Part.identifier c]) = columns.map .identifier :=
        List.map_eq_flatMap.symm
      cases d <;>
        simp [Operation.parts, Operation.quoted, List.filter_append, List.filter_cons,
          List.flatMap_map, Function.comp_def, hnames]
  | renameColumn source target => rfl
  | changeColumnType c =>
      cases d with
      | mysql => simp [Operation.parts, Operation.quoted, hcolumn]
      | generic | postgresql | sqlite | oracle => rfl
  | addPrimaryKey key =>
      rw [Operation.parts, Operation.quoted]
      split
      · simp [List.filter_append]
      · exact congrArg (fun ps => [ps]) (filter_addConstraintParts _ table name key.columns)
  | dropPrimaryKey explicit => cases d <;> rfl
  | addIndex key =>
      exact congrArg (fun ps => [ps]) (filter_createIndexParts _ table name key.columns)
  | dropIndex key =>
      cases d with
      | postgresql => exact congrArg (fun ps => [ps]) (filter_schemaQualifiedParts table name)
      | generic | mysql | sqlite | oracle => rfl
  | addUnique key =>
      cases d with
      | sqlite => exact congrArg (fun ps => [ps]) (filter_createIndexParts _ table name key.columns)
      | generic | postgresql | mysql | oracle =>
          exact congrArg (fun ps => [ps]) (filter_addConstraintParts _ table name key.columns)
  | dropUnique key => cases d <;> rfl
  | addForeignKey key =>
      simp [Operation.parts, Operation.quoted, List.filter_append, List.filter_cons]
  | dropForeignKey key => cases d <;> rfl
  | setComment text => exact congrArg (fun ps => [ps]) (filter_commentParts d table text)

/-! ### Emitted statements -/

/-- Two operations **agree** but for texts: so do their tables, and the names that they get. -/
structure Agree (t₁ t₂ : Target) (op₁ op₂ : Operation) : Prop where
  /-- The operations have the same outline. -/
  operation : op₁.outline = op₂.outline
  /-- The tables have as many segments. -/
  table : outlineName t₁.table = outlineName t₂.table
  /-- Both tables get a comment, or none does. -/
  comment : t₁.comment.isSome = t₂.comment.isSome
  /-- The names have as many segments. -/
  name : (op₁.resolvedName? t₁).map outlineName = (op₂.resolvedName? t₂).map outlineName

section Emitted

variable {d : Dialect} {table : String} {comment : Option String}

/-- The parts of the statements of an operation on a table, under the name that it gets. -/
def Operation.partsOn (d : Dialect) (table : String) (comment : Option String) (op : Operation) :
    List (List Part) :=
  op.parts d table comment ((op.resolvedName? (.stock d table comment)).getD "")

/-- The statements that a session with the stock formatter emits are made up of the parts of the
operation, which are legible. -/
theorem texts_emitted {s : Session} (hs : s.target = .stock d table comment) {op : Operation}
    (hop : op.NoVerbatim d) {block : List Statement} (h : s.Emits op block) :
    block.map Statement.sql = (op.partsOn d table comment).map (render d) ∧
      ∀ ps ∈ op.partsOn d table comment, Legible false ps := by
  obtain ⟨hblock, -⟩ := Session.emits_iff.mp h
  obtain ⟨hfailure, htexts⟩ := Operation.texts_of_block hblock
  rw [hs] at hfailure htexts
  rw [htexts, texts_plan hop hfailure]
  exact ⟨rfl, legible_parts hop⟩

/-- What a list of legible statements shows outside quotes is what the outlines of their parts
show. -/
theorem map_outside_render {pss : List (List Part)} (h : ∀ ps ∈ pss, Legible false ps) :
    pss.map (fun ps => outside (render d ps).toList) =
      (pss.map (List.map Part.outline)).map (List.flatMap Part.outside) := by
  rw [List.map_map]
  refine List.map_congr_left fun ps hps => ?_
  rw [outside_render (h ps hps), Function.comp_apply, List.flatMap_map]
  exact congrArg (fun f => ps.flatMap f) (funext fun p => (outside_outline p).symm)

/-- The quoted texts of a list of legible statements are those of the identifiers and literals among
their parts. -/
theorem map_quotations_render {pss : List (List Part)} (h : ∀ ps ∈ pss, Legible false ps) :
    pss.map (fun ps => quotations (render d ps).toList) =
      (pss.map (List.filter Part.isQuoted)).map (List.flatMap (Part.quotations d)) := by
  rw [List.map_map]
  refine List.map_congr_left fun ps hps => ?_
  rw [quotations_render (h ps hps), Function.comp_apply, flatMap_quotations_filter]

/-- The parts of operations that agree have the same outline. -/
theorem Agree.outline_partsOn {table' : String} {comment' : Option String} {op op' : Operation}
    (h : Agree (.stock d table comment) (.stock d table' comment') op op') :
    (op.partsOn d table comment).map (List.map Part.outline) =
      (op'.partsOn d table' comment').map (List.map Part.outline) := by
  have hgetD : ∀ name : Option String,
      outlineName (name.getD "") = (name.map outlineName).getD "" := by
    intro name
    cases name <;> rfl
  have hcomment : comment.map (fun _ => "") = comment'.map fun _ => "" := by
    have hsome : comment.isSome = comment'.isSome := h.comment
    cases comment <;> cases comment' <;> first | rfl | cases hsome
  have htable : outlineName table = outlineName table' := h.table
  rw [Operation.partsOn, Operation.partsOn, parts_outline, parts_outline, hgetD, hgetD, h.name,
    h.operation, htable, hcomment]

/-- **No text changes the structure of statements.** Let a session with the stock formatter of a
dialect emit the statements of an operation that carries no verbatim SQL. Then every quoted token of
the statements ends, and the quoted tokens hold the segments of the identifiers and the texts of the
literals of the operation, unchanged and in order. Outside the quoted tokens, the statements are the
same as those of any other operation in that dialect that agrees with this one but for texts. -/
theorem emits_structure {s : Session} (hs : s.target = .stock d table comment) {op : Operation}
    (hop : op.NoVerbatim d) {block : List Statement} (h : s.Emits op block) :
    (∀ st ∈ block, ∀ t ∈ lex st.sql.toList, t.closed = true) ∧
    block.map (fun st => quotations st.sql.toList) =
      (op.quoted d table comment ((op.resolvedName? s.target).getD "")).map
        (List.flatMap (Part.quotations d)) ∧
    ∀ (s' : Session) (table' : String) (comment' : Option String) (op' : Operation)
      (block' : List Statement),
      s'.target = .stock d table' comment' → op'.NoVerbatim d → s'.Emits op' block' →
      Agree s.target s'.target op op' →
      block.map (fun st => outside st.sql.toList) =
        block'.map fun st => outside st.sql.toList := by
  obtain ⟨htexts, hlegible⟩ := texts_emitted hs hop h
  have hmap : ∀ {α : Type} (f : List Char → α) (b : List Statement),
      b.map (fun st => f st.sql.toList) = (b.map Statement.sql).map fun sql => f sql.toList := by
    intro α f b
    rw [List.map_map]
    rfl
  refine ⟨fun st hst => ?_, ?_, ?_⟩
  · have hsql : st.sql ∈ block.map Statement.sql := List.mem_map_of_mem hst
    rw [htexts] at hsql
    obtain ⟨ps, hps, hrender⟩ := List.mem_map.mp hsql
    rw [← hrender]
    exact closed_render (hlegible ps hps)
  · have hquoted := filter_parts d table comment ((op.resolvedName? s.target).getD "") op
    rw [← hquoted, hmap, htexts, List.map_map, hs]
    exact map_quotations_render hlegible
  · intro s' table' comment' op' block' hs' hop' h' hagree
    obtain ⟨htexts', hlegible'⟩ := texts_emitted hs' hop' h'
    rw [hs, hs'] at hagree
    have houtside := map_outside_render (d := d) hlegible
    have houtside' := map_outside_render (d := d) hlegible'
    rw [hagree.outline_partsOn] at houtside
    rw [hmap, hmap, htexts, htexts', List.map_map, List.map_map]
    exact houtside.trans houtside'.symm

/-- A comment that tries to end its literal and the statement, against an empty one. -/
theorem emits_structure_of_comment :
    let s : Session := { target := .stock .mysql "users`; --" none }
    let op : Operation := .setComment (some "'; DROP TABLE users; -- ?")
    let op' : Operation := .setComment (some "")
    ∃ block block', s.Emits op block ∧ s.Emits op' block' ∧
      block.map (fun st => outside st.sql.toList) =
        block'.map fun st => outside st.sql.toList := by
  intro s op op'
  have hemits : ∀ op : Operation, op.request? .mysql = none → (op.block s.target).isOk = true →
      ∃ block, s.Emits op block := by
    intro op hname hok
    cases hblock : op.block s.target with
    | error e => rw [hblock] at hok; cases hok
    | ok block =>
        refine ⟨block, Session.emits_iff.mpr ⟨hblock, fun g hg => ?_⟩⟩
        have hrequest : op.request? s.target.dialect = none := hname
        rw [Operation.generated?, hrequest] at hg
        cases hg
  obtain ⟨block, hblock⟩ := hemits op rfl (by decide +kernel)
  obtain ⟨block', hblock'⟩ := hemits op' rfl (by decide +kernel)
  have hop : op.NoVerbatim .mysql := by
    intro c hc
    cases hc
  have hop' : op'.NoVerbatim .mysql := by
    intro c hc
    cases hc
  obtain ⟨-, -, houtside⟩ := emits_structure rfl hop hblock
  exact ⟨block, block', hblock, hblock',
    houtside s "users`; --" none op' block' rfl hop' hblock' ⟨rfl, rfl, rfl, rfl⟩⟩

end Emitted

end SchemaDdl
