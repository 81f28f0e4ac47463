import SchemaDdl.Format.Stock
import SchemaDdl.Plan.Basic
import SchemaDdl.Schema.Operation

/-!
# Keys and indexes

Indexes, unique constraints, primary and foreign keys are added and dropped by name. The name of a
primary key does not depend on its columns. Oracle leaves a primary key without explicit name to
the system, and where the grammar drops the primary key of a table as such, no name is needed.

## Main definitions

* `Target.addIndex`, `Target.dropIndex`, `Target.addUnique`, `Target.dropUnique`
* `Target.addPrimaryKey`, `Target.dropPrimaryKey`
* `Target.addForeignKey`, `Target.dropForeignKey`
-/

namespace SchemaDdl.Target

/-- The clause that drops a constraint by its quoted name. -/
def dropConstraint (t : Target) (name : String) : String :=
  t.alter ("DROP CONSTRAINT " ++ name)

/-! ### Indexes -/

/-- Creates an index. -/
def addIndex (t : Target) (key : KeySpec) : Plan :=
  .named ⟨.index, key.name, key.columns⟩ fun name =>
    "CREATE INDEX " ++ name ++ " ON " ++ t.quotedTable ++ " (" ++
      t.formatter.columnize key.columns ++ ")"

/-- The part of a name before its last dot, if it has one. -/
def qualifier? : List Char → Option (List Char)
  | [] => none
  | c :: cs =>
    match qualifier? cs with
    | some q => some (c :: q)
    | none => if c = '.' then some [] else none

/-- A quoted index name with the schema of the table in front, if the table has one. An index lives
in the schema of its table, where a bare name is not looked up. -/
def schemaQualified (t : Target) (name : String) : String :=
  match qualifier? t.table.toList with
  | some schema => t.formatter.wrap (String.ofList schema) ++ "." ++ name
  | none => name

/-- Drops an index. -/
def dropIndex (t : Target) (key : KeySpec) : Plan :=
  .named ⟨.index, key.name, key.columns⟩ fun name =>
    match t.dialect with
    | .generic | .mysql => "DROP INDEX " ++ name ++ " ON " ++ t.quotedTable
    | .postgresql => "DROP INDEX " ++ t.schemaQualified name
    | .sqlite | .oracle => "DROP INDEX " ++ name

/-! ### Unique constraints -/

/-- Adds a unique constraint, which is an index in SQLite. -/
def addUnique (t : Target) (key : KeySpec) : Plan :=
  .named ⟨.unique, key.name, key.columns⟩ fun name =>
    match t.dialect with
    | .sqlite =>
      "CREATE UNIQUE INDEX " ++ name ++ " ON " ++ t.quotedTable ++ " (" ++
        t.formatter.columnize key.columns ++ ")"
    | _ =>
      t.alter ("ADD CONSTRAINT " ++ name ++ " UNIQUE (" ++ t.formatter.columnize key.columns ++ ")")

/-- Drops a unique constraint. -/
def dropUnique (t : Target) (key : KeySpec) : Plan :=
  .named ⟨.unique, key.name, key.columns⟩ fun name =>
    match t.dialect with
    | .sqlite => "DROP INDEX " ++ name
    | .mysql => t.alter ("DROP INDEX " ++ name)
    | .generic | .postgresql | .oracle => t.dropConstraint name

/-! ### Primary keys -/

/-- Adds a primary key under a name. -/
def addNamedPrimaryKey (t : Target) (key : KeySpec) : Plan :=
  .named ⟨.primary, key.name, []⟩ fun name =>
    t.alter
      ("ADD CONSTRAINT " ++ name ++ " PRIMARY KEY (" ++ t.formatter.columnize key.columns ++ ")")

/-- Adds the primary key. -/
def addPrimaryKey (t : Target) (key : KeySpec) : Plan :=
  match t.dialect, key.name with
  | .sqlite, _ => .unsupported t (.operation .addPrimaryKey)
  | .oracle, none =>
    .emit (.sql (t.alter ("ADD PRIMARY KEY (" ++ t.formatter.columnize key.columns ++ ")")))
  | _, _ => t.addNamedPrimaryKey key

/-- Drops the primary key. -/
def dropPrimaryKey (t : Target) (name : Option String) : Plan :=
  match t.dialect with
  | .sqlite => .unsupported t (.operation .dropPrimaryKey)
  | .mysql | .oracle => .emit (.sql (t.alter "DROP PRIMARY KEY"))
  | .generic | .postgresql => .named ⟨.primary, name, []⟩ t.dropConstraint

/-! ### Foreign keys -/

/-- The feature of a foreign key that Oracle lacks. -/
def missingInOracle? (key : ForeignKey) : Option Feature :=
  if key.onUpdate.isSome then some .foreignKeyOnUpdate
  else match key.onDelete with
    | none | some .cascade | some .setNull => none
    | some _ => some .foreignKeyOnDelete

/-- Adds a foreign key that the dialect can express. -/
def addSupportedForeignKey (t : Target) (key : ForeignKey) : Plan :=
  .named ⟨.foreign, key.name, key.columns⟩ fun name =>
    t.alter
      ("ADD CONSTRAINT " ++ name ++ " FOREIGN KEY (" ++ t.formatter.columnize key.columns ++
        ") REFERENCES " ++ t.formatter.wrap key.referencedTable ++ " (" ++
        t.formatter.columnize key.referencedColumns ++ ")" ++
        actionClauses key.onDelete key.onUpdate)

/-- Adds a foreign key. -/
def addForeignKey (t : Target) (key : ForeignKey) : Plan :=
  match t.dialect with
  | .sqlite => .unsupported t (.operation .addForeignKey)
  | .oracle =>
    match missingInOracle? key with
    | some feature => .unsupported t feature
    | none => t.addSupportedForeignKey key
  | .generic | .postgresql | .mysql => t.addSupportedForeignKey key

/-- Drops a foreign key. -/
def dropForeignKey (t : Target) (key : KeySpec) : Plan :=
  match t.dialect with
  | .sqlite => .unsupported t (.operation .dropForeignKey)
  | .mysql =>
    .named ⟨.foreign, key.name, key.columns⟩ fun name => t.alter ("DROP FOREIGN KEY " ++ name)
  | .generic | .postgresql | .oracle =>
    .named ⟨.foreign, key.name, key.columns⟩ t.dropConstraint

end SchemaDdl.Target
