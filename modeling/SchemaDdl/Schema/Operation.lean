import SchemaDdl.Error
import SchemaDdl.Schema.Column

/-!
# Operations

The schema changes that a migration is made of, and the check that refuses malformed ones before
any statement is written.

## Main definitions

* `KeySpec`, `ForeignKey`: what operations on keys and indexes carry.
* `Operation`: one change to a table.
* `Operation.validate`: accepts well-formed operations.
-/

namespace SchemaDdl

/-- A list of columns with the explicit name of an index or constraint over them. -/
structure KeySpec where
  /-- The columns. -/
  columns : List String
  /-- The explicit name; without it a name is generated. -/
  name : Option String := none
  deriving DecidableEq, Repr

/-- A foreign key of a table. -/
structure ForeignKey where
  /-- The columns of this table. -/
  columns : List String
  /-- The explicit name; without it a name is generated. -/
  name : Option String := none
  /-- The table referred to. -/
  referencedTable : String
  /-- The columns referred to. -/
  referencedColumns : List String
  /-- What a deletion does. -/
  onDelete : Option ReferentialAction := none
  /-- What an update does. -/
  onUpdate : Option ReferentialAction := none
  deriving DecidableEq, Repr

/-- One change to a table. -/
inductive Operation where
  /-- Creates the table; `ifNotExists` asks for success when it is there already. -/
  | createTable (columns : List Column) (ifNotExists : Bool)
  /-- Adds columns. -/
  | addColumns (columns : List Column)
  /-- Drops columns. -/
  | dropColumns (columns : List String)
  /-- Renames a column. -/
  | renameColumn (source target : String)
  /-- Gives a column the type of a new definition. -/
  | changeColumnType (column : Column)
  /-- Adds the primary key. -/
  | addPrimaryKey (key : KeySpec)
  /-- Drops the primary key. -/
  | dropPrimaryKey (name : Option String)
  /-- Creates an index. -/
  | addIndex (key : KeySpec)
  /-- Drops an index. -/
  | dropIndex (key : KeySpec)
  /-- Adds a unique constraint. -/
  | addUnique (key : KeySpec)
  /-- Drops a unique constraint. -/
  | dropUnique (key : KeySpec)
  /-- Adds a foreign key. -/
  | addForeignKey (key : ForeignKey)
  /-- Drops a foreign key. -/
  | dropForeignKey (key : KeySpec)
  /-- Sets the comment of the table; no text clears it. -/
  | setComment (comment : Option String)

/-- The kind of an operation. -/
def Operation.kind : Operation → OperationKind
  | createTable .. => .createTable
  | addColumns .. => .addColumns
  | dropColumns .. => .dropColumns
  | renameColumn .. => .renameColumn
  | changeColumnType .. => .changeColumnType
  | addPrimaryKey .. => .addPrimaryKey
  | dropPrimaryKey .. => .dropPrimaryKey
  | addIndex .. => .addIndex
  | dropIndex .. => .dropIndex
  | addUnique .. => .addUnique
  | dropUnique .. => .dropUnique
  | addForeignKey .. => .addForeignKey
  | dropForeignKey .. => .dropForeignKey
  | setComment .. => .setComment

/-! ### Validation -/

/-- Refuses an empty name. -/
def requireName (kind : OperationKind) (part : NamePart) (name : String) : Except Error Unit :=
  if name.isEmpty then .error (.invalid (.emptyName kind part)) else .ok ()

/-- Refuses an explicit name that is empty. -/
def requireConstraintName (kind : OperationKind) : Option String → Except Error Unit
  | none => .ok ()
  | some name => requireName kind .constraint name

/-- Refuses a list of columns with an empty name in it. -/
def requireFilled (kind : OperationKind) (columns : List String) : Except Error Unit :=
  if columns.any String.isEmpty then .error (.invalid (.emptyName kind .column)) else .ok ()

/-- Refuses an empty list of columns, and one with an empty name in it. -/
def requireColumns (kind : OperationKind) (columns : List String) : Except Error Unit :=
  if columns.isEmpty then .error (.invalid (.noColumns kind)) else requireFilled kind columns

/-- Refuses a key without columns, or with an empty name. -/
def KeySpec.validateNew (kind : OperationKind) (key : KeySpec) : Except Error Unit := do
  requireColumns kind key.columns
  requireConstraintName kind key.name

/-- Refuses a key that is to be dropped if nothing identifies it: it has to have columns or an
explicit name, and no empty name. -/
def KeySpec.validateDropped (kind : OperationKind) (key : KeySpec) : Except Error Unit := do
  if key.name.isNone then requireColumns kind key.columns else requireFilled kind key.columns
  requireConstraintName kind key.name

/-- Refuses a foreign key without columns on either side, with more columns on one side than on the
other, or with an empty name. -/
def ForeignKey.validate (kind : OperationKind) (key : ForeignKey) : Except Error Unit := do
  requireColumns kind key.columns
  requireName kind .referencedTable key.referencedTable
  requireColumns kind key.referencedColumns
  if key.columns.length ≠ key.referencedColumns.length then
    throw (.invalid (.unevenForeignKey key.columns.length key.referencedColumns.length))
  requireConstraintName kind key.name

/-- Refuses malformed operations. -/
def Operation.validate (op : Operation) : Except Error Unit :=
  match op with
  | createTable columns _ => requireColumns op.kind (columns.map Column.name)
  | addColumns columns => requireColumns op.kind (columns.map Column.name)
  | dropColumns columns => requireColumns op.kind columns
  | renameColumn source target => do
    requireName op.kind .sourceColumn source
    requireName op.kind .targetColumn target
  | changeColumnType column => requireName op.kind .column column.name
  | addPrimaryKey key => key.validateNew op.kind
  | addIndex key => key.validateNew op.kind
  | addUnique key => key.validateNew op.kind
  | dropIndex key => key.validateDropped op.kind
  | dropUnique key => key.validateDropped op.kind
  | dropForeignKey key => key.validateDropped op.kind
  | addForeignKey key => key.validate op.kind
  | dropPrimaryKey name => requireConstraintName op.kind name
  | setComment _ => .ok ()

end SchemaDdl
