/-!
# Kinds of operations

The fourteen schema changes by name. Files, error texts and validation refer to operations by kind.

## Main definitions

* `OperationKind`, `OperationKind.all`
* `OperationKind.name`: the word that stands for a kind in files and messages.
-/

namespace SchemaDdl

/-- A kind of schema change. -/
inductive OperationKind where
  /-- Creating the table. -/
  | createTable
  /-- Adding columns. -/
  | addColumns
  /-- Dropping columns. -/
  | dropColumns
  /-- Renaming a column. -/
  | renameColumn
  /-- Changing the type of a column. -/
  | changeColumnType
  /-- Adding the primary key. -/
  | addPrimaryKey
  /-- Dropping the primary key. -/
  | dropPrimaryKey
  /-- Creating an index. -/
  | addIndex
  /-- Dropping an index. -/
  | dropIndex
  /-- Adding a unique constraint. -/
  | addUnique
  /-- Dropping a unique constraint. -/
  | dropUnique
  /-- Adding a foreign key. -/
  | addForeignKey
  /-- Dropping a foreign key. -/
  | dropForeignKey
  /-- Setting the comment of the table. -/
  | setComment
  deriving DecidableEq, Repr

namespace OperationKind

/-- The kinds in the order by which files may number them. -/
def all : List OperationKind :=
  [createTable, addColumns, dropColumns, renameColumn, changeColumnType, addPrimaryKey,
    dropPrimaryKey, addIndex, dropIndex, addUnique, dropUnique, addForeignKey, dropForeignKey,
    setComment]

/-- The word that stands for a kind in files and messages. -/
def name : OperationKind → String
  | createTable => "create_table"
  | addColumns => "add_columns"
  | dropColumns => "drop_columns"
  | renameColumn => "rename_column"
  | changeColumnType => "change_column_type"
  | addPrimaryKey => "add_primary_key"
  | dropPrimaryKey => "drop_primary_key"
  | addIndex => "add_index"
  | dropIndex => "drop_index"
  | addUnique => "add_unique"
  | dropUnique => "drop_unique"
  | addForeignKey => "add_foreign_key"
  | dropForeignKey => "drop_foreign_key"
  | setComment => "set_comment"

/-- The kind that a word stands for. -/
def ofName? (word : String) : Option OperationKind :=
  all.find? fun kind => kind.name == word

end OperationKind

end SchemaDdl
