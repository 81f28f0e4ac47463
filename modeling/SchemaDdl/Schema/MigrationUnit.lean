import SchemaDdl.Schema.Operation

/-!
# Migration units

The operations of one migration against one table.

## Main definitions

* `MigrationUnit`
* `MigrationUnit.validate`: accepts units whose table has a name and whose operations are all
  well formed.
-/

namespace SchemaDdl

/-- The operations of one migration against one table. -/
structure MigrationUnit where
  /-- The name of the table, without quotes. -/
  table : String
  /-- The comment that the table gets when it is created. -/
  comment : Option String := none
  /-- The operations in order. -/
  operations : List Operation := []

/-- A unit with one more operation at its end. -/
def MigrationUnit.push (u : MigrationUnit) (op : Operation) : MigrationUnit :=
  { u with operations := u.operations ++ [op] }

/-- Refuses a unit whose table has no name, or the first malformed operation. -/
def MigrationUnit.validate (u : MigrationUnit) : Except Error Unit :=
  if u.table.isEmpty then .error (.invalid .emptyTable)
  else u.operations.forM Operation.validate

end SchemaDdl
