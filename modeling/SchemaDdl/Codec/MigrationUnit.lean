import SchemaDdl.Codec.Operation
import SchemaDdl.Json.Reader
import SchemaDdl.Schema.MigrationUnit

/-!
# Migration files

A file holds one migration unit or an array of units. Because a unit may be written as an array
itself, an array is first taken for a list of units.

## Main definitions

* `MigrationUnit.toJson`, `MigrationUnit.ofJson?`: one unit.
* `MigrationUnit.listOfJson?`: the units of a file.
* `MigrationUnit.parse`: the units of the text of a file.
-/

namespace SchemaDdl.MigrationUnit

/-- A unit in JSON, with every field. -/
def toJson (u : MigrationUnit) : Json :=
  .object [
    ("table", .string u.table),
    ("comment", jsonOfOption .string u.comment),
    ("operations", .array (u.operations.map Operation.toJson))]

/-- The unit of a JSON value. -/
def ofJson? (j : Json) : Option MigrationUnit := do
  match ← j.fields? ["table", "comment", "operations"] with
  | [table, comment, operations] =>
    return {
      table := ← required stringOfJson? table
      comment := ← optional stringOfJson? comment
      operations := ← withDefault [] (SchemaDdl.listOfJson? Operation.ofJson?) operations }
  | _ => none

/-- The units of a file: those of an array of units, or a single one. -/
def listOfJson? (j : Json) : Option (List MigrationUnit) :=
  match SchemaDdl.listOfJson? ofJson? j with
  | some units => some units
  | none => (ofJson? j).map ([·])

/-- The units of the text of a file. -/
def parse (text : String) : Except Json.Fault (List MigrationUnit) :=
  Json.decodeText listOfJson? text

end SchemaDdl.MigrationUnit
