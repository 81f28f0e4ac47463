import SchemaDdl.Format.Formatter
import SchemaDdl.Naming.Name
import SchemaDdl.Sql.Statement

/-!
# Plans

What an operation comes to on a target, before any session is involved. Most operations are a list
of statements, which an error may cut short. Operations on keys and indexes are one statement that
waits for a name. A plan depends on the target and the operation alone, so what a session does with
it can be stated for every operation at once.

## Main definitions

* `Target`: the table, with the dialect and formatter that its statements are written in.
* `Emission`: statements, up to the error that ends them.
* `Plan`: an emission, or a statement that needs a name.
-/

namespace SchemaDdl

/-- The table that statements are written for, and how they are written. -/
structure Target where
  /-- The dialect of the statements. -/
  dialect : Dialect
  /-- How identifiers and columns are written. -/
  formatter : Formatter
  /-- The name of the table, without quotes. -/
  table : String
  /-- The comment that the table gets when it is created. -/
  comment : Option String := none

namespace Target

/-- The quoted name of the table. -/
def quotedTable (t : Target) : String :=
  t.formatter.wrap t.table

/-- The text of a statement that alters the table. -/
def alter (t : Target) (change : String) : String :=
  "ALTER TABLE " ++ t.quotedTable ++ " " ++ change

/-- The error that the dialect lacks a feature. -/
def unsupported (t : Target) (feature : Feature) : Error :=
  .unsupported t.dialect feature

end Target

/-- Statements in order, up to the error that ends them. -/
structure Emission where
  /-- The statements before the error, or all of them. -/
  statements : List Statement := []
  /-- The error, if there is one. -/
  failure : Option Error := none

namespace Emission

/-- A single statement without placeholders. -/
def sql (text : String) : Emission :=
  { statements := [{ sql := text }] }

/-- No statement but an error. -/
def failed (e : Error) : Emission :=
  { failure := some e }

/-- An emission, and another after it unless the first one fails. -/
def andThen (a b : Emission) : Emission :=
  match a.failure with
  | some _ => a
  | none => ⟨a.statements ++ b.statements, b.failure⟩

/-- The statements, or the error that prevented them. -/
def ofExcept : Except Error (List Statement) → Emission
  | .ok statements => { statements }
  | .error e => failed e

end Emission

/-- What an operation comes to on a target. -/
inductive Plan where
  /-- Statements that need no name. -/
  | emit (emission : Emission)
  /-- One statement, made from the quoted name that the request gets. -/
  | named (request : NameRequest) (sql : String → String)

/-- The plan for something that the dialect lacks. -/
def Plan.unsupported (t : Target) (feature : Feature) : Plan :=
  .emit (.failed (t.unsupported feature))

end SchemaDdl
