import SchemaDdl.Plan.Basic

/-!
# Creating tables and comments

A table is created by one statement, followed by one for its comment if it has one. Where the
dialect has no `IF NOT EXISTS`, the statement is written without it; Oracle's is marked with the
error code that an executor has to take for success.

## Main definitions

* `Target.createTable`, `Target.setComment`
-/

namespace SchemaDdl

/-- The error code of a name that belongs to an object already. -/
def nameAlreadyUsed : Int32 := -955

/-- Whether a dialect can create a table on the condition that there is none. -/
def Dialect.hasIfNotExists : Dialect → Bool
  | .postgresql | .mysql | .sqlite => true
  | .generic | .oracle => false

namespace Target

/-! ### Comments -/

/-- The statement that sets the comment of the table; no text clears it. -/
def setComment (t : Target) (comment : Option String) : Emission :=
  let text := quoteLiteral (comment.getD "")
  match t.dialect with
  | .generic | .postgresql | .oracle =>
    .sql ("COMMENT ON TABLE " ++ t.quotedTable ++ " IS " ++ text)
  | .mysql => .sql (t.alter ("COMMENT = " ++ text))
  | .sqlite => .failed (t.unsupported .comment)

/-- The statement for the comment that the target asks for, if it does. -/
def tableComment (t : Target) : Emission :=
  match t.comment with
  | none => {}
  | some comment => t.setComment (some comment)

/-! ### Tables -/

/-- The statement that creates the table with the given column definitions. -/
def createStatement (t : Target) (defs : ColumnDefs) (ifNotExists : Bool) : Statement where
  sql :=
    "CREATE TABLE " ++ (if ifNotExists && t.dialect.hasIfNotExists then "IF NOT EXISTS " else "") ++
      t.quotedTable ++ " (" ++ ", ".intercalate defs.sql ++ ")"
  bindings := defs.bindings
  suppress := if ifNotExists && t.dialect = .oracle then some nameAlreadyUsed else none

/-- Creates the table, then sets its comment. -/
def createTable (t : Target) (columns : List Column) (ifNotExists : Bool) : Emission :=
  match t.formatter.columnDefs columns with
  | .error e => .failed e
  | .ok defs =>
    Emission.andThen { statements := [t.createStatement defs ifNotExists] } t.tableComment

end Target

end SchemaDdl
