import SchemaDdl.Plan.Basic

/-!
# Changing columns

Columns are added, dropped, renamed and given another type. The dialects differ in how much fits
one statement: SQLite adds one column a statement, and columns are dropped one a statement where
the grammar knows no list of clauses.

## Main definitions

* `Target.addColumns`, `Target.dropColumns`, `Target.renameColumn`, `Target.changeColumnType`
-/

namespace SchemaDdl

/-- The words in front of each column that is added. -/
def Dialect.addColumnWords : Dialect → String
  | .oracle => "ADD "
  | _ => "ADD COLUMN "

namespace Target

/-! ### Adding -/

/-- One statement that adds columns with the given definitions. -/
def addStatement (t : Target) (defs : ColumnDefs) : Statement where
  sql := t.alter (", ".intercalate (defs.sql.map (t.dialect.addColumnWords ++ ·)))
  bindings := defs.bindings

/-- One statement that adds a single column, whatever number of fragments it is written in. -/
def addOneStatement (t : Target) (defs : ColumnDefs) : Statement where
  sql := t.alter (t.dialect.addColumnWords ++ ", ".intercalate defs.sql)
  bindings := defs.bindings

/-- A statement for each column; the first column that cannot be written is reported. -/
def addEach (t : Target) : List Column → Except Error (List Statement)
  | [] => .ok []
  | c :: cs =>
    match t.formatter.columnDef c with
    | .error e => .error e
    | .ok defs =>
      match t.addEach cs with
      | .error e => .error e
      | .ok statements => .ok (t.addOneStatement defs :: statements)

/-- Adds columns. -/
def addColumns (t : Target) (columns : List Column) : Emission :=
  match t.dialect with
  | .sqlite => .ofExcept (t.addEach columns)
  | _ =>
    match t.formatter.columnDefs columns with
    | .error e => .failed e
    | .ok defs => { statements := [t.addStatement defs] }

/-! ### Dropping, renaming, changing -/

/-- The clause that drops a column. -/
def dropClause (t : Target) (column : String) : String :=
  "DROP COLUMN " ++ t.formatter.wrap column

/-- Drops columns. -/
def dropColumns (t : Target) (columns : List String) : Emission :=
  match t.dialect with
  | .generic | .sqlite =>
    { statements := columns.map fun c => { sql := t.alter (t.dropClause c) } }
  | .postgresql | .mysql => .sql (t.alter (", ".intercalate (columns.map t.dropClause)))
  | .oracle => .sql (t.alter ("DROP (" ++ t.formatter.columnize columns ++ ")"))

/-- Renames a column. -/
def renameColumn (t : Target) (source target : String) : Emission :=
  .sql (t.alter
    ("RENAME COLUMN " ++ t.formatter.wrap source ++ " TO " ++ t.formatter.wrap target))

/-- Gives a column another type. MySQL restates the whole column, so its default and its null
clause go with it. -/
def changeColumnType (t : Target) (column : Column) : Emission :=
  let name := t.formatter.wrap column.name
  let type := t.formatter.typeClause column.dataType
  match t.dialect with
  | .generic => .sql (t.alter ("ALTER COLUMN " ++ name ++ " SET DATA TYPE " ++ type))
  | .postgresql => .sql (t.alter ("ALTER COLUMN " ++ name ++ " TYPE " ++ type))
  | .mysql =>
    match t.formatter.columnDef column with
    | .error e => .failed e
    | .ok defs =>
      { statements := [{
          sql := t.alter ("MODIFY COLUMN " ++ ", ".intercalate defs.sql)
          bindings := defs.bindings }] }
  | .sqlite | .oracle => .failed (t.unsupported (.operation .changeColumnType))

end Target

end SchemaDdl
