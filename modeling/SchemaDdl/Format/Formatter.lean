import SchemaDdl.Error
import SchemaDdl.Schema.Column

/-!
# Formatters

How identifiers and columns are written is left to a formatter: five functions that the stock
formatters of the dialects implement and that a caller may replace. The two for lists of names and
of columns have a default, made from the function for one of them; the stock formatters keep it.

## Main definitions

* `ColumnDefs`: column definitions as text, with the values of their placeholders.
* `ColumnDefs.inOrder`: the definitions of columns, one after the other.
* `Formatter`: the five functions.
-/

namespace SchemaDdl

/-- Column definitions as text. -/
structure ColumnDefs where
  /-- The fragments of text. -/
  sql : List String := []
  /-- The values of the placeholders in all fragments, in order. -/
  bindings : List Value := []

/-- Definitions followed by others. -/
def ColumnDefs.append (a b : ColumnDefs) : ColumnDefs :=
  ⟨a.sql ++ b.sql, a.bindings ++ b.bindings⟩

/-- Writes column definitions one after the other; the first that cannot be written is reported. -/
def ColumnDefs.inOrder (columnDef : Column → Except Error ColumnDefs) :
    List Column → Except Error ColumnDefs
  | [] => .ok {}
  | c :: cs =>
    match columnDef c with
    | .error e => .error e
    | .ok defs =>
      match inOrder columnDef cs with
      | .error e => .error e
      | .ok rest => .ok (defs.append rest)

/-- How identifiers and columns are written. -/
structure Formatter where
  /-- Quotes an identifier. -/
  wrap : String → String
  /-- Quotes each name and puts commas between them. -/
  columnize : List String → String := fun names => ", ".intercalate (names.map wrap)
  /-- Writes a type. -/
  typeClause : DataType → String
  /-- Writes a column definition. -/
  columnDef : Column → Except Error ColumnDefs
  /-- Writes the definitions of columns. -/
  columnDefs : List Column → Except Error ColumnDefs := ColumnDefs.inOrder columnDef

end SchemaDdl
