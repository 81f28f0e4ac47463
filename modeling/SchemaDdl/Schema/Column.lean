import SchemaDdl.Schema.DataType
import SchemaDdl.Sql.Value

/-!
# Columns

The definition of one column: its name and type, whether it may be null, its default, its keys and
its checks.

## Main definitions

* `ReferentialAction`, `Reference`: what a foreign key of a column points to.
* `DefaultValue`: the default of a column.
* `Column`: a column definition.
-/

namespace SchemaDdl

/-- What happens to a row when the row it refers to changes. -/
inductive ReferentialAction where
  /-- The change is refused at the end of the statement. -/
  | noAction
  /-- The change is refused at once. -/
  | restrict
  /-- The row follows the change. -/
  | cascade
  /-- The reference becomes null. -/
  | setNull
  /-- The reference goes back to its default. -/
  | setDefault
  deriving DecidableEq, Repr

/-- The SQL keywords of an action. -/
def ReferentialAction.sql : ReferentialAction → String
  | noAction => "NO ACTION"
  | restrict => "RESTRICT"
  | cascade => "CASCADE"
  | setNull => "SET NULL"
  | setDefault => "SET DEFAULT"

/-- A foreign key of a single column. -/
structure Reference where
  /-- The table referred to. -/
  table : String
  /-- The column referred to. -/
  column : String
  /-- What a deletion does. -/
  onDelete : Option ReferentialAction := none
  /-- What an update does. -/
  onUpdate : Option ReferentialAction := none
  deriving DecidableEq, Repr

/-- The default of a column. -/
inductive DefaultValue where
  /-- The null value. -/
  | null
  /-- A truth value, spelled as the dialect spells it. -/
  | boolean (b : Bool)
  /-- An integer. -/
  | integer (n : Int64)
  /-- A float. -/
  | float (x : Float)
  /-- A text, written as a string literal. -/
  | string (s : String)
  /-- An SQL expression, written as it stands. -/
  | expression (sql : String)
  /-- An SQL fragment with placeholders and the values bound to them. -/
  | raw (sql : String) (bindings : List Value)

/-- A column definition. -/
structure Column where
  /-- The name of the column. -/
  name : String
  /-- The type of its values. -/
  dataType : DataType
  /-- Whether its values may be null. -/
  nullable : Bool := true
  /-- Its default. -/
  defaultValue : Option DefaultValue := none
  /-- Whether it is the primary key. -/
  primaryKey : Bool := false
  /-- Whether its values are unique. -/
  unique : Bool := false
  /-- Whether the system numbers its values. -/
  autoincrement : Bool := false
  /-- The column it refers to. -/
  references : Option Reference := none
  /-- A condition on its values. -/
  check : Option String := none
  /-- The collation of its texts. -/
  collation : Option String := none

end SchemaDdl
