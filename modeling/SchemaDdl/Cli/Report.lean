import SchemaDdl.Codec.Statement
import SchemaDdl.Dialect
import SchemaDdl.Json.Writer

/-!
# What the program prints

A script has each statement on lines of its own, with its values and its suppressed error in comment
lines after it. The list of dialects is a table of two columns.

## Main definitions

* `Statement.script`, `scriptText`: statements as a script.
* `statementsJson`: statements as indented JSON.
* `dialectTable`: the dialects and their limits.
-/

namespace SchemaDdl

/-! ### Statements -/

/-- The comment line for the values of a statement, if it has any. -/
def bindingsComment (bindings : List Value) : String :=
  if bindings.isEmpty then ""
  else "-- bindings: " ++ ", ".intercalate (bindings.map Value.inline) ++ "\n"

/-- The comment line for a suppressed error, if there is one. -/
def suppressComment : Option Int32 → String
  | none => ""
  | some code => "-- suppress error " ++ toString code.toInt ++ "\n"

/-- A statement in a script. -/
def Statement.script (s : Statement) : String :=
  s.sql ++ ";\n" ++ bindingsComment s.bindings ++ suppressComment s.suppress

/-- Statements as a script. -/
def scriptText (statements : List Statement) : String :=
  String.join (statements.map Statement.script)

/-- Statements as indented JSON. -/
def statementsJson (statements : List Statement) : String :=
  (Json.array (statements.map Statement.toJson)).indented ++ "\n"

/-! ### Dialects -/

/-- A row of the table: the first cell is filled up to twelve characters behind, the second up to
sixteen in front. -/
def tableRow (left right : String) : String :=
  String.ofList (left.toList ++ List.replicate (12 - left.length) ' ' ++ ' ' ::
    (List.replicate (16 - right.length) ' ' ++ right.toList) ++ ['\n'])

/-- The longest identifier of a dialect as it is listed. -/
def limitText (d : Dialect) : String :=
  if d.maxIdentifierBytes = UInt64.size - 1 then "unbounded" else toString d.maxIdentifierBytes

/-- The dialects and their limits. -/
def dialectTable : String :=
  tableRow "dialect" "max identifier" ++ String.ofList (List.replicate 29 '-' ++ ['\n']) ++
    String.join (Dialect.all.map fun d => tableRow d.name (limitText d))

end SchemaDdl
