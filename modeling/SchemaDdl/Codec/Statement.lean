import SchemaDdl.Codec.Value
import SchemaDdl.Sql.Statement

/-!
# Statements in JSON

## Main definitions

* `Statement.toJson`: a statement for an executor that reads JSON.
-/

namespace SchemaDdl

/-- A statement in JSON. The suppressed error code is left out when there is none. -/
def Statement.toJson (s : Statement) : Json :=
  .object <|
    [("sql", .string s.sql), ("bindings", .array (s.bindings.map Value.toJson))] ++
      match s.suppress with
      | none => []
      | some code => [("suppress_error_code", .int code.toInt)]

end SchemaDdl
