import SchemaDdl.Sql.Statement

/-!
# Error guards

An executor that cannot be told to take an error code for success may run the statement inside a
block that does so by itself. Oracle has such blocks. The statement becomes a string literal there,
in which placeholders would not bind, so its values are inlined first.

## Main definitions

* `catchBlock`: a block around a text of SQL.
* `Statement.guard?`: a statement with its suppressed error handled in SQL.
-/

namespace SchemaDdl

/-- A block that runs a text of SQL and passes over one error code. -/
def catchBlock (sql : String) (code : Int32) : String :=
  "BEGIN EXECUTE IMMEDIATE " ++ quoteLiteral sql ++
    "; EXCEPTION WHEN OTHERS THEN IF SQLCODE != " ++ toString code.toInt ++
    " THEN RAISE; END IF; END;"

namespace Statement

/-- A statement whose suppressed error is handled in SQL; nothing if no error is suppressed or the
dialect has no such form. -/
def guard? (s : Statement) : Dialect → Option Statement
  | .oracle => s.suppress.map fun code =>
    { sql := catchBlock (Placeholder.inline s.sql s.bindings) code }
  | .generic | .postgresql | .mysql | .sqlite => none

/-- A statement with its suppressed error handled in SQL where that is possible. -/
def guarded (s : Statement) (d : Dialect) : Statement :=
  (s.guard? d).getD s

end Statement

end SchemaDdl
