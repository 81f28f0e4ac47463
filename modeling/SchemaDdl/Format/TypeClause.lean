import SchemaDdl.Dialect
import SchemaDdl.Schema.DataType

/-!
# Type clauses

How each dialect writes the abstract types. A type that a dialect has no word of its own for is
written in the neutral spelling.

## Main definitions

* `DataType.clause`: the type clause in a dialect.
-/

namespace SchemaDdl.DataType

/-- Types in PostgreSQL, which has one type for bytes. -/
def postgresqlClause : DataType → String
  | blob => "BYTEA"
  | binary none => "BYTEA"
  | varbinary none => "BYTEA"
  | binary (some n) => sized "BIT" (some n)
  | varbinary (some n) => sized "VARBIT" (some n)
  | other => other.sql

/-- Types in MySQL, where bounded text needs a length and truth values are small integers. -/
def mysqlClause : DataType → String
  | integer => "INT"
  | real => "FLOAT"
  | double => "DOUBLE"
  | numeric p s => sizedNumeric "DECIMAL" p s
  | varchar n => sized "VARCHAR" (some (n.getD 255))
  | binary none => "BLOB"
  | varbinary none => "BLOB"
  | datetime => "DATETIME"
  | boolean => "TINYINT(1)"
  | other => other.sql

/-- Types in SQLite, which has five storage classes. -/
def sqliteClause : DataType → String
  | smallint | integer | bigint | boolean => "INTEGER"
  | real | double => "REAL"
  | decimal .. | numeric .. => "NUMERIC"
  | char _ | varchar _ | text => "TEXT"
  | blob | binary _ | varbinary _ => "BLOB"
  | date | time | timestamp | datetime => "TEXT"
  | custom sql => sql

/-- Types in Oracle, where bounded text needs a length and bytes come as raw or large objects. -/
def oracleClause : DataType → String
  | bigint => "NUMBER(20, 0)"
  | real => "BINARY_FLOAT"
  | double => "BINARY_DOUBLE"
  | numeric p s => sizedNumeric "NUMBER" p s
  | varchar n => sized "VARCHAR2" (some (n.getD 255))
  | text => "CLOB"
  | binary (some n) | varbinary (some n) => sized "RAW" (some n)
  | binary none | varbinary none => "BLOB"
  | time | timestamp | datetime => "TIMESTAMP"
  | boolean => "NUMBER(1, 0)"
  | other => other.sql

/-- The type clause in a dialect. -/
def clause (t : DataType) : Dialect → String
  | .generic => t.sql
  | .postgresql => t.postgresqlClause
  | .mysql => t.mysqlClause
  | .sqlite => t.sqliteClause
  | .oracle => t.oracleClause

end SchemaDdl.DataType
