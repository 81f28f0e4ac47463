/-!
# Column types

The abstract types of columns and their spelling in SQL that belongs to no system in particular.
Every dialect starts from this spelling and changes what it calls differently.

## Main definitions

* `DataType`: a column type.
* `sized`, `sizedNumeric`: type names with their sizes.
* `DataType.sql`: the dialect-neutral spelling.
-/

namespace SchemaDdl

/-- An abstract column type. -/
inductive DataType where
  /-- Integer of two bytes. -/
  | smallint
  /-- Integer of four bytes. -/
  | integer
  /-- Integer of eight bytes. -/
  | bigint
  /-- Float of four bytes. -/
  | real
  /-- Float of eight bytes. -/
  | double
  /-- Exact number, with its digits in total and after the point. -/
  | decimal (precision scale : Option UInt16)
  /-- Another name for exact numbers. -/
  | numeric (precision scale : Option UInt16)
  /-- Text of fixed length. -/
  | char (length : Option UInt32)
  /-- Text of bounded length. -/
  | varchar (length : Option UInt32)
  /-- Text of any length. -/
  | text
  /-- Bytes of any length. -/
  | blob
  /-- Bytes of fixed length. -/
  | binary (length : Option UInt32)
  /-- Bytes of bounded length. -/
  | varbinary (length : Option UInt32)
  /-- Calendar date. -/
  | date
  /-- Time of day. -/
  | time
  /-- Point in time. -/
  | timestamp
  /-- Date and time of day. -/
  | datetime
  /-- Truth value. -/
  | boolean
  /-- A type of one system, written as it stands. -/
  | custom (sql : String)
  deriving DecidableEq, Repr

/-- A type name with its length, if there is one. -/
def sized (name : String) : Option UInt32 → String
  | none => name
  | some n => name ++ "(" ++ toString n.toNat ++ ")"

/-- A type name with its precision and scale. A scale without precision is not written. -/
def sizedNumeric (name : String) (precision scale : Option UInt16) : String :=
  match precision, scale with
  | some p, some s => name ++ "(" ++ toString p.toNat ++ ", " ++ toString s.toNat ++ ")"
  | some p, none => name ++ "(" ++ toString p.toNat ++ ")"
  | none, _ => name

/-- The spelling that belongs to no dialect. -/
def DataType.sql : DataType → String
  | smallint => "SMALLINT"
  | integer => "INTEGER"
  | bigint => "BIGINT"
  | real => "REAL"
  | double => "DOUBLE PRECISION"
  | decimal p s => sizedNumeric "DECIMAL" p s
  | numeric p s => sizedNumeric "NUMERIC" p s
  | char n => sized "CHAR" n
  | varchar n => sized "VARCHAR" n
  | text => "TEXT"
  | blob => "BLOB"
  | binary n => sized "BINARY" n
  | varbinary n => sized "VARBINARY" n
  | date => "DATE"
  | time => "TIME"
  | timestamp => "TIMESTAMP"
  | datetime => "TIMESTAMP"
  | boolean => "BOOLEAN"
  | custom sql => sql

end SchemaDdl
