/-!
# Dialects

The five targets that operations are compiled for, their names and the length that each allows an
identifier.

## Main definitions

* `Dialect`, `Dialect.all`
* `Dialect.ofName?`: the dialect that a name or alias stands for.
* `Dialect.maxIdentifierBytes`: the longest identifier, in bytes.
-/

namespace SchemaDdl

/-- A target dialect. -/
inductive Dialect where
  /-- SQL that belongs to no system in particular. -/
  | generic
  /-- PostgreSQL. -/
  | postgresql
  /-- MySQL and MariaDB. -/
  | mysql
  /-- SQLite. -/
  | sqlite
  /-- Oracle Database. -/
  | oracle
  deriving DecidableEq, Repr

namespace Dialect

/-- The dialects in the order in which they are listed. -/
def all : List Dialect :=
  [generic, postgresql, mysql, sqlite, oracle]

/-- The name of a dialect. -/
def name : Dialect → String
  | generic => "generic"
  | postgresql => "postgresql"
  | mysql => "mysql"
  | sqlite => "sqlite"
  | oracle => "oracle"

/-- The names that a dialect answers to. -/
def aliases : Dialect → List String
  | generic => ["generic", "ansi"]
  | postgresql => ["postgres", "postgresql", "pg"]
  | mysql => ["mysql", "mariadb"]
  | sqlite => ["sqlite", "sqlite3"]
  | oracle => ["oracle", "oracledb"]

/-- The dialect that a name stands for; the case of ASCII letters does not matter. -/
def ofName? (name : String) : Option Dialect :=
  let lower := String.ofList (name.toList.map Char.toLower)
  all.find? fun d => d.aliases.contains lower

/-- The longest identifier of a dialect, in bytes. SQLite sets no limit of its own; its value is
the largest size there is. -/
def maxIdentifierBytes : Dialect → Nat
  | generic => 128
  | postgresql => 63
  | mysql => 64
  | sqlite => UInt64.size - 1
  | oracle => 30

end Dialect

end SchemaDdl
