import SchemaDdl.Schema.Column

/-!
# Building columns

Columns built step by step: a start with a name and a type, then setters in any order. A setter
writes its own part of the definition and leaves the rest alone; `primaryKey` also forbids null.

## Main definitions

* `Column.Setter`: one step.
* `Column.set`: a column after one step.
* `Column.build`: a column after a list of steps.
* `Column.smallint`, `Column.varchar`, …: starts with a given type.
-/

namespace SchemaDdl.Column

/-- One step in building a column. -/
inductive Setter where
  /-- Forbids null. -/
  | notNull
  /-- Allows null. -/
  | nullable
  /-- Makes the column the primary key, which also forbids null. -/
  | primaryKey
  /-- Makes the values unique. -/
  | unique
  /-- Lets the system number the values. -/
  | autoincrement
  /-- Sets the default. -/
  | defaultValue (value : DefaultValue)
  /-- Refers to a column of a table, without actions. -/
  | references (table column : String)
  /-- Sets what a deletion does, if the column refers to another. -/
  | onDelete (action : ReferentialAction)
  /-- Sets what an update does, if the column refers to another. -/
  | onUpdate (action : ReferentialAction)
  /-- Sets the condition on the values. -/
  | check (sql : String)
  /-- Sets the collation. -/
  | collation (name : String)

/-- Sets a truth value as the default. -/
def Setter.defaultBool (value : Bool) : Setter :=
  .defaultValue (.boolean value)

/-- Sets an integer as the default. -/
def Setter.defaultInt (value : Int64) : Setter :=
  .defaultValue (.integer value)

/-- Sets a text as the default. -/
def Setter.defaultStr (value : String) : Setter :=
  .defaultValue (.string value)

/-- Sets an SQL expression as the default. -/
def Setter.defaultExpr (sql : String) : Setter :=
  .defaultValue (.expression sql)

/-- A column after one step. -/
def set (c : Column) : Setter → Column
  | .notNull => { c with nullable := false }
  | .nullable => { c with nullable := true }
  | .primaryKey => { c with primaryKey := true, nullable := false }
  | .unique => { c with unique := true }
  | .autoincrement => { c with autoincrement := true }
  | .defaultValue value => { c with defaultValue := some value }
  | .references table column => { c with references := some { table, column } }
  | .onDelete action =>
    { c with references := c.references.map fun r => { r with onDelete := some action } }
  | .onUpdate action =>
    { c with references := c.references.map fun r => { r with onUpdate := some action } }
  | .check sql => { c with check := some sql }
  | .collation name => { c with collation := some name }

/-- A column after a list of steps. -/
def build (start : Column) (steps : List Setter) : Column :=
  steps.foldl set start

/-! ### Starts -/

/-- A column of small integers. -/
def smallint (name : String) : Column :=
  { name, dataType := .smallint }

/-- A column of integers. -/
def integer (name : String) : Column :=
  { name, dataType := .integer }

/-- A column of big integers. -/
def bigint (name : String) : Column :=
  { name, dataType := .bigint }

/-- A column of double precision floats. -/
def double (name : String) : Column :=
  { name, dataType := .double }

/-- A column of exact numbers. -/
def decimal (name : String) (precision scale : UInt16) : Column :=
  { name, dataType := .decimal (some precision) (some scale) }

/-- A column of texts of bounded length. -/
def varchar (name : String) (length : UInt32) : Column :=
  { name, dataType := .varchar (some length) }

/-- A column of texts. -/
def text (name : String) : Column :=
  { name, dataType := .text }

/-- A column of bytes. -/
def blob (name : String) : Column :=
  { name, dataType := .blob }

/-- A column of truth values. -/
def boolean (name : String) : Column :=
  { name, dataType := .boolean }

/-- A column of dates. -/
def date (name : String) : Column :=
  { name, dataType := .date }

/-- A column of points in time. -/
def timestamp (name : String) : Column :=
  { name, dataType := .timestamp }

end SchemaDdl.Column
