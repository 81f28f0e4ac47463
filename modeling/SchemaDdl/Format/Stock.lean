import SchemaDdl.Format.Formatter
import SchemaDdl.Format.TypeClause
import SchemaDdl.Sql.Placeholder

/-!
# Stock formatters

The formatter of each dialect. An identifier is quoted segment by segment: the dots in it separate
the segments and stay outside the quotes. A column definition is its quoted name and its type,
followed by the clauses that the column asks for.

## Main definitions

* `Dialect.quote`, `quoteIdentifier`: quoting of identifiers.
* `Dialect.columnDef`: a column definition.
* `Dialect.formatter`: the stock formatter.
-/

namespace SchemaDdl

/-! ### Identifiers -/

/-- The quote around identifiers. -/
def Dialect.quote : Dialect → Char
  | .mysql => '\x60'
  | _ => '"'

/-- The characters between the outer quotes of an identifier. A quote is doubled, and a dot closes
the segment before it and opens the one after it. -/
def quotedBody (q : Char) (cs : List Char) : List Char :=
  cs.flatMap fun c => if c = '.' then [q, '.', q] else if c = q then [q, q] else [c]

@[simp]
theorem quotedBody_append (q : Char) (cs ds : List Char) :
    quotedBody q (cs ++ ds) = quotedBody q cs ++ quotedBody q ds :=
  List.flatMap_append

/-- An identifier in quotes, segment by segment. -/
def quoteIdentifier (q : Char) (identifier : String) : String :=
  String.ofList (q :: quotedBody q identifier.toList ++ [q])

namespace Dialect

/-- Quotes an identifier. -/
def wrap (d : Dialect) (identifier : String) : String :=
  quoteIdentifier d.quote identifier

/-! ### Clauses of a column definition -/

/-- A truth value as a default. -/
def boolText (d : Dialect) (b : Bool) : String :=
  match d with
  | generic | postgresql => if b then "TRUE" else "FALSE"
  | mysql | sqlite | oracle => if b then "1" else "0"

/-- A default as text, with the values of its placeholders. A raw fragment has to have exactly one
value for each placeholder. -/
def defaultText (d : Dialect) : DefaultValue → Except Error (String × List Value)
  | .null => .ok ("NULL", [])
  | .boolean b => .ok (d.boolText b, [])
  | .integer n => .ok (toString n.toInt, [])
  | .float x => .ok (floatText x, [])
  | .string s => .ok (quoteLiteral s, [])
  | .expression sql => .ok (sql, [])
  | .raw sql bindings =>
    let placeholders := Placeholder.count sql
    if placeholders ≠ bindings.length then
      .error (.invalid (.defaultBindings sql placeholders bindings.length))
    else .ok (sql, bindings)

/-- The default clause, with the values of its placeholders. -/
def defaultClause (d : Dialect) : Option DefaultValue → Except Error (String × List Value)
  | none => .ok ("", [])
  | some value =>
    match d.defaultText value with
    | .error e => .error e
    | .ok (text, bindings) => .ok (" DEFAULT " ++ text, bindings)

/-- The type of a column. PostgreSQL numbers a primary key through a type of its own. -/
def columnType (d : Dialect) (c : Column) : String :=
  if d = postgresql && c.autoincrement && c.primaryKey then
    match c.dataType with
    | .integer | .smallint => "SERIAL"
    | .bigint => "BIGSERIAL"
    | other => other.clause d
  else c.dataType.clause d

/-- The collation clause. PostgreSQL takes a collation for an identifier. -/
def collationClause (d : Dialect) : Option String → String
  | none => ""
  | some name => " COLLATE " ++ (if d = postgresql then d.wrap name else name)

/-- The clause that lets the system number the values. -/
def autoincrementClause (d : Dialect) (autoincrement : Bool) : String :=
  if autoincrement then
    match d with
    | generic | oracle => " GENERATED BY DEFAULT AS IDENTITY"
    | mysql => " AUTO_INCREMENT"
    | postgresql | sqlite => ""
  else ""

/-- The key and null clauses. A primary key is unique and not null by itself. -/
def keyClause (d : Dialect) (c : Column) : String :=
  if c.primaryKey then
    " PRIMARY KEY" ++ (if c.autoincrement && d = sqlite then " AUTOINCREMENT" else "")
  else
    (if c.nullable then "" else " NOT NULL") ++ (if c.unique then " UNIQUE" else "")

end Dialect

/-- The clauses for the actions of a foreign key. -/
def actionClauses (onDelete onUpdate : Option ReferentialAction) : String :=
  (onDelete.elim "" fun a => " ON DELETE " ++ a.sql) ++
    (onUpdate.elim "" fun a => " ON UPDATE " ++ a.sql)

namespace Dialect

/-- The clause for the column referred to. -/
def referenceClause (d : Dialect) : Option Reference → String
  | none => ""
  | some r =>
    " REFERENCES " ++ d.wrap r.table ++ " (" ++ d.wrap r.column ++ ")" ++
      actionClauses r.onDelete r.onUpdate

/-- The clause for the condition on the values. -/
def checkClause : Option String → String
  | none => ""
  | some sql => " CHECK (" ++ sql ++ ")"

/-! ### The formatter -/

/-- A column definition: one fragment, with the values of the default. -/
def columnDef (d : Dialect) (c : Column) : Except Error ColumnDefs :=
  match d.defaultClause c.defaultValue with
  | .error e => .error e
  | .ok (default, bindings) =>
    let sql :=
      d.wrap c.name ++ " " ++ d.columnType c ++ d.collationClause c.collation ++
        d.autoincrementClause c.autoincrement ++ default ++ d.keyClause c ++
        d.referenceClause c.references ++ checkClause c.check
    .ok ⟨[sql], bindings⟩

/-- The stock formatter. -/
def formatter (d : Dialect) : Formatter where
  wrap := d.wrap
  typeClause t := t.clause d
  columnDef := d.columnDef

end Dialect

end SchemaDdl
