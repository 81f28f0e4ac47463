import SchemaDdl.Dialect
import SchemaDdl.Json.Basic
import SchemaDdl.Naming.Kind
import SchemaDdl.Schema.OperationKind

/-!
# Errors

Everything that can go wrong, by cause, and the text of each.

## Main definitions

* `Invalid`: why an operation is refused whatever the dialect.
* `Feature`: what a dialect may lack.
* `Error`, `Error.message`
-/

namespace SchemaDdl

/-- A name that an operation must not leave empty. -/
inductive NamePart where
  /-- The name of a column. -/
  | column
  /-- The column to be renamed. -/
  | sourceColumn
  /-- The new name of a column. -/
  | targetColumn
  /-- The explicit name of a constraint or index. -/
  | constraint
  /-- The table that a foreign key refers to. -/
  | referencedTable
  deriving DecidableEq, Repr

/-- The words for a part in messages. -/
def NamePart.text : NamePart → String
  | column => "column"
  | sourceColumn => "source column"
  | targetColumn => "target column"
  | constraint => "constraint"
  | referencedTable => "referenced table"

/-- Why an operation is refused whatever the dialect. -/
inductive Invalid where
  /-- The table has no name. -/
  | emptyTable
  /-- A list of columns is empty. -/
  | noColumns (operation : OperationKind)
  /-- A name is empty. -/
  | emptyName (operation : OperationKind) (part : NamePart)
  /-- A foreign key has more columns on one side than on the other. -/
  | unevenForeignKey (columns referenced : Nat)
  /-- A statement has not one value for each placeholder. -/
  | statementBindings (sql : String) (placeholders bindings : Nat)
  /-- A raw default has not one value for each placeholder. -/
  | defaultBindings (sql : String) (placeholders bindings : Nat)
  /-- A generated name belongs to other columns already. -/
  | nameInUse (kind : ObjectKind) (name : String) (columns owner : List String) (table : String)
  deriving DecidableEq, Repr

/-- Explains why an operation is refused. -/
def Invalid.text : Invalid → String
  | emptyTable => "table name is empty"
  | noColumns operation => operation.name ++ " requires at least one column"
  | emptyName operation part => operation.name ++ " has an empty " ++ part.text ++ " name"
  | unevenForeignKey columns referenced =>
    OperationKind.addForeignKey.name ++ " maps " ++ toString columns ++ " column(s) onto " ++
      toString referenced ++ " referenced column(s)"
  | statementBindings sql placeholders bindings =>
    "statement has " ++ toString placeholders ++ " placeholder(s) but " ++ toString bindings ++
      " binding(s): " ++ sql
  | defaultBindings sql placeholders bindings =>
    "raw default '" ++ sql ++ "' has " ++ toString placeholders ++ " placeholder(s) but " ++
      toString bindings ++ " binding(s)"
  | nameInUse kind name columns owner table =>
    "generated " ++ kind.suffix ++ " name '" ++ name ++ "' for (" ++ ", ".intercalate columns ++
      ") is already used for (" ++ ", ".intercalate owner ++ ") on table '" ++ table ++
      "'; give one of them an explicit name"

/-- What a dialect may lack. -/
inductive Feature where
  /-- Comments on tables. -/
  | comment
  /-- A kind of operation as a whole. -/
  | operation (kind : OperationKind)
  /-- Foreign keys with an action on update. -/
  | foreignKeyOnUpdate
  /-- Foreign keys with an action on deletion that refuses it or sets a default. -/
  | foreignKeyOnDelete
  deriving DecidableEq, Repr

/-- The words for a feature in messages. -/
def Feature.text : Feature → String
  | comment => "comment"
  | operation kind => kind.name
  | foreignKeyOnUpdate => "foreign key ON UPDATE"
  | foreignKeyOnDelete => "foreign key ON DELETE other than CASCADE or SET NULL"

/-- Why the content of a file is not at hand. -/
inductive ReadFailure where
  /-- There is no such file. -/
  | notFound
  /-- The file may not be read. -/
  | denied
  /-- Something on the way to the file is no directory. -/
  | notDirectory
  /-- What has the name is a directory. -/
  | directory
  /-- The bytes of the file are no UTF-8 text. -/
  | notText
  deriving DecidableEq, Repr

/-- Explains why a file cannot be read. -/
def ReadFailure.text : ReadFailure → String
  | notFound => "No such file or directory (os error 2)"
  | denied => "Permission denied (os error 13)"
  | notDirectory => "Not a directory (os error 20)"
  | directory => "Is a directory (os error 21)"
  | notText => "stream did not contain valid UTF-8"

/-- Everything that can go wrong. -/
inductive Error where
  /-- The operation is refused whatever the dialect. -/
  | invalid (reason : Invalid)
  /-- The dialect has no way to express the operation. -/
  | unsupported (dialect : Dialect) (feature : Feature)
  /-- A generated name is over the limit even as a hash. -/
  | nameTooLong (name : String) (limit : Nat)
  /-- No dialect has this name. -/
  | unknownDialect (name : String)
  /-- A file cannot be read. -/
  | unreadable (failure : ReadFailure)
  /-- A file does not hold migration units. -/
  | notUnits (fault : Json.Fault)
  deriving DecidableEq, Repr

/-- The text of an error. -/
def Error.message : Error → String
  | invalid reason => "Invalid operation: " ++ reason.text
  | unsupported dialect feature =>
    "Operation '" ++ feature.text ++ "' is not supported by the " ++ dialect.name ++ " dialect"
  | nameTooLong name limit =>
    "Generated name '" ++ name ++ "' exceeds the identifier limit of " ++ toString limit ++
      " characters"
  | unknownDialect name => "Unknown dialect: " ++ name
  | unreadable failure => "IO error: " ++ failure.text
  | notUnits _ => "Serialization error"

/-- A dialect by name or alias. -/
def Dialect.ofName (name : String) : Except Error Dialect :=
  match Dialect.ofName? name with
  | some dialect => .ok dialect
  | none => .error (.unknownDialect name)

end SchemaDdl
