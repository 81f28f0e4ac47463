import SchemaDdl.Codec.Value
import SchemaDdl.Schema.Column

/-!
# Columns in JSON

## Main definitions

* `DataType.toJson`, `DataType.ofJson?`
* `ReferentialAction.toJson`, `ReferentialAction.ofJson?`
* `Reference.toJson`, `Reference.ofJson?`
* `DefaultValue.toJson`, `DefaultValue.ofJson?`
* `Column.toJson`, `Column.ofJson?`
-/

namespace SchemaDdl

/-! ### Types -/

namespace DataType

/-- The types that have nothing but a name. -/
def plain : List (String × DataType) :=
  [("smallint", smallint), ("integer", integer), ("bigint", bigint), ("real", real),
    ("double", double), ("text", text), ("blob", blob), ("date", date), ("time", time),
    ("timestamp", timestamp), ("datetime", datetime), ("boolean", boolean)]

/-- A choice of a type of exact numbers, with its sizes. -/
def sizesToJson (name : String) (precision scale : Option UInt16) : Json :=
  .object [(name, .object [
    ("precision", jsonOfOption (fun p => .int p.toNat) precision),
    ("scale", jsonOfOption (fun s => .int s.toNat) scale)])]

/-- A choice of a type with a length. -/
def lengthToJson (name : String) (length : Option UInt32) : Json :=
  .object [(name, jsonOfOption (fun n => .int n.toNat) length)]

/-- A type in JSON. -/
def toJson : DataType → Json
  | smallint => .string "smallint"
  | integer => .string "integer"
  | bigint => .string "bigint"
  | real => .string "real"
  | double => .string "double"
  | text => .string "text"
  | blob => .string "blob"
  | date => .string "date"
  | time => .string "time"
  | timestamp => .string "timestamp"
  | datetime => .string "datetime"
  | boolean => .string "boolean"
  | decimal p s => sizesToJson "decimal" p s
  | numeric p s => sizesToJson "numeric" p s
  | char n => lengthToJson "char" n
  | varchar n => lengthToJson "varchar" n
  | binary n => lengthToJson "binary" n
  | varbinary n => lengthToJson "varbinary" n
  | custom sql => .object [("custom", .string sql)]

/-- The sizes of a type of exact numbers. As an array they have to be complete. -/
def sizesOfJson? : Json → Option (Option UInt16 × Option UInt16)
  | .array [p, s] => do
    return (← optional uint16OfJson? (some p), ← optional uint16OfJson? (some s))
  | .object members => do
    let precision ← Json.member? members "precision"
    let scale ← Json.member? members "scale"
    return (← optional uint16OfJson? precision, ← optional uint16OfJson? scale)
  | _ => none

/-- The length of a type, which may be null. -/
def lengthOfJson? (content : Json) : Option (Option UInt32) :=
  optional uint32OfJson? (some content)

/-- The type of a JSON value. -/
def ofJson? (place : Place) (j : Json) : Option DataType := do
  let (name, content) ← j.choice?
  match plain.lookup name with
  | some type => if place.admitsEmpty content then some type else none
  | none =>
    let content ← content
    match name with
    | "decimal" => (sizesOfJson? content).map fun (p, s) => decimal p s
    | "numeric" => (sizesOfJson? content).map fun (p, s) => numeric p s
    | "char" => (lengthOfJson? content).map char
    | "varchar" => (lengthOfJson? content).map varchar
    | "binary" => (lengthOfJson? content).map binary
    | "varbinary" => (lengthOfJson? content).map varbinary
    | "custom" => (stringOfJson? content).map custom
    | _ => none

end DataType

/-! ### References -/

namespace ReferentialAction

/-- The word for an action. -/
def word : ReferentialAction → String
  | noAction => "no_action"
  | restrict => "restrict"
  | cascade => "cascade"
  | setNull => "set_null"
  | setDefault => "set_default"

/-- The actions. -/
def all : List ReferentialAction :=
  [noAction, restrict, cascade, setNull, setDefault]

/-- An action in JSON. -/
def toJson (a : ReferentialAction) : Json :=
  .string a.word

/-- The action of a JSON value. -/
def ofJson? (place : Place) (j : Json) : Option ReferentialAction := do
  let (word, content) ← j.choice?
  if place.admitsEmpty content then all.find? fun a => a.word == word else none

end ReferentialAction

namespace Reference

/-- A reference in JSON. -/
def toJson (r : Reference) : Json :=
  .object [
    ("table", .string r.table),
    ("column", .string r.column),
    ("on_delete", jsonOfOption ReferentialAction.toJson r.onDelete),
    ("on_update", jsonOfOption ReferentialAction.toJson r.onUpdate)]

/-- The reference of a JSON value. -/
def ofJson? (place : Place) (j : Json) : Option Reference := do
  match ← j.fields? ["table", "column", "on_delete", "on_update"] with
  | [table, column, onDelete, onUpdate] =>
    return {
      table := ← required stringOfJson? table
      column := ← required stringOfJson? column
      onDelete := ← optional (ReferentialAction.ofJson? place) onDelete
      onUpdate := ← optional (ReferentialAction.ofJson? place) onUpdate }
  | _ => none

end Reference

/-! ### Defaults -/

namespace DefaultValue

/-- A default in JSON. -/
def toJson : DefaultValue → Json
  | null => .string "null"
  | boolean b => .object [("boolean", .bool b)]
  | integer n => .object [("integer", .int n.toInt)]
  | float x => .object [("float", .float x)]
  | string s => .object [("string", .string s)]
  | expression sql => .object [("expression", .string sql)]
  | raw sql bindings =>
    .object [("raw", .object [
      ("sql", .string sql),
      ("bindings", .array (bindings.map Value.toJson))])]

/-- A raw fragment with its values. -/
def rawOfJson? (j : Json) : Option DefaultValue := do
  match ← j.fields? ["sql", "bindings"] with
  | [sql, bindings] =>
    return raw (← required stringOfJson? sql)
      (← withDefault [] (listOfJson? Value.ofJson?) bindings)
  | _ => none

/-- The default of a JSON value. -/
def ofJson? (place : Place) (j : Json) : Option DefaultValue := do
  let (name, content) ← j.choice?
  if name = "null" then
    if place.admitsEmpty content then some null else none
  else
    let content ← content
    match name with
    | "boolean" => (boolOfJson? content).map boolean
    | "integer" => (int64OfJson? content).map integer
    | "float" => (floatOfJson? content).map float
    | "string" => (stringOfJson? content).map string
    | "expression" => (stringOfJson? content).map expression
    | "raw" => rawOfJson? content
    | _ => none

end DefaultValue

/-! ### Columns -/

namespace Column

/-- A column in JSON, with every field. -/
def toJson (c : Column) : Json :=
  .object [
    ("name", .string c.name),
    ("data_type", c.dataType.toJson),
    ("nullable", .bool c.nullable),
    ("default", jsonOfOption DefaultValue.toJson c.defaultValue),
    ("primary_key", .bool c.primaryKey),
    ("unique", .bool c.unique),
    ("autoincrement", .bool c.autoincrement),
    ("references", jsonOfOption Reference.toJson c.references),
    ("check", jsonOfOption .string c.check),
    ("collation", jsonOfOption .string c.collation)]

/-- The fields of a column in their declared order. -/
def fieldNames : List String :=
  ["name", "data_type", "nullable", "default", "primary_key", "unique", "autoincrement",
    "references", "check", "collation"]

/-- The column of a JSON value. -/
def ofJson? (place : Place) (j : Json) : Option Column := do
  match ← j.fields? fieldNames with
  | [name, dataType, nullable, value, primaryKey, unique, autoincrement, references, check,
      collation] =>
    return {
      name := ← required stringOfJson? name
      dataType := ← required (DataType.ofJson? place) dataType
      nullable := ← withDefault true boolOfJson? nullable
      defaultValue := ← optional (DefaultValue.ofJson? place) value
      primaryKey := ← withDefault false boolOfJson? primaryKey
      unique := ← withDefault false boolOfJson? unique
      autoincrement := ← withDefault false boolOfJson? autoincrement
      references := ← optional (Reference.ofJson? place) references
      check := ← optional stringOfJson? check
      collation := ← optional stringOfJson? collation }
  | _ => none

end Column

end SchemaDdl
