import SchemaDdl.Codec.Column
import SchemaDdl.Schema.Operation

/-!
# Operations in JSON

An operation is a record with a tag that tells its kind. In an object the tag is the member `op`,
anywhere among the others; in an array it is the first item. The tag is the name of the kind or its
number in the list of kinds.

## Main definitions

* `OperationKind.ofJson?`: the kind that a tag stands for.
* `Operation.toJson`, `Operation.ofJson?`
-/

namespace SchemaDdl

/-! ### Tags -/

/-- The kind that a tag stands for. -/
def OperationKind.ofJson? : Json → Option OperationKind
  | .string word => ofName? word
  | .int n => if 0 ≤ n then all[n.toNat]? else none
  | _ => none

/-- The tag of an operation, and the record without it. -/
def Json.untag? : Json → Option (Json × Json)
  | .object members =>
    match member? members "op" with
    | some (some tag) => some (tag, .object (members.filter fun m => m.1 != "op"))
    | _ => none
  | .array (tag :: items) => some (tag, .array items)
  | _ => none

/-! ### Parts of operations -/

/-- A list of texts in JSON. -/
def stringsToJson (texts : List String) : Json :=
  .array (texts.map .string)

/-- A list of texts. -/
def stringsOfJson? (j : Json) : Option (List String) :=
  listOfJson? stringOfJson? j

/-- A list of columns. -/
def columnsOfJson? (j : Json) : Option (List Column) :=
  listOfJson? (Column.ofJson? .inOperation) j

/-- The members for a key. -/
def KeySpec.members (key : KeySpec) : List (String × Json) :=
  [("columns", stringsToJson key.columns), ("name", jsonOfOption .string key.name)]

/-- The key of a record. -/
def KeySpec.ofJson? (j : Json) : Option KeySpec := do
  match ← j.fields? ["columns", "name"] with
  | [columns, name] =>
    return {
      columns := ← withDefault [] stringsOfJson? columns
      name := ← optional stringOfJson? name }
  | _ => none

/-- The members for a foreign key. -/
def ForeignKey.members (key : ForeignKey) : List (String × Json) :=
  [("columns", stringsToJson key.columns),
    ("name", jsonOfOption .string key.name),
    ("references_table", .string key.referencedTable),
    ("references_columns", stringsToJson key.referencedColumns),
    ("on_delete", jsonOfOption ReferentialAction.toJson key.onDelete),
    ("on_update", jsonOfOption ReferentialAction.toJson key.onUpdate)]

/-- The foreign key of a record. -/
def ForeignKey.ofJson? (j : Json) : Option ForeignKey := do
  match ← j.fields?
    ["columns", "name", "references_table", "references_columns", "on_delete", "on_update"] with
  | [columns, name, table, referenced, onDelete, onUpdate] =>
    return {
      columns := ← required stringsOfJson? columns
      name := ← optional stringOfJson? name
      referencedTable := ← required stringOfJson? table
      referencedColumns := ← required stringsOfJson? referenced
      onDelete := ← optional (ReferentialAction.ofJson? .inOperation) onDelete
      onUpdate := ← optional (ReferentialAction.ofJson? .inOperation) onUpdate }
  | _ => none

/-! ### Operations -/

namespace Operation

/-- The members of an operation besides its tag. -/
def members : Operation → List (String × Json)
  | createTable columns ifNotExists =>
    [("columns", .array (columns.map Column.toJson)), ("if_not_exists", .bool ifNotExists)]
  | addColumns columns => [("columns", .array (columns.map Column.toJson))]
  | dropColumns columns => [("columns", stringsToJson columns)]
  | renameColumn source target => [("from", .string source), ("to", .string target)]
  | changeColumnType column => [("column", column.toJson)]
  | addPrimaryKey key => key.members
  | dropPrimaryKey name => [("name", jsonOfOption .string name)]
  | addIndex key => key.members
  | dropIndex key => key.members
  | addUnique key => key.members
  | dropUnique key => key.members
  | addForeignKey key => key.members
  | dropForeignKey key => key.members
  | setComment comment => [("comment", jsonOfOption .string comment)]

/-- An operation in JSON, with every field. -/
def toJson (op : Operation) : Json :=
  .object (("op", .string op.kind.name) :: op.members)

/-- A record with a single field. -/
def single? (name : String) (j : Json) : Option (Option Json) := do
  match ← j.fields? [name] with
  | [field] => some field
  | _ => none

/-- A record with two fields. -/
def pair? (first second : String) (j : Json) : Option (Option Json × Option Json) := do
  match ← j.fields? [first, second] with
  | [a, b] => some (a, b)
  | _ => none

/-- The operation of a kind that a record without tag holds. -/
def ofRecord? (record : Json) : OperationKind → Option Operation
  | .createTable => do
    let (columns, ifNotExists) ← pair? "columns" "if_not_exists" record
    return createTable (← required columnsOfJson? columns)
      (← withDefault false boolOfJson? ifNotExists)
  | .addColumns => do return addColumns (← required columnsOfJson? (← single? "columns" record))
  | .dropColumns => do return dropColumns (← required stringsOfJson? (← single? "columns" record))
  | .renameColumn => do
    let (source, target) ← pair? "from" "to" record
    return renameColumn (← required stringOfJson? source) (← required stringOfJson? target)
  | .changeColumnType => do
    return changeColumnType
      (← required (Column.ofJson? .inOperation) (← single? "column" record))
  | .addPrimaryKey => (KeySpec.ofJson? record).map addPrimaryKey
  | .dropPrimaryKey => do return dropPrimaryKey (← optional stringOfJson? (← single? "name" record))
  | .addIndex => (KeySpec.ofJson? record).map addIndex
  | .dropIndex => (KeySpec.ofJson? record).map dropIndex
  | .addUnique => (KeySpec.ofJson? record).map addUnique
  | .dropUnique => (KeySpec.ofJson? record).map dropUnique
  | .addForeignKey => (ForeignKey.ofJson? record).map addForeignKey
  | .dropForeignKey => (KeySpec.ofJson? record).map dropForeignKey
  | .setComment => do return setComment (← optional stringOfJson? (← single? "comment" record))

/-- The operation of a JSON value. -/
def ofJson? (j : Json) : Option Operation := do
  let (tag, record) ← j.untag?
  ofRecord? record (← OperationKind.ofJson? tag)

end Operation

end SchemaDdl
