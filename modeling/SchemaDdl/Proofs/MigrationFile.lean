import SchemaDdl.Proofs.ColumnCodec
import SchemaDdl.Proofs.JsonText

/-!
# Migration Files Round-Trip

A migration file holds one unit or an array of units, and operations are records with a tag among
their fields. This module shows that the reader of files takes back what the writer wrote, units and
operations of every kind, down to the text of the file.

The one thing that is assumed is that the finite floats in a file read back (`Json.ReadsBack`): the
reader of JSON does not promise that for every float.

* `Operation.ofJson?_toJson`, `MigrationUnit.ofJson?_toJson` — operations and units come back.
* `MigrationUnit.listOfJson?_listToJson`, `MigrationUnit.listOfJson?_toJson` — an array of units
  comes back as these units, and the JSON of one unit as that unit alone.
* `MigrationUnit.FloatsReadBack` — the assumption on the floats.
* `MigrationUnit.parse_compact` — the text of a file comes back, so that writing what a text was
  read as, and reading it again, changes nothing.
-/

namespace SchemaDdl

open Json (Regular ReadsBack)

/-! ### Parts of operations -/

/-- A list of texts comes back. -/
theorem stringsOfJson?_toJson (texts : List String) :
    stringsOfJson? (stringsToJson texts) = some texts :=
  listOfJson?_map fun _ _ => rfl

/-- A list of columns comes back. -/
theorem columnsOfJson?_toJson (columns : List Column) :
    columnsOfJson? (.array (columns.map Column.toJson)) = some columns :=
  listOfJson?_map fun c _ => c.ofJson?_toJson .inOperation

/-- The key of a record comes back. -/
theorem KeySpec.ofJson?_members (key : KeySpec) :
    KeySpec.ofJson? (.object key.members) = some key := by
  have hfields : (Json.object key.members).fields? ["columns", "name"] =
      some [some (stringsToJson key.columns), some (jsonOfOption .string key.name)] :=
    Json.fields?_object (by decide : ["columns", "name"].Nodup)
  rw [ofJson?, hfields]
  simp [withDefault, stringsOfJson?_toJson, optional_string]

/-- The foreign key of a record comes back. -/
theorem ForeignKey.ofJson?_members (key : ForeignKey) :
    ForeignKey.ofJson? (.object key.members) = some key := by
  have hfields : (Json.object key.members).fields?
      ["columns", "name", "references_table", "references_columns", "on_delete", "on_update"] =
        some [some (stringsToJson key.columns), some (jsonOfOption .string key.name),
          some (.string key.referencedTable), some (stringsToJson key.referencedColumns),
          some (jsonOfOption ReferentialAction.toJson key.onDelete),
          some (jsonOfOption ReferentialAction.toJson key.onUpdate)] :=
    Json.fields?_object (by decide : ["columns", "name", "references_table", "references_columns",
      "on_delete", "on_update"].Nodup)
  rw [ofJson?, hfields]
  simp [required, stringOfJson?, stringsOfJson?_toJson, optional_string, optional_action]

/-! ### Operations -/

/-- A tag in front of members that are not tagged is taken off. -/
theorem Json.untag?_object {tag : Json} {members : List (String × Json)}
    (h : ∀ m ∈ members, m.1 ≠ "op") :
    (Json.object (("op", tag) :: members)).untag? = some (tag, .object members) := by
  have hothers : members.filter (fun m => m.1 == "op") = [] :=
    List.filter_eq_nil_iff.mpr fun m hm hop => h m hm (beq_iff_eq.mp hop)
  have hall : members.filter (fun m => m.1 != "op") = members :=
    List.filter_eq_self.mpr fun m hm => bne_iff_ne.mpr (h m hm)
  have htag : Json.member? (("op", tag) :: members) "op" = some (some tag) := by
    rw [member?, List.filter_cons, if_pos (beq_self_eq_true "op"), hothers]
  rw [untag?, htag]
  dsimp only
  rw [List.filter_cons, if_neg (by decide : ¬ ("op" != "op") = true), hall]

/-- The word for a kind stands for it. -/
theorem OperationKind.ofJson?_name (kind : OperationKind) :
    OperationKind.ofJson? (.string kind.name) = some kind := by
  cases kind <;> rfl

namespace Operation

/-- No field of an operation has the name of the tag. -/
theorem key_ne_op (op : Operation) : ∀ m ∈ op.members, m.1 ≠ "op" := by
  cases op <;> simp [members, KeySpec.members, ForeignKey.members]

/-- A record with a single field has it. -/
theorem single?_object (name : String) (j : Json) :
    single? name (.object [(name, j)]) = some (some j) := by
  have hfields : (Json.object [(name, j)]).fields? [name] = some [some j] :=
    Json.fields?_object (by simp : [name].Nodup)
  rw [single?, hfields]
  rfl

/-- A record with two fields has both. -/
theorem pair?_object {first second : String} (h : first ≠ second) (a b : Json) :
    pair? first second (.object [(first, a), (second, b)]) = some (some a, some b) := by
  have hfields : (Json.object [(first, a), (second, b)]).fields? [first, second] =
      some [some a, some b] :=
    Json.fields?_object (by simpa using h : [first, second].Nodup)
  rw [pair?, hfields]
  rfl

/-- **The record of an operation comes back** without its tag. -/
theorem ofRecord?_members (op : Operation) :
    ofRecord? (.object op.members) op.kind = some op := by
  cases op with
  | createTable columns ifNotExists =>
      rw [members, kind, ofRecord?, pair?_object (by decide)]
      simp [required, withDefault, boolOfJson?, columnsOfJson?_toJson]
  | addColumns columns =>
      rw [members, kind, ofRecord?, single?_object]
      simp [required, columnsOfJson?_toJson]
  | dropColumns columns =>
      rw [members, kind, ofRecord?, single?_object]
      simp [required, stringsOfJson?_toJson]
  | renameColumn source target =>
      rw [members, kind, ofRecord?, pair?_object (by decide)]
      simp [required, stringOfJson?]
  | changeColumnType column =>
      rw [members, kind, ofRecord?, single?_object]
      simp [required, Column.ofJson?_toJson]
  | addPrimaryKey key => exact congrArg (Option.map addPrimaryKey) key.ofJson?_members
  | dropPrimaryKey name =>
      rw [members, kind, ofRecord?, single?_object]
      simp [optional_string]
  | addIndex key => exact congrArg (Option.map addIndex) key.ofJson?_members
  | dropIndex key => exact congrArg (Option.map dropIndex) key.ofJson?_members
  | addUnique key => exact congrArg (Option.map addUnique) key.ofJson?_members
  | dropUnique key => exact congrArg (Option.map dropUnique) key.ofJson?_members
  | addForeignKey key => exact congrArg (Option.map addForeignKey) key.ofJson?_members
  | dropForeignKey key => exact congrArg (Option.map dropForeignKey) key.ofJson?_members
  | setComment comment =>
      rw [members, kind, ofRecord?, single?_object]
      simp [optional_string]

/-- **An operation comes back** with all its parts. -/
theorem ofJson?_toJson (op : Operation) : Operation.ofJson? op.toJson = some op := by
  have htag : op.toJson.untag? = some (.string op.kind.name, .object op.members) :=
    Json.untag?_object op.key_ne_op
  rw [ofJson?, htag]
  change (do ofRecord? (.object op.members) (← OperationKind.ofJson? (.string op.kind.name))) = _
  rw [OperationKind.ofJson?_name]
  exact op.ofRecord?_members

end Operation

section Regular

variable {P : Float → Prop} {depth : Nat}

/-- A list of texts is regular. -/
theorem regular_stringsToJson (texts : List String) : Regular P (depth + 1) (stringsToJson texts) :=
  regular_map fun s _ => .string s

/-- A text that may be missing is regular. -/
theorem regular_optionalString (o : Option String) : Regular P depth (jsonOfOption .string o) :=
  regular_jsonOfOption fun s _ => .string s

/-- The members for a key are regular. -/
theorem KeySpec.regular_members (key : KeySpec) : ∀ m ∈ key.members, Regular P (depth + 1) m.2 := by
  rw [members]
  simp only [List.forall_mem_cons]
  exact ⟨regular_stringsToJson _, regular_optionalString _, List.forall_mem_nil _⟩

/-- The members for a foreign key are regular. -/
theorem ForeignKey.regular_members (key : ForeignKey) :
    ∀ m ∈ key.members, Regular P (depth + 1) m.2 := by
  have haction : ∀ o : Option ReferentialAction,
      Regular P (depth + 1) (jsonOfOption ReferentialAction.toJson o) := fun o =>
    regular_jsonOfOption fun _ _ => .string _
  rw [members]
  simp only [List.forall_mem_cons]
  exact ⟨regular_stringsToJson _, regular_optionalString _, .string _, regular_stringsToJson _,
    haction _, haction _, List.forall_mem_nil _⟩

/-- **The JSON of an operation is regular** if its floats have the property. -/
theorem Operation.regular_toJson {op : Operation} (h : ∀ x ∈ op.floats, P x) :
    Regular P (depth + 7) op.toJson := by
  have hcolumn : ∀ c ∈ op.columns, Regular P (depth + 5) c.toJson := fun c hc =>
    Column.regular_toJson fun x hx => h x (List.mem_flatMap.mpr ⟨c, hc, hx⟩)
  have hmembers : ∀ m ∈ op.members, Regular P (depth + 6) m.2 := by
    cases op with
    | createTable columns ifNotExists =>
        exact List.forall_mem_cons.mpr
          ⟨regular_map hcolumn, List.forall_mem_singleton.mpr (.bool _)⟩
    | addColumns columns => exact List.forall_mem_singleton.mpr (regular_map hcolumn)
    | dropColumns columns => exact List.forall_mem_singleton.mpr (regular_stringsToJson columns)
    | renameColumn source target =>
        exact List.forall_mem_cons.mpr ⟨.string _, List.forall_mem_singleton.mpr (.string _)⟩
    | changeColumnType column =>
        have hone := hcolumn column List.mem_cons_self
        exact List.forall_mem_singleton.mpr (hone.mono (Nat.le_succ _))
    | addPrimaryKey key => exact key.regular_members
    | dropPrimaryKey name => exact List.forall_mem_singleton.mpr (regular_optionalString name)
    | addIndex key => exact key.regular_members
    | dropIndex key => exact key.regular_members
    | addUnique key => exact key.regular_members
    | dropUnique key => exact key.regular_members
    | addForeignKey key => exact key.regular_members
    | dropForeignKey key => exact key.regular_members
    | setComment comment => exact List.forall_mem_singleton.mpr (regular_optionalString comment)
  exact .object (List.forall_mem_cons.mpr ⟨.string _, hmembers⟩)

end Regular

/-! ### Units and files -/

namespace MigrationUnit

/-- **A unit comes back** with all its operations. -/
theorem ofJson?_toJson (u : MigrationUnit) : ofJson? u.toJson = some u := by
  have hfields : u.toJson.fields? ["table", "comment", "operations"] =
      some [some (.string u.table), some (jsonOfOption .string u.comment),
        some (.array (u.operations.map Operation.toJson))] :=
    Json.fields?_object (by decide : ["table", "comment", "operations"].Nodup)
  have hoperations := @SchemaDdl.listOfJson?_map _ Operation.ofJson? Operation.toJson u.operations
    fun op _ => op.ofJson?_toJson
  rw [ofJson?, hfields]
  simp [required, stringOfJson?, withDefault, optional_string, hoperations]

/-- The units of a file in JSON. -/
def listToJson (units : List MigrationUnit) : Json :=
  .array (units.map toJson)

/-- **An array of units comes back** as these units. -/
theorem listOfJson?_listToJson (units : List MigrationUnit) :
    listOfJson? (listToJson units) = some units := by
  have hunits := @SchemaDdl.listOfJson?_map _ ofJson? toJson units fun u _ => u.ofJson?_toJson
  rw [listOfJson?, listToJson, hunits]

/-- **One unit comes back** as that unit alone: it is an object, and no list of units. -/
theorem listOfJson?_toJson (u : MigrationUnit) : listOfJson? u.toJson = some [u] := by
  have hlist : SchemaDdl.listOfJson? ofJson? u.toJson = none := rfl
  rw [listOfJson?, hlist]
  dsimp only
  rw [ofJson?_toJson, Option.map_some]

/-- The JSON of a unit is regular if its floats have the property. -/
theorem regular_toJson {P : Float → Prop} {depth : Nat} {u : MigrationUnit}
    (h : ∀ x ∈ u.floats, P x) :
    Regular P (depth + 9) u.toJson := by
  have hoperations : Regular P (depth + 8) (.array (u.operations.map Operation.toJson)) :=
    regular_map fun op hop => Operation.regular_toJson fun x hx =>
      h x (List.mem_flatMap.mpr ⟨op, hop, hx⟩)
  refine .object ?_
  simp only [List.forall_mem_cons]
  exact ⟨.string _, regular_optionalString _, hoperations, List.forall_mem_nil _⟩

/-- What the reader of JSON is taken to promise for a file: the finite floats of its units **read
back**, each on its own. -/
def FloatsReadBack (units : List MigrationUnit) : Prop :=
  ∀ u ∈ units, ∀ x ∈ u.floats, x.isFinite = true → ReadsBack x

/-- The text of a file of units with finite floats is read as these units. -/
theorem parse_compact_listToJson {units : List MigrationUnit}
    (hfinite : ∀ u ∈ units, ∀ x ∈ u.floats, x.isFinite = true) (h : FloatsReadBack units) :
    parse (Json.compact (listToJson units)) = .ok units := by
  have hregular : Regular ReadsBack Json.maxDepth (listToJson units) :=
    regular_map fun u hu => regular_toJson fun x hx => h u hu x hx (hfinite u hu x hx)
  exact Json.decodeText_eq_ok_iff.mpr ⟨_, Json.read_compact hregular, listOfJson?_listToJson units⟩

/-- The text of a unit with finite floats is read as that unit alone. -/
theorem parse_compact_toJson {u : MigrationUnit} (hfinite : ∀ x ∈ u.floats, x.isFinite = true)
    (h : FloatsReadBack [u]) : parse (Json.compact u.toJson) = .ok [u] := by
  have hregular : Regular ReadsBack Json.maxDepth u.toJson :=
    regular_toJson fun x hx => h u (List.mem_singleton_self u) x hx (hfinite x hx)
  exact Json.decodeText_eq_ok_iff.mpr ⟨_, Json.read_compact hregular, listOfJson?_toJson u⟩

/-- **Migration files round-trip**, as far as the reader of JSON takes back the finite floats in
them. The text of a list of units is read as that list, and the text of one unit as that unit alone.
What any text was read as can be written again and is read as the same units: its floats are finite,
because the reader refuses all others. -/
theorem parse_compact :
    (∀ units : List MigrationUnit, (∀ u ∈ units, ∀ x ∈ u.floats, x.isFinite = true) →
      FloatsReadBack units → parse (Json.compact (listToJson units)) = .ok units) ∧
    (∀ u : MigrationUnit, (∀ x ∈ u.floats, x.isFinite = true) →
      FloatsReadBack [u] → parse (Json.compact u.toJson) = .ok [u]) ∧
    ∀ text units, parse text = .ok units →
      FloatsReadBack units → parse (Json.compact (listToJson units)) = .ok units :=
  ⟨fun _ => parse_compact_listToJson, fun _ => parse_compact_toJson,
    fun _ _ hparse => parse_compact_listToJson (isFinite_of_parse hparse)⟩

/-- A unit whose defaults could be taken for one another: no default and the null default, a whole
float and a negative zero, no value and an empty blob. Its floats read back. -/
theorem parse_compact_of_defaults :
    let u : MigrationUnit :=
      { table := "t"
        operations := [.addColumns [
          { name := "a", dataType := .text },
          { name := "b", dataType := .decimal none (some 2), defaultValue := some .null },
          { name := "c", dataType := .double, defaultValue := some (.float 3.0) },
          { name := "d", dataType := .varchar none
            defaultValue := some (.raw "?" [.null, .int (-1), .float (-0.0), .blob []]) }]] }
    FloatsReadBack [u, u] ∧
      parse (Json.compact (listToJson [u, u])) = .ok [u, u] ∧
      parse (Json.compact u.toJson) = .ok [u] := by
  intro u
  have hfinite : ∀ x ∈ u.floats, x.isFinite = true := by
    have hthree : (3.0 : Float).isFinite = true := by decide +kernel
    have hzero : (-0.0 : Float).isFinite = true := by decide +kernel
    exact List.forall_mem_cons.mpr ⟨hthree, List.forall_mem_singleton.mpr hzero⟩
  have hback : ∀ x ∈ u.floats, ReadsBack x := by
    have hthree : ReadsBack 3.0 := by decide +kernel
    have hzero : ReadsBack (-0.0) := by decide +kernel
    exact List.forall_mem_cons.mpr ⟨hthree, List.forall_mem_singleton.mpr hzero⟩
  have hone : FloatsReadBack [u] :=
    List.forall_mem_singleton.mpr fun x hx _ => hback x hx
  have htwo : FloatsReadBack [u, u] :=
    List.forall_mem_cons.mpr ⟨fun x hx _ => hback x hx, hone⟩
  have hunits : ∀ v ∈ [u, u], ∀ x ∈ v.floats, x.isFinite = true :=
    List.forall_mem_cons.mpr ⟨hfinite, List.forall_mem_singleton.mpr hfinite⟩
  have hfile := parse_compact.2.2 _ [u, u] (parse_compact.1 [u, u] hunits htwo) htwo
  exact ⟨htwo, hfile, parse_compact.2.1 u hfinite hone⟩

end MigrationUnit

end SchemaDdl
