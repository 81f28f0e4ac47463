import SchemaDdl.Proofs.FileFloats

/-!
# Columns Read Back from JSON

The reader of a column takes back what its writer wrote. The format leaves room for confusion:
null may stand for a missing default or for the null default, a number for an integer or a float, an
array of bytes for a blob, a word for a type without sizes. Each part is shown to come back as
itself, and its JSON to be regular (`Json.Regular`) with whatever property its floats have.

* `Json.fields?_object` — the fields of a record come back in their declared order.
* `optional_jsonOfOption`, `listOfJson?_map` — fields that may be null and lists come back if their
  values do.
* `Value.ofJson?_toJson`, `DataType.ofJson?_toJson`, `DefaultValue.ofJson?_toJson`,
  `Column.ofJson?_toJson` — values, types, defaults and columns come back.
* `Column.regular_toJson` — the JSON of a column is regular.
-/

namespace SchemaDdl

open Json (Regular)

/-! ### Records, fields and lists -/

/-- Reading what was written, one after the other. -/
theorem mapM_map_eq_some {α β γ : Type} {write : α → β} {read : β → Option γ} {f : α → γ}
    {l : List α} (h : ∀ a ∈ l, read (write a) = some (f a)) :
    (l.map write).mapM read = some (l.map f) := by
  rw [mapM_eq_some_iff, List.map_map, List.map_map]
  exact List.map_congr_left h

/-- A member whose key occurs once is the only one with its key. -/
theorem filter_key_eq {members : List (String × Json)} (hnodup : (members.map Prod.fst).Nodup)
    {m : String × Json} (hm : m ∈ members) : members.filter (fun n => n.1 == m.1) = [m] := by
  induction members with
  | nil => cases hm
  | cons n members ih =>
      obtain ⟨hn, hrest⟩ := List.nodup_cons.mp hnodup
      rcases List.mem_cons.mp hm with rfl | hm
      · have hnone : members.filter (fun n => n.1 == m.1) = [] := by
          refine List.filter_eq_nil_iff.mpr fun k hk hkey => hn ?_
          exact beq_iff_eq.mp hkey ▸ List.mem_map_of_mem hk
        rw [List.filter_cons, if_pos (beq_self_eq_true m.1), hnone]
      · have hne : ¬ (n.1 == m.1) = true := fun hkey =>
          hn (beq_iff_eq.mp hkey ▸ List.mem_map_of_mem hm)
        rw [List.filter_cons, if_neg hne, ih hrest hm]

/-- **The fields of a record come back** in their order, if their names are distinct. -/
theorem Json.fields?_object {members : List (String × Json)}
    (hnodup : (members.map Prod.fst).Nodup) :
    (Json.object members).fields? (members.map Prod.fst) =
      some (members.map fun m => some m.2) := by
  refine mapM_map_eq_some fun m hm => ?_
  rw [Json.member?, filter_key_eq hnodup hm]

section Fields

variable {α : Type} {read : Json → Option α} {write : α → Json}

/-- A field that may be null comes back, if null does not stand for anything else. -/
theorem optional_jsonOfOption {o : Option α}
    (h : ∀ a ∈ o, read (write a) = some a ∧ write a ≠ .null) :
    optional read (some (jsonOfOption write o)) = some o := by
  cases o with
  | none => rfl
  | some a =>
      obtain ⟨hread, hnull⟩ := h a rfl
      rw [jsonOfOption, optional.eq_def]
      split
      · next heq => cases heq
      · next heq => exact absurd (Option.some.inj heq) hnull
      · next heq =>
          obtain rfl := Option.some.inj heq
          rw [hread, Option.map_some]

/-- A list comes back if its items do. -/
theorem listOfJson?_map {l : List α} (h : ∀ a ∈ l, read (write a) = some a) :
    listOfJson? read (.array (l.map write)) = some l := by
  rw [listOfJson?, mapM_map_eq_some h, List.map_id']

end Fields

/-! ### Integers -/

/-- An integer below a bound comes back. -/
theorem natOfJson?_int {bound n : Nat} (h : n < bound) :
    natOfJson? bound (.int n) = some n := by
  simp [natOfJson?, h]

/-- A byte comes back. -/
theorem byteOfJson?_int (b : UInt8) : byteOfJson? (.int b.toNat) = some b := by
  rw [byteOfJson?, natOfJson?_int b.toNat_lt, Option.map_some, UInt8.ofNat_toNat]

/-- An unsigned integer of 16 bits comes back. -/
theorem uint16OfJson?_int (n : UInt16) : uint16OfJson? (.int n.toNat) = some n := by
  rw [uint16OfJson?, natOfJson?_int n.toNat_lt, Option.map_some, UInt16.ofNat_toNat]

/-- An unsigned integer of 32 bits comes back. -/
theorem uint32OfJson?_int (n : UInt32) : uint32OfJson? (.int n.toNat) = some n := by
  rw [uint32OfJson?, natOfJson?_int n.toNat_lt, Option.map_some, UInt32.ofNat_toNat]

/-- A signed integer of 64 bits comes back. -/
theorem int64OfJson?_int (n : Int64) : int64OfJson? (.int n.toInt) = some n := by
  have hlower : Int64.minValue.toInt ≤ n.toInt := n.minValue_le_toInt
  have hupper : n.toInt ≤ Int64.maxValue.toInt := n.toInt_le
  rw [int64OfJson?, decide_eq_true hlower, decide_eq_true hupper, Int64.ofInt_toInt]
  rfl

/-! ### Values -/

/-- **A value comes back** as itself: no integer turns into a float, and no blob into a text. -/
theorem Value.ofJson?_toJson (v : Value) : Value.ofJson? v.toJson = some v := by
  cases v with
  | null => rfl
  | bool b => rfl
  | int n => rw [toJson, ofJson?, int64OfJson?_int]
  | float x => rfl
  | text s => rfl
  | blob bytes =>
      rw [toJson, ofJson?, mapM_map_eq_some fun b _ => byteOfJson?_int b, List.map_id',
        Option.map_some]

/-! ### Types -/

/-- The sizes of a type of exact numbers come back. -/
theorem DataType.sizesOfJson?_sizes (precision scale : Option UInt16) :
    sizesOfJson? (.object [
      ("precision", jsonOfOption (fun p => .int p.toNat) precision),
      ("scale", jsonOfOption (fun s => .int s.toNat) scale)]) = some (precision, scale) := by
  have hsize : ∀ o : Option UInt16,
      optional uint16OfJson? (some (jsonOfOption (fun p => .int p.toNat) o)) = some o := fun o =>
    optional_jsonOfOption fun n _ => ⟨uint16OfJson?_int n, nofun⟩
  change (do return (← optional uint16OfJson? (some _), ← optional uint16OfJson? (some _))) = _
  rw [hsize, hsize]
  rfl

/-- The length of a type comes back. -/
theorem DataType.lengthOfJson?_length (length : Option UInt32) :
    lengthOfJson? (jsonOfOption (fun n => .int n.toNat) length) = some length :=
  optional_jsonOfOption fun n _ => ⟨uint32OfJson?_int n, nofun⟩

/-- **A type comes back** with its sizes, wherever it stands. -/
theorem DataType.ofJson?_toJson (place : Place) (t : DataType) :
    DataType.ofJson? place t.toJson = some t := by
  cases t with
  | decimal p s => exact congrArg (Option.map _) (sizesOfJson?_sizes p s)
  | numeric p s => exact congrArg (Option.map _) (sizesOfJson?_sizes p s)
  | char n => exact congrArg (Option.map char) (lengthOfJson?_length n)
  | varchar n => exact congrArg (Option.map varchar) (lengthOfJson?_length n)
  | binary n => exact congrArg (Option.map binary) (lengthOfJson?_length n)
  | varbinary n => exact congrArg (Option.map varbinary) (lengthOfJson?_length n)
  | custom sql => rfl
  | smallint => rfl
  | integer => rfl
  | bigint => rfl
  | real => rfl
  | double => rfl
  | text => rfl
  | blob => rfl
  | date => rfl
  | time => rfl
  | timestamp => rfl
  | datetime => rfl
  | boolean => rfl

/-! ### References -/

/-- An action comes back, wherever it stands. -/
theorem ReferentialAction.ofJson?_toJson (place : Place) (a : ReferentialAction) :
    ReferentialAction.ofJson? place a.toJson = some a := by
  cases a <;> rfl

/-- A text that may be missing comes back. -/
theorem optional_string (o : Option String) :
    optional stringOfJson? (some (jsonOfOption .string o)) = some o :=
  optional_jsonOfOption fun _ _ => ⟨rfl, nofun⟩

/-- An action that may be missing comes back. -/
theorem optional_action (place : Place) (o : Option ReferentialAction) :
    optional (ReferentialAction.ofJson? place) (some (jsonOfOption ReferentialAction.toJson o)) =
      some o :=
  optional_jsonOfOption fun a _ => ⟨ReferentialAction.ofJson?_toJson place a, nofun⟩

/-- **A reference comes back**, wherever it stands. -/
theorem Reference.ofJson?_toJson (place : Place) (r : Reference) :
    Reference.ofJson? place r.toJson = some r := by
  have hfields : r.toJson.fields? ["table", "column", "on_delete", "on_update"] =
      some [some (.string r.table), some (.string r.column),
        some (jsonOfOption ReferentialAction.toJson r.onDelete),
        some (jsonOfOption ReferentialAction.toJson r.onUpdate)] :=
    Json.fields?_object (by decide : ["table", "column", "on_delete", "on_update"].Nodup)
  rw [ofJson?, hfields]
  simp [required, stringOfJson?, optional_action]

/-! ### Defaults -/

/-- **A default comes back** as itself, wherever it stands: null is a default of its own, and a
number keeps its kind. -/
theorem DefaultValue.ofJson?_toJson (place : Place) (v : DefaultValue) :
    DefaultValue.ofJson? place v.toJson = some v := by
  cases v with
  | null => rfl
  | boolean b => rfl
  | integer n => exact congrArg (Option.map integer) (int64OfJson?_int n)
  | float x => rfl
  | string s => rfl
  | expression sql => rfl
  | raw sql bindings =>
      have hfields : (Json.object [("sql", .string sql),
          ("bindings", .array (bindings.map Value.toJson))]).fields? ["sql", "bindings"] =
            some [some (.string sql), some (.array (bindings.map Value.toJson))] :=
        Json.fields?_object (by decide : ["sql", "bindings"].Nodup)
      have hbindings := @listOfJson?_map _ Value.ofJson? Value.toJson bindings
        fun v _ => v.ofJson?_toJson
      change rawOfJson? (.object [("sql", .string sql),
        ("bindings", .array (bindings.map Value.toJson))]) = some (raw sql bindings)
      rw [rawOfJson?, hfields]
      simp [required, stringOfJson?, withDefault, hbindings]

/-- No default is written as null, which stands for a missing one. -/
theorem DefaultValue.toJson_ne_null (v : DefaultValue) : v.toJson ≠ .null := by
  cases v <;> exact nofun

/-! ### Columns -/

/-- **A column comes back** with all its attributes, wherever it stands. -/
theorem Column.ofJson?_toJson (place : Place) (c : Column) :
    Column.ofJson? place c.toJson = some c := by
  have hfields : c.toJson.fields? fieldNames = some [
      some (.string c.name),
      some c.dataType.toJson,
      some (.bool c.nullable),
      some (jsonOfOption DefaultValue.toJson c.defaultValue),
      some (.bool c.primaryKey),
      some (.bool c.unique),
      some (.bool c.autoincrement),
      some (jsonOfOption Reference.toJson c.references),
      some (jsonOfOption .string c.check),
      some (jsonOfOption .string c.collation)] :=
    Json.fields?_object (by decide : fieldNames.Nodup)
  have hdefault := @optional_jsonOfOption _ (DefaultValue.ofJson? place) DefaultValue.toJson
    c.defaultValue fun v _ => ⟨v.ofJson?_toJson place, v.toJson_ne_null⟩
  have hreferences := @optional_jsonOfOption _ (Reference.ofJson? place) Reference.toJson
    c.references fun r _ => ⟨r.ofJson?_toJson place, nofun⟩
  rw [ofJson?, hfields]
  simp [required, stringOfJson?, boolOfJson?, withDefault, DataType.ofJson?_toJson, hdefault,
    hreferences, optional_string]

/-! ### Regular JSON -/

section Regular

variable {P : Float → Prop} {depth : Nat}

/-- What may be missing is regular if it is so when it is there. -/
theorem regular_jsonOfOption {α : Type} {write : α → Json} {o : Option α}
    (h : ∀ a ∈ o, Regular P depth (write a)) : Regular P depth (jsonOfOption write o) := by
  cases o with
  | none => exact .null
  | some a => exact h a rfl

/-- A list is regular if its items are. -/
theorem regular_map {α : Type} {write : α → Json} {l : List α}
    (h : ∀ a ∈ l, Regular P depth (write a)) : Regular P (depth + 1) (.array (l.map write)) :=
  .array (List.forall_mem_map.mpr h)

/-- Natural numbers of 32 bits are regular. -/
theorem regular_nat {n : Nat} (h : n < 2 ^ 32) : Regular P depth (.int n) :=
  .int (by omega) (by omega)

/-- The JSON of a value is regular if its float has the property. -/
theorem Value.regular_toJson {v : Value} (h : ∀ x ∈ v.floats, P x) :
    Regular P (depth + 1) v.toJson := by
  cases v with
  | null => exact .null
  | bool b => exact .bool b
  | int n => exact .int n.le_toInt (Int.lt_trans n.toInt_lt (by decide))
  | float x => exact .float (h x List.mem_cons_self)
  | text s => exact .string s
  | blob bytes =>
      exact regular_map fun b _ => regular_nat (Nat.lt_trans b.toNat_lt (by decide))

/-- The JSON of a type is regular. -/
theorem DataType.regular_toJson (t : DataType) : Regular P (depth + 2) t.toJson := by
  have hlength : ∀ (name : String) (length : Option UInt32),
      Regular P (depth + 2) (lengthToJson name length) := by
    intro name length
    refine .object (List.forall_mem_singleton.mpr (regular_jsonOfOption fun n _ => ?_))
    exact regular_nat n.toNat_lt
  have hsize : ∀ size : Option UInt16,
      Regular P depth (jsonOfOption (fun p => .int p.toNat) size) := fun size =>
    regular_jsonOfOption fun n _ => regular_nat (Nat.lt_trans n.toNat_lt (by decide))
  have hsizes : ∀ (name : String) (precision scale : Option UInt16),
      Regular P (depth + 2) (sizesToJson name precision scale) := by
    intro name precision scale
    refine .object (List.forall_mem_singleton.mpr (.object ?_))
    exact List.forall_mem_cons.mpr ⟨hsize _, List.forall_mem_singleton.mpr (hsize _)⟩
  cases t with
  | decimal p s => exact hsizes "decimal" p s
  | numeric p s => exact hsizes "numeric" p s
  | char n => exact hlength "char" n
  | varchar n => exact hlength "varchar" n
  | binary n => exact hlength "binary" n
  | varbinary n => exact hlength "varbinary" n
  | custom sql => exact .object (List.forall_mem_singleton.mpr (.string sql))
  | _ => exact .string _

/-- The JSON of a reference is regular. -/
theorem Reference.regular_toJson (r : Reference) : Regular P (depth + 1) r.toJson := by
  have haction : ∀ o : Option ReferentialAction,
      Regular P depth (jsonOfOption ReferentialAction.toJson o) := fun o =>
    regular_jsonOfOption fun _ _ => .string _
  refine .object ?_
  simp only [List.forall_mem_cons]
  exact ⟨.string _, .string _, haction _, haction _, List.forall_mem_nil _⟩

/-- The JSON of a default is regular if its floats have the property. -/
theorem DefaultValue.regular_toJson {v : DefaultValue} (h : ∀ x ∈ v.floats, P x) :
    Regular P (depth + 4) v.toJson := by
  cases v with
  | null => exact .string _
  | boolean b => exact .object (List.forall_mem_singleton.mpr (.bool b))
  | integer n =>
      have hint : Regular P (depth + 3) (.int n.toInt) :=
        .int n.le_toInt (Int.lt_trans n.toInt_lt (by decide))
      exact .object (List.forall_mem_singleton.mpr hint)
  | float x => exact .object (List.forall_mem_singleton.mpr (.float (h x List.mem_cons_self)))
  | string s => exact .object (List.forall_mem_singleton.mpr (.string s))
  | expression sql => exact .object (List.forall_mem_singleton.mpr (.string sql))
  | raw sql bindings =>
      have hbindings : Regular P (depth + 2) (.array (bindings.map Value.toJson)) :=
        regular_map fun v hv => Value.regular_toJson fun x hx =>
          h x (List.mem_flatMap.mpr ⟨v, hv, hx⟩)
      refine .object (List.forall_mem_singleton.mpr (.object ?_))
      exact List.forall_mem_cons.mpr ⟨.string sql, List.forall_mem_singleton.mpr hbindings⟩

/-- **The JSON of a column is regular** if its floats have the property. -/
theorem Column.regular_toJson {c : Column} (h : ∀ x ∈ c.floats, P x) :
    Regular P (depth + 5) c.toJson := by
  have htext : ∀ o : Option String, Regular P (depth + 4) (jsonOfOption .string o) := fun o =>
    regular_jsonOfOption fun s _ => .string s
  have hdefault : Regular P (depth + 4) (jsonOfOption DefaultValue.toJson c.defaultValue) :=
    regular_jsonOfOption fun v hv => DefaultValue.regular_toJson fun x hx =>
      h x (List.mem_flatMap.mpr ⟨v, Option.mem_toList.mpr hv, hx⟩)
  have hreferences : Regular P (depth + 4) (jsonOfOption Reference.toJson c.references) :=
    regular_jsonOfOption fun r _ => r.regular_toJson
  refine .object ?_
  simp only [List.forall_mem_cons]
  exact ⟨.string _, c.dataType.regular_toJson, .bool _, hdefault, .bool _, .bool _, .bool _,
    hreferences, htext _, htext _, List.forall_mem_nil _⟩

end Regular

end SchemaDdl
