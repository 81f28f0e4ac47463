import Mathlib.Logic.Relation
import SchemaDdl.Codec.MigrationUnit
import SchemaDdl.Proofs.JsonText
import SchemaDdl.Proofs.RecordLayout

/-!
# The Layout of Migration Files

The records of a migration file are units, operations, columns, references, raw defaults and the
sizes of exact numbers. This module lists their fields with what a missing field stands for, and
follows an edit of any one of them up to the units that the file holds.

Two places need care. Which fields an operation has depends on its tag, which is itself a member of
the record; an edit may move it but not touch it. And an array can be a list of units or a single
unit, so that an edit must not make one out of the other: a file that begins like a unit is edited
as one (`MigrationUnit.Alone`), and any other as a list.

* `Reference.fields`, `DataType.Edit`, `DefaultValue.Edit`, `Column.fields`,
  `OperationKind.fields`, `Operation.Edit`, `MigrationUnit.fields` — the edits of each part.
* `Column.carries_of_edit`, `Operation.carries_of_edit`, `MigrationUnit.carries_of_edit` — no edit
  of a part is noticed by the reader of the part.
* `RecordEdit.untag` — an edit of a tagged record leaves its tag and edits the rest.
* `MigrationUnit.FileEdit.carries` — no edit of a file is noticed by the reader of files.
* `MigrationUnit.layout_irrelevant` — any number of edits changes nothing in what a file is read
  as, value by value and text by text.
-/

namespace SchemaDdl

/-! ### The parts of a column -/

/-- The fields of a reference. -/
def Reference.fields : List RecordField :=
  [{ name := "table" },
    { name := "column" },
    { name := "on_delete", absent := some .null },
    { name := "on_update", absent := some .null }]

/-- The sizes of a type of exact numbers. -/
def DataType.sizeFields : List RecordField :=
  [{ name := "precision", absent := some .null },
    { name := "scale", absent := some .null }]

/-- One edit of a type. -/
inductive DataType.Edit : Json → Json → Prop
  /-- The sizes of a type of exact numbers are edited. -/
  | sizes {name : String} {content content' : Json} (hname : name = "decimal" ∨ name = "numeric")
      (h : RecordEdit sizeFields content content') :
      DataType.Edit (.object [(name, content)]) (.object [(name, content')])

/-- The fields of a raw default. -/
def DefaultValue.rawFields : List RecordField :=
  [{ name := "sql" },
    { name := "bindings", absent := some (.array []) }]

/-- One edit of a default. -/
inductive DefaultValue.Edit : Json → Json → Prop
  /-- A raw default is edited. -/
  | raw {content content' : Json} (h : RecordEdit rawFields content content') :
      DefaultValue.Edit (.object [("raw", content)]) (.object [("raw", content')])

/-- An edit of a reference is not noticed. -/
theorem Reference.carries_of_edit (place : Place) {j j' : Json} (h : RecordEdit fields j j') :
    Carries (ofJson? place j) (ofJson? place j') := by
  rw [ofJson?, ofJson?]
  refine h.carries (by decide) fun vs vs' hturn => ?_
  rw [fields] at hturn
  obtain _ | ⟨htable, _ | ⟨hcolumn, _ | ⟨honDelete, _ | ⟨honUpdate, ⟨⟩⟩⟩⟩⟩ := hturn
  exact (htable.required rfl nofun).bind fun _ =>
    (hcolumn.required rfl nofun).bind fun _ =>
    (honDelete.optional rfl nofun).bind fun _ =>
    (honUpdate.optional rfl nofun).bind fun _ => .refl _

/-- An edit of the sizes of a type is not noticed. As an array they have no edits. -/
theorem DataType.sizes_carries {j j' : Json} (h : RecordEdit sizeFields j j') :
    Carries (sizesOfJson? j) (sizesOfJson? j') := by
  cases j with
  | object members =>
      -- The reader asks for the two keys itself, so the edit is followed key by key.
      obtain ⟨members', rfl, hturns⟩ := h.member_turns (by decide)
      obtain ⟨hprecision, hrest⟩ := List.forall_mem_cons.mp hturns
      have hscale := hrest _ List.mem_cons_self
      rw [sizesOfJson?, sizesOfJson?]
      intro sizes hsizes
      obtain ⟨precision, hp, hsizes⟩ := Option.bind_eq_some_iff.mp hsizes
      obtain ⟨scale, hs, hsizes⟩ := Option.bind_eq_some_iff.mp hsizes
      obtain ⟨precision', hp', hprecision⟩ := hprecision precision hp
      obtain ⟨scale', hs', hscale⟩ := hscale scale hs
      refine Option.bind_eq_some_iff.mpr ⟨precision', hp',
        Option.bind_eq_some_iff.mpr ⟨scale', hs', ?_⟩⟩
      exact (hprecision.optional rfl nofun).bind (fun _ =>
        (hscale.optional rfl nofun).bind fun _ => .refl _) sizes hsizes
  | array items =>
      cases h with
      | @item a b f value value' hf hedit =>
          have hnone : ∀ f ∈ sizeFields, ¬ f.Edit value value' := by
            simp [sizeFields]
          exact absurd hedit (hnone f (List.mem_of_getElem? hf))
  | _ => cases h

/-- An edit of a type is not noticed. -/
theorem DataType.carries_of_edit (place : Place) {j j' : Json} (h : DataType.Edit j j') :
    Carries (ofJson? place j) (ofJson? place j') := by
  obtain ⟨rfl | rfl, h⟩ := h
  · exact (sizes_carries h).map _
  · exact (sizes_carries h).map _

/-- An edit of a default is not noticed. -/
theorem DefaultValue.carries_of_edit (place : Place) {j j' : Json} (h : DefaultValue.Edit j j') :
    Carries (ofJson? place j) (ofJson? place j') := by
  obtain ⟨h⟩ := h
  change Carries (rawOfJson? _) (rawOfJson? _)
  rw [rawOfJson?, rawOfJson?]
  refine h.carries (by decide) fun vs vs' hturn => ?_
  rw [rawFields] at hturn
  obtain _ | ⟨hsql, _ | ⟨hbindings, ⟨⟩⟩⟩ := hturn
  exact (hsql.required rfl nofun).bind fun _ =>
    (hbindings.withDefault rfl (by rfl) nofun).bind fun _ => .refl _

/-! ### Columns -/

/-- The fields of a column. -/
def Column.fields : List RecordField :=
  [{ name := "name" },
    { name := "data_type", Edit := DataType.Edit },
    { name := "nullable", absent := some (.bool true) },
    { name := "default", absent := some .null, Edit := DefaultValue.Edit },
    { name := "primary_key", absent := some (.bool false) },
    { name := "unique", absent := some (.bool false) },
    { name := "autoincrement", absent := some (.bool false) },
    { name := "references", absent := some .null, Edit := RecordEdit Reference.fields },
    { name := "check", absent := some .null },
    { name := "collation", absent := some .null }]

/-- A record that can be edited is not null, and neither is the edited one. -/
theorem RecordEdit.ne_null {fields : List RecordField} {j j' : Json} (h : RecordEdit fields j j') :
    j ≠ .null ∧ j' ≠ .null := by
  cases h <;> exact ⟨nofun, nofun⟩

/-- An edit of a column is not noticed. -/
theorem Column.carries_of_edit (place : Place) {j j' : Json} (h : RecordEdit fields j j') :
    Carries (ofJson? place j) (ofJson? place j') := by
  have hdefault : ∀ value value', DefaultValue.Edit value value' → value ≠ .null ∧
      value' ≠ .null ∧ Carries (DefaultValue.ofJson? place value)
        (DefaultValue.ofJson? place value') := by
    intro value value' h
    refine ⟨?_, ?_, DefaultValue.carries_of_edit place h⟩ <;> cases h <;> exact nofun
  have hreference : ∀ value value', RecordEdit Reference.fields value value' → value ≠ .null ∧
      value' ≠ .null ∧ Carries (Reference.ofJson? place value) (Reference.ofJson? place value') :=
    fun value value' h => ⟨h.ne_null.1, h.ne_null.2, Reference.carries_of_edit place h⟩
  rw [ofJson?, ofJson?]
  refine h.carries (by decide) fun vs vs' hturn => ?_
  rw [fields] at hturn
  obtain _ | ⟨hname, _ | ⟨htype, _ | ⟨hnullable, _ | ⟨hvalue, _ | ⟨hprimaryKey, _ | ⟨hunique,
    _ | ⟨hautoincrement, _ | ⟨hreferences, _ | ⟨hcheck, _ | ⟨hcollation, ⟨⟩⟩⟩⟩⟩⟩⟩⟩⟩⟩⟩ := hturn
  exact (hname.required rfl nofun).bind fun _ =>
    (htype.required rfl fun _ _ => DataType.carries_of_edit place).bind fun _ =>
    (hnullable.withDefault rfl (by rfl) nofun).bind fun _ =>
    (hvalue.optional rfl hdefault).bind fun _ =>
    (hprimaryKey.withDefault rfl (by rfl) nofun).bind fun _ =>
    (hunique.withDefault rfl (by rfl) nofun).bind fun _ =>
    (hautoincrement.withDefault rfl (by rfl) nofun).bind fun _ =>
    (hreferences.optional rfl hreference).bind fun _ =>
    (hcheck.optional rfl nofun).bind fun _ =>
    (hcollation.optional rfl nofun).bind fun _ => .refl _

/-! ### Operations -/

/-- The fields of a key. -/
def KeySpec.fields : List RecordField :=
  [{ name := "columns", absent := some (.array []) },
    { name := "name", absent := some .null }]

/-- The fields of a foreign key. -/
def ForeignKey.fields : List RecordField :=
  [{ name := "columns" },
    { name := "name", absent := some .null },
    { name := "references_table" },
    { name := "references_columns" },
    { name := "on_delete", absent := some .null },
    { name := "on_update", absent := some .null }]

/-- The fields of an operation of a kind, besides its tag. -/
def OperationKind.fields : OperationKind → List RecordField
  | createTable =>
    [{ name := "columns", Edit := ListEdit (RecordEdit Column.fields) },
      { name := "if_not_exists", absent := some (.bool false) }]
  | addColumns => [{ name := "columns", Edit := ListEdit (RecordEdit Column.fields) }]
  | dropColumns => [{ name := "columns" }]
  | renameColumn => [{ name := "from" }, { name := "to" }]
  | changeColumnType => [{ name := "column", Edit := RecordEdit Column.fields }]
  | addPrimaryKey | addIndex | dropIndex | addUnique | dropUnique | dropForeignKey => KeySpec.fields
  | dropPrimaryKey => [{ name := "name", absent := some .null }]
  | addForeignKey => ForeignKey.fields
  | setComment => [{ name := "comment", absent := some .null }]

/-- The tag of an operation. It is never missing and never edited. -/
def Operation.tagField : RecordField :=
  { name := "op" }

/-- One edit of an operation: of the record of its tag and the fields that its kind has. -/
def Operation.Edit (j j' : Json) : Prop :=
  ∃ tag record kind, j.untag? = some (tag, record) ∧ OperationKind.ofJson? tag = some kind ∧
    RecordEdit (tagField :: kind.fields) j j'

/-- An edit of a key is not noticed. -/
theorem KeySpec.carries_of_edit {j j' : Json} (h : RecordEdit fields j j') :
    Carries (ofJson? j) (ofJson? j') := by
  rw [ofJson?, ofJson?]
  refine h.carries (by decide) fun vs vs' hturn => ?_
  rw [fields] at hturn
  obtain _ | ⟨hcolumns, _ | ⟨hname, ⟨⟩⟩⟩ := hturn
  exact (hcolumns.withDefault rfl (by rfl) nofun).bind fun _ =>
    (hname.optional rfl nofun).bind fun _ => .refl _

/-- An edit of a foreign key is not noticed. -/
theorem ForeignKey.carries_of_edit {j j' : Json} (h : RecordEdit fields j j') :
    Carries (ofJson? j) (ofJson? j') := by
  rw [ofJson?, ofJson?]
  refine h.carries (by decide) fun vs vs' hturn => ?_
  rw [fields] at hturn
  obtain _ | ⟨hcolumns, _ | ⟨hname, _ | ⟨htable, _ | ⟨hreferenced, _ | ⟨honDelete,
    _ | ⟨honUpdate, ⟨⟩⟩⟩⟩⟩⟩⟩ := hturn
  exact (hcolumns.required rfl nofun).bind fun _ =>
    (hname.optional rfl nofun).bind fun _ =>
    (htable.required rfl nofun).bind fun _ =>
    (hreferenced.required rfl nofun).bind fun _ =>
    (honDelete.optional rfl nofun).bind fun _ =>
    (honUpdate.optional rfl nofun).bind fun _ => .refl _

/-- An edit of a list of columns is not noticed. -/
theorem columns_carries {j j' : Json} (h : ListEdit (RecordEdit Column.fields) j j') :
    Carries (columnsOfJson? j) (columnsOfJson? j') := by
  rw [columnsOfJson?, columnsOfJson?]
  exact h.carries fun _ _ hcolumn => Column.carries_of_edit .inOperation hcolumn

namespace Operation

variable {α : Type}

/-- A reader of a record with a single field that bears what happens to it does not notice an edit
of the record. -/
theorem single_carries {f : RecordField} {name : String} {read : Option Json → Option α}
    {j j' : Json} (h : RecordEdit [f] j j') (hname : f.name = name)
    (hread : ∀ v v', f.Turns v v' → Carries (read v) (read v')) :
    Carries (single? name j >>= read) (single? name j' >>= read) := by
  subst hname
  rw [single?, single?, bind_assoc, bind_assoc]
  refine h.carries (by simp) fun vs vs' hturn => ?_
  obtain _ | ⟨hf, ⟨⟩⟩ := hturn
  exact hread _ _ hf

/-- A reader of a record with two fields that bears what happens to them does not notice an edit of
the record. -/
theorem pair_carries {f g : RecordField} {first second : String}
    {read : Option Json × Option Json → Option α} {j j' : Json} (h : RecordEdit [f, g] j j')
    (hfirst : f.name = first) (hsecond : g.name = second) (hne : first ≠ second)
    (hread : ∀ v v' w w', f.Turns v v' → g.Turns w w' → Carries (read (v, w)) (read (v', w'))) :
    Carries (pair? first second j >>= read) (pair? first second j' >>= read) := by
  subst hfirst hsecond
  rw [pair?, pair?, bind_assoc, bind_assoc]
  refine h.carries (by simpa using hne) fun vs vs' hturn => ?_
  obtain _ | ⟨hf, _ | ⟨hg, ⟨⟩⟩⟩ := hturn
  exact hread _ _ _ _ hf hg

/-- **An edit of the record of an operation is not noticed**, whatever the kind. -/
theorem record_carries {kind : OperationKind} {j j' : Json} (h : RecordEdit kind.fields j j') :
    Carries (ofRecord? j kind) (ofRecord? j' kind) := by
  cases kind with
  | createTable =>
      rw [ofRecord?, ofRecord?]
      exact pair_carries h rfl rfl (by decide) fun _ _ _ _ hcolumns hifNotExists =>
        (hcolumns.required rfl fun _ _ => columns_carries).bind fun _ =>
          (hifNotExists.withDefault rfl (by rfl) nofun).bind fun _ => .refl _
  | addColumns =>
      rw [ofRecord?, ofRecord?]
      exact single_carries h rfl fun _ _ hcolumns =>
        (hcolumns.required rfl fun _ _ => columns_carries).bind fun _ => .refl _
  | dropColumns =>
      rw [ofRecord?, ofRecord?]
      exact single_carries h rfl fun _ _ hcolumns =>
        (hcolumns.required rfl nofun).bind fun _ => .refl _
  | renameColumn =>
      rw [ofRecord?, ofRecord?]
      exact pair_carries h rfl rfl (by decide) fun _ _ _ _ hsource htarget =>
        (hsource.required rfl nofun).bind fun _ =>
          (htarget.required rfl nofun).bind fun _ => .refl _
  | changeColumnType =>
      rw [ofRecord?, ofRecord?]
      exact single_carries h rfl fun _ _ hcolumn =>
        (hcolumn.required rfl fun _ _ => Column.carries_of_edit .inOperation).bind fun _ => .refl _
  | dropPrimaryKey =>
      rw [ofRecord?, ofRecord?]
      exact single_carries h rfl fun _ _ hname =>
        (hname.optional rfl nofun).bind fun _ => .refl _
  | setComment =>
      rw [ofRecord?, ofRecord?]
      exact single_carries h rfl fun _ _ hcomment =>
        (hcomment.optional rfl nofun).bind fun _ => .refl _
  | addForeignKey => exact (ForeignKey.carries_of_edit h).map addForeignKey
  | addPrimaryKey => exact (KeySpec.carries_of_edit h).map addPrimaryKey
  | addIndex => exact (KeySpec.carries_of_edit h).map addIndex
  | dropIndex => exact (KeySpec.carries_of_edit h).map dropIndex
  | addUnique => exact (KeySpec.carries_of_edit h).map addUnique
  | dropUnique => exact (KeySpec.carries_of_edit h).map dropUnique
  | dropForeignKey => exact (KeySpec.carries_of_edit h).map dropForeignKey

end Operation

/-! ### Tags -/

/-- The members that are not the tag. -/
def untagged (members : List (String × Json)) : List (String × Json) :=
  members.filter fun m => m.1 != "op"

/-- The tag of an object is its one member `op`, and the rest of the object is its record. -/
theorem Json.untag?_object_iff {members : List (String × Json)} {tag record : Json} :
    (Json.object members).untag? = some (tag, record) ↔
      Json.member? members "op" = some (some tag) ∧ record = .object (untagged members) := by
  rw [untag?]
  constructor
  · intro h
    split at h
    · next htag =>
        cases h
        exact ⟨htag, rfl⟩
    · cases h
  · rintro ⟨htag, rfl⟩
    rw [htag]
    rfl

theorem untagged_append (a b : List (String × Json)) :
    untagged (a ++ b) = untagged a ++ untagged b :=
  List.filter_append a b

/-- A member that is not the tag stays where it is when the tag is taken off. -/
theorem untagged_middle {a b : List (String × Json)} {key : String} {value : Json}
    (h : key ≠ "op") :
    untagged (a ++ (key, value) :: b) = untagged a ++ (key, value) :: untagged b := by
  rw [untagged_append]
  exact congrArg _ (List.filter_cons_of_pos (bne_iff_ne.mpr h))

/-- **An edit of a tagged record** leaves the tag and edits the rest. -/
theorem RecordEdit.untag {fields : List RecordField} (hop : "op" ∉ fields.map RecordField.name)
    {j j' tag record : Json} (h : RecordEdit (Operation.tagField :: fields) j j')
    (huntag : j.untag? = some (tag, record)) :
    ∃ record', j'.untag? = some (tag, record') ∧ RecordEdit fields record record' := by
  -- The tag is never missing and has no edits, so an edit of a field is one of another field.
  have hfield : ∀ f ∈ Operation.tagField :: fields, f ≠ Operation.tagField →
      f ∈ fields ∧ f.name ≠ "op" := by
    intro f hf hne
    have hf : f ∈ fields := (List.mem_cons.mp hf).resolve_left hne
    exact ⟨hf, fun hname => hop (hname ▸ List.mem_map_of_mem hf)⟩
  have habsent : ∀ (f : RecordField) value, f.absent = some value → f ≠ Operation.tagField := by
    rintro f value h rfl
    cases h
  have hedit : ∀ (f : RecordField) value value', f.Edit value value' → f ≠ Operation.tagField := by
    rintro f value value' h rfl
    exact h
  cases h with
  | permute h =>
      obtain ⟨htag, rfl⟩ := Json.untag?_object_iff.mp huntag
      refine ⟨_, Json.untag?_object_iff.mpr ⟨?_, rfl⟩, .permute (h.filter _)⟩
      rw [← Json.member?_perm h, htag]
  | @insert a b key value h =>
      obtain ⟨htag, rfl⟩ := Json.untag?_object_iff.mp huntag
      have hne : key ≠ "op" := fun hkey => h (hkey ▸ List.mem_cons_self)
      refine ⟨_, Json.untag?_object_iff.mpr ⟨?_, rfl⟩, ?_⟩
      · rw [Json.member?_middle hne, htag]
      · rw [untagged_middle hne, untagged_append]
        exact .insert fun hkey => h (List.mem_cons_of_mem _ hkey)
  | remove hf h =>
      obtain ⟨htag, rfl⟩ := Json.untag?_object_iff.mp huntag
      obtain ⟨hf, hne⟩ := hfield _ hf (habsent _ _ h)
      refine ⟨_, Json.untag?_object_iff.mpr ⟨?_, rfl⟩, ?_⟩
      · rw [← htag, Json.member?_middle hne]
      · rw [untagged_middle hne, untagged_append]
        exact .remove hf h
  | add hf h hmissing =>
      obtain ⟨htag, rfl⟩ := Json.untag?_object_iff.mp huntag
      obtain ⟨hf, hne⟩ := hfield _ hf (habsent _ _ h)
      refine ⟨_, Json.untag?_object_iff.mpr ⟨?_, rfl⟩, ?_⟩
      · rw [Json.member?_middle hne, htag]
      · rw [untagged_middle hne, untagged_append]
        refine .add hf h fun hkey => hmissing ?_
        rw [← untagged_append] at hkey
        exact (List.filter_sublist.map Prod.fst).subset hkey
  | member hf h =>
      obtain ⟨htag, rfl⟩ := Json.untag?_object_iff.mp huntag
      obtain ⟨hf, hne⟩ := hfield _ hf (hedit _ _ _ h)
      refine ⟨_, Json.untag?_object_iff.mpr ⟨?_, rfl⟩, ?_⟩
      · rw [Json.member?_middle hne] at htag ⊢
        exact htag
      · rw [untagged_middle hne, untagged_middle hne]
        exact .member hf h
  | @item a b f value value' hf h =>
      cases a with
      | nil =>
          obtain rfl := Option.some.inj hf
          exact absurd rfl (hedit _ value value' h)
      | cons t a =>
          cases huntag
          exact ⟨_, rfl, .item hf h⟩

/-- No field of an operation has the name of the tag. -/
theorem OperationKind.op_notMem_fields (kind : OperationKind) :
    "op" ∉ kind.fields.map RecordField.name := by
  cases kind <;> decide

/-- **An edit of an operation is not noticed.** -/
theorem Operation.carries_of_edit {j j' : Json} (h : Operation.Edit j j') :
    Carries (ofJson? j) (ofJson? j') := by
  obtain ⟨tag, record, kind, htag, hkind, h⟩ := h
  obtain ⟨record', htag', hrecord⟩ := h.untag kind.op_notMem_fields htag
  rw [ofJson?, ofJson?, htag, htag']
  change Carries (OperationKind.ofJson? tag >>= _) (OperationKind.ofJson? tag >>= _)
  rw [hkind]
  exact record_carries hrecord

/-! ### Units -/

namespace MigrationUnit

/-- The fields of a unit. -/
def fields : List RecordField :=
  [{ name := "table" },
    { name := "comment", absent := some .null },
    { name := "operations", absent := some (.array []), Edit := ListEdit Operation.Edit }]

/-- **An edit of a unit is not noticed.** -/
theorem carries_of_edit {j j' : Json} (h : RecordEdit fields j j') :
    Carries (ofJson? j) (ofJson? j') := by
  rw [ofJson?, ofJson?]
  refine h.carries (by decide) fun vs vs' hturn => ?_
  rw [fields] at hturn
  obtain _ | ⟨htable, _ | ⟨hcomment, _ | ⟨hoperations, ⟨⟩⟩⟩⟩ := hturn
  have hlist : ∀ value value', ListEdit Operation.Edit value value' →
      Carries (SchemaDdl.listOfJson? Operation.ofJson? value)
        (SchemaDdl.listOfJson? Operation.ofJson? value') :=
    fun _ _ h => h.carries fun _ _ hoperation => Operation.carries_of_edit hoperation
  exact (htable.required rfl nofun).bind fun _ =>
    (hcomment.optional rfl nofun).bind fun _ =>
    (hoperations.withDefault rfl (by rfl) hlist).bind fun _ => .refl _

/-! ### Files -/

/-- A value that begins like a unit: an object, or an array whose first item is a string, the name
of the table. -/
def Alone : Json → Prop
  | .object _ => True
  | .array (.string _ :: _) => True
  | _ => False

/-- A unit begins like one. -/
theorem alone_of_ofJson? {j : Json} {u : MigrationUnit} (h : ofJson? j = some u) : Alone j := by
  rw [ofJson?] at h
  obtain ⟨vs, hvs, h⟩ := Option.bind_eq_some_iff.mp h
  split at h
  · next table comment operations =>
    obtain ⟨name, htable, -⟩ := Option.bind_eq_some_iff.mp h
    cases j with
    | object members => trivial
    | array items =>
        rw [Json.fields?] at hvs
        split at hvs
        · cases items with
          | nil =>
              cases hvs
              cases htable
          | cons item items =>
              obtain rfl : some item = table := (List.cons.inj (Option.some.inj hvs)).1
              cases item with
              | string s => trivial
              | _ => cases htable
        · cases hvs
    | _ => cases hvs
  · cases h

/-- What begins like a unit is not a list of units. -/
theorem Alone.listOfJson?_eq_none {j : Json} (h : Alone j) :
    SchemaDdl.listOfJson? ofJson? j = none := by
  match j, h with
  | .object _, _ => rfl
  | .array (.string s :: items), _ =>
      rw [SchemaDdl.listOfJson?, List.mapM_cons]
      rfl

/-- An edited unit begins like one. -/
theorem Alone.of_edit {j j' : Json} (h : Alone j) (hedit : RecordEdit fields j j') : Alone j' := by
  cases hedit with
  | @item a b f value value' hf hvalue =>
      cases a with
      | nil =>
          -- The first item is the name of the table, which has no edits.
          obtain rfl := Option.some.inj hf
          exact hvalue.elim
      | cons t a =>
          cases t with
          | string s => trivial
          | _ => exact h.elim
  | _ => trivial

/-- One edit of a file: of the unit if it holds one alone, and of a unit in the list otherwise. -/
inductive FileEdit : Json → Json → Prop
  /-- The unit is edited. -/
  | unit {j j' : Json} (halone : Alone j) (h : RecordEdit fields j j') : FileEdit j j'
  /-- A unit in the list is edited. -/
  | units {j j' : Json} (hlist : ¬ Alone j) (h : ListEdit (RecordEdit fields) j j') : FileEdit j j'

/-- **An edit of a file is not noticed.** -/
theorem FileEdit.carries {j j' : Json} (h : FileEdit j j') :
    Carries (listOfJson? j) (listOfJson? j') := by
  intro units hunits
  rw [listOfJson?] at hunits ⊢
  cases h with
  | unit halone h =>
      rw [halone.listOfJson?_eq_none] at hunits
      rw [(halone.of_edit h).listOfJson?_eq_none]
      exact (MigrationUnit.carries_of_edit h).map _ units hunits
  | units hlist h =>
      have hsingle : ofJson? j = none :=
        Option.eq_none_iff_forall_ne_some.mpr fun u hu => hlist (alone_of_ofJson? hu)
      rw [hsingle] at hunits
      cases hread : SchemaDdl.listOfJson? ofJson? j with
      | none =>
          rw [hread] at hunits
          cases hunits
      | some us =>
          rw [hread] at hunits
          have hread' : SchemaDdl.listOfJson? ofJson? j' = some us :=
            h.carries (fun _ _ hunit => MigrationUnit.carries_of_edit hunit) us hread
          rw [hread']
          exact hunits

/-- Edits of a file, one after the other, are not noticed. -/
theorem carries_of_edits {j j' : Json} (h : Relation.ReflTransGen FileEdit j j') :
    Carries (listOfJson? j) (listOfJson? j') := by
  induction h with
  | refl => exact .refl _
  | tail _ hedit ih => exact fun units hunits => hedit.carries units (ih units hunits)

/-- **The layout of a migration file does not matter.** Members may change places, members that
belong to no field may come in, and fields may go that have the value of a missing field, or come
with it, at any unit, operation, column, reference, raw default or sizes of a type and any number of
times: the file holds the same units. The same goes for texts, however deep their values are nested,
as long as they can be read as JSON. -/
theorem layout_irrelevant :
    (∀ j j' units, Relation.ReflTransGen FileEdit j j' →
      listOfJson? j = some units → listOfJson? j' = some units) ∧
    ∀ text units, parse text = .ok units → ∃ j, Json.read text = .ok j ∧
      ∀ j' text', Relation.ReflTransGen FileEdit j j' → Json.read text' = .ok j' →
        parse text' = .ok units := by
  refine ⟨fun j j' units hedits => carries_of_edits hedits units, fun text units hparse => ?_⟩
  obtain ⟨j, hread, hunits⟩ := Json.decodeText_eq_ok_iff.mp hparse
  refine ⟨j, hread, fun j' text' hedits hread' => ?_⟩
  exact Json.decodeText_eq_ok_iff.mpr ⟨j', hread', carries_of_edits hedits units hunits⟩

/-- A unit that loses its missing comment, with an operation whose tag moves to the end and whose
column gains the nullability that it has anyway and a size of an unknown kind. -/
theorem layout_irrelevant_of_column :
    let unit (members : List (String × Json)) (op : Json) : Json :=
      .object (members ++ [("operations", .array [op])])
    let tag : String × Json := ("op", .string "change_column_type")
    let column (sizes members : List (String × Json)) : Json :=
      .object ([("name", .string "c"), ("data_type", .object [("decimal", .object sizes)])] ++
        members)
    let before : Json :=
      unit [("table", .string "t"), ("comment", .null)] (.object [tag, ("column", column [] [])])
    let after : Json :=
      unit [("table", .string "t")]
        (.object [("column", column [("unit", .string "cm")] [("nullable", .bool true)]), tag])
    let units : List MigrationUnit :=
      [{ table := "t"
         operations := [.changeColumnType { name := "c", dataType := .decimal none none }] }]
    Relation.ReflTransGen FileEdit before after ∧
      listOfJson? before = some units ∧ listOfJson? after = some units ∧
      parse (Json.compact before) = .ok units ∧ parse (Json.compact after) = .ok units := by
  intro unit tag column before after units
  let table : String × Json := ("table", .string "t")
  have hcomment : FileEdit before (unit [table] (.object [tag, ("column", column [] [])])) :=
    .unit trivial (.remove (a := [table]) (f := { name := "comment", absent := some .null })
      (List.mem_of_getElem? (i := 1) rfl) rfl)
  have hop : ∀ op op', Operation.Edit op op' → FileEdit (unit [table] op) (unit [table] op') :=
    fun op op' h => .unit trivial (.member (a := [table])
      (f := { name := "operations", absent := some (.array []), Edit := ListEdit Operation.Edit })
      (List.mem_of_getElem? (i := 2) rfl) (.item (a := []) h))
  have hmove : Operation.Edit (.object [tag, ("column", column [] [])])
      (.object [("column", column [] []), tag]) :=
    ⟨_, _, .changeColumnType, rfl, rfl, .permute (.swap _ _ [])⟩
  have hcolumn : ∀ c c', RecordEdit Column.fields c c' →
      Operation.Edit (.object [("column", c), tag]) (.object [("column", c'), tag]) :=
    fun c c' h => ⟨_, _, .changeColumnType, rfl, rfl,
      .member (a := []) (f := { name := "column", Edit := RecordEdit Column.fields })
        (List.mem_of_getElem? (i := 1) rfl) h⟩
  have hnullable : RecordEdit Column.fields (column [] []) (column [] [("nullable", .bool true)]) :=
    .add (a := [("name", .string "c"), ("data_type", .object [("decimal", .object [])])]) (b := [])
      (f := { name := "nullable", absent := some (.bool true) })
      (List.mem_of_getElem? (i := 2) rfl) rfl (by decide)
  have hsize : RecordEdit Column.fields (column [] [("nullable", .bool true)])
      (column [("unit", .string "cm")] [("nullable", .bool true)]) :=
    .member (a := [("name", .string "c")]) (f := { name := "data_type", Edit := DataType.Edit })
      (List.mem_of_getElem? (i := 1) rfl)
      (.sizes (.inl rfl) (.insert (a := []) (b := []) (by decide)))
  have hedits : Relation.ReflTransGen FileEdit before after :=
    (((Relation.ReflTransGen.single hcomment).tail (hop _ _ hmove)).tail
      (hop _ _ (hcolumn _ _ hnullable))).tail (hop _ _ (hcolumn _ _ hsize))
  have hregular : Json.Regular Json.ReadsBack Json.maxDepth before ∧
      Json.Regular Json.ReadsBack Json.maxDepth after := by
    constructor <;> repeat' first
      | exact .null
      | exact .bool _
      | exact .string _
      | refine .object ?_
      | refine .array ?_
      | exact List.forall_mem_nil _
      | refine List.forall_mem_cons.mpr ⟨?_, ?_⟩
  have hread := Json.read_compact hregular.1
  have hunits : listOfJson? before = some units := rfl
  have hparse : parse (Json.compact before) = .ok units :=
    Json.decodeText_eq_ok_iff.mpr ⟨before, hread, hunits⟩
  obtain ⟨j, hj, hsame⟩ := layout_irrelevant.2 (Json.compact before) units hparse
  obtain rfl : before = j := Except.ok.inj (hread.symm.trans hj)
  exact ⟨hedits, hunits, layout_irrelevant.1 before after units hedits hunits, hparse,
    hsame after (Json.compact after) hedits (Json.read_compact hregular.2)⟩

end MigrationUnit

end SchemaDdl
