import SchemaDdl.Codec.MigrationUnit
import SchemaDdl.Proofs.ColumnText
import SchemaDdl.Proofs.JsonRange

/-!
# The Floats of Migration Files

A migration file holds floats in two places: a column may have one as its default, and the values
bound to a raw default may be floats. In both an integer may stand for a float. This module collects
the floats of a unit and shows that all of them are finite when the unit was read from a text.

* `MigrationUnit.floats` — the floats of a unit, from the values upwards.
* `Json.Regular.fields`, `Json.Regular.list` — the parts of a regular value are regular, so what is
  read from them is read from regular values.
* `MigrationUnit.isFinite_of_parse` — the floats of the units of a text are finite.
-/

namespace SchemaDdl

open Json (Regular)

/-! ### Floats -/

/-- The float of a value, if it is one. -/
def Value.floats : Value → List Float
  | float x => [x]
  | _ => []

/-- The floats of a default: itself, or those among the values of a raw fragment. -/
def DefaultValue.floats : DefaultValue → List Float
  | float x => [x]
  | raw _ bindings => bindings.flatMap Value.floats
  | _ => []

/-- The floats of a column. -/
def Column.floats (c : Column) : List Float :=
  c.defaultValue.toList.flatMap DefaultValue.floats

/-- The floats of an operation: those of the columns that it defines. -/
def Operation.floats (op : Operation) : List Float :=
  op.columns.flatMap Column.floats

/-- The floats of a unit: those of its operations. -/
def MigrationUnit.floats (u : MigrationUnit) : List Float :=
  u.operations.flatMap Operation.floats

/-! ### Parts of regular values -/

/-- What was read one after the other was read from the parts. -/
theorem exists_of_mem_mapM {α β : Type} {read : α → Option β} {l : List α} {l' : List β}
    (h : l.mapM read = some l') : ∀ b ∈ l', ∃ a ∈ l, read a = some b := by
  intro b hb
  have hb : some b ∈ l.map read := mapM_eq_some_iff.mp h ▸ List.mem_map_of_mem hb
  exact List.mem_map.mp hb

section Parts

variable {P : Float → Prop} {depth : Nat}

namespace Json.Regular

/-- The items of a regular array are regular. -/
theorem items {items : List Json} (h : Regular P depth (.array items)) :
    ∀ i ∈ items, Regular P depth i := by
  cases h with
  | array regular => exact fun i hi => (regular i hi).mono (Nat.le_succ _)

/-- The values of the members of a regular object are regular. -/
theorem members {members : List (String × Json)} (h : Regular P depth (.object members)) :
    ∀ m ∈ members, Regular P depth m.2 := by
  cases h with
  | object regular => exact fun m hm => (regular m hm).mono (Nat.le_succ _)

/-- The value of a key of a regular object is regular. -/
theorem member? {members : List (String × Json)} {key : String} {v : Json}
    (h : Regular P depth (.object members)) (hv : Json.member? members key = some (some v)) :
    Regular P depth v := by
  rw [Json.member?.eq_def] at hv
  split at hv
  · cases hv
  · next m hfilter =>
    cases hv
    have hm : m ∈ members.filter fun n => n.1 == key := hfilter ▸ List.mem_singleton_self m
    exact h.members m (List.mem_filter.mp hm).1
  · cases hv

/-- **The fields of a regular record** are regular. -/
theorem fields {names : List String} {j : Json} {fields : List (Option Json)}
    (h : Regular P depth j) (hfields : j.fields? names = some fields) :
    ∀ v, some v ∈ fields → Regular P depth v := by
  intro v hv
  rw [Json.fields?.eq_def] at hfields
  split at hfields
  · obtain ⟨name, -, hmember⟩ := exists_of_mem_mapM hfields _ hv
    exact h.member? hmember
  · split at hfields
    · cases hfields
      rcases List.mem_append.mp hv with hitem | hmissing
      · obtain ⟨i, hi, ⟨⟩⟩ := List.mem_map.mp hitem
        exact h.items _ hi
      · cases List.eq_of_mem_replicate hmissing
    · cases hfields
  · cases hfields

/-- The content of a regular choice is regular. -/
theorem choice {j content : Json} {name : String} (h : Regular P depth j)
    (hchoice : j.choice? = some (name, some content)) : Regular P depth content := by
  rw [Json.choice?.eq_def] at hchoice
  split at hchoice
  · cases hchoice
  · cases hchoice
    exact h.members _ (List.mem_singleton_self _)
  · cases hchoice

/-- **The items of a list** are read from regular values. -/
theorem list {α : Type} {read : Json → Option α} {j : Json} {l : List α} (h : Regular P depth j)
    (hl : listOfJson? read j = some l) : ∀ a ∈ l, ∃ v, Regular P depth v ∧ read v = some a := by
  rw [listOfJson?.eq_def] at hl
  split at hl
  · intro a ha
    obtain ⟨v, hv, hread⟩ := exists_of_mem_mapM hl a ha
    exact ⟨v, h.items v hv, hread⟩
  · cases hl

/-- What stays of a regular value without its tag is regular. -/
theorem untag {j tag record : Json} (h : Regular P depth j)
    (htag : j.untag? = some (tag, record)) : Regular P depth record := by
  rw [Json.untag?.eq_def] at htag
  split at htag
  · split at htag
    · cases htag
      cases h with
      | object regular => exact .object fun m hm => regular m (List.mem_filter.mp hm).1
    · cases htag
  · cases htag
    cases h with
    | array regular => exact .array fun i hi => regular i (List.mem_cons_of_mem _ hi)
  · cases htag

/-- The field of a regular record with a single field is regular. -/
theorem single {j v : Json} {name : String} (h : Regular P depth j)
    (hsingle : Operation.single? name j = some (some v)) : Regular P depth v := by
  obtain ⟨fields, hfields, hsingle⟩ := Option.bind_eq_some_iff.mp hsingle
  split at hsingle
  · cases hsingle
    exact h.fields hfields v List.mem_cons_self
  · cases hsingle

/-- The first field of a regular record with two fields is regular. -/
theorem first {j v : Json} {field : Option Json} {first second : String} (h : Regular P depth j)
    (hpair : Operation.pair? first second j = some (some v, field)) : Regular P depth v := by
  obtain ⟨fields, hfields, hpair⟩ := Option.bind_eq_some_iff.mp hpair
  split at hpair
  · cases hpair
    exact h.fields hfields v List.mem_cons_self
  · cases hpair

end Json.Regular

end Parts

/-- What a field holds that may be null was read from its value. -/
theorem exists_of_optional {α : Type} {read : Json → Option α} {field : Option Json} {o : Option α}
    (h : optional read field = some o) : ∀ a ∈ o, ∃ v, field = some v ∧ read v = some a := by
  intro a ha
  rw [optional.eq_def] at h
  split at h
  · cases h
    cases ha
  · cases h
    cases ha
  · next v _ =>
    obtain ⟨b, hb, rfl⟩ := Option.map_eq_some_iff.mp h
    cases ha
    exact ⟨v, rfl, hb⟩

/-- What a list holds that may be missing was read from the value of the field. -/
theorem exists_of_withDefault_nil {α : Type} {read : Json → Option (List α)} {field : Option Json}
    {l : List α} (h : withDefault [] read field = some l) :
    ∀ a ∈ l, ∃ v l', field = some v ∧ read v = some l' ∧ a ∈ l' := by
  intro a ha
  cases field with
  | none =>
      cases h
      cases ha
  | some v => exact ⟨v, l, rfl, h, ha⟩

/-! ### What was read from a text -/

section Finite

variable {depth : Nat} {place : Place} {j : Json}

/-- A float is finite, and so is one that an integer stands for. -/
theorem isFinite_of_floatOfJson? {x : Float} (h : Regular (·.isFinite) depth j)
    (hx : floatOfJson? j = some x) : x.isFinite = true := by
  cases h with
  | float property =>
      cases hx
      exact property
  | @int _ n lower upper =>
      have hmagnitude := (within_toFloat (UInt64.ofNat n.natAbs)).isFinite
      cases hx
      split
      · exact isFinite_neg hmagnitude
      · exact hmagnitude
  | _ => cases hx

/-- The float of a value is finite. -/
theorem Value.isFinite_of_ofJson? {v : Value} (h : Regular (·.isFinite) depth j)
    (hv : Value.ofJson? j = some v) : ∀ x ∈ v.floats, x.isFinite = true := by
  rw [Value.ofJson?.eq_def] at hv
  split at hv
  case h_3 n =>
    split at hv
    · cases hv
      exact List.forall_mem_nil _
    · obtain ⟨x, hx, rfl⟩ := Option.map_eq_some_iff.mp hv
      exact List.forall_mem_singleton.mpr (isFinite_of_floatOfJson? h hx)
  case h_4 x =>
    cases hv
    exact List.forall_mem_singleton.mpr (isFinite_of_floatOfJson? h rfl)
  case h_6 items =>
    obtain ⟨bytes, -, rfl⟩ := Option.map_eq_some_iff.mp hv
    exact List.forall_mem_nil _
  all_goals cases hv
  all_goals exact List.forall_mem_nil _

/-- The floats of a raw fragment are finite. -/
theorem DefaultValue.isFinite_of_rawOfJson? {v : DefaultValue} (h : Regular (·.isFinite) depth j)
    (hv : rawOfJson? j = some v) : ∀ x ∈ v.floats, x.isFinite = true := by
  obtain ⟨fields, hfields, hv⟩ := Option.bind_eq_some_iff.mp hv
  have hregular := h.fields hfields
  split at hv
  · next sql bindings =>
    obtain ⟨sql, -, hv⟩ := Option.bind_eq_some_iff.mp hv
    obtain ⟨values, hvalues, hv⟩ := Option.bind_eq_some_iff.mp hv
    cases hv
    intro x hx
    obtain ⟨v, hv, hx⟩ := List.mem_flatMap.mp hx
    obtain ⟨list, values', rfl, hlist, hmem⟩ := exists_of_withDefault_nil hvalues v hv
    obtain ⟨item, hitem, hread⟩ := (hregular list (by simp)).list hlist v hmem
    exact Value.isFinite_of_ofJson? hitem hread x hx
  · cases hv

/-- **The floats of a default** are finite. -/
theorem DefaultValue.isFinite_of_ofJson? {v : DefaultValue} (h : Regular (·.isFinite) depth j)
    (hv : DefaultValue.ofJson? place j = some v) : ∀ x ∈ v.floats, x.isFinite = true := by
  obtain ⟨⟨name, content⟩, hchoice, hv⟩ := Option.bind_eq_some_iff.mp hv
  dsimp only at hv
  split at hv
  · split at hv
    · cases hv
      exact List.forall_mem_nil _
    · cases hv
  · obtain ⟨content, rfl, hv⟩ := Option.bind_eq_some_iff.mp hv
    have hcontent := h.choice hchoice
    split at hv
    case h_3 =>
      obtain ⟨x, hx, rfl⟩ := Option.map_eq_some_iff.mp hv
      exact List.forall_mem_singleton.mpr (isFinite_of_floatOfJson? hcontent hx)
    case h_6 => exact isFinite_of_rawOfJson? hcontent hv
    case h_7 => cases hv
    all_goals
      obtain ⟨_, -, rfl⟩ := Option.map_eq_some_iff.mp hv
      exact List.forall_mem_nil _

/-- **The floats of a column** are finite. -/
theorem Column.isFinite_of_ofJson? {c : Column} (h : Regular (·.isFinite) depth j)
    (hc : Column.ofJson? place j = some c) : ∀ x ∈ c.floats, x.isFinite = true := by
  obtain ⟨fields, hfields, hc⟩ := Option.bind_eq_some_iff.mp hc
  have hregular := h.fields hfields
  split at hc
  · next name dataType nullable value primaryKey unique autoincrement references check collation =>
    obtain ⟨_, -, hc⟩ := Option.bind_eq_some_iff.mp hc
    obtain ⟨_, -, hc⟩ := Option.bind_eq_some_iff.mp hc
    obtain ⟨_, -, hc⟩ := Option.bind_eq_some_iff.mp hc
    obtain ⟨v, hvalue, hc⟩ := Option.bind_eq_some_iff.mp hc
    -- The default is the only field with floats.
    have hfloats : c.defaultValue = v := by
      simp only [Option.bind_eq_bind, Option.bind_eq_some_iff] at hc
      obtain ⟨_, -, _, -, _, -, _, -, _, -, _, -, ⟨⟩⟩ := hc
      rfl
    intro x hx
    obtain ⟨d, hd, hx⟩ := List.mem_flatMap.mp hx
    rw [hfloats, Option.mem_toList] at hd
    obtain ⟨content, rfl, hread⟩ := exists_of_optional hvalue d hd
    exact DefaultValue.isFinite_of_ofJson? (hregular content (by simp)) hread x hx
  · cases hc

/-- The floats of a list of columns are finite. -/
theorem isFinite_of_columnsOfJson? {columns : List Column} (h : Regular (·.isFinite) depth j)
    (hcolumns : columnsOfJson? j = some columns) :
    ∀ x ∈ columns.flatMap Column.floats, x.isFinite = true := by
  intro x hx
  obtain ⟨c, hc, hx⟩ := List.mem_flatMap.mp hx
  obtain ⟨v, hv, hread⟩ := h.list hcolumns c hc
  exact Column.isFinite_of_ofJson? hv hread x hx

/-- The floats of the operation that a record holds are finite. Only the kinds that define columns
have any. -/
theorem Operation.isFinite_of_ofRecord? {kind : OperationKind} {op : Operation}
    (h : Regular (·.isFinite) depth j) (hop : ofRecord? j kind = some op) :
    ∀ x ∈ op.floats, x.isFinite = true := by
  cases kind with
  | createTable =>
      obtain ⟨⟨columns, _⟩, hpair, hop⟩ := Option.bind_eq_some_iff.mp hop
      obtain ⟨defined, hcolumns, hop⟩ := Option.bind_eq_some_iff.mp hop
      obtain ⟨_, -, ⟨⟩⟩ := Option.bind_eq_some_iff.mp hop
      obtain ⟨v, rfl, hread⟩ := Option.bind_eq_some_iff.mp hcolumns
      exact isFinite_of_columnsOfJson? (h.first hpair) hread
  | addColumns =>
      obtain ⟨columns, hsingle, hop⟩ := Option.bind_eq_some_iff.mp hop
      obtain ⟨defined, hcolumns, ⟨⟩⟩ := Option.bind_eq_some_iff.mp hop
      obtain ⟨v, rfl, hread⟩ := Option.bind_eq_some_iff.mp hcolumns
      exact isFinite_of_columnsOfJson? (h.single hsingle) hread
  | changeColumnType =>
      obtain ⟨column, hsingle, hop⟩ := Option.bind_eq_some_iff.mp hop
      obtain ⟨defined, hcolumn, ⟨⟩⟩ := Option.bind_eq_some_iff.mp hop
      obtain ⟨v, rfl, hread⟩ := Option.bind_eq_some_iff.mp hcolumn
      have hfinite := Column.isFinite_of_ofJson? (h.single hsingle) hread
      intro x hx
      obtain ⟨c, hc, hx⟩ := List.mem_flatMap.mp hx
      cases List.mem_singleton.mp hc
      exact hfinite x hx
  | dropColumns =>
      obtain ⟨_, -, hop⟩ := Option.bind_eq_some_iff.mp hop
      obtain ⟨_, -, ⟨⟩⟩ := Option.bind_eq_some_iff.mp hop
      exact List.forall_mem_nil _
  | renameColumn =>
      obtain ⟨_, -, hop⟩ := Option.bind_eq_some_iff.mp hop
      obtain ⟨_, -, hop⟩ := Option.bind_eq_some_iff.mp hop
      obtain ⟨_, -, ⟨⟩⟩ := Option.bind_eq_some_iff.mp hop
      exact List.forall_mem_nil _
  | dropPrimaryKey =>
      obtain ⟨_, -, hop⟩ := Option.bind_eq_some_iff.mp hop
      obtain ⟨_, -, ⟨⟩⟩ := Option.bind_eq_some_iff.mp hop
      exact List.forall_mem_nil _
  | setComment =>
      obtain ⟨_, -, hop⟩ := Option.bind_eq_some_iff.mp hop
      obtain ⟨_, -, ⟨⟩⟩ := Option.bind_eq_some_iff.mp hop
      exact List.forall_mem_nil _
  | _ =>
      obtain ⟨_, -, rfl⟩ := Option.map_eq_some_iff.mp hop
      exact List.forall_mem_nil _

/-- **The floats of an operation** are finite. -/
theorem Operation.isFinite_of_ofJson? {op : Operation} (h : Regular (·.isFinite) depth j)
    (hop : Operation.ofJson? j = some op) : ∀ x ∈ op.floats, x.isFinite = true := by
  obtain ⟨⟨tag, record⟩, htag, hop⟩ := Option.bind_eq_some_iff.mp hop
  obtain ⟨kind, -, hop⟩ := Option.bind_eq_some_iff.mp hop
  exact isFinite_of_ofRecord? (h.untag htag) hop

namespace MigrationUnit

/-- The floats of a unit are finite. -/
theorem isFinite_of_ofJson? {u : MigrationUnit} (h : Regular (·.isFinite) depth j)
    (hu : ofJson? j = some u) : ∀ x ∈ u.floats, x.isFinite = true := by
  obtain ⟨fields, hfields, hu⟩ := Option.bind_eq_some_iff.mp hu
  have hregular := h.fields hfields
  split at hu
  · next table comment field =>
    obtain ⟨_, -, hu⟩ := Option.bind_eq_some_iff.mp hu
    obtain ⟨_, -, hu⟩ := Option.bind_eq_some_iff.mp hu
    obtain ⟨operations, hoperations, ⟨⟩⟩ := Option.bind_eq_some_iff.mp hu
    intro x hx
    obtain ⟨op, hop, hx⟩ := List.mem_flatMap.mp hx
    obtain ⟨list, ops, rfl, hlist, hmem⟩ := exists_of_withDefault_nil hoperations op hop
    obtain ⟨item, hitem, hread⟩ := (hregular list (by simp)).list hlist op hmem
    exact Operation.isFinite_of_ofJson? hitem hread x hx
  · cases hu

/-- **The floats of the units of a text are finite**: what a strict reader reads is regular, and
every part of a file is read from a part of it. -/
theorem isFinite_of_parse {text : String} {units : List MigrationUnit}
    (h : parse text = .ok units) : ∀ u ∈ units, ∀ x ∈ u.floats, x.isFinite = true := by
  obtain ⟨j, hread, hunits⟩ := Json.decodeText_eq_ok_iff.mp h
  have hregular := Json.regular_of_read hread
  rw [listOfJson?] at hunits
  split at hunits
  · next hlist =>
    cases hunits
    intro u hu
    obtain ⟨v, hv, hread⟩ := hregular.list hlist u hu
    exact isFinite_of_ofJson? hv hread
  · obtain ⟨u, hu, rfl⟩ := Option.map_eq_some_iff.mp hunits
    exact List.forall_mem_singleton.mpr (isFinite_of_ofJson? hregular hu)

end MigrationUnit

end Finite

end SchemaDdl
