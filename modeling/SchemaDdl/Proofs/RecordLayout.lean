import Mathlib.Data.List.Nodup
import SchemaDdl.Codec.Record

/-!
# The Layout of Records

The same record can be written in many ways. Its members may stand in any order, members that belong
to no field are passed over, and a field that may be missing may as well be written out with the
value that it then has. This module says what one such edit is, for a record whose fields are given
(`RecordField`), and shows that no reader of the record notices it.

What a reader sees of a record is the list of its fields (`Json.fields?`), so an edit is followed to
that list first and to the reader from there. An edit can also lie deeper, in the value of a field;
it is then an edit of that value, and the reader of the value has to answer for it.

* `RecordField`, `RecordEdit`, `ListEdit` — the edits of a record with given fields, and of a list.
* `Json.member?_perm`, `Json.member?_middle`, `Json.member?_middle_self` — the value of a key
  depends on neither the order of the members nor the other keys.
* `RecordEdit.fieldsTurn` — what an edit of a record does to the list of its fields.
* `RecordEdit.carries`, `ListEdit.carries` — readers that bear what happens to the fields or items
  read the same record or list from an edited one.
-/

namespace SchemaDdl

variable {α β : Type}

/-! ### Readings that agree -/

/-- The second reading is at least as good as the first: it has the same result if the first has
one. -/
def Carries (a b : Option α) : Prop :=
  ∀ x, a = some x → b = some x

namespace Carries

theorem refl (a : Option α) : Carries a a :=
  fun _ h => h

/-- Readings that go on in the same way agree if their first parts do. -/
theorem bind {a b : Option α} {f g : α → Option β} (h : Carries a b)
    (hfg : ∀ x, Carries (f x) (g x)) : Carries (a >>= f) (b >>= g) := by
  intro y hy
  obtain ⟨x, hx, hf⟩ := Option.bind_eq_some_iff.mp hy
  exact Option.bind_eq_some_iff.mpr ⟨x, h x hx, hfg x y hf⟩

/-- Readings whose results are turned into others agree if they do. -/
theorem map {a b : Option α} (f : α → β) (h : Carries a b) : Carries (a.map f) (b.map f) := by
  intro y hy
  obtain ⟨x, hx, hf⟩ := Option.map_eq_some_iff.mp hy
  exact Option.map_eq_some_iff.mpr ⟨x, h x hx, hf⟩

end Carries

/-! ### Edits -/

/-- What the layout of a record may do with one of its fields. -/
structure RecordField where
  /-- The key of the field. -/
  name : String
  /-- The value that a missing field stands for, if the field may be missing. -/
  absent : Option Json := none
  /-- The edits of the value. -/
  Edit : Json → Json → Prop := fun _ _ => False

/-- One edit of the layout of a record with the given fields. -/
inductive RecordEdit (fields : List RecordField) : Json → Json → Prop
  /-- The members change places. -/
  | permute {a b : List (String × Json)} (h : a.Perm b) :
      RecordEdit fields (.object a) (.object b)
  /-- A member that belongs to no field comes in. -/
  | insert {a b : List (String × Json)} {key : String} {value : Json}
      (h : key ∉ fields.map RecordField.name) :
      RecordEdit fields (.object (a ++ b)) (.object (a ++ (key, value) :: b))
  /-- A field goes whose value is the one of a missing field. -/
  | remove {a b : List (String × Json)} {f : RecordField} {value : Json} (hf : f ∈ fields)
      (h : f.absent = some value) :
      RecordEdit fields (.object (a ++ (f.name, value) :: b)) (.object (a ++ b))
  /-- A missing field comes in with the value of a missing field. -/
  | add {a b : List (String × Json)} {f : RecordField} {value : Json} (hf : f ∈ fields)
      (h : f.absent = some value) (hmissing : f.name ∉ (a ++ b).map Prod.fst) :
      RecordEdit fields (.object (a ++ b)) (.object (a ++ (f.name, value) :: b))
  /-- The value of a field is edited. -/
  | member {a b : List (String × Json)} {f : RecordField} {value value' : Json} (hf : f ∈ fields)
      (h : f.Edit value value') :
      RecordEdit fields (.object (a ++ (f.name, value) :: b)) (.object (a ++ (f.name, value') :: b))
  /-- The value of a field is edited in a record that is an array of its fields. -/
  | item {a b : List Json} {f : RecordField} {value value' : Json} (hf : fields[a.length]? = some f)
      (h : f.Edit value value') :
      RecordEdit fields (.array (a ++ value :: b)) (.array (a ++ value' :: b))

/-- One edit of an item of an array. -/
inductive ListEdit (Edit : Json → Json → Prop) : Json → Json → Prop
  /-- An item is edited. -/
  | item {a b : List Json} {value value' : Json} (h : Edit value value') :
      ListEdit Edit (.array (a ++ value :: b)) (.array (a ++ value' :: b))

/-! ### Members -/

namespace Json

/-- **The order of the members does not matter** to the value of a key. -/
theorem member?_perm {a b : List (String × Json)} (h : a.Perm b) (key : String) :
    member? a key = member? b key := by
  have hfilter := h.filter fun m => m.1 == key
  rw [member?, member?]
  generalize a.filter (fun m => m.1 == key) = l at hfilter
  generalize b.filter (fun m => m.1 == key) = l' at hfilter
  match l, l' with
  | [], l' => rw [hfilter.nil_eq]
  | [m], l' => rw [List.singleton_perm.mp hfilter]
  | _ :: _ :: _, [] => exact absurd hfilter.length_eq (by simp)
  | _ :: _ :: _, [_] => exact absurd hfilter.length_eq (by simp)
  | _ :: _ :: _, _ :: _ :: _ => rfl

/-- A key that no member has is absent. -/
theorem member?_of_notMem {members : List (String × Json)} {key : String}
    (h : key ∉ members.map Prod.fst) : member? members key = some none := by
  have hnone : members.filter (fun m => m.1 == key) = [] :=
    List.filter_eq_nil_iff.mpr fun m hm hkey => h (beq_iff_eq.mp hkey ▸ List.mem_map_of_mem hm)
  rw [member?, hnone]

/-- A member does not matter to another key. -/
theorem member?_middle {a b : List (String × Json)} {key key' : String} {value : Json}
    (h : key' ≠ key) : member? (a ++ (key', value) :: b) key = member? (a ++ b) key := by
  rw [member?_perm List.perm_middle, member?, List.filter_cons,
    if_neg fun hkey => h (beq_iff_eq.mp hkey), ← member?]

/-- **The value of a key** is that of the member with the key, and there has to be a single one. -/
theorem member?_middle_self {a b : List (String × Json)} {key : String} {value : Json}
    {v : Option Json} :
    member? (a ++ (key, value) :: b) key = some v ↔
      key ∉ (a ++ b).map Prod.fst ∧ v = some value := by
  rw [member?_perm List.perm_middle, member?, List.filter_cons, if_pos (beq_self_eq_true key)]
  cases hrest : (a ++ b).filter (fun m => m.1 == key) with
  | nil =>
      have hkey : key ∉ (a ++ b).map Prod.fst := by
        rintro hmem
        obtain ⟨m, hm, rfl⟩ := List.mem_map.mp hmem
        exact List.filter_eq_nil_iff.mp hrest m hm (beq_self_eq_true m.1)
      exact ⟨fun h => ⟨hkey, (Option.some.inj h).symm⟩, fun h => h.2 ▸ rfl⟩
  | cons m l =>
      have hm : m ∈ (a ++ b).filter fun m => m.1 == key := hrest ▸ List.mem_cons_self
      obtain ⟨hmem, hkey⟩ := List.mem_filter.mp hm
      have hkey : key ∈ (a ++ b).map Prod.fst := beq_iff_eq.mp hkey ▸ List.mem_map_of_mem hmem
      constructor
      · intro h
        cases h
      · rintro ⟨hmissing, -⟩
        exact absurd hkey hmissing

end Json

open Json (member? member?_perm member?_of_notMem member?_middle member?_middle_self)

/-! ### Fields -/

/-- What an edit of a record does to a field. -/
inductive RecordField.Turns (f : RecordField) : Option Json → Option Json → Prop
  /-- The field stays as it is. -/
  | same (v : Option Json) : f.Turns v v
  /-- The field goes. -/
  | removed {value : Json} (h : f.absent = some value) : f.Turns (some value) none
  /-- The field comes. -/
  | added {value : Json} (h : f.absent = some value) : f.Turns none (some value)
  /-- The value is edited. -/
  | edited {value value' : Json} (h : f.Edit value value') : f.Turns (some value) (some value')

/-- What an edit of a record does to the list of its fields. -/
inductive FieldsTurn : List RecordField → List (Option Json) → List (Option Json) → Prop
  | nil : FieldsTurn [] [] []
  | cons {f : RecordField} {fields : List RecordField} {v v' : Option Json}
      {vs vs' : List (Option Json)} (h : f.Turns v v') (hs : FieldsTurn fields vs vs') :
      FieldsTurn (f :: fields) (v :: vs) (v' :: vs')

/-- Fields that stay as they are. -/
theorem FieldsTurn.refl {fields : List RecordField} {vs : List (Option Json)}
    (h : vs.length = fields.length) : FieldsTurn fields vs vs := by
  induction fields generalizing vs with
  | nil =>
      obtain rfl := List.length_eq_zero_iff.mp h
      exact .nil
  | cons f fields ih =>
      obtain ⟨v, vs, rfl⟩ := List.exists_cons_of_length_eq_add_one h
      exact .cons (.same v) (ih (Nat.succ.inj h))

/-- An item of a list of fields is edited. -/
theorem FieldsTurn.item {fields : List RecordField} {a b : List (Option Json)} {v v' : Option Json}
    {f : RecordField} (hlength : (a ++ v :: b).length = fields.length)
    (hf : fields[a.length]? = some f) (h : f.Turns v v') :
    FieldsTurn fields (a ++ v :: b) (a ++ v' :: b) := by
  induction fields generalizing a with
  | nil => cases hf
  | cons g fields ih =>
      cases a with
      | nil =>
          obtain rfl := Option.some.inj hf
          exact .cons h (.refl (Nat.succ.inj hlength))
      | cons w a => exact .cons (.same w) (ih (Nat.succ.inj hlength) hf)

/-- What an edit does to the members of an object, key by key. The names of the fields have to be
distinct, so that a member belongs to one field at most. -/
theorem RecordEdit.member_turns {fields : List RecordField}
    (hnames : (fields.map RecordField.name).Nodup) {members : List (String × Json)} {j : Json}
    (h : RecordEdit fields (.object members) j) :
    ∃ members', j = .object members' ∧ ∀ f ∈ fields, ∀ v, member? members f.name = some v →
      ∃ v', member? members' f.name = some v' ∧ f.Turns v v' := by
  -- An edit of one field leaves the others as they are, because their names differ.
  have hinj : ∀ f ∈ fields, ∀ g ∈ fields, g ≠ f → g.name ≠ f.name := fun f hf g hg hne hname =>
    hne (List.inj_on_of_nodup_map hnames hg hf hname)
  cases h with
  | permute h =>
      exact ⟨_, rfl, fun f _ v hv => ⟨v, member?_perm h f.name ▸ hv, .same v⟩⟩
  | @insert a b key value h =>
      refine ⟨_, rfl, fun f hf v hv => ⟨v, ?_, .same v⟩⟩
      have hkey : key ≠ f.name := fun hkey => h (hkey ▸ List.mem_map_of_mem hf)
      rw [member?_middle hkey, hv]
  | @remove a b g value hg h =>
      refine ⟨_, rfl, fun f hf v hv => ?_⟩
      by_cases hgf : g = f
      · subst hgf
        obtain ⟨hmissing, rfl⟩ := member?_middle_self.mp hv
        exact ⟨none, member?_of_notMem hmissing, .removed h⟩
      · exact ⟨v, by rw [← hv, member?_middle (hinj f hf g hg hgf)], .same v⟩
  | @add a b g value hg h hmissing =>
      refine ⟨_, rfl, fun f hf v hv => ?_⟩
      by_cases hgf : g = f
      · subst hgf
        obtain rfl := Option.some.inj (hv.symm.trans (member?_of_notMem hmissing))
        exact ⟨some value, member?_middle_self.mpr ⟨hmissing, rfl⟩, .added h⟩
      · exact ⟨v, by rw [member?_middle (hinj f hf g hg hgf), hv], .same v⟩
  | @member a b g value value' hg h =>
      refine ⟨_, rfl, fun f hf v hv => ?_⟩
      by_cases hgf : g = f
      · subst hgf
        obtain ⟨hmissing, rfl⟩ := member?_middle_self.mp hv
        exact ⟨some value', member?_middle_self.mpr ⟨hmissing, rfl⟩, .edited h⟩
      · refine ⟨v, ?_, .same v⟩
        rw [member?_middle (hinj f hf g hg hgf)] at hv ⊢
        exact hv

/-- Fields that turn one by one turn as a list. -/
theorem FieldsTurn.of_members {fields : List RecordField} {members members' : List (String × Json)}
    (h : ∀ f ∈ fields, ∀ v, member? members f.name = some v →
      ∃ v', member? members' f.name = some v' ∧ f.Turns v v') {vs : List (Option Json)}
    (hvs : (fields.map RecordField.name).mapM (member? members) = some vs) :
    ∃ vs', (fields.map RecordField.name).mapM (member? members') = some vs' ∧
      FieldsTurn fields vs vs' := by
  induction fields generalizing vs with
  | nil =>
      cases hvs
      exact ⟨[], rfl, .nil⟩
  | cons f fields ih =>
      obtain ⟨hf, hfields⟩ := List.forall_mem_cons.mp h
      rw [List.map_cons, List.mapM_cons] at hvs
      obtain ⟨v, hv, hvs⟩ := Option.bind_eq_some_iff.mp hvs
      obtain ⟨vs, hrest, hvs⟩ := Option.bind_eq_some_iff.mp hvs
      cases hvs
      obtain ⟨v', hv', hturn⟩ := hf v hv
      obtain ⟨vs', hvs', hturns⟩ := ih hfields hrest
      refine ⟨v' :: vs', ?_, .cons hturn hturns⟩
      rw [List.map_cons, List.mapM_cons, hv', hvs']
      rfl

/-- **What an edit of a record does to its fields.** An edited record has its fields still, and
each of them stays, goes, comes or is edited itself. -/
theorem RecordEdit.fieldsTurn {fields : List RecordField}
    (hnames : (fields.map RecordField.name).Nodup) {j j' : Json} (h : RecordEdit fields j j')
    {vs : List (Option Json)}
    (hvs : j.fields? (fields.map RecordField.name) = some vs) :
    ∃ vs', j'.fields? (fields.map RecordField.name) = some vs' ∧ FieldsTurn fields vs vs' := by
  cases j with
  | object members =>
      obtain ⟨members', rfl, hturns⟩ := h.member_turns hnames
      exact FieldsTurn.of_members hturns hvs
  | array items =>
      cases h with
      | @item a b f value value' hf hedit =>
          -- There are as many items as before, so the same fields are missing at the end.
          have hlength : (a ++ value' :: b).length = (a ++ value :: b).length := by
            rw [List.length_append, List.length_append, List.length_cons, List.length_cons]
          rw [Json.fields?] at hvs ⊢
          rw [hlength]
          split at hvs
          · next hle =>
              obtain rfl := Option.some.inj hvs
              refine ⟨_, if_pos hle, ?_⟩
              rw [List.map_append, List.map_append, List.map_cons, List.map_cons,
                List.append_assoc, List.append_assoc, List.cons_append, List.cons_append]
              refine .item ?_ (by rw [List.length_map]; exact hf) (.edited hedit)
              rw [List.length_map] at hle ⊢
              simp only [List.length_append, List.length_cons, List.length_map,
                List.length_replicate] at hle ⊢
              omega
          · cases hvs
  | _ => cases h

/-! ### Readers -/

namespace RecordField.Turns

variable {f : RecordField} {v v' : Option Json}

/-- A reader bears what happens to a field if a missing field reads as the value that it stands for,
and an edited value as the value before. -/
theorem carries {read : Option Json → Option α} (h : f.Turns v v')
    (habsent : ∀ value, f.absent = some value → read (some value) = read none)
    (hedit : ∀ value value', f.Edit value value' →
      Carries (read (some value)) (read (some value'))) :
    Carries (read v) (read v') := by
  cases h with
  | same => exact .refl _
  | removed h => exact habsent _ h ▸ .refl _
  | added h => exact habsent _ h ▸ .refl _
  | edited h => exact hedit _ _ h

/-- A field that has to be there. -/
theorem required {read : Json → Option α} (h : f.Turns v v') (habsent : f.absent = none)
    (hedit : ∀ value value', f.Edit value value' → Carries (read value) (read value')) :
    Carries (SchemaDdl.required read v) (SchemaDdl.required read v') :=
  h.carries (fun _ hvalue => by rw [habsent] at hvalue; cases hvalue) hedit

/-- A field that may be missing or null. No edit may take null for another value, nor another value
for null. -/
theorem optional {read : Json → Option α} (h : f.Turns v v') (habsent : f.absent = some .null)
    (hedit : ∀ value value', f.Edit value value' →
      value ≠ .null ∧ value' ≠ .null ∧ Carries (read value) (read value')) :
    Carries (SchemaDdl.optional read v) (SchemaDdl.optional read v') := by
  have hvalue : ∀ value, value ≠ .null →
      SchemaDdl.optional read (some value) = (read value).map some := by
    intro value hnull
    cases value <;> first | exact absurd rfl hnull | rfl
  refine h.carries (fun value h => ?_) fun value value' h => ?_
  · obtain rfl := Option.some.inj (habsent.symm.trans h)
    rfl
  · obtain ⟨hnull, hnull', hcarries⟩ := hedit value value' h
    rw [hvalue value hnull, hvalue value' hnull']
    exact hcarries.map some

/-- A field that has a value when it is missing. What stands for the missing field has to read as
that value. -/
theorem withDefault {otherwise : α} {read : Json → Option α} {value : Json} (h : f.Turns v v')
    (habsent : f.absent = some value) (hread : read value = some otherwise)
    (hedit : ∀ value value', f.Edit value value' → Carries (read value) (read value')) :
    Carries (SchemaDdl.withDefault otherwise read v) (SchemaDdl.withDefault otherwise read v') := by
  refine h.carries (fun value h => ?_) hedit
  obtain rfl := Option.some.inj (habsent.symm.trans h)
  exact hread

end RecordField.Turns

/-- **An edit of a record is not noticed** by a reader that bears what it does to the fields. -/
theorem RecordEdit.carries {fields : List RecordField} {read : List (Option Json) → Option α}
    (hnames : (fields.map RecordField.name).Nodup)
    (hread : ∀ vs vs', FieldsTurn fields vs vs' → Carries (read vs) (read vs'))
    {j j' : Json} (h : RecordEdit fields j j') :
    Carries (j.fields? (fields.map RecordField.name) >>= read)
      (j'.fields? (fields.map RecordField.name) >>= read) := by
  intro x hx
  obtain ⟨vs, hvs, hx⟩ := Option.bind_eq_some_iff.mp hx
  obtain ⟨vs', hvs', hturn⟩ := h.fieldsTurn hnames hvs
  exact Option.bind_eq_some_iff.mpr ⟨vs', hvs', hread vs vs' hturn x hx⟩

/-- **An edit of an item is not noticed** by a reader of arrays whose reader of items does not
notice it. -/
theorem ListEdit.carries {Edit : Json → Json → Prop} {read : Json → Option α}
    (hedit : ∀ value value', Edit value value' → Carries (read value) (read value'))
    {j j' : Json} (h : ListEdit Edit j j') :
    Carries (listOfJson? read j) (listOfJson? read j') := by
  obtain ⟨hitem⟩ := h
  rw [listOfJson?, listOfJson?, List.mapM_append, List.mapM_append, List.mapM_cons, List.mapM_cons]
  exact (Carries.refl _).bind fun _ => ((hedit _ _ hitem).bind fun _ => .refl _).bind fun _ =>
    .refl _

end SchemaDdl
