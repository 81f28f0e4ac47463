import Mathlib.Data.List.Induction
import SchemaDdl.Schema.ColumnBuilder

/-!
# The Last Step Wins

A column is built from a name and a type by steps in any order. Most parts of the definition belong
to a few kinds of steps and are overwritten by each of them, so only the last of these counts. The
reference is different: its actions are written into the reference that is there, and a new
reference starts without any.

* `Setter.nullRule?`, `Setter.default?`, … — what a step writes to one part.
* `lastWritten` — what the last of the steps that write a part writes to it.
* `Records` — a column is what a list of steps says, part by part.

## Main results

* `build_overwrite` — a part that steps overwrite ends as the last of them wrote it.
* `build_references` — a reference keeps the last of the actions written after it.
* `records_build` — the steps that build a column are recorded by it.
-/

namespace SchemaDdl.Column

variable {α : Type}

/-! ### What a step writes -/

namespace Setter

/-- Whether a step settles if null is allowed. -/
def settlesNull : Setter → Bool
  | notNull | nullable | primaryKey => true
  | _ => false

/-- The default a step sets. -/
def default? : Setter → Option DefaultValue
  | defaultValue value => some value
  | _ => none

/-- The condition a step sets. -/
def check? : Setter → Option String
  | check sql => some sql
  | _ => none

/-- The collation a step sets. -/
def collation? : Setter → Option String
  | collation name => some name
  | _ => none

/-- The action on a deletion a step sets. -/
def deletion? : Setter → Option ReferentialAction
  | onDelete action => some action
  | _ => none

/-- The action on an update a step sets. -/
def update? : Setter → Option ReferentialAction
  | onUpdate action => some action
  | _ => none

/-- Whether a step refers to another column. -/
def refers : Setter → Bool
  | references _ _ => true
  | _ => false

end Setter

/-- What the **last** of the steps that write a part writes to it. -/
def lastWritten (write? : Setter → Option α) (steps : List Setter) : Option α :=
  (steps.filterMap write?).getLast?

/-- A step at the end that writes a part is the last to write it. -/
theorem lastWritten_snoc (write? : Setter → Option α) (steps : List Setter) (s : Setter) :
    lastWritten write? (steps ++ [s]) = (write? s).or (lastWritten write? steps) := by
  rw [lastWritten, lastWritten, List.filterMap_append, List.getLast?_append]
  cases h : write? s <;> simp [h]

/-! ### Runs of steps -/

/-- A column after one more step. -/
theorem build_snoc (c : Column) (steps : List Setter) (s : Setter) :
    c.build (steps ++ [s]) = (c.build steps).set s := by
  rw [build, List.foldl_append]
  rfl

/-- A part that no step writes stays as it was. -/
theorem build_frame (part : Column → α) (h : ∀ c s, part (set c s) = part c) (c : Column)
    (steps : List Setter) : part (c.build steps) = part c := by
  induction steps using List.reverseRecOn with
  | nil => rfl
  | append_singleton steps s ih => rw [build_snoc, h, ih]

/-- A mark that one step makes and none takes back is there if that step is, or from the start. -/
theorem build_mark (mark : Column → Bool) (call : Setter)
    (h : ∀ c s, mark (set c s) = true ↔ s = call ∨ mark c = true)
    (c : Column) (steps : List Setter) :
    mark (c.build steps) = true ↔ call ∈ steps ∨ mark c = true := by
  induction steps using List.reverseRecOn with
  | nil => simp [build]
  | append_singleton steps s ih =>
      rw [build_snoc, h, ih, List.mem_append, List.mem_singleton, ← or_assoc, eq_comm (a := s),
        or_comm (a := call = s)]

/-- A part that steps **overwrite** ends as the last of them wrote it. -/
theorem build_overwrite (part : Column → Option α) (write? : Setter → Option α)
    (h : ∀ c s, part (set c s) = (write? s).or (part c)) (c : Column) (steps : List Setter) :
    part (c.build steps) = (lastWritten write? steps).or (part c) := by
  induction steps using List.reverseRecOn with
  | nil => rfl
  | append_singleton steps s ih => rw [build_snoc, h, ih, lastWritten_snoc, Option.or_assoc]

/-- Null is forbidden after some steps if the last of them that settles it is not the one that
allows it. -/
theorem build_nullable_eq_false {c : Column} (hc : c.nullable = true) (steps : List Setter) :
    (c.build steps).nullable = false ↔
      ∃ s, (steps.filter Setter.settlesNull).getLast? = some s ∧ s ≠ .nullable := by
  induction steps using List.reverseRecOn with
  | nil => simp [build, hc]
  | append_singleton steps s ih =>
      rw [build_snoc, List.filter_append]
      cases s with
      | notNull | nullable | primaryKey => simp [set, Setter.settlesNull]
      | _ => simpa [set, Setter.settlesNull] using ih

/-! ### References -/

/-- A step that does not refer to another column writes its action, if it sets one, into the
reference that is there. -/
theorem references_set {s : Setter} (hs : s.refers = false) (c : Column) :
    (c.set s).references = c.references.map fun r =>
      { r with onDelete := s.deletion?.or r.onDelete, onUpdate := s.update?.or r.onUpdate } := by
  cases s with
  | references table column => cases hs
  | _ => cases h : c.references <;> simp [set, Setter.deletion?, Setter.update?, h]

/-- A reference is the one the **last** step that refers to a column starts, with the last of the
actions that are set after it. What is set before any such step is lost, and so is what is set for
an earlier one. -/
theorem build_references {c : Column} (hc : c.references = none) (steps : List Setter) :
    ((∀ s ∈ steps, s.refers = false) ∧ (c.build steps).references = none) ∨
      ∃ before table column after, steps = before ++ .references table column :: after ∧
        (∀ s ∈ after, s.refers = false) ∧
        (c.build steps).references =
          some { table, column, onDelete := lastWritten Setter.deletion? after,
                 onUpdate := lastWritten Setter.update? after } := by
  induction steps using List.reverseRecOn with
  | nil => exact .inl ⟨by simp, hc⟩
  | append_singleton steps s ih =>
      cases hs : s.refers with
      | true =>
          cases s with
          | references table column =>
              exact .inr ⟨steps, table, column, [], rfl, by simp, by rw [build_snoc]; rfl⟩
          | _ => cases hs
      | false =>
          rw [build_snoc, references_set hs]
          obtain ⟨hall, h⟩ | ⟨before, table, column, after, rfl, hall, h⟩ := ih
          · refine .inl ⟨?_, by rw [h]; rfl⟩
            simpa [or_imp, forall_and, hs] using hall
          · refine .inr ⟨before, table, column, after ++ [s], by simp, ?_, ?_⟩
            · simpa [or_imp, forall_and, hs] using hall
            · rw [h, lastWritten_snoc, lastWritten_snoc]
              rfl

/-! ### The column that is built -/

/-- A column **records** the steps taken on a name and a type: each part of it is what the steps
that concern this part leave behind. -/
structure Records (name : String) (dataType : DataType) (steps : List Setter) (c : Column) :
    Prop where
  /-- No step renames the column. -/
  name_eq : c.name = name
  /-- No step changes the type. -/
  dataType_eq : c.dataType = dataType
  /-- The column is a primary key if a step said so. -/
  primaryKey_iff : c.primaryKey = true ↔ .primaryKey ∈ steps
  /-- The values are unique if a step said so. -/
  unique_iff : c.unique = true ↔ .unique ∈ steps
  /-- The system numbers the values if a step said so. -/
  autoincrement_iff : c.autoincrement = true ↔ .autoincrement ∈ steps
  /-- Null is forbidden if the last step that settled it did not allow it. -/
  nullable_iff : c.nullable = false ↔
    ∃ s, (steps.filter Setter.settlesNull).getLast? = some s ∧ s ≠ .nullable
  /-- The default is the last one set. -/
  defaultValue_eq : c.defaultValue = lastWritten Setter.default? steps
  /-- The condition is the last one set. -/
  check_eq : c.check = lastWritten Setter.check? steps
  /-- The collation is the last one set. -/
  collation_eq : c.collation = lastWritten Setter.collation? steps
  /-- The reference is the last one started, with the last actions set after that. -/
  references_eq :
    ((∀ s ∈ steps, s.refers = false) ∧ c.references = none) ∨
      ∃ before table column after, steps = before ++ .references table column :: after ∧
        (∀ s ∈ after, s.refers = false) ∧
        c.references =
          some { table, column, onDelete := lastWritten Setter.deletion? after,
                 onUpdate := lastWritten Setter.update? after }

/-- The steps that build a column are **recorded** by it, whatever their order and number. -/
theorem records_build (name : String) (dataType : DataType) (steps : List Setter) :
    Records name dataType steps (build { name, dataType } steps) where
  name_eq := build_frame Column.name (fun c s => by cases s <;> rfl) _ steps
  dataType_eq := build_frame Column.dataType (fun c s => by cases s <;> rfl) _ steps
  primaryKey_iff := by
    simpa using build_mark Column.primaryKey .primaryKey
      (fun c s => by cases s <;> simp [set]) { name, dataType } steps
  unique_iff := by
    simpa using build_mark Column.unique .unique
      (fun c s => by cases s <;> simp [set]) { name, dataType } steps
  autoincrement_iff := by
    simpa using build_mark Column.autoincrement .autoincrement
      (fun c s => by cases s <;> simp [set]) { name, dataType } steps
  nullable_iff := build_nullable_eq_false rfl steps
  defaultValue_eq := by
    rw [build_overwrite Column.defaultValue Setter.default?, Option.or_none]
    intro c s
    cases s <;> rfl
  check_eq := by
    rw [build_overwrite Column.check Setter.check?, Option.or_none]
    intro c s
    cases s <;> rfl
  collation_eq := by
    rw [build_overwrite Column.collation Setter.collation?, Option.or_none]
    intro c s
    cases s <;> rfl
  references_eq := build_references rfl steps

-- An action that comes too early is lost, and so is one that a later reference replaces.
example (name : String) (dataType : DataType) :
    (build { name, dataType } [.onUpdate .cascade, .references "users" "id", .onDelete .cascade,
      .references "posts" "id", .onUpdate .setNull]).references =
      some { table := "posts", column := "id", onUpdate := some .setNull } :=
  rfl

-- The five ways to set a default write one part, whatever stands between them.
example (name : String) (dataType : DataType) :
    (build { name, dataType } [.defaultStr "a", .notNull, .defaultBool true, .unique,
      .defaultInt 1, .defaultValue .null, .defaultExpr "now()"]).defaultValue =
      some (.expression "now()") :=
  rfl

end SchemaDdl.Column
