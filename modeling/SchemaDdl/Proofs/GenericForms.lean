import SchemaDdl.Proofs.Refusal

/-!
# Generic Forms

Most statements have one form that the dialects share, the generic one, and a dialect spells out
only what it does differently. This module states which operations have the generic form in which
dialects. Such an operation comes to the same statements or the same error as it does in the generic
dialect, as long as a name that is generated for it is the same under the limits of both.

* `Target.on` — a target in another dialect, with the formatter that it has.
* `Operation.HasGenericForm` — the operations with the generic form in a dialect.
* `Operation.plan_on` — such an operation has the same plan in the generic dialect.
* `Alike` — texts that the scanner takes for the same, so that either of them is accepted with the
  values of the other.

## Main results

* `compileAlone_on_eq` — an operation with the generic form compiles to the same in both dialects,
  and columns are added in Oracle as they are elsewhere, but with other words.
-/

namespace SchemaDdl

/-! ### Operations with the generic form -/

/-- A target in another dialect, with the formatter that it has. -/
def Target.on (t : Target) (d : Dialect) : Target :=
  { t with dialect := d }

/-- The operations with the **generic form** in a dialect, on a table with the given comment. -/
def Operation.HasGenericForm (d : Dialect) (comment : Option String) : Operation → Prop
  | createTable _ ifNotExists =>
    ifNotExists = false ∧
      (d = .postgresql ∨ d = .oracle ∨ (d = .mysql ∨ d = .sqlite) ∧ comment = none)
  | addColumns _ => d = .postgresql ∨ d = .mysql
  | dropColumns _ => d = .sqlite
  | renameColumn .. | addIndex _ => True
  | changeColumnType _ => False
  | addPrimaryKey key =>
    d = .postgresql ∨ d = .mysql ∨ d = .oracle ∧ key.name.isSome
  | dropPrimaryKey _ => d = .postgresql
  | dropIndex _ => d = .mysql
  | addUnique _ => d ≠ .sqlite
  | dropUnique _ => d = .postgresql ∨ d = .oracle
  | addForeignKey key =>
    d = .postgresql ∨ d = .mysql ∨
      d = .oracle ∧ key.onUpdate = none ∧ key.onDelete ∈ [none, some .cascade, some .setNull]
  | dropForeignKey _ => d = .postgresql ∨ d = .oracle
  | setComment _ => d = .postgresql ∨ d = .oracle

/-- **An operation with the generic form** has the same plan in the generic dialect. -/
theorem Operation.plan_on {t : Target} {d : Dialect} {op : Operation}
    (h : op.HasGenericForm d t.comment) : op.plan (t.on d) = op.plan (t.on .generic) := by
  obtain ⟨d', f, table, comment⟩ := t
  cases op with
  | createTable columns ifNotExists =>
      obtain ⟨rfl, h⟩ := h
      obtain rfl | rfl | ⟨rfl | rfl, hcomment⟩ := h
      · rfl
      · rfl
      · obtain rfl : comment = none := hcomment
        rfl
      · obtain rfl : comment = none := hcomment
        rfl
  | addColumns columns => obtain rfl | rfl := h <;> rfl
  | dropColumns columns =>
      obtain rfl : d = .sqlite := h
      rfl
  | renameColumn source target => rfl
  | changeColumnType column => cases h
  | addPrimaryKey key =>
      obtain ⟨columns, name⟩ := key
      obtain rfl | rfl | ⟨rfl, hname⟩ := h
      · rfl
      · rfl
      · cases name with
        | none => cases hname
        | some name => rfl
  | dropPrimaryKey name =>
      obtain rfl : d = .postgresql := h
      rfl
  | addIndex key => rfl
  | dropIndex key =>
      obtain rfl : d = .mysql := h
      rfl
  | addUnique key =>
      cases d with
      | sqlite => exact absurd rfl h
      | generic | postgresql | mysql | oracle => rfl
  | dropUnique key => obtain rfl | rfl := h <;> rfl
  | addForeignKey key =>
      obtain rfl | rfl | ⟨rfl, hupdate, hdelete⟩ := h
      · rfl
      · rfl
      · have hkey : (addForeignKey key).missing? .oracle false = none := by
          rw [← Option.not_isSome_iff_eq_none]
          intro hmissing
          rcases isSome_missingInOracle?_iff.mp hmissing with hu | hd
          · exact hu hupdate
          · exact hd hdelete
        rw [plan, plan, @Target.addForeignKey_of_supported (Target.on _ .oracle) key false hkey]
        rfl
  | dropForeignKey key => obtain rfl | rfl := h <;> rfl
  | setComment comment => obtain rfl | rfl := h <;> rfl

/-- A plan has the same block in both dialects if the name that it waits for is the same. -/
theorem Plan.block_on {t : Target} {d : Dialect} {p : Plan}
    (h : ∀ r ∈ p.request?, r.resolveOn (t.on d) = r.resolveOn (t.on .generic)) :
    p.block (t.on d) = p.block (t.on .generic) := by
  cases p with
  | emit em => rfl
  | named r sql =>
      rw [block, block, h r rfl]
      rfl

/-- An explicit name is the same in all dialects. -/
theorem NameRequest.resolveOn_on {t : Target} {d : Dialect} {r : NameRequest}
    (h : r.explicit = none → r.resolveOn (t.on d) = r.resolveOn (t.on .generic)) :
    r.resolveOn (t.on d) = r.resolveOn (t.on .generic) := by
  obtain ⟨kind, explicit, columns⟩ := r
  cases explicit with
  | none => exact h rfl
  | some name => rfl

/-- A fresh session for a table without a name is refused. -/
theorem Operation.compileAlone_of_table_eq {t : Target} (h : t.table = "") (op : Operation) :
    op.compileAlone t = .error (.invalid .emptyTable) := by
  rw [compileAlone, Session.start, h]
  rfl

/-- Operations with the same blocks on targets with the same table compile to the same. -/
theorem Operation.compileAlone_congr {t u : Target} (htable : t.table = u.table) {op : Operation}
    (h : op.block t = op.block u) : op.compileAlone t = op.compileAlone u := by
  by_cases ht : t.table = ""
  · rw [compileAlone_of_table_eq ht, compileAlone_of_table_eq (htable ▸ ht)]
  · rw [compileAlone_eq_block ht, compileAlone_eq_block (htable ▸ ht), h]

/-! ### Texts that scan alike -/

/-- A state of the scanner is **proper** if what is open in it is a quote. -/
def Scan.Proper (open? : Scan) : Prop :=
  ∀ q ∈ open?, isQuote q = true

/-- Every character leaves the scanner in a proper state. -/
theorem Scan.Proper.step {open? : Scan} (h : open?.Proper) (c : Char) : (open?.step c).Proper := by
  intro q hq
  cases open? with
  | some q' =>
      rw [Scan.step] at hq
      split at hq
      · cases hq
      · exact h q hq
  | none =>
      rw [Scan.step] at hq
      split at hq
      · next hc =>
          obtain rfl := Option.some.inj hq
          exact hc
      · cases hq

/-- Every text leaves the scanner in a proper state. -/
theorem Scan.Proper.after {open? : Scan} (h : open?.Proper) (cs : List Char) :
    (open?.after cs).Proper := by
  induction cs generalizing open? with
  | nil => exact h
  | cons c cs ih =>
      exact ih (h.step c)

/-- A plain character is passed over in every state, be a quote open or not. -/
theorem Scan.Proper.step_of_isPlain {open? : Scan} (h : open?.Proper) {c : Char}
    (hc : isPlain c = true) : open?.step c = open? ∧ Placeholder.isMark open? c = false := by
  have hquote := isQuote_of_isPlain hc
  cases open? with
  | none =>
      rw [Scan.step, hquote, if_neg Bool.false_ne_true]
      exact ⟨rfl, beq_eq_false_iff_ne.mpr (ne_mark_of_isPlain hc)⟩
  | some q =>
      refine ⟨if_neg ?_, rfl⟩
      rintro rfl
      rw [h c rfl] at hquote
      cases hquote

/-- Plain text is passed over in every state. -/
theorem Scan.Proper.after_of_plain {open? : Scan} (h : open?.Proper) {cs : List Char}
    (hcs : ∀ c ∈ cs, isPlain c = true) :
    open?.after cs = open? ∧ Placeholder.countFrom open? cs = 0 := by
  induction cs with
  | nil => exact ⟨rfl, rfl⟩
  | cons c cs ih =>
      obtain ⟨hc, hcs⟩ := List.forall_mem_cons.mp hcs
      obtain ⟨hstep, hmark⟩ := h.step_of_isPlain hc
      rw [after_cons, Placeholder.countFrom, hstep, hmark]
      exact ⟨(ih hcs).1, (Nat.zero_add _).trans (ih hcs).2⟩

/-- Two texts **scan alike** if they leave the scanner in the same state and have the same number of
placeholders, whatever stands before them. -/
def Alike (a b : String) : Prop :=
  ∀ open? : Scan, open?.Proper → open?.after a.toList = open?.after b.toList ∧
    Placeholder.countFrom open? a.toList = Placeholder.countFrom open? b.toList

namespace Alike

/-- A text scans like itself. -/
theorem refl (a : String) : Alike a a :=
  fun _ _ => ⟨rfl, rfl⟩

/-- Plain words scan alike. -/
theorem of_plain {a b : String} (ha : Plain a) (hb : Plain b) : Alike a b := by
  intro open? h
  obtain ⟨hafter, hcount⟩ := h.after_of_plain (plain_iff.mp ha)
  obtain ⟨hafter', hcount'⟩ := h.after_of_plain (plain_iff.mp hb)
  exact ⟨hafter.trans hafter'.symm, hcount.trans hcount'.symm⟩

/-- Texts scan alike if their parts do. -/
theorem append {a b c d : String} (hab : Alike a b) (hcd : Alike c d) :
    Alike (a ++ c) (b ++ d) := by
  intro open? h
  obtain ⟨hafter, hcount⟩ := hab open? h
  obtain ⟨hafter', hcount'⟩ := hcd _ (h.after a.toList)
  rw [String.toList_append, String.toList_append, Scan.after_append, Scan.after_append,
    Placeholder.countFrom_append, Placeholder.countFrom_append, ← hafter, hafter', hcount,
    hcount']
  exact ⟨rfl, rfl⟩

/-- Lists of texts scan alike if their elements do. -/
theorem intercalate {α : Type} (sep : String) {f g : α → String} {xs : List α}
    (h : ∀ x ∈ xs, Alike (f x) (g x)) :
    Alike (sep.intercalate (xs.map f)) (sep.intercalate (xs.map g)) := by
  induction xs with
  | nil => exact refl _
  | cons x xs ih =>
      obtain ⟨hx, hxs⟩ := List.forall_mem_cons.mp h
      cases xs with
      | nil => simpa only [List.map_cons, List.map_nil, String.intercalate_singleton] using hx
      | cons y ys =>
          simp only [List.map_cons, String.intercalate_cons_cons] at ih ⊢
          exact (hx.append (refl sep)).append (ih hxs)

/-- Texts that scan alike have as many placeholders. -/
theorem count_eq {a b : String} (h : Alike a b) : Placeholder.count a = Placeholder.count b :=
  (h none nofun).2

end Alike

/-! ### Columns that are added with other words -/

/-- The statement that adds columns with the given words in front of each of their fragments. -/
def Target.addingStatement (t : Target) (words : String) (defs : ColumnDefs) : Statement where
  sql := t.alter (", ".intercalate (defs.sql.map (words ++ ·)))
  bindings := defs.bindings

/-- What it comes to if columns are **added with the given words**: one statement, unless a column
cannot be written or the statement has not its values. -/
def Target.adding (t : Target) (words : String) (columns : List Column) :
    Except Error (List Statement) :=
  match t.formatter.columnDefs columns with
  | .error e => .error e
  | .ok defs =>
    (t.addingStatement words defs).checkBindings.map fun _ => [t.addingStatement words defs]

/-- Whatever plain words are in front, the statement has the same placeholders. -/
theorem Target.alike_addingStatement (t : Target) {words words' : String} (h : Plain words)
    (h' : Plain words') (defs : ColumnDefs) :
    Alike (t.addingStatement words defs).sql (t.addingStatement words' defs).sql := by
  have hfragment : ∀ fragment ∈ defs.sql, Alike (words ++ fragment) (words' ++ fragment) :=
    fun fragment _ => (Alike.of_plain h h').append (Alike.refl fragment)
  exact (Alike.refl _).append (Alike.intercalate ", " hfragment)

/-- Whatever plain words are in front, columns can be added or they cannot. -/
theorem Target.isOk_adding (t : Target) {words words' : String} (h : Plain words)
    (h' : Plain words') (columns : List Column) :
    (t.adding words columns).isOk = (t.adding words' columns).isOk := by
  rw [adding, adding]
  cases t.formatter.columnDefs columns with
  | error e => rfl
  | ok defs =>
      have hcheck : (t.addingStatement words defs).checkBindings = .ok () ↔
          (t.addingStatement words' defs).checkBindings = .ok () := by
        rw [Statement.checkBindings_eq_ok_iff, Statement.checkBindings_eq_ok_iff,
          (t.alike_addingStatement h h' defs).count_eq]
        rfl
      dsimp only
      cases hst : (t.addingStatement words defs).checkBindings with
      | ok _ => rw [hcheck.mp hst]; rfl
      | error e =>
          cases hst' : (t.addingStatement words' defs).checkBindings with
          | ok _ => rw [hcheck.mpr hst'] at hst; cases hst
          | error e' => rfl

/-- A single statement is its own outcome if it has its values. -/
theorem Emission.outcome_singleton (st : Statement) :
    Emission.outcome { statements := [st] } = st.checkBindings.map fun _ => [st] := by
  rw [outcome, checkAll, checkAll]
  cases st.checkBindings <;> rfl

/-- Wherever columns are added at once, they are added with the words of the dialect. -/
theorem Operation.block_addColumns {t : Target} (h : t.dialect ≠ .sqlite) {columns : List Column}
    (hvalid : (addColumns columns).validate = .ok ()) :
    (addColumns columns).block t = t.adding t.dialect.addColumnWords columns := by
  rw [block, hvalid]
  dsimp only
  rw [plan, Plan.block, Target.addColumns_of_ne_sqlite h, Target.adding]
  cases t.formatter.columnDefs columns with
  | error e => rfl
  | ok defs => exact Emission.outcome_singleton _

/-! ### Fresh sessions -/

/-- **Operations with the generic form agree in both dialects.** In fresh sessions on the same
table, with the same formatter and comment, such an operation comes to the same statements or the
same error in the dialect as in the generic one. The only condition is that a name that is
generated for it is the same under both limits; nothing is asked of an explicit name, or where no
name is needed. Oracle adds columns in a form of its own, which is the generic one with other words
in front of each clause, and it does so whenever the generic dialect does. -/
theorem Operation.compileAlone_on_eq (t : Target) :
    (∀ (d : Dialect) (op : Operation), op.HasGenericForm d t.comment →
      (∀ r ∈ op.request? d, r.explicit = none →
        r.resolveOn (t.on d) = r.resolveOn (t.on .generic)) →
      op.compileAlone (t.on d) = op.compileAlone (t.on .generic)) ∧
    (t.table ≠ "" → ∀ columns, (addColumns columns).validate = .ok () →
      (addColumns columns).compileAlone (t.on .generic) = t.adding "ADD COLUMN " columns ∧
      (addColumns columns).compileAlone (t.on .oracle) = t.adding "ADD " columns ∧
      (t.adding "ADD " columns).isOk = (t.adding "ADD COLUMN " columns).isOk) := by
  constructor
  · intro d op hform hname
    refine compileAlone_congr (t := t.on d) (u := t.on .generic) rfl ?_
    have hplan := plan_on hform
    have hblock : (op.plan (t.on d)).block (t.on d) = (op.plan (t.on d)).block (t.on .generic) := by
      refine Plan.block_on fun r hr => NameRequest.resolveOn_on (hname r ?_)
      rwa [request?_plan] at hr
    rw [block, block, hblock, hplan]
  · intro htable columns hvalid
    refine ⟨?_, ?_, t.isOk_adding (by rfl) (by rfl) columns⟩
    · have hgeneric : (t.on .generic).dialect ≠ .sqlite := Dialect.noConfusion
      rw [compileAlone_eq_block (t := t.on .generic) htable]
      exact block_addColumns hgeneric hvalid
    · have horacle : (t.on .oracle).dialect ≠ .sqlite := Dialect.noConfusion
      rw [compileAlone_eq_block (t := t.on .oracle) htable]
      exact block_addColumns horacle hvalid

/-- A unique constraint whose generated name fits in Oracle as well, and a column in both forms. -/
theorem Operation.compileAlone_on_eq_of_short_name :
    let t : Target :=
      { dialect := .generic, formatter := Dialect.generic.formatter, table := "users" }
    let age : Column := { name := "age", dataType := .integer }
    let op : Operation := .addUnique ⟨["email"], none⟩
    op.HasGenericForm .oracle t.comment ∧
      (∀ r ∈ op.request? .oracle, r.explicit = none →
        r.resolveOn (t.on .oracle) = r.resolveOn (t.on .generic)) ∧
      op.compileAlone (t.on .oracle) = op.compileAlone (t.on .generic) ∧
      t.table ≠ "" ∧ (addColumns [age]).validate = .ok () ∧
      ((addColumns [age]).compileAlone (t.on .oracle)).toOption.map (·.map Statement.sql) =
        some ["ALTER TABLE \"users\" ADD \"age\" INTEGER"] := by
  intro t age op
  obtain ⟨hsame, hadd⟩ := Operation.compileAlone_on_eq t
  have hform : op.HasGenericForm .oracle t.comment := by
    rw [HasGenericForm]
    decide
  have hname : ∀ r ∈ op.request? .oracle, r.explicit = none →
      r.resolveOn (t.on .oracle) = r.resolveOn (t.on .generic) := by
    rintro r ⟨⟩ -
    decide +kernel
  have htable : t.table ≠ "" := by decide
  have hvalid : (addColumns [age]).validate = .ok () := by decide +kernel
  obtain ⟨-, horacle, -⟩ := hadd htable [age] hvalid
  refine ⟨hform, hname, hsame .oracle op hform hname, htable, hvalid, ?_⟩
  rw [horacle]
  decide +kernel

end SchemaDdl
