import SchemaDdl.Proofs.Binding
import SchemaDdl.Proofs.FittingNames
import SchemaDdl.Proofs.GenericForms

/-!
# Columns Added One by One

SQLite adds one column a statement, and the generic dialect all of them in one. The columns are
written by the same formatter, so both take the same text and the same values from a column. But
placeholders are checked statement by statement, in the one case for each column on its own and in
the other for all columns together, where a placeholder too many in one column might make up for a
value too many in another. It never does: a stock formatter refuses a column whose default has too
few or too many values, and whatever else it takes over brings in placeholders but no values.

* `Dialect.addClause` — the clause that adds a column.
* `addOne_accepted_iff`, `addAll_accepted_iff` — the placeholders of the statements on both sides.
* `block_sqlite_eq_ok_iff`, `block_generic_eq_ok_iff`, `block_of_columnDefs_error` — what both
  dialects come to.

## Main results

* `addColumns_agree` — sessions in both dialects accept the same columns, with the same clauses and
  values, and report the same column that cannot be written.
-/

namespace SchemaDdl

/-! ### Statements -/

/-- The clause that adds a column, outside Oracle. -/
def Dialect.addClause (d : Dialect) (c : Column) : String :=
  "ADD COLUMN " ++ d.fragment c

/-- The statement that adds a single column. -/
def Target.addOne (t : Target) (d : Dialect) (c : Column) : Statement where
  sql := t.alter (d.addClause c)
  bindings := c.bindings

/-- The statement that adds all columns at once. -/
def Target.addAll (t : Target) (d : Dialect) (cs : List Column) : Statement where
  sql := t.alter (", ".intercalate (cs.map d.addClause))
  bindings := cs.flatMap Column.bindings

section Columns

variable {d : Dialect} {t : Target} {cs : List Column}

/-- The text of a statement depends on the table and the formatter, and not on the dialect. -/
theorem Target.alter_eq_stock (ht : t.formatter = d.formatter) (change : String) :
    t.alter change = (Target.stock d t.table none).alter change := by
  rw [alter, quotedTable, ht, alter_stock]
  rfl

/-- The placeholders of a clause are loose ones, and one for each value. -/
theorem marks_addClause {c : Column} (hclosed : c.Closed d) (hbound : c.Bound) :
    Marks (d.addClause c) (c.looseMarks d + c.bindings.length) :=
  Marks.inert_append (Plain.inert rfl) (marks_fragment hclosed hbound)

/-- A single column is accepted exactly if it has no loose placeholders. -/
theorem addOne_accepted_iff (ht : t.formatter = d.formatter) {c : Column} (hclosed : c.Closed d)
    (hbound : c.Bound) :
    Placeholder.count (t.addOne d c).sql = (t.addOne d c).bindings.length ↔
      c.looseMarks d = 0 := by
  rw [Target.addOne, Target.alter_eq_stock ht,
    (Target.marks_alter (marks_addClause hclosed hbound)).count_eq]
  exact Nat.add_eq_right

/-- **Columns do not make up for one another**: all of them at once are accepted exactly if none of
them has loose placeholders. -/
theorem addAll_accepted_iff (ht : t.formatter = d.formatter) (hclosed : ∀ c ∈ cs, c.Closed d)
    (hbound : ∀ c ∈ cs, c.Bound) :
    Placeholder.count (t.addAll d cs).sql = (t.addAll d cs).bindings.length ↔
      ∀ c ∈ cs, c.looseMarks d = 0 := by
  have hclauses := marks_intercalate Target.inert_comma fun c hc =>
    marks_addClause (hclosed c hc) (hbound c hc)
  rw [Target.addAll, Target.alter_eq_stock ht, (Target.marks_alter hclauses).count_eq,
    List.length_flatMap]
  exact sum_map_add_eq_iff cs _ _

/-! ### Blocks -/

/-- SQLite's statements for columns that can be written. -/
theorem block_of_sqlite (hdialect : t.dialect = .sqlite) (ht : t.formatter = d.formatter)
    (hvalid : (Operation.addColumns cs).validate = .ok ()) (hbound : ∀ c ∈ cs, c.Bound) :
    (Operation.addColumns cs).block t =
      Emission.outcome { statements := cs.map (t.addOne d) } := by
  have hone : ∀ c, t.addOneStatement ⟨[d.fragment c], c.bindings⟩ = t.addOne d c := by
    intro c
    rw [Target.addOneStatement, hdialect, String.intercalate_singleton]
    rfl
  rw [Operation.block, hvalid]
  dsimp only [Operation.plan, Plan.block]
  rw [Target.addColumns_of_sqlite hdialect, Target.addEach_of_bound ht hbound]
  simp only [hone]
  rfl

/-- The statement of the generic dialect for columns that can be written. -/
theorem block_of_generic (hdialect : t.dialect = .generic) (ht : t.formatter = d.formatter)
    (hvalid : (Operation.addColumns cs).validate = .ok ()) (hbound : ∀ c ∈ cs, c.Bound) :
    (Operation.addColumns cs).block t = Emission.outcome { statements := [t.addAll d cs] } := by
  have hall : t.addStatement ⟨cs.map d.fragment, cs.flatMap Column.bindings⟩ = t.addAll d cs := by
    rw [Target.addStatement, hdialect, List.map_map]
    rfl
  rw [Operation.block, hvalid]
  dsimp only [Operation.plan, Plan.block]
  rw [Target.addColumns, hdialect]
  dsimp only
  rw [ht, columnDefs_of_bound hbound, ← hall]

/-- **In every dialect, a column that cannot be written is reported**, before anything else. -/
theorem block_of_columnDefs_error (ht : t.formatter = d.formatter) {e : Error}
    (hvalid : (Operation.addColumns cs).validate = .ok ())
    (he : d.formatter.columnDefs cs = .error e) :
    (Operation.addColumns cs).block t = .error e := by
  rw [Operation.block, hvalid]
  dsimp only [Operation.plan, Plan.block]
  by_cases hd : t.dialect = .sqlite
  · have hcolumn : ColumnDefs.inOrder t.formatter.columnDef cs = .error e := by
      rw [ht]
      exact he
    rw [Target.addColumns_of_sqlite hd, Target.addEach_eq_error_iff.mpr hcolumn]
    rfl
  · rw [Target.addColumns_of_ne_sqlite hd, ht, he]
    rfl

/-- Columns have a block exactly if they can be written and have no loose placeholders, where this
is what it takes for the statements `sts` to be accepted. -/
theorem block_eq_ok_iff_of_statements {sts block : List Statement}
    (ht : t.formatter = d.formatter) (hvalid : (Operation.addColumns cs).validate = .ok ())
    (hblock : (∀ c ∈ cs, c.Bound) →
      (Operation.addColumns cs).block t = Emission.outcome { statements := sts })
    (haccepted : (∀ c ∈ cs, c.Bound) →
      ((∀ st ∈ sts, Placeholder.count st.sql = st.bindings.length) ↔
        ∀ c ∈ cs, c.looseMarks d = 0)) :
    (Operation.addColumns cs).block t = .ok block ↔
      (∀ c ∈ cs, c.Bound ∧ c.looseMarks d = 0) ∧ block = sts := by
  by_cases hbound : ∀ c ∈ cs, c.Bound
  · rw [hblock hbound, Emission.outcome_eq_ok_iff, haccepted hbound, forall₂_and,
      and_iff_right hbound, and_iff_right rfl]
  · obtain ⟨e, he⟩ := columnDefs_of_not_bound hbound d
    rw [block_of_columnDefs_error ht hvalid he]
    exact iff_of_false nofun fun h => hbound fun c hc => (h.1 c hc).1

/-- **What SQLite comes to.** -/
theorem block_sqlite_eq_ok_iff (hdialect : t.dialect = .sqlite) (ht : t.formatter = d.formatter)
    (hvalid : (Operation.addColumns cs).validate = .ok ()) (hclosed : ∀ c ∈ cs, c.Closed d)
    {block : List Statement} :
    (Operation.addColumns cs).block t = .ok block ↔
      (∀ c ∈ cs, c.Bound ∧ c.looseMarks d = 0) ∧ block = cs.map (t.addOne d) := by
  refine block_eq_ok_iff_of_statements ht hvalid (block_of_sqlite hdialect ht hvalid) ?_
  intro hbound
  rw [List.forall_mem_map]
  exact forall₂_congr fun c hc => addOne_accepted_iff ht (hclosed c hc) (hbound c hc)

/-- **What the generic dialect comes to.** -/
theorem block_generic_eq_ok_iff (hdialect : t.dialect = .generic) (ht : t.formatter = d.formatter)
    (hvalid : (Operation.addColumns cs).validate = .ok ()) (hclosed : ∀ c ∈ cs, c.Closed d)
    {block : List Statement} :
    (Operation.addColumns cs).block t = .ok block ↔
      (∀ c ∈ cs, c.Bound ∧ c.looseMarks d = 0) ∧ block = [t.addAll d cs] := by
  refine block_eq_ok_iff_of_statements ht hvalid (block_of_generic hdialect ht hvalid) ?_
  intro hbound
  rw [List.forall_mem_singleton]
  exact addAll_accepted_iff ht hclosed hbound

end Columns

/-! ### Sessions -/

/-- **Columns are added one by one as they are all at once.** Take a session in SQLite and one in
the generic dialect, on the same table and with the stock formatter of any dialect, and columns of
which none leaves a quote open. The columns are added in both sessions or in neither. If they are
added, SQLite gets a statement for each column, in order, with the clause that the generic statement
has for it between commas; and the values of the generic statement are those of SQLite's, one
statement after the other. If some column cannot be written, both sessions report the error of the
same one. -/
theorem addColumns_agree {d : Dialect} {s g : Session} {cs : List Column}
    (hs : s.target.dialect = .sqlite) (hg : g.target.dialect = .generic)
    (hsf : s.target.formatter = d.formatter) (hgf : g.target.formatter = d.formatter)
    (htable : s.target.table = g.target.table) (hne : cs ≠ []) (hnames : ∀ c ∈ cs, c.name ≠ "")
    (hclosed : ∀ c ∈ cs, c.Closed d) :
    ((s.compile (.addColumns cs)).result = .ok () ↔
      (g.compile (.addColumns cs)).result = .ok ()) ∧
    ((s.compile (.addColumns cs)).result = .ok () →
      ∃ block st, s.Emits (.addColumns cs) block ∧ g.Emits (.addColumns cs) [st] ∧
        block.map Statement.sql =
          cs.map (fun c => "ALTER TABLE " ++ d.wrap g.target.table ++ " " ++ d.addClause c) ∧
        st.sql = "ALTER TABLE " ++ d.wrap g.target.table ++ " " ++
          ", ".intercalate (cs.map d.addClause) ∧
        st.bindings = block.flatMap Statement.bindings) ∧
    ((∃ c ∈ cs, ∃ e, d.formatter.columnDef c = .error e) →
      ∃ c ∈ cs, ∃ e, d.formatter.columnDef c = .error e ∧
        (s.compile (.addColumns cs)).result = .error e ∧
        (g.compile (.addColumns cs)).result = .error e) := by
  have hvalid : (Operation.addColumns cs).validate = .ok () := by
    refine requireColumns_eq_ok_iff.mpr ⟨fun hnil => hne (List.map_eq_nil_iff.mp hnil), ?_⟩
    intro hmem
    obtain ⟨c, hc, hname⟩ := List.mem_map.mp hmem
    exact hnames c hc hname
  have hnone : ∀ r : Session, ∀ n ∈ (Operation.addColumns cs).generated? r.target,
      r.unstage.Admits n := by
    intro r n hgen
    rw [generated?_of_definesColumns rfl] at hgen
    cases hgen
  have hsblock := @block_sqlite_eq_ok_iff d s.target cs hs hsf hvalid hclosed
  have hgblock := @block_generic_eq_ok_iff d g.target cs hg hgf hvalid hclosed
  refine ⟨?_, ?_, ?_⟩
  · rw [Session.compile_eq_ok_iff, Session.compile_eq_ok_iff, and_iff_left (hnone s),
      and_iff_left (hnone g)]
    simp only [hsblock, hgblock, exists_and_left, exists_eq, and_true]
  · intro hok
    obtain ⟨⟨block, hblock⟩, -⟩ := Session.compile_eq_ok_iff.mp hok
    obtain ⟨haccepted, rfl⟩ := hsblock.mp hblock
    have hgok := hgblock.mpr ⟨haccepted, rfl⟩
    refine ⟨_, _, Session.emits_iff.mpr ⟨hblock, hnone s⟩, Session.emits_iff.mpr ⟨hgok, hnone g⟩,
      ?_, ?_, ?_⟩
    · rw [List.map_map]
      refine List.map_congr_left fun c _ => ?_
      change s.target.alter (d.addClause c) = _
      rw [Target.alter_eq_stock hsf, Target.alter_stock, htable]
    · rw [Target.addAll, Target.alter_eq_stock hgf, Target.alter_stock]
    · rw [List.flatMap_map]
      rfl
  · rintro ⟨c, hc, e, he⟩
    have hnot : ¬ ∀ c ∈ cs, c.Bound := by
      intro hbound
      rw [columnDef_of_bound (hbound c hc)] at he
      cases he
    obtain ⟨e, he⟩ := columnDefs_of_not_bound hnot d
    obtain ⟨c, hc, hce⟩ := ColumnDefs.inOrder_error he
    refine ⟨c, hc, e, hce, ?_, ?_⟩
    · rw [Session.compile_result_of_admits (hnone s),
        block_of_columnDefs_error hsf hvalid he]
      rfl
    · rw [Session.compile_result_of_admits (hnone g),
        block_of_columnDefs_error hgf hvalid he]
      rfl

/-- A column with a value for its default and one with a question mark in a literal, in the spelling
of PostgreSQL. -/
theorem addColumns_agree_of_default :
    let size : Column :=
      { name := "size", dataType := .integer, defaultValue := some (.raw "abs(?)" [.int 5]) }
    let note : Column :=
      { name := "note", dataType := .text, check := some "note <> '?'" }
    let s : Session :=
      { target := { dialect := .sqlite, formatter := Dialect.postgresql.formatter,
                    table := "files" } }
    let g : Session :=
      { target := { dialect := .generic, formatter := Dialect.postgresql.formatter,
                    table := "files" } }
    (∀ c ∈ [size, note], c.name ≠ "" ∧ c.Closed .postgresql) ∧
      (g.compile (.addColumns [size, note])).result = .ok () ∧
      (s.compile (.addColumns [size, note])).result = .ok () := by
  intro size note s g
  have hnames : ∀ c ∈ [size, note], c.name ≠ "" := by decide
  have hclosed : ∀ c ∈ [size, note], c.Closed .postgresql := by
    refine List.forall_mem_cons.mpr ⟨⟨nofun, ?_⟩, List.forall_mem_singleton.mpr ⟨?_, nofun⟩⟩
    · rintro sql bindings ⟨⟩
      rfl
    · rintro sql hsql
      obtain rfl : sql = "note <> '?'" := List.mem_singleton.mp hsql
      rw [QuoteClosed]
      decide
  have hgeneric : (g.compile (.addColumns [size, note])).result = .ok () := by decide +kernel
  obtain ⟨hagree, -, -⟩ := @addColumns_agree .postgresql s g [size, note] rfl rfl rfl rfl rfl
    (List.cons_ne_nil _ _) hnames hclosed
  exact ⟨fun c hc => ⟨hnames c hc, hclosed c hc⟩, hgeneric, hagree.mpr hgeneric⟩

end SchemaDdl
