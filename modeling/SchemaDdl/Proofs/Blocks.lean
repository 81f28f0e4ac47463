import Mathlib.Data.List.Perm.Basic
import SchemaDdl.Compile
import SchemaDdl.Proofs.Outcome

/-!
# Units as Blocks

A unit compiles to the statements of its operations, one block after the other. Each block is what
the operation compiles to alone, whatever stands before or after it. The only thing that one
operation can do to another is to own the generated name that the other one needs, and this works
both ways: two operations either get along in every order or in none.

* `Operation.compileAlone` — an operation compiled in a fresh session.
* `Coherent` — no generated name belongs to two lists of columns.
* `Operation.count_plan` — the number of statements of a plan.

## Main results

* `compileAll_eq_ok_iff` — operations compile one after the other exactly if each has its block and
  the names are coherent. The invariant of the induction is that the names that the session has
  given out are coherent, and only their membership matters (`Coherent.congr`).
* `compile_eq_flatMap` — a unit is the concatenation of its blocks, in every order of its
  operations.
-/

namespace SchemaDdl

/-! ### Coherent names -/

/-- Generated names are **coherent** if none of them belongs to two lists of columns. -/
def Coherent (names : List GeneratedName) : Prop :=
  ∀ g ∈ names, ∀ h ∈ names, g.kind = h.kind → g.name = h.name → g.columns = h.columns

/-- There is nothing incoherent in no names. -/
theorem coherent_nil : Coherent [] :=
  fun _ hg => absurd hg List.not_mem_nil

/-- Fewer names are still coherent. -/
theorem Coherent.mono {a b : List GeneratedName} (hb : Coherent b) (h : ∀ g ∈ a, g ∈ b) :
    Coherent a :=
  fun g hg g' hg' => hb g (h g hg) g' (h g' hg')

/-- Whether names are coherent depends on which names there are, not on their order. -/
theorem Coherent.congr {a b : List GeneratedName} (h : ∀ g, g ∈ a ↔ g ∈ b) :
    Coherent a ↔ Coherent b :=
  ⟨fun ha => ha.mono fun g => (h g).mpr, fun hb => hb.mono fun g => (h g).mp⟩

/-- A session with coherent names admits a name exactly if it is coherent with them. -/
theorem admits_iff {s : Session} (hs : Coherent s.generated) (g : GeneratedName) :
    s.unstage.Admits g ↔ Coherent (s.generated ++ [g]) := by
  have hnames : s.unstage.generated ++ s.unstage.stagedNames = s.generated := List.append_nil _
  constructor
  · intro hadmits
    have howned : ∀ h ∈ s.generated, h.kind = g.kind → h.name = g.name →
        h.columns = g.columns := by
      intro h hh hkind hname
      have hsome : s.unstage.owner? h.kind h.name ≠ none :=
        Session.owner?_ne_none (by rw [hnames]; exact hh)
      rw [hkind, hname] at hsome
      obtain ⟨owner, howner⟩ := Option.ne_none_iff_exists'.mp hsome
      have hmem := Session.mem_of_owner? howner
      rw [hnames] at hmem
      exact (hs h hh _ hmem hkind hname).trans (hadmits owner howner)
    intro h hh h' hh' hkind hname
    rw [List.mem_append, List.mem_singleton] at hh hh'
    rcases hh with hh | rfl <;> rcases hh' with hh' | rfl
    · exact hs h hh h' hh' hkind hname
    · exact howned h hh hkind hname
    · exact (howned h' hh' hkind.symm hname.symm).symm
    · rfl
  · intro hcoherent owner howner
    have hmem := Session.mem_of_owner? howner
    rw [hnames] at hmem
    exact hcoherent _ (List.mem_append_left _ hmem) g (List.mem_append_right _ List.mem_cons_self)
      rfl rfl

/-! ### Operations in a row -/

/-- The statements of an operation on a target, none if it has no block. -/
def Operation.statements (t : Target) (op : Operation) : List Statement :=
  match op.block t with
  | .ok block => block
  | .error _ => []

/-- The generated names that operations need on a target. -/
def generatedNames (t : Target) (ops : List Operation) : List GeneratedName :=
  ops.filterMap fun op => op.generated? t

/-- The name of one more operation goes in front. -/
theorem mem_generatedNames_cons {t : Target} {op : Operation} {ops : List Operation}
    {g : GeneratedName} :
    g ∈ generatedNames t (op :: ops) ↔ g ∈ op.generated? t ∨ g ∈ generatedNames t ops := by
  simp [generatedNames]

namespace Session

/-- One operation compiles after coherent names exactly if it has a block and its name is coherent
with them. -/
theorem compile_eq_ok_iff_coherent {s : Session} (hs : Coherent s.generated) (op : Operation) :
    (s.compile op).result = .ok () ↔
      (∃ block, op.block s.target = .ok block) ∧
        Coherent (s.generated ++ (op.generated? s.target).toList) := by
  rw [compile_eq_ok_iff]
  refine and_congr_right fun _ => ?_
  cases hg : op.generated? s.target with
  | none => simpa using hs
  | some g => simpa using admits_iff hs g

/-- **Operations compile one after the other** exactly if each has its block and all names are
coherent, with each other and with those that the session has given out. -/
theorem compileAll_eq_ok_iff {s : Session} (hs : Coherent s.generated) (ops : List Operation) :
    (s.compileAll ops).result = .ok () ↔
      (∀ op ∈ ops, ∃ block, op.block s.target = .ok block) ∧
        Coherent (s.generated ++ generatedNames s.target ops) := by
  induction ops generalizing s with
  | nil => simpa [compileAll, generatedNames] using hs
  | cons op ops ih =>
      have hop := compile_eq_ok_iff_coherent hs op
      have hhead : Coherent (s.generated ++ generatedNames s.target (op :: ops)) →
          Coherent (s.generated ++ (op.generated? s.target).toList) := by
        refine fun h => h.mono fun g hg => ?_
        rw [List.mem_append, Option.mem_toList] at hg
        rw [List.mem_append, mem_generatedNames_cons]
        exact hg.imp_right Or.inl
      rw [compileAll, List.forall_mem_cons]
      dsimp only
      cases hr : (s.compile op).result with
      | error e =>
          rw [hr] at hop
          dsimp only
          rw [hr]
          refine iff_of_false nofun ?_
          rintro ⟨⟨hblock, -⟩, hnames⟩
          cases hop.mpr ⟨hblock, hhead hnames⟩
      | ok _ =>
          obtain ⟨hblock, hcoherent⟩ := hop.mp hr
          -- After the operation the session owns its name too, so the invariant is kept.
          have hmem := mem_generated_compile hr
          have hnext : Coherent (s.compile op).session.generated := by
            refine hcoherent.mono fun g hg => ?_
            rw [List.mem_append, Option.mem_toList]
            exact (hmem g).mp hg
          dsimp only
          rw [ih hnext, target_compile, and_iff_right hblock]
          refine and_congr_right fun _ => Coherent.congr fun g => ?_
          rw [List.mem_append, hmem g, List.mem_append, mem_generatedNames_cons, or_assoc]

/-- Operations that compile one after the other add their statements in order. -/
theorem statements_compileAll {s : Session} {ops : List Operation}
    (h : (s.compileAll ops).result = .ok ()) :
    (s.compileAll ops).session.statements =
      s.statements ++ ops.flatMap fun op => op.statements s.target := by
  induction ops generalizing s with
  | nil => exact (List.append_nil _).symm
  | cons op ops ih =>
      rw [compileAll] at h ⊢
      dsimp only at h ⊢
      cases hr : (s.compile op).result with
      | error e =>
          rw [hr] at h
          dsimp only at h
          rw [hr] at h
          cases h
      | ok _ =>
          rw [hr] at h
          obtain ⟨⟨block, hblock⟩, -⟩ := compile_eq_ok_iff.mp hr
          have hstatements : op.statements s.target = block := by
            rw [Operation.statements, hblock]
          dsimp only at h ⊢
          rw [ih h, target_compile, statements_compile hr hblock, List.flatMap_cons, hstatements,
            List.append_assoc]

end Session

/-! ### The number of statements -/

/-- The number of statements of a plan that no error ends. -/
def Plan.count : Plan → Nat
  | emit emission => emission.statements.length
  | named .. => 1

/-- The block of a plan has as many statements as the plan. -/
theorem Plan.length_of_block {t : Target} {p : Plan} {block : List Statement}
    (h : p.block t = .ok block) : p.failure? = none ∧ block.length = p.count := by
  cases p with
  | emit em =>
      obtain ⟨-, hfailure, rfl⟩ := Emission.outcome_eq_ok_iff.mp h
      exact ⟨hfailure, rfl⟩
  | named r sql =>
      rw [Plan.block] at h
      split at h
      · cases h
      · obtain ⟨-, -, rfl⟩ := Emission.outcome_eq_ok_iff.mp h
        exact ⟨rfl, rfl⟩

/-- There is a statement for each column that is added on its own. -/
theorem Target.length_addEach {t : Target} {columns : List Column} {block : List Statement}
    (h : t.addEach columns = .ok block) : block.length = columns.length := by
  induction columns generalizing block with
  | nil =>
      obtain rfl := Except.ok.inj h
      rfl
  | cons c cs ih =>
      rw [addEach] at h
      split at h
      · cases h
      split at h
      · cases h
      · next rest hrest =>
          obtain rfl := Except.ok.inj h
          rw [List.length_cons, List.length_cons, ih hrest]

/-- A table is created by one statement, and another one sets its comment. -/
theorem Target.length_createTable {t : Target} {columns : List Column} {ifNotExists : Bool}
    (h : (t.createTable columns ifNotExists).failure = none) :
    (t.createTable columns ifNotExists).statements.length =
      if t.comment.isSome then 2 else 1 := by
  obtain ⟨d, f, table, comment⟩ := t
  rw [createTable] at h ⊢
  dsimp only at h ⊢
  cases hdefs : f.columnDefs columns with
  | error e => rw [hdefs] at h; cases h
  | ok defs =>
      rw [hdefs] at h
      cases comment with
      | none => rfl
      | some text => cases d <;> first | rfl | cases h

/-- Columns are added by one statement, or by one for each column in SQLite. -/
theorem Target.length_addColumns {t : Target} {columns : List Column}
    (h : (t.addColumns columns).failure = none) :
    (t.addColumns columns).statements.length =
      if t.dialect = .sqlite then columns.length else 1 := by
  split
  · next hd =>
      rw [addColumns_of_sqlite hd] at h ⊢
      cases hsts : t.addEach columns with
      | error e => rw [hsts] at h; cases h
      | ok block => exact length_addEach hsts
  · next hd =>
      rw [addColumns_of_ne_sqlite hd] at h ⊢
      cases hdefs : t.formatter.columnDefs columns with
      | error e => rw [hdefs] at h; cases h
      | ok defs => rfl

/-- A column is restated by one statement. -/
theorem Target.length_changeColumnType {t : Target} (hd : t.dialect = .mysql) {column : Column}
    (h : (t.changeColumnType column).failure = none) :
    (t.changeColumnType column).statements.length = 1 := by
  rw [changeColumnType, hd] at h ⊢
  dsimp only at h ⊢
  cases hdef : t.formatter.columnDef column with
  | error e => rw [hdef] at h; cases h
  | ok defs => rfl

namespace Operation

/-- The plan of an operation that no error ends has the statements of the operation. -/
theorem count_plan {t : Target} {op : Operation} (h : (op.plan t).failure? = none) :
    (op.plan t).count = op.statementCount t.dialect t.comment.isSome := by
  have hplan := op.planned t
  generalize op.plan t = p at h hplan ⊢
  cases hplan with
  | lacking => cases h
  | named _ _ _ count => exact count.symm
  | texts _ _ _ count => exact count.symm
  | creating columns ifNotExists => exact Target.length_createTable h
  | adding columns => exact Target.length_addColumns h
  | restating column hd => exact Target.length_changeColumnType hd h

/-- A well-formed operation has at least one statement. -/
theorem one_le_statementCount {op : Operation} (h : op.validate = .ok ()) (d : Dialect)
    (commented : Bool) : 1 ≤ op.statementCount d commented := by
  have hcolumns : ∀ (kind : OperationKind) (columns : List String),
      requireColumns kind columns = .ok () → 1 ≤ columns.length := by
    intro kind columns hrequire
    cases columns with
    | nil => cases hrequire
    | cons c cs => exact Nat.le_add_left 1 _
  cases op with
  | createTable columns ifNotExists => rw [statementCount]; split <;> omega
  | addColumns columns =>
      have hlength := hcolumns _ _ h
      rw [List.length_map] at hlength
      rw [statementCount]
      split
      · exact hlength
      · exact Nat.le_refl 1
  | dropColumns columns =>
      rw [statementCount]
      split
      · exact hcolumns _ _ h
      · exact Nat.le_refl 1
  | _ => exact Nat.le_refl 1

/-- **No operation is dropped**: its block has its number of statements, and that is not zero. -/
theorem length_of_block {t : Target} {op : Operation} {block : List Statement}
    (h : op.block t = .ok block) :
    block.length = op.statementCount t.dialect t.comment.isSome ∧ 1 ≤ block.length := by
  obtain ⟨hvalid, hplan⟩ := block_eq_ok_iff.mp h
  obtain ⟨hfailure, hlength⟩ := Plan.length_of_block hplan
  rw [hlength, count_plan hfailure]
  exact ⟨rfl, one_le_statementCount hvalid _ _⟩

end Operation

/-! ### Units -/

/-- The statements of an operation that is compiled in a **fresh session**. -/
def Operation.compileAlone (t : Target) (op : Operation) : Except Error (List Statement) :=
  match Session.start t with
  | .error e => .error e
  | .ok s => (s.compile op).result.map fun _ => (s.compile op).session.finish

/-- A session starts for a table with a name. -/
theorem Session.start_eq_ok {t : Target} (h : t.table ≠ "") :
    Session.start t = .ok { target := t } := by
  rw [start, String.isEmpty_eq_false_iff.mpr h, if_neg Bool.false_ne_true]

/-- A session that is started has nothing but its target. -/
theorem Session.eq_of_start {t : Target} {s : Session} (h : Session.start t = .ok s) :
    s = { target := t } := by
  rw [start] at h
  split at h
  · cases h
  · exact (Except.ok.inj h).symm

/-- What an operation compiles to in a fresh session is its block. -/
theorem Operation.compileAlone_eq_block {t : Target} (h : t.table ≠ "") (op : Operation) :
    op.compileAlone t = op.block t := by
  have hadmits : ∀ g ∈ op.generated? t, ({ target := t } : Session).unstage.Admits g :=
    fun g _ => (admits_iff coherent_nil g).mpr fun _ hg _ hg' => by
      rw [List.nil_append, List.mem_singleton] at hg hg'
      rw [hg, hg']
      exact fun _ _ => rfl
  have hresult := @Session.compile_result_of_admits { target := t } op hadmits
  rw [compileAlone, Session.start_eq_ok h]
  dsimp only
  rw [hresult]
  cases hb : op.block t with
  | error e => rfl
  | ok block =>
      rw [hb] at hresult
      exact congrArg Except.ok (Session.statements_compile hresult hb)

namespace MigrationUnit

/-- A unit is well formed exactly if its table has a name and its operations are well formed. -/
theorem validate_eq_ok_iff {u : MigrationUnit} :
    u.validate = .ok () ↔ u.table ≠ "" ∧ ∀ op ∈ u.operations, op.validate = .ok () := by
  have hforM : ∀ ops : List Operation,
      ops.forM Operation.validate = .ok () ↔ ∀ op ∈ ops, op.validate = .ok () := by
    intro ops
    induction ops with
    | nil => exact iff_of_true rfl (List.forall_mem_nil _)
    | cons op ops ih =>
        have hcons : (op :: ops).forM Operation.validate =
            op.validate >>= fun _ => ops.forM Operation.validate := rfl
        rw [List.forall_mem_cons, ← ih, hcons]
        cases op.validate with
        | error e => exact iff_of_false nofun fun h => by cases h.1
        | ok _ => exact (and_iff_right rfl).symm
  rw [validate]
  split
  · next hempty => exact iff_of_false nofun fun h => h.1 (String.isEmpty_iff.mp hempty)
  · next hempty =>
      rw [hforM, and_iff_right fun htable => hempty (String.isEmpty_iff.mpr htable)]

/-- A unit that compiles is for a table with a name. -/
theorem table_ne_of_compile {u : MigrationUnit} {d : Dialect} {out : List Statement}
    (h : u.compile d = .ok out) : u.table ≠ "" := by
  rw [compile, compileLogged] at h
  cases hvalid : u.validate with
  | error e => rw [hvalid] at h; cases h
  | ok _ => exact (validate_eq_ok_iff.mp hvalid).1

/-- A unit compiles exactly if its operations have their blocks and coherent names, and then to the
blocks in order. -/
theorem compile_eq_ok_iff {u : MigrationUnit} {d : Dialect} (hu : u.table ≠ "")
    {out : List Statement} :
    u.compile d = .ok out ↔
      ((∀ op ∈ u.operations, ∃ block, op.block (u.target d) = .ok block) ∧
        Coherent (generatedNames (u.target d) u.operations)) ∧
      out = u.operations.flatMap fun op => op.statements (u.target d) := by
  have hall := @Session.compileAll_eq_ok_iff { target := u.target d } coherent_nil u.operations
  rw [List.nil_append] at hall
  have hstart : Session.start (u.target d) = .ok { target := u.target d } := Session.start_eq_ok hu
  rw [← hall, compile, compileLogged]
  cases hvalid : u.validate with
  | error e =>
      refine iff_of_false nofun ?_
      rintro ⟨h, -⟩
      have hops : ∀ op ∈ u.operations, op.validate = .ok () := fun op hop =>
        (Operation.block_eq_ok_iff.mp ((hall.mp h).1 op hop).choose_spec).1
      rw [validate_eq_ok_iff.mpr ⟨hu, hops⟩] at hvalid
      cases hvalid
  | ok _ =>
      rw [hstart]
      dsimp only
      cases hresult : (Session.compileAll { target := u.target d } u.operations).result with
      | error e => exact iff_of_false nofun fun h => by cases h.1
      | ok _ =>
          have hstatements := Session.statements_compileAll hresult
          rw [and_iff_right rfl]
          dsimp only
          rw [Session.finish, hstatements, Except.ok.injEq]
          exact eq_comm

/-- When a unit compiles at all. -/
theorem exists_compile_eq_ok_iff {u : MigrationUnit} {d : Dialect} (hu : u.table ≠ "") :
    (∃ out, u.compile d = .ok out) ↔
      (∀ op ∈ u.operations, ∃ block, op.block (u.target d) = .ok block) ∧
        Coherent (generatedNames (u.target d) u.operations) := by
  simp only [compile_eq_ok_iff hu, exists_and_left, exists_eq, and_true]

/-- **A unit compiles to the concatenation of its operations.** It compiles exactly if each of its
operations compiles alone, and no generated name is needed for two lists of columns. There is one
block for each operation, which is what the operation compiles to alone and has its number of
statements, and the unit is the concatenation of these blocks. With its operations in any other
order, the unit compiles just as well, to the same blocks in that order. -/
theorem compile_eq_flatMap (u : MigrationUnit) (d : Dialect) (hu : u.table ≠ "") :
    ((∃ out, u.compile d = .ok out) ↔
      (∀ op ∈ u.operations, ∃ block, op.compileAlone (u.target d) = .ok block) ∧
        Coherent (generatedNames (u.target d) u.operations)) ∧
    ∃ block : Operation → List Statement,
      (∀ out, u.compile d = .ok out →
        out = u.operations.flatMap block ∧
        ∀ op ∈ u.operations, op.compileAlone (u.target d) = .ok (block op) ∧
          (block op).length = op.statementCount d u.comment.isSome ∧ 1 ≤ (block op).length) ∧
      ∀ ops, ops.Perm u.operations →
        ((∃ out, { u with operations := ops }.compile d = .ok out) ↔ ∃ out, u.compile d = .ok out) ∧
        ∀ out, { u with operations := ops }.compile d = .ok out → out = ops.flatMap block := by
  have halone : ∀ op : Operation, op.compileAlone (u.target d) = op.block (u.target d) :=
    Operation.compileAlone_eq_block hu
  refine ⟨?_, Operation.statements (u.target d), ?_, ?_⟩
  · simp only [halone]
    exact exists_compile_eq_ok_iff hu
  · intro out hout
    obtain ⟨⟨hblocks, -⟩, hflat⟩ := (compile_eq_ok_iff hu).mp hout
    refine ⟨hflat, fun op hop => ?_⟩
    obtain ⟨block, hblock⟩ := hblocks op hop
    have hstatements : op.statements (u.target d) = block := by
      rw [Operation.statements, hblock]
    rw [halone, hstatements]
    exact ⟨hblock, Operation.length_of_block hblock⟩
  · intro ops hperm
    have hv : ({ u with operations := ops } : MigrationUnit).table ≠ "" := hu
    refine ⟨?_, fun out hout => ((compile_eq_ok_iff hv).mp hout).2⟩
    rw [exists_compile_eq_ok_iff hv, exists_compile_eq_ok_iff hu]
    refine and_congr ?_ (Coherent.congr fun g => ?_)
    · exact forall_congr' fun op => imp_congr_left hperm.mem_iff
    · exact (hperm.filterMap _).mem_iff

/-- A unit that compiles, and with it the same operations in reverse order. -/
theorem compile_eq_flatMap_reverse :
    let u : MigrationUnit :=
      { table := "users", operations := [.dropColumns ["age", "size"], .renameColumn "a" "b"] }
    u.table ≠ "" ∧
      ∃ out, { u with operations := u.operations.reverse }.compile .sqlite = .ok out := by
  intro u
  have hu : u.table ≠ "" := by decide
  have hok : (u.compile .sqlite).isOk = true := by decide +kernel
  obtain ⟨-, block, -, hperm⟩ := compile_eq_flatMap u .sqlite hu
  obtain ⟨hreverse, -⟩ := hperm _ (List.reverse_perm _)
  refine ⟨hu, hreverse.mpr ?_⟩
  generalize u.compile .sqlite = result at hok
  cases result with
  | error e => cases hok
  | ok out => exact ⟨out, rfl⟩

end MigrationUnit

end SchemaDdl
