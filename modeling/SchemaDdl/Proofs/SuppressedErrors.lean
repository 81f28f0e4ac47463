import Mathlib.Data.List.Forall2
import SchemaDdl.Proofs.Blocks
import SchemaDdl.Proofs.ErrorGuard
import SchemaDdl.Proofs.RunSteps

/-!
# Suppressed Errors

A statement may carry an error code that its executor has to take for success. Such a mark is
dangerous in both directions: where it is missing, a migration cannot be run again, and where there
is one too many, a real failure goes unnoticed. This module shows that there is exactly one kind of
statement with a mark: the one by which Oracle creates a table on the condition that there is none.

* `Operation.isConditional` — a table is created on that condition.
* `Plan.codes` — the error codes that the statements of a plan suppress.

## Main results

* `Operation.codes_plan` — no operation but the creation of a table suppresses anything.
* `Operation.suppress_of_block` — which statement of an operation is marked.
* `Statement.guarded_of_suppress_ne_none` — a guard stands in for a marked statement only.
* `suppressed_errors_allowed` — the marks of a unit, and of what the program prints with guards.
-/

namespace SchemaDdl

/-- An operation is **conditional** if it creates the table only where there is none. -/
def Operation.isConditional : Operation → Bool
  | createTable _ ifNotExists => ifNotExists
  | _ => false

/-- The words that create a table on the condition that there is none, as far as a dialect has
them. -/
def Dialect.conditionalWords : Dialect → String
  | postgresql | mysql | sqlite => "CREATE TABLE IF NOT EXISTS "
  | generic | oracle => "CREATE TABLE "

/-! ### Codes of a plan -/

/-- The **codes** that the statements of a plan suppress. A statement that waits for a name
suppresses nothing. -/
def Plan.codes : Plan → List (Option Int32)
  | emit emission => emission.statements.map Statement.suppress
  | named .. => [none]

/-- The statements of a block suppress the codes of the plan. -/
theorem Plan.suppress_of_block {t : Target} {p : Plan} {block : List Statement}
    (h : p.block t = .ok block) : block.map Statement.suppress = p.codes := by
  cases p with
  | emit em =>
      obtain ⟨-, -, rfl⟩ := Emission.outcome_eq_ok_iff.mp h
      rfl
  | named r sql =>
      rw [Plan.block] at h
      split at h
      · cases h
      · obtain ⟨-, -, rfl⟩ := Emission.outcome_eq_ok_iff.mp h
        rfl

namespace Target

/-- Columns that are added one by one suppress nothing. -/
theorem suppress_addEach {t : Target} {columns : List Column} {block : List Statement}
    (h : t.addEach columns = .ok block) : ∀ st ∈ block, st.suppress = none := by
  induction columns generalizing block with
  | nil =>
      obtain rfl := Except.ok.inj h
      exact List.forall_mem_nil _
  | cons c cs ih =>
      rw [addEach] at h
      split at h
      · cases h
      split at h
      · cases h
      · next rest hrest =>
          obtain rfl := Except.ok.inj h
          exact List.forall_mem_cons.mpr ⟨rfl, ih hrest⟩

/-- Columns that are added suppress nothing. -/
theorem suppress_addColumns (t : Target) (columns : List Column) :
    ∀ st ∈ (t.addColumns columns).statements, st.suppress = none := by
  by_cases hd : t.dialect = .sqlite
  · rw [addColumns_of_sqlite hd]
    cases hblock : t.addEach columns with
    | error e => exact List.forall_mem_nil _
    | ok block => exact suppress_addEach hblock
  · rw [addColumns_of_ne_sqlite hd]
    cases t.formatter.columnDefs columns with
    | error e => exact List.forall_mem_nil _
    | ok defs => exact List.forall_mem_singleton.mpr rfl

/-- A column that is restated suppresses nothing. -/
theorem suppress_changeColumnType {t : Target} (hd : t.dialect = .mysql) (column : Column) :
    ∀ st ∈ (t.changeColumnType column).statements, st.suppress = none := by
  rw [changeColumnType, hd]
  dsimp only
  cases t.formatter.columnDef column with
  | error e => exact List.forall_mem_nil _
  | ok defs => exact List.forall_mem_singleton.mpr rfl

/-- A table that is created on a condition has the words for it in front. -/
theorem exists_conditionalWords (t : Target) (defs : ColumnDefs) :
    ∃ text, (t.createStatement defs true).sql = t.dialect.conditionalWords ++ text := by
  have hwords : "CREATE TABLE " ++
      (if true && t.dialect.hasIfNotExists then "IF NOT EXISTS " else "") =
        t.dialect.conditionalWords := by
    cases t.dialect <;> rfl
  refine ⟨t.quotedTable ++ " (" ++ ", ".intercalate defs.sql ++ ")", ?_⟩
  rw [← hwords, ← String.append_assoc, ← String.append_assoc, ← String.append_assoc]
  rfl

end Target

namespace Operation

/-- **No operation but the creation of a table suppresses anything.** -/
theorem codes_plan (t : Target) {op : Operation}
    (hop : ∀ columns ifNotExists, op ≠ .createTable columns ifNotExists) :
    ∀ code ∈ (op.plan t).codes, code = none := by
  have hplan := op.planned t
  generalize op.plan t = p at hplan ⊢
  cases hplan with
  | lacking => exact List.forall_mem_nil _
  | named => exact List.forall_mem_singleton.mpr rfl
  | texts _ _ _ _ bare => exact List.forall_mem_map.mpr fun st hst => (bare st hst).2
  | creating columns ifNotExists => exact absurd rfl (hop columns ifNotExists)
  | adding columns => exact List.forall_mem_map.mpr (t.suppress_addColumns columns)
  | restating column hd =>
      exact List.forall_mem_map.mpr (Target.suppress_changeColumnType hd column)

end Operation

namespace Target

/-- The statement for the comment of a new table suppresses nothing, as that of the operation that
sets a comment. -/
theorem suppress_tableComment (t : Target) :
    ∀ st ∈ t.tableComment.statements, st.suppress = none := by
  rw [tableComment]
  cases t.comment with
  | none => exact List.forall_mem_nil _
  | some text =>
      have hcodes := @Operation.codes_plan t (.setComment (some text)) (by simp)
      exact List.forall_mem_map.mp hcodes

/-- A table that is created has the statement that creates it, and others that suppress nothing. -/
theorem statements_createTable {t : Target} {columns : List Column} {ifNotExists : Bool}
    (h : (t.createTable columns ifNotExists).failure = none) :
    ∃ defs rest, (t.createTable columns ifNotExists).statements =
        t.createStatement defs ifNotExists :: rest ∧
      ∀ st ∈ rest, st.suppress = none := by
  rw [createTable] at h ⊢
  cases hdefs : t.formatter.columnDefs columns with
  | error e => rw [hdefs] at h; cases h
  | ok defs => exact ⟨defs, _, rfl, t.suppress_tableComment⟩

end Target

namespace Operation

/-- **The marks of an operation.** Only its first statement can be marked, and it is marked exactly
if it creates a table on the condition that there is none and the dialect is Oracle. -/
theorem suppress_of_block {t : Target} {op : Operation} {block : List Statement}
    (h : op.block t = .ok block) :
    ∃ first rest, block = first :: rest ∧
      first.suppress = (if op.isConditional && t.dialect = .oracle then some (-955) else none) ∧
      (∀ st ∈ rest, st.suppress = none) ∧
      (op.isConditional = true → ∃ text, first.sql = t.dialect.conditionalWords ++ text) := by
  obtain ⟨-, hplan⟩ := block_eq_ok_iff.mp h
  by_cases hop : ∀ columns ifNotExists, op ≠ .createTable columns ifNotExists
  · have hcodes := codes_plan t hop
    rw [← Plan.suppress_of_block hplan, List.forall_mem_map] at hcodes
    have hconditional : op.isConditional = false := by
      cases op with
      | createTable columns ifNotExists => exact absurd rfl (hop columns ifNotExists)
      | _ => rfl
    obtain ⟨first, rest, rfl⟩ := List.length_pos_iff_exists_cons.mp (length_of_block h).2
    obtain ⟨hfirst, hrest⟩ := List.forall_mem_cons.mp hcodes
    refine ⟨first, rest, rfl, ?_, hrest, ?_⟩
    · rw [hfirst, hconditional]
      rfl
    · rw [hconditional]
      exact nofun
  · push Not at hop
    obtain ⟨columns, ifNotExists, rfl⟩ := hop
    obtain ⟨-, hfailure, rfl⟩ := Emission.outcome_eq_ok_iff.mp hplan
    obtain ⟨defs, rest, hstatements, hrest⟩ := Target.statements_createTable hfailure
    refine ⟨_, rest, hstatements, rfl, hrest, ?_⟩
    intro hconditional
    obtain rfl : ifNotExists = true := hconditional
    exact t.exists_conditionalWords defs

end Operation

/-! ### Units and files -/

/-- A unit has marked statements in Oracle only. -/
theorem MigrationUnit.suppress_of_compile {u : MigrationUnit} {d : Dialect} {out : List Statement}
    (h : u.compile d = .ok out) : ∀ st ∈ out, st.suppress ≠ none → d = .oracle := by
  have htable := table_ne_of_compile h
  obtain ⟨-, block, hout, -⟩ := u.compile_eq_flatMap d htable
  obtain ⟨rfl, halone⟩ := hout out h
  intro st hst hmarked
  obtain ⟨op, hop, hst⟩ := List.mem_flatMap.mp hst
  obtain ⟨hblock, -⟩ := halone op hop
  rw [Operation.compileAlone_eq_block htable] at hblock
  obtain ⟨first, rest, hcons, hfirst, hrest, -⟩ := Operation.suppress_of_block hblock
  rw [hcons] at hst
  rcases List.mem_cons.mp hst with rfl | hst
  · rw [hfirst] at hmarked
    split at hmarked
    · next hcond => exact of_decide_eq_true (Bool.and_eq_true_iff.mp hcond).2
    · exact absurd rfl hmarked
  · exact absurd (hrest st hst) hmarked

/-- Files have marked statements in Oracle only. -/
theorem suppress_of_compileFiles {files : Files} {d : Dialect} {paths : List String}
    {statements : List Statement} (h : compileFiles files d paths = .ok statements) :
    ∀ st ∈ statements, st.suppress ≠ none → d = .oracle := by
  rw [compileFiles_eq_collect] at h
  obtain ⟨blocks, hblocks, rfl⟩ := collect_eq_ok_iff.mp h
  intro st hst
  obtain ⟨block, hblock, hst⟩ := List.mem_flatten.mp hst
  have hstep : .ok block ∈ paths.flatMap (fileSteps files d) :=
    hblocks ▸ List.mem_map_of_mem hblock
  obtain ⟨path, -, hstep⟩ := List.mem_flatMap.mp hstep
  rw [fileSteps] at hstep
  split at hstep
  · cases List.mem_singleton.mp hstep
  · -- Loading yields no statement, so the block is that of a unit.
    rcases List.mem_cons.mp hstep with hload | hunit
    · obtain rfl := Except.ok.inj hload
      cases hst
    · obtain ⟨u, -, hcompile⟩ := List.mem_map.mp hunit
      exact MigrationUnit.suppress_of_compile hcompile st hst

/-- A statement without mark is not rewritten. -/
theorem Statement.guarded_of_suppress_eq_none {st : Statement} (h : st.suppress = none)
    (d : Dialect) : st.guarded d = st := by
  rw [guarded]
  cases d with
  | oracle => rw [(guard?_oracle st).1.mpr h, Option.getD_none]
  | generic | postgresql | mysql | sqlite => rfl

/-- A guard has neither a mark nor values. -/
theorem Statement.guarded_of_suppress_ne_none {st : Statement} (h : st.suppress ≠ none) :
    (st.guarded .oracle).suppress = none ∧ (st.guarded .oracle).bindings = [] := by
  obtain ⟨code, hcode⟩ := Option.ne_none_iff_exists'.mp h
  obtain ⟨g, hg, hbindings, hsuppress, -⟩ := (guard?_oracle st).2 code hcode
  rw [guarded, hg, Option.getD_some]
  exact ⟨hsuppress, hbindings⟩

/-- **Only idempotent creations suppress an error.** A unit that compiles is the concatenation of
what its operations compile to alone. Of these statements, the first one of an operation suppresses
the error -955 if the operation creates a table on the condition that there is none and the dialect
is Oracle, and no other statement suppresses anything; where the dialect has words for the
condition, the statement begins with them. When the program prints with guards, it prints the same
statements in the same order without a mark: those with one become guards, which bind nothing, and
those without one stay as they are, which in all dialects but Oracle are all of them. -/
theorem suppressed_errors_allowed (d : Dialect) :
    (∀ (u : MigrationUnit) (out : List Statement), u.compile d = .ok out →
      ∃ block : Operation → List Statement, out = u.operations.flatMap block ∧
        ∀ op ∈ u.operations, op.compileAlone (u.target d) = .ok (block op) ∧
          ∃ first rest, block op = first :: rest ∧
            first.suppress = (if op.isConditional && d = .oracle then some (-955) else none) ∧
            (∀ st ∈ rest, st.suppress = none) ∧
            (op.isConditional = true → ∃ text, first.sql = d.conditionalWords ++ text)) ∧
    ∀ files paths statements, compileFiles files d paths = .ok statements →
      (∀ format, Command.run files (.compile ⟨d, format, true, paths⟩) =
        { exit := 0, output := format.render (statements.map (·.guarded d)), error := none }) ∧
      List.Forall₂
        (fun st printed => printed.suppress = none ∧
          (st.suppress = none → printed = st) ∧ (st.suppress ≠ none → printed.bindings = []))
        statements (statements.map (·.guarded d)) ∧
      (d ≠ .oracle → statements.map (·.guarded d) = statements) := by
  refine ⟨?_, ?_⟩
  · intro u out hout
    have htable := MigrationUnit.table_ne_of_compile hout
    obtain ⟨-, block, hblocks, -⟩ := u.compile_eq_flatMap d htable
    obtain ⟨hflat, halone⟩ := hblocks out hout
    refine ⟨block, hflat, fun op hop => ?_⟩
    obtain ⟨hblock, -⟩ := halone op hop
    refine ⟨hblock, Operation.suppress_of_block (t := u.target d) ?_⟩
    rw [← hblock, Operation.compileAlone_eq_block htable]
  · intro files paths statements hstatements
    have horacle := suppress_of_compileFiles hstatements
    refine ⟨fun format => Command.run_of_ok hstatements, ?_, ?_⟩
    · rw [List.forall₂_map_right_iff, List.forall₂_same]
      intro st hst
      by_cases hmarked : st.suppress = none
      · rw [Statement.guarded_of_suppress_eq_none hmarked]
        exact ⟨hmarked, fun _ => rfl, fun h => absurd hmarked h⟩
      · obtain rfl := horacle st hst hmarked
        obtain ⟨hsuppress, hbindings⟩ := Statement.guarded_of_suppress_ne_none hmarked
        exact ⟨hsuppress, fun h => absurd h hmarked, fun _ => hbindings⟩
    · intro hd
      have hsame : ∀ st ∈ statements, st.guarded d = st := by
        intro st hst
        refine Statement.guarded_of_suppress_eq_none ?_ d
        by_contra hmarked
        exact hd (horacle st hst hmarked)
      rw [List.map_congr_left hsame, List.map_id']

/-- A table with a comment, created on the condition that there is none, and a column dropped after
it: Oracle suppresses the error of the first of three statements. In a file, with guards, the
statement has neither a mark nor its value any more. -/
theorem suppressed_errors_allowed_of_comment :
    let u : MigrationUnit :=
      { table := "users"
        comment := some "people"
        operations :=
          [.createTable [{ name := "id", dataType := .bigint
                           defaultValue := some (.raw "?" [.int 1]) }] true,
            .dropColumns ["age"]] }
    let files : Files := fun _ =>
      .ok "[\"users\",null,[[\"create_table\",[[\"id\",\"bigint\",true,\x7b\"raw\":[\"?\",[1]]\x7d]],true]]]"
    (∃ out, u.compile .oracle = .ok out ∧ out.map Statement.suppress = [some (-955), none, none] ∧
      ∃ block : Operation → List Statement, out = u.operations.flatMap block) ∧
    ∃ st, compileFiles files .oracle ["users.json"] = .ok [st] ∧
      st.suppress = some (-955) ∧ st.bindings.length = 1 ∧
      (st.guarded .oracle).suppress = none ∧ (st.guarded .oracle).bindings = [] := by
  intro u files
  obtain ⟨hunit, hfiles⟩ := suppressed_errors_allowed .oracle
  constructor
  · have hcodes : (u.compile .oracle).map (List.map Statement.suppress) =
        .ok [some (-955), none, none] := by decide +kernel
    cases hout : u.compile .oracle with
    | error e => rw [hout] at hcodes; cases hcodes
    | ok out =>
        rw [hout] at hcodes
        obtain ⟨block, hflat, -⟩ := hunit u out hout
        exact ⟨out, rfl, Except.ok.inj hcodes, block, hflat⟩
  · have hshape : (compileFiles files .oracle ["users.json"]).map
        (List.map fun st => (st.suppress, st.bindings.length)) = .ok [(some (-955), 1)] := by
      decide +kernel
    cases hstatements : compileFiles files .oracle ["users.json"] with
    | error e => rw [hstatements] at hshape; cases hshape
    | ok statements =>
        rw [hstatements] at hshape
        obtain ⟨-, hprinted, -⟩ := hfiles files ["users.json"] statements hstatements
        obtain ⟨st, rfl, hst⟩ := List.map_eq_singleton_iff.mp (Except.ok.inj hshape)
        obtain ⟨hcode, hlength⟩ := Prod.mk.inj hst
        obtain ⟨hsuppress, -, hbindings⟩ := (List.forall₂_cons.mp hprinted).1
        have hmarked : st.suppress ≠ none := by
          rw [hcode]
          exact nofun
        exact ⟨st, rfl, hcode, hlength, hsuppress, hbindings hmarked⟩

end SchemaDdl
