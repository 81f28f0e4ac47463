import SchemaDdl.Proofs.Refusal

/-!
# Warnings About Names

A name above the limit of the dialect is reported while an operation is compiled. The report is a
side effect: it is made when the name is resolved, before it is known whether the operation will
succeed, and it is not taken back when the operation fails. This module shows that the reports of a
unit are those of its operations in order, up to the first that fails, and when an operation makes
one.

* `Operation.warning?` — the report of an operation on a target.

Of all steps of a session, only the one that resolves a name reports anything
(`Session.warnings_carryOut`).

## Main results

* `warning?_eq_explicitTooLong_iff`, `warning?_eq_hashed_iff` — when a request is reported.
* `warnings_compile` — an operation reports what its request does, whatever comes of it.
* `exists_attempted` — operations in a row report one by one, and the first that fails is the last.
* `plan_waits_iff` — the operations that never resolve a name.
* `warnings_of_attempted` — the reports of a unit.
-/

namespace SchemaDdl

/-! ### The report of a request -/

namespace NameRequest

variable {r : NameRequest} {limit : Nat} {table : String}

/-- An explicit name is reported if it is above the limit. -/
theorem warning?_eq_explicitTooLong_iff {name : String} {n : Nat} :
    r.warning? limit table = some (.explicitTooLong name n) ↔
      r.explicit = some name ∧ limit < name.utf8ByteSize ∧ n = limit := by
  rw [warning?]
  cases r.explicit with
  | none =>
      refine iff_of_false ?_ fun h => nomatch h.1
      dsimp only
      split <;> nofun
  | some explicit =>
      dsimp only
      split
      · next hlong =>
          rw [Option.some.injEq, Option.some.injEq, Warning.explicitTooLong.injEq]
          constructor
          · rintro ⟨rfl, rfl⟩
            exact ⟨rfl, hlong, rfl⟩
          · rintro ⟨rfl, -, rfl⟩
            exact ⟨rfl, rfl⟩
      · next hshort =>
          refine iff_of_false nofun ?_
          rintro ⟨⟨⟩, hlong, -⟩
          exact hshort hlong

/-- A generated name is reported with its hash if the readable one is above the limit and hashes are
not. -/
theorem warning?_eq_hashed_iff (hlimit : hashedNameBytes ≤ limit) {candidate hash : String}
    {n : Nat} :
    r.warning? limit table = some (.hashed candidate hash n) ↔
      r.explicit = none ∧ candidate = candidateName r.kind table r.columns ∧
        limit < candidate.utf8ByteSize ∧ hash = hashedName candidate ∧ n = limit := by
  rw [warning?]
  cases r.explicit with
  | some explicit =>
      refine iff_of_false ?_ fun h => nomatch h.1
      dsimp only
      split <;> nofun
  | none =>
      have hfits : (hashedName (candidateName r.kind table r.columns)).utf8ByteSize ≤ limit :=
        (utf8ByteSize_hashedName _) ▸ hlimit
      simp only [hfits, decide_true, Bool.and_true, decide_eq_true_eq, true_and]
      split
      · next hlong =>
          rw [Option.some.injEq, Warning.hashed.injEq]
          constructor
          · rintro ⟨rfl, rfl, rfl⟩
            exact ⟨rfl, hlong, rfl, rfl⟩
          · rintro ⟨rfl, -, rfl, rfl⟩
            exact ⟨rfl, rfl, rfl⟩
      · next hshort =>
          refine iff_of_false nofun ?_
          rintro ⟨rfl, hlong, -, -⟩
          exact hshort hlong

/-- What is reported about a request on a target. -/
def warningOn? (r : NameRequest) (t : Target) : Option Warning :=
  r.warning? t.dialect.maxIdentifierBytes t.table

end NameRequest

/-- What an operation **reports** on a target, if it asks for a name. -/
def Operation.warning? (t : Target) (op : Operation) : Option Warning :=
  (op.plan t).request?.bind fun r => r.warningOn? t

/-! ### The reports of a session -/

namespace Session

/-- Resolving a name reports what there is to report about it, also when the name is refused. -/
theorem warnings_resolveName (s : Session) (r : NameRequest) :
    (s.resolveName r).warnings = (r.warningOn? s.target).toList := by
  rw [resolveName]
  dsimp only
  split
  · rfl
  · split <;> rfl

/-- Staging a statement reports nothing. -/
theorem warnings_push (s : Session) (st : Statement) : (s.push st).warnings = [] := by
  rw [push]
  split <;> rfl

/-- Staging statements reports nothing. -/
theorem warnings_pushAll (s : Session) (sts : List Statement) : (s.pushAll sts).warnings = [] := by
  induction sts generalizing s with
  | nil => rfl
  | cons st sts ih =>
      rw [pushAll]
      split
      · exact ih _
      · exact warnings_push s st

/-- An emission reports nothing, whether it fails or not. -/
theorem warnings_emit (s : Session) (em : Emission) : (s.emit em).warnings = [] := by
  have h := warnings_pushAll s em.statements
  rw [emit]
  split
  · next hpush _ => rw [hpush] at h; exact h
  · exact h

/-- **Only names are reported**: a plan reports what the name it waits for does. -/
theorem warnings_carryOut (s : Session) (p : Plan) :
    (s.carryOut p).warnings = (p.request?.bind fun r => r.warningOn? s.target).toList := by
  cases p with
  | emit em => exact warnings_emit s em
  | named r sql =>
      have h := warnings_resolveName s r
      rw [carryOut]
      split
      all_goals
        next hstep => rw [hstep] at h; exact h

/-- Settling a step takes back no report. -/
theorem warnings_settle (step : Step Unit) : (settle step).warnings = step.warnings := by
  rw [settle]
  split <;> rfl

/-- A well-formed operation makes its report, whatever comes of it. -/
theorem warnings_compile (s : Session) {op : Operation} (h : op.validate = .ok ()) :
    (s.compile op).warnings = (op.warning? s.target).toList := by
  rw [compile_of_valid h, warnings_settle, warnings_carryOut]
  rfl

/-- **Operations in a row** report one by one. Each of them is attempted if all of them compile, and
otherwise those up to the first that fails. The induction is on the operations, from any session
for the target. -/
theorem exists_attempted (s : Session) {ops : List Operation}
    (hvalid : ∀ op ∈ ops, op.validate = .ok ()) :
    ∃ attempted rest, ops = attempted ++ rest ∧
      (s.compileAll ops).warnings = attempted.filterMap (Operation.warning? s.target) ∧
      ((s.compileAll ops).result = .ok () ∧ rest = [] ∨
        ∃ e done failing, (s.compileAll ops).result = .error e ∧ attempted = done ++ [failing] ∧
          (s.compileAll done).result = .ok () ∧ (s.compileAll attempted).result = .error e) := by
  induction ops generalizing s with
  | nil => exact ⟨[], [], rfl, rfl, .inl ⟨rfl, rfl⟩⟩
  | cons op ops ih =>
      obtain ⟨hop, hops⟩ := List.forall_mem_cons.mp hvalid
      have hwarnings := s.warnings_compile hop
      cases hresult : (s.compile op).result with
      | error e =>
          have hall : ∀ ops', s.compileAll (op :: ops') = s.compile op := by
            intro ops'
            rw [compileAll, hresult]
          refine ⟨[op], ops, rfl, ?_, .inr ⟨e, [], op, ?_, rfl, rfl, ?_⟩⟩
          · rw [hall, hwarnings, List.filterMap_cons, List.filterMap_nil]
            cases op.warning? s.target <;> rfl
          · rw [hall, hresult]
          · rw [hall, hresult]
      | ok _ =>
          have hall : ∀ ops', (s.compileAll (op :: ops')).result =
              ((s.compile op).session.compileAll ops').result := by
            intro ops'
            rw [compileAll, hresult]
          obtain ⟨attempted, rest, rfl, hrest, hend⟩ := ih (s.compile op).session hops
          refine ⟨op :: attempted, rest, rfl, ?_, ?_⟩
          · rw [compileAll, hresult]
            dsimp only
            rw [hwarnings, hrest, target_compile, List.filterMap_cons]
            cases op.warning? s.target <;> rfl
          · obtain ⟨hok, hnil⟩ | ⟨e, done, failing, herror, rfl, hdone, hattempted⟩ := hend
            · exact .inl ⟨(hall _).trans hok, hnil⟩
            · exact .inr ⟨e, op :: done, failing, (hall _).trans herror, rfl, (hall _).trans hdone,
                (hall _).trans hattempted⟩

end Session

/-! ### Operations that resolve no name -/

/-- **Where no name is resolved.** An operation waits for no name if it concerns columns or comments
or the dialect does not support it. The same holds for dropping a primary key where the grammar
drops that of the table, and for adding one that the system names. -/
theorem Operation.request?_plan_eq_none_iff (t : Target) (op : Operation) :
    (op.plan t).request? = none ↔
      op.kind ∈ [.createTable, .addColumns, .dropColumns, .renameColumn, .changeColumnType,
        .setComment] ∨
      op.Unsupported t.dialect t.comment.isSome ∨
      (op.kind = .dropPrimaryKey ∧ (t.dialect = .mysql ∨ t.dialect = .oracle)) ∨
      ∃ key, op = .addPrimaryKey key ∧ key.name = none ∧ t.dialect = .oracle := by
  rw [request?_plan, ← isSome_missing?_iff]
  cases op with
  | createTable | addColumns | dropColumns | renameColumn | changeColumnType | setComment =>
      simp [request?, kind]
  | addIndex key | dropIndex key | addUnique key | dropUnique key =>
      cases t.dialect <;> simp [request?, kind, missing?]
  | addPrimaryKey key | dropPrimaryKey name | dropForeignKey key =>
      cases t.dialect <;> simp [request?, kind, missing?]
  | addForeignKey key =>
      cases t.dialect <;> simp [request?, kind, missing?, Option.isSome_iff_ne_none]

/-! ### The reports of a unit -/

namespace MigrationUnit

/-- Some operations of a well-formed unit are well formed as a unit of their own. They compile as
these operations do in a row, from a session that has only the target. -/
theorem compileLogged_part {u : MigrationUnit} (h : u.validate = .ok ()) (d : Dialect)
    {ops : List Operation} (hsub : ∀ op ∈ ops, op ∈ u.operations) :
    let step := Session.compileAll { target := u.target d } ops
    { u with operations := ops }.compileLogged d =
      (step.result.map fun _ => step.session.finish, step.warnings) := by
  obtain ⟨htable, hops⟩ := validate_eq_ok_iff.mp h
  have hvalid : ({ u with operations := ops } : MigrationUnit).validate = .ok () :=
    validate_eq_ok_iff.mpr ⟨htable, fun op hop => hops op (hsub op hop)⟩
  have hstart : Session.start (({ u with operations := ops } : MigrationUnit).target d) =
      .ok { target := u.target d } :=
    Session.start_eq_ok htable
  rw [compileLogged, hvalid, hstart]
  dsimp only
  cases (Session.compileAll { target := u.target d } ops).result <;> rfl

/-- **A well-formed unit** attempts its operations one by one, up to the first that fails, and
reports what the attempted ones report. -/
theorem exists_attempted {u : MigrationUnit} (h : u.validate = .ok ()) (d : Dialect) :
    ∃ attempted rest, u.operations = attempted ++ rest ∧
      (u.compileLogged d).2 = attempted.filterMap (Operation.warning? (u.target d)) ∧
      ((∃ out, u.compile d = .ok out) ∧ rest = [] ∨
        ∃ e done failing, u.compile d = .error e ∧ attempted = done ++ [failing] ∧
          (∃ out, { u with operations := done }.compile d = .ok out) ∧
          { u with operations := attempted }.compile d = .error e) := by
  obtain ⟨attempted, rest, happend, hwarnings, hend⟩ :=
    Session.exists_attempted { target := u.target d } (validate_eq_ok_iff.mp h).2
  have hok : ∀ ops, (∀ op ∈ ops, op ∈ u.operations) →
      (Session.compileAll { target := u.target d } ops).result = .ok () →
      ∃ out, { u with operations := ops }.compile d = .ok out := by
    intro ops hsub hresult
    exact ⟨_, by rw [compile, compileLogged_part h d hsub, hresult]; rfl⟩
  have herror : ∀ ops e, (∀ op ∈ ops, op ∈ u.operations) →
      (Session.compileAll { target := u.target d } ops).result = .error e →
      { u with operations := ops }.compile d = .error e := by
    intro ops e hsub hresult
    rw [compile, compileLogged_part h d hsub, hresult]
    rfl
  refine ⟨attempted, rest, happend, ?_, ?_⟩
  · have hwhole := compileLogged_part h d fun op (hop : op ∈ u.operations) => hop
    exact (congrArg Prod.snd hwhole).trans hwarnings
  · obtain ⟨hresult, hnil⟩ | ⟨e, done, failing, hresult, rfl, hdone, hattempted⟩ := hend
    · exact .inl ⟨hok u.operations (fun _ hop => hop) hresult, hnil⟩
    · refine .inr ⟨e, done, failing, herror u.operations e (fun _ hop => hop) hresult, rfl,
        hok done ?_ hdone, herror _ e ?_ hattempted⟩
      · intro op hop
        rw [happend]
        exact List.mem_append_left _ (List.mem_append_left _ hop)
      · intro op hop
        rw [happend]
        exact List.mem_append_left _ hop

/-- **The reports of a unit.** A unit that is refused by validation reports nothing. Of a
well-formed unit, the operations are attempted one by one up to the first that fails: those before
it compile as a unit of their own, and with it they fail in the same way. The reports are those of
the attempted operations in order, at most one each.

An operation reports its explicit name if it resolves one above the limit, and the readable name and
its hash if it resolves a generated name whose readable form is above the limit. It reports nothing
else, and nothing at all if it resolves no name, as the operations do that are listed last. -/
theorem warnings_of_attempted (u : MigrationUnit) (d : Dialect) :
    (∀ e, u.validate = .error e → u.compileLogged d = (.error e, [])) ∧
    (u.validate = .ok () →
      ∃ attempted rest, u.operations = attempted ++ rest ∧
        (u.compileLogged d).2 = attempted.filterMap (Operation.warning? (u.target d)) ∧
        ((∃ out, u.compile d = .ok out) ∧ rest = [] ∨
          ∃ e done failing, u.compile d = .error e ∧ attempted = done ++ [failing] ∧
            (∃ out, { u with operations := done }.compile d = .ok out) ∧
            { u with operations := attempted }.compile d = .error e)) ∧
    ∀ op : Operation,
      (op.plan (u.target d)).request? = op.request? d ∧
      (∀ name limit, op.warning? (u.target d) = some (.explicitTooLong name limit) ↔
        ∃ r, (op.plan (u.target d)).request? = some r ∧ r.explicit = some name ∧
          d.maxIdentifierBytes < name.utf8ByteSize ∧ limit = d.maxIdentifierBytes) ∧
      (∀ candidate hash limit,
        op.warning? (u.target d) = some (.hashed candidate hash limit) ↔
          ∃ r, (op.plan (u.target d)).request? = some r ∧ r.explicit = none ∧
            candidate = candidateName r.kind u.table r.columns ∧
            d.maxIdentifierBytes < candidate.utf8ByteSize ∧ hash = hashedName candidate ∧
            limit = d.maxIdentifierBytes) ∧
      ((op.plan (u.target d)).request? = none ↔
        op.kind ∈ [.createTable, .addColumns, .dropColumns, .renameColumn, .changeColumnType,
          .setComment] ∨
        op.Unsupported d u.comment.isSome ∨
        (op.kind = .dropPrimaryKey ∧ (d = .mysql ∨ d = .oracle)) ∨
        ∃ key, op = .addPrimaryKey key ∧ key.name = none ∧ d = .oracle) := by
  refine ⟨fun e he => by rw [compileLogged, he], fun hvalid => exists_attempted hvalid d,
    fun op => ⟨op.request?_plan (u.target d), ?_, ?_, op.request?_plan_eq_none_iff (u.target d)⟩⟩
  · intro name limit
    rw [Operation.warning?, Option.bind_eq_some_iff]
    exact exists_congr fun r => and_congr_right' NameRequest.warning?_eq_explicitTooLong_iff
  · intro candidate hash limit
    rw [Operation.warning?, Option.bind_eq_some_iff]
    exact exists_congr fun r => and_congr_right'
      (NameRequest.warning?_eq_hashed_iff (hashedNameBytes_le_maxIdentifierBytes d))

/-- A unit whose third operation needs the name that the second has. The first is reported for its
explicit name of 64 bytes, and the fourth, which is not attempted, is not. -/
theorem warnings_of_attempted_of_collision :
    let name := String.ofList (List.replicate 64 'n')
    let u : MigrationUnit :=
      { table := "users"
        operations :=
          [.addIndex ⟨["a"], some name⟩, .addIndex ⟨["b_c"], none⟩, .addIndex ⟨["b", "c"], none⟩,
            .addIndex ⟨["d"], some name⟩] }
    u.validate = .ok () ∧ (u.compile .postgresql).isOk = false ∧
      ∃ attempted rest, u.operations = attempted ++ rest ∧
        (u.compileLogged .postgresql).2 = [.explicitTooLong name 63] ∧
        attempted.filterMap (Operation.warning? (u.target .postgresql)) =
          [.explicitTooLong name 63] := by
  intro name u
  have hvalid : u.validate = .ok () := rfl
  have hwarnings : (u.compileLogged .postgresql).2 = [.explicitTooLong name 63] := by
    decide +kernel
  have herror : (u.compile .postgresql).isOk = false := by decide +kernel
  obtain ⟨attempted, rest, happend, hreports, -⟩ :=
    (warnings_of_attempted u .postgresql).2.1 hvalid
  exact ⟨hvalid, herror, attempted, rest, happend, hwarnings, hreports.symm.trans hwarnings⟩

end MigrationUnit

end SchemaDdl
