import Mathlib.Tactic.Push
import SchemaDdl.Proofs.PlanForms
import SchemaDdl.Session.Compile

/-!
# The Outcome of an Operation

What a session makes of an operation splits in two. The statements come from the target and the
operation alone; the session decides only whether a generated name is free. This module states both
parts without the staging, and shows that compiling is the two of them together.

* `Operation.block` — the statements of an operation on a target, or the first error on the way.
* `Operation.generated?` — the generated name that an operation needs.
* `Session.Admits` — a generated name is free, or belongs to the same columns already.

## Main results

* `Session.unstage_compile_of_error` — an operation that fails leaves nothing behind.
* `Session.compile_eq_ok_iff` — an operation compiles exactly if it has a block and its name is
  admitted.
* `Session.emits_iff`, `Session.mem_generated_compile` — what it adds to the session then.
-/

namespace SchemaDdl

/-! ### Statements of a plan -/

/-- Whether statements are accepted one after the other; the first one that is not is reported. -/
def checkAll : List Statement → Except Error Unit
  | [] => .ok ()
  | statement :: rest =>
    match statement.checkBindings with
    | .error e => .error e
    | .ok () => checkAll rest

/-- The statements of an emission if all of them are accepted and no error ends it. -/
def Emission.outcome (emission : Emission) : Except Error (List Statement) :=
  match checkAll emission.statements, emission.failure with
  | .error e, _ => .error e
  | .ok (), some e => .error e
  | .ok (), none => .ok emission.statements

/-- Statements are accepted exactly if each has one value for each placeholder. -/
theorem checkAll_eq_ok_iff {sts : List Statement} :
    checkAll sts = .ok () ↔ ∀ st ∈ sts, Placeholder.count st.sql = st.bindings.length := by
  induction sts with
  | nil => exact iff_of_true rfl (List.forall_mem_nil _)
  | cons st sts ih =>
      rw [List.forall_mem_cons, ← st.checkBindings_eq_ok_iff, ← ih, checkAll]
      cases st.checkBindings with
      | error e => exact iff_of_false nofun fun h => by cases h.1
      | ok _ => exact (and_iff_right rfl).symm

/-- An emission has an outcome exactly if each of its statements has its values and no error ends
it, and then the outcome is all of its statements. -/
theorem Emission.outcome_eq_ok_iff {em : Emission} {block : List Statement} :
    em.outcome = .ok block ↔
      (∀ st ∈ em.statements, Placeholder.count st.sql = st.bindings.length) ∧
        em.failure = none ∧ block = em.statements := by
  rw [← checkAll_eq_ok_iff, Emission.outcome]
  cases checkAll em.statements with
  | error e => exact iff_of_false nofun fun h => by cases h.1
  | ok _ =>
      rw [and_iff_right rfl]
      cases em.failure with
      | some e => exact iff_of_false nofun fun h => by cases h.1
      | none => rw [and_iff_right rfl, Except.ok.injEq, eq_comm]

/-- A single text is its own outcome if it has no placeholder. -/
theorem Emission.outcome_sql (text : String) :
    (Emission.sql text).outcome =
      ({ sql := text } : Statement).checkBindings.map fun _ => [{ sql := text }] := by
  rw [Emission.sql, Emission.outcome, checkAll, checkAll]
  cases ({ sql := text } : Statement).checkBindings <;> rfl

/-- The name that a request gets on a target, without quotes. -/
def NameRequest.resolveOn (r : NameRequest) (t : Target) : Except Error String :=
  r.resolve t.dialect.maxIdentifierBytes t.table

/-- The generated name that a request leads to, if it gives none itself. -/
def NameRequest.generated? (r : NameRequest) (t : Target) : Option GeneratedName :=
  match r.explicit, r.resolveOn t with
  | none, .ok name => some ⟨r.kind, name, r.columns⟩
  | _, _ => none

namespace Plan

/-- The name that a plan waits for. -/
def request? : Plan → Option NameRequest
  | emit _ => none
  | named request _ => some request

/-- The statements of a plan, whoever owns the name that it asks for. -/
def block (t : Target) : Plan → Except Error (List Statement)
  | emit emission => emission.outcome
  | named request sql =>
    match request.resolveOn t with
    | .error e => .error e
    | .ok name => (Emission.sql (sql (t.formatter.wrap name))).outcome

/-- The error that ends a plan in any case. -/
def failure? : Plan → Option Error
  | emit emission => emission.failure
  | named .. => none

/-- The texts of a plan, given the name that it waits for. -/
def texts (t : Target) (name : String) : Plan → List String
  | emit emission => emission.statements.map Statement.sql
  | named _ sql => [sql (t.formatter.wrap name)]

/-- The generated name that a plan needs. -/
def generated? (t : Target) (p : Plan) : Option GeneratedName :=
  p.request?.bind fun r => r.generated? t

end Plan

namespace Operation

/-- The statements of an operation on a target, or the first error on the way. -/
def block (t : Target) (op : Operation) : Except Error (List Statement) :=
  match op.validate with
  | .error e => .error e
  | .ok () => (op.plan t).block t

/-- The generated name that an operation needs on a target. -/
def generated? (t : Target) (op : Operation) : Option GeneratedName :=
  (op.request? t.dialect).bind fun r => r.generated? t

/-- The plan of an operation waits for the name that the operation asks for. -/
theorem request?_plan (t : Target) (op : Operation) :
    (op.plan t).request? = op.request? t.dialect := by
  have hplan := op.planned t
  generalize op.plan t = p at hplan ⊢
  cases hplan with
  | lacking _ request => exact request.symm
  | named _ request => exact request.symm
  | texts _ request => exact request.symm
  | creating columns ifNotExists => rfl
  | adding columns => rfl
  | restating column => rfl

/-- The name that an operation gets on a target, if it asks for one. -/
def resolvedName? (t : Target) (op : Operation) : Option String :=
  (op.request? t.dialect).bind fun r => (r.resolveOn t).toOption

/-- The plan of an operation needs the generated name of the operation. -/
theorem generated?_plan (t : Target) (op : Operation) :
    (op.plan t).generated? t = op.generated? t := by
  rw [Plan.generated?, request?_plan, generated?]

/-- An operation has a block exactly if it is well formed and its plan has that block. -/
theorem block_eq_ok_iff {t : Target} {op : Operation} {block : List Statement} :
    op.block t = .ok block ↔ op.validate = .ok () ∧ (op.plan t).block t = .ok block := by
  rw [Operation.block]
  cases op.validate with
  | error e => exact iff_of_false nofun fun h => by cases h.1
  | ok _ => exact (and_iff_right rfl).symm

/-- Nothing ends the plan of an operation with a block, and the texts of the block are those of the
plan with the name that the operation gets. -/
theorem texts_of_block {t : Target} {op : Operation} {block : List Statement}
    (h : op.block t = .ok block) :
    (op.plan t).failure? = none ∧
      block.map Statement.sql = (op.plan t).texts t ((op.resolvedName? t).getD "") := by
  obtain ⟨-, hblock⟩ := block_eq_ok_iff.mp h
  rw [resolvedName?, ← request?_plan]
  cases hplan : op.plan t with
  | emit em =>
      rw [hplan] at hblock
      obtain ⟨-, hfailure, rfl⟩ := Emission.outcome_eq_ok_iff.mp hblock
      exact ⟨hfailure, rfl⟩
  | named r sql =>
      rw [hplan, Plan.block] at hblock
      dsimp only [Plan.request?, Option.bind_some]
      cases hr : r.resolveOn t with
      | error e => rw [hr] at hblock; cases hblock
      | ok name =>
          rw [hr] at hblock
          obtain ⟨-, -, rfl⟩ := Emission.outcome_eq_ok_iff.mp hblock
          exact ⟨rfl, rfl⟩

end Operation

/-! ### Staging -/

namespace Session

/-- A session with more statements staged. -/
def stage (s : Session) (statements : List Statement) : Session :=
  { s with staged := ⟨s.staged.toList ++ statements⟩ }

/-- A session **admits** a generated name that is free or belongs to the same columns. -/
def Admits (s : Session) (g : GeneratedName) : Prop :=
  ∀ owner ∈ s.owner? g.kind g.name, owner = g.columns

/-- A session in which a name that is free belongs to its columns. -/
def record (s : Session) (g : GeneratedName) : Session :=
  match s.owner? g.kind g.name with
  | some _ => s
  | none => { s with stagedNames := s.stagedNames ++ [g] }

/-- Staging nothing changes nothing. -/
theorem stage_nil (s : Session) : s.stage [] = s := by
  rw [stage, List.append_nil]

/-- Statements may be staged in two parts. -/
theorem stage_stage (s : Session) (a b : List Statement) :
    (s.stage a).stage b = s.stage (a ++ b) := by
  rw [stage, stage, stage, List.append_assoc]

/-- What is staged is dropped with the rest. -/
@[simp] theorem unstage_stage (s : Session) (a : List Statement) :
    (s.stage a).unstage = s.unstage := rfl

/-- A name that is recorded is only staged. -/
@[simp] theorem unstage_record (s : Session) (g : GeneratedName) :
    (s.record g).unstage = s.unstage := by
  rw [record]
  split <;> rfl

/-- Recording a name leaves the target alone. -/
@[simp] theorem target_record (s : Session) (g : GeneratedName) :
    (s.record g).target = s.target := by
  rw [record]
  split <;> rfl

/-- Sessions that agree up to staging have the same target. -/
theorem target_eq_of_unstage {s r : Session} (h : s.unstage = r.unstage) : s.target = r.target := by
  have htarget : s.unstage.target = r.unstage.target := by rw [h]
  exact htarget

/-- A statement that is accepted is staged. -/
theorem push_of_ok {s : Session} {st : Statement} (h : st.checkBindings = .ok ()) :
    s.push st = ⟨.ok (), s.stage [st], []⟩ := by
  rw [push, Queue.push, h]
  rfl

/-- A statement that is refused changes nothing. -/
theorem push_of_error {s : Session} {st : Statement} {e : Error}
    (h : st.checkBindings = .error e) : s.push st = ⟨.error e, s, []⟩ := by
  rw [push, Queue.push, h]

/-- Statements that are all accepted are all staged. -/
theorem pushAll_of_ok {s : Session} {sts : List Statement} (h : checkAll sts = .ok ()) :
    s.pushAll sts = ⟨.ok (), s.stage sts, []⟩ := by
  induction sts generalizing s with
  | nil => rw [pushAll, stage_nil]
  | cons st sts ih =>
      rw [checkAll] at h
      cases hst : st.checkBindings with
      | error e => rw [hst] at h; cases h
      | ok _ =>
          rw [hst] at h
          rw [pushAll, push_of_ok hst]
          dsimp only
          rw [ih h, stage_stage, List.singleton_append]

/-- Statements before the first that is refused are staged, and its error is reported. -/
theorem pushAll_of_error {s : Session} {sts : List Statement} {e : Error}
    (h : checkAll sts = .error e) : ∃ done, s.pushAll sts = ⟨.error e, s.stage done, []⟩ := by
  induction sts generalizing s with
  | nil => cases h
  | cons st sts ih =>
      rw [checkAll] at h
      cases hst : st.checkBindings with
      | error e' =>
          rw [hst] at h
          obtain rfl : e' = e := Except.error.inj h
          refine ⟨[], ?_⟩
          rw [pushAll, push_of_error hst, stage_nil]
      | ok _ =>
          rw [hst] at h
          obtain ⟨done, hdone⟩ := @ih (s.stage [st]) h
          refine ⟨st :: done, ?_⟩
          rw [pushAll, push_of_ok hst]
          dsimp only
          rw [hdone, stage_stage, List.singleton_append]

/-- An emission with an outcome is staged as a whole. -/
theorem emit_of_ok {s : Session} {em : Emission} {block : List Statement}
    (h : em.outcome = .ok block) : s.emit em = ⟨.ok (), s.stage block, []⟩ := by
  obtain ⟨sts, failure⟩ := em
  rw [Emission.outcome] at h
  cases hcheck : checkAll sts with
  | error e => simp only [hcheck] at h; cases h
  | ok _ =>
      cases failure with
      | some e => simp only [hcheck] at h; cases h
      | none =>
          simp only [hcheck, Except.ok.injEq] at h
          subst h
          rw [emit, pushAll_of_ok hcheck]

/-- An emission without outcome leaves some of its statements staged. -/
theorem emit_of_error {s : Session} {em : Emission} {e : Error} (h : em.outcome = .error e) :
    ∃ done, s.emit em = ⟨.error e, s.stage done, []⟩ := by
  obtain ⟨sts, failure⟩ := em
  rw [Emission.outcome] at h
  cases hcheck : checkAll sts with
  | error e' =>
      simp only [hcheck, Except.error.injEq] at h
      subst h
      obtain ⟨done, hdone⟩ := @pushAll_of_error s sts e' hcheck
      refine ⟨done, ?_⟩
      rw [emit, hdone]
  | ok _ =>
      cases failure with
      | none => simp only [hcheck] at h; cases h
      | some e' =>
          simp only [hcheck, Except.error.injEq] at h
          subst h
          refine ⟨sts, ?_⟩
          rw [emit, pushAll_of_ok hcheck]

/-! ### Names -/

/-- An owner that is found is one of the names given out. -/
theorem mem_of_owner? {s : Session} {kind : ObjectKind} {name : String} {columns : List String}
    (h : s.owner? kind name = some columns) :
    ⟨kind, name, columns⟩ ∈ s.generated ++ s.stagedNames := by
  rw [owner?, Option.map_eq_some_iff] at h
  obtain ⟨g, hg, rfl⟩ := h
  have hkey := List.find?_some hg
  rw [Bool.and_eq_true, beq_iff_eq, beq_iff_eq] at hkey
  obtain ⟨rfl, rfl⟩ := hkey
  exact List.mem_of_find?_eq_some hg

/-- A name that is given out has an owner. -/
theorem owner?_ne_none {s : Session} {g : GeneratedName} (h : g ∈ s.generated ++ s.stagedNames) :
    s.owner? g.kind g.name ≠ none := by
  rw [owner?, Ne, Option.map_eq_none_iff, List.find?_eq_none]
  intro hnone
  exact hnone g h (by rw [beq_self_eq_true, beq_self_eq_true]; rfl)

/-- A name that is admitted is recorded. -/
theorem claim_of_admits {s : Session} {g : GeneratedName} (h : s.Admits g) :
    s.claim g.kind g.name g.columns = .ok (s.record g) := by
  rw [claim, record]
  rw [Admits] at h
  cases howner : s.owner? g.kind g.name with
  | none => rfl
  | some owner =>
      dsimp only
      rw [if_pos (h owner howner)]

/-- A name that is not admitted belongs to other columns. -/
theorem claim_of_not_admits {s : Session} {g : GeneratedName} (h : ¬ s.Admits g) :
    ∃ e, s.claim g.kind g.name g.columns = .error e := by
  rw [Admits] at h
  push Not at h
  obtain ⟨owner, howner, hne⟩ := h
  rw [Option.mem_def] at howner
  rw [claim, howner]
  dsimp only
  rw [if_neg hne]
  exact ⟨_, rfl⟩

/-- A request that cannot be resolved changes nothing. -/
theorem resolveName_of_error {s : Session} {r : NameRequest} {e : Error}
    (h : r.resolveOn s.target = .error e) : ∃ w, s.resolveName r = ⟨.error e, s, w⟩ := by
  rw [NameRequest.resolveOn] at h
  rw [resolveName, h]
  exact ⟨_, rfl⟩

/-- A request whose name is admitted gets it in quotes, and a generated name is recorded. -/
theorem resolveName_of_ok {s : Session} {r : NameRequest} {name : String}
    (h : r.resolveOn s.target = .ok name) (hg : ∀ g ∈ r.generated? s.target, s.Admits g) :
    ∃ w, s.resolveName r =
      ⟨.ok (s.target.formatter.wrap name), (r.generated? s.target).elim s s.record, w⟩ := by
  obtain ⟨kind, explicit, columns⟩ := r
  rw [NameRequest.generated?, h] at hg ⊢
  rw [NameRequest.resolveOn] at h
  rw [resolveName, h]
  cases explicit with
  | some name => exact ⟨_, rfl⟩
  | none =>
      have hclaim := claim_of_admits (hg _ rfl)
      dsimp only at hclaim ⊢
      rw [Option.isSome_none, if_neg Bool.false_ne_true, hclaim]
      dsimp only
      rw [target_record]
      exact ⟨_, rfl⟩

/-- A request whose name belongs to other columns fails and changes nothing. -/
theorem resolveName_of_not_admits {s : Session} {r : NameRequest}
    (hg : ¬ ∀ g ∈ r.generated? s.target, s.Admits g) :
    ∃ e w, s.resolveName r = ⟨.error e, s, w⟩ := by
  push Not at hg
  obtain ⟨g, hg, hnot⟩ := hg
  obtain ⟨kind, explicit, columns⟩ := r
  rw [Option.mem_def, NameRequest.generated?] at hg
  split at hg
  · next name hexplicit hresolve =>
      obtain rfl := Option.some.inj hg
      obtain rfl : explicit = none := hexplicit
      obtain ⟨e, he⟩ := claim_of_not_admits hnot
      rw [NameRequest.resolveOn] at hresolve
      rw [resolveName, hresolve]
      dsimp only at he ⊢
      rw [Option.isSome_none, if_neg Bool.false_ne_true, he]
      exact ⟨e, _, rfl⟩
  · cases hg

/-! ### Plans -/

/-- A plan whose name is not admitted fails and changes nothing. -/
theorem carryOut_of_not_admits {s : Session} {p : Plan}
    (hg : ¬ ∀ g ∈ p.generated? s.target, s.Admits g) :
    ∃ e w, s.carryOut p = ⟨.error e, s, w⟩ := by
  cases p with
  | emit em => exact absurd (fun g h => by cases h) hg
  | named r sql =>
      obtain ⟨e, w, hr⟩ := resolveName_of_not_admits hg
      refine ⟨e, w, ?_⟩
      rw [carryOut, hr]

/-- A plan with a block whose name is admitted is staged as a whole. -/
theorem carryOut_of_ok {s : Session} {p : Plan} {block : List Statement}
    (h : p.block s.target = .ok block) (hg : ∀ g ∈ p.generated? s.target, s.Admits g) :
    ∃ w, s.carryOut p =
      ⟨.ok (), ((p.generated? s.target).elim s s.record).stage block, w⟩ := by
  cases p with
  | emit em => exact ⟨[], emit_of_ok h⟩
  | named r sql =>
      rw [Plan.block] at h
      cases hr : r.resolveOn s.target with
      | error e => rw [hr] at h; cases h
      | ok name =>
          rw [hr] at h
          dsimp only at h
          obtain ⟨w, hw⟩ := resolveName_of_ok hr hg
          refine ⟨w, ?_⟩
          rw [carryOut, hw]
          dsimp only
          rw [Emission.outcome_sql] at h
          cases hst : Statement.checkBindings _ with
          | error e => rw [hst] at h; cases h
          | ok _ =>
              rw [hst] at h
              obtain rfl := Except.ok.inj h
              rw [push_of_ok hst]
              rfl

/-- A plan without block fails with its error if its name is admitted, and only staged work is
left. -/
theorem carryOut_of_error {s : Session} {p : Plan} {e : Error}
    (h : p.block s.target = .error e) (hg : ∀ g ∈ p.generated? s.target, s.Admits g) :
    ∃ s' w, s.carryOut p = ⟨.error e, s', w⟩ ∧ s'.unstage = s.unstage := by
  cases p with
  | emit em =>
      obtain ⟨done, hdone⟩ := @emit_of_error s em e h
      exact ⟨s.stage done, [], hdone, rfl⟩
  | named r sql =>
      rw [Plan.block] at h
      cases hr : r.resolveOn s.target with
      | error e' =>
          rw [hr] at h
          obtain rfl : e' = e := Except.error.inj h
          obtain ⟨w, hw⟩ := resolveName_of_error hr
          refine ⟨s, w, ?_, rfl⟩
          rw [carryOut, hw]
      | ok name =>
          rw [hr] at h
          dsimp only at h
          obtain ⟨w, hw⟩ := resolveName_of_ok hr hg
          refine ⟨(r.generated? s.target).elim s s.record, w, ?_, ?_⟩
          · rw [carryOut, hw]
            dsimp only
            rw [Emission.outcome_sql] at h
            cases hst : Statement.checkBindings _ with
            | error e' =>
                rw [hst] at h
                obtain rfl : e' = e := Except.error.inj h
                rw [push_of_error hst]
            | ok _ => rw [hst] at h; cases h
          · cases r.generated? s.target with
            | none => rfl
            | some g => exact unstage_record s g

/-- Whatever a plan comes to, it is only staged. -/
theorem unstage_carryOut (s : Session) (p : Plan) :
    (s.carryOut p).session.unstage = s.unstage := by
  by_cases hg : ∀ g ∈ p.generated? s.target, s.Admits g
  · cases hp : p.block s.target with
    | error e =>
        obtain ⟨s', w, h, hs⟩ := carryOut_of_error hp hg
        rw [h]
        exact hs
    | ok block =>
        obtain ⟨w, h⟩ := carryOut_of_ok hp hg
        rw [h]
        cases p.generated? s.target with
        | none => rfl
        | some g => exact unstage_record s g
  · obtain ⟨e, w, h⟩ := carryOut_of_not_admits hg
    rw [h]

/-! ### Operations -/

/-- A malformed operation changes nothing at all. -/
theorem compile_of_invalid {s : Session} {op : Operation} {e : Error}
    (h : op.validate = .error e) : s.compile op = ⟨.error e, s, []⟩ := by
  rw [compile, h]

/-- A well-formed operation is carried out with nothing staged. -/
theorem compile_of_valid {s : Session} {op : Operation} (h : op.validate = .ok ()) :
    s.compile op = settle (s.unstage.carryOut (op.plan s.target)) := by
  rw [compile, h]

/-- The result of a step is that of the step before it is settled. -/
theorem result_settle (step : Step Unit) : (settle step).result = step.result := by
  obtain ⟨result, s, w⟩ := step
  cases result <;> rfl

/-- **Failed work leaves no trace**: an operation that fails changes nothing but what is staged. -/
theorem unstage_compile_of_error {s : Session} {op : Operation} {e : Error}
    (h : (s.compile op).result = .error e) : (s.compile op).session.unstage = s.unstage := by
  cases hop : op.validate with
  | error e => rw [compile_of_invalid hop]
  | ok _ =>
      rw [compile_of_valid hop, result_settle] at h
      rw [compile_of_valid hop, settle, h]
      exact unstage_carryOut s.unstage _

/-- Compiling depends on nothing that is staged. -/
theorem compile_congr {s r : Session} (h : s.unstage = r.unstage) (op : Operation) :
    (s.compile op).result = (r.compile op).result ∧
      (s.compile op).session.unstage = (r.compile op).session.unstage := by
  cases hop : op.validate with
  | error e =>
      rw [compile_of_invalid hop, compile_of_invalid hop]
      exact ⟨rfl, h⟩
  | ok _ =>
      rw [compile_of_valid hop, compile_of_valid hop, h,
        target_eq_of_unstage h]
      exact ⟨rfl, rfl⟩

/-- Where the name is admitted, an operation results in its block. -/
theorem compile_result_of_admits {s : Session} {op : Operation}
    (hg : ∀ g ∈ op.generated? s.target, s.unstage.Admits g) :
    (s.compile op).result = (op.block s.target).map fun _ => () := by
  rw [← op.generated?_plan s.target] at hg
  rw [Operation.block]
  cases hop : op.validate with
  | error e => rw [compile_of_invalid hop]; rfl
  | ok _ =>
      rw [compile_of_valid hop, result_settle]
      cases hp : (op.plan s.target).block s.target with
      | error e =>
          obtain ⟨s', w, h, -⟩ := @carryOut_of_error s.unstage _ _ hp hg
          rw [h]
          rfl
      | ok block =>
          obtain ⟨w, h⟩ := @carryOut_of_ok s.unstage _ _ hp hg
          rw [h]
          rfl

/-- **An operation compiles** exactly if it has a block and its generated name is admitted. -/
theorem compile_eq_ok_iff {s : Session} {op : Operation} :
    (s.compile op).result = .ok () ↔
      (∃ block, op.block s.target = .ok block) ∧
        ∀ g ∈ op.generated? s.target, s.unstage.Admits g := by
  by_cases hg : ∀ g ∈ op.generated? s.target, s.unstage.Admits g
  · rw [compile_result_of_admits hg, and_iff_left hg]
    cases op.block s.target with
    | error e =>
        refine iff_of_false nofun ?_
        rintro ⟨block, h⟩
        cases h
    | ok block => exact iff_of_true rfl ⟨block, rfl⟩
  · refine iff_of_false ?_ fun h => hg h.2
    intro h
    cases hop : op.validate with
    | error e => rw [compile_of_invalid hop] at h; cases h
    | ok _ =>
        rw [← op.generated?_plan s.target] at hg
        obtain ⟨e, w, he⟩ := @carryOut_of_not_admits s.unstage _ hg
        rw [compile_of_valid hop, result_settle, he] at h
        cases h

/-- An operation that compiles adds its block to the statements, and its generated name if it is
new. -/
theorem compile_of_ok {s : Session} {op : Operation} {block : List Statement}
    (h : (s.compile op).result = .ok ()) (hb : op.block s.target = .ok block) :
    (s.compile op).session =
      (((op.generated? s.target).elim s.unstage s.unstage.record).stage block).commit := by
  obtain ⟨-, hg⟩ := compile_eq_ok_iff.mp h
  rw [← op.generated?_plan s.target] at hg ⊢
  rw [Operation.block] at hb
  cases hop : op.validate with
  | error e => rw [hop] at hb; cases hb
  | ok _ =>
      rw [hop] at hb
      obtain ⟨w, hw⟩ := @carryOut_of_ok s.unstage _ _ hb hg
      rw [compile_of_valid hop, hw]
      rfl

/-- The target of a session never changes. -/
@[simp] theorem target_compile (s : Session) (op : Operation) :
    (s.compile op).session.target = s.target := by
  cases hr : (s.compile op).result with
  | error e => exact target_eq_of_unstage (unstage_compile_of_error hr)
  | ok _ =>
      obtain ⟨⟨block, hb⟩, -⟩ := compile_eq_ok_iff.mp hr
      rw [compile_of_ok hr hb]
      cases op.generated? s.target with
      | none => rfl
      | some g => exact target_record s.unstage g

/-- The statements after an operation that compiles. -/
theorem statements_compile {s : Session} {op : Operation} {block : List Statement}
    (h : (s.compile op).result = .ok ()) (hb : op.block s.target = .ok block) :
    (s.compile op).session.statements = s.statements ++ block := by
  have hrecord : ∀ g, (s.unstage.record g).queue = s.queue ∧ (s.unstage.record g).staged = {} := by
    intro g
    rw [record]
    split <;> exact ⟨rfl, rfl⟩
  rw [compile_of_ok h hb, statements, commit, stage, Queue.toList_append, statements]
  cases op.generated? s.target with
  | none => rfl
  | some g =>
      dsimp only [Option.elim_some]
      rw [(hrecord g).1, (hrecord g).2]
      rfl

/-- A session **emits** statements for an operation if the operation compiles and adds them. -/
def Emits (s : Session) (op : Operation) (block : List Statement) : Prop :=
  (s.compile op).result = .ok () ∧ (s.compile op).session.statements = s.statements ++ block

/-- A session emits the block of an operation whose generated name it admits, and nothing else. -/
theorem emits_iff {s : Session} {op : Operation} {block : List Statement} :
    s.Emits op block ↔
      op.block s.target = .ok block ∧ ∀ g ∈ op.generated? s.target, s.unstage.Admits g := by
  rw [Emits]
  constructor
  · rintro ⟨hresult, hstatements⟩
    obtain ⟨⟨b, hb⟩, hg⟩ := compile_eq_ok_iff.mp hresult
    rw [statements_compile hresult hb] at hstatements
    rw [← List.append_cancel_left hstatements]
    exact ⟨hb, hg⟩
  · rintro ⟨hb, hg⟩
    have hresult := compile_eq_ok_iff.mpr ⟨⟨block, hb⟩, hg⟩
    exact ⟨hresult, statements_compile hresult hb⟩

/-- The names that are owned after an operation that compiles. -/
theorem mem_generated_compile {s : Session} {op : Operation}
    (h : (s.compile op).result = .ok ()) (g : GeneratedName) :
    g ∈ (s.compile op).session.generated ↔
      g ∈ s.generated ∨ g ∈ op.generated? s.target := by
  obtain ⟨⟨block, hb⟩, hg⟩ := compile_eq_ok_iff.mp h
  rw [compile_of_ok h hb, commit, stage]
  cases hn : op.generated? s.target with
  | none => simp [unstage]
  | some n =>
      have hadmits := hg n hn
      dsimp only [Option.elim_some]
      rw [record]
      cases howner : s.unstage.owner? n.kind n.name with
      | none => simp [unstage, eq_comm]
      | some owner =>
          have hmem : n ∈ s.generated := by
            rw [hadmits owner howner] at howner
            simpa [unstage] using mem_of_owner? howner
          constructor
          · intro hmem
            simpa [unstage] using Or.inl hmem
          · rintro (hmem' | hmem')
            · simpa [unstage] using hmem'
            · obtain rfl := Option.some.inj hmem'
              simpa [unstage] using hmem

end Session

end SchemaDdl
