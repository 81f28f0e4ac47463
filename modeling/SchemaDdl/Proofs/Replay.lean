import SchemaDdl.Format.Stock
import SchemaDdl.Proofs.Outcome

/-!
# Runs of a Session and Their Replay

A caller may compile operations one by one or in a row, stage statements and ask for names of its
own, in any order, and any of these calls may fail. This module shows that nothing but the
operations that compile ever counts: replaying these alone in a fresh session leads to the same
statements and the same names.

* `Call`, `Session.run` — the calls of a caller, and what a run of them makes of a session.
* `Session.log` — every attempt to compile an operation in a run, with its result.
* `Session.kept` — the operations of a run that compiled.

The two runs are compared by what is left when everything staged is dropped (`Session.unstage`).
Every call leads sessions that agree in this to sessions that agree in it, with the same attempts
(`Session.after_congr`), and the calls that do not compile anything leave it alone
(`Session.unstage_after`).

## Main results

* `run_eq_replay` — a run ends as the replay of its kept operations does, and the attempts of a run
  do not depend on what is staged between them.
-/

namespace SchemaDdl

/-! ### Calls and attempts -/

/-- A call of a session. -/
inductive Call where
  /-- Compiles an operation. -/
  | compile (op : Operation)
  /-- Compiles operations up to the first that fails. -/
  | compileAll (ops : List Operation)
  /-- Stages a statement. -/
  | push (statement : Statement)
  /-- Asks for a name. -/
  | resolveName (request : NameRequest)

/-- Whether a call compiles anything. -/
def Call.compiles : Call → Bool
  | compile _ | compileAll _ => true
  | push _ | resolveName _ => false

/-- An attempt to compile an operation, with its result. -/
structure Attempt where
  /-- The operation. -/
  operation : Operation
  /-- What came of it. -/
  result : Except Error Unit

/-- The operation of an attempt that succeeded. -/
def Attempt.kept? (a : Attempt) : Option Operation :=
  match a.result with
  | .ok () => some a.operation
  | .error _ => none

/-- An attempt that succeeded. -/
def Attempt.success (op : Operation) : Attempt :=
  ⟨op, .ok ()⟩

namespace Session

/-- The session after a call. -/
def after (s : Session) : Call → Session
  | .compile op => (s.compile op).session
  | .compileAll ops => (s.compileAll ops).session
  | .push statement => (s.push statement).session
  | .resolveName request => (s.resolveName request).session

/-- The session after a **run** of calls. -/
def run (s : Session) (calls : List Call) : Session :=
  calls.foldl after s

/-- The attempts to compile operations in a row, of which the first that fails is the last. -/
def attemptsAll (s : Session) : List Operation → List Attempt
  | [] => []
  | op :: ops =>
    ⟨op, (s.compile op).result⟩ ::
      match (s.compile op).result with
      | .ok () => (s.compile op).session.attemptsAll ops
      | .error _ => []

/-- The attempts of a call. -/
def attempts (s : Session) : Call → List Attempt
  | .compile op => [⟨op, (s.compile op).result⟩]
  | .compileAll ops => s.attemptsAll ops
  | .push _ | .resolveName _ => []

/-- The **log** of a run: its attempts in order. -/
def log (s : Session) : List Call → List Attempt
  | [] => []
  | call :: calls => s.attempts call ++ (s.after call).log calls

/-- The operations of a run that compiled. -/
def kept (s : Session) (calls : List Call) : List Operation :=
  (s.log calls).filterMap Attempt.kept?

/-- A run in two parts. -/
theorem run_append (s : Session) (a b : List Call) : s.run (a ++ b) = (s.run a).run b :=
  List.foldl_append

/-- The log of a run in two parts. -/
theorem log_append (s : Session) (a b : List Call) :
    s.log (a ++ b) = s.log a ++ (s.run a).log b := by
  induction a generalizing s with
  | nil => rfl
  | cons call calls ih =>
      rw [List.cons_append, log, ih, log, List.append_assoc]
      rfl

/-! ### What is staged does not count -/

/-- A statement that is pushed is only staged. -/
theorem unstage_push (s : Session) (st : Statement) : (s.push st).session.unstage = s.unstage := by
  cases h : st.checkBindings with
  | error e => rw [push_of_error h]
  | ok _ => rw [push_of_ok h, unstage_stage]

/-- A name that is asked for is only staged. -/
theorem unstage_resolveName (s : Session) (r : NameRequest) :
    (s.resolveName r).session.unstage = s.unstage := by
  by_cases hg : ∀ g ∈ r.generated? s.target, s.Admits g
  · cases hr : r.resolveOn s.target with
    | error e =>
        obtain ⟨w, h⟩ := resolveName_of_error hr
        rw [h]
    | ok name =>
        obtain ⟨w, h⟩ := resolveName_of_ok hr hg
        rw [h]
        cases r.generated? s.target with
        | none => rfl
        | some g => exact unstage_record s g
  · obtain ⟨e, w, h⟩ := resolveName_of_not_admits hg
    rw [h]

/-- A call that compiles nothing leaves everything but the staging alone, and attempts nothing. -/
theorem unstage_after {s : Session} {call : Call} (h : call.compiles = false) :
    (s.after call).unstage = s.unstage ∧ s.attempts call = [] := by
  cases call with
  | compile op => cases h
  | compileAll ops => cases h
  | push st => exact ⟨unstage_push s st, rfl⟩
  | resolveName r => exact ⟨unstage_resolveName s r, rfl⟩

/-- The attempts in a row, and what they lead to, depend on nothing that is staged. -/
theorem compileAll_congr {s r : Session} (h : s.unstage = r.unstage) (ops : List Operation) :
    s.attemptsAll ops = r.attemptsAll ops ∧
      (s.compileAll ops).session.unstage = (r.compileAll ops).session.unstage := by
  induction ops generalizing s r with
  | nil => exact ⟨rfl, h⟩
  | cons op ops ih =>
      obtain ⟨hresult, hsession⟩ := compile_congr h op
      obtain ⟨hattempts, hall⟩ := ih hsession
      rw [attemptsAll, attemptsAll, compileAll, compileAll]
      dsimp only
      rw [hresult]
      cases (r.compile op).result with
      | error e => exact ⟨rfl, hsession⟩
      | ok _ => exact ⟨congrArg _ hattempts, hall⟩

/-- **Staged work does not count**: a call attempts the same, and leads to sessions that agree up to
staging, in all sessions that agree up to staging. -/
theorem after_congr {s r : Session} (h : s.unstage = r.unstage) (call : Call) :
    s.attempts call = r.attempts call ∧ (s.after call).unstage = (r.after call).unstage := by
  cases call with
  | compile op =>
      obtain ⟨hresult, hsession⟩ := compile_congr h op
      refine ⟨?_, hsession⟩
      rw [attempts, attempts, hresult]
  | compileAll ops => exact compileAll_congr h ops
  | push st =>
      refine ⟨rfl, ?_⟩
      rw [after, after, unstage_push, unstage_push, h]
  | resolveName request =>
      refine ⟨rfl, ?_⟩
      rw [after, after, unstage_resolveName, unstage_resolveName, h]

/-- A run of the calls that compile something has the same log, also from a session that differs in
what is staged. -/
theorem log_filter_compiles {s r : Session} (h : s.unstage = r.unstage) (calls : List Call) :
    r.log (calls.filter Call.compiles) = s.log calls := by
  induction calls generalizing s r with
  | nil => rfl
  | cons call calls ih =>
      rw [List.filter_cons]
      split
      · obtain ⟨hattempts, hafter⟩ := after_congr h call
        rw [log, log, ih hafter, hattempts]
      · next hcall =>
          obtain ⟨hafter, hattempts⟩ := @unstage_after s call (Bool.not_eq_true _ ▸ hcall)
          rw [log, hattempts, List.nil_append]
          exact ih (hafter.trans h)

/-- Compiling operations in a row leaves the target alone. -/
theorem target_compileAll (s : Session) (ops : List Operation) :
    (s.compileAll ops).session.target = s.target := by
  induction ops generalizing s with
  | nil => rfl
  | cons op ops ih =>
      rw [compileAll]
      dsimp only
      cases (s.compile op).result with
      | error e => exact target_compile s op
      | ok _ => exact (ih _).trans (target_compile s op)

/-- The target of a session never changes in a run. -/
theorem target_run (s : Session) (calls : List Call) : (s.run calls).target = s.target := by
  induction calls generalizing s with
  | nil => rfl
  | cons call calls ih =>
      refine (ih (s.after call)).trans ?_
      cases call with
      | compile op => exact target_compile s op
      | compileAll ops => exact target_compileAll s ops
      | push st => exact target_eq_of_unstage (unstage_push s st)
      | resolveName r => exact target_eq_of_unstage (unstage_resolveName s r)

/-! ### Replay -/

/-- What the replay `ops` of some attempts from a session has to do: it ends in a given session up
to staging, and all of it succeeds. -/
def Replays (r : Session) (ops : List Operation) (s : Session) : Prop :=
  (r.run (ops.map Call.compile)).unstage = s.unstage ∧
    r.log (ops.map Call.compile) = ops.map Attempt.success

/-- Nothing replays nothing. -/
theorem Replays.nil {r s : Session} (h : r.unstage = s.unstage) : r.Replays [] s :=
  ⟨h, rfl⟩

/-- Replays may be put one after the other. -/
theorem Replays.append {r s : Session} {a b : List Operation} {m : Session}
    (ha : r.Replays a m) (hb : (r.run (a.map Call.compile)).Replays b s) :
    r.Replays (a ++ b) s := by
  obtain ⟨-, hlog⟩ := ha
  obtain ⟨hrun, hlog'⟩ := hb
  rw [Replays, List.map_append, List.map_append, run_append, log_append, hlog, hlog']
  exact ⟨hrun, rfl⟩

/-- An attempt is replayed if it succeeded, and left out if it failed. -/
theorem replays_compile {s r : Session} (h : r.unstage = s.unstage) (op : Operation) :
    r.Replays ([⟨op, (s.compile op).result⟩].filterMap Attempt.kept?) (s.compile op).session := by
  obtain ⟨hresult, hsession⟩ := compile_congr h op
  cases hr : (s.compile op).result with
  | error e =>
      refine Replays.nil ?_
      rw [h, unstage_compile_of_error hr]
  | ok _ =>
      refine ⟨hsession, ?_⟩
      have hlog : r.log [.compile op] = [⟨op, (r.compile op).result⟩] := rfl
      rw [hresult, hr] at hlog
      exact hlog

/-- The attempts of operations in a row are replayed one by one. -/
theorem replays_compileAll {s r : Session} (h : r.unstage = s.unstage) (ops : List Operation) :
    r.Replays ((s.attemptsAll ops).filterMap Attempt.kept?) (s.compileAll ops).session := by
  induction ops generalizing s r with
  | nil => exact Replays.nil h
  | cons op ops ih =>
      have hop := replays_compile h op
      rw [attemptsAll, ← List.singleton_append, List.filterMap_append, compileAll]
      dsimp only
      cases hr : (s.compile op).result with
      | error e =>
          rw [hr] at hop
          rw [List.filterMap_nil, List.append_nil]
          exact hop
      | ok _ =>
          rw [hr] at hop
          exact hop.append (ih hop.1)

/-- **A call is replayed** by the operations that compiled in it. -/
theorem replays_after {s r : Session} (h : r.unstage = s.unstage) (call : Call) :
    r.Replays ((s.attempts call).filterMap Attempt.kept?) (s.after call) := by
  cases call with
  | compile op => exact replays_compile h op
  | compileAll ops => exact replays_compileAll h ops
  | push st => exact Replays.nil (h.trans (unstage_push s st).symm)
  | resolveName request => exact Replays.nil (h.trans (unstage_resolveName s request).symm)

/-- A run is replayed by the operations that compiled in it. The induction is on the calls, from
any two sessions that agree up to staging. -/
theorem replays_run {s r : Session} (h : r.unstage = s.unstage) (calls : List Call) :
    r.Replays (s.kept calls) (s.run calls) := by
  induction calls generalizing s r with
  | nil => exact Replays.nil h
  | cons call calls ih =>
      have hcall := replays_after h call
      rw [kept, log, List.filterMap_append]
      exact hcall.append (ih hcall.1)

/-- **Failed and staged work leaves no trace.** A run of calls from a fresh session ends with the
statements and the names of a fresh session for the same target in which the kept operations alone
are compiled, and all of these compile again. Every attempt has the same result when only the calls
that compile something are made. -/
theorem run_eq_replay {t : Target} {s : Session} (hs : Session.start t = .ok s)
    (calls : List Call) :
    Session.start (s.run calls).target = .ok s ∧
      (s.run calls).queue = (s.run ((s.kept calls).map Call.compile)).queue ∧
      (s.run calls).generated = (s.run ((s.kept calls).map Call.compile)).generated ∧
      s.log ((s.kept calls).map Call.compile) = (s.kept calls).map Attempt.success ∧
      s.log (calls.filter Call.compiles) = s.log calls := by
  obtain ⟨hrun, hlog⟩ := @replays_run s s rfl calls
  have hqueue : (s.run calls).unstage.queue =
      (s.run ((s.kept calls).map Call.compile)).unstage.queue := by rw [hrun]
  have hgenerated : (s.run calls).unstage.generated =
      (s.run ((s.kept calls).map Call.compile)).unstage.generated := by rw [hrun]
  refine ⟨?_, hqueue, hgenerated, hlog, log_filter_compiles rfl calls⟩
  have htarget : s.target = t := by
    rw [start] at hs
    split at hs
    · cases hs
    · obtain rfl := Except.ok.inj hs
      rfl
  rw [target_run, htarget]
  exact hs

/-- A run in which one call of six compiles an operation. The others stage a statement, ask for a
name, or fail: an operation is malformed, a statement lacks its value, a feature is missing. -/
theorem run_eq_replay_of_users :
    let t : Target :=
      { dialect := .sqlite, formatter := Dialect.sqlite.formatter, table := "users" }
    let s : Session := { target := t }
    let calls : List Call :=
      [.push { sql := "VACUUM" }, .compile (.dropColumns ["age", "size"]),
        .resolveName ⟨.index, none, ["name"]⟩,
        .compileAll [.dropColumns [], .dropColumns ["name"]], .push { sql := "SELECT ?" },
        .compile (.setComment none)]
    Session.start t = .ok s ∧ s.kept calls = [.dropColumns ["age", "size"]] ∧
      (s.run calls).queue = (s.run ((s.kept calls).map Call.compile)).queue := by
  refine ⟨rfl, rfl, ?_⟩
  exact (run_eq_replay (t := ⟨.sqlite, Dialect.sqlite.formatter, "users", none⟩) rfl _).2.1

end Session

end SchemaDdl
