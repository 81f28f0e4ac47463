import SchemaDdl.Proofs.Blocks
import SchemaDdl.Proofs.NameTable

/-!
# The Queue of Statements

The statements of a session wait in a queue until the caller takes them. Operations write into a
second queue first, the caller may do so as well, and only what a whole operation has written moves
over. This module shows what that means for the first queue: it grows at its end and nowhere else,
and only when an operation compiles. Nothing is assumed of the formatter, so a name or a type may
bring question marks and quotes into a statement. Such a statement is refused, unless it has a value
for each placeholder all the same.

* `Session.Balanced` — the invariant: every statement in both queues has its values.
* `Session.added` — the statements that a call adds: the blocks of the operations that compile in
  it.

## Main results

* `statements_after` — a call adds its blocks at the end of the queue.
* `added_eq_nil_iff` — it adds nothing exactly if nothing compiles in it.
* `Balanced.after` — every call keeps both queues balanced.
* `queue_run` — all of this in every state that a run of calls leads to.
-/

namespace SchemaDdl

/-! ### Blocks -/

/-- Every statement of a plan's block has one value for each placeholder. -/
theorem Plan.count_of_mem_block {t : Target} {p : Plan} {block : List Statement}
    (h : p.block t = .ok block) : ∀ st ∈ block, Placeholder.count st.sql = st.bindings.length := by
  cases p with
  | emit em =>
      obtain ⟨hcount, -, rfl⟩ := Emission.outcome_eq_ok_iff.mp h
      exact hcount
  | named r sql =>
      rw [Plan.block] at h
      split at h
      · cases h
      · obtain ⟨hcount, -, rfl⟩ := Emission.outcome_eq_ok_iff.mp h
        exact hcount

/-- Every statement of an operation's block has one value for each placeholder. -/
theorem Operation.count_of_mem_block {t : Target} {op : Operation} {block : List Statement}
    (h : op.block t = .ok block) : ∀ st ∈ block, Placeholder.count st.sql = st.bindings.length :=
  Plan.count_of_mem_block (block_eq_ok_iff.mp h).2

namespace Session

/-! ### Growth -/

/-- The statements that a call **adds**: the blocks of the operations that compile in it. -/
def added (s : Session) (call : Call) : List Statement :=
  ((s.attempts call).filterMap Attempt.kept?).flatMap (Operation.statements s.target)

/-- Sessions that agree up to staging have the same queue. -/
theorem statements_eq_of_unstage {s r : Session} (h : s.unstage = r.unstage) :
    s.statements = r.statements := by
  have hqueue : s.unstage.queue = r.unstage.queue := by rw [h]
  exact congrArg Queue.toList hqueue

/-- An operation adds its block if it compiles, and nothing if it fails. -/
theorem statements_compile_eq (s : Session) (op : Operation) :
    (s.compile op).session.statements = s.statements ++
      ([⟨op, (s.compile op).result⟩].filterMap Attempt.kept?).flatMap
        (Operation.statements s.target) := by
  cases hr : (s.compile op).result with
  | error e =>
      rw [statements_eq_of_unstage (unstage_compile_of_error hr)]
      exact (List.append_nil _).symm
  | ok _ =>
      obtain ⟨⟨block, hb⟩, -⟩ := compile_eq_ok_iff.mp hr
      have hblock : op.statements s.target = block := by rw [Operation.statements, hb]
      have hkept : [(⟨op, .ok ()⟩ : Attempt)].filterMap Attempt.kept? = [op] := rfl
      rw [statements_compile hr hb, hkept, List.flatMap_singleton, hblock]

/-- Operations in a row add the blocks of those before the first that fails. -/
theorem statements_compileAll_eq (s : Session) (ops : List Operation) :
    (s.compileAll ops).session.statements = s.statements ++
      ((s.attemptsAll ops).filterMap Attempt.kept?).flatMap (Operation.statements s.target) := by
  induction ops generalizing s with
  | nil => exact (List.append_nil _).symm
  | cons op ops ih =>
      have hop := s.statements_compile_eq op
      rw [compileAll, attemptsAll, ← List.singleton_append, List.filterMap_append,
        List.flatMap_append, ← List.append_assoc, ← hop]
      dsimp only
      cases (s.compile op).result with
      | error e => exact (List.append_nil _).symm
      | ok _ =>
          dsimp only
          rw [ih, target_compile]

/-- **A call adds its blocks at the end of the queue** and leaves what is there as it is. -/
theorem statements_after (s : Session) (call : Call) :
    (s.after call).statements = s.statements ++ s.added call := by
  cases call with
  | compile op => exact s.statements_compile_eq op
  | compileAll ops => exact s.statements_compileAll_eq ops
  | push st =>
      rw [after, statements_eq_of_unstage (unstage_push s st)]
      exact (List.append_nil _).symm
  | resolveName r =>
      rw [after, statements_eq_of_unstage (unstage_resolveName s r)]
      exact (List.append_nil _).symm

/-- A run adds the blocks of the operations that compile in it, in order. -/
theorem statements_run (s : Session) (calls : List Call) :
    (s.run calls).statements =
      s.statements ++ (s.kept calls).flatMap (Operation.statements s.target) := by
  induction calls generalizing s with
  | nil => exact (List.append_nil _).symm
  | cons call calls ih =>
      have hrun : s.run (call :: calls) = (s.after call).run calls := rfl
      have htarget : (s.after call).target = s.target := s.target_run [call]
      have hkept : s.kept (call :: calls) =
          (s.attempts call).filterMap Attempt.kept? ++ (s.after call).kept calls :=
        List.filterMap_append
      rw [hrun, ih, htarget, statements_after, hkept, List.flatMap_append, ← List.append_assoc,
        added]

/-- Operations in a row are the same as their attempts one by one. -/
theorem compileAll_eq_run (s : Session) (ops : List Operation) :
    (s.compileAll ops).session = s.run ((s.attemptsAll ops).map fun a => .compile a.operation) := by
  induction ops generalizing s with
  | nil => rfl
  | cons op ops ih =>
      have hcons : ∀ calls : List Call,
          s.run (.compile op :: calls) = (s.compile op).session.run calls := fun _ => rfl
      rw [attemptsAll, List.map_cons, hcons, compileAll]
      dsimp only
      cases (s.compile op).result with
      | error e => rfl
      | ok _ => exact ih _

/-- An operation that compiles in a row has statements. -/
theorem statements_ne_nil_of_mem_attemptsAll {s : Session} {ops : List Operation} {a : Attempt}
    (ha : a ∈ s.attemptsAll ops) (hr : a.result = .ok ()) :
    a.operation.statements s.target ≠ [] := by
  induction ops generalizing s with
  | nil => cases ha
  | cons op ops ih =>
      rw [attemptsAll, List.mem_cons] at ha
      rcases ha with rfl | ha
      · obtain ⟨⟨block, hb⟩, -⟩ := compile_eq_ok_iff.mp hr
        obtain ⟨-, hlength⟩ := Operation.length_of_block hb
        dsimp only
        rw [Operation.statements, hb]
        exact List.ne_nil_of_length_pos hlength
      · cases hresult : (s.compile op).result with
        | error e => rw [hresult] at ha; cases ha
        | ok _ =>
            rw [hresult] at ha
            rw [← target_compile s op]
            exact ih ha

/-- **A call adds nothing exactly if nothing compiles in it.** -/
theorem added_eq_nil_iff {s : Session} {call : Call} :
    s.added call = [] ↔ ∀ a ∈ s.attempts call, a.result ≠ .ok () := by
  have hne : ∀ a ∈ s.attempts call, a.result = .ok () →
      a.operation.statements s.target ≠ [] := by
    intro a ha hr
    cases call with
    | compile op =>
        rw [attempts, List.mem_singleton] at ha
        have hmem : a ∈ s.attemptsAll [op] := by
          rw [ha, attemptsAll]
          exact List.mem_cons_self
        exact statements_ne_nil_of_mem_attemptsAll hmem hr
    | compileAll ops => exact statements_ne_nil_of_mem_attemptsAll ha hr
    | push st => cases ha
    | resolveName r => cases ha
  rw [added, List.flatMap_eq_nil_iff]
  constructor
  · intro h a ha hr
    refine hne a ha hr (h a.operation (List.mem_filterMap.mpr ⟨a, ha, ?_⟩))
    rw [Attempt.kept?, hr]
  · intro h op hop
    obtain ⟨a, ha, hkept⟩ := List.mem_filterMap.mp hop
    rw [Attempt.kept?] at hkept
    split at hkept
    · next hr => exact absurd hr (h a ha)
    · cases hkept

/-! ### Values -/

/-- A session is **balanced** if every statement in its queues has one value for each
placeholder. -/
structure Balanced (s : Session) : Prop where
  /-- The statements that are kept. -/
  queue : ∀ st ∈ s.queue.toList, Placeholder.count st.sql = st.bindings.length
  /-- The statements that are staged. -/
  staged : ∀ st ∈ s.staged.toList, Placeholder.count st.sql = st.bindings.length

/-- A session for a target starts with empty queues. -/
theorem Balanced.start (t : Target) : Balanced { target := t } :=
  ⟨List.forall_mem_nil _, List.forall_mem_nil _⟩

/-- Dropping what is staged leaves the queue. -/
theorem Balanced.unstage {s : Session} (hs : s.Balanced) : s.unstage.Balanced :=
  ⟨hs.queue, List.forall_mem_nil _⟩

/-- Keeping what is staged moves balanced statements. -/
theorem Balanced.commit {s : Session} (hs : s.Balanced) : s.commit.Balanced where
  queue := List.forall_mem_append.mpr ⟨hs.queue, hs.staged⟩
  staged := List.forall_mem_nil _

/-- Statements that have their values may be staged. -/
theorem Balanced.stage {s : Session} (hs : s.Balanced) {block : List Statement}
    (hblock : ∀ st ∈ block, Placeholder.count st.sql = st.bindings.length) :
    (s.stage block).Balanced where
  queue := hs.queue
  staged := List.forall_mem_append.mpr ⟨hs.staged, hblock⟩

/-- Names do not matter to statements. -/
theorem Balanced.record? {s : Session} (hs : s.Balanced) (g? : Option GeneratedName) :
    (g?.elim s s.record).Balanced := by
  cases g? with
  | none => exact hs
  | some g =>
      rw [Option.elim_some, record]
      split
      · exact hs
      · exact ⟨hs.queue, hs.staged⟩

/-- Compiling an operation keeps both queues balanced. -/
theorem Balanced.compile {s : Session} (hs : s.Balanced) (op : Operation) :
    (s.compile op).session.Balanced := by
  cases hr : (s.compile op).result with
  | error e =>
      rcases session_compile_of_error hr with h | h
      · rw [h]
        exact hs
      · rw [h]
        exact hs.unstage
  | ok _ =>
      obtain ⟨⟨block, hb⟩, -⟩ := compile_eq_ok_iff.mp hr
      rw [compile_of_ok hr hb]
      exact ((hs.unstage.record? _).stage (Operation.count_of_mem_block hb)).commit

/-- Compiling operations in a row keeps both queues balanced. -/
theorem Balanced.compileAll {s : Session} (hs : s.Balanced) (ops : List Operation) :
    (s.compileAll ops).session.Balanced := by
  induction ops generalizing s with
  | nil => exact hs
  | cons op ops ih =>
      have hop := hs.compile op
      rw [Session.compileAll]
      dsimp only
      cases (s.compile op).result with
      | error e => exact hop
      | ok _ => exact ih hop

/-- **Every call keeps both queues balanced**, whether it succeeds or fails. -/
theorem Balanced.after {s : Session} (hs : s.Balanced) (call : Call) :
    (s.after call).Balanced := by
  cases call with
  | compile op => exact hs.compile op
  | compileAll ops => exact hs.compileAll ops
  | push st =>
      rw [Session.after]
      cases h : st.checkBindings with
      | error e =>
          rw [push_of_error h]
          exact hs
      | ok _ =>
          rw [push_of_ok h]
          exact hs.stage (List.forall_mem_singleton.mpr (st.checkBindings_eq_ok_iff.mp h))
  | resolveName r =>
      rw [Session.after]
      rcases s.session_resolveName r with h | h
      · rw [h]
        exact hs
      · rw [h]
        exact hs.record? _

/-- A run keeps both queues balanced. -/
theorem Balanced.run {s : Session} (hs : s.Balanced) (calls : List Call) :
    (s.run calls).Balanced := by
  induction calls generalizing s with
  | nil => exact hs
  | cons call calls ih => exact ih (hs.after call)

/-! ### Runs -/

/-- **The queue is append-only and balanced in every state of a session.** After any run of calls
from a fresh session, with whatever formatter and whether the calls succeed or fail: one more call
leaves the queue in front of what it adds, and it adds something exactly if an operation compiles in
it, where operations in a row count as their attempts one by one. Every statement that is kept or
staged has one value for each placeholder. What the session hands over at its end is the queue, and
that is the blocks of the operations that compiled, in order. -/
theorem queue_run {t : Target} {s : Session} (hs : Session.start t = .ok s) (calls : List Call) :
    (∀ call, (s.run calls).queue.toList <+: (s.run (calls ++ [call])).queue.toList ∧
      ((s.run (calls ++ [call])).queue.toList ≠ (s.run calls).queue.toList ↔
        ∃ a ∈ (s.run calls).attempts call, a.result = .ok ())) ∧
    (∀ ops, s.run (calls ++ [.compileAll ops]) =
      s.run (calls ++ ((s.run calls).attemptsAll ops).map fun a => .compile a.operation)) ∧
    (∀ st ∈ (s.run calls).queue.toList ++ (s.run calls).staged.toList,
      Placeholder.count st.sql = st.bindings.length) ∧
    (s.run calls).finish = (s.run calls).queue.toList ∧
    (s.run calls).queue.toList = (s.kept calls).flatMap (Operation.statements t) := by
  obtain rfl := eq_of_start hs
  have hbalanced := (Balanced.start t).run calls
  refine ⟨?_, ?_, List.forall_mem_append.mpr ⟨hbalanced.queue, hbalanced.staged⟩, rfl, ?_⟩
  · intro call
    have hafter : (run { target := t } (calls ++ [call])).queue.toList =
        (run { target := t } calls).queue.toList ++ (run { target := t } calls).added call := by
      rw [run_append]
      exact statements_after _ call
    rw [hafter]
    refine ⟨List.prefix_append _ _, ?_⟩
    rw [Ne, List.append_right_eq_self, added_eq_nil_iff]
    push Not
    rfl
  · intro ops
    rw [run_append, run_append]
    exact compileAll_eq_run _ ops
  · exact statements_run { target := t } calls

/-- A formatter that writes every type as a question mark. Adding a column brings a value for it, so
that compiles; changing a type does not, so the second of three operations in a row is refused and
the third is not attempted. A statement that is pushed last is still staged. -/
theorem queue_run_of_marks :
    let f : Formatter :=
      { wrap := fun name => "[" ++ name ++ "]"
        typeClause := fun _ => "?"
        columnDef := fun c => .ok ⟨[c.name ++ " ?"], [.null]⟩ }
    let t : Target := { dialect := .generic, formatter := f, table := "users" }
    let s : Session := { target := t }
    let age : Column := { name := "age", dataType := .integer }
    let calls : List Call :=
      [.push { sql := "VACUUM" }, .compile (.addColumns [age]),
        .compileAll [.dropColumns ["a", "b"], .changeColumnType age, .dropColumns ["c"]],
        .push { sql := "SELECT ?", bindings := [.null] }]
    Session.start t = .ok s ∧ (s.kept calls).map Operation.kind = [.addColumns, .dropColumns] ∧
      (s.run calls).finish.length = 3 ∧ (s.run calls).staged.size = 1 ∧
      ∀ st ∈ (s.run calls).queue.toList ++ (s.run calls).staged.toList,
        Placeholder.count st.sql = st.bindings.length := by
  intro f t s age calls
  obtain ⟨-, -, hvalues, -, -⟩ := queue_run (t := t) (s := s) rfl calls
  exact ⟨rfl, by decide +kernel, by decide +kernel, by decide +kernel, hvalues⟩

end Session

end SchemaDdl
