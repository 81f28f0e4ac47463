import SchemaDdl.Error
import SchemaDdl.Sql.Placeholder

/-!
# Statements

One statement of SQL with the values for its placeholders, and the queue in which statements wait
in the order in which they were written. A queue takes a statement only if it has exactly one value
for each placeholder.

## Main definitions

* `Statement`, `Statement.checkBindings`
* `Queue`, `Queue.push`
-/

namespace SchemaDdl

/-- A statement for an executor. -/
structure Statement where
  /-- The text, with question marks as placeholders. -/
  sql : String
  /-- The values of the placeholders, in order. -/
  bindings : List Value := []
  /-- The error code that the executor has to take for success. -/
  suppress : Option Int32 := none

/-- Refuses a statement that has not one value for each placeholder. -/
def Statement.checkBindings (s : Statement) : Except Error Unit :=
  let placeholders := Placeholder.count s.sql
  if placeholders ≠ s.bindings.length then
    .error (.invalid (.statementBindings s.sql placeholders s.bindings.length))
  else .ok ()

/-- A statement is accepted exactly if it has one value for each placeholder. -/
theorem Statement.checkBindings_eq_ok_iff (s : Statement) :
    s.checkBindings = .ok () ↔ Placeholder.count s.sql = s.bindings.length := by
  simp [checkBindings]

/-- Statements in the order in which they were written. -/
structure Queue where
  /-- The statements, first one first. -/
  toList : List Statement := []

namespace Queue

/-- The queue without statements. -/
def empty : Queue := {}

/-- The number of statements. -/
def size (q : Queue) : Nat :=
  q.toList.length

/-- Whether there are no statements. -/
def isEmpty (q : Queue) : Bool :=
  q.toList.isEmpty

/-- A queue with one more statement at its end, if the statement has its values. -/
def push (q : Queue) (s : Statement) : Except Error Queue :=
  match s.checkBindings with
  | .error e => .error e
  | .ok () => .ok ⟨q.toList ++ [s]⟩

/-- One queue after another. -/
def append (q r : Queue) : Queue :=
  ⟨q.toList ++ r.toList⟩

@[simp]
theorem toList_append (q r : Queue) : (q.append r).toList = q.toList ++ r.toList :=
  rfl

end Queue

end SchemaDdl
