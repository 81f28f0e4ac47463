import SchemaDdl.Plan.OfOperation

/-!
# Sessions

A session collects the statements for one target. Statements and generated names are staged while
an operation is compiled; they are kept when the whole operation succeeds and dropped when it does
not.

A generated name belongs to the columns that it was made from for the rest of the session. Other
columns of the same kind that lead to the same name, such as `a_b` after `a` and `b`, are refused,
since an object has to be told apart from every other by its name.

## Main definitions

* `GeneratedName`, `Session`
* `Session.Step`: what a step of a session results in.
* `Session.resolveName`, `Session.push`: the two steps that stage something.
-/

namespace SchemaDdl

/-- A generated name and the columns that it belongs to. -/
structure GeneratedName where
  /-- The kind of the object. -/
  kind : ObjectKind
  /-- The name. -/
  name : String
  /-- The columns. -/
  columns : List String
  deriving DecidableEq, Repr

/-- The statements for one target, and the names that were generated for them. -/
structure Session where
  /-- What the statements are written for. -/
  target : Target
  /-- The statements of the operations compiled so far. -/
  queue : Queue := {}
  /-- The statements of the operation at hand. -/
  staged : Queue := {}
  /-- The names generated for the operations compiled so far. -/
  generated : List GeneratedName := []
  /-- The names generated for the operation at hand. -/
  stagedNames : List GeneratedName := []

/-- What a step of a session results in. -/
structure Session.Step (α : Type) where
  /-- The result of the step, or why it failed. -/
  result : Except Error α
  /-- The session after the step. -/
  session : Session
  /-- What the step reports about names. -/
  warnings : List Warning := []

namespace Session

/-- A session without statements for a table, which has to have a name. -/
def start (target : Target) : Except Error Session :=
  if target.table.isEmpty then .error (.invalid .emptyTable) else .ok { target }

/-- The statements compiled so far. -/
def statements (s : Session) : List Statement :=
  s.queue.toList

/-! ### Names -/

/-- The columns that a generated name belongs to. -/
def owner? (s : Session) (kind : ObjectKind) (name : String) : Option (List String) :=
  ((s.generated ++ s.stagedNames).find? fun g => g.kind == kind && g.name == name).map (·.columns)

/-- Gives a generated name to its columns unless it belongs to others. -/
def claim (s : Session) (kind : ObjectKind) (name : String) (columns : List String) :
    Except Error Session :=
  match s.owner? kind name with
  | some owner =>
    if owner = columns then .ok s
    else .error (.invalid (.nameInUse kind name columns owner s.target.table))
  | none => .ok { s with stagedNames := s.stagedNames ++ [⟨kind, name, columns⟩] }

/-- The quoted name for a request. A generated name is claimed for the columns of the request. -/
def resolveName (s : Session) (r : NameRequest) : Step String :=
  let limit := s.target.dialect.maxIdentifierBytes
  let warnings := (r.warning? limit s.target.table).toList
  match r.resolve limit s.target.table with
  | .error e => ⟨.error e, s, warnings⟩
  | .ok name =>
    let claimed := if r.explicit.isSome then .ok s else s.claim r.kind name r.columns
    match claimed with
    | .error e => ⟨.error e, s, warnings⟩
    | .ok s => ⟨.ok (s.target.formatter.wrap name), s, warnings⟩

/-! ### Statements -/

/-- Stages a statement. -/
def push (s : Session) (statement : Statement) : Step Unit :=
  match s.staged.push statement with
  | .error e => ⟨.error e, s, []⟩
  | .ok staged => ⟨.ok (), { s with staged }, []⟩

/-- Stages statements up to the first that is refused. -/
def pushAll (s : Session) : List Statement → Step Unit
  | [] => ⟨.ok (), s, []⟩
  | statement :: rest =>
    match s.push statement with
    | ⟨.ok (), s, _⟩ => s.pushAll rest
    | failed => failed

end Session

end SchemaDdl
