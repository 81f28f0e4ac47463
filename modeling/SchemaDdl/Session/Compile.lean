import SchemaDdl.Session.Basic

/-!
# Compiling operations in a session

An operation is validated, planned and carried out. What is left over from earlier steps is cleared
first, but only once the operation is known to be well formed: a malformed operation changes
nothing at all.

## Main definitions

* `Session.compile`: one operation.
* `Session.compileAll`: operations up to the first that fails.
-/

namespace SchemaDdl.Session

/-- A session with nothing staged. -/
def unstage (s : Session) : Session :=
  { s with staged := {}, stagedNames := [] }

/-- A session in which everything staged is kept. -/
def commit (s : Session) : Session :=
  { s with
    queue := s.queue.append s.staged
    staged := {}
    generated := s.generated ++ s.stagedNames
    stagedNames := [] }

/-- Stages the statements of an emission, then reports its error. -/
def emit (s : Session) (emission : Emission) : Step Unit :=
  match s.pushAll emission.statements, emission.failure with
  | ⟨.ok (), s, warnings⟩, some e => ⟨.error e, s, warnings⟩
  | step, _ => step

/-- Stages what a plan comes to. -/
def carryOut (s : Session) : Plan → Step Unit
  | .emit emission => s.emit emission
  | .named request sql =>
    match s.resolveName request with
    | ⟨.error e, s, warnings⟩ => ⟨.error e, s, warnings⟩
    | ⟨.ok name, s, warnings⟩ => { s.push { sql := sql name } with warnings }

/-- Keeps what is staged after a success and drops it after a failure. -/
def settle (step : Step Unit) : Step Unit :=
  match step.result with
  | .ok () => { step with session := step.session.commit }
  | .error _ => { step with session := step.session.unstage }

/-- Compiles one operation. -/
def compile (s : Session) (op : Operation) : Step Unit :=
  match op.validate with
  | .error e => ⟨.error e, s, []⟩
  | .ok () => settle (s.unstage.carryOut (op.plan s.target))

/-- Compiles operations in order, up to the first that fails. -/
def compileAll (s : Session) : List Operation → Step Unit
  | [] => ⟨.ok (), s, []⟩
  | op :: ops =>
    let step := s.compile op
    match step.result with
    | .error _ => step
    | .ok () =>
      let rest := step.session.compileAll ops
      { rest with warnings := step.warnings ++ rest.warnings }

/-- The statements of a session at its end. -/
def finish (s : Session) : List Statement :=
  s.statements

end SchemaDdl.Session
