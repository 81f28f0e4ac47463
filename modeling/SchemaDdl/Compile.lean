import SchemaDdl.Format.Stock
import SchemaDdl.Schema.MigrationUnit
import SchemaDdl.Session.Compile

/-!
# Compiling migration units

A unit is validated as a whole and then compiled in a session of its own, with the stock formatter
of the dialect.

## Main definitions

* `MigrationUnit.compile`: the statements of a unit.
* `MigrationUnit.compileLogged`: the same with the warnings about names.
-/

namespace SchemaDdl.MigrationUnit

/-- The target of a unit in a dialect. -/
def target (u : MigrationUnit) (d : Dialect) : Target where
  dialect := d
  formatter := d.formatter
  table := u.table
  comment := u.comment

/-- The statements of a unit, and what is reported about names on the way. -/
def compileLogged (u : MigrationUnit) (d : Dialect) :
    Except Error (List Statement) × List Warning :=
  match u.validate with
  | .error e => (.error e, [])
  | .ok () =>
    match Session.start (u.target d) with
    | .error e => (.error e, [])
    | .ok session =>
      let step := session.compileAll u.operations
      match step.result with
      | .error e => (.error e, step.warnings)
      | .ok () => (.ok step.session.finish, step.warnings)

/-- The statements of a unit. -/
def compile (u : MigrationUnit) (d : Dialect) : Except Error (List Statement) :=
  (u.compileLogged d).1

end SchemaDdl.MigrationUnit
