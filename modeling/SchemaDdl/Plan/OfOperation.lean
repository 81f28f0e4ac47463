import SchemaDdl.Plan.Columns
import SchemaDdl.Plan.Keys
import SchemaDdl.Plan.Table

/-!
# The plan of an operation

## Main definitions

* `Operation.plan`: what an operation comes to on a target.
-/

namespace SchemaDdl

/-- What an operation comes to on a target. -/
def Operation.plan (t : Target) : Operation → Plan
  | createTable columns ifNotExists => .emit (t.createTable columns ifNotExists)
  | addColumns columns => .emit (t.addColumns columns)
  | dropColumns columns => .emit (t.dropColumns columns)
  | renameColumn source target => .emit (t.renameColumn source target)
  | changeColumnType column => .emit (t.changeColumnType column)
  | addPrimaryKey key => t.addPrimaryKey key
  | dropPrimaryKey name => t.dropPrimaryKey name
  | addIndex key => t.addIndex key
  | dropIndex key => t.dropIndex key
  | addUnique key => t.addUnique key
  | dropUnique key => t.dropUnique key
  | addForeignKey key => t.addForeignKey key
  | dropForeignKey key => t.dropForeignKey key
  | setComment comment => .emit (t.setComment comment)

end SchemaDdl
