/-!
# Kinds of named objects

Indexes and constraints have names of their own. The kind of an object is the last part of a
generated name, so names of different kinds never meet.

## Main definitions

* `ObjectKind`, `ObjectKind.suffix`
-/

namespace SchemaDdl

/-- The kind of an object that has a name. -/
inductive ObjectKind where
  /-- A plain index. -/
  | index
  /-- A unique constraint. -/
  | unique
  /-- A foreign key constraint. -/
  | foreign
  /-- A primary key constraint. -/
  | primary
  deriving DecidableEq, Repr

/-- The last part of a generated name. -/
def ObjectKind.suffix : ObjectKind → String
  | index => "index"
  | unique => "unique"
  | foreign => "foreign"
  | primary => "pkey"

end SchemaDdl
