import SchemaDdl.Digest.Sha1
import SchemaDdl.Error
import SchemaDdl.Text.Base64
import SchemaDdl.Text.Lowercase

/-!
# Names of indexes and constraints

A name is given by the operation or generated. A generated name depends on nothing but the kind of
object, the table and the columns, so the same operation gets the same name on every run. A dialect
limits the bytes of a name; a generated name above the limit is replaced by its hash, and an
explicit one is kept as it is.

## Main definitions

* `candidateName`, `hashedName`: the readable name and the hash that stands in for it.
* `generateName`: the name within a limit.
* `NameRequest`: what an operation asks of the naming.
* `Warning`: what is reported about names above the limit.
-/

namespace SchemaDdl

/-! ### Generated names -/

/-- The readable name: table, columns and kind with underscores between them, in lower case. Dots
and hyphens of the table become underscores. -/
def candidateName (kind : ObjectKind) (table : String) (columns : List String) : String :=
  let table := String.ofList
    (table.toList.map fun c => if c == '.' || c == '-' then '_' else c)
  Text.lowercase ("_".intercalate (table :: columns ++ [kind.suffix]))

/-- The hash of a readable name: the unpadded base64 text of its SHA-1 digest. -/
def hashedName (candidate : String) : String :=
  Text.base64 (Digest.sha1 candidate.toUTF8.data.toList)

/-- The length of every hashed name. -/
def hashedNameBytes : Nat := 27

/-- The readable name if it is within the limit, else its hash. -/
def generateName (limit : Nat) (kind : ObjectKind) (table : String) (columns : List String) :
    Except Error String :=
  let candidate := candidateName kind table columns
  let hash := hashedName candidate
  if candidate.utf8ByteSize ≤ limit then .ok candidate
  else if hash.utf8ByteSize ≤ limit then .ok hash
  else .error (.nameTooLong hash limit)

/-! ### Requests -/

/-- What an operation asks for: its explicit name, or one generated from its columns. -/
structure NameRequest where
  /-- The kind of object to be named. -/
  kind : ObjectKind
  /-- The name that the operation gives. -/
  explicit : Option String
  /-- The columns that a generated name is made from. -/
  columns : List String
  deriving DecidableEq, Repr

/-- What is reported about a name above the limit. -/
inductive Warning where
  /-- A generated name was replaced by its hash. -/
  | hashed (candidate hash : String) (limit : Nat)
  /-- An explicit name is kept although it is too long. -/
  | explicitTooLong (name : String) (limit : Nat)
  deriving DecidableEq, Repr

/-- The text of a warning. -/
def Warning.message : Warning → String
  | hashed .. => "Generated name exceeds the identifier limit, using its hash instead"
  | explicitTooLong .. => "Explicit name exceeds the identifier limit, leaving it unchanged"

/-- The name that a request gets on a table. -/
def NameRequest.resolve (r : NameRequest) (limit : Nat) (table : String) : Except Error String :=
  match r.explicit with
  | some name => .ok name
  | none => generateName limit r.kind table r.columns

/-- The warning that goes with the name, if it is above the limit. A generated name that is too
long even as a hash is an error and no warning. -/
def NameRequest.warning? (r : NameRequest) (limit : Nat) (table : String) : Option Warning :=
  match r.explicit with
  | some name => if limit < name.utf8ByteSize then some (.explicitTooLong name limit) else none
  | none =>
    let candidate := candidateName r.kind table r.columns
    let hash := hashedName candidate
    if limit < candidate.utf8ByteSize && hash.utf8ByteSize ≤ limit then
      some (.hashed candidate hash limit)
    else none

end SchemaDdl
