import SchemaDdl.Json.Basic

/-!
# Records and choices in JSON

Two conventions by which migration files hold structured data. A record is an object whose members
are the fields, in any order, or an array of the fields in their declared order. A choice is the
name of an alternative, or an object with that name as its only key and the content as its value.

Members that belong to no field are passed over, however often they occur; a field that occurs
twice is refused.

## Main definitions

* `Json.fields?`: the fields of a record.
* `Json.choice?`: the alternative of a choice.
* `required`, `optional`, `withDefault`: what a field holds.
-/

namespace SchemaDdl

namespace Json

/-! ### Records -/

/-- The value of a key among the members of an object: none if the key is absent, and no result if
it occurs twice. -/
def member? (members : List (String × Json)) (key : String) : Option (Option Json) :=
  match members.filter fun m => m.1 == key with
  | [] => some none
  | [m] => some (some m.2)
  | _ => none

/-- The fields of a record in their declared order. An array may leave out fields at its end, and
an object any of them; whether they may be missing is for their reader to say. -/
def fields? (names : List String) : Json → Option (List (Option Json))
  | .object members => names.mapM (member? members)
  | .array items =>
    if items.length ≤ names.length then
      some (items.map some ++ List.replicate (names.length - items.length) none)
    else none
  | _ => none

/-! ### Choices -/

/-- The name of an alternative and its content, if it has any. -/
def choice? : Json → Option (String × Option Json)
  | .string name => some (name, none)
  | .object [(name, content)] => some (name, some content)
  | _ => none

end Json

/-- Where a value stands. An alternative without content may have `null` for its content; inside an
operation it may also have an empty object. -/
inductive Place where
  /-- On its own. -/
  | alone
  /-- Inside an operation. -/
  | inOperation
  deriving DecidableEq, Repr

/-- Whether an alternative without content may have this content. -/
def Place.admitsEmpty (place : Place) : Option Json → Bool
  | none => true
  | some .null => true
  | some (.object []) => place == .inOperation
  | some _ => false

/-! ### Fields -/

/-- A field that has to be there. -/
def required {α : Type} (read : Json → Option α) (field : Option Json) : Option α :=
  field.bind read

/-- A field that may be missing or null. -/
def optional {α : Type} (read : Json → Option α) : Option Json → Option (Option α)
  | none => some none
  | some .null => some none
  | some value => (read value).map some

/-- A field that has a value when it is missing. -/
def withDefault {α : Type} (otherwise : α) (read : Json → Option α) : Option Json → Option α
  | none => some otherwise
  | some value => read value

/-! ### Leaves -/

/-- A truth value. -/
def boolOfJson? : Json → Option Bool
  | .bool b => some b
  | _ => none

/-- A text. -/
def stringOfJson? : Json → Option String
  | .string s => some s
  | _ => none

/-- An array of values of one shape. -/
def listOfJson? {α : Type} (read : Json → Option α) : Json → Option (List α)
  | .array items => items.mapM read
  | _ => none

/-- A list is read exactly if each of its items is. -/
theorem mapM_eq_some_iff {α β : Type} {read : α → Option β} {l : List α} {l' : List β} :
    l.mapM read = some l' ↔ l.map read = l'.map some := by
  induction l generalizing l' with
  | nil => cases l' <;> simp
  | cons a l ih =>
      rw [List.mapM_cons, List.map_cons]
      cases l' with
      | nil => cases read a <;> cases l.mapM read <;> simp
      | cons b l' =>
          rw [List.map_cons, List.cons.injEq, ← ih]
          cases read a <;> cases l.mapM read <;> simp

/-- An unsigned integer below a bound. -/
def natOfJson? (bound : Nat) : Json → Option Nat
  | .int n => if 0 ≤ n && n < bound then some n.toNat else none
  | _ => none

/-- An unsigned integer of 16 bits. -/
def uint16OfJson? (j : Json) : Option UInt16 :=
  (natOfJson? UInt16.size j).map UInt16.ofNat

/-- An unsigned integer of 32 bits. -/
def uint32OfJson? (j : Json) : Option UInt32 :=
  (natOfJson? UInt32.size j).map UInt32.ofNat

/-- A signed integer of 64 bits. -/
def int64OfJson? : Json → Option Int64
  | .int n =>
    if Int64.minValue.toInt ≤ n && n ≤ Int64.maxValue.toInt then some (Int64.ofInt n) else none
  | _ => none

/-- A float, which an integer may stand for. -/
def floatOfJson? : Json → Option Float
  | .float x => some x
  | .int n =>
    let magnitude := (UInt64.ofNat n.natAbs).toFloat
    some (if n < 0 then -magnitude else magnitude)
  | _ => none

/-- Null in place of something missing. -/
def jsonOfOption {α : Type} (write : α → Json) : Option α → Json
  | none => .null
  | some a => write a

end SchemaDdl
