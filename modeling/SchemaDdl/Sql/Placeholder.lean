import SchemaDdl.Sql.Value

/-!
# Placeholders

A question mark in a statement is a placeholder unless it stands inside a quoted literal or
identifier. One scanner finds the placeholders, both to count them and to replace them by values.

A doubled quote inside a quoted part ends the part and starts it again at once, so the scanner needs
to know no more than the quote that is open.

## Main definitions

* `Scan`: the state of the scanner, the quote that is open.
* `Placeholder.count`: the number of placeholders.
* `Placeholder.inline`: a statement with values in place of its placeholders.

## Main results

* `Placeholder.countFrom_append`: counting goes part by part.
-/

namespace SchemaDdl

/-- The quote that is open, if any. -/
abbrev Scan := Option Char

/-- The characters that open a quoted part: string literals and two kinds of identifiers. -/
def isQuote (c : Char) : Bool :=
  c == '\x27' || c == '"' || c == '\x60'

/-- The state after one character. -/
def Scan.step (open? : Scan) (c : Char) : Scan :=
  match open? with
  | some q => if c = q then none else some q
  | none => if isQuote c then some c else none

/-- The state after a text. -/
def Scan.after (open? : Scan) (cs : List Char) : Scan :=
  cs.foldl Scan.step open?

@[simp]
theorem Scan.after_nil (open? : Scan) : open?.after [] = open? :=
  rfl

@[simp]
theorem Scan.after_cons (open? : Scan) (c : Char) (cs : List Char) :
    open?.after (c :: cs) = (open?.step c).after cs :=
  rfl

@[simp]
theorem Scan.after_append (open? : Scan) (cs ds : List Char) :
    open?.after (cs ++ ds) = (open?.after cs).after ds :=
  List.foldl_append

namespace Placeholder

/-- Whether a character read in a state is a placeholder. -/
def isMark (open? : Scan) (c : Char) : Bool :=
  open?.isNone && c == '?'

/-! ### Counting -/

/-- The number of placeholders in a text that starts in a state. -/
def countFrom (open? : Scan) : List Char → Nat
  | [] => 0
  | c :: cs => (if isMark open? c then 1 else 0) + countFrom (open?.step c) cs

/-- The placeholders of a text are those of its parts, each part read in the state that the one
before it leaves. -/
@[simp]
theorem countFrom_append (open? : Scan) (cs ds : List Char) :
    countFrom open? (cs ++ ds) = countFrom open? cs + countFrom (open?.after cs) ds := by
  induction cs generalizing open? with
  | nil => simp [countFrom]
  | cons c cs ih => simp [countFrom, ih, Nat.add_assoc]

/-- The number of placeholders of a statement. -/
def count (sql : String) : Nat :=
  countFrom none sql.toList

/-! ### Inlining -/

/-- Replaces placeholders by values, in order, in a text that starts in a state. Placeholders
beyond the last value stay. -/
def inlineFrom (open? : Scan) : List Value → List Char → List Char
  | _, [] => []
  | values, c :: cs =>
    match isMark open? c, values with
    | true, v :: values => v.inline.toList ++ inlineFrom (open?.step c) values cs
    | _, values => c :: inlineFrom (open?.step c) values cs

/-- Without values nothing is replaced. -/
@[simp]
theorem inlineFrom_nil (open? : Scan) (cs : List Char) : inlineFrom open? [] cs = cs := by
  induction cs generalizing open? with
  | nil => rfl
  | cons c cs ih => cases h : isMark open? c <;> simp [inlineFrom, h, ih]

/-- A statement with values in place of its placeholders. -/
def inline (sql : String) (values : List Value) : String :=
  String.ofList (inlineFrom none values sql.toList)

end Placeholder

end SchemaDdl
