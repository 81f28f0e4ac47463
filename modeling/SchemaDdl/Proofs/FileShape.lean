import SchemaDdl.Proofs.FileLayout
import SchemaDdl.Proofs.JsonText

/-!
# The Two Shapes of a File

A file holds an array of units or a single unit, and a unit may be written as an array itself, as
may its operations. The reader tries the list first and drops its error. This module shows that
nothing depends on that: no value has both shapes, because a unit that is an array starts with the
name of its table, and no unit is a string.

What holds for values holds for texts as far as these are read at all. There is one difference: the
reader bounds the nesting, and a list is one level deeper than its units, so that a unit with the
deepest nesting there may be can stand alone but not in a list.

* `ofJson?_cases` — the values that a unit may be written as.
* `not_both` — no value is a list of units and a unit.
* `listOfJson?_eq_some_iff` — the values that a file may hold, and their units.
* `parse_array` — texts of units between brackets are read as the list of these units.
* `parse_ne_ok_of_deep` — a text with a deeper nesting is refused.

## Main results

* `file_unambiguous` — all of this for values and texts.
* `deepest_unit_alone` — a unit that can stand alone and not in a list.
-/

namespace SchemaDdl.MigrationUnit

variable {j : Json} {units : List MigrationUnit} {unit : MigrationUnit}

/-! ### Values -/

/-- A unit is an object, or an array of the name of its table and at most two more items. -/
theorem ofJson?_cases (h : ofJson? j = some unit) :
    (∃ members, j = .object members) ∨
      ∃ table rest, j = .array (.string table :: rest) ∧ rest.length ≤ 2 := by
  have halone := alone_of_ofJson? h
  match j, halone with
  | .object members, _ => exact .inl ⟨members, rfl⟩
  | .array (.string table :: rest), _ =>
      refine .inr ⟨table, rest, rfl, ?_⟩
      rw [ofJson?] at h
      obtain ⟨vs, hvs, -⟩ := Option.bind_eq_some_iff.mp h
      rw [Json.fields?] at hvs
      split at hvs
      · next hlength => exact Nat.le_of_succ_le_succ hlength
      · cases hvs

/-- **No value has both shapes.** -/
theorem not_both (h : ofJson? j = some unit) : SchemaDdl.listOfJson? ofJson? j = none :=
  (alone_of_ofJson? h).listOfJson?_eq_none

/-- A list of units is an array of them. -/
theorem units_eq_some_iff :
    SchemaDdl.listOfJson? ofJson? j = some units ↔
      ∃ us, j = .array us ∧ List.Forall₂ (fun u unit => ofJson? u = some unit) us units := by
  cases j with
  | array us =>
      rw [SchemaDdl.listOfJson?, mapM_eq_some_iff, ← List.forall₂_eq_eq_eq,
        List.forall₂_map_left_iff, List.forall₂_map_right_iff]
      simp
  | _ =>
      constructor
      · rintro ⟨⟩
      · rintro ⟨us, ⟨⟩, -⟩

/-- **What a file may hold**: an array of units, which is read as these, or a unit, which is read as
that alone. -/
theorem listOfJson?_eq_some_iff :
    listOfJson? j = some units ↔
      (∃ us, j = .array us ∧ List.Forall₂ (fun u unit => ofJson? u = some unit) us units) ∨
        ∃ unit, ofJson? j = some unit ∧ units = [unit] := by
  rw [listOfJson?, ← units_eq_some_iff]
  cases hlist : SchemaDdl.listOfJson? ofJson? j with
  | some units' =>
      refine ⟨fun h => .inl h, fun h => h.resolve_right ?_⟩
      rintro ⟨unit, hunit, -⟩
      rw [not_both hunit] at hlist
      cases hlist
  | none =>
      rw [or_iff_right (Option.some_ne_none units).symm, Option.map_eq_some_iff]
      simp only [eq_comm (a := units)]

/-- **The order of the alternatives does not matter**: a file is read in the same way when the unit
is tried before the list. -/
theorem listOfJson?_eq_swapped (j : Json) :
    listOfJson? j = match ofJson? j with
      | some unit => some [unit]
      | none => SchemaDdl.listOfJson? ofJson? j := by
  rw [listOfJson?]
  cases hunit : ofJson? j with
  | some unit =>
      rw [not_both hunit]
      rfl
  | none =>
      cases SchemaDdl.listOfJson? ofJson? j <;> rfl

/-! ### Texts -/

/-- **Texts of units between brackets** are read as the list of these units, if each of them fits
into an array. -/
theorem parse_array {texts : List String}
    (h : List.Forall₂ (fun text unit => ∃ u, Json.read text = .ok u ∧
      Json.FitsArray u ∧ ofJson? u = some unit) texts units) :
    parse ("[" ++ ",".intercalate texts ++ "]") = .ok units := by
  obtain ⟨us, hread, hunits⟩ : ∃ us,
      List.Forall₂ (fun text u => Json.read text = .ok u ∧ Json.FitsArray u) texts us ∧
      List.Forall₂ (fun u unit => ofJson? u = some unit) us units := by
    induction h with
    | nil => exact ⟨[], .nil, .nil⟩
    | cons hhead _ ih =>
        obtain ⟨u, hread, hregular, hunit⟩ := hhead
        obtain ⟨us, hreads, hunits⟩ := ih
        exact ⟨u :: us, .cons ⟨hread, hregular⟩ hreads, .cons hunit hunits⟩
  have harray := Json.read_array hread (rfl : Json.Blank "")
  rw [String.append_empty] at harray
  exact Json.decodeText_eq_ok_iff.mpr
    ⟨.array us, harray, listOfJson?_eq_some_iff.mpr (.inl ⟨us, rfl, hunits⟩)⟩

/-- **A unit between brackets** is read as it is without them, exactly if it fits into an array. -/
theorem parse_brackets_iff {text : String} {u : Json} (hread : Json.read text = .ok u)
    (hunit : ofJson? u = some unit) :
    parse ("[" ++ text ++ "]") = .ok [unit] ↔ Json.FitsArray u := by
  constructor
  · intro h
    obtain ⟨k, hk, -⟩ := Json.decodeText_eq_ok_iff.mp h
    exact (Json.read_brackets_iff hread).mp ⟨k, hk⟩
  · intro hregular
    have harray := parse_array (.cons ⟨u, hread, hregular, hunit⟩ .nil)
    rw [String.intercalate_singleton] at harray
    exact harray

/-- **A text that is nested too deep** is refused. -/
theorem parse_ne_ok_of_deep {depth : Nat} {text : String} (h : Json.ReadsWithin depth text j)
    (hdeep : ¬ Json.Regular (fun _ => True) Json.maxDepth j) : parse text ≠ .ok units := by
  intro hparse
  obtain ⟨k, hread, -⟩ := Json.decodeText_eq_ok_iff.mp hparse
  exact hdeep (h.iff.mp (Json.readsWithin_maxDepth.mpr hread)).2

/-- **A file is unambiguous.** An array of units is read as these units in order. A unit is read as
itself alone, and so is the array of nothing but it. No value has both shapes, so that the order in
which they are tried does not matter, and a value with neither is refused. A unit is an object, or
an array of the name of its table and at most two more items.

A text is read as its value is, and refused if it has none. A value that is read has at most
`Json.maxDepth` arrays and objects inside one another, and a text that only a reader with a larger
bound takes is refused. Texts of units that fit into an array are read as these units when they
stand between brackets. The text of a unit means the same with brackets around it as without exactly
if the unit fits, which it does not with the deepest nesting only. -/
theorem file_unambiguous :
    (∀ us units, List.Forall₂ (fun u unit => ofJson? u = some unit) us units →
      listOfJson? (.array us) = some units) ∧
    (∀ u unit, ofJson? u = some unit →
      listOfJson? u = some [unit] ∧ listOfJson? (.array [u]) = some [unit] ∧
        SchemaDdl.listOfJson? ofJson? u = none ∧
        ((∃ members, u = .object members) ∨
          ∃ table rest, u = .array (.string table :: rest) ∧ rest.length ≤ 2)) ∧
    (∀ j, listOfJson? j = match ofJson? j with
      | some unit => some [unit]
      | none => SchemaDdl.listOfJson? ofJson? j) ∧
    (∀ j units, listOfJson? j = some units ↔
      (∃ us, j = .array us ∧ List.Forall₂ (fun u unit => ofJson? u = some unit) us units) ∨
        ∃ unit, ofJson? j = some unit ∧ units = [unit]) ∧
    (∀ text units, parse text = .ok units ↔
      ∃ j, Json.read text = .ok j ∧ listOfJson? j = some units) ∧
    (∀ text j, Json.read text = .ok j → Json.Regular (fun _ => True) Json.maxDepth j) ∧
    (∀ depth text j, Json.ReadsWithin depth text j →
      (Json.read text = .ok j ↔ Json.Regular (fun _ => True) Json.maxDepth j) ∧
        (¬ Json.Regular (fun _ => True) Json.maxDepth j → ∀ units, parse text ≠ .ok units)) ∧
    (∀ texts units, List.Forall₂ (fun text unit => ∃ u, Json.read text = .ok u ∧
        Json.FitsArray u ∧ ofJson? u = some unit) texts units →
      parse ("[" ++ ",".intercalate texts ++ "]") = .ok units) ∧
    ∀ text u unit, Json.read text = .ok u → ofJson? u = some unit →
      parse text = .ok [unit] ∧
        (parse ("[" ++ text ++ "]") = parse text ↔ Json.FitsArray u) := by
  have hsingle : ∀ text u unit, Json.read text = .ok u → ofJson? u = some unit →
      parse text = .ok [unit] := fun text u unit hread hunit =>
    Json.decodeText_eq_ok_iff.mpr ⟨u, hread, listOfJson?_eq_some_iff.mpr (.inr ⟨unit, hunit, rfl⟩)⟩
  refine ⟨fun us units h => listOfJson?_eq_some_iff.mpr (.inl ⟨us, rfl, h⟩),
    fun u unit h => ⟨?_, ?_, not_both h, ofJson?_cases h⟩, listOfJson?_eq_swapped,
    fun j units => listOfJson?_eq_some_iff, fun text units => Json.decodeText_eq_ok_iff,
    fun text j hread => (Json.regular_of_read hread).imp fun _ _ => trivial,
    fun depth text j hwithin => ⟨?_, fun hdeep units => parse_ne_ok_of_deep hwithin hdeep⟩,
    fun texts units => parse_array, fun text u unit hread hunit => ⟨?_, ?_⟩⟩
  · exact listOfJson?_eq_some_iff.mpr (.inr ⟨unit, h, rfl⟩)
  · exact listOfJson?_eq_some_iff.mpr (.inl ⟨[u], rfl, .cons h .nil⟩)
  · exact Json.readsWithin_maxDepth.symm.trans (hwithin.iff.trans (and_iff_right rfl))
  · exact hsingle text u unit hread hunit
  · rw [hsingle text u unit hread hunit]
    exact parse_brackets_iff hread hunit

/-- Two units, an object and an array, as a list and alone. With brackets around it, the text of the
array is not taken for a list of three units. -/
theorem file_unambiguous_of_array :
    let first : Json := .object [("table", .string "a")]
    let second : Json := .array [.string "b", .null, .array []]
    let text := second.compact
    listOfJson? (.array [first, second]) = some [{ table := "a" }, { table := "b" }] ∧
      listOfJson? second = some [{ table := "b" }] ∧ parse text = .ok [{ table := "b" }] ∧
      parse ("[" ++ text ++ "," ++ text ++ "]") = .ok [{ table := "b" }, { table := "b" }] ∧
      parse ("[" ++ text ++ "]") = parse text := by
  intro first second text
  obtain ⟨hlist, hunit, -, -, -, -, -, harray, hsingle⟩ := file_unambiguous
  have hsecond : ofJson? second = some { table := "b" } := rfl
  have hregular : ∀ P depth, Json.Regular P (depth + 2) second := by
    intro P depth
    refine .array (List.forall_mem_cons.mpr ⟨.string "b", List.forall_mem_cons.mpr ⟨.null, ?_⟩⟩)
    exact List.forall_mem_singleton.mpr (.array (List.forall_mem_nil _))
  have hread : Json.read text = .ok second := Json.read_compact (hregular _ _)
  have htext : ∃ u, Json.read text = .ok u ∧ Json.FitsArray u ∧
      ofJson? u = some { table := "b" } :=
    ⟨second, hread, hregular _ _, hsecond⟩
  obtain ⟨halone, hbrackets⟩ := hsingle text second _ hread hsecond
  refine ⟨hlist _ _ (.cons rfl (.cons hsecond .nil)), (hunit second _ hsecond).1, halone, ?_,
    hbrackets.mpr (hregular _ _)⟩
  exact harray [text, text] _ (.cons htext (.cons htext .nil))

/-- Arrays inside one another, `n` of them around the innermost. -/
def nested : Nat → Json
  | 0 => .array []
  | n + 1 => .array [nested n]

/-- Arrays inside one another are as deep as there are arrays. -/
theorem regular_nested_iff {P : Float → Prop} {depth n : Nat} :
    Json.Regular P depth (nested n) ↔ n < depth := by
  induction n generalizing depth with
  | zero =>
      constructor
      · rintro ⟨⟩
        exact Nat.succ_pos _
      · intro h
        obtain ⟨depth, rfl⟩ := Nat.exists_eq_succ_of_ne_zero (Nat.ne_of_gt h)
        exact .array (List.forall_mem_nil _)
  | succ n ih =>
      constructor
      · rintro ⟨⟩
        next h => exact Nat.succ_lt_succ (ih.mp (h _ List.mem_cons_self))
      · intro h
        obtain ⟨depth, rfl⟩ := Nat.exists_eq_succ_of_ne_zero (Nat.ne_of_gt (Nat.zero_lt_of_lt h))
        exact .array (List.forall_mem_singleton.mpr (ih.mpr (Nat.lt_of_succ_lt_succ h)))

/-- A unit with a member that belongs to no field and has the deepest nesting there may be. -/
def deepest : Json :=
  .object [("table", .string "t"), ("note", nested 125)]

/-- The deepest unit is read alone, and refused as the only item of a list. -/
theorem deepest_unit_alone :
    ofJson? deepest = some { table := "t" } ∧
      parse deepest.compact = .ok [{ table := "t" }] ∧
      ∀ units, parse ("[" ++ deepest.compact ++ "]") ≠ .ok units := by
  have hunit : listOfJson? deepest = some [{ table := "t" }] := rfl
  have hregular : Json.Regular Json.ReadsBack Json.maxDepth deepest := by
    refine .object (List.forall_mem_cons.mpr ⟨.string "t", ?_⟩)
    exact List.forall_mem_singleton.mpr (regular_nested_iff.mpr (by decide))
  refine ⟨rfl, ?_, ?_⟩
  · exact Json.decodeText_eq_ok_iff.mpr ⟨deepest, Json.read_compact hregular, hunit⟩
  · intro units h
    obtain ⟨k, hk, -⟩ := Json.decodeText_eq_ok_iff.mp h
    have hitem := (Json.read_brackets_iff (Json.read_compact hregular)).mp ⟨k, hk⟩
    cases hitem with
    | object hmembers =>
        have hnote := hmembers ("note", nested 125) (by simp)
        exact absurd (regular_nested_iff.mp hnote) (by decide)

end SchemaDdl.MigrationUnit
