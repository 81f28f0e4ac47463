import Mathlib.Data.List.Forall2
import SchemaDdl.Proofs.JsonStability

/-!
# JSON Texts as Items

A text that is read as a value can stand between the brackets of an array, with commas between it
and others, or behind a key and a colon in an object. It is then read as the same value. Only the
nesting counts differently, because the array or object is one more level.

* `read_blanks` — blanks around a text do not matter.
* `read_array`, `read_object` — texts between brackets are read as the array of their values, and
  texts behind keys as the object of them.
* `read_brackets_iff` — the values that fit into an array.
-/

namespace SchemaDdl.Json

/-! ### Blanks around a text -/

/-- A text is **blank** if it has nothing but blanks. -/
def Blank (text : String) : Prop :=
  text.toList.all isBlank = true

section Texts

variable {P : Float → Prop} {limit fuel : Nat}

/-- A text in front of a delimiter is read as its value, up to the delimiter and the blanks before
it. -/
theorem exists_readValue_append {text : String} {j : Json} (h : read text = .ok j)
    (hj : Regular P limit j) (hfuel : 2 * text.length + 2 ≤ fuel) {tail : List Char}
    (htail : Delimited tail) :
    ∃ rest, readValue .strict fuel limit (text.toList ++ tail) = .ok (j, rest) ∧
      skipBlanks rest = skipBlanks tail := by
  obtain ⟨rest, hfirst, hblank⟩ := read_eq_ok_iff.mp h
  refine ⟨rest ++ tail, (keeps P _).value hfirst hj ?_ htail, skipBlanks_blanks_append hblank tail⟩
  rw [String.length_toList]
  exact hfuel

/-- **Blanks around a text** do not matter. -/
theorem read_blanks {before text after : String} {j : Json} (hbefore : Blank before)
    (hafter : Blank after) (h : read text = .ok j) : read (before ++ text ++ after) = .ok j := by
  obtain ⟨_, hfirst, -⟩ := read_eq_ok_iff.mp h
  have hfuel : 2 * text.length + 2 ≤ 2 * (before ++ text ++ after).toList.length + 2 := by
    rw [String.length_toList, String.length_append, String.length_append]
    omega
  obtain ⟨rest, hvalue, hrest⟩ := exists_readValue_append h ((readsRegular _).value hfirst) hfuel
    (delimited_blanks hafter)
  refine read_eq_ok_iff.mpr ⟨rest, ?_, skipBlanks_eq_nil_iff.mp ?_⟩
  · rw [readFirst, String.toList_append, String.toList_append, List.append_assoc,
      ← readValue_skipBlanks, skipBlanks_blanks_append hbefore, readValue_skipBlanks,
      ← List.append_assoc, ← String.toList_append, ← String.toList_append]
    exact hvalue
  · rw [hrest]
    exact skipBlanks_eq_nil_iff.mpr hafter

/-! ### Texts between brackets -/

/-- Blanks in front of the items of an array do not matter. -/
theorem readItems_skipBlanks (fuel depth : Nat) (acc : List Json) (cs : List Char) :
    readItems .strict fuel depth acc (skipBlanks cs) = readItems .strict fuel depth acc cs := by
  cases fuel with
  | zero => rfl
  | succ fuel => rw [readItems, readItems, readValue_skipBlanks]

/-- No value starts with the bracket that closes an array. -/
theorem ne_bracket_of_readValue {fuel depth : Nat} {cs rest : List Char} {j : Json}
    (h : readValue .strict fuel depth cs = .ok (j, rest)) : ∀ ds, skipBlanks cs ≠ ']' :: ds := by
  intro ds hds
  rw [← readValue_skipBlanks, hds] at h
  cases fuel with
  | zero => cases h
  | succ fuel =>
      rw [readValue, skipBlanks_cons rfl] at h
      cases h

/-- The items of an array do not start with its bracket. -/
theorem ne_bracket_of_readItems {fuel depth : Nat} {acc : List Json} {cs rest : List Char}
    {j : Json} (h : readItems .strict fuel depth acc cs = .ok (j, rest)) :
    ∀ ds, skipBlanks cs ≠ ']' :: ds := by
  cases fuel with
  | zero => cases h
  | succ fuel =>
      obtain ⟨item, middle, hitem, -⟩ := readItems_eq_ok_iff.mp h
      exact ne_bracket_of_readValue hitem

/-- The characters of two texts with a comma between them. -/
theorem toList_comma (a b : String) : (a ++ "," ++ b).toList = a.toList ++ ',' :: b.toList := by
  have hchars : ",".toList = [','] := rfl
  rw [String.toList_append, String.toList_append, hchars, List.append_assoc, List.singleton_append]

/-- **Texts with commas between them** are read as the items of an array. The induction is on the
texts; each takes a step of fuel. -/
theorem readItems_texts {text : String} {j : Json} {texts : List String} {js : List Json}
    (hread : read text = .ok j ∧ Regular P limit j)
    (h : List.Forall₂ (fun text j => read text = .ok j ∧ Regular P limit j) texts js)
    (hfuel : 2 * (",".intercalate (text :: texts)).length + 2 < fuel) (acc : List Json)
    {tail rest : List Char} (htail : skipBlanks tail = ']' :: rest) :
    readItems .strict fuel limit acc ((",".intercalate (text :: texts)).toList ++ tail) =
      .ok (.array (acc.reverse ++ j :: js), rest) := by
  obtain ⟨fuel, rfl⟩ : ∃ n, fuel = n + 1 := Nat.exists_eq_succ_of_ne_zero (by omega)
  have hfuel := Nat.le_of_lt_succ hfuel
  induction h generalizing text j fuel acc with
  | nil =>
      rw [String.intercalate_singleton] at hfuel ⊢
      obtain ⟨middle, hvalue, hmiddle⟩ :=
        exists_readValue_append hread.1 hread.2 hfuel (delimited_of_skipBlanks htail rfl)
      rw [htail] at hmiddle
      exact readItems_eq_ok_iff.mpr ⟨j, middle, hvalue, .inl ⟨hmiddle, by rw [List.reverse_cons]⟩⟩
  | @cons next j' texts js hnext _ ih =>
      rw [String.intercalate_cons_cons] at hfuel ⊢
      have hcomma : ",".length = 1 := rfl
      rw [String.length_append, String.length_append, hcomma] at hfuel
      rw [toList_comma, List.append_assoc, List.cons_append]
      have hdelimited : Delimited (',' :: ((",".intercalate (next :: texts)).toList ++ tail)) :=
        delimited_cons rfl _
      obtain ⟨middle, hvalue, hmiddle⟩ := exists_readValue_append hread.1 hread.2
        (by omega : 2 * text.length + 2 ≤ fuel) hdelimited
      obtain ⟨fuel, rfl⟩ : ∃ n, fuel = n + 1 := Nat.exists_eq_succ_of_ne_zero (by omega)
      have hitems := ih hnext (j :: acc) fuel (by omega) (by omega)
      rw [skipBlanks_cons rfl] at hmiddle
      refine readItems_eq_ok_iff.mpr ⟨j, middle, hvalue, .inr ⟨_, hmiddle,
        ne_bracket_of_readItems hitems, ?_⟩⟩
      rw [readItems_skipBlanks, hitems, List.reverse_cons, List.append_assoc]
      rfl

/-- The characters of a text between an opening and a closing one. -/
theorem toList_enclosed {opening closing : String} {o c : Char} (ho : opening.toList = [o])
    (hc : closing.toList = [c]) (text : String) :
    (opening ++ text ++ closing).toList = o :: (text.toList ++ [c]) := by
  rw [String.toList_append, String.toList_append, ho, hc, List.append_assoc]
  rfl

/-- The length of a text between an opening and a closing character. -/
theorem length_enclosed {o c : Char} (text : String) :
    (o :: (text.toList ++ [c])).length = text.length + 2 := by
  rw [List.length_cons, List.length_append, String.length_toList]
  rfl

/-- A text between brackets that is not a mere closing bracket is read from its first item on. -/
theorem readFirst_brackets {text : String}
    (h : ∀ ds, skipBlanks (text.toList ++ [']']) ≠ ']' :: ds) :
    readFirst .strict ("[" ++ text ++ "]") =
      readItems .strict (2 * text.length + 5) (maxDepth - 1) [] (text.toList ++ [']']) := by
  rw [readFirst, toList_enclosed (rfl : "[".toList = ['[']) (rfl : "]".toList = [']']),
    length_enclosed]
  exact (readValue_bracket _ _ (maxDepth - 1) h).trans (readItems_skipBlanks _ _ _ _)

/-- A value **fits into an array** if its nesting leaves one level that the reader allows. -/
def FitsArray (j : Json) : Prop :=
  Regular (fun _ => True) (maxDepth - 1) j

/-- **Texts become items**: texts that are read as values that fit into an array are read as the
array of these values when they stand between brackets, with commas between them and maybe blanks
behind them. -/
theorem read_array {texts : List String} {js : List Json}
    (h : List.Forall₂ (fun text j => read text = .ok j ∧ FitsArray j) texts js) {after : String}
    (hafter : Blank after) :
    read ("[" ++ (",".intercalate texts ++ after) ++ "]") = .ok (.array js) := by
  have htail : skipBlanks (after.toList ++ [']']) = [']'] := skipBlanks_blanks_append hafter [']']
  cases h with
  | nil =>
      refine read_eq_ok_iff.mpr ⟨[], ?_, rfl⟩
      rw [String.intercalate_nil, String.empty_append, readFirst,
        toList_enclosed (rfl : "[".toList = ['[']) (rfl : "]".toList = [']'])]
      exact readValue_bracket_close _ _ (maxDepth - 1) htail
  | @cons text j texts js hread h =>
      have hfuel : 2 * (",".intercalate (text :: texts)).length + 2 <
          2 * (",".intercalate (text :: texts)).length + 2 * after.length + 5 := by
        omega
      have hitems := readItems_texts hread h hfuel [] htail
      rw [← List.append_assoc, ← String.toList_append] at hitems
      refine read_eq_ok_iff.mpr ⟨[], ?_, rfl⟩
      rw [readFirst_brackets (ne_bracket_of_readItems hitems), String.length_append, Nat.mul_add]
      exact hitems

/-- **How deep an item may be**: a text that is read as a value can stand between brackets exactly
if the value fits into an array. -/
theorem read_brackets_iff {text : String} {j : Json} (h : read text = .ok j) :
    (∃ k, read ("[" ++ text ++ "]") = .ok k) ↔ FitsArray j := by
  constructor
  · rintro ⟨k, hk⟩
    obtain ⟨rest, hfirst, -⟩ := read_eq_ok_iff.mp h
    have hdelimited : Delimited [']'] := delimited_cons rfl []
    obtain ⟨_, hj, -⟩ := exists_readValue_append h ((readsRegular _).value hfirst)
      (by omega : 2 * text.length + 2 ≤ 2 * text.length + 4) hdelimited
    obtain ⟨_, hbrackets, -⟩ := read_eq_ok_iff.mp hk
    rw [readFirst_brackets (ne_bracket_of_readValue hj)] at hbrackets
    -- The first item is read with one level less, and no reader reads anything else.
    obtain ⟨item, middle, hitem, -⟩ := readItems_eq_ok_iff.mp hbrackets
    obtain ⟨rfl, -⟩ := readValue_unique hj hitem
    exact ((readsRegular _).value hitem).imp fun _ _ => trivial
  · intro hj
    have harray := read_array (.cons ⟨h, hj⟩ .nil) (rfl : Blank "")
    rw [String.intercalate_singleton, String.append_empty] at harray
    exact ⟨_, harray⟩

/-! ### Texts behind keys -/

/-- A **member as it is written**: its key, blanks in front of that, its value, and a text for the
value. -/
structure MemberText where
  /-- The blanks in front of the key. -/
  before : String
  /-- The key. -/
  key : String
  /-- The text of the value. -/
  text : String
  /-- The value. -/
  value : Json

namespace MemberText

/-- The text of a member. -/
def spelling (m : MemberText) : String :=
  m.before ++ quoted m.key ++ ":" ++ m.text

/-- The member that is written. -/
def member (m : MemberText) : String × Json :=
  (m.key, m.value)

/-- A member is **legible** if there are blanks in front of it and its value is read from its text,
within a bound on the nesting. -/
structure Legible (P : Float → Prop) (limit : Nat) (m : MemberText) : Prop where
  /-- Nothing but blanks is in front. -/
  blank : Blank m.before
  /-- The value is read. -/
  read : Json.read m.text = .ok m.value
  /-- The value is within the bound. -/
  regular : Regular P limit m.value

/-- The value of a member is no longer than the member. -/
theorem length_text_le (m : MemberText) : m.text.length ≤ m.spelling.length := by
  rw [spelling, String.length_append]
  omega

/-- Behind the blanks, a member starts with a quote. -/
theorem skipBlanks_spelling {m : MemberText} (h : Blank m.before) (tail : List Char) :
    skipBlanks (m.spelling.toList ++ tail) =
      (quoted m.key).toList ++ ':' :: (m.text.toList ++ tail) := by
  have hcolon : ":".toList = [':'] := rfl
  rw [spelling, String.toList_append, String.toList_append, String.toList_append, hcolon,
    List.append_assoc, List.append_assoc, List.append_assoc, List.singleton_append,
    skipBlanks_blanks_append h, toList_quoted, List.cons_append, skipBlanks_cons rfl]

/-- **A member is read**, up to what follows its value. -/
theorem Legible.readMembers {m : MemberText} (h : m.Legible P limit)
    (hfuel : 2 * m.text.length + 2 ≤ fuel) {acc : List (String × Json)} {tail rest : List Char}
    {j : Json} (htail : Delimited tail)
    (hstep : skipBlanks tail = '\x7d' :: rest ∧ j = .object (m.member :: acc).reverse ∨
      ∃ more, skipBlanks tail = ',' :: more ∧
        Json.readMembers .strict fuel limit (m.member :: acc) true (skipBlanks more) =
          .ok (j, rest)) :
    Json.readMembers .strict (fuel + 1) limit acc true
      (skipBlanks (m.spelling.toList ++ tail)) = .ok (j, rest) := by
  obtain ⟨keyed, hkeyed, hkey⟩ := readString_quoted .strict m.key (':' :: (m.text.toList ++ tail))
  obtain ⟨middle, hvalue, hmiddle⟩ := exists_readValue_append h.read h.regular hfuel htail
  rw [skipBlanks_spelling h.blank, hkeyed]
  rw [← hmiddle] at hstep
  exact readMembers_eq_ok_iff.mpr
    ⟨keyed, m.key, _, _, m.value, middle, rfl, hkey, skipBlanks_cons rfl _, hvalue, hstep⟩

end MemberText

/-- **Members with commas between them** are read as the members of an object. The induction is on
the members; each takes a step of fuel. -/
theorem readMembers_texts {m : MemberText} {ms : List MemberText}
    (h : ∀ n ∈ m :: ms, n.Legible P limit)
    (hfuel : 2 * (",".intercalate ((m :: ms).map MemberText.spelling)).length + 2 < fuel)
    (acc : List (String × Json)) {tail rest : List Char}
    (htail : skipBlanks tail = '\x7d' :: rest) :
    readMembers .strict fuel limit acc true
        (skipBlanks ((",".intercalate ((m :: ms).map MemberText.spelling)).toList ++ tail)) =
      .ok (.object (acc.reverse ++ (m :: ms).map MemberText.member), rest) := by
  obtain ⟨fuel, rfl⟩ : ∃ n, fuel = n + 1 := Nat.exists_eq_succ_of_ne_zero (by omega)
  have hfuel := Nat.le_of_lt_succ hfuel
  induction ms generalizing m fuel acc with
  | nil =>
      rw [List.map_singleton, String.intercalate_singleton] at hfuel ⊢
      have hlength := m.length_text_le
      refine (h m List.mem_cons_self).readMembers (by omega) (delimited_of_skipBlanks htail rfl)
        (.inl ⟨htail, ?_⟩)
      rw [List.reverse_cons]
      rfl
  | cons next ms ih =>
      obtain ⟨hm, hms⟩ := List.forall_mem_cons.mp h
      have hlength := m.length_text_le
      have hcomma : ",".length = 1 := rfl
      rw [List.map_cons, List.map_cons, String.intercalate_cons_cons] at hfuel ⊢
      rw [String.length_append, String.length_append, hcomma, ← List.map_cons] at hfuel
      rw [toList_comma, List.append_assoc, List.cons_append, ← List.map_cons]
      obtain ⟨fuel, rfl⟩ : ∃ n, fuel = n + 1 := Nat.exists_eq_succ_of_ne_zero (by omega)
      have hmembers := ih hms (m.member :: acc) fuel (by omega) (by omega)
      refine hm.readMembers (by omega) (delimited_cons rfl _)
        (.inr ⟨_, skipBlanks_cons rfl _, ?_⟩)
      rw [hmembers, List.reverse_cons, List.append_assoc]
      rfl

/-- The members of an object do not start with its brace. -/
theorem ne_brace_of_readMembers {fuel depth : Nat} {acc : List (String × Json)}
    {cs rest : List Char} {j : Json}
    (h : readMembers .strict fuel depth acc true cs = .ok (j, rest)) : ∀ ds, cs ≠ '\x7d' :: ds := by
  rintro ds rfl
  cases fuel <;> cases h

/-- A text between braces that is not a mere closing brace is read from its first member on. -/
theorem readFirst_braces {text : String}
    (h : ∀ ds, skipBlanks (text.toList ++ ['\x7d']) ≠ '\x7d' :: ds) :
    readFirst .strict ("\x7b" ++ text ++ "\x7d") =
      readMembers .strict (2 * text.length + 5) (maxDepth - 1) [] true
        (skipBlanks (text.toList ++ ['\x7d'])) := by
  rw [readFirst, toList_enclosed (rfl : "\x7b".toList = ['\x7b']) (rfl : "\x7d".toList = ['\x7d']),
    length_enclosed]
  exact readValue_brace _ _ (maxDepth - 1) h

/-- **Texts become members**: members whose values are read from their texts and fit into an array
are read as the object of them when they stand between braces, with commas between them and maybe
blanks behind them. -/
theorem read_object {ms : List MemberText}
    (h : ∀ m ∈ ms, m.Legible (fun _ => True) (maxDepth - 1)) {after : String}
    (hafter : Blank after) :
    read ("\x7b" ++ (",".intercalate (ms.map MemberText.spelling) ++ after) ++ "\x7d") =
      .ok (.object (ms.map MemberText.member)) := by
  have htail : skipBlanks (after.toList ++ ['\x7d']) = ['\x7d'] :=
    skipBlanks_blanks_append hafter ['\x7d']
  refine read_eq_ok_iff.mpr ⟨[], ?_, rfl⟩
  cases ms with
  | nil =>
      rw [List.map_nil, String.intercalate_nil, String.empty_append, readFirst,
        toList_enclosed (rfl : "\x7b".toList = ['\x7b']) (rfl : "\x7d".toList = ['\x7d'])]
      exact readValue_brace_close _ _ (maxDepth - 1) htail
  | cons m ms =>
      have hmembers := readMembers_texts h (by omega : _ < 2 * (",".intercalate
        ((m :: ms).map MemberText.spelling)).length + 2 * after.length + 5) [] htail
      rw [← List.append_assoc, ← String.toList_append] at hmembers
      rw [readFirst_braces (ne_brace_of_readMembers hmembers), String.length_append, Nat.mul_add]
      exact hmembers

end Texts

end SchemaDdl.Json
