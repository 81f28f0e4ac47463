import SchemaDdl.Json.Reader
import SchemaDdl.Proofs.FloatRange

/-!
# What Is Read Is in Range

A strict reader of JSON refuses what has no value: numbers beyond the range of floats, unpaired
surrogates and too deep a nesting. So whatever text it accepts, the value that it reads has integers
of 64 bits and finite floats, has no unreadable part, and is not nested deeper than allowed.

* `Regular` — a value whose parts are in range, with a property of its floats and a bound on its
  nesting.
* `readsRegular` — a value that a strict reader reads is regular, and its floats are finite.
* `decodeText_eq_ok_iff` — a text is decoded as its value is.
* `regular_of_read` — the value of a text is regular.
-/

namespace SchemaDdl.Json

/-- A value is **regular**, for a property of floats, if its integers have 64 bits, its floats have
the property, no part of it is unreadable, and it has at most `depth` arrays and objects inside one
another. -/
inductive Regular (P : Float → Prop) : Nat → Json → Prop where
  /-- Null is. -/
  | null {depth : Nat} : Regular P depth .null
  /-- Truth values are. -/
  | bool {depth : Nat} (b : Bool) : Regular P depth (.bool b)
  /-- Integers of 64 bits are, signed or not. -/
  | int {depth : Nat} {n : Int} (lower : -2 ^ 63 ≤ n) (upper : n < 2 ^ 64) :
      Regular P depth (.int n)
  /-- Floats with the property are. -/
  | float {depth : Nat} {x : Float} (property : P x) : Regular P depth (.float x)
  /-- Strings are. -/
  | string {depth : Nat} (s : String) : Regular P depth (.string s)
  /-- Arrays are if their items are. -/
  | array {depth : Nat} {items : List Json} (regular : ∀ item ∈ items, Regular P depth item) :
    Regular P (depth + 1) (.array items)
  /-- Objects are if the values of their members are. -/
  | object {depth : Nat} {members : List (String × Json)}
    (regular : ∀ m ∈ members, Regular P depth m.2) : Regular P (depth + 1) (.object members)

/-- The bound on the nesting may be larger. -/
theorem Regular.mono {P : Float → Prop} {depth limit : Nat} {j : Json} (h : Regular P depth j)
    (hle : depth ≤ limit) : Regular P limit j := by
  induction h generalizing limit with
  | null => exact .null
  | bool b => exact .bool b
  | int lower upper => exact .int lower upper
  | float property => exact .float property
  | string s => exact .string s
  | array _ ih =>
      obtain ⟨limit, rfl⟩ : ∃ n, limit = n + 1 := Nat.exists_eq_succ_of_ne_zero (by omega)
      exact .array fun item hitem => ih item hitem (Nat.le_of_succ_le_succ hle)
  | object _ ih =>
      obtain ⟨limit, rfl⟩ : ∃ n, limit = n + 1 := Nat.exists_eq_succ_of_ne_zero (by omega)
      exact .object fun m hm => ih m hm (Nat.le_of_succ_le_succ hle)

/-- A value stays regular when less is asked of its floats. -/
theorem Regular.imp {P Q : Float → Prop} (himp : ∀ x, P x → Q x) {depth : Nat} {j : Json}
    (h : Regular P depth j) : Regular Q depth j := by
  induction h with
  | null => exact .null
  | bool b => exact .bool b
  | int lower upper => exact .int lower upper
  | float property => exact .float (himp _ property)
  | string s => exact .string s
  | array _ ih => exact .array ih
  | object _ ih => exact .object ih

/-! ### Numbers -/

namespace Numeral

/-- Digits are taken in as long as the result has 64 bits. -/
theorem absorb_lt {n : Nat} (h : n < UInt64.size) (digits : List Char) :
    (absorb n digits).1 < UInt64.size := by
  induction digits generalizing n with
  | nil => exact h
  | cons d digits ih =>
      rw [absorb]
      split
      · next hlonger => exact ih hlonger
      · exact h

/-- **The value of a numeral** is an integer of 64 bits or a finite float. -/
theorem regular_value? {n : Numeral} {j : Json} (h : n.value? = some j) (depth : Nat) :
    Regular (·.isFinite) depth j := by
  have hscaled : ∀ {negative significand exponent},
      (scaled? negative significand exponent).map Json.float = some j →
        Regular (·.isFinite) depth j := by
    intro negative significand exponent hmap
    obtain ⟨x, hx, rfl⟩ := Option.map_eq_some_iff.mp hmap
    exact .float (isFinite_scaled? hx)
  have hwhole : (absorb 0 n.whole).1 < 2 ^ 64 := absorb_lt (by decide) n.whole
  rw [value?] at h
  dsimp only at h
  split at h
  · split at h
    · exact hscaled h
    · split at h
      · split at h
        · next hrange =>
          cases h
          have hle : (absorb 0 n.whole).1 ≤ 2 ^ 63 :=
            of_decide_eq_true (Bool.and_eq_true_iff.mp hrange).2
          exact .int (by omega) (by omega)
        · cases h
          exact .float (isFinite_neg (within_toFloat _).isFinite)
      · cases h
        exact .int (by omega) (by omega)
  · exact hscaled h

end Numeral

/-- What a reader reads after another is read from what the first one has read. -/
theorem exists_of_bind_eq_ok {α β : Type} {x : Except Fault α} {f : α → Except Fault β} {b : β}
    (h : x >>= f = .ok b) : ∃ a, x = .ok a ∧ f a = .ok b := by
  cases x with
  | error e => cases h
  | ok a => exact ⟨a, rfl, h⟩

/-- A number that a strict reader reads is in range. -/
theorem regular_readNumber {cs rest : List Char} {j : Json}
    (h : readNumber .strict cs = .ok (j, rest)) (depth : Nat) :
    Regular (·.isFinite) depth j := by
  obtain ⟨⟨numeral, _⟩, -, hvalue⟩ := exists_of_bind_eq_ok h
  dsimp only at hvalue
  split at hvalue
  · next hnumeral =>
    cases hvalue
    exact Numeral.regular_value? hnumeral depth
  · cases hvalue
  · next hlenient => cases hlenient

/-! ### Strings -/

/-- The escapes that a strict reader accepts stand for characters. -/
theorem isSome_readEscape {cs rest : List Char} {char : Option Char}
    (h : readEscape .strict cs = .ok (char, rest)) : char.isSome = true := by
  have hcodePoint : ∀ {cs}, readCodePoint .strict cs = .ok (char, rest) → char.isSome = true := by
    intro cs h
    obtain ⟨⟨unit, _⟩, -, hunit⟩ := exists_of_bind_eq_ok h
    dsimp only at hunit
    split at hunit
    · cases hunit
      rfl
    · split at hunit
      · cases hunit
        rfl
      · cases hunit
      · next hlenient => cases hlenient
  rw [readEscape.eq_def] at h
  split at h
  case h_10 => exact hcodePoint h
  all_goals cases h
  all_goals rfl

/-- A string that a strict reader accepts has a value. -/
theorem isSome_readString {fuel : Nat} {acc cs rest : List Char} {text : Option String}
    (h : readString .strict fuel acc true cs = .ok (text, rest)) : text.isSome = true := by
  induction fuel generalizing acc cs with
  | zero => cases h
  | succ fuel ih =>
      cases cs with
      | nil => cases h
      | cons c cs =>
          rw [readString] at h
          split at h
          · cases h
            rfl
          · split at h
            · obtain ⟨⟨char, _⟩, hescape, hstring⟩ := exists_of_bind_eq_ok h
              obtain ⟨char, rfl⟩ := Option.isSome_iff_exists.mp (isSome_readEscape hescape)
              exact ih hstring
            · split at h
              · cases h
              · exact ih h

/-! ### Values -/

/-- A literal is read as its value. -/
theorem eq_of_readWord {value j : Json} {word cs rest : List Char}
    (h : readWord value word cs = .ok (j, rest)) : j = value := by
  induction word generalizing cs with
  | nil =>
      cases h
      rfl
  | cons w word ih =>
      cases cs with
      | nil => cases h
      | cons c cs =>
          rw [readWord] at h
          split at h
          · exact ih h
          · cases h

/-- A reader of values, with this amount of fuel, reads **regular** ones. -/
structure ReadsRegular (fuel : Nat) : Prop where
  /-- A value is regular. -/
  value {depth : Nat} {cs rest : List Char} {j : Json} :
    readValue .strict fuel depth cs = .ok (j, rest) → Regular (·.isFinite) depth j
  /-- An array is regular if the items in front are. -/
  items {depth : Nat} {acc : List Json} {cs rest : List Char} {j : Json} :
    (∀ i ∈ acc, Regular (·.isFinite) depth i) →
      readItems .strict fuel depth acc cs = .ok (j, rest) →
        Regular (·.isFinite) (depth + 1) j
  /-- An object is regular if the members in front are. -/
  members {depth : Nat} {acc : List (String × Json)} {cs rest : List Char} {j : Json} :
    (∀ m ∈ acc, Regular (·.isFinite) depth m.2) →
      readMembers .strict fuel depth acc true cs = .ok (j, rest) →
        Regular (·.isFinite) (depth + 1) j

namespace ReadsRegular

variable {fuel depth : Nat} {cs rest : List Char} {j : Json}

/-- A step through the items of an array. -/
theorem items_succ (ih : ReadsRegular fuel) {acc : List Json}
    (hacc : ∀ i ∈ acc, Regular (·.isFinite) depth i)
    (h : readItems .strict (fuel + 1) depth acc cs = .ok (j, rest)) :
    Regular (·.isFinite) (depth + 1) j := by
  rw [readItems] at h
  obtain ⟨⟨item, tail⟩, hitem, hrest⟩ := exists_of_bind_eq_ok h
  have hcons := List.forall_mem_cons.mpr ⟨ih.value hitem, hacc⟩
  dsimp only at hrest
  split at hrest
  · cases hrest
  · cases hrest
    exact .array fun i hi => hcons i (List.mem_reverse.mp hi)
  · split at hrest
    · cases hrest
    · exact ih.items hcons hrest
  · cases hrest

/-- A step through the members of an object. -/
theorem members_succ (ih : ReadsRegular fuel) {acc : List (String × Json)}
    (hacc : ∀ m ∈ acc, Regular (·.isFinite) depth m.2)
    (h : readMembers .strict (fuel + 1) depth acc true cs = .ok (j, rest)) :
    Regular (·.isFinite) (depth + 1) j := by
  cases cs with
  | nil => cases h
  | cons c cs =>
      rw [readMembers] at h
      split at h
      · cases h
      · obtain ⟨⟨key, tail⟩, hkey, hmember⟩ := exists_of_bind_eq_ok h
        obtain ⟨key, rfl⟩ := Option.isSome_iff_exists.mp (isSome_readString hkey)
        dsimp only at hmember
        split at hmember
        · cases hmember
        · obtain ⟨⟨value, tail⟩, hvalue, hrest⟩ := exists_of_bind_eq_ok hmember
          have hcons : ∀ m ∈ (key, value) :: acc, Regular (·.isFinite) depth m.2 :=
            List.forall_mem_cons.mpr ⟨ih.value hvalue, hacc⟩
          dsimp only [Option.getD_some] at hrest
          split at hrest
          · cases hrest
          · cases hrest
            exact .object fun m hm => hcons m (List.mem_reverse.mp hm)
          · exact ih.members hcons hrest
          · cases hrest
        · cases hmember

/-- A step into a value. -/
theorem value_succ (ih : ReadsRegular fuel)
    (h : readValue .strict (fuel + 1) depth cs = .ok (j, rest)) :
    Regular (·.isFinite) depth j := by
  rw [readValue] at h
  split at h
  · cases h
  · exact eq_of_readWord h ▸ .null
  · exact eq_of_readWord h ▸ .bool _
  · exact eq_of_readWord h ▸ .bool _
  · obtain ⟨⟨text, tail⟩, htext, hrest⟩ := exists_of_bind_eq_ok h
    obtain ⟨text, rfl⟩ := Option.isSome_iff_exists.mp (isSome_readString htext)
    cases hrest
    exact .string _
  · split at h
    · cases h
    · cases h
      exact .array (List.forall_mem_nil _)
    · exact ih.items (List.forall_mem_nil _) h
  · split at h
    · cases h
    · cases h
      exact .object (List.forall_mem_nil _)
    · exact ih.members (List.forall_mem_nil _) h
  · split at h
    · exact regular_readNumber h _
    · cases h

end ReadsRegular

/-- **What a strict reader reads is regular.** The induction is on the fuel, for values, items and
members at once. -/
theorem readsRegular (fuel : Nat) : ReadsRegular fuel := by
  induction fuel with
  | zero => exact ⟨nofun, nofun, nofun⟩
  | succ fuel ih => exact ⟨ih.value_succ, ih.items_succ, ih.members_succ⟩

/-! ### Whole texts -/

/-- A text is decoded by reading it as JSON first, so that what it is decoded as depends on its
value alone. -/
theorem decodeText_eq_ok_iff {α : Type} {decode : Json → Option α} {text : String} {a : α} :
    decodeText decode text = .ok a ↔ ∃ j, read text = .ok j ∧ decode j = some a := by
  rw [read, decodeText, decodeText]
  cases readFirst .strict text with
  | error fault =>
      constructor
      · intro h
        cases h
      · rintro ⟨j, h, -⟩
        cases h
  | ok first =>
      obtain ⟨value, rest⟩ := first
      simp only [bind, Except.bind, pure, Except.pure]
      cases hdecode : decode value <;> cases rest.all isBlank <;> simp [hdecode]

/-- A text is one value if nothing but blanks follows its first value. -/
theorem read_eq_ok_iff {text : String} {j : Json} :
    read text = .ok j ↔
      ∃ rest, readFirst .strict text = .ok (j, rest) ∧ rest.all isBlank = true := by
  rw [read, decodeText]
  cases readFirst .strict text with
  | error e => simp [bind, Except.bind]
  | ok result =>
      obtain ⟨value, rest⟩ := result
      change (if rest.all isBlank then Except.ok value else Except.error Fault.malformed) = _ ↔ _
      split
      · next hblank =>
        constructor
        · rintro ⟨⟩
          exact ⟨rest, rfl, hblank⟩
        · rintro ⟨_, ⟨⟩, _⟩
          rfl
      · next hblank =>
        constructor
        · rintro ⟨⟩
        · rintro ⟨_, ⟨⟩, h⟩
          exact absurd h hblank

/-- **What a text is read as** is regular, and its floats are finite. -/
theorem regular_of_read {text : String} {j : Json} (h : read text = .ok j) :
    Regular (·.isFinite) maxDepth j := by
  obtain ⟨_, hfirst, -⟩ := read_eq_ok_iff.mp h
  exact (readsRegular _).value hfirst

end SchemaDdl.Json
