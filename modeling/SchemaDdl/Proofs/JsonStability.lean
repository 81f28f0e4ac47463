import SchemaDdl.Codec.Record
import SchemaDdl.Proofs.JsonRange
import SchemaDdl.Proofs.JsonScalars

/-!
# What Is Read Is Kept

The reader takes what belongs to a value and leaves what follows. So the value stays the same when
something else is put behind it, as long as that starts with a delimiter. Fuel and the bound on the
nesting do not matter either, as long as there is enough of them: all strict readers agree on a text
that they read at all.

* `framed_readEscape`, `readString_append` — strings are read whatever follows them.
* `readItems_eq_ok_iff`, `readMembers_eq_ok_iff` — all that a step through an array or an object can
  do.
* `Keeps` — a reader with some fuel reads the same with more fuel, with a delimiter behind the text,
  and with any bound on the nesting that the value is within.
* `keeps` — the reader of values does so.
* `ReadsWithin.iff` — a text that is read with one bound on the nesting is read with another one
  exactly if its value is within that.
-/

namespace SchemaDdl.Json

/-! ### Blanks -/

/-- There are no blanks to skip in front of a character that is none. -/
theorem skipBlanks_cons {c : Char} (hc : isBlank c = false) (cs : List Char) :
    skipBlanks (c :: cs) = c :: cs := by
  rw [skipBlanks, List.dropWhile_cons_of_neg (by rw [hc]; exact Bool.false_ne_true)]

/-- There are no blanks left to skip. -/
theorem skipBlanks_skipBlanks (cs : List Char) : skipBlanks (skipBlanks cs) = skipBlanks cs :=
  List.dropWhile_idempotent isBlank cs

/-- Blanks end in front of the first character that is none, whatever follows. -/
theorem skipBlanks_append {cs : List Char} (h : skipBlanks cs ≠ []) (tail : List Char) :
    skipBlanks (cs ++ tail) = skipBlanks cs ++ tail := by
  rw [skipBlanks] at h
  rw [skipBlanks, List.dropWhile_append, if_neg (by rwa [List.isEmpty_iff]), skipBlanks]

/-- Blanks end in front of a character that is none, whatever follows. -/
theorem skipBlanks_append_of_eq_cons {cs ds : List Char} {c : Char} (h : skipBlanks cs = c :: ds)
    (tail : List Char) : skipBlanks (cs ++ tail) = c :: (ds ++ tail) := by
  have hne : skipBlanks cs ≠ [] := by
    rw [h]
    exact List.cons_ne_nil c ds
  rw [skipBlanks_append hne, h, List.cons_append]

/-- Nothing but blanks is skipped as a whole. -/
theorem skipBlanks_eq_nil_iff {cs : List Char} : skipBlanks cs = [] ↔ cs.all isBlank = true := by
  rw [skipBlanks, List.dropWhile_eq_nil_iff, List.all_eq_true]

/-- Blanks in front of a text are skipped with those of the text. -/
theorem skipBlanks_blanks_append {cs : List Char} (h : cs.all isBlank = true) (tail : List Char) :
    skipBlanks (cs ++ tail) = skipBlanks tail := by
  rw [skipBlanks, List.dropWhile_append_of_pos (List.all_eq_true.mp h), skipBlanks]

/-- A text is delimited if a delimiter follows its blanks. -/
theorem delimited_of_skipBlanks {cs rest : List Char} {c : Char} (h : skipBlanks cs = c :: rest)
    (hc : isDelimiter c = true) : Delimited cs := by
  cases cs with
  | nil => cases h
  | cons d ds =>
      cases hd : isBlank d with
      | true => exact delimited_cons (by simp [isDelimiter, hd]) ds
      | false =>
          rw [skipBlanks_cons hd] at h
          obtain ⟨rfl, -⟩ := List.cons.inj h
          exact delimited_cons hc ds

/-- Blanks are delimited. -/
theorem delimited_blanks {cs : List Char} (h : cs.all isBlank = true) : Delimited cs := by
  cases cs with
  | nil => exact delimited_nil
  | cons c cs =>
      rw [List.all_cons, Bool.and_eq_true] at h
      exact delimited_cons (by simp [isDelimiter, h.1]) cs

/-! ### Numbers -/

/-- **A number is read** where its first character stands, because nothing else starts with it. -/
theorem readValue_number (care : Care) (fuel depth : Nat) {c : Char}
    (hc : (c = '-' || c.isDigit) = true) (cs : List Char) :
    readValue care (fuel + 1) depth (c :: cs) = readNumber care (c :: cs) := by
  have hne : ∀ d : Char, (d = '-' || d.isDigit) = false → c ≠ d := by
    rintro d hd rfl
    rw [hd] at hc
    cases hc
  have hblank : isBlank c = false := by
    simp [isBlank, hne ' ' rfl, hne '\t' rfl, hne '\n' rfl, hne '\r' rfl]
  rw [readValue, skipBlanks_cons hblank]
  split
  · next h => cases h
  · next h => exact absurd (List.cons.inj h).1 (hne 'n' rfl)
  · next h => exact absurd (List.cons.inj h).1 (hne 't' rfl)
  · next h => exact absurd (List.cons.inj h).1 (hne 'f' rfl)
  · next h => exact absurd (List.cons.inj h).1 (hne '"' rfl)
  · next h => exact absurd (List.cons.inj h).1 (hne '[' rfl)
  · next h => exact absurd (List.cons.inj h).1 (hne '\x7b' rfl)
  · next h =>
      obtain ⟨rfl, rfl⟩ := List.cons.inj h
      exact if_pos hc

/-! ### Literals and strings -/

/-- The reader of a literal is framed. -/
theorem framed_readWord (value : Json) (word : List Char) : Framed (readWord value word) := by
  induction word with
  | nil => exact framed_pure value
  | cons w word ih =>
      intro cs j rest h
      cases cs with
      | nil => cases h
      | cons c cs =>
          rw [readWord] at h
          split at h
          · next hw =>
              obtain ⟨hsuffix, hstable⟩ := ih h
              refine ⟨hsuffix.trans (List.suffix_cons c cs), fun tail htail => ?_⟩
              rw [List.cons_append, readWord, if_pos hw, hstable tail htail]
          · cases h

/-- The reader of the digits of an escape is framed. -/
theorem framed_readUnit : Framed readUnit := by
  intro cs unit rest h
  rw [readUnit] at h
  split at h
  · cases h
  · next hsize =>
      split at h
      · next a b c d hdigits =>
          obtain ⟨rfl, rfl⟩ := Prod.mk.inj (Except.ok.inj h)
          have hlength : (cs.take 4).length = 4 := by
            simpa using congrArg List.length (mapM_eq_some_iff.mp hdigits)
          have hle : 4 ≤ cs.length := by
            rw [List.length_take] at hlength
            omega
          refine ⟨List.drop_suffix 4 cs, fun tail _ => ?_⟩
          rw [readUnit, List.take_append_of_le_length hle, if_neg hsize, hdigits,
            List.drop_append_of_le_length hle]
      · cases h

/-- The reader of the second half of a pair is framed. -/
theorem framed_readTrailing : Framed readTrailing := by
  have hlow : ∀ low : Nat, Framed fun rest : List Char =>
      if 0xDC00 ≤ low && low ≤ 0xDFFF then (.ok (low, rest) : Except Fault (Nat × List Char))
      else .error .malformed := by
    intro low
    split
    · exact framed_pure low
    · exact fun _ _ _ h => nomatch h
  intro cs low rest h
  rw [readTrailing.eq_def] at h
  split at h
  · cases h
  · cases h
  · next cs =>
      obtain ⟨hsuffix, hstable⟩ := framed_readUnit.bind hlow h
      refine ⟨hsuffix.trans ⟨['\\', 'u'], rfl⟩, fun tail htail => ?_⟩
      exact hstable tail htail
  · cases h

/-- The reader of a character in four digits is framed, if it is strict. -/
theorem framed_readCodePoint : Framed (readCodePoint .strict) := by
  intro cs char rest h
  obtain ⟨⟨unit, middle⟩, hunit, h⟩ := exists_of_bind_eq_ok h
  obtain ⟨hmiddle, hstable⟩ := framed_readUnit hunit
  dsimp only at h
  split at h
  · next hplain =>
      cases h
      refine ⟨hmiddle, fun tail htail => ?_⟩
      rw [readCodePoint, hstable tail htail]
      exact if_pos hplain
  · next hsurrogate =>
      by_cases hlow : 0xDC00 ≤ unit
      · rw [if_pos hlow] at h
        cases h
      · rw [if_neg hlow] at h
        cases hpair : readTrailing middle with
        | error fault => rw [hpair] at h; cases h
        | ok result =>
            rw [hpair] at h
            cases h
            obtain ⟨hrest, hstable'⟩ := framed_readTrailing hpair
            refine ⟨hrest.trans hmiddle, fun tail htail => ?_⟩
            rw [readCodePoint, hstable tail htail]
            dsimp only [bind, Except.bind]
            rw [if_neg hsurrogate, if_neg hlow, hstable' tail htail]
            rfl

/-- The reader of an escape is framed, if it is strict. -/
theorem framed_readEscape : Framed (readEscape .strict) := by
  intro cs char rest h
  rw [readEscape.eq_def] at h
  split at h
  case h_10 =>
    obtain ⟨hsuffix, hstable⟩ := framed_readCodePoint h
    exact ⟨hsuffix.trans (List.suffix_cons _ _), hstable⟩
  all_goals cases h
  all_goals exact ⟨List.suffix_cons _ _, fun tail _ => rfl⟩

/-- **A string is read whatever follows it**, also with more fuel. -/
theorem readString_append {fuel fuel' : Nat} {acc cs rest : List Char} {intact : Bool}
    {text : Option String} (h : readString .strict fuel acc intact cs = .ok (text, rest))
    (hfuel : fuel ≤ fuel') {tail : List Char} (htail : Delimited tail) :
    readString .strict fuel' acc intact (cs ++ tail) = .ok (text, rest ++ tail) := by
  induction fuel generalizing fuel' acc cs intact with
  | zero => cases h
  | succ fuel ih =>
      obtain ⟨fuel', rfl⟩ : ∃ n, fuel' = n + 1 := Nat.exists_eq_succ_of_ne_zero (by omega)
      have hfuel := Nat.le_of_succ_le_succ hfuel
      cases cs with
      | nil => cases h
      | cons c cs =>
          rw [readString] at h
          rw [List.cons_append, readString]
          split at h
          · next hquote =>
              cases h
              rw [if_pos hquote]
          · next hquote =>
              rw [if_neg hquote]
              split at h
              · next hescape =>
                  obtain ⟨⟨char, middle⟩, hchar, h⟩ := exists_of_bind_eq_ok h
                  rw [if_pos hescape, (framed_readEscape hchar).2 tail htail]
                  cases char with
                  | none => exact ih h hfuel
                  | some char => exact ih h hfuel
              · next hescape =>
                  rw [if_neg hescape]
                  split at h
                  · cases h
                  · next hcontrol => rw [if_neg hcontrol, ih h hfuel]

/-! ### Steps through arrays and objects -/

section Steps

variable {fuel depth : Nat} {cs rest : List Char} {j : Json}

/-- **A step through an array** reads an item, and the bracket that closes the array or a comma with
the rest of the array behind it. -/
theorem readItems_eq_ok_iff {acc : List Json} :
    readItems .strict (fuel + 1) depth acc cs = .ok (j, rest) ↔
      ∃ item middle, readValue .strict fuel depth cs = .ok (item, middle) ∧
        (skipBlanks middle = ']' :: rest ∧ j = .array (item :: acc).reverse ∨
          ∃ more, skipBlanks middle = ',' :: more ∧ (∀ ds, skipBlanks more ≠ ']' :: ds) ∧
            readItems .strict fuel depth (item :: acc) (skipBlanks more) = .ok (j, rest)) := by
  rw [readItems]
  constructor
  · intro h
    obtain ⟨⟨item, middle⟩, hitem, h⟩ := exists_of_bind_eq_ok h
    refine ⟨item, middle, hitem, ?_⟩
    dsimp only at h
    split at h
    · cases h
    · next hclose =>
        cases h
        exact .inl ⟨hclose, rfl⟩
    · next more hcomma =>
        refine .inr ⟨more, hcomma, ?_⟩
        split at h
        · cases h
        · next hopen => exact ⟨hopen, h⟩
    · cases h
  · rintro ⟨item, middle, hitem, ⟨hclose, rfl⟩ | ⟨more, hcomma, hopen, h⟩⟩
    · rw [hitem]
      dsimp only [bind, Except.bind]
      rw [hclose]
      rfl
    · rw [hitem]
      dsimp only [bind, Except.bind]
      rw [hcomma]
      -- The comma decides which way the reader goes; what is left is the character after it.
      conv_lhs => whnf
      split
      · next hclose => exact absurd hclose (hopen _)
      · exact h

/-- **A step through an object** reads a key, a value, and the brace that closes the object or a
comma with the rest of the object behind it. -/
theorem readMembers_eq_ok_iff {acc : List (String × Json)} :
    readMembers .strict (fuel + 1) depth acc true cs = .ok (j, rest) ↔
      ∃ keyed key middle valued value middle', cs = '"' :: keyed ∧
        readString .strict (keyed.length + 1) [] true keyed = .ok (some key, middle) ∧
        skipBlanks middle = ':' :: valued ∧
        readValue .strict fuel depth valued = .ok (value, middle') ∧
        (skipBlanks middle' = '\x7d' :: rest ∧ j = .object ((key, value) :: acc).reverse ∨
          ∃ more, skipBlanks middle' = ',' :: more ∧
            readMembers .strict fuel depth ((key, value) :: acc) true (skipBlanks more) =
              .ok (j, rest)) := by
  constructor
  · intro h
    cases cs with
    | nil => cases h
    | cons c keyed =>
        rw [readMembers] at h
        split at h
        · cases h
        · next hquote =>
            obtain rfl := not_not.mp hquote
            obtain ⟨⟨text, middle⟩, hkey, h⟩ := exists_of_bind_eq_ok h
            obtain ⟨key, rfl⟩ := Option.isSome_iff_exists.mp (isSome_readString hkey)
            dsimp only at h
            split at h
            · cases h
            · next valued hcolon =>
                obtain ⟨⟨value, middle'⟩, hvalue, h⟩ := exists_of_bind_eq_ok h
                refine ⟨keyed, key, middle, valued, value, middle', rfl, hkey, hcolon, hvalue, ?_⟩
                dsimp only [Option.getD_some] at h
                split at h
                · cases h
                · next hclose =>
                    cases h
                    exact .inl ⟨hclose, rfl⟩
                · next more hcomma => exact .inr ⟨more, hcomma, h⟩
                · cases h
            · cases h
  · rintro ⟨keyed, key, middle, valued, value, middle', rfl, hkey, hcolon, hvalue, h⟩
    rw [readMembers, if_neg (not_not.mpr rfl), hkey]
    dsimp only [bind, Except.bind]
    rw [hcolon]
    conv_lhs => whnf
    rw [hvalue]
    dsimp only
    obtain ⟨hclose, rfl⟩ | ⟨more, hcomma, h⟩ := h
    · rw [hclose]
      rfl
    · rw [hcomma]
      exact h

/-- The items that are read go behind those in front of them. -/
theorem exists_of_readItems {acc : List Json}
    (h : readItems .strict fuel depth acc cs = .ok (j, rest)) :
    ∃ items, j = .array (acc.reverse ++ items) := by
  induction fuel generalizing acc cs with
  | zero => cases h
  | succ fuel ih =>
      obtain ⟨item, middle, -, ⟨-, rfl⟩ | ⟨more, -, -, h⟩⟩ := readItems_eq_ok_iff.mp h
      · exact ⟨[item], by rw [List.reverse_cons]⟩
      · obtain ⟨items, rfl⟩ := ih h
        exact ⟨item :: items, by simp⟩

/-- The members that are read go behind those in front of them. -/
theorem exists_of_readMembers {acc : List (String × Json)}
    (h : readMembers .strict fuel depth acc true cs = .ok (j, rest)) :
    ∃ members, j = .object (acc.reverse ++ members) := by
  induction fuel generalizing acc cs with
  | zero => cases h
  | succ fuel ih =>
      obtain ⟨_, key, _, _, value, _, -, -, -, -, ⟨-, rfl⟩ | ⟨more, -, h⟩⟩ :=
        readMembers_eq_ok_iff.mp h
      · exact ⟨[(key, value)], by rw [List.reverse_cons]⟩
      · obtain ⟨members, rfl⟩ := ih h
        exact ⟨(key, value) :: members, by simp⟩

end Steps

/-! ### What is read is kept -/

section Opening

variable (care : Care) (fuel depth : Nat)

/-- Nothing is read where nothing is left. -/
theorem readValue_nil : readValue care fuel depth [] = .error .truncated := by
  cases fuel <;> rfl

/-- Blanks in front of a value do not matter. -/
theorem readValue_skipBlanks (cs : List Char) :
    readValue care fuel depth (skipBlanks cs) = readValue care fuel depth cs := by
  cases fuel with
  | zero => rfl
  | succ fuel => rw [readValue, readValue, skipBlanks_skipBlanks]

/-- A string is read up to its quote. -/
theorem readValue_quote (cs : List Char) :
    readValue care (fuel + 1) depth ('"' :: cs) =
      (readString care (cs.length + 1) [] true cs).map fun r =>
        (r.1.elim .unreadable .string, r.2) := by
  rw [readValue, skipBlanks_cons rfl]
  conv_lhs => whnf
  cases readString care (cs.length + 1) [] true cs <;> rfl

/-- An array that is closed at once has no items. -/
theorem readValue_bracket_close {cs rest : List Char} (h : skipBlanks cs = ']' :: rest) :
    readValue care (fuel + 1) (depth + 1) ('[' :: cs) = .ok (.array [], rest) := by
  rw [readValue, skipBlanks_cons rfl]
  conv_lhs => whnf
  rw [h]
  rfl

/-- An object that is closed at once has no members. -/
theorem readValue_brace_close {cs rest : List Char} (h : skipBlanks cs = '\x7d' :: rest) :
    readValue care (fuel + 1) (depth + 1) ('\x7b' :: cs) = .ok (.object [], rest) := by
  rw [readValue, skipBlanks_cons rfl]
  conv_lhs => whnf
  rw [h]
  rfl

/-- An array that is not closed at once has items. -/
theorem readValue_bracket {cs : List Char} (h : ∀ ds, skipBlanks cs ≠ ']' :: ds) :
    readValue care (fuel + 1) (depth + 1) ('[' :: cs) =
      readItems care fuel depth [] (skipBlanks cs) := by
  rw [readValue, skipBlanks_cons rfl]
  conv_lhs => whnf
  split
  · exact absurd ‹depth + 1 = 0› (Nat.succ_ne_zero depth)
  · next hclose => exact absurd hclose (h _)
  · next hdepth _ => rw [Nat.succ.inj hdepth]

/-- An object that is not closed at once has members. -/
theorem readValue_brace {cs : List Char} (h : ∀ ds, skipBlanks cs ≠ '\x7d' :: ds) :
    readValue care (fuel + 1) (depth + 1) ('\x7b' :: cs) =
      readMembers care fuel depth [] true (skipBlanks cs) := by
  rw [readValue, skipBlanks_cons rfl]
  conv_lhs => whnf
  split
  · exact absurd ‹depth + 1 = 0› (Nat.succ_ne_zero depth)
  · next hclose => exact absurd hclose (h _)
  · next hdepth _ => rw [Nat.succ.inj hdepth]

end Opening

/-- There is no array without items in nothing. -/
theorem ne_nil_of_readItems {fuel depth : Nat} {acc : List Json} {cs rest : List Char} {j : Json}
    (h : readItems .strict fuel depth acc cs = .ok (j, rest)) : cs ≠ [] := by
  rintro rfl
  cases fuel with
  | zero => cases h
  | succ fuel =>
      obtain ⟨item, middle, hitem, -⟩ := readItems_eq_ok_iff.mp h
      rw [readValue_nil] at hitem
      cases hitem

/-- There is no object without members in nothing. -/
theorem ne_nil_of_readMembers {fuel depth : Nat} {acc : List (String × Json)}
    {cs rest : List Char} {j : Json}
    (h : readMembers .strict fuel depth acc true cs = .ok (j, rest)) : cs ≠ [] := by
  rintro rfl
  cases fuel <;> cases h

/-- A text starts in the same way when something follows it. -/
theorem append_ne_cons {cs : List Char} (hcs : cs ≠ []) {c : Char} (h : ∀ ds, cs ≠ c :: ds)
    (tail : List Char) : ∀ ds, cs ++ tail ≠ c :: ds := by
  obtain ⟨d, cs, rfl⟩ := List.exists_cons_of_ne_nil hcs
  intro ds hds
  exact h cs (by rw [(List.cons.inj hds).1])

/-- A reader of values, with this amount of fuel, **keeps** what it reads. The same is read with at
least as much fuel, with a delimiter behind the text, and with any bound on the nesting that the
value is within. -/
structure Keeps (P : Float → Prop) (fuel : Nat) : Prop where
  /-- A value is kept. -/
  value {depth limit fuel' : Nat} {cs rest tail : List Char} {j : Json} :
    readValue .strict fuel depth cs = .ok (j, rest) → Regular P limit j → fuel ≤ fuel' →
      Delimited tail → readValue .strict fuel' limit (cs ++ tail) = .ok (j, rest ++ tail)
  /-- An array is kept from any of its items on. -/
  items {depth limit fuel' : Nat} {acc : List Json} {cs rest tail : List Char} {j : Json} :
    readItems .strict fuel depth acc cs = .ok (j, rest) → Regular P (limit + 1) j → fuel ≤ fuel' →
      Delimited tail → readItems .strict fuel' limit acc (cs ++ tail) = .ok (j, rest ++ tail)
  /-- An object is kept from any of its members on. -/
  members {depth limit fuel' : Nat} {acc : List (String × Json)} {cs rest tail : List Char}
    {j : Json} :
    readMembers .strict fuel depth acc true cs = .ok (j, rest) → Regular P (limit + 1) j →
      fuel ≤ fuel' → Delimited tail →
        readMembers .strict fuel' limit acc true (cs ++ tail) = .ok (j, rest ++ tail)

namespace Keeps

variable {P : Float → Prop} {fuel depth limit fuel' : Nat} {cs rest tail : List Char} {j : Json}

/-- A step through the items of an array. -/
theorem items_succ (ih : Keeps P fuel) {acc : List Json}
    (h : readItems .strict (fuel + 1) depth acc cs = .ok (j, rest))
    (hj : Regular P (limit + 1) j) (hfuel : fuel + 1 ≤ fuel') (htail : Delimited tail) :
    readItems .strict fuel' limit acc (cs ++ tail) = .ok (j, rest ++ tail) := by
  obtain ⟨fuel', rfl⟩ : ∃ n, fuel' = n + 1 := Nat.exists_eq_succ_of_ne_zero (by omega)
  have hfuel := Nat.le_of_succ_le_succ hfuel
  obtain ⟨item, middle, hitem, hstep⟩ := readItems_eq_ok_iff.mp h
  have hregular : Regular P limit item := by
    obtain ⟨-, rfl⟩ | ⟨more, -, -, hmore⟩ := hstep
    · cases hj with
      | array hitems => exact hitems item (by simp)
    · obtain ⟨items, rfl⟩ := exists_of_readItems hmore
      cases hj with
      | array hitems => exact hitems item (by simp)
  refine readItems_eq_ok_iff.mpr ⟨item, middle ++ tail, ih.value hitem hregular hfuel htail, ?_⟩
  obtain ⟨hclose, rfl⟩ | ⟨more, hcomma, hopen, hmore⟩ := hstep
  · exact .inl ⟨skipBlanks_append_of_eq_cons hclose tail, rfl⟩
  · have hnil := ne_nil_of_readItems hmore
    refine .inr ⟨more ++ tail, skipBlanks_append_of_eq_cons hcomma tail, ?_⟩
    rw [skipBlanks_append hnil]
    exact ⟨append_ne_cons hnil hopen tail, ih.items hmore hj hfuel htail⟩

/-- A step through the members of an object. -/
theorem members_succ (ih : Keeps P fuel) {acc : List (String × Json)}
    (h : readMembers .strict (fuel + 1) depth acc true cs = .ok (j, rest))
    (hj : Regular P (limit + 1) j) (hfuel : fuel + 1 ≤ fuel') (htail : Delimited tail) :
    readMembers .strict fuel' limit acc true (cs ++ tail) = .ok (j, rest ++ tail) := by
  obtain ⟨fuel', rfl⟩ : ∃ n, fuel' = n + 1 := Nat.exists_eq_succ_of_ne_zero (by omega)
  have hfuel := Nat.le_of_succ_le_succ hfuel
  obtain ⟨keyed, key, middle, valued, value, middle', rfl, hkey, hcolon, hvalue, hstep⟩ :=
    readMembers_eq_ok_iff.mp h
  have hregular : Regular P limit value := by
    obtain ⟨-, rfl⟩ | ⟨more, -, hmore⟩ := hstep
    · cases hj with
      | object hmembers => exact hmembers (key, value) (by simp)
    · obtain ⟨members, rfl⟩ := exists_of_readMembers hmore
      cases hj with
      | object hmembers => exact hmembers (key, value) (by simp)
  refine readMembers_eq_ok_iff.mpr ⟨keyed ++ tail, key, middle ++ tail, valued ++ tail, value,
    middle' ++ tail, rfl, ?_, ?_, ih.value hvalue hregular hfuel htail, ?_⟩
  · exact readString_append hkey (by rw [List.length_append]; omega) htail
  · exact skipBlanks_append_of_eq_cons hcolon tail
  · obtain ⟨hclose, rfl⟩ | ⟨more, hcomma, hmore⟩ := hstep
    · exact .inl ⟨skipBlanks_append_of_eq_cons hclose tail, rfl⟩
    · refine .inr ⟨more ++ tail, skipBlanks_append_of_eq_cons hcomma tail, ?_⟩
      rw [skipBlanks_append (ne_nil_of_readMembers hmore)]
      exact ih.members hmore hj hfuel htail

/-- A step into a value. -/
theorem value_succ (ih : Keeps P fuel)
    (h : readValue .strict (fuel + 1) depth cs = .ok (j, rest)) (hj : Regular P limit j)
    (hfuel : fuel + 1 ≤ fuel') (htail : Delimited tail) :
    readValue .strict fuel' limit (cs ++ tail) = .ok (j, rest ++ tail) := by
  obtain ⟨fuel', rfl⟩ : ∃ n, fuel' = n + 1 := Nat.exists_eq_succ_of_ne_zero (by omega)
  have hfuel := Nat.le_of_succ_le_succ hfuel
  rw [readValue] at h
  rw [← readValue_skipBlanks]
  split at h
  case h_1 => cases h
  case h_2 hcs | h_3 hcs | h_4 hcs =>
    rw [skipBlanks_append_of_eq_cons hcs, readValue, skipBlanks_cons rfl]
    exact (framed_readWord _ _ h).2 tail htail
  case h_5 quoted hcs =>
    obtain ⟨⟨text, middle⟩, htext, h⟩ := exists_of_bind_eq_ok h
    cases h
    have hfull : readString .strict ((quoted ++ tail).length + 1) [] true (quoted ++ tail) =
        .ok (text, rest ++ tail) :=
      readString_append htext (by rw [List.length_append]; omega) htail
    rw [skipBlanks_append_of_eq_cons hcs, readValue_quote, hfull]
    rfl
  case h_6 cs hcs =>
    rw [skipBlanks_append_of_eq_cons hcs]
    split at h
    · cases h
    · next hclose =>
        cases h
        cases hj with
        | array _ =>
            exact readValue_bracket_close _ _ _ (skipBlanks_append_of_eq_cons hclose tail)
    · next hopen =>
        have hnil := ne_nil_of_readItems h
        have hhead := append_ne_cons hnil hopen tail
        rw [← skipBlanks_append hnil] at hhead
        obtain ⟨items, rfl⟩ := exists_of_readItems h
        cases hj with
        | array hitems =>
            rw [readValue_bracket _ _ _ hhead, skipBlanks_append hnil]
            exact ih.items h (.array hitems) hfuel htail
  case h_7 cs hcs =>
    rw [skipBlanks_append_of_eq_cons hcs]
    split at h
    · cases h
    · next hclose =>
        cases h
        cases hj with
        | object _ =>
            exact readValue_brace_close _ _ _ (skipBlanks_append_of_eq_cons hclose tail)
    · next hopen =>
        have hnil := ne_nil_of_readMembers h
        have hhead := append_ne_cons hnil hopen tail
        rw [← skipBlanks_append hnil] at hhead
        obtain ⟨members, rfl⟩ := exists_of_readMembers h
        cases hj with
        | object hmembers =>
            rw [readValue_brace _ _ _ hhead, skipBlanks_append hnil]
            exact ih.members h (.object hmembers) hfuel htail
  case h_8 c cs _ _ _ _ _ _ hcs =>
    rw [skipBlanks_append_of_eq_cons hcs]
    split at h
    · next hnumber =>
        rw [readValue_number _ _ _ hnumber]
        exact (framed_readNumber .strict h).2 tail htail
    · cases h

end Keeps

/-- **What a strict reader reads is kept.** The induction is on the fuel, for values, items and
members at once. -/
theorem keeps (P : Float → Prop) (fuel : Nat) : Keeps P fuel := by
  induction fuel with
  | zero => exact ⟨nofun, nofun, nofun⟩
  | succ fuel ih => exact ⟨ih.value_succ, ih.items_succ, ih.members_succ⟩

/-! ### Other bounds on the nesting -/

/-- **Strict readers agree** on a text that they read, with whatever fuel and bound. -/
theorem readValue_unique {fuel fuel' depth depth' : Nat} {cs rest rest' : List Char} {j k : Json}
    (h : readValue .strict fuel depth cs = .ok (j, rest))
    (h' : readValue .strict fuel' depth' cs = .ok (k, rest')) : j = k ∧ rest = rest' := by
  have hj := (keeps (·.isFinite) fuel).value h
    (((readsRegular fuel).value h).mono (Nat.le_max_left depth depth'))
    (Nat.le_max_left fuel fuel') delimited_nil
  have hk := (keeps (·.isFinite) fuel').value h'
    (((readsRegular fuel').value h').mono (Nat.le_max_right depth depth'))
    (Nat.le_max_right fuel fuel') delimited_nil
  rw [List.append_nil, List.append_nil] at hj hk
  exact Prod.mk.inj (Except.ok.inj (hj.symm.trans hk))

/-- A text is **read within** a bound if a strict reader that allows so many arrays and objects
inside one another reads it as one value. -/
def ReadsWithin (depth : Nat) (text : String) (j : Json) : Prop :=
  ∃ rest, readValue .strict (2 * text.toList.length + 2) depth text.toList = .ok (j, rest) ∧
    rest.all isBlank = true

/-- The reader of whole texts has a bound of its own. -/
theorem readsWithin_maxDepth {text : String} {j : Json} :
    ReadsWithin maxDepth text j ↔ read text = .ok j :=
  read_eq_ok_iff.symm

/-- **The bound decides alone**: a text that is read within some bound is read within another one
exactly if its value is not nested deeper, and then as the same value. -/
theorem ReadsWithin.iff {depth limit : Nat} {text : String} {j k : Json}
    (h : ReadsWithin depth text j) :
    ReadsWithin limit text k ↔ k = j ∧ Regular (fun _ => True) limit j := by
  obtain ⟨rest, hj, hblank⟩ := h
  constructor
  · rintro ⟨rest', hk, -⟩
    obtain ⟨rfl, rfl⟩ := readValue_unique hj hk
    exact ⟨rfl, ((readsRegular _).value hk).imp fun _ _ => trivial⟩
  · rintro ⟨rfl, hregular⟩
    have hlimit := (keeps _ _).value hj hregular (Nat.le_refl _) delimited_nil
    rw [List.append_nil, List.append_nil] at hlimit
    exact ⟨rest, hlimit, hblank⟩

end SchemaDdl.Json
