import SchemaDdl.Cli.Report
import SchemaDdl.Proofs.PlainText
import SchemaDdl.Proofs.Quoting

/-!
# Comment Lines of a Script

In a script a statement is followed by a trailer, which holds its values and the error that it
suppresses in comment lines. The values are written there as they would be in SQL: the quotes of a
text are doubled, and its line breaks are kept. What a text has after a line break is therefore a
line of its own in the trailer, and it is a comment only if the text happens to go on with the mark
of one.

## Convention

A line ends with a line feed. A comment line starts with two minus signs and a blank
(`commentMark`).

* `Statement.trailerLines` — the lines below a statement.
* `Value.furtherLines` — the lines of a text after its first one; other values have none.

## Main results

* `breaksMarked_iff` — a text with a mark after each line break, line by line.
* `breaksMarked_inline_append`, `count_break_inline` — line breaks in the text of a value.
* `Statement.script_lines` — how many lines a trailer has, and when all of them are comments.
-/

namespace SchemaDdl

/-! ### Lines -/

/-- The **mark** that a comment line starts with. -/
def commentMark : List Char := ['-', '-', ' ']

/-- The lines of a value after the first one. Only texts have any. -/
def Value.furtherLines : Value → List (List Char)
  | .text s => (s.toList.splitOn '\n').tail
  | _ => []

/-- The number of annotations that a statement has in a script: one for its values, if it has any,
and one for the error that it suppresses. -/
def Statement.annotations (s : Statement) : Nat :=
  (if s.bindings.isEmpty then 0 else 1) + (if s.suppress.isSome then 1 else 0)

/-- The **lines of the trailer** of a statement: what stands below the statement in a script, up to
each line break. -/
def Statement.trailerLines (s : Statement) : List (List Char) :=
  ((bindingsComment s.bindings ++ suppressComment s.suppress).toList.splitOn '\n').dropLast

/-- A text whose last line has ended is made up of its lines. -/
theorem flatMap_dropLast_splitOn (cs : List Char) :
    ((cs ++ ['\n']).splitOn '\n').dropLast.flatMap (· ++ ['\n']) = cs ++ ['\n'] := by
  have hbreak : (cs ++ ['\n']).splitOn '\n' = cs.splitOn '\n' ++ [[]] := by
    rw [List.splitOn_append_cons_self, List.splitOn_nil]
  have hlines : ∀ ls : List (List Char), ls ≠ [] →
      ls.flatMap (· ++ ['\n']) = ['\n'].intercalate ls ++ ['\n'] := by
    intro ls hls
    induction ls with
    | nil => exact absurd rfl hls
    | cons l ls ih =>
        cases ls with
        | nil => simp
        | cons m ms =>
            rw [List.flatMap_cons, ih (List.cons_ne_nil m ms), List.intercalate_cons_cons]
            simp
  rw [hbreak, List.dropLast_concat, hlines _ (List.splitOn_ne_nil '\n' cs),
    List.intercalate_splitOn]

/-- No line has a line break in it. -/
theorem break_notMem_of_mem_splitOn {cs l : List Char} (h : l ∈ cs.splitOn '\n') : '\n' ∉ l := by
  induction cs generalizing l with
  | nil =>
      obtain rfl := List.mem_singleton.mp h
      exact List.not_mem_nil
  | cons c cs ih =>
      rw [List.splitOn_cons_eq_if_modifyHead] at h
      split at h
      · rcases List.mem_cons.mp h with rfl | h
        · exact List.not_mem_nil
        · exact ih h
      · next hc =>
        obtain ⟨m, ms, hms⟩ := List.exists_cons_of_ne_nil (List.splitOn_ne_nil '\n' cs)
        rw [hms, List.modifyHead_cons] at h
        rw [hms] at ih
        rcases List.mem_cons.mp h with rfl | h
        · rw [List.mem_cons, not_or]
          exact ⟨fun heq => hc (beq_iff_eq.mpr heq.symm), ih List.mem_cons_self⟩
        · exact ih (List.mem_cons_of_mem m h)

/-! ### Marks after line breaks -/

/-- Each line break of a text is followed by the mark of a comment. -/
def BreaksMarked : List Char → Prop
  | [] => True
  | c :: cs => (c = '\n' → commentMark <+: cs) ∧ BreaksMarked cs

/-- A text starts with the mark of a comment exactly if its first line does. -/
theorem mark_prefix_iff (cs : List Char) :
    commentMark <+: cs ↔ ∀ l ∈ (cs.splitOn '\n').head?, commentMark <+: l := by
  have hhead : ∀ p : List Char, '\n' ∉ p → ∀ cs : List Char,
      p <+: cs ↔ ∀ l ∈ (cs.splitOn '\n').head?, p <+: l := by
    intro p
    induction p with
    | nil => exact fun _ cs => iff_of_true List.nil_prefix fun _ _ => List.nil_prefix
    | cons d p ih =>
        intro hp cs
        rw [List.mem_cons, not_or] at hp
        cases cs with
        | nil => simp
        | cons c cs =>
            obtain ⟨m, ms, hms⟩ := List.exists_cons_of_ne_nil (List.splitOn_ne_nil '\n' cs)
            have hih := ih hp.2 cs
            rw [List.splitOn_cons_eq_if_modifyHead]
            rw [hms] at hih ⊢
            split
            · next hc =>
              rw [beq_iff_eq] at hc
              subst hc
              simp [List.cons_prefix_cons, Ne.symm hp.1]
            · simpa [List.cons_prefix_cons] using fun _ => hih
  exact hhead commentMark (by decide) cs

/-- **Marks after line breaks, line by line**: all lines of a text after its first one start with
the mark of a comment. -/
theorem breaksMarked_iff (cs : List Char) :
    BreaksMarked cs ↔ ∀ l ∈ (cs.splitOn '\n').tail, commentMark <+: l := by
  induction cs with
  | nil => exact iff_of_true trivial (List.forall_mem_nil _)
  | cons c cs ih =>
      obtain ⟨m, ms, hms⟩ := List.exists_cons_of_ne_nil (List.splitOn_ne_nil '\n' cs)
      have hfirst := mark_prefix_iff cs
      rw [BreaksMarked, ih, hfirst, List.splitOn_cons_eq_if_modifyHead]
      rw [hms]
      split
      · next hc =>
        rw [beq_iff_eq] at hc
        simp [hc]
      · next hc =>
        rw [beq_iff_eq] at hc
        simp [hc]

/-- All lines of a text start with the mark of a comment exactly if the text does and its line
breaks are marked. -/
theorem forall_mem_splitOn_iff (cs : List Char) :
    (∀ l ∈ cs.splitOn '\n', commentMark <+: l) ↔ commentMark <+: cs ∧ BreaksMarked cs := by
  obtain ⟨m, ms, hms⟩ := List.exists_cons_of_ne_nil (List.splitOn_ne_nil '\n' cs)
  rw [mark_prefix_iff, breaksMarked_iff, hms]
  simp

/-- A text without line breaks changes nothing in front of others. -/
theorem breaksMarked_append {cs : List Char} (h : '\n' ∉ cs) (ds : List Char) :
    BreaksMarked (cs ++ ds) ↔ BreaksMarked ds := by
  induction cs with
  | nil => rfl
  | cons c cs ih =>
      rw [List.mem_cons, not_or] at h
      rw [List.cons_append, BreaksMarked, ih h.2]
      exact and_iff_right fun hc => absurd hc.symm h.1

/-- Neither the doubling of quotes nor what follows the quote at the end of a literal matters for
the mark at its start, since there is no quote in the mark. -/
theorem mark_prefix_doubled_iff (cs ds : List Char) :
    commentMark <+: doubled literalQuote cs ++ literalQuote :: ds ↔ commentMark <+: cs := by
  have hprefix : ∀ p : List Char, literalQuote ∉ p → ∀ cs : List Char,
      p <+: doubled literalQuote cs ++ literalQuote :: ds ↔ p <+: cs := by
    intro p
    induction p with
    | nil => exact fun _ cs => iff_of_true List.nil_prefix List.nil_prefix
    | cons d p ih =>
        intro hp cs
        rw [List.mem_cons, not_or] at hp
        have hne : d ≠ literalQuote := Ne.symm hp.1
        cases cs with
        | nil => simp [hne]
        | cons c cs =>
            rw [doubled_cons]
            by_cases hc : c = literalQuote
            · simp [hc, hne]
            · simpa [hc] using fun _ => ih hp.2 cs
  exact hprefix commentMark (by decide) cs

/-- The line breaks of a literal are those of its text. -/
theorem breaksMarked_doubled_append (cs ds : List Char) :
    BreaksMarked (doubled literalQuote cs ++ literalQuote :: ds) ↔
      BreaksMarked cs ∧ BreaksMarked ds := by
  have hquote : ∀ es : List Char, BreaksMarked (literalQuote :: es) ↔ BreaksMarked es :=
    fun es => @breaksMarked_append [literalQuote] (by decide) es
  induction cs with
  | nil => simp [hquote, BreaksMarked]
  | cons c cs ih =>
      rw [doubled_cons, BreaksMarked, and_assoc]
      refine Iff.trans ?_ (and_congr_right fun _ => ih)
      by_cases hc : c = literalQuote
      · have hbreak : literalQuote ≠ '\n' := by decide
        simp [hc, hquote, hbreak]
      · rw [if_neg hc, List.singleton_append, List.cons_append, BreaksMarked,
          mark_prefix_doubled_iff]

/-! ### Values -/

/-- Only texts have line breaks, and only they have further lines. -/
theorem exists_text_or_break_notMem (v : Value) :
    (∃ s, v = .text s) ∨ v.furtherLines = [] ∧ '\n' ∉ v.inline.toList := by
  cases v with
  | null => exact .inr ⟨rfl, by decide⟩
  | bool b => exact .inr ⟨rfl, by cases b <;> decide⟩
  | int n =>
      refine .inr ⟨rfl, fun hbreak => ?_⟩
      rcases mem_toString_int hbreak with hdigit | hminus
      · cases hdigit
      · cases hminus
  | float x =>
      refine .inr ⟨rfl, fun hbreak => ?_⟩
      rcases sqlNumberLayout.render_cases x with hword | hdigits
      · have hwords : ∀ w ∈ ["NaN", "inf", "-inf"], '\n' ∉ w.toList := by decide
        exact hwords _ hword hbreak
      · rcases hdigits _ hbreak with hdigit | hmark
        · cases hdigit
        · exact absurd hmark (by decide)
  | text s => exact .inl ⟨s, rfl⟩
  | blob bytes =>
      have hdigit : ∀ n < 16, (Nat.digitChar n).toUpper ≠ '\n' := by decide
      have hbytes : '\n' ∉ bytes.flatMap hexByte := by
        intro hbreak
        obtain ⟨b, -, hb⟩ := List.mem_flatMap.mp hbreak
        have hlt := b.toNat_lt
        rw [hexByte, List.mem_cons, List.mem_singleton] at hb
        rcases hb with hb | hb
        · exact hdigit _ (by omega) hb.symm
        · exact hdigit _ (by omega) hb.symm
      refine .inr ⟨rfl, ?_⟩
      rw [Value.inline, String.toList_ofList]
      simp [hbytes, literalQuote]

/-- **The line breaks of a value are marked** exactly if its further lines start with the mark. What
follows the value does not matter for that. -/
theorem breaksMarked_inline_append (v : Value) (ds : List Char) :
    BreaksMarked (v.inline.toList ++ ds) ↔
      (∀ l ∈ v.furtherLines, commentMark <+: l) ∧ BreaksMarked ds := by
  rcases exists_text_or_break_notMem v with ⟨s, rfl⟩ | ⟨hnone, hbreak⟩
  · have hopen : literalQuote ≠ '\n' := by decide
    rw [Value.inline, toList_quoteLiteral, List.append_assoc, List.singleton_append,
      List.cons_append, BreaksMarked, breaksMarked_doubled_append, Value.furtherLines,
      ← breaksMarked_iff]
    exact and_iff_right fun h => absurd h hopen
  · rw [breaksMarked_append hbreak, hnone]
    exact (and_iff_right (List.forall_mem_nil _)).symm

/-- Doubling a quote does not change how often another character occurs. -/
theorem count_doubled {q c : Char} (h : c ≠ q) (cs : List Char) :
    (doubled q cs).count c = cs.count c := by
  induction cs with
  | nil => rfl
  | cons d cs ih =>
      rw [doubled_cons, List.count_append, ih, List.count_cons]
      by_cases hd : d = q
      · simp [hd, Ne.symm h]
      · simp [hd, List.count_cons, Nat.add_comm]

/-- There is a line break in front of each of the further lines of a value, and no other one. -/
theorem count_break_inline (v : Value) : v.inline.toList.count '\n' = v.furtherLines.length := by
  rcases exists_text_or_break_notMem v with ⟨s, rfl⟩ | ⟨hnone, hbreak⟩
  · have hquote : literalQuote ≠ '\n' := by decide
    rw [Value.inline, toList_quoteLiteral, Value.furtherLines, List.length_tail, length_splitOn,
      Nat.add_sub_cancel]
    simp [count_doubled hquote.symm, hquote]
  · rw [hnone]
    exact List.count_eq_zero.mpr hbreak

/-- Values with commas between them have marked line breaks exactly if all of their further lines
start with the mark. -/
theorem breaksMarked_values (vs : List Value) :
    BreaksMarked (", ".intercalate (vs.map Value.inline)).toList ↔
      ∀ l ∈ vs.flatMap Value.furtherLines, commentMark <+: l := by
  induction vs with
  | nil => exact iff_of_true trivial (List.forall_mem_nil _)
  | cons v vs ih =>
      rw [List.flatMap_cons, List.forall_mem_append]
      cases vs with
      | nil =>
          have hv := breaksMarked_inline_append v []
          rw [List.append_nil] at hv
          simpa [BreaksMarked] using hv
      | cons w ws =>
          rw [List.map_cons, List.map_cons, String.intercalate_cons_cons, String.toList_append,
            String.toList_append, List.append_assoc, breaksMarked_inline_append,
            breaksMarked_append (by decide), ← List.map_cons, ih]

/-- Values with commas between them have as many line breaks as further lines. -/
theorem count_break_values (vs : List Value) :
    (", ".intercalate (vs.map Value.inline)).toList.count '\n' =
      (vs.flatMap Value.furtherLines).length := by
  induction vs with
  | nil => rfl
  | cons v vs ih =>
      rw [List.flatMap_cons, List.length_append, ← count_break_inline]
      cases vs with
      | nil => simp
      | cons w ws =>
          have hcomma : ", ".toList.count '\n' = 0 := by decide
          rw [List.map_cons, List.map_cons, String.intercalate_cons_cons, String.toList_append,
            String.toList_append, List.count_append, List.count_append, hcomma, ← List.map_cons, ih,
            Nat.add_zero]

/-! ### The trailer -/

/-- The comment for values, without the line break at its end. -/
def bindingsNote (vs : List Value) : List Char :=
  "-- bindings: ".toList ++ (", ".intercalate (vs.map Value.inline)).toList

/-- The comment for a suppressed error, without the line break at its end. -/
def suppressNote (code : Int32) : List Char :=
  "-- suppress error ".toList ++ (toString code.toInt).toList

/-- The comment for values is their note, if there are any. -/
theorem toList_bindingsComment (vs : List Value) :
    (bindingsComment vs).toList = if vs.isEmpty then [] else bindingsNote vs ++ ['\n'] := by
  unfold bindingsComment
  split
  · rfl
  · rw [String.toList_append, String.toList_append]
    rfl

/-- The comment for a suppressed error is its note. -/
theorem toList_suppressComment (code : Int32) :
    (suppressComment (some code)).toList = suppressNote code ++ ['\n'] := by
  have htext : suppressComment (some code) =
      "-- suppress error " ++ toString code.toInt ++ "\n" := rfl
  rw [htext, String.toList_append, String.toList_append]
  rfl

/-- The note for a suppressed error is a single line. -/
theorem break_notMem_suppressNote (code : Int32) : '\n' ∉ suppressNote code := by
  intro h
  rcases List.mem_append.mp h with h | h
  · exact absurd h (by simp)
  · rcases mem_toString_int h with hdigit | hminus
    · cases hdigit
    · cases hminus

namespace Statement

/-- **The trailer, line by line**: the note for the values, at its line breaks, and that for the
suppressed error as one line. -/
theorem trailerLines_eq (s : Statement) :
    s.trailerLines =
      (if s.bindings.isEmpty then [] else (bindingsNote s.bindings).splitOn '\n') ++
        s.suppress.toList.map suppressNote := by
  have hsuppress : ((suppressComment s.suppress).toList.splitOn '\n').dropLast =
      s.suppress.toList.map suppressNote := by
    cases s.suppress with
    | none => rfl
    | some code =>
        rw [toList_suppressComment, List.splitOn_append_cons_self,
          List.splitOn_eq_singleton (break_notMem_suppressNote code), List.splitOn_nil]
        rfl
  rw [trailerLines, String.toList_append, toList_bindingsComment, ← hsuppress]
  split
  · rfl
  · rw [List.append_assoc, List.singleton_append, List.splitOn_append_cons_self,
      List.dropLast_append_of_ne_nil (List.splitOn_ne_nil _ _)]

/-- A script is the text of the statement with a semicolon, and below it the lines of the trailer,
each with its line break. -/
theorem toList_script (s : Statement) :
    s.script.toList = s.sql.toList ++ [';', '\n'] ++ s.trailerLines.flatMap (· ++ ['\n']) := by
  have htrailer : ∀ cs : List Char, cs = [] ∨ (∃ ds, cs = ds ++ ['\n']) →
      (cs.splitOn '\n').dropLast.flatMap (· ++ ['\n']) = cs := by
    rintro cs (rfl | ⟨ds, rfl⟩)
    · rfl
    · exact flatMap_dropLast_splitOn ds
  have hends : let trailer := (bindingsComment s.bindings ++ suppressComment s.suppress).toList
      trailer = [] ∨ ∃ ds, trailer = ds ++ ['\n'] := by
    intro trailer
    have hnotes : trailer = _ := String.toList_append
    cases hcode : s.suppress with
    | some code =>
        rw [hcode, toList_suppressComment, ← List.append_assoc] at hnotes
        exact .inr ⟨_, hnotes⟩
    | none =>
        have hnone : (suppressComment none).toList = [] := rfl
        rw [hcode, hnone, List.append_nil, toList_bindingsComment] at hnotes
        split at hnotes
        · exact .inl hnotes
        · exact .inr ⟨_, hnotes⟩
  rw [script, trailerLines, htrailer _ hends, String.append_assoc, String.toList_append,
    String.toList_append]
  rfl

/-- **The lines of a script.** Below the text of a statement and a semicolon, a script has the lines
of the trailer. There is one for each annotation, and one more for each further line of a text among
the values. All of them are comments exactly if these further lines start with the mark of a comment
themselves. -/
theorem script_lines (s : Statement) :
    s.script.toList =
        s.sql.toList ++ [';', '\n'] ++ s.trailerLines.flatMap (· ++ ['\n']) ∧
      (∀ l ∈ s.trailerLines, '\n' ∉ l) ∧
      s.trailerLines.length = s.annotations + (s.bindings.flatMap Value.furtherLines).length ∧
      ((∀ l ∈ s.trailerLines, commentMark <+: l) ↔
        ∀ l ∈ s.bindings.flatMap Value.furtherLines, commentMark <+: l) := by
  have hlength : ((bindingsNote s.bindings).splitOn '\n').length =
      1 + (s.bindings.flatMap Value.furtherLines).length := by
    have hwords : "-- bindings: ".toList.count '\n' = 0 := rfl
    unfold bindingsNote
    rw [length_splitOn, List.count_append, hwords, count_break_values]
    omega
  have hmarked : (∀ l ∈ (bindingsNote s.bindings).splitOn '\n', commentMark <+: l) ↔
      ∀ l ∈ s.bindings.flatMap Value.furtherLines, commentMark <+: l := by
    unfold bindingsNote
    rw [forall_mem_splitOn_iff, breaksMarked_append (by simp), breaksMarked_values]
    exact and_iff_right ⟨_, rfl⟩
  have hsuppress : ∀ l ∈ s.suppress.toList.map suppressNote, commentMark <+: l :=
    List.forall_mem_map.mpr fun code _ => ⟨_, rfl⟩
  refine ⟨s.toList_script, fun l hl => ?_, ?_, ?_⟩
  · exact break_notMem_of_mem_splitOn (List.dropLast_subset _ hl)
  · rw [trailerLines_eq, List.length_append, List.length_map, annotations]
    cases hb : s.bindings with
    | nil => cases s.suppress <;> rfl
    | cons v vs =>
        rw [hb] at hlength
        simp only [List.isEmpty_cons, Bool.false_eq_true, if_false, hlength]
        cases s.suppress with
        | none => rfl
        | some code => exact Nat.add_right_comm 1 _ 1
  · rw [trailerLines_eq, List.forall_mem_append, and_iff_left hsuppress]
    cases hb : s.bindings with
    | nil => exact iff_of_true (List.forall_mem_nil _) (List.forall_mem_nil _)
    | cons v vs => rw [hb] at hmarked; exact hmarked

/-- A text of two lines is kept in comments if its second line starts with the mark. -/
theorem script_lines_of_marked :
    let s : Statement :=
      { sql := "SELECT ?", bindings := [.text "a\n-- b"], suppress := some (-955) }
    (∀ l ∈ s.trailerLines, commentMark <+: l) ∧ s.trailerLines.length = 3 := by
  intro s
  obtain ⟨-, -, hlength, hmarked⟩ := s.script_lines
  exact ⟨hmarked.mpr (by decide), hlength⟩

/-- **A line break in a value ends the comment.** What a text has after it stands in the script as a
line by itself, which is no comment. -/
theorem script_lines_breaks :
    let s : Statement :=
      { sql := "CREATE TABLE \"t\" (\"c\" TEXT DEFAULT ?)"
        bindings := [.text "a\nDROP TABLE users; --"] }
    s.script =
        "CREATE TABLE \"t\" (\"c\" TEXT DEFAULT ?);\n-- bindings: 'a\nDROP TABLE users; --'\n" ∧
      s.trailerLines = ["-- bindings: 'a".toList, "DROP TABLE users; --'".toList] ∧
      ¬ ∀ l ∈ s.trailerLines, commentMark <+: l := by
  intro s
  have hlines : s.trailerLines = ["-- bindings: 'a".toList, "DROP TABLE users; --'".toList] := by
    decide +kernel
  refine ⟨by rfl, hlines, ?_⟩
  rw [hlines]
  decide

end Statement

end SchemaDdl
