import SchemaDdl.Sql.Placeholder

/-!
# Quote-Closed Text

A statement is put together from parts: words of SQL, quoted identifiers, literals, and fragments
that come from outside and stand as they are. The scanner of placeholders runs over the whole
statement, so what it finds in a part depends on the quote that the parts before it leave open.
This module isolates the parts that leave none open.

* `QuoteClosed` — the scanner leaves the text in the state it starts in, with no quote open.
  Placeholders are counted and inlined part by part after such a text (`count_append`,
  `inline_append`).
* `Inert` — quote-closed without a placeholder; inlining does not change it (`Inert.inline_eq`).
* `Plain` — neither a quote nor a question mark in it, as in the words of SQL and in numbers.
* `Scan.unquoted` — the characters that the scanner sees with no quote open.
-/

namespace SchemaDdl

/-! ### Quote-closed text -/

/-- A text is **quote-closed** if the scanner leaves it with no quote open. -/
def QuoteClosed (sql : String) : Prop :=
  Scan.after none sql.toList = none

/-- After a quote-closed text, the whole is quote-closed exactly if the rest is. -/
theorem QuoteClosed.append_iff {a b : String} (ha : QuoteClosed a) :
    QuoteClosed (a ++ b) ↔ QuoteClosed b := by
  rw [QuoteClosed] at ha
  rw [QuoteClosed, QuoteClosed, String.toList_append, Scan.after_append, ha]

/-- Quote-closed texts one after the other are quote-closed. -/
theorem QuoteClosed.append {a b : String} (ha : QuoteClosed a) (hb : QuoteClosed b) :
    QuoteClosed (a ++ b) :=
  ha.append_iff.mpr hb

/-- Placeholders are counted part by part after a quote-closed text. -/
theorem QuoteClosed.count_append {a : String} (ha : QuoteClosed a) (b : String) :
    Placeholder.count (a ++ b) = Placeholder.count a + Placeholder.count b := by
  rw [QuoteClosed] at ha
  rw [Placeholder.count, String.toList_append, Placeholder.countFrom_append, ha]
  rfl

namespace Placeholder

/-- Inlining goes part by part if the values are dealt out by the placeholders of the parts. -/
theorem inlineFrom_append (open? : Scan) (vs ws : List Value) (cs ds : List Char)
    (h : countFrom open? cs = vs.length) :
    inlineFrom open? (vs ++ ws) (cs ++ ds) =
      inlineFrom open? vs cs ++ inlineFrom (open?.after cs) ws ds := by
  induction cs generalizing open? vs with
  | nil =>
      obtain rfl : vs = [] := List.length_eq_zero_iff.mp h.symm
      rfl
  | cons c cs ih =>
      cases hm : isMark open? c with
      | true =>
          obtain ⟨v, vs, rfl⟩ : ∃ v vs', vs = v :: vs' := by
            refine List.exists_cons_of_length_pos ?_
            rw [← h, countFrom, hm, if_pos rfl]
            omega
          have hcs : countFrom (open?.step c) cs = vs.length := by
            rw [countFrom, hm, if_pos rfl, List.length_cons] at h
            omega
          simp only [List.cons_append, inlineFrom, hm, List.append_assoc, Scan.after_cons,
            ih _ _ hcs]
      | false =>
          have hcs : countFrom (open?.step c) cs = vs.length := by
            rw [countFrom, hm, if_neg Bool.false_ne_true] at h
            omega
          simp only [List.cons_append, inlineFrom, hm, Scan.after_cons, ih _ _ hcs]

/-- A text without placeholders is not changed by inlining. -/
theorem inlineFrom_of_countFrom_eq_zero {open? : Scan} {cs : List Char}
    (h : countFrom open? cs = 0) (vs : List Value) : inlineFrom open? vs cs = cs := by
  induction cs generalizing open? with
  | nil => rfl
  | cons c cs ih =>
      cases hm : isMark open? c with
      | true =>
          rw [countFrom, hm, if_pos rfl] at h
          omega
      | false =>
          rw [countFrom, hm, if_neg Bool.false_ne_true, Nat.zero_add] at h
          simp only [inlineFrom, hm, ih h]

end Placeholder

/-- Inlining goes part by part after a quote-closed text that uses up its values. -/
theorem QuoteClosed.inline_append {a : String} {vs : List Value} (ha : QuoteClosed a)
    (hc : Placeholder.count a = vs.length) (b : String) (ws : List Value) :
    Placeholder.inline (a ++ b) (vs ++ ws) =
      Placeholder.inline a vs ++ Placeholder.inline b ws := by
  rw [QuoteClosed] at ha
  rw [Placeholder.inline, String.toList_append, Placeholder.inlineFrom_append _ _ _ _ _ hc, ha,
    String.ofList_append]
  rfl

/-! ### Inert text -/

/-- A text is **inert** if the scanner passes over it: it is quote-closed and has no
placeholder. -/
structure Inert (sql : String) : Prop where
  /-- No quote is left open. -/
  closed : QuoteClosed sql
  /-- There is no placeholder. -/
  count_eq : Placeholder.count sql = 0

/-- Inert texts one after the other are inert. -/
theorem Inert.append {a b : String} (ha : Inert a) (hb : Inert b) : Inert (a ++ b) where
  closed := ha.closed.append hb.closed
  count_eq := by rw [ha.closed.count_append, ha.count_eq, hb.count_eq]

/-- Inlining does not change an inert text. -/
theorem Inert.inline_eq {a : String} (ha : Inert a) (vs : List Value) :
    Placeholder.inline a vs = a := by
  rw [Placeholder.inline, Placeholder.inlineFrom_of_countFrom_eq_zero ha.count_eq,
    String.ofList_toList]

/-! ### Plain text -/

/-- Whether a character is neither a quote nor a question mark. -/
def isPlain (c : Char) : Bool :=
  !isQuote c && c != '?'

/-- A plain character opens no quote. -/
theorem isQuote_of_isPlain {c : Char} (h : isPlain c = true) : isQuote c = false := by
  rw [isPlain, Bool.and_eq_true, Bool.not_eq_true'] at h
  exact h.1

/-- A plain character is no placeholder. -/
theorem ne_mark_of_isPlain {c : Char} (h : isPlain c = true) : c ≠ '?' := by
  rintro rfl
  exact absurd h (by decide)

/-- A text is **plain** if all of its characters are. -/
abbrev Plain (s : String) : Prop :=
  s.toList.all isPlain = true

/-- A text is plain exactly if each of its characters is. -/
theorem plain_iff {s : String} : Plain s ↔ ∀ c ∈ s.toList, isPlain c = true :=
  List.all_eq_true

/-- Plain texts one after the other are plain. -/
theorem Plain.append {a b : String} (ha : Plain a) (hb : Plain b) : Plain (a ++ b) := by
  rw [plain_iff] at ha hb ⊢
  intro c hc
  rw [String.toList_append, List.mem_append] at hc
  rcases hc with hc | hc
  · exact ha c hc
  · exact hb c hc

/-- A plain text opens no quote. -/
theorem after_of_plain {cs : List Char} (h : ∀ c ∈ cs, isPlain c = true) :
    Scan.after none cs = none := by
  induction cs with
  | nil => rfl
  | cons c cs ih =>
      obtain ⟨hc, hcs⟩ := List.forall_mem_cons.mp h
      rw [Scan.after_cons, Scan.step, isQuote_of_isPlain hc, if_neg Bool.false_ne_true, ih hcs]

/-- A plain text has no placeholder. -/
theorem countFrom_of_plain {cs : List Char} (h : ∀ c ∈ cs, isPlain c = true) :
    Placeholder.countFrom none cs = 0 := by
  induction cs with
  | nil => rfl
  | cons c cs ih =>
      obtain ⟨hc, hcs⟩ := List.forall_mem_cons.mp h
      have hmark : Placeholder.isMark none c = false := by
        simp [Placeholder.isMark, ne_mark_of_isPlain hc]
      have hstep : Scan.step none c = none := by
        rw [Scan.step, isQuote_of_isPlain hc, if_neg Bool.false_ne_true]
      rw [Placeholder.countFrom, hmark, hstep, ih hcs]
      rfl

/-- Plain text is inert. -/
theorem Plain.inert {s : String} (h : Plain s) : Inert s :=
  ⟨after_of_plain (plain_iff.mp h), countFrom_of_plain (plain_iff.mp h)⟩

/-! ### The characters outside quotes -/

/-- The characters of a text that stand outside quotes, for a scanner in a given state. -/
def Scan.unquoted (open? : Scan) : List Char → List Char
  | [] => []
  | c :: cs =>
    if open?.isNone && !isQuote c then c :: (open?.step c).unquoted cs
    else (open?.step c).unquoted cs

/-- Characters outside quotes are collected part by part. -/
theorem Scan.unquoted_append (open? : Scan) (cs ds : List Char) :
    open?.unquoted (cs ++ ds) = open?.unquoted cs ++ (open?.after cs).unquoted ds := by
  induction cs generalizing open? with
  | nil => rfl
  | cons c cs ih =>
      rw [List.cons_append, Scan.unquoted, Scan.unquoted, Scan.after_cons, ih]
      split <;> rfl

end SchemaDdl
