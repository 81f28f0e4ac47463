import Mathlib.Algebra.GroupWithZero.Nat
import SchemaDdl.Proofs.PlainText
import SchemaDdl.Proofs.Quoting

/-!
# Values in Place of Placeholders

A value that is written into a statement must not disturb what stands around it: it may neither
leave a quote open nor bring in a placeholder of its own. This module proves that for every value,
and follows the values of a statement to the parts that they belong to.

* `inert_inline_value` — a value as SQL text is inert, whatever it holds.
* `count_inline` — inlining takes away one placeholder for each value and brings in none.
* `inert_inline` — a text whose placeholders all have their values is inert once these are inlined.
* `Fills` — a text uses up exactly the given values, and reads as another text with them inlined.
  This goes part by part (`Fills.append`, `fills_intercalate`).
* `Marks` — a text with no quote left open, and the number of its placeholders (`Marks.append`,
  `marks_intercalate`).
-/

namespace SchemaDdl

/-! ### Values -/

/-- The digits of a byte are neither quotes nor question marks. -/
theorem isPlain_of_mem_hexByte {b : UInt8} {c : Char} (h : c ∈ hexByte b) : isPlain c = true := by
  have hdigit : ∀ n < 16, isPlain (Nat.digitChar n).toUpper = true := by decide
  have hb := b.toNat_lt
  rw [hexByte, List.mem_cons, List.mem_singleton] at h
  rcases h with rfl | rfl
  · exact hdigit _ (by omega)
  · exact hdigit _ (by omega)

/-- Plain characters inside quotes leave the scanner there. -/
theorem after_quoted_of_plain {q : Char} (hq : isQuote q = true) {cs : List Char}
    (h : ∀ c ∈ cs, isPlain c = true) :
    Scan.after (some q) cs = some q ∧ Placeholder.countFrom (some q) cs = 0 := by
  induction cs with
  | nil => exact ⟨rfl, rfl⟩
  | cons c cs ih =>
      obtain ⟨hc, hcs⟩ := List.forall_mem_cons.mp h
      have hne : c ≠ q := by
        rintro rfl
        rw [isQuote_of_isPlain hc] at hq
        cases hq
      have hstep : Scan.step (some q) c = some q := if_neg hne
      obtain ⟨hafter, hcount⟩ := ih hcs
      rw [Scan.after_cons, Placeholder.countFrom, hstep, hafter, hcount]
      exact ⟨rfl, rfl⟩

/-- **A value as SQL text is inert**, whatever it holds. -/
theorem inert_inline_value (v : Value) : Inert v.inline := by
  cases v with
  | null => exact Plain.inert (s := "NULL") rfl
  | bool b => cases b <;> exact Plain.inert rfl
  | int n => exact (plain_toString_int _).inert
  | float x => exact (plain_floatText x).inert
  | text s => exact inert_quoteLiteral s
  | blob bytes =>
      have hplain : ∀ c ∈ bytes.flatMap hexByte, isPlain c = true := by
        intro c hc
        obtain ⟨b, -, hb⟩ := List.mem_flatMap.mp hc
        exact isPlain_of_mem_hexByte hb
      obtain ⟨hafter, hcount⟩ := after_quoted_of_plain isQuote_literalQuote hplain
      have hX : Scan.step none 'X' = none := rfl
      have hopen : Scan.step none literalQuote = some literalQuote := rfl
      have hclose : Scan.step (some literalQuote) literalQuote = none := rfl
      constructor
      · rw [QuoteClosed, Value.inline, String.toList_ofList, List.cons_append, List.cons_append,
          Scan.after_cons, hX, Scan.after_cons, hopen, Scan.after_append, hafter]
        rfl
      · rw [Placeholder.count, Value.inline, String.toList_ofList, List.cons_append,
          List.cons_append, Placeholder.countFrom, hX, Placeholder.countFrom, hopen,
          Placeholder.countFrom_append, hcount, hafter]
        rfl

/-! ### Texts with their values -/

/-- Inlining changes nothing about the quotes, and each value takes the place of a placeholder
without bringing one in. The induction is on the text; a value stands where no quote is open. -/
theorem scan_inlineFrom (open? : Scan) (vs : List Value) (cs : List Char) :
    Scan.after open? (Placeholder.inlineFrom open? vs cs) = Scan.after open? cs ∧
      Placeholder.countFrom open? (Placeholder.inlineFrom open? vs cs) =
        Placeholder.countFrom open? cs - vs.length := by
  induction cs generalizing open? vs with
  | nil => cases vs <;> simp [Placeholder.inlineFrom, Placeholder.countFrom]
  | cons c cs ih =>
      cases hm : Placeholder.isMark open? c with
      | false =>
          obtain ⟨hafter, hcount⟩ := ih (open?.step c) vs
          simp only [Placeholder.inlineFrom, hm, Scan.after_cons, Placeholder.countFrom, hafter,
            hcount, Bool.false_eq_true, if_false, Nat.zero_add, and_self]
      | true =>
          have hopen : open? = none ∧ c = '?' := by
            rw [Placeholder.isMark, Bool.and_eq_true, beq_iff_eq] at hm
            exact ⟨Option.isNone_iff_eq_none.mp hm.1, hm.2⟩
          obtain ⟨rfl, rfl⟩ := hopen
          have hstep : Scan.step none '?' = none := rfl
          cases vs with
          | nil =>
              rw [Placeholder.inlineFrom_nil]
              exact ⟨rfl, rfl⟩
          | cons v vs =>
              obtain ⟨hafter, hcount⟩ := ih none vs
              obtain ⟨hclosed, hnone⟩ := inert_inline_value v
              rw [QuoteClosed] at hclosed
              rw [Placeholder.count] at hnone
              simp only [Placeholder.inlineFrom, hm, Scan.after_append,
                Placeholder.countFrom_append, Scan.after_cons, Placeholder.countFrom, hstep,
                hclosed, hnone, hafter, hcount, if_true, List.length_cons, true_and]
              omega

/-- A value takes the place of a placeholder, so as many are left as there are values too few. -/
theorem count_inline (sql : String) (vs : List Value) :
    Placeholder.count (Placeholder.inline sql vs) = Placeholder.count sql - vs.length := by
  rw [Placeholder.count, Placeholder.inline, String.toList_ofList,
    (scan_inlineFrom none vs sql.toList).2, Placeholder.count]

/-- Once all placeholders have their values inlined, a quote-closed text is inert. -/
theorem inert_inline {sql : String} {vs : List Value} (hclosed : QuoteClosed sql)
    (hcount : Placeholder.count sql = vs.length) : Inert (Placeholder.inline sql vs) := by
  obtain ⟨hafter, -⟩ := scan_inlineFrom none vs sql.toList
  rw [QuoteClosed] at hclosed
  constructor
  · rw [QuoteClosed, Placeholder.inline, String.toList_ofList, hafter, hclosed]
  · rw [count_inline, hcount, Nat.sub_self]

/-- A text **fills** to another with some values if it leaves no quote open, has a placeholder for
each value, and reads as the other text once they are inlined. -/
structure Fills (sql : String) (values : List Value) (filled : String) : Prop where
  /-- No quote is left open. -/
  closed : QuoteClosed sql
  /-- There is a placeholder for each value. -/
  count_eq : Placeholder.count sql = values.length
  /-- The text with the values inlined. -/
  inline_eq : Placeholder.inline sql values = filled

/-- An inert text needs no values. -/
theorem Inert.fills {sql : String} (h : Inert sql) : Fills sql [] sql :=
  ⟨h.closed, h.count_eq, h.inline_eq []⟩

/-- A text that has its values is inert once they are inlined. -/
theorem Fills.inert {sql filled : String} {vs : List Value} (h : Fills sql vs filled) :
    Inert filled :=
  h.inline_eq ▸ inert_inline h.closed h.count_eq

/-- **Values reach their own part**: texts one after the other take their values one after the
other. -/
theorem Fills.append {a b x y : String} {vs ws : List Value} (ha : Fills a vs x)
    (hb : Fills b ws y) : Fills (a ++ b) (vs ++ ws) (x ++ y) where
  closed := ha.closed.append hb.closed
  count_eq := by
    rw [ha.closed.count_append, ha.count_eq, hb.count_eq, List.length_append]
  inline_eq := by
    rw [ha.closed.inline_append ha.count_eq, ha.inline_eq, hb.inline_eq]

/-- An inert text may stand in front. -/
theorem Fills.inert_append {a b y : String} {vs : List Value} (ha : Inert a) (hb : Fills b vs y) :
    Fills (a ++ b) vs (a ++ y) :=
  ha.fills.append hb

/-- An inert text may stand behind. -/
theorem Fills.append_inert {a b x : String} {vs : List Value} (ha : Fills a vs x) (hb : Inert b) :
    Fills (a ++ b) vs (x ++ b) := by
  have h := ha.append hb.fills
  rwa [List.append_nil] at h

/-! ### Texts with their placeholders counted -/

/-- A text leaves no quote open and has a number of placeholders. -/
structure Marks (sql : String) (marks : Nat) : Prop where
  /-- No quote is left open. -/
  closed : QuoteClosed sql
  /-- The number of placeholders. -/
  count_eq : Placeholder.count sql = marks

/-- An inert text has no placeholders. -/
theorem Inert.marks {sql : String} (h : Inert sql) : Marks sql 0 :=
  ⟨h.closed, h.count_eq⟩

/-- A text without placeholders is inert. -/
theorem Marks.inert {sql : String} (h : Marks sql 0) : Inert sql :=
  ⟨h.closed, h.count_eq⟩

/-- Placeholders add up. -/
theorem Marks.append {a b : String} {m n : Nat} (ha : Marks a m) (hb : Marks b n) :
    Marks (a ++ b) (m + n) :=
  ⟨ha.closed.append hb.closed, by rw [ha.closed.count_append, ha.count_eq, hb.count_eq]⟩

/-- An inert text behind adds nothing. -/
theorem Marks.append_inert {a b : String} {m : Nat} (ha : Marks a m) (hb : Inert b) :
    Marks (a ++ b) m :=
  ha.append hb.marks

/-- An inert text in front adds nothing. -/
theorem Marks.inert_append {a b : String} {n : Nat} (ha : Inert a) (hb : Marks b n) :
    Marks (a ++ b) n := by
  have h := ha.marks.append hb
  rwa [Nat.zero_add] at h

/-! ### Texts in a row -/

section Lists

variable {α : Type} {sep : String} {f g : α → String} {v : α → List Value} {n : α → Nat}

/-- Texts in a row with something inert between them take the values of each in turn. -/
theorem fills_intercalate (hsep : Inert sep) {xs : List α}
    (h : ∀ x ∈ xs, Fills (f x) (v x) (g x)) :
    Fills (sep.intercalate (xs.map f)) (xs.flatMap v) (sep.intercalate (xs.map g)) := by
  induction xs with
  | nil => exact Inert.fills ⟨rfl, rfl⟩
  | cons x xs ih =>
      obtain ⟨hx, hxs⟩ := List.forall_mem_cons.mp h
      have hrest := ih hxs
      cases xs with
      | nil => simpa using hx
      | cons y ys =>
          rw [List.map_cons, List.map_cons, List.map_cons, List.map_cons,
            String.intercalate_cons_cons, String.intercalate_cons_cons, List.flatMap_cons]
          exact (hx.append_inert hsep).append hrest

/-- The placeholders of texts in a row add up, with something inert between them. -/
theorem marks_intercalate (hsep : Inert sep) {xs : List α} (h : ∀ x ∈ xs, Marks (f x) (n x)) :
    Marks (sep.intercalate (xs.map f)) (xs.map n).sum := by
  induction xs with
  | nil => exact Inert.marks ⟨rfl, rfl⟩
  | cons x xs ih =>
      obtain ⟨hx, hxs⟩ := List.forall_mem_cons.mp h
      have hrest := ih hxs
      cases xs with
      | nil => simpa using hx
      | cons y ys =>
          rw [List.map_cons, List.map_cons, String.intercalate_cons_cons, List.map_cons,
            List.sum_cons]
          exact (hx.append_inert hsep).append hrest

end Lists

end SchemaDdl
