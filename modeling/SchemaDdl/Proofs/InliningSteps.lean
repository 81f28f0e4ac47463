import SchemaDdl.Proofs.Inlining

/-!
# Inlining Step by Step

Placeholders are counted by one function and replaced by another, and both run over a statement on
their own. This module states how they fit together. Values may be inlined in several steps, since
a value that is written already is passed over by the next step, whatever it holds. And a statement
may be taken apart after any part that leaves no quote open: the placeholders of that part take the
first values, and the rest of the statement takes the others, also if there are too few values or
too many.

* `inlineFrom_mark`, `inlineFrom_cons` — one step of inlining, at a placeholder and elsewhere.
* `inlineFrom_inlineFrom` — two steps of inlining are one.
* `inlineFrom_append_take` — the values are dealt out by the placeholders of the parts.

## Main results

* `inline_composes` — both for statements, and the number of placeholders that are left over.
-/

namespace SchemaDdl.Placeholder

/-! ### One step -/

/-- A placeholder is a question mark that is read with no quote open. -/
theorem isMark_eq_true_iff {open? : Scan} {c : Char} :
    isMark open? c = true ↔ open? = none ∧ c = '?' := by
  rw [isMark, Bool.and_eq_true, Option.isNone_iff_eq_none, beq_iff_eq]

/-- A placeholder is replaced by the first value. -/
theorem inlineFrom_mark (v : Value) (vs : List Value) (cs : List Char) :
    inlineFrom none (v :: vs) ('?' :: cs) = v.inline.toList ++ inlineFrom none vs cs :=
  rfl

/-- Every other character stays. -/
theorem inlineFrom_cons {open? : Scan} {c : Char} (h : isMark open? c = false) (vs : List Value)
    (cs : List Char) :
    inlineFrom open? vs (c :: cs) = c :: inlineFrom (open?.step c) vs cs := by
  simp only [inlineFrom, h]

/-- An empty text stays empty. -/
@[simp] theorem inlineFrom_text_nil (open? : Scan) (vs : List Value) :
    inlineFrom open? vs [] = [] := by
  simp [inlineFrom]

/-! ### Several steps -/

/-- A value that is written already is passed over. -/
theorem inlineFrom_inline_append (v : Value) (vs : List Value) (cs : List Char) :
    inlineFrom none vs (v.inline.toList ++ cs) = v.inline.toList ++ inlineFrom none vs cs := by
  obtain ⟨hclosed, hcount⟩ := inert_inline_value v
  have hpart := inlineFrom_append none [] vs v.inline.toList cs hcount
  rw [QuoteClosed] at hclosed
  rwa [List.nil_append, inlineFrom_nil, hclosed] at hpart

/-- **Two steps of inlining are one.** The induction is on the text, for every state in which it may
start; what the first step has written is passed over by the second. -/
theorem inlineFrom_inlineFrom (open? : Scan) (vs ws : List Value) (cs : List Char) :
    inlineFrom open? ws (inlineFrom open? vs cs) = inlineFrom open? (vs ++ ws) cs := by
  induction cs generalizing open? vs with
  | nil => simp
  | cons c cs ih =>
      cases hm : isMark open? c with
      | true =>
          obtain ⟨rfl, rfl⟩ := isMark_eq_true_iff.mp hm
          cases vs with
          | nil => simp
          | cons v vs =>
              rw [inlineFrom_mark, inlineFrom_inline_append, ih, List.cons_append, inlineFrom_mark]
      | false => rw [inlineFrom_cons hm, inlineFrom_cons hm, ih, inlineFrom_cons hm]

/-! ### Several parts -/

/-- **The values are dealt out by the placeholders of the parts**: the first part takes as many as
it has placeholders, and the other one takes those that are left. -/
theorem inlineFrom_append_take (open? : Scan) (vs : List Value) (cs ds : List Char) :
    inlineFrom open? vs (cs ++ ds) =
      inlineFrom open? (vs.take (countFrom open? cs)) cs ++
        inlineFrom (open?.after cs) (vs.drop (countFrom open? cs)) ds := by
  induction cs generalizing open? vs with
  | nil => simp [countFrom]
  | cons c cs ih =>
      cases hm : isMark open? c with
      | true =>
          obtain ⟨rfl, rfl⟩ := isMark_eq_true_iff.mp hm
          have hstep : Scan.step none '?' = none := rfl
          have hcount : countFrom none ('?' :: cs) = countFrom none cs + 1 := by
            rw [countFrom, hm, if_pos rfl, hstep, Nat.add_comm]
          cases vs with
          | nil => simp
          | cons v vs =>
              rw [List.cons_append, inlineFrom_mark, ih, hcount, List.take_succ_cons,
                List.drop_succ_cons, inlineFrom_mark, List.append_assoc, Scan.after_cons, hstep]
      | false =>
          have hcount : countFrom open? (c :: cs) = countFrom (open?.step c) cs := by
            rw [countFrom, hm, if_neg Bool.false_ne_true, Nat.zero_add]
          rw [List.cons_append, inlineFrom_cons hm, ih, inlineFrom_cons hm, hcount,
            List.cons_append, Scan.after_cons]

/-! ### Statements -/

/-- **Inlining composes and agrees with counting.** Inlining values in two steps is inlining all of
them at once, and inlining none changes nothing. Each value takes away one placeholder as long as
there is one. After a text that leaves no quote open, placeholders are counted part by part, and the
values are dealt out by them. -/
theorem inline_composes (s : String) (b c : List Value) :
    inline (inline s b) c = inline s (b ++ c) ∧
      inline s [] = s ∧
      count (inline s b) = count s - min (count s) b.length ∧
      (QuoteClosed s → ∀ t,
        count (s ++ t) = count s + count t ∧
        inline (s ++ t) b = inline s (b.take (count s)) ++ inline t (b.drop (count s))) := by
  refine ⟨?_, ?_, ?_, fun hclosed t => ⟨hclosed.count_append t, ?_⟩⟩
  · rw [inline, inline, inline, String.toList_ofList, inlineFrom_inlineFrom]
  · rw [inline, inlineFrom_nil, String.ofList_toList]
  · rw [count_inline]
    omega
  · rw [QuoteClosed] at hclosed
    rw [inline, String.toList_append, inlineFrom_append_take, hclosed, String.ofList_append]
    rfl

/-- A text with a question mark in a literal, one value for it, and another part after it. -/
theorem inline_composes_of_quotes :
    QuoteClosed "a = ? AND b <> 'it''s?'" ∧
      inline ("a = ? AND b <> 'it''s?'" ++ " AND c = ?") [.text "?", .int (-1)] =
        "a = '?' AND b <> 'it''s?'" ++ " AND c = -1" := by
  have hclosed : QuoteClosed "a = ? AND b <> 'it''s?'" := by
    rw [QuoteClosed]
    decide +kernel
  obtain ⟨-, -, -, hparts⟩ := inline_composes "a = ? AND b <> 'it''s?'" [.text "?", .int (-1)] []
  refine ⟨hclosed, ?_⟩
  rw [(hparts hclosed " AND c = ?").2]
  decide +kernel

end SchemaDdl.Placeholder
