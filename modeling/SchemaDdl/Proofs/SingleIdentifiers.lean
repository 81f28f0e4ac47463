import Mathlib.Data.List.Basic
import SchemaDdl.Proofs.ColumnText
import SchemaDdl.Proofs.NameLength
import SchemaDdl.Proofs.Outcome
import SchemaDdl.Proofs.Quoting

/-!
# Generated Names in Quotes

A generated name is put together from the table and the columns, replaced by a hash if it is too
long, and quoted segment by segment in the end. Dots of the table are gone by then, but those of
columns are not, and the quoting takes each of them for the end of a segment. So a generated name is
a single identifier exactly if it is a hash or no column has a dot. Lower-casing does not matter,
since it neither takes a dot away nor brings one in.

* `dot_mem_lowercase_iff` — dots under lower-casing.
* `dot_mem_candidateName_iff` — the dots of a readable name are those of the columns.
* `lex_wrap_eq_singleton_iff` — a quoted text is a single token exactly if it has no dot.

## Main results

* `dot_mem_of_generateName` — which generated names have dots.
* `Session.resolveName_single` — what a session returns for a generated name, token by token.
-/

namespace SchemaDdl

/-! ### Lower-casing -/

/-- The code point of a lower-case form is not in the first half of ASCII, if all runs lead out of
it. -/
theorem lt_lowerCode {n : Nat} (hn : 0x40 < n) {runs : List (Nat × Nat × Nat × Int)}
    (hruns : ∀ r ∈ runs, 0x40 < (r.1 : Int) + r.2.2.2) : 0x40 < Text.lowerCode n runs := by
  induction runs with
  | nil => exact hn
  | cons r runs ih =>
      obtain ⟨first, last, step, shift⟩ := r
      obtain ⟨hr, hrest⟩ := List.forall_mem_cons.mp hruns
      rw [Text.lowerCode]
      split
      · next hrun =>
          rw [Bool.and_eq_true, Bool.and_eq_true, decide_eq_true_eq] at hrun
          have hfirst := hrun.1.1
          dsimp only at hr
          omega
      · exact ih hrest

/-- A code point that gives a dot is that of the dot. -/
theorem eq_of_ofNat_eq_dot {n : Nat} (h : Char.ofNat n = '.') : n = 0x2e := by
  by_cases hvalid : n.isValidChar
  · have hcode : (Char.ofNatAux n hvalid).toNat = n := rfl
    rw [Char.ofNat, dif_pos hvalid] at h
    rw [← hcode, h]
    rfl
  · rw [Char.ofNat, dif_neg hvalid] at h
    cases h

/-- Only a dot has a dot in its lower-case form. -/
theorem dot_mem_lowerChar_iff (c : Char) : '.' ∈ Text.lowerChar c ↔ c = '.' := by
  constructor
  · intro h
    rw [Text.lowerChar] at h
    split at h
    · next hascii =>
      have hall : ∀ n < 0x80, '.' = (Char.ofNat n).toLower → Char.ofNat n = '.' := by decide
      have hc := hall c.toNat hascii
      rw [Char.ofNat_toNat] at hc
      exact hc (List.mem_singleton.mp h)
    · next hbeyond =>
      split at h
      · exact absurd h (by decide)
      · have hruns : ∀ r ∈ Text.lowerRuns, 0x40 < (r.1 : Int) + r.2.2.2 := by decide +kernel
        have hlt := @lt_lowerCode c.toNat (by omega) _ hruns
        have hcode := eq_of_ofNat_eq_dot (List.mem_singleton.mp h).symm
        omega
  · rintro rfl
    decide

/-- **Lower-casing keeps dots**: it neither takes one away nor brings one in. -/
theorem dot_mem_lowerFrom_iff (inWord : Bool) (cs : List Char) :
    '.' ∈ Text.lowerFrom inWord cs ↔ '.' ∈ cs := by
  induction cs generalizing inWord with
  | nil => rfl
  | cons c cs ih =>
      rw [Text.lowerFrom, List.mem_append, ih, List.mem_cons]
      refine or_congr_left ?_
      split
      · next hsigma =>
          subst hsigma
          refine iff_of_false ?_ (by decide)
          split <;> decide
      · rw [dot_mem_lowerChar_iff, eq_comm]

/-! ### Generated names -/

/-- A character that is not in the separator stands in a joined text exactly if it stands in one of
the parts. -/
theorem mem_intercalate_iff {c : Char} {sep : String} (hsep : c ∉ sep.toList) (xs : List String) :
    c ∈ (sep.intercalate xs).toList ↔ ∃ x ∈ xs, c ∈ x.toList := by
  induction xs with
  | nil => simp
  | cons x xs ih =>
      cases xs with
      | nil => simp
      | cons y ys =>
          rw [String.intercalate_cons_cons, String.toList_append, String.toList_append,
            List.mem_append, List.mem_append, ih, or_iff_left hsep]
          exact (List.exists_mem_cons_iff (fun x => c ∈ x.toList) x (y :: ys)).symm

/-- **The dots of a readable name** are those of the columns. -/
theorem dot_mem_candidateName_iff (kind : ObjectKind) (table : String) (columns : List String) :
    '.' ∈ (candidateName kind table columns).toList ↔ ∃ c ∈ columns, '.' ∈ c.toList := by
  have htable : '.' ∉ table.toList.map fun c => if c == '.' || c == '-' then '_' else c := by
    intro h
    obtain ⟨c, -, hc⟩ := List.mem_map.mp h
    split at hc
    · exact absurd hc (by decide)
    · next hne =>
        subst hc
        exact hne rfl
  have hsuffix : ¬ ∃ x ∈ [kind.suffix], '.' ∈ x.toList := by cases kind <;> decide
  rw [candidateName, Text.lowercase, String.toList_ofList, dot_mem_lowerFrom_iff,
    mem_intercalate_iff (by decide), List.cons_append, List.exists_mem_cons_iff,
    String.toList_ofList, or_iff_right htable]
  constructor
  · rintro ⟨x, hx, hdot⟩
    rcases List.mem_append.mp hx with hx | hx
    · exact ⟨x, hx, hdot⟩
    · exact absurd ⟨x, hx, hdot⟩ hsuffix
  · rintro ⟨x, hx, hdot⟩
    exact ⟨x, List.mem_append_left _ hx, hdot⟩

/-- **A generated name has a dot** exactly if a column has one and the name is not a hash. -/
theorem dot_mem_of_generateName {limit : Nat} {kind : ObjectKind} {table : String}
    {columns : List String} {name : String}
    (h : generateName limit kind table columns = .ok name) :
    '.' ∈ name.toList ↔
      (candidateName kind table columns).utf8ByteSize ≤ limit ∧
        ∃ c ∈ columns, '.' ∈ c.toList := by
  rcases generateName_eq_ok_iff.mp h with ⟨hfits, rfl⟩ | ⟨hlong, -, rfl⟩
  · rw [dot_mem_candidateName_iff, and_iff_right hfits]
  · refine iff_of_false ?_ fun hboth => Nat.not_le.mpr hlong hboth.1
    exact notMem_hashedName (by decide) _

/-! ### Names in quotes -/

/-- The dots of a text are there exactly if it has one. -/
theorem dots_eq_nil_iff (identifier : String) : dots identifier = [] ↔ '.' ∉ identifier.toList := by
  rw [dots, List.filter_eq_nil_iff]
  constructor
  · intro h hmem
    exact h '.' hmem rfl
  · rintro h c hc hdot
    exact h (beq_iff_eq.mp hdot ▸ hc)

/-- **A quoted text is a single token** exactly if it has no dot. -/
theorem lex_wrap_eq_singleton_iff (d : Dialect) (name : String) :
    lex (d.wrap name).toList = [.quoted d.quote name.toList] ↔ '.' ∉ name.toList := by
  rw [lex_wrap]
  constructor
  · intro hsingle
    rw [← dots_eq_nil_iff, ← filterMap_outside_segmentTokens d.quote, hsingle]
    rfl
  · intro hdot
    rw [segments, List.splitOn_eq_singleton hdot]
    rfl

/-- **What a session returns for a generated name.** With a stock formatter it is the name that was
generated, in quotes, with as many bytes as the dialect allows at most. The lexer reads its segments
back. It is a single quoted token exactly if the readable name was too long and became a hash, or if
no column has a dot. -/
theorem Session.resolveName_single {s : Session} {kind : ObjectKind} {columns : List String}
    {text : String} (hstock : s.target.formatter = s.target.dialect.formatter)
    (h : (s.resolveName ⟨kind, none, columns⟩).result = .ok text) :
    ∃ name,
      generateName s.target.dialect.maxIdentifierBytes kind s.target.table columns = .ok name ∧
      name.utf8ByteSize ≤ s.target.dialect.maxIdentifierBytes ∧
      lex text.toList = segmentTokens s.target.dialect.quote (segments name) ∧
      (lex text.toList = [.quoted s.target.dialect.quote name.toList] ↔
        s.target.dialect.maxIdentifierBytes <
            (candidateName kind s.target.table columns).utf8ByteSize ∨
          ∀ c ∈ columns, '.' ∉ c.toList) := by
  obtain ⟨name, hname⟩ := exists_generateName
    (hashedNameBytes_le_maxIdentifierBytes s.target.dialect) kind s.target.table columns
  have htext : text = s.target.dialect.wrap name := by
    by_cases hg : ∀ g ∈ (NameRequest.mk kind none columns).generated? s.target, s.Admits g
    · have hresolve : (NameRequest.mk kind none columns).resolveOn s.target = .ok name := hname
      obtain ⟨w, hw⟩ := resolveName_of_ok hresolve hg
      rw [hw, hstock] at h
      exact (Except.ok.inj h).symm
    · obtain ⟨e, w, hw⟩ := resolveName_of_not_admits hg
      rw [hw] at h
      cases h
  subst htext
  refine ⟨name, hname, utf8ByteSize_le_of_generateName hname, lex_wrap _ name, ?_⟩
  rw [lex_wrap_eq_singleton_iff, dot_mem_of_generateName hname, not_and_or, Nat.not_le]
  push Not
  rfl

/-- The dot and the hyphen of a table become underscores, so that its name is a single token. -/
theorem Session.resolveName_single_of_table :
    (resolveName { target := .stock .postgresql "Public.User-Accounts" none }
        ⟨.unique, none, ["A", "b"]⟩).result = .ok "\"public_user_accounts_a_b_unique\"" ∧
      lex "\"public_user_accounts_a_b_unique\"".toList =
        [.quoted '"' "public_user_accounts_a_b_unique".toList] := by
  have hresult : (resolveName { target := .stock .postgresql "Public.User-Accounts" none }
      ⟨.unique, none, ["A", "b"]⟩).result = .ok "\"public_user_accounts_a_b_unique\"" := by rfl
  obtain ⟨name, hname, -, -, hsingle⟩ := resolveName_single rfl hresult
  obtain rfl : "public_user_accounts_a_b_unique" = name := Except.ok.inj hname
  exact ⟨hresult, hsingle.mpr (.inr (by decide))⟩

/-- **A dot of a column splits the name.** The name that is generated for the column keeps the dot,
and what the session returns is two identifiers. -/
theorem Session.resolveName_splits :
    generateName Dialect.generic.maxIdentifierBytes .index "users" ["a.b"] =
        .ok "users_a.b_index" ∧
      (resolveName { target := .stock .generic "users" none } ⟨.index, none, ["a.b"]⟩).result =
        .ok "\"users_a\".\"b_index\"" ∧
      lex "\"users_a\".\"b_index\"".toList =
        [.quoted '"' "users_a".toList, .plain '.', .quoted '"' "b_index".toList] := by
  exact ⟨by rfl, by rfl, lex_wrap .generic "users_a.b_index"⟩

end SchemaDdl
