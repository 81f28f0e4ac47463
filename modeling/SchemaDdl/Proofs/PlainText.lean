import SchemaDdl.Format.Stock
import SchemaDdl.Proofs.Scanner

/-!
# Plain Text in Statements

Numbers, types that a dialect knows, and the words of the clauses are plain: they hold neither
quotes nor question marks, so the scanner and the lexer pass over them.

* `mem_toString_int` — the characters of an integer.
* `plain_floatText`, `plain_toString_int`, `plain_toString_nat` — numbers.
* `plain_clause` — every type but a custom one, in every dialect.
* `plain_actionClauses`, `plain_keyClause`, `plain_autoincrementClause` — clauses made of words.
-/

namespace SchemaDdl

/-! ### Numbers -/

/-- A decimal digit is plain. -/
theorem isPlain_of_isDigit {c : Char} (h : c.isDigit = true) : isPlain c = true := by
  have hne : ∀ d : Char, d.isDigit = false → c ≠ d := by
    rintro d hd rfl
    rw [hd] at h
    cases h
  simp [isPlain, isQuote, hne '\x27' rfl, hne '"' rfl, hne '\x60' rfl, hne '?' rfl]

/-- The decimal digits of a number are plain. -/
theorem isPlain_of_mem_toDigits {n : Nat} {c : Char} (h : c ∈ Nat.toDigits 10 n) :
    isPlain c = true :=
  isPlain_of_isDigit (Nat.isDigit_of_mem_toDigits (by decide) (by decide) h)

/-- A natural number in decimal is plain. -/
theorem plain_toString_nat (n : Nat) : Plain (toString n) := by
  refine plain_iff.mpr fun c hc => ?_
  rw [Nat.toString_eq_repr, Nat.toList_repr] at hc
  exact isPlain_of_mem_toDigits hc

/-- An integer is written in digits, with a minus in front if it is negative. -/
theorem mem_toString_int {n : Int} {c : Char} (h : c ∈ (toString n).toList) :
    c.isDigit = true ∨ c = '-' := by
  have hnat : ∀ m : Nat, c ∈ (toString m).toList → c.isDigit = true := by
    intro m hc
    rw [Nat.toString_eq_repr, Nat.toList_repr] at hc
    exact Nat.isDigit_of_mem_toDigits (by decide) (by decide) hc
  cases n with
  | ofNat n => exact .inl (hnat n h)
  | negSucc n =>
      have hneg : toString (Int.negSucc n) = "-" ++ toString (n + 1) := rfl
      rw [hneg, String.toList_append, List.mem_append] at h
      rcases h with h | h
      · exact .inr (List.mem_singleton.mp h)
      · exact .inl (hnat (n + 1) h)

/-- An integer in decimal is plain. -/
theorem plain_toString_int (n : Int) : Plain (toString n) := by
  refine plain_iff.mpr fun c hc => ?_
  rcases mem_toString_int hc with hdigit | rfl
  · exact isPlain_of_isDigit hdigit
  · rfl

/-- A float in SQL is plain, be it a number or not. -/
theorem plain_floatText (x : Float) : Plain (floatText x) := by
  have hnone : ∀ s ∈ ["NaN", "inf", "-inf"], Plain s :=
    List.forall_mem_cons.mpr
      ⟨rfl, List.forall_mem_cons.mpr ⟨rfl, List.forall_mem_singleton.mpr rfl⟩⟩
  have hmarks : ['.', 'e', '-', '+'].all isPlain = true := by rfl
  rcases sqlNumberLayout.render_cases x with h | h
  · exact hnone _ h
  · refine plain_iff.mpr fun c hc => ?_
    rcases h c hc with hdigit | hmark
    · exact isPlain_of_isDigit hdigit
    · exact List.all_eq_true.mp hmarks c hmark

/-! ### Types -/

/-- A type name with its length is plain. -/
theorem plain_sized {name : String} (h : Plain name) (length : Option UInt32) :
    Plain (sized name length) := by
  cases length with
  | none => exact h
  | some n => exact ((h.append (by rfl)).append (plain_toString_nat _)).append (by rfl)

/-- A type name with its precision and scale is plain. -/
theorem plain_sizedNumeric {name : String} (h : Plain name) (precision scale : Option UInt16) :
    Plain (sizedNumeric name precision scale) := by
  have hopen := h.append (b := "(") (by rfl)
  rw [sizedNumeric.eq_def]
  split
  · exact (((hopen.append (plain_toString_nat _)).append (by rfl)).append
      (plain_toString_nat _)).append (by rfl)
  · exact (hopen.append (plain_toString_nat _)).append (by rfl)
  · exact h

/-- The neutral spelling of a type that is not custom is plain. -/
theorem plain_sql {t : DataType} (h : ∀ sql, t ≠ .custom sql) : Plain t.sql := by
  cases t with
  | custom sql => exact absurd rfl (h sql)
  | decimal p s => exact plain_sizedNumeric (by rfl) p s
  | numeric p s => exact plain_sizedNumeric (by rfl) p s
  | char n => exact plain_sized (by rfl) n
  | varchar n => exact plain_sized (by rfl) n
  | binary n => exact plain_sized (by rfl) n
  | varbinary n => exact plain_sized (by rfl) n
  | _ => rfl

/-- A type that is not custom is plain in PostgreSQL. -/
theorem plain_postgresqlClause {t : DataType} (h : ∀ sql, t ≠ .custom sql) :
    Plain t.postgresqlClause := by
  cases t with
  | binary n | varbinary n =>
      cases n with
      | none => exact (rfl : Plain "BYTEA")
      | some n => exact plain_sized (by rfl) (some n)
  | blob => exact (rfl : Plain "BYTEA")
  | _ => exact plain_sql h

/-- A type that is not custom is plain in MySQL. -/
theorem plain_mysqlClause {t : DataType} (h : ∀ sql, t ≠ .custom sql) :
    Plain t.mysqlClause := by
  cases t with
  | binary n | varbinary n =>
      cases n with
      | none => exact (rfl : Plain "BLOB")
      | some n => exact plain_sql h
  | numeric p s => exact plain_sizedNumeric (by rfl) p s
  | varchar n => exact plain_sized (by rfl) (some (n.getD 255))
  | integer | real | double | datetime | boolean => rfl
  | _ => exact plain_sql h

/-- A type that is not custom is plain in SQLite. -/
theorem plain_sqliteClause {t : DataType} (h : ∀ sql, t ≠ .custom sql) :
    Plain t.sqliteClause := by
  cases t with
  | custom sql => exact absurd rfl (h sql)
  | decimal p s | numeric p s => exact (rfl : Plain "NUMERIC")
  | char n | varchar n => exact (rfl : Plain "TEXT")
  | binary n | varbinary n => exact (rfl : Plain "BLOB")
  | _ => rfl

/-- A type that is not custom is plain in Oracle. -/
theorem plain_oracleClause {t : DataType} (h : ∀ sql, t ≠ .custom sql) :
    Plain t.oracleClause := by
  cases t with
  | binary n | varbinary n =>
      cases n with
      | none => exact (rfl : Plain "BLOB")
      | some n => exact plain_sized (by rfl) (some n)
  | numeric p s => exact plain_sizedNumeric (by rfl) p s
  | varchar n => exact plain_sized (by rfl) (some (n.getD 255))
  | bigint | real | double | text | time | timestamp | datetime | boolean => rfl
  | _ => exact plain_sql h

/-- A type that is not custom is plain in every dialect. -/
theorem plain_clause {t : DataType} (h : ∀ sql, t ≠ .custom sql) (d : Dialect) :
    Plain (t.clause d) := by
  cases d with
  | generic => exact plain_sql h
  | postgresql => exact plain_postgresqlClause h
  | mysql => exact plain_mysqlClause h
  | sqlite => exact plain_sqliteClause h
  | oracle => exact plain_oracleClause h

/-! ### Clauses made of words -/

/-- A truth value is plain. -/
theorem plain_boolText (d : Dialect) (b : Bool) : Plain (d.boolText b) := by
  cases d <;> cases b <;> rfl

/-- The clause for automatic numbers is plain. -/
theorem plain_autoincrementClause (d : Dialect) (b : Bool) : Plain (d.autoincrementClause b) := by
  cases d <;> cases b <;> rfl

/-- The key and null clauses are plain. -/
theorem plain_keyClause (d : Dialect) (c : Column) : Plain (d.keyClause c) := by
  rw [Dialect.keyClause]
  split
  · exact Plain.append (by rfl) (by split <;> rfl)
  · exact Plain.append (by split <;> rfl) (by split <;> rfl)

/-- The name of an action is plain. -/
theorem plain_actionSql (a : ReferentialAction) : Plain a.sql := by
  cases a <;> rfl

/-- The clauses for the actions of a foreign key are plain. -/
theorem plain_actionClauses (onDelete onUpdate : Option ReferentialAction) :
    Plain (actionClauses onDelete onUpdate) := by
  refine Plain.append ?_ ?_
  · cases onDelete with
    | none => rfl
    | some a => exact Plain.append (by rfl) (plain_actionSql a)
  · cases onUpdate with
    | none => rfl
    | some a => exact Plain.append (by rfl) (plain_actionSql a)

end SchemaDdl
