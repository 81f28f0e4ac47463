import SchemaDdl.Proofs.Binding
import SchemaDdl.Proofs.ErrorGuard
import SchemaDdl.Proofs.Growth

/-!
# Literal Defaults and Bound Defaults

A default can be given as a value, which the formatter of the dialect spells, or as a placeholder
with the same value bound to it. A guard writes the bound value into the statement that it runs, and
the spelling is that of values then, which knows no dialect. Oracle is the dialect whose guards do
so. Of all values only truth values have two spellings there: a default is written as a number, and
a bound value as a word.

* `DefaultValue.value?` — the value that a default stands for.
* `BindDefaults` — the columns of a table are those of another one, or bind their defaults.
* `SpelledAlike` — no truth value is among the defaults that are bound.

## Main results

* `staysIf_defaultSql` — the two spellings of a value differ for truth values only, and the word is
  the longer one.
* `emits_conditional_iff` — which tables can be created on the condition that there are none.
* `createTable_guards` — the guards of two tables of which one binds defaults of the other.
-/

namespace SchemaDdl

/-! ### Spellings of a value -/

/-- The value that a default stands for. SQL of its own stands for none. -/
def DefaultValue.value? : DefaultValue → Option Value
  | .null => some .null
  | .boolean b => some (.bool b)
  | .integer n => some (.int n)
  | .float x => some (.float x)
  | .string s => some (.text s)
  | .expression _ | .raw .. => none

/-- **The two spellings of a value** on Oracle are the same unless it is a truth value, and for a
truth value the word is longer than the number. -/
theorem staysIf_defaultSql {dv : DefaultValue} {v : Value} (h : dv.value? = some v) :
    StaysIf (Dialect.oracle.defaultSql dv) v.inline (∀ b, dv ≠ .boolean b) := by
  have hsame : ∀ {text : String}, (∀ b, dv ≠ .boolean b) →
      StaysIf text text (∀ b, dv ≠ .boolean b) :=
    fun hdv => (StaysIf.refl _).congr (iff_of_true trivial hdv)
  cases dv with
  | boolean b =>
      obtain rfl := Option.some.inj h
      refine ⟨fun hdv => absurd rfl (hdv b), fun _ => ?_⟩
      cases b <;> decide
  | null | integer n | float x | string s =>
      obtain rfl := Option.some.inj h
      exact hsame nofun
  | expression sql | raw sql bindings => cases h

/-- A default that stands for a value takes over no SQL and has no values to inline. -/
theorem DefaultValue.verbatim_of_value? {dv : DefaultValue} {v : Value} (h : dv.value? = some v) :
    dv.verbatim = [] ∧ dv.inlined = dv ∧ ∀ sql bindings, dv ≠ .raw sql bindings := by
  cases dv with
  | expression sql | raw sql bindings => cases h
  | _ => exact ⟨rfl, rfl, nofun⟩

/-! ### Columns -/

/-- A column with a value as its default, bound to a placeholder. -/
def Column.bindDefault (c : Column) (v : Value) : Column :=
  { c with defaultValue := some (.raw "?" [v]) }

/-- A column **binds the default** of another one: the two are the same, except that a default that
stands for a value may be given as a placeholder with this value. -/
inductive Column.BindsDefault (c : Column) : Column → Prop
  /-- The same column. -/
  | same : c.BindsDefault c
  /-- The value of the default, bound to a placeholder. -/
  | bound {dv : DefaultValue} {v : Value} (hdefault : c.defaultValue = some dv)
      (hvalue : dv.value? = some v) : c.BindsDefault (c.bindDefault v)

/-- The default of a column is **spelled alike** in another one, because it is the same column or
because the default is no truth value. -/
def Column.SpelledAlike (c c' : Column) : Prop :=
  c' = c ∨ ∀ b, c.defaultValue ≠ some (.boolean b)

namespace Column

variable {d : Dialect} {c c' : Column}

/-- What is checked about a column stays the same if its default is bound. -/
theorem BindsDefault.checks (h : c.BindsDefault c') :
    c'.name = c.name ∧ c'.verbatim d = c.verbatim d ∧ (c'.Bound ↔ c.Bound) ∧
      (c.Closed d → c'.Closed d) := by
  cases h with
  | same => exact ⟨rfl, rfl, Iff.rfl, id⟩
  | @bound dv v hdefault hvalue =>
      obtain ⟨hnone, -, hraw⟩ := DefaultValue.verbatim_of_value? hvalue
      have hverbatim : (c.bindDefault v).verbatim d = c.verbatim d := by
        rw [verbatim, verbatim, hdefault, Option.elim_some, hnone]
        rfl
      have hbound : (c.bindDefault v).Bound := by
        intro sql bindings h
        cases h
        rfl
      refine ⟨rfl, hverbatim, iff_of_true hbound fun sql bindings h => ?_, fun hclosed => ?_⟩
      · rw [hdefault] at h
        exact absurd (Option.some.inj h) (hraw sql bindings)
      · refine ⟨hverbatim ▸ hclosed.verbatim, fun sql bindings h => ?_⟩
        cases h
        rfl

/-- The text of a column changes with its default as that does. -/
theorem staysIf_fragment {value value' : Option DefaultValue} {p : Prop}
    (h : StaysIf (d.defaultFragment value) (d.defaultFragment value') p) :
    StaysIf (d.fragment { c with defaultValue := value })
      (d.fragment { c with defaultValue := value' }) p :=
  (((h.append_left _).append_right _).append_right _).append_right _

/-- **The text of a column with its values inlined** stays if the default is spelled alike, and
grows otherwise. -/
theorem BindsDefault.staysIf_fragment (h : c.BindsDefault c') :
    StaysIf (Dialect.oracle.fragment c.inlined) (Dialect.oracle.fragment c'.inlined)
      (c.SpelledAlike c') := by
  cases h with
  | same => exact (StaysIf.refl _).congr (iff_of_true trivial (.inl rfl))
  | @bound dv v hdefault hvalue =>
      obtain ⟨-, hinlined, hraw⟩ := DefaultValue.verbatim_of_value? hvalue
      have hne : c.bindDefault v ≠ c := by
        intro h
        have hdv := (congrArg defaultValue h).trans hdefault
        exact hraw "?" [v] (Option.some.inj hdv).symm
      have hplaceholder : Placeholder.inline "?" [v] = v.inline := by
        have hmark : Placeholder.isMark none '?' = true := rfl
        simp [Placeholder.inline, Placeholder.inlineFrom, hmark]
      have hliteral : c.inlined.defaultValue = some dv := by
        rw [inlined, hdefault]
        exact congrArg some hinlined
      have hvalues : (c.bindDefault v).inlined.defaultValue = some (.expression v.inline) := by
        rw [← hplaceholder]
        rfl
      have hdefaults : StaysIf (Dialect.oracle.defaultFragment c.inlined.defaultValue)
          (Dialect.oracle.defaultFragment (c.bindDefault v).inlined.defaultValue)
          (c.SpelledAlike (c.bindDefault v)) := by
        rw [hliteral, hvalues]
        refine ((staysIf_defaultSql hvalue).append_left " DEFAULT ").congr ?_
        rw [SpelledAlike, or_iff_right hne, hdefault]
        exact forall_congr' fun b => not_congr (Option.some.injEq _ _).symm.to_iff
      exact Column.staysIf_fragment (c := c) hdefaults

end Column

/-! ### Tables -/

/-- A column of one table **binds the default** of the column in its place in another one. -/
def BindDefaults (cs cs' : List Column) : Prop :=
  List.Forall₂ Column.BindsDefault cs cs'

/-- Each default of a table is **spelled alike** in its place in another one. -/
def SpelledAlike (cs cs' : List Column) : Prop :=
  List.Forall₂ Column.SpelledAlike cs cs'

/-- What is checked about the columns of a table stays the same if defaults are bound. -/
theorem BindDefaults.checks {d : Dialect} {cs cs' : List Column} (h : BindDefaults cs cs') :
    cs'.map Column.name = cs.map Column.name ∧
      ((∀ c ∈ cs', c.Bound ∧ c.looseMarks d = 0) ↔ ∀ c ∈ cs, c.Bound ∧ c.looseMarks d = 0) ∧
      ((∀ c ∈ cs, c.Closed d) → ∀ c ∈ cs', c.Closed d) := by
  induction h with
  | nil => exact ⟨rfl, Iff.rfl, id⟩
  | cons hc _ ih =>
      obtain ⟨hname, hverbatim, hbound, hclosed⟩ := hc.checks (d := d)
      obtain ⟨hnames, hall, hcloseds⟩ := ih
      refine ⟨by rw [List.map_cons, List.map_cons, hname, hnames], ?_, ?_⟩
      · rw [List.forall_mem_cons, List.forall_mem_cons, hall, hbound, Column.looseMarks, hverbatim,
          ← Column.looseMarks]
      · rw [List.forall_mem_cons, List.forall_mem_cons]
        exact And.imp hclosed hcloseds

section Tables

variable {table : String} {comment : Option String} {cs cs' : List Column}

/-- The statement that creates a table on the condition that there is none, given its columns. -/
def Target.conditionalStatement (t : Target) (cs : List Column) : Statement :=
  t.createStatement ⟨cs.map t.dialect.fragment, cs.flatMap Column.bindings⟩ true

/-- **A table can be created** on Oracle exactly if its columns have names, a value for each
placeholder of a raw default and no placeholder elsewhere. -/
theorem block_createTable_oracle (hclosed : ∀ c ∈ cs, c.Closed .oracle) {block : List Statement} :
    (Operation.createTable cs true).block (.stock .oracle table comment) = .ok block ↔
      (Operation.createTable cs true).validate = .ok () ∧
        (∀ c ∈ cs, c.Bound ∧ c.looseMarks .oracle = 0) ∧
        block = (Target.stock .oracle table comment).conditionalStatement cs ::
          (Target.stock .oracle table comment).tableComment.statements := by
  have hcomment : (Target.stock .oracle table comment).tableComment.failure = none := by
    cases comment <;> rfl
  have haccepted : ∀ st ∈ (Target.stock .oracle table comment).tableComment.statements,
      Placeholder.count st.sql = st.bindings.length :=
    fun st hst => (Target.fillsTo_tableComment st hst).1.count_eq
  have hloose : ∀ hbound : ∀ c ∈ cs, c.Bound,
      (∀ st ∈ (Target.stock .oracle table comment).conditionalStatement cs ::
        (Target.stock .oracle table comment).tableComment.statements,
          Placeholder.count st.sql = st.bindings.length) ↔
        ∀ c ∈ cs, c.looseMarks .oracle = 0 := fun hbound => by
    rw [List.forall_mem_cons, and_iff_left haccepted]
    exact Target.createStatement_accepted_iff hclosed hbound true
  rw [block_createTable_iff, hcomment, eq_self, true_and, forall₂_and, and_assoc]
  refine and_congr_right fun _ => and_congr_right fun hbound => ?_
  constructor
  · rintro ⟨hmarks, rfl⟩
    exact ⟨(hloose hbound).mp hmarks, rfl⟩
  · rintro ⟨hmarks, rfl⟩
    exact ⟨(hloose hbound).mpr hmarks, rfl⟩

/-- The text that a guard runs to create a table: the statement with its values inlined. -/
theorem inlined_conditionalStatement (hclosed : ∀ c ∈ cs, c.Closed .oracle)
    (hall : ∀ c ∈ cs, c.Bound ∧ c.looseMarks .oracle = 0) :
    ((Target.stock .oracle table comment).conditionalStatement cs).inlined =
      "CREATE TABLE " ++ "" ++ Dialect.oracle.wrap table ++ " (" ++
        ", ".intercalate (cs.map fun c => Dialect.oracle.fragment c.inlined) ++ ")" := by
  have hfills := fills_intercalate Target.inert_comma fun c hc =>
    fills_fragment (hclosed c hc) (hall c hc).1 (hall c hc).2
  have hwords := @Target.inert_createTable_nil .oracle table comment false
  exact ((Fills.inert_append hwords hfills).append_inert (b := ")") (Plain.inert rfl)).inline_eq

/-- The guard of the statement that creates a table runs it with its values inlined. -/
theorem guard?_conditionalStatement (cs : List Column) :
    ((Target.stock .oracle table comment).conditionalStatement cs).guard? .oracle =
      some ⟨catchBlock ((Target.stock .oracle table comment).conditionalStatement cs).inlined
        nameAlreadyUsed, [], none⟩ :=
  rfl

/-- What a session emits to create a table on Oracle on the condition that there is none. -/
theorem emits_conditional_iff {s : Session} (hs : s.target = .stock .oracle table comment)
    (hclosed : ∀ c ∈ cs, c.Closed .oracle) {block : List Statement} :
    s.Emits (.createTable cs true) block ↔
      (Operation.createTable cs true).validate = .ok () ∧
        (∀ c ∈ cs, c.Bound ∧ c.looseMarks .oracle = 0) ∧
        block = (Target.stock .oracle table comment).conditionalStatement cs ::
          (Target.stock .oracle table comment).tableComment.statements := by
  rw [Session.emits_iff, hs, and_iff_left nofun]
  exact block_createTable_oracle hclosed

/-- **Guards of bound defaults.** On Oracle, take two tables of which one binds defaults of the
other. If no column leaves a quote open, the one can be created on the condition that there is none
exactly if the other one can. The guards are the same then exactly if no default that is bound is a
truth value: all other values are spelled alike, whether they are defaults or inlined. -/
theorem createTable_guards {s : Session} (hs : s.target = .stock .oracle table comment)
    (hbind : BindDefaults cs cs') (hclosed : ∀ c ∈ cs, c.Closed .oracle) :
    (∀ dv v, DefaultValue.value? dv = some v →
      (v.inline = Dialect.oracle.defaultSql dv ↔ ∀ b, dv ≠ .boolean b)) ∧
    ((∃ block, s.Emits (.createTable cs' true) block) ↔
      ∃ block, s.Emits (.createTable cs true) block) ∧
    ∀ block block', s.Emits (.createTable cs true) block → s.Emits (.createTable cs' true) block' →
      (block'.map (·.guard? .oracle) = block.map (·.guard? .oracle) ↔ SpelledAlike cs cs') := by
  obtain ⟨hnames, hall, hcloseds⟩ := hbind.checks (d := .oracle)
  have hclosed' := hcloseds hclosed
  have hvalid : (Operation.createTable cs' true).validate =
      (Operation.createTable cs true).validate := congrArg (requireColumns _) hnames
  simp only [emits_conditional_iff hs hclosed, emits_conditional_iff hs hclosed']
  refine ⟨fun dv v hv => (staysIf_defaultSql hv).eq_iff, ?_, ?_⟩
  · simp only [hvalid, hall, exists_and_left, exists_eq]
  · rintro block block' ⟨-, hcs, rfl⟩ ⟨-, hcs', rfl⟩
    have hfragments : StaysIf _ _ (SpelledAlike cs cs') :=
      staysIf_intercalate ", " (hbind.imp fun _ _ h => h.staysIf_fragment)
    rw [List.map_cons, List.map_cons, List.cons.injEq, and_iff_left rfl,
      guard?_conditionalStatement, guard?_conditionalStatement, Option.some.injEq,
      Statement.mk.injEq, and_iff_left ⟨rfl, rfl⟩, catchBlock_inj, and_iff_left rfl,
      inlined_conditionalStatement hclosed hcs, inlined_conditionalStatement hclosed' hcs']
    exact ((hfragments.append_left _).append_right ")").eq_iff

/-- A text with a quote is spelled alike as a default and as a bound value. -/
theorem createTable_guards_of_text :
    let s : Session := { target := .stock .oracle "t" none }
    let c : Column := { name := "c", dataType := .text, defaultValue := some (.string "it's") }
    ∃ block block', s.Emits (.createTable [c] true) block ∧
      s.Emits (.createTable [c.bindDefault (.text "it's")] true) block' ∧
      block'.map (·.guard? .oracle) = block.map (·.guard? .oracle) := by
  intro s c
  have hclosed : ∀ x ∈ [c], x.Closed .oracle := List.forall_mem_singleton.mpr ⟨nofun, nofun⟩
  have hbind : BindDefaults [c] [c.bindDefault (.text "it's")] :=
    List.Forall₂.cons (.bound rfl rfl) List.Forall₂.nil
  have hall : ∀ x ∈ [c], x.Bound ∧ x.looseMarks .oracle = 0 :=
    List.forall_mem_singleton.mpr ⟨nofun, rfl⟩
  obtain ⟨-, hexists, hguards⟩ := createTable_guards (s := s) rfl hbind hclosed
  obtain ⟨block, hblock⟩ : ∃ block, s.Emits (.createTable [c] true) block :=
    ⟨_, (emits_conditional_iff rfl hclosed).mpr ⟨rfl, hall, rfl⟩⟩
  obtain ⟨block', hblock'⟩ := hexists.mpr ⟨block, hblock⟩
  refine ⟨block, block', hblock, hblock', (hguards block block' hblock hblock').mpr ?_⟩
  exact List.Forall₂.cons (.inr nofun) List.Forall₂.nil

/-- **A truth value is spelled in two ways.** As a default it is a number, and the guard of the
bound default runs the statement with a word in its place. -/
theorem createTable_guards_of_truth :
    let s : Session := { target := .stock .oracle "t" none }
    let c : Column := { name := "f", dataType := .boolean, defaultValue := some (.boolean true) }
    let block : List Statement :=
      [⟨"CREATE TABLE \"t\" (\"f\" NUMBER(1, 0) DEFAULT 1)", [], some nameAlreadyUsed⟩]
    let block' : List Statement :=
      [⟨"CREATE TABLE \"t\" (\"f\" NUMBER(1, 0) DEFAULT ?)", [.bool true], some nameAlreadyUsed⟩]
    BindDefaults [c] [c.bindDefault (.bool true)] ∧ s.Emits (.createTable [c] true) block ∧
      s.Emits (.createTable [c.bindDefault (.bool true)] true) block' ∧
      block'.map Statement.inlined = ["CREATE TABLE \"t\" (\"f\" NUMBER(1, 0) DEFAULT TRUE)"] ∧
      block'.map (·.guard? .oracle) ≠ block.map (·.guard? .oracle) := by
  intro s c block block'
  have hclosed : ∀ x ∈ [c], x.Closed .oracle := List.forall_mem_singleton.mpr ⟨nofun, nofun⟩
  have hbind : BindDefaults [c] [c.bindDefault (.bool true)] :=
    List.Forall₂.cons (.bound rfl rfl) List.Forall₂.nil
  have hall : ∀ x ∈ [c], x.Bound ∧ x.looseMarks .oracle = 0 :=
    List.forall_mem_singleton.mpr ⟨nofun, rfl⟩
  obtain ⟨-, hall', hclosed'⟩ := hbind.checks (d := .oracle)
  have htext : "CREATE TABLE \"t\" (\"f\" NUMBER(1, 0) DEFAULT 1)" =
      ((Target.stock .oracle "t" none).conditionalStatement [c]).sql := by decide +kernel
  have htext' : "CREATE TABLE \"t\" (\"f\" NUMBER(1, 0) DEFAULT ?)" =
      ((Target.stock .oracle "t" none).conditionalStatement [c.bindDefault (.bool true)]).sql := by
    decide +kernel
  refine ⟨hbind, (emits_conditional_iff rfl hclosed).mpr ⟨rfl, hall, ?_⟩,
    (emits_conditional_iff rfl (hclosed' hclosed)).mpr ⟨rfl, hall'.mpr hall, ?_⟩,
    by decide +kernel, fun hguards => ?_⟩
  · exact congrArg (fun sql => [(⟨sql, [], some nameAlreadyUsed⟩ : Statement)]) htext
  · exact congrArg (fun sql => [(⟨sql, [.bool true], some nameAlreadyUsed⟩ : Statement)]) htext'
  · have hguard := Option.some.inj (List.singleton_inj.mp hguards)
    obtain ⟨hrun, -⟩ := catchBlock_inj.mp (congrArg Statement.sql hguard)
    exact absurd hrun (by decide +kernel)

end Tables

end SchemaDdl
