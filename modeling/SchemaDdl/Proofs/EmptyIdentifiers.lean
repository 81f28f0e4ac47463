import SchemaDdl.Proofs.Blocks
import SchemaDdl.Proofs.Growth
import SchemaDdl.Proofs.MatchingDrops
import SchemaDdl.Proofs.NameLength
import SchemaDdl.Proofs.Refusal

/-!
# Empty Identifiers

Validation refuses an operation with an empty name. It looks at the names of columns, keys and
tables, but an operation quotes other identifiers as well: those that a single column mentions, and
the schema of its table. This module shows exactly where an empty identifier gets through.

Whether an identifier is quoted shows in the statements: they change if this identifier is quoted in
another way. So no empty identifier is quoted for a statement if it does not depend on how an empty
identifier is quoted. Identifiers are taken as a whole here: `a.` is not empty, although a segment
of it is.

* `Target.quoting`, `Session.quoting` — a target and a session with another way to quote.
* `Column.mentioned` — the identifiers that a column mentions besides its own name.
* `Operation.NamesNothing` — an empty identifier is mentioned by a column that the operation writes,
  or is the schema of an index that PostgreSQL drops.

## Main results

* `Target.Agree.plan`, `Target.Agree.block` — an operation that is well formed and names something
  everywhere has the same plan, and the same statements, if only the empty identifier is quoted in
  another way.
* `not_namesNothing_of_block` — the statements of any other operation change if the empty identifier
  is quoted in a longer way.
* `emits_quoting_iff` — the two together, for the operations of a unit.
-/

namespace SchemaDdl

/-! ### Another way to quote -/

namespace Dialect

/-- A collation clause with another way to quote. -/
def collationWith (d : Dialect) (w : String → String) (collation : Option String) : String :=
  collation.elim "" fun name => " COLLATE " ++ (if d = postgresql then w name else name)

/-- The clause for the column referred to, with another way to quote. -/
def referenceWith (w : String → String) (r : Option Reference) : String :=
  r.elim "" fun r =>
    " REFERENCES " ++ w r.table ++ " (" ++ w r.column ++ ")" ++ actionClauses r.onDelete r.onUpdate

/-- The text of a column with another way to quote. -/
def fragmentWith (d : Dialect) (w : String → String) (c : Column) : String :=
  w c.name ++ " " ++ d.columnType c ++ d.collationWith w c.collation ++
    d.autoincrementClause c.autoincrement ++ d.defaultFragment c.defaultValue ++ d.keyClause c ++
    referenceWith w c.references ++ checkClause c.check

/-- The stock formatter with another way to quote. -/
def formatterWith (d : Dialect) (w : String → String) : Formatter where
  wrap := w
  typeClause t := t.clause d
  columnDef c := (d.defaultClause c.defaultValue).map fun clause => ⟨[d.fragmentWith w c], clause.2⟩

/-- A column is one fragment, with the values of its default. -/
theorem columnDef_formatterWith (d : Dialect) (w : String → String) (c : Column) :
    (d.formatterWith w).columnDef c =
      (d.defaultClause c.defaultValue).map fun clause => ⟨[d.fragmentWith w c], clause.2⟩ :=
  rfl

/-- The text of a column, quoted as in its dialect. -/
theorem fragmentWith_wrap (d : Dialect) (c : Column) : d.fragmentWith d.wrap c = d.fragment c := by
  have hcollation : d.collationWith d.wrap c.collation = d.collationClause c.collation := by
    cases c.collation <;> rfl
  have hreference : referenceWith d.wrap c.references = d.referenceClause c.references := by
    cases c.references <;> rfl
  rw [fragmentWith, fragment, hcollation, hreference]

/-- **The stock formatter** is the one that quotes as its dialect does. -/
theorem formatterWith_wrap (d : Dialect) : d.formatterWith d.wrap = d.formatter := by
  have hcolumn : (d.formatterWith d.wrap).columnDef = d.formatter.columnDef := by
    funext c
    by_cases hbound : c.Bound
    · rw [columnDef_of_bound hbound, columnDef_formatterWith, defaultClause_of_bound hbound,
        fragmentWith_wrap]
      rfl
    · obtain ⟨e, he⟩ := defaultClause_of_not_bound hbound d
      rw [columnDef_formatterWith, he, formatter]
      dsimp only
      rw [columnDef, he]
      rfl
  exact congrArg
    (fun column => ({ wrap := d.wrap, typeClause := fun t => t.clause d, columnDef := column } :
      Formatter)) hcolumn

end Dialect

/-- A target with **another way to quote**. -/
def Target.quoting (t : Target) (w : String → String) : Target :=
  { t with formatter := t.dialect.formatterWith w }

/-- A session with another way to quote. -/
def Session.quoting (s : Session) (w : String → String) : Session :=
  { s with target := s.target.quoting w }

/-- A stock target quotes as its dialect does. -/
theorem Target.quoting_wrap (d : Dialect) (table : String) (comment : Option String) :
    (stock d table comment).quoting d.wrap = stock d table comment :=
  congrArg (fun f => (⟨d, f, table, comment⟩ : Target)) d.formatterWith_wrap

/-! ### Identifiers of a column -/

/-- The identifier that a collation is, where it is one. -/
def Dialect.collationNames (d : Dialect) (collation : Option String) : List String :=
  if d = postgresql then collation.toList else []

/-- The identifiers of a reference. -/
def referenceNames (r : Option Reference) : List String :=
  r.elim [] fun r => [r.table, r.column]

/-- The identifiers that a column **mentions** besides its own name. -/
def Column.mentioned (d : Dialect) (c : Column) : List String :=
  d.collationNames c.collation ++ referenceNames c.references

section Columns

variable {d : Dialect} {v w : String → String}

/-- The text of a column depends on how its identifiers are quoted, and on nothing else. -/
theorem fragmentWith_congr {c : Column} (h : ∀ i ∈ c.name :: c.mentioned d, w i = v i) :
    d.fragmentWith w c = d.fragmentWith v c := by
  rw [Column.mentioned, List.forall_mem_cons, List.forall_mem_append] at h
  obtain ⟨hname, hcollation, hreference⟩ := h
  have hcollation : d.collationWith w c.collation = d.collationWith v c.collation := by
    cases hc : c.collation with
    | none => rfl
    | some name =>
        rw [Dialect.collationWith, Dialect.collationWith, Option.elim_some, Option.elim_some]
        split
        · next hd =>
            rw [hc, Dialect.collationNames, if_pos hd] at hcollation
            rw [hcollation name (List.mem_singleton_self name)]
        · rfl
  have hreference : Dialect.referenceWith w c.references =
      Dialect.referenceWith v c.references := by
    cases hc : c.references with
    | none => rfl
    | some r =>
        rw [hc] at hreference
        rw [Dialect.referenceWith, Dialect.referenceWith, Option.elim_some, Option.elim_some,
          hreference r.table (by simp [referenceNames]),
          hreference r.column (by simp [referenceNames])]
  rw [Dialect.fragmentWith, Dialect.fragmentWith, hname, hcollation, hreference]

/-- **The text of a column stays** exactly if none of its identifiers is empty, where the empty
identifier alone is quoted in a longer way. -/
theorem staysIf_fragmentWith (hw : ∀ i, StaysIf (v i) (w i) (i ≠ "")) (c : Column) :
    StaysIf (d.fragmentWith v c) (d.fragmentWith w c) ("" ∉ c.name :: c.mentioned d) := by
  have hcollation : StaysIf (d.collationWith v c.collation) (d.collationWith w c.collation)
      ("" ∉ d.collationNames c.collation) := by
    cases c.collation with
    | none => exact (StaysIf.refl "").congr (iff_of_true trivial (by simp [Dialect.collationNames]))
    | some name =>
        rw [Dialect.collationWith, Dialect.collationWith, Option.elim_some, Option.elim_some,
          Dialect.collationNames]
        split
        · rw [Option.toList_some, List.mem_singleton]
          exact ((hw name).append_left " COLLATE ").congr ne_comm
        · exact (StaysIf.refl _).congr (iff_of_true trivial List.not_mem_nil)
  have hreference : StaysIf (Dialect.referenceWith v c.references)
      (Dialect.referenceWith w c.references) ("" ∉ referenceNames c.references) := by
    cases c.references with
    | none => exact (StaysIf.refl _).congr (iff_of_true trivial List.not_mem_nil)
    | some r =>
        have hclause := (((((hw r.table).append_left " REFERENCES ").append_right " (").append
          (hw r.column)).append_right ")").append_right (actionClauses r.onDelete r.onUpdate)
        refine hclause.congr ?_
        rw [referenceNames, Option.elim_some, List.mem_cons, List.mem_singleton, not_or,
          ne_comm, @ne_comm _ r.column]
  have htext := ((((((((hw c.name).append_right " ").append_right (d.columnType c)).append
    hcollation).append_right (d.autoincrementClause c.autoincrement)).append_right
    (d.defaultFragment c.defaultValue)).append_right (d.keyClause c)).append
    hreference).append_right (Dialect.checkClause c.check)
  refine htext.congr ?_
  rw [Column.mentioned, List.mem_cons, List.mem_append, not_or, not_or, and_assoc, ne_comm]

end Columns

/-! ### Operations that name something everywhere -/

/-- An operation **names nothing** somewhere: a column that it writes mentions an empty identifier,
or it drops an index in PostgreSQL from a table whose name starts with its last dot. -/
def Operation.NamesNothing (d : Dialect) (table : String) : Operation → Prop
  | createTable columns _ | addColumns columns => ∃ c ∈ columns, "" ∈ c.mentioned d
  | changeColumnType c => d = .mysql ∧ "" ∈ c.mentioned d
  | dropIndex _ => d = .postgresql ∧ Target.qualifier? table.toList = some []
  | _ => False

/-- Targets **agree** if they differ at most in how they quote the empty identifier, and this is not
the name of the table. -/
structure Target.Agree (t u : Target) : Prop where
  /-- The dialects are the same. -/
  dialect : t.dialect = u.dialect
  /-- The tables are the same. -/
  table : t.table = u.table
  /-- The table has a name. -/
  table_ne : u.table ≠ ""
  /-- The comments are the same. -/
  comment : t.comment = u.comment
  /-- Identifiers that are not empty are quoted alike. -/
  wrap : ∀ i, i ≠ "" → t.formatter.wrap i = u.formatter.wrap i
  /-- Types are written alike. -/
  typeClause : t.formatter.typeClause = u.formatter.typeClause
  /-- Lists of names that are not empty are quoted alike. -/
  columnize : ∀ {names : List String}, "" ∉ names →
    t.formatter.columnize names = u.formatter.columnize names
  /-- Columns without empty identifiers are written alike. -/
  columnDef : ∀ c : Column, "" ∉ c.name :: c.mentioned u.dialect →
    t.formatter.columnDef c = u.formatter.columnDef c
  /-- Lists of columns without empty identifiers are written alike. -/
  columnDefs : ∀ {cs : List Column}, (∀ c ∈ cs, "" ∉ c.name :: c.mentioned u.dialect) →
    t.formatter.columnDefs cs = u.formatter.columnDefs cs

/-- A column without empty identifiers is written as in the dialect, if only the empty identifier
is quoted in another way. -/
theorem columnDef_formatterWith_eq {d : Dialect} {w : String → String}
    (hw : ∀ i, i ≠ "" → w i = d.wrap i) {c : Column} (hc : "" ∉ c.name :: c.mentioned d) :
    (d.formatterWith w).columnDef c = d.formatter.columnDef c := by
  have hfragment : d.fragmentWith w c = d.fragmentWith d.wrap c :=
    fragmentWith_congr fun i hi => hw i fun he => hc (he ▸ hi)
  rw [← d.formatterWith_wrap, Dialect.columnDef_formatterWith, Dialect.columnDef_formatterWith,
    hfragment]

/-- A stock target agrees with itself if only the empty identifier is quoted in another way. -/
theorem Target.agree_quoting {d : Dialect} {table : String} (htable : table ≠ "")
    (comment : Option String) {w : String → String} (hw : ∀ i, i ≠ "" → w i = d.wrap i) :
    ((stock d table comment).quoting w).Agree (stock d table comment) where
  dialect := rfl
  table := rfl
  table_ne := htable
  comment := rfl
  wrap := hw
  typeClause := rfl
  columnize hnames :=
    congrArg (", ".intercalate ·) (List.map_congr_left fun i hi => hw i fun he => hnames (he ▸ hi))
  columnDef _ hc := columnDef_formatterWith_eq hw hc
  columnDefs hcs := ColumnDefs.inOrder_congr fun c hc => columnDef_formatterWith_eq hw (hcs c hc)

namespace Target.Agree

variable {t u : Target}

/-- The table is quoted alike. -/
theorem quotedTable (h : t.Agree u) : t.quotedTable = u.quotedTable := by
  rw [Target.quotedTable, Target.quotedTable, h.table, h.wrap _ h.table_ne]

/-- The table is altered alike. -/
theorem alter (h : t.Agree u) : t.alter = u.alter :=
  funext fun change => by rw [Target.alter, Target.alter, h.quotedTable]

/-- Constraints are dropped alike. -/
theorem dropConstraint (h : t.Agree u) : t.dropConstraint = u.dropConstraint :=
  funext fun name => by rw [Target.dropConstraint, Target.dropConstraint, h.alter]

/-- Missing features are reported alike. -/
theorem unsupported (h : t.Agree u) : t.unsupported = u.unsupported :=
  funext fun feature => by rw [Target.unsupported, Target.unsupported, h.dialect]

/-- Comments are set alike. -/
theorem setComment (h : t.Agree u) : t.setComment = u.setComment := by
  funext text
  simp only [Target.setComment, h.dialect, h.quotedTable, h.alter, h.unsupported]

/-- The comment of a new table is set alike. -/
theorem tableComment (h : t.Agree u) : t.tableComment = u.tableComment := by
  rw [Target.tableComment, Target.tableComment, h.comment, h.setComment]

/-- The statement that creates a table is the same. -/
theorem createStatement (h : t.Agree u) : t.createStatement = u.createStatement := by
  funext defs ifNotExists
  unfold Target.createStatement
  rw [h.dialect, h.quotedTable]

/-- The statements that add columns are the same. -/
theorem addStatement (h : t.Agree u) : t.addStatement = u.addStatement := by
  funext defs
  simp only [Target.addStatement, h.dialect, h.alter]

/-- The statement that adds a column is the same. -/
theorem addOneStatement (h : t.Agree u) : t.addOneStatement = u.addOneStatement := by
  funext defs
  simp only [Target.addOneStatement, h.dialect, h.alter]

/-- Columns are added alike, one by one, if none of them has an empty identifier. -/
theorem addEach (h : t.Agree u) {cs : List Column}
    (hcs : ∀ c ∈ cs, "" ∉ c.name :: c.mentioned u.dialect) : t.addEach cs = u.addEach cs := by
  induction cs with
  | nil => rfl
  | cons c cs ih =>
      obtain ⟨hc, hrest⟩ := List.forall_mem_cons.mp hcs
      rw [Target.addEach, Target.addEach, h.columnDef c hc, ih hrest, h.addOneStatement]

/-- The schema of the table stands in front alike, unless it is empty. -/
theorem schemaQualified (h : t.Agree u) (hschema : Target.qualifier? u.table.toList ≠ some []) :
    t.schemaQualified = u.schemaQualified := by
  funext name
  rw [Target.schemaQualified, Target.schemaQualified, h.table]
  cases hq : Target.qualifier? u.table.toList with
  | none => rfl
  | some schema =>
      have hne : String.ofList schema ≠ "" := fun he =>
        hschema (hq.trans (congrArg some (by simpa using congrArg String.toList he)))
      dsimp only
      rw [h.wrap _ hne]

/-- **An operation that names something everywhere** has the same plan on targets that agree. -/
theorem plan (h : t.Agree u) {op : Operation} (hnames : "" ∉ op.requiredNames)
    (hop : ¬ op.NamesNothing u.dialect u.table) : op.plan t = op.plan u := by
  have hcolumns : ∀ {cs : List Column}, "" ∉ cs.map Column.name →
      (¬ ∃ c ∈ cs, "" ∈ c.mentioned u.dialect) →
        ∀ c ∈ cs, "" ∉ c.name :: c.mentioned u.dialect := by
    intro cs hname hmentioned c hc
    rw [List.mem_cons, not_or]
    exact ⟨fun he => hname (he ▸ List.mem_map_of_mem hc), fun hm => hmentioned ⟨c, hc, hm⟩⟩
  -- The plans have to agree in their texts, not only in their form.
  cases op with
  | createTable cs ifNotExists =>
      simp only [Operation.plan, Target.createTable, h.columnDefs (hcolumns hnames hop),
        h.createStatement, h.tableComment]
  | addColumns cs =>
      simp only [Operation.plan, Target.addColumns, h.dialect, h.columnDefs (hcolumns hnames hop),
        h.addEach (hcolumns hnames hop), h.addStatement]
  | dropColumns columns =>
      replace hnames : "" ∉ columns := hnames
      have hclause : ∀ i ∈ columns, t.dropClause i = u.dropClause i := fun i hi => by
        rw [Target.dropClause, Target.dropClause, h.wrap i fun he => hnames (he ▸ hi)]
      have hclauses := List.map_congr_left hclause
      have hstatements : (columns.map fun c => ({ sql := u.alter (t.dropClause c) } : Statement)) =
          columns.map fun c => ({ sql := u.alter (u.dropClause c) } : Statement) :=
        List.map_congr_left fun i hi => by rw [hclause i hi]
      simp only [Operation.plan, Target.dropColumns, h.dialect, hstatements, hclauses, h.alter,
        h.columnize hnames]
  | renameColumn source target =>
      rw [Operation.requiredNames, List.mem_cons, List.mem_singleton, not_or] at hnames
      simp only [Operation.plan, Target.renameColumn, h.alter, h.wrap _ (Ne.symm hnames.1),
        h.wrap _ (Ne.symm hnames.2)]
  | changeColumnType c =>
      have hname : c.name ≠ "" := fun he => hnames (he ▸ List.mem_singleton_self c.name)
      have hwrap := h.wrap _ hname
      have hcolumn : u.dialect = .mysql → t.formatter.columnDef c = u.formatter.columnDef c := by
        refine fun hd => h.columnDef c ?_
        rw [List.mem_cons, not_or]
        exact ⟨Ne.symm hname, fun hm => hop ⟨hd, hm⟩⟩
      simp only [Operation.plan, Target.changeColumnType, h.dialect, hwrap, h.typeClause, h.alter,
        h.unsupported]
      cases hd : u.dialect with
      | mysql => dsimp only; rw [hcolumn hd]
      | generic | postgresql | sqlite | oracle => rfl
  | addPrimaryKey key =>
      rw [Operation.requiredNames, List.mem_append, not_or] at hnames
      simp only [Operation.plan, Target.addPrimaryKey, Target.addNamedPrimaryKey, Plan.unsupported,
        h.dialect, h.unsupported, h.alter, h.columnize hnames.1]
  | dropPrimaryKey name =>
      simp only [Operation.plan, Target.dropPrimaryKey, Plan.unsupported, h.dialect, h.unsupported,
        h.alter, h.dropConstraint]
  | addIndex key =>
      rw [Operation.requiredNames, List.mem_append, not_or] at hnames
      simp only [Operation.plan, Target.addIndex, h.quotedTable, h.columnize hnames.1]
  | dropIndex key =>
      have hschema : u.dialect = .postgresql → t.schemaQualified = u.schemaQualified :=
        fun hd => h.schemaQualified fun hq => hop ⟨hd, hq⟩
      rw [Operation.plan, Operation.plan, Target.dropIndex, Target.dropIndex, h.dialect,
        h.quotedTable]
      cases hd : u.dialect with
      | postgresql => rw [hschema hd]
      | generic | mysql | sqlite | oracle => rfl
  | addUnique key =>
      rw [Operation.requiredNames, List.mem_append, not_or] at hnames
      simp only [Operation.plan, Target.addUnique, h.dialect, h.quotedTable, h.alter,
        h.columnize hnames.1]
  | dropUnique key =>
      simp only [Operation.plan, Target.dropUnique, h.dialect, h.alter, h.dropConstraint]
  | addForeignKey key =>
      have hkey : "" ∉ key.columns ∧ "" ≠ key.referencedTable ∧ "" ∉ key.referencedColumns := by
        simp only [Operation.requiredNames, List.mem_append, List.mem_cons, not_or] at hnames
        exact ⟨hnames.1.1, hnames.1.2.1, hnames.1.2.2⟩
      simp only [Operation.plan, Target.addForeignKey, Target.addSupportedForeignKey,
        Plan.unsupported, h.dialect, h.unsupported, h.alter, h.columnize hkey.1,
        h.columnize hkey.2.2, h.wrap _ hkey.2.1.symm]
  | dropForeignKey key =>
      simp only [Operation.plan, Target.dropForeignKey, Plan.unsupported, h.dialect, h.unsupported,
        h.alter, h.dropConstraint]
  | setComment text => simp only [Operation.plan, h.setComment]

/-- Names are given alike. -/
theorem resolveOn (h : t.Agree u) (r : NameRequest) : r.resolveOn t = r.resolveOn u := by
  rw [NameRequest.resolveOn, NameRequest.resolveOn, h.dialect, h.table]

/-- The same generated name is needed. -/
theorem generated? (h : t.Agree u) (op : Operation) : op.generated? t = op.generated? u := by
  have hrequest : ∀ r : NameRequest, r.generated? t = r.generated? u := fun r => by
    rw [NameRequest.generated?, NameRequest.generated?, h.resolveOn]
  rw [Operation.generated?, Operation.generated?, h.dialect]
  exact congrArg _ (funext hrequest)

end Target.Agree

/-! ### Names -/

/-- A generated name is not empty: a readable one has an underscore, and a hash its own length. -/
theorem ne_empty_of_generateName {limit : Nat} {kind : ObjectKind} {table : String}
    {columns : List String} {name : String}
    (h : generateName limit kind table columns = .ok name) : name ≠ "" := by
  rintro rfl
  rcases generateName_eq_ok_iff.mp h with ⟨-, hreadable⟩ | ⟨-, -, hhash⟩
  · have hmem := underscore_mem_candidateName kind table columns
    rw [← hreadable] at hmem
    cases hmem
  · have hbytes := utf8ByteSize_hashedName (candidateName kind table columns)
    rw [← hhash] at hbytes
    exact absurd hbytes (by decide)

/-- The explicit name of an operation is among the names that may not be empty. -/
theorem mem_requiredNames_of_explicit {d : Dialect} {op : Operation} {r : NameRequest}
    (h : op.request? d = some r) {name : String} (hname : r.explicit = some name) :
    name ∈ op.requiredNames := by
  have hlast : ∀ {explicit : Option String} {kind : ObjectKind} {columns : List String},
      some ⟨kind, explicit, columns⟩ = some r → name ∈ explicit.toList := by
    intro explicit kind columns he
    obtain rfl := Option.some.inj he
    exact Option.mem_toList.mpr hname
  cases op with
  | addIndex key | dropIndex key | addUnique key | dropUnique key =>
      exact List.mem_append_right _ (hlast h)
  | addPrimaryKey key | addForeignKey key | dropForeignKey key =>
      rw [Operation.request?] at h
      split at h
      · cases h
      · exact List.mem_append_right _ (hlast h)
  | dropPrimaryKey explicit =>
      rw [Operation.request?] at h
      split at h
      · exact hlast h
      · cases h
  | _ => cases h

/-- The name that a well-formed operation gets is not empty. -/
theorem ne_empty_of_resolveOn {t : Target} {op : Operation} (hnames : "" ∉ op.requiredNames)
    {r : NameRequest} (hr : op.request? t.dialect = some r) {name : String}
    (h : r.resolveOn t = .ok name) : name ≠ "" := by
  rw [NameRequest.resolveOn, NameRequest.resolve] at h
  cases hexplicit : r.explicit with
  | some explicit =>
      rw [hexplicit] at h
      obtain rfl := Except.ok.inj h
      exact fun he => hnames (he ▸ mem_requiredNames_of_explicit hr hexplicit)
  | none =>
      rw [hexplicit] at h
      exact ne_empty_of_generateName h

/-! ### Statements -/

section Statements

variable {d : Dialect} {table : String} {comment : Option String} {w : String → String}

/-- **An operation that names something everywhere** has the same block on targets that agree. -/
theorem Target.Agree.block {t u : Target} (h : t.Agree u) {op : Operation}
    (hvalid : op.validate = .ok ()) (hop : ¬ op.NamesNothing u.dialect u.table) :
    op.block t = op.block u := by
  have hmalformed := Operation.validate_eq_ok_iff.mp hvalid
  have hnames : "" ∉ op.requiredNames := fun hmem => hmalformed (.inr (.inl hmem))
  have hrequest := op.request?_plan u
  rw [Operation.block, Operation.block, hvalid, h.plan hnames hop]
  dsimp only
  cases hplan : op.plan u with
  | emit em => rfl
  | named r sql =>
      rw [hplan, Plan.request?] at hrequest
      rw [Plan.block, Plan.block, h.resolveOn]
      cases hr : r.resolveOn u with
      | error e => rfl
      | ok name =>
          dsimp only
          rw [h.wrap name (ne_empty_of_resolveOn hnames hrequest.symm hr)]

/-- A column is written as its text. -/
theorem sql_of_columnDef {c : Column} {defs : ColumnDefs}
    (h : (d.formatterWith w).columnDef c = .ok defs) : defs.sql = [d.fragmentWith w c] := by
  rw [Dialect.columnDef_formatterWith] at h
  cases hdefault : d.defaultClause c.defaultValue with
  | error e => rw [hdefault] at h; cases h
  | ok clause =>
      rw [hdefault] at h
      obtain rfl := Except.ok.inj h
      rfl

/-- Columns are written as their texts. -/
theorem sql_of_columnDefs {cs : List Column} {defs : ColumnDefs}
    (h : (d.formatterWith w).columnDefs cs = .ok defs) :
    defs.sql = cs.map (d.fragmentWith w) := by
  have hinOrder : (d.formatterWith w).columnDefs =
      ColumnDefs.inOrder (d.formatterWith w).columnDef := rfl
  induction cs generalizing defs with
  | nil =>
      obtain rfl := Except.ok.inj h
      rfl
  | cons c cs ih =>
      rw [hinOrder, ColumnDefs.inOrder] at h
      split at h
      · cases h
      · next first hfirst =>
          split at h
          · cases h
          · next rest hrest =>
              obtain rfl := Except.ok.inj h
              rw [ColumnDefs.append, List.map_cons, ← ih hrest]
              dsimp only
              rw [sql_of_columnDef hfirst]
              rfl

/-- Columns that are added one by one are added as their texts. -/
theorem sql_of_addEach {t : Target} (ht : t.formatter = d.formatterWith w) {cs : List Column}
    {sts : List Statement} (h : t.addEach cs = .ok sts) :
    sts.map Statement.sql =
      cs.map fun c => t.alter (t.dialect.addColumnWords ++ d.fragmentWith w c) := by
  induction cs generalizing sts with
  | nil =>
      obtain rfl := Except.ok.inj h
      rfl
  | cons c cs ih =>
      rw [Target.addEach] at h
      split at h
      · cases h
      · next defs hdefs =>
          rw [ht] at hdefs
          split at h
          · cases h
          · next rest hrest =>
              obtain rfl := Except.ok.inj h
              rw [List.map_cons, List.map_cons, ih hrest, Target.addOneStatement]
              dsimp only
              rw [sql_of_columnDef hdefs, String.intercalate_singleton]

/-- The text of the statement that creates a table. -/
theorem sql_of_createTable {cs : List Column} {ifNotExists : Bool} {block : List Statement}
    (h : (Operation.createTable cs ifNotExists).block ((Target.stock d table comment).quoting w) =
      .ok block) :
    block.head?.map Statement.sql =
      some ("CREATE TABLE " ++ (if ifNotExists && d.hasIfNotExists then "IF NOT EXISTS " else "") ++
        w table ++ " (" ++ ", ".intercalate (cs.map (d.fragmentWith w)) ++ ")") := by
  have hplan : (((Target.stock d table comment).quoting w).createTable cs ifNotExists).outcome =
      .ok block := (Operation.block_eq_ok_iff.mp h).2
  obtain ⟨-, hfailure, rfl⟩ := Emission.outcome_eq_ok_iff.mp hplan
  have hformatter : ((Target.stock d table comment).quoting w).formatter = d.formatterWith w := rfl
  rw [Target.createTable, hformatter] at hfailure ⊢
  cases hdefs : (d.formatterWith w).columnDefs cs with
  | error e => rw [hdefs] at hfailure; cases hfailure
  | ok defs =>
      rw [← sql_of_columnDefs hdefs]
      rfl

/-- Outside SQLite, columns are added in one statement. -/
theorem Target.exists_of_addColumns {t : Target} (ht : t.dialect ≠ .sqlite) {cs : List Column}
    (h : (t.addColumns cs).failure = none) :
    ∃ defs, t.formatter.columnDefs cs = .ok defs ∧
      (t.addColumns cs).statements = [t.addStatement defs] := by
  rw [addColumns_of_ne_sqlite ht] at h ⊢
  cases hdefs : t.formatter.columnDefs cs with
  | error e => rw [hdefs] at h; cases h
  | ok defs => exact ⟨defs, rfl, rfl⟩

/-- The texts of the statements that add columns. -/
theorem sql_of_addColumns {cs : List Column} {block : List Statement}
    (h : (Operation.addColumns cs).block ((Target.stock d table comment).quoting w) = .ok block) :
    block.map Statement.sql =
      if d = .sqlite then
        cs.map fun c => "ALTER TABLE " ++ w table ++ " " ++
          (d.addColumnWords ++ d.fragmentWith w c)
      else
        ["ALTER TABLE " ++ w table ++ " " ++
          ", ".intercalate (cs.map fun c => d.addColumnWords ++ d.fragmentWith w c)] := by
  have hplan : (((Target.stock d table comment).quoting w).addColumns cs).outcome = .ok block :=
    (Operation.block_eq_ok_iff.mp h).2
  obtain ⟨-, hfailure, rfl⟩ := Emission.outcome_eq_ok_iff.mp hplan
  have hformatter : ((Target.stock d table comment).quoting w).formatter = d.formatterWith w := rfl
  by_cases hd : d = .sqlite
  · subst hd
    have hadd : ((Target.stock .sqlite table comment).quoting w).addColumns cs =
        .ofExcept (((Target.stock .sqlite table comment).quoting w).addEach cs) := rfl
    rw [if_pos rfl]
    rw [hadd] at hfailure ⊢
    cases hsts : ((Target.stock .sqlite table comment).quoting w).addEach cs with
    | error e => rw [hsts] at hfailure; cases hfailure
    | ok sts => exact sql_of_addEach hformatter hsts
  · rw [if_neg hd]
    obtain ⟨defs, hdefs, hstatements⟩ := Target.exists_of_addColumns hd hfailure
    rw [hformatter] at hdefs
    have hwords : cs.map (fun c => d.addColumnWords ++ d.fragmentWith w c) =
        defs.sql.map (d.addColumnWords ++ ·) := by
      rw [sql_of_columnDefs hdefs, List.map_map]
      rfl
    rw [hstatements, hwords]
    rfl

/-- The text of the statement that gives a column its type in MySQL. -/
theorem sql_of_changeColumnType {c : Column} {block : List Statement}
    (h : (Operation.changeColumnType c).block ((Target.stock .mysql table comment).quoting w) =
      .ok block) :
    block.map Statement.sql =
      ["ALTER TABLE " ++ w table ++ " " ++
        ("MODIFY COLUMN " ++ Dialect.mysql.fragmentWith w c)] := by
  have hplan : (((Target.stock .mysql table comment).quoting w).changeColumnType c).outcome =
      .ok block := (Operation.block_eq_ok_iff.mp h).2
  obtain ⟨-, hfailure, rfl⟩ := Emission.outcome_eq_ok_iff.mp hplan
  have hformatter : ((Target.stock .mysql table comment).quoting w).formatter =
      Dialect.mysql.formatterWith w := rfl
  have hdialect : ((Target.stock .mysql table comment).quoting w).dialect = .mysql := rfl
  rw [Target.changeColumnType, hdialect] at hfailure ⊢
  dsimp only at hfailure ⊢
  rw [hformatter] at hfailure ⊢
  cases hdefs : (Dialect.mysql.formatterWith w).columnDef c with
  | error e => rw [hdefs] at hfailure; cases hfailure
  | ok defs =>
      have hsql := sql_of_columnDef hdefs
      dsimp only
      rw [hsql, String.intercalate_singleton]
      rfl

/-- The text of the statement that drops an index in PostgreSQL from a table whose name starts with
its last dot. -/
theorem sql_of_dropIndex {key : KeySpec} (hschema : Target.qualifier? table.toList = some [])
    {block : List Statement}
    (h : (Operation.dropIndex key).block ((Target.stock .postgresql table comment).quoting w) =
      .ok block) :
    ∃ name, NameRequest.resolveOn ⟨.index, key.name, key.columns⟩
        (.stock .postgresql table comment) = .ok name ∧
      block.map Statement.sql = ["DROP INDEX " ++ (w "" ++ "." ++ w name)] := by
  obtain ⟨-, hplan⟩ := Operation.block_eq_ok_iff.mp h
  have hresolve : NameRequest.resolveOn ⟨.index, key.name, key.columns⟩
      ((Target.stock .postgresql table comment).quoting w) =
        NameRequest.resolveOn ⟨.index, key.name, key.columns⟩
          (.stock .postgresql table comment) := rfl
  have hqualified : ∀ name, ((Target.stock .postgresql table comment).quoting w).schemaQualified
      name = w "" ++ "." ++ name := by
    intro name
    have htable : ((Target.stock .postgresql table comment).quoting w).table = table := rfl
    rw [Target.schemaQualified, htable, hschema]
    rfl
  rw [Operation.plan, Target.dropIndex, Plan.block, hresolve] at hplan
  cases hname : NameRequest.resolveOn ⟨.index, key.name, key.columns⟩
      (.stock .postgresql table comment) with
  | error e => rw [hname] at hplan; cases hplan
  | ok name =>
      rw [hname] at hplan
      obtain ⟨-, -, rfl⟩ := Emission.outcome_eq_ok_iff.mp hplan
      refine ⟨name, rfl, ?_⟩
      change ["DROP INDEX " ++ ((Target.stock .postgresql table comment).quoting w).schemaQualified
        (w name)] = _
      rw [hqualified]

/-- **An operation that names nothing somewhere** has another block if the empty identifier, and no
other one, is quoted in a longer way. -/
theorem not_namesNothing_of_block (hw : ∀ i, StaysIf (d.wrap i) (w i) (i ≠ "")) {op : Operation}
    {block : List Statement} (h : op.block (.stock d table comment) = .ok block)
    (hquoting : op.block ((Target.stock d table comment).quoting w) = .ok block) :
    ¬ op.NamesNothing d table := by
  have hcolumn := fun c (words : String) =>
    (staysIf_fragmentWith (d := d) hw c).append_left words
  have hnothing : ∀ {cs : List Column}, (∀ c ∈ cs, "" ∉ c.name :: c.mentioned d) →
      ¬ ∃ c ∈ cs, "" ∈ c.mentioned d :=
    fun hcs ⟨c, hc, hmentioned⟩ => hcs c hc (List.mem_cons_of_mem _ hmentioned)
  rw [← Target.quoting_wrap] at h
  cases op with
  | createTable cs ifNotExists =>
      have heq := Option.some.inj ((sql_of_createTable hquoting).symm.trans (sql_of_createTable h))
      have hrow := staysIf_intercalate_same ", " fun c (_ : c ∈ cs) =>
        staysIf_fragmentWith (d := d) hw c
      have htext := ((((hw table).append_left ("CREATE TABLE " ++
        if ifNotExists && d.hasIfNotExists then "IF NOT EXISTS " else "")).append_right
          " (").append hrow).append_right ")"
      exact hnothing (htext.eq_iff.mp heq).2
  | addColumns cs =>
      have heq := (sql_of_addColumns hquoting).symm.trans (sql_of_addColumns h)
      by_cases hd : d = .sqlite
      · rw [if_pos hd, if_pos hd] at heq
        refine hnothing fun c hc => ?_
        have htext := (((hw table).append_left "ALTER TABLE ").append_right " ").append
          (hcolumn c d.addColumnWords)
        exact (htext.eq_iff.mp (List.map_inj_left.mp heq c hc)).2
      · rw [if_neg hd, if_neg hd] at heq
        have hrow := staysIf_intercalate_same ", " fun c (_ : c ∈ cs) =>
          hcolumn c d.addColumnWords
        have htext := (((hw table).append_left "ALTER TABLE ").append_right " ").append hrow
        exact hnothing (htext.eq_iff.mp (List.singleton_inj.mp heq)).2
  | changeColumnType c =>
      rintro ⟨rfl, hmentioned⟩
      have heq := (sql_of_changeColumnType hquoting).symm.trans (sql_of_changeColumnType h)
      have htext := (((hw table).append_left "ALTER TABLE ").append_right " ").append
        (hcolumn c "MODIFY COLUMN ")
      exact (htext.eq_iff.mp (List.singleton_inj.mp heq)).2 (List.mem_cons_of_mem _ hmentioned)
  | dropIndex key =>
      rintro ⟨rfl, hschema⟩
      obtain ⟨name, hname, hsql⟩ := sql_of_dropIndex hschema h
      obtain ⟨name', hname', hsql'⟩ := sql_of_dropIndex hschema hquoting
      obtain rfl := Except.ok.inj (hname.symm.trans hname')
      have htext := (((hw "").append_right ".").append (hw name)).append_left "DROP INDEX "
      exact (htext.eq_iff.mp (List.singleton_inj.mp (hsql'.symm.trans hsql))).1 rfl
  | _ => exact id

end Statements

/-! ### Units -/

/-- **Empty identifiers.** Take an operation of a unit that validation accepts, and the statements
that a session of the unit emits for it. They do not depend on how the empty identifier is quoted
exactly if the operation names something everywhere: no column that it writes mentions an empty
identifier, and it does not drop an index in PostgreSQL from a table whose name starts with its last
dot. -/
theorem emits_quoting_iff {u : MigrationUnit} {d : Dialect} (hu : u.validate = .ok ())
    {op : Operation} (hop : op ∈ u.operations) {s : Session} (hs : s.target = u.target d)
    {block : List Statement} (h : s.Emits op block) :
    (∀ w : String → String, (∀ i, i ≠ "" → w i = d.wrap i) → (s.quoting w).Emits op block) ↔
      ¬ op.NamesNothing d u.table := by
  obtain ⟨htable, hvalid⟩ := MigrationUnit.validate_eq_ok_iff.mp hu
  have hstock : s.target = .stock d u.table u.comment := hs
  obtain ⟨hblock, hadmits⟩ := Session.emits_iff.mp h
  rw [hstock] at hblock hadmits
  have hquoting : ∀ w, (s.quoting w).target = (Target.stock d u.table u.comment).quoting w :=
    fun w => congrArg (·.quoting w) hstock
  constructor
  · intro hall
    let w : String → String := fun i => if i = "" then d.wrap "" ++ " " else d.wrap i
    have hw : ∀ i, i ≠ "" → w i = d.wrap i := fun i hi => if_neg hi
    have hstays : ∀ i, StaysIf (d.wrap i) (w i) (i ≠ "") := by
      intro i
      refine ⟨hw i, fun hi => ?_⟩
      obtain rfl := not_not.mp hi
      have hlonger : w "" = d.wrap "" ++ " " := if_pos rfl
      rw [hlonger, String.length_append]
      exact Nat.lt_succ_self _
    obtain ⟨hblock', -⟩ := Session.emits_iff.mp (hall w hw)
    rw [hquoting] at hblock'
    exact not_namesNothing_of_block hstays hblock hblock'
  · intro hnames w hw
    have hagree := Target.agree_quoting htable u.comment hw
    rw [Session.emits_iff, hquoting, hagree.block (hvalid op hop) hnames, hagree.generated?]
    exact ⟨hblock, hadmits⟩

/-- A table of one column without a default is created whatever the column mentions. -/
theorem emits_createTable_singleton {s : Session} {d : Dialect} {table : String}
    (hs : s.target = .stock d table none) {c : Column} (hname : c.name ≠ "")
    (hdefault : c.defaultValue = none) {sql : String}
    (hsql : sql = "CREATE TABLE " ++ d.wrap table ++ " (" ++ d.fragment c ++ ")")
    (hmarks : Placeholder.count sql = 0) : s.Emits (.createTable [c] false) [{ sql }] := by
  have hvalid : (Operation.createTable [c] false).validate = .ok () := by
    refine Operation.validate_eq_ok_iff.mpr ?_
    rintro (hlists | hnames | huneven)
    · cases List.mem_singleton.mp hlists
    · exact hname (List.mem_singleton.mp hnames).symm
    · exact huneven
  have hbindings : [c].flatMap Column.bindings = [] := by
    rw [List.flatMap_singleton, Column.bindings, hdefault]
    rfl
  have hbound : ∀ x ∈ [c], x.Bound :=
    List.forall_mem_singleton.mpr fun _ _ he => by rw [hdefault] at he; cases he
  rw [Session.emits_iff, hs, block_createTable_iff, hbindings]
  refine ⟨⟨hvalid, hbound, List.forall_mem_singleton.mpr hmarks, rfl, ?_⟩, fun _ hg => by cases hg⟩
  rw [hsql]
  rfl

/-- A column that refers to another table names it. -/
theorem emits_quoting_iff_of_reference :
    let r : Reference := { table := "users", column := "id" }
    let c : Column := { name := "owner", dataType := .integer, references := some r }
    let u : MigrationUnit := { table := "t", operations := [.createTable [c] false] }
    let s : Session := { target := u.target .postgresql }
    ∃ block, s.Emits (.createTable [c] false) block ∧
      ∀ w : String → String, (∀ i, i ≠ "" → w i = Dialect.postgresql.wrap i) →
        (s.quoting w).Emits (.createTable [c] false) block := by
  intro r c u s
  have hvalid : u.validate = .ok () := by decide +kernel
  have hemits : s.Emits (.createTable [c] false) _ :=
    emits_createTable_singleton rfl (by decide) rfl rfl (by decide +kernel)
  refine ⟨_, hemits, (emits_quoting_iff hvalid (List.mem_singleton_self _) rfl hemits).mpr ?_⟩
  rintro ⟨x, hx, hmentioned⟩
  obtain rfl := List.mem_singleton.mp hx
  exact absurd hmentioned (by decide)

/-- **A column can refer to a table without a name.** Validation refuses a foreign key to such a
table, but it does not look at what a column refers to. -/
theorem emits_quoting_iff_fails :
    let r : Reference := { table := "", column := "" }
    let c : Column := { name := "a", dataType := .integer, references := some r }
    let key : ForeignKey :=
      { columns := ["a"], referencedTable := r.table, referencedColumns := [r.column] }
    let u : MigrationUnit := { table := "t", operations := [.createTable [c] false] }
    let s : Session := { target := u.target .generic }
    (Operation.addForeignKey key).validate ≠ .ok () ∧ u.validate = .ok () ∧
      s.Emits (.createTable [c] false)
        [{ sql := "CREATE TABLE \"t\" (\"a\" INTEGER REFERENCES \"\" (\"\"))" }] ∧
      Dialect.generic.wrap "" = "\"\"" ∧
      (Operation.createTable [c] false).NamesNothing .generic "t" := by
  intro r c key u s
  refine ⟨by decide +kernel, by decide +kernel, ?_, by decide +kernel, ?_⟩
  · exact emits_createTable_singleton rfl (by decide) rfl (by decide +kernel) (by decide +kernel)
  · exact ⟨c, List.mem_singleton_self c, by decide⟩

end SchemaDdl
