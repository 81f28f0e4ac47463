import SchemaDdl.Proofs.Binding
import SchemaDdl.Proofs.Blocks
import SchemaDdl.Proofs.NameLength
import SchemaDdl.Proofs.Templates

/-!
# When an Operation Is Refused

An operation that carries no verbatim SQL can be refused for two reasons only. It may be malformed,
which shows in the operation alone, or the dialect may lack what it asks for. Nothing else fails:
the stock formatter writes every column, a name can be generated for all columns, a fresh session
owns no names, and no statement has a placeholder, whatever characters the identifiers and texts
hold.

* `Operation.Malformed` — a list of columns or a name is missing, or a foreign key is uneven.
* `Operation.Unsupported` — the dialect lacks the operation, or something that it asks for.

## Main results

* `validate_eq_ok_iff`, `reportsInvalid_validate` — validation refuses exactly the malformed
  operations, and always as invalid.
* `failure?_plan` — a plan is ended by the missing feature and by nothing else.
* `block_of_missing?`, `exists_block` — what that makes of a well-formed operation.
* `compileAlone_error_iff` — the errors of an operation in a fresh session.
-/

namespace SchemaDdl

/-! ### Malformed operations -/

namespace Operation

/-- The lists of columns that an operation has to fill. A key that is dropped by its explicit name
may have no columns. -/
def requiredLists : Operation → List (List String)
  | createTable columns _ | addColumns columns => [columns.map Column.name]
  | dropColumns columns => [columns]
  | addPrimaryKey key | addIndex key | addUnique key => [key.columns]
  | dropIndex key | dropUnique key | dropForeignKey key =>
    if key.name = none then [key.columns] else []
  | addForeignKey key => [key.columns, key.referencedColumns]
  | renameColumn .. | changeColumnType _ | dropPrimaryKey _ | setComment _ => []

/-- The names in an operation, none of which may be empty. References of single columns are not
among them. -/
def requiredNames : Operation → List String
  | createTable columns _ | addColumns columns => columns.map Column.name
  | dropColumns columns => columns
  | renameColumn source target => [source, target]
  | changeColumnType column => [column.name]
  | addPrimaryKey key | addIndex key | addUnique key | dropIndex key | dropUnique key
  | dropForeignKey key => key.columns ++ key.name.toList
  | dropPrimaryKey name => name.toList
  | addForeignKey key =>
    key.columns ++ key.referencedTable :: key.referencedColumns ++ key.name.toList
  | setComment _ => []

/-- A foreign key is **uneven** if it has more columns on one side than on the other. -/
def Uneven : Operation → Prop
  | addForeignKey key => key.columns.length ≠ key.referencedColumns.length
  | _ => False

/-- An operation is **malformed** if a list of columns that it has to fill is empty, one of its
names is empty, or its foreign key is uneven. -/
def Malformed (op : Operation) : Prop :=
  [] ∈ op.requiredLists ∨ "" ∈ op.requiredNames ∨ op.Uneven

end Operation

/-- Two checks pass exactly if both do. -/
theorem bind_eq_ok_iff {a b : Except Error Unit} :
    (a >>= fun _ => b) = .ok () ↔ a = .ok () ∧ b = .ok () := by
  cases a with
  | error e => exact iff_of_false nofun fun h => nomatch h.1
  | ok _ => exact (and_iff_right rfl).symm

/-- A name passes unless it is empty. -/
theorem requireName_eq_ok_iff {kind : OperationKind} {part : NamePart} {name : String} :
    requireName kind part name = .ok () ↔ name ≠ "" := by
  rw [requireName]
  split
  · next h => exact iff_of_false nofun fun hne => hne (String.isEmpty_iff.mp h)
  · next h => exact iff_of_true rfl fun he => h (String.isEmpty_iff.mpr he)

/-- An explicit name passes unless it is empty. -/
theorem requireConstraintName_eq_ok_iff {kind : OperationKind} {name : Option String} :
    requireConstraintName kind name = .ok () ↔ "" ∉ name.toList := by
  cases name with
  | none => exact iff_of_true rfl List.not_mem_nil
  | some name =>
      rw [requireConstraintName, requireName_eq_ok_iff, Option.toList_some, List.mem_singleton,
        ne_comm]

/-- A list of columns passes unless a name in it is empty. -/
theorem requireFilled_eq_ok_iff {kind : OperationKind} {columns : List String} :
    requireFilled kind columns = .ok () ↔ "" ∉ columns := by
  have hany : columns.any String.isEmpty = true ↔ "" ∈ columns := by
    simp [List.any_eq_true, String.isEmpty_iff]
  rw [requireFilled, ← hany]
  split
  · next h => exact iff_of_false nofun (not_not_intro h)
  · next h => exact iff_of_true rfl h

/-- A list of columns that has to be filled passes unless it, or a name in it, is empty. -/
theorem requireColumns_eq_ok_iff {kind : OperationKind} {columns : List String} :
    requireColumns kind columns = .ok () ↔ columns ≠ [] ∧ "" ∉ columns := by
  rw [requireColumns]
  split
  · next h => exact iff_of_false nofun fun hne => hne.1 (List.isEmpty_iff.mp h)
  · next h =>
      rw [requireFilled_eq_ok_iff, and_iff_right]
      exact fun he => h (List.isEmpty_iff.mpr he)

/-- A new key passes if it has columns and no empty name. -/
theorem KeySpec.validateNew_eq_ok_iff {kind : OperationKind} {key : KeySpec} :
    key.validateNew kind = .ok () ↔ key.columns ≠ [] ∧ "" ∉ key.columns ++ key.name.toList := by
  rw [validateNew, bind_eq_ok_iff, requireColumns_eq_ok_iff, requireConstraintName_eq_ok_iff,
    List.mem_append, not_or, and_assoc]

/-- A key that is dropped passes if it has columns or an explicit name, and no empty name. -/
theorem KeySpec.validateDropped_eq_ok_iff {kind : OperationKind} {key : KeySpec} :
    key.validateDropped kind = .ok () ↔
      (key.name = none → key.columns ≠ []) ∧ "" ∉ key.columns ++ key.name.toList := by
  obtain ⟨columns, name⟩ := key
  rw [List.mem_append, not_or]
  cases name with
  | none =>
      have hdropped : validateDropped kind ⟨columns, none⟩ =
          (requireColumns kind columns >>= fun _ => .ok ()) := rfl
      rw [hdropped, bind_eq_ok_iff, requireColumns_eq_ok_iff]
      simp
  | some name =>
      have hdropped : validateDropped kind ⟨columns, some name⟩ =
          (requireFilled kind columns >>= fun _ => requireConstraintName kind (some name)) := rfl
      rw [hdropped, bind_eq_ok_iff, requireFilled_eq_ok_iff, requireConstraintName_eq_ok_iff]
      simp

/-- A foreign key passes if it has as many columns on both sides, at least one, and no empty
name. -/
theorem ForeignKey.validate_eq_ok_iff {kind : OperationKind} {key : ForeignKey} :
    key.validate kind = .ok () ↔
      key.columns ≠ [] ∧ key.referencedColumns ≠ [] ∧
        "" ∉ key.columns ++ key.referencedTable :: key.referencedColumns ++ key.name.toList ∧
        key.columns.length = key.referencedColumns.length := by
  have hvalidate : key.validate kind =
      (requireColumns kind key.columns >>= fun _ =>
        requireName kind .referencedTable key.referencedTable >>= fun _ =>
        requireColumns kind key.referencedColumns >>= fun _ =>
        (if key.columns.length ≠ key.referencedColumns.length then
          .error (.invalid (.unevenForeignKey key.columns.length key.referencedColumns.length))
        else .ok ()) >>= fun _ => requireConstraintName kind key.name) := by
    rw [validate]
    split <;> rfl
  have heven : (if key.columns.length ≠ key.referencedColumns.length then
      (.error (.invalid (.unevenForeignKey key.columns.length key.referencedColumns.length)) :
        Except Error Unit)
      else .ok ()) = .ok () ↔ key.columns.length = key.referencedColumns.length := by
    split
    · next h => exact iff_of_false nofun h
    · next h => exact iff_of_true rfl (not_not.mp h)
  rw [hvalidate, bind_eq_ok_iff, bind_eq_ok_iff, bind_eq_ok_iff, bind_eq_ok_iff, heven,
    requireColumns_eq_ok_iff, requireName_eq_ok_iff, requireColumns_eq_ok_iff,
    requireConstraintName_eq_ok_iff]
  simp only [List.mem_append, List.mem_cons, not_or, ne_comm (a := key.referencedTable)]
  tauto

namespace Operation

/-- **Validation refuses exactly the malformed operations.** -/
theorem validate_eq_ok_iff {op : Operation} : op.validate = .ok () ↔ ¬ op.Malformed := by
  have hnames : ∀ {lists : List (List String)} {names : List String},
      ¬ ([] ∈ lists ∨ "" ∈ names ∨ False) ↔ [] ∉ lists ∧ "" ∉ names := by
    intro lists names
    rw [or_false, not_or]
  have hnil : ∀ columns : List String, [] ∉ [columns] ↔ columns ≠ [] := by
    intro columns
    rw [List.mem_singleton, ne_comm]
  rw [Malformed]
  cases op with
  | createTable cs ifNotExists =>
      exact requireColumns_eq_ok_iff.trans (hnames.trans (and_congr_left' (hnil _))).symm
  | addColumns cs =>
      exact requireColumns_eq_ok_iff.trans (hnames.trans (and_congr_left' (hnil _))).symm
  | dropColumns columns =>
      exact requireColumns_eq_ok_iff.trans (hnames.trans (and_congr_left' (hnil _))).symm
  | renameColumn source target =>
      refine bind_eq_ok_iff.trans ?_
      rw [requireName_eq_ok_iff, requireName_eq_ok_iff]
      simp [requiredLists, requiredNames, Uneven, eq_comm]
  | changeColumnType c =>
      refine requireName_eq_ok_iff.trans (ne_comm.trans ?_)
      simp [requiredLists, requiredNames, Uneven]
  | addPrimaryKey key | addIndex key | addUnique key =>
      exact KeySpec.validateNew_eq_ok_iff.trans (hnames.trans (and_congr_left' (hnil _))).symm
  | dropIndex key | dropUnique key | dropForeignKey key =>
      refine KeySpec.validateDropped_eq_ok_iff.trans (hnames.trans (and_congr_left' ?_)).symm
      by_cases hname : key.name = none
      · simp [requiredLists, hname, eq_comm]
      · simp [requiredLists, hname]
  | addForeignKey key =>
      refine ForeignKey.validate_eq_ok_iff.trans ?_
      simp only [requiredLists, requiredNames, Uneven, List.mem_cons, List.not_mem_nil, or_false,
        not_or, not_not, ne_eq, eq_comm (a := ([] : List String)), and_assoc]
  | dropPrimaryKey name =>
      refine requireConstraintName_eq_ok_iff.trans ?_
      simp [requiredLists, requiredNames, Uneven]
  | setComment comment =>
      refine iff_of_true rfl ?_
      simp [requiredLists, requiredNames, Uneven]

end Operation

/-- A check **reports invalid operations** and nothing else. -/
def ReportsInvalid (check : Except Error Unit) : Prop :=
  ∀ e, check = .error e → ∃ reason, e = .invalid reason

/-- A check that passes reports nothing. -/
theorem reportsInvalid_ok : ReportsInvalid (.ok ()) :=
  fun _ h => nomatch h

/-- A check that fails with a reason reports it. -/
theorem reportsInvalid_error (reason : Invalid) : ReportsInvalid (.error (.invalid reason)) := by
  rintro e ⟨⟩
  exact ⟨reason, rfl⟩

/-- Two checks report what the first or the second reports. -/
theorem ReportsInvalid.bind {a b : Except Error Unit} (ha : ReportsInvalid a)
    (hb : ReportsInvalid b) : ReportsInvalid (a >>= fun _ => b) := by
  cases a with
  | error e => exact ha
  | ok _ => exact hb

/-- The check of a name. -/
theorem reportsInvalid_requireName (kind : OperationKind) (part : NamePart) (name : String) :
    ReportsInvalid (requireName kind part name) := by
  rw [requireName]
  split
  · exact reportsInvalid_error _
  · exact reportsInvalid_ok

/-- The check of an explicit name. -/
theorem reportsInvalid_requireConstraintName (kind : OperationKind) (name : Option String) :
    ReportsInvalid (requireConstraintName kind name) := by
  cases name with
  | none => exact reportsInvalid_ok
  | some name => exact reportsInvalid_requireName kind .constraint name

/-- The check of a list of columns. -/
theorem reportsInvalid_requireFilled (kind : OperationKind) (columns : List String) :
    ReportsInvalid (requireFilled kind columns) := by
  rw [requireFilled]
  split
  · exact reportsInvalid_error _
  · exact reportsInvalid_ok

/-- The check of a list of columns that has to be filled. -/
theorem reportsInvalid_requireColumns (kind : OperationKind) (columns : List String) :
    ReportsInvalid (requireColumns kind columns) := by
  rw [requireColumns]
  split
  · exact reportsInvalid_error _
  · exact reportsInvalid_requireFilled kind columns

/-- **Validation reports invalid operations** and nothing else. -/
theorem Operation.reportsInvalid_validate (op : Operation) : ReportsInvalid op.validate := by
  have hnew : ∀ (kind : OperationKind) (key : KeySpec), ReportsInvalid (key.validateNew kind) :=
    fun kind key => (reportsInvalid_requireColumns kind key.columns).bind
      (reportsInvalid_requireConstraintName kind key.name)
  have hdropped : ∀ (kind : OperationKind) (key : KeySpec),
      ReportsInvalid (key.validateDropped kind) := by
    intro kind key
    rw [KeySpec.validateDropped]
    split
    · exact hnew kind key
    · exact (reportsInvalid_requireFilled kind key.columns).bind
        (reportsInvalid_requireConstraintName kind key.name)
  cases op with
  | createTable cs ifNotExists => exact reportsInvalid_requireColumns _ _
  | addColumns cs => exact reportsInvalid_requireColumns _ _
  | dropColumns columns => exact reportsInvalid_requireColumns _ _
  | renameColumn source target =>
      exact (reportsInvalid_requireName _ _ _).bind (reportsInvalid_requireName _ _ _)
  | changeColumnType c => exact reportsInvalid_requireName _ _ _
  | addPrimaryKey key | addIndex key | addUnique key => exact hnew _ key
  | dropIndex key | dropUnique key | dropForeignKey key => exact hdropped _ key
  | addForeignKey key =>
      refine (reportsInvalid_requireColumns _ _).bind ((reportsInvalid_requireName _ _ _).bind
        ((reportsInvalid_requireColumns _ _).bind ?_))
      dsimp only
      split
      · exact reportsInvalid_error _
      · exact reportsInvalid_requireConstraintName _ _
  | dropPrimaryKey name => exact reportsInvalid_requireConstraintName _ _
  | setComment comment => exact reportsInvalid_ok

/-! ### Missing features -/

namespace Operation

/-- An operation is **unsupported** in a dialect, on a table with a comment or without one. SQLite
has no table comments and changes neither types nor keys once the table is there. Oracle changes no
types this way, and its foreign keys take no action on update and two on deletion. -/
def Unsupported (d : Dialect) (commented : Bool) (op : Operation) : Prop :=
  match d with
  | .sqlite =>
    op.kind ∈ [.setComment, .changeColumnType, .addPrimaryKey, .dropPrimaryKey, .addForeignKey,
      .dropForeignKey] ∨ op.kind = .createTable ∧ commented = true
  | .oracle =>
    op.kind = .changeColumnType ∨ ∃ key, op = .addForeignKey key ∧
      (key.onUpdate ≠ none ∨ key.onDelete ∉ [none, some .cascade, some .setNull])
  | .generic | .postgresql | .mysql => False

/-- What Oracle lacks for a foreign key. -/
theorem isSome_missingInOracle?_iff {key : ForeignKey} :
    (Target.missingInOracle? key).isSome ↔
      key.onUpdate ≠ none ∨ key.onDelete ∉ [none, some .cascade, some .setNull] := by
  obtain ⟨columns, name, table, referenced, onDelete, onUpdate⟩ := key
  rw [Target.missingInOracle?]
  cases onUpdate with
  | some action => simp
  | none =>
      cases onDelete with
      | none => simp
      | some action => cases action <;> simp

/-- An operation is unsupported exactly if a feature is missing. -/
theorem isSome_missing?_iff {d : Dialect} {commented : Bool} {op : Operation} :
    (op.missing? d commented).isSome ↔ op.Unsupported d commented := by
  cases d with
  | generic | postgresql | mysql => exact iff_of_false (by cases op <;> exact Bool.false_ne_true) id
  | sqlite =>
      cases op with
      | createTable cs ifNotExists => cases commented <;> simp [missing?, Unsupported, kind]
      | _ => simp [missing?, Unsupported, kind]
  | oracle =>
      cases op with
      | addForeignKey key => simp [missing?, Unsupported, kind, isSome_missingInOracle?_iff]
      | _ => simp [missing?, Unsupported, kind]

end Operation

/-! ### Statements without placeholders -/

section Stock

variable {d : Dialect} {table : String} {comment : Option String}

/-- A column without verbatim SQL has no values. -/
theorem Column.NoVerbatim.bindings_eq {c : Column} (h : c.NoVerbatim d) : c.bindings = [] := by
  rw [Column.bindings]
  cases hv : c.defaultValue with
  | none => rfl
  | some v =>
      cases v with
      | raw sql bindings => exact absurd hv (h.not_raw sql bindings)
      | _ => rfl

/-- A column without verbatim SQL is closed and has no loose placeholders. -/
theorem Column.NoVerbatim.closed {c : Column} (h : c.NoVerbatim d) :
    c.Closed d ∧ c.looseMarks d = 0 := by
  refine ⟨⟨?_, fun sql bindings hraw => absurd hraw (h.not_raw sql bindings)⟩, ?_⟩
  · rw [h.verbatim_eq]
    exact List.forall_mem_nil _
  · rw [Column.looseMarks, h.verbatim_eq]
    rfl

namespace Operation

/-- **A plan is ended by the missing feature** and by nothing else. -/
theorem failure?_plan {op : Operation} (hop : op.NoVerbatim d) :
    (op.plan (.stock d table comment)).failure? =
      (op.missing? d comment.isSome).map (.unsupported d) := by
  have hplan := op.planned (.stock d table comment)
  generalize op.plan (.stock d table comment) = p at hplan ⊢
  cases hplan with
  | lacking missing => exact (congrArg (Option.map _) missing).symm
  | named missing => exact (congrArg (Option.map _) missing).symm
  | texts missing => exact (congrArg (Option.map _) missing).symm
  | creating cs ifNotExists =>
      have hbound : ∀ c ∈ cs, c.Bound := fun c hc => (hop c hc).bound
      rw [Plan.failure?, Target.createTable_of_bound hbound]
      cases comment <;> cases d <;> rfl
  | adding cs =>
      have hbound : ∀ c ∈ cs, c.Bound := fun c hc => (hop c hc).bound
      rw [Plan.failure?, Target.addColumns_of_bound hbound]
      cases d <;> rfl
  | restating c hd =>
      obtain rfl : d = .mysql := hd
      rw [Plan.failure?, Target.changeColumnType_of_bound (hop c List.mem_cons_self).bound]
      rfl

/-- The statements of a plan without verbatim SQL have no values. -/
theorem bindings_plan {op : Operation} (hop : op.NoVerbatim d) {em : Emission}
    (h : op.plan (.stock d table comment) = .emit em) : ∀ st ∈ em.statements, st.bindings = [] := by
  have hflat : ∀ {cs : List Column}, (∀ c ∈ cs, c.NoVerbatim d) →
      cs.flatMap Column.bindings = [] :=
    fun hcs => List.flatMap_eq_nil_iff.mpr fun c hc => (hcs c hc).bindings_eq
  have hplan := op.planned (.stock d table comment)
  rw [h] at hplan
  cases hplan with
  | lacking => exact List.forall_mem_nil _
  | texts _ _ _ _ bare => exact fun st hst => (bare st hst).1
  | creating cs ifNotExists =>
      have hbound : ∀ c ∈ cs, c.Bound := fun c hc => (hop c hc).bound
      rw [Target.createTable_of_bound hbound]
      exact List.forall_mem_cons.mpr
        ⟨hflat hop, fun st hst => (Target.fillsTo_tableComment st hst).2⟩
  | adding cs =>
      have hbound : ∀ c ∈ cs, c.Bound := fun c hc => (hop c hc).bound
      rw [Target.addColumns_of_bound hbound]
      cases d with
      | sqlite => exact List.forall_mem_map.mpr fun c hc => (hop c hc).bindings_eq
      | generic | postgresql | mysql | oracle => exact List.forall_mem_singleton.mpr (hflat hop)
  | restating c hd =>
      obtain rfl : d = .mysql := hd
      have hc := hop c List.mem_cons_self
      rw [Target.changeColumnType_of_bound hc.bound]
      exact List.forall_mem_singleton.mpr hc.bindings_eq

/-- A text of a plan that no error ends is inert. -/
theorem inert_of_mem_texts {op : Operation} (hop : op.NoVerbatim d)
    (h : (op.plan (.stock d table comment)).failure? = none) {name sql : String}
    (hsql : sql ∈ (op.plan (.stock d table comment)).texts (.stock d table comment) name) :
    Inert sql := by
  rw [texts_plan hop h] at hsql
  obtain ⟨ps, hps, rfl⟩ := List.mem_map.mp hsql
  exact inert_render (legible_parts hop ps hps)

/-- **All statements of a plan are accepted**, also those before a missing feature. -/
theorem checkAll_plan {op : Operation} (hop : op.NoVerbatim d) {em : Emission}
    (h : op.plan (.stock d table comment) = .emit em) : checkAll em.statements = .ok () := by
  rw [checkAll_eq_ok_iff]
  have hfailure : (op.plan (.stock d table comment)).failure? = _ := failure?_plan hop
  cases hmissing : op.missing? d comment.isSome with
  | none =>
      intro st hst
      rw [hmissing, Option.map_none] at hfailure
      have hsql : st.sql ∈
          (op.plan (.stock d table comment)).texts (.stock d table comment) "" := by
        rw [h]
        exact List.mem_map_of_mem hst
      rw [(inert_of_mem_texts hop hfailure hsql).count_eq, bindings_plan hop h st hst]
      rfl
  | some feature =>
      have hplan := op.planned (.stock d table comment)
      rw [h] at hplan
      cases hplan with
      | lacking => exact List.forall_mem_nil _
      | texts missing =>
          have hnone : op.missing? d comment.isSome = none := missing
          rw [hnone] at hmissing
          cases hmissing
      | creating cs ifNotExists =>
          -- Only the comment of a new table is missed after a statement, which is accepted alone.
          have hclosed : ∀ c ∈ cs, c.Closed d := fun c hc => (hop c hc).closed.1
          have hloose : ∀ c ∈ cs, c.looseMarks d = 0 := fun c hc => (hop c hc).closed.2
          have hbound : ∀ c ∈ cs, c.Bound := fun c hc => (hop c hc).bound
          rw [Target.createTable_of_bound hbound]
          exact List.forall_mem_cons.mpr
            ⟨(Target.createStatement_accepted_iff hclosed hbound ifNotExists).mpr hloose,
              fun st hst => (Target.fillsTo_tableComment st hst).1.count_eq⟩
      | adding cs => cases d <;> cases hmissing
      | restating c hd =>
          obtain rfl : d = .mysql := hd
          cases hmissing

/-- A well-formed operation for which a feature is missing fails for that reason. -/
theorem block_of_missing? {op : Operation} (hop : op.NoVerbatim d) (hvalid : op.validate = .ok ())
    {feature : Feature} (h : op.missing? d comment.isSome = some feature) :
    op.block (.stock d table comment) = .error (.unsupported d feature) := by
  have hfailure : (op.plan (.stock d table comment)).failure? = _ := failure?_plan hop
  rw [h, Option.map_some] at hfailure
  rw [block, hvalid]
  dsimp only
  cases hplan : op.plan (.stock d table comment) with
  | named r sql => rw [hplan] at hfailure; cases hfailure
  | emit em =>
      have hem : em.failure = some (.unsupported d feature) := by
        rw [hplan] at hfailure
        exact hfailure
      rw [Plan.block, Emission.outcome, checkAll_plan hop hplan, hem]

/-- A well-formed operation for which no feature is missing has a block. -/
theorem exists_block {op : Operation} (hop : op.NoVerbatim d) (hvalid : op.validate = .ok ())
    (h : op.missing? d comment.isSome = none) :
    ∃ block, op.block (.stock d table comment) = .ok block := by
  have hfailure : (op.plan (.stock d table comment)).failure? = _ := failure?_plan hop
  rw [h, Option.map_none] at hfailure
  rw [block, hvalid]
  dsimp only
  cases hplan : op.plan (.stock d table comment) with
  | emit em =>
      have hem : em.failure = none := by rw [hplan] at hfailure; exact hfailure
      rw [Plan.block, Emission.outcome, checkAll_plan hop hplan, hem]
      exact ⟨_, rfl⟩
  | named r sql =>
      obtain ⟨name, hname⟩ := r.exists_resolve d table
      have hresolve : r.resolveOn (.stock d table comment) = .ok name := hname
      have hsql : sql (d.formatter.wrap name) ∈
          (op.plan (.stock d table comment)).texts (.stock d table comment) name := by
        rw [hplan]
        exact List.mem_singleton.mpr rfl
      have haccepted := (inert_of_mem_texts hop hfailure hsql).count_eq
      rw [Plan.block, hresolve]
      refine ⟨_, Emission.outcome_eq_ok_iff.mpr ⟨?_, rfl, rfl⟩⟩
      exact List.forall_mem_singleton.mpr haccepted

/-- **The errors of an operation.** Let an operation carry no verbatim SQL, and compile it in a
fresh session with the stock formatter of a dialect, on a table with a name. It is refused as
invalid exactly if it is malformed, which is when validation refuses it, and with the error of
validation. Otherwise it is refused as unsupported exactly if the dialect does not support it, and
it compiles in all other cases. -/
theorem compileAlone_error_iff (htable : table ≠ "") {op : Operation} (hop : op.NoVerbatim d) :
    let result := op.compileAlone (.stock d table comment)
    ((∃ reason, result = .error (.invalid reason)) ↔ op.Malformed) ∧
      ((∃ e, op.validate = .error e) ↔ op.Malformed) ∧
      (∀ e, op.validate = .error e → result = .error e) ∧
      ((∃ d' feature, result = .error (.unsupported d' feature)) ↔
        ¬ op.Malformed ∧ op.Unsupported d comment.isSome) ∧
      ((∃ block, result = .ok block) ↔ ¬ op.Malformed ∧ ¬ op.Unsupported d comment.isSome) := by
  intro result
  have hresult : result = op.block (.stock d table comment) := compileAlone_eq_block htable op
  rw [hresult, ← isSome_missing?_iff]
  cases hvalid : op.validate with
  | error e =>
      have hmalformed : op.Malformed := by
        by_contra hnot
        rw [validate_eq_ok_iff.mpr hnot] at hvalid
        cases hvalid
      obtain ⟨reason, rfl⟩ := op.reportsInvalid_validate e hvalid
      rw [block, hvalid]
      simp [hmalformed]
  | ok _ =>
      have hwell : ¬ op.Malformed := validate_eq_ok_iff.mp hvalid
      cases hmissing : op.missing? d comment.isSome with
      | some feature =>
          rw [block_of_missing? hop hvalid hmissing]
          simp [hwell]
      | none =>
          obtain ⟨block, hblock⟩ : ∃ block, op.block (.stock d table comment) = .ok block :=
            exists_block hop hvalid hmissing
          rw [hblock]
          simp [hwell]

/-- A table whose name, column and default are full of quotes and question marks can be created in
SQLite, but its comment cannot be set. -/
theorem compileAlone_error_iff_of_marks :
    let c : Column :=
      { name := "is it? '`", dataType := .text, defaultValue := some (.string "'?'; --") }
    let op : Operation := .createTable [c] true
    "really?\"" ≠ "" ∧ op.NoVerbatim .sqlite ∧
      (∃ block, op.compileAlone (.stock .sqlite "really?\"" none) = .ok block) ∧
      ∃ d feature,
        op.compileAlone (.stock .sqlite "really?\"" (some "?")) =
          .error (.unsupported d feature) := by
  intro c op
  have htable : "really?\"" ≠ "" := by decide
  have hop : op.NoVerbatim .sqlite := by
    intro x hx
    obtain rfl := List.mem_singleton.mp hx
    exact ⟨rfl, nofun⟩
  have hwell : ¬ op.Malformed := validate_eq_ok_iff.mp rfl
  have hplain : ¬ op.Unsupported .sqlite false := by
    rw [← isSome_missing?_iff]
    exact Bool.false_ne_true
  obtain ⟨-, -, -, -, hok⟩ := @compileAlone_error_iff _ _ none htable _ hop
  obtain ⟨-, -, -, hunsupported, -⟩ := @compileAlone_error_iff _ _ (some "?") htable _ hop
  exact ⟨htable, hop, hok.mpr ⟨hwell, hplain⟩,
    hunsupported.mpr ⟨hwell, isSome_missing?_iff.mp rfl⟩⟩

end Operation

end Stock

end SchemaDdl
