import SchemaDdl.Proofs.NameTable
import SchemaDdl.Proofs.Refusal

/-!
# Generated Names Fit

Every dialect has room for a hash, so a name can be generated for all columns of all tables, and a
session never has to report that there is none. What a session does report has one of three causes:
the operation is refused whatever the dialect, the dialect lacks a feature, or the formatter could
not write a column and its error is passed on.

* `Operation.FailsWith` — these causes of an error.
* `Session.resolveName_error`, `Session.compile_error` — every error of a request or an operation
  has its cause.
* `GeneratedName.Fits` — a name is within the limit, and a hash exactly if the readable one is not.

## Main results

* `names_fit_run` — both in every state that a run of calls leads to, and the law of generation for
  an arbitrary limit.
-/

namespace SchemaDdl

/-! ### Causes of errors -/

/-- A stock formatter reports nothing but raw defaults that lack values. -/
theorem Dialect.columnDef_error {d : Dialect} {c : Column} {e : Error}
    (h : d.formatter.columnDef c = .error e) : ∃ reason, e = .invalid reason := by
  have hcolumn : d.columnDef c = .error e := h
  rw [columnDef] at hcolumn
  cases hclause : d.defaultClause c.defaultValue with
  | ok text => rw [hclause] at hcolumn; cases hcolumn
  | error e' =>
      rw [hclause] at hcolumn
      obtain rfl := Except.error.inj hcolumn
      cases hvalue : c.defaultValue with
      | none => rw [hvalue] at hclause; cases hclause
      | some value =>
          rw [hvalue, defaultClause] at hclause
          cases value with
          | raw sql bindings =>
              rw [defaultText] at hclause
              split at hclause
              · next e'' htext =>
                  split at htext
                  · exact ⟨_, (Except.error.inj hclause).symm.trans (Except.error.inj htext).symm⟩
                  · cases htext
              · cases hclause
          | _ => cases hclause

/-- The **causes** for which an operation fails with an error on a target. -/
inductive Operation.FailsWith (t : Target) (op : Operation) : Error → Prop where
  /-- The operation is refused whatever the dialect. -/
  | refused (reason : Invalid) : FailsWith t op (.invalid reason)
  /-- The dialect lacks a feature. -/
  | lacking (feature : Feature) : FailsWith t op (.unsupported t.dialect feature)
  /-- The formatter cannot write one of the columns. -/
  | unwritten {c : Column} {e : Error} (hc : c ∈ op.columns)
      (he : t.formatter.columnDef c = .error e) : FailsWith t op e
  /-- The formatter cannot write the columns together. -/
  | unwrittenTogether {e : Error} (he : t.formatter.columnDefs op.columns = .error e) :
      FailsWith t op e

/-- Only a dialect without comments refuses one. -/
theorem Target.failure_setComment {t : Target} {text : Option String} {e : Error}
    (h : (t.setComment text).failure = some e) : ∃ feature, e = .unsupported t.dialect feature := by
  obtain ⟨d, f, table, comment⟩ := t
  cases d with
  | sqlite => exact ⟨.comment, (Option.some.inj h).symm⟩
  | generic | postgresql | mysql | oracle => cases h

/-- A table is not created because its columns cannot be written, or its comment cannot be set. -/
theorem Target.failsWith_createTable {t : Target} {columns : List Column} {ifNotExists : Bool}
    {e : Error} (h : (t.createTable columns ifNotExists).failure = some e) :
    (Operation.createTable columns ifNotExists).FailsWith t e := by
  rw [createTable] at h
  cases hdefs : t.formatter.columnDefs columns with
  | error e' =>
      rw [hdefs] at h
      obtain rfl := Option.some.inj h
      exact .unwrittenTogether hdefs
  | ok defs =>
      rw [hdefs] at h
      have hcomment : t.tableComment.failure = some e := h
      rw [tableComment] at hcomment
      split at hcomment
      · cases hcomment
      · obtain ⟨feature, rfl⟩ := failure_setComment hcomment
        exact .lacking feature

/-- Columns are not added because they cannot be written, in SQLite one of them by itself. -/
theorem Target.failsWith_addColumns {t : Target} {columns : List Column} {e : Error}
    (h : (t.addColumns columns).failure = some e) :
    (Operation.addColumns columns).FailsWith t e := by
  by_cases hd : t.dialect = .sqlite
  · rw [addColumns_of_sqlite hd] at h
    cases hsts : t.addEach columns with
    | error e' =>
        rw [hsts] at h
        obtain rfl := Option.some.inj h
        obtain ⟨c, hc, he⟩ := ColumnDefs.inOrder_error (addEach_eq_error_iff.mp hsts)
        exact .unwritten hc he
    | ok sts => rw [hsts] at h; cases h
  · rw [addColumns_of_ne_sqlite hd] at h
    cases hdefs : t.formatter.columnDefs columns with
    | error e' =>
        rw [hdefs] at h
        obtain rfl := Option.some.inj h
        exact .unwrittenTogether hdefs
    | ok defs => rw [hdefs] at h; cases h

/-- A column is not restated because it cannot be written. -/
theorem Target.failsWith_changeColumnType {t : Target} (hd : t.dialect = .mysql) {column : Column}
    {e : Error} (h : (t.changeColumnType column).failure = some e) :
    (Operation.changeColumnType column).FailsWith t e := by
  rw [changeColumnType, hd] at h
  dsimp only at h
  cases hdef : t.formatter.columnDef column with
  | error e' =>
      rw [hdef] at h
      obtain rfl := Option.some.inj h
      exact .unwritten List.mem_cons_self hdef
  | ok defs => rw [hdef] at h; cases h

/-- What ends the plan of an operation is a missing feature or columns that cannot be written. -/
theorem Operation.failsWith_of_failure? {t : Target} {op : Operation} {e : Error}
    (h : (op.plan t).failure? = some e) : op.FailsWith t e := by
  have hplan := op.planned t
  generalize op.plan t = p at h hplan
  cases hplan with
  | lacking =>
      obtain rfl := Option.some.inj h
      exact .lacking _
  | named => cases h
  | texts => cases h
  | creating columns ifNotExists => exact Target.failsWith_createTable h
  | adding columns => exact Target.failsWith_addColumns h
  | restating column hd => exact Target.failsWith_changeColumnType hd h

/-- A statement is refused as invalid. -/
theorem checkAll_error {sts : List Statement} {e : Error} (h : checkAll sts = .error e) :
    ∃ reason, e = .invalid reason := by
  induction sts with
  | nil => cases h
  | cons st sts ih =>
      rw [checkAll] at h
      cases hst : st.checkBindings with
      | error e' =>
          rw [hst] at h
          obtain rfl := Except.error.inj h
          rw [Statement.checkBindings] at hst
          split at hst
          · exact ⟨_, (Except.error.inj hst).symm⟩
          · cases hst
      | ok _ =>
          rw [hst] at h
          exact ih h

/-- An emission has no outcome if a statement is refused or an error ends it. -/
theorem Emission.outcome_error {em : Emission} {e : Error} (h : em.outcome = .error e) :
    (∃ reason, e = .invalid reason) ∨ em.failure = some e := by
  rw [outcome] at h
  split at h
  · next hcheck =>
      obtain rfl := Except.error.inj h
      exact .inl (checkAll_error hcheck)
  · next hfailure => exact .inr (hfailure.trans (congrArg some (Except.error.inj h)))
  · cases h

namespace Session

/-- An emission that is staged fails as its outcome does. -/
theorem outcome_of_emit_error {s : Session} {em : Emission} {e : Error}
    (h : (s.emit em).result = .error e) : em.outcome = .error e := by
  cases hem : em.outcome with
  | error e' =>
      obtain ⟨done, hdone⟩ := @emit_of_error s em e' hem
      rw [hdone] at h
      rw [Except.error.inj h]
  | ok block => rw [emit_of_ok hem] at h; cases h

/-- A name is refused to columns only if it belongs to others. -/
theorem claim_error {s : Session} {kind : ObjectKind} {name : String} {columns : List String}
    {e : Error} (h : s.claim kind name columns = .error e) : ∃ reason, e = .invalid reason := by
  rw [claim] at h
  split at h
  · split at h
    · cases h
    · exact ⟨_, (Except.error.inj h).symm⟩
  · cases h

/-- **A request fails** only because its name belongs to other columns. -/
theorem resolveName_error {s : Session} {r : NameRequest} {e : Error}
    (h : (s.resolveName r).result = .error e) : ∃ reason, e = .invalid reason := by
  obtain ⟨name, hname⟩ := r.exists_resolve s.target.dialect s.target.table
  rw [resolveName, hname] at h
  dsimp only at h
  split at h
  · next hclaim =>
      obtain rfl := Except.error.inj h
      split at hclaim
      · cases hclaim
      · exact claim_error hclaim
  · cases h

/-- A plan fails with a refusal or with what ends it. -/
theorem carryOut_error {s : Session} {p : Plan} {e : Error}
    (h : (s.carryOut p).result = .error e) :
    (∃ reason, e = .invalid reason) ∨ p.failure? = some e := by
  cases p with
  | emit em => exact Emission.outcome_error (outcome_of_emit_error h)
  | named r sql =>
      left
      rw [carryOut] at h
      split at h
      · next hr =>
          obtain rfl := Except.error.inj h
          exact resolveName_error (congrArg Step.result hr)
      · next name s' w hr =>
          have hpush : (s'.push { sql := sql name }).result = .error e := h
          cases hst : Statement.checkBindings { sql := sql name } with
          | error e' =>
              rw [push_of_error hst] at hpush
              obtain rfl := Except.error.inj hpush
              have hcheck : checkAll [{ sql := sql name }] = .error e' := by rw [checkAll, hst]
              exact checkAll_error hcheck
          | ok _ => rw [push_of_ok hst] at hpush; cases hpush

/-- **An operation fails** for one of three causes: it is refused, the dialect lacks a feature, or
the formatter cannot write its columns. -/
theorem compile_error {s : Session} {op : Operation} {e : Error}
    (h : (s.compile op).result = .error e) : op.FailsWith s.target e := by
  have hrefused : (∃ reason, e = .invalid reason) → op.FailsWith s.target e := by
    rintro ⟨reason, rfl⟩
    exact .refused reason
  cases hop : op.validate with
  | error e' =>
      rw [compile_of_invalid hop] at h
      obtain rfl := Except.error.inj h
      exact hrefused (op.reportsInvalid_validate e' hop)
  | ok _ =>
      rw [compile_of_valid hop, result_settle] at h
      rcases carryOut_error h with hreason | hfailure
      · exact hrefused hreason
      · exact Operation.failsWith_of_failure? hfailure

/-- An operation reports a name that is too long only if the formatter does, for one of the columns
or for all of them together. -/
theorem compile_nameTooLong {s : Session} {op : Operation} {name : String} {limit : Nat}
    (h : (s.compile op).result = .error (.nameTooLong name limit)) :
    (∃ c ∈ op.columns, s.target.formatter.columnDef c = .error (.nameTooLong name limit)) ∨
      s.target.formatter.columnDefs op.columns = .error (.nameTooLong name limit) := by
  cases compile_error h with
  | unwritten hc he => exact .inl ⟨_, hc, he⟩
  | unwrittenTogether he => exact .inr he

/-- If the formatter writes columns one after the other, it is one of the columns. -/
theorem compile_nameTooLong_of_inOrder {s : Session}
    (hdefs : s.target.formatter.columnDefs = ColumnDefs.inOrder s.target.formatter.columnDef)
    {op : Operation} {name : String} {limit : Nat}
    (h : (s.compile op).result = .error (.nameTooLong name limit)) :
    ∃ c ∈ op.columns, s.target.formatter.columnDef c = .error (.nameTooLong name limit) := by
  rcases compile_nameTooLong h with hcolumn | hcolumns
  · exact hcolumn
  · rw [hdefs] at hcolumns
    exact ColumnDefs.inOrder_error hcolumns

end Session

/-! ### Names within the limit -/

/-- A generated name **fits** on a target: it is within the limit of the dialect, it is the readable
name or its hash, and it is the hash exactly if the readable name is over the limit. -/
structure GeneratedName.Fits (t : Target) (g : GeneratedName) : Prop where
  /-- The name is within the limit. -/
  le_limit : g.name.utf8ByteSize ≤ t.dialect.maxIdentifierBytes
  /-- The name is the readable one or a hash, and every hash has 27 bytes. -/
  readable_or_hashed : g.name = candidateName g.kind t.table g.columns ∨
    g.name = hashedName (candidateName g.kind t.table g.columns) ∧
      g.name.utf8ByteSize = hashedNameBytes
  /-- The name is a hash exactly if the readable one is too long. -/
  hashed_iff : g.name = hashedName (candidateName g.kind t.table g.columns) ↔
    t.dialect.maxIdentifierBytes < (candidateName g.kind t.table g.columns).utf8ByteSize

/-- A name that is derived from its columns fits. -/
theorem GeneratedName.DerivedOn.fits {t : Target} {g : GeneratedName} (h : g.DerivedOn t) :
    g.Fits t where
  le_limit := utf8ByteSize_le_of_generateName h
  readable_or_hashed := by
    rcases generateName_eq_ok_iff.mp h with ⟨-, hname⟩ | ⟨-, -, hname⟩
    · exact .inl hname
    · exact .inr ⟨hname, hname ▸ utf8ByteSize_hashedName _⟩
  hashed_iff := by
    rcases generateName_eq_ok_iff.mp h with ⟨hfits, hname⟩ | ⟨hlong, -, hname⟩
    · refine iff_of_false ?_ (Nat.not_lt.mpr hfits)
      rw [hname]
      exact (hashedName_ne_candidateName _ _ _ _).symm
    · exact iff_of_true hname hlong

namespace Session

/-! ### Runs -/

/-- **Generated names always fit.** After any run of calls from a fresh session, in whatever dialect
and with whatever formatter: every name that is kept or staged fits. No request is told that there
is no name for it. An operation is told so only by the formatter, which may report any error for a
column or for columns together; if it writes columns one after the other, it is told so for one of
them, and the stock formatters never report this error. In general, for an arbitrary limit,
generation fails exactly if the limit is below the length of a hash and the readable name is over
it, and the name is within the limit otherwise. -/
theorem names_fit_run {t : Target} {s : Session} (hs : Session.start t = .ok s)
    (calls : List Call) :
    (∀ g ∈ (s.run calls).names, g.Fits t) ∧
    (∀ request name limit,
      ((s.run calls).resolveName request).result ≠ .error (.nameTooLong name limit)) ∧
    (∀ op name limit, ((s.run calls).compile op).result = .error (.nameTooLong name limit) →
      (∃ c ∈ op.columns, t.formatter.columnDef c = .error (.nameTooLong name limit)) ∨
        t.formatter.columnDefs op.columns = .error (.nameTooLong name limit)) ∧
    (t.formatter.columnDefs = ColumnDefs.inOrder t.formatter.columnDef →
      ∀ op name limit, ((s.run calls).compile op).result = .error (.nameTooLong name limit) →
        ∃ c ∈ op.columns, t.formatter.columnDef c = .error (.nameTooLong name limit)) ∧
    (∀ d : Dialect, t.formatter = d.formatter → ∀ op name limit,
      ((s.run calls).compile op).result ≠ .error (.nameTooLong name limit)) ∧
    ∀ limit kind table columns,
      ((∃ e, generateName limit kind table columns = .error e) ↔
        limit < 27 ∧ limit < (candidateName kind table columns).utf8ByteSize) ∧
      ∀ name, generateName limit kind table columns = .ok name → name.utf8ByteSize ≤ limit := by
  obtain rfl := eq_of_start hs
  have htarget : (run { target := t } calls).target = t := target_run _ calls
  obtain ⟨horderly, -⟩ := (Orderly.start t).run calls
  have hinOrder : t.formatter.columnDefs = ColumnDefs.inOrder t.formatter.columnDef →
      ∀ op name limit,
        ((run { target := t } calls).compile op).result = .error (.nameTooLong name limit) →
          ∃ c ∈ op.columns, t.formatter.columnDef c = .error (.nameTooLong name limit) := by
    intro hdefs op name limit h
    have hcolumn := compile_nameTooLong_of_inOrder (by rw [htarget]; exact hdefs) h
    rwa [htarget] at hcolumn
  refine ⟨?_, ?_, ?_, hinOrder, ?_, ?_⟩
  · intro g hg
    exact htarget ▸ (horderly.derived g hg).fits
  · intro request name limit h
    obtain ⟨reason, hreason⟩ := resolveName_error h
    cases hreason
  · intro op name limit h
    have hcause := compile_nameTooLong h
    rwa [htarget] at hcause
  · intro d hd op name limit h
    obtain ⟨c, -, he⟩ := hinOrder (by rw [hd]; rfl) op name limit h
    rw [hd] at he
    obtain ⟨reason, hreason⟩ := Dialect.columnDef_error he
    cases hreason
  · intro limit kind table columns
    refine ⟨?_, fun name => utf8ByteSize_le_of_generateName⟩
    simp only [generateName_eq_error_iff, exists_and_left, exists_eq, and_true]
    rfl

/-- A readable name that fits in Oracle, and hashes in place of two that are over its limit. -/
theorem names_fit_run_of_hash :
    let t : Target :=
      { dialect := .oracle, formatter := Dialect.oracle.formatter, table := "users" }
    let s : Session := { target := t }
    let calls : List Call :=
      [.compile (.addIndex ⟨["email"], none⟩),
        .compile (.addUnique ⟨["first_name", "last_name"], none⟩),
        .resolveName ⟨.index, none, ["first_name", "last_name"]⟩]
    Session.start t = .ok s ∧
      (s.run calls).names.map GeneratedName.name =
        ["users_email_index", "XcPigfw7vRJWlzBR+O7Aaktflwk", "DWpPbFi26yvTJwiRlZLu85xTrHs"] ∧
      (∀ g ∈ (s.run calls).names, g.name.utf8ByteSize ≤ 30) ∧
      t.formatter = Dialect.oracle.formatter ∧
      (∀ op name limit, ((s.run calls).compile op).result ≠ .error (.nameTooLong name limit)) ∧
      ∃ e, generateName 26 .index "users" ["first_name", "last_name"] = .error e := by
  intro t s calls
  obtain ⟨hfit, -, -, -, hstock, hlaw⟩ := names_fit_run (t := t) (s := s) rfl calls
  refine ⟨rfl, by decide +kernel, fun g hg => (hfit g hg).le_limit, rfl, hstock .oracle rfl, ?_⟩
  exact (hlaw 26 .index "users" ["first_name", "last_name"]).1.mpr (by decide +kernel)

end Session

end SchemaDdl
