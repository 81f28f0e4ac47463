import SchemaDdl.Proofs.Blocks
import SchemaDdl.Proofs.Quoting

/-!
# Matching Drops

An index or constraint that one migration adds is dropped by another, often in a later session. Both
statements have to mention the same name, although they are made apart from each other. They do,
because a name depends on the request alone, and the two operations make the same request.

* `Operation.matchingDrop?` — the operation that drops what an operation adds.
* `Operation.block_of_frame?` — a statement with a frame has the name that its operation gets in it.

## Main results

* `drop_mentions_added` — in any two sessions on a table, a drop mentions the name that was added.
-/

namespace SchemaDdl

/-! ### Names in statements -/

/-- The operation that **drops** what an operation adds: with the same columns, under the same
explicit name if there is one. -/
def Operation.matchingDrop? : Operation → Option Operation
  | addIndex key => some (dropIndex key)
  | addUnique key => some (dropUnique key)
  | addPrimaryKey key => some (dropPrimaryKey key.name)
  | addForeignKey key => some (dropForeignKey ⟨key.columns, key.name⟩)
  | _ => none

namespace Operation

variable {t : Target} {op add drop : Operation} {block : List Statement}

/-- A statement has a frame exactly if its operation asks for a name. -/
theorem isSome_frame? (t : Target) (op : Operation) :
    (op.frame? t).isSome = (op.request? t.dialect).isSome := by
  have hplan := op.planned t
  generalize op.plan t = p at hplan
  cases hplan with
  | lacking _ request frame => rw [frame, request]; rfl
  | named _ request frame => rw [frame, request]; rfl
  | texts _ request frame => rw [frame, request]; rfl
  | creating columns ifNotExists => rfl
  | adding columns => rfl
  | restating column => rfl

/-- **A statement with a frame** waits for a name, and has it in the frame. -/
theorem plan_of_frame? {f : Frame} (h : op.frame? t = some f) :
    ∃ request, op.plan t = .named request f.around := by
  have hplan := op.planned t
  generalize op.plan t = p at hplan ⊢
  cases hplan with
  | lacking _ _ frame => rw [frame] at h; cases h
  | @named _ request g _ _ frame =>
      obtain rfl : g = f := Option.some.inj (frame.symm.trans h)
      exact ⟨request, rfl⟩
  | texts _ _ frame => rw [frame] at h; cases h
  | creating columns ifNotExists => cases h
  | adding columns => cases h
  | restating column => cases h

/-- The statement of an operation with a frame is the frame around the quoted name that the
operation gets. -/
theorem block_of_frame? {f : Frame} (hf : op.frame? t = some f) (hb : op.block t = .ok block) :
    ∃ name, op.resolvedName? t = some name ∧
      block = [{ sql := f.around (t.formatter.wrap name) }] := by
  obtain ⟨request, hplan⟩ := plan_of_frame? hf
  have hrequest : op.request? t.dialect = some request := by
    rw [← request?_plan, hplan]
    rfl
  obtain ⟨-, hblock⟩ := block_eq_ok_iff.mp hb
  rw [hplan, Plan.block] at hblock
  rw [resolvedName?, hrequest, Option.bind_some]
  cases hname : request.resolveOn t with
  | error e => rw [hname] at hblock; cases hblock
  | ok name =>
      rw [hname] at hblock
      obtain ⟨-, -, rfl⟩ := Emission.outcome_eq_ok_iff.mp hblock
      exact ⟨name, rfl, rfl⟩

/-! ### Pairs of operations -/

/-- A foreign key that the dialect supports asks for a name by its columns. -/
theorem request?_addForeignKey {key : ForeignKey}
    (h : ((addForeignKey key).plan t).failure? = none) :
    (addForeignKey key).request? t.dialect = some ⟨.foreign, key.name, key.columns⟩ := by
  cases hkey : (addForeignKey key).missing? t.dialect false with
  | some feature =>
      rw [plan, Target.addForeignKey_of_missing? hkey] at h
      cases h
  | none =>
      have hnone := Option.not_isSome_iff_eq_none.mpr hkey
      rw [isSome_missing?_addForeignKey_iff] at hnone
      exact if_neg hnone

/-- A drop **makes the request** of the operation that it matches, if that one has a statement. -/
theorem request?_of_matchingDrop? (hmatch : add.matchingDrop? = some drop)
    (hadd : (add.plan t).failure? = none) {request : NameRequest}
    (hdrop : drop.request? t.dialect = some request) : add.request? t.dialect = some request := by
  obtain ⟨d, w, table, comment⟩ := t
  cases add with
  | addIndex key | addUnique key =>
      obtain rfl := Option.some.inj hmatch
      exact hdrop
  | addPrimaryKey key =>
      obtain rfl := Option.some.inj hmatch
      cases d with
      | generic | postgresql => exact hdrop
      | mysql | sqlite | oracle => cases hdrop
  | addForeignKey key =>
      obtain rfl := Option.some.inj hmatch
      refine (request?_addForeignKey hadd).trans ?_
      cases d with
      | sqlite => cases hdrop
      | generic | postgresql | mysql | oracle => exact hdrop
  | _ => cases hmatch

/-- A drop whose statement has a frame gets **the same name** as the operation that it matches, and
that one has a frame, too. -/
theorem resolvedName?_of_matchingDrop? (hmatch : add.matchingDrop? = some drop)
    (hadd : (add.plan t).failure? = none) {f : Frame} (hf : drop.frame? t = some f) :
    (∃ g, add.frame? t = some g) ∧ add.resolvedName? t = drop.resolvedName? t := by
  have hsome : (drop.request? t.dialect).isSome := by
    rw [← isSome_frame?, hf]
    rfl
  obtain ⟨request, hdrop⟩ := Option.isSome_iff_exists.mp hsome
  have hrequest := request?_of_matchingDrop? hmatch hadd hdrop
  rw [← Option.isSome_iff_exists, isSome_frame?, resolvedName?, resolvedName?, hrequest, hdrop]
  exact ⟨rfl, rfl⟩

/-- The statement of a drop without a frame drops the primary key of the table as such. -/
theorem block_of_frame?_eq_none (hmatch : add.matchingDrop? = some drop)
    (hf : drop.frame? t = none) (hb : drop.block t = .ok block) :
    block = [{ sql := t.alter "DROP PRIMARY KEY" }] := by
  obtain ⟨-, hblock⟩ := block_eq_ok_iff.mp hb
  obtain ⟨d, w, table, comment⟩ := t
  cases add with
  | addIndex key | addUnique key =>
      obtain rfl := Option.some.inj hmatch
      cases d <;> cases hf
  | addPrimaryKey key =>
      obtain rfl := Option.some.inj hmatch
      cases d with
      | generic | postgresql => cases hf
      | sqlite => cases hblock
      | mysql | oracle => exact (Emission.outcome_eq_ok_iff.mp hblock).2.2
  | addForeignKey key =>
      obtain rfl := Option.some.inj hmatch
      cases d with
      | generic | postgresql | mysql | oracle => cases hf
      | sqlite => cases hblock
  | _ => cases hmatch

/-- An operation that has a matching drop is one statement. -/
theorem exists_block_of_matchingDrop? (hmatch : add.matchingDrop? = some drop)
    (hb : add.block t = .ok block) : ∃ added, block = [added] := by
  obtain ⟨hlength, -⟩ := length_of_block hb
  rw [← List.length_eq_one_iff, hlength]
  cases add with
  | addIndex key => rfl
  | addUnique key => rfl
  | addPrimaryKey key => rfl
  | addForeignKey key => rfl
  | _ => cases hmatch

end Operation

/-! ### The schema of a table -/

/-- A text without dots has no schema in front. -/
theorem qualifier?_eq_none {cs : List Char} (h : '.' ∉ cs) : Target.qualifier? cs = none := by
  induction cs with
  | nil => rfl
  | cons c cs ih =>
      rw [List.mem_cons, not_or] at h
      rw [Target.qualifier?, ih h.2]
      exact if_neg (Ne.symm h.1)

/-- The schema in front of a text with dots is what stands before the last one. -/
theorem exists_qualifier?_eq_some {cs : List Char} (h : '.' ∈ cs) :
    ∃ schema last, Target.qualifier? cs = some schema ∧ cs = schema ++ '.' :: last ∧
      '.' ∉ last := by
  induction cs with
  | nil => cases h
  | cons c cs ih =>
      rw [Target.qualifier?]
      by_cases hcs : '.' ∈ cs
      · obtain ⟨schema, last, hschema, rfl, hlast⟩ := ih hcs
        refine ⟨c :: schema, last, ?_, rfl, hlast⟩
        rw [hschema]
      · obtain rfl : '.' = c := (List.mem_cons.mp h).resolve_right hcs
        refine ⟨[], cs, ?_, rfl, hcs⟩
        rw [qualifier?_eq_none hcs]
        rfl

/-- **PostgreSQL drops an index from the schema of its table**: with the stock formatter of a
dialect, the part in front of the index name, a dot and the quoted last part of the table name are
the quoted table. -/
theorem Target.schemaPrefix_of_stock {t : Target} {d : Dialect} (h : t.formatter = d.formatter) :
    ('.' ∉ t.table.toList → t.schemaPrefix = "") ∧
    ('.' ∈ t.table.toList → ∃ schema last, t.table = schema ++ "." ++ last ∧
      '.' ∉ last.toList ∧ t.schemaPrefix = d.wrap schema ++ "." ∧
      t.quotedTable = d.wrap schema ++ "." ++ d.wrap last) := by
  have hwrap : ∀ name, t.formatter.wrap name = d.wrap name := fun name => by rw [h]; rfl
  constructor
  · intro hdot
    rw [schemaPrefix, qualifier?_eq_none hdot]
    rfl
  · intro hdot
    obtain ⟨schema, last, hschema, htable, hlast⟩ := exists_qualifier?_eq_some hdot
    have hparts : t.table = String.ofList schema ++ "." ++ String.ofList last := by
      rw [← String.toList_inj, htable]
      simp only [String.toList_append, String.toList_ofList, List.append_assoc]
      rfl
    refine ⟨String.ofList schema, String.ofList last, hparts, ?_, ?_, ?_⟩
    · rw [String.toList_ofList]
      exact hlast
    · rw [schemaPrefix, hschema, Option.elim_some, hwrap]
    · rw [quotedTable, hwrap, hparts, Dialect.wrap_append_dot]

/-! ### Sessions -/

namespace Session

/-- **A drop mentions the name that was added.** Take two sessions on a table in the same dialect
with the same formatter, whatever was compiled in them before, and let one compile an operation that
adds an index or constraint and the other one the matching drop. Each emits one statement. If that
of the drop mentions a name, both mention the same one: it was given or generated, readable or
hashed, and it is quoted in the same way. A drop that mentions no name drops the primary key. When
PostgreSQL drops an index with a stock formatter, the name has the schema of the table in front if
the table has one, so that this part and the last segment of the table are the quoted table. -/
theorem drop_mentions_added {t : Target} {comment : Option String} {s r : Session}
    (hs : s.target = t) (hr : r.target = { t with comment := comment }) {add drop : Operation}
    (hmatch : add.matchingDrop? = some drop) (hadd : (s.compile add).result = .ok ())
    (hdrop : (r.compile drop).result = .ok ()) :
    ∃ added dropped : Statement, s.Emits add [added] ∧ r.Emits drop [dropped] ∧
      (∀ f ∈ drop.frame? t, ∃ g ∈ add.frame? t, ∃ name,
        add.resolvedName? t = some name ∧ drop.resolvedName? t = some name ∧
          added = { sql := g.around (t.formatter.wrap name) } ∧
          dropped = { sql := f.around (t.formatter.wrap name) }) ∧
      (drop.frame? t = none → dropped = { sql := t.alter "DROP PRIMARY KEY" }) ∧
      ∀ key, drop = .dropIndex key → t.dialect = .postgresql →
        ∀ d : Dialect, t.formatter = d.formatter → ∀ name, drop.resolvedName? t = some name →
          ('.' ∉ t.table.toList → dropped.sql = "DROP INDEX " ++ d.wrap name) ∧
          ('.' ∈ t.table.toList → ∃ schema last, t.table = schema ++ "." ++ last ∧
            '.' ∉ last.toList ∧
            dropped.sql = "DROP INDEX " ++ (d.wrap schema ++ "." ++ d.wrap name) ∧
            t.quotedTable = d.wrap schema ++ "." ++ d.wrap last) := by
  obtain ⟨⟨block, hblock⟩, -⟩ := compile_eq_ok_iff.mp hadd
  obtain ⟨⟨block', hblock'⟩, -⟩ := compile_eq_ok_iff.mp hdrop
  have hemits : s.Emits add block := ⟨hadd, statements_compile hadd hblock⟩
  have hemits' : r.Emits drop block' := ⟨hdrop, statements_compile hdrop hblock'⟩
  rw [hs] at hblock
  rw [hr] at hblock'
  have hfailure := (Operation.texts_of_block hblock).1
  -- The comment does not matter to the statement of a drop.
  have hframe : drop.frame? { t with comment := comment } = drop.frame? t := by
    cases drop <;> rfl
  obtain ⟨added, rfl⟩ := Operation.exists_block_of_matchingDrop? hmatch hblock
  cases hf : drop.frame? t with
  | none =>
      obtain rfl := Operation.block_of_frame?_eq_none hmatch (hframe.trans hf) hblock'
      refine ⟨added, _, hemits, hemits', nofun, fun _ => rfl, ?_⟩
      rintro key rfl hd
      rw [Operation.frame?, hd] at hf
      cases hf
  | some f =>
      obtain ⟨name, hname, rfl⟩ := Operation.block_of_frame? (hframe.trans hf) hblock'
      obtain ⟨⟨g, hg⟩, hsame⟩ := Operation.resolvedName?_of_matchingDrop? hmatch hfailure hf
      obtain ⟨name', hname', hadded⟩ := Operation.block_of_frame? hg hblock
      obtain rfl : name' = name := Option.some.inj ((hname'.symm.trans hsame).trans hname)
      refine ⟨added, _, hemits, hemits', ?_, nofun, ?_⟩
      · rintro _ ⟨⟩
        exact ⟨g, hg, name', hname', hname, (List.cons.inj hadded).1, rfl⟩
      · rintro key rfl hd d hformatter name hname''
        obtain rfl : name' = name := Option.some.inj (hname.symm.trans hname'')
        have htext : f.around (t.formatter.wrap name') =
            "DROP INDEX " ++ (t.schemaPrefix ++ d.wrap name') := by
          rw [Operation.frame?, hd] at hf
          obtain rfl := Option.some.inj hf
          rw [← Frame.eq_around, hformatter, String.append_assoc]
          rfl
        obtain ⟨hbare, hqualified⟩ := Target.schemaPrefix_of_stock hformatter
        constructor
        · intro hdot
          exact htext.trans (by rw [hbare hdot, String.empty_append])
        · intro hdot
          obtain ⟨schema, last, htable, hlast, hschema, hquoted⟩ := hqualified hdot
          exact ⟨schema, last, htable, hlast, htext.trans (by rw [hschema]), hquoted⟩

/-- An index on a table in a schema, which is dropped in a session that compiled something else. -/
theorem drop_mentions_added_of_schema :
    let t : Target :=
      { dialect := .postgresql, formatter := Dialect.postgresql.formatter, table := "app.users" }
    let s : Session := { target := t }
    let r : Session :=
      (compile { target := { t with comment := some "?" } } (.addUnique ⟨["email"], none⟩)).session
    let add : Operation := .addIndex ⟨["email"], none⟩
    let drop : Operation := .dropIndex ⟨["email"], none⟩
    s.target = t ∧ r.target = { t with comment := some "?" } ∧ add.matchingDrop? = some drop ∧
      (s.compile add).result = .ok () ∧ (r.compile drop).result = .ok () ∧
      ∃ dropped, r.Emits drop [dropped] ∧
        dropped.sql = "DROP INDEX \"app\".\"app_users_email_index\"" := by
  intro t s r add drop
  have hr : r.target = { t with comment := some "?" } := target_compile _ _
  have hadd : (s.compile add).result = .ok () := by decide +kernel
  have hdrop : (r.compile drop).result = .ok () := by decide +kernel
  have hname : drop.resolvedName? t = some "app_users_email_index" := by decide +kernel
  obtain ⟨added, dropped, -, hemits, hsame, -, -⟩ := drop_mentions_added rfl hr rfl hadd hdrop
  obtain ⟨g, -, name, -, hname', -, rfl⟩ := hsame _ rfl
  obtain rfl : "app_users_email_index" = name := Option.some.inj (hname.symm.trans hname')
  exact ⟨rfl, hr, rfl, hadd, hdrop, _, hemits, by decide +kernel⟩

end Session

end SchemaDdl
