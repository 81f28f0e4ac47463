import Mathlib.Data.List.Nodup
import SchemaDdl.Proofs.Replay

/-!
# The Table of Generated Names

A session looks up the owner of a generated name in two places: among the names of the operations
that compiled, and among those of the operation at hand. Names move from the second place to the
first when an operation succeeds and are dropped when it fails, and a caller may stage names in
between. This module shows that the two places are one table at all times.

* `GeneratedName.key`, `GeneratedName.DerivedOn` — what a name is looked up by, and that it is the
  one that its table and columns lead to.
* `GeneratedName.put` — a table with an entry put into it, in place of the one with its key.
* `Session.names` — the names that a session has given out, kept and staged.
* `Session.Orderly` — the invariant: no key occurs twice, and every name is derived.

## Main results

* `Orderly.after` — every call keeps the table in order, whether it succeeds or fails.
* `generated_compile_eq_put` — keeping the name of an operation is putting it into the table, and
  nothing is replaced there.
* `generated_prefix_after` — no call changes or removes a name that is kept.
* `result_resolveName_generated_iff` — a generated name is given out exactly if it is free or
  belongs to the same columns.
* `names_run` — all of this in every state that a run of calls leads to.
-/

namespace SchemaDdl

/-! ### Entries -/

namespace GeneratedName

/-- The **key** of a generated name: the kind of the object and the name itself. -/
def key (g : GeneratedName) : ObjectKind × String :=
  (g.kind, g.name)

/-- A name is **derived** on a target if it is the one that is generated from its columns. -/
def DerivedOn (t : Target) (g : GeneratedName) : Prop :=
  generateName t.dialect.maxIdentifierBytes g.kind t.table g.columns = .ok g.name

/-- A table with an entry **put** into it, in place of the entry with the same key if there is
one. -/
def put (names : List GeneratedName) (g : GeneratedName) : List GeneratedName :=
  if names.any fun h => h.key == g.key then names.map fun h => if h.key = g.key then g else h
  else names ++ [g]

/-- An entry whose key is free goes to the end. -/
theorem put_of_forall_ne {names : List GeneratedName} {g : GeneratedName}
    (hg : ∀ h ∈ names, h.key ≠ g.key) : put names g = names ++ [g] := by
  have hnone : ¬ (names.any fun h => h.key == g.key) = true := by
    rw [List.any_eq_true]
    rintro ⟨h, hh, hkey⟩
    exact hg h hh (beq_iff_eq.mp hkey)
  rw [put, if_neg hnone]

/-- In a table without repeated keys, nothing changes when an entry is put there again. -/
theorem put_of_mem {names : List GeneratedName} (hn : (names.map key).Nodup) {g : GeneratedName}
    (hg : g ∈ names) : put names g = names := by
  have hany : (names.any fun h => h.key == g.key) = true :=
    List.any_eq_true.mpr ⟨g, hg, beq_self_eq_true g.key⟩
  have hsame : ∀ h ∈ names, (if h.key = g.key then g else h) = h := by
    intro h hh
    split
    · next hkey => exact List.inj_on_of_nodup_map hn hg hh hkey.symm
    · rfl
  rw [put, if_pos hany, List.map_congr_left hsame, List.map_id']

/-- The generated name that a request leads to is derived from its columns. -/
theorem derivedOn_of_mem_generated? {r : NameRequest} {t : Target} {g : GeneratedName}
    (h : g ∈ r.generated? t) : g.DerivedOn t := by
  obtain ⟨kind, explicit, columns⟩ := r
  rw [Option.mem_def, NameRequest.generated?] at h
  split at h
  · next name hexplicit hresolve =>
      obtain rfl := Option.some.inj h
      obtain rfl : explicit = none := hexplicit
      exact hresolve
  · cases h

end GeneratedName

namespace Session

/-! ### The table -/

/-- The **names** that a session has given out: those that are kept and those that are staged. -/
def names (s : Session) : List GeneratedName :=
  s.generated ++ s.stagedNames

/-- A session is **orderly** if its names are a table: every key has one entry, and every entry is
derived from its columns. -/
structure Orderly (s : Session) : Prop where
  /-- No key occurs twice. -/
  nodup : (s.names.map GeneratedName.key).Nodup
  /-- Every name is the one that its columns lead to. -/
  derived : ∀ g ∈ s.names, g.DerivedOn s.target

/-- A key is free exactly if no entry has it. -/
theorem owner?_eq_none_iff {s : Session} {kind : ObjectKind} {name : String} :
    s.owner? kind name = none ↔ ∀ g ∈ s.names, g.key ≠ (kind, name) := by
  constructor
  · intro h g hg hkey
    obtain ⟨rfl, rfl⟩ := Prod.mk.inj hkey
    exact owner?_ne_none hg h
  · intro h
    rw [Option.eq_none_iff_forall_not_mem]
    intro columns hcolumns
    exact h _ (mem_of_owner? hcolumns) rfl

/-- An orderly session admits a name exactly if the entry with its key, if there is one, has the
same columns. -/
theorem Orderly.admits_iff {s : Session} (hs : s.Orderly) {g : GeneratedName} :
    s.Admits g ↔ ∀ h ∈ s.names, h.key = g.key → h.columns = g.columns := by
  constructor
  · intro hadmits h hh hkey
    obtain ⟨hkind, hname⟩ := Prod.mk.inj hkey
    have hsome : s.owner? h.kind h.name ≠ none := owner?_ne_none hh
    obtain ⟨owner, howner⟩ := Option.ne_none_iff_exists'.mp hsome
    -- The owner that is found has an entry of its own, which can only be `h`.
    have hentry : (⟨h.kind, h.name, owner⟩ : GeneratedName) = h :=
      List.inj_on_of_nodup_map hs.nodup (mem_of_owner? howner) hh rfl
    rw [hkind, hname] at howner
    rw [← hadmits owner howner, ← hentry]
  · intro h owner howner
    exact h _ (mem_of_owner? howner) rfl

/-! ### What keeps the table in order -/

/-- A session for a target starts with an empty table. -/
theorem Orderly.start (t : Target) : Orderly { target := t } where
  nodup := List.nodup_nil
  derived := List.forall_mem_nil _

/-- Dropping what is staged leaves fewer names. -/
theorem Orderly.unstage {s : Session} (hs : s.Orderly) : s.unstage.Orderly where
  nodup := by
    have hsub : s.unstage.names.Sublist s.names := by
      rw [names, Session.unstage, List.append_nil]
      exact List.sublist_append_left _ _
    exact (hsub.map _).nodup hs.nodup
  derived := by
    intro g hg
    rw [names, Session.unstage, List.append_nil] at hg
    exact hs.derived g (List.mem_append_left _ hg)

/-- Keeping what is staged leaves the same names. -/
theorem names_commit (s : Session) : s.commit.names = s.names :=
  List.append_nil _

/-- Keeping what is staged keeps the table in order. -/
theorem Orderly.commit {s : Session} (hs : s.Orderly) : s.commit.Orderly where
  nodup := s.names_commit ▸ hs.nodup
  derived := s.names_commit ▸ hs.derived

/-- Statements do not matter to names. -/
theorem Orderly.stage {s : Session} (hs : s.Orderly) (block : List Statement) :
    (s.stage block).Orderly :=
  ⟨hs.nodup, hs.derived⟩

/-- Recording a name that is derived keeps the table in order: the name is added only if its key is
free. -/
theorem Orderly.record {s : Session} (hs : s.Orderly) {g : GeneratedName}
    (hg : g.DerivedOn s.target) : (s.record g).Orderly := by
  rw [Session.record]
  split
  · exact hs
  · next hfree =>
      have hnames : ({ s with stagedNames := s.stagedNames ++ [g] } : Session).names =
          s.names ++ [g] := (List.append_assoc _ _ _).symm
      constructor
      · rw [hnames, List.map_append, List.map_singleton, ← List.concat_eq_append]
        refine List.Nodup.concat ?_ hs.nodup
        rw [List.mem_map]
        rintro ⟨h, hh, hkey⟩
        exact owner?_eq_none_iff.mp hfree h hh hkey
      · intro h hh
        rw [hnames, List.mem_append, List.mem_singleton] at hh
        rcases hh with hh | rfl
        · exact hs.derived h hh
        · exact hg

/-- Recording the generated name of a request, if it has one, keeps the table in order. -/
theorem Orderly.record? {s : Session} (hs : s.Orderly) {g? : Option GeneratedName}
    (hg : ∀ g ∈ g?, g.DerivedOn s.target) : (g?.elim s s.record).Orderly := by
  cases g? with
  | none => exact hs
  | some g => exact hs.record (hg g rfl)

/-- What is kept is not touched while a name is recorded. -/
theorem generated_record? (s : Session) (g? : Option GeneratedName) :
    (g?.elim s s.record).generated = s.generated := by
  cases g? with
  | none => rfl
  | some g =>
      rw [Option.elim_some, record]
      split <;> rfl

/-! ### Calls -/

/-- An operation that fails leaves the session as it is, if it is malformed, and drops what is
staged otherwise. -/
theorem session_compile_of_error {s : Session} {op : Operation} {e : Error}
    (h : (s.compile op).result = .error e) :
    (s.compile op).session = s ∨ (s.compile op).session = s.unstage := by
  cases hop : op.validate with
  | error e =>
      left
      rw [compile_of_invalid hop]
  | ok _ =>
      right
      rw [compile_of_valid hop, result_settle] at h
      rw [compile_of_valid hop, settle, h]
      exact unstage_carryOut s.unstage _

/-- Compiling an operation keeps the table in order. -/
theorem Orderly.compile {s : Session} (hs : s.Orderly) (op : Operation) :
    (s.compile op).session.Orderly := by
  cases hr : (s.compile op).result with
  | error e =>
      rcases session_compile_of_error hr with h | h
      · rw [h]
        exact hs
      · rw [h]
        exact hs.unstage
  | ok _ =>
      obtain ⟨⟨block, hb⟩, -⟩ := compile_eq_ok_iff.mp hr
      have hderived : ∀ g ∈ op.generated? s.target, g.DerivedOn s.unstage.target := by
        intro g hg
        obtain ⟨r, -, hr⟩ := Option.bind_eq_some_iff.mp hg
        exact GeneratedName.derivedOn_of_mem_generated? hr
      rw [compile_of_ok hr hb]
      exact ((hs.unstage.record? hderived).stage block).commit

/-- **Keeping the name of an operation is putting it into the table.** Since a name is given out
only if it is free or belongs to the same columns, nothing is replaced there. -/
theorem generated_compile_eq_put {s : Session} (hs : s.Orderly) {op : Operation}
    (h : (s.compile op).result = .ok ()) :
    (s.compile op).session.generated =
      (op.generated? s.target).elim s.generated (GeneratedName.put s.generated) := by
  obtain ⟨⟨block, hb⟩, hadmits⟩ := compile_eq_ok_iff.mp h
  have hnames : s.unstage.names = s.generated := List.append_nil _
  rw [compile_of_ok h hb]
  cases hg : op.generated? s.target with
  | none => exact List.append_nil _
  | some g =>
      have hcommit : ∀ r : Session, (r.stage block).commit.generated = r.names := fun _ => rfl
      rw [Option.elim_some, Option.elim_some, hcommit, record]
      cases howner : s.unstage.owner? g.kind g.name with
      | none =>
          have hfree := owner?_eq_none_iff.mp howner
          rw [hnames] at hfree
          rw [GeneratedName.put_of_forall_ne hfree]
          rfl
      | some owner =>
          -- The owner has the columns of the name, so the entry in the table is the name itself.
          have hmem := mem_of_owner? howner
          have hnodup := hs.unstage.nodup
          rw [hadmits g hg owner howner] at hmem
          rw [hnames] at hnodup
          rw [GeneratedName.put_of_mem hnodup (hnames ▸ hmem)]
          exact hnames

/-- Names that are kept stay when an operation is compiled. -/
theorem generated_prefix_compile (s : Session) (op : Operation) :
    s.generated <+: (s.compile op).session.generated := by
  cases hr : (s.compile op).result with
  | error e =>
      have hsame : (s.compile op).session.generated = s.generated := by
        rcases session_compile_of_error hr with h | h
        · exact congrArg Session.generated h
        · exact (congrArg Session.generated h : _ = s.unstage.generated)
      exact hsame ▸ List.prefix_rfl
  | ok _ =>
      obtain ⟨⟨block, hb⟩, -⟩ := compile_eq_ok_iff.mp hr
      have hkept := generated_record? s.unstage (op.generated? s.target)
      rw [compile_of_ok hr hb]
      exact ⟨_, congrArg (· ++ _) hkept.symm⟩

/-- Names that are kept stay when operations are compiled in a row, and the table stays in order. -/
theorem compileAll_names {s : Session} (hs : s.Orderly) (ops : List Operation) :
    (s.compileAll ops).session.Orderly ∧
      s.generated <+: (s.compileAll ops).session.generated := by
  induction ops generalizing s with
  | nil => exact ⟨hs, List.prefix_rfl⟩
  | cons op ops ih =>
      have hop := hs.compile op
      have hprefix := s.generated_prefix_compile op
      rw [compileAll]
      dsimp only
      cases (s.compile op).result with
      | error e => exact ⟨hop, hprefix⟩
      | ok _ =>
          obtain ⟨hrest, hrestPrefix⟩ := ih hop
          exact ⟨hrest, hprefix.trans hrestPrefix⟩

/-- The session after a request for a name: the generated name is recorded if it is admitted, and
nothing changes otherwise. -/
theorem session_resolveName (s : Session) (r : NameRequest) :
    (s.resolveName r).session = s ∨
      (s.resolveName r).session = (r.generated? s.target).elim s s.record := by
  by_cases hg : ∀ g ∈ r.generated? s.target, s.Admits g
  · cases hr : r.resolveOn s.target with
    | error e =>
        obtain ⟨w, h⟩ := resolveName_of_error hr
        exact Or.inl (h ▸ rfl)
    | ok name =>
        obtain ⟨w, h⟩ := resolveName_of_ok hr hg
        exact Or.inr (h ▸ rfl)
  · obtain ⟨e, w, h⟩ := resolveName_of_not_admits hg
    exact Or.inl (h ▸ rfl)

/-- A request that fails changes nothing. -/
theorem session_resolveName_of_error {s : Session} {r : NameRequest} {e : Error}
    (h : (s.resolveName r).result = .error e) : (s.resolveName r).session = s := by
  by_cases hg : ∀ g ∈ r.generated? s.target, s.Admits g
  · cases hr : r.resolveOn s.target with
    | error e' =>
        obtain ⟨w, hw⟩ := resolveName_of_error hr
        rw [hw]
    | ok name =>
        obtain ⟨w, hw⟩ := resolveName_of_ok hr hg
        rw [hw] at h
        cases h
  · obtain ⟨e', w, hw⟩ := resolveName_of_not_admits hg
    rw [hw]

/-- **Every call keeps the table in order**, whether it succeeds or fails. -/
theorem Orderly.after {s : Session} (hs : s.Orderly) (call : Call) : (s.after call).Orderly := by
  cases call with
  | compile op => exact hs.compile op
  | compileAll ops => exact (compileAll_names hs ops).1
  | push st =>
      rw [Session.after]
      cases h : st.checkBindings with
      | error e =>
          rw [push_of_error h]
          exact hs
      | ok _ =>
          rw [push_of_ok h]
          exact hs.stage [st]
  | resolveName r =>
      rw [Session.after]
      rcases s.session_resolveName r with h | h
      · rw [h]
        exact hs
      · rw [h]
        exact hs.record? fun g hg => GeneratedName.derivedOn_of_mem_generated? hg

/-- **No call changes or removes a name that is kept.** -/
theorem generated_prefix_after {s : Session} (hs : s.Orderly) (call : Call) :
    s.generated <+: (s.after call).generated := by
  have hsame : ∀ r : Session, r.unstage = s.unstage → r.generated = s.generated := by
    intro r h
    have hgenerated : r.unstage.generated = s.unstage.generated := by rw [h]
    exact hgenerated
  cases call with
  | compile op => exact s.generated_prefix_compile op
  | compileAll ops => exact (compileAll_names hs ops).2
  | push st => exact (hsame _ (unstage_push s st)) ▸ List.prefix_rfl
  | resolveName r => exact (hsame _ (unstage_resolveName s r)) ▸ List.prefix_rfl

/-- A run keeps the table in order, and the names that are kept. -/
theorem Orderly.run {s : Session} (hs : s.Orderly) (calls : List Call) :
    (s.run calls).Orderly ∧ s.generated <+: (s.run calls).generated := by
  induction calls generalizing s with
  | nil => exact ⟨hs, List.prefix_rfl⟩
  | cons call calls ih =>
      obtain ⟨hrun, hprefix⟩ := ih (hs.after call)
      exact ⟨hrun, (generated_prefix_after hs call).trans hprefix⟩

/-- **A generated name is given out** exactly if it can be generated and is free or belongs to the
same columns. -/
theorem result_resolveName_generated_iff {s : Session} (hs : s.Orderly) {kind : ObjectKind}
    {columns : List String} {quoted : String} :
    (s.resolveName ⟨kind, none, columns⟩).result = .ok quoted ↔
      ∃ name, generateName s.target.dialect.maxIdentifierBytes kind s.target.table columns =
          .ok name ∧
        (∀ g ∈ s.names, g.key = (kind, name) → g.columns = columns) ∧
        quoted = s.target.formatter.wrap name := by
  have hresolve : NameRequest.resolveOn ⟨kind, none, columns⟩ s.target =
      generateName s.target.dialect.maxIdentifierBytes kind s.target.table columns := rfl
  cases hname : generateName s.target.dialect.maxIdentifierBytes kind s.target.table columns with
  | error e =>
      obtain ⟨w, h⟩ := resolveName_of_error (hresolve.trans hname)
      rw [h]
      refine iff_of_false nofun ?_
      rintro ⟨name, h, -⟩
      cases h
  | ok name =>
      have hgenerated : NameRequest.generated? ⟨kind, none, columns⟩ s.target =
          some ⟨kind, name, columns⟩ := by
        rw [NameRequest.generated?, hresolve, hname]
      have hiff := hs.admits_iff (g := ⟨kind, name, columns⟩)
      by_cases hadmits : s.Admits ⟨kind, name, columns⟩
      · have hg : ∀ g ∈ NameRequest.generated? ⟨kind, none, columns⟩ s.target, s.Admits g := by
          rw [hgenerated]
          rintro g ⟨⟩
          exact hadmits
        obtain ⟨w, h⟩ := resolveName_of_ok (hresolve.trans hname) hg
        rw [h]
        constructor
        · intro hquoted
          exact ⟨name, rfl, hiff.mp hadmits, (Except.ok.inj hquoted).symm⟩
        · rintro ⟨name', hname', -, rfl⟩
          rw [Except.ok.inj hname']
      · have hg : ¬ ∀ g ∈ NameRequest.generated? ⟨kind, none, columns⟩ s.target, s.Admits g := by
          rw [hgenerated]
          exact fun hall => hadmits (hall _ rfl)
        obtain ⟨e, w, h⟩ := resolveName_of_not_admits hg
        rw [h]
        refine iff_of_false nofun ?_
        rintro ⟨name', hname', hnames, -⟩
        obtain rfl := Except.ok.inj hname'
        exact hadmits (hiff.mpr hnames)

/-- **The name table is coherent in every state of a session.** After any run of calls from a fresh
session, successful or failing: no key has two entries among the names that are kept and staged;
every name is the one generated from its columns within the limit of the dialect; the names that are
kept stay as they are whatever is called later; and a generated name is given out exactly if it can
be generated and is free or belongs to the same columns. A request that fails changes nothing. -/
theorem names_run {t : Target} {s : Session} (hs : Session.start t = .ok s) (calls : List Call) :
    ((s.run calls).names.map GeneratedName.key).Nodup ∧
    (∀ g ∈ (s.run calls).names,
      generateName t.dialect.maxIdentifierBytes g.kind t.table g.columns = .ok g.name) ∧
    (∀ later, (s.run calls).generated <+: (s.run (calls ++ later)).generated) ∧
    (∀ kind columns quoted,
      ((s.run calls).resolveName ⟨kind, none, columns⟩).result = .ok quoted ↔
        ∃ name, generateName t.dialect.maxIdentifierBytes kind t.table columns = .ok name ∧
          (∀ g ∈ (s.run calls).names, g.key = (kind, name) → g.columns = columns) ∧
          quoted = t.formatter.wrap name) ∧
    ∀ request e, ((s.run calls).resolveName request).result = .error e →
      ((s.run calls).resolveName request).session = s.run calls := by
  obtain rfl : { target := t } = s := by
    rw [start] at hs
    split at hs
    · cases hs
    · exact Except.ok.inj hs
  have htarget : (run { target := t } calls).target = t := target_run _ calls
  obtain ⟨horderly, -⟩ := (Orderly.start t).run calls
  refine ⟨horderly.nodup, ?_, ?_, ?_, ?_⟩
  · intro g hg
    have hderived := horderly.derived g hg
    rwa [htarget] at hderived
  · intro later
    rw [run_append]
    exact (horderly.run later).2
  · intro kind columns quoted
    have hiff := @result_resolveName_generated_iff _ horderly kind columns quoted
    rwa [htarget] at hiff
  · intro request e h
    exact session_resolveName_of_error h

/-- The columns `a` and `b` lead to the same name as the column `a_b`, which owns it already. A name
that was staged before is gone, and one that is staged afterwards is in the table. -/
theorem names_run_of_collision :
    let t : Target :=
      { dialect := .sqlite, formatter := Dialect.sqlite.formatter, table := "users" }
    let s : Session := { target := t }
    let calls : List Call :=
      [.resolveName ⟨.foreign, none, ["team"]⟩, .compile (.addIndex ⟨["a_b"], none⟩),
        .resolveName ⟨.unique, none, ["Email"]⟩]
    Session.start t = .ok s ∧
      (s.run calls).names =
        [⟨.index, "users_a_b_index", ["a_b"]⟩, ⟨.unique, "users_email_unique", ["Email"]⟩] ∧
      ¬ ∃ quoted, ((s.run calls).resolveName ⟨.index, none, ["a", "b"]⟩).result = .ok quoted := by
  intro t s calls
  have hnames : (s.run calls).names =
      [⟨.index, "users_a_b_index", ["a_b"]⟩, ⟨.unique, "users_email_unique", ["Email"]⟩] := by
    decide +kernel
  have hname : generateName t.dialect.maxIdentifierBytes .index t.table ["a", "b"] =
      .ok "users_a_b_index" := by decide +kernel
  refine ⟨rfl, hnames, ?_⟩
  rintro ⟨quoted, hquoted⟩
  obtain ⟨-, -, -, hiff, -⟩ := names_run (t := t) (s := s) rfl calls
  obtain ⟨name, hgenerated, howned, -⟩ := (hiff .index ["a", "b"] quoted).mp hquoted
  obtain rfl : "users_a_b_index" = name := Except.ok.inj (hname.symm.trans hgenerated)
  have hcolumns := howned ⟨.index, "users_a_b_index", ["a_b"]⟩ (hnames ▸ List.mem_cons_self) rfl
  exact absurd hcolumns (by decide)

end Session

end SchemaDdl
