import SchemaDdl.Proofs.MatchingDrops
import SchemaDdl.Proofs.NamesReadBack

/-!
# Names of Two Additions

Two indexes of a table, or two constraints of one kind, have to be told apart by their names. A
session keeps generated names apart: what is generated for other columns of the same kind is
refused, whatever the reason for which the names meet. A name that an operation gives itself is
written as it is, and nobody compares it with anything. It can therefore meet the name of another
addition, and it does so exactly if the same text is given twice, or given once and generated once.

* `Operation.addedKey?` — the kind, the columns and the explicit name of what an operation adds.
* `Operation.exists_added` — the one statement that adds it, and where its name comes from.

## Main results

* `added_names_eq_iff` — when two additions to other columns mention the same name.
* `given_names_meet` — a unit that does so.
-/

namespace SchemaDdl

/-! ### Additions -/

namespace Operation

variable {t : Target} {op : Operation} {kind : ObjectKind} {key : KeySpec} {block : List Statement}

/-- What an operation **adds**, if it is an index, a unique constraint or a foreign key: the kind of
the object with its columns and its explicit name. -/
def addedKey? : Operation → Option (ObjectKind × KeySpec)
  | addIndex key => some (.index, key)
  | addUnique key => some (.unique, key)
  | addForeignKey key => some (.foreign, ⟨key.columns, key.name⟩)
  | _ => none

/-- An addition that the dialect supports asks for a name by its columns. -/
theorem request?_of_addedKey? (h : op.addedKey? = some (kind, key))
    (hplan : (op.plan t).failure? = none) :
    op.request? t.dialect = some ⟨kind, key.name, key.columns⟩ := by
  cases op with
  | addIndex key' | addUnique key' =>
      obtain ⟨rfl, rfl⟩ := Prod.mk.inj (Option.some.inj h)
      rfl
  | addForeignKey key' =>
      obtain ⟨rfl, rfl⟩ := Prod.mk.inj (Option.some.inj h)
      exact request?_addForeignKey hplan
  | _ => cases h

/-- **An addition** is one statement with the name in its frame. The name is the explicit one, or it
is generated for the columns. -/
theorem exists_added (h : op.addedKey? = some (kind, key)) (hb : op.block t = .ok block) :
    ∃ frame name, op.frame? t = some frame ∧
      block = [{ sql := frame.around (t.formatter.wrap name) }] ∧
      (key.name = some name ∨
        key.name = none ∧
          generateName t.dialect.maxIdentifierBytes kind t.table key.columns = .ok name) := by
  have hrequest := request?_of_addedKey? h (texts_of_block hb).1
  have hframe : (op.frame? t).isSome := by
    rw [isSome_frame?, hrequest]
    rfl
  obtain ⟨frame, hframe⟩ := Option.isSome_iff_exists.mp hframe
  obtain ⟨name, hname, rfl⟩ := block_of_frame? hframe hb
  refine ⟨frame, name, hframe, rfl, ?_⟩
  rw [resolvedName?, hrequest, Option.bind_some, NameRequest.resolveOn,
    NameRequest.resolve] at hname
  cases hkey : key.name with
  | some explicit =>
      rw [hkey] at hname
      exact .inl hname
  | none =>
      rw [hkey] at hname
      refine .inr ⟨rfl, ?_⟩
      dsimp only at hname
      cases hresult : generateName t.dialect.maxIdentifierBytes kind t.table key.columns with
      | error e => rw [hresult] at hname; cases hname
      | ok generated =>
          rw [hresult] at hname
          exact congrArg _ (Option.some.inj hname)

/-- The generated name of an addition is among those that the operations need. -/
theorem mem_generatedNames_of_addedKey? {ops : List Operation} (hop : op ∈ ops)
    (h : op.addedKey? = some (kind, key)) (hb : op.block t = .ok block) (hkey : key.name = none)
    {name : String}
    (hname : generateName t.dialect.maxIdentifierBytes kind t.table key.columns = .ok name) :
    ⟨kind, name, key.columns⟩ ∈ generatedNames t ops := by
  have hresolve : NameRequest.resolveOn ⟨kind, none, key.columns⟩ t = .ok name := hname
  refine List.mem_filterMap.mpr ⟨op, hop, ?_⟩
  rw [generated?, request?_of_addedKey? h (texts_of_block hb).1, Option.bind_some, hkey,
    NameRequest.generated?, hresolve]

end Operation

/-! ### Two additions -/

namespace MigrationUnit

/-- **When two additions mention the same name.** In a unit that compiles, let two operations add
objects of one kind to different columns. Each is a single statement, in the order of the
operations. Its name is the explicit one or generated for the columns, and stands in quotes. The
quoted names are equal exactly if the names are and one of them is explicit: two generated names
never are, in the readable form or as hashes, and an explicit name is kept whatever it meets. -/
theorem added_names_eq_iff {u : MigrationUnit} {d : Dialect} {out : List Statement}
    (hout : u.compile d = .ok out) {a b c : List Operation} {first second : Operation}
    (hops : u.operations = a ++ first :: b ++ second :: c) {kind : ObjectKind} {k l : KeySpec}
    (hfirst : first.addedKey? = some (kind, k)) (hsecond : second.addedKey? = some (kind, l))
    (hcolumns : k.columns ≠ l.columns) :
    ∃ (p q r : List Statement) (f g : Frame) (m n : String),
      out = p ++ { sql := f.around (d.wrap m) } :: q ++ { sql := g.around (d.wrap n) } :: r ∧
      first.frame? (u.target d) = some f ∧ second.frame? (u.target d) = some g ∧
      (k.name = some m ∨
        k.name = none ∧ generateName d.maxIdentifierBytes kind u.table k.columns = .ok m) ∧
      (l.name = some n ∨
        l.name = none ∧ generateName d.maxIdentifierBytes kind u.table l.columns = .ok n) ∧
      (d.wrap m = d.wrap n ↔ m = n ∧ (k.name ≠ none ∨ l.name ≠ none)) := by
  obtain ⟨⟨hblocks, hcoherent⟩, hflat⟩ := (compile_eq_ok_iff (table_ne_of_compile hout)).mp hout
  have hmem₁ : first ∈ u.operations := by simp [hops]
  have hmem₂ : second ∈ u.operations := by simp [hops]
  obtain ⟨block₁, hblock₁⟩ := hblocks first hmem₁
  obtain ⟨block₂, hblock₂⟩ := hblocks second hmem₂
  obtain ⟨f, m, hf, rfl, hm⟩ := Operation.exists_added hfirst hblock₁
  obtain ⟨g, n, hg, rfl, hn⟩ := Operation.exists_added hsecond hblock₂
  refine ⟨a.flatMap fun op => op.statements (u.target d),
    b.flatMap fun op => op.statements (u.target d), c.flatMap fun op => op.statements (u.target d),
    f, g, m, n, ?_, hf, hg, hm, hn, ?_⟩
  · rw [hflat, hops]
    simp only [List.flatMap_append, List.flatMap_cons, Operation.statements, hblock₁, hblock₂]
    rfl
  · rw [d.wrap_injective.eq_iff, iff_self_and]
    rintro rfl
    -- Two generated names would be kept apart, since the columns are not the same.
    by_contra hnone
    obtain ⟨hk, hl⟩ := not_or.mp hnone
    obtain ⟨hk, hl⟩ := And.intro (not_not.mp hk) (not_not.mp hl)
    obtain ⟨-, hm⟩ := hm.resolve_left (by simp [hk])
    obtain ⟨-, hn⟩ := hn.resolve_left (by simp [hl])
    have hfirst' := Operation.mem_generatedNames_of_addedKey? hmem₁ hfirst hblock₁ hk hm
    have hsecond' := Operation.mem_generatedNames_of_addedKey? hmem₂ hsecond hblock₂ hl hn
    exact hcolumns (hcoherent _ hfirst' _ hsecond' rfl rfl)

/-- A unit in which the explicit name of an index is the one that is generated for another. Both are
created under it, and what stands between them makes no difference. -/
theorem added_names_eq_iff_of_users :
    let u : MigrationUnit :=
      { table := "users"
        operations :=
          [.addIndex ⟨["email"], none⟩, .dropColumns ["age"], .setComment none,
            .addIndex ⟨["name"], some "users_email_index"⟩] }
    ∃ (out p q r : List Statement) (f g : Frame), u.compile .generic = .ok out ∧
      out = p ++ { sql := f.around "\"users_email_index\"" } :: q ++
        { sql := g.around "\"users_email_index\"" } :: r := by
  intro u
  have hok : (u.compile .generic).isOk = true := by decide +kernel
  have hname : generateName 128 .index "users" ["email"] = .ok "users_email_index" := by
    decide +kernel
  have hwrap : Dialect.generic.wrap "users_email_index" = "\"users_email_index\"" := by
    decide +kernel
  cases hout : u.compile .generic with
  | error e => rw [hout] at hok; cases hok
  | ok out =>
      obtain ⟨p, q, r, f, g, m, n, hsplit, -, -, hm, hn, -⟩ :=
        added_names_eq_iff (a := []) (b := [.dropColumns ["age"], .setComment none]) (c := [])
          (k := ⟨["email"], none⟩) (l := ⟨["name"], some "users_email_index"⟩) hout rfl rfl rfl
          (by decide)
      obtain ⟨-, hm⟩ := hm.resolve_left nofun
      obtain rfl : "users_email_index" = m := Except.ok.inj (hname.symm.trans hm)
      obtain rfl : "users_email_index" = n :=
        Option.some.inj (hn.resolve_right fun h => nomatch h.1)
      rw [hwrap] at hsplit
      exact ⟨out, p, q, r, f, g, rfl, hsplit⟩

/-- Two indexes on different columns that are given one name are both created under it. -/
theorem given_names_meet :
    let u : MigrationUnit :=
      { table := "users"
        operations := [.addIndex ⟨["a"], some "i"⟩, .addIndex ⟨["b"], some "i"⟩] }
    (["a"] : List String) ≠ ["b"] ∧
      u.compile .generic =
        .ok [{ sql := "CREATE INDEX \"i\" ON \"users\" (\"a\")" },
          { sql := "CREATE INDEX \"i\" ON \"users\" (\"b\")" }] :=
  ⟨by decide, rfl⟩

end MigrationUnit

end SchemaDdl
