import SchemaDdl.Proofs.Blocks
import SchemaDdl.Proofs.NameTable
import SchemaDdl.Proofs.NameLength

/-!
# Aliases among Generated Names

Generated names come in two forms, a readable one and a hash, and objects of all kinds share one
space of names. Two of them are the same only if they have to be. A readable name ends in its kind,
which lower-casing leaves alone, so names of different kinds differ. A hash has no underscore, so it
is no readable name. And a hash can be read back to the digest that it was made from, so two hashes
are the same only if the digests are.

* `base64Chars_injective` — the text of bytes determines the bytes.
* `exists_toList_candidateName` — a readable name ends in an underscore and its kind.
* `Session.Refuses` — an operation is refused because its name belongs to other columns.
* `Collide` — the second of two operations is refused because of the first.

## Main results

* `generateName_alias` — the only ways in which two generated names can be the same.
* `refuses_iff` — an operation is refused because of one before it exactly if the readable names are
  the same, which does not depend on the dialect.
* `aliases_of_candidates` — both together.
-/

namespace SchemaDdl

/-! ### Texts of bytes -/

/-- Different numbers have different characters. -/
theorem sextetChar_inj {m n : Nat} (hm : m < 64) (hn : n < 64)
    (h : Text.sextetChar m = Text.sextetChar n) : m = n := by
  have hall : ∀ m < 64, ∀ n < 64, Text.sextetChar m = Text.sextetChar n → m = n := by
    decide +kernel
  exact hall m hm n hn h

/-- **The text of bytes determines the bytes**: their number by its length, and each group of three
by the four numbers that its characters stand for. -/
theorem base64Chars_injective : Function.Injective Text.base64Chars := by
  intro xs ys h
  have hlength : ys.length = xs.length := by
    have hchars := congrArg List.length h
    rw [Text.length_base64Chars, Text.length_base64Chars] at hchars
    omega
  induction xs using Text.base64Chars.induct generalizing ys with
  | case1 => exact (List.length_eq_zero_iff.mp hlength).symm
  | case2 a =>
      obtain ⟨x, rfl⟩ := List.length_eq_one_iff.mp hlength
      have ha := a.toNat_lt
      have hx := x.toNat_lt
      simp only [Text.base64Chars, List.cons.injEq, and_true] at h
      have hhigh := sextetChar_inj (by omega) (by omega) h.1
      have hlow := sextetChar_inj (by omega) (by omega) h.2
      rw [UInt8.toNat_inj.mp (by omega : a.toNat = x.toNat)]
  | case3 a b =>
      obtain ⟨x, y, rfl⟩ := List.length_eq_two.mp hlength
      have ha := a.toNat_lt
      have hb := b.toNat_lt
      have hx := x.toNat_lt
      have hy := y.toNat_lt
      simp only [Text.base64Chars, List.cons.injEq, and_true] at h
      have hhigh := sextetChar_inj (by omega) (by omega) h.1
      have hmid := sextetChar_inj (by omega) (by omega) h.2.1
      have hlow := sextetChar_inj (by omega) (by omega) h.2.2
      have hnumber : a.toNat * 256 + b.toNat = x.toNat * 256 + y.toNat := by omega
      rw [UInt8.toNat_inj.mp (by omega : a.toNat = x.toNat),
        UInt8.toNat_inj.mp (by omega : b.toNat = y.toNat)]
  | case4 a b c rest ih =>
      obtain ⟨x, ys, rfl⟩ := List.exists_cons_of_length_eq_add_one hlength
      obtain ⟨y, ys, rfl⟩ := List.exists_cons_of_length_eq_add_one (Nat.succ.inj hlength)
      obtain ⟨z, others, rfl⟩ :=
        List.exists_cons_of_length_eq_add_one (Nat.succ.inj (Nat.succ.inj hlength))
      have ha := a.toNat_lt
      have hb := b.toNat_lt
      have hc := c.toNat_lt
      have hx := x.toNat_lt
      have hy := y.toNat_lt
      have hz := z.toNat_lt
      simp only [Text.base64Chars, List.cons.injEq] at h
      obtain ⟨hfirst, hsecond, hthird, hfourth, hrest⟩ := h
      have hn₁ := sextetChar_inj (by omega) (by omega) hfirst
      have hn₂ := sextetChar_inj (by omega) (by omega) hsecond
      have hn₃ := sextetChar_inj (by omega) (by omega) hthird
      have hn₄ := sextetChar_inj (by omega) (by omega) hfourth
      have hnumber : (a.toNat * 256 + b.toNat) * 256 + c.toNat =
          (x.toNat * 256 + y.toNat) * 256 + z.toNat := by omega
      rw [UInt8.toNat_inj.mp (by omega : a.toNat = x.toNat),
        UInt8.toNat_inj.mp (by omega : b.toNat = y.toNat),
        UInt8.toNat_inj.mp (by omega : c.toNat = z.toNat),
        ih hrest (by simpa using hlength)]

/-- **A hash determines its digest.** -/
theorem sha1_eq_of_hashedName_eq {a b : String} (h : hashedName a = hashedName b) :
    Digest.sha1 a.toUTF8.data.toList = Digest.sha1 b.toUTF8.data.toList :=
  base64Chars_injective (String.ofList_inj.mp h)

/-! ### The end of a readable name -/

/-- An underscore ends a word, so nothing after it matters to the characters before it. -/
theorem wordContinues_append_underscore (cs ds : List Char) :
    Text.wordContinues (cs ++ '_' :: ds) = Text.wordContinues cs := by
  induction cs with
  | nil =>
      have hignorable : ¬ Text.isCaseIgnorable '_' = true := by decide
      have hcased : Text.isCased '_' = false := by decide
      rw [List.nil_append, Text.wordContinues.eq_def]
      dsimp only
      rw [if_neg hignorable, hcased, Text.wordContinues]
  | cons c cs ih => rw [List.cons_append, Text.wordContinues, Text.wordContinues, ih]

/-- Text is lower-cased in two parts around an underscore. -/
theorem lowerFrom_append_underscore (inWord : Bool) (cs ds : List Char) :
    Text.lowerFrom inWord (cs ++ '_' :: ds) =
      Text.lowerFrom inWord cs ++ '_' :: Text.lowerFrom false ds := by
  induction cs generalizing inWord with
  | nil =>
      rw [List.nil_append, Text.lowerFrom, Text.lowerFrom]
      rfl
  | cons c cs ih =>
      rw [List.cons_append, Text.lowerFrom, Text.lowerFrom, ih, wordContinues_append_underscore,
        List.append_assoc]

/-- Lower-casing leaves the word for a kind alone, which has no underscore. -/
theorem lowerFrom_suffix (kind : ObjectKind) :
    Text.lowerFrom false kind.suffix.toList = kind.suffix.toList ∧ '_' ∉ kind.suffix.toList := by
  cases kind <;> decide

/-- **A readable name ends in an underscore and its kind.** -/
theorem exists_toList_candidateName (kind : ObjectKind) (table : String) (columns : List String) :
    ∃ front, (candidateName kind table columns).toList = front ++ '_' :: kind.suffix.toList := by
  rw [candidateName, Text.lowercase, String.toList_ofList,
    String.intercalate_append_of_ne_nil (List.cons_ne_nil _ _) (List.cons_ne_nil _ _),
    String.intercalate_singleton, String.toList_append, String.toList_append]
  have hline : "_".toList = ['_'] := rfl
  rw [hline, List.append_assoc, List.singleton_append, lowerFrom_append_underscore,
    (lowerFrom_suffix kind).1]
  exact ⟨_, rfl⟩

/-- What stands after the last of several separators is determined by the whole. -/
theorem eq_of_append_separator_eq {c : Char} {a b s t : List Char} (hs : c ∉ s) (ht : c ∉ t)
    (h : a ++ c :: s = b ++ c :: t) : s = t := by
  rcases List.append_eq_append_iff.mp h with ⟨m, -, hm⟩ | ⟨m, -, hm⟩
  · cases m with
    | nil => exact (List.cons.inj hm).2
    | cons d m =>
        obtain ⟨-, rfl⟩ := List.cons.inj hm
        exact absurd (List.mem_append_right m List.mem_cons_self) hs
  · cases m with
    | nil => exact (List.cons.inj hm).2.symm
    | cons d m =>
        obtain ⟨-, rfl⟩ := List.cons.inj hm
        exact absurd (List.mem_append_right m List.mem_cons_self) ht

/-- **Readable names of different kinds differ.** -/
theorem kind_eq_of_candidateName_eq {k₁ k₂ : ObjectKind} {t₁ t₂ : String} {c₁ c₂ : List String}
    (h : candidateName k₁ t₁ c₁ = candidateName k₂ t₂ c₂) : k₁ = k₂ := by
  obtain ⟨a, ha⟩ := exists_toList_candidateName k₁ t₁ c₁
  obtain ⟨b, hb⟩ := exists_toList_candidateName k₂ t₂ c₂
  rw [h, hb] at ha
  have hsuffix : k₁.suffix.toList = k₂.suffix.toList :=
    eq_of_append_separator_eq (lowerFrom_suffix k₁).2 (lowerFrom_suffix k₂).2 ha.symm
  revert hsuffix
  cases k₁ <;> cases k₂ <;> decide

/-! ### Aliases -/

/-- **Two generated names are the same** only if the readable names are, and then they are of one
kind, or if both are hashes of readable names with the same digest. -/
theorem generateName_alias {limit : Nat} {k₁ k₂ : ObjectKind} {t₁ t₂ : String}
    {c₁ c₂ : List String} {name : String} (h₁ : generateName limit k₁ t₁ c₁ = .ok name)
    (h₂ : generateName limit k₂ t₂ c₂ = .ok name) :
    candidateName k₁ t₁ c₁ = candidateName k₂ t₂ c₂ ∧ k₁ = k₂ ∨
      name = hashedName (candidateName k₁ t₁ c₁) ∧ name = hashedName (candidateName k₂ t₂ c₂) ∧
        Digest.sha1 (candidateName k₁ t₁ c₁).toUTF8.data.toList =
          Digest.sha1 (candidateName k₂ t₂ c₂).toUTF8.data.toList := by
  rcases generateName_eq_ok_iff.mp h₁ with ⟨-, hname₁⟩ | ⟨-, -, hname₁⟩ <;>
    rcases generateName_eq_ok_iff.mp h₂ with ⟨-, hname₂⟩ | ⟨-, -, hname₂⟩
  · have hsame := hname₁.symm.trans hname₂
    exact .inl ⟨hsame, kind_eq_of_candidateName_eq hsame⟩
  · exact absurd (hname₂.symm.trans hname₁) (hashedName_ne_candidateName _ _ _ _)
  · exact absurd (hname₁.symm.trans hname₂) (hashedName_ne_candidateName _ _ _ _)
  · exact .inr ⟨hname₁, hname₂, sha1_eq_of_hashedName_eq (hname₁.symm.trans hname₂)⟩

/-- Names of one kind are the same within a limit if the readable names are. -/
theorem generateName_congr {limit : Nat} {kind : ObjectKind} {table : String}
    {a b : List String} (h : candidateName kind table a = candidateName kind table b) :
    generateName limit kind table a = generateName limit kind table b := by
  rw [generateName, generateName, h]

namespace Session

/-! ### Refusals -/

/-- An operation is **refused** because its generated name belongs to other columns, the `owner`. -/
def Refuses (s : Session) (op : Operation) (owner : List String) : Prop :=
  ∃ kind name columns table,
    (s.compile op).result = .error (.invalid (.nameInUse kind name columns owner table))

/-- A name that belongs to other columns is refused, and the columns are reported. -/
theorem claim_of_owner {s : Session} {g : GeneratedName} {owner : List String}
    (howner : s.owner? g.kind g.name = some owner) (hne : owner ≠ g.columns) :
    s.claim g.kind g.name g.columns =
      .error (.invalid (.nameInUse g.kind g.name g.columns owner s.target.table)) := by
  rw [claim, howner]
  dsimp only
  rw [if_neg hne]

/-- A request for a name that belongs to other columns is refused. -/
theorem resolveName_of_owner {s : Session} {g : GeneratedName} {r : NameRequest}
    {owner : List String} (hg : r.generated? s.target = some g)
    (howner : s.owner? g.kind g.name = some owner) (hne : owner ≠ g.columns) :
    ∃ w, s.resolveName r =
      ⟨.error (.invalid (.nameInUse g.kind g.name g.columns owner s.target.table)), s, w⟩ := by
  obtain ⟨kind, explicit, columns⟩ := r
  rw [NameRequest.generated?] at hg
  split at hg
  · next name hexplicit hresolve =>
      obtain rfl := Option.some.inj hg
      obtain rfl : explicit = none := hexplicit
      have hclaim := claim_of_owner howner hne
      rw [NameRequest.resolveOn] at hresolve
      rw [resolveName, hresolve]
      dsimp only at hclaim ⊢
      rw [Option.isSome_none, if_neg Bool.false_ne_true, hclaim]
      exact ⟨_, rfl⟩
  · cases hg

/-- An operation whose generated name belongs to other columns is refused for that reason. -/
theorem compile_of_owner {s : Session} {op : Operation} {g : GeneratedName} {owner : List String}
    (hvalid : op.validate = .ok ()) (hg : op.generated? s.target = some g)
    (howner : s.unstage.owner? g.kind g.name = some owner) (hne : owner ≠ g.columns) :
    (s.compile op).result =
      .error (.invalid (.nameInUse g.kind g.name g.columns owner s.target.table)) := by
  rw [← op.generated?_plan s.target] at hg
  rw [compile_of_valid hvalid, result_settle]
  cases hplan : op.plan s.target with
  | emit em => rw [hplan] at hg; cases hg
  | named r sql =>
      rw [hplan] at hg
      obtain ⟨w, hresolve⟩ := @resolveName_of_owner s.unstage g r owner hg howner hne
      rw [carryOut, hresolve]
      rfl

/-- **An operation with a block is refused** exactly if its generated name belongs to other
columns. -/
theorem refuses_iff_owner {s : Session} {op : Operation} {g : GeneratedName} {owner : List String}
    (hblock : ∃ block, op.block s.target = .ok block) (hg : op.generated? s.target = some g) :
    s.Refuses op owner ↔ s.unstage.owner? g.kind g.name = some owner ∧ owner ≠ g.columns := by
  have hvalid : op.validate = .ok () := by
    obtain ⟨block, hb⟩ := hblock
    exact (Operation.block_eq_ok_iff.mp hb).1
  constructor
  · rintro ⟨kind, name, columns, table, hrefused⟩
    have hnot : ¬ s.unstage.Admits g := by
      intro hadmits
      have hok := compile_eq_ok_iff.mpr ⟨hblock, hg ▸ fun g' hg' => Option.some.inj hg' ▸ hadmits⟩
      rw [hrefused] at hok
      cases hok
    rw [Admits] at hnot
    push Not at hnot
    obtain ⟨other, hother, hne⟩ := hnot
    -- The error names the owner that was found, so it is the same one.
    rw [compile_of_owner hvalid hg hother hne] at hrefused
    injection hrefused with herror
    injection herror with hreason
    injection hreason with _ _ _ howner _
    exact howner ▸ ⟨hother, hne⟩
  · rintro ⟨howner, hne⟩
    exact ⟨_, _, _, _, compile_of_owner hvalid hg howner hne⟩

/-- In an orderly session, a name belongs to the columns of its entry. -/
theorem Orderly.owner?_eq_some_iff {s : Session} (hs : s.Orderly) {kind : ObjectKind}
    {name : String} {columns : List String} :
    s.owner? kind name = some columns ↔ ⟨kind, name, columns⟩ ∈ s.names := by
  refine ⟨mem_of_owner?, fun hmem => ?_⟩
  have hsome : s.owner? kind name ≠ none := owner?_ne_none hmem
  obtain ⟨owner, howner⟩ := Option.ne_none_iff_exists'.mp hsome
  have hentry : (⟨kind, name, owner⟩ : GeneratedName) = ⟨kind, name, columns⟩ :=
    List.inj_on_of_nodup_map hs.nodup (mem_of_owner? howner) hmem rfl
  injection hentry with _ _ hcolumns
  rw [howner, hcolumns]

/-! ### Names that are kept -/

/-- The generated names of operations that all compile in a row belong to the session in the end. -/
theorem mem_generated_of_log {s : Session} (hs : s.Orderly) {ops : List Operation}
    (hlog : s.log (ops.map Call.compile) = ops.map Attempt.success) {op : Operation}
    (hop : op ∈ ops) {g : GeneratedName} (hg : op.generated? s.target = some g) :
    g ∈ (s.run (ops.map Call.compile)).generated := by
  induction ops generalizing s with
  | nil => cases hop
  | cons first rest ih =>
      have hhead : s.log ((first :: rest).map Call.compile) =
          ⟨first, (s.compile first).result⟩ ::
            (s.compile first).session.log (rest.map Call.compile) := rfl
      rw [hhead, List.map_cons] at hlog
      obtain ⟨hfirst, hrest⟩ := List.cons.inj hlog
      injection hfirst with _ hresult
      have hafter := hs.compile first
      rcases List.mem_cons.mp hop with rfl | hop
      · have hmem : g ∈ (s.compile op).session.generated :=
          (mem_generated_compile hresult g).mpr (.inr hg)
        exact (hafter.run (rest.map Call.compile)).2.subset hmem
      · exact ih hafter hrest hop ((target_compile s first).symm ▸ hg)

/-- **The name of an operation that compiled in a run belongs to its columns** from then on. -/
theorem mem_generated_of_kept {t : Target} {calls : List Call} {op : Operation}
    (hop : op ∈ kept { target := t } calls) {g : GeneratedName} (hg : op.generated? t = some g) :
    g ∈ (run { target := t } calls).generated := by
  have horderly := Orderly.start t
  obtain ⟨hrun, hlog⟩ := @replays_run { target := t } { target := t } rfl calls
  have hgenerated := congrArg Session.generated hrun
  have hmem := mem_generated_of_log horderly hlog hop hg
  exact (hgenerated : _ = (run { target := t } calls).generated) ▸ hmem

/-- An operation that asks for a generated name needs the one that is generated from its columns. -/
theorem exists_generated?_of_request {t : Target} {op : Operation} {kind : ObjectKind}
    {columns : List String} (h : op.request? t.dialect = some ⟨kind, none, columns⟩) :
    ∃ name, generateName t.dialect.maxIdentifierBytes kind t.table columns = .ok name ∧
      op.generated? t = some ⟨kind, name, columns⟩ := by
  obtain ⟨name, hname⟩ :=
    exists_generateName (hashedNameBytes_le_maxIdentifierBytes t.dialect) kind t.table columns
  have hresolve : NameRequest.resolveOn ⟨kind, none, columns⟩ t = .ok name := hname
  refine ⟨name, hname, ?_⟩
  rw [Operation.generated?, h, Option.bind_some, NameRequest.generated?, hresolve]

/-- **When an operation is refused because of another.** After any calls in which the first one
compiled, the second one, over other columns, is refused because of it exactly if the readable names
are the same, unless two digests are. -/
theorem refuses_iff {t : Target} {calls : List Call} {first second : Operation}
    {kind : ObjectKind} {a b : List String}
    (hfirst : first.request? t.dialect = some ⟨kind, none, a⟩)
    (hsecond : second.request? t.dialect = some ⟨kind, none, b⟩) (hab : a ≠ b)
    (hdigest : Digest.sha1 (candidateName kind t.table a).toUTF8.data.toList =
        Digest.sha1 (candidateName kind t.table b).toUTF8.data.toList →
      candidateName kind t.table a = candidateName kind t.table b)
    (hblock : ∃ block, second.block t = .ok block) (hkept : first ∈ kept { target := t } calls) :
    (run { target := t } calls).Refuses second a ↔
      candidateName kind t.table a = candidateName kind t.table b := by
  have htarget : (run { target := t } calls).target = t := target_run _ calls
  have htarget' : (run { target := t } calls).unstage.target = t := htarget
  have horderly := ((Orderly.start t).run calls).1.unstage
  obtain ⟨nameA, hnameA, hgeneratedA⟩ := exists_generated?_of_request hfirst
  obtain ⟨nameB, hnameB, hgeneratedB⟩ := exists_generated?_of_request hsecond
  rw [refuses_iff_owner (htarget.symm ▸ hblock) (htarget.symm ▸ hgeneratedB), and_iff_left hab,
    horderly.owner?_eq_some_iff]
  constructor
  · intro hmem
    -- The name belongs to the first columns, so it is the one that is generated from both.
    have hderived := horderly.derived _ hmem
    rw [htarget'] at hderived
    rcases generateName_alias hderived hnameB with ⟨h, -⟩ | ⟨-, -, h⟩
    · exact h
    · exact hdigest h
  · intro hcandidates
    rw [generateName_congr hcandidates, hnameB] at hnameA
    obtain rfl := Except.ok.inj hnameA
    exact List.mem_append_left _ (mem_generated_of_kept hkept hgeneratedA)

end Session

/-- On a target, the second of two operations **collides** with the first, over columns `owner`, if
it is refused because of it in a fresh session in which the first has compiled. -/
def Collide (t : Target) (first second : Operation) (owner : List String) : Prop :=
  ∃ s, Session.start t = .ok s ∧ (s.compile first).result = .ok () ∧
    (s.compile first).session.Refuses second owner

/-- An operation that compiles alone compiles in a session that starts for its table. -/
theorem Operation.start_of_compileAlone {t : Target} {op : Operation} {block : List Statement}
    (h : op.compileAlone t = .ok block) :
    t.table ≠ "" ∧ Session.start t = .ok { target := t } ∧
      (Session.compile { target := t } op).result = .ok () := by
  have htable : t.table ≠ "" := by
    intro hempty
    rw [compileAlone, Session.start, hempty] at h
    cases h
  have hstart := Session.start_eq_ok htable
  refine ⟨htable, hstart, ?_⟩
  rw [compileAlone, hstart] at h
  dsimp only at h
  cases hresult : (Session.compile { target := t } op).result with
  | error e => rw [hresult] at h; cases h
  | ok _ => rfl

/-- **Generated names alias only when their candidates do.** If the names for two objects are the
same within a limit, then the readable names are the same, and with them the kinds, or both names
are hashes of readable names with the same digest; no hash is a readable name. So consider two
unnamed indexes, or two unnamed unique constraints, over different columns of a table, whose
readable names do not share a digest unless they are the same. Wherever both compile alone, the
second is refused because of the first exactly if the readable names are the same, in a fresh
session and after any calls in which the first has compiled. So it is refused in one dialect exactly
if it is in all. -/
theorem aliases_of_candidates :
    (∀ limit k₁ k₂ t₁ t₂ c₁ c₂ name, generateName limit k₁ t₁ c₁ = .ok name →
      generateName limit k₂ t₂ c₂ = .ok name →
      candidateName k₁ t₁ c₁ = candidateName k₂ t₂ c₂ ∧ k₁ = k₂ ∨
        name = hashedName (candidateName k₁ t₁ c₁) ∧ name = hashedName (candidateName k₂ t₂ c₂) ∧
          Digest.sha1 (candidateName k₁ t₁ c₁).toUTF8.data.toList =
            Digest.sha1 (candidateName k₂ t₂ c₂).toUTF8.data.toList) ∧
    (∀ candidate kind table columns, hashedName candidate ≠ candidateName kind table columns) ∧
    ∀ (table : String) (add : KeySpec → Operation) (kind : ObjectKind) (a b : List String),
      add = .addIndex ∧ kind = .index ∨ add = .addUnique ∧ kind = .unique → a ≠ b →
      (Digest.sha1 (candidateName kind table a).toUTF8.data.toList =
          Digest.sha1 (candidateName kind table b).toUTF8.data.toList →
        candidateName kind table a = candidateName kind table b) →
      (∀ t : Target, t.table = table →
        (∃ block, (add ⟨a, none⟩).compileAlone t = .ok block) →
        (∃ block, (add ⟨b, none⟩).compileAlone t = .ok block) →
        (Collide t (add ⟨a, none⟩) (add ⟨b, none⟩) a ↔
          candidateName kind table a = candidateName kind table b) ∧
        ∀ s calls, Session.start t = .ok s → add ⟨a, none⟩ ∈ s.kept calls →
          ((s.run calls).Refuses (add ⟨b, none⟩) a ↔
            candidateName kind table a = candidateName kind table b)) ∧
      ∀ t : Dialect → Target,
        (∀ d, (t d).dialect = d ∧ (t d).table = table ∧
          (∃ block, (add ⟨a, none⟩).compileAlone (t d) = .ok block) ∧
          ∃ block, (add ⟨b, none⟩).compileAlone (t d) = .ok block) →
        ((∃ d, Collide (t d) (add ⟨a, none⟩) (add ⟨b, none⟩) a) ↔
          ∀ d, Collide (t d) (add ⟨a, none⟩) (add ⟨b, none⟩) a) := by
  refine ⟨fun _ _ _ _ _ _ _ _ => generateName_alias, hashedName_ne_candidateName, ?_⟩
  intro table add kind a b hadd hab hdigest
  have hrequest : ∀ d columns, (add ⟨columns, none⟩).request? d = some ⟨kind, none, columns⟩ := by
    intro d columns
    rcases hadd with ⟨rfl, rfl⟩ | ⟨rfl, rfl⟩ <;> rfl
  have hrun : ∀ t : Target, t.table = table →
      (∃ block, (add ⟨b, none⟩).compileAlone t = .ok block) →
      ∀ s calls, Session.start t = .ok s → add ⟨a, none⟩ ∈ s.kept calls →
        ((s.run calls).Refuses (add ⟨b, none⟩) a ↔
          candidateName kind table a = candidateName kind table b) := by
    rintro t rfl ⟨block, halone⟩ s calls hs hkept
    obtain rfl := Session.eq_of_start hs
    obtain ⟨htable, -⟩ := Operation.start_of_compileAlone halone
    rw [Operation.compileAlone_eq_block htable] at halone
    exact Session.refuses_iff (hrequest _ a) (hrequest _ b) hab hdigest ⟨block, halone⟩ hkept
  have hcollide : ∀ t : Target, t.table = table →
      (∃ block, (add ⟨a, none⟩).compileAlone t = .ok block) →
      (∃ block, (add ⟨b, none⟩).compileAlone t = .ok block) →
      (Collide t (add ⟨a, none⟩) (add ⟨b, none⟩) a ↔
        candidateName kind table a = candidateName kind table b) := by
    intro t ht ⟨block, halone⟩ hb
    obtain ⟨-, hstart, hresult⟩ := Operation.start_of_compileAlone halone
    have hkept : add ⟨a, none⟩ ∈ Session.kept { target := t } [.compile (add ⟨a, none⟩)] := by
      rw [Session.kept, Session.log, Session.attempts, hresult]
      exact List.mem_singleton_self _
    have hrefuses := hrun t ht hb _ [.compile (add ⟨a, none⟩)] hstart hkept
    rw [← hrefuses]
    constructor
    · rintro ⟨s, hs, -, h⟩
      obtain rfl := Session.eq_of_start hs
      exact h
    · intro h
      exact ⟨_, hstart, hresult, h⟩
  refine ⟨fun t ht ha hb => ⟨hcollide t ht ha hb, hrun t ht hb⟩, ?_⟩
  intro t ht
  have hiff : ∀ d, Collide (t d) (add ⟨a, none⟩) (add ⟨b, none⟩) a ↔
      candidateName kind table a = candidateName kind table b := by
    intro d
    obtain ⟨-, htable, ha, hb⟩ := ht d
    exact hcollide (t d) htable ha hb
  constructor
  · rintro ⟨d, hd⟩ d'
    exact (hiff d').mpr ((hiff d).mp hd)
  · intro h
    exact ⟨.generic, h .generic⟩

/-- An index over `a` and `b` collides with one over `a_b`, in every dialect, and one over `c` does
not. -/
theorem aliases_of_candidates_of_underscore :
    let t : Dialect → Target := fun d =>
      { dialect := d, formatter := d.formatter, table := "users" }
    generateName 30 .index "users" ["a_b"] = .ok "users_a_b_index" ∧
      generateName 30 .index "users" ["a", "b"] = .ok "users_a_b_index" ∧
      (∀ d, (t d).dialect = d ∧ (t d).table = "users" ∧
        (∃ block, (Operation.addIndex ⟨["a_b"], none⟩).compileAlone (t d) = .ok block) ∧
        ∃ block, (Operation.addIndex ⟨["a", "b"], none⟩).compileAlone (t d) = .ok block) ∧
      (∀ d, Collide (t d) (.addIndex ⟨["a_b"], none⟩) (.addIndex ⟨["a", "b"], none⟩) ["a_b"]) ∧
      ¬ Collide (t .oracle) (.addIndex ⟨["a_b"], none⟩) (.addIndex ⟨["c"], none⟩) ["a_b"] := by
  intro t
  obtain ⟨halias, -, hsession⟩ := aliases_of_candidates
  have hfirst : generateName 30 .index "users" ["a_b"] = .ok "users_a_b_index" := by decide +kernel
  have hsecond : generateName 30 .index "users" ["a", "b"] = .ok "users_a_b_index" := by
    decide +kernel
  have hsame : candidateName .index "users" ["a_b"] = candidateName .index "users" ["a", "b"] := by
    rcases halias _ _ _ _ _ _ _ _ hfirst hsecond with ⟨h, -⟩ | ⟨h, -⟩
    · exact h
    · exact absurd h (by decide +kernel)
  have halone : ∀ {d : Dialect} {op : Operation}, (op.compileAlone (t d)).isOk = true →
      ∃ block, op.compileAlone (t d) = .ok block := by
    intro d op hok
    cases hresult : op.compileAlone (t d) with
    | error e => rw [hresult] at hok; cases hok
    | ok block => exact ⟨block, rfl⟩
  have hall : ∀ d, (t d).dialect = d ∧ (t d).table = "users" ∧
      (∃ block, (Operation.addIndex ⟨["a_b"], none⟩).compileAlone (t d) = .ok block) ∧
      ∃ block, (Operation.addIndex ⟨["a", "b"], none⟩).compileAlone (t d) = .ok block := by
    intro d
    refine ⟨rfl, rfl, halone ?_, halone ?_⟩ <;> cases d <;> decide +kernel
  obtain ⟨hone, hevery⟩ := hsession "users" .addIndex .index ["a_b"] ["a", "b"] (.inl ⟨rfl, rfl⟩)
    (by decide) fun _ => hsame
  have horacle := (hone (t .oracle) rfl (hall .oracle).2.2.1 (hall .oracle).2.2.2).1.mpr hsame
  refine ⟨hfirst, hsecond, hall, (hevery t hall).mp ⟨.oracle, horacle⟩, ?_⟩
  have hdigests : Digest.sha1 (candidateName .index "users" ["a_b"]).toUTF8.data.toList ≠
      Digest.sha1 (candidateName .index "users" ["c"]).toUTF8.data.toList := by decide +kernel
  obtain ⟨hother, -⟩ := hsession "users" .addIndex .index ["a_b"] ["c"] (.inl ⟨rfl, rfl⟩)
    (by decide) fun h => absurd h hdigests
  have hthird : ∃ block, (Operation.addIndex ⟨["c"], none⟩).compileAlone (t .oracle) = .ok block :=
    halone (by decide +kernel)
  rw [(hother (t .oracle) rfl (hall .oracle).2.2.1 hthird).1]
  decide +kernel

end SchemaDdl
