import SchemaDdl.Naming.Name

/-!
# The Length of Generated Names

A readable name that is too long is replaced by its hash, so that the limit of a dialect is kept if
the hash fits. A hash has the same length for every name: twenty bytes of digest are 27 characters
of base64, each of them a single byte.

* `utf8ByteSize_hashedName` — the length of every hash.
* `hashedName_ne_candidateName` — a hash is never a readable name.
* `hashedNameBytes_le_maxIdentifierBytes` — every dialect has room for a hash.

## Main results

* `generateName_eq_ok_iff`, `generateName_eq_error_iff` — which name is generated within a limit,
  and when there is none.
* `exists_generateName` — where a hash fits, there is a name for all columns.
-/

namespace SchemaDdl

/-! ### Hashes -/

/-- A base64 character is a single byte. -/
theorem utf8Size_sextetChar {n : Nat} (h : n < 64) : (Text.sextetChar n).utf8Size = 1 := by
  have hall : ∀ m < 64, (Text.sextetChar m).utf8Size = 1 := by decide
  exact hall n h

/-- Every character of a base64 text stands for a number below 64. -/
theorem exists_sextet_of_mem_base64Chars {bytes : List UInt8} {c : Char}
    (h : c ∈ Text.base64Chars bytes) : ∃ n < 64, Text.sextetChar n = c := by
  induction bytes using Text.base64Chars.induct with
  | case1 => cases h
  | case2 a =>
      have ha := a.toNat_lt
      rw [Text.base64Chars, List.mem_cons, List.mem_singleton] at h
      rcases h with rfl | rfl <;> exact ⟨_, by omega, rfl⟩
  | case3 a b =>
      have ha := a.toNat_lt
      have hb := b.toNat_lt
      rw [Text.base64Chars, List.mem_cons, List.mem_cons, List.mem_singleton] at h
      rcases h with rfl | rfl | rfl <;> exact ⟨_, by omega, rfl⟩
  | case4 a b c rest ih =>
      have ha := a.toNat_lt
      have hb := b.toNat_lt
      have hc := c.toNat_lt
      rw [Text.base64Chars, List.mem_cons, List.mem_cons, List.mem_cons, List.mem_cons] at h
      rcases h with rfl | rfl | rfl | rfl | h
      · exact ⟨_, by omega, rfl⟩
      · exact ⟨_, by omega, rfl⟩
      · exact ⟨_, by omega, rfl⟩
      · exact ⟨_, by omega, rfl⟩
      · exact ih h

/-- All characters of a base64 text are single bytes. -/
theorem utf8Size_of_mem_base64Chars {bytes : List UInt8} {c : Char}
    (h : c ∈ Text.base64Chars bytes) : c.utf8Size = 1 := by
  obtain ⟨n, hn, rfl⟩ := exists_sextet_of_mem_base64Chars h
  exact utf8Size_sextetChar hn

/-- A text of single bytes has as many bytes as characters. -/
theorem utf8ByteSize_ofList {cs : List Char} (h : ∀ c ∈ cs, c.utf8Size = 1) :
    (String.ofList cs).utf8ByteSize = cs.length := by
  induction cs with
  | nil => rfl
  | cons c cs ih =>
      obtain ⟨hc, hcs⟩ := List.forall_mem_cons.mp h
      rw [String.ofList_cons, String.utf8ByteSize_append, ih hcs, String.utf8ByteSize_singleton, hc,
        List.length_cons, Nat.add_comm]

/-- **Every hash has the same length.** -/
theorem utf8ByteSize_hashedName (candidate : String) :
    (hashedName candidate).utf8ByteSize = hashedNameBytes := by
  rw [hashedName, Text.base64, utf8ByteSize_ofList fun _ => utf8Size_of_mem_base64Chars,
    Text.length_base64Chars, Digest.length_sha1]
  rfl

/-! ### Readable names -/

/-- A character that is not in the alphabet is in no hash. -/
theorem notMem_hashedName {c : Char} (hc : ∀ n < 64, Text.sextetChar n ≠ c) (candidate : String) :
    c ∉ (hashedName candidate).toList := by
  rw [hashedName, Text.base64, String.toList_ofList]
  intro h
  obtain ⟨n, hn, hchar⟩ := exists_sextet_of_mem_base64Chars h
  exact hc n hn hchar

/-- No underscore is in a hash. -/
theorem underscore_notMem_hashedName (candidate : String) : '_' ∉ (hashedName candidate).toList :=
  notMem_hashedName (by decide) candidate

/-- A character that is its own lower-case form stays in a text. -/
theorem mem_lowerFrom {c : Char} (hsigma : c ≠ 'Σ') (hlower : Text.lowerChar c = [c])
    {cs : List Char} (h : c ∈ cs) (inWord : Bool) : c ∈ Text.lowerFrom inWord cs := by
  induction cs generalizing inWord with
  | nil => cases h
  | cons d ds ih =>
      rw [Text.lowerFrom, List.mem_append]
      rcases List.mem_cons.mp h with rfl | h
      · left
        rw [if_neg hsigma, hlower]
        exact List.mem_singleton_self c
      · exact Or.inr (ih h _)

/-- A readable name has an underscore, the one in front of the kind at least. -/
theorem underscore_mem_candidateName (kind : ObjectKind) (table : String) (columns : List String) :
    '_' ∈ (candidateName kind table columns).toList := by
  rw [candidateName, Text.lowercase, String.toList_ofList]
  refine mem_lowerFrom (by decide) (by decide) ?_ _
  rw [String.intercalate_append_of_ne_nil (List.cons_ne_nil _ _) (List.cons_ne_nil _ _)]
  simp

/-- **No hash is a readable name**, so a name shows which of the two it is. -/
theorem hashedName_ne_candidateName (candidate : String) (kind : ObjectKind) (table : String)
    (columns : List String) : hashedName candidate ≠ candidateName kind table columns := by
  intro h
  have hmem := underscore_mem_candidateName kind table columns
  rw [← h] at hmem
  exact underscore_notMem_hashedName candidate hmem

/-! ### Limits -/

/-- The name within a limit: the readable one if it fits, else its hash if that fits. -/
theorem generateName_eq_ok_iff {limit : Nat} {kind : ObjectKind} {table : String}
    {columns : List String} {name : String} :
    generateName limit kind table columns = .ok name ↔
      (candidateName kind table columns).utf8ByteSize ≤ limit ∧
          name = candidateName kind table columns ∨
        limit < (candidateName kind table columns).utf8ByteSize ∧ hashedNameBytes ≤ limit ∧
          name = hashedName (candidateName kind table columns) := by
  rw [generateName, utf8ByteSize_hashedName]
  split
  · next hfits =>
      rw [Except.ok.injEq, eq_comm, and_iff_right hfits,
        or_iff_left fun h => Nat.not_le.mpr h.1 hfits]
  · next hlong =>
      rw [or_iff_right fun h => hlong h.1, and_iff_right (Nat.not_le.mp hlong)]
      split
      · next hhash => rw [Except.ok.injEq, eq_comm, and_iff_right hhash]
      · next hhash => exact iff_of_false nofun fun h => hhash h.1

/-- **Generation fails** exactly if the readable name is over the limit and a hash is so, too. -/
theorem generateName_eq_error_iff {limit : Nat} {kind : ObjectKind} {table : String}
    {columns : List String} {e : Error} :
    generateName limit kind table columns = .error e ↔
      limit < hashedNameBytes ∧ limit < (candidateName kind table columns).utf8ByteSize ∧
        e = .nameTooLong (hashedName (candidateName kind table columns)) limit := by
  rw [generateName, utf8ByteSize_hashedName]
  split
  · next hfits => exact iff_of_false nofun fun h => Nat.not_le.mpr h.2.1 hfits
  · next hlong =>
      split
      · next hhash => exact iff_of_false nofun fun h => Nat.not_le.mpr h.1 hhash
      · next hhash =>
          rw [Except.error.injEq, eq_comm, and_iff_right (Nat.not_le.mp hhash),
            and_iff_right (Nat.not_le.mp hlong)]

/-- A generated name is within its limit. -/
theorem utf8ByteSize_le_of_generateName {limit : Nat} {kind : ObjectKind} {table : String}
    {columns : List String} {name : String}
    (h : generateName limit kind table columns = .ok name) : name.utf8ByteSize ≤ limit := by
  rcases generateName_eq_ok_iff.mp h with ⟨hfits, rfl⟩ | ⟨-, hhash, rfl⟩
  · exact hfits
  · rw [utf8ByteSize_hashedName]
    exact hhash

/-- Every dialect has room for a hash. -/
theorem hashedNameBytes_le_maxIdentifierBytes (d : Dialect) :
    hashedNameBytes ≤ d.maxIdentifierBytes := by
  cases d <;> decide

/-- **Where a hash fits, there is a name** for all columns. -/
theorem exists_generateName {limit : Nat} (h : hashedNameBytes ≤ limit) (kind : ObjectKind)
    (table : String) (columns : List String) :
    ∃ name, generateName limit kind table columns = .ok name := by
  rw [generateName]
  split
  · exact ⟨_, rfl⟩
  · rw [utf8ByteSize_hashedName, if_pos h]
    exact ⟨_, rfl⟩

/-- A request gets a name in every dialect. -/
theorem NameRequest.exists_resolve (r : NameRequest) (d : Dialect) (table : String) :
    ∃ name, r.resolve d.maxIdentifierBytes table = .ok name := by
  rw [resolve]
  cases r.explicit with
  | some name => exact ⟨name, rfl⟩
  | none => exact exists_generateName (hashedNameBytes_le_maxIdentifierBytes d) _ _ _

end SchemaDdl
