import Mathlib.Data.List.Forall2

/-!
# Texts That Stay or Grow

Two texts that are built alike can be equal although their parts are not: what one part has too much
another one may lack. If no part gets shorter, this cannot happen. Here a part of a text either
stays as it is or gets longer, depending on a condition, and the whole text stays exactly if all the
conditions hold.

* `StaysIf` — a text stays as it is on a condition, and gets longer otherwise.
* `StaysIf.append`, `staysIf_intercalate` — the conditions of the parts of a text.
-/

namespace SchemaDdl

/-- A text **stays if** a condition holds: another text is equal to it then, and is longer
otherwise. -/
structure StaysIf (a b : String) (p : Prop) : Prop where
  /-- The text stays. -/
  eq : p → b = a
  /-- The text gets longer. -/
  grows : ¬ p → a.length < b.length

namespace StaysIf

variable {a b x y : String} {p q : Prop}

/-- A text stays itself. -/
theorem refl (a : String) : StaysIf a a True :=
  ⟨fun _ => rfl, fun h => absurd trivial h⟩

/-- Equivalent conditions. -/
theorem congr (h : StaysIf a b p) (hpq : p ↔ q) : StaysIf a b q :=
  ⟨fun hq => h.eq (hpq.mpr hq), fun hq => h.grows fun hp => hq (hpq.mp hp)⟩

/-- **A text is the same exactly if the condition holds**, because it is longer otherwise. -/
theorem eq_iff (h : StaysIf a b p) : b = a ↔ p := by
  refine ⟨fun heq => by_contra fun hp => ?_, h.eq⟩
  have hlt := h.grows hp
  rw [heq] at hlt
  exact Nat.lt_irrefl _ hlt

/-- A text never gets shorter. -/
theorem length_le (h : StaysIf a b p) : a.length ≤ b.length := by
  by_cases hp : p
  · exact Nat.le_of_eq (congrArg String.length (h.eq hp).symm)
  · exact Nat.le_of_lt (h.grows hp)

/-- Two texts one after the other stay if both do. -/
theorem append (ha : StaysIf a b p) (hx : StaysIf x y q) : StaysIf (a ++ x) (b ++ y) (p ∧ q) where
  eq h := by rw [ha.eq h.1, hx.eq h.2]
  grows h := by
    rw [String.length_append, String.length_append]
    have hale := ha.length_le
    have hxle := hx.length_le
    by_cases hp : p
    · have hlt := hx.grows fun hq => h ⟨hp, hq⟩
      omega
    · have hlt := ha.grows hp
      omega

/-- Text in front does not matter. -/
theorem append_left (h : StaysIf a b p) (x : String) : StaysIf (x ++ a) (x ++ b) p :=
  ((refl x).append h).congr (and_iff_right trivial)

/-- Text behind does not matter. -/
theorem append_right (h : StaysIf a b p) (x : String) : StaysIf (a ++ x) (b ++ x) p :=
  (h.append (refl x)).congr (and_iff_left trivial)

end StaysIf

/-- Texts in a row stay if each of them does. -/
theorem staysIf_intercalate {α β : Type} {f : α → String} {g : β → String} {p : α → β → Prop}
    (sep : String) {xs : List α} {ys : List β}
    (h : List.Forall₂ (fun x y => StaysIf (f x) (g y) (p x y)) xs ys) :
    StaysIf (sep.intercalate (xs.map f)) (sep.intercalate (ys.map g)) (List.Forall₂ p xs ys) := by
  induction h with
  | nil => exact (StaysIf.refl _).congr (iff_of_true trivial List.Forall₂.nil)
  | cons hx hxs ih =>
      rw [List.forall₂_cons]
      cases hxs with
      | nil =>
          rw [List.map_singleton, List.map_singleton, String.intercalate_singleton,
            String.intercalate_singleton]
          exact hx.congr (Iff.symm (and_iff_left (@List.Forall₂.nil _ _ p)))
      | cons hy hys =>
          rw [List.map_cons, List.map_cons, List.map_cons, List.map_cons,
            String.intercalate_cons_cons, String.intercalate_cons_cons]
          exact (hx.append_right sep).append ih

/-- Texts in a row, made from one list in two ways, stay if each of them does. -/
theorem staysIf_intercalate_same {α : Type} {f g : α → String} {p : α → Prop} (sep : String)
    {xs : List α} (h : ∀ x ∈ xs, StaysIf (f x) (g x) (p x)) :
    StaysIf (sep.intercalate (xs.map f)) (sep.intercalate (xs.map g)) (∀ x ∈ xs, p x) :=
  (staysIf_intercalate (p := fun x _ => p x) sep (List.forall₂_same.mpr h)).congr List.forall₂_same

end SchemaDdl
