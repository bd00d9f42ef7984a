import Mathlib.Data.List.Infix

namespace ModelRouter.Base

variable {α β : Type} {spell : α → List β} {valid : α → Prop}

/-- Words none of which is empty or begins another. -/
structure PrefixCode (spell : α → List β) (valid : α → Prop) : Prop where
  nonempty : ∀ a, valid a → spell a ≠ []
  cancel : ∀ a b, valid a → valid b → spell a <+: spell b → a = b

namespace PrefixCode

variable {a b : α} {s t : List β} {xs ys : List α}

theorem cancel_append (h : PrefixCode spell valid) (ha : valid a) (hb : valid b)
    (heq : spell a ++ s = spell b ++ t) : a = b ∧ s = t := by
  have hsame : a = b := by
    rcases List.prefix_or_prefix_of_prefix (List.prefix_append (spell a) s)
      (heq ▸ List.prefix_append (spell b) t) with hpre | hpre
    · exact h.cancel a b ha hb hpre
    · exact (h.cancel b a hb ha hpre).symm
  subst hsame
  exact ⟨rfl, List.append_cancel_left heq⟩

theorem split (h : PrefixCode spell valid) (hxs : ∀ x ∈ xs, valid x) (hys : ∀ y ∈ ys, valid y)
    (heq : xs.flatMap spell ++ s = ys.flatMap spell) :
    ∃ zs, ys = xs ++ zs ∧ s = zs.flatMap spell := by
  induction xs generalizing ys with
  | nil => exact ⟨ys, rfl, heq⟩
  | cons x xs ih =>
      rw [List.forall_mem_cons] at hxs
      cases ys with
      | nil =>
          rw [List.flatMap_cons, List.append_assoc] at heq
          exact absurd (List.append_eq_nil_iff.mp heq).1 (h.nonempty x hxs.1)
      | cons y ys =>
          rw [List.forall_mem_cons] at hys
          rw [List.flatMap_cons, List.flatMap_cons, List.append_assoc] at heq
          obtain ⟨rfl, hrest⟩ := h.cancel_append hxs.1 hys.1 heq
          obtain ⟨zs, rfl, hs⟩ := ih hxs.2 hys.2 hrest
          exact ⟨zs, rfl, hs⟩

end PrefixCode

end ModelRouter.Base
