import Mathlib.Data.List.Basic
import Mathlib.Data.List.Nodup

namespace ModelRouter.Base.Counter

/-! A source of numbers that stops at a ceiling. -/

inductive Call where
  | next
  | observe (seen : Nat)
deriving DecidableEq, Repr

variable (ceiling : Nat)

/-- The counter after a call. -/
def step (counter : Nat) : Call → Nat
  | .next => if counter < ceiling then counter + 1 else counter
  | .observe seen => max counter seen

/-- The counters that the calls of `next` find. -/
def found : Nat → List Call → List Nat
  | _, [] => []
  | counter, .next :: calls => counter :: found (step ceiling counter .next) calls
  | counter, .observe seen :: calls => found (step ceiling counter (.observe seen)) calls

def number (counter : Nat) : Nat :=
  if counter < ceiling then counter + 1 else ceiling

/-- The numbers that a sequence of calls returns. -/
def returned (counter : Nat) (calls : List Call) : List Nat :=
  (found ceiling counter calls).map (number ceiling)

/-- No two calls of `next` find the counter at its ceiling or one below. -/
def Roomy (counter : Nat) (calls : List Call) : Prop :=
  ((found ceiling counter calls).filter fun c => ceiling ≤ c + 1).length ≤ 1

variable {ceiling} {counter : Nat} {calls : List Call}

theorem le_step (c : Call) : counter ≤ step ceiling counter c := by
  cases c with
  | next =>
      rw [step]
      split
      · exact Nat.le_succ counter
      · exact Nat.le_refl counter
  | observe seen => exact Nat.le_max_left counter seen

theorem number_le_step : number ceiling counter ≤ step ceiling counter .next := by
  rw [number, step]
  split
  · exact Nat.le_refl _
  · omega

theorem le_of_mem_found {c : Nat} (h : c ∈ found ceiling counter calls) : counter ≤ c := by
  induction calls generalizing counter with
  | nil => cases h
  | cons call calls ih =>
      cases call with
      | next =>
          rw [found, List.mem_cons] at h
          rcases h with rfl | h
          · exact Nat.le_refl c
          · exact Nat.le_trans (le_step .next) (ih h)
      | observe seen => exact Nat.le_trans (le_step (.observe seen)) (ih h)

theorem found_pairwise (counter : Nat) (calls : List Call) :
    (found ceiling counter calls).Pairwise fun a b => number ceiling a ≤ b := by
  induction calls generalizing counter with
  | nil => exact List.Pairwise.nil
  | cons call calls ih =>
      cases call with
      | next =>
          refine List.pairwise_cons.mpr ⟨fun b hb => ?_, ih _⟩
          exact Nat.le_trans number_le_step (le_of_mem_found hb)
      | observe seen => exact ih _

theorem number_eq_iff {a b : Nat} (h : number ceiling a ≤ b) :
    number ceiling a = number ceiling b ↔ ceiling ≤ a + 1 ∧ ceiling ≤ b + 1 := by
  have ha : number ceiling a = if a < ceiling then a + 1 else ceiling := rfl
  have hb : number ceiling b = if b < ceiling then b + 1 else ceiling := rfl
  split at ha
  · split at hb <;> omega
  · split at hb <;> omega

theorem pairwise_not_both_iff {α : Type} (p : α → Bool) (xs : List α) :
    (xs.Pairwise fun a b => ¬(p a = true ∧ p b = true)) ↔ (xs.filter p).length ≤ 1 := by
  induction xs with
  | nil => simp
  | cons x xs ih =>
      rw [List.pairwise_cons, ih]
      cases hx : p x with
      | true =>
          have hcount : (xs.filter p).length + 1 ≤ 1 ↔ (xs.filter p).length = 0 := by omega
          rw [List.filter_cons_of_pos hx, List.length_cons, hcount, List.length_eq_zero_iff,
            List.filter_eq_nil_iff]
          constructor
          · rintro ⟨hxs, -⟩ y hy hpy
            exact hxs y hy ⟨rfl, hpy⟩
          · intro h
            have hnone : xs.filter p = [] := List.filter_eq_nil_iff.mpr h
            exact ⟨fun y hy hboth => h y hy hboth.2, by simp [hnone]⟩
      | false =>
          have hskip : ¬p x = true := by rw [hx]; exact Bool.false_ne_true
          rw [List.filter_cons_of_neg hskip]
          simp

theorem returned_nodup_iff :
    (returned ceiling counter calls).Nodup ↔ Roomy ceiling counter calls := by
  rw [returned, Roomy, ← pairwise_not_both_iff, List.Nodup, List.pairwise_map]
  have hle : (found ceiling counter calls).Pairwise fun a b => number ceiling a ≤ b :=
    found_pairwise counter calls
  constructor
  · intro h
    refine (h.and hle).imp fun {a b} hab hboth => hab.1 ((number_eq_iff hab.2).mpr ?_)
    simpa using hboth
  · intro h
    refine (h.and hle).imp fun {a b} hab heq => hab.1 ?_
    simpa using (number_eq_iff hab.2).mp heq

theorem found_append (before after : List Call) :
    found ceiling counter (before ++ after) =
      found ceiling counter before ++ found ceiling (before.foldl (step ceiling) counter) after := by
  induction before generalizing counter with
  | nil => rfl
  | cons call before ih =>
      cases call with
      | next => rw [List.cons_append, found, ih, found, List.cons_append, List.foldl_cons]
      | observe seen => rw [List.cons_append, found, ih, found, List.foldl_cons]

theorem room_of_two {before after : List Call}
    (h : Roomy ceiling counter (before ++ .next :: .next :: after)) :
    before.foldl (step ceiling) counter + 1 < ceiling := by
  by_contra hlate
  rw [Nat.not_lt] at hlate
  let c := before.foldl (step ceiling) counter
  have hfirst : ceiling ≤ c + 1 := hlate
  have hsecond : ceiling ≤ step ceiling c .next + 1 :=
    Nat.le_trans hfirst (Nat.succ_le_succ (le_step .next))
  rw [Roomy, found_append, List.filter_append, List.length_append] at h
  change _ + ((c :: step ceiling c .next :: found ceiling _ after).filter _).length ≤ 1 at h
  rw [List.filter_cons_of_pos (by simpa using hfirst),
    List.filter_cons_of_pos (by simpa using hsecond)] at h
  simp only [List.length_cons] at h
  omega

end ModelRouter.Base.Counter
