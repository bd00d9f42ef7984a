import Mathlib.Data.List.Basic
import Mathlib.Data.List.Pairwise
import Mathlib.Data.List.TakeWhile

namespace ModelRouter.Base.Bisection

variable {α : Type} (below : α → Bool) (xs : List α)

def search (first count : Nat) : Nat :=
  if count = 0 then first
  else if xs[first + count / 2]?.any below then
    search (first + (count / 2 + 1)) (count - (count / 2 + 1))
  else search first (count / 2)
termination_by count

def lowerBound : Nat :=
  search below xs 0 xs.length

/-- Nothing that is below stands behind something that is not. -/
def Partitioned : Prop :=
  xs.Pairwise fun a b => below b = true → below a = true

variable {below xs}

theorem Partitioned.getElem (hxs : Partitioned below xs) {i j : Nat} (hi : i < xs.length)
    (hj : j < xs.length) (hij : i ≤ j) (h : below xs[j] = true) : below xs[i] = true := by
  rcases Nat.lt_or_eq_of_le hij with hlt | rfl
  · exact List.pairwise_iff_getElem.mp hxs i j hi hj hlt h
  · exact h

theorem search_spec (hxs : Partitioned below xs) {first count : Nat}
    (hrange : first + count ≤ xs.length)
    (hbefore : ∀ i (hi : i < xs.length), i < first → below xs[i] = true)
    (hafter : ∀ i (hi : i < xs.length), first + count ≤ i → below xs[i] = false) :
    (∀ i (hi : i < xs.length), i < search below xs first count → below xs[i] = true) ∧
      ∀ i (hi : i < xs.length), search below xs first count ≤ i → below xs[i] = false := by
  fun_induction search below xs first count with
  | case1 first => exact ⟨hbefore, hafter⟩
  | case2 first count hcount hbelow ih =>
      have hmid : first + count / 2 < xs.length := by omega
      rw [List.getElem?_eq_getElem hmid, Option.any_some] at hbelow
      refine ih (by omega) (fun i hi hlt => ?_) fun i hi hle => hafter i hi (by omega)
      exact hxs.getElem hi hmid (by omega) hbelow
  | case3 first count hcount hbelow ih =>
      have hmid : first + count / 2 < xs.length := by omega
      rw [List.getElem?_eq_getElem hmid, Option.any_some, Bool.not_eq_true] at hbelow
      refine ih (by omega) hbefore fun i hi hle => Bool.eq_false_iff.mpr fun h => ?_
      rw [hxs.getElem hmid hi hle h] at hbelow
      cases hbelow

theorem lowerBound_spec (hxs : Partitioned below xs) :
    (∀ i (hi : i < xs.length), i < lowerBound below xs → below xs[i] = true) ∧
      ∀ i (hi : i < xs.length), lowerBound below xs ≤ i → below xs[i] = false :=
  search_spec hxs (Nat.le_of_eq (Nat.zero_add xs.length))
    (fun i _ hlt => absurd hlt (Nat.not_lt_zero i)) fun i hi hle => by omega

theorem takeWhile_eq_take (hxs : Partitioned below xs) :
    xs.takeWhile below = xs.take (lowerBound below xs) := by
  obtain ⟨hbefore, hafter⟩ := lowerBound_spec hxs
  have hfront : ∀ x ∈ xs.take (lowerBound below xs), below x = true := by
    intro x hx
    obtain ⟨i, hi, rfl⟩ := List.mem_take_iff_getElem.mp hx
    exact hbefore i (by omega) (by omega)
  have hback : (xs.drop (lowerBound below xs)).takeWhile below = [] := by
    rw [List.takeWhile_eq_nil_iff]
    intro hpos
    rw [List.get_eq_getElem, List.getElem_drop, hafter _ _ (Nat.le_add_right _ _)]
    exact Bool.false_ne_true
  conv_lhs => rw [← List.take_append_drop (lowerBound below xs) xs]
  rw [List.takeWhile_append_of_pos hfront, hback, List.append_nil]

theorem dropWhile_eq_drop (hxs : Partitioned below xs) :
    xs.dropWhile below = xs.drop (lowerBound below xs) := by
  have hcut := takeWhile_eq_take hxs
  have hwhole := List.takeWhile_append_dropWhile (p := below) (l := xs)
  rw [hcut] at hwhole
  exact List.append_cancel_left (hwhole.trans (List.take_append_drop _ xs).symm)

end ModelRouter.Base.Bisection
