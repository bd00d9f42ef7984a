import Mathlib.Algebra.Order.Ring.Int
import Mathlib.Data.List.Basic
import Mathlib.Tactic.Positivity

namespace ModelRouter.Base.Checked

/-- The values of a signed word of `w` bits. -/
def Fits (w : Nat) (x : Int) : Prop :=
  -2 ^ (w - 1) ≤ x ∧ x < 2 ^ (w - 1)

instance (w : Nat) (x : Int) : Decidable (Fits w x) :=
  inferInstanceAs (Decidable (_ ∧ _))

def keep (w : Nat) (x : Int) : Option Int :=
  if Fits w x then some x else none

def add (w : Nat) (x y : Int) : Option Int :=
  keep w (x + y)

def sub (w : Nat) (x y : Int) : Option Int :=
  keep w (x - y)

def mul (w : Nat) (x y : Int) : Option Int :=
  keep w (x * y)

def div (w : Nat) (x y : Int) : Option Int :=
  if y = 0 then none else keep w (x.tdiv y)

variable {w : Nat} {x y z : Int}

theorem keep_eq (h : Fits w x) : keep w x = some x :=
  if_pos h

theorem add_eq (h : Fits w (x + y)) : add w x y = some (x + y) :=
  keep_eq h

theorem sub_eq (h : Fits w (x - y)) : sub w x y = some (x - y) :=
  keep_eq h

theorem mul_eq (h : Fits w (x * y)) : mul w x y = some (x * y) :=
  keep_eq h

theorem Fits.between (hx : Fits w x) (hz : Fits w z) (hxy : x ≤ y) (hyz : y ≤ z) : Fits w y :=
  ⟨hx.1.trans hxy, hyz.trans_lt hz.2⟩

theorem fits_zero : Fits w 0 := by
  refine ⟨?_, by positivity⟩
  have hpow : (0 : Int) ≤ 2 ^ (w - 1) := by positivity
  omega

theorem Fits.of_nonneg (hz : Fits w z) (hy : 0 ≤ y) (hyz : y ≤ z) : Fits w y :=
  fits_zero.between hz hy hyz

theorem Fits.tdiv (hx : Fits w x) (hx' : 0 ≤ x) (hy : 0 < y) : Fits w (x.tdiv y) := by
  rw [Int.tdiv_eq_ediv_of_nonneg hx']
  exact hx.of_nonneg (Int.ediv_nonneg hx' hy.le) (Int.ediv_le_self y hx')

theorem div_eq (h : Fits w x) (hx : 0 ≤ x) (hy : 0 < y) : div w x y = some (x.tdiv y) := by
  rw [div, if_neg hy.ne']
  exact keep_eq (h.tdiv hx hy)

def gather {α : Type} : List (Option α) → Option (List α)
  | [] => some []
  | x :: rest => x.bind fun a => (gather rest).map (a :: ·)

theorem gather_map_some {α : Type} (xs : List α) : gather (xs.map some) = some xs := by
  induction xs with
  | nil => rfl
  | cons x rest ih =>
      rw [List.map_cons, gather, ih]
      rfl

theorem foldlM_eq {α β : Type} {f : β → α → Option β} {g : β → α → β} {I : β → Prop}
    {xs : List α} (step : ∀ x ∈ xs, ∀ b, I b → f b x = some (g b x) ∧ I (g b x)) {b : β}
    (hb : I b) : xs.foldlM f b = some (xs.foldl g b) := by
  induction xs generalizing b with
  | nil => rfl
  | cons x rest ih =>
      rw [List.forall_mem_cons] at step
      obtain ⟨hfirst, hkept⟩ := step.1 b hb
      rw [List.foldlM_cons, hfirst]
      exact ih step.2 hkept

end ModelRouter.Base.Checked
