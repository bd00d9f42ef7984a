import Mathlib
import ModelRouter.Base.Crc

namespace ModelRouter.Base.Division

open Polynomial Crc

/-! The register of a reflected check as the remainder of a division of polynomials over the field
of two elements. -/

variable {w : Nat} {poly r s : BitVec w}

/-- The polynomial of a reflected word: its lowest bit is the highest coefficient. -/
noncomputable def ofWord (r : BitVec w) : (ZMod 2)[X] :=
  ∑ i ∈ Finset.range w, if r.getLsbD i then X ^ (w - 1 - i) else 0

/-- The polynomial of a message, whose first bit is the highest coefficient. -/
noncomputable def ofMessage : List Bool → (ZMod 2)[X]
  | [] => 0
  | b :: bits => (if b then X ^ bits.length else 0) + ofMessage bits

/-- The divisor of a check; the register has no room for its leading coefficient. -/
noncomputable def divisor (poly : BitVec w) : (ZMod 2)[X] :=
  X ^ w + ofWord poly

theorem coeff_ofWord (r : BitVec w) (n : Nat) :
    (ofWord r).coeff n = if n < w ∧ r.getLsbD (w - 1 - n) then 1 else 0 := by
  rw [ofWord, finsetSum_coeff]
  by_cases hn : n < w
  · rw [Finset.sum_eq_single (w - 1 - n)]
    · have hback : w - 1 - (w - 1 - n) = n := by omega
      rw [hback]
      cases r.getLsbD (w - 1 - n) <;> simp [hn]
    · intro i hi hne
      rw [Finset.mem_range] at hi
      have hpow : n ≠ w - 1 - i := by omega
      cases r.getLsbD i <;> simp [coeff_X_pow, hpow]
    · intro hout
      rw [Finset.mem_range] at hout
      omega
  · rw [if_neg fun h => hn h.1]
    refine Finset.sum_eq_zero fun i hi => ?_
    rw [Finset.mem_range] at hi
    have hpow : n ≠ w - 1 - i := by omega
    cases r.getLsbD i <;> simp [coeff_X_pow, hpow]

theorem ofWord_xor (r s : BitVec w) : ofWord (r ^^^ s) = ofWord r + ofWord s := by
  ext n
  rw [coeff_add, coeff_ofWord, coeff_ofWord, coeff_ofWord, BitVec.getLsbD_xor]
  by_cases hn : n < w
  · cases r.getLsbD (w - 1 - n) <;> cases s.getLsbD (w - 1 - n) <;>
      simp [hn, CharTwo.add_self_eq_zero]
  · simp [hn]

theorem degree_ofWord_lt (r : BitVec w) : (ofWord r).degree < w := by
  rw [degree_lt_iff_coeff_zero]
  intro n hn
  rw [coeff_ofWord, if_neg fun h => absurd h.1 (Nat.not_lt.mpr hn)]

theorem divisor_monic (poly : BitVec w) : (divisor poly).Monic :=
  monic_X_pow_add (degree_ofWord_lt poly)

theorem degree_divisor (poly : BitVec w) : (divisor poly).degree = w := by
  rw [divisor, degree_add_eq_left_of_degree_lt, degree_X_pow]
  rw [degree_X_pow]
  exact degree_ofWord_lt poly

theorem X_mul_ofWord (r : BitVec w) :
    X * ofWord r = ofWord (r >>> 1) + if r.getLsbD 0 then X ^ w else 0 := by
  ext n
  have hlow : (if r.getLsbD 0 then X ^ w else (0 : (ZMod 2)[X])).coeff n =
      if r.getLsbD 0 ∧ n = w then 1 else 0 := by
    cases r.getLsbD 0 <;> simp [coeff_X_pow]
  rw [coeff_add, hlow, coeff_ofWord, BitVec.getLsbD_ushiftRight]
  cases n with
  | zero =>
      rw [coeff_X_mul_zero, BitVec.getLsbD_of_ge _ _ (by omega)]
      by_cases hw : w = 0
      · subst hw
        simp
      · simp [Ne.symm hw]
  | succ n =>
      rw [coeff_X_mul, coeff_ofWord]
      by_cases hlast : n + 1 = w
      · have hindex : w - 1 - n = 0 := by omega
        have hn : n < w := by omega
        simp [hindex, hn, hlast]
      · by_cases hn : n + 1 < w
        · have hindex : 1 + (w - 1 - (n + 1)) = w - 1 - n := by omega
          have hn' : n < w := by omega
          simp [hindex, hn, hn', hlast]
        · have hn' : ¬n < w := by omega
          simp [hn, hn', hlast]

theorem ofWord_shift (r : BitVec w) :
    ofWord (shift poly r) + (if r.getLsbD 0 then divisor poly else 0) = X * ofWord r := by
  rw [X_mul_ofWord, shift]
  by_cases hlow : r.getLsbD 0
  · simp only [hlow, if_true, ofWord_xor, divisor]
    have hcancel := CharTwo.add_self_eq_zero (ofWord poly)
    linear_combination hcancel
  · simp only [hlow, if_false, Bool.false_eq_true]

theorem ofWord_lowBit (hw : 0 < w) (b : Bool) :
    ofWord (lowBit b : BitVec w) = if b then X ^ (w - 1) else 0 := by
  ext n
  rw [coeff_ofWord]
  cases b with
  | false => simp [lowBit]
  | true =>
      have hindex : (1#w).getLsbD (w - 1 - n) = decide (w - 1 - n = 0) := by
        simp [BitVec.getLsbD_one, hw]
      have hplace : (n < w ∧ w - 1 - n = 0) ↔ n = w - 1 := by omega
      simp [lowBit, hindex, hplace, coeff_X_pow]

theorem exists_quotient (hw : 0 < w) (poly r : BitVec w) (bits : List Bool) :
    ∃ q, ofWord (feed poly r bits) + divisor poly * q =
      ofWord r * X ^ bits.length + ofMessage bits * X ^ w := by
  induction bits generalizing r with
  | nil => exact ⟨0, by simp [feed, ofMessage]⟩
  | cons b bits ih =>
      let r' := r ^^^ lowBit b
      obtain ⟨q, hq⟩ := ih (shift poly r')
      have hstep := @ofWord_shift _ poly r'
      have hpow : (X : (ZMod 2)[X]) * X ^ (w - 1) = X ^ w := by
        rw [← pow_succ', Nat.sub_add_cancel hw]
      have hentry : X * ofWord r' = X * ofWord r + if b then X ^ w else 0 := by
        rw [ofWord_xor, ofWord_lowBit hw, mul_add]
        cases b
        · simp
        · simp [hpow]
      rw [hentry] at hstep
      refine ⟨q + (if r'.getLsbD 0 then 1 else 0) * X ^ bits.length, ?_⟩
      have hfactor : (if r'.getLsbD 0 then divisor poly else 0) =
          divisor poly * if r'.getLsbD 0 then 1 else 0 := by
        cases r'.getLsbD 0 <;> simp
      have hhead : (if b then X ^ bits.length else (0 : (ZMod 2)[X])) * X ^ w =
          (if b then X ^ w else 0) * X ^ bits.length := by
        cases b
        · simp
        · simp [mul_comm]
      change ofWord (feed poly (shift poly r') bits) + _ = _
      rw [hfactor] at hstep
      rw [List.length_cons, pow_succ', ofMessage, add_mul, hhead]
      linear_combination hq + X ^ bits.length * hstep

theorem ofWord_feed (hw : 0 < w) (poly r : BitVec w) (bits : List Bool) :
    ofWord (feed poly r bits) =
      (ofWord r * X ^ bits.length + ofMessage bits * X ^ w) %ₘ divisor poly := by
  obtain ⟨q, hq⟩ := exists_quotient hw poly r bits
  refine ((div_modByMonic_unique q _ (divisor_monic poly) ⟨hq, ?_⟩).2).symm
  rw [degree_divisor]
  exact degree_ofWord_lt _

end ModelRouter.Base.Division
