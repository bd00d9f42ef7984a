import Mathlib.Data.Rat.Floor
import ModelRouter.Scores

namespace ModelRouter.Exactness

open Candidate Ranking Scores

variable {raw ref : Int}

def exactShare (raw ref : Int) : Int :=
  ⌊(raw * kFactorScale : ℚ) / ref⌋

def exactHigherBetter (raw ref : Int) : Int :=
  if 0 < raw then min kFactorScale (exactShare raw ref) else 0

def exactLowerBetter (raw ref : Int) : Int :=
  if 0 < raw then kFactorScale - min kFactorScale (exactShare raw ref) else kFactorScale

theorem exactShare_eq (href : 0 < ref) : exactShare raw ref = raw * kFactorScale / ref := by
  lift ref to ℕ using href.le
  rw [exactShare, ← Rat.floor_intCast_div_natCast]
  push_cast
  rfl

theorem exactShare_lt_iff (href : 0 < ref) : exactShare raw ref < kFactorScale ↔ raw < ref := by
  have hscale : 0 < kFactorScale := by decide
  rw [exactShare_eq href, Int.ediv_lt_iff_lt_mul href, mul_comm kFactorScale]
  exact mul_lt_mul_iff_left₀ hscale

theorem exactShare_nonneg (hraw : 0 < raw) (href : 0 < ref) : 0 ≤ exactShare raw ref := by
  rw [exactShare_eq href]
  exact Int.ediv_nonneg (Int.mul_pos hraw (by decide)).le href.le

theorem mulDiv_share (hraw : 0 < raw) (href : 0 < ref) :
    mulDiv raw kFactorScale (reference ref) =
      if kMaxScore / kFactorScale < raw then kMaxScore else exactShare raw ref := by
  rw [reference, if_pos href, mulDiv_eq href hraw (by decide), exactShare_eq href]

section

variable (hraw : 0 < raw) (href : 0 < ref)

include hraw href

theorem higher_exact_iff :
    normalizeHigherBetter raw ref = exactHigherBetter raw ref ↔
      raw ≤ kMaxScore / kFactorScale ∨ ref ≤ raw := by
  have hshare := exactShare_nonneg hraw href
  have hlt : exactShare raw ref < kFactorScale ↔ raw < ref := exactShare_lt_iff href
  have hmax : kFactorScale < kMaxScore := by decide
  have hpos : 0 < kFactorScale := by decide
  rw [normalizeHigherBetter, if_neg hraw.not_ge, exactHigherBetter, if_pos hraw,
    mulDiv_share hraw href, clampScale]
  by_cases hsaturated : kMaxScore / kFactorScale < raw
  · rw [if_pos hsaturated]
    omega
  · rw [if_neg hsaturated]
    omega

theorem lower_exact_iff :
    normalizeLowerBetter raw ref = exactLowerBetter raw ref ↔
      raw ≤ kMaxScore / kFactorScale ∨ ref ≤ raw := by
  have hshare := exactShare_nonneg hraw href
  have hlt : exactShare raw ref < kFactorScale ↔ raw < ref := exactShare_lt_iff href
  have hmax : kFactorScale < kMaxScore := by decide
  rw [normalizeLowerBetter, if_neg hraw.not_ge, exactLowerBetter, if_pos hraw,
    mulDiv_share hraw href]
  by_cases hsaturated : kMaxScore / kFactorScale < raw
  · rw [if_pos hsaturated, if_pos hmax.le]
    omega
  · rw [if_neg hsaturated]
    dsimp only
    split <;> omega

end

/-- Both normalizations are exact where the product does not saturate, and where the value reaches
its reference anyway. -/
theorem normalize_exact_iff (raw ref : Int64) (href : 0 < ref.toInt) :
    (normalizeHigherBetter raw.toInt ref.toInt = exactHigherBetter raw.toInt ref.toInt ∧
        normalizeLowerBetter raw.toInt ref.toInt = exactLowerBetter raw.toInt ref.toInt) ↔
      raw.toInt ≤ kMaxScore / kFactorScale ∨ ref.toInt ≤ raw.toInt := by
  by_cases hraw : 0 < raw.toInt
  · rw [higher_exact_iff hraw href, lower_exact_iff hraw href, and_self]
  · have hlow : raw.toInt ≤ kMaxScore / kFactorScale := (not_lt.mp hraw).trans (by decide)
    rw [normalizeHigherBetter, normalizeLowerBetter, exactHigherBetter, exactLowerBetter,
      if_pos (not_lt.mp hraw), if_pos (not_lt.mp hraw), if_neg hraw, if_neg hraw]
    simp [hlow]

/-- The largest value that does not saturate, in the middle of its reference. -/
theorem half_reference_exact :
    normalizeHigherBetter 9223372036854 18446744073708 = 500000 ∧
      normalizeHigherBetter 9223372036854 18446744073708 =
        exactHigherBetter 9223372036854 18446744073708 := by
  have h := (normalize_exact_iff 9223372036854 18446744073708 (by decide)).mpr (by decide)
  exact ⟨by decide, h.1⟩

/-- A value past the saturation is as good as its reference, which is a million times as large. -/
theorem saturated_share_full :
    ¬∀ raw ref : Int64, 0 < ref.toInt →
      normalizeHigherBetter raw.toInt ref.toInt = exactHigherBetter raw.toInt ref.toInt ∧
        normalizeLowerBetter raw.toInt ref.toInt = exactLowerBetter raw.toInt ref.toInt := by
  intro h
  have hexact := (h 9223372036855 9223372036854775807 (by decide)).1
  rw [exactHigherBetter, exactShare_eq (by decide)] at hexact
  revert hexact
  decide

end ModelRouter.Exactness
