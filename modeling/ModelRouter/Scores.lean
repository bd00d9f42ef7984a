import Mathlib.Algebra.Order.BigOperators.Group.List
import ModelRouter.Ranking
import ModelRouter.RankOrder
import ModelRouter.Sorting

namespace ModelRouter.Scores

open Base.Refusal Bytes Candidate Decision Ranking RankOrder Sorting

variable {value value' numerator denominator raw raw' ref weight normalized normalized' : Int}

theorem mulDiv_zero_left : mulDiv 0 numerator denominator = 0 := by
  simp [mulDiv]

theorem mulDiv_of_nonpos (h : denominator ≤ 0) : mulDiv value numerator denominator = 0 :=
  if_pos h

theorem mulDiv_eq (hd : 0 < denominator) (hv : 0 < value) (hn : 0 < numerator) :
    mulDiv value numerator denominator =
      if kMaxScore / numerator < value then kMaxScore else value * numerator / denominator := by
  have hproduct : 0 ≤ value * numerator := (Int.mul_pos hv hn).le
  rw [mulDiv, if_neg hd.not_ge, if_neg (by omega), Int.tdiv_eq_ediv_of_nonneg (by decide),
    Int.tdiv_eq_ediv_of_nonneg hproduct, if_neg (c := _ ∧ numerator < 0 ∧ _) (by omega)]
  simp only [gt_iff_lt, hv, hn, true_and]

theorem mulDiv_nonneg (hv : 0 ≤ value) (hn : 0 ≤ numerator) :
    0 ≤ mulDiv value numerator denominator := by
  by_cases hd : 0 < denominator
  · obtain rfl | hv := hv.eq_or_lt
    · rw [mulDiv_zero_left]
    obtain rfl | hn := hn.eq_or_lt
    · simp [mulDiv]
    rw [mulDiv_eq hd hv hn]
    split
    · decide
    · exact Int.ediv_nonneg (Int.mul_pos hv hn).le hd.le
  · rw [mulDiv_of_nonpos (not_lt.mp hd)]

theorem mulDiv_le_max (hv : 0 ≤ value) (hn : 0 ≤ numerator) :
    mulDiv value numerator denominator ≤ kMaxScore := by
  have hmax : (0 : Int) ≤ kMaxScore := by decide
  by_cases hd : 0 < denominator
  · obtain rfl | hv := hv.eq_or_lt
    · rwa [mulDiv_zero_left]
    obtain rfl | hn := hn.eq_or_lt
    · simpa [mulDiv] using hmax
    rw [mulDiv_eq hd hv hn]
    split
    case isTrue => exact le_rfl
    case isFalse hfits =>
      have hproduct : value * numerator ≤ kMaxScore :=
        (Int.le_ediv_iff_mul_le hn).mp (not_lt.mp hfits)
      exact (Int.ediv_le_self _ (Int.mul_pos hv hn).le).trans hproduct
  · rwa [mulDiv_of_nonpos (not_lt.mp hd)]

theorem mulDiv_mono (hv : 0 ≤ value) (hn : 0 ≤ numerator) (h : value ≤ value') :
    mulDiv value numerator denominator ≤ mulDiv value' numerator denominator := by
  by_cases hd : 0 < denominator
  · obtain rfl | hv := hv.eq_or_lt
    · rw [mulDiv_zero_left]
      exact mulDiv_nonneg h hn
    obtain rfl | hn := hn.eq_or_lt
    · simp [mulDiv]
    have hv' := hv.trans_le h
    by_cases hsaturated : kMaxScore / numerator < value'
    · rw [mulDiv_eq hd hv' hn, if_pos hsaturated]
      exact mulDiv_le_max hv.le hn.le
    · rw [mulDiv_eq hd hv hn, mulDiv_eq hd hv' hn, if_neg hsaturated,
        if_neg fun hlt => hsaturated (hlt.trans_le h)]
      exact Int.ediv_le_ediv hd (Int.mul_le_mul_of_nonneg_right h hn.le)
  · rw [mulDiv_of_nonpos (not_lt.mp hd), mulDiv_of_nonpos (not_lt.mp hd)]

theorem clampScale_nonneg : 0 ≤ clampScale value :=
  le_max_left _ _

theorem clampScale_le : clampScale value ≤ kFactorScale :=
  max_le (by decide) (min_le_right _ _)

theorem clampScale_mono (h : value ≤ value') : clampScale value ≤ clampScale value' :=
  max_le_max_left 0 (min_le_min_right _ h)

theorem kFactorScale_nonneg : 0 ≤ kFactorScale := by
  decide

theorem normalizeHigherBetter_mono (h : raw ≤ raw') :
    normalizeHigherBetter raw ref ≤ normalizeHigherBetter raw' ref := by
  rw [normalizeHigherBetter, normalizeHigherBetter]
  by_cases hraw : raw ≤ 0
  · rw [if_pos hraw]
    split
    · exact le_rfl
    · exact clampScale_nonneg
  · rw [if_neg hraw, if_neg (by omega)]
    exact clampScale_mono (mulDiv_mono (by omega) kFactorScale_nonneg h)

theorem normalizeLowerBetter_le : normalizeLowerBetter raw ref ≤ kFactorScale := by
  have hscale := kFactorScale_nonneg
  rw [normalizeLowerBetter]
  by_cases hraw : raw ≤ 0
  · rw [if_pos hraw]
  · have hcost : 0 ≤ mulDiv raw kFactorScale (reference ref) :=
      mulDiv_nonneg (by omega) kFactorScale_nonneg
    rw [if_neg hraw]
    dsimp only
    split <;> omega

theorem normalizeLowerBetter_anti (h : raw ≤ raw') :
    normalizeLowerBetter raw' ref ≤ normalizeLowerBetter raw ref := by
  by_cases hraw : raw ≤ 0
  · rw [normalizeLowerBetter.eq_def raw, if_pos hraw]
    exact normalizeLowerBetter_le
  · have hcost : mulDiv raw kFactorScale (reference ref) ≤
        mulDiv raw' kFactorScale (reference ref) :=
      mulDiv_mono (by omega) kFactorScale_nonneg h
    rw [normalizeLowerBetter, normalizeLowerBetter, if_neg hraw, if_neg (by omega)]
    dsimp only
    split
    · split <;> omega
    · rw [if_neg (by omega)]
      omega

def points (weight normalized : Int) : Int :=
  mulDiv (clampScale normalized) weight kFactorScale

theorem points_nonneg (h : 0 ≤ weight) : 0 ≤ points weight normalized :=
  mulDiv_nonneg clampScale_nonneg h

theorem points_mono (hweight : 0 ≤ weight) (h : normalized ≤ normalized') :
    points weight normalized ≤ points weight normalized' :=
  mulDiv_mono clampScale_nonneg hweight (clampScale_mono h)

def WeightBounds (weight : Int) : Prop :=
  0 ≤ weight ∧ weight ≤ 10000000

theorem product_fits (h : WeightBounds weight) (hv : 0 ≤ value) (hle : value ≤ kFactorScale) :
    value * weight ≤ 10000000000000 :=
  (Int.mul_le_mul hle h.2 h.1 (hv.trans hle)).trans (by decide)

theorem points_le (h : WeightBounds weight) : points weight normalized ≤ weight := by
  obtain hzero | hweight := h.1.eq_or_lt
  · simp [points, mulDiv, ← hzero]
  have hclamped : 0 ≤ clampScale normalized := clampScale_nonneg
  obtain hzero | hvalue := hclamped.eq_or_lt
  · rw [points, ← hzero, mulDiv_zero_left]
    exact h.1
  have hproduct := product_fits h hvalue.le clampScale_le
  have hfits : ¬kMaxScore / weight < clampScale normalized := by
    rw [not_lt, Int.le_ediv_iff_mul_le hweight]
    exact hproduct.trans (by decide)
  rw [points, mulDiv_eq (by decide) hvalue hweight, if_neg hfits]
  refine Int.ediv_le_of_le_mul (by decide) ?_
  rw [mul_comm]
  exact Int.mul_le_mul_of_nonneg_left clampScale_le h.1

section

variable {weights : RankingWeights} {factor : RankingFactor}

theorem canonicalFactorOrder_complete (factor : RankingFactor) :
    factor ∈ canonicalFactorOrder := by
  cases factor <;> decide

theorem canonicalFactorOrder_strict :
    canonicalFactorOrder.Pairwise fun a b => a.ctorIdx < b.ctorIdx := by
  decide

theorem weightBounds (h : weights.validate = none) (factor : RankingFactor) :
    WeightBounds (weights.weight factor) := by
  have hcheck := List.findSome?_eq_none_iff.mp h factor (canonicalFactorOrder_complete factor)
  rw [RankingWeights.checkWeight, chain_eq_none, refuse_eq_none, refuse_eq_none,
    decide_eq_false_iff_not, decide_eq_false_iff_not] at hcheck
  exact ⟨not_lt.mp hcheck.1, not_lt.mp hcheck.2⟩

variable {present : Bool} {generation : UInt64} {source : Text}

theorem factorWhen_factor :
    (factorWhen weights present factor raw normalized generation source).factor = factor := by
  cases present <;> rfl

theorem factorWhen_contribution :
    (factorWhen weights present factor raw normalized generation source).contribution =
      if present then points (weights.weight factor) normalized else 0 := by
  cases present <;> rfl

end

theorem saturatingAdd_eq {lhs rhs : Int} (hr : 0 ≤ rhs) (h : lhs + rhs ≤ kMaxScore) :
    saturatingAdd lhs rhs = lhs + rhs := by
  have hmin : kMinScore ≤ 0 := by decide
  rw [saturatingAdd, if_neg (by omega), if_neg (by omega)]

section

variable (candidate : RouteCandidate) (context : RankingContext) (factor : RankingFactor)

theorem decide_pos (n : Nat) [Decidable (n > 0)] : decide (n > 0) = (n != 0) := by
  rw [Bool.eq_iff_iff, decide_eq_true_iff, bne_iff_ne, gt_iff_lt, Nat.pos_iff_ne_zero]

def entry : FactorValue :=
  (pushedFactors candidate context).getD factor.ctorIdx {}

theorem pushedFactors_eq :
    pushedFactors candidate context = canonicalFactorOrder.map (entry candidate context) :=
  rfl

theorem entry_shape :
    ∃ present raw normalized generation source,
      entry candidate context factor =
        factorWhen context.weights present factor raw normalized generation source := by
  cases factor <;> exact ⟨_, _, _, _, _, rfl⟩

theorem entry_factor : (entry candidate context factor).factor = factor := by
  obtain ⟨present, raw, normalized, generation, source, hentry⟩ :=
    entry_shape candidate context factor
  rw [hentry, factorWhen_factor]

theorem sortFactors_pushed :
    sortFactors (pushedFactors candidate context) = pushedFactors candidate context := by
  have hsorted : (pushedFactors candidate context).Pairwise fun v v' =>
      v.factor.ctorIdx ≤ v'.factor.ctorIdx := by
    rw [pushedFactors_eq, List.pairwise_map]
    refine canonicalFactorOrder_strict.imp fun {a b} h => ?_
    rw [entry_factor, entry_factor]
    exact h.le
  exact stableSort_eq_self (fun a b => decide_eq_true_iff) hsorted

theorem pushedFactors_names :
    (pushedFactors candidate context).map FactorValue.factor = canonicalFactorOrder := by
  rw [pushedFactors_eq, List.map_map]
  calc
    canonicalFactorOrder.map (FactorValue.factor ∘ entry candidate context)
      = canonicalFactorOrder.map id :=
        List.map_congr_left fun factor _ => entry_factor candidate context factor
    _ = canonicalFactorOrder := List.map_id _

/-- The saturating sum, from a score reached so far. -/
def sumFrom (score : Int) (factors : List FactorValue) : Int :=
  factors.foldl (fun score factor => saturatingAdd score factor.contribution) score

theorem buildFactors_eq :
    buildFactors candidate context =
      (pushedFactors candidate context, sumFrom 0 (pushedFactors candidate context)) := by
  rw [buildFactors, sortFactors_pushed]
  rfl

end

/-- What validated weights make of one factor. -/
structure Sound (weights : RankingWeights) (v : FactorValue) : Prop where
  weighed : v.weightPpm = weights.weight v.factor
  normalized_nonneg : 0 ≤ v.normalized
  normalized_le : v.normalized ≤ kFactorScale
  unknown : v.known = false → v.contribution = 0
  contribution_nonneg : 0 ≤ v.contribution
  contribution_le : v.contribution ≤ v.weightPpm

section

variable {weights : RankingWeights} (hweights : weights.validate = none)

include hweights

theorem Sound.bounded {v : FactorValue} (h : Sound weights v) :
    0 ≤ v.contribution ∧ v.contribution ≤ 10000000 := by
  have hle := h.contribution_le
  rw [h.weighed] at hle
  exact ⟨h.contribution_nonneg, hle.trans (weightBounds hweights _).2⟩

variable {factor : RankingFactor} {present present' : Bool} {generation generation' : UInt64}
  {source source' : Text}

theorem factorWhen_sound :
    Sound weights (factorWhen weights present factor raw normalized generation source) := by
  have hbounds := weightBounds hweights factor
  cases present with
  | false =>
      exact ⟨rfl, le_rfl, kFactorScale_nonneg, fun _ => rfl, le_rfl, hbounds.1⟩
  | true =>
      refine ⟨rfl, clampScale_nonneg, clampScale_le, fun hknown => ?_, points_nonneg hbounds.1,
        points_le hbounds⟩
      cases hknown

theorem factorWhen_mono (h : present = true → present' = true ∧ normalized ≤ normalized') :
    (factorWhen weights present factor raw normalized generation source).contribution ≤
      (factorWhen weights present' factor raw' normalized' generation' source').contribution := by
  cases present with
  | false => exact (factorWhen_sound hweights).contribution_nonneg
  | true =>
      obtain ⟨rfl, hle⟩ := h rfl
      exact points_mono (weightBounds hweights factor).1 hle

end

section

variable {candidate candidate' : RouteCandidate} {context context' : RankingContext}

theorem pushed_sound (hweights : context.weights.validate = none) {v : FactorValue}
    (h : v ∈ pushedFactors candidate context) : Sound context.weights v := by
  rw [pushedFactors_eq, List.mem_map] at h
  obtain ⟨factor, -, rfl⟩ := h
  obtain ⟨present, raw, normalized, generation, source, hentry⟩ :=
    entry_shape candidate context factor
  rw [hentry]
  exact factorWhen_sound hweights

theorem sumFrom_eq {factors : List FactorValue} {score : Int}
    (hgains : ∀ v ∈ factors, 0 ≤ v.contribution)
    (h : score + (factors.map FactorValue.contribution).sum ≤ kMaxScore) :
    sumFrom score factors = score + (factors.map FactorValue.contribution).sum := by
  induction factors generalizing score with
  | nil => simp [sumFrom]
  | cons v rest ih =>
      rw [List.forall_mem_cons] at hgains
      rw [List.map_cons, List.sum_cons] at h ⊢
      have hrest : 0 ≤ (rest.map FactorValue.contribution).sum := by
        refine List.sum_nonneg fun x hx => ?_
        obtain ⟨u, hu, rfl⟩ := List.mem_map.mp hx
        exact hgains.2 u hu
      have hstep : saturatingAdd score v.contribution = score + v.contribution :=
        saturatingAdd_eq hgains.1 (by omega)
      have hsum : sumFrom (score + v.contribution) rest =
          score + v.contribution + (rest.map FactorValue.contribution).sum :=
        ih hgains.2 (by omega)
      rw [sumFrom] at hsum
      rw [sumFrom, List.foldl_cons, hstep, hsum]
      omega

theorem sum_sub_sum {factors factors' : List FactorValue}
    (h : factors.length = factors'.length) :
    (factors'.map FactorValue.contribution).sum - (factors.map FactorValue.contribution).sum =
      (List.zipWith (fun v v' : FactorValue => v'.contribution - v.contribution)
        factors factors').sum := by
  induction factors generalizing factors' with
  | nil =>
      cases factors' with
      | nil => rfl
      | cons v' rest' => cases h
  | cons v rest ih =>
      cases factors' with
      | nil => cases h
      | cons v' rest' =>
          have hrest := ih (Nat.succ.inj h)
          rw [List.map_cons, List.map_cons, List.sum_cons, List.sum_cons, List.zipWith_cons_cons,
            List.sum_cons, ← hrest]
          omega

variable (hweights : context.weights.validate = none)

include hweights

theorem gains_le (n : Nat) :
    (((pushedFactors candidate context).take n).map FactorValue.contribution).sum ≤ 290000000 := by
  have hlength : ((pushedFactors candidate context).take n).length ≤ 29 :=
    List.length_take_le' n _
  have hsum := List.sum_le_card_nsmul
    (((pushedFactors candidate context).take n).map FactorValue.contribution) 10000000
    fun x hx => by
      obtain ⟨v, hv, rfl⟩ := List.mem_map.mp hx
      exact ((pushed_sound hweights (List.mem_of_mem_take hv)).bounded hweights).2
  rw [List.length_map, nsmul_eq_mul] at hsum
  omega

theorem partial_sum_eq (n : Nat) :
    sumFrom 0 ((pushedFactors candidate context).take n) =
      (((pushedFactors candidate context).take n).map FactorValue.contribution).sum := by
  have hle : (((pushedFactors candidate context).take n).map FactorValue.contribution).sum ≤
      290000000 := gains_le hweights n
  have hmax : 290000000 ≤ kMaxScore := by decide
  rw [sumFrom_eq (fun v hv => (pushed_sound hweights (List.mem_of_mem_take hv)).contribution_nonneg)
    (by omega), zero_add]

theorem score_eq :
    (buildFactors candidate context).2 =
      ((pushedFactors candidate context).map FactorValue.contribution).sum := by
  have hall : (pushedFactors candidate context).take 29 = pushedFactors candidate context :=
    List.take_of_length_le (Nat.le_refl 29)
  rw [buildFactors_eq, ← hall, partial_sum_eq hweights, hall]

theorem score_sub (hweights' : context'.weights.validate = none) :
    (buildFactors candidate' context').2 - (buildFactors candidate context).2 =
      (List.zipWith (fun v v' : FactorValue => v'.contribution - v.contribution)
        (pushedFactors candidate context) (pushedFactors candidate' context')).sum := by
  rw [score_eq hweights, score_eq hweights']
  exact sum_sub_sum rfl

theorem score_mono (hweights' : context'.weights.validate = none)
    (h : List.Forall₂ (fun v v' : FactorValue => v.contribution ≤ v'.contribution)
      (pushedFactors candidate context) (pushedFactors candidate' context')) :
    (buildFactors candidate context).2 ≤ (buildFactors candidate' context').2 := by
  rw [score_eq hweights, score_eq hweights']
  refine List.Forall₂.sum_le_sum ?_
  rw [List.forall₂_map_left_iff, List.forall₂_map_right_iff]
  exact h

end

end ModelRouter.Scores
