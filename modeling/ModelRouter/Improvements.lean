import ModelRouter.Scores

namespace ModelRouter.Improvements

open Bytes Ids Evidence Catalog Request Candidate Policy Decision Ranking Scores

/-- One known input of a candidate and its context gets better, and nothing else changes. -/
inductive Improves (candidate : RouteCandidate) (context : RankingContext) :
    RouteCandidate → RankingContext → Prop where
  | totalCost (micros : Int64) (h : micros ≤ context.evidence.cost.estimatedTotalMicros) :
      Improves candidate context candidate
        { context with evidence.cost.estimatedTotalMicros := micros }
  | dispatchLatency (micros : UInt32)
      (hknown : candidate.backend.latency.dispatchMicros ≠ kUnknownLatencyMicros)
      (h : micros ≤ candidate.backend.latency.dispatchMicros) :
      Improves candidate context
        { candidate with backend.latency.dispatchMicros := micros } context
  | tailLatency (micros : UInt32)
      (hknown : candidate.backend.latency.tailMicros ≠ kUnknownLatencyMicros)
      (h : micros ≤ candidate.backend.latency.tailMicros) :
      Improves candidate context { candidate with backend.latency.tailMicros := micros } context
  | queueDelay (micros : UInt32)
      (hknown : candidate.backend.latency.queueMicros ≠ kUnknownLatencyMicros)
      (h : micros ≤ candidate.backend.latency.queueMicros) :
      Improves candidate context { candidate with backend.latency.queueMicros := micros } context
  | coldStartPenalty (micros : UInt32)
      (hknown : candidate.backend.latency.coldStartPenaltyMicros ≠ kUnknownLatencyMicros)
      (h : micros ≤ candidate.backend.latency.coldStartPenaltyMicros) :
      Improves candidate context
        { candidate with backend.latency.coldStartPenaltyMicros := micros } context
  | networkDistance (distance : UInt32) (hknown : distance ≠ 0)
      (h : distance ≤ candidate.backend.networkDistance) :
      Improves candidate context { candidate with backend.networkDistance := distance } context
  | qualityClass (quality : QualityClass)
      (hknown : candidate.qualityClass ≠ kUnclassifiedQuality)
      (h : candidate.qualityClass ≤ quality) :
      Improves candidate context { candidate with qualityClass := quality } context
  | contextLimit (tokens : UInt32) (h : candidate.contextLimitTokens ≤ tokens) :
      Improves candidate context { candidate with contextLimitTokens := tokens } context
  | reliability (ppm : UInt32) (hknown : candidate.backend.reliabilityPpm ≠ 0)
      (h : candidate.backend.reliabilityPpm ≤ ppm) :
      Improves candidate context { candidate with backend.reliabilityPpm := ppm } context
  | availableSlots (slots : UInt32) (hknown : slots ≠ kUnknownCount)
      (h : candidate.backend.capacityDetail.availableSlots ≤ slots) :
      Improves candidate context
        { candidate with backend.capacityDetail.availableSlots := slots } context

theorem cast_le {a b : UInt32} (h : a ≤ b) : (a.toNat : Int) ≤ b.toNat :=
  Int.ofNat_le.mpr (UInt32.le_iff_toNat_le.mp h)

theorem known_of_le {a b : UInt32} (hb : b ≠ kUnknownLatencyMicros) (h : a ≤ b) :
    a ≠ kUnknownLatencyMicros := by
  rintro rfl
  refine hb (UInt32.le_antisymm (UInt32.le_iff_toNat_le.mpr ?_) h)
  have hlt := b.toNat_lt
  exact Nat.le_of_lt_succ hlt

theorem ne_zero_of_le {a b : UInt32} (ha : a ≠ 0) (h : a ≤ b) : b ≠ 0 := by
  rintro rfl
  exact ha (UInt32.le_antisymm h a.zero_le)

theorem observed_of_le {current : Bool} {a b : UInt32} (hb : b ≠ kUnknownLatencyMicros)
    (h : a ≤ b) (hcurrent : (current && b != kUnknownLatencyMicros) = true) :
    (current && a != kUnknownLatencyMicros) = true := by
  rw [Bool.and_eq_true] at hcurrent ⊢
  exact ⟨hcurrent.1, bne_iff_ne.mpr (known_of_le hb h)⟩

variable {candidate candidate' : RouteCandidate} {context context' : RankingContext}

theorem scaled_mono {a b : UInt32} (h : a ≤ b) (total : Int) :
    mulDiv a.toNat kFactorScale total ≤ mulDiv b.toNat kFactorScale total :=
  mulDiv_mono (Int.natCast_nonneg _) kFactorScale_nonneg (cast_le h)

theorem penalized_mono {seen seen' : Bool} {value penalty penalty' : Int} (hseen : seen = seen')
    (h : penalty' ≤ penalty) :
    (if seen then value - penalty else value) ≤ if seen' then value - penalty' else value := by
  subst hseen
  split
  · exact Int.sub_le_sub_left h _
  · exact le_rfl

theorem Improves.weights (h : Improves candidate context candidate' context') :
    context'.weights = context.weights := by
  cases h <;> rfl

/-- What gets better in one input never loses score. -/
theorem improves_score_le (hweights : context.weights.validate = none)
    (h : Improves candidate context candidate' context') :
    (buildFactors candidate context).2 ≤ (buildFactors candidate' context').2 := by
  refine score_mono hweights (by rw [h.weights]; exact hweights) ?_
  cases h <;>
    simp only [pushedFactors, stickinessPreferences, callerPreferences, LatencyEvidence.expired,
      ↓decide_pos, List.forall₂_cons, List.Forall₂.nil, le_refl, true_and, and_true]
  case totalCost micros h =>
    exact factorWhen_mono hweights fun hknown =>
      ⟨hknown, normalizeLowerBetter_anti (Int64.le_iff_toInt_le.mp h)⟩
  case dispatchLatency micros hknown h =>
    refine ⟨factorWhen_mono hweights fun hseen => ⟨observed_of_le hknown h hseen, ?_⟩, le_rfl,
      factorWhen_mono hweights fun hseen => ⟨?_, ?_⟩⟩
    · exact normalizeLowerBetter_anti (cast_le h)
    · rw [Bool.and_eq_true] at hseen ⊢
      exact ⟨hseen.1, observed_of_le hknown h hseen.2⟩
    · exact normalizeLowerBetter_anti (cast_le h)
  case tailLatency micros hknown h =>
    refine ⟨factorWhen_mono hweights fun hseen => ⟨observed_of_le hknown h hseen, ?_⟩, le_rfl⟩
    exact normalizeLowerBetter_anti (cast_le h)
  case queueDelay micros hknown h =>
    refine ⟨factorWhen_mono hweights fun hseen => ⟨observed_of_le hknown h hseen, ?_⟩, le_rfl⟩
    exact normalizeLowerBetter_anti (cast_le h)
  case coldStartPenalty micros hknown h =>
    refine ⟨factorWhen_mono hweights fun hready => ⟨hready, ?_⟩,
      factorWhen_mono hweights fun hseen => ⟨observed_of_le hknown h hseen, ?_⟩⟩
    · refine penalized_mono ?_ (scaled_mono h _)
      rw [bne_iff_ne.mpr hknown, bne_iff_ne.mpr (known_of_le hknown h)]
    · exact normalizeLowerBetter_anti (cast_le h)
  case networkDistance distance hknown h =>
    refine ⟨factorWhen_mono hweights fun _ => ⟨bne_iff_ne.mpr hknown, ?_⟩,
      factorWhen_mono hweights fun _ => ⟨?_, normalizeLowerBetter_anti ?_⟩⟩
    · exact normalizeLowerBetter_anti (cast_le h)
    · rw [bne_iff_ne.mpr hknown, Bool.or_true]
    · split
      · exact le_rfl
      · exact cast_le h
  case qualityClass quality hknown h =>
    exact factorWhen_mono hweights fun _ =>
      ⟨bne_iff_ne.mpr (ne_zero_of_le hknown h), normalizeHigherBetter_mono (cast_le h)⟩
  case contextLimit tokens h =>
    refine factorWhen_mono hweights fun hfits => ⟨?_, normalizeHigherBetter_mono ?_⟩
    · rw [Bool.and_eq_true, decide_eq_true_iff, decide_eq_true_iff] at hfits ⊢
      exact ⟨hfits.1, UInt32.le_trans hfits.2 h⟩
    · exact Int.sub_le_sub_right (cast_le h) _
  case reliability ppm hknown h =>
    exact factorWhen_mono hweights fun _ =>
      ⟨bne_iff_ne.mpr (ne_zero_of_le hknown h), scaled_mono h _⟩
  case availableSlots slots hknown h =>
    refine factorWhen_mono hweights fun hdetail => ⟨?_, scaled_mono h _⟩
    simp only [CapacityDetail.known, Bool.and_eq_true] at hdetail ⊢
    exact ⟨⟨bne_iff_ne.mpr hknown, hdetail.1.2⟩, hdetail.2⟩

/-- A backend whose dispatch becomes faster. -/
theorem improves_score_le_faster :
    (buildFactors { backend.latency.dispatchMicros := 900000 }
        { request := {}, evidence := {}, policyVerdict := none, weights := {}, scales := {},
          now := 0 }).2 ≤
      (buildFactors { backend.latency.dispatchMicros := 20000 }
        { request := {}, evidence := {}, policyVerdict := none, weights := {}, scales := {},
          now := 0 }).2 :=
  improves_score_le (by decide +kernel)
    (.dispatchLatency 20000 (by decide) (by decide))

end ModelRouter.Improvements
