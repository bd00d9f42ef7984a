import ModelRouter.Base.Checked
import ModelRouter.Scores

namespace ModelRouter.Overflow

open Base.Checked Bytes Ids Evidence Catalog Request Candidate Policy Decision Ranking Scores

def saturatingAdd64 (lhs rhs : Int) : Option Int :=
  if rhs > 0 then
    (sub 64 kMaxScore rhs).bind fun room =>
      if lhs > room then some kMaxScore else add 64 lhs rhs
  else if rhs < 0 then
    (sub 64 kMinScore rhs).bind fun room =>
      if lhs < room then some kMinScore else add 64 lhs rhs
  else add 64 lhs rhs

def mulDiv64 (value numerator denominator : Int) : Option Int :=
  let quotient := (mul 64 value numerator).bind fun product => div 64 product denominator
  if denominator ≤ 0 then some 0
  else if value = 0 ∨ numerator = 0 then some 0
  else if value > 0 ∧ numerator > 0 then
    (div 64 kMaxScore numerator).bind fun limit =>
      if value > limit then some kMaxScore else quotient
  else if value > 0 ∧ numerator < 0 then
    (div 64 kMinScore value).bind fun limit =>
      if numerator < limit then some kMinScore else quotient
  else quotient

def normalizeHigherBetter64 (raw ref : Int) : Option Int :=
  if raw ≤ 0 then some 0 else (mulDiv64 raw kFactorScale (reference ref)).map clampScale

def normalizeLowerBetter64 (raw ref : Int) : Option Int :=
  if raw ≤ 0 then some kFactorScale
  else (mulDiv64 raw kFactorScale (reference ref)).bind fun cost =>
    if cost ≥ kFactorScale then some 0 else sub 64 kFactorScale cost

section

variable (weights : RankingWeights)

def knownFactor64 (factor : RankingFactor) (raw normalized : Int) (evidenceGeneration : UInt64)
    (source : Text) : Option FactorValue :=
  (mulDiv64 (clampScale normalized) (weights.weight factor) kFactorScale).map fun contribution =>
    { factor := factor
      known := true
      normalized := clampScale normalized
      raw := raw
      weightPpm := weights.weight factor
      contribution := contribution
      evidenceGeneration := evidenceGeneration
      source := source }

/-- A factor whose values are computed only where its evidence is present. -/
def factorWhen64 (present : Bool) (factor : RankingFactor) (raw normalized : Option Int)
    (evidenceGeneration : UInt64) (source : Text) : Option FactorValue :=
  if present then
    raw.bind fun raw => normalized.bind fun normalized =>
      knownFactor64 weights factor raw normalized evidenceGeneration source
  else some (unknownFactor weights factor)

end

def ratio64 (part total : UInt32) : Option Int :=
  mulDiv64 part.toNat kFactorScale total.toNat

def tally64 (counts : Int × Int) (preference : Bool × Bool) : Option (Int × Int) :=
  if preference.1 then
    (add 64 counts.1 1).bind fun requested =>
      if preference.2 then (add 64 counts.2 1).map fun matched => (requested, matched)
      else some (requested, counts.2)
  else some counts

def countPreferences64 (preferences : List (Bool × Bool)) : Option (Int × Int) :=
  preferences.foldlM tally64 (0, 0)

def pushedFactors64 (candidate : RouteCandidate) (context : RankingContext) :
    List (Option FactorValue) :=
  let request := context.request
  let requirements := request.requirements
  let evidence := context.evidence
  let scales := context.scales
  let now := context.now
  let put := factorWhen64 context.weights
  let plain (present : Bool) (factor : RankingFactor) (raw normalized : Option Int) :=
    factorWhen64 context.weights present factor raw normalized 0 []
  let backend := candidate.backend
  let latency := backend.latency
  let latencyCurrent := !latency.expired now
  let observed (micros : UInt32) := latencyCurrent && micros != kUnknownLatencyMicros
  let trustKnown := backend.trustDomain != .unknown
  let trust : Int := backend.trustDomain.trustRank
  let readiness := backend.readiness
  let readinessKnown :=
    readiness.generation.valid && !readiness.expired now && readiness.state != .unknown
  let residency := backend.residency
  let availability := backend.availability
  let health := backend.health
  let detail := backend.capacityDetail
  let coldStart : Int := latency.coldStartPenaltyMicros.toNat
  let sloTarget :=
    if evidence.slo.latencyTargetMicros != kUnspecified then evidence.slo.latencyTargetMicros
    else requirements.maxLatencyMicros
  let headroom :=
    sub 64 candidate.contextLimitTokens.toNat requirements.minContextTokens.toNat
  let preference := (context.policyVerdict.map PolicyVerdict.preference).getD 0
  let modelMatches := requirements.affinityModel == candidate.key.modelId
  let sameBackend := context.continuityBackend == some candidate.key.backendId
  let different := context.diversityReferenceProvider != some backend.providerId
  let isLocal := backend.trustDomain == .local
  let movement : Int := if isLocal then 0 else backend.networkDistance.toNat
  let sticky := countPreferences64 (stickinessPreferences candidate requirements.stickiness)
  let preferred := countPreferences64 (callerPreferences candidate requirements)
  [plain (candidate.requiredCapabilitiesTotal > 0) .capabilityFit
      (some candidate.requiredCapabilitiesSatisfied.toNat)
      (ratio64 candidate.requiredCapabilitiesSatisfied candidate.requiredCapabilitiesTotal),
    plain (candidate.preferredCapabilitiesTotal > 0) .preferredCapabilityCoverage
      (some candidate.preferredCapabilitiesSatisfied.toNat)
      (ratio64 candidate.preferredCapabilitiesSatisfied candidate.preferredCapabilitiesTotal),
    plain (candidate.qualityClass != kUnclassifiedQuality) .qualityClass
      (some candidate.qualityClass.toNat)
      (normalizeHigherBetter64 candidate.qualityClass.toNat scales.qualityReference),
    put (evidence.cost.known && evidence.cost.current now &&
        evidence.cost.unit.compatibleWith evidence.cost.unit) .costTotal
      (some evidence.cost.estimatedTotalMicros.toInt)
      (normalizeLowerBetter64 evidence.cost.estimatedTotalMicros.toInt scales.costReferenceMicros)
      evidence.cost.priceGeneration.value evidence.cost.source,
    put (observed latency.dispatchMicros) .latency (some latency.dispatchMicros.toNat)
      (normalizeLowerBetter64 latency.dispatchMicros.toNat scales.latencyReferenceMicros)
      latency.healthGeneration.value [],
    plain (observed latency.tailMicros) .tailLatency (some latency.tailMicros.toNat)
      (normalizeLowerBetter64 latency.tailMicros.toNat scales.tailLatencyReferenceMicros),
    plain (observed latency.queueMicros) .queueDelay (some latency.queueMicros.toNat)
      (normalizeLowerBetter64 latency.queueMicros.toNat scales.queueReferenceMicros),
    put readinessKnown .warmth (some readiness.state.ctorIdx)
      (if observed latency.coldStartPenaltyMicros then
        (mulDiv64 coldStart kFactorScale (reference scales.startupCostReferenceMicros)).bind
          fun penalty => sub 64 (readinessValue readiness.state) penalty
      else some (readinessValue readiness.state))
      readiness.generation.value [],
    put (residency.generation.valid && !residency.expired now && residency.state != .unknown)
      .residency (some residency.state.ctorIdx) (some (residencyValue residency.state))
      residency.generation.value [],
    plain trustKnown .locality (some trust) (mulDiv64 trust kFactorScale 4),
    plain (backend.networkDistance != 0) .networkDistance (some backend.networkDistance.toNat)
      (normalizeLowerBetter64 backend.networkDistance.toNat scales.networkDistanceReference),
    put (availability.generation.valid && !availability.expired now &&
        availability.state != .unknown) .providerAvailability (some availability.state.ctorIdx)
      (some (fullWhen (availability.state == .available))) availability.generation.value [],
    put (health.generation.valid && !health.expired now && health.state != .unknown)
      .backendHealth (some health.state.ctorIdx) (some (healthValue health.state))
      health.generation.value [],
    put readinessKnown .backendReadiness (some readiness.state.ctorIdx)
      (some (readinessValue readiness.state)) readiness.generation.value [],
    put (detail.known && detail.totalSlots != kUnknownCount && detail.totalSlots > 0)
      .capacityHeadroom (some detail.availableSlots.toNat)
      (ratio64 detail.availableSlots detail.totalSlots) backend.capacity.generation.value [],
    plain (evidence.reservationPresent && evidence.reservation.current now)
      .reservationConfidence (some 1) (some kFactorScale),
    plain (sloTarget != kUnspecified && sloTarget > 0 && observed latency.dispatchMicros)
      .sloHeadroom (some latency.dispatchMicros.toNat)
      (normalizeLowerBetter64 latency.dispatchMicros.toNat sloTarget.toNat),
    plain (requirements.minContextTokens > 0 &&
        candidate.contextLimitTokens ≥ requirements.minContextTokens) .contextHeadroom headroom
      (headroom.bind fun headroom =>
        normalizeHigherBetter64 headroom scales.contextReferenceTokens),
    put trustKnown .trustPreference (some trust) (mulDiv64 trust kFactorScale 4)
      backend.trustGeneration.value [],
    put context.policyVerdict.isSome .policyPreference (some preference) (some preference)
      request.policyGeneration.value [],
    plain requirements.affinityModel.valid .modelAffinity (some (flag modelMatches))
      (some (fullWhen modelMatches)),
    plain context.continuityBackend.isSome .cacheAffinity (some (flag sameBackend))
      (some (fullWhen sameBackend)),
    plain (backend.reliabilityPpm != 0) .historicalReliability
      (some backend.reliabilityPpm.toNat) (mulDiv64 backend.reliabilityPpm.toNat kFactorScale 10000),
    plain context.diversityReferenceProvider.isSome .failureDomainDiversity
      (some (flag different)) (some (fullWhen different)),
    plain (isLocal || backend.networkDistance != 0) .dataMovementCost (some movement)
      (normalizeLowerBetter64 movement scales.networkDistanceReference),
    plain (observed latency.coldStartPenaltyMicros) .backendStartupCost (some coldStart)
      (normalizeLowerBetter64 coldStart scales.startupCostReferenceMicros),
    plain context.continuityBackend.isSome .routeSwitchPenalty (some (flag !sameBackend))
      (some (fullWhen sameBackend)),
    sticky.bind fun sticky =>
      plain (sticky.1 > 0) .continuityStickiness (some sticky.2)
        (mulDiv64 sticky.2 kFactorScale sticky.1),
    preferred.bind fun preferred =>
      plain (preferred.1 > 0) .callerPreference (some preferred.2)
        (mulDiv64 preferred.2 kFactorScale preferred.1)]

def sumFrom64 (score : Int) (factors : List FactorValue) : Option Int :=
  factors.foldlM (fun score factor => saturatingAdd64 score factor.contribution) score

/-- Factor construction, lost where one operation on signed 64-bit values overflows. -/
def buildFactors64 (candidate : RouteCandidate) (context : RankingContext) :
    Option (List FactorValue × Int) :=
  (gather (pushedFactors64 candidate context)).bind fun pushed =>
    let factors := sortFactors pushed
    (sumFrom64 0 factors).map fun score => (factors, score)

section

variable {value numerator denominator raw ref normalized lhs rhs : Int}

theorem fits_kMaxScore : Fits 64 kMaxScore := by
  decide

theorem mulDiv64_eq (hv : 0 ≤ value) (hn : 0 ≤ numerator) :
    mulDiv64 value numerator denominator = some (mulDiv value numerator denominator) := by
  by_cases hd : denominator ≤ 0
  · rw [mulDiv64, mulDiv_of_nonpos hd]
    exact if_pos hd
  rw [not_le] at hd
  obtain rfl | hv := hv.eq_or_lt
  · simp [mulDiv64, mulDiv]
  obtain rfl | hn := hn.eq_or_lt
  · simp [mulDiv64, mulDiv]
  have hproduct : 0 ≤ value * numerator := (Int.mul_pos hv hn).le
  rw [mulDiv_eq hd hv hn, mulDiv64, if_neg hd.not_ge, if_neg (by omega),
    if_pos ⟨hv, hn⟩, div_eq fits_kMaxScore (by decide) hn, Option.bind_some,
    Int.tdiv_eq_ediv_of_nonneg (by decide)]
  by_cases hroom : kMaxScore / numerator < value
  · rw [if_pos hroom, if_pos hroom]
  · have hfits : Fits 64 (value * numerator) :=
      fits_kMaxScore.of_nonneg hproduct ((Int.le_ediv_iff_mul_le hn).mp (not_lt.mp hroom))
    rw [if_neg hroom, if_neg hroom, mul_eq hfits, Option.bind_some, div_eq hfits hproduct hd,
      Int.tdiv_eq_ediv_of_nonneg hproduct]

theorem normalizeHigherBetter64_eq :
    normalizeHigherBetter64 raw ref = some (normalizeHigherBetter raw ref) := by
  rw [normalizeHigherBetter64, normalizeHigherBetter]
  split
  · rfl
  · rw [mulDiv64_eq (by omega) kFactorScale_nonneg, Option.map_some]

theorem normalizeLowerBetter64_eq :
    normalizeLowerBetter64 raw ref = some (normalizeLowerBetter raw ref) := by
  rw [normalizeLowerBetter64, normalizeLowerBetter]
  split
  · rfl
  · have hcost : 0 ≤ mulDiv raw kFactorScale (reference ref) :=
      mulDiv_nonneg (by omega) kFactorScale_nonneg
    rw [mulDiv64_eq (by omega) kFactorScale_nonneg, Option.bind_some]
    dsimp only
    split
    case isTrue => rfl
    case isFalse hlow =>
      have hmax : kFactorScale ≤ kMaxScore := by decide
      exact sub_eq (fits_kMaxScore.of_nonneg (by omega) (by omega))

theorem saturatingAdd64_eq (hl : 0 ≤ lhs) (hr : 0 ≤ rhs) (hl' : lhs ≤ kMaxScore)
    (hr' : rhs ≤ kMaxScore) : saturatingAdd64 lhs rhs = some (saturatingAdd lhs rhs) := by
  rw [saturatingAdd64, saturatingAdd]
  by_cases hpos : rhs > 0
  · have hroom := fits_kMaxScore.of_nonneg (y := kMaxScore - rhs) (by omega) (by omega)
    rw [if_pos hpos, sub_eq hroom, Option.bind_some]
    by_cases hfull : lhs > kMaxScore - rhs
    · rw [if_pos hfull, if_pos ⟨hpos, hfull⟩]
    · rw [if_neg hfull, if_neg (by omega), if_neg (by omega)]
      exact add_eq (fits_kMaxScore.of_nonneg (by omega) (by omega))
  · rw [if_neg hpos, if_neg (by omega), if_neg (by omega), if_neg (by omega)]
    exact add_eq (fits_kMaxScore.of_nonneg (by omega) (by omega))

theorem saturatingAdd_range (hl : 0 ≤ lhs) (hr : 0 ≤ rhs) (hl' : lhs ≤ kMaxScore) :
    0 ≤ saturatingAdd lhs rhs ∧ saturatingAdd lhs rhs ≤ kMaxScore := by
  have hmin : kMinScore ≤ 0 := by decide
  have hmax : 0 ≤ kMaxScore := by decide
  rw [saturatingAdd, if_neg (c := rhs < 0 ∧ _) (by omega)]
  split
  · exact ⟨hmax, le_rfl⟩
  · omega

theorem sumFrom64_eq {factors : List FactorValue}
    (h : ∀ v ∈ factors, 0 ≤ v.contribution ∧ v.contribution ≤ kMaxScore) :
    sumFrom64 0 factors = some (sumFrom 0 factors) := by
  have hmax : 0 ≤ kMaxScore := by decide
  refine foldlM_eq (I := fun score => 0 ≤ score ∧ score ≤ kMaxScore) ?_ ⟨le_rfl, hmax⟩
  intro v hv score hscore
  obtain ⟨hnonneg, hle⟩ := h v hv
  exact ⟨saturatingAdd64_eq hscore.1 hnonneg hscore.2 hle,
    saturatingAdd_range hscore.1 hnonneg hscore.2⟩

theorem tallied {preferences : List (Bool × Bool)} {requested matched : Nat}
    (hroom : requested + preferences.length < 2 ^ 62) (hmatched : matched ≤ requested) :
    preferences.foldlM tally64 ((requested : Int), (matched : Int)) =
      some (((requested + (countPreferences preferences).1 : Nat) : Int),
        ((matched + (countPreferences preferences).2 : Nat) : Int)) := by
  induction preferences generalizing requested matched with
  | nil => simp [countPreferences]
  | cons preference rest ih =>
      obtain ⟨asked, holds⟩ := preference
      rw [List.length_cons] at hroom
      have hadd (n : Nat) (hn : n ≤ requested) : add 64 n 1 = some ((n + 1 : Nat) : Int) := by
        have hmax : kMaxScore = 2 ^ 63 - 1 := rfl
        exact add_eq (fits_kMaxScore.of_nonneg (by omega) (by omega))
      rw [List.foldlM_cons]
      cases asked with
      | false => exact ih (by omega) hmatched
      | true =>
          cases holds with
          | false =>
              simp only [tally64, ite_true, hadd requested le_rfl, Option.bind_some]
              have hstep : requested + 1 + rest.length < 2 ^ 62 := by omega
              have hrest := ih hstep (hmatched.trans (Nat.le_succ requested))
              simpa [countPreferences, Nat.add_assoc, Nat.add_comm] using hrest
          | true =>
              simp only [tally64, ite_true, hadd requested le_rfl, hadd matched hmatched,
                Option.bind_some, Option.map_some]
              have hstep : requested + 1 + rest.length < 2 ^ 62 := by omega
              have hrest := ih hstep (Nat.succ_le_succ hmatched)
              simpa [countPreferences, Nat.add_assoc, Nat.add_comm] using hrest

theorem countPreferences64_eq {preferences : List (Bool × Bool)}
    (h : preferences.length < 2 ^ 62) :
    countPreferences64 preferences =
      some (((countPreferences preferences).1 : Int), ((countPreferences preferences).2 : Int)) := by
  have hroom : 0 + preferences.length < 2 ^ 62 := by omega
  have hcounts := tallied hroom le_rfl
  simpa [countPreferences64] using hcounts

theorem sub_words (a b : UInt32) :
    sub 64 a.toNat b.toNat = some ((a.toNat : Int) - b.toNat) := by
  have ha := a.toNat_lt
  have hb := b.toNat_lt
  refine sub_eq ⟨?_, ?_⟩ <;> norm_num <;> omega

theorem scaled64_eq (count : Nat) {denominator : Int} :
    mulDiv64 count kFactorScale denominator = some (mulDiv count kFactorScale denominator) :=
  mulDiv64_eq (Int.natCast_nonneg count) kFactorScale_nonneg

theorem ratio64_eq (part total : UInt32) : ratio64 part total = some (ratio part total) :=
  scaled64_eq part.toNat

theorem penalized64_eq (state : ReadinessState) (penalty : Nat) {denominator : Int} :
    sub 64 (readinessValue state) (mulDiv penalty kFactorScale denominator) =
      some (readinessValue state - mulDiv penalty kFactorScale denominator) := by
  have hpenalty : 0 ≤ mulDiv penalty kFactorScale denominator :=
    mulDiv_nonneg (Int.natCast_nonneg penalty) kFactorScale_nonneg
  have hlimit : mulDiv penalty kFactorScale denominator ≤ kMaxScore :=
    mulDiv_le_max (Int.natCast_nonneg penalty) kFactorScale_nonneg
  have hvalue : 0 ≤ readinessValue state ∧ readinessValue state ≤ kFactorScale := by
    cases state <;> decide
  have hmax : kMaxScore = 2 ^ 63 - 1 := rfl
  have hscale : kFactorScale = 1000000 := rfl
  exact sub_eq ⟨by omega, by omega⟩

end

section

variable {candidate : RouteCandidate} {context : RankingContext} {present : Bool}
  {factor : RankingFactor} {raw normalized : Int} {generation : UInt64} {source : Text}

variable (hweights : context.weights.validate = none)

include hweights

theorem factorWhen64_eq :
    factorWhen64 context.weights present factor (some raw) (some normalized) generation source =
      some (factorWhen context.weights present factor raw normalized generation source) := by
  cases present with
  | false => rfl
  | true =>
      have hpoints : mulDiv64 (clampScale normalized) (context.weights.weight factor)
          kFactorScale =
            some (mulDiv (clampScale normalized) (context.weights.weight factor) kFactorScale) :=
        mulDiv64_eq clampScale_nonneg (weightBounds hweights factor).1
      simp only [factorWhen64, factorWhen, knownFactor64, knownFactor, ite_true, Option.bind_some,
        hpoints, Option.map_some]

theorem pushedFactors64_eq :
    pushedFactors64 candidate context = (pushedFactors candidate context).map some := by
  have hsticky : (stickinessPreferences candidate
      context.request.requirements.stickiness).length < 2 ^ 62 := by
    simp [stickinessPreferences]
  have hpreferred : (callerPreferences candidate context.request.requirements).length <
      2 ^ 62 := by
    simp [callerPreferences]
  simp only [pushedFactors64, pushedFactors, List.map_cons, List.map_nil, sub_words, ratio64_eq,
    scaled64_eq, penalized64_eq, normalizeHigherBetter64_eq, normalizeLowerBetter64_eq,
    countPreferences64_eq hsticky, countPreferences64_eq hpreferred, Option.bind_some, ← apply_ite some, factorWhen64_eq hweights, gt_iff_lt,
    Int.natCast_pos]

theorem buildFactors64_eq :
    buildFactors64 candidate context = some (buildFactors candidate context) := by
  have hmax : 10000000 ≤ kMaxScore := by decide
  rw [buildFactors64, pushedFactors64_eq hweights, gather_map_some, Option.bind_some,
    sortFactors_pushed, buildFactors_eq]
  dsimp only
  rw [sumFrom64_eq, Option.map_some]
  intro v hv
  obtain ⟨hnonneg, hle⟩ := (pushed_sound hweights hv).bounded hweights
  exact ⟨hnonneg, hle.trans hmax⟩

end

/-- With validated weights every operation of factor construction stays in 64 bits, each factor
appears once and in canonical order with bounded values, and the score is the plain sum. -/
theorem buildFactors_exact (candidate : RouteCandidate) (context : RankingContext)
    (hweights : context.weights.validate = none) :
    buildFactors64 candidate context = some (buildFactors candidate context) ∧
      ((buildFactors candidate context).1.map FactorValue.factor = canonicalFactorOrder ∧
        canonicalFactorOrder.Nodup ∧ canonicalFactorOrder.length = 29 ∧
        ∀ factor, factor ∈ canonicalFactorOrder) ∧
      (∀ v ∈ (buildFactors candidate context).1, Sound context.weights v) ∧
      (buildFactors candidate context).2 =
        ((buildFactors candidate context).1.map FactorValue.contribution).sum ∧
      ∀ n, sumFrom 0 ((buildFactors candidate context).1.take n) =
          (((buildFactors candidate context).1.take n).map FactorValue.contribution).sum ∧
        sumFrom 0 ((buildFactors candidate context).1.take n) < kMaxScore := by
  have hfactors : (buildFactors candidate context).1 = pushedFactors candidate context := by
    rw [buildFactors_eq]
  rw [hfactors]
  refine ⟨buildFactors64_eq hweights,
    ⟨pushedFactors_names candidate context, by decide, rfl, canonicalFactorOrder_complete⟩,
    fun v hv => pushed_sound hweights hv, score_eq hweights, fun n => ?_⟩
  have hle : (((pushedFactors candidate context).take n).map FactorValue.contribution).sum ≤
      290000000 := gains_le hweights n
  have hmax : 290000000 < kMaxScore := by decide
  rw [partial_sum_eq hweights]
  exact ⟨rfl, hle.trans_lt hmax⟩

/-- Observations at the ends of their ranges. -/
theorem buildFactors_exact_extreme :
    let candidate : RouteCandidate :=
      { qualityClass := 0xFFFFFFFF
        backend :=
          { networkDistance := 0xFFFFFFFF
            readiness := { state := .ready, generation := ⟨1⟩ }
            latency := { coldStartPenaltyMicros := 0xFFFFFFFE } } }
    let context : RankingContext :=
      { request := {}
        evidence := {}
        policyVerdict := none
        weights := { warmthPpm := 10000000 }
        scales := { startupCostReferenceMicros := 1 }
        now := 0 }
    buildFactors64 candidate context = some (buildFactors candidate context) :=
  (buildFactors_exact _ _ (by decide +kernel)).1

end ModelRouter.Overflow
