import Mathlib.Algebra.Group.Int.Defs
import ModelRouter.Decision
import ModelRouter.Eligibility

namespace ModelRouter.Ranking

open Bytes Ids Capability Evidence Catalog Request Candidate Policy Eligibility Decision

def kMaxScore : Int := 2 ^ 63 - 1

def kMinScore : Int := -(2 ^ 63)

def saturatingAdd (lhs rhs : Int) : Int :=
  if rhs > 0 ∧ lhs > kMaxScore - rhs then kMaxScore
  else if rhs < 0 ∧ lhs < kMinScore - rhs then kMinScore
  else lhs + rhs

/-- Multiply and divide with the source's guards against a product outside 64 bits. -/
def mulDiv (value numerator denominator : Int) : Int :=
  if denominator ≤ 0 then 0
  else if value = 0 ∨ numerator = 0 then 0
  else if value > 0 ∧ numerator > 0 ∧ value > kMaxScore.tdiv numerator then kMaxScore
  else if value > 0 ∧ numerator < 0 ∧ numerator < kMinScore.tdiv value then kMinScore
  else (value * numerator).tdiv denominator

def clampScale (value : Int) : Int :=
  max 0 (min value kFactorScale)

def reference (value : Int) : Int :=
  if value > 0 then value else 1

def normalizeHigherBetter (raw ref : Int) : Int :=
  if raw ≤ 0 then 0 else clampScale (mulDiv raw kFactorScale (reference ref))

def normalizeLowerBetter (raw ref : Int) : Int :=
  if raw ≤ 0 then kFactorScale
  else
    let cost := mulDiv raw kFactorScale (reference ref)
    if cost ≥ kFactorScale then 0 else kFactorScale - cost

/-- The inputs of factor construction. -/
structure RankingContext where
  request : RouteRequest
  evidence : CandidateEvidence
  policyVerdict : Option PolicyVerdict
  weights : RankingWeights
  scales : RankingScales
  now : UnixMillis
  continuityBackend : Option BackendId := none
  diversityReferenceProvider : Option ProviderId := none

section

variable (weights : RankingWeights)

def unknownFactor (factor : RankingFactor) : FactorValue where
  factor := factor
  weightPpm := weights.weight factor

def knownFactor (factor : RankingFactor) (raw normalized : Int) (evidenceGeneration : UInt64)
    (source : Text) : FactorValue where
  factor := factor
  known := true
  normalized := clampScale normalized
  raw := raw
  weightPpm := weights.weight factor
  contribution := mulDiv (clampScale normalized) (weights.weight factor) kFactorScale
  evidenceGeneration := evidenceGeneration
  source := source

def factorWhen (present : Bool) (factor : RankingFactor) (raw normalized : Int)
    (evidenceGeneration : UInt64) (source : Text) : FactorValue :=
  if present then knownFactor weights factor raw normalized evidenceGeneration source
  else unknownFactor weights factor

end

def ratio (part total : UInt32) : Int :=
  mulDiv part.toNat kFactorScale total.toNat

def readinessValue : ReadinessState → Int
  | .ready => kFactorScale
  | .warming => kFactorScale / 2
  | _ => 0

def residencyValue : ResidencyState → Int
  | .resident => kFactorScale
  | .loading => kFactorScale / 2
  | _ => 0

def healthValue : HealthState → Int
  | .healthy => kFactorScale
  | .degraded => kFactorScale / 2
  | _ => 0

def flag (b : Bool) : Int :=
  if b then 1 else 0

def fullWhen (b : Bool) : Int :=
  if b then kFactorScale else 0

def countPreferences (preferences : List (Bool × Bool)) : Nat × Nat :=
  ((preferences.filter Prod.fst).length, (preferences.filter fun p => p.1 && p.2).length)

def stickinessPreferences (candidate : RouteCandidate) (s : Stickiness) : List (Bool × Bool) :=
  [(s.preferSameModelFamily, s.stickyFamily.valid && s.stickyFamily == candidate.model.familyId),
    (s.preferSameProvider,
      s.stickyProvider.valid && s.stickyProvider == candidate.backend.providerId),
    (s.preferSameBackend, s.stickyBackend.valid && s.stickyBackend == candidate.key.backendId),
    (s.preferContextLocality, candidate.backend.trustDomain == .local)]

def callerPreferences (candidate : RouteCandidate) (r : RouteRequirements) : List (Bool × Bool) :=
  [(r.affinityModel.valid, r.affinityModel == candidate.key.modelId),
    (r.affinityProvider.valid, r.affinityProvider == candidate.backend.providerId),
    (r.affinityBackend.valid, r.affinityBackend == candidate.key.backendId)]

def pushedFactors (candidate : RouteCandidate) (context : RankingContext) : List FactorValue :=
  let request := context.request
  let requirements := request.requirements
  let evidence := context.evidence
  let scales := context.scales
  let now := context.now
  let put := factorWhen context.weights
  let plain (present : Bool) (factor : RankingFactor) (raw normalized : Int) :=
    factorWhen context.weights present factor raw normalized 0 []
  let backend := candidate.backend
  let latency := backend.latency
  let latencyCurrent := !latency.expired now
  let observed (micros : UInt32) := latencyCurrent && micros != kUnknownLatencyMicros
  let trustKnown := backend.trustDomain != .unknown
  let trust : Int := backend.trustDomain.trustRank
  let readiness := backend.readiness
  let readinessKnown :=
    readiness.generation.valid && !readiness.expired now && readiness.state != .unknown
  let residency := backend.residency
  let availability := backend.availability
  let health := backend.health
  let detail := backend.capacityDetail
  let coldStart : Int := latency.coldStartPenaltyMicros.toNat
  let sloTarget :=
    if evidence.slo.latencyTargetMicros != kUnspecified then evidence.slo.latencyTargetMicros
    else requirements.maxLatencyMicros
  let headroom : Int := candidate.contextLimitTokens.toNat - requirements.minContextTokens.toNat
  let preference := (context.policyVerdict.map PolicyVerdict.preference).getD 0
  let modelMatches := requirements.affinityModel == candidate.key.modelId
  let sameBackend := context.continuityBackend == some candidate.key.backendId
  let different := context.diversityReferenceProvider != some backend.providerId
  let isLocal := backend.trustDomain == .local
  let movement : Int := if isLocal then 0 else backend.networkDistance.toNat
  let sticky := countPreferences (stickinessPreferences candidate requirements.stickiness)
  let preferred := countPreferences (callerPreferences candidate requirements)
  [plain (candidate.requiredCapabilitiesTotal > 0) .capabilityFit
      candidate.requiredCapabilitiesSatisfied.toNat
      (ratio candidate.requiredCapabilitiesSatisfied candidate.requiredCapabilitiesTotal),
    plain (candidate.preferredCapabilitiesTotal > 0) .preferredCapabilityCoverage
      candidate.preferredCapabilitiesSatisfied.toNat
      (ratio candidate.preferredCapabilitiesSatisfied candidate.preferredCapabilitiesTotal),
    plain (candidate.qualityClass != kUnclassifiedQuality) .qualityClass
      candidate.qualityClass.toNat
      (normalizeHigherBetter candidate.qualityClass.toNat scales.qualityReference),
    put (evidence.cost.known && evidence.cost.current now &&
        evidence.cost.unit.compatibleWith evidence.cost.unit) .costTotal
      evidence.cost.estimatedTotalMicros.toInt
      (normalizeLowerBetter evidence.cost.estimatedTotalMicros.toInt scales.costReferenceMicros)
      evidence.cost.priceGeneration.value evidence.cost.source,
    put (observed latency.dispatchMicros) .latency latency.dispatchMicros.toNat
      (normalizeLowerBetter latency.dispatchMicros.toNat scales.latencyReferenceMicros)
      latency.healthGeneration.value [],
    plain (observed latency.tailMicros) .tailLatency latency.tailMicros.toNat
      (normalizeLowerBetter latency.tailMicros.toNat scales.tailLatencyReferenceMicros),
    plain (observed latency.queueMicros) .queueDelay latency.queueMicros.toNat
      (normalizeLowerBetter latency.queueMicros.toNat scales.queueReferenceMicros),
    put readinessKnown .warmth readiness.state.ctorIdx
      (if observed latency.coldStartPenaltyMicros then
        readinessValue readiness.state -
          mulDiv coldStart kFactorScale (reference scales.startupCostReferenceMicros)
      else readinessValue readiness.state)
      readiness.generation.value [],
    put (residency.generation.valid && !residency.expired now && residency.state != .unknown)
      .residency residency.state.ctorIdx (residencyValue residency.state)
      residency.generation.value [],
    plain trustKnown .locality trust (mulDiv trust kFactorScale 4),
    plain (backend.networkDistance != 0) .networkDistance backend.networkDistance.toNat
      (normalizeLowerBetter backend.networkDistance.toNat scales.networkDistanceReference),
    put (availability.generation.valid && !availability.expired now &&
        availability.state != .unknown) .providerAvailability availability.state.ctorIdx
      (fullWhen (availability.state == .available)) availability.generation.value [],
    put (health.generation.valid && !health.expired now && health.state != .unknown)
      .backendHealth health.state.ctorIdx (healthValue health.state) health.generation.value [],
    put readinessKnown .backendReadiness readiness.state.ctorIdx
      (readinessValue readiness.state) readiness.generation.value [],
    put (detail.known && detail.totalSlots != kUnknownCount && detail.totalSlots > 0)
      .capacityHeadroom detail.availableSlots.toNat
      (ratio detail.availableSlots detail.totalSlots) backend.capacity.generation.value [],
    plain (evidence.reservationPresent && evidence.reservation.current now)
      .reservationConfidence 1 kFactorScale,
    plain (sloTarget != kUnspecified && sloTarget > 0 && observed latency.dispatchMicros)
      .sloHeadroom latency.dispatchMicros.toNat
      (normalizeLowerBetter latency.dispatchMicros.toNat sloTarget.toNat),
    plain (requirements.minContextTokens > 0 &&
        candidate.contextLimitTokens ≥ requirements.minContextTokens) .contextHeadroom headroom
      (normalizeHigherBetter headroom scales.contextReferenceTokens),
    put trustKnown .trustPreference trust (mulDiv trust kFactorScale 4)
      backend.trustGeneration.value [],
    put context.policyVerdict.isSome .policyPreference preference preference
      request.policyGeneration.value [],
    plain requirements.affinityModel.valid .modelAffinity (flag modelMatches)
      (fullWhen modelMatches),
    plain context.continuityBackend.isSome .cacheAffinity (flag sameBackend)
      (fullWhen sameBackend),
    plain (backend.reliabilityPpm != 0) .historicalReliability backend.reliabilityPpm.toNat
      (mulDiv backend.reliabilityPpm.toNat kFactorScale 10000),
    plain context.diversityReferenceProvider.isSome .failureDomainDiversity (flag different)
      (fullWhen different),
    plain (isLocal || backend.networkDistance != 0) .dataMovementCost movement
      (normalizeLowerBetter movement scales.networkDistanceReference),
    plain (observed latency.coldStartPenaltyMicros) .backendStartupCost coldStart
      (normalizeLowerBetter coldStart scales.startupCostReferenceMicros),
    plain context.continuityBackend.isSome .routeSwitchPenalty (flag !sameBackend)
      (fullWhen sameBackend),
    plain (sticky.1 > 0) .continuityStickiness sticky.2 (mulDiv sticky.2 kFactorScale sticky.1),
    plain (preferred.1 > 0) .callerPreference preferred.2
      (mulDiv preferred.2 kFactorScale preferred.1)]

/-- The canonically ordered factor vector of one candidate and its integer score. -/
def buildFactors (candidate : RouteCandidate) (context : RankingContext) :
    List FactorValue × Int :=
  let factors := sortFactors (pushedFactors candidate context)
  (factors, factors.foldl (fun score factor => saturatingAdd score factor.contribution) 0)

end ModelRouter.Ranking
