import Mathlib.Data.List.Lex
import ModelRouter.Catalog
import ModelRouter.Sha256

namespace ModelRouter.Candidate

open Base.Refusal Bytes Ids Evidence Catalog Sha256

/-- The identity of one candidate: model, artifact, backend incarnation and endpoint. -/
structure CandidateKey where
  modelId : ModelId := {}
  modelGeneration : ModelGeneration := {}
  artifactGeneration : ArtifactGeneration := {}
  backendId : BackendId := {}
  backendGeneration : BackendGeneration := {}
  backendBoot : BackendBootId := {}
  endpointId : EndpointId := {}
  endpointGeneration : EndpointGeneration := {}
deriving DecidableEq, Repr

namespace CandidateKey

def complete (k : CandidateKey) : Bool :=
  k.modelId.valid && k.modelGeneration.valid && k.artifactGeneration.valid &&
    k.backendId.valid && k.backendGeneration.valid && k.backendBoot.valid &&
    k.endpointId.valid && k.endpointGeneration.valid

def members (k : CandidateKey) : List Nat :=
  [k.modelId.value.toNat, k.modelGeneration.value.toNat, k.artifactGeneration.value.toNat,
    k.backendId.value.toNat, k.backendGeneration.value.toNat, k.backendBoot.value.toNat,
    k.endpointId.value.toNat, k.endpointGeneration.value.toNat]

theorem members_injective : Function.Injective members := by
  rintro ⟨⟨a⟩, ⟨b⟩, ⟨c⟩, ⟨d⟩, ⟨e⟩, ⟨f⟩, ⟨g⟩, ⟨h⟩⟩ ⟨⟨a'⟩, ⟨b'⟩, ⟨c'⟩, ⟨d'⟩, ⟨e'⟩, ⟨f'⟩, ⟨g'⟩, ⟨h'⟩⟩ hm
  simpa [members, UInt64.toNat_inj] using hm

instance : LinearOrder CandidateKey :=
  LinearOrder.lift' members members_injective

def render (k : CandidateKey) : Text :=
  text "model=" ++ decimal k.modelId.value.toNat ++ text "@" ++
    decimal k.modelGeneration.value.toNat ++ text ".artifact=" ++
    decimal k.artifactGeneration.value.toNat ++ text " backend=" ++
    decimal k.backendId.value.toNat ++ text "@" ++ decimal k.backendGeneration.value.toNat ++
    text ".boot=" ++ decimal k.backendBoot.value.toNat ++ text " endpoint=" ++
    decimal k.endpointId.value.toNat ++ text "@" ++ decimal k.endpointGeneration.value.toNat

end CandidateKey

inductive RankingFactor where
  | capabilityFit | preferredCapabilityCoverage | qualityClass | costTotal | latency
  | tailLatency | queueDelay | warmth | residency | locality | networkDistance
  | providerAvailability | backendHealth | backendReadiness | capacityHeadroom
  | reservationConfidence | sloHeadroom | contextHeadroom | trustPreference
  | policyPreference | modelAffinity | cacheAffinity | historicalReliability
  | failureDomainDiversity | dataMovementCost | backendStartupCost | routeSwitchPenalty
  | continuityStickiness | callerPreference
deriving DecidableEq, Repr

namespace RankingFactor

def name : RankingFactor → Text
  | capabilityFit => "capability_fit"
  | preferredCapabilityCoverage => "preferred_capability_coverage"
  | qualityClass => "quality_class" | costTotal => "cost_total" | latency => "latency"
  | tailLatency => "tail_latency" | queueDelay => "queue_delay" | warmth => "warmth"
  | residency => "residency" | locality => "locality" | networkDistance => "network_distance"
  | providerAvailability => "provider_availability" | backendHealth => "backend_health"
  | backendReadiness => "backend_readiness" | capacityHeadroom => "capacity_headroom"
  | reservationConfidence => "reservation_confidence" | sloHeadroom => "slo_headroom"
  | contextHeadroom => "context_headroom" | trustPreference => "trust_preference"
  | policyPreference => "policy_preference" | modelAffinity => "model_affinity"
  | cacheAffinity => "cache_affinity" | historicalReliability => "historical_reliability"
  | failureDomainDiversity => "failure_domain_diversity"
  | dataMovementCost => "data_movement_cost" | backendStartupCost => "backend_startup_cost"
  | routeSwitchPenalty => "route_switch_penalty"
  | continuityStickiness => "continuity_stickiness" | callerPreference => "caller_preference"

end RankingFactor

/-- The factors in canonical order. -/
def canonicalFactorOrder : List RankingFactor :=
  [.capabilityFit, .preferredCapabilityCoverage, .qualityClass, .costTotal, .latency,
    .tailLatency, .queueDelay, .warmth, .residency, .locality, .networkDistance,
    .providerAvailability, .backendHealth, .backendReadiness, .capacityHeadroom,
    .reservationConfidence, .sloHeadroom, .contextHeadroom, .trustPreference,
    .policyPreference, .modelAffinity, .cacheAffinity, .historicalReliability,
    .failureDomainDiversity, .dataMovementCost, .backendStartupCost, .routeSwitchPenalty,
    .continuityStickiness, .callerPreference]

def kFactorScale : Int := 1000000

/-- One factor's contribution for one candidate; an unknown factor contributes zero. -/
structure FactorValue where
  factor : RankingFactor := .capabilityFit
  known : Bool := false
  normalized : Int := 0
  raw : Int := 0
  weightPpm : Int := 0
  contribution : Int := 0
  evidenceGeneration : UInt64 := 0
  source : Text := []
deriving DecidableEq, Repr

structure RankingWeights where
  capabilityFitPpm : Int := 300000
  preferredCapabilityCoveragePpm : Int := 40000
  qualityClassPpm : Int := 120000
  costTotalPpm : Int := 150000
  latencyPpm : Int := 80000
  tailLatencyPpm : Int := 40000
  queueDelayPpm : Int := 30000
  warmthPpm : Int := 60000
  residencyPpm : Int := 40000
  localityPpm : Int := 40000
  networkDistancePpm : Int := 20000
  providerAvailabilityPpm : Int := 60000
  backendHealthPpm : Int := 100000
  backendReadinessPpm : Int := 80000
  capacityHeadroomPpm : Int := 50000
  reservationConfidencePpm : Int := 30000
  sloHeadroomPpm : Int := 70000
  contextHeadroomPpm : Int := 20000
  trustPreferencePpm : Int := 60000
  policyPreferencePpm : Int := 60000
  modelAffinityPpm : Int := 50000
  cacheAffinityPpm : Int := 30000
  historicalReliabilityPpm : Int := 40000
  failureDomainDiversityPpm : Int := 20000
  dataMovementCostPpm : Int := 20000
  backendStartupCostPpm : Int := 20000
  routeSwitchPenaltyPpm : Int := 30000
  continuityStickinessPpm : Int := 50000
  callerPreferencePpm : Int := 100000
deriving DecidableEq, Repr, Inhabited

namespace RankingWeights

def weight (w : RankingWeights) : RankingFactor → Int
  | .capabilityFit => w.capabilityFitPpm
  | .preferredCapabilityCoverage => w.preferredCapabilityCoveragePpm
  | .qualityClass => w.qualityClassPpm
  | .costTotal => w.costTotalPpm
  | .latency => w.latencyPpm
  | .tailLatency => w.tailLatencyPpm
  | .queueDelay => w.queueDelayPpm
  | .warmth => w.warmthPpm
  | .residency => w.residencyPpm
  | .locality => w.localityPpm
  | .networkDistance => w.networkDistancePpm
  | .providerAvailability => w.providerAvailabilityPpm
  | .backendHealth => w.backendHealthPpm
  | .backendReadiness => w.backendReadinessPpm
  | .capacityHeadroom => w.capacityHeadroomPpm
  | .reservationConfidence => w.reservationConfidencePpm
  | .sloHeadroom => w.sloHeadroomPpm
  | .contextHeadroom => w.contextHeadroomPpm
  | .trustPreference => w.trustPreferencePpm
  | .policyPreference => w.policyPreferencePpm
  | .modelAffinity => w.modelAffinityPpm
  | .cacheAffinity => w.cacheAffinityPpm
  | .historicalReliability => w.historicalReliabilityPpm
  | .failureDomainDiversity => w.failureDomainDiversityPpm
  | .dataMovementCost => w.dataMovementCostPpm
  | .backendStartupCost => w.backendStartupCostPpm
  | .routeSwitchPenalty => w.routeSwitchPenaltyPpm
  | .continuityStickiness => w.continuityStickinessPpm
  | .callerPreference => w.callerPreferencePpm

def checkWeight (w : RankingWeights) (factor : RankingFactor) : Option Text :=
  violation ((w.weight factor < 0)) ("ranking weight " ++ factor.name ++ " is negative") <|>
  violation ((w.weight factor > 10000000))
    ("ranking weight " ++ factor.name ++ " exceeds 10000000 parts per 10000")

def validate (w : RankingWeights) : Option Text :=
  canonicalFactorOrder.findSome? w.checkWeight

end RankingWeights

structure RankingScales where
  costReferenceMicros : Int := 1000000
  latencyReferenceMicros : Int := 5000000
  tailLatencyReferenceMicros : Int := 20000000
  queueReferenceMicros : Int := 1000000
  contextReferenceTokens : Int := 1000000
  networkDistanceReference : Int := 100000
  startupCostReferenceMicros : Int := 10000000
  qualityReference : Int := 1000
deriving DecidableEq, Repr, Inhabited

def RankingScales.validate (s : RankingScales) : Option Text :=
  violation ((s.costReferenceMicros ≤ 0) || (s.latencyReferenceMicros ≤ 0) ||
      (s.tailLatencyReferenceMicros ≤ 0) || (s.queueReferenceMicros ≤ 0) ||
      (s.contextReferenceTokens ≤ 0) || (s.networkDistanceReference ≤ 0) ||
      (s.startupCostReferenceMicros ≤ 0) || (s.qualityReference ≤ 0))
    "every ranking reference scale must be positive"

/-- A discovered candidate: the identity, the descriptors and the values derived from them. -/
structure RouteCandidate where
  key : CandidateKey := {}
  model : ModelDescriptor := {}
  backend : BackendDescriptor := {}
  endpoint : EndpointDescriptor := {}
  contextLimitTokens : UInt32 := 0
  qualityClass : QualityClass := kUnclassifiedQuality
  requiredCapabilitiesSatisfied : UInt32 := 0
  requiredCapabilitiesTotal : UInt32 := 0
  preferredCapabilitiesSatisfied : UInt32 := 0
  preferredCapabilitiesTotal : UInt32 := 0
  discoverySource : Text := []
deriving DecidableEq, Repr

structure RankedCandidate where
  key : CandidateKey := {}
  score : Int := 0
  factors : List FactorValue := []
  rank : UInt32 := 0
deriving DecidableEq, Repr

def factorsRankBefore : List FactorValue → List FactorValue → Option Bool
  | left :: ls, right :: rs =>
    if left.factor ≠ right.factor then some (left.factor.ctorIdx < right.factor.ctorIdx)
    else if left.contribution ≠ right.contribution then
      some (left.contribution > right.contribution)
    else if left.normalized ≠ right.normalized then some (left.normalized > right.normalized)
    else if left.known ≠ right.known then some left.known
    else factorsRankBefore ls rs
  | _, _ => none

def candidateRanksBefore (lhs rhs : RankedCandidate) : Bool :=
  if lhs.score ≠ rhs.score then lhs.score > rhs.score
  else match factorsRankBefore lhs.factors rhs.factors with
    | some verdict => verdict
    | none =>
      if lhs.factors.length ≠ rhs.factors.length then lhs.factors.length > rhs.factors.length
      else lhs.key < rhs.key

end ModelRouter.Candidate
