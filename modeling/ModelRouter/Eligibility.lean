import ModelRouter.Policy

namespace ModelRouter.Eligibility

open Base.Refusal Bytes Ids Outcome Capability Evidence Catalog Request Candidate Policy

/-- The evidence resolved for one candidate for one request. -/
structure CandidateEvidence where
  cost : CostEvidence := {}
  compatibility : CompatibilityEvidence := {}
  trust : TrustEvidence := {}
  slo : SloEvidence := {}
  sloVerdict : SloVerdict := .unknown
  sloVerdictKnown : Bool := false
  reservation : ReservationEvidence := {}
  reservationPresent : Bool := false
deriving DecidableEq, Repr

/-- Everything a hard-eligibility decision depends on. -/
structure EligibilityInput where
  request : RouteRequest
  candidate : RouteCandidate
  policy : PolicySnapshot
  budget : BudgetSnapshot
  evidence : CandidateEvidence
  now : UnixMillis

structure EligibilityVerdict where
  code : OutcomeCode := .accepted
  detail : Text := []
deriving DecidableEq, Repr

def EligibilityVerdict.eligible (v : EligibilityVerdict) : Bool :=
  v.code == .accepted

def fail (condition : Bool) (code : OutcomeCode) (detail : Text) : Option EligibilityVerdict :=
  refuse condition { code := code, detail := detail }

@[simp] theorem fail_eq_none {condition : Bool} {code : OutcomeCode} {detail : Text} :
    fail condition code detail = none ↔ condition = false :=
  refuse_eq_none

namespace CapabilityKeys

def structuredOutput : CapabilityKey := "output/structured"
def jsonSchema : CapabilityKey := "output/json-schema"
def toolCalling : CapabilityKey := "tool/calling"
def streaming : CapabilityKey := "output/streaming"
def logprobs : CapabilityKey := "output/logprobs"
def deterministicSeed : CapabilityKey := "behavior/deterministic-seed"

end CapabilityKeys

def satisfies (now : UnixMillis) (evidence : Option CapabilityEvidence)
    (minimum : CapabilityState) : Bool :=
  evidence.any fun e =>
    e.state.isSatisfying && !e.expired now && e.state.evidenceStrength ≥ minimum.evidenceStrength

def checkCapability (candidate : RouteCandidate) (now : UnixMillis)
    (requirement : CapabilityRequirement) : Option EligibilityVerdict :=
  let modelEvidence := candidate.model.capabilities.find requirement.key
  let backendEvidence := candidate.backend.capabilities.find requirement.key
  if satisfies now modelEvidence requirement.minimumState ||
      satisfies now backendEvidence requirement.minimumState then none
  else match modelEvidence <|> backendEvidence with
    | none =>
      some ⟨.rejectCapability, "capability " ++ requirement.key ++ " has no evidence"⟩
    | some present =>
      if present.state = .unknown then
        some ⟨.rejectUnknownEvidence, "capability " ++ requirement.key ++ " is UNKNOWN"⟩
      else if !present.state.isSatisfying then
        some ⟨.rejectCapability,
          "capability " ++ requirement.key ++ " is " ++ present.state.name⟩
      else if present.expired now then
        some ⟨.rejectCapability, "capability " ++ requirement.key ++ " evidence is stale"⟩
      else
        some ⟨.rejectCapability, "capability " ++ requirement.key ++
          " evidence is weaker than the required minimum evidence state"⟩

def checkCapabilities (request : RouteRequest) (candidate : RouteCandidate) (now : UnixMillis) :
    Option EligibilityVerdict :=
  request.requirements.requiredCapabilities.findSome? (checkCapability candidate now)

def checkModalities (request : RouteRequest) (candidate : RouteCandidate) :
    Option EligibilityVerdict :=
  fail (!candidate.model.inputModalities.covers request.requirements.requiredInputModalities)
    .rejectModality "model does not support a required input modality" <|>
  fail (!candidate.model.outputModalities.covers request.requirements.requiredOutputModalities)
    .rejectModality "model does not support a required output modality"

def hasCapability (candidate : RouteCandidate) (now : UnixMillis) (key : CapabilityKey) : Bool :=
  (candidate.model.capabilities.find key).any fun found =>
    found.state.isSatisfying && !found.expired now

def checkShape (request : RouteRequest) (candidate : RouteCandidate)
    (evidence : CandidateEvidence) (now : UnixMillis) : Option EligibilityVerdict :=
  let requirements := request.requirements
  let has := hasCapability candidate now
  let protocolRequired := !requirements.requiredProtocol.isEmpty
  fail (requirements.requireStructuredOutput && !has CapabilityKeys.structuredOutput)
    .rejectStructuredOutput "structured output is required but not proven" <|>
  fail (requirements.requireJsonSchema && !has CapabilityKeys.jsonSchema)
    .rejectStructuredOutput "JSON schema output is required but not proven" <|>
  fail (requirements.requireToolCalling && !has CapabilityKeys.toolCalling)
    .rejectToolCalling "tool calling is required but not proven" <|>
  fail (requirements.requireStreaming && !has CapabilityKeys.streaming)
    .rejectStreaming "streaming is required but not proven" <|>
  fail (requirements.requireLogprobs && !has CapabilityKeys.logprobs)
    .rejectCapability "logprobs are required but not proven" <|>
  fail (requirements.requireDeterministicSeed && !has CapabilityKeys.deterministicSeed)
    .rejectCapability "deterministic seeding is required but not proven" <|>
  fail (protocolRequired && !evidence.compatibility.current now)
    .rejectUnknownEvidence "protocol compatibility is required but UNKNOWN or stale" <|>
  fail (protocolRequired &&
      (evidence.compatibility.protocol != requirements.requiredProtocol ||
        (requirements.requiredProtocolVersion != 0 &&
          evidence.compatibility.protocolVersion != requirements.requiredProtocolVersion)))
    .rejectCompatibility "protocol identity or version is not compatible"

def checkModel (candidate : RouteCandidate) (now : UnixMillis) : Option EligibilityVerdict :=
  let key := candidate.key
  fail (!key.complete) .rejectInvalid "candidate identity is incomplete" <|>
  fail (candidate.model.lifecycle == .retired) .rejectRetired "model generation is retired" <|>
  fail (!candidate.model.current now) .rejectStaleModel
    "model generation is not the current lifecycle state" <|>
  fail (!key.modelGeneration.valid || !key.artifactGeneration.valid) .rejectStaleArtifact
    "model or artifact generation is not valid" <|>
  fail (key.modelGeneration != candidate.model.modelGeneration ||
      key.artifactGeneration != candidate.model.artifactGeneration) .rejectStaleModel
    "candidate identity does not match the current model generation" <|>
  (match candidate.backend.findBinding key.modelId with
    | none => fail true .rejectStaleModel "backend no longer binds this model"
    | some binding =>
      fail (binding.modelGeneration != key.modelGeneration ||
          binding.artifactGeneration != key.artifactGeneration) .rejectStaleModel
        "backend binding is not for the current model generation")

def checkIncarnation (candidate : RouteCandidate) : Option EligibilityVerdict :=
  let key := candidate.key
  fail (candidate.backend.backendBoot != key.backendBoot ||
      candidate.backend.backendGeneration != key.backendGeneration) .rejectStaleBackendBoot
    "candidate identity does not match the current backend incarnation" <|>
  fail candidate.backend.retired .rejectRetired "backend is retired" <|>
  fail candidate.backend.draining .rejectDraining "backend is draining" <|>
  fail (candidate.endpoint.endpointGeneration != key.endpointGeneration ||
      candidate.endpoint.endpointId != key.endpointId) .rejectStaleEndpoint
    "endpoint generation is not the current endpoint generation"

def checkLive {σ : Type} [DecidableEq σ] {t : Tag} (required : Bool) (evidence : BackendEvidence σ t)
    (unknownState affirmative : σ) (boot : BackendBootId) (now : UnixMillis)
    (unknownDetail : Text) (stale : EligibilityVerdict) (otherIncarnation : Text)
    (negative : EligibilityVerdict) : Option EligibilityVerdict :=
  fail (required && (!evidence.generation.valid || evidence.state == unknownState))
    .rejectUnknownEvidence unknownDetail <|>
  fail (required && evidence.expired now) stale.code stale.detail <|>
  fail (required && evidence.backendBoot != boot) .rejectStaleBackendBoot otherIncarnation <|>
  fail (required && evidence.state != affirmative) negative.code negative.detail

def checkAvailability (required : Bool) (candidate : RouteCandidate) (now : UnixMillis) :
    Option EligibilityVerdict :=
  checkLive required candidate.backend.availability .unknown .available candidate.key.backendBoot
    now "backend availability is UNKNOWN"
    ⟨.rejectStaleAvailability, "backend availability evidence is stale"⟩
    "backend availability evidence belongs to a different incarnation"
    ⟨.rejectUnavailable, "backend is not available"⟩

def checkHealth (required : Bool) (candidate : RouteCandidate) (now : UnixMillis) :
    Option EligibilityVerdict :=
  checkLive required candidate.backend.health .unknown .healthy candidate.key.backendBoot
    now "backend health is UNKNOWN"
    ⟨.rejectStaleHealth, "backend health evidence is stale"⟩
    "backend health evidence belongs to a different incarnation"
    ⟨.rejectUnhealthy, "backend is not healthy"⟩

def checkReadiness (required : Bool) (candidate : RouteCandidate) (now : UnixMillis) :
    Option EligibilityVerdict :=
  checkLive required candidate.backend.readiness .unknown .ready candidate.key.backendBoot
    now "backend readiness is UNKNOWN"
    ⟨.rejectStaleReadiness, "backend readiness evidence is stale"⟩
    "backend readiness evidence belongs to a different incarnation"
    ⟨.rejectNotReady, "backend is not ready"⟩

def checkResidency (required : Bool) (candidate : RouteCandidate) (now : UnixMillis) :
    Option EligibilityVerdict :=
  checkLive required candidate.backend.residency .unknown .resident candidate.key.backendBoot
    now "model residency is UNKNOWN"
    ⟨.rejectStaleResidency, "model residency evidence is stale"⟩
    "model residency evidence belongs to a different incarnation"
    ⟨.rejectResidency, "model is not resident"⟩

def checkCapacity (required : Bool) (candidate : RouteCandidate) (now : UnixMillis) :
    Option EligibilityVerdict :=
  checkLive required candidate.backend.capacity .unknown .available candidate.key.backendBoot
    now "backend capacity is UNKNOWN"
    ⟨.rejectStaleCapacity, "backend capacity evidence is stale"⟩
    "backend capacity evidence belongs to a different incarnation"
    ⟨.rejectCapacity, "backend capacity is saturated"⟩

def checkReservation (required : Bool) (candidate : RouteCandidate)
    (evidence : CandidateEvidence) (now : UnixMillis) : Option EligibilityVerdict :=
  fail (required && !evidence.reservationPresent) .rejectReservation
    "a current reservation is required but absent" <|>
  fail (required && !evidence.reservation.current now) .rejectStaleReservation
    "reservation is stale or expired" <|>
  fail (required && (evidence.reservation.backendId != candidate.key.backendId ||
      evidence.reservation.backendBoot != candidate.key.backendBoot)) .rejectReservation
    "reservation is not bound to this backend incarnation"

def checkLimits (requirements : RouteRequirements) (candidate : RouteCandidate) :
    Option EligibilityVerdict :=
  let floor := requirements.qualityFloor != kUnclassifiedQuality
  fail (requirements.minContextTokens > candidate.contextLimitTokens) .rejectContextLimit
    "context limit is insufficient" <|>
  fail (requirements.maxOutputTokens > candidate.model.maxOutputTokens) .rejectContextLimit
    "maximum output length exceeds the model limit" <|>
  fail (floor && candidate.qualityClass == kUnclassifiedQuality) .rejectUnknownEvidence
    "a quality floor is required but candidate quality is unclassified" <|>
  fail (floor && candidate.qualityClass < requirements.qualityFloor) .rejectQuality
    "candidate quality is below the required floor"

def checkFilter {t : Tag} (allowlist denylist : List (EntityId t)) (id : EntityId t)
    (unlisted denied : Text) : Option EligibilityVerdict :=
  fail (!allowlist.isEmpty && !binarySearch allowlist id) .rejectAffinity unlisted <|>
  fail (binarySearch denylist id) .rejectAffinity denied

def checkFilters (requirements : RouteRequirements) (candidate : RouteCandidate) :
    Option EligibilityVerdict :=
  checkFilter requirements.modelAllowlist requirements.modelDenylist candidate.key.modelId
    "model is not in the request allowlist" "model is in the request denylist" <|>
  checkFilter requirements.familyAllowlist requirements.familyDenylist candidate.model.familyId
    "model family is not in the request allowlist" "model family is in the request denylist" <|>
  checkFilter requirements.providerAllowlist requirements.providerDenylist
    candidate.backend.providerId
    "provider is not in the request allowlist" "provider is in the request denylist" <|>
  checkFilter requirements.backendAllowlist requirements.backendDenylist candidate.key.backendId
    "backend is not in the request allowlist" "backend is in the request denylist"

def checkPlacement (requirements : RouteRequirements) (candidate : RouteCandidate) :
    Option EligibilityVerdict :=
  let domain := candidate.backend.trustDomain
  let locality := candidate.backend.locality
  let floor := requirements.minimumTrust != .unknown
  fail (requirements.localOnly && domain != .local) .rejectLocality "request is local-only" <|>
  fail (!requirements.remoteAllowed && domain != .local) .rejectLocality
    "request forbids remote placement" <|>
  fail (requirements.offlineOnly && !candidate.backend.offlineCapable) .rejectLocality
    "request is offline-only" <|>
  fail (!requirements.requiredLocalities.isEmpty &&
      (locality.isEmpty || !binarySearch requirements.requiredLocalities locality))
    .rejectResidency "backend locality is not an allowed locality" <|>
  fail (!locality.isEmpty && binarySearch requirements.deniedLocalities locality)
    .rejectResidency "backend locality is denied" <|>
  fail (floor && domain == .unknown) .rejectUnknownEvidence
    "a trust floor is required but candidate trust is UNKNOWN" <|>
  fail (floor && domain.trustRank < requirements.minimumTrust.trustRank) .rejectTrust
    "candidate trust domain is below the required floor"

def checkPolicy (policy : PolicySnapshot) (candidate : RouteCandidate) (now : UnixMillis) :
    Option EligibilityVerdict :=
  let verdict := evaluateCandidate policy candidate now
  if verdict.allowed then none
  else some ⟨verdict.code, firstNonempty verdict.detail "policy denied the candidate"⟩

def checkBudget (request : RouteRequest) (budget : BudgetSnapshot) (now : UnixMillis) :
    Option EligibilityVerdict :=
  let named := request.budgetId.valid
  fail (named && (!budget.generation.valid || budget.verdict == .unknown)) .rejectUnknownEvidence
    "budget verdict is UNKNOWN" <|>
  fail (named && budget.expired now) .rejectStaleBudget "budget evidence is stale" <|>
  fail (named && budget.budgetId.valid && budget.budgetId != request.budgetId) .rejectStaleBudget
    "budget identity does not match the request" <|>
  fail (named && budget.generation != request.budgetGeneration) .rejectStaleBudget
    "budget generation is not the request budget generation" <|>
  fail (named && budget.verdict == .denied) .rejectBudget "budget verdict denies the request"

def checkCost (requirements : RouteRequirements) (cost : CostEvidence) (now : UnixMillis) :
    Option EligibilityVerdict :=
  let ceiling := requirements.enforceCostCeiling
  let needed := requirements.requireKnownCost || ceiling
  fail (needed && !cost.known) .rejectCostUnknown
    "cost evidence is UNKNOWN and the request requires a known cost" <|>
  fail (needed && !cost.current now) .rejectStalePrice
    "cost evidence is stale or has no unit identity" <|>
  fail (ceiling && !cost.unit.compatibleWith requirements.maximumCost.unit) .rejectCost
    "candidate cost unit is not compatible with the request ceiling unit" <|>
  fail (ceiling && cost.estimatedTotalMicros > requirements.maximumCost.micros) .rejectCost
    "estimated request cost exceeds the ceiling"

def checkSlo (request : RouteRequest) (evidence : CandidateEvidence) (now : UnixMillis) :
    Option EligibilityVerdict :=
  let required := request.requirements.requireSlo
  let slo := evidence.slo
  fail (required && (!slo.generation.valid || slo.verdict == .unknown)) .rejectUnknownEvidence
    "SLO verdict is UNKNOWN" <|>
  fail (required && slo.expired now) .rejectStaleSlo "SLO evidence is stale" <|>
  fail (required && slo.sloId.valid && slo.sloId != request.sloId) .rejectStaleSlo
    "SLO identity does not match the request" <|>
  fail (required && slo.generation != request.sloGeneration) .rejectStaleSlo
    "SLO generation is not the request SLO generation" <|>
  fail (required && slo.verdict == .infeasible) .rejectSlo
    "SLO is infeasible for this candidate" <|>
  fail (required && !evidence.sloVerdictKnown) .rejectUnknownEvidence
    "per-candidate SLO feasibility is UNKNOWN" <|>
  fail (required && evidence.sloVerdict == .infeasible) .rejectSlo
    "per-candidate SLO feasibility is infeasible" <|>
  fail (required && evidence.sloVerdict == .unknown) .rejectUnknownEvidence
    "per-candidate SLO feasibility is UNKNOWN"

def checkLatency (requirements : RouteRequirements) (latency : LatencyEvidence)
    (now : UnixMillis) : Option EligibilityVerdict :=
  let unknown := latency.dispatchMicros == kUnknownLatencyMicros
  let ceiling := requirements.maxLatencyMicros != kUnspecified
  fail (requirements.requireKnownLatency && unknown) .rejectUnknownEvidence
    "latency evidence is required but UNKNOWN" <|>
  fail (ceiling && unknown) .rejectUnknownEvidence
    "a latency ceiling is required but latency is UNKNOWN" <|>
  fail (ceiling && latency.expired now) .rejectUnknownEvidence "latency evidence is stale" <|>
  fail (ceiling && latency.dispatchMicros > requirements.maxLatencyMicros) .rejectSlo
    "observed latency exceeds the request ceiling"

def checkCompatibility (requirements : RouteRequirements) (evidence : CandidateEvidence)
    (now : UnixMillis) : Option EligibilityVerdict :=
  fail (requirements.requireKnownCompatibility && !evidence.compatibility.current now)
    .rejectUnknownEvidence "compatibility evidence is required but UNKNOWN or stale" <|>
  fail (requirements.requiredProtocol.isEmpty && evidence.compatibility.generation.valid &&
      evidence.compatibility.verdict == .incompatible)
    .rejectCompatibility "compatibility evidence is incompatible"

/-- The first hard predicate that fails, in the order the source checks them. -/
def firstFailure (input : EligibilityInput) : Option EligibilityVerdict :=
  let request := input.request
  let requirements := request.requirements
  let candidate := input.candidate
  let evidence := input.evidence
  let now := input.now
  checkModel candidate now <|>
  checkIncarnation candidate <|>
  checkAvailability requirements.requireAvailable candidate now <|>
  checkHealth requirements.requireHealthy candidate now <|>
  checkReadiness requirements.requireReady candidate now <|>
  checkResidency requirements.requireResident candidate now <|>
  checkCapacity requirements.requireCapacity candidate now <|>
  checkReservation requirements.requireReservation candidate evidence now <|>
  checkCapabilities request candidate now <|>
  checkModalities request candidate <|>
  checkShape request candidate evidence now <|>
  checkLimits requirements candidate <|>
  checkFilters requirements candidate <|>
  checkPlacement requirements candidate <|>
  checkPolicy input.policy candidate now <|>
  checkBudget request input.budget now <|>
  checkCost requirements evidence.cost now <|>
  checkSlo request evidence now <|>
  checkLatency requirements candidate.backend.latency now <|>
  checkCompatibility requirements evidence now

def evaluateHardEligibility (input : EligibilityInput) : EligibilityVerdict :=
  (firstFailure input).getD {}

end ModelRouter.Eligibility
