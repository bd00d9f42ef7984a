import ModelRouter.Ranking
import ModelRouter.Section

namespace ModelRouter.Pass

open Base Base.Refusal Bytes Ids Outcome Capability Evidence Catalog Limits Candidate Authority
open Request Policy Eligibility Ranking Decision State Commit Providers Section

abbrev Stop := OutcomeCode × Text

def stopIf (condition : Bool) (code : OutcomeCode) (message : Text) : Option Stop :=
  refuse condition (code, message)

@[simp] theorem stopIf_eq_none {condition : Bool} {code : OutcomeCode} {message : Text} :
    stopIf condition code message = none ↔ condition = false :=
  refuse_eq_none

variable {α β : Type}

def proceed (stop : Stop → α) (x : Except Stop β) (next : β → Operation α) : Operation α :=
  match x with
  | .error reason => .done (stop reason)
  | .ok value => next value

def guarded (refusal : Option Stop) (value : β) : Except Stop β :=
  match refusal with
  | some reason => .error reason
  | none => .ok value

def consult (supplied : Bool) (held : β) (query : Adapters → EvidenceResult β) :
    Operation (Except Stop β) :=
  if supplied then do
    let e ← ask
    let answer := query e.adapters
    return match answer.evidence with
      | some value => .ok value
      | none => .error (answer.code, answer.detail)
  else return .ok held

def identify (raw : RouteRequest) : Operation RouteRequest := do
  let request := { raw with requirements := raw.requirements.canonicalize }
  let request ←
    if request.requestId.valid then pure request
    else do
      let w ← perform .allocate
      pure { request with requestId := ⟨w.nextId⟩ }
  return if request.requestGeneration.valid then request
    else { request with requestGeneration := ⟨1⟩ }

/-- What a pass copies out of canonical state under the lock. -/
structure Snapshot where
  limits : ResourceLimits
  weights : RankingWeights
  scales : RankingScales
  policy : PolicySnapshot
  budget : BudgetSnapshot
  slo : SloEvidence
  context : DiscoveryContext
  continuity : Option BackendId
  evidence : EvidenceSnapshot

def Snapshot.epoch (p : Snapshot) : RouterEpoch :=
  p.context.routerEpoch

def Snapshot.coordinatorEpoch (p : Snapshot) : CoordinatorEpoch :=
  p.context.coordinatorEpoch

def Snapshot.now (p : Snapshot) : UnixMillis :=
  p.context.nowUnixMillis

def Snapshot.capture (s : CanonicalState) (tenant : TenantId) (nameSpace : NamespaceId)
    (now : UnixMillis) : Snapshot where
  limits := s.limits
  weights := s.weights
  scales := s.scales
  policy := s.policy
  budget := s.budget
  slo := s.slo
  context :=
    { routerId := s.routerId
      routerEpoch := s.routerEpoch
      coordinatorEpoch := s.coordinatorEpoch
      tenant := tenant
      nameSpace := nameSpace
      nowUnixMillis := now
      limits := s.limits }
  continuity := s.lastWinnerByTenant.find? tenant
  evidence := .capture s

/-- Everything the verdict and the factors of one candidate are computed from, besides the
candidate and its resolved evidence. -/
structure Frame where
  request : RouteRequest
  policy : PolicySnapshot
  budget : BudgetSnapshot
  weights : RankingWeights
  scales : RankingScales
  continuity : Option BackendId
  now : UnixMillis

def capabilitySatisfied (candidate : RouteCandidate) (now : UnixMillis)
    (requirement : CapabilityRequirement) : Bool :=
  satisfies now (candidate.model.capabilities.find requirement.key) requirement.minimumState ||
    satisfies now (candidate.backend.capabilities.find requirement.key) requirement.minimumState

def preferenceSatisfied (candidate : RouteCandidate) (now : UnixMillis) (key : CapabilityKey) :
    Bool :=
  satisfies now (candidate.model.capabilities.find key) .unknown ||
    satisfies now (candidate.backend.capabilities.find key) .unknown

def countCapabilities (candidate : RouteCandidate) (requirements : RouteRequirements)
    (now : UnixMillis) : RouteCandidate :=
  { candidate with
    requiredCapabilitiesTotal := requirements.requiredCapabilities.length.toUInt32
    requiredCapabilitiesSatisfied :=
      (requirements.requiredCapabilities.countP (capabilitySatisfied candidate now)).toUInt32
    preferredCapabilitiesTotal := requirements.preferredCapabilities.length.toUInt32
    preferredCapabilitiesSatisfied :=
      (requirements.preferredCapabilities.countP (preferenceSatisfied candidate now)).toUInt32 }

def Frame.input (frame : Frame) (candidate : RouteCandidate) (evidence : CandidateEvidence) :
    EligibilityInput where
  request := frame.request
  candidate := candidate
  policy := frame.policy
  budget := frame.budget
  evidence := evidence
  now := frame.now

/-- A ranked candidate together with what its verdict and its factors were computed from. -/
structure Assessment where
  candidate : RouteCandidate
  evidence : CandidateEvidence
  ranked : RankedCandidate

def rejectionOf (candidate : RouteCandidate) (verdict : EligibilityVerdict) : RouteRejection where
  modelId := candidate.key.modelId.value
  modelGeneration := candidate.key.modelGeneration
  backendId := candidate.key.backendId.value
  backendGeneration := candidate.key.backendGeneration
  backendBoot := candidate.key.backendBoot
  endpointId := candidate.key.endpointId.value
  code := verdict.code
  detail := verdict.detail

def rankCandidate (frame : Frame) (candidate : RouteCandidate) (evidence : CandidateEvidence) :
    RankedCandidate :=
  let factors := buildFactors candidate
    { request := frame.request
      evidence := evidence
      policyVerdict := some (evaluateCandidate frame.policy candidate frame.now)
      weights := frame.weights
      scales := frame.scales
      now := frame.now
      continuityBackend := frame.continuity }
  { key := candidate.key, score := factors.2, factors := factors.1 }

def assess (frame : Frame) (discovered : RouteCandidate) (evidence : CandidateEvidence) :
    Except RouteRejection Assessment :=
  let candidate := countCapabilities discovered frame.request.requirements frame.now
  let verdict := evaluateHardEligibility (frame.input candidate evidence)
  if verdict.eligible then
    .ok
      { candidate := candidate
        evidence := evidence
        ranked := rankCandidate frame candidate evidence }
  else .error (rejectionOf candidate verdict)

def bindDescriptor (authority : RouteAuthority) (backend : BackendDescriptor) : RouteAuthority :=
  { authority with
    providerId := backend.providerId
    providerGeneration := backend.providerGeneration
    backendRegistrationGeneration := backend.backendRegistrationGeneration
    capabilityProfileId := backend.capabilityProfileId
    capabilityGeneration := backend.capabilityGeneration
    compatibilityProfileId := backend.compatibilityProfileId
    compatibilityGeneration := backend.compatibilityGeneration
    trustProfileId := backend.trustProfileId
    trustGeneration := backend.trustGeneration
    healthGeneration := backend.health.generation
    availabilityGeneration := backend.availability.generation
    readinessGeneration := backend.readiness.generation
    residencyGeneration := backend.residency.generation
    capacityGeneration := backend.capacity.generation }

def bindWinner (context : DiscoveryContext) (routerId : RouterId) (request : RouteRequest)
    (key : CandidateKey) : RouteAuthority where
  routerId := routerId
  routerEpoch := context.routerEpoch
  coordinatorEpoch := context.coordinatorEpoch
  requestId := request.requestId
  requestGeneration := request.requestGeneration
  modelId := key.modelId
  modelGeneration := key.modelGeneration
  artifactGeneration := key.artifactGeneration
  backendId := key.backendId
  backendGeneration := key.backendGeneration
  backendBoot := key.backendBoot
  endpointId := key.endpointId
  endpointGeneration := key.endpointGeneration
  tenant := request.tenant
  nameSpace := request.nameSpace
  issuedAtUnixMillis := context.nowUnixMillis
  expiresAtUnixMillis := request.expiresAtUnixMillis

def bindGoverning (authority : RouteAuthority) (request : RouteRequest) (policy : PolicySnapshot)
    (budget : BudgetSnapshot) (slo : SloEvidence) : RouteAuthority :=
  { authority with
    policyId := policy.policyId
    policyGeneration := policy.generation
    budgetId := if request.budgetId.valid then request.budgetId else authority.budgetId
    budgetGeneration :=
      if request.budgetId.valid then budget.generation else authority.budgetGeneration
    sloId := slo.sloId
    sloGeneration := slo.generation }

def bindResolved (authority : RouteAuthority) (evidence : CandidateEvidence) : RouteAuthority :=
  { authority with
    costEvidenceId := evidence.cost.evidenceId
    priceGeneration := evidence.cost.priceGeneration
    reservationId :=
      if evidence.reservationPresent then evidence.reservation.reservationId
      else authority.reservationId
    reservationGeneration :=
      if evidence.reservationPresent then evidence.reservation.generation
      else authority.reservationGeneration }

def planFor (request : RouteRequest) (policy : PolicySnapshot) (primary : CandidateKey)
    (fallbacks : List CandidateKey) (authority : RouteAuthority) (permittedFallbacks : UInt32)
    (now : UnixMillis) : RoutePlan where
  primary := primary
  fallbacks := fallbacks
  authority := authority
  constraints :=
    { requireRevalidation := true
      requireReservation := request.requirements.requireReservation
      maxAttempts := request.requirements.retryPolicy.maxAttempts
      maxFallbacks := permittedFallbacks }
  retryPolicy := request.requirements.retryPolicy
  fallbackPolicy := policy.fallbackPolicy
  createdAtUnixMillis := now
  expiresAtUnixMillis := request.expiresAtUnixMillis

def permittedFallbacks (request : RouteRequest) (policy : PolicySnapshot)
    (limits : ResourceLimits) : UInt32 :=
  if policy.fallbackPolicy = .forbidden then 0
  else min (min request.requirements.retryPolicy.maxFallbacks limits.maxFallbackCandidates)
    policy.maxFallbackDepth

end ModelRouter.Pass
