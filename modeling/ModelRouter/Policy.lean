import ModelRouter.Candidate
import ModelRouter.Request

namespace ModelRouter.Policy

open Base.Refusal Bytes Ids Outcome Capability Evidence Catalog Request Candidate

structure PolicyVerdict where
  code : OutcomeCode := .accepted
  detail : Text := []
  preference : Int := 0
deriving DecidableEq, Repr

def kPreferenceScale : Int := kFactorScale

def PolicyVerdict.allowed (v : PolicyVerdict) : Bool :=
  v.code == .accepted

def reject (condition : Bool) (code : OutcomeCode) (detail : Text) : Option PolicyVerdict :=
  refuse condition { code := code, detail := detail }

@[simp] theorem reject_eq_none {condition : Bool} {code : OutcomeCode} {detail : Text} :
    reject condition code detail = none ↔ condition = false :=
  refuse_eq_none

def requestRejection (policy : PolicySnapshot) (request : RouteRequest) (now : UnixMillis) :
    Option PolicyVerdict :=
  reject (!policy.generation.valid) .rejectStalePolicy "policy generation is not valid" <|>
  reject (!policy.current now) .rejectStalePolicy "policy evidence is stale" <|>
  reject (policy.policyId.valid && policy.policyId != request.policyId) .rejectStalePolicy
    "request names a different policy identity than the current snapshot" <|>
  reject (policy.generation != request.policyGeneration) .rejectStalePolicy
    "request policy generation is not the current policy generation" <|>
  reject (!policy.boundTenants.isEmpty && !binarySearch policy.boundTenants request.tenant)
    .rejectConflict "tenant is not bound to the current policy snapshot"

def evaluateRequest (policy : PolicySnapshot) (request : RouteRequest) (now : UnixMillis) :
    PolicyVerdict :=
  (requestRejection policy request now).getD {}

def identityRejection (policy : PolicySnapshot) (candidate : RouteCandidate) :
    Option PolicyVerdict :=
  let locality := candidate.backend.locality
  reject (binarySearch policy.deniedModels candidate.key.modelId) .rejectPolicy
    "policy denies the model identity" <|>
  reject (candidate.model.familyId.valid &&
      binarySearch policy.deniedModelFamilies candidate.model.familyId) .rejectPolicy
    "policy denies the model family" <|>
  reject (binarySearch policy.deniedProviders candidate.backend.providerId) .rejectPolicy
    "policy denies the provider" <|>
  reject (binarySearch policy.deniedBackends candidate.key.backendId) .rejectPolicy
    "policy denies the backend" <|>
  reject (!locality.isEmpty && binarySearch policy.deniedLocalities locality) .rejectLocality
    "policy denies the deployment locality" <|>
  reject (!policy.allowedModels.isEmpty &&
      !binarySearch policy.allowedModels candidate.key.modelId) .rejectPolicy
    "model is not in the policy allowlist" <|>
  reject (policy.allowedModels.isEmpty && !policy.allowUnlistedModels) .rejectPolicy
    "policy denies models that are not explicitly listed" <|>
  reject (!policy.allowedProviders.isEmpty &&
      !binarySearch policy.allowedProviders candidate.backend.providerId) .rejectPolicy
    "provider is not in the policy allowlist" <|>
  reject (policy.allowedProviders.isEmpty && !policy.allowUnlistedProviders) .rejectPolicy
    "policy denies providers that are not explicitly listed" <|>
  reject (!policy.allowedBackends.isEmpty &&
      !binarySearch policy.allowedBackends candidate.key.backendId) .rejectPolicy
    "backend is not in the policy allowlist" <|>
  reject (policy.allowedBackends.isEmpty && !policy.allowUnlistedBackends) .rejectPolicy
    "policy denies backends that are not explicitly listed" <|>
  reject (!policy.allowedLocalities.isEmpty &&
      (locality.isEmpty || !binarySearch policy.allowedLocalities locality)) .rejectLocality
    "locality is not in the policy allowlist"

def placementRejection (policy : PolicySnapshot) (candidate : RouteCandidate) :
    Option PolicyVerdict :=
  let domain := candidate.backend.trustDomain
  let floor := policy.minimumTrust != .unknown
  reject (policy.localOnly && domain != .local) .rejectLocality "policy is local-only" <|>
  reject (policy.denyPublicRemote && domain == .publicRemote) .rejectTrust
    "policy denies public remote placement" <|>
  reject (floor && domain == .unknown) .rejectUnknownEvidence
    "policy sets a trust floor but candidate trust is UNKNOWN" <|>
  reject (floor && domain.trustRank < policy.minimumTrust.trustRank) .rejectTrust
    "candidate trust domain is below the policy floor"

def policyCost (candidate : RouteCandidate) : CostEvidence :=
  match candidate.backend.findBinding candidate.key.modelId with
  | some binding => binding.cost
  | none => (candidate.backend.modelBindings.head?.map ModelBinding.cost).getD {}

def boundRejection (policy : PolicySnapshot) (candidate : RouteCandidate) :
    Option PolicyVerdict :=
  let qualityFloor := policy.qualityFloor != kUnclassifiedQuality
  let costCeiling := policy.maximumRequestCost.micros > 0
  let latencyCeiling := policy.maximumLatencyMicros != kUnspecified
  let cost := policyCost candidate
  let latency := candidate.backend.latency
  reject (qualityFloor && candidate.qualityClass == kUnclassifiedQuality) .rejectUnknownEvidence
    "policy sets a quality floor but candidate quality is unclassified" <|>
  reject (qualityFloor && candidate.qualityClass < policy.qualityFloor) .rejectQuality
    "candidate quality is below the policy floor" <|>
  reject (policy.minimumCapabilityEvidence != .unknown &&
      candidate.model.capabilities.entries.any fun evidence =>
        evidence.state.isSatisfying &&
          evidence.state.evidenceStrength < policy.minimumCapabilityEvidence.evidenceStrength)
    .rejectCapability "capability evidence is weaker than the policy minimum" <|>
  reject (costCeiling && !cost.known) .rejectUnknownEvidence
    "policy sets a cost ceiling but candidate price is UNKNOWN" <|>
  reject (costCeiling && !cost.unit.compatibleWith policy.maximumRequestCost.unit) .rejectCost
    "candidate price unit is not compatible with the policy cost ceiling unit" <|>
  reject (costCeiling && cost.estimatedTotalMicros > policy.maximumRequestCost.micros) .rejectCost
    "candidate cost exceeds the policy ceiling" <|>
  reject (latencyCeiling && latency.dispatchMicros == kUnknownLatencyMicros)
    .rejectUnknownEvidence
    "policy sets a latency ceiling but candidate latency is UNKNOWN" <|>
  reject (latencyCeiling && latency.dispatchMicros > policy.maximumLatencyMicros) .rejectSlo
    "candidate latency exceeds the policy ceiling"

def candidateRejection (policy : PolicySnapshot) (candidate : RouteCandidate) (now : UnixMillis) :
    Option PolicyVerdict :=
  reject (!policy.generation.valid || !policy.current now) .rejectStalePolicy
    "policy evidence is not current" <|>
  identityRejection policy candidate <|>
  placementRejection policy candidate <|>
  boundRejection policy candidate

def candidatePreference (policy : PolicySnapshot) (candidate : RouteCandidate) : Int :=
  let family : Int :=
    if candidate.model.familyId.valid &&
        binarySearch policy.preferredModelFamilies candidate.model.familyId then
      kPreferenceScale / 2
    else 0
  let trust : Int :=
    if candidate.backend.trustDomain != .unknown then
      candidate.backend.trustDomain.trustRank * 100000
    else 0
  min (family + trust) kPreferenceScale

/-- A hard denial, or the acceptance with its preference. The request does not matter. -/
def evaluateCandidate (policy : PolicySnapshot) (candidate : RouteCandidate) (now : UnixMillis) :
    PolicyVerdict :=
  (candidateRejection policy candidate now).getD
    { preference := candidatePreference policy candidate }

def fallbackPermitted (policy : PolicySnapshot) (requirements : RouteRequirements)
    (trigger : OutcomeCode) : Bool :=
  requirements.allowFallbacks && requirements.retryPolicy.maxFallbacks != 0 &&
    (match policy.fallbackPolicy with
      | .forbidden => false
      | .permitted => true
      | .explicitOnly => policy.fallbackPermittedOutcomes.contains trigger) &&
    !isPermanent (classifyFailure trigger)

end ModelRouter.Policy
