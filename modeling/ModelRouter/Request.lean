import ModelRouter.Catalog
import ModelRouter.Limits
import ModelRouter.Sha256

namespace ModelRouter.Request

open Base.Refusal Bytes Ids Outcome Capability Evidence Catalog Limits Sha256

/-- What a retry or reroute is permitted to do. -/
structure RetryReroutePolicy where
  allowRetry : Bool := true
  allowReroute : Bool := true
  allowModelSwitch : Bool := true
  allowProviderSwitch : Bool := true
  maxAttempts : UInt32 := 2
  maxFallbacks : UInt32 := 2
deriving DecidableEq, Repr

/-- Continuity preferences; these only rank. -/
structure Stickiness where
  preferSameModelFamily : Bool := false
  preferSameProvider : Bool := false
  preferSameBackend : Bool := false
  preferContextLocality : Bool := false
  stickyFamily : ModelFamilyId := {}
  stickyProvider : ProviderId := {}
  stickyBackend : BackendId := {}
deriving DecidableEq, Repr

structure RouteRequirements where
  requiredCapabilities : List CapabilityRequirement := []
  preferredCapabilities : List CapabilityKey := []
  minimumCapabilityEvidence : CapabilityState := .declared
  minContextTokens : UInt32 := 0
  maxOutputTokens : UInt32 := 0
  requiredInputModalities : ModalitySet := {}
  requiredOutputModalities : ModalitySet := {}
  requireStructuredOutput : Bool := false
  requireJsonSchema : Bool := false
  requireToolCalling : Bool := false
  requireStreaming : Bool := false
  requireLogprobs : Bool := false
  requireDeterministicSeed : Bool := false
  qualityFloor : QualityClass := kUnclassifiedQuality
  modelAllowlist : List ModelId := []
  modelDenylist : List ModelId := []
  familyAllowlist : List ModelFamilyId := []
  familyDenylist : List ModelFamilyId := []
  providerAllowlist : List ProviderId := []
  providerDenylist : List ProviderId := []
  backendAllowlist : List BackendId := []
  backendDenylist : List BackendId := []
  localOnly : Bool := false
  offlineOnly : Bool := false
  remoteAllowed : Bool := true
  requiredLocalities : List LocalityKey := []
  deniedLocalities : List LocalityKey := []
  minimumTrust : TrustDomain := .unknown
  requireKnownCost : Bool := false
  enforceCostCeiling : Bool := false
  maximumCost : Money := {}
  maxLatencyMicros : UInt32 := kUnspecified
  deadlineMicros : UInt32 := kUnspecified
  requireSlo : Bool := false
  requireAvailable : Bool := true
  requireHealthy : Bool := true
  requireReady : Bool := true
  requireResident : Bool := false
  requireCapacity : Bool := false
  requireReservation : Bool := false
  requireKnownLatency : Bool := false
  requireKnownCompatibility : Bool := false
  requiredProtocol : Text := []
  requiredProtocolVersion : UInt32 := 0
  affinityModel : ModelId := {}
  affinityProvider : ProviderId := {}
  affinityBackend : BackendId := {}
  stickiness : Stickiness := {}
  allowFallbacks : Bool := true
  fallbackPolicy : FallbackPolicy := .explicitOnly
  retryPolicy : RetryReroutePolicy := {}
deriving DecidableEq, Repr

section

variable {t : Tag}

def idList (ids : List (EntityId t)) : Text :=
  ids.flatMap fun id => decimal id.value.toNat ++ text ","

def keyList (keys : List Text) : Text :=
  keys.flatMap fun key => key ++ text ","

def capabilityList (requirements : List CapabilityRequirement) : Text :=
  requirements.flatMap fun requirement =>
    requirement.key ++ text "@" ++ requirement.minimumState.name ++ text ","

def checkIdList (ids : List (EntityId t)) (name : Text) : Option Text :=
  violation (ids.any (!·.valid)) (name ++ " contains the invalid identity")

def prefixed (label : Text) (error : Option Text) : Option Text :=
  error.map (label ++ ·)

end

namespace RouteRequirements

def checkRequiredCapability (requirement : CapabilityRequirement) : Option Text :=
  prefixed "required capability: " (CapabilityKey.validate requirement.key) <|>
  violation (requirement.minimumState == .unknown)
    ("required capability " ++ requirement.key ++
      " declares UNKNOWN as its minimum evidence state") <|>
  violation (!requirement.minimumState.isSatisfying)
    ("required capability " ++ requirement.key ++
      " declares a non-satisfying minimum evidence state")

/-- `none` when the requirements are coherent, otherwise the first violation. -/
def validate (r : RouteRequirements) (limits : ResourceLimits) : Option Text :=
  let allowlistLimit := limits.maxAllowlistEntries.toNat
  violation ((r.requiredCapabilities.length > limits.maxRequirementEntries.toNat))
    "required capability count exceeds the configured limit" <|>
  violation ((r.preferredCapabilities.length > limits.maxRequirementEntries.toNat))
    "preferred capability count exceeds the configured limit" <|>
  violation ((r.modelAllowlist.length > allowlistLimit) ||
      (r.modelDenylist.length > allowlistLimit) ||
      (r.providerAllowlist.length > allowlistLimit) ||
      (r.providerDenylist.length > allowlistLimit) ||
      (r.backendAllowlist.length > allowlistLimit) ||
      (r.backendDenylist.length > allowlistLimit))
    "identity allowlist or denylist exceeds the configured limit" <|>
  violation ((r.requiredLocalities.length > allowlistLimit) ||
      (r.deniedLocalities.length > allowlistLimit))
    "locality list exceeds the configured limit" <|>
  r.requiredCapabilities.findSome? checkRequiredCapability <|>
  r.preferredCapabilities.findSome?
    (fun key => prefixed "preferred capability: " (CapabilityKey.validate key)) <|>
  violation (r.minimumCapabilityEvidence == .unknown || !r.minimumCapabilityEvidence.isSatisfying)
    "minimum capability evidence state is not a satisfying state" <|>
  violation ((r.maxOutputTokens > 0) && (r.minContextTokens > 0) &&
      (r.maxOutputTokens > r.minContextTokens))
    "max output tokens exceed the minimum context length" <|>
  violation (r.requiredInputModalities.empty && r.requiredOutputModalities.empty &&
      r.requiredCapabilities.isEmpty)
    "request declares no input, output, or capability requirement" <|>
  violation (!r.remoteAllowed && !r.localOnly && !r.offlineOnly)
    "request forbids remote placement without permitting local placement" <|>
  violation (r.localOnly && !r.deniedLocalities.isEmpty)
    "request is local-only but also denies specific localities" <|>
  violation (r.enforceCostCeiling && (r.maximumCost.micros ≤ 0))
    "cost ceiling is enforced but no positive ceiling is set" <|>
  violation (r.enforceCostCeiling && !r.maximumCost.unit.valid)
    "cost ceiling has no unit identity" <|>
  violation (r.minimumTrust != .unknown && r.minimumTrust.trustRank == 0)
    "minimum trust domain is not a known domain" <|>
  violation ((r.retryPolicy.maxFallbacks > limits.maxFallbackCandidates))
    "requested fallback count exceeds the configured limit" <|>
  violation (!r.allowFallbacks && r.retryPolicy.maxFallbacks != 0)
    "fallbacks are disabled but a nonzero fallback count is requested" <|>
  checkIdList r.modelAllowlist "model allowlist" <|>
  checkIdList r.modelDenylist "model denylist" <|>
  checkIdList r.providerAllowlist "provider allowlist" <|>
  checkIdList r.providerDenylist "provider denylist" <|>
  checkIdList r.backendAllowlist "backend allowlist" <|>
  checkIdList r.backendDenylist "backend denylist" <|>
  r.requiredLocalities.findSome?
    (fun key => prefixed "required locality: " (LocalityKey.validate key)) <|>
  r.deniedLocalities.findSome?
    (fun key => prefixed "denied locality: " (LocalityKey.validate key))

def canonicalize (r : RouteRequirements) : RouteRequirements :=
  { r with
    requiredCapabilities := unique (fun a b => a.key == b.key)
      (stableSort (fun a b => (a.key < b.key)) r.requiredCapabilities)
    preferredCapabilities := unique (· == ·)
      (stableSort (fun a b => (a < b)) r.preferredCapabilities)
    modelAllowlist := sortIds r.modelAllowlist
    modelDenylist := sortIds r.modelDenylist
    familyAllowlist := sortIds r.familyAllowlist
    familyDenylist := sortIds r.familyDenylist
    providerAllowlist := sortIds r.providerAllowlist
    providerDenylist := sortIds r.providerDenylist
    backendAllowlist := sortIds r.backendAllowlist
    backendDenylist := sortIds r.backendDenylist
    requiredLocalities := sortLocalities r.requiredLocalities
    deniedLocalities := sortLocalities r.deniedLocalities }

/-- The text that `digest` hashes. -/
def canonicalText (r : RouteRequirements) : Text :=
  let unsigned (n : UInt32) := decimal n.toNat
  text "cap=" ++ capabilityList r.requiredCapabilities ++
  text ";pref=" ++ keyList r.preferredCapabilities ++
  text ";minstate=" ++ r.minimumCapabilityEvidence.name ++
  text ";ctx=" ++ unsigned r.minContextTokens ++
  text ";out=" ++ unsigned r.maxOutputTokens ++
  text ";inmod=" ++ unsigned r.requiredInputModalities.bits ++
  text ";outmod=" ++ unsigned r.requiredOutputModalities.bits ++
  text ";flags=" ++ boolDigit r.requireStructuredOutput ++ boolDigit r.requireJsonSchema ++
    boolDigit r.requireToolCalling ++ boolDigit r.requireStreaming ++
    boolDigit r.requireLogprobs ++ boolDigit r.requireDeterministicSeed ++
  text ";quality=" ++ unsigned r.qualityFloor ++
  text ";ma=" ++ idList r.modelAllowlist ++
  text ";md=" ++ idList r.modelDenylist ++
  text ";fa=" ++ idList r.familyAllowlist ++
  text ";fd=" ++ idList r.familyDenylist ++
  text ";pa=" ++ idList r.providerAllowlist ++
  text ";pd=" ++ idList r.providerDenylist ++
  text ";ba=" ++ idList r.backendAllowlist ++
  text ";bd=" ++ idList r.backendDenylist ++
  text ";place=" ++ boolDigit r.localOnly ++ boolDigit r.offlineOnly ++
    boolDigit r.remoteAllowed ++
  text ";loc=" ++ keyList r.requiredLocalities ++
  text ";denyloc=" ++ keyList r.deniedLocalities ++
  text ";trust=" ++ r.minimumTrust.name ++
  text ";cost=" ++ boolDigit r.requireKnownCost ++ boolDigit r.enforceCostCeiling ++
    r.maximumCost.unit.currency ++ text "/" ++ r.maximumCost.unit.basis ++ text "/" ++
    signedDecimal r.maximumCost.micros.toInt ++
  text ";lat=" ++ unsigned r.maxLatencyMicros ++
  text ";deadline=" ++ unsigned r.deadlineMicros ++
  text ";slo=" ++ boolDigit r.requireSlo ++
  text ";live=" ++ boolDigit r.requireAvailable ++ boolDigit r.requireHealthy ++
    boolDigit r.requireReady ++ boolDigit r.requireResident ++ boolDigit r.requireCapacity ++
    boolDigit r.requireReservation ++ boolDigit r.requireKnownLatency ++
    boolDigit r.requireKnownCompatibility ++
  text ";proto=" ++ r.requiredProtocol ++ text "/" ++ unsigned r.requiredProtocolVersion ++
  text ";aff=" ++ decimal r.affinityModel.value.toNat ++ text "/" ++
    decimal r.affinityProvider.value.toNat ++ text "/" ++
    decimal r.affinityBackend.value.toNat ++
  text ";stick=" ++ boolDigit r.stickiness.preferSameModelFamily ++
    boolDigit r.stickiness.preferSameProvider ++ boolDigit r.stickiness.preferSameBackend ++
    boolDigit r.stickiness.preferContextLocality ++
    decimal r.stickiness.stickyFamily.value.toNat ++ text "/" ++
    decimal r.stickiness.stickyProvider.value.toNat ++ text "/" ++
    decimal r.stickiness.stickyBackend.value.toNat ++
  text ";fb=" ++ boolDigit r.allowFallbacks ++ r.fallbackPolicy.name ++
    boolDigit r.retryPolicy.allowRetry ++ boolDigit r.retryPolicy.allowReroute ++
    boolDigit r.retryPolicy.allowModelSwitch ++ boolDigit r.retryPolicy.allowProviderSwitch ++
    unsigned r.retryPolicy.maxAttempts ++ unsigned r.retryPolicy.maxFallbacks

def digest (r : RouteRequirements) : Text :=
  hexDigest r.canonicalText

end RouteRequirements

structure CallerAuthority where
  agentRuntimeId : UInt64 := 0
  agentRunId : UInt64 := 0
  actionId : UInt64 := 0
  actionGeneration : UInt64 := 0
  attemptGeneration : UInt64 := 0
  workId : UInt64 := 0
  workGeneration : UInt64 := 0
deriving DecidableEq, Repr

structure RouteRequest where
  requestId : RouteRequestId := {}
  requestGeneration : RouteRequestGeneration := {}
  requirements : RouteRequirements := {}
  caller : CallerAuthority := {}
  tenant : TenantId := {}
  nameSpace : NamespaceId := {}
  policyId : PolicyId := {}
  policyGeneration : PolicyGeneration := {}
  budgetId : BudgetId := {}
  budgetGeneration : BudgetGeneration := {}
  sloId : SLOId := {}
  sloGeneration : SLOGeneration := {}
  correlationId : CorrelationId := {}
  estimatedInputTokens : UInt32 := 0
  estimatedOutputTokens : UInt32 := 0
  createdAtUnixMillis : UnixMillis := 0
  expiresAtUnixMillis : UnixMillis := kNoExpiry
deriving DecidableEq, Repr

namespace RouteRequest

def expired (r : RouteRequest) (now : UnixMillis) : Bool :=
  expiredAt now r.expiresAtUnixMillis

/-- `none` when the request is coherent. -/
def validate (r : RouteRequest) (limits : ResourceLimits) : Option Text :=
  violation (!r.requestId.valid) "route request identity is not valid" <|>
  violation (!r.requestGeneration.valid) "route request generation is not valid" <|>
  violation (!r.policyId.valid || !r.policyGeneration.valid)
    "route request has no valid policy identity and generation" <|>
  violation (r.budgetId.valid != r.budgetGeneration.valid)
    "route request budget identity and generation disagree" <|>
  violation (r.sloId.valid != r.sloGeneration.valid)
    "route request SLO identity and generation disagree" <|>
  violation (!r.tenant.valid) "route request has no valid tenant identity" <|>
  violation (r.requirements.requireSlo && (!r.sloId.valid || !r.sloGeneration.valid))
    "SLO is required but no valid SLO identity and generation are set" <|>
  violation (r.expiresAtUnixMillis != kNoExpiry &&
      (r.expiresAtUnixMillis < r.createdAtUnixMillis))
    "route request expires before it was created" <|>
  r.requirements.validate limits

end RouteRequest

/-- Failure classification used to decide whether a fallback or reroute is legal. -/
inductive FailureClass where
  | transientBackendFailure | backendUnavailable | backendRestarted | modelUnavailable
  | staleRoute | policyChanged | budgetChanged | priceChanged | sloChanged | capacityChanged
  | compatibilityChanged | permanentRejection | callerCancelled | unknown
deriving DecidableEq, Repr, Inhabited

def FailureClass.name : FailureClass → Text
  | .transientBackendFailure => "TRANSIENT_BACKEND_FAILURE"
  | .backendUnavailable => "BACKEND_UNAVAILABLE" | .backendRestarted => "BACKEND_RESTARTED"
  | .modelUnavailable => "MODEL_UNAVAILABLE" | .staleRoute => "STALE_ROUTE"
  | .policyChanged => "POLICY_CHANGED" | .budgetChanged => "BUDGET_CHANGED"
  | .priceChanged => "PRICE_CHANGED" | .sloChanged => "SLO_CHANGED"
  | .capacityChanged => "CAPACITY_CHANGED"
  | .compatibilityChanged => "COMPATIBILITY_CHANGED"
  | .permanentRejection => "PERMANENT_REJECTION" | .callerCancelled => "CALLER_CANCELLED"
  | .unknown => "UNKNOWN"

def classifyFailure : OutcomeCode → FailureClass
  | .rejectUnavailable | .rejectUnhealthy | .rejectNotReady => .backendUnavailable
  | .rejectStaleBackendBoot => .backendRestarted
  | .rejectRetired | .rejectStaleModel | .rejectStaleArtifact => .modelUnavailable
  | .rejectStaleRouterEpoch | .rejectStaleCoordinatorEpoch | .rejectStaleRequest
  | .revalidationRequired | .rejectStaleBackend | .rejectStaleEndpoint => .staleRoute
  | .rejectPolicy | .rejectStalePolicy | .rejectTrust | .rejectStaleTrust => .policyChanged
  | .rejectBudget | .rejectStaleBudget => .budgetChanged
  | .rejectCost | .rejectCostUnknown | .rejectStalePrice => .priceChanged
  | .rejectSlo | .rejectStaleSlo => .sloChanged
  | .rejectCapacity | .rejectStaleCapacity => .capacityChanged
  | .rejectCompatibility | .rejectStaleCompatibility => .compatibilityChanged
  | .cancelled => .callerCancelled
  | .rejectCapability | .rejectStaleCapability | .rejectContextLimit | .rejectModality
  | .rejectQuality | .rejectInvalid | .rejectConflict | .rejectLocality | .rejectResidency
  | .rejectSpoofed => .permanentRejection
  | .rejectStaleHealth | .rejectStaleAvailability | .rejectStaleReadiness
  | .rejectStaleResidency => .transientBackendFailure
  | _ => .unknown

def isPermanent : FailureClass → Bool
  | .permanentRejection | .callerCancelled | .modelUnavailable => true
  | _ => false

end ModelRouter.Request
