import ModelRouter.Eligibility
import ModelRouter.Persistence
import ModelRouter.State

namespace ModelRouter.Providers

open Base Base.Refusal Bytes Ids Outcome Capability Evidence Catalog Limits Candidate Request
open Policy Eligibility Decision Persistence State

/-- The answer of an adapter asked for evidence. -/
structure EvidenceResult (α : Type) where
  code : OutcomeCode := .internalError
  value : Option α := none
  detail : Text := []

def EvidenceResult.evidence {α : Type} (r : EvidenceResult α) : Option α :=
  if r.code = .accepted ∨ r.code = .noChange then r.value else none

/-- The context handed to every adapter call. -/
structure DiscoveryContext where
  routerId : RouterId := {}
  routerEpoch : RouterEpoch := {}
  coordinatorEpoch : CoordinatorEpoch := {}
  tenant : TenantId := {}
  nameSpace : NamespaceId := {}
  nowUnixMillis : UnixMillis := 0
  limits : ResourceLimits := {}

/-- Which adapters a router instance was given. -/
structure ProviderSet where
  candidates : Bool := false
  policy : Bool := false
  budget : Bool := false
  cost : Bool := false
  slo : Bool := false
  compatibility : Bool := false
  trust : Bool := false
  reservation : Bool := false
  dispatcher : Bool := false

/-- What the adapters answer when they are called. -/
structure Adapters where
  discover : RouteRequest → DiscoveryContext → EvidenceResult (List RouteCandidate) :=
    fun _ _ => {}
  policy : PolicyId → PolicyGeneration → DiscoveryContext → EvidenceResult PolicySnapshot :=
    fun _ _ _ => {}
  budget : BudgetId → BudgetGeneration → RouteRequest → DiscoveryContext →
    EvidenceResult BudgetSnapshot := fun _ _ _ _ => {}
  cost : RouteCandidate → RouteRequest → DiscoveryContext → EvidenceResult CostEvidence :=
    fun _ _ _ => {}
  slo : SLOId → SLOGeneration → RouteRequest → DiscoveryContext → EvidenceResult SloEvidence :=
    fun _ _ _ _ => {}
  feasibility : RouteCandidate → SloEvidence → RouteRequest → DiscoveryContext →
    EvidenceResult SloVerdict := fun _ _ _ _ => {}
  compatibility : RouteCandidate → RouteRequest → DiscoveryContext →
    EvidenceResult CompatibilityEvidence := fun _ _ _ => {}
  trust : RouteCandidate → DiscoveryContext → EvidenceResult TrustEvidence := fun _ _ => {}
  reserve : RouteCandidate → RouteRequest → DiscoveryContext →
    EvidenceResult ReservationEvidence := fun _ _ _ => {}
  handoff : RouteDecision → RoutePlan → DiscoveryContext → DispatchRecord := fun _ _ _ => {}

/-- What the surroundings of the router answer at one moment: the clock, the adapters and the
durable store. -/
structure Env where
  now : UnixMillis := 0
  adapters : Adapters := {}
  load : Text → ResourceLimits → PersistenceLoad := fun _ _ => {}
  save : RouterPersistentState → Text → ResourceLimits → PersistenceResult := fun _ _ _ => {}

structure ModelRouterOptions where
  routerId : RouterId := {}
  routerGeneration : RouterGeneration := {}
  limits : ResourceLimits := {}
  weights : RankingWeights := {}
  scales : RankingScales := {}
  providers : ProviderSet := {}
  persistencePath : Text := []
  loadOnStart : Bool := false
  saveOnShutdown : Bool := false

def ModelRouterOptions.validate (o : ModelRouterOptions) : Option Text :=
  prefixed "resource limits are incoherent: " o.limits.validate <|>
  prefixed "ranking weights are incoherent: " o.weights.validate <|>
  prefixed "ranking scales are incoherent: " o.scales.validate <|>
  violation (o.saveOnShutdown && o.persistencePath.isEmpty)
    "save_on_shutdown is set without a persistence path" <|>
  violation (o.loadOnStart && o.persistencePath.isEmpty)
    "load_on_start is set without a persistence path"

/-- The evidence a pass copies out of canonical state. -/
structure EvidenceSnapshot where
  compatibility : OrderedMap BackendId CompatibilityEvidence := {}
  reservations : OrderedMap BackendId ReservationEvidence := {}
  slo : SloEvidence := {}

def EvidenceSnapshot.capture (s : CanonicalState) : EvidenceSnapshot where
  compatibility := s.compatibility
  reservations := s.reservations
  slo := s.slo

def deriveSloFeasibility (candidate : RouteCandidate) (slo : SloEvidence) (now : UnixMillis) :
    SloVerdict :=
  let latency := candidate.backend.latency
  if slo.latencyTargetMicros = kUnspecified ∨ slo.latencyTargetMicros = 0 then .unknown
  else if latency.expired now ∨ latency.dispatchMicros = kUnknownLatencyMicros then .unknown
  else if latency.dispatchMicros ≤ slo.latencyTargetMicros then .feasible
  else .infeasible

section

variable (providers : ProviderSet) (adapters : Adapters) (request : RouteRequest)
variable (context : DiscoveryContext) (snapshot : EvidenceSnapshot) (candidate : RouteCandidate)

def resolveCost : CostEvidence :=
  let cost :=
    if providers.cost then (adapters.cost candidate request context).evidence.getD {}
    else ((candidate.backend.findBinding candidate.key.modelId).map ModelBinding.cost).getD {}
  if !cost.backendId.valid then
    { cost with backendId := candidate.key.backendId, modelId := candidate.key.modelId }
  else cost

def resolveCompatibility : CompatibilityEvidence :=
  if providers.compatibility then
    (adapters.compatibility candidate request context).evidence.getD {}
  else (snapshot.compatibility.find? candidate.key.backendId).getD {}

def resolveTrust : TrustEvidence :=
  if providers.trust then (adapters.trust candidate context).evidence.getD {}
  else
    { profileId := candidate.backend.trustProfileId
      generation := candidate.backend.trustGeneration
      backendId := candidate.key.backendId
      domain := candidate.backend.trustDomain }

def resolveSlo : SloEvidence :=
  if providers.slo && request.sloId.valid then
    (adapters.slo request.sloId request.sloGeneration request context).evidence.getD {}
  else snapshot.slo

def resolveFeasibility (slo : SloEvidence) : Option SloVerdict :=
  if providers.slo then (adapters.feasibility candidate slo request context).evidence
  else
    let derived := deriveSloFeasibility candidate slo context.nowUnixMillis
    if derived ≠ .unknown then some derived else none

def resolveReservation : Option ReservationEvidence :=
  if providers.reservation then (adapters.reserve candidate request context).evidence
  else snapshot.reservations.find? candidate.key.backendId

def resolveCandidate : CandidateEvidence :=
  let slo := resolveSlo providers adapters request context snapshot
  let feasibility := resolveFeasibility providers adapters request context candidate slo
  let reservation := resolveReservation providers adapters request context snapshot candidate
  { cost := resolveCost providers adapters request context candidate
    compatibility := resolveCompatibility providers adapters request context snapshot candidate
    trust := resolveTrust providers adapters context candidate
    slo := slo
    sloVerdict := feasibility.getD .unknown
    sloVerdictKnown := feasibility.isSome
    reservation := reservation.getD {}
    reservationPresent := reservation.isSome }

end

def candidateOf (model : ModelDescriptor) (backend : BackendDescriptor) (binding : ModelBinding) :
    RouteCandidate where
  key :=
    { modelId := model.modelId
      modelGeneration := model.modelGeneration
      artifactGeneration := model.artifactGeneration
      backendId := backend.backendId
      backendGeneration := backend.backendGeneration
      backendBoot := backend.backendBoot
      endpointId := backend.endpoint.endpointId
      endpointGeneration := backend.endpoint.endpointGeneration }
  model := model
  backend := backend
  endpoint := backend.endpoint
  contextLimitTokens :=
    if binding.contextLimitTokens ≠ 0 then binding.contextLimitTokens
    else model.contextLimitTokens
  qualityClass :=
    if binding.qualityClass ≠ kUnclassifiedQuality then binding.qualityClass
    else model.qualityClass
  discoverySource := "catalog"

/-- The candidate the catalog describes for a model on a backend. -/
def catalogCandidate (s : CanonicalState) (modelId : ModelId) (backendId : BackendId) :
    Option RouteCandidate :=
  match s.models.find? modelId, s.backends.find? backendId with
  | some model, some backend => (backend.findBinding modelId).map (candidateOf model backend)
  | _, _ => none

def catalogCandidates (s : CanonicalState) : List RouteCandidate :=
  s.indexBackendsByModel.entries.flatMap fun bucket =>
    bucket.2.keys.filterMap fun backendId => catalogCandidate s bucket.1 backendId

end ModelRouter.Providers
