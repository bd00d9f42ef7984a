import ModelRouter.Commit

namespace ModelRouter.Recovery

open Base Base.Refusal Bytes Ids Outcome Capability Evidence Catalog Limits Candidate Authority
open Decision Persistence State Commit

section

variable {t : Tag}

/-- The running maximum of `export_persistent_state`. -/
def highest (generations : List (Generation t)) : Generation t :=
  generations.foldl (fun last generation => if last < generation then generation else last) {}

end

def exportBackend (backend : BackendDescriptor) : PersistedBackendRecord where
  backendId := backend.backendId
  backendGeneration := backend.backendGeneration
  lastBoot := backend.backendBoot
  lastRegistrationGeneration := backend.backendRegistrationGeneration
  providerId := backend.providerId
  providerGeneration := backend.providerGeneration
  endpointId := backend.endpoint.endpointId
  lastEndpointGeneration := backend.endpoint.endpointGeneration
  trustProfileId := backend.trustProfileId
  trustGeneration := backend.trustGeneration
  trustDomain := backend.trustDomain
  locality := backend.locality
  networkDistance := backend.networkDistance
  capabilityProfileId := backend.capabilityProfileId
  capabilityGeneration := backend.capabilityGeneration
  capabilities := backend.capabilities
  modelBindings := backend.modelBindings
  offlineCapable := backend.offlineCapable
  provenance := backend.provenance
  registeredAtUnixMillis := backend.registeredAtUnixMillis

def exportRoute (record : RouteRecord) : PersistedRouteRecord where
  decisionId := record.decision.decisionId
  decisionGeneration := record.decision.decisionGeneration
  requestId := record.decision.requestId
  requestGeneration := record.decision.requestGeneration
  winner := record.plan.primary
  fallbacks := record.decision.fallbacks
  authority := record.decision.authority
  status := record.decision.status
  code := record.decision.code
  cost := record.decision.explanation.cost
  policyGeneration := record.decision.authority.policyGeneration
  priceGeneration := record.decision.authority.priceGeneration
  budgetGeneration := record.decision.authority.budgetGeneration
  sloGeneration := record.decision.authority.sloGeneration
  semanticDigest := record.decision.explanation.semanticDigest
  requirementDigest := record.decision.explanation.requirementDigest
  createdAtUnixMillis := record.decision.createdAtUnixMillis

def exportPersistentState (w : World) (now : UnixMillis) : RouterPersistentState :=
  let s := w.state
  let models := s.models.values
  let backends := s.backends.values
  let persisted : RouterPersistentState :=
    { routerId := s.routerId
      routerGeneration := s.routerGeneration
      lastRouterEpoch := s.routerEpoch
      lastCoordinatorEpoch := s.coordinatorEpoch
      lastBoot := s.routerBoot
      limits := s.limits
      weights := s.weights
      lastPolicyGeneration := s.policy.generation
      lastPriceGeneration := highest
        (backends.flatMap fun backend =>
          backend.modelBindings.map fun binding => binding.cost.priceGeneration)
      lastBudgetGeneration := s.budget.generation
      lastSloGeneration := s.slo.generation
      lastCapabilityGeneration := highest
        (models.map ModelDescriptor.capabilityGeneration ++
          backends.map BackendDescriptor.capabilityGeneration)
      lastModelGeneration := highest (models.map ModelDescriptor.modelGeneration)
      lastBackendGeneration := highest (backends.map BackendDescriptor.backendGeneration)
      models := models.map fun model => { model := model }
      backends := backends.map exportBackend
      fencedBoots := s.fencedBoots.values
      routes := s.routes.values.map exportRoute
      counters := { s.counters with highestIdentityIssued := w.highestIssued }
      savedAtUnixMillis := now
      lastStartedAtUnixMillis := s.startedAtUnixMillis }
  persisted.canonicalize

/-- The descriptor a durable record restores. Dynamic evidence is never resurrected. -/
def importBackend (record : PersistedBackendRecord) : BackendDescriptor :=
  let backend : BackendDescriptor :=
    { backendId := record.backendId
      backendGeneration := record.backendGeneration
      backendBoot := record.lastBoot
      backendRegistrationGeneration := record.lastRegistrationGeneration
      providerId := record.providerId
      providerGeneration := record.providerGeneration
      endpoint :=
        { endpointId := record.endpointId
          endpointGeneration := record.lastEndpointGeneration
          backendId := record.backendId
          backendBoot := record.lastBoot
          reference := "recovered" }
      trustProfileId := record.trustProfileId
      trustGeneration := record.trustGeneration
      trustDomain := record.trustDomain
      locality := record.locality
      networkDistance := record.networkDistance
      capabilityProfileId := record.capabilityProfileId
      capabilityGeneration := record.capabilityGeneration
      capabilities := record.capabilities
      modelBindings := record.modelBindings
      offlineCapable := record.offlineCapable
      provenance := record.provenance
      registeredAtUnixMillis := record.registeredAtUnixMillis
      health := { state := .unknown, backendId := record.backendId, backendBoot := record.lastBoot }
      availability :=
        { state := .unknown, backendId := record.backendId, backendBoot := record.lastBoot }
      readiness :=
        { state := .unknown, backendId := record.backendId, backendBoot := record.lastBoot }
      residency :=
        { state := .unknown, backendId := record.backendId, backendBoot := record.lastBoot }
      capacity :=
        { state := .unknown, backendId := record.backendId, backendBoot := record.lastBoot }
      latency := { backendId := record.backendId, backendBoot := record.lastBoot } }
  backend.canonicalize

def importRoute (record : PersistedRouteRecord) (planId : RoutePlanId) : RouteRecord where
  decision :=
    { decisionId := record.decisionId
      decisionGeneration := record.decisionGeneration
      requestId := record.requestId
      requestGeneration := record.requestGeneration
      status := .stale
      code := record.code
      authority := record.authority
      fallbacks := record.fallbacks
      createdAtUnixMillis := record.createdAtUnixMillis
      explanation :=
        { requestId := record.requestId
          requestGeneration := record.requestGeneration
          winner := record.winner
          authority := record.authority
          cost := record.cost
          requirementDigest := record.requirementDigest
          semanticDigest := record.semanticDigest
          fallbackOrder := record.fallbacks
          currentness := .reconstructed
          revalidationRequired := true
          detailRetained := false } }
  plan :=
    { planId := planId
      planGeneration := ⟨1⟩
      decisionId := record.decisionId
      decisionGeneration := record.decisionGeneration
      primary := record.winner
      fallbacks := record.fallbacks
      authority := record.authority
      constraints := { requireRevalidation := true }
      createdAtUnixMillis := record.createdAtUnixMillis }
  tenant := record.authority.tenant
  nameSpace := record.authority.nameSpace

def importRoutes (highestIssued : UInt64) (routes : OrderedMap RouteDecisionId RouteRecord) :
    List PersistedRouteRecord → UInt64 × OrderedMap RouteDecisionId RouteRecord
  | [] => (highestIssued, routes)
  | record :: rest =>
    let issued := allocatorNext highestIssued
    importRoutes issued.2 (routes.insert record.decisionId (importRoute record ⟨issued.1⟩)) rest

def importModels (models : List PersistedModelRecord) : OrderedMap ModelId ModelDescriptor :=
  .ofList (models.map fun record => (record.model.modelId, record.model))

def importBackends (backends : List PersistedBackendRecord) :
    OrderedMap BackendId BackendDescriptor :=
  .ofList (backends.map fun record => (record.backendId, importBackend record))

def importFences (fences : List FencedBootRecord) : OrderedMap FenceKey FencedBootRecord :=
  .ofList (fences.map fun record => (⟨record.backendId, record.backendBoot⟩, record))

def restore (s : CanonicalState) (canonical : RouterPersistentState)
    (routes : OrderedMap RouteDecisionId RouteRecord) : CanonicalState :=
  { s with
    routerId := canonical.routerId
    routerGeneration := canonical.routerGeneration
    routerEpoch := canonical.lastRouterEpoch.next
    coordinatorEpoch := canonical.lastCoordinatorEpoch.next
    routerBoot := canonical.lastBoot
    limits := canonical.limits
    weights := canonical.weights
    counters := canonical.counters
    startedAtUnixMillis := canonical.lastStartedAtUnixMillis
    recovered := true
    models := importModels canonical.models
    modelGenerationWatermark :=
      .ofList (canonical.models.map fun (record : PersistedModelRecord) =>
        (record.model.modelId, record.model.modelGeneration))
    backends := importBackends canonical.backends
    backendGenerationWatermark :=
      .ofList (canonical.backends.map fun (record : PersistedBackendRecord) =>
        (record.backendId, record.backendGeneration))
    fencedBoots := importFences canonical.fencedBoots
    routes := routes
    routeOrder := canonical.routes.map PersistedRouteRecord.decisionId
    dispatches := .empty
    dispatchIndex := .empty
    compatibility := .empty
    trust := .empty
    costs := .empty
    reservations := .empty
    lastWinnerByTenant := .empty
    tenants := .empty
    policy := {}
    budget := {}
    slo := {} }.rebuildIndexes

/-- The locked part of `import_persistent_state`, for a state already canonical. -/
def importSection (canonical : RouterPersistentState) (w : World) : World :=
  if w.state.running then w
  else
    let routes := importRoutes w.highestIssued .empty canonical.routes
    { state := restore w.state canonical routes.2
      highestIssued := allocatorObserve routes.1 canonical.counters.highestIdentityIssued }

/-- What `import_persistent_state` answers, from the state its lock finds. -/
def importResult (canonical : RouterPersistentState) (w : World) : MutationResult :=
  if w.state.running then
    .make .rejectConflict "load" "durable state cannot be loaded while the router is running"
  else
    let s := (importSection canonical w).state
    .accept "load"
      "durable state restored; dynamic evidence invalidated and old dispatch authority invalidated"
      [.u64 "router_id" s.routerId.value, .u64 "router_epoch" s.routerEpoch.value,
        .u64 "coordinator_epoch" s.coordinatorEpoch.value,
        .u64 "models" s.models.size.toUInt64, .u64 "backends" s.backends.size.toUInt64,
        .u64 "fenced_boots" s.fencedBoots.size.toUInt64,
        .u64 "route_history" s.routes.size.toUInt64]

end ModelRouter.Recovery
