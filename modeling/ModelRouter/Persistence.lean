import ModelRouter.Decision

namespace ModelRouter.Persistence

open Base.Refusal Bytes Ids Outcome Capability Evidence Catalog Limits Candidate Authority
open Request Decision

structure PersistedModelRecord where
  model : ModelDescriptor := {}
deriving DecidableEq, Repr

/-- The registration identity and operator claims of a backend; no dynamic evidence. -/
structure PersistedBackendRecord where
  backendId : BackendId := {}
  backendGeneration : BackendGeneration := {}
  lastBoot : BackendBootId := {}
  lastRegistrationGeneration : BackendRegistrationGeneration := {}
  providerId : ProviderId := {}
  providerGeneration : ProviderGeneration := {}
  endpointId : EndpointId := {}
  lastEndpointGeneration : EndpointGeneration := {}
  trustProfileId : TrustProfileId := {}
  trustGeneration : TrustGeneration := {}
  trustDomain : TrustDomain := .unknown
  locality : LocalityKey := []
  networkDistance : UInt32 := 0
  capabilityProfileId : CapabilityProfileId := {}
  capabilityGeneration : CapabilityGeneration := {}
  capabilities : CapabilityProfile := {}
  modelBindings : List ModelBinding := []
  offlineCapable : Bool := false
  provenance : Provenance := .synthetic
  registeredAtUnixMillis : UnixMillis := 0
deriving DecidableEq, Repr

/-- A fenced backend incarnation; fenced boots are durable history. -/
structure FencedBootRecord where
  backendId : BackendId := {}
  backendGeneration : BackendGeneration := {}
  backendBoot : BackendBootId := {}
  reason : OutcomeCode := .fenced
  fencedAtUnixMillis : UnixMillis := 0
deriving DecidableEq, Repr

def FencedBootRecord.canonicalLess (a b : FencedBootRecord) : Bool :=
  if a.backendId ≠ b.backendId then a.backendId < b.backendId
  else if a.backendBoot ≠ b.backendBoot then a.backendBoot < b.backendBoot
  else if a.backendGeneration ≠ b.backendGeneration then a.backendGeneration < b.backendGeneration
  else a.reason.ctorIdx < b.reason.ctorIdx

structure PersistedRouteRecord where
  decisionId : RouteDecisionId := {}
  decisionGeneration : RouteDecisionGeneration := {}
  requestId : RouteRequestId := {}
  requestGeneration : RouteRequestGeneration := {}
  winner : CandidateKey := {}
  fallbacks : List CandidateKey := []
  authority : RouteAuthority := {}
  status : RouteStatus := .current
  code : OutcomeCode := .routed
  cost : CostEvidence := {}
  policyGeneration : PolicyGeneration := {}
  priceGeneration : PriceGeneration := {}
  budgetGeneration : BudgetGeneration := {}
  sloGeneration : SLOGeneration := {}
  semanticDigest : Text := []
  requirementDigest : Text := []
  createdAtUnixMillis : UnixMillis := 0
deriving DecidableEq, Repr

structure PersistenceCounters where
  highestIdentityIssued : UInt64 := 0
  routeRequests : UInt64 := 0
  routeDecisions : UInt64 := 0
  dispatches : UInt64 := 0
  routeRejections : UInt64 := 0
  reroutes : UInt64 := 0
  fallbacksTaken : UInt64 := 0
deriving DecidableEq, Repr, Inhabited

/-- The complete durable state of a router. -/
structure RouterPersistentState where
  routerId : RouterId := {}
  routerGeneration : RouterGeneration := {}
  lastRouterEpoch : RouterEpoch := {}
  lastCoordinatorEpoch : CoordinatorEpoch := {}
  lastBoot : RouterBootId := {}
  limits : ResourceLimits := {}
  weights : RankingWeights := {}
  lastPolicyGeneration : PolicyGeneration := {}
  lastPriceGeneration : PriceGeneration := {}
  lastBudgetGeneration : BudgetGeneration := {}
  lastSloGeneration : SLOGeneration := {}
  lastCapabilityGeneration : CapabilityGeneration := {}
  lastModelGeneration : ModelGeneration := {}
  lastBackendGeneration : BackendGeneration := {}
  models : List PersistedModelRecord := []
  backends : List PersistedBackendRecord := []
  fencedBoots : List FencedBootRecord := []
  routes : List PersistedRouteRecord := []
  counters : PersistenceCounters := {}
  savedAtUnixMillis : UnixMillis := 0
  lastStartedAtUnixMillis : UnixMillis := 0
deriving DecidableEq, Repr

def modelRecordLess (a b : PersistedModelRecord) : Bool :=
  if a.model.modelId ≠ b.model.modelId then a.model.modelId < b.model.modelId
  else a.model.modelGeneration < b.model.modelGeneration

namespace RouterPersistentState

def canonicalize (s : RouterPersistentState) : RouterPersistentState :=
  { s with
    models := stableSort modelRecordLess s.models
    backends := (stableSort (fun a b => a.backendId < b.backendId) s.backends).map fun backend =>
      { backend with
        modelBindings := stableSort (fun a b => a.modelId < b.modelId) backend.modelBindings }
    fencedBoots := stableSort FencedBootRecord.canonicalLess s.fencedBoots
    routes := stableSort (fun a b => a.decisionId < b.decisionId) s.routes }

def validateBackend (limits : ResourceLimits) (record : PersistedBackendRecord) : Option Text :=
  violation (!record.backendId.valid || !record.backendGeneration.valid || !record.lastBoot.valid)
    "durable backend record has an invalid identity" <|>
  violation (record.modelBindings.length > limits.maxModelBindingsPerBackend.toNat)
    "durable backend record exceeds the model binding limit" <|>
  violation
    (record.capabilities.entries.length > limits.maxCapabilityEntriesPerBackend.toNat)
    "durable backend record exceeds the capability limit"

/-- `none` when the state is coherent under the effective limits. -/
def validate (s : RouterPersistentState) (limits : ResourceLimits) : Option Text :=
  violation (!s.routerId.valid) "durable state has no router identity" <|>
  violation (!s.routerGeneration.valid) "durable state has no router generation" <|>
  prefixed "durable limits are incoherent: " limits.validate <|>
  prefixed "durable ranking weights are incoherent: " s.weights.validate <|>
  violation (s.models.length > limits.maxModels.toNat)
    "durable model record count exceeds the configured limit" <|>
  violation (s.backends.length > limits.maxBackends.toNat)
    "durable backend record count exceeds the configured limit" <|>
  violation (s.fencedBoots.length > limits.maxBackendIncarnations.toNat)
    "durable fenced incarnation count exceeds the configured limit" <|>
  violation (s.routes.length > limits.maxRouteHistory.toNat)
    "durable route record count exceeds the configured limit" <|>
  violation (s.models.length + s.backends.length + s.fencedBoots.length + s.routes.length >
      limits.maxPersistenceRecords.toNat)
    "durable record count exceeds the configured limit" <|>
  s.models.findSome?
    (fun record => prefixed "durable model record is invalid: " record.model.validate) <|>
  s.backends.findSome? (validateBackend limits) <|>
  violation (s.fencedBoots.any fun record => !record.backendId.valid || !record.backendBoot.valid)
    "durable fenced record has an invalid identity" <|>
  violation (s.routes.any fun record =>
      !record.decisionId.valid || !record.decisionGeneration.valid)
    "durable route record has an invalid identity"

end RouterPersistentState

structure PersistenceResult where
  code : OutcomeCode := .internalError
  detail : Text := []
deriving DecidableEq, Repr

def PersistenceResult.ok (r : PersistenceResult) : Bool :=
  r.code == .accepted

structure PersistenceLoad where
  code : OutcomeCode := .internalError
  detail : Text := []
  state : RouterPersistentState := {}
  hasState : Bool := false
  formatVersion : UInt32 := 0
  recordCount : UInt32 := 0
deriving DecidableEq, Repr

def PersistenceLoad.ok (l : PersistenceLoad) : Bool :=
  l.hasState && l.code == .accepted

end ModelRouter.Persistence
