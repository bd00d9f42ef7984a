import ModelRouter.Codec
import ModelRouter.Persistence

namespace ModelRouter.Stored

open Base Base.Refusal Bytes Ids Outcome Limits Capability Evidence Catalog Candidate Authority
open Persistence Codec Request

/-! The durable records as the decoder builds them: an enumeration field holds whatever code was
read, declared or not. -/

structure StoredModel where
  modelId : ModelId := {}
  modelGeneration : ModelGeneration := {}
  modelVersionId : ModelVersionId := {}
  artifactGeneration : ArtifactGeneration := {}
  familyId : ModelFamilyId := {}
  contextLimitTokens : UInt32 := 0
  maxOutputTokens : UInt32 := 0
  inputModalities : ModalitySet := {}
  outputModalities : ModalitySet := {}
  qualityClass : QualityClass := kUnclassifiedQuality
  lifecycle : UInt8 := 0
  capabilityProfileId : CapabilityProfileId := {}
  capabilityGeneration : CapabilityGeneration := {}
  capabilities : CapabilityProfile := {}
  provenance : UInt8 := 1
  registeredAtUnixMillis : UnixMillis := 0
  expiresAtUnixMillis : UnixMillis := kNoExpiry
  displayName : Text := []
deriving DecidableEq, Repr

structure StoredBackend where
  backendId : BackendId := {}
  backendGeneration : BackendGeneration := {}
  lastBoot : BackendBootId := {}
  lastRegistrationGeneration : BackendRegistrationGeneration := {}
  providerId : ProviderId := {}
  providerGeneration : ProviderGeneration := {}
  endpointId : EndpointId := {}
  lastEndpointGeneration : EndpointGeneration := {}
  trustProfileId : TrustProfileId := {}
  trustGeneration : TrustGeneration := {}
  trustDomain : UInt8 := 0
  locality : LocalityKey := []
  networkDistance : UInt32 := 0
  capabilityProfileId : CapabilityProfileId := {}
  capabilityGeneration : CapabilityGeneration := {}
  capabilities : CapabilityProfile := {}
  modelBindings : List ModelBinding := []
  offlineCapable : Bool := false
  provenance : UInt8 := 1
  registeredAtUnixMillis : UnixMillis := 0
deriving DecidableEq, Repr

structure StoredFence where
  backendId : BackendId := {}
  backendGeneration : BackendGeneration := {}
  backendBoot : BackendBootId := {}
  reason : UInt16 := UInt16.ofNat OutcomeCode.fenced.ctorIdx
  fencedAtUnixMillis : UnixMillis := 0
deriving DecidableEq, Repr

structure StoredRoute where
  decisionId : RouteDecisionId := {}
  decisionGeneration : RouteDecisionGeneration := {}
  requestId : RouteRequestId := {}
  requestGeneration : RouteRequestGeneration := {}
  winner : CandidateKey := {}
  fallbacks : List CandidateKey := []
  authority : RouteAuthority := {}
  status : UInt8 := 0
  code : UInt16 := UInt16.ofNat OutcomeCode.routed.ctorIdx
  cost : CostEvidence := {}
  policyGeneration : PolicyGeneration := {}
  priceGeneration : PriceGeneration := {}
  budgetGeneration : BudgetGeneration := {}
  sloGeneration : SLOGeneration := {}
  semanticDigest : Text := []
  requirementDigest : Text := []
  createdAtUnixMillis : UnixMillis := 0
deriving DecidableEq, Repr

structure StoredState where
  routerId : RouterId := {}
  routerGeneration : RouterGeneration := {}
  lastRouterEpoch : RouterEpoch := {}
  lastCoordinatorEpoch : CoordinatorEpoch := {}
  lastBoot : RouterBootId := {}
  limits : ResourceLimits := {}
  weights : RankingWeights := {}
  lastPolicyGeneration : PolicyGeneration := {}
  lastPriceGeneration : PriceGeneration := {}
  lastBudgetGeneration : BudgetGeneration := {}
  lastSloGeneration : SLOGeneration := {}
  lastCapabilityGeneration : CapabilityGeneration := {}
  lastModelGeneration : ModelGeneration := {}
  lastBackendGeneration : BackendGeneration := {}
  models : List StoredModel := []
  backends : List StoredBackend := []
  fencedBoots : List StoredFence := []
  routes : List StoredRoute := []
  counters : PersistenceCounters := {}
  savedAtUnixMillis : UnixMillis := 0
  lastStartedAtUnixMillis : UnixMillis := 0
deriving DecidableEq, Repr

def storeModel (record : PersistedModelRecord) : StoredModel :=
  let model := record.model
  { modelId := model.modelId, modelGeneration := model.modelGeneration
    modelVersionId := model.modelVersionId, artifactGeneration := model.artifactGeneration
    familyId := model.familyId, contextLimitTokens := model.contextLimitTokens
    maxOutputTokens := model.maxOutputTokens, inputModalities := model.inputModalities
    outputModalities := model.outputModalities, qualityClass := model.qualityClass
    lifecycle := UInt8.ofNat model.lifecycle.ctorIdx
    capabilityProfileId := model.capabilityProfileId
    capabilityGeneration := model.capabilityGeneration, capabilities := model.capabilities
    provenance := UInt8.ofNat model.provenance.ctorIdx
    registeredAtUnixMillis := model.registeredAtUnixMillis
    expiresAtUnixMillis := model.expiresAtUnixMillis, displayName := model.displayName }

def storeBackend (record : PersistedBackendRecord) : StoredBackend where
  backendId := record.backendId
  backendGeneration := record.backendGeneration
  lastBoot := record.lastBoot
  lastRegistrationGeneration := record.lastRegistrationGeneration
  providerId := record.providerId
  providerGeneration := record.providerGeneration
  endpointId := record.endpointId
  lastEndpointGeneration := record.lastEndpointGeneration
  trustProfileId := record.trustProfileId
  trustGeneration := record.trustGeneration
  trustDomain := UInt8.ofNat record.trustDomain.ctorIdx
  locality := record.locality
  networkDistance := record.networkDistance
  capabilityProfileId := record.capabilityProfileId
  capabilityGeneration := record.capabilityGeneration
  capabilities := record.capabilities
  modelBindings := record.modelBindings
  offlineCapable := record.offlineCapable
  provenance := UInt8.ofNat record.provenance.ctorIdx
  registeredAtUnixMillis := record.registeredAtUnixMillis

def storeFence (record : FencedBootRecord) : StoredFence where
  backendId := record.backendId
  backendGeneration := record.backendGeneration
  backendBoot := record.backendBoot
  reason := UInt16.ofNat record.reason.ctorIdx
  fencedAtUnixMillis := record.fencedAtUnixMillis

def storeRoute (record : PersistedRouteRecord) : StoredRoute where
  decisionId := record.decisionId
  decisionGeneration := record.decisionGeneration
  requestId := record.requestId
  requestGeneration := record.requestGeneration
  winner := record.winner
  fallbacks := record.fallbacks
  authority := record.authority
  status := UInt8.ofNat record.status.ctorIdx
  code := UInt16.ofNat record.code.ctorIdx
  cost := record.cost
  policyGeneration := record.policyGeneration
  priceGeneration := record.priceGeneration
  budgetGeneration := record.budgetGeneration
  sloGeneration := record.sloGeneration
  semanticDigest := record.semanticDigest
  requirementDigest := record.requirementDigest
  createdAtUnixMillis := record.createdAtUnixMillis

/-- A durable state with declared enumerators, as its records are stored. -/
def store (s : RouterPersistentState) : StoredState where
  routerId := s.routerId
  routerGeneration := s.routerGeneration
  lastRouterEpoch := s.lastRouterEpoch
  lastCoordinatorEpoch := s.lastCoordinatorEpoch
  lastBoot := s.lastBoot
  limits := s.limits
  weights := s.weights
  lastPolicyGeneration := s.lastPolicyGeneration
  lastPriceGeneration := s.lastPriceGeneration
  lastBudgetGeneration := s.lastBudgetGeneration
  lastSloGeneration := s.lastSloGeneration
  lastCapabilityGeneration := s.lastCapabilityGeneration
  lastModelGeneration := s.lastModelGeneration
  lastBackendGeneration := s.lastBackendGeneration
  models := s.models.map storeModel
  backends := s.backends.map storeBackend
  fencedBoots := s.fencedBoots.map storeFence
  routes := s.routes.map storeRoute
  counters := s.counters
  savedAtUnixMillis := s.savedAtUnixMillis
  lastStartedAtUnixMillis := s.lastStartedAtUnixMillis

def StoredModel.less (a b : StoredModel) : Bool :=
  if a.modelId ≠ b.modelId then a.modelId < b.modelId
  else a.modelGeneration < b.modelGeneration

def StoredBackend.less (a b : StoredBackend) : Bool :=
  a.backendId < b.backendId

def bindingLess (a b : ModelBinding) : Bool :=
  a.modelId < b.modelId

def StoredFence.canonicalLess (a b : StoredFence) : Bool :=
  if a.backendId ≠ b.backendId then a.backendId < b.backendId
  else if a.backendBoot ≠ b.backendBoot then a.backendBoot < b.backendBoot
  else if a.backendGeneration ≠ b.backendGeneration then a.backendGeneration < b.backendGeneration
  else a.reason < b.reason

def StoredRoute.less (a b : StoredRoute) : Bool :=
  a.decisionId < b.decisionId

def StoredBackend.sortBindings (b : StoredBackend) : StoredBackend :=
  { b with modelBindings := stableSort bindingLess b.modelBindings }

/-- `ModelDescriptor::validate`, which reads neither the lifecycle nor the provenance. -/
def StoredModel.validate (m : StoredModel) : Option Text :=
  violation (!m.modelId.valid) "model identity is not valid" <|>
  violation (!m.modelGeneration.valid) "model generation is not valid" <|>
  violation (!m.artifactGeneration.valid) "artifact generation is not valid" <|>
  violation (m.contextLimitTokens == 0) "model context limit is zero" <|>
  violation ((m.maxOutputTokens > m.contextLimitTokens))
    "model max output tokens exceed the context limit" <|>
  violation m.inputModalities.empty "model declares no input modality" <|>
  violation m.outputModalities.empty "model declares no output modality" <|>
  violation (m.capabilityProfileId.valid != m.capabilityGeneration.valid)
    "model capability profile identity and generation disagree"

def StoredBackend.validate (limits : ResourceLimits) (record : StoredBackend) : Option Text :=
  violation (!record.backendId.valid || !record.backendGeneration.valid || !record.lastBoot.valid)
    "durable backend record has an invalid identity" <|>
  violation (record.modelBindings.length > limits.maxModelBindingsPerBackend.toNat)
    "durable backend record exceeds the model binding limit" <|>
  violation
    (record.capabilities.entries.length > limits.maxCapabilityEntriesPerBackend.toNat)
    "durable backend record exceeds the capability limit"

namespace StoredState

def canonicalize (s : StoredState) : StoredState :=
  { s with
    models := stableSort StoredModel.less s.models
    backends := (stableSort StoredBackend.less s.backends).map StoredBackend.sortBindings
    fencedBoots := stableSort StoredFence.canonicalLess s.fencedBoots
    routes := stableSort StoredRoute.less s.routes }

/-- `none` when the state is coherent under the effective limits. -/
def validate (s : StoredState) (limits : ResourceLimits) : Option Text :=
  violation (!s.routerId.valid) "durable state has no router identity" <|>
  violation (!s.routerGeneration.valid) "durable state has no router generation" <|>
  prefixed "durable limits are incoherent: " limits.validate <|>
  prefixed "durable ranking weights are incoherent: " s.weights.validate <|>
  violation (s.models.length > limits.maxModels.toNat)
    "durable model record count exceeds the configured limit" <|>
  violation (s.backends.length > limits.maxBackends.toNat)
    "durable backend record count exceeds the configured limit" <|>
  violation (s.fencedBoots.length > limits.maxBackendIncarnations.toNat)
    "durable fenced incarnation count exceeds the configured limit" <|>
  violation (s.routes.length > limits.maxRouteHistory.toNat)
    "durable route record count exceeds the configured limit" <|>
  violation (s.models.length + s.backends.length + s.fencedBoots.length + s.routes.length >
      limits.maxPersistenceRecords.toNat)
    "durable record count exceeds the configured limit" <|>
  s.models.findSome?
    (fun record => prefixed "durable model record is invalid: " record.validate) <|>
  s.backends.findSome? (StoredBackend.validate limits) <|>
  violation (s.fencedBoots.any fun record => !record.backendId.valid || !record.backendBoot.valid)
    "durable fenced record has an invalid identity" <|>
  violation (s.routes.any fun record =>
      !record.decisionId.valid || !record.decisionGeneration.valid)
    "durable route record has an invalid identity"

end StoredState

def lifecycleNames : List Text :=
  ["UNKNOWN", "CURRENT", "DEPRECATED", "RETIRED"]

def lifecycleText (code : UInt8) : Text :=
  lifecycleNames.getD code.toNat "INVALID"

def modelText (record : StoredModel) : Text :=
  text "|model=" ++ decimal record.modelId.value.toNat ++ text "@" ++
    decimal record.modelGeneration.value.toNat ++ text "." ++
    decimal record.artifactGeneration.value.toNat ++ text ":" ++ lifecycleText record.lifecycle

def backendText (record : StoredBackend) : Text :=
  text "|backend=" ++ decimal record.backendId.value.toNat ++ text "@" ++
    decimal record.backendGeneration.value.toNat ++ text ".boot=" ++
    decimal record.lastBoot.value.toNat ++ text ":" ++ decimal record.modelBindings.length

def fenceText (record : StoredFence) : Text :=
  text "|fenced=" ++ decimal record.backendId.value.toNat ++ text ".boot=" ++
    decimal record.backendBoot.value.toNat

def routeText (record : StoredRoute) : Text :=
  text "|route=" ++ decimal record.decisionId.value.toNat ++ text ":" ++ record.semanticDigest

def canonicalTextBytes (s : StoredState) : Text :=
  text "router=" ++ decimal s.routerId.value.toNat ++
    text ";gen=" ++ decimal s.routerGeneration.value.toNat ++
    text ";router_epoch=" ++ decimal s.lastRouterEpoch.value.toNat ++
    text ";coordinator_epoch=" ++ decimal s.lastCoordinatorEpoch.value.toNat ++
    text ";boot=" ++ decimal s.lastBoot.value.toNat ++
    text ";saved_at=" ++ signedDecimal s.savedAtUnixMillis.toInt ++
    text ";counters=" ++ decimal s.counters.highestIdentityIssued.toNat ++
    text "," ++ decimal s.counters.routeRequests.toNat ++
    text "," ++ decimal s.counters.routeDecisions.toNat ++
    text "," ++ decimal s.counters.dispatches.toNat ++
    text "," ++ decimal s.counters.routeRejections.toNat ++
    text "," ++ decimal s.counters.reroutes.toNat ++
    text "," ++ decimal s.counters.fallbacksTaken.toNat ++
    s.models.flatMap modelText ++ s.backends.flatMap backendText ++
    s.fencedBoots.flatMap fenceText ++ s.routes.flatMap routeText

end ModelRouter.Stored
