import Mathlib.Data.Prod.Lex
import ModelRouter.Base.OrderedMap
import ModelRouter.Persistence

namespace ModelRouter.State

open Base Bytes Ids Outcome Capability Evidence Catalog Limits Candidate Authority Request
open Decision Persistence

/-- A retained route record. -/
structure RouteRecord where
  decision : RouteDecision := {}
  plan : RoutePlan := {}
  tenant : TenantId := {}
  nameSpace : NamespaceId := {}
deriving DecidableEq, Repr

structure FenceKey where
  backendId : BackendId := {}
  backendBoot : BackendBootId := {}
deriving DecidableEq, Repr

def FenceKey.members (k : FenceKey) : List Nat :=
  [k.backendId.value.toNat, k.backendBoot.value.toNat]

theorem FenceKey.members_injective : Function.Injective FenceKey.members := by
  rintro ⟨⟨a⟩, ⟨b⟩⟩ ⟨⟨a'⟩, ⟨b'⟩⟩ hm
  simpa [FenceKey.members, UInt64.toNat_inj] using hm

instance : LinearOrder FenceKey :=
  LinearOrder.lift' FenceKey.members FenceKey.members_injective

abbrev IdSet (t : Tag) := OrderedMap (EntityId t) Unit

/-- The canonical authoritative state. -/
structure CanonicalState where
  routerId : RouterId := {}
  routerGeneration : RouterGeneration := {}
  routerEpoch : RouterEpoch := {}
  coordinatorEpoch : CoordinatorEpoch := {}
  routerBoot : RouterBootId := {}
  running : Bool := false
  shuttingDown : Bool := false
  recovered : Bool := false
  limits : ResourceLimits := {}
  weights : RankingWeights := {}
  scales : RankingScales := {}
  models : OrderedMap ModelId ModelDescriptor := {}
  providers : OrderedMap ProviderId ProviderDescriptor := {}
  backends : OrderedMap BackendId BackendDescriptor := {}
  fencedBoots : OrderedMap FenceKey FencedBootRecord := {}
  modelGenerationWatermark : OrderedMap ModelId ModelGeneration := {}
  backendGenerationWatermark : OrderedMap BackendId BackendGeneration := {}
  policy : PolicySnapshot := {}
  budget : BudgetSnapshot := {}
  slo : SloEvidence := {}
  compatibility : OrderedMap BackendId CompatibilityEvidence := {}
  trust : OrderedMap BackendId TrustEvidence := {}
  costs : OrderedMap (BackendId ×ₗ ModelId) CostEvidence := {}
  reservations : OrderedMap BackendId ReservationEvidence := {}
  routes : OrderedMap RouteDecisionId RouteRecord := {}
  routeOrder : List RouteDecisionId := []
  dispatches : OrderedMap RouteDecisionId DispatchRecord := {}
  dispatchIndex : OrderedMap DispatchId RouteDecisionId := {}
  indexBackendsByModel : OrderedMap ModelId (IdSet .backend) := {}
  indexBackendsByProvider : OrderedMap ProviderId (IdSet .backend) := {}
  indexBackendsByTrust : OrderedMap Nat (IdSet .backend) := {}
  tenants : IdSet .tenant := {}
  lastWinnerByTenant : OrderedMap TenantId BackendId := {}
  counters : PersistenceCounters := {}
  lastEligible : UInt32 := 0
  lastRejected : UInt32 := 0
  startedAtUnixMillis : UnixMillis := 0

section

variable {K : Type} [LinearOrder K]

def indexInsert (index : OrderedMap K (IdSet .backend)) (key : K) (id : BackendId) :
    OrderedMap K (IdSet .backend) :=
  index.insert key (((index.find? key).getD {}).insert id ())

def indexErase (index : OrderedMap K (IdSet .backend)) (key : K) (id : BackendId) :
    OrderedMap K (IdSet .backend) :=
  match index.find? key with
  | none => index
  | some bucket =>
    if (bucket.erase id).entries.isEmpty then index.erase key
    else index.insert key (bucket.erase id)

end

namespace CanonicalState

def indexAddBackend (s : CanonicalState) (backend : BackendDescriptor) : CanonicalState :=
  { s with
    indexBackendsByProvider :=
      indexInsert s.indexBackendsByProvider backend.providerId backend.backendId
    indexBackendsByTrust :=
      indexInsert s.indexBackendsByTrust backend.trustDomain.trustRank backend.backendId
    indexBackendsByModel := backend.modelBindings.foldl
      (fun index binding => indexInsert index binding.modelId backend.backendId)
      s.indexBackendsByModel }

def indexRemoveBackend (s : CanonicalState) (backend : BackendDescriptor) : CanonicalState :=
  { s with
    indexBackendsByProvider :=
      indexErase s.indexBackendsByProvider backend.providerId backend.backendId
    indexBackendsByTrust :=
      indexErase s.indexBackendsByTrust backend.trustDomain.trustRank backend.backendId
    indexBackendsByModel := backend.modelBindings.foldl
      (fun index binding => indexErase index binding.modelId backend.backendId)
      s.indexBackendsByModel }

/-- The loop of `rebuild_indexes` inserts every backend under its map key. -/
def rebuildIndexes (s : CanonicalState) : CanonicalState :=
  s.backends.entries.foldl
    (fun state entry => state.indexAddBackend { entry.2 with backendId := entry.1 })
    { s with
      indexBackendsByModel := .empty
      indexBackendsByProvider := .empty
      indexBackendsByTrust := .empty }

def isFenced (s : CanonicalState) (backendId : BackendId) (boot : BackendBootId) : Bool :=
  s.fencedBoots.contains ⟨backendId, boot⟩

def noteTenant (s : CanonicalState) (tenant : TenantId) : CanonicalState :=
  if tenant.valid then { s with tenants := s.tenants.insert tenant () } else s

end CanonicalState

def RouteRecord.executable (record : RouteRecord) : Bool :=
  record.decision.status == .current || record.decision.status == .dispatched

def RouteRecord.markStale (record : RouteRecord) : RouteRecord :=
  { record with
    decision := { record.decision with
      status := .stale
      explanation := { record.decision.explanation with
        currentness := .stale
        revalidationRequired := true } } }

/-- What `build_current_authority` reads off a registered model and descriptor. -/
def observedAuthority (s : CanonicalState) (bound : RouteAuthority) (model : ModelDescriptor)
    (descriptor : BackendDescriptor) : RouteAuthority :=
  let cost := (descriptor.findBinding bound.modelId).map ModelBinding.cost
  let reservation := s.reservations.find? bound.backendId
  { routerId := bound.routerId
    routerEpoch := s.routerEpoch
    coordinatorEpoch := s.coordinatorEpoch
    requestId := bound.requestId
    requestGeneration := bound.requestGeneration
    decisionId := bound.decisionId
    decisionGeneration := bound.decisionGeneration
    modelId := bound.modelId
    modelGeneration := model.modelGeneration
    artifactGeneration := model.artifactGeneration
    providerId := descriptor.providerId
    providerGeneration := descriptor.providerGeneration
    backendId := bound.backendId
    backendGeneration := descriptor.backendGeneration
    backendBoot := descriptor.backendBoot
    backendRegistrationGeneration := descriptor.backendRegistrationGeneration
    endpointId := descriptor.endpoint.endpointId
    endpointGeneration := descriptor.endpoint.endpointGeneration
    capabilityProfileId := descriptor.capabilityProfileId
    capabilityGeneration := descriptor.capabilityGeneration
    policyId := s.policy.policyId
    policyGeneration := s.policy.generation
    budgetId := if bound.budgetGeneration.valid then s.budget.budgetId else {}
    budgetGeneration := if bound.budgetGeneration.valid then s.budget.generation else {}
    costEvidenceId := (cost.map CostEvidence.evidenceId).getD {}
    priceGeneration := (cost.map CostEvidence.priceGeneration).getD {}
    sloId := s.slo.sloId
    sloGeneration := s.slo.generation
    compatibilityProfileId := descriptor.compatibilityProfileId
    compatibilityGeneration := descriptor.compatibilityGeneration
    trustProfileId := descriptor.trustProfileId
    trustGeneration := descriptor.trustGeneration
    healthGeneration := descriptor.health.generation
    availabilityGeneration := descriptor.availability.generation
    readinessGeneration := descriptor.readiness.generation
    residencyGeneration := descriptor.residency.generation
    capacityGeneration := descriptor.capacity.generation
    reservationId := (reservation.map ReservationEvidence.reservationId).getD {}
    reservationGeneration := (reservation.map ReservationEvidence.generation).getD {}
    tenant := bound.tenant
    nameSpace := bound.nameSpace }

/-- The authority currently observable for the identity a bound authority names; `none` when
the model or the backend no longer exists. -/
def buildCurrentAuthority (s : CanonicalState) (bound : RouteAuthority) : Option RouteAuthority :=
  match s.models.find? bound.modelId, s.backends.find? bound.backendId with
  | some model, some descriptor => some (observedAuthority s bound model descriptor)
  | _, _ => none

def lifecycleReason (model : ModelDescriptor) (backend : BackendDescriptor)
    (bound : RouteAuthority) : OutcomeCode :=
  if model.lifecycle = .retired then .rejectRetired
  else if model.lifecycle ≠ .current then .rejectStaleModel
  else if backend.retired then .rejectRetired
  else if backend.draining then .rejectDraining
  else if backend.backendBoot ≠ bound.backendBoot ∨
      backend.backendGeneration ≠ bound.backendGeneration then .rejectStaleBackendBoot
  else if backend.endpoint.endpointGeneration ≠ bound.endpointGeneration then .rejectStaleEndpoint
  else .accepted

/-- The typed reason a bound authority is not dispatchable; `accepted` means it is. -/
def dispatchabilityReason (s : CanonicalState) (bound : RouteAuthority) (now : UnixMillis) :
    OutcomeCode :=
  if bound.expired now then .rejectStaleRequest
  else if s.isFenced bound.backendId bound.backendBoot then .rejectStaleBackendBoot
  else match buildCurrentAuthority s bound with
    | none => .rejectStaleBackend
    | some observed =>
      let comparison := compareAuthority bound observed bound.requiredMask
      if !comparison.current then comparison.code
      else match s.models.find? bound.modelId, s.backends.find? bound.backendId with
        | none, _ => .rejectStaleModel
        | some _, none => .rejectStaleBackend
        | some model, some backend => lifecycleReason model backend bound

def isAuthorityDispatchable (s : CanonicalState) (bound : RouteAuthority) (now : UnixMillis) :
    Bool :=
  dispatchabilityReason s bound now == .accepted

def staleDecisionIfNotDispatchable (s : CanonicalState) (now : UnixMillis)
    (record : RouteRecord) : RouteRecord :=
  if !record.executable then record
  else if isAuthorityDispatchable s record.decision.authority now then record
  else record.markStale

namespace CanonicalState

def staleDecisionsForAuthorityChange (s : CanonicalState) (now : UnixMillis) : CanonicalState :=
  { s with routes := s.routes.map fun _ record => staleDecisionIfNotDispatchable s now record }

/-- Restale the executable decisions bound to an incarnation, or to any incarnation of the
backend when the boot is not valid. -/
def staleDecisionsForBackend (s : CanonicalState) (backendId : BackendId)
    (backendBoot : BackendBootId) : CanonicalState :=
  { s with routes := s.routes.map fun _ record =>
      if record.executable && record.decision.authority.backendId == backendId &&
          (!backendBoot.valid || record.decision.authority.backendBoot == backendBoot) then
        record.markStale
      else record }

end CanonicalState

end ModelRouter.State
