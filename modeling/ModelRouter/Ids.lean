import Mathlib.Order.Lattice

namespace ModelRouter.Ids

inductive Tag where
  | router | routerBoot | routerEpoch | coordinatorEpoch
  | routeRequest | routeDecision | routePlan | dispatch
  | model | modelVersion | artifact | modelFamily
  | provider | backend | backendBoot | backendRegistration | endpoint | session
  | capability | capabilityProfile | health | availability | readiness | residency | capacity
  | reservation | policy | budget | costEvidence | price | slo | compatibility | trust
  | tenant | name_space | correlation
deriving DecidableEq, Repr

/-- A durable entity identity. Value 0 is the absent identity. -/
structure EntityId (tag : Tag) where
  value : UInt64 := 0
deriving DecidableEq, Repr, Inhabited

/-- An incarnation or epoch number that only moves forward. Value 0 means never issued. -/
structure Generation (tag : Tag) where
  value : UInt64 := 0
deriving DecidableEq, Repr, Inhabited

variable {t : Tag}

def EntityId.valid (i : EntityId t) : Bool :=
  i.value != 0

def Generation.valid (g : Generation t) : Bool :=
  g.value != 0

def kMax : UInt64 := 0xFFFFFFFFFFFFFFFF

def Generation.next (g : Generation t) : Generation t :=
  ⟨if g.value = kMax then kMax else g.value + 1⟩

instance : LinearOrder (EntityId t) :=
  LinearOrder.lift' (fun i => i.value.toNat) fun i j h => by
    cases i; cases j; simpa [UInt64.toNat_inj] using h

instance : LinearOrder (Generation t) :=
  LinearOrder.lift' (fun g => g.value.toNat) fun g h hgh => by
    cases g; cases h; simpa [UInt64.toNat_inj] using hgh

theorem EntityId.lt_iff {i j : EntityId t} : i < j ↔ i.value.toNat < j.value.toNat := Iff.rfl

theorem Generation.lt_iff {g h : Generation t} : g < h ↔ g.value.toNat < h.value.toNat := Iff.rfl

theorem Generation.le_iff {g h : Generation t} : g ≤ h ↔ g.value.toNat ≤ h.value.toNat := Iff.rfl

theorem Generation.le_next (g : Generation t) : g ≤ g.next := by
  rw [Generation.le_iff, Generation.next]
  split_ifs with hmax
  · simp [hmax]
  · have hlt : g.value.toNat < 2 ^ 64 - 1 := by
      have hne : g.value.toNat ≠ kMax.toNat := fun h => hmax (UInt64.toNat_inj.mp h)
      have hb := g.value.toNat_lt
      simp only [kMax] at hne
      change g.value.toNat ≠ 2 ^ 64 - 1 at hne
      omega
    rw [UInt64.toNat_add]
    change g.value.toNat ≤ (g.value.toNat + 1) % 2 ^ 64
    omega

abbrev RouterId := EntityId .router
abbrev RouterGeneration := Generation .router
abbrev RouterBootId := Generation .routerBoot
abbrev RouterEpoch := Generation .routerEpoch
abbrev CoordinatorEpoch := Generation .coordinatorEpoch
abbrev RouteRequestId := EntityId .routeRequest
abbrev RouteRequestGeneration := Generation .routeRequest
abbrev RouteDecisionId := EntityId .routeDecision
abbrev RouteDecisionGeneration := Generation .routeDecision
abbrev RoutePlanId := EntityId .routePlan
abbrev RoutePlanGeneration := Generation .routePlan
abbrev DispatchId := EntityId .dispatch
abbrev DispatchGeneration := Generation .dispatch
abbrev ModelId := EntityId .model
abbrev ModelGeneration := Generation .model
abbrev ModelVersionId := EntityId .modelVersion
abbrev ArtifactGeneration := Generation .artifact
abbrev ModelFamilyId := EntityId .modelFamily
abbrev ProviderId := EntityId .provider
abbrev ProviderGeneration := Generation .provider
abbrev BackendId := EntityId .backend
abbrev BackendGeneration := Generation .backend
abbrev BackendBootId := Generation .backendBoot
abbrev BackendRegistrationGeneration := Generation .backendRegistration
abbrev EndpointId := EntityId .endpoint
abbrev EndpointGeneration := Generation .endpoint
abbrev CapabilityProfileId := EntityId .capabilityProfile
abbrev CapabilityGeneration := Generation .capability
abbrev HealthGeneration := Generation .health
abbrev AvailabilityGeneration := Generation .availability
abbrev ReadinessGeneration := Generation .readiness
abbrev ResidencyGeneration := Generation .residency
abbrev CapacityGeneration := Generation .capacity
abbrev ReservationId := EntityId .reservation
abbrev ReservationGeneration := Generation .reservation
abbrev PolicyId := EntityId .policy
abbrev PolicyGeneration := Generation .policy
abbrev BudgetId := EntityId .budget
abbrev BudgetGeneration := Generation .budget
abbrev CostEvidenceId := EntityId .costEvidence
abbrev PriceGeneration := Generation .price
abbrev SLOId := EntityId .slo
abbrev SLOGeneration := Generation .slo
abbrev CompatibilityProfileId := EntityId .compatibility
abbrev CompatibilityGeneration := Generation .compatibility
abbrev TrustProfileId := EntityId .trust
abbrev TrustGeneration := Generation .trust
abbrev TenantId := EntityId .tenant
abbrev NamespaceId := EntityId .name_space
abbrev CorrelationId := EntityId .correlation

def kCeiling : UInt64 := 0xFFFFFFFFFFFFFFFF

/-- The process-wide identity source as a function of the highest identity issued so far:
the identity handed out and the new highest one. -/
def allocatorNext (highestIssued : UInt64) : UInt64 × UInt64 :=
  if highestIssued ≥ kCeiling then (kCeiling, highestIssued)
  else (highestIssued + 1, highestIssued + 1)

def allocatorObserve (highestIssued highestSeen : UInt64) : UInt64 :=
  if highestIssued < highestSeen then highestSeen else highestIssued

def EntityId.render (i : EntityId t) : String :=
  if i.valid then toString i.value.toNat else "none"

def Generation.render (g : Generation t) : String :=
  if g.valid then toString g.value.toNat else "none"

end ModelRouter.Ids
