import ModelRouter.Capability
import ModelRouter.Outcome
import ModelRouter.Sha256

namespace ModelRouter.Authority

open Bytes Ids Outcome Capability Sha256

/-- A component of route authority, in bit order. -/
inductive AuthorityComponent where
  | routerEpoch | coordinatorEpoch | request | model | artifact | provider | backend
  | backendBoot | endpoint | capability | policy | budget | price | slo | compatibility | trust
  | health | availability | readiness | residency | capacity | reservation | tenancy | dispatch
deriving DecidableEq, Repr

namespace AuthorityComponent

def bit (c : AuthorityComponent) : UInt32 :=
  1 <<< c.ctorIdx.toUInt32

def name : AuthorityComponent → Text
  | routerEpoch => "router_epoch" | coordinatorEpoch => "coordinator_epoch"
  | request => "request" | model => "model" | artifact => "artifact" | provider => "provider"
  | backend => "backend" | backendBoot => "backend_boot" | endpoint => "endpoint"
  | capability => "capability" | policy => "policy" | budget => "budget" | price => "price"
  | slo => "slo" | compatibility => "compatibility" | trust => "trust" | health => "health"
  | availability => "availability" | readiness => "readiness" | residency => "residency"
  | capacity => "capacity" | reservation => "reservation" | tenancy => "tenancy"
  | dispatch => "dispatch"

def staleCode : AuthorityComponent → OutcomeCode
  | routerEpoch => .rejectStaleRouterEpoch
  | coordinatorEpoch => .rejectStaleCoordinatorEpoch
  | request => .rejectStaleRequest
  | model => .rejectStaleModel
  | artifact => .rejectStaleArtifact
  | provider => .rejectStaleBackend
  | backend => .rejectStaleBackend
  | backendBoot => .rejectStaleBackendBoot
  | endpoint => .rejectStaleEndpoint
  | capability => .rejectStaleCapability
  | policy => .rejectStalePolicy
  | budget => .rejectStaleBudget
  | price => .rejectStalePrice
  | slo => .rejectStaleSlo
  | compatibility => .rejectStaleCompatibility
  | trust => .rejectStaleTrust
  | health => .rejectStaleHealth
  | availability => .rejectStaleAvailability
  | readiness => .rejectStaleReadiness
  | residency => .rejectStaleResidency
  | capacity => .rejectStaleCapacity
  | reservation => .rejectStaleReservation
  | tenancy => .rejectConflict
  | dispatch => .rejectStaleRequest

theorem staleCode_ne_accepted (c : AuthorityComponent) : c.staleCode ≠ .accepted := by
  cases c <;> decide

end AuthorityComponent

structure AuthorityMask where
  bits : UInt32 := 0
deriving DecidableEq, Repr

namespace AuthorityMask

def contains (m : AuthorityMask) (c : AuthorityComponent) : Bool :=
  m.bits &&& c.bit != 0

def add (m : AuthorityMask) (c : AuthorityComponent) : AuthorityMask :=
  ⟨m.bits ||| c.bit⟩

def addIf (m : AuthorityMask) (condition : Bool) (c : AuthorityComponent) : AuthorityMask :=
  if condition then m.add c else m

theorem contains_empty (c : AuthorityComponent) : contains {} c = false := by
  cases c <;> decide

theorem bit_and_bit (c d : AuthorityComponent) :
    c.bit &&& d.bit = if c = d then d.bit else 0 := by
  cases c <;> cases d <;> decide

theorem bit_ne_zero (c : AuthorityComponent) : c.bit ≠ 0 := by
  cases c <;> decide

@[simp] theorem contains_add (m : AuthorityMask) (c d : AuthorityComponent) :
    (m.add c).contains d = ((c = d) || m.contains d) := by
  have hdist : (m.bits ||| c.bit) &&& d.bit = (m.bits &&& d.bit) ||| (c.bit &&& d.bit) := by
    apply UInt32.toBitVec_inj.mp
    simp only [UInt32.toBitVec_and, UInt32.toBitVec_or, BitVec.and_or_distrib_right]
  simp only [contains, add]
  rw [hdist, bit_and_bit]
  by_cases hcd : c = d
  · simp [hcd, bit_ne_zero]
  · simp [hcd]

@[simp] theorem contains_addIf (m : AuthorityMask) (b : Bool) (c d : AuthorityComponent) :
    (m.addIf b c).contains d = ((b && (c = d)) || m.contains d) := by
  cases b <;> simp [addIf]

end AuthorityMask

/-- The complete authority binding of a route decision. -/
structure RouteAuthority where
  routerId : RouterId := {}
  routerEpoch : RouterEpoch := {}
  coordinatorEpoch : CoordinatorEpoch := {}
  requestId : RouteRequestId := {}
  requestGeneration : RouteRequestGeneration := {}
  decisionId : RouteDecisionId := {}
  decisionGeneration : RouteDecisionGeneration := {}
  modelId : ModelId := {}
  modelGeneration : ModelGeneration := {}
  artifactGeneration : ArtifactGeneration := {}
  providerId : ProviderId := {}
  providerGeneration : ProviderGeneration := {}
  backendId : BackendId := {}
  backendGeneration : BackendGeneration := {}
  backendBoot : BackendBootId := {}
  backendRegistrationGeneration : BackendRegistrationGeneration := {}
  endpointId : EndpointId := {}
  endpointGeneration : EndpointGeneration := {}
  capabilityProfileId : CapabilityProfileId := {}
  capabilityGeneration : CapabilityGeneration := {}
  policyId : PolicyId := {}
  policyGeneration : PolicyGeneration := {}
  budgetId : BudgetId := {}
  budgetGeneration : BudgetGeneration := {}
  costEvidenceId : CostEvidenceId := {}
  priceGeneration : PriceGeneration := {}
  sloId : SLOId := {}
  sloGeneration : SLOGeneration := {}
  compatibilityProfileId : CompatibilityProfileId := {}
  compatibilityGeneration : CompatibilityGeneration := {}
  trustProfileId : TrustProfileId := {}
  trustGeneration : TrustGeneration := {}
  healthGeneration : HealthGeneration := {}
  availabilityGeneration : AvailabilityGeneration := {}
  readinessGeneration : ReadinessGeneration := {}
  residencyGeneration : ResidencyGeneration := {}
  capacityGeneration : CapacityGeneration := {}
  reservationId : ReservationId := {}
  reservationGeneration : ReservationGeneration := {}
  tenant : TenantId := {}
  nameSpace : NamespaceId := {}
  dispatchGeneration : DispatchGeneration := {}
  issuedAtUnixMillis : UnixMillis := 0
  expiresAtUnixMillis : UnixMillis := kNoExpiry
deriving DecidableEq, Repr

namespace RouteAuthority

def requiredMask (a : RouteAuthority) : AuthorityMask :=
  let mask : AuthorityMask := {}
  let mask := mask.add .routerEpoch
  let mask := mask.add .coordinatorEpoch
  let mask := mask.add .request
  let mask := mask.add .model
  let mask := mask.add .artifact
  let mask := mask.add .backend
  let mask := mask.add .backendBoot
  let mask := mask.add .endpoint
  let mask := mask.add .capability
  let mask := mask.add .policy
  let mask := mask.add .trust
  let mask := mask.add .health
  let mask := mask.add .availability
  let mask := mask.add .readiness
  let mask := mask.add .tenancy
  let mask := mask.addIf (a.providerId.valid || a.providerGeneration.valid) .provider
  let mask := mask.addIf a.budgetGeneration.valid .budget
  let mask := mask.addIf a.priceGeneration.valid .price
  let mask := mask.addIf a.sloGeneration.valid .slo
  let mask := mask.addIf a.compatibilityGeneration.valid .compatibility
  let mask := mask.addIf a.residencyGeneration.valid .residency
  let mask := mask.addIf a.capacityGeneration.valid .capacity
  let mask := mask.addIf (a.reservationId.valid || a.reservationGeneration.valid) .reservation
  mask.addIf a.dispatchGeneration.valid .dispatch

def expired (a : RouteAuthority) (now : UnixMillis) : Bool :=
  expiredAt now a.expiresAtUnixMillis

/-- The values `compare_authority` records for each component, in its order. -/
def fields (a : RouteAuthority) : List (AuthorityComponent × UInt64) :=
  [(.routerEpoch, a.routerEpoch.value),
    (.coordinatorEpoch, a.coordinatorEpoch.value),
    (.request, a.requestId.value), (.request, a.requestGeneration.value),
    (.model, a.modelId.value), (.model, a.modelGeneration.value),
    (.artifact, a.artifactGeneration.value),
    (.provider, a.providerId.value), (.provider, a.providerGeneration.value),
    (.backend, a.backendId.value), (.backend, a.backendGeneration.value),
    (.backend, a.backendRegistrationGeneration.value),
    (.backendBoot, a.backendBoot.value),
    (.endpoint, a.endpointId.value), (.endpoint, a.endpointGeneration.value),
    (.capability, a.capabilityProfileId.value), (.capability, a.capabilityGeneration.value),
    (.policy, a.policyId.value), (.policy, a.policyGeneration.value),
    (.budget, a.budgetId.value), (.budget, a.budgetGeneration.value),
    (.price, a.costEvidenceId.value), (.price, a.priceGeneration.value),
    (.slo, a.sloId.value), (.slo, a.sloGeneration.value),
    (.compatibility, a.compatibilityProfileId.value),
    (.compatibility, a.compatibilityGeneration.value),
    (.trust, a.trustProfileId.value), (.trust, a.trustGeneration.value),
    (.health, a.healthGeneration.value),
    (.availability, a.availabilityGeneration.value),
    (.readiness, a.readinessGeneration.value),
    (.residency, a.residencyGeneration.value),
    (.capacity, a.capacityGeneration.value),
    (.reservation, a.reservationId.value), (.reservation, a.reservationGeneration.value),
    (.tenancy, a.tenant.value), (.tenancy, a.nameSpace.value),
    (.dispatch, a.dispatchGeneration.value)]

end RouteAuthority

structure AuthorityDifference where
  component : AuthorityComponent
  bound : UInt64
  current : UInt64
  code : OutcomeCode := .revalidationRequired
deriving DecidableEq, Repr

def AuthorityDifference.canonicalLess (a b : AuthorityDifference) : Bool :=
  if a.component ≠ b.component then a.component.bit < b.component.bit
  else if a.bound ≠ b.bound then a.bound < b.bound
  else a.current < b.current

structure AuthorityComparison where
  code : OutcomeCode := .accepted
  differences : List AuthorityDifference := []
deriving DecidableEq, Repr

def AuthorityComparison.current (c : AuthorityComparison) : Bool :=
  c.differences.isEmpty

/-- One `record` call: a field of a masked component that differs is reported. -/
def recordDifference (required : AuthorityMask)
    (pair : (AuthorityComponent × UInt64) × (AuthorityComponent × UInt64)) :
    Option AuthorityDifference :=
  if required.contains pair.1.1 && pair.1.2 != pair.2.2 then
    some ⟨pair.1.1, pair.1.2, pair.2.2, pair.1.1.staleCode⟩
  else none

def compareAuthority (bound current : RouteAuthority) (required : AuthorityMask) :
    AuthorityComparison :=
  let differences := stableSort AuthorityDifference.canonicalLess
    ((bound.fields.zip current.fields).filterMap (recordDifference required))
  { code := (differences.head?.map AuthorityDifference.code).getD .accepted
    differences := differences }

theorem mem_differences {bound current : RouteAuthority} {required : AuthorityMask}
    {d : AuthorityDifference} :
    d ∈ (compareAuthority bound current required).differences ↔
      ∃ pair ∈ bound.fields.zip current.fields, recordDifference required pair = some d := by
  simp [compareAuthority, stableSort, List.mem_insertionSort]

theorem compareAuthority_code {bound current : RouteAuthority} {required : AuthorityMask} :
    (compareAuthority bound current required).code = .accepted ↔
      (compareAuthority bound current required).differences = [] := by
  constructor
  · intro h
    cases hd : (compareAuthority bound current required).differences with
    | nil => rfl
    | cons d ds =>
        have hmem : d ∈ (compareAuthority bound current required).differences := by simp [hd]
        obtain ⟨pair, -, hrec⟩ := mem_differences.mp hmem
        have hcode : d.code = pair.1.1.staleCode := by
          unfold recordDifference at hrec
          split_ifs at hrec
          exact (Option.some.inj hrec) ▸ rfl
        have hhead : (compareAuthority bound current required).code = d.code := by
          change ((compareAuthority bound current required).differences.head?.map
            AuthorityDifference.code).getD .accepted = d.code
          rw [hd]
          rfl
        exact absurd (hcode ▸ hhead ▸ h) pair.1.1.staleCode_ne_accepted
  · intro h
    change ((compareAuthority bound current required).differences.head?.map
      AuthorityDifference.code).getD .accepted = .accepted
    rw [h]
    rfl

theorem compareAuthority_accepted_iff {bound current : RouteAuthority} {required : AuthorityMask} :
    (compareAuthority bound current required).code = .accepted ↔
      ∀ pair ∈ bound.fields.zip current.fields,
        required.contains pair.1.1 = true → pair.1.2 = pair.2.2 := by
  rw [compareAuthority_code, List.eq_nil_iff_forall_not_mem]
  constructor
  · intro h pair hp hc
    by_contra hne
    refine h ⟨pair.1.1, pair.1.2, pair.2.2, pair.1.1.staleCode⟩ (mem_differences.mpr ⟨pair, hp, ?_⟩)
    simp [recordDifference, hc, hne]
  · intro h d hd
    obtain ⟨pair, hp, hrec⟩ := mem_differences.mp hd
    by_cases hc : required.contains pair.1.1 = true
    · simp [recordDifference, h pair hp hc] at hrec
    · simp [recordDifference, hc] at hrec

def authorityDigest (a : RouteAuthority) : Text :=
  hexDigest
    ([a.routerId.value, a.routerEpoch.value, a.coordinatorEpoch.value, a.requestId.value,
      a.requestGeneration.value, a.decisionId.value, a.decisionGeneration.value,
      a.modelId.value, a.modelGeneration.value, a.artifactGeneration.value,
      a.providerId.value, a.providerGeneration.value, a.backendId.value,
      a.backendGeneration.value, a.backendBoot.value, a.backendRegistrationGeneration.value,
      a.endpointId.value, a.endpointGeneration.value, a.capabilityProfileId.value,
      a.capabilityGeneration.value, a.policyId.value, a.policyGeneration.value,
      a.budgetId.value, a.budgetGeneration.value, a.costEvidenceId.value,
      a.priceGeneration.value, a.sloId.value, a.sloGeneration.value,
      a.compatibilityProfileId.value, a.compatibilityGeneration.value,
      a.trustProfileId.value, a.trustGeneration.value, a.healthGeneration.value,
      a.availabilityGeneration.value, a.readinessGeneration.value,
      a.residencyGeneration.value, a.capacityGeneration.value, a.reservationId.value,
      a.reservationGeneration.value, a.tenant.value, a.nameSpace.value,
      a.dispatchGeneration.value].flatMap fun value => decimal value.toNat ++ text ",")

inductive Currentness where
  | current | stale | revalidationRequired | reconstructed
deriving DecidableEq, Repr, Inhabited

end ModelRouter.Authority
