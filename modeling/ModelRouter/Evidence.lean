import ModelRouter.Capability
import ModelRouter.Outcome

namespace ModelRouter.Evidence

open Base.Refusal Bytes Ids Outcome Capability

inductive TrustDomain where
  | unknown | publicRemote | trustedRemote | privateNetwork | local
deriving DecidableEq, Repr, Inhabited

namespace TrustDomain

def name : TrustDomain → Text
  | unknown => "UNKNOWN" | publicRemote => "PUBLIC_REMOTE" | trustedRemote => "TRUSTED_REMOTE"
  | privateNetwork => "PRIVATE_NETWORK" | «local» => "LOCAL"

def trustRank : TrustDomain → Nat
  | unknown => 0 | publicRemote => 1 | trustedRemote => 2 | privateNetwork => 3 | «local» => 4

end TrustDomain

structure TrustEvidence where
  profileId : TrustProfileId := {}
  generation : TrustGeneration := {}
  backendId : BackendId := {}
  domain : TrustDomain := .unknown
  observedAtUnixMillis : UnixMillis := 0
  expiresAtUnixMillis : UnixMillis := kNoExpiry
  source : Text := []
deriving DecidableEq, Repr

def TrustEvidence.current (e : TrustEvidence) (now : UnixMillis) : Bool :=
  e.generation.valid && e.domain != .unknown && !expiredAt now e.expiresAtUnixMillis

abbrev LocalityKey := Text

def kMaxLocalityKeyBytes : Nat := 128

def isLocalityCharacter (ch : UInt8) : Bool :=
  (byteOf 'a' ≤ ch && ch ≤ byteOf 'z') || (byteOf 'A' ≤ ch && ch ≤ byteOf 'Z') ||
    (byteOf '0' ≤ ch && ch ≤ byteOf '9') || ch == byteOf '.' || ch == byteOf '-' ||
    ch == byteOf '_' || ch == byteOf '/'

def LocalityKey.validate (value : Text) : Option Text :=
  violation value.isEmpty "locality key is empty" <|>
  violation ((value.length > kMaxLocalityKeyBytes)) "locality key exceeds 128 bytes" <|>
  violation (value.head? == some (byteOf '/') || value.getLast? == some (byteOf '/'))
    "locality key has a leading or trailing separator" <|>
  scanSegments isLocalityCharacter "locality key contains an invalid character"
    "locality key contains an empty segment" false value

def canonicalLocalityByte (raw : UInt8) : UInt8 :=
  let ch := if byteOf 'A' ≤ raw && raw ≤ byteOf 'Z' then raw - byteOf 'A' + byteOf 'a' else raw
  if ch == byteOf '_' then byteOf '-' else ch

def collapseSeparators (state : Text × Bool) (ch : UInt8) : Text × Bool :=
  if ch == byteOf '/' then
    if state.1.isEmpty || state.2 then state else (state.1 ++ [ch], true)
  else (state.1 ++ [ch], false)

def LocalityKey.canonicalize (value : Text) : Text :=
  let out := value.map canonicalLocalityByte
  let collapsed := (out.foldl collapseSeparators ([], false)).1
  let collapsed := (collapsed.reverse.dropWhile fun ch => ch == byteOf '/').reverse
  if (LocalityKey.validate collapsed).isSome then [] else collapsed

inductive HealthState where
  | unknown | healthy | degraded | unhealthy | draining | retired
deriving DecidableEq, Repr, Inhabited

inductive AvailabilityState where
  | unknown | available | unavailable
deriving DecidableEq, Repr, Inhabited

inductive ReadinessState where
  | unknown | ready | warming | notReady
deriving DecidableEq, Repr, Inhabited

inductive ResidencyState where
  | unknown | resident | loading | notResident | evicting
deriving DecidableEq, Repr, Inhabited

inductive CapacityState where
  | unknown | available | saturated
deriving DecidableEq, Repr, Inhabited

def HealthState.name : HealthState → Text
  | .unknown => "UNKNOWN" | .healthy => "HEALTHY" | .degraded => "DEGRADED"
  | .unhealthy => "UNHEALTHY" | .draining => "DRAINING" | .retired => "RETIRED"

def AvailabilityState.name : AvailabilityState → Text
  | .unknown => "UNKNOWN" | .available => "AVAILABLE" | .unavailable => "UNAVAILABLE"

def ReadinessState.name : ReadinessState → Text
  | .unknown => "UNKNOWN" | .ready => "READY" | .warming => "WARMING" | .notReady => "NOT_READY"

def ResidencyState.name : ResidencyState → Text
  | .unknown => "UNKNOWN" | .resident => "RESIDENT" | .loading => "LOADING"
  | .notResident => "NOT_RESIDENT" | .evicting => "EVICTING"

def CapacityState.name : CapacityState → Text
  | .unknown => "UNKNOWN" | .available => "AVAILABLE" | .saturated => "SATURATED"

/-- A generation-bound observation about one backend incarnation. -/
structure BackendEvidence (σ : Type) (t : Tag) where
  state : σ
  generation : Generation t := {}
  backendId : BackendId := {}
  backendGeneration : BackendGeneration := {}
  backendBoot : BackendBootId := {}
  endpointGeneration : EndpointGeneration := {}
  observedAtUnixMillis : UnixMillis := 0
  expiresAtUnixMillis : UnixMillis := kNoExpiry
  source : Text := []
  detail : Text := []
deriving DecidableEq, Repr

section

variable {σ : Type} {t : Tag}

def BackendEvidence.expired (e : BackendEvidence σ t) (now : UnixMillis) : Bool :=
  expiredAt now e.expiresAtUnixMillis

def BackendEvidence.current (e : BackendEvidence σ t) (now : UnixMillis) : Bool :=
  e.generation.valid && e.backendBoot.valid && !e.expired now

end

abbrev HealthEvidence := BackendEvidence HealthState .health
abbrev AvailabilityEvidence := BackendEvidence AvailabilityState .availability
abbrev ReadinessEvidence := BackendEvidence ReadinessState .readiness
abbrev ResidencyEvidence := BackendEvidence ResidencyState .residency
abbrev CapacityEvidence := BackendEvidence CapacityState .capacity

def kUnknownCount : UInt32 := 0xFFFFFFFF

structure CapacityDetail where
  generation : CapacityGeneration := {}
  backendId : BackendId := {}
  backendBoot : BackendBootId := {}
  availableSlots : UInt32 := kUnknownCount
  totalSlots : UInt32 := kUnknownCount
  queueDepth : UInt32 := kUnknownCount
  maxQueueDepth : UInt32 := kUnknownCount
  observedAtUnixMillis : UnixMillis := 0
  expiresAtUnixMillis : UnixMillis := kNoExpiry
deriving DecidableEq, Repr

def CapacityDetail.known (d : CapacityDetail) : Bool :=
  d.availableSlots != kUnknownCount

structure ReservationEvidence where
  reservationId : ReservationId := {}
  generation : ReservationGeneration := {}
  backendId : BackendId := {}
  backendBoot : BackendBootId := {}
  requestId : RouteRequestId := {}
  expiresAtUnixMillis : UnixMillis := kNoExpiry
deriving DecidableEq, Repr

def ReservationEvidence.current (e : ReservationEvidence) (now : UnixMillis) : Bool :=
  e.reservationId.valid && e.generation.valid && e.backendBoot.valid &&
    !expiredAt now e.expiresAtUnixMillis

def kUnknownLatencyMicros : UInt32 := 0xFFFFFFFF

structure LatencyEvidence where
  healthGeneration : HealthGeneration := {}
  backendId : BackendId := {}
  backendBoot : BackendBootId := {}
  dispatchMicros : UInt32 := kUnknownLatencyMicros
  timeToFirstTokenMicros : UInt32 := kUnknownLatencyMicros
  completedMicros : UInt32 := kUnknownLatencyMicros
  tailMicros : UInt32 := kUnknownLatencyMicros
  queueMicros : UInt32 := kUnknownLatencyMicros
  warmStartPenaltyMicros : UInt32 := kUnknownLatencyMicros
  coldStartPenaltyMicros : UInt32 := kUnknownLatencyMicros
  sampleCount : UInt32 := 0
  observedAtUnixMillis : UnixMillis := 0
  expiresAtUnixMillis : UnixMillis := kNoExpiry
  source : Text := []
deriving DecidableEq, Repr

def LatencyEvidence.hasObservation (e : LatencyEvidence) : Bool :=
  (e.sampleCount > 0)

def LatencyEvidence.expired (e : LatencyEvidence) (now : UnixMillis) : Bool :=
  expiredAt now e.expiresAtUnixMillis

structure CostUnit where
  currency : Text := []
  basis : Text := []
deriving DecidableEq, Repr

def CostUnit.valid (u : CostUnit) : Bool :=
  !u.currency.isEmpty && !u.basis.isEmpty

def CostUnit.compatibleWith (u other : CostUnit) : Bool :=
  u.valid && other.valid && u.currency == other.currency && u.basis == other.basis

structure Money where
  micros : Int64 := 0
  unit : CostUnit := {}
deriving DecidableEq, Repr

inductive CostKnownness where
  | unknown | estimated | quoted | contracted
deriving DecidableEq, Repr, Inhabited

def CostKnownness.name : CostKnownness → Text
  | .unknown => "UNKNOWN" | .estimated => "ESTIMATED" | .quoted => "QUOTED"
  | .contracted => "CONTRACTED"

structure CostEvidence where
  evidenceId : CostEvidenceId := {}
  priceGeneration : PriceGeneration := {}
  backendId : BackendId := {}
  modelId : ModelId := {}
  unit : CostUnit := {}
  inputMicrosPerUnit : Int64 := 0
  outputMicrosPerUnit : Int64 := 0
  requestMinimumMicros : Int64 := 0
  cacheReadMicrosPerUnit : Int64 := 0
  cacheWriteMicrosPerUnit : Int64 := 0
  estimatedTotalMicros : Int64 := 0
  knownness : CostKnownness := .unknown
  effectiveAtUnixMillis : UnixMillis := 0
  expiresAtUnixMillis : UnixMillis := kNoExpiry
  source : Text := []
deriving DecidableEq, Repr

def CostEvidence.known (e : CostEvidence) : Bool :=
  e.knownness != .unknown

def CostEvidence.current (e : CostEvidence) (now : UnixMillis) : Bool :=
  e.known && e.priceGeneration.valid && e.unit.valid && !expiredAt now e.expiresAtUnixMillis

inductive BudgetVerdict where
  | unknown | allowed | denied
deriving DecidableEq, Repr, Inhabited

def BudgetVerdict.name : BudgetVerdict → Text
  | .unknown => "UNKNOWN" | .allowed => "ALLOWED" | .denied => "DENIED"

structure BudgetSnapshot where
  budgetId : BudgetId := {}
  generation : BudgetGeneration := {}
  verdict : BudgetVerdict := .unknown
  unit : CostUnit := {}
  limitMicros : Int64 := 0
  consumedMicros : Int64 := 0
  remainingMicros : Int64 := 0
  observedAtUnixMillis : UnixMillis := 0
  expiresAtUnixMillis : UnixMillis := kNoExpiry
deriving DecidableEq, Repr

def BudgetSnapshot.expired (b : BudgetSnapshot) (now : UnixMillis) : Bool :=
  expiredAt now b.expiresAtUnixMillis

def BudgetSnapshot.current (b : BudgetSnapshot) (now : UnixMillis) : Bool :=
  b.generation.valid && b.verdict != .unknown && !b.expired now

inductive SloVerdict where
  | unknown | feasible | infeasible
deriving DecidableEq, Repr, Inhabited

def SloVerdict.name : SloVerdict → Text
  | .unknown => "UNKNOWN" | .feasible => "FEASIBLE" | .infeasible => "INFEASIBLE"

def kUnspecified : UInt32 := 0xFFFFFFFF

structure SloEvidence where
  sloId : SLOId := {}
  generation : SLOGeneration := {}
  verdict : SloVerdict := .unknown
  latencyTargetMicros : UInt32 := kUnspecified
  tailLatencyTargetMicros : UInt32 := kUnspecified
  deadlineMicros : UInt32 := kUnspecified
  availabilityClass : UInt32 := 0
  throughputClass : UInt32 := 0
  qualityFloor : UInt32 := 0
  observedAtUnixMillis : UnixMillis := 0
  expiresAtUnixMillis : UnixMillis := kNoExpiry
  source : Text := []
deriving DecidableEq, Repr

def SloEvidence.expired (e : SloEvidence) (now : UnixMillis) : Bool :=
  expiredAt now e.expiresAtUnixMillis

def SloEvidence.current (e : SloEvidence) (now : UnixMillis) : Bool :=
  e.generation.valid && e.verdict != .unknown && !e.expired now

inductive CompatibilityVerdict where
  | unknown | compatible | incompatible
deriving DecidableEq, Repr, Inhabited

structure CompatibilityEvidence where
  profileId : CompatibilityProfileId := {}
  generation : CompatibilityGeneration := {}
  backendId : BackendId := {}
  verdict : CompatibilityVerdict := .unknown
  protocol : Text := []
  protocolVersion : UInt32 := 0
  structuredOutput : Bool := false
  toolCalling : Bool := false
  streaming : Bool := false
  maxContextTokens : UInt32 := 0
  observedAtUnixMillis : UnixMillis := 0
  expiresAtUnixMillis : UnixMillis := kNoExpiry
  source : Text := []
deriving DecidableEq, Repr

def CompatibilityEvidence.current (e : CompatibilityEvidence) (now : UnixMillis) : Bool :=
  e.generation.valid && e.verdict == .compatible && !expiredAt now e.expiresAtUnixMillis

abbrev QualityClass := UInt32

def kUnclassifiedQuality : QualityClass := 0

inductive FallbackPolicy where
  | forbidden | explicitOnly | permitted
deriving DecidableEq, Repr, Inhabited

def FallbackPolicy.name : FallbackPolicy → Text
  | .forbidden => "FORBIDDEN" | .explicitOnly => "EXPLICIT_ONLY" | .permitted => "PERMITTED"

structure PolicySnapshot where
  policyId : PolicyId := {}
  generation : PolicyGeneration := {}
  allowedModels : List ModelId := []
  deniedModels : List ModelId := []
  allowedProviders : List ProviderId := []
  deniedProviders : List ProviderId := []
  allowedBackends : List BackendId := []
  deniedBackends : List BackendId := []
  preferredModelFamilies : List ModelFamilyId := []
  deniedModelFamilies : List ModelFamilyId := []
  allowedLocalities : List LocalityKey := []
  deniedLocalities : List LocalityKey := []
  boundTenants : List TenantId := []
  minimumTrust : TrustDomain := .unknown
  minimumCapabilityEvidence : CapabilityState := .unknown
  qualityFloor : QualityClass := kUnclassifiedQuality
  maximumRequestCost : Money := {}
  maximumLatencyMicros : UInt32 := kUnspecified
  localOnly : Bool := false
  denyPublicRemote : Bool := false
  allowUnlistedModels : Bool := true
  allowUnlistedProviders : Bool := true
  allowUnlistedBackends : Bool := true
  fallbackPolicy : FallbackPolicy := .explicitOnly
  fallbackPermittedOutcomes : List OutcomeCode := []
  maxFallbackDepth : UInt32 := 1
  maxProviderConcentrationPpm : UInt32 := 0
  observedAtUnixMillis : UnixMillis := 0
  expiresAtUnixMillis : UnixMillis := kNoExpiry
deriving DecidableEq, Repr

variable {t : Tag}

def sortIds (ids : List (EntityId t)) : List (EntityId t) :=
  unique (· == ·) (stableSort (fun a b => (a < b)) ids)

def sortLocalities (keys : List LocalityKey) : List LocalityKey :=
  unique (· == ·) (stableSort (fun a b => (a < b)) keys)

namespace PolicySnapshot

def current (p : PolicySnapshot) (now : UnixMillis) : Bool :=
  p.generation.valid && !expiredAt now p.expiresAtUnixMillis

def canonicalize (p : PolicySnapshot) : PolicySnapshot :=
  { p with
    allowedModels := sortIds p.allowedModels
    deniedModels := sortIds p.deniedModels
    allowedProviders := sortIds p.allowedProviders
    deniedProviders := sortIds p.deniedProviders
    allowedBackends := sortIds p.allowedBackends
    deniedBackends := sortIds p.deniedBackends
    preferredModelFamilies := sortIds p.preferredModelFamilies
    deniedModelFamilies := sortIds p.deniedModelFamilies
    boundTenants := sortIds p.boundTenants
    allowedLocalities := sortLocalities p.allowedLocalities
    deniedLocalities := sortLocalities p.deniedLocalities
    fallbackPermittedOutcomes :=
      unique (· == ·)
        (stableSort (fun a b => (a.ctorIdx < b.ctorIdx)) p.fallbackPermittedOutcomes) }

/-- `none` when the policy is coherent, otherwise the reason. -/
def validate (p : PolicySnapshot) : Option Text :=
  violation (!p.generation.valid) "policy generation is not valid" <|>
  violation (p.minimumTrust != .unknown && p.minimumTrust.trustRank == 0)
    "policy minimum trust domain is not a known domain" <|>
  violation ((p.maximumRequestCost.micros < 0))
    "policy maximum request cost is negative" <|>
  violation ((p.maximumRequestCost.micros > 0) && !p.maximumRequestCost.unit.valid)
    "policy maximum request cost has no unit identity" <|>
  violation (p.allowedModels.any (!·.valid))
    "policy allowlist contains the invalid model identity" <|>
  violation (p.deniedModels.any (!·.valid))
    "policy denylist contains the invalid model identity" <|>
  violation ((p.maxProviderConcentrationPpm > 10000))
    "policy max provider concentration exceeds 10000 parts per 10000" <|>
  violation (p.fallbackPolicy == .forbidden && p.maxFallbackDepth != 0)
    "policy forbids fallback but permits a nonzero fallback depth"

@[simp] theorem canonicalize_policyId (p : PolicySnapshot) : p.canonicalize.policyId = p.policyId := rfl

@[simp] theorem canonicalize_generation (p : PolicySnapshot) :
    p.canonicalize.generation = p.generation := rfl

end PolicySnapshot

end ModelRouter.Evidence
