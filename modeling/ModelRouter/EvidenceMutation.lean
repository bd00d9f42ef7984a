import ModelRouter.CatalogMutation

namespace ModelRouter.EvidenceMutation

open Base Base.Refusal Bytes Ids Outcome Capability Evidence Catalog State CatalogMutation

/-- Where a descriptor keeps one kind of dynamic evidence, and the code of its regressions. -/
structure EvidenceSlot (σ : Type) (t : Tag) where
  subject : Text
  staleCode : OutcomeCode
  get : BackendDescriptor → BackendEvidence σ t
  set : BackendDescriptor → BackendEvidence σ t → BackendDescriptor
  get_set : ∀ b e, get (set b e) = e

def healthSlot : EvidenceSlot HealthState .health where
  subject := "update_health"
  staleCode := .rejectStaleHealth
  get := BackendDescriptor.health
  set b e := { b with health := e }
  get_set _ _ := rfl

def availabilitySlot : EvidenceSlot AvailabilityState .availability where
  subject := "update_availability"
  staleCode := .rejectStaleAvailability
  get := BackendDescriptor.availability
  set b e := { b with availability := e }
  get_set _ _ := rfl

def readinessSlot : EvidenceSlot ReadinessState .readiness where
  subject := "update_readiness"
  staleCode := .rejectStaleReadiness
  get := BackendDescriptor.readiness
  set b e := { b with readiness := e }
  get_set _ _ := rfl

def residencySlot : EvidenceSlot ResidencyState .residency where
  subject := "update_residency"
  staleCode := .rejectStaleResidency
  get := BackendDescriptor.residency
  set b e := { b with residency := e }
  get_set _ _ := rfl

def capacitySlot : EvidenceSlot CapacityState .capacity where
  subject := "update_capacity"
  staleCode := .rejectStaleCapacity
  get := BackendDescriptor.capacity
  set b e := { b with capacity := e }
  get_set _ _ := rfl

section

variable {σ : Type} {t : Tag} [DecidableEq σ]

def evidenceRefusal (slot : EvidenceSlot σ t) (evidence : BackendEvidence σ t)
    (backend : BackendDescriptor) : Option MutationResult :=
  let current := slot.get backend
  refuse (backend.backendBoot != evidence.backendBoot)
    (.make .rejectStaleBackendBoot slot.subject
      "evidence belongs to a different backend incarnation") <|>
  refuse (evidence.backendGeneration.valid &&
      evidence.backendGeneration != backend.backendGeneration)
    (.make .rejectStaleBackend slot.subject "evidence backend generation is not current") <|>
  refuse (generationRegressed evidence.generation current.generation)
    (.make slot.staleCode slot.subject "evidence generation regressed") <|>
  refuse (current.generation.valid && evidence.generation == current.generation &&
      current.state == evidence.state &&
      current.expiresAtUnixMillis == evidence.expiresAtUnixMillis)
    (.make .noChange slot.subject "evidence generation is already current") <|>
  refuse (current.generation.valid && evidence.generation == current.generation)
    (.make .rejectConflict slot.subject
      "evidence state changed without advancing its generation")

def applyEvidence (slot : EvidenceSlot σ t) (s : CanonicalState)
    (evidence : BackendEvidence σ t) : Attempt where
  refusal :=
    refuse (!evidence.backendId.valid || !evidence.backendBoot.valid)
      (.make .rejectInvalid slot.subject
        "evidence has no valid backend identity or incarnation") <|>
    refuse (!evidence.generation.valid)
      (.make .rejectInvalid slot.subject "evidence has no valid generation") <|>
    shuttingDownRefusal s slot.subject <|>
    refuse (s.isFenced evidence.backendId evidence.backendBoot)
      (.make .rejectStaleBackendBoot slot.subject
        "evidence belongs to a fenced backend incarnation") <|>
    match s.backends.find? evidence.backendId with
    | none => some (.make .rejectStaleBackend slot.subject "backend is not registered")
    | some backend => evidenceRefusal slot evidence backend
  edited := editBackend s evidence.backendId fun backend => slot.set backend evidence
  answer :=
    .accept slot.subject []
      [.u64 "backend_id" (((s.backends.find? evidence.backendId).map
          BackendDescriptor.backendId).getD {}).value,
        .u64 "backend_boot" evidence.backendBoot.value,
        .u64 "generation" evidence.generation.value]

end

def updateHealth := applyEvidence healthSlot
def updateAvailability := applyEvidence availabilitySlot
def updateReadiness := applyEvidence readinessSlot
def updateResidency := applyEvidence residencySlot

def updateCapacity (s : CanonicalState) (evidence : CapacityEvidence) (detail : CapacityDetail) :
    Attempt :=
  let first := applyEvidence capacitySlot s evidence
  { first with
    refusal :=
      refuse (detail.backendId.valid && detail.backendId != evidence.backendId)
        (reject .rejectConflict "update_capacity"
          "capacity detail belongs to a different backend") <|>
      refuse (detail.backendBoot.valid && detail.backendBoot != evidence.backendBoot)
        (reject .rejectConflict "update_capacity"
          "capacity detail belongs to a different backend incarnation") <|>
      first.refusal }

/-- The second section of `update_capacity`, reached with every accepted first one. -/
def writeCapacityDetail (s : CanonicalState) (detail : CapacityDetail) : CanonicalState :=
  editBackend s detail.backendId fun existing =>
    { existing with capacityDetail := { detail with generation := existing.capacity.generation } }

def updateLatency (s : CanonicalState) (evidence : LatencyEvidence) : Attempt where
  refusal :=
    refuse (!evidence.backendId.valid || !evidence.backendBoot.valid)
      (reject .rejectInvalid "update_latency"
        "latency evidence has no valid backend identity or incarnation") <|>
    shuttingDownRefusal s "update_latency" <|>
    refuse (s.isFenced evidence.backendId evidence.backendBoot)
      (reject .rejectStaleBackendBoot "update_latency"
        "latency evidence belongs to a fenced backend incarnation") <|>
    match s.backends.find? evidence.backendId with
    | none => some (reject .rejectStaleBackend "update_latency" "backend is not registered")
    | some backend =>
      refuse (backend.backendBoot != evidence.backendBoot)
        (reject .rejectStaleBackendBoot "update_latency"
          "latency evidence belongs to a different backend incarnation") <|>
      refuse (generationRegressed evidence.healthGeneration backend.latency.healthGeneration)
        (reject .rejectStaleHealth "update_latency" "latency evidence generation regressed")
  edited := editBackend s evidence.backendId fun backend => { backend with latency := evidence }
  answer :=
    .accept "update_latency" []
      [.u64 "backend_id" (((s.backends.find? evidence.backendId).map
          BackendDescriptor.backendId).getD {}).value,
        .u64 "backend_boot" evidence.backendBoot.value]

def setPolicy (s : CanonicalState) (raw : PolicySnapshot) : Attempt :=
  let policy := raw.canonicalize
  { refusal :=
      policy.validate.map (reject .rejectInvalid "set_policy") <|>
      shuttingDownRefusal s "set_policy" <|>
      refuse (generationRegressed policy.generation s.policy.generation)
        (reject .rejectStalePolicy "set_policy" "policy generation regressed") <|>
      refuse (s.policy.generation.valid && policy.generation == s.policy.generation &&
          s.policy.policyId != policy.policyId)
        (reject .rejectConflict "set_policy"
          "policy identity changed without advancing the policy generation")
    edited := { s with policy := policy }
    answer :=
      .accept "set_policy" []
        [.u64 "policy_id" policy.policyId.value,
          .u64 "policy_generation" policy.generation.value] }

def setBudget (s : CanonicalState) (budget : BudgetSnapshot) : Attempt where
  refusal :=
    refuse (!budget.generation.valid)
      (reject .rejectInvalid "set_budget" "budget generation is invalid") <|>
    shuttingDownRefusal s "set_budget" <|>
    refuse (generationRegressed budget.generation s.budget.generation)
      (reject .rejectStaleBudget "set_budget" "budget generation regressed")
  edited := { s with budget := budget }
  answer :=
    .accept "set_budget" []
      [.u64 "budget_id" budget.budgetId.value, .u64 "budget_generation" budget.generation.value,
        ⟨"verdict", budget.verdict.name⟩]

def setSlo (s : CanonicalState) (slo : SloEvidence) : Attempt where
  refusal :=
    refuse (!slo.generation.valid)
      (reject .rejectInvalid "set_slo" "SLO generation is invalid") <|>
    shuttingDownRefusal s "set_slo" <|>
    refuse (generationRegressed slo.generation s.slo.generation)
      (reject .rejectStaleSlo "set_slo" "SLO generation regressed")
  edited := { s with slo := slo }
  answer :=
    .accept "set_slo" []
      [.u64 "slo_id" slo.sloId.value, .u64 "slo_generation" slo.generation.value,
        ⟨"verdict", slo.verdict.name⟩]

def setCompatibility (s : CanonicalState) (evidence : CompatibilityEvidence) : Attempt where
  refusal :=
    refuse (!evidence.backendId.valid || !evidence.generation.valid)
      (reject .rejectInvalid "set_compatibility"
        "compatibility evidence has no valid backend identity or generation") <|>
    shuttingDownRefusal s "set_compatibility" <|>
    refuse ((s.compatibility.find? evidence.backendId).any fun existing =>
        generationRegressed evidence.generation existing.generation)
      (reject .rejectStaleCompatibility "set_compatibility" "compatibility generation regressed")
  edited := { s with compatibility := s.compatibility.insert evidence.backendId evidence }
  answer := .accept "set_compatibility" [] []

def rebindTrust (s : CanonicalState) (evidence : TrustEvidence) : CanonicalState :=
  match s.backends.find? evidence.backendId with
  | none => s
  | some backend =>
    let bound :=
      { backend with
        trustProfileId := evidence.profileId
        trustGeneration := evidence.generation
        trustDomain := evidence.domain }
    { s.indexRemoveBackend backend with
      backends := s.backends.insert evidence.backendId bound }.indexAddBackend bound

def setTrust (s : CanonicalState) (evidence : TrustEvidence) : Attempt where
  refusal :=
    refuse (!evidence.profileId.valid || !evidence.generation.valid || !evidence.backendId.valid)
      (reject .rejectInvalid "set_trust"
        "trust evidence has no valid profile identity, generation, or backend identity") <|>
    shuttingDownRefusal s "set_trust" <|>
    refuse ((s.trust.find? evidence.backendId).any fun existing =>
        generationRegressed evidence.generation existing.generation)
      (reject .rejectStaleTrust "set_trust" "trust generation regressed") <|>
    refuse ((s.trust.find? evidence.backendId).any fun existing =>
        evidence.generation == existing.generation && existing.domain == evidence.domain)
      (.make .noChange "set_trust" "trust generation is already current")
  edited := rebindTrust { s with trust := s.trust.insert evidence.backendId evidence } evidence
  answer :=
    .accept "set_trust" []
      [.u64 "backend_id" evidence.backendId.value,
        .u64 "trust_profile_id" evidence.profileId.value,
        .u64 "trust_generation" evidence.generation.value, ⟨"domain", evidence.domain.name⟩]

def costRefusal (evidence : CostEvidence) (binding : ModelBinding) : Option MutationResult :=
  refuse (generationRegressed evidence.priceGeneration binding.cost.priceGeneration)
    (reject .rejectStalePrice "set_cost" "price generation regressed") <|>
  refuse (binding.cost.priceGeneration.valid &&
      evidence.priceGeneration == binding.cost.priceGeneration &&
      binding.cost.knownness == evidence.knownness &&
      binding.cost.estimatedTotalMicros == evidence.estimatedTotalMicros &&
      binding.cost.unit == evidence.unit)
    (.make .noChange "set_cost" "price generation is already current")

def setCost (s : CanonicalState) (evidence : CostEvidence) : Attempt where
  refusal :=
    refuse (!evidence.priceGeneration.valid || !evidence.backendId.valid ||
        !evidence.modelId.valid)
      (reject .rejectInvalid "set_cost"
        "cost evidence has no valid price generation, backend identity, or model identity") <|>
    refuse (evidence.knownness != .unknown && !evidence.unit.valid)
      (reject .rejectInvalid "set_cost" "known cost evidence has no cost unit identity") <|>
    refuse (evidence.estimatedTotalMicros < 0)
      (reject .rejectInvalid "set_cost" "cost evidence has a negative estimated total") <|>
    shuttingDownRefusal s "set_cost" <|>
    match s.backends.find? evidence.backendId with
    | none => some (reject .rejectStaleBackend "set_cost" "backend is not registered")
    | some backend =>
      match backend.findBinding evidence.modelId with
      | none =>
        some (reject .rejectStaleModel "set_cost"
          "backend does not bind the model the cost evidence refers to")
      | some binding => costRefusal evidence binding
  edited :=
    { editBackend s evidence.backendId (·.setBindingCost evidence.modelId evidence) with
      costs := s.costs.insert (toLex (evidence.backendId, evidence.modelId)) evidence }
  answer :=
    .accept "set_cost" []
      [.u64 "backend_id" evidence.backendId.value, .u64 "model_id" evidence.modelId.value,
        .u64 "price_generation" evidence.priceGeneration.value,
        ⟨"knownness", evidence.knownness.name⟩, ⟨"currency", evidence.unit.currency⟩,
        ⟨"basis", evidence.unit.basis⟩,
        .i64 "estimated_total_micros" evidence.estimatedTotalMicros]

end ModelRouter.EvidenceMutation
