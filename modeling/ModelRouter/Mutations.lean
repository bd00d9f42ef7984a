import ModelRouter.EvidenceMutation

namespace ModelRouter.Mutations

open Ids Outcome Capability Evidence Catalog State CatalogMutation EvidenceMutation

/-- A public operation that is one pass through the lock over the catalog or the evidence;
`updateCapacity` stands for the first of its two passes. -/
inductive Mutation where
  | registerModel (model : ModelDescriptor)
  | registerProvider (provider : ProviderDescriptor)
  | registerBackend (backend : BackendDescriptor)
  | unregisterBackend (backendId : BackendId) (generation : BackendGeneration)
  | fenceBackendBoot (backendId : BackendId) (generation : BackendGeneration)
      (backendBoot : BackendBootId) (reason : OutcomeCode)
  | publishCapabilities (publication : BackendCapabilityPublication)
  | retireModel (modelId : ModelId) (generation : ModelGeneration)
  | updateHealth (evidence : HealthEvidence)
  | updateAvailability (evidence : AvailabilityEvidence)
  | updateReadiness (evidence : ReadinessEvidence)
  | updateResidency (evidence : ResidencyEvidence)
  | updateCapacity (evidence : CapacityEvidence) (detail : CapacityDetail)
  | updateLatency (evidence : LatencyEvidence)
  | setPolicy (policy : PolicySnapshot)
  | setBudget (budget : BudgetSnapshot)
  | setSlo (slo : SloEvidence)
  | setCompatibility (evidence : CompatibilityEvidence)
  | setTrust (evidence : TrustEvidence)
  | setCost (evidence : CostEvidence)
deriving DecidableEq

namespace Mutation

def attempt (now : UnixMillis) (s : CanonicalState) : Mutation → Attempt
  | registerModel model => CatalogMutation.registerModel s model
  | registerProvider provider => CatalogMutation.registerProvider s provider
  | registerBackend backend => CatalogMutation.registerBackend s backend
  | unregisterBackend backendId generation =>
    CatalogMutation.unregisterBackend s backendId generation now
  | fenceBackendBoot backendId generation backendBoot reason =>
    CatalogMutation.fenceBackendBoot s backendId generation backendBoot reason now
  | publishCapabilities publication => CatalogMutation.publishCapabilities s publication
  | retireModel modelId generation => CatalogMutation.retireModel s modelId generation
  | updateHealth evidence => EvidenceMutation.updateHealth s evidence
  | updateAvailability evidence => EvidenceMutation.updateAvailability s evidence
  | updateReadiness evidence => EvidenceMutation.updateReadiness s evidence
  | updateResidency evidence => EvidenceMutation.updateResidency s evidence
  | updateCapacity evidence detail => EvidenceMutation.updateCapacity s evidence detail
  | updateLatency evidence => EvidenceMutation.updateLatency s evidence
  | setPolicy policy => EvidenceMutation.setPolicy s policy
  | setBudget budget => EvidenceMutation.setBudget s budget
  | setSlo slo => EvidenceMutation.setSlo s slo
  | setCompatibility evidence => EvidenceMutation.setCompatibility s evidence
  | setTrust evidence => EvidenceMutation.setTrust s evidence
  | setCost evidence => EvidenceMutation.setCost s evidence

def run (m : Mutation) (now : UnixMillis) (s : CanonicalState) : CanonicalState × MutationResult :=
  (m.attempt now s).settle now s

def next (m : Mutation) (now : UnixMillis) (s : CanonicalState) : CanonicalState :=
  (m.run now s).1

def result (m : Mutation) (now : UnixMillis) (s : CanonicalState) : MutationResult :=
  (m.run now s).2

end Mutation

end ModelRouter.Mutations
