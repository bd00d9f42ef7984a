import ModelRouter.Bytes
import ModelRouter.Ids

namespace ModelRouter.Outcome

open Bytes Ids

inductive OutcomeCode where
  | accepted | noChange | routed | deferred | revalidationRequired | rerouteRequired
  | noEligibleCandidate
  | rejectStaleRouterEpoch | rejectStaleCoordinatorEpoch | rejectStaleRequest | rejectStaleModel
  | rejectStaleBackend | rejectStaleBackendBoot | rejectStaleEndpoint | rejectStaleCapability
  | rejectStalePolicy | rejectStaleBudget | rejectStalePrice | rejectStaleSlo | rejectStaleHealth
  | rejectStaleAvailability | rejectStaleReadiness | rejectStaleResidency | rejectStaleCapacity
  | rejectStaleCompatibility | rejectStaleTrust | rejectStaleReservation | rejectStaleArtifact
  | rejectCapability | rejectContextLimit | rejectModality | rejectStructuredOutput
  | rejectToolCalling | rejectStreaming | rejectQuality | rejectPolicy | rejectBudget | rejectCost
  | rejectCostUnknown | rejectSlo | rejectTrust | rejectLocality | rejectResidency
  | rejectCompatibility | rejectUnavailable | rejectNotReady | rejectUnhealthy | rejectDraining
  | rejectRetired | rejectCapacity | rejectReservation | rejectAffinity | rejectInvalid
  | rejectConflict | rejectUnknownEvidence | rejectLimit | rejectSpoofed
  | fenced | superseded | dispatched | completed | failed | cancelled | shuttingDown
  | internalError
deriving DecidableEq, Repr, Inhabited

namespace OutcomeCode

def name : OutcomeCode → Text
  | accepted => "ACCEPTED" | noChange => "NO_CHANGE" | routed => "ROUTED" | deferred => "DEFERRED"
  | revalidationRequired => "REVALIDATION_REQUIRED" | rerouteRequired => "REROUTE_REQUIRED"
  | noEligibleCandidate => "NO_ELIGIBLE_CANDIDATE"
  | rejectStaleRouterEpoch => "REJECT_STALE_ROUTER_EPOCH"
  | rejectStaleCoordinatorEpoch => "REJECT_STALE_COORDINATOR_EPOCH"
  | rejectStaleRequest => "REJECT_STALE_REQUEST" | rejectStaleModel => "REJECT_STALE_MODEL"
  | rejectStaleBackend => "REJECT_STALE_BACKEND"
  | rejectStaleBackendBoot => "REJECT_STALE_BACKEND_BOOT"
  | rejectStaleEndpoint => "REJECT_STALE_ENDPOINT"
  | rejectStaleCapability => "REJECT_STALE_CAPABILITY"
  | rejectStalePolicy => "REJECT_STALE_POLICY" | rejectStaleBudget => "REJECT_STALE_BUDGET"
  | rejectStalePrice => "REJECT_STALE_PRICE" | rejectStaleSlo => "REJECT_STALE_SLO"
  | rejectStaleHealth => "REJECT_STALE_HEALTH"
  | rejectStaleAvailability => "REJECT_STALE_AVAILABILITY"
  | rejectStaleReadiness => "REJECT_STALE_READINESS"
  | rejectStaleResidency => "REJECT_STALE_RESIDENCY"
  | rejectStaleCapacity => "REJECT_STALE_CAPACITY"
  | rejectStaleCompatibility => "REJECT_STALE_COMPATIBILITY"
  | rejectStaleTrust => "REJECT_STALE_TRUST"
  | rejectStaleReservation => "REJECT_STALE_RESERVATION"
  | rejectStaleArtifact => "REJECT_STALE_ARTIFACT" | rejectCapability => "REJECT_CAPABILITY"
  | rejectContextLimit => "REJECT_CONTEXT_LIMIT" | rejectModality => "REJECT_MODALITY"
  | rejectStructuredOutput => "REJECT_STRUCTURED_OUTPUT"
  | rejectToolCalling => "REJECT_TOOL_CALLING" | rejectStreaming => "REJECT_STREAMING"
  | rejectQuality => "REJECT_QUALITY" | rejectPolicy => "REJECT_POLICY"
  | rejectBudget => "REJECT_BUDGET" | rejectCost => "REJECT_COST"
  | rejectCostUnknown => "REJECT_COST_UNKNOWN" | rejectSlo => "REJECT_SLO"
  | rejectTrust => "REJECT_TRUST" | rejectLocality => "REJECT_LOCALITY"
  | rejectResidency => "REJECT_RESIDENCY" | rejectCompatibility => "REJECT_COMPATIBILITY"
  | rejectUnavailable => "REJECT_UNAVAILABLE" | rejectNotReady => "REJECT_NOT_READY"
  | rejectUnhealthy => "REJECT_UNHEALTHY" | rejectDraining => "REJECT_DRAINING"
  | rejectRetired => "REJECT_RETIRED" | rejectCapacity => "REJECT_CAPACITY"
  | rejectReservation => "REJECT_RESERVATION" | rejectAffinity => "REJECT_AFFINITY"
  | rejectInvalid => "REJECT_INVALID" | rejectConflict => "REJECT_CONFLICT"
  | rejectUnknownEvidence => "REJECT_UNKNOWN_EVIDENCE" | rejectLimit => "REJECT_LIMIT"
  | rejectSpoofed => "REJECT_SPOOFED" | fenced => "FENCED" | superseded => "SUPERSEDED"
  | dispatched => "DISPATCHED" | completed => "COMPLETED" | failed => "FAILED"
  | cancelled => "CANCELLED" | shuttingDown => "SHUTTING_DOWN"
  | internalError => "INTERNAL_ERROR"

def isAcceptance : OutcomeCode → Bool
  | accepted | noChange | routed | dispatched | completed => true
  | _ => false

end OutcomeCode

structure ExplanationFactor where
  key : Text
  value : Text
deriving DecidableEq, Repr

namespace ExplanationFactor

def u64 (key : Text) (value : UInt64) : ExplanationFactor :=
  ⟨key, decimal value.toNat⟩

def i64 (key : Text) (value : Int64) : ExplanationFactor :=
  ⟨key, signedDecimal value.toInt⟩

def bool (key : Text) (value : Bool) : ExplanationFactor :=
  ⟨key, if value then "true" else "false"⟩

end ExplanationFactor

structure Explanation where
  code : OutcomeCode := .internalError
  subject : Text := []
  message : Text := []
  factors : List ExplanationFactor := []
deriving DecidableEq, Repr, Inhabited

/-- What `ExplanationBuilder::build` returns: the factors in key-ascending order. -/
def buildExplanation (code : OutcomeCode) (subject message : Text)
    (factors : List ExplanationFactor) : Explanation where
  code := code
  subject := subject
  message := message
  factors := stableSort (fun lhs rhs => (lhs.key < rhs.key)) factors

structure MutationResult where
  code : OutcomeCode := .internalError
  explanation : Explanation := {}
deriving DecidableEq, Repr, Inhabited

def MutationResult.accepted (r : MutationResult) : Bool :=
  r.code.isAcceptance

def MutationResult.make (code : OutcomeCode) (subject message : Text) : MutationResult where
  code := code
  explanation := buildExplanation code subject message []

def MutationResult.accept (subject message : Text) (factors : List ExplanationFactor) :
    MutationResult where
  code := .accepted
  explanation := buildExplanation .accepted subject message factors

@[simp] theorem MutationResult.accept_code (subject message : Text)
    (factors : List ExplanationFactor) :
    (MutationResult.accept subject message factors).code = .accepted := rfl

@[simp] theorem MutationResult.make_code (code : OutcomeCode) (subject message : Text) :
    (MutationResult.make code subject message).code = code := rfl

/-- One rejected candidate with its typed hard-rejection reason. -/
structure RouteRejection where
  modelId : UInt64 := 0
  modelGeneration : ModelGeneration := {}
  backendId : UInt64 := 0
  backendGeneration : BackendGeneration := {}
  backendBoot : BackendBootId := {}
  endpointId : UInt64 := 0
  code : OutcomeCode := .internalError
  detail : Text := []
deriving DecidableEq, Repr

def RouteRejection.canonicalLess (a b : RouteRejection) : Bool :=
  if a.modelId ≠ b.modelId then a.modelId < b.modelId
  else if a.modelGeneration ≠ b.modelGeneration then a.modelGeneration < b.modelGeneration
  else if a.backendId ≠ b.backendId then a.backendId < b.backendId
  else if a.backendBoot ≠ b.backendBoot then a.backendBoot < b.backendBoot
  else if a.backendGeneration ≠ b.backendGeneration then a.backendGeneration < b.backendGeneration
  else if a.endpointId ≠ b.endpointId then a.endpointId < b.endpointId
  else if a.code ≠ b.code then a.code.ctorIdx < b.code.ctorIdx
  else a.detail < b.detail

end ModelRouter.Outcome
