import ModelRouter.Decision
import ModelRouter.Frames

namespace ModelRouter.Messages

open Base Bytes Ids Outcome Capability Evidence Catalog Candidate Request Decision Frames

structure HelloMessage where
  routerId : RouterId := {}
  routerEpoch : RouterEpoch := {}
  coordinatorEpoch : CoordinatorEpoch := {}
  backendId : BackendId := {}
  backendGeneration : BackendGeneration := {}
  backendBoot : BackendBootId := {}
  product : Text := []
  protocolVersion : UInt32 := 0
deriving DecidableEq, Repr

structure HelloAckMessage where
  routerId : RouterId := {}
  routerEpoch : RouterEpoch := {}
  coordinatorEpoch : CoordinatorEpoch := {}
  code : OutcomeCode := .accepted
  detail : Text := []
deriving DecidableEq, Repr

structure BackendRegisterMessage where
  backend : BackendDescriptor := {}
deriving DecidableEq, Repr

structure BackendRegisterAckMessage where
  backendId : BackendId := {}
  backendBoot : BackendBootId := {}
  code : OutcomeCode := .accepted
  detail : Text := []
deriving DecidableEq, Repr

structure CapabilityPublishMessage where
  publication : BackendCapabilityPublication := {}
deriving DecidableEq, Repr

structure RouteRequestMessage where
  request : RouteRequest := {}
deriving DecidableEq, Repr

structure RouteResponseMessage where
  code : OutcomeCode := .internalError
  decision : RouteDecision := {}
  hasDecision : Bool := false
  detail : Text := []
deriving DecidableEq, Repr

structure DispatchMessage where
  dispatchId : DispatchId := {}
  dispatchGeneration : DispatchGeneration := {}
  decisionId : RouteDecisionId := {}
  decisionGeneration : RouteDecisionGeneration := {}
  target : CandidateKey := {}
  attempt : UInt32 := 0
deriving DecidableEq, Repr

structure DispatchResultMessage where
  dispatchId : DispatchId := {}
  decisionId : RouteDecisionId := {}
  code : OutcomeCode := .internalError
  failure : FailureClass := .unknown
  latencyMicros : UInt32 := 0
  detail : Text := []
deriving DecidableEq, Repr

structure ErrorMessage where
  code : OutcomeCode := .internalError
  detail : Text := []
deriving DecidableEq, Repr

inductive AdminOp where
  | none | snapshot | invariants | summary | revalidate | dispatch | reroute | setPolicyOpen
  | setPolicyDenyBackend | setPolicyDenyModel | setBudgetDenied | setBudgetAllowed | advancePrice
  | fenceBackend | retireModel | revokeCapability | setReadiness | setAvailability | save | load
  | shutdown | backendCount
deriving DecidableEq, Repr

structure AdminRequest where
  op : AdminOp := .none
  backendId : BackendId := {}
  modelId : ModelId := {}
  decisionId : RouteDecisionId := {}
  generation : UInt64 := 0
  value : UInt64 := 0
  detail : Text := []
deriving DecidableEq, Repr

structure AdminResponse where
  code : OutcomeCode := .internalError
  detail : Text := []
  json : Text := []
deriving DecidableEq, Repr

/-- A message of the protocol that has a payload of its own. -/
inductive Message where
  | hello (message : HelloMessage)
  | helloAck (message : HelloAckMessage)
  | backendRegister (message : BackendRegisterMessage)
  | backendRegisterAck (message : BackendRegisterAckMessage)
  | capabilityPublish (message : CapabilityPublishMessage)
  | routeRequest (message : RouteRequestMessage)
  | routeResponse (message : RouteResponseMessage)
  | dispatch (message : DispatchMessage)
  | dispatchResult (message : DispatchResultMessage)
  | error (message : ErrorMessage)
  | health (evidence : HealthEvidence)
  | availability (evidence : AvailabilityEvidence)
  | readiness (evidence : ReadinessEvidence)
  | residency (evidence : ResidencyEvidence)
  | capacity (evidence : CapacityEvidence) (detail : CapacityDetail)
  | latency (evidence : LatencyEvidence)
  | cost (evidence : CostEvidence)
  | adminRequest (message : AdminRequest)
  | adminResponse (message : AdminResponse)
deriving DecidableEq, Repr

def Message.type : Message → MessageType
  | .hello _ => .hello
  | .helloAck _ => .helloAck
  | .backendRegister _ => .backendRegister
  | .backendRegisterAck _ => .backendRegisterAck
  | .capabilityPublish _ => .capabilityPublish
  | .routeRequest _ => .routeRequest
  | .routeResponse _ => .routeResponse
  | .dispatch _ => .dispatch
  | .dispatchResult _ => .dispatchResult
  | .error _ => .errorMessage
  | .health _ => .healthUpdate
  | .availability _ => .availabilityUpdate
  | .readiness _ => .readinessUpdate
  | .residency _ => .residencyUpdate
  | .capacity _ _ => .capacityUpdate
  | .latency _ => .latencyUpdate
  | .cost _ => .costUpdate
  | .adminRequest _ => .adminRequest
  | .adminResponse _ => .adminResponse

/-- A frame as the senders make it. -/
def makeFrame (type : MessageType) (payload : List UInt8) : Frame where
  header := {
    magic := frameMagic
    protocolVersion := protocolVersion.toUInt16
    messageType := Enumerated.code16 type }
  payload := payload

instance : Enumerated OutcomeCode :=
  .ofCodes [.accepted, .noChange, .routed, .deferred, .revalidationRequired, .rerouteRequired,
    .noEligibleCandidate, .rejectStaleRouterEpoch, .rejectStaleCoordinatorEpoch,
    .rejectStaleRequest, .rejectStaleModel, .rejectStaleBackend, .rejectStaleBackendBoot,
    .rejectStaleEndpoint, .rejectStaleCapability, .rejectStalePolicy, .rejectStaleBudget,
    .rejectStalePrice, .rejectStaleSlo, .rejectStaleHealth, .rejectStaleAvailability,
    .rejectStaleReadiness, .rejectStaleResidency, .rejectStaleCapacity,
    .rejectStaleCompatibility, .rejectStaleTrust, .rejectStaleReservation, .rejectStaleArtifact,
    .rejectCapability, .rejectContextLimit, .rejectModality, .rejectStructuredOutput,
    .rejectToolCalling, .rejectStreaming, .rejectQuality, .rejectPolicy, .rejectBudget,
    .rejectCost, .rejectCostUnknown, .rejectSlo, .rejectTrust, .rejectLocality, .rejectResidency,
    .rejectCompatibility, .rejectUnavailable, .rejectNotReady, .rejectUnhealthy, .rejectDraining,
    .rejectRetired, .rejectCapacity, .rejectReservation, .rejectAffinity, .rejectInvalid,
    .rejectConflict, .rejectUnknownEvidence, .rejectLimit, .rejectSpoofed, .fenced, .superseded,
    .dispatched, .completed, .failed, .cancelled, .shuttingDown, .internalError]
    OutcomeCode.ctorIdx (by rintro ⟨⟩ <;> decide) rfl (by decide)

instance : Enumerated TrustDomain :=
  .ofCodes [.unknown, .publicRemote, .trustedRemote, .privateNetwork, .local]
    TrustDomain.ctorIdx (by rintro ⟨⟩ <;> decide) rfl (by decide)

instance : Enumerated Provenance :=
  .ofCodes [.real, .synthetic, .unsupported]
    Provenance.ctorIdx (by rintro ⟨⟩ <;> decide) rfl (by decide)

instance : Enumerated FallbackPolicy :=
  .ofCodes [.forbidden, .explicitOnly, .permitted]
    FallbackPolicy.ctorIdx (by rintro ⟨⟩ <;> decide) rfl (by decide)

instance : Enumerated RouteStatus :=
  .ofCodes [.current, .superseded, .stale, .dispatched, .completed, .failed, .cancelled]
    RouteStatus.ctorIdx (by rintro ⟨⟩ <;> decide) rfl (by decide)

instance : Enumerated Authority.Currentness :=
  .ofCodes [.current, .stale, .revalidationRequired, .reconstructed]
    Authority.Currentness.ctorIdx (by rintro ⟨⟩ <;> decide) rfl (by decide)

instance : Enumerated RankingFactor :=
  .ofCodes canonicalFactorOrder RankingFactor.ctorIdx (by rintro ⟨⟩ <;> decide) rfl (by decide)

instance : Enumerated FailureClass :=
  .ofCodes [.transientBackendFailure, .backendUnavailable, .backendRestarted, .modelUnavailable,
    .staleRoute, .policyChanged, .budgetChanged, .priceChanged, .sloChanged, .capacityChanged,
    .compatibilityChanged, .permanentRejection, .callerCancelled, .unknown]
    FailureClass.ctorIdx (by rintro ⟨⟩ <;> decide) rfl (by decide)

instance : Enumerated HealthState :=
  .ofCodes [.unknown, .healthy, .degraded, .unhealthy, .draining, .retired]
    HealthState.ctorIdx (by rintro ⟨⟩ <;> decide) rfl (by decide)

instance : Enumerated AvailabilityState :=
  .ofCodes [.unknown, .available, .unavailable]
    AvailabilityState.ctorIdx (by rintro ⟨⟩ <;> decide) rfl (by decide)

instance : Enumerated ReadinessState :=
  .ofCodes [.unknown, .ready, .warming, .notReady]
    ReadinessState.ctorIdx (by rintro ⟨⟩ <;> decide) rfl (by decide)

instance : Enumerated ResidencyState :=
  .ofCodes [.unknown, .resident, .loading, .notResident, .evicting]
    ResidencyState.ctorIdx (by rintro ⟨⟩ <;> decide) rfl (by decide)

instance : Enumerated CapacityState :=
  .ofCodes [.unknown, .available, .saturated]
    CapacityState.ctorIdx (by rintro ⟨⟩ <;> decide) rfl (by decide)

instance : Enumerated AdminOp :=
  .ofCodes [.none, .snapshot, .invariants, .summary, .revalidate, .dispatch, .reroute,
    .setPolicyOpen, .setPolicyDenyBackend, .setPolicyDenyModel, .setBudgetDenied,
    .setBudgetAllowed, .advancePrice, .fenceBackend, .retireModel, .revokeCapability,
    .setReadiness, .setAvailability, .save, .load, .shutdown, .backendCount]
    AdminOp.ctorIdx (by rintro ⟨⟩ <;> decide) rfl (by decide)

end ModelRouter.Messages
