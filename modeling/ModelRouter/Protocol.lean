import ModelRouter.Codec
import ModelRouter.Messages

namespace ModelRouter.Protocol

open Base Base.Parse Bytes Ids Outcome Limits Capability Evidence Catalog Candidate Authority
open Request Decision Codec Messages
open Base.Put (puts)

variable {t : Tag}

/-- Why a payload is not read: the reader gives it up, or a byte stands for no enumerator of a type
whose reader does not look, which leaves no value of this model. -/
inductive Stop where
  | malformed | undeclared
deriving DecidableEq, Repr

def getEnum8 {α : Type} [Enumerated α] : Parse Stop α := do
  let code ← getU8
  declared code.toNat .undeclared

def getEnum16 {α : Type} [Enumerated α] : Parse Stop α := do
  let code ← getU16
  declared code.toNat .undeclared

def putList {α : Type} (write : α → Put) (xs : List α) : Put :=
  puts [putCount xs, puts (xs.map write)]

def getList {α : Type} (limit : UInt32) (read : Parse Stop α) : Parse Stop (List α) := do
  let count ← getU32
  settle .malformed
  refuse (count > limit) .malformed
  many read count.toNat

def putBinding (limits : ResourceLimits) (binding : ModelBinding) : Put :=
  puts [putId binding.modelId, putGeneration binding.modelGeneration,
    putGeneration binding.artifactGeneration, putU32 binding.contextLimitTokens,
    putU32 binding.qualityClass, putCost limits binding.cost, putI64 binding.boundAtUnixMillis]

def getBinding (limits : ResourceLimits) : Parse Stop ModelBinding := do
  return {
    modelId := ← getId
    modelGeneration := ← getGeneration
    artifactGeneration := ← getGeneration
    contextLimitTokens := ← getU32
    qualityClass := ← getU32
    cost := ← (getCost limits).withError .malformed
    boundAtUnixMillis := ← getI64 }

def putBackend (limits : ResourceLimits) (backend : BackendDescriptor) : Put :=
  puts [putId backend.backendId, putGeneration backend.backendGeneration,
    putGeneration backend.backendBoot, putGeneration backend.backendRegistrationGeneration,
    putId backend.providerId, putGeneration backend.providerGeneration,
    putId backend.endpoint.endpointId, putGeneration backend.endpoint.endpointGeneration,
    putId backend.endpoint.backendId, putGeneration backend.endpoint.backendBoot,
    putString limits backend.endpoint.reference, putString limits backend.endpoint.protocol,
    putU32 backend.endpoint.protocolVersion, putId backend.trustProfileId,
    putGeneration backend.trustGeneration, putCode8 backend.trustDomain,
    putString limits backend.locality, putU32 backend.networkDistance,
    putId backend.capabilityProfileId, putGeneration backend.capabilityGeneration,
    putId backend.compatibilityProfileId, putGeneration backend.compatibilityGeneration,
    putList (putBinding limits) backend.modelBindings, putU32 backend.reliabilityPpm,
    putBool backend.offlineCapable, putCode8 backend.provenance,
    putI64 backend.registeredAtUnixMillis, putI64 backend.expiresAtUnixMillis]

def getBackend (limits : ResourceLimits) : Parse Stop BackendDescriptor := do
  let backend : BackendDescriptor := {
    backendId := ← getId
    backendGeneration := ← getGeneration
    backendBoot := ← getGeneration
    backendRegistrationGeneration := ← getGeneration
    providerId := ← getId
    providerGeneration := ← getGeneration
    endpoint := {
      endpointId := ← getId
      endpointGeneration := ← getGeneration
      backendId := ← getId
      backendBoot := ← getGeneration
      reference := ← getString limits
      protocol := ← getString limits
      protocolVersion := ← getU32 }
    trustProfileId := ← getId
    trustGeneration := ← getGeneration
    trustDomain := ← getEnum8
    locality := ← getString limits
    networkDistance := ← getU32
    capabilityProfileId := ← getId
    capabilityGeneration := ← getGeneration
    compatibilityProfileId := ← getId
    compatibilityGeneration := ← getGeneration
    modelBindings := ← getList limits.maxModelBindingsPerBackend (getBinding limits)
    reliabilityPpm := ← getU32
    offlineCapable := ← getBool
    provenance := ← getEnum8
    registeredAtUnixMillis := ← getI64
    expiresAtUnixMillis := ← getI64 }
  settle .malformed
  return backend

def putRequirement (limits : ResourceLimits) (requirement : CapabilityRequirement) : Put :=
  puts [putString limits requirement.key, putCode8 requirement.minimumState]

def getRequirement (limits : ResourceLimits) : Parse Stop CapabilityRequirement := do
  let key ← getString limits
  let minimumState ← getU8
  settle .malformed
  let minimumState ← declared minimumState.toNat .malformed
  return { key := key, minimumState := minimumState }

def putIds (ids : List (EntityId t)) : Put :=
  putList putId ids

def getIds (limits : ResourceLimits) : Parse Stop (List (EntityId t)) := do
  let ids ← getList limits.maxAllowlistEntries getId
  settle .malformed
  return ids

def putRequirements (limits : ResourceLimits) (r : RouteRequirements) : Put :=
  puts [putList (putRequirement limits) r.requiredCapabilities,
    putList (putString limits) r.preferredCapabilities, putCode8 r.minimumCapabilityEvidence,
    putU32 r.minContextTokens, putU32 r.maxOutputTokens, putU32 r.requiredInputModalities.bits,
    putU32 r.requiredOutputModalities.bits, putBool r.requireStructuredOutput,
    putBool r.requireJsonSchema, putBool r.requireToolCalling, putBool r.requireStreaming,
    putBool r.requireLogprobs, putBool r.requireDeterministicSeed, putU32 r.qualityFloor,
    putIds r.modelAllowlist, putIds r.modelDenylist, putIds r.familyAllowlist,
    putIds r.familyDenylist, putIds r.providerAllowlist, putIds r.providerDenylist,
    putIds r.backendAllowlist, putIds r.backendDenylist, putBool r.localOnly,
    putBool r.offlineOnly, putBool r.remoteAllowed,
    putList (putString limits) r.requiredLocalities,
    putList (putString limits) r.deniedLocalities, putCode8 r.minimumTrust,
    putBool r.requireKnownCost, putBool r.enforceCostCeiling,
    putString limits r.maximumCost.unit.currency, putString limits r.maximumCost.unit.basis,
    putI64 r.maximumCost.micros, putU32 r.maxLatencyMicros, putU32 r.deadlineMicros,
    putBool r.requireSlo, putBool r.requireAvailable, putBool r.requireHealthy,
    putBool r.requireReady, putBool r.requireResident, putBool r.requireCapacity,
    putBool r.requireReservation, putBool r.requireKnownLatency,
    putBool r.requireKnownCompatibility, putString limits r.requiredProtocol,
    putU32 r.requiredProtocolVersion, putId r.affinityModel, putId r.affinityProvider,
    putId r.affinityBackend, putBool r.stickiness.preferSameModelFamily,
    putBool r.stickiness.preferSameProvider, putBool r.stickiness.preferSameBackend,
    putBool r.stickiness.preferContextLocality, putId r.stickiness.stickyFamily,
    putId r.stickiness.stickyProvider, putId r.stickiness.stickyBackend,
    putBool r.allowFallbacks, putCode8 r.fallbackPolicy, putBool r.retryPolicy.allowRetry,
    putBool r.retryPolicy.allowReroute, putBool r.retryPolicy.allowModelSwitch,
    putBool r.retryPolicy.allowProviderSwitch, putU32 r.retryPolicy.maxAttempts,
    putU32 r.retryPolicy.maxFallbacks]

def getRequirements (limits : ResourceLimits) : Parse Stop RouteRequirements := do
  let requirements : RouteRequirements := {
    requiredCapabilities := ← getList limits.maxRequirementEntries (getRequirement limits)
    preferredCapabilities := ← getList limits.maxRequirementEntries (getString limits)
    minimumCapabilityEvidence := ← getEnum8
    minContextTokens := ← getU32
    maxOutputTokens := ← getU32
    requiredInputModalities := { bits := ← getU32 }
    requiredOutputModalities := { bits := ← getU32 }
    requireStructuredOutput := ← getBool
    requireJsonSchema := ← getBool
    requireToolCalling := ← getBool
    requireStreaming := ← getBool
    requireLogprobs := ← getBool
    requireDeterministicSeed := ← getBool
    qualityFloor := ← getU32
    modelAllowlist := ← getIds limits
    modelDenylist := ← getIds limits
    familyAllowlist := ← getIds limits
    familyDenylist := ← getIds limits
    providerAllowlist := ← getIds limits
    providerDenylist := ← getIds limits
    backendAllowlist := ← getIds limits
    backendDenylist := ← getIds limits
    localOnly := ← getBool
    offlineOnly := ← getBool
    remoteAllowed := ← getBool
    requiredLocalities := ← getList limits.maxAllowlistEntries (getString limits)
    deniedLocalities := ← getList limits.maxAllowlistEntries (getString limits)
    minimumTrust := ← getEnum8
    requireKnownCost := ← getBool
    enforceCostCeiling := ← getBool
    maximumCost := {
      unit := {
        currency := ← getString limits
        basis := ← getString limits }
      micros := ← getI64 }
    maxLatencyMicros := ← getU32
    deadlineMicros := ← getU32
    requireSlo := ← getBool
    requireAvailable := ← getBool
    requireHealthy := ← getBool
    requireReady := ← getBool
    requireResident := ← getBool
    requireCapacity := ← getBool
    requireReservation := ← getBool
    requireKnownLatency := ← getBool
    requireKnownCompatibility := ← getBool
    requiredProtocol := ← getString limits
    requiredProtocolVersion := ← getU32
    affinityModel := ← getId
    affinityProvider := ← getId
    affinityBackend := ← getId
    stickiness := {
      preferSameModelFamily := ← getBool
      preferSameProvider := ← getBool
      preferSameBackend := ← getBool
      preferContextLocality := ← getBool
      stickyFamily := ← getId
      stickyProvider := ← getId
      stickyBackend := ← getId }
    allowFallbacks := ← getBool
    fallbackPolicy := ← getEnum8
    retryPolicy := {
      allowRetry := ← getBool
      allowReroute := ← getBool
      allowModelSwitch := ← getBool
      allowProviderSwitch := ← getBool
      maxAttempts := ← getU32
      maxFallbacks := ← getU32 } }
  settle .malformed
  return requirements

abbrev putInt (value : Int) : Put :=
  putI64 (Int64.ofInt value)

def getInt : Parse Stop Int := do
  let value ← getI64
  return value.toInt

def putFactor (limits : ResourceLimits) (factor : FactorValue) : Put :=
  puts [putCode8 factor.factor, putBool factor.known, putInt factor.normalized, putInt factor.raw,
    putInt factor.weightPpm, putInt factor.contribution, putU64 factor.evidenceGeneration,
    putString limits factor.source]

def getFactor (limits : ResourceLimits) : Parse Stop FactorValue := do
  let factor ← getU8
  let known ← getBool
  let normalized ← getInt
  let raw ← getInt
  let weightPpm ← getInt
  let contribution ← getInt
  let evidenceGeneration ← getU64
  let source ← getString limits
  settle .malformed
  let factor ← declared factor.toNat .malformed
  return {
    factor := factor, known := known, normalized := normalized, raw := raw, weightPpm := weightPpm,
    contribution := contribution, evidenceGeneration := evidenceGeneration, source := source }

def putRanked (limits : ResourceLimits) (ranked : RankedCandidate) : Put :=
  puts [putCandidateKey ranked.key, putInt ranked.score, putU32 ranked.rank,
    putList (putFactor limits) ranked.factors]

def getRanked (limits : ResourceLimits) : Parse Stop RankedCandidate := do
  return {
    key := ← getCandidateKey
    score := ← getInt
    rank := ← getU32
    factors := ← getList limits.maxExplanationFactors (getFactor limits) }

def putRejection (limits : ResourceLimits) (rejection : RouteRejection) : Put :=
  puts [putU64 rejection.modelId, putGeneration rejection.modelGeneration,
    putU64 rejection.backendId, putGeneration rejection.backendGeneration,
    putGeneration rejection.backendBoot, putU64 rejection.endpointId, putCode16 rejection.code,
    putString limits rejection.detail]

def getRejection (limits : ResourceLimits) : Parse Stop RouteRejection := do
  return {
    modelId := ← getU64
    modelGeneration := ← getGeneration
    backendId := ← getU64
    backendGeneration := ← getGeneration
    backendBoot := ← getGeneration
    endpointId := ← getU64
    code := ← getEnum16
    detail := ← getString limits }

def putDecision (limits : ResourceLimits) (decision : RouteDecision) : Put :=
  puts [putId decision.decisionId, putGeneration decision.decisionGeneration,
    putId decision.requestId, putGeneration decision.requestGeneration, putCode8 decision.status,
    putCode16 decision.code, putAuthority decision.authority,
    putCandidateKey decision.explanation.winner, putList putCandidateKey decision.fallbacks,
    putU32 decision.explanation.eligibleCandidateCount,
    putU32 decision.explanation.rejectedCandidateCount,
    putString limits decision.explanation.tieBreakReason,
    putString limits decision.explanation.requirementDigest,
    putString limits decision.explanation.semanticDigest,
    putCode8 decision.explanation.currentness, putCode16 decision.explanation.policyResult,
    putCost limits decision.explanation.cost,
    putList (putRanked limits) decision.explanation.ranking,
    putList (putRejection limits) decision.explanation.rejections,
    putI64 decision.createdAtUnixMillis]

def getDecision (limits : ResourceLimits) : Parse Stop RouteDecision := do
  let decisionId ← getId
  let decisionGeneration ← getGeneration
  let requestId ← getId
  let requestGeneration ← getGeneration
  let status ← getEnum8
  let code ← getEnum16
  let authority ← getAuthority
  let winner ← getCandidateKey
  let fallbacks ← getList limits.maxFallbackCandidates getCandidateKey
  let eligibleCandidateCount ← getU32
  let rejectedCandidateCount ← getU32
  let tieBreakReason ← getString limits
  let requirementDigest ← getString limits
  let semanticDigest ← getString limits
  let currentness ← getEnum8
  let policyResult ← getEnum16
  let cost ← (getCost limits).withError .malformed
  let ranking ← getList limits.maxRankedCandidates (getRanked limits)
  let rejections ← getList limits.maxRejectionRecords (getRejection limits)
  let createdAtUnixMillis ← getI64
  settle .malformed
  return {
    decisionId := decisionId, decisionGeneration := decisionGeneration
    requestId := requestId, requestGeneration := requestGeneration
    status := status, code := code, authority := authority, fallbacks := fallbacks
    createdAtUnixMillis := createdAtUnixMillis
    explanation := {
      requestId := requestId, requestGeneration := requestGeneration, winner := winner
      eligibleCandidateCount := eligibleCandidateCount
      rejectedCandidateCount := rejectedCandidateCount
      rejections := rejections, ranking := ranking, tieBreakReason := tieBreakReason
      authority := authority, cost := cost, policyResult := policyResult
      fallbackOrder := fallbacks, currentness := currentness
      requirementDigest := requirementDigest, semanticDigest := semanticDigest } }

def encodeMessage (writer : Put) : Except Text (List UInt8) :=
  match writer with
  | some bytes => .ok bytes
  | none => .error "string exceeds the configured byte limit"

/-- A payload that is not decoded: with the text of the code, or `undeclared` where the code goes
on with a value outside its enumeration. -/
inductive DecodeError where
  | refused (detail : Text)
  | undeclared
deriving DecidableEq, Repr

def decodeMessage {α : Type} (payload : List UInt8) (limits : ResourceLimits)
    (decode : Parse Stop α) : Except DecodeError α :=
  if payload.length > limits.maxPayloadBytes.toNat then
    .error (.refused "message payload exceeds the configured limit")
  else
    match decode.run ⟨payload, none⟩ with
    | (.ok message, reader) =>
      if reader.rest.isEmpty then .ok message
      else .error (.refused "message payload has trailing bytes")
    | (.error .undeclared, _) => .error .undeclared
    | (.error .malformed, reader) =>
      match reader.fault with
      | none => .error (.refused "message payload is malformed")
      | some .short => .error (.refused "payload ended inside a declared field")
      | some .oversized =>
        .error (.refused "declared string length exceeds the configured limit")

def putHello (limits : ResourceLimits) (message : HelloMessage) : Put :=
  puts [putId message.routerId, putGeneration message.routerEpoch,
    putGeneration message.coordinatorEpoch, putId message.backendId,
    putGeneration message.backendGeneration, putGeneration message.backendBoot,
    putString limits message.product, putU32 message.protocolVersion]

def getHello (limits : ResourceLimits) : Parse Stop HelloMessage := do
  let message : HelloMessage := {
    routerId := ← getId
    routerEpoch := ← getGeneration
    coordinatorEpoch := ← getGeneration
    backendId := ← getId
    backendGeneration := ← getGeneration
    backendBoot := ← getGeneration
    product := ← getString limits
    protocolVersion := ← getU32 }
  settle .malformed
  return message

def putHelloAck (limits : ResourceLimits) (message : HelloAckMessage) : Put :=
  puts [putId message.routerId, putGeneration message.routerEpoch,
    putGeneration message.coordinatorEpoch, putCode16 message.code,
    putString limits message.detail]

def getHelloAck (limits : ResourceLimits) : Parse Stop HelloAckMessage := do
  let message : HelloAckMessage := {
    routerId := ← getId
    routerEpoch := ← getGeneration
    coordinatorEpoch := ← getGeneration
    code := ← getEnum16
    detail := ← getString limits }
  settle .malformed
  return message

def putBackendRegisterAck (limits : ResourceLimits) (message : BackendRegisterAckMessage) : Put :=
  puts [putId message.backendId, putGeneration message.backendBoot, putCode16 message.code,
    putString limits message.detail]

def getBackendRegisterAck (limits : ResourceLimits) : Parse Stop BackendRegisterAckMessage := do
  let message : BackendRegisterAckMessage := {
    backendId := ← getId
    backendBoot := ← getGeneration
    code := ← getEnum16
    detail := ← getString limits }
  settle .malformed
  return message

def putPublication (limits : ResourceLimits) (publication : BackendCapabilityPublication) : Put :=
  puts [putId publication.backendId, putGeneration publication.backendGeneration,
    putGeneration publication.backendBoot, putId publication.profileId,
    putGeneration publication.generation, putList (putCapability limits) publication.claims]

def getPublication (limits : ResourceLimits) : Parse Stop BackendCapabilityPublication := do
  let publication : BackendCapabilityPublication := {
    backendId := ← getId
    backendGeneration := ← getGeneration
    backendBoot := ← getGeneration
    profileId := ← getId
    generation := ← getGeneration
    claims := ← getList limits.maxCapabilityEntriesPerBackend
      ((getCapability limits).withError .malformed) }
  settle .malformed
  return publication

def putRequest (limits : ResourceLimits) (request : RouteRequest) : Put :=
  puts [putId request.requestId, putGeneration request.requestGeneration, putId request.tenant,
    putId request.nameSpace, putId request.policyId, putGeneration request.policyGeneration,
    putId request.budgetId, putGeneration request.budgetGeneration, putId request.sloId,
    putGeneration request.sloGeneration, putId request.correlationId,
    putU64 request.caller.agentRuntimeId, putU64 request.caller.agentRunId,
    putU64 request.caller.actionId, putU64 request.caller.actionGeneration,
    putU64 request.caller.attemptGeneration, putU64 request.caller.workId,
    putU64 request.caller.workGeneration, putU32 request.estimatedInputTokens,
    putU32 request.estimatedOutputTokens, putI64 request.createdAtUnixMillis,
    putI64 request.expiresAtUnixMillis, putRequirements limits request.requirements]

def getRequest (limits : ResourceLimits) : Parse Stop RouteRequest := do
  return {
    requestId := ← getId
    requestGeneration := ← getGeneration
    tenant := ← getId
    nameSpace := ← getId
    policyId := ← getId
    policyGeneration := ← getGeneration
    budgetId := ← getId
    budgetGeneration := ← getGeneration
    sloId := ← getId
    sloGeneration := ← getGeneration
    correlationId := ← getId
    caller := {
      agentRuntimeId := ← getU64
      agentRunId := ← getU64
      actionId := ← getU64
      actionGeneration := ← getU64
      attemptGeneration := ← getU64
      workId := ← getU64
      workGeneration := ← getU64 }
    estimatedInputTokens := ← getU32
    estimatedOutputTokens := ← getU32
    createdAtUnixMillis := ← getI64
    expiresAtUnixMillis := ← getI64
    requirements := ← getRequirements limits }

def putResponse (limits : ResourceLimits) (message : RouteResponseMessage) : Put :=
  puts [putCode16 message.code, putBool message.hasDecision, putDecision limits message.decision,
    putString limits message.detail]

def getResponse (limits : ResourceLimits) : Parse Stop RouteResponseMessage := do
  let message : RouteResponseMessage := {
    code := ← getEnum16
    hasDecision := ← getBool
    decision := ← getDecision limits
    detail := ← getString limits }
  settle .malformed
  return message

def putDispatch (message : DispatchMessage) : Put :=
  puts [putId message.dispatchId, putGeneration message.dispatchGeneration,
    putId message.decisionId, putGeneration message.decisionGeneration,
    putCandidateKey message.target, putU32 message.attempt]

def getDispatch : Parse Stop DispatchMessage := do
  let message : DispatchMessage := {
    dispatchId := ← getId
    dispatchGeneration := ← getGeneration
    decisionId := ← getId
    decisionGeneration := ← getGeneration
    target := ← getCandidateKey
    attempt := ← getU32 }
  settle .malformed
  return message

def putDispatchResult (limits : ResourceLimits) (message : DispatchResultMessage) : Put :=
  puts [putId message.dispatchId, putId message.decisionId, putCode16 message.code,
    putCode8 message.failure, putU32 message.latencyMicros, putString limits message.detail]

def getDispatchResult (limits : ResourceLimits) : Parse Stop DispatchResultMessage := do
  let dispatchId ← getId
  let decisionId ← getId
  let code ← getEnum16
  let failure ← getU8
  let latencyMicros ← getU32
  let detail ← getString limits
  settle .malformed
  let failure ← declared failure.toNat .malformed
  return {
    dispatchId := dispatchId, decisionId := decisionId, code := code, failure := failure
    latencyMicros := latencyMicros, detail := detail }

def putError (limits : ResourceLimits) (message : ErrorMessage) : Put :=
  puts [putCode16 message.code, putString limits message.detail]

def getError (limits : ResourceLimits) : Parse Stop ErrorMessage := do
  let message : ErrorMessage := {
    code := ← getEnum16
    detail := ← getString limits }
  settle .malformed
  return message

section

variable {σ : Type} [Enumerated σ]

def putBackendEvidence (limits : ResourceLimits) (evidence : BackendEvidence σ t) : Put :=
  puts [putCode8 evidence.state, putGeneration evidence.generation, putId evidence.backendId,
    putGeneration evidence.backendGeneration, putGeneration evidence.backendBoot,
    putGeneration evidence.endpointGeneration, putI64 evidence.observedAtUnixMillis,
    putI64 evidence.expiresAtUnixMillis, putString limits evidence.source,
    putString limits evidence.detail]

def getBackendEvidence (limits : ResourceLimits) : Parse Stop (BackendEvidence σ t) := do
  let state ← getU8
  let generation ← getGeneration
  let backendId ← getId
  let backendGeneration ← getGeneration
  let backendBoot ← getGeneration
  let endpointGeneration ← getGeneration
  let observedAtUnixMillis ← getI64
  let expiresAtUnixMillis ← getI64
  let source ← getString limits
  let detail ← getString limits
  settle .malformed
  let state ← declared state.toNat .malformed
  return {
    state := state, generation := generation, backendId := backendId
    backendGeneration := backendGeneration, backendBoot := backendBoot
    endpointGeneration := endpointGeneration, observedAtUnixMillis := observedAtUnixMillis
    expiresAtUnixMillis := expiresAtUnixMillis, source := source, detail := detail }

end

def putCapacityDetail (detail : CapacityDetail) : Put :=
  puts [putGeneration detail.generation, putId detail.backendId, putGeneration detail.backendBoot,
    putU32 detail.availableSlots, putU32 detail.totalSlots, putU32 detail.queueDepth,
    putU32 detail.maxQueueDepth, putI64 detail.observedAtUnixMillis,
    putI64 detail.expiresAtUnixMillis]

def getCapacityDetail : Parse Stop CapacityDetail := do
  let detail : CapacityDetail := {
    generation := ← getGeneration
    backendId := ← getId
    backendBoot := ← getGeneration
    availableSlots := ← getU32
    totalSlots := ← getU32
    queueDepth := ← getU32
    maxQueueDepth := ← getU32
    observedAtUnixMillis := ← getI64
    expiresAtUnixMillis := ← getI64 }
  settle .malformed
  return detail

def putLatency (limits : ResourceLimits) (evidence : LatencyEvidence) : Put :=
  puts [putGeneration evidence.healthGeneration, putId evidence.backendId,
    putGeneration evidence.backendBoot, putU32 evidence.dispatchMicros,
    putU32 evidence.timeToFirstTokenMicros, putU32 evidence.completedMicros,
    putU32 evidence.tailMicros, putU32 evidence.queueMicros,
    putU32 evidence.warmStartPenaltyMicros, putU32 evidence.coldStartPenaltyMicros,
    putU32 evidence.sampleCount, putI64 evidence.observedAtUnixMillis,
    putI64 evidence.expiresAtUnixMillis, putString limits evidence.source]

def getLatency (limits : ResourceLimits) : Parse Stop LatencyEvidence := do
  let evidence : LatencyEvidence := {
    healthGeneration := ← getGeneration
    backendId := ← getId
    backendBoot := ← getGeneration
    dispatchMicros := ← getU32
    timeToFirstTokenMicros := ← getU32
    completedMicros := ← getU32
    tailMicros := ← getU32
    queueMicros := ← getU32
    warmStartPenaltyMicros := ← getU32
    coldStartPenaltyMicros := ← getU32
    sampleCount := ← getU32
    observedAtUnixMillis := ← getI64
    expiresAtUnixMillis := ← getI64
    source := ← getString limits }
  settle .malformed
  return evidence

def putAdminRequest (limits : ResourceLimits) (message : AdminRequest) : Put :=
  puts [putCode16 message.op, putId message.backendId, putId message.modelId,
    putId message.decisionId, putU64 message.generation, putU64 message.value,
    putString limits message.detail]

def getAdminRequest (limits : ResourceLimits) : Parse Stop AdminRequest := do
  let op ← getU16
  let backendId ← getId
  let modelId ← getId
  let decisionId ← getId
  let generation ← getU64
  let value ← getU64
  let detail ← getString limits
  settle .malformed
  let op ← declared op.toNat .malformed
  return {
    op := op, backendId := backendId, modelId := modelId, decisionId := decisionId
    generation := generation, value := value, detail := detail }

def putAdminResponse (limits : ResourceLimits) (message : AdminResponse) : Put :=
  puts [putCode16 message.code, putString limits message.detail, putString limits message.json]

def getAdminResponse (limits : ResourceLimits) : Parse Stop AdminResponse := do
  let message : AdminResponse := {
    code := ← getEnum16
    detail := ← getString limits
    json := ← getString limits }
  settle .malformed
  return message

section

variable (limits : ResourceLimits) (payload : List UInt8)

def encodeHello (message : HelloMessage) : Except Text (List UInt8) :=
  encodeMessage (putHello limits message)

def decodeHello : Except DecodeError HelloMessage :=
  decodeMessage payload limits (getHello limits)

def encodeHelloAck (message : HelloAckMessage) : Except Text (List UInt8) :=
  encodeMessage (putHelloAck limits message)

def decodeHelloAck : Except DecodeError HelloAckMessage :=
  decodeMessage payload limits (getHelloAck limits)

def encodeBackendRegister (message : BackendRegisterMessage) : Except Text (List UInt8) :=
  encodeMessage (putBackend limits message.backend)

def decodeBackendRegister : Except DecodeError BackendRegisterMessage :=
  decodeMessage payload limits do return { backend := ← getBackend limits }

def encodeBackendRegisterAck (message : BackendRegisterAckMessage) : Except Text (List UInt8) :=
  encodeMessage (putBackendRegisterAck limits message)

def decodeBackendRegisterAck : Except DecodeError BackendRegisterAckMessage :=
  decodeMessage payload limits (getBackendRegisterAck limits)

def encodeCapabilityPublish (message : CapabilityPublishMessage) : Except Text (List UInt8) :=
  encodeMessage (putPublication limits message.publication)

def decodeCapabilityPublish : Except DecodeError CapabilityPublishMessage :=
  decodeMessage payload limits do return { publication := ← getPublication limits }

def encodeRouteRequest (message : RouteRequestMessage) : Except Text (List UInt8) :=
  encodeMessage (putRequest limits message.request)

def decodeRouteRequest : Except DecodeError RouteRequestMessage :=
  decodeMessage payload limits do return { request := ← getRequest limits }

def encodeRouteResponse (message : RouteResponseMessage) : Except Text (List UInt8) :=
  encodeMessage (putResponse limits message)

def decodeRouteResponse : Except DecodeError RouteResponseMessage :=
  decodeMessage payload limits (getResponse limits)

def encodeDispatch (message : DispatchMessage) : Except Text (List UInt8) :=
  encodeMessage (putDispatch message)

def decodeDispatch : Except DecodeError DispatchMessage :=
  decodeMessage payload limits getDispatch

def encodeDispatchResult (message : DispatchResultMessage) : Except Text (List UInt8) :=
  encodeMessage (putDispatchResult limits message)

def decodeDispatchResult : Except DecodeError DispatchResultMessage :=
  decodeMessage payload limits (getDispatchResult limits)

def encodeError (message : ErrorMessage) : Except Text (List UInt8) :=
  encodeMessage (putError limits message)

def decodeError : Except DecodeError ErrorMessage :=
  decodeMessage payload limits (getError limits)

def encodeHealth (evidence : HealthEvidence) : Except Text (List UInt8) :=
  encodeMessage (putBackendEvidence limits evidence)

def decodeHealth : Except DecodeError HealthEvidence :=
  decodeMessage payload limits (getBackendEvidence limits)

def encodeAvailability (evidence : AvailabilityEvidence) : Except Text (List UInt8) :=
  encodeMessage (putBackendEvidence limits evidence)

def decodeAvailability : Except DecodeError AvailabilityEvidence :=
  decodeMessage payload limits (getBackendEvidence limits)

def encodeReadiness (evidence : ReadinessEvidence) : Except Text (List UInt8) :=
  encodeMessage (putBackendEvidence limits evidence)

def decodeReadiness : Except DecodeError ReadinessEvidence :=
  decodeMessage payload limits (getBackendEvidence limits)

def encodeResidency (evidence : ResidencyEvidence) : Except Text (List UInt8) :=
  encodeMessage (putBackendEvidence limits evidence)

def decodeResidency : Except DecodeError ResidencyEvidence :=
  decodeMessage payload limits (getBackendEvidence limits)

def encodeCapacity (evidence : CapacityEvidence) (detail : CapacityDetail) :
    Except Text (List UInt8) :=
  encodeMessage (puts [putBackendEvidence limits evidence, putCapacityDetail detail])

def decodeCapacity : Except DecodeError (CapacityEvidence × CapacityDetail) :=
  decodeMessage payload limits do
    let evidence ← getBackendEvidence limits
    let detail ← getCapacityDetail
    return (evidence, detail)

def encodeLatency (evidence : LatencyEvidence) : Except Text (List UInt8) :=
  encodeMessage (putLatency limits evidence)

def decodeLatency : Except DecodeError LatencyEvidence :=
  decodeMessage payload limits (getLatency limits)

def encodeCost (evidence : CostEvidence) : Except Text (List UInt8) :=
  encodeMessage (putCost limits evidence)

def decodeCost : Except DecodeError CostEvidence :=
  decodeMessage payload limits ((getCost limits).withError .malformed)

def encodeAdminRequest (message : AdminRequest) : Except Text (List UInt8) :=
  encodeMessage (putAdminRequest limits message)

def decodeAdminRequest : Except DecodeError AdminRequest :=
  decodeMessage payload limits (getAdminRequest limits)

def encodeAdminResponse (message : AdminResponse) : Except Text (List UInt8) :=
  encodeMessage (putAdminResponse limits message)

def decodeAdminResponse : Except DecodeError AdminResponse :=
  decodeMessage payload limits (getAdminResponse limits)

end

/-- The payload of a message. -/
def encode (m : Message) (limits : ResourceLimits) : Except Text (List UInt8) :=
  match m with
  | .hello message => encodeHello limits message
  | .helloAck message => encodeHelloAck limits message
  | .backendRegister message => encodeBackendRegister limits message
  | .backendRegisterAck message => encodeBackendRegisterAck limits message
  | .capabilityPublish message => encodeCapabilityPublish limits message
  | .routeRequest message => encodeRouteRequest limits message
  | .routeResponse message => encodeRouteResponse limits message
  | .dispatch message => encodeDispatch message
  | .dispatchResult message => encodeDispatchResult limits message
  | .error message => encodeError limits message
  | .health evidence => encodeHealth limits evidence
  | .availability evidence => encodeAvailability limits evidence
  | .readiness evidence => encodeReadiness limits evidence
  | .residency evidence => encodeResidency limits evidence
  | .capacity evidence detail => encodeCapacity limits evidence detail
  | .latency evidence => encodeLatency limits evidence
  | .cost evidence => encodeCost limits evidence
  | .adminRequest message => encodeAdminRequest limits message
  | .adminResponse message => encodeAdminResponse limits message

/-- A payload through the decoder for messages of the kind of `m`. -/
def decodeAs (m : Message) (payload : List UInt8) (limits : ResourceLimits) :
    Except DecodeError Message :=
  match m with
  | .hello _ => .hello <$> decodeHello limits payload
  | .helloAck _ => .helloAck <$> decodeHelloAck limits payload
  | .backendRegister _ => .backendRegister <$> decodeBackendRegister limits payload
  | .backendRegisterAck _ => .backendRegisterAck <$> decodeBackendRegisterAck limits payload
  | .capabilityPublish _ => .capabilityPublish <$> decodeCapabilityPublish limits payload
  | .routeRequest _ => .routeRequest <$> decodeRouteRequest limits payload
  | .routeResponse _ => .routeResponse <$> decodeRouteResponse limits payload
  | .dispatch _ => .dispatch <$> decodeDispatch limits payload
  | .dispatchResult _ => .dispatchResult <$> decodeDispatchResult limits payload
  | .error _ => .error <$> decodeError limits payload
  | .health _ => .health <$> decodeHealth limits payload
  | .availability _ => .availability <$> decodeAvailability limits payload
  | .readiness _ => .readiness <$> decodeReadiness limits payload
  | .residency _ => .residency <$> decodeResidency limits payload
  | .capacity _ _ =>
      (fun (evidence, detail) => .capacity evidence detail) <$> decodeCapacity limits payload
  | .latency _ => .latency <$> decodeLatency limits payload
  | .cost _ => .cost <$> decodeCost limits payload
  | .adminRequest _ => .adminRequest <$> decodeAdminRequest limits payload
  | .adminResponse _ => .adminResponse <$> decodeAdminResponse limits payload

end ModelRouter.Protocol
