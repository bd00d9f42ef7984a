import ModelRouter.Base.Echo
import ModelRouter.Protocol

namespace ModelRouter.Received

open Base Base.Parse Bytes Ids Outcome Limits Capability Evidence Catalog Candidate Authority
open Request Decision Codec Messages Protocol

/-! The messages as their decoders build them: an enumeration whose reader does not look holds
whatever code was read. Such codes stand beside the other fields, where their place keeps its
default. -/

structure ReceivedBackend where
  fields : BackendDescriptor
  trustDomain : UInt8
  provenance : UInt8
deriving DecidableEq, Repr

def getBackend (limits : ResourceLimits) : Parse Stop ReceivedBackend := do
  let backend : BackendDescriptor := {
    backendId := ← getId
    backendGeneration := ← getGeneration
    backendBoot := ← getGeneration
    backendRegistrationGeneration := ← getGeneration
    providerId := ← getId
    providerGeneration := ← getGeneration
    endpoint := {
      endpointId := ← getId
      endpointGeneration := ← getGeneration
      backendId := ← getId
      backendBoot := ← getGeneration
      reference := ← getString limits
      protocol := ← getString limits
      protocolVersion := ← getU32 }
    trustProfileId := ← getId
    trustGeneration := ← getGeneration }
  let trustDomain ← getU8
  let backend := { backend with
    locality := ← getString limits
    networkDistance := ← getU32
    capabilityProfileId := ← getId
    capabilityGeneration := ← getGeneration
    compatibilityProfileId := ← getId
    compatibilityGeneration := ← getGeneration
    modelBindings := ← getList limits.maxModelBindingsPerBackend (getBinding limits)
    reliabilityPpm := ← getU32
    offlineCapable := ← getBool }
  let provenance ← getU8
  let backend := { backend with
    registeredAtUnixMillis := ← getI64
    expiresAtUnixMillis := ← getI64 }
  settle .malformed
  return { fields := backend, trustDomain := trustDomain, provenance := provenance }

structure ReceivedRequirements where
  fields : RouteRequirements
  minimumCapabilityEvidence : UInt8
  minimumTrust : UInt8
  fallbackPolicy : UInt8
deriving DecidableEq, Repr

def getRequirements (limits : ResourceLimits) : Parse Stop ReceivedRequirements := do
  let requirements : RouteRequirements := {
    requiredCapabilities := ← getList limits.maxRequirementEntries (getRequirement limits)
    preferredCapabilities := ← getList limits.maxRequirementEntries (getString limits) }
  let minimumCapabilityEvidence ← getU8
  let requirements := { requirements with
    minContextTokens := ← getU32
    maxOutputTokens := ← getU32
    requiredInputModalities := { bits := ← getU32 }
    requiredOutputModalities := { bits := ← getU32 }
    requireStructuredOutput := ← getBool
    requireJsonSchema := ← getBool
    requireToolCalling := ← getBool
    requireStreaming := ← getBool
    requireLogprobs := ← getBool
    requireDeterministicSeed := ← getBool
    qualityFloor := ← getU32
    modelAllowlist := ← getIds limits
    modelDenylist := ← getIds limits
    familyAllowlist := ← getIds limits
    familyDenylist := ← getIds limits
    providerAllowlist := ← getIds limits
    providerDenylist := ← getIds limits
    backendAllowlist := ← getIds limits
    backendDenylist := ← getIds limits
    localOnly := ← getBool
    offlineOnly := ← getBool
    remoteAllowed := ← getBool
    requiredLocalities := ← getList limits.maxAllowlistEntries (getString limits)
    deniedLocalities := ← getList limits.maxAllowlistEntries (getString limits) }
  let minimumTrust ← getU8
  let requirements := { requirements with
    requireKnownCost := ← getBool
    enforceCostCeiling := ← getBool
    maximumCost := {
      unit := {
        currency := ← getString limits
        basis := ← getString limits }
      micros := ← getI64 }
    maxLatencyMicros := ← getU32
    deadlineMicros := ← getU32
    requireSlo := ← getBool
    requireAvailable := ← getBool
    requireHealthy := ← getBool
    requireReady := ← getBool
    requireResident := ← getBool
    requireCapacity := ← getBool
    requireReservation := ← getBool
    requireKnownLatency := ← getBool
    requireKnownCompatibility := ← getBool
    requiredProtocol := ← getString limits
    requiredProtocolVersion := ← getU32
    affinityModel := ← getId
    affinityProvider := ← getId
    affinityBackend := ← getId
    stickiness := {
      preferSameModelFamily := ← getBool
      preferSameProvider := ← getBool
      preferSameBackend := ← getBool
      preferContextLocality := ← getBool
      stickyFamily := ← getId
      stickyProvider := ← getId
      stickyBackend := ← getId }
    allowFallbacks := ← getBool }
  let fallbackPolicy ← getU8
  let requirements := { requirements with
    retryPolicy := {
      allowRetry := ← getBool
      allowReroute := ← getBool
      allowModelSwitch := ← getBool
      allowProviderSwitch := ← getBool
      maxAttempts := ← getU32
      maxFallbacks := ← getU32 } }
  settle .malformed
  return {
    fields := requirements, minimumCapabilityEvidence := minimumCapabilityEvidence
    minimumTrust := minimumTrust, fallbackPolicy := fallbackPolicy }

structure ReceivedRequest where
  fields : RouteRequest
  requirements : ReceivedRequirements
deriving DecidableEq, Repr

def getRequest (limits : ResourceLimits) : Parse Stop ReceivedRequest := do
  return {
    fields := {
      requestId := ← getId
      requestGeneration := ← getGeneration
      tenant := ← getId
      nameSpace := ← getId
      policyId := ← getId
      policyGeneration := ← getGeneration
      budgetId := ← getId
      budgetGeneration := ← getGeneration
      sloId := ← getId
      sloGeneration := ← getGeneration
      correlationId := ← getId
      caller := {
        agentRuntimeId := ← getU64
        agentRunId := ← getU64
        actionId := ← getU64
        actionGeneration := ← getU64
        attemptGeneration := ← getU64
        workId := ← getU64
        workGeneration := ← getU64 }
      estimatedInputTokens := ← getU32
      estimatedOutputTokens := ← getU32
      createdAtUnixMillis := ← getI64
      expiresAtUnixMillis := ← getI64 }
    requirements := ← getRequirements limits }

structure ReceivedRejection where
  fields : RouteRejection
  code : UInt16
deriving DecidableEq, Repr

def getRejection (limits : ResourceLimits) : Parse Stop ReceivedRejection := do
  let rejection : RouteRejection := {
    modelId := ← getU64
    modelGeneration := ← getGeneration
    backendId := ← getU64
    backendGeneration := ← getGeneration
    backendBoot := ← getGeneration
    endpointId := ← getU64 }
  let code ← getU16
  let detail ← getString limits
  return { fields := { rejection with detail := detail }, code := code }

structure ReceivedDecision where
  fields : RouteDecision
  status : UInt8
  code : UInt16
  currentness : UInt8
  policyResult : UInt16
  rejections : List ReceivedRejection
deriving DecidableEq, Repr

def getDecision (limits : ResourceLimits) : Parse Stop ReceivedDecision := do
  let decisionId ← getId
  let decisionGeneration ← getGeneration
  let requestId ← getId
  let requestGeneration ← getGeneration
  let status ← getU8
  let code ← getU16
  let authority ← getAuthority
  let winner ← getCandidateKey
  let fallbacks ← getList limits.maxFallbackCandidates getCandidateKey
  let eligibleCandidateCount ← getU32
  let rejectedCandidateCount ← getU32
  let tieBreakReason ← getString limits
  let requirementDigest ← getString limits
  let semanticDigest ← getString limits
  let currentness ← getU8
  let policyResult ← getU16
  let cost ← (getCost limits).withError .malformed
  let ranking ← getList limits.maxRankedCandidates (getRanked limits)
  let rejections ← getList limits.maxRejectionRecords (getRejection limits)
  let createdAtUnixMillis ← getI64
  settle .malformed
  return {
    fields := {
      decisionId := decisionId, decisionGeneration := decisionGeneration
      requestId := requestId, requestGeneration := requestGeneration
      authority := authority, fallbacks := fallbacks
      createdAtUnixMillis := createdAtUnixMillis
      explanation := {
        requestId := requestId, requestGeneration := requestGeneration, winner := winner
        eligibleCandidateCount := eligibleCandidateCount
        rejectedCandidateCount := rejectedCandidateCount
        ranking := ranking, tieBreakReason := tieBreakReason
        authority := authority, cost := cost, fallbackOrder := fallbacks
        requirementDigest := requirementDigest, semanticDigest := semanticDigest } }
    status := status, code := code, currentness := currentness, policyResult := policyResult
    rejections := rejections }

structure ReceivedResponse where
  code : UInt16
  decision : ReceivedDecision
  hasDecision : Bool
  detail : Text
deriving DecidableEq, Repr

def getResponse (limits : ResourceLimits) : Parse Stop ReceivedResponse := do
  let code ← getU16
  let hasDecision ← getBool
  let decision ← getDecision limits
  let detail ← getString limits
  settle .malformed
  return { code := code, decision := decision, hasDecision := hasDecision, detail := detail }

structure ReceivedHelloAck where
  routerId : RouterId
  routerEpoch : RouterEpoch
  coordinatorEpoch : CoordinatorEpoch
  code : UInt16
  detail : Text
deriving DecidableEq, Repr

def getHelloAck (limits : ResourceLimits) : Parse Stop ReceivedHelloAck := do
  let message : ReceivedHelloAck := {
    routerId := ← getId
    routerEpoch := ← getGeneration
    coordinatorEpoch := ← getGeneration
    code := ← getU16
    detail := ← getString limits }
  settle .malformed
  return message

structure ReceivedBackendRegisterAck where
  backendId : BackendId
  backendBoot : BackendBootId
  code : UInt16
  detail : Text
deriving DecidableEq, Repr

def getBackendRegisterAck (limits : ResourceLimits) : Parse Stop ReceivedBackendRegisterAck := do
  let message : ReceivedBackendRegisterAck := {
    backendId := ← getId
    backendBoot := ← getGeneration
    code := ← getU16
    detail := ← getString limits }
  settle .malformed
  return message

structure ReceivedDispatchResult where
  dispatchId : DispatchId
  decisionId : RouteDecisionId
  code : UInt16
  failure : FailureClass
  latencyMicros : UInt32
  detail : Text
deriving DecidableEq, Repr

def getDispatchResult (limits : ResourceLimits) : Parse Stop ReceivedDispatchResult := do
  let dispatchId ← getId
  let decisionId ← getId
  let code ← getU16
  let failure ← getU8
  let latencyMicros ← getU32
  let detail ← getString limits
  settle .malformed
  let failure ← declared failure.toNat .malformed
  return {
    dispatchId := dispatchId, decisionId := decisionId, code := code, failure := failure
    latencyMicros := latencyMicros, detail := detail }

structure ReceivedError where
  code : UInt16
  detail : Text
deriving DecidableEq, Repr

def getError (limits : ResourceLimits) : Parse Stop ReceivedError := do
  let message : ReceivedError := {
    code := ← getU16
    detail := ← getString limits }
  settle .malformed
  return message

structure ReceivedAdminResponse where
  code : UInt16
  detail : Text
  json : Text
deriving DecidableEq, Repr

def getAdminResponse (limits : ResourceLimits) : Parse Stop ReceivedAdminResponse := do
  let message : ReceivedAdminResponse := {
    code := ← getU16
    detail := ← getString limits
    json := ← getString limits }
  settle .malformed
  return message

/-- A message as its decoder builds it. The decoders of the last kind look at every enumeration
they read. -/
inductive ReceivedMessage where
  | helloAck (message : ReceivedHelloAck)
  | backendRegister (backend : ReceivedBackend)
  | backendRegisterAck (message : ReceivedBackendRegisterAck)
  | routeRequest (request : ReceivedRequest)
  | routeResponse (message : ReceivedResponse)
  | dispatchResult (message : ReceivedDispatchResult)
  | error (message : ReceivedError)
  | adminResponse (message : ReceivedAdminResponse)
  | checked (message : Message)
deriving DecidableEq, Repr

/-- A payload through the decoder for messages of the kind of `m`. -/
def decodeAs (m : Message) (payload : List UInt8) (limits : ResourceLimits) :
    Except DecodeError ReceivedMessage :=
  match m with
  | .helloAck _ => .helloAck <$> decodeMessage payload limits (getHelloAck limits)
  | .backendRegister _ => .backendRegister <$> decodeMessage payload limits (getBackend limits)
  | .backendRegisterAck _ =>
      .backendRegisterAck <$> decodeMessage payload limits (getBackendRegisterAck limits)
  | .routeRequest _ => .routeRequest <$> decodeMessage payload limits (getRequest limits)
  | .routeResponse _ => .routeResponse <$> decodeMessage payload limits (getResponse limits)
  | .dispatchResult _ =>
      .dispatchResult <$> decodeMessage payload limits (getDispatchResult limits)
  | .error _ => .error <$> decodeMessage payload limits (getError limits)
  | .adminResponse _ =>
      .adminResponse <$> decodeMessage payload limits (getAdminResponse limits)
  | m => .checked <$> Protocol.decodeAs m payload limits

def ReceivedBackend.of (b : BackendDescriptor) : ReceivedBackend where
  fields := { b with trustDomain := .unknown, provenance := .synthetic }
  trustDomain := Enumerated.code8 b.trustDomain
  provenance := Enumerated.code8 b.provenance

def ReceivedRequirements.of (r : RouteRequirements) : ReceivedRequirements where
  fields := { r with
    minimumCapabilityEvidence := .declared, minimumTrust := .unknown
    fallbackPolicy := .explicitOnly }
  minimumCapabilityEvidence := Enumerated.code8 r.minimumCapabilityEvidence
  minimumTrust := Enumerated.code8 r.minimumTrust
  fallbackPolicy := Enumerated.code8 r.fallbackPolicy

def ReceivedRequest.of (r : RouteRequest) : ReceivedRequest where
  fields := { r with requirements := {} }
  requirements := .of r.requirements

def ReceivedRejection.of (r : RouteRejection) : ReceivedRejection where
  fields := { r with code := .internalError }
  code := Enumerated.code16 r.code

def ReceivedDecision.of (d : RouteDecision) : ReceivedDecision where
  fields := { d with
    status := .current, code := .routed
    explanation := { d.explanation with
      currentness := .current, policyResult := .accepted, rejections := [] } }
  status := Enumerated.code8 d.status
  code := Enumerated.code16 d.code
  currentness := Enumerated.code8 d.explanation.currentness
  policyResult := Enumerated.code16 d.explanation.policyResult
  rejections := d.explanation.rejections.map .of

def ReceivedResponse.of (m : RouteResponseMessage) : ReceivedResponse where
  code := Enumerated.code16 m.code
  decision := .of m.decision
  hasDecision := m.hasDecision
  detail := m.detail

def ReceivedHelloAck.of (m : HelloAckMessage) : ReceivedHelloAck where
  routerId := m.routerId
  routerEpoch := m.routerEpoch
  coordinatorEpoch := m.coordinatorEpoch
  code := Enumerated.code16 m.code
  detail := m.detail

def ReceivedBackendRegisterAck.of (m : BackendRegisterAckMessage) :
    ReceivedBackendRegisterAck where
  backendId := m.backendId
  backendBoot := m.backendBoot
  code := Enumerated.code16 m.code
  detail := m.detail

def ReceivedDispatchResult.of (m : DispatchResultMessage) : ReceivedDispatchResult where
  dispatchId := m.dispatchId
  decisionId := m.decisionId
  code := Enumerated.code16 m.code
  failure := m.failure
  latencyMicros := m.latencyMicros
  detail := m.detail

def ReceivedError.of (m : ErrorMessage) : ReceivedError where
  code := Enumerated.code16 m.code
  detail := m.detail

def ReceivedAdminResponse.of (m : AdminResponse) : ReceivedAdminResponse where
  code := Enumerated.code16 m.code
  detail := m.detail
  json := m.json

def ReceivedMessage.of : Message → ReceivedMessage
  | .helloAck m => .helloAck (.of m)
  | .backendRegister m => .backendRegister (.of m.backend)
  | .backendRegisterAck m => .backendRegisterAck (.of m)
  | .routeRequest m => .routeRequest (.of m.request)
  | .routeResponse m => .routeResponse (.of m)
  | .dispatchResult m => .dispatchResult (.of m)
  | .error m => .error (.of m)
  | .adminResponse m => .adminResponse (.of m)
  | m => .checked m

theorem enum8_echoes {α : Type} [Enumerated α] :
    Echoes Stop.undeclared getEnum8 getU8 (Enumerated.code8 : α → UInt8) :=
  .declared fun a c hc => by rw [← UInt8.toNat_inj, Enumerated.toNat_code8, hc]

theorem enum16_echoes {α : Type} [Enumerated α] :
    Echoes Stop.undeclared getEnum16 getU16 (Enumerated.code16 : α → UInt16) :=
  .declared fun a c hc => by rw [← UInt16.toNat_inj, Enumerated.toNat_code16, hc]

theorem list_echoes {α β : Type} {read : Parse Stop α} {read' : Parse Stop β} {h : α → β}
    {limit : UInt32} (hread : Echoes .undeclared read read' h) :
    Echoes .undeclared (getList limit read) (getList limit read') (List.map h) :=
  .same fun n => .same fun _ => .same fun _ => hread.many n.toNat

section

variable (limits : ResourceLimits)

theorem backend_echoes :
    Echoes .undeclared (Protocol.getBackend limits) (getBackend limits) .of := by
  iterate 15 refine .same fun _ => ?_
  refine .bind enum8_echoes fun trustDomain => ?_
  iterate 9 refine .same fun _ => ?_
  refine .bind enum8_echoes fun provenance => ?_
  exact .same fun _ => .same fun _ => .same fun _ => .done rfl

theorem requirements_echoes :
    Echoes .undeclared (Protocol.getRequirements limits) (getRequirements limits) .of := by
  iterate 2 refine .same fun _ => ?_
  refine .bind enum8_echoes fun minimumCapabilityEvidence => ?_
  iterate 24 refine .same fun _ => ?_
  refine .bind enum8_echoes fun minimumTrust => ?_
  iterate 29 refine .same fun _ => ?_
  refine .bind enum8_echoes fun fallbackPolicy => ?_
  iterate 7 refine .same fun _ => ?_
  exact .done rfl

theorem request_echoes :
    Echoes .undeclared (Protocol.getRequest limits) (getRequest limits) .of := by
  iterate 22 refine .same fun _ => ?_
  exact .bind (requirements_echoes limits) fun requirements => .done rfl

theorem rejection_echoes :
    Echoes .undeclared (Protocol.getRejection limits) (getRejection limits) .of := by
  iterate 6 refine .same fun _ => ?_
  exact .bind enum16_echoes fun code => .same fun _ => .done rfl

theorem decision_echoes :
    Echoes .undeclared (Protocol.getDecision limits) (getDecision limits) .of := by
  iterate 4 refine .same fun _ => ?_
  refine .bind enum8_echoes fun status => .bind enum16_echoes fun code => ?_
  iterate 8 refine .same fun _ => ?_
  refine .bind enum8_echoes fun currentness => .bind enum16_echoes fun policyResult => ?_
  iterate 2 refine .same fun _ => ?_
  refine .bind (list_echoes (rejection_echoes limits)) fun rejections => ?_
  exact .same fun _ => .same fun _ => .done rfl

theorem response_echoes :
    Echoes .undeclared (Protocol.getResponse limits) (getResponse limits) .of := by
  refine .bind enum16_echoes fun code => .same fun _ => ?_
  exact .bind (decision_echoes limits) fun decision => .same fun _ => .same fun _ => .done rfl

theorem helloAck_echoes :
    Echoes .undeclared (Protocol.getHelloAck limits) (getHelloAck limits) .of := by
  iterate 3 refine .same fun _ => ?_
  exact .bind enum16_echoes fun code => .same fun _ => .same fun _ => .done rfl

theorem backendRegisterAck_echoes :
    Echoes .undeclared (Protocol.getBackendRegisterAck limits) (getBackendRegisterAck limits)
      .of := by
  iterate 2 refine .same fun _ => ?_
  exact .bind enum16_echoes fun code => .same fun _ => .same fun _ => .done rfl

theorem dispatchResult_echoes :
    Echoes .undeclared (Protocol.getDispatchResult limits) (getDispatchResult limits) .of := by
  iterate 2 refine .same fun _ => ?_
  refine .bind enum16_echoes fun code => ?_
  iterate 5 refine .same fun _ => ?_
  exact .done rfl

theorem error_echoes : Echoes .undeclared (Protocol.getError limits) (getError limits) .of :=
  .bind enum16_echoes fun _ => .same fun _ => .same fun _ => .done rfl

theorem adminResponse_echoes :
    Echoes .undeclared (Protocol.getAdminResponse limits) (getAdminResponse limits) .of :=
  .bind enum16_echoes fun _ => .same fun _ => .same fun _ => .same fun _ => .done rfl

end

section

variable {α β : Type} {p : Parse Stop α} {q : Parse Stop β} {g : α → β} {payload : List UInt8}
variable {limits : ResourceLimits} {make : α → Message} {make' : β → ReceivedMessage}

theorem decoded_echoes (hp : Echoes .undeclared p q g)
    (hmake : ∀ a, ReceivedMessage.of (make a) = make' (g a))
    (h : make <$> decodeMessage payload limits p ≠ .error .undeclared) :
    make' <$> decodeMessage payload limits q =
      ReceivedMessage.of <$> (make <$> decodeMessage payload limits p) := by
  simp only [decodeMessage] at h ⊢
  split at h
  · rename_i hlarge
    rw [if_pos hlarge, if_pos hlarge]
    rfl
  · rename_i hsmall
    rw [if_neg hsmall, if_neg hsmall]
    cases hrun : p.run ⟨payload, none⟩ with
    | mk o r =>
        rw [hrun] at h
        have hq := hp ⟨payload, none⟩
        rw [hrun] at hq
        cases o with
        | ok a =>
            rw [hq (by rintro ⟨⟩)]
            dsimp only [Except.map]
            split
            · exact congrArg Except.ok (hmake a).symm
            · rfl
        | error e =>
            cases e with
            | undeclared => exact absurd rfl h
            | malformed =>
                rw [hq (by rintro ⟨⟩)]
                dsimp only [Except.map]
                split <;> rfl

end

theorem checked_received {α : Type} {make : α → Message} {x : Except DecodeError α}
    (hmake : ∀ a, ReceivedMessage.of (make a) = .checked (make a)) :
    .checked <$> (make <$> x) = ReceivedMessage.of <$> (make <$> x) := by
  cases x with
  | error e => rfl
  | ok a => exact congrArg Except.ok (hmake a).symm

theorem decodeAs_received {m : Message} {payload : List UInt8} {limits : ResourceLimits}
    (h : Protocol.decodeAs m payload limits ≠ .error .undeclared) :
    decodeAs m payload limits = ReceivedMessage.of <$> Protocol.decodeAs m payload limits := by
  cases m with
  | helloAck => exact decoded_echoes (helloAck_echoes limits) (fun _ => rfl) h
  | backendRegister =>
      exact decoded_echoes ((backend_echoes limits).wrap fun _ => rfl) (fun _ => rfl) h
  | backendRegisterAck =>
      exact decoded_echoes (backendRegisterAck_echoes limits) (fun _ => rfl) h
  | routeRequest =>
      exact decoded_echoes ((request_echoes limits).wrap fun _ => rfl) (fun _ => rfl) h
  | routeResponse => exact decoded_echoes (response_echoes limits) (fun _ => rfl) h
  | dispatchResult => exact decoded_echoes (dispatchResult_echoes limits) (fun _ => rfl) h
  | error => exact decoded_echoes (error_echoes limits) (fun _ => rfl) h
  | adminResponse => exact decoded_echoes (adminResponse_echoes limits) (fun _ => rfl) h
  | _ => exact checked_received fun _ => rfl

theorem malformed_ne : Stop.malformed ≠ .undeclared := by
  rintro ⟨⟩

section

variable {t : Tag} (limits : ResourceLimits)

theorem hello_avoids : Avoids .undeclared (getHello limits) := by
  iterate 6 refine .bind .word fun _ => ?_
  exact .bind .string fun _ => .bind .word fun _ => .bind (.settle malformed_ne) fun _ => .done

theorem publication_avoids : Avoids .undeclared (getPublication limits) := by
  iterate 5 refine .bind .word fun _ => ?_
  refine .bind ?_ fun _ => .bind (.settle malformed_ne) fun _ => .done
  refine .bind .word fun n => .bind (.settle malformed_ne) fun _ => ?_
  exact .bind (.refuse malformed_ne) fun _ => .many (.withError malformed_ne) n.toNat

theorem key_avoids : Avoids Stop.undeclared getCandidateKey := by
  iterate 8 refine .bind .word fun _ => ?_
  exact .done

theorem dispatch_avoids : Avoids .undeclared getDispatch := by
  iterate 4 refine .bind .word fun _ => ?_
  exact .bind key_avoids fun _ => .bind .word fun _ => .bind (.settle malformed_ne) fun _ => .done

theorem evidence_avoids {σ : Type} [Enumerated σ] :
    Avoids .undeclared (getBackendEvidence limits : Parse Stop (BackendEvidence σ t)) := by
  iterate 8 refine .bind .word fun _ => ?_
  iterate 2 refine .bind .string fun _ => ?_
  exact .bind (.settle malformed_ne) fun _ => .bind (.ofOption malformed_ne) fun _ => .done

theorem capacityDetail_avoids : Avoids .undeclared getCapacityDetail := by
  iterate 9 refine .bind .word fun _ => ?_
  exact .bind (.settle malformed_ne) fun _ => .done

theorem latency_avoids : Avoids .undeclared (getLatency limits) := by
  iterate 13 refine .bind .word fun _ => ?_
  exact .bind .string fun _ => .bind (.settle malformed_ne) fun _ => .done

theorem adminRequest_avoids : Avoids .undeclared (getAdminRequest limits) := by
  iterate 6 refine .bind .word fun _ => ?_
  refine .bind .string fun _ => .bind (.settle malformed_ne) fun _ => ?_
  exact .bind (.ofOption malformed_ne) fun _ => .done

end

theorem decoded_avoids {α : Type} {p : Parse Stop α} {make : α → Message} {payload : List UInt8}
    {limits : ResourceLimits} (hp : Avoids .undeclared p) :
    make <$> decodeMessage payload limits p ≠ .error .undeclared := by
  rw [decodeMessage]
  split
  · rintro ⟨⟩
  · have hne := hp ⟨payload, none⟩
    split
    · split <;> rintro ⟨⟩
    · rename_i hrun
      exact absurd (by rw [hrun]) hne
    · split <;> rintro ⟨⟩

theorem decodeAs_checked {m : Message} {payload : List UInt8} {limits : ResourceLimits}
    (h : ReceivedMessage.of m = .checked m) :
    Protocol.decodeAs m payload limits ≠ .error .undeclared := by
  cases m with
  | hello => exact decoded_avoids (hello_avoids limits)
  | capabilityPublish =>
      exact decoded_avoids (.bind (publication_avoids limits) fun _ => .done)
  | dispatch => exact decoded_avoids dispatch_avoids
  | health | availability | readiness | residency =>
      exact decoded_avoids (evidence_avoids limits)
  | capacity =>
      exact decoded_avoids (.bind (evidence_avoids limits) fun _ =>
        .bind capacityDetail_avoids fun _ => .done)
  | latency => exact decoded_avoids (latency_avoids limits)
  | cost => exact decoded_avoids (.withError malformed_ne)
  | adminRequest => exact decoded_avoids (adminRequest_avoids limits)
  | _ => cases h

end ModelRouter.Received
