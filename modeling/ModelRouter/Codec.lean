import ModelRouter.Base.Wire
import ModelRouter.Authority
import ModelRouter.Candidate
import ModelRouter.Limits

namespace ModelRouter.Codec

open Base Base.Parse Ids Limits Capability Evidence Candidate Authority
open Base.Put (puts)

variable {ε : Type} {t : Tag}

instance : Word (EntityId t) :=
  .ofEquiv EntityId.value EntityId.mk (fun _ => rfl) fun _ => rfl

instance : Word (Generation t) :=
  .ofEquiv Generation.value Generation.mk (fun _ => rfl) fun _ => rfl

instance : Enumerated CapabilityState :=
  .ofCodes [.unknown, .declared, .observed, .verified, .revoked, .stale, .unsupported]
    CapabilityState.ctorIdx (by rintro ⟨⟩ <;> decide) rfl (by decide)

instance : Enumerated CostKnownness :=
  .ofCodes [.unknown, .estimated, .quoted, .contracted]
    CostKnownness.ctorIdx (by rintro ⟨⟩ <;> decide) rfl (by decide)

abbrev putU8 (value : UInt8) : Put := Put.word value
abbrev putU16 (value : UInt16) : Put := Put.word value
abbrev putU32 (value : UInt32) : Put := Put.word value
abbrev putU64 (value : UInt64) : Put := Put.word value
abbrev putI64 (value : Int64) : Put := Put.word value
abbrev putId (id : EntityId t) : Put := Put.word id
abbrev putGeneration (generation : Generation t) : Put := Put.word generation
abbrev putBool (value : Bool) : Put := Put.bool value

abbrev putString (limits : ResourceLimits) (value : List UInt8) : Put :=
  Put.string limits.maxStringBytes.toNat value

abbrev putCount {α : Type} (xs : List α) : Put :=
  putU32 (UInt32.ofNat xs.length)

abbrev putCode8 {α : Type} [Enumerated α] (a : α) : Put :=
  putU8 (Enumerated.code8 a)

abbrev putCode16 {α : Type} [Enumerated α] (a : α) : Put :=
  putU16 (Enumerated.code16 a)

abbrev getU8 : Parse ε UInt8 := word
abbrev getU16 : Parse ε UInt16 := word
abbrev getU32 : Parse ε UInt32 := word
abbrev getU64 : Parse ε UInt64 := word
abbrev getI64 : Parse ε Int64 := word
abbrev getId : Parse ε (EntityId t) := word
abbrev getGeneration : Parse ε (Generation t) := word
abbrev getBool : Parse ε Bool := Parse.bool

abbrev getString (limits : ResourceLimits) : Parse ε (List UInt8) :=
  Parse.string limits.maxStringBytes.toNat

def putCapability (limits : ResourceLimits) (evidence : CapabilityEvidence) : Put :=
  puts [putString limits evidence.key, putCode8 evidence.state,
    putGeneration evidence.generation, putId evidence.profileId,
    putGeneration evidence.modelGeneration, putGeneration evidence.backendGeneration,
    putGeneration evidence.backendBoot, putI64 evidence.observedAtUnixMillis,
    putI64 evidence.expiresAtUnixMillis, putString limits evidence.source,
    putString limits evidence.detail]

def getCapability (limits : ResourceLimits) : Parse Unit CapabilityEvidence := do
  let key ← getString limits
  let state ← getU8
  let generation ← getGeneration
  let profileId ← getId
  let modelGeneration ← getGeneration
  let backendGeneration ← getGeneration
  let backendBoot ← getGeneration
  let observedAtUnixMillis ← getI64
  let expiresAtUnixMillis ← getI64
  let source ← getString limits
  let detail ← getString limits
  settle ()
  let state ← declared state.toNat ()
  return {
    key := key, state := state, generation := generation, profileId := profileId,
    modelGeneration := modelGeneration, backendGeneration := backendGeneration,
    backendBoot := backendBoot, observedAtUnixMillis := observedAtUnixMillis,
    expiresAtUnixMillis := expiresAtUnixMillis, source := source, detail := detail }

def putCost (limits : ResourceLimits) (cost : CostEvidence) : Put :=
  puts [putId cost.evidenceId, putGeneration cost.priceGeneration, putId cost.backendId,
    putId cost.modelId, putString limits cost.unit.currency, putString limits cost.unit.basis,
    putI64 cost.inputMicrosPerUnit, putI64 cost.outputMicrosPerUnit,
    putI64 cost.requestMinimumMicros, putI64 cost.cacheReadMicrosPerUnit,
    putI64 cost.cacheWriteMicrosPerUnit, putI64 cost.estimatedTotalMicros,
    putCode8 cost.knownness, putI64 cost.effectiveAtUnixMillis,
    putI64 cost.expiresAtUnixMillis, putString limits cost.source]

def getCost (limits : ResourceLimits) : Parse Unit CostEvidence := do
  let evidenceId ← getId
  let priceGeneration ← getGeneration
  let backendId ← getId
  let modelId ← getId
  let currency ← getString limits
  let basis ← getString limits
  let inputMicrosPerUnit ← getI64
  let outputMicrosPerUnit ← getI64
  let requestMinimumMicros ← getI64
  let cacheReadMicrosPerUnit ← getI64
  let cacheWriteMicrosPerUnit ← getI64
  let estimatedTotalMicros ← getI64
  let knownness ← getU8
  let effectiveAtUnixMillis ← getI64
  let expiresAtUnixMillis ← getI64
  let source ← getString limits
  settle ()
  let knownness ← declared knownness.toNat ()
  return {
    evidenceId := evidenceId, priceGeneration := priceGeneration, backendId := backendId,
    modelId := modelId, unit := { currency := currency, basis := basis },
    inputMicrosPerUnit := inputMicrosPerUnit, outputMicrosPerUnit := outputMicrosPerUnit,
    requestMinimumMicros := requestMinimumMicros,
    cacheReadMicrosPerUnit := cacheReadMicrosPerUnit,
    cacheWriteMicrosPerUnit := cacheWriteMicrosPerUnit,
    estimatedTotalMicros := estimatedTotalMicros, knownness := knownness,
    effectiveAtUnixMillis := effectiveAtUnixMillis, expiresAtUnixMillis := expiresAtUnixMillis,
    source := source }

def putCandidateKey (key : CandidateKey) : Put :=
  puts [putId key.modelId, putGeneration key.modelGeneration,
    putGeneration key.artifactGeneration, putId key.backendId,
    putGeneration key.backendGeneration, putGeneration key.backendBoot, putId key.endpointId,
    putGeneration key.endpointGeneration]

def getCandidateKey : Parse ε CandidateKey := do
  return {
    modelId := ← getId
    modelGeneration := ← getGeneration
    artifactGeneration := ← getGeneration
    backendId := ← getId
    backendGeneration := ← getGeneration
    backendBoot := ← getGeneration
    endpointId := ← getId
    endpointGeneration := ← getGeneration }

def putAuthority (authority : RouteAuthority) : Put :=
  puts [putId authority.routerId, putGeneration authority.routerEpoch,
    putGeneration authority.coordinatorEpoch, putId authority.requestId,
    putGeneration authority.requestGeneration, putId authority.decisionId,
    putGeneration authority.decisionGeneration, putId authority.modelId,
    putGeneration authority.modelGeneration, putGeneration authority.artifactGeneration,
    putId authority.providerId, putGeneration authority.providerGeneration,
    putId authority.backendId, putGeneration authority.backendGeneration,
    putGeneration authority.backendBoot, putGeneration authority.backendRegistrationGeneration,
    putId authority.endpointId, putGeneration authority.endpointGeneration,
    putId authority.capabilityProfileId, putGeneration authority.capabilityGeneration,
    putId authority.policyId, putGeneration authority.policyGeneration,
    putId authority.budgetId, putGeneration authority.budgetGeneration,
    putId authority.costEvidenceId, putGeneration authority.priceGeneration,
    putId authority.sloId, putGeneration authority.sloGeneration,
    putId authority.compatibilityProfileId, putGeneration authority.compatibilityGeneration,
    putId authority.trustProfileId, putGeneration authority.trustGeneration,
    putGeneration authority.healthGeneration, putGeneration authority.availabilityGeneration,
    putGeneration authority.readinessGeneration, putGeneration authority.residencyGeneration,
    putGeneration authority.capacityGeneration, putId authority.reservationId,
    putGeneration authority.reservationGeneration, putId authority.tenant,
    putId authority.nameSpace, putGeneration authority.dispatchGeneration,
    putI64 authority.issuedAtUnixMillis, putI64 authority.expiresAtUnixMillis]

def getAuthority : Parse ε RouteAuthority := do
  return {
    routerId := ← getId
    routerEpoch := ← getGeneration
    coordinatorEpoch := ← getGeneration
    requestId := ← getId
    requestGeneration := ← getGeneration
    decisionId := ← getId
    decisionGeneration := ← getGeneration
    modelId := ← getId
    modelGeneration := ← getGeneration
    artifactGeneration := ← getGeneration
    providerId := ← getId
    providerGeneration := ← getGeneration
    backendId := ← getId
    backendGeneration := ← getGeneration
    backendBoot := ← getGeneration
    backendRegistrationGeneration := ← getGeneration
    endpointId := ← getId
    endpointGeneration := ← getGeneration
    capabilityProfileId := ← getId
    capabilityGeneration := ← getGeneration
    policyId := ← getId
    policyGeneration := ← getGeneration
    budgetId := ← getId
    budgetGeneration := ← getGeneration
    costEvidenceId := ← getId
    priceGeneration := ← getGeneration
    sloId := ← getId
    sloGeneration := ← getGeneration
    compatibilityProfileId := ← getId
    compatibilityGeneration := ← getGeneration
    trustProfileId := ← getId
    trustGeneration := ← getGeneration
    healthGeneration := ← getGeneration
    availabilityGeneration := ← getGeneration
    readinessGeneration := ← getGeneration
    residencyGeneration := ← getGeneration
    capacityGeneration := ← getGeneration
    reservationId := ← getId
    reservationGeneration := ← getGeneration
    tenant := ← getId
    nameSpace := ← getId
    dispatchGeneration := ← getGeneration
    issuedAtUnixMillis := ← getI64
    expiresAtUnixMillis := ← getI64 }

end ModelRouter.Codec
