import ModelRouter.Stored

namespace ModelRouter.RecordCodec

open Base Base.Parse Bytes Ids Outcome Limits Capability Evidence Catalog Candidate Authority
open Persistence Codec Stored
open Base.Put (puts)

/-- A load that was turned down. -/
structure Refused where
  code : OutcomeCode
  detail : Text
  formatVersion : UInt32 := 0
deriving DecidableEq, Repr

def malformed (detail : Text) : Refused :=
  ⟨.rejectInvalid, detail, 1⟩

def overLimit (detail : Text) : Refused :=
  ⟨.rejectLimit, detail, 1⟩

variable {ε : Type}

def writeProfile (limits : ResourceLimits) (profile : CapabilityProfile) : Put :=
  puts [putId profile.id, putGeneration profile.generation, putCount profile.entries,
    puts (profile.entries.map (putCapability limits))]

def readClaims (limits : ResourceLimits) (parsed : CapabilityProfile) :
    Nat → Parse Unit CapabilityProfile
  | 0 => return parsed
  | count + 1 => do
    let evidence ← getCapability limits
    let parsed ← ofOption (parsed.set evidence limits.maxCapabilityEntries) ()
    readClaims limits parsed count

def readProfile (limits : ResourceLimits) : Parse Unit CapabilityProfile := do
  let id ← getId
  let generation ← getGeneration
  let count ← getU32
  settle ()
  refuse (count > limits.maxCapabilityEntries) ()
  readClaims limits { id := id, generation := generation } count.toNat

def writeMeta (s : StoredState) : Put :=
  puts [putId s.routerId, putGeneration s.routerGeneration, putGeneration s.lastRouterEpoch,
    putGeneration s.lastCoordinatorEpoch, putGeneration s.lastBoot,
    putGeneration s.lastPolicyGeneration, putGeneration s.lastPriceGeneration,
    putGeneration s.lastBudgetGeneration, putGeneration s.lastSloGeneration,
    putGeneration s.lastCapabilityGeneration, putGeneration s.lastModelGeneration,
    putGeneration s.lastBackendGeneration, putI64 s.savedAtUnixMillis,
    putI64 s.lastStartedAtUnixMillis, putU64 s.counters.highestIdentityIssued,
    putU64 s.counters.routeRequests, putU64 s.counters.routeDecisions,
    putU64 s.counters.dispatches, putU64 s.counters.routeRejections, putU64 s.counters.reroutes,
    putU64 s.counters.fallbacksTaken, putU32 s.limits.maxModels, putU32 s.limits.maxBackends,
    putU32 s.limits.maxRouteHistory, putU32 s.limits.maxFallbackCandidates,
    putU32 s.limits.maxExplanationFactors, putU32 s.limits.maxStringBytes,
    putU32 s.limits.maxCapabilityEntriesPerBackend, putU32 s.limits.maxModelBindingsPerBackend]

/-- The meta record is read into the state; what it does not carry stays. -/
def readMeta (state : StoredState) : Parse ε StoredState := do
  return { state with
    routerId := ← getId
    routerGeneration := ← getGeneration
    lastRouterEpoch := ← getGeneration
    lastCoordinatorEpoch := ← getGeneration
    lastBoot := ← getGeneration
    lastPolicyGeneration := ← getGeneration
    lastPriceGeneration := ← getGeneration
    lastBudgetGeneration := ← getGeneration
    lastSloGeneration := ← getGeneration
    lastCapabilityGeneration := ← getGeneration
    lastModelGeneration := ← getGeneration
    lastBackendGeneration := ← getGeneration
    savedAtUnixMillis := ← getI64
    lastStartedAtUnixMillis := ← getI64
    counters := {
      highestIdentityIssued := ← getU64
      routeRequests := ← getU64
      routeDecisions := ← getU64
      dispatches := ← getU64
      routeRejections := ← getU64
      reroutes := ← getU64
      fallbacksTaken := ← getU64 }
    limits := { state.limits with
      maxModels := ← getU32
      maxBackends := ← getU32
      maxRouteHistory := ← getU32
      maxFallbackCandidates := ← getU32
      maxExplanationFactors := ← getU32
      maxStringBytes := ← getU32
      maxCapabilityEntriesPerBackend := ← getU32
      maxModelBindingsPerBackend := ← getU32 } }

def writeModel (limits : ResourceLimits) (model : StoredModel) : Put :=
  puts [putId model.modelId, putGeneration model.modelGeneration, putId model.modelVersionId,
    putGeneration model.artifactGeneration, putId model.familyId,
    putU32 model.contextLimitTokens, putU32 model.maxOutputTokens,
    putU32 model.inputModalities.bits, putU32 model.outputModalities.bits,
    putU32 model.qualityClass, putU8 model.lifecycle, putId model.capabilityProfileId,
    putGeneration model.capabilityGeneration, writeProfile limits model.capabilities,
    putU8 model.provenance, putI64 model.registeredAtUnixMillis,
    putI64 model.expiresAtUnixMillis, putString limits model.displayName]

def readModel (limits : ResourceLimits) (profile : Parse Unit CapabilityProfile) :
    Parse Refused StoredModel := do
  return {
    modelId := ← getId
    modelGeneration := ← getGeneration
    modelVersionId := ← getId
    artifactGeneration := ← getGeneration
    familyId := ← getId
    contextLimitTokens := ← getU32
    maxOutputTokens := ← getU32
    inputModalities := ⟨← getU32⟩
    outputModalities := ⟨← getU32⟩
    qualityClass := ← getU32
    lifecycle := ← getU8
    capabilityProfileId := ← getId
    capabilityGeneration := ← getGeneration
    capabilities := ← profile.withError
      (malformed "persistence model record has an invalid capability profile")
    provenance := ← getU8
    registeredAtUnixMillis := ← getI64
    expiresAtUnixMillis := ← getI64
    displayName := ← getString limits }

def writeBinding (limits : ResourceLimits) (binding : ModelBinding) : Put :=
  puts [putId binding.modelId, putGeneration binding.modelGeneration,
    putGeneration binding.artifactGeneration, putU32 binding.contextLimitTokens,
    putU32 binding.qualityClass, putCost limits binding.cost, putI64 binding.boundAtUnixMillis]

def readBinding (limits : ResourceLimits) : Parse Refused ModelBinding := do
  return {
    modelId := ← getId
    modelGeneration := ← getGeneration
    artifactGeneration := ← getGeneration
    contextLimitTokens := ← getU32
    qualityClass := ← getU32
    cost := ← (getCost limits).withError
      (malformed "persistence backend record has invalid cost evidence")
    boundAtUnixMillis := ← getI64 }

def writeBackend (limits : ResourceLimits) (record : StoredBackend) : Put :=
  puts [putId record.backendId, putGeneration record.backendGeneration,
    putGeneration record.lastBoot, putGeneration record.lastRegistrationGeneration,
    putId record.providerId, putGeneration record.providerGeneration, putId record.endpointId,
    putGeneration record.lastEndpointGeneration, putId record.trustProfileId,
    putGeneration record.trustGeneration, putU8 record.trustDomain,
    putString limits record.locality, putU32 record.networkDistance,
    putId record.capabilityProfileId, putGeneration record.capabilityGeneration,
    writeProfile limits record.capabilities, putCount record.modelBindings,
    puts (record.modelBindings.map (writeBinding limits)), putBool record.offlineCapable,
    putU8 record.provenance, putI64 record.registeredAtUnixMillis]

def readBindings (limits : ResourceLimits) : Parse Refused (List ModelBinding) := do
  let bindings ← getU32
  refuse (bindings > limits.maxModelBindingsPerBackend)
    (overLimit "persistence backend record exceeds the model binding limit")
  many (readBinding limits) bindings.toNat

def readBackend (limits : ResourceLimits) (profile : Parse Unit CapabilityProfile)
    (flag : Parse Refused Bool) : Parse Refused StoredBackend := do
  return {
    backendId := ← getId
    backendGeneration := ← getGeneration
    lastBoot := ← getGeneration
    lastRegistrationGeneration := ← getGeneration
    providerId := ← getId
    providerGeneration := ← getGeneration
    endpointId := ← getId
    lastEndpointGeneration := ← getGeneration
    trustProfileId := ← getId
    trustGeneration := ← getGeneration
    trustDomain := ← getU8
    locality := ← getString limits
    networkDistance := ← getU32
    capabilityProfileId := ← getId
    capabilityGeneration := ← getGeneration
    capabilities := ← profile.withError
      (malformed "persistence backend record has an invalid capability profile")
    modelBindings := ← readBindings limits
    offlineCapable := ← flag
    provenance := ← getU8
    registeredAtUnixMillis := ← getI64 }

def writeFence (record : StoredFence) : Put :=
  puts [putId record.backendId, putGeneration record.backendGeneration,
    putGeneration record.backendBoot, putU16 record.reason, putI64 record.fencedAtUnixMillis]

def readFence : Parse ε StoredFence := do
  return {
    backendId := ← getId
    backendGeneration := ← getGeneration
    backendBoot := ← getGeneration
    reason := ← getU16
    fencedAtUnixMillis := ← getI64 }

def writeRoute (limits : ResourceLimits) (record : StoredRoute) : Put :=
  puts [putId record.decisionId, putGeneration record.decisionGeneration,
    putId record.requestId, putGeneration record.requestGeneration,
    putCandidateKey record.winner, putCount record.fallbacks,
    puts (record.fallbacks.map putCandidateKey), putAuthority record.authority,
    putU8 record.status, putU16 record.code, putCost limits record.cost,
    putGeneration record.policyGeneration, putGeneration record.priceGeneration,
    putGeneration record.budgetGeneration, putGeneration record.sloGeneration,
    putString limits record.semanticDigest, putString limits record.requirementDigest,
    putI64 record.createdAtUnixMillis]

def readFallbacks (limits : ResourceLimits) : Parse Refused (List CandidateKey) := do
  let fallbacks ← getU32
  refuse (fallbacks > limits.maxFallbackCandidates)
    (overLimit "persistence route record exceeds the fallback limit")
  many getCandidateKey fallbacks.toNat

def readRoute (limits : ResourceLimits) : Parse Refused StoredRoute := do
  return {
    decisionId := ← getId
    decisionGeneration := ← getGeneration
    requestId := ← getId
    requestGeneration := ← getGeneration
    winner := ← getCandidateKey
    fallbacks := ← readFallbacks limits
    authority := ← getAuthority
    status := ← getU8
    code := ← getU16
    cost := ← (getCost limits).withError
      (malformed "persistence route record has invalid cost evidence")
    policyGeneration := ← getGeneration
    priceGeneration := ← getGeneration
    budgetGeneration := ← getGeneration
    sloGeneration := ← getGeneration
    semanticDigest := ← getString limits
    requirementDigest := ← getString limits
    createdAtUnixMillis := ← getI64 }

def readBody {α : Type} (p : Parse Refused α) (detail : Text) (body : List UInt8) :
    Except Refused α :=
  (Parse.run (do
    let record ← p
    settle (malformed detail)
    exhaust (malformed detail)
    return record) ⟨body, none⟩).1

end ModelRouter.RecordCodec
