import ModelRouter.Bytes

namespace ModelRouter.Limits

open Base.Refusal Bytes

structure ResourceLimits where
  maxModels : UInt32 := 8192
  maxProviders : UInt32 := 1024
  maxBackends : UInt32 := 16384
  maxBackendIncarnations : UInt32 := 65536
  maxEndpoints : UInt32 := 16384
  maxModelBindingsPerBackend : UInt32 := 256
  maxCapabilityEntriesPerModel : UInt32 := 256
  maxCapabilityEntriesPerBackend : UInt32 := 256
  maxCapabilityEntries : UInt32 := 1048576
  maxCandidatesPerRequest : UInt32 := 100000
  maxRankedCandidates : UInt32 := 4096
  maxFallbackCandidates : UInt32 := 64
  maxExplanationFactors : UInt32 := 512
  maxRejectionRecords : UInt32 := 100000
  maxRouteRequests : UInt32 := 1000000
  maxRouteDecisions : UInt32 := 1000000
  maxRouteHistory : UInt32 := 1000000
  maxDispatchRecords : UInt32 := 1000000
  maxRequirementEntries : UInt32 := 256
  maxAllowlistEntries : UInt32 := 4096
  maxPolicyRecords : UInt32 := 1024
  maxBudgetRecords : UInt32 := 1024
  maxSloRecords : UInt32 := 1024
  maxCostRecords : UInt32 := 65536
  maxCompatibilityRecords : UInt32 := 4096
  maxTrustRecords : UInt32 := 4096
  maxTenants : UInt32 := 4096
  maxNamespaces : UInt32 := 8192
  maxTenantPolicyBindings : UInt32 := 4096
  maxConnections : UInt32 := 256
  maxSessionThreads : UInt32 := 512
  maxSendQueueFrames : UInt32 := 4096
  maxOutstandingCorrelations : UInt32 := 4096
  maxFramePayloadBytes : UInt32 := 4194304
  maxPayloadBytes : UInt32 := 4194304
  maxFrameBytes : UInt32 := 8388608
  maxStringBytes : UInt32 := 4096
  maxCollectionEntries : UInt32 := 100000
  maxMetadataEntries : UInt32 := 256
  maxMetadataKeyBytes : UInt32 := 128
  maxMetadataValueBytes : UInt32 := 2048
  maxPersistenceBytes : UInt64 := 1073741824
  maxPersistenceRecords : UInt32 := 4000000
  maxTemporaryFiles : UInt32 := 256
deriving DecidableEq, Repr, Inhabited

/-- One relation of `validate` that fails, as `add_failure` words it. -/
def failure (violated : Bool) (name : String) (value : Nat) (relation : String) (bound : Nat) :
    Option Text :=
  violation violated
    (text (name ++ "=" ++ toString value ++ " violates " ++ relation ++ "=" ++ toString bound))

namespace ResourceLimits

/-- `none` when the limits are coherent, otherwise the first violated relation. -/
def validate (l : ResourceLimits) : Option Text :=
  let minimum (name : String) (value : Nat) := failure (value == 0) name value "minimum" 1
  let atMost (name : String) (value : Nat) (relation : String) (bound : Nat) :=
    failure ((value > bound)) name value relation bound
  let atLeast (name : String) (value : Nat) (relation : String) (bound : Nat) :=
    failure ((value < bound)) name value relation bound
  minimum "max_models" l.maxModels.toNat <|>
  minimum "max_backends" l.maxBackends.toNat <|>
  minimum "max_candidates_per_request" l.maxCandidatesPerRequest.toNat <|>
  minimum "max_ranked_candidates" l.maxRankedCandidates.toNat <|>
  atMost "max_ranked_candidates" l.maxRankedCandidates.toNat
    "max_candidates_per_request" l.maxCandidatesPerRequest.toNat <|>
  atMost "max_fallback_candidates" l.maxFallbackCandidates.toNat
    "max_ranked_candidates" l.maxRankedCandidates.toNat <|>
  minimum "max_explanation_factors" l.maxExplanationFactors.toNat <|>
  atLeast "max_rejection_records" l.maxRejectionRecords.toNat
    "max_candidates_per_request" l.maxCandidatesPerRequest.toNat <|>
  minimum "max_frame_payload_bytes" l.maxFramePayloadBytes.toNat <|>
  atLeast "max_frame_bytes" l.maxFrameBytes.toNat
    "max_frame_payload_bytes" l.maxFramePayloadBytes.toNat <|>
  minimum "max_payload_bytes" l.maxPayloadBytes.toNat <|>
  minimum "max_string_bytes" l.maxStringBytes.toNat <|>
  minimum "max_collection_entries" l.maxCollectionEntries.toNat <|>
  atMost "max_metadata_entries" l.maxMetadataEntries.toNat
    "max_collection_entries" l.maxCollectionEntries.toNat <|>
  minimum "max_persistence_bytes" l.maxPersistenceBytes.toNat <|>
  minimum "max_persistence_records" l.maxPersistenceRecords.toNat <|>
  minimum "max_send_queue_frames" l.maxSendQueueFrames.toNat <|>
  minimum "max_session_threads" l.maxSessionThreads.toNat <|>
  minimum "max_connections" l.maxConnections.toNat <|>
  minimum "max_route_history" l.maxRouteHistory.toNat <|>
  minimum "max_requirement_entries" l.maxRequirementEntries.toNat <|>
  minimum "max_model_bindings_per_backend" l.maxModelBindingsPerBackend.toNat <|>
  atLeast "max_backend_incarnations" l.maxBackendIncarnations.toNat
    "max_backends" l.maxBackends.toNat

end ResourceLimits

end ModelRouter.Limits
