import ModelRouter.State

namespace ModelRouter.CatalogMutation

open Base Base.Refusal Bytes Ids Outcome Capability Evidence Catalog Limits Persistence State

/-- One pass of a mutation through its lock: the early return that applies, if any, and
otherwise the state it edits, whether it ends by checking every retained decision again, and the
result it gives. -/
structure Attempt where
  refusal : Option MutationResult
  edited : CanonicalState
  restales : Bool := true
  answer : MutationResult

namespace Attempt

def written (a : Attempt) (now : UnixMillis) : CanonicalState :=
  if a.restales then a.edited.staleDecisionsForAuthorityChange now else a.edited

def settle (a : Attempt) (now : UnixMillis) (s : CanonicalState) :
    CanonicalState × MutationResult :=
  match a.refusal with
  | some result => (s, result)
  | none => (a.written now, a.answer)

variable {a : Attempt}

theorem settle_of_some {r : MutationResult} (h : a.refusal = some r) (now : UnixMillis)
    (s : CanonicalState) : a.settle now s = (s, r) := by
  simp only [settle, h]

theorem settle_of_none (h : a.refusal = none) (now : UnixMillis) (s : CanonicalState) :
    a.settle now s = (a.written now, a.answer) := by
  simp only [settle, h]

end Attempt

def reject (code : OutcomeCode) (subject message : Text) : MutationResult :=
  .make code subject message

@[simp] theorem reject_code (code : OutcomeCode) (subject message : Text) :
    (reject code subject message).code = code := rfl

section

variable {t : Tag}

def generationRegressed (incoming current : Generation t) : Bool :=
  current.valid && incoming.valid && incoming < current

end

def shuttingDownRefusal (s : CanonicalState) (subject : Text) : Option MutationResult :=
  refuse s.shuttingDown (reject .shuttingDown subject "router is shutting down")

def editBackend (s : CanonicalState) (backendId : BackendId)
    (edit : BackendDescriptor → BackendDescriptor) : CanonicalState :=
  match s.backends.find? backendId with
  | none => s
  | some existing => { s with backends := s.backends.insert backendId (edit existing) }

def registerModel (s : CanonicalState) (model : ModelDescriptor) : Attempt where
  refusal :=
    model.validate.map (reject .rejectInvalid "register_model") <|>
    shuttingDownRefusal s "register_model" <|>
    refuse (s.models.size ≥ s.limits.maxModels.toNat && !s.models.contains model.modelId)
      (reject .rejectLimit "register_model" "model limit reached") <|>
    refuse ((s.modelGenerationWatermark.find? model.modelId).any
        (generationRegressed model.modelGeneration))
      (reject .rejectStaleModel "register_model"
        "model generation regressed below the observed watermark") <|>
    refuse ((s.models.find? model.modelId).any fun existing =>
        existing.modelGeneration == model.modelGeneration &&
        existing.artifactGeneration == model.artifactGeneration &&
        existing.lifecycle == model.lifecycle)
      (.make .noChange "register_model" "model generation is already registered")
  edited :=
    { s with
      modelGenerationWatermark :=
        s.modelGenerationWatermark.insert model.modelId model.modelGeneration
      models := s.models.insert model.modelId model }
  restales := false
  answer :=
    .accept "register_model" []
      [.u64 "model_id" model.modelId.value,
        .u64 "model_generation" model.modelGeneration.value,
        .u64 "artifact_generation" model.artifactGeneration.value]

def registerProvider (s : CanonicalState) (provider : ProviderDescriptor) : Attempt where
  refusal :=
    refuse (!provider.providerId.valid)
      (reject .rejectInvalid "register_provider" "provider identity is invalid") <|>
    refuse (!provider.generation.valid)
      (reject .rejectInvalid "register_provider" "provider generation is invalid") <|>
    shuttingDownRefusal s "register_provider" <|>
    refuse (s.providers.size ≥ s.limits.maxProviders.toNat &&
        !s.providers.contains provider.providerId)
      (reject .rejectLimit "register_provider" "provider limit reached") <|>
    refuse ((s.providers.find? provider.providerId).any fun existing =>
        existing.generation == provider.generation &&
        existing.displayName == provider.displayName)
      (.make .noChange "register_provider" "provider generation is already registered") <|>
    refuse ((s.providers.find? provider.providerId).any fun existing =>
        generationRegressed provider.generation existing.generation)
      (reject .rejectStaleBackend "register_provider" "provider generation regressed")
  edited := { s with providers := s.providers.insert provider.providerId provider }
  restales := false
  answer := .accept "register_provider" [] []

def installBackend (s : CanonicalState) (backend : BackendDescriptor) : CanonicalState :=
  let unindexed := match s.backends.find? backend.backendId with
    | some replaced => s.indexRemoveBackend replaced
    | none => s
  { unindexed with
    backends := unindexed.backends.insert backend.backendId backend }.indexAddBackend backend

def removeBackend (s : CanonicalState) (backend : BackendDescriptor) (backendId : BackendId) :
    CanonicalState :=
  { s.indexRemoveBackend backend with backends := s.backends.erase backendId }

def registerBackend (s : CanonicalState) (raw : BackendDescriptor) : Attempt :=
  let backend := raw.canonicalize
  { refusal :=
      backend.validate.map (reject .rejectInvalid "register_backend") <|>
      shuttingDownRefusal s "register_backend" <|>
      refuse (s.isFenced backend.backendId backend.backendBoot)
        (reject .rejectStaleBackendBoot "register_backend"
          "backend incarnation is fenced and can never become authoritative again") <|>
      refuse (s.backends.size ≥ s.limits.maxBackends.toNat && !s.backends.contains backend.backendId)
        (reject .rejectLimit "register_backend" "backend limit reached") <|>
      refuse ((s.backendGenerationWatermark.find? backend.backendId).any
          (generationRegressed backend.backendGeneration))
        (reject .rejectStaleBackend "register_backend"
          "backend generation regressed below the observed watermark") <|>
      refuse ((s.backends.find? backend.backendId).any fun existing =>
          backend.backendRegistrationGeneration ≤ existing.backendRegistrationGeneration)
        (reject .rejectStaleBackend "register_backend"
          "registration generation did not advance")
    edited :=
      installBackend
        { s with
          backendGenerationWatermark :=
            s.backendGenerationWatermark.insert backend.backendId backend.backendGeneration }
        backend
    answer :=
      .accept "register_backend" []
        [.u64 "backend_id" backend.backendId.value,
          .u64 "backend_generation" backend.backendGeneration.value,
          .u64 "backend_boot" backend.backendBoot.value,
          .u64 "registration_generation" backend.backendRegistrationGeneration.value,
          ⟨"provenance", backend.provenance.name⟩] }

def unregisterBackend (s : CanonicalState) (backendId : BackendId) (generation : BackendGeneration)
    (now : UnixMillis) : Attempt where
  refusal :=
    shuttingDownRefusal s "unregister_backend" <|>
    refuse (!s.backends.contains backendId)
      (.make .noChange "unregister_backend" "backend is not registered") <|>
    refuse ((s.backends.find? backendId).any fun existing =>
        generation.valid && existing.backendGeneration != generation)
      (reject .rejectStaleBackend "unregister_backend"
        "backend generation does not match the current registration")
  edited :=
    match s.backends.find? backendId with
    | none => s
    | some existing =>
      let record : FencedBootRecord :=
        { backendId := backendId
          backendGeneration := existing.backendGeneration
          backendBoot := existing.backendBoot
          reason := .fenced
          fencedAtUnixMillis := now }
      let fenced :=
        { s with fencedBoots := s.fencedBoots.insert ⟨backendId, existing.backendBoot⟩ record }
      (removeBackend fenced existing backendId).staleDecisionsForBackend backendId
        existing.backendBoot
  answer := .accept "unregister_backend" [] [.u64 "backend_id" backendId.value]

def retiresCurrent (existing : BackendDescriptor) (generation : BackendGeneration)
    (backendBoot : BackendBootId) : Bool :=
  existing.backendBoot == backendBoot &&
    (!generation.valid || existing.backendGeneration == generation)

def fenceBackendBoot (s : CanonicalState) (backendId : BackendId) (generation : BackendGeneration)
    (backendBoot : BackendBootId) (reason : OutcomeCode) (now : UnixMillis) : Attempt where
  refusal :=
    refuse (!backendId.valid || !backendBoot.valid)
      (reject .rejectInvalid "fence_backend_boot"
        "backend identity or incarnation is invalid") <|>
    refuse (s.isFenced backendId backendBoot)
      (.make .noChange "fence_backend_boot" "backend incarnation is already fenced") <|>
    refuse (s.fencedBoots.size ≥ s.limits.maxBackendIncarnations.toNat)
      (reject .rejectLimit "fence_backend_boot" "fenced incarnation limit reached")
  edited :=
    let record : FencedBootRecord :=
      { backendId := backendId
        backendGeneration := generation
        backendBoot := backendBoot
        reason := reason
        fencedAtUnixMillis := now }
    let key : FenceKey := ⟨backendId, backendBoot⟩
    let retired := (s.backends.find? backendId).filter fun existing =>
      retiresCurrent existing generation backendBoot
    let fenced := match retired with
      | some existing =>
        { removeBackend s existing backendId with
          fencedBoots := s.fencedBoots.insert key
            { record with backendGeneration := existing.backendGeneration } }
      | none => { s with fencedBoots := s.fencedBoots.insert key record }
    fenced.staleDecisionsForBackend backendId backendBoot
  answer :=
    .accept "fence_backend_boot" []
      [.u64 "backend_id" backendId.value, .u64 "backend_boot" backendBoot.value,
        ⟨"reason", reason.name⟩]

def bindClaim (publication : BackendCapabilityPublication) (backend : BackendDescriptor)
    (claim : CapabilityEvidence) : CapabilityEvidence :=
  { claim with
    profileId := publication.profileId
    generation := publication.generation
    backendBoot := publication.backendBoot
    backendGeneration := backend.backendGeneration }

def bindClaims (limits : ResourceLimits) (publication : BackendCapabilityPublication)
    (backend : BackendDescriptor) (profile : CapabilityProfile) :
    List CapabilityEvidence → Except MutationResult CapabilityProfile
  | [] => .ok profile
  | claim :: rest =>
    match CapabilityKey.validate claim.key with
    | some error => .error (reject .rejectInvalid "publish_capabilities" error)
    | none =>
      match profile.set (bindClaim publication backend claim)
          limits.maxCapabilityEntriesPerBackend with
      | none =>
        .error (reject .rejectLimit "publish_capabilities" "capability entry limit reached")
      | some next => bindClaims limits publication backend next rest

def publishedProfile (s : CanonicalState) (publication : BackendCapabilityPublication)
    (backend : BackendDescriptor) : Except MutationResult CapabilityProfile :=
  bindClaims s.limits publication backend
    { id := publication.profileId, generation := publication.generation } publication.claims

/-- The checks of `publish_capabilities` against the registered descriptor. -/
def publicationRefusal (s : CanonicalState) (publication : BackendCapabilityPublication)
    (backend : BackendDescriptor) : Option MutationResult :=
  refuse (backend.backendBoot != publication.backendBoot)
    (reject .rejectStaleBackendBoot "publish_capabilities"
      "publication belongs to a different backend incarnation") <|>
  refuse (publication.backendGeneration.valid &&
      publication.backendGeneration != backend.backendGeneration)
    (reject .rejectStaleBackend "publish_capabilities"
      "publication backend generation is not current") <|>
  refuse (generationRegressed publication.generation backend.capabilityGeneration)
    (reject .rejectStaleCapability "publish_capabilities" "capability generation regressed") <|>
  refuse (publication.claims.length > s.limits.maxCapabilityEntriesPerBackend.toNat)
    (reject .rejectLimit "publish_capabilities"
      "capability publication exceeds the configured limit") <|>
  match publishedProfile s publication backend with
  | .error result => some result
  | .ok profile =>
    -- an already issued generation may only be published again unchanged
    if backend.capabilityGeneration.valid &&
        publication.generation == backend.capabilityGeneration then
      if profile.entries = backend.capabilities.entries then
        some (.make .noChange "publish_capabilities"
          "capability generation is already current")
      else
        some (reject .rejectConflict "publish_capabilities"
          "capability claims changed without advancing the capability generation")
    else none

def publishCapabilities (s : CanonicalState) (publication : BackendCapabilityPublication) :
    Attempt where
  refusal :=
    refuse (!publication.backendId.valid || !publication.backendBoot.valid)
      (reject .rejectInvalid "publish_capabilities"
        "publication has no valid backend identity or incarnation") <|>
    refuse (!publication.generation.valid)
      (reject .rejectInvalid "publish_capabilities"
        "publication has no valid capability generation") <|>
    shuttingDownRefusal s "publish_capabilities" <|>
    refuse (s.isFenced publication.backendId publication.backendBoot)
      (reject .rejectStaleBackendBoot "publish_capabilities"
        "publication belongs to a fenced backend incarnation") <|>
    match s.backends.find? publication.backendId with
    | none =>
      some (reject .rejectStaleBackend "publish_capabilities" "backend is not registered")
    | some backend => publicationRefusal s publication backend
  edited :=
    editBackend s publication.backendId fun backend =>
      match publishedProfile s publication backend with
      | .error _ => backend
      | .ok profile =>
        { backend with
          capabilities := profile
          capabilityProfileId := publication.profileId
          capabilityGeneration := publication.generation }
  answer :=
    .accept "publish_capabilities" []
      [.u64 "backend_id" publication.backendId.value,
        .u64 "backend_boot" publication.backendBoot.value,
        .u64 "capability_generation" publication.generation.value,
        .u64 "claims" publication.claims.length.toUInt64]

def retireModel (s : CanonicalState) (modelId : ModelId) (generation : ModelGeneration) :
    Attempt where
  refusal :=
    shuttingDownRefusal s "retire_model" <|>
    match s.models.find? modelId with
    | none => some (reject .rejectStaleModel "retire_model" "model is not registered")
    | some existing =>
      refuse (generation.valid && existing.modelGeneration != generation)
        (reject .rejectStaleModel "retire_model"
          "model generation is not the registered generation") <|>
      refuse (existing.lifecycle == .retired)
        (.make .noChange "retire_model" "model is already retired")
  edited :=
    match s.models.find? modelId with
    | none => s
    | some existing =>
      { s with models := s.models.insert modelId { existing with lifecycle := .retired } }
  answer :=
    .accept "retire_model" []
      [.u64 "model_id" modelId.value,
        .u64 "model_generation"
          (((s.models.find? modelId).map ModelDescriptor.modelGeneration).getD {}).value]

end ModelRouter.CatalogMutation
