import ModelRouter.Evidence

namespace ModelRouter.Catalog

open Base.Refusal Bytes Ids Capability Evidence

inductive Provenance where
  | real | synthetic | unsupported
deriving DecidableEq, Repr, Inhabited

def Provenance.name : Provenance → Text
  | .real => "REAL" | .synthetic => "SYNTHETIC" | .unsupported => "UNSUPPORTED"

inductive Modality where
  | text | image | audio | video | embedding
deriving DecidableEq, Repr

def Modality.bit : Modality → UInt32
  | .text => 1 | .image => 2 | .audio => 4 | .video => 8 | .embedding => 16

structure ModalitySet where
  bits : UInt32 := 0
deriving DecidableEq, Repr

namespace ModalitySet

def contains (s : ModalitySet) (m : Modality) : Bool :=
  s.bits &&& m.bit != 0

def empty (s : ModalitySet) : Bool :=
  s.bits == 0

def covers (s other : ModalitySet) : Bool :=
  s.bits &&& other.bits == other.bits

end ModalitySet

inductive ModelLifecycle where
  | unknown | current | deprecated | retired
deriving DecidableEq, Repr, Inhabited

def ModelLifecycle.name : ModelLifecycle → Text
  | .unknown => "UNKNOWN" | .current => "CURRENT" | .deprecated => "DEPRECATED"
  | .retired => "RETIRED"

structure ModelDescriptor where
  modelId : ModelId := {}
  modelGeneration : ModelGeneration := {}
  modelVersionId : ModelVersionId := {}
  artifactGeneration : ArtifactGeneration := {}
  familyId : ModelFamilyId := {}
  contextLimitTokens : UInt32 := 0
  maxOutputTokens : UInt32 := 0
  inputModalities : ModalitySet := {}
  outputModalities : ModalitySet := {}
  qualityClass : QualityClass := kUnclassifiedQuality
  lifecycle : ModelLifecycle := .unknown
  capabilityProfileId : CapabilityProfileId := {}
  capabilityGeneration : CapabilityGeneration := {}
  capabilities : CapabilityProfile := {}
  provenance : Provenance := .synthetic
  registeredAtUnixMillis : UnixMillis := 0
  expiresAtUnixMillis : UnixMillis := kNoExpiry
  displayName : Text := []
deriving DecidableEq, Repr

namespace ModelDescriptor

def retired (m : ModelDescriptor) : Bool :=
  m.lifecycle == .retired

def current (m : ModelDescriptor) (now : UnixMillis) : Bool :=
  m.modelGeneration.valid && m.artifactGeneration.valid && m.lifecycle == .current &&
    !expiredAt now m.expiresAtUnixMillis

/-- `none` when the descriptor is internally coherent. -/
def validate (m : ModelDescriptor) : Option Text :=
  violation (!m.modelId.valid) "model identity is not valid" <|>
  violation (!m.modelGeneration.valid) "model generation is not valid" <|>
  violation (!m.artifactGeneration.valid) "artifact generation is not valid" <|>
  violation (m.contextLimitTokens == 0) "model context limit is zero" <|>
  violation ((m.maxOutputTokens > m.contextLimitTokens))
    "model max output tokens exceed the context limit" <|>
  violation m.inputModalities.empty "model declares no input modality" <|>
  violation m.outputModalities.empty "model declares no output modality" <|>
  violation (m.capabilityProfileId.valid != m.capabilityGeneration.valid)
    "model capability profile identity and generation disagree"

end ModelDescriptor

structure ModelBinding where
  modelId : ModelId := {}
  modelGeneration : ModelGeneration := {}
  artifactGeneration : ArtifactGeneration := {}
  contextLimitTokens : UInt32 := 0
  qualityClass : QualityClass := kUnclassifiedQuality
  cost : CostEvidence := {}
  boundAtUnixMillis : UnixMillis := 0
deriving DecidableEq, Repr

structure EndpointDescriptor where
  endpointId : EndpointId := {}
  endpointGeneration : EndpointGeneration := {}
  backendId : BackendId := {}
  backendBoot : BackendBootId := {}
  reference : Text := []
  protocol : Text := []
  protocolVersion : UInt32 := 0
deriving DecidableEq, Repr

def EndpointDescriptor.validate (e : EndpointDescriptor) : Option Text :=
  violation (!e.endpointId.valid) "endpoint identity is not valid" <|>
  violation (!e.endpointGeneration.valid) "endpoint generation is not valid" <|>
  violation (!e.backendId.valid) "endpoint backend identity is not valid" <|>
  violation (!e.backendBoot.valid) "endpoint backend boot identity is not valid" <|>
  violation e.reference.isEmpty "endpoint reference is empty"

structure BackendDescriptor where
  backendId : BackendId := {}
  backendGeneration : BackendGeneration := {}
  backendBoot : BackendBootId := {}
  backendRegistrationGeneration : BackendRegistrationGeneration := {}
  providerId : ProviderId := {}
  providerGeneration : ProviderGeneration := {}
  endpoint : EndpointDescriptor := {}
  trustProfileId : TrustProfileId := {}
  trustGeneration : TrustGeneration := {}
  trustDomain : TrustDomain := .unknown
  locality : LocalityKey := []
  networkDistance : UInt32 := 0
  capabilityProfileId : CapabilityProfileId := {}
  capabilityGeneration : CapabilityGeneration := {}
  capabilities : CapabilityProfile := {}
  compatibilityProfileId : CompatibilityProfileId := {}
  compatibilityGeneration : CompatibilityGeneration := {}
  modelBindings : List ModelBinding := []
  health : HealthEvidence := { state := .unknown }
  availability : AvailabilityEvidence := { state := .unknown }
  readiness : ReadinessEvidence := { state := .unknown }
  residency : ResidencyEvidence := { state := .unknown }
  capacity : CapacityEvidence := { state := .unknown }
  capacityDetail : CapacityDetail := {}
  latency : LatencyEvidence := {}
  reliabilityPpm : UInt32 := 0
  offlineCapable : Bool := false
  provenance : Provenance := .synthetic
  registeredAtUnixMillis : UnixMillis := 0
  expiresAtUnixMillis : UnixMillis := kNoExpiry
deriving DecidableEq, Repr

namespace BackendDescriptor

def retired (b : BackendDescriptor) : Bool :=
  b.health.state == .retired

def draining (b : BackendDescriptor) : Bool :=
  b.health.state == .draining

/-- The binding that `std::lower_bound` stops at, when it is the one asked for. -/
def findBinding (b : BackendDescriptor) (modelId : ModelId) : Option ModelBinding :=
  match b.modelBindings.dropWhile (fun binding => (binding.modelId < modelId)) with
  | binding :: _ => if binding.modelId = modelId then some binding else none
  | [] => none

def setBindingCost (b : BackendDescriptor) (modelId : ModelId) (cost : CostEvidence) :
    BackendDescriptor :=
  let below := b.modelBindings.takeWhile fun binding => (binding.modelId < modelId)
  match b.modelBindings.dropWhile (fun binding => (binding.modelId < modelId)) with
  | binding :: above => { b with modelBindings := below ++ { binding with cost := cost } :: above }
  | [] => b

def canonicalize (b : BackendDescriptor) : BackendDescriptor :=
  { b with
    modelBindings := unique (fun l r => l.modelId == r.modelId)
      (stableSort (fun l r => (l.modelId < r.modelId)) b.modelBindings) }

/-- The binding loop of `validate`; `previous` is the identity of the binding before, if any. -/
def validateBindings (previous : Option ModelId) : List ModelBinding → Option Text
  | [] => none
  | binding :: rest =>
    violation (!binding.modelId.valid)
      "backend model binding has an invalid model identity" <|>
    violation (!binding.modelGeneration.valid)
      "backend model binding has an invalid model generation" <|>
    violation (!binding.artifactGeneration.valid)
      "backend model binding has an invalid artifact generation" <|>
    violation (previous.any fun before => !(before < binding.modelId))
      "backend model bindings are not in canonical order or contain duplicates" <|>
    validateBindings (some binding.modelId) rest

/-- `none` when the descriptor is internally coherent. -/
def validate (b : BackendDescriptor) : Option Text :=
  violation (!b.backendId.valid) "backend identity is not valid" <|>
  violation (!b.backendGeneration.valid) "backend generation is not valid" <|>
  violation (!b.backendBoot.valid) "backend boot identity is not valid" <|>
  violation (!b.backendRegistrationGeneration.valid)
    "backend registration generation is not valid" <|>
  violation (!b.providerId.valid) "backend provider identity is not valid" <|>
  violation (!b.providerGeneration.valid) "backend provider generation is not valid" <|>
  b.endpoint.validate <|>
  violation (b.endpoint.backendId != b.backendId)
    "backend endpoint belongs to a different backend identity" <|>
  violation (b.endpoint.backendBoot != b.backendBoot)
    "backend endpoint belongs to a different backend incarnation" <|>
  violation (b.capabilityGeneration.valid && !b.capabilityProfileId.valid)
    "backend capability generation exists without a profile identity" <|>
  violation (b.compatibilityGeneration.valid && !b.compatibilityProfileId.valid)
    "backend compatibility generation exists without a profile identity" <|>
  violation b.modelBindings.isEmpty "backend declares no model binding" <|>
  validateBindings none b.modelBindings

@[simp] theorem canonicalize_backendId (b : BackendDescriptor) :
    b.canonicalize.backendId = b.backendId := rfl

@[simp] theorem canonicalize_backendBoot (b : BackendDescriptor) :
    b.canonicalize.backendBoot = b.backendBoot := rfl

end BackendDescriptor

structure ProviderDescriptor where
  providerId : ProviderId := {}
  generation : ProviderGeneration := {}
  displayName : Text := []
  defaultTrustDomain : TrustDomain := .unknown
  thirdParty : Bool := true
deriving DecidableEq, Repr

end ModelRouter.Catalog
