import ModelRouter.Readback
import ModelRouter.StateStore

namespace ModelRouter.Sizes

open Base Base.Put Bytes Ids Limits Capability Evidence Catalog Candidate Authority
open Codec Stored RecordCodec StateStore Readback

variable {t : Tag} {limits : ResourceLimits} {w : Put}

@[simp] theorem width_uint8 : Word.width UInt8 = 1 := rfl
@[simp] theorem width_uint16 : Word.width UInt16 = 2 := rfl
@[simp] theorem width_uint32 : Word.width UInt32 = 4 := rfl
@[simp] theorem width_uint64 : Word.width UInt64 = 8 := rfl
@[simp] theorem width_int64 : Word.width Int64 = 8 := rfl
@[simp] theorem width_entityId : Word.width (EntityId t) = 8 := rfl
@[simp] theorem width_generation : Word.width (Generation t) = 8 := rfl

/-! The number of bytes each record takes. -/

def claimBytes (e : CapabilityEvidence) : Nat :=
  69 + e.key.length + e.source.length + e.detail.length

def profileBytes (profile : CapabilityProfile) : Nat :=
  20 + (profile.entries.map claimBytes).sum

def costBytes (cost : CostEvidence) : Nat :=
  109 + cost.unit.currency.length + cost.unit.basis.length + cost.source.length

def modelBytes (model : StoredModel) : Nat :=
  98 + profileBytes model.capabilities + model.displayName.length

def bindingBytes (binding : ModelBinding) : Nat :=
  40 + costBytes binding.cost

def backendBytes (record : StoredBackend) : Nat :=
  119 + record.locality.length + profileBytes record.capabilities +
    (record.modelBindings.map bindingBytes).sum

def routeBytes (record : StoredRoute) : Nat :=
  503 + 64 * record.fallbacks.length + costBytes record.cost + record.semanticDigest.length +
    record.requirementDigest.length

theorem capability_measures (e : CapabilityEvidence) :
    Measures (putCapability limits e) (claimBytes e) := by
  apply Measures.of_eq
  · apply Measures.cons (.string _ _)
    iterate 8 apply Measures.cons (.word _)
    exact .cons (.string _ _) (.cons (.string _ _) .nil)
  · simp only [claimBytes, width_uint8, width_int64, width_entityId, width_generation]
    omega

theorem cost_measures (cost : CostEvidence) : Measures (putCost limits cost) (costBytes cost) := by
  apply Measures.of_eq
  · iterate 4 apply Measures.cons (.word _)
    iterate 2 apply Measures.cons (.string _ _)
    iterate 9 apply Measures.cons (.word _)
    exact .cons (.string _ _) .nil
  · simp only [costBytes, width_uint8, width_int64, width_entityId, width_generation]
    omega

theorem candidateKey_measures (key : CandidateKey) : Measures (putCandidateKey key) 64 := by
  apply Measures.of_eq
  · iterate 8 apply Measures.cons (.word _)
    exact .nil
  · rfl

theorem authority_measures (authority : RouteAuthority) :
    Measures (putAuthority authority) 352 := by
  apply Measures.of_eq
  · iterate 44 apply Measures.cons (.word _)
    exact .nil
  · rfl

theorem profile_measures (profile : CapabilityProfile) :
    Measures (writeProfile limits profile) (profileBytes profile) := by
  apply Measures.of_eq
  · iterate 3 apply Measures.cons (.word _)
    exact .cons (.map capability_measures profile.entries) .nil
  · simp only [profileBytes, width_uint32, width_entityId, width_generation]
    omega

theorem model_measures (model : StoredModel) :
    Measures (writeModel limits model) (modelBytes model) := by
  apply Measures.of_eq
  · iterate 13 apply Measures.cons (.word _)
    apply Measures.cons (profile_measures _)
    iterate 3 apply Measures.cons (.word _)
    exact .cons (.string _ _) .nil
  · simp only [modelBytes, width_uint8, width_uint32, width_int64, width_entityId,
      width_generation]
    omega

theorem binding_measures (binding : ModelBinding) :
    Measures (writeBinding limits binding) (bindingBytes binding) := by
  apply Measures.of_eq
  · iterate 5 apply Measures.cons (.word _)
    exact .cons (cost_measures _) (.cons (.word _) .nil)
  · simp only [bindingBytes, width_uint32, width_int64, width_entityId, width_generation]
    omega

theorem backend_measures (record : StoredBackend) :
    Measures (writeBackend limits record) (backendBytes record) := by
  apply Measures.of_eq
  · iterate 11 apply Measures.cons (.word _)
    apply Measures.cons (.string _ _)
    iterate 3 apply Measures.cons (.word _)
    apply Measures.cons (profile_measures _)
    apply Measures.cons (.word _)
    apply Measures.cons (.map binding_measures record.modelBindings)
    apply Measures.cons (.bool _)
    exact .cons (.word _) (.cons (.word _) .nil)
  · simp only [backendBytes, width_uint8, width_uint32, width_int64, width_entityId,
      width_generation]
    omega

theorem fence_measures (record : StoredFence) : Measures (writeFence record) 34 := by
  apply Measures.of_eq
  · iterate 5 apply Measures.cons (.word _)
    exact .nil
  · rfl

theorem route_measures (record : StoredRoute) :
    Measures (writeRoute limits record) (routeBytes record) := by
  apply Measures.of_eq
  · iterate 4 apply Measures.cons (.word _)
    apply Measures.cons (candidateKey_measures _)
    apply Measures.cons (.word _)
    apply Measures.cons (.mapConst candidateKey_measures record.fallbacks)
    apply Measures.cons (authority_measures _)
    iterate 2 apply Measures.cons (.word _)
    apply Measures.cons (cost_measures _)
    iterate 4 apply Measures.cons (.word _)
    exact .cons (.string _ _) (.cons (.string _ _) (.cons (.word _) .nil))
  · simp only [routeBytes, width_uint8, width_uint16, width_uint32, width_int64, width_entityId,
      width_generation]
    omega

theorem meta_measures (s : StoredState) : Measures (writeMeta s) 200 := by
  apply Measures.of_eq
  · iterate 29 apply Measures.cons (.word _)
    exact .nil
  · rfl

theorem bounded_ok {detail : Text} {bytes : List UInt8} :
    bounded w detail = .ok bytes ↔ w = some bytes := by
  cases w <;> simp [bounded]

theorem encodePayload_ok {s : StoredState} {payload : List UInt8} :
    encodePayload limits s = .ok payload ↔ ∃ router models backends fencedBoots routes,
      writeRecord kRecordMeta (writeMeta s) = some router ∧
        recordsOf kRecordModel (writeModel limits) s.models = some models ∧
        recordsOf kRecordBackend (writeBackend limits) s.backends = some backends ∧
        recordsOf kRecordFenced writeFence s.fencedBoots = some fencedBoots ∧
        recordsOf kRecordRoute (writeRoute limits) s.routes = some routes ∧
        payload = router ++ models ++ backends ++ fencedBoots ++ routes := by
  constructor
  · intro h
    obtain ⟨router, hrouter, h⟩ := bind_ok.mp h
    obtain ⟨models, hmodels, h⟩ := bind_ok.mp h
    obtain ⟨backends, hbackends, h⟩ := bind_ok.mp h
    obtain ⟨fencedBoots, hfences, h⟩ := bind_ok.mp h
    obtain ⟨routes, hroutes, h⟩ := bind_ok.mp h
    cases h
    exact ⟨router, models, backends, fencedBoots, routes, bounded_ok.mp hrouter,
      bounded_ok.mp hmodels, bounded_ok.mp hbackends, bounded_ok.mp hfences,
      bounded_ok.mp hroutes, rfl⟩
  · rintro ⟨router, models, backends, fencedBoots, routes, h1, h2, h3, h4, h5, rfl⟩
    rw [encodePayload, h1, h2, h3, h4, h5]
    rfl

/-- The length of the payload of a state. -/
def payloadBytes (s : StoredState) : Nat :=
  206 + (s.models.map fun m => 6 + modelBytes m).sum +
    (s.backends.map fun b => 6 + backendBytes b).sum + 40 * s.fencedBoots.length +
    (s.routes.map fun r => 6 + routeBytes r).sum

theorem record_measures {kind : UInt16} {body : Put} {n : Nat} (h : Measures body n) :
    Measures (writeRecord kind body) (6 + n) := by
  intro bytes hbytes
  obtain ⟨bs, hbs, hwritten⟩ := Option.bind_eq_some_iff.mp hbytes
  have hbody : Measures (some bs) n := fun cs hcs => h cs (hbs.trans hcs)
  have hrecord : Measures (puts [putU16 kind, putCount bs, some bs]) (2 + (4 + (n + 0))) :=
    .cons (.word _) (.cons (.word _) (.cons hbody .nil))
  rw [hrecord bytes hwritten]
  omega

theorem payload_length {s : StoredState} {payload : List UInt8}
    (h : encodePayload limits s = .ok payload) : payload.length = payloadBytes s := by
  obtain ⟨router, models, backends, fencedBoots, routes, hrouter, hmodels, hbackends, hfences,
    hroutes, rfl⟩ := encodePayload_ok.mp h
  have hrouterLen := record_measures (meta_measures s) router hrouter
  have hmodelsLen := Measures.map (fun m => record_measures (model_measures m)) s.models _ hmodels
  have hbackendsLen :=
    Measures.map (fun b => record_measures (backend_measures b)) s.backends _ hbackends
  have hfencesLen :=
    Measures.mapConst (fun f => record_measures (fence_measures f)) s.fencedBoots _ hfences
  have hroutesLen := Measures.map (fun r => record_measures (route_measures r)) s.routes _ hroutes
  simp only [List.length_append, hrouterLen, hmodelsLen, hbackendsLen, hfencesLen, hroutesLen,
    payloadBytes]

end ModelRouter.Sizes
