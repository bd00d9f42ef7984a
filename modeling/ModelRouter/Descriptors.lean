import ModelRouter.MutationFacts

namespace ModelRouter.Descriptors

open Base Bytes Ids Outcome Capability Evidence Catalog Persistence State CatalogMutation
open EvidenceMutation Mutations Commit Handoff Section Effects MutationFacts

variable {m : Mutation} {now : UnixMillis} {s : CanonicalState} {id : BackendId}

def target : Mutation → Option BackendId
  | .registerBackend backend => some backend.backendId
  | .unregisterBackend backendId _ => some backendId
  | .fenceBackendBoot backendId _ _ _ => some backendId
  | .publishCapabilities publication => some publication.backendId
  | .updateHealth evidence => some evidence.backendId
  | .updateAvailability evidence => some evidence.backendId
  | .updateReadiness evidence => some evidence.backendId
  | .updateResidency evidence => some evidence.backendId
  | .updateCapacity evidence _ => some evidence.backendId
  | .updateLatency evidence => some evidence.backendId
  | .setTrust evidence => some evidence.backendId
  | .setCost evidence => some evidence.backendId
  | _ => none

def publishClaims (s : CanonicalState) (publication : BackendCapabilityPublication)
    (backend : BackendDescriptor) : BackendDescriptor :=
  match publishedProfile s publication backend with
  | .error _ => backend
  | .ok profile =>
    { backend with
      capabilities := profile
      capabilityProfileId := publication.profileId
      capabilityGeneration := publication.generation }

def bindTrust (evidence : TrustEvidence) (backend : BackendDescriptor) : BackendDescriptor :=
  { backend with
    trustProfileId := evidence.profileId
    trustGeneration := evidence.generation
    trustDomain := evidence.domain }

def redescribe (s : CanonicalState) :
    Mutation → Option BackendDescriptor → Option BackendDescriptor
  | .registerBackend raw, _ => some raw.canonicalize
  | .unregisterBackend _ _, _ => none
  | .fenceBackendBoot _ generation boot _, held =>
    held.filter fun backend => !retiresCurrent backend generation boot
  | .publishCapabilities publication, held => held.map (publishClaims s publication)
  | .updateHealth evidence, held => held.map (healthSlot.set · evidence)
  | .updateAvailability evidence, held => held.map (availabilitySlot.set · evidence)
  | .updateReadiness evidence, held => held.map (readinessSlot.set · evidence)
  | .updateResidency evidence, held => held.map (residencySlot.set · evidence)
  | .updateCapacity evidence _, held => held.map (capacitySlot.set · evidence)
  | .updateLatency evidence, held => held.map fun backend => { backend with latency := evidence }
  | .setTrust evidence, held => held.map (bindTrust evidence)
  | .setCost evidence, held => held.map (·.setBindingCost evidence.modelId evidence)
  | _, held => held

theorem editBackend_find? (s : CanonicalState) (j : BackendId)
    (edit : BackendDescriptor → BackendDescriptor) (id : BackendId) :
    (editBackend s j edit).backends.find? id =
      if some j = some id then (s.backends.find? id).map edit else s.backends.find? id := by
  simp only [editBackend, Option.some.injEq]
  cases hj : s.backends.find? j with
  | none =>
      dsimp only
      by_cases hid : j = id
      · rw [if_pos hid, ← hid, hj, Option.map_none]
      · rw [if_neg hid]
  | some existing =>
      dsimp only
      rw [OrderedMap.find?_insert]
      by_cases hid : j = id
      · rw [if_pos hid, if_pos hid, ← hid, hj, Option.map_some]
      · rw [if_neg hid, if_neg hid]

theorem rebindTrust_find? (s : CanonicalState) (evidence : TrustEvidence) (id : BackendId) :
    (rebindTrust s evidence).backends.find? id =
      if some evidence.backendId = some id then (s.backends.find? id).map (bindTrust evidence)
      else s.backends.find? id := by
  rw [← editBackend_find? s evidence.backendId (bindTrust evidence) id]
  simp only [rebindTrust, editBackend]
  cases s.backends.find? evidence.backendId <;> rfl

theorem edited_backends (m : Mutation) (now : UnixMillis) (s : CanonicalState) (id : BackendId) :
    (m.attempt now s).edited.backends.find? id =
      if target m = some id then redescribe s m (s.backends.find? id)
      else s.backends.find? id := by
  cases m with
  | registerModel model => rfl
  | registerProvider provider => rfl
  | registerBackend raw =>
      have hbackends : (registerBackend s raw).edited.backends =
          s.backends.insert raw.backendId raw.canonicalize := by
        simp only [registerBackend, installBackend]
        cases s.backends.find? raw.canonicalize.backendId <;> rfl
      change (registerBackend s raw).edited.backends.find? id = _
      rw [hbackends, OrderedMap.find?_insert]
      simp only [target, Option.some.injEq, redescribe]
      by_cases hid : raw.backendId = id
      · rw [if_pos hid, if_pos hid]
      · rw [if_neg hid, if_neg hid]
  | unregisterBackend j generation =>
      change (unregisterBackend s j generation now).edited.backends.find? id = _
      simp only [unregisterBackend, target, Option.some.injEq, redescribe]
      cases hj : s.backends.find? j with
      | none =>
          dsimp only
          by_cases hid : j = id
          · rw [if_pos hid, ← hid, hj]
          · rw [if_neg hid]
      | some existing =>
          change (s.backends.erase j).find? id = _
          rw [OrderedMap.find?_erase]
          by_cases hid : j = id
          · rw [if_pos hid, if_pos hid]
          · rw [if_neg hid, if_neg hid]
  | fenceBackendBoot j generation boot reason =>
      change (fenceBackendBoot s j generation boot reason now).edited.backends.find? id = _
      simp only [fenceBackendBoot, target, Option.some.injEq, redescribe]
      cases hj : (s.backends.find? j).filter fun b => retiresCurrent b generation boot with
      | none =>
          change s.backends.find? id = _
          by_cases hid : j = id
          · rw [if_pos hid, ← hid]
            cases hb : s.backends.find? j with
            | none => rfl
            | some existing =>
                rw [hb, Option.filter_eq_none_iff] at hj
                have hkept : ¬retiresCurrent existing generation boot = true := hj existing rfl
                rw [Option.filter_some, if_pos (by simp [hkept])]
          · rw [if_neg hid]
      | some existing =>
          obtain ⟨hfound, hretires⟩ := Option.filter_eq_some_iff.mp hj
          change (s.backends.erase j).find? id = _
          rw [OrderedMap.find?_erase]
          by_cases hid : j = id
          · rw [if_pos hid, if_pos hid, ← hid, hfound, Option.filter_some, hretires]
            rfl
          · rw [if_neg hid, if_neg hid]
  | publishCapabilities publication => exact editBackend_find? s _ _ id
  | retireModel modelId generation =>
      change (retireModel s modelId generation).edited.backends.find? id = _
      dsimp only [retireModel]
      cases s.models.find? modelId <;> rfl
  | updateHealth evidence => exact editBackend_find? s _ _ id
  | updateAvailability evidence => exact editBackend_find? s _ _ id
  | updateReadiness evidence => exact editBackend_find? s _ _ id
  | updateResidency evidence => exact editBackend_find? s _ _ id
  | updateCapacity evidence detail => exact editBackend_find? s _ _ id
  | updateLatency evidence => exact editBackend_find? s _ _ id
  | setPolicy policy => rfl
  | setBudget budget => rfl
  | setSlo slo => rfl
  | setCompatibility evidence => rfl
  | setTrust evidence => exact rebindTrust_find? _ evidence id
  | setCost evidence => exact editBackend_find? s _ _ id

theorem next_backends (htaken : (m.attempt now s).refusal = none) (id : BackendId) :
    (m.next now s).backends.find? id =
      if target m = some id then redescribe s m (s.backends.find? id)
      else s.backends.find? id := by
  rw [(next_of_taken htaken).1, backends_of_holdings (written_holdings _ now), edited_backends]

def watermarks (s : CanonicalState) :
    OrderedMap ModelId ModelGeneration × OrderedMap BackendId BackendGeneration :=
  (s.modelGenerationWatermark, s.backendGenerationWatermark)

theorem watermarks_of_holdings {t : CanonicalState} (h : holdings t = holdings s) :
    watermarks t = watermarks s := by
  have hmodels : t.modelGenerationWatermark = s.modelGenerationWatermark :=
    congrArg Holdings.modelGenerationWatermark h
  have hbackends : t.backendGenerationWatermark = s.backendGenerationWatermark :=
    congrArg Holdings.backendGenerationWatermark h
  rw [watermarks, hmodels, hbackends, watermarks]

def raise (s : CanonicalState) :
    Mutation → OrderedMap ModelId ModelGeneration × OrderedMap BackendId BackendGeneration
  | .registerModel model =>
    (s.modelGenerationWatermark.insert model.modelId model.modelGeneration,
      s.backendGenerationWatermark)
  | .registerBackend raw =>
    (s.modelGenerationWatermark,
      s.backendGenerationWatermark.insert raw.backendId raw.backendGeneration)
  | _ => watermarks s

theorem editBackend_watermarks (s : CanonicalState) (id : BackendId)
    (edit : BackendDescriptor → BackendDescriptor) :
    watermarks (editBackend s id edit) = watermarks s := by
  simp only [editBackend]
  cases s.backends.find? id <;> rfl

theorem edited_watermarks (m : Mutation) (now : UnixMillis) (s : CanonicalState) :
    watermarks (m.attempt now s).edited = raise s m := by
  cases m with
  | registerModel model => rfl
  | registerProvider provider => rfl
  | registerBackend raw =>
      change watermarks (installBackend _ raw.canonicalize) = _
      simp only [installBackend]
      cases s.backends.find? raw.canonicalize.backendId <;> rfl
  | unregisterBackend id generation =>
      change watermarks (unregisterBackend s id generation now).edited = _
      dsimp only [unregisterBackend]
      cases s.backends.find? id <;> rfl
  | fenceBackendBoot id generation boot reason =>
      change watermarks (fenceBackendBoot s id generation boot reason now).edited = _
      dsimp only [fenceBackendBoot]
      cases (s.backends.find? id).filter _ <;> rfl
  | publishCapabilities publication => exact editBackend_watermarks s _ _
  | retireModel modelId generation =>
      change watermarks (retireModel s modelId generation).edited = _
      dsimp only [retireModel]
      cases s.models.find? modelId <;> rfl
  | updateHealth evidence => exact editBackend_watermarks s _ _
  | updateAvailability evidence => exact editBackend_watermarks s _ _
  | updateReadiness evidence => exact editBackend_watermarks s _ _
  | updateResidency evidence => exact editBackend_watermarks s _ _
  | updateCapacity evidence detail => exact editBackend_watermarks s _ _
  | updateLatency evidence => exact editBackend_watermarks s _ _
  | setPolicy policy => rfl
  | setBudget budget => rfl
  | setSlo slo => rfl
  | setCompatibility evidence => rfl
  | setTrust evidence =>
      change watermarks (rebindTrust _ evidence) = _
      simp only [rebindTrust]
      cases s.backends.find? evidence.backendId <;> rfl
  | setCost evidence => exact editBackend_watermarks s _ _

theorem next_watermarks (htaken : (m.attempt now s).refusal = none) :
    watermarks (m.next now s) = raise s m := by
  rw [(next_of_taken htaken).1, watermarks_of_holdings (written_holdings _ now), edited_watermarks]

theorem redescribe_backendGeneration {b b' : BackendDescriptor}
    (hm : ∀ raw, m ≠ .registerBackend raw) (h : redescribe s m (some b) = some b') :
    b'.backendGeneration = b.backendGeneration := by
  cases m with
  | registerBackend raw => exact absurd rfl (hm raw)
  | unregisterBackend id generation => cases h
  | fenceBackendBoot id generation boot reason =>
      simp only [redescribe, Option.filter_eq_some_iff, Option.some.injEq] at h
      rw [h.1]
  | publishCapabilities publication =>
      obtain rfl := Option.some.inj h
      simp only [publishClaims]
      split <;> rfl
  | setCost evidence =>
      obtain rfl := Option.some.inj h
      simp only [BackendDescriptor.setBindingCost]
      split <;> rfl
  | _ =>
      obtain rfl := Option.some.inj h
      rfl

theorem redescribe_none (hm : ∀ raw, m ≠ .registerBackend raw) : redescribe s m none = none := by
  cases m with
  | registerBackend raw => exact absurd rfl (hm raw)
  | _ => rfl

end ModelRouter.Descriptors
