import ModelRouter.RoundTrip

namespace ModelRouter.Readmission

open Base Base.Put Bytes Ids Limits Capability Evidence Catalog Candidate Authority Persistence Request
open Codec Stored RecordCodec StateStore Readback Sizes Sorting Canonical Images RoundTrip

variable {limits : ResourceLimits} {s : StoredState} {image : Image}

/-! What the writers refuse: a record with a text that is too long, and no other. -/

theorem isSome_profile {profile : CapabilityProfile} :
    (writeProfile limits profile).isSome ↔ ∀ e ∈ profile.entries, ClaimFits limits e := by
  simp [writeProfile, isSome_map, isSome_capability]

theorem isSome_model {model : StoredModel} :
    (writeModel limits model).isSome ↔ (∀ e ∈ model.capabilities.entries, ClaimFits limits e) ∧
      model.displayName.length ≤ limits.maxStringBytes.toNat := by
  simp [writeModel, isSome_string, isSome_profile]

theorem isSome_binding {binding : ModelBinding} :
    (writeBinding limits binding).isSome ↔ CostFits limits binding.cost := by
  simp [writeBinding, isSome_cost]

theorem isSome_backend {record : StoredBackend} :
    (writeBackend limits record).isSome ↔
      record.locality.length ≤ limits.maxStringBytes.toNat ∧
      (∀ e ∈ record.capabilities.entries, ClaimFits limits e) ∧
      ∀ binding ∈ record.modelBindings, CostFits limits binding.cost := by
  simp [writeBackend, isSome_map, isSome_string, isSome_profile, isSome_binding]

theorem isSome_route {record : StoredRoute} :
    (writeRoute limits record).isSome ↔ CostFits limits record.cost ∧
      record.semanticDigest.length ≤ limits.maxStringBytes.toNat ∧
      record.requirementDigest.length ≤ limits.maxStringBytes.toNat := by
  simp [writeRoute, putCandidateKey, putAuthority, isSome_map, isSome_string, isSome_cost]

theorem isSome_record {kind : UInt16} {body : Put} :
    (writeRecord kind body).isSome = body.isSome := by
  cases body <;> rfl

theorem isSome_recordsOf {α : Type} (kind : UInt16) (write : α → Put) (xs : List α) :
    (recordsOf kind write xs).isSome ↔ ∀ x ∈ xs, (write x).isSome := by
  simp only [recordsOf, isSome_map, isSome_record]

def TextsFit (limits : ResourceLimits) (s : StoredState) : Prop :=
  (∀ m ∈ s.models, (∀ e ∈ m.capabilities.entries, ClaimFits limits e) ∧
      m.displayName.length ≤ limits.maxStringBytes.toNat) ∧
    (∀ b ∈ s.backends, b.locality.length ≤ limits.maxStringBytes.toNat ∧
      (∀ e ∈ b.capabilities.entries, ClaimFits limits e) ∧
      ∀ binding ∈ b.modelBindings, CostFits limits binding.cost) ∧
    ∀ r ∈ s.routes, CostFits limits r.cost ∧
      r.semanticDigest.length ≤ limits.maxStringBytes.toNat ∧
      r.requirementDigest.length ≤ limits.maxStringBytes.toNat

instance : Decidable (TextsFit limits s) :=
  inferInstanceAs (Decidable (_ ∧ _ ∧ _))

theorem encodePayload_accepts :
    (∃ payload, encodePayload limits s = .ok payload) ↔ TextsFit limits s := by
  have hmodels := isSome_recordsOf kRecordModel (writeModel limits) s.models
  have hbackends := isSome_recordsOf kRecordBackend (writeBackend limits) s.backends
  have hroutes := isSome_recordsOf kRecordRoute (writeRoute limits) s.routes
  simp only [isSome_model, isSome_backend, isSome_route] at hmodels hbackends hroutes
  simp only [encodePayload_ok, TextsFit, ← hmodels, ← hbackends, ← hroutes]
  constructor
  · rintro ⟨payload, router, models, backends, fencedBoots, routes, -, h2, h3, -, h5, -⟩
    exact ⟨Option.isSome_of_mem h2, Option.isSome_of_mem h3, Option.isSome_of_mem h5⟩
  · rintro ⟨h2, h3, h5⟩
    have h1 : (writeRecord kRecordMeta (writeMeta s)).isSome := by
      simp [isSome_record, writeMeta]
    have h4 : (recordsOf kRecordFenced writeFence s.fencedBoots).isSome :=
      (isSome_recordsOf _ _ _).mpr fun _ _ => by simp [writeFence]
    obtain ⟨router, h1⟩ := Option.isSome_iff_exists.mp h1
    obtain ⟨models, h2⟩ := Option.isSome_iff_exists.mp h2
    obtain ⟨backends, h3⟩ := Option.isSome_iff_exists.mp h3
    obtain ⟨fencedBoots, h4⟩ := Option.isSome_iff_exists.mp h4
    obtain ⟨routes, h5⟩ := Option.isSome_iff_exists.mp h5
    exact ⟨_, router, models, backends, fencedBoots, routes, h1, h2, h3, h4, h5, rfl⟩

theorem encode_accepts :
    (∃ image, encode s limits = .ok image) ↔ s.canonicalize.validate limits = none ∧
      TextsFit limits s.canonicalize ∧
      recordCount s.canonicalize ≤ limits.maxPersistenceRecords ∧
      persistenceHeaderBytes + payloadBytes s.canonicalize ≤ limits.maxPersistenceBytes.toNat := by
  constructor
  · rintro ⟨image, h⟩
    obtain ⟨hvalid, payload, hpayload, hrecords, hsize, -⟩ := encode_ok.mp h
    rw [payload_length hpayload] at hsize
    exact ⟨hvalid, encodePayload_accepts.mp ⟨payload, hpayload⟩, hrecords, hsize⟩
  · rintro ⟨hvalid, htexts, hrecords, hsize⟩
    obtain ⟨payload, hpayload⟩ := encodePayload_accepts.mpr htexts
    rw [← payload_length hpayload] at hsize
    exact ⟨_, encode_ok.mpr ⟨hvalid, payload, hpayload, hrecords, hsize, rfl⟩⟩

/-- The counts that the loader bounds and the saver does not. -/
def CountsFit (limits : ResourceLimits) (s : StoredState) : Prop :=
  (∀ m ∈ s.models, m.capabilities.entries.length ≤ limits.maxCapabilityEntries.toNat) ∧
    (∀ b ∈ s.backends, b.capabilities.entries.length ≤ limits.maxCapabilityEntries.toNat) ∧
    ∀ r ∈ s.routes, r.fallbacks.length ≤ limits.maxFallbackCandidates.toNat

instance : Decidable (CountsFit limits s) :=
  inferInstanceAs (Decidable (_ ∧ _ ∧ _))

theorem bindings_le (h : s.validate limits = none) :
    ∀ b ∈ s.backends, b.modelBindings.length ≤ limits.maxModelBindingsPerBackend.toNat := by
  intro b hb
  simp only [StoredState.validate, Refusal.chain_eq_none] at h
  have hbackend : b.validate limits = none :=
    List.findSome?_eq_none_iff.mp h.2.2.2.2.2.2.2.2.2.2.1 b hb
  simp only [StoredBackend.validate, Refusal.chain_eq_none] at hbackend
  simpa [violation] using hbackend.2.1

theorem validate_reloaded (h : s.validate limits = none) : (reloaded s).validate limits = none := by
  have hweights : ({} : RankingWeights).validate = none := by decide
  simp only [StoredState.validate, Refusal.chain_eq_none] at h ⊢
  obtain ⟨hid, hgeneration, hlimits, -, hrest⟩ := h
  exact ⟨hid, hgeneration, hlimits, by simp [reloaded, withMeta, hweights, prefixed], hrest⟩

theorem countsFit_canonicalize : CountsFit limits s.canonicalize ↔ CountsFit limits s := by
  simp only [CountsFit, StoredState.canonicalize, mem_stableSort, List.mem_map,
    forall_exists_index, and_imp, forall_apply_eq_imp_iff₂, StoredBackend.sortBindings]

theorem bindingBytes_sort (b : StoredBackend) : backendBytes b.sortBindings = backendBytes b := by
  have hperm := ((stableSort_perm bindingLess b.modelBindings).map bindingBytes).sum_nat
  simp only [backendBytes, StoredBackend.sortBindings, hperm]

theorem payloadBytes_canonicalize (s : StoredState) :
    payloadBytes s.canonicalize = payloadBytes s := by
  have hmodels := ((stableSort_perm StoredModel.less s.models).map
    fun m => 6 + modelBytes m).sum_nat
  have hbackends := ((stableSort_perm StoredBackend.less s.backends).map
    fun b => 6 + backendBytes b).sum_nat
  have hroutes := ((stableSort_perm StoredRoute.less s.routes).map
    fun r => 6 + routeBytes r).sum_nat
  have hfences := (stableSort_perm StoredFence.canonicalLess s.fencedBoots).length_eq
  have hbindings : ((fun b => 6 + backendBytes b) ∘ StoredBackend.sortBindings) =
      fun b => 6 + backendBytes b := by
    funext b
    rw [Function.comp_apply, bindingBytes_sort]
  simp only [payloadBytes, StoredState.canonicalize, List.map_map, hbindings, hmodels, hbackends,
    hroutes, hfences]

theorem stateFits_iff (hvalid : s.validate limits = none) (htexts : TextsFit limits s) :
    StateFits limits s ↔ CountsFit limits s := by
  obtain ⟨hmodel, hbackend, hroute⟩ := htexts
  have hbindings := bindings_le hvalid
  constructor
  · rintro ⟨hm, hb, hr⟩
    exact ⟨fun m h => (hm m h).1.1, fun b h => (hb b h).2.1.1, fun r h => (hr r h).1⟩
  · rintro ⟨hm, hb, hr⟩
    refine ⟨fun m h => ?_, fun b h => ?_, fun r h => ⟨hr r h, hroute r h⟩⟩
    · obtain ⟨hclaims, hname⟩ := hmodel m h
      exact ⟨⟨hm m h, hclaims⟩, hname⟩
    · obtain ⟨hlocality, hclaims, hcosts⟩ := hbackend b h
      exact ⟨hlocality, ⟨hb b h, hclaims⟩, hbindings b h, hcosts⟩

theorem recordTotal_le {payload : List UInt8} (h : encodePayload limits s = .ok payload) :
    recordTotal s ≤ payload.length := by
  obtain ⟨router, models, backends, fencedBoots, routes, hrouter, hmodels, hbackends, hfences,
    hroutes, rfl⟩ := encodePayload_ok.mp h
  have hrouterLen := record_measures (meta_measures s) router hrouter
  have hmodelCount := length_le_of_recordsOf hmodels
  have hbackendCount := length_le_of_recordsOf hbackends
  have hfenceCount := length_le_of_recordsOf hfences
  have hrouteCount := length_le_of_recordsOf hroutes
  simp only [List.length_append, recordTotal]
  omega

/-- An image is loaded under the limits it was saved under exactly when its payload is within the
payload bound and no list of it is longer than the loader's own bounds. -/
theorem decode_accepts_iff (hordered : StateOrdered s)
    (h : encode s limits = .ok image) :
    (∃ loaded, decode image.bytes limits = .ok loaded) ↔
      payloadBytes s ≤ limits.maxPayloadBytes.toNat ∧ CountsFit limits s := by
  obtain ⟨hvalid, payload, hpayload, hrecords, hsize, -⟩ := encode_ok.mp h
  have hdecode := decode_encoded limits hordered h
  have hlength : image.bytes.length ≤ limits.maxPersistenceBytes.toNat := by
    rw [encode_length h, ← payload_length hpayload]
    exact hsize
  have htotal (hpayloadBytes : payloadBytes s.canonicalize ≤ limits.maxPayloadBytes.toNat) :
      recordTotal s.canonicalize ≤ limits.maxPersistenceRecords.toNat := by
    have hpayloadLimit := limits.maxPayloadBytes.toNat_lt
    have hle := recordTotal_le hpayload
    rw [payload_length hpayload] at hle
    rw [recordCount, UInt32.le_iff_toNat_le, toNat_count (by change recordTotal _ < _; omega)]
      at hrecords
    exact hrecords
  rw [← payloadBytes_canonicalize, ← countsFit_canonicalize,
    ← stateFits_iff hvalid (encodePayload_accepts.mp ⟨payload, hpayload⟩)]
  constructor
  · rintro ⟨loaded, hloaded⟩
    obtain ⟨⟨-, hpayloadBytes, ⟨hfits, -⟩, -⟩, -⟩ := hdecode.ok_iff.mp hloaded
    exact ⟨hpayloadBytes, hfits⟩
  · rintro ⟨hpayloadBytes, hfits⟩
    exact ⟨_, hdecode.1 ⟨hlength, hpayloadBytes, ⟨hfits, htotal hpayloadBytes⟩,
      validate_reloaded hvalid⟩⟩

/-- What the loader accepts of an image is the saved state in its canonical order. -/
theorem decode_encode {s : RouterPersistentState} {loaded : Loaded}
    (hordered : StateOrdered (store s)) (hencode : encode (store s) limits = .ok image)
    (hdecode : decode image.bytes limits = .ok loaded) :
    loaded.state = { store s.canonicalize with
      limits := loaded.state.limits, weights := loaded.state.weights } := by
  obtain ⟨-, rfl⟩ := (decode_encoded limits hordered hencode).ok_iff.mp hdecode
  rw [store_canonicalize]
  rfl

/-- One record of each kind. -/
def smallState : RouterPersistentState where
  routerId := ⟨1⟩
  routerGeneration := ⟨1⟩
  models :=
    [{ model :=
        { modelId := ⟨2⟩
          modelGeneration := ⟨1⟩
          artifactGeneration := ⟨1⟩
          contextLimitTokens := 8
          maxOutputTokens := 8
          inputModalities := ⟨1⟩
          outputModalities := ⟨1⟩
          capabilityProfileId := ⟨3⟩
          capabilityGeneration := ⟨1⟩
          capabilities := { entries := [{ key := "text/draft" }, { key := "text/edit" }] } } }]
  backends :=
    [{ backendId := ⟨7⟩
       backendGeneration := ⟨1⟩
       lastBoot := ⟨1⟩
       modelBindings := [{ modelId := ⟨2⟩ }] }]
  fencedBoots := [{ backendId := ⟨7⟩, backendBoot := ⟨2⟩ }]
  routes := [{ decisionId := ⟨9⟩, decisionGeneration := ⟨1⟩, fallbacks := [{}] }]

theorem smallState_ordered : StateOrdered (store smallState) := by
  decide +kernel

theorem smallState_encodes : ∃ image, encode (store smallState) {} = .ok image :=
  encode_accepts.mpr (by decide +kernel)

theorem smallState_decode_encode :
    ∃ image loaded, encode (store smallState) {} = .ok image ∧
      decode image.bytes {} = .ok loaded ∧
      loaded.state = { store smallState.canonicalize with
        limits := loaded.state.limits, weights := loaded.state.weights } := by
  obtain ⟨image, hencode⟩ := smallState_encodes
  obtain ⟨loaded, hdecode⟩ :=
    (decode_accepts_iff smallState_ordered hencode).mpr (by decide +kernel)
  exact ⟨image, loaded, hencode, hdecode, decode_encode smallState_ordered hencode hdecode⟩

end ModelRouter.Readmission
