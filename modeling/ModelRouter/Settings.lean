import ModelRouter.Readmission
import ModelRouter.Saved
import ModelRouter.Spellings

namespace ModelRouter.Settings

open Base Base.Parse Bytes Ids Outcome Limits Capability Evidence Catalog Candidate Authority
open Persistence State CatalogMutation EvidenceMutation Mutations Commit Recovery Providers Section
open Router Effects MutationFacts Run Durability Repertoire Saved
open Codec Stored RecordCodec StateStore Readback Sizes Images RoundTrip Readmission Spellings

variable {s t : CanonicalState} {limits : ResourceLimits} {loaded : Loaded}

/-- The configuration a router routes under and is bounded by. -/
def settings (s : CanonicalState) : ResourceLimits × RankingWeights :=
  (s.limits, s.weights)

def written (limits : ResourceLimits) : ResourceLimits where
  maxModels := limits.maxModels
  maxBackends := limits.maxBackends
  maxRouteHistory := limits.maxRouteHistory
  maxFallbackCandidates := limits.maxFallbackCandidates
  maxExplanationFactors := limits.maxExplanationFactors
  maxStringBytes := limits.maxStringBytes
  maxCapabilityEntriesPerBackend := limits.maxCapabilityEntriesPerBackend
  maxModelBindingsPerBackend := limits.maxModelBindingsPerBackend

/-- The settings an image gives back as they were. -/
def Carried (settings : ResourceLimits × RankingWeights) : Prop :=
  settings = (written settings.1, {})

/-- The file saved from `w` has been loaded into the stopped router `u`, which is `t` after that.
The limits the file is written and read under are whatever the two operations found. -/
def Reloads (w u t : World) : Prop :=
  ∃ now limits limits' image loaded canonical,
    encode (store (exportPersistentState w now)) limits = .ok image ∧
    decode image.bytes limits' = .ok loaded ∧ loaded.state = store canonical ∧
    u.state.running = false ∧ t = importSection canonical.canonicalize u

theorem payload_settings {s : StoredState} {progress : Progress} {body rest : List UInt8}
    (hbody : writeMeta s = some body) (hlen : body.length < 2 ^ 32)
    (h : readPayload limits {} (framed kRecordMeta body ++ rest) = .ok progress) :
    progress.state.limits = written s.limits ∧ progress.state.weights = {} := by
  rw [readPayload_framed hlen, demand_bind_ok, meta_yields hbody hlen rfl] at h
  have hread : readPayload limits { state := withMeta s {}, seen := 1, haveMeta := true } rest =
      .ok progress := h.2
  have hkeep := readPayload_invariant (I := fun p => p.haveMeta = true ∧
    p.state.limits = written s.limits ∧ p.state.weights = {}) (fun _ _ hp => hp) ?_ hread
    ⟨rfl, rfl, rfl⟩
  · exact hkeep.2
  · intro p kind body p' hp hrecord
    rcases readRecord_ok hrecord with ⟨hfirst, -⟩ | ⟨-, -, -, rfl⟩ | ⟨-, -, -, rfl⟩ | ⟨-, rfl⟩ |
      ⟨-, rfl⟩
    · rw [hp.1] at hfirst
      cases hfirst
    · exact hp
    · exact hp
    · exact hp
    · exact hp

theorem decode_settings {s : StoredState} {limits' : ResourceLimits} {image : Image}
    (hencode : encode s limits = .ok image) (hdecode : decode image.bytes limits' = .ok loaded) :
    loaded.state.limits = written s.limits ∧ loaded.state.weights = {} := by
  obtain ⟨payload, hpayload, hlayout⟩ := encode_layout hencode
  obtain ⟨progress, haccepted⟩ := decode_ok hdecode
  have hread := haccepted.read
  have hsize := haccepted.payloadSize
  have hbound := limits'.maxPayloadBytes.toNat_lt
  rw [hlayout.payload] at hread hsize
  obtain ⟨router, models, backends, fencedBoots, routes, hrouter, -, -, -, -, rfl⟩ :=
    encodePayload_ok.mp hpayload
  simp only [List.length_append] at hsize
  obtain ⟨body, hbody, -⟩ := Option.bind_eq_some_iff.mp hrouter
  obtain rfl := writeRecord_some hbody hrouter (by omega)
  rw [framed_length] at hsize
  simp only [List.append_assoc] at hread
  rw [haccepted.state]
  exact payload_settings hbody (by omega) hread

theorem import_settings {canonical : RouterPersistentState} {u : World}
    (hstopped : u.state.running = false) :
    settings (importSection canonical u).state = (canonical.limits, canonical.weights) := by
  rw [importSection, hstopped, if_neg Bool.false_ne_true]
  exact rebuildIndexes_keeps _ settings (fun _ _ => rfl) rfl

theorem reloads_settings {w u t : World} (h : Reloads w u t) :
    settings t.state = (written w.state.limits, {}) := by
  obtain ⟨now, limits, limits', image, loaded, canonical, hencode, hdecode, hloaded, hstopped,
    rfl⟩ := h
  obtain ⟨hlimits, hweights⟩ := decode_settings hencode hdecode
  rw [hloaded] at hlimits hweights
  rw [import_settings hstopped]
  exact Prod.ext hlimits hweights

/-! The operations other than a load leave the settings alone. -/

theorem editBackend_settings (s : CanonicalState) (id : BackendId)
    (edit : BackendDescriptor → BackendDescriptor) :
    settings (editBackend s id edit) = settings s := by
  unfold editBackend
  cases s.backends.find? id <;> rfl

theorem installBackend_settings (s : CanonicalState) (backend : BackendDescriptor) :
    settings (installBackend s backend) = settings s := by
  unfold installBackend
  cases s.backends.find? backend.backendId <;> rfl

theorem rebindTrust_settings (s : CanonicalState) (evidence : TrustEvidence) :
    settings (rebindTrust s evidence) = settings s := by
  unfold rebindTrust
  cases s.backends.find? evidence.backendId <;> rfl

theorem editRoute_settings (s : CanonicalState) (id : RouteDecisionId)
    (edit : RouteRecord → RouteRecord) : settings (Handoff.editRoute s id edit) = settings s := by
  unfold Handoff.editRoute
  cases s.routes.find? id <;> rfl

theorem noteTenant_settings (s : CanonicalState) (tenant : TenantId) :
    settings (s.noteTenant tenant) = settings s := by
  unfold CanonicalState.noteTenant
  split <;> rfl

theorem edited_settings (m : Mutation) (now : UnixMillis) (s : CanonicalState) :
    settings (m.attempt now s).edited = settings s := by
  cases m with
  | registerBackend backend => exact installBackend_settings _ _
  | unregisterBackend backendId generation =>
      change settings (unregisterBackend s backendId generation now).edited = _
      dsimp only [unregisterBackend]
      cases s.backends.find? backendId <;> rfl
  | fenceBackendBoot backendId generation backendBoot reason =>
      change settings (fenceBackendBoot s backendId generation backendBoot reason now).edited = _
      dsimp only [fenceBackendBoot]
      cases (s.backends.find? backendId).filter _ <;> rfl
  | retireModel modelId generation =>
      change settings (retireModel s modelId generation).edited = _
      dsimp only [retireModel]
      cases s.models.find? modelId <;> rfl
  | publishCapabilities publication => exact editBackend_settings s _ _
  | updateHealth evidence => exact editBackend_settings s _ _
  | updateAvailability evidence => exact editBackend_settings s _ _
  | updateReadiness evidence => exact editBackend_settings s _ _
  | updateResidency evidence => exact editBackend_settings s _ _
  | updateCapacity evidence detail => exact editBackend_settings s _ _
  | updateLatency evidence => exact editBackend_settings s _ _
  | setTrust evidence => exact rebindTrust_settings _ _
  | setCost evidence => exact editBackend_settings s _ _
  | _ => rfl

theorem next_settings (m : Mutation) (now : UnixMillis) (s : CanonicalState) :
    settings (m.next now s) = settings s := by
  have hwritten (a : Attempt) : settings (a.written now) = settings a.edited := by
    unfold Attempt.written
    split <;> rfl
  rcases next_cases m now s with h | ⟨-, h⟩
  · rw [h]
  · rw [h, hwritten, edited_settings]

theorem apply_settings {k : Act} (hk : imports k = false) (w : World) :
    settings (k.apply w).state = settings w.state := by
  cases k with
  | observe => rfl
  | allocate => rfl
  | mutate m now => exact next_settings m now w.state
  | writeCapacityDetail detail => exact editBackend_settings w.state _ _
  | admitStart =>
      change settings (admitStart w.state) = _
      unfold admitStart
      split <;> rfl
  | publish now =>
      change settings (publish w.state now) = _
      unfold publish
      split <;> rfl
  | importState canonical => cases hk
  | beginShutdown =>
      change settings (beginShutdown w.state) = _
      unfold beginShutdown
      split <;> rfl
  | rejectRoute tenant rejected => exact noteTenant_settings _ _
  | commit draft =>
      change settings (commitSection draft w).1.state = _
      unfold commitSection
      cases commitRefusal draft w.state with
      | some refusal => rfl
      | none => exact noteTenant_settings _ _
  | markStale id => exact editRoute_settings w.state id _
  | finishRevalidate id bound comparisonCurrent now =>
      change settings (Handoff.finishRevalidate w.state id bound comparisonCurrent now) = _
      unfold Handoff.finishRevalidate
      split
      · exact editRoute_settings w.state id _
      · exact editRoute_settings w.state id _
  | recordDispatch id epoch coordinatorEpoch record =>
      change settings (Handoff.recordDispatch w id epoch coordinatorEpoch record).state = _
      unfold Handoff.recordDispatch
      split
      · exact editRoute_settings w.state id _
      · rfl
  | recordCompletion completion =>
      change settings (Handoff.recordCompletion w.state completion).1 = _
      unfold Handoff.recordCompletion
      cases Handoff.completable w.state completion <;> rfl
  | supersede id now fresh =>
      change settings (Handoff.supersede w.state id now fresh) = _
      unfold Handoff.supersede
      cases fresh
      · exact editRoute_settings w.state id _
      · exact editRoute_settings w.state id _
  | store path persisted => rfl

theorem savedFile_carried {file : RouterPersistentState} (h : SavedFile file) :
    Carried (file.limits, file.weights) := by
  cases h
  rfl

def CarriedAct : Act → Prop
  | .importState canonical => Carried (canonical.limits, canonical.weights)
  | _ => True

theorem carried_step {k : Act} {w : World} (hk : CarriedAct k) (hw : Carried (settings w.state)) :
    Carried (settings (k.apply w).state) := by
  cases himports : imports k with
  | false =>
      rw [apply_settings himports]
      exact hw
  | true =>
      cases k with
      | importState canonical =>
          cases hrunning : w.state.running with
          | true =>
              have hsame : importSection canonical w = w := by simp [importSection, hrunning]
              change Carried (settings (importSection canonical w).state)
              rw [hsame]
              exact hw
          | false =>
              change Carried (settings (importSection canonical w).state)
              rw [import_settings hrunning]
              exact hk
      | _ => cases himports

theorem carried_allows : Allows (fun w => Carried (settings w.state))
    (Reads fun file => Carried (file.limits, file.weights)) CarriedAct where
  plain k hk := by
    cases k with
    | importState canonical => cases hk
    | _ => trivial
  mutate _ _ _ := trivial
  publish _ _ := trivial
  importState _ path limits he hok := he path limits hok
  commitRoute _ _ _ := trivial
  commitFallback _ _ _ _ := trivial
  store _ _ _ _ := trivial
  storeShut _ _ _ _ := trivial

theorem reachable_carried {options : ModelRouterOptions} {w : World}
    (hoptions : Carried (options.limits, options.weights)) (h : Reachable options w) :
    Carried (settings w.state) := by
  obtain ⟨highest, threads, schedule, hloads, hend⟩ := h
  have hkeep (k : Act) (w : World) (hk : CarriedAct k) (hw : Carried (settings w.state)) :
      Carried (settings (k.apply w).state) := carried_step hk hw
  have hprogram (op : Op) := program_only carried_allows options op (fun _ _ _ _ => trivial)
    fun _ _ _ _ => trivial
  have hfiles : Pool.Answered (Saved.Reads fun file => Carried (file.limits, file.weights))
      schedule := fun i env hc path limits hok =>
    savedFile_carried (hloads i env hc path limits hok)
  have hfresh : Carried (settings (World.fresh options highest).state) := hoptions
  have hcarried := (Pool.run_only hkeep hprogram hfiles (p := ⟨World.fresh options highest, []⟩)
    hfresh fun _ hthread => nomatch hthread).2
  rw [hend] at hcarried
  exact hcarried

theorem loaded_durableView {persisted : RouterPersistentState} {limits' : ResourceLimits}
    {image : Image} (hordered : StateOrdered (store persisted))
    (hencode : encode (store persisted) limits = .ok image)
    (hdecode : decode image.bytes limits' = .ok loaded) :
    loaded.state = store (durableView persisted) := by
  obtain ⟨-, rfl⟩ := (decode_encoded _ hordered hencode).ok_iff.mp hdecode
  rw [Canonical.store_canonicalize]
  rfl

/-- A reload keeps the settings of a reachable state exactly when a file carries them, and it
keeps them in every state of a router whose options a file carries. -/
theorem reload_settings_iff {options : ModelRouterOptions} {w u t : World}
    (hreachable : Reachable options w) (h : Reloads w u t) :
    (settings t.state = settings w.state ↔ Carried (settings w.state)) ∧
      (Carried (options.limits, options.weights) → settings t.state = settings w.state) := by
  have hiff : settings t.state = settings w.state ↔ Carried (settings w.state) := by
    rw [reloads_settings h]
    exact eq_comm
  exact ⟨hiff, fun hoptions => hiff.mpr (reachable_carried hoptions hreachable)⟩

section

variable (options : ModelRouterOptions)

theorem fresh_reachable : Reachable options (World.fresh options 100) :=
  ⟨100, [], .refl _⟩

def freshFile : StoredState :=
  store (exportPersistentState (World.fresh options 100) 0)

theorem fresh_reloads
    (hencodes : (freshFile options).canonicalize.validate {} = none ∧
      TextsFit {} (freshFile options).canonicalize ∧
      recordCount (freshFile options).canonicalize ≤
        ({} : ResourceLimits).maxPersistenceRecords ∧
      persistenceHeaderBytes + payloadBytes (freshFile options).canonicalize ≤
        ({} : ResourceLimits).maxPersistenceBytes.toNat)
    (hordered : StateOrdered (freshFile options))
    (hfits : payloadBytes (freshFile options) ≤ ({} : ResourceLimits).maxPayloadBytes.toNat ∧
      CountsFit {} (freshFile options)) :
    ∃ t, Reloads (World.fresh options 100) (World.fresh options 100) t := by
  obtain ⟨image, hencode⟩ := encode_accepts.mpr hencodes
  obtain ⟨loaded, hdecode⟩ := (decode_accepts_iff hordered hencode).mpr hfits
  exact ⟨_, 0, {}, {}, image, loaded, _, hencode, hdecode,
    loaded_durableView hordered hencode hdecode, rfl, rfl⟩

end

theorem sampleOptions_reload :
    ∃ t, Reloads (World.fresh sampleOptions 100) (World.fresh sampleOptions 100) t ∧
      settings t.state = settings (World.fresh sampleOptions 100).state := by
  obtain ⟨t, ht⟩ := fresh_reloads sampleOptions (by decide +kernel) (by decide +kernel)
    (by decide +kernel)
  exact ⟨t, ht, (reload_settings_iff (fresh_reachable sampleOptions) ht).2 rfl⟩

/-- Options whose weights and limits are not the defaults. -/
def tunedOptions : ModelRouterOptions where
  routerId := ⟨1⟩
  limits := { maxDispatchRecords := 1000 }
  weights := { callerPreferencePpm := 50000 }

/-- A reload puts a router with tuned options back to the default weights and limits. -/
theorem tunedOptions_reset :
    tunedOptions.validate = none ∧ Reachable tunedOptions (World.fresh tunedOptions 100) ∧
      ∃ t, Reloads (World.fresh tunedOptions 100) (World.fresh tunedOptions 100) t ∧
        t.state.weights ≠ tunedOptions.weights ∧ t.state.limits ≠ tunedOptions.limits := by
  obtain ⟨t, ht⟩ := fresh_reloads tunedOptions (by decide +kernel) (by decide +kernel)
    (by decide +kernel)
  obtain ⟨hlimits, hweights⟩ := Prod.mk.inj (reloads_settings ht)
  refine ⟨by decide +kernel, fresh_reachable tunedOptions, t, ht, ?_, ?_⟩
  · rw [hweights]
    decide
  · rw [hlimits]
    decide

end ModelRouter.Settings
