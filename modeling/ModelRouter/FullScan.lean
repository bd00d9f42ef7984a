import ModelRouter.Courses
import ModelRouter.Indexing

namespace ModelRouter.FullScan

open Base Base.SecondaryIndex Bytes Ids Capability Evidence Catalog Request Candidate Persistence
open State CatalogMutation EvidenceMutation Mutations Commit Recovery Providers Section Route Router
open Effects MutationFacts Run Courses Indexing

variable {s t : CanonicalState} {now : UnixMillis}

/-- The candidates of all pairs of a model and a backend of the catalog. -/
def fullScan (s : CanonicalState) : List RouteCandidate :=
  s.models.keys.flatMap fun modelId => s.backends.keys.filterMap (catalogCandidate s modelId)

theorem findBinding_mem {b : BackendDescriptor} {modelId : ModelId} {binding : ModelBinding}
    (h : b.findBinding modelId = some binding) :
    binding ∈ b.modelBindings ∧ binding.modelId = modelId := by
  have hsuffix := List.dropWhile_suffix (l := b.modelBindings) fun binding : ModelBinding =>
    decide (binding.modelId < modelId)
  unfold BackendDescriptor.findBinding at h
  split at h
  · rename_i first rest hrest
    split at h
    · rename_i hid
      obtain rfl := Option.some.inj h
      rw [hrest] at hsuffix
      exact ⟨hsuffix.mem List.mem_cons_self, hid⟩
    · cases h
  · cases h

theorem catalogCandidate_pair {modelId : ModelId} {backendId : BackendId}
    {candidate : RouteCandidate} (h : catalogCandidate s modelId backendId = some candidate) :
    ∃ model backend binding, s.models.find? modelId = some model ∧
      s.backends.find? backendId = some backend ∧ binding ∈ backend.modelBindings ∧
      binding.modelId = modelId ∧ candidate = candidateOf model backend binding := by
  unfold catalogCandidate at h
  split at h
  · rename_i model backend hmodel hbackend
    obtain ⟨binding, hfound, rfl⟩ := Option.map_eq_some_iff.mp h
    obtain ⟨hmem, hid⟩ := findBinding_mem hfound
    exact ⟨model, backend, binding, hmodel, hbackend, hmem, hid, rfl⟩
  · cases h

theorem catalogCandidates_eq (hs : Indexed s) : catalogCandidates s = fullScan s := by
  rw [catalogCandidates, fullScan]
  refine hs.holds.byModel.scan_eq (f := catalogCandidate s) s.models.keys_sorted s.backends.keys_sorted
    fun modelId backendId hsome => ?_
  obtain ⟨candidate, hcandidate⟩ := Option.ne_none_iff_exists'.mp hsome
  obtain ⟨model, backend, binding, hmodel, hbackend, hmem, rfl, -⟩ :=
    catalogCandidate_pair hcandidate
  refine ⟨⟨indexKeys backend, ?_, List.mem_map_of_mem hmem⟩,
    OrderedMap.mem_keys_iff.mpr (OrderedMap.contains_iff.mpr ⟨model, hmodel⟩),
    OrderedMap.mem_keys_iff.mpr (OrderedMap.contains_iff.mpr ⟨backend, hbackend⟩)⟩
  rw [scan, hbackend, Option.map_some]

def ModelsKeyed (s : CanonicalState) : Prop :=
  ∀ id model, s.models.find? id = some model → model.modelId = id

theorem ModelsKeyed.insert {model : ModelDescriptor} (hs : ModelsKeyed s) :
    ∀ id found, (s.models.insert model.modelId model).find? id = some found →
      found.modelId = id := by
  intro id found hfound
  rw [OrderedMap.find?_insert] at hfound
  split at hfound
  · rename_i hid
    exact (Option.some.inj hfound) ▸ hid
  · exact hs id found hfound

theorem ModelsKeyed.congr (hs : ModelsKeyed s) (h : t.models = s.models) : ModelsKeyed t :=
  fun id model hfound => hs id model (h ▸ hfound)

theorem editBackend_models (s : CanonicalState) (id : BackendId)
    (edit : BackendDescriptor → BackendDescriptor) :
    (editBackend s id edit).models = s.models := by
  simp only [editBackend]
  cases s.backends.find? id <;> rfl

theorem edited_keyed (m : Mutation) (now : UnixMillis) (hs : ModelsKeyed s) :
    ModelsKeyed (m.attempt now s).edited := by
  cases m with
  | registerModel model => exact hs.insert
  | retireModel modelId generation =>
      change ModelsKeyed (retireModel s modelId generation).edited
      dsimp only [retireModel]
      cases hmodel : s.models.find? modelId with
      | none => exact hs
      | some existing =>
          have hid := hs modelId existing hmodel
          rw [← hid]
          exact @ModelsKeyed.insert _ { existing with lifecycle := .retired } hs
  | registerProvider provider => exact hs
  | registerBackend raw =>
      refine hs.congr ?_
      change (installBackend _ raw.canonicalize).models = _
      simp only [installBackend]
      cases s.backends.find? raw.canonicalize.backendId <;> rfl
  | unregisterBackend id generation =>
      refine hs.congr ?_
      change (unregisterBackend s id generation now).edited.models = _
      dsimp only [unregisterBackend]
      cases s.backends.find? id <;> rfl
  | fenceBackendBoot id generation boot reason =>
      refine hs.congr ?_
      change (fenceBackendBoot s id generation boot reason now).edited.models = _
      dsimp only [fenceBackendBoot]
      cases (s.backends.find? id).filter _ <;> rfl
  | publishCapabilities publication => exact hs.congr (editBackend_models s _ _)
  | updateHealth evidence => exact hs.congr (editBackend_models s _ _)
  | updateAvailability evidence => exact hs.congr (editBackend_models s _ _)
  | updateReadiness evidence => exact hs.congr (editBackend_models s _ _)
  | updateResidency evidence => exact hs.congr (editBackend_models s _ _)
  | updateCapacity evidence detail => exact hs.congr (editBackend_models s _ _)
  | updateLatency evidence => exact hs.congr (editBackend_models s _ _)
  | setCost evidence => exact hs.congr (editBackend_models s _ _)
  | setTrust evidence =>
      refine hs.congr ?_
      change (rebindTrust _ evidence).models = _
      simp only [rebindTrust]
      cases s.backends.find? evidence.backendId <;> rfl
  | setPolicy policy => exact hs
  | setBudget budget => exact hs
  | setSlo slo => exact hs
  | setCompatibility evidence => exact hs

theorem importModels_keyed (records : List PersistedModelRecord) :
    ∀ id model, (importModels records).find? id = some model → model.modelId = id := by
  intro id model h
  obtain ⟨record, -, hrecord⟩ := List.mem_map.mp (OrderedMap.mem_of_find?_ofList h)
  obtain ⟨rfl, rfl⟩ := Prod.mk.inj hrecord
  rfl

theorem restored_keyed (s : CanonicalState) (canonical : RouterPersistentState)
    (routes : OrderedMap RouteDecisionId RouteRecord) :
    ModelsKeyed (restore s canonical routes) := by
  have hmodels : (restore s canonical routes).models = importModels canonical.models := by
    rw [restore, rebuildIndexes_frame]
  intro id model h
  rw [hmodels] at h
  exact importModels_keyed canonical.models id model h

theorem event_keyed {e : Event World Act} (hs : ModelsKeyed e.pre.state) :
    ModelsKeyed (after e).state := by
  obtain ⟨k, w⟩ := e
  cases hkeep : keepsHoldings k with
  | true => exact hs.congr (congrArg Holdings.models (apply_holdings hkeep w))
  | false =>
      cases k with
      | mutate m now =>
          change ModelsKeyed (m.next now w.state)
          rcases next_cases m now w.state with h | ⟨-, h⟩
          · rwa [h]
          · rw [h]
            exact (edited_keyed m now hs).congr
              (congrArg Holdings.models (written_holdings _ now))
      | writeCapacityDetail detail => exact hs.congr (editBackend_models _ _ _)
      | importState canonical =>
          change ModelsKeyed (importSection canonical w).state
          unfold importSection
          split
          · exact hs
          · exact restored_keyed w.state canonical _
      | _ => cases hkeep

theorem fresh_keyed (options : ModelRouterOptions) (highest : UInt64) :
    ModelsKeyed (World.fresh options highest).state := by
  intro id model h
  cases h

/-- The world a schedule of operations over a fresh router leads to. -/
def reached (options : ModelRouterOptions) (highest : UInt64)
    (schedule : List (Choice Op Env)) : World :=
  (Pool.run (Op.program options) Act.apply schedule ⟨World.fresh options highest, []⟩).2.state

theorem reached_keeps {I : World → Prop} {options : ModelRouterOptions} {highest : UInt64}
    (hfresh : I (World.fresh options highest)) (step : ∀ e : Event World Act, I e.pre → I (after e))
    (schedule : List (Choice Op Env)) : I (reached options highest schedule) :=
  (Pool.run_chained schedule ⟨World.fresh options highest, []⟩).invariant hfresh
    fun e _ => step e

/-- The pair of the catalog a candidate stands for. -/
def pairOf (candidate : RouteCandidate) : ModelId × BackendId :=
  (candidate.key.modelId, candidate.key.backendId)

theorem catalogCandidate_pairOf (hm : ModelsKeyed s) (hs : Indexed s)
    {pair : ModelId × BackendId} {candidate : RouteCandidate}
    (h : catalogCandidate s pair.1 pair.2 = some candidate) : pairOf candidate = pair := by
  obtain ⟨model, backend, binding, hmodel, hbackend, -, -, rfl⟩ := catalogCandidate_pair h
  exact Prod.ext (hm _ _ hmodel) (hs.keyed _ _ hbackend)

theorem fullScan_pairs_nodup (hm : ModelsKeyed s) (hs : Indexed s) :
    ((fullScan s).map pairOf).Nodup := by
  have hscan : fullScan s = (s.models.keys ×ˢ s.backends.keys).filterMap fun pair =>
      catalogCandidate s pair.1 pair.2 := by
    change _ = (s.models.keys.flatMap fun modelId => s.backends.keys.map (modelId, ·)).filterMap _
    rw [List.filterMap_flatMap]
    simp only [List.filterMap_map]
    rfl
  have hpair {pair found : ModelId × BackendId}
      (h : found ∈ (catalogCandidate s pair.1 pair.2).map pairOf) : found = pair := by
    obtain ⟨candidate, hcandidate, rfl⟩ := Option.map_eq_some_iff.mp h
    exact catalogCandidate_pairOf hm hs hcandidate
  rw [hscan, List.map_filterMap]
  refine (s.models.keys_nodup.product s.backends.keys_nodup).filterMap fun p q found hp hq => ?_
  rw [← hpair hp, ← hpair hq]

/-- In every state a schedule leads to, built-in discovery finds what a scan of all pairs of a
model and a backend finds, each candidate once. -/
theorem discover_full_scan {options : ModelRouterOptions}
    (hbuiltin : options.providers.candidates = false) (highest : UInt64)
    (schedule : List (Choice Op Env)) {E : Env → Prop} {request : RouteRequest}
    {snapshot : Pass.Snapshot} {es : Trace} {candidates : List RouteCandidate} {t : World}
    (h : Executes E Eq (discover options request snapshot) (reached options highest schedule) es
      candidates t) :
    candidates = fullScan (reached options highest schedule).state ∧
      (candidates.map pairOf).Nodup := by
  have hs : Indexed (reached options highest schedule).state :=
    reached_keeps (I := fun w => Indexed w.state) (fresh_indexed options highest)
      (fun e he => event_indexed he) schedule
  have hm : ModelsKeyed (reached options highest schedule).state :=
    reached_keeps (I := fun w => ModelsKeyed w.state) (fresh_keyed options highest)
      (fun e he => event_keyed he) schedule
  have hfound : candidates = catalogCandidates (reached options highest schedule).state := by
    rw [discover, hbuiltin] at h
    obtain ⟨w, ds, rfl, -, hfound⟩ := executes_perform.mp h
    exact (executes_done.mp hfound).2.1
  rw [hfound, catalogCandidates_eq hs]
  exact ⟨rfl, fullScan_pairs_nodup hm hs⟩

def pairSchedule : List (Choice Op Env) :=
  inTurn 2 sampleEnv 0 pairCatalog

def sampleReached : World :=
  reached sampleOptions 100 pairSchedule

def sampleSnapshot : Pass.Snapshot :=
  .capture sampleReached.state ⟨2⟩ {} 100

theorem discover_full_scan_sample : ∃ es candidates t,
    Executes (· = sampleEnv) Eq (discover sampleOptions sampleRequest sampleSnapshot)
        sampleReached es candidates t ∧
      candidates = fullScan sampleReached.state ∧ (candidates.map pairOf).Nodup := by
  have hrun : Executes (· = sampleEnv) Eq (discover sampleOptions sampleRequest sampleSnapshot)
      sampleReached _ _ _ :=
    Program.run_exec Act.apply sampleEnv _ _ (fun _ => rfl) fun _ h => absurd h List.not_mem_nil
  exact ⟨_, _, _, hrun, discover_full_scan rfl 100 pairSchedule hrun⟩

/-- Two of the four pairs are bound to each other. -/
example : (fullScan sampleReached.state).map pairOf = [(⟨1⟩, ⟨7⟩), (⟨2⟩, ⟨8⟩)] := by
  decide +kernel

end ModelRouter.FullScan
