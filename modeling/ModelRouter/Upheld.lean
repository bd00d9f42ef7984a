import ModelRouter.Coherence
import ModelRouter.FullScan
import ModelRouter.Generations
import ModelRouter.Inspection

namespace ModelRouter.Upheld

open Base Bytes Ids Outcome Capability Evidence Catalog Candidate Authority Request Decision
open Persistence State CatalogMutation EvidenceMutation Mutations Commit Recovery Providers Section
open Sorting Pass Route Reroute Router Effects MutationFacts Run Records Repertoire Rankings
open RankOrder
open Descriptors Generations Indexing FullScan Coherence Inspection

variable {s t : CanonicalState} {now : UnixMillis}

/-- The checks that no operation of a router, in whatever order it runs among others, and no file
it loads can make report anything. -/
def upheld : List Text :=
  ["one_current_router_epoch", "backend_incarnation_unique", "model_generation_monotonic",
    "backend_generation_monotonic", "index_backends_by_model", "index_backends_by_provider",
    "index_backends_by_trust", "tenant_isolation", "bound_generations_match_snapshot",
    "winner_is_top_ranked", "fallback_order_stable", "no_duplicate_ranked_candidate",
    "deterministic_ranking_order", "cache_cannot_bypass_revalidation"]

def Published (s : CanonicalState) : Prop :=
  s.running = true → s.routerEpoch.valid = true ∧ s.coordinatorEpoch.valid = true

def ModelsWatermarked (s : CanonicalState) : Prop :=
  ∀ id model, s.models.find? id = some model →
    s.modelGenerationWatermark.find? id = some model.modelGeneration

/-- A retained decision that agrees with its plan, its authority and its tenant. -/
structure Agreed (record : RouteRecord) : Prop where
  tenant : record.tenant = record.decision.authority.tenant
  authority : record.decision.explanation.authority = record.decision.authority
  winner : ∀ first ∈ record.decision.explanation.ranking.head?, first.key = record.plan.primary
  fallbacks : record.decision.fallbacks = record.plan.fallbacks
  keys : (record.decision.explanation.ranking.map RankedCandidate.key).Nodup
  ranking : record.decision.explanation.ranking.Pairwise
    fun a b => candidateRanksBefore a b = true
  revalidated : record.plan.constraints.requireRevalidation = true

/-- What every operation keeps up. -/
structure Upkeep (s : CanonicalState) : Prop where
  published : Published s
  models : ModelsWatermarked s
  backends : Watermarked s
  indexed : Indexed s
  agreed : ∀ id record, s.routes.find? id = some record → Agreed record

def CommitsAgreed : Act → Prop
  | .commit draft => Agreed (draftRecord draft)
  | _ => True

theorem next_valid {tag : Tag} (g : Generation tag) : g.next.valid = true := by
  rw [Generation.valid, Generation.next, bne_iff_ne]
  split
  · change kMax ≠ 0
    decide
  · rename_i hmax
    intro hzero
    change g.value + 1 = 0 at hzero
    refine hmax ?_
    have hvalue : g.value = g.value + 1 - 1 := by rw [UInt64.add_sub_cancel]
    rw [hvalue, hzero]
    rfl

theorem Published.of_standing (hs : Published s) (h : standing t = standing s) : Published t := by
  have hrunning : t.running = s.running := congrArg Standing.running h
  have hepochs : epochs t = epochs s := congrArg Standing.epochs h
  obtain ⟨hrouter, hcoordinator⟩ := Prod.mk.inj hepochs
  rw [Published, hrunning, hrouter, hcoordinator]
  exact hs

theorem Published.of_stopped (h : s.running = false) : Published s := by
  intro hrunning
  rw [h] at hrunning
  cases hrunning

theorem event_published {e : Event World Act} (hs : Published e.pre.state) :
    Published (after e).state := by
  obtain ⟨k, w⟩ := e
  cases hkeep : keepsStanding k with
  | true => exact hs.of_standing (apply_standing hkeep w)
  | false =>
      cases k with
      | admitStart =>
          change Published (admitStart w.state)
          rw [admitStart]
          split
          · exact hs
          · exact hs
      | publish now =>
          change Published (publish w.state now)
          rw [publish]
          split
          · exact hs
          · exact fun _ => ⟨next_valid _, next_valid _⟩
      | importState canonical =>
          change Published (importSection canonical w).state
          rw [importSection]
          split
          · exact hs
          · rename_i hstopped
            refine .of_stopped ?_
            change (restore w.state canonical _).running = false
            rw [restore, rebuildIndexes_frame]
            exact Bool.eq_false_iff.mpr hstopped
      | beginShutdown =>
          change Published (beginShutdown w.state)
          rw [beginShutdown]
          split
          · exact hs
          · exact .of_stopped rfl
      | recordDispatch id epoch coordinatorEpoch dispatch =>
          change Published (Handoff.recordDispatch w id epoch coordinatorEpoch dispatch).state
          rw [Handoff.recordDispatch]
          split
          · have hedited := hs.of_standing (editRoute_standing w.state id
              (Handoff.markDispatched (Handoff.dispatchRecorded w id epoch coordinatorEpoch
                dispatch)))
            exact hedited
          · exact hs
      | recordCompletion completion =>
          change Published (Handoff.recordCompletion w.state completion).1
          rw [Handoff.recordCompletion]
          cases Handoff.completable w.state completion with
          | error result => exact hs
          | ok target => exact hs
      | _ => cases hkeep

theorem ModelsWatermarked.congr (hs : ModelsWatermarked s) (hm : t.models = s.models)
    (hw : watermarks t = watermarks s) : ModelsWatermarked t := by
  have hmark : t.modelGenerationWatermark = s.modelGenerationWatermark := congrArg Prod.fst hw
  intro id model hfound
  rw [hmark]
  exact hs id model (hm ▸ hfound)

/-- A mutation that registers no model keeps the models with their generations. -/
def KeepsModels (s t : CanonicalState) : Prop :=
  ∀ id model, t.models.find? id = some model →
    ∃ earlier, s.models.find? id = some earlier ∧ model.modelGeneration = earlier.modelGeneration

theorem KeepsModels.of_eq (h : t.models = s.models) : KeepsModels s t :=
  fun _ model hfound => ⟨model, h ▸ hfound, rfl⟩

theorem edited_models {m : Mutation} (hm : ∀ model, m ≠ .registerModel model) :
    KeepsModels s (m.attempt now s).edited := by
  cases m with
  | registerModel model => exact absurd rfl (hm model)
  | retireModel modelId generation =>
      change KeepsModels s (retireModel s modelId generation).edited
      dsimp only [retireModel]
      cases hmodel : s.models.find? modelId with
      | none => exact .of_eq rfl
      | some existing =>
          intro id model hfound
          change (s.models.insert modelId { existing with lifecycle := .retired }).find? id = _
            at hfound
          rw [OrderedMap.find?_insert] at hfound
          split at hfound
          · rename_i hid
            obtain rfl := Option.some.inj hfound
            exact ⟨existing, hid ▸ hmodel, rfl⟩
          · exact ⟨model, hfound, rfl⟩
  | registerProvider provider => exact .of_eq rfl
  | registerBackend raw =>
      refine .of_eq ?_
      change (installBackend _ raw.canonicalize).models = _
      simp only [installBackend]
      cases s.backends.find? raw.canonicalize.backendId <;> rfl
  | unregisterBackend id generation =>
      refine .of_eq ?_
      change (unregisterBackend s id generation now).edited.models = _
      dsimp only [unregisterBackend]
      cases s.backends.find? id <;> rfl
  | fenceBackendBoot id generation boot reason =>
      refine .of_eq ?_
      change (fenceBackendBoot s id generation boot reason now).edited.models = _
      dsimp only [fenceBackendBoot]
      cases (s.backends.find? id).filter _ <;> rfl
  | publishCapabilities publication => exact .of_eq (editBackend_models s _ _)
  | updateHealth evidence => exact .of_eq (editBackend_models s _ _)
  | updateAvailability evidence => exact .of_eq (editBackend_models s _ _)
  | updateReadiness evidence => exact .of_eq (editBackend_models s _ _)
  | updateResidency evidence => exact .of_eq (editBackend_models s _ _)
  | updateCapacity evidence detail => exact .of_eq (editBackend_models s _ _)
  | updateLatency evidence => exact .of_eq (editBackend_models s _ _)
  | setCost evidence => exact .of_eq (editBackend_models s _ _)
  | setTrust evidence =>
      refine .of_eq ?_
      change (rebindTrust _ evidence).models = _
      simp only [rebindTrust]
      cases s.backends.find? evidence.backendId <;> rfl
  | setPolicy policy => exact .of_eq rfl
  | setBudget budget => exact .of_eq rfl
  | setSlo slo => exact .of_eq rfl
  | setCompatibility evidence => exact .of_eq rfl

theorem edited_watermarked (m : Mutation) (now : UnixMillis) (hs : ModelsWatermarked s) :
    ModelsWatermarked (m.attempt now s).edited := by
  have hmark : (m.attempt now s).edited.modelGenerationWatermark = (raise s m).1 :=
    congrArg Prod.fst (edited_watermarks m now s)
  by_cases hm : ∃ model, m = .registerModel model
  · obtain ⟨model, rfl⟩ := hm
    intro id found hfound
    change (s.models.insert model.modelId model).find? id = some found at hfound
    rw [hmark]
    change (s.modelGenerationWatermark.insert _ _).find? id = _
    rw [OrderedMap.find?_insert] at hfound ⊢
    split at hfound
    · rename_i hid
      obtain rfl := Option.some.inj hfound
      rw [if_pos hid]
    · rename_i hid
      rw [if_neg hid]
      exact hs id found hfound
  · have hraise : (raise s m).1 = s.modelGenerationWatermark := by
      cases m with
      | registerModel model => exact absurd ⟨model, rfl⟩ hm
      | _ => rfl
    intro id found hfound
    obtain ⟨earlier, hearlier, hgeneration⟩ :=
      edited_models (fun model h => hm ⟨model, h⟩) id found hfound
    rw [hmark, hraise, hgeneration]
    exact hs id earlier hearlier

theorem restored_watermarked (s : CanonicalState) (canonical : RouterPersistentState)
    (routes : OrderedMap RouteDecisionId RouteRecord) :
    ModelsWatermarked (restore s canonical routes) ∧ Watermarked (restore s canonical routes) := by
  have hmodels (id : ModelId) :
      (restore s canonical routes).modelGenerationWatermark.find? id =
        ((restore s canonical routes).models.find? id).map ModelDescriptor.modelGeneration := by
    have hfind := OrderedMap.find?_ofList_map ModelDescriptor.modelGeneration
      (canonical.models.map fun record => (record.model.modelId, record.model)) id
    rw [List.map_map] at hfind
    rw [restore, rebuildIndexes_frame]
    exact hfind
  have hbackends (id : BackendId) :
      (restore s canonical routes).backendGenerationWatermark.find? id =
        ((restore s canonical routes).backends.find? id).map
          BackendDescriptor.backendGeneration := by
    have hfind := OrderedMap.find?_ofList_map BackendDescriptor.backendGeneration
      (canonical.backends.map fun record => (record.backendId, importBackend record)) id
    rw [List.map_map] at hfind
    rw [restore, rebuildIndexes_frame]
    exact hfind
  constructor
  · intro id model hfound
    rw [hmodels, hfound, Option.map_some]
  · intro id backend hfound
    rw [hbackends, hfound, Option.map_some]

theorem event_modelsWatermarked {e : Event World Act} (hs : ModelsWatermarked e.pre.state) :
    ModelsWatermarked (after e).state := by
  obtain ⟨k, w⟩ := e
  cases hkeep : keepsHoldings k with
  | true =>
      have hsame := apply_holdings hkeep w
      exact hs.congr (congrArg Holdings.models hsame) (watermarks_of_holdings hsame)
  | false =>
      cases k with
      | mutate m now =>
          change ModelsWatermarked (m.next now w.state)
          rcases next_cases m now w.state with h | ⟨-, h⟩
          · rwa [h]
          · have hwritten := written_holdings (m.attempt now w.state) now
            rw [h]
            exact (edited_watermarked m now hs).congr (congrArg Holdings.models hwritten)
              (watermarks_of_holdings hwritten)
      | writeCapacityDetail detail =>
          exact hs.congr (editBackend_models _ _ _) (editBackend_watermarks _ _ _)
      | importState canonical =>
          change ModelsWatermarked (importSection canonical w).state
          unfold importSection
          split
          · exact hs
          · exact (restored_watermarked _ _ _).1
      | _ => cases hkeep

theorem event_backendsWatermarked {e : Event World Act} (hs : Watermarked e.pre.state) :
    Watermarked (after e).state := by
  cases hload : imports e.act with
  | false => exact event_watermarked hload hs
  | true =>
      obtain ⟨k, w⟩ := e
      cases k with
      | importState canonical =>
          change Watermarked (importSection canonical w).state
          unfold importSection
          split
          · exact hs
          · exact (restored_watermarked _ _ _).2
      | _ => cases hload

section

variable {record earlier : RouteRecord} {draft : CommitDraft}

theorem Agreed.of_frozen (h : Agreed earlier) (hf : frozen record = frozen earlier) :
    Agreed record := by
  have hfrozen : Agreed (frozen earlier) :=
    ⟨h.tenant, h.authority, h.winner, h.fallbacks, h.keys, h.ranking, h.revalidated⟩
  rw [← hf] at hfrozen
  obtain ⟨tenant, authority, winner, fallbacks, keys, ranking, revalidated⟩ := hfrozen
  exact ⟨tenant, authority, winner, fallbacks, keys, ranking, revalidated⟩

theorem Agreed.committed (h : Agreed (draftRecord draft)) (s : CanonicalState)
    (id : RouteDecisionId) (planId : RoutePlanId) :
    Agreed (committedRecord draft (boundDecision s draft id) planId) := by
  obtain ⟨hauthority, hexplained, hfallbacks, hranking, -⟩ := boundDecision_parts s draft id
  constructor <;> simp only [committedRecord, hfallbacks, hranking]
  · rw [hauthority]
    exact h.tenant
  · exact hexplained
  · exact h.winner
  · exact h.fallbacks
  · exact h.keys
  · exact h.ranking
  · exact h.revalidated

theorem importRoute_agreed (route : PersistedRouteRecord) (planId : RoutePlanId) :
    Agreed (importRoute route planId) := by
  constructor
  · rfl
  · rfl
  · intro first hfirst
    cases hfirst
  · rfl
  · exact List.nodup_nil
  · exact .nil
  · rfl

variable {I : World → Prop} {E : Env → Prop} {raw : RouteRequest}

theorem routeDraft_agreed (h : RouteDraft I E raw draft) : Agreed (draftRecord draft) := by
  obtain @⟨request, w, e, explanation, winner, tail, authority, -, -, -, hranking, hranks,
    hbound⟩ := h
  constructor
  · exact hbound.tenant.symm
  · rfl
  · change ∀ first ∈ explanation.ranking.head?, first.key = winner.key
    rw [hranking]
    rintro first ⟨rfl⟩
    rfl
  · rfl
  · change (explanation.ranking.map RankedCandidate.key).Nodup
    rw [hranking]
    exact ranks_distinct hranks
  · change explanation.ranking.Pairwise _
    rw [hranking]
    exact ranks_strict hranks
  · rfl

theorem fallbackDraft_agreed {id : RouteDecisionId} (h : FallbackDraft I E id raw draft) :
    Agreed (draftRecord draft) := by
  obtain ⟨-, -, -, -, hkey, hbound⟩ := h
  constructor
  · exact hbound.tenant.symm
  · rfl
  · rintro first ⟨rfl⟩
    exact hkey
  · rfl
  · exact List.nodup_singleton _
  · exact List.pairwise_singleton _ _
  · rfl

theorem commits_allows : Allows I E CommitsAgreed where
  plain k hk := by
    cases k with
    | commit draft => cases hk
    | _ => trivial
  mutate _ _ _ := trivial
  publish _ _ := trivial
  importState _ _ _ _ _ := trivial
  commitRoute _ _ hdraft := routeDraft_agreed hdraft
  commitFallback _ _ _ hdraft := fallbackDraft_agreed hdraft
  store _ _ _ _ := trivial
  storeShut _ _ _ _ := trivial

end

theorem event_upkeep {e : Event World Act} (hact : CommitsAgreed e.act)
    (hs : Upkeep e.pre.state) : Upkeep (after e).state where
  published := event_published hs.published
  models := event_modelsWatermarked hs.models
  backends := event_backendsWatermarked hs.backends
  indexed := event_indexed hs.indexed
  agreed id record hrecord := by
    cases event_origin hrecord with
    | @retained earlier hearlier hf hkeep => exact (hs.agreed id earlier hearlier).of_frozen hf
    | @committed draft hdraft hreplaces hf =>
        rw [hdraft] at hact
        exact (hact.committed _ _ _).of_frozen hf
    | @imported canonical route planId himport hstopped hroute hid hbuilt =>
        rw [hbuilt]
        exact importRoute_agreed route planId

theorem fresh_upkeep (options : ModelRouterOptions) (highest : UInt64) :
    Upkeep (World.fresh options highest).state where
  published := .of_stopped rfl
  models := by
    intro id model h
    cases h
  backends := by
    intro id backend h
    cases h
  indexed := fresh_indexed options highest
  agreed := by
    intro id record h
    cases h

theorem interleaved_upkeep {options : ModelRouterOptions} {highest : UInt64}
    {schedule : List (Choice Op Env)} {e : Event World Act}
    (he : e ∈ interleaved options highest schedule) : Upkeep (after e).state := by
  have hprogram (op : Op) : (op.program options).Only (fun w => Upkeep w.state) (fun _ => True)
      CommitsAgreed :=
    program_only commits_allows options op (fun _ _ _ _ => trivial) fun _ _ _ _ => trivial
  have hkeep (k : Act) (w : World) (hk : CommitsAgreed k) (hw : Upkeep w.state) :
      Upkeep (k.apply w).state :=
    event_upkeep (e := ⟨k, w⟩) hk hw
  have hrun := (Pool.run_only hkeep hprogram (fun _ _ _ => trivial)
    (p := ⟨World.fresh options highest, []⟩) (fresh_upkeep options highest)
    (by simp [Pool.Only])).1 e he
  exact event_upkeep hrun.2 hrun.1

section

variable {condition : Bool} {name detail : Text} {vs ws : List InvariantViolation}

/-- Violations of other checks only. -/
def Quiet (vs : List InvariantViolation) : Prop :=
  ∀ v ∈ vs, v.name ∉ upheld

theorem quiet_nil : Quiet [] := by
  intro v hv
  cases hv

theorem quiet_append : Quiet (vs ++ ws) ↔ Quiet vs ∧ Quiet ws :=
  List.forall_mem_append

theorem Quiet.append (hv : Quiet vs) (hw : Quiet ws) : Quiet (vs ++ ws) :=
  quiet_append.mpr ⟨hv, hw⟩

theorem quiet_flatMap {α : Type} {f : α → List InvariantViolation} {xs : List α}
    (h : ∀ x ∈ xs, Quiet (f x)) : Quiet (xs.flatMap f) := by
  intro v hv
  obtain ⟨x, hx, hmem⟩ := List.mem_flatMap.mp hv
  exact h x hx v hmem

theorem quiet_kept (h : condition = false) : Quiet (violate condition name detail) := by
  rw [violate_eq_nil.mpr h]
  exact quiet_nil

theorem quiet_other (h : name ∉ upheld) : Quiet (violate condition name detail) := by
  intro v hv
  rw [(mem_violate.mp hv).2]
  exact h

theorem quiet_singleton (h : name ∉ upheld) : Quiet [⟨name, detail⟩] :=
  @quiet_other true name detail h

end

section

variable (hs : Upkeep s)

include hs

theorem checkEpochs_quiet : Quiet (checkEpochs s) := by
  rw [checkEpochs_nil.mpr hs.published]
  exact quiet_nil

theorem checkIncarnations_quiet : Quiet (checkIncarnations s) := by
  have hunique : ∀ i j b c, s.backends.find? i = some b → s.backends.find? j = some c →
      fenceKey b = fenceKey c → i = j := by
    intro i j b c hb hc heq
    have hid : b.backendId = c.backendId := congrArg FenceKey.backendId heq
    rw [← hs.indexed.keyed i b hb, ← hs.indexed.keyed j c hc, hid]
  rw [checkIncarnations_nil.mpr hunique]
  exact quiet_nil

theorem checkGenerations_quiet : Quiet (checkGenerations s) := by
  have hnone : checkGenerations s = [] := by
    refine checkGenerations_nil.mpr ⟨fun id model watermark hfound hmark => ?_,
      fun id backend watermark hfound hmark => ?_⟩
    · rw [hs.models id model hfound] at hmark
      exact (Option.some.inj hmark).ge
    · rw [hs.backends id backend hfound] at hmark
      exact (Option.some.inj hmark).ge
  rw [hnone]
  exact quiet_nil

theorem checkIndexes_quiet : Quiet (checkIndexes s) := by
  rw [checkIndexes_nil.mpr hs.indexed.holds]
  exact quiet_nil

end

theorem checkFences_quiet (s : CanonicalState) : Quiet (checkFences s) :=
  quiet_flatMap fun _ _ => quiet_other (by decide +kernel)

theorem checkHistory_quiet (s : CanonicalState) : Quiet (checkHistory s) :=
  ((quiet_other (by decide +kernel)).append (quiet_other (by decide +kernel))).append
    (quiet_other (by decide +kernel))

theorem checkShutdown_quiet (s : CanonicalState) : Quiet (checkShutdown s) :=
  quiet_other (by decide +kernel)

theorem checkRecord_quiet {record : RouteRecord} (h : Agreed record) (id : RouteDecisionId) :
    Quiet (checkRecord id record) := by
  have hasymm (a b : RankedCandidate) (hab : candidateRanksBefore a b = true) :
      candidateRanksBefore b a = false := by
    rw [Bool.eq_false_iff, ne_eq, candidateRanksBefore_iff]
    exact ((candidateRanksBefore_iff a b).mp hab).asymm
  have hordered : outOfOrder candidateRanksBefore record.decision.explanation.ranking = false :=
    outOfOrder_eq_false.mpr (h.ranking.imp fun {a b} => hasymm a b).isChain
  have hkeys : duplicates RankedCandidate.key [] record.decision.explanation.ranking = [] :=
    duplicates_eq_nil.mpr ⟨h.keys, by simp⟩
  have hwinner : (record.decision.explanation.ranking.head?.any fun first =>
      first.key != record.plan.primary) = false := by
    rw [Option.any_eq_false]
    intro first hfirst
    simp [h.winner first hfirst]
  rw [checkRecord, hkeys]
  simp only [quiet_append, List.map_nil]
  refine ⟨⟨⟨⟨⟨⟨⟨⟨⟨?_, ?_⟩, ?_⟩, ?_⟩, ?_⟩, ?_⟩, quiet_nil⟩, ?_⟩, ?_⟩, ?_⟩
  · exact quiet_other (by decide +kernel)
  · exact quiet_kept (by simp [h.tenant])
  · exact quiet_kept (by simp [h.authority])
  · exact quiet_other (by decide +kernel)
  · exact quiet_kept hwinner
  · exact quiet_kept (by simp [h.fallbacks])
  · exact quiet_kept hordered
  · exact quiet_other (by decide +kernel)
  · exact quiet_kept (by simp [h.revalidated])

theorem checkLive_quiet (s : CanonicalState) (now : UnixMillis) (id : RouteDecisionId)
    (bound : RouteAuthority) (model : ModelDescriptor) (backend : BackendDescriptor) :
    Quiet (checkLive s now id bound model backend) := by
  simp only [checkLive, quiet_append]
  refine ⟨⟨⟨⟨⟨⟨⟨?_, ?_⟩, ?_⟩, ?_⟩, ?_⟩, ?_⟩, ?_⟩, ?_⟩
  · exact quiet_other (by decide +kernel)
  · exact quiet_other (by decide +kernel)
  · exact quiet_other (by decide +kernel)
  · exact quiet_other (by decide +kernel)
  · exact quiet_other (by decide +kernel)
  · exact quiet_other (by decide +kernel)
  · exact quiet_other (by decide +kernel)
  · exact quiet_other (by decide +kernel)

theorem checkCurrent_quiet (s : CanonicalState) (now : UnixMillis) (id : RouteDecisionId)
    (bound : RouteAuthority) : Quiet (checkCurrent s now id bound) := by
  have hmissing (detail : Text) : Quiet [⟨"current_route_winner_exists", detail⟩] :=
    quiet_singleton (by decide +kernel)
  unfold checkCurrent
  dsimp only
  cases s.models.find? bound.modelId with
  | none => exact hmissing _
  | some model =>
      refine (quiet_other (by decide +kernel)).append ?_
      cases s.backends.find? bound.backendId with
      | none => exact hmissing _
      | some backend => exact checkLive_quiet s now id bound model backend

theorem checkRoute_quiet {id : RouteDecisionId} {record : RouteRecord} (h : Agreed record) :
    Quiet (checkRoute s now (id, record)) := by
  refine (checkRecord_quiet h id).append ?_
  split
  · exact checkCurrent_quiet s now id _
  · exact quiet_nil

theorem checkInvariants_quiet (hs : Upkeep s) (now : UnixMillis) :
    Quiet (checkInvariants s now).violations := by
  have hpushed : Quiet (pushedViolations s now) := by
    simp only [pushedViolations, quiet_append]
    refine ⟨⟨⟨⟨⟨⟨⟨?_, ?_⟩, ?_⟩, ?_⟩, ?_⟩, ?_⟩, ?_⟩, quiet_flatMap ?_⟩
    · exact checkEpochs_quiet hs
    · exact checkIncarnations_quiet hs
    · exact checkFences_quiet s
    · exact checkGenerations_quiet hs
    · exact checkIndexes_quiet hs
    · exact checkHistory_quiet s
    · exact checkShutdown_quiet s
    · rintro ⟨id, record⟩ hentry
      exact checkRoute_quiet (hs.agreed id record (OrderedMap.mem_entries_iff.mp hentry))
  intro v hv
  exact hpushed v (mem_stableSort.mp hv)

/-- Whatever the options, the answers of the surroundings, the files loaded and the interleaving
of the operations, no state ever reached makes one of these checks report a violation. -/
theorem interleaved_upheld (options : ModelRouterOptions) (highest : UInt64)
    (schedule : List (Choice Op Env)) (now : UnixMillis) :
    ∀ e ∈ interleaved options highest schedule,
      ∀ v ∈ (checkInvariants (after e).state now).violations, v.name ∉ upheld :=
  fun _ he => checkInvariants_quiet (interleaved_upkeep he) now

/-- The registered backend is of generation 1 and the fence call names generation 2. -/
def fencedInPlace : List (Choice Op Env) :=
  inTurn 2 sampleEnv 0 (sampleCatalog ++ [.mutation (.fenceBackendBoot ⟨7⟩ ⟨2⟩ ⟨1⟩ .fenced)])

theorem fencedInPlace_upheld : ∃ e ∈ interleaved sampleOptions 100 fencedInPlace,
    ∃ v ∈ (checkInvariants (after e).state 100).violations, v.name ∉ upheld := by
  have hreports : (interleaved sampleOptions 100 fencedInPlace).any (fun e =>
      (checkInvariants (after e).state 100).violations.any fun v =>
        v.name = "fenced_boot_never_authoritative") = true := by decide +kernel
  obtain ⟨e, he, hany⟩ := List.any_eq_true.mp hreports
  obtain ⟨v, hv, -⟩ := List.any_eq_true.mp hany
  exact ⟨e, he, v, hv, interleaved_upheld sampleOptions 100 fencedInPlace 100 e he v hv⟩

end ModelRouter.Upheld
