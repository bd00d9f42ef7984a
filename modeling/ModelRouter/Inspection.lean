import ModelRouter.Indexing
import ModelRouter.Sorting

namespace ModelRouter.Inspection

open Base Base.SecondaryIndex Bytes Ids Outcome Capability Evidence Catalog Candidate Authority
open Policy Decision State Providers Indexing MutationFacts Sorting

structure InvariantViolation where
  name : Text
  detail : Text
deriving DecidableEq, Repr

structure InvariantReport where
  violations : List InvariantViolation := []
  checksRun : UInt32 := 0
deriving DecidableEq, Repr

def InvariantReport.ok (r : InvariantReport) : Bool :=
  r.violations.isEmpty

def violate (condition : Bool) (name detail : Text) : List InvariantViolation :=
  if condition then [⟨name, detail⟩] else []

section

variable {α κ : Type} [DecidableEq κ]

def duplicates (key : α → κ) : List κ → List α → List α
  | _, [] => []
  | seen, x :: rest =>
    if key x ∈ seen then x :: duplicates key seen rest
    else duplicates key (key x :: seen) rest

def outOfOrder (before : α → α → Bool) : List α → Bool
  | x :: y :: rest => before y x || outOfOrder before (y :: rest)
  | _ => false

end

/-- The three indexes as the check scans them. -/
structure Scanned where
  byModel : OrderedMap ModelId (IdSet .backend) := .empty
  byProvider : OrderedMap ProviderId (IdSet .backend) := .empty
  byTrust : OrderedMap Nat (IdSet .backend) := .empty

def scanBackend (scanned : Scanned) (entry : BackendId × BackendDescriptor) : Scanned where
  byProvider := indexInsert scanned.byProvider entry.2.providerId entry.1
  byTrust := indexInsert scanned.byTrust entry.2.trustDomain.trustRank entry.1
  byModel := entry.2.modelBindings.foldl
    (fun index binding => indexInsert index binding.modelId entry.1) scanned.byModel

def scanBackends (s : CanonicalState) : Scanned :=
  s.backends.entries.foldl scanBackend {}

def sameIndex {K : Type} [LinearOrder K] (a b : OrderedMap K (IdSet .backend)) : Bool :=
  let spell (m : OrderedMap K (IdSet .backend)) := m.entries.map fun e => (e.1, e.2.keys)
  spell a == spell b

def numbered (label : Text) (value : UInt64) (rest : Text) : Text :=
  label ++ decimal value.toNat ++ rest

section

variable (s : CanonicalState)

def checkEpochs : List InvariantViolation :=
  violate (s.running && (!s.routerEpoch.valid || !s.coordinatorEpoch.valid))
    "one_current_router_epoch"
    "router is running without a published router or coordinator epoch"

def checkIncarnations : List InvariantViolation :=
  (duplicates fenceKey [] s.backends.values).map fun backend =>
    ⟨"backend_incarnation_unique",
      numbered "duplicate backend incarnation " backend.backendId.value
        (numbered ".boot=" backend.backendBoot.value [])⟩

def checkFences : List InvariantViolation :=
  s.backends.values.flatMap fun backend =>
    violate (s.fencedBoots.contains (fenceKey backend)) "fenced_boot_never_authoritative"
      (numbered "fenced incarnation is present in canonical state: backend="
        backend.backendId.value (numbered " boot=" backend.backendBoot.value []))

def checkGenerations : List InvariantViolation :=
  s.models.entries.flatMap (fun entry =>
    violate ((s.modelGenerationWatermark.find? entry.1).any fun watermark =>
        entry.2.modelGeneration < watermark)
      "model_generation_monotonic" (numbered "model " entry.1.value " regressed")) ++
  s.backends.entries.flatMap fun entry =>
    violate ((s.backendGenerationWatermark.find? entry.1).any fun watermark =>
        entry.2.backendGeneration < watermark)
      "backend_generation_monotonic" (numbered "backend " entry.1.value " regressed")

def checkIndexes : List InvariantViolation :=
  let scanned := scanBackends s
  violate (!sameIndex scanned.byModel s.indexBackendsByModel) "index_backends_by_model"
    "index disagrees with the canonical scan" ++
  violate (!sameIndex scanned.byProvider s.indexBackendsByProvider) "index_backends_by_provider"
    "index disagrees with the canonical scan" ++
  violate (!sameIndex scanned.byTrust s.indexBackendsByTrust) "index_backends_by_trust"
    "index disagrees with the canonical scan"

def checkHistory : List InvariantViolation :=
  violate (s.routes.size > s.limits.maxRouteHistory.toNat ||
      s.routeOrder.length > s.limits.maxRouteHistory.toNat)
    "bounded_route_history" "retained route history exceeds the configured bound" ++
  violate (s.routeOrder.length != s.routes.size) "route_order_consistent"
    "route eviction order and retained route map disagree" ++
  violate (s.fencedBoots.size > s.limits.maxBackendIncarnations.toNat) "bounded_fenced_boots"
    "fenced incarnation history exceeds the bound"

def checkShutdown : List InvariantViolation :=
  violate (s.shuttingDown && s.routes.values.any fun record => record.decision.status == .current)
    "shutdown_no_executable_route"
    "a current route exists while the router is shutting down"

end

def checkRecord (id : RouteDecisionId) (record : RouteRecord) : List InvariantViolation :=
  let decision := record.decision
  let explanation := decision.explanation
  let told (rest : Text) := numbered "decision " id.value rest
  violate (!decision.decisionGeneration.valid) "route_generation_monotonic"
    (told " has no valid generation") ++
  violate (record.tenant != decision.authority.tenant) "tenant_isolation"
    (told " record tenant disagrees with its bound authority tenant") ++
  violate (explanation.authority != decision.authority) "bound_generations_match_snapshot"
    (told " explanation authority differs from its bound authority") ++
  violate (explanation.requestId.valid && explanation.requestId != decision.requestId)
    "bound_request_identity"
    (told " explanation request identity differs from the decision") ++
  violate (explanation.ranking.head?.any fun first => first.key != record.plan.primary)
    "winner_is_top_ranked" (told " plan primary is not the top-ranked candidate") ++
  violate (decision.fallbacks != record.plan.fallbacks) "fallback_order_stable"
    (told " fallback list differs from its plan") ++
  (duplicates RankedCandidate.key [] explanation.ranking).map (fun _ =>
    ⟨"no_duplicate_ranked_candidate", told " contains a duplicate candidate identity"⟩) ++
  violate (outOfOrder candidateRanksBefore explanation.ranking) "deterministic_ranking_order"
    (told " ranked list is not in canonical order") ++
  violate (outOfOrder RouteRejection.canonicalLess explanation.rejections)
    "deterministic_rejection_order" (told " rejection list is not in canonical order") ++
  violate (!record.plan.constraints.requireRevalidation) "cache_cannot_bypass_revalidation"
    (told " plan does not require pre-dispatch revalidation")

def boundCandidate (model : ModelDescriptor) (backend : BackendDescriptor)
    (binding : ModelBinding) : RouteCandidate :=
  { candidateOf model backend binding with discoverySource := [] }

section

variable (s : CanonicalState) (now : UnixMillis)

def checkLive (id : RouteDecisionId) (bound : RouteAuthority) (model : ModelDescriptor)
    (backend : BackendDescriptor) : List InvariantViolation :=
  let told (rest : Text) := numbered "current decision " id.value rest
  violate (s.fencedBoots.contains (fenceKey backend)) "stale_backend_boot_cannot_dispatch"
    (told " references a fenced incarnation") ++
  violate (backend.backendBoot != bound.backendBoot) "stale_backend_boot_cannot_dispatch"
    (told " bound an older backend incarnation") ++
  violate (backend.retired || backend.draining) "unavailable_backend_cannot_dispatch"
    (told " references a retired or draining backend") ++
  violate (s.policy.generation != bound.policyGeneration) "stale_policy_cannot_dispatch"
    (told " bound an older policy generation") ++
  violate (s.routerEpoch != bound.routerEpoch) "stale_router_epoch_cannot_dispatch"
    (told " bound an older router epoch") ++
  violate (s.coordinatorEpoch != bound.coordinatorEpoch) "stale_coordinator_epoch_cannot_dispatch"
    (told " bound an older coordinator epoch") ++
  violate (bound.expired now) "expired_route_cannot_dispatch" (told " has expired") ++
  violate ((backend.findBinding bound.modelId).any fun binding =>
      !(evaluateCandidate s.policy (boundCandidate model backend binding) now).allowed)
    "policy_denied_route_cannot_dispatch" (told " is denied by the current policy")

/-- The checks of a current decision; the first `continue` leaves out all that follow it. -/
def checkCurrent (id : RouteDecisionId) (bound : RouteAuthority) : List InvariantViolation :=
  let told (rest : Text) := numbered "current decision " id.value rest
  match s.models.find? bound.modelId with
  | none =>
    [⟨"current_route_winner_exists", told " references an unregistered model"⟩]
  | some model =>
    violate model.retired "retired_model_cannot_dispatch" (told " references a retired model") ++
    match s.backends.find? bound.backendId with
    | none =>
      [⟨"current_route_winner_exists", told " references an unregistered backend"⟩]
    | some backend => checkLive s now id bound model backend

def checkRoute (entry : RouteDecisionId × RouteRecord) : List InvariantViolation :=
  checkRecord entry.1 entry.2 ++
    if entry.2.decision.status = .current then
      checkCurrent s now entry.1 entry.2.decision.authority
    else []

def pushedViolations : List InvariantViolation :=
  checkEpochs s ++ checkIncarnations s ++ checkFences s ++ checkGenerations s ++ checkIndexes s ++
    checkHistory s ++ checkShutdown s ++ s.routes.entries.flatMap (checkRoute s now)

def violationBefore (lhs rhs : InvariantViolation) : Bool :=
  if lhs.name ≠ rhs.name then lhs.name < rhs.name else lhs.detail < rhs.detail

/-- Seven checks of the whole state, and one more for every retained decision. -/
def checkInvariants : InvariantReport where
  violations := stableSort violationBefore (pushedViolations s now)
  checksRun := 7 + s.routes.size.toUInt32

end

/-! What the checks look for, said of the state alone. -/

/-- A retained decision whose parts agree with each other. -/
structure Kept (record : RouteRecord) : Prop where
  generation : record.decision.decisionGeneration.valid = true
  tenant : record.tenant = record.decision.authority.tenant
  authority : record.decision.explanation.authority = record.decision.authority
  request : record.decision.explanation.requestId.valid = true →
    record.decision.explanation.requestId = record.decision.requestId
  winner : ∀ first ∈ record.decision.explanation.ranking.head?, first.key = record.plan.primary
  fallbacks : record.decision.fallbacks = record.plan.fallbacks
  keys : (record.decision.explanation.ranking.map RankedCandidate.key).Nodup
  ranking : record.decision.explanation.ranking.IsChain
    fun a b => candidateRanksBefore b a = false
  rejections : record.decision.explanation.rejections.IsChain
    fun a b => RouteRejection.canonicalLess b a = false
  revalidated : record.plan.constraints.requireRevalidation = true

/-- An authority that the model, the backend, the policy and the epochs still stand behind. -/
structure Live (s : CanonicalState) (now : UnixMillis) (bound : RouteAuthority)
    (model : ModelDescriptor) (backend : BackendDescriptor) : Prop where
  registered : s.models.find? bound.modelId = some model
  hosted : s.backends.find? bound.backendId = some backend
  offered : model.retired = false
  unfenced : s.fencedBoots.contains (fenceKey backend) = false
  boot : backend.backendBoot = bound.backendBoot
  serving : backend.retired = false ∧ backend.draining = false
  policy : s.policy.generation = bound.policyGeneration
  epochs : epochs s = (bound.routerEpoch, bound.coordinatorEpoch)
  lasting : bound.expired now = false
  allowed : ∀ binding ∈ backend.findBinding bound.modelId,
    (evaluateCandidate s.policy (boundCandidate model backend binding) now).allowed = true

/-- A state with no violation to report. -/
structure Healthy (s : CanonicalState) (now : UnixMillis) : Prop where
  published : s.running = true → s.routerEpoch.valid = true ∧ s.coordinatorEpoch.valid = true
  incarnations : ∀ i j b c, s.backends.find? i = some b → s.backends.find? j = some c →
    fenceKey b = fenceKey c → i = j
  unfenced : ∀ id b, s.backends.find? id = some b → s.fencedBoots.contains (fenceKey b) = false
  models : ∀ id model watermark, s.models.find? id = some model →
    s.modelGenerationWatermark.find? id = some watermark → watermark ≤ model.modelGeneration
  backends : ∀ id b watermark, s.backends.find? id = some b →
    s.backendGenerationWatermark.find? id = some watermark → watermark ≤ b.backendGeneration
  indexed : Holds s (scan s)
  history : s.routes.size ≤ s.limits.maxRouteHistory.toNat
  ordered : s.routeOrder.length = s.routes.size
  fences : s.fencedBoots.size ≤ s.limits.maxBackendIncarnations.toNat
  quiet : s.shuttingDown = true → ∀ id record, s.routes.find? id = some record →
    record.decision.status ≠ .current
  kept : ∀ id record, s.routes.find? id = some record → Kept record
  live : ∀ id record, s.routes.find? id = some record → record.decision.status = .current →
    ∃ model backend, Live s now record.decision.authority model backend

section

variable {condition : Bool} {name detail : Text} {v : InvariantViolation}

@[simp] theorem violate_eq_nil : violate condition name detail = [] ↔ condition = false := by
  cases condition <;> simp [violate]

theorem mem_violate :
    v ∈ violate condition name detail ↔ condition = true ∧ v = ⟨name, detail⟩ := by
  cases condition <;> simp [violate]

variable {α κ : Type} [DecidableEq κ] {key : α → κ} {seen : List κ} {xs : List α}

theorem duplicates_eq_nil :
    duplicates key seen xs = [] ↔ (xs.map key).Nodup ∧ ∀ x ∈ xs, key x ∉ seen := by
  induction xs generalizing seen with
  | nil => simp [duplicates]
  | cons x rest ih =>
      rw [duplicates]
      by_cases hseen : key x ∈ seen
      · simp [hseen]
      · rw [if_neg hseen, ih, List.map_cons, List.nodup_cons]
        constructor
        · rintro ⟨hrest, hfresh⟩
          refine ⟨⟨fun hmem => ?_, hrest⟩, List.forall_mem_cons.mpr ⟨hseen, fun y hy => ?_⟩⟩
          · obtain ⟨y, hy, hkey⟩ := List.mem_map.mp hmem
            exact hfresh y hy (hkey ▸ List.mem_cons_self)
          · exact fun hmem => hfresh y hy (List.mem_cons_of_mem _ hmem)
        · rintro ⟨⟨hx, hrest⟩, hfresh⟩
          refine ⟨hrest, fun y hy hmem => ?_⟩
          rcases List.mem_cons.mp hmem with heq | hmem
          · exact hx (heq ▸ List.mem_map_of_mem hy)
          · exact hfresh y (List.mem_cons_of_mem _ hy) hmem

omit [DecidableEq κ] in
theorem outOfOrder_eq_false {before : α → α → Bool} :
    outOfOrder before xs = false ↔ xs.IsChain fun a b => before b a = false := by
  induction xs with
  | nil => simp [outOfOrder]
  | cons x rest ih =>
      cases rest with
      | nil => simp [outOfOrder]
      | cons y rest => simp only [outOfOrder, Bool.or_eq_false_iff, ih, List.isChain_cons_cons]

end

theorem sameIndex_iff {K : Type} [LinearOrder K] {a b : OrderedMap K (IdSet .backend)} :
    sameIndex a b = true ↔ a = b := by
  have hset : Function.Injective (OrderedMap.keys (K := BackendId) (V := Unit)) := by
    intro p q h
    ext k
    have hmem : p.contains k = q.contains k := by
      rw [Bool.eq_iff_iff, ← OrderedMap.mem_keys_iff, ← OrderedMap.mem_keys_iff, h]
    rw [OrderedMap.contains, OrderedMap.contains] at hmem
    cases hp : p.find? k <;> cases hq : q.find? k <;> simp_all
  have hentry : Function.Injective fun e : K × IdSet .backend => (e.1, e.2.keys) := by
    rintro ⟨k, p⟩ ⟨j, q⟩ h
    obtain ⟨hk, hkeys⟩ := Prod.mk.inj h
    exact Prod.ext hk (hset hkeys)
  rw [sameIndex, beq_iff_eq, (List.map_injective_iff.mpr hentry).eq_iff]
  constructor
  · intro h
    cases a
    cases b
    cases h
    rfl
  · rintro rfl
    rfl

theorem scanBackends_eq (s : CanonicalState) :
    scanBackends s =
      ⟨s.rebuildIndexes.indexBackendsByModel, s.rebuildIndexes.indexBackendsByProvider,
        s.rebuildIndexes.indexBackendsByTrust⟩ := by
  have hloop (entries : List (BackendId × BackendDescriptor)) (t : CanonicalState)
      (scanned : Scanned)
      (h : scanned = ⟨t.indexBackendsByModel, t.indexBackendsByProvider, t.indexBackendsByTrust⟩) :
      entries.foldl scanBackend scanned =
        let rebuilt := entries.foldl (fun (state : CanonicalState) entry =>
          state.indexAddBackend { entry.2 with backendId := entry.1 }) t
        ⟨rebuilt.indexBackendsByModel, rebuilt.indexBackendsByProvider,
          rebuilt.indexBackendsByTrust⟩ := by
    induction entries generalizing t scanned with
    | nil => exact h
    | cons entry rest ih =>
        subst h
        exact ih _ _ rfl
  exact hloop _ _ _ rfl

section

variable {s : CanonicalState} {now : UnixMillis}

theorem checkEpochs_nil : checkEpochs s = [] ↔
    (s.running = true → s.routerEpoch.valid = true ∧ s.coordinatorEpoch.valid = true) := by
  rw [checkEpochs, violate_eq_nil]
  cases s.running <;> simp

theorem checkIncarnations_nil : checkIncarnations s = [] ↔
    ∀ i j b c, s.backends.find? i = some b → s.backends.find? j = some c →
      fenceKey b = fenceKey c → i = j := by
  rw [checkIncarnations, List.map_eq_nil_iff, duplicates_eq_nil]
  simp only [List.not_mem_nil, not_false_eq_true, implies_true, and_true]
  have hkeys := s.backends.keys_nodup
  rw [OrderedMap.values, List.map_map, List.nodup_map_iff_inj_on hkeys.of_map]
  constructor
  · intro h i j b c hi hj heq
    exact congrArg Prod.fst (h _ (OrderedMap.mem_entries_iff.mpr hi) _
      (OrderedMap.mem_entries_iff.mpr hj) heq)
  · rintro h ⟨i, b⟩ hb ⟨j, c⟩ hc heq
    have hi := OrderedMap.mem_entries_iff.mp hb
    have hj := OrderedMap.mem_entries_iff.mp hc
    obtain rfl := h i j b c hi hj heq
    obtain rfl := Option.some.inj (hi.symm.trans hj)
    rfl

theorem checkFences_nil : checkFences s = [] ↔
    ∀ id b, s.backends.find? id = some b → s.fencedBoots.contains (fenceKey b) = false := by
  simp only [checkFences, List.flatMap_eq_nil_iff, violate_eq_nil, OrderedMap.mem_values_iff]
  exact ⟨fun h id b hb => h b ⟨id, hb⟩, fun h b ⟨id, hb⟩ => h id b hb⟩

theorem checkGenerations_nil : checkGenerations s = [] ↔
    (∀ id model watermark, s.models.find? id = some model →
      s.modelGenerationWatermark.find? id = some watermark → watermark ≤ model.modelGeneration) ∧
    ∀ id b watermark, s.backends.find? id = some b →
      s.backendGenerationWatermark.find? id = some watermark →
        watermark ≤ b.backendGeneration := by
  simp only [checkGenerations, List.append_eq_nil_iff, List.flatMap_eq_nil_iff, violate_eq_nil,
    Prod.forall, OrderedMap.mem_entries_iff, Option.any_eq_false, decide_eq_false_iff_not, not_lt]
  constructor
  · rintro ⟨hm, hb⟩
    exact ⟨fun id model w h hw => hm id model h w hw, fun id b w h hw => hb id b h w hw⟩
  · rintro ⟨hm, hb⟩
    exact ⟨fun id model h w hw => hm id model w h hw, fun id b h w hw => hb id b w h hw⟩

theorem checkIndexes_nil : checkIndexes s = [] ↔ Holds s (scan s) := by
  have hscan := rebuildIndexes_holds s
  simp only [checkIndexes, List.append_eq_nil_iff, violate_eq_nil, Bool.not_eq_false',
    sameIndex_iff, scanBackends_eq]
  constructor
  · rintro ⟨⟨hmodel, hprovider⟩, htrust⟩
    exact hscan.congr hmodel.symm hprovider.symm htrust.symm
  · intro h
    exact ⟨⟨hscan.byModel.unique h.byModel, hscan.byProvider.unique h.byProvider⟩,
      hscan.byTrust.unique h.byTrust⟩

theorem checkHistory_nil : checkHistory s = [] ↔
    s.routes.size ≤ s.limits.maxRouteHistory.toNat ∧ s.routeOrder.length = s.routes.size ∧
      s.fencedBoots.size ≤ s.limits.maxBackendIncarnations.toNat := by
  simp only [checkHistory, List.append_eq_nil_iff, violate_eq_nil, Bool.or_eq_false_iff,
    decide_eq_false_iff_not, not_lt, gt_iff_lt, bne_eq_false_iff_eq]
  constructor
  · rintro ⟨⟨⟨hroutes, -⟩, horder⟩, hfences⟩
    exact ⟨hroutes, horder, hfences⟩
  · rintro ⟨hroutes, horder, hfences⟩
    exact ⟨⟨⟨hroutes, horder.le.trans hroutes⟩, horder⟩, hfences⟩

theorem checkShutdown_nil : checkShutdown s = [] ↔
    (s.shuttingDown = true → ∀ id record, s.routes.find? id = some record →
      record.decision.status ≠ .current) := by
  rw [checkShutdown, violate_eq_nil, Bool.and_eq_false_iff]
  cases s.shuttingDown with
  | false => simp
  | true =>
      simp only [Bool.true_eq_false, false_or, forall_const, List.any_eq_false, beq_iff_eq,
        OrderedMap.mem_values_iff]
      exact ⟨fun h id record hr => h record ⟨id, hr⟩, fun h record ⟨id, hr⟩ => h id record hr⟩

theorem checkRecord_nil {id : RouteDecisionId} {record : RouteRecord} :
    checkRecord id record = [] ↔ Kept record := by
  simp only [checkRecord, List.append_eq_nil_iff, violate_eq_nil, Bool.not_eq_false',
    bne_eq_false_iff_eq, Bool.and_eq_false_iff, List.map_eq_nil_iff, duplicates_eq_nil,
    outOfOrder_eq_false, List.not_mem_nil, not_false_eq_true, implies_true, and_true,
    Option.any_eq_false]
  constructor
  · rintro ⟨⟨⟨⟨⟨⟨⟨⟨⟨hgeneration, htenant⟩, hauthority⟩, hrequest⟩, hwinner⟩, hfallbacks⟩, hkeys⟩,
      hranking⟩, hrejections⟩, hrevalidated⟩
    exact ⟨hgeneration, htenant, hauthority,
      fun hvalid => hrequest.resolve_left (by simp [hvalid]), hwinner, hfallbacks, hkeys, hranking,
      hrejections, hrevalidated⟩
  · intro h
    refine ⟨⟨⟨⟨⟨⟨⟨⟨⟨h.generation, h.tenant⟩, h.authority⟩, ?_⟩, h.winner⟩, h.fallbacks⟩, h.keys⟩,
      h.ranking⟩, h.rejections⟩, h.revalidated⟩
    exact or_iff_not_imp_left.mpr fun hvalid => h.request (by simpa using hvalid)

theorem checkCurrent_nil {id : RouteDecisionId} {bound : RouteAuthority} :
    checkCurrent s now id bound = [] ↔ ∃ model backend, Live s now bound model backend := by
  unfold checkCurrent
  dsimp only
  cases hmodel : s.models.find? bound.modelId with
  | none =>
      refine iff_of_false (by simp) ?_
      rintro ⟨model, backend, h⟩
      cases hmodel.symm.trans h.registered
  | some model =>
      cases hbackend : s.backends.find? bound.backendId with
      | none =>
          refine iff_of_false (by simp) ?_
          rintro ⟨model', backend, h⟩
          cases hbackend.symm.trans h.hosted
      | some backend =>
          simp only [checkLive, List.append_eq_nil_iff, violate_eq_nil, Bool.or_eq_false_iff,
            bne_eq_false_iff_eq, Option.any_eq_false, Bool.not_eq_false']
          constructor
          · rintro ⟨hoffered, ⟨⟨⟨⟨⟨⟨hunfenced, hboot⟩, hserving⟩, hpolicy⟩, hrouter⟩,
              hcoordinator⟩, hlasting⟩, hallowed⟩
            exact ⟨model, backend, hmodel, hbackend, hoffered, hunfenced, hboot, hserving, hpolicy,
              Prod.ext hrouter hcoordinator, hlasting, hallowed⟩
          · rintro ⟨model', backend', h⟩
            obtain rfl := Option.some.inj (hmodel.symm.trans h.registered)
            obtain rfl := Option.some.inj (hbackend.symm.trans h.hosted)
            obtain ⟨hrouter, hcoordinator⟩ := Prod.mk.inj h.epochs
            exact ⟨h.offered, ⟨⟨⟨⟨⟨⟨h.unfenced, h.boot⟩, h.serving⟩, h.policy⟩, hrouter⟩,
              hcoordinator⟩, h.lasting⟩, h.allowed⟩

theorem checkRoute_nil {id : RouteDecisionId} {record : RouteRecord} :
    checkRoute s now (id, record) = [] ↔ Kept record ∧
      (record.decision.status = .current →
        ∃ model backend, Live s now record.decision.authority model backend) := by
  rw [checkRoute, List.append_eq_nil_iff, checkRecord_nil]
  refine and_congr_right fun _ => ?_
  split
  · rename_i hcurrent
    rw [checkCurrent_nil]
    exact ⟨fun h _ => h, fun h => h hcurrent⟩
  · rename_i hcurrent
    exact ⟨fun _ h => absurd h hcurrent, fun _ => rfl⟩

/-- A report is empty exactly when the state is healthy: no check misses what it is there for, and
none reports what is in order. -/
theorem checkInvariants_ok_iff (s : CanonicalState) (now : UnixMillis) :
    (checkInvariants s now).ok = true ↔ Healthy s now := by
  have hpushed : (checkInvariants s now).violations = [] ↔ pushedViolations s now = [] := by
    have hperm := stableSort_perm violationBefore (pushedViolations s now)
    change stableSort violationBefore (pushedViolations s now) = [] ↔ _
    rw [← List.length_eq_zero_iff, hperm.length_eq, List.length_eq_zero_iff]
  rw [InvariantReport.ok, List.isEmpty_iff, hpushed]
  simp only [pushedViolations, List.append_eq_nil_iff, checkEpochs_nil, checkIncarnations_nil,
    checkFences_nil, checkGenerations_nil, checkIndexes_nil, checkHistory_nil, checkShutdown_nil,
    List.flatMap_eq_nil_iff, Prod.forall, OrderedMap.mem_entries_iff, checkRoute_nil]
  constructor
  · rintro ⟨⟨⟨⟨⟨⟨⟨hepochs, hincarnations⟩, hunfenced⟩, hmodels, hbackends⟩, hindexed⟩, hroutes,
      horder, hfences⟩, hquiet⟩, hrecords⟩
    exact ⟨hepochs, hincarnations, hunfenced, hmodels, hbackends, hindexed, hroutes, horder,
      hfences, hquiet, fun id record h => (hrecords id record h).1,
      fun id record h => (hrecords id record h).2⟩
  · intro h
    exact ⟨⟨⟨⟨⟨⟨⟨h.published, h.incarnations⟩, h.unfenced⟩, h.models, h.backends⟩, h.indexed⟩,
      h.history, h.ordered, h.fences⟩, h.quiet⟩,
      fun id record hr => ⟨h.kept id record hr, h.live id record hr⟩⟩

end

end ModelRouter.Inspection
