import ModelRouter.Router

namespace ModelRouter.Effects

open Base Bytes Ids Outcome Capability Evidence Catalog Limits Candidate Authority Decision
open Persistence State CatalogMutation EvidenceMutation Mutations Commit Handoff Recovery Section

/-- The catalog, the fences and the evidence: what the mutations maintain. -/
structure Holdings where
  limits : ResourceLimits
  models : OrderedMap ModelId ModelDescriptor
  providers : OrderedMap ProviderId ProviderDescriptor
  backends : OrderedMap BackendId BackendDescriptor
  fencedBoots : OrderedMap FenceKey FencedBootRecord
  modelGenerationWatermark : OrderedMap ModelId ModelGeneration
  backendGenerationWatermark : OrderedMap BackendId BackendGeneration
  policy : PolicySnapshot
  budget : BudgetSnapshot
  slo : SloEvidence
  compatibility : OrderedMap BackendId CompatibilityEvidence
  trust : OrderedMap BackendId TrustEvidence
  costs : OrderedMap (BackendId ×ₗ ModelId) CostEvidence
  reservations : OrderedMap BackendId ReservationEvidence
  indexBackendsByModel : OrderedMap ModelId (IdSet .backend)
  indexBackendsByProvider : OrderedMap ProviderId (IdSet .backend)
  indexBackendsByTrust : OrderedMap Nat (IdSet .backend)

def holdings (s : CanonicalState) : Holdings where
  limits := s.limits
  models := s.models
  providers := s.providers
  backends := s.backends
  fencedBoots := s.fencedBoots
  modelGenerationWatermark := s.modelGenerationWatermark
  backendGenerationWatermark := s.backendGenerationWatermark
  policy := s.policy
  budget := s.budget
  slo := s.slo
  compatibility := s.compatibility
  trust := s.trust
  costs := s.costs
  reservations := s.reservations
  indexBackendsByModel := s.indexBackendsByModel
  indexBackendsByProvider := s.indexBackendsByProvider
  indexBackendsByTrust := s.indexBackendsByTrust

/-- The identity of the router, its life cycle and its retained order and dispatches: what the
mutations leave alone. -/
structure Control where
  routerId : RouterId
  routerEpoch : RouterEpoch
  coordinatorEpoch : CoordinatorEpoch
  routerBoot : RouterBootId
  running : Bool
  shuttingDown : Bool
  limits : ResourceLimits
  routeOrder : List RouteDecisionId
  dispatches : OrderedMap RouteDecisionId DispatchRecord
  dispatchIndex : OrderedMap DispatchId RouteDecisionId
  reservations : OrderedMap BackendId ReservationEvidence
  counters : PersistenceCounters

def control (s : CanonicalState) : Control where
  routerId := s.routerId
  routerEpoch := s.routerEpoch
  coordinatorEpoch := s.coordinatorEpoch
  routerBoot := s.routerBoot
  running := s.running
  shuttingDown := s.shuttingDown
  limits := s.limits
  routeOrder := s.routeOrder
  dispatches := s.dispatches
  dispatchIndex := s.dispatchIndex
  reservations := s.reservations
  counters := s.counters

section

variable {s t : CanonicalState}

theorem backends_of_holdings (h : holdings t = holdings s) : t.backends = s.backends :=
  congrArg Holdings.backends h

theorem fencedBoots_of_holdings (h : holdings t = holdings s) : t.fencedBoots = s.fencedBoots :=
  congrArg Holdings.fencedBoots h

theorem buildCurrentAuthority_congr (h : holdings t = holdings s)
    (he : t.routerEpoch = s.routerEpoch) (hc : t.coordinatorEpoch = s.coordinatorEpoch)
    (bound : RouteAuthority) : buildCurrentAuthority t bound = buildCurrentAuthority s bound := by
  have hmodels : t.models = s.models := congrArg Holdings.models h
  have hbackends : t.backends = s.backends := congrArg Holdings.backends h
  have hreservations : t.reservations = s.reservations := congrArg Holdings.reservations h
  have hpolicy : t.policy = s.policy := congrArg Holdings.policy h
  have hbudget : t.budget = s.budget := congrArg Holdings.budget h
  have hslo : t.slo = s.slo := congrArg Holdings.slo h
  simp only [buildCurrentAuthority, observedAuthority, hmodels, hbackends, hreservations, hpolicy,
    hbudget, hslo, he, hc]

theorem dispatchabilityReason_congr (h : holdings t = holdings s)
    (he : t.routerEpoch = s.routerEpoch) (hc : t.coordinatorEpoch = s.coordinatorEpoch)
    (bound : RouteAuthority) (now : UnixMillis) :
    dispatchabilityReason t bound now = dispatchabilityReason s bound now := by
  have hmodels : t.models = s.models := congrArg Holdings.models h
  have hbackends : t.backends = s.backends := congrArg Holdings.backends h
  have hfenced : t.fencedBoots = s.fencedBoots := congrArg Holdings.fencedBoots h
  simp only [dispatchabilityReason, CanonicalState.isFenced,
    buildCurrentAuthority_congr h he hc, hmodels, hbackends, hfenced]
  rfl

end

section

variable (s : CanonicalState)

@[simp] theorem staleDecisionsForAuthorityChange_holdings (now : UnixMillis) :
    holdings (s.staleDecisionsForAuthorityChange now) = holdings s := rfl

@[simp] theorem staleDecisionsForAuthorityChange_control (now : UnixMillis) :
    control (s.staleDecisionsForAuthorityChange now) = control s := rfl

@[simp] theorem staleDecisionsForBackend_holdings (id : BackendId) (boot : BackendBootId) :
    holdings (s.staleDecisionsForBackend id boot) = holdings s := rfl

@[simp] theorem staleDecisionsForBackend_control (id : BackendId) (boot : BackendBootId) :
    control (s.staleDecisionsForBackend id boot) = control s := rfl

theorem editBackend_frame (id : BackendId) (edit : BackendDescriptor → BackendDescriptor) :
    control (editBackend s id edit) = control s ∧ (editBackend s id edit).routes = s.routes := by
  unfold editBackend
  cases s.backends.find? id with
  | none => exact ⟨rfl, rfl⟩
  | some existing => exact ⟨rfl, rfl⟩

theorem installBackend_frame (backend : BackendDescriptor) :
    control (installBackend s backend) = control s ∧
      (installBackend s backend).routes = s.routes := by
  unfold installBackend
  cases s.backends.find? backend.backendId with
  | none => exact ⟨rfl, rfl⟩
  | some replaced => exact ⟨rfl, rfl⟩

theorem rebindTrust_frame (evidence : TrustEvidence) :
    control (rebindTrust s evidence) = control s ∧ (rebindTrust s evidence).routes = s.routes := by
  unfold rebindTrust
  cases s.backends.find? evidence.backendId with
  | none => exact ⟨rfl, rfl⟩
  | some backend => exact ⟨rfl, rfl⟩

theorem rebuildIndexes_keeps {β : Type} (part : CanonicalState → β)
    (hadd : ∀ s b, part (s.indexAddBackend b) = part s)
    (hclear : part { s with
        indexBackendsByModel := {}
        indexBackendsByProvider := {}
        indexBackendsByTrust := {} } = part s) : part s.rebuildIndexes = part s := by
  have hfold (entries : List (BackendId × BackendDescriptor)) (u : CanonicalState) :
      part (entries.foldl
        (fun state entry => state.indexAddBackend { entry.2 with backendId := entry.1 }) u) =
          part u := by
    induction entries generalizing u with
    | nil => rfl
    | cons entry entries ih => rw [List.foldl_cons, ih, hadd]
  rw [CanonicalState.rebuildIndexes, hfold, hclear]

theorem editRoute_holdings (id : RouteDecisionId) (edit : RouteRecord → RouteRecord) :
    holdings (editRoute s id edit) = holdings s := by
  unfold editRoute
  cases s.routes.find? id <;> rfl

theorem editRoute_find? (j : RouteDecisionId) (edit : RouteRecord → RouteRecord)
    (id : RouteDecisionId) :
    (editRoute s j edit).routes.find? id =
      if j = id then (s.routes.find? id).map edit else s.routes.find? id := by
  unfold editRoute
  cases hj : s.routes.find? j with
  | none =>
      change s.routes.find? id = _
      by_cases hid : j = id
      · rw [if_pos hid, ← hid, hj, Option.map_none]
      · rw [if_neg hid]
  | some record =>
      change (s.routes.insert j (edit record)).find? id = _
      rw [OrderedMap.find?_insert]
      by_cases hid : j = id
      · rw [if_pos hid, if_pos hid, ← hid, hj, Option.map_some]
      · rw [if_neg hid, if_neg hid]

theorem noteTenant_holdings (tenant : TenantId) : holdings (s.noteTenant tenant) = holdings s := by
  unfold CanonicalState.noteTenant
  split <;> rfl

end

def keepsHoldings : Act → Bool
  | .mutate _ _ | .writeCapacityDetail _ | .importState _ => false
  | _ => true

theorem commitSection_holdings (draft : CommitDraft) (w : World) :
    holdings (commitSection draft w).1.state = holdings w.state := by
  unfold commitSection
  cases commitRefusal draft w.state with
  | some refusal => rfl
  | none => exact noteTenant_holdings _ _

theorem recordDispatch_holdings (w : World) (id : RouteDecisionId) (epoch : RouterEpoch)
    (coordinatorEpoch : CoordinatorEpoch) (record : DispatchRecord) :
    holdings (Handoff.recordDispatch w id epoch coordinatorEpoch record).state =
      holdings w.state := by
  unfold Handoff.recordDispatch
  split
  · exact editRoute_holdings w.state id _
  · rfl

theorem recordCompletion_holdings (s : CanonicalState) (completion : CompletionRecord) :
    holdings (Handoff.recordCompletion s completion).1 = holdings s := by
  unfold Handoff.recordCompletion
  cases completable s completion <;> rfl

theorem supersede_holdings (s : CanonicalState) (id : RouteDecisionId) (now : UnixMillis)
    (fresh : Bool) : holdings (Handoff.supersede s id now fresh) = holdings s := by
  unfold Handoff.supersede
  cases fresh
  · exact editRoute_holdings s id _
  · exact editRoute_holdings s id _

theorem apply_holdings {k : Act} (hk : keepsHoldings k = true) (w : World) :
    holdings (k.apply w).state = holdings w.state := by
  cases k with
  | observe => rfl
  | allocate => rfl
  | mutate m now => cases hk
  | writeCapacityDetail detail => cases hk
  | admitStart =>
      change holdings (admitStart w.state) = _
      unfold admitStart
      split <;> rfl
  | publish now =>
      change holdings (publish w.state now) = _
      unfold publish
      split <;> rfl
  | importState canonical => cases hk
  | beginShutdown =>
      change holdings (beginShutdown w.state) = _
      unfold beginShutdown
      split <;> rfl
  | rejectRoute tenant rejected => exact noteTenant_holdings _ _
  | commit draft => exact commitSection_holdings draft w
  | markStale id => exact editRoute_holdings w.state id _
  | finishRevalidate id bound comparisonCurrent now =>
      change holdings (finishRevalidate w.state id bound comparisonCurrent now) = _
      unfold finishRevalidate
      split
      · exact editRoute_holdings w.state id _
      · exact editRoute_holdings w.state id _
  | recordDispatch id epoch coordinatorEpoch record =>
      exact recordDispatch_holdings w id epoch coordinatorEpoch record
  | recordCompletion completion => exact recordCompletion_holdings w.state completion
  | supersede id now fresh => exact supersede_holdings w.state id now fresh
  | store path persisted => rfl

/-- A record under a mutation: left alone, or restaled because it was executable. -/
def Restales (f : RouteDecisionId → RouteRecord → RouteRecord) : Prop :=
  ∀ id record, f id record = record ∨ (record.executable = true ∧ f id record = record.markStale)

theorem staleDecisionIfNotDispatchable_cases (s : CanonicalState) (now : UnixMillis)
    (record : RouteRecord) :
    staleDecisionIfNotDispatchable s now record = record ∨
      (record.executable = true ∧ staleDecisionIfNotDispatchable s now record = record.markStale) := by
  unfold staleDecisionIfNotDispatchable
  cases hx : record.executable with
  | false => exact .inl rfl
  | true =>
      cases isAuthorityDispatchable s record.decision.authority now with
      | true => exact .inl rfl
      | false => exact .inr ⟨rfl, rfl⟩

theorem Restales.comp {f g : RouteDecisionId → RouteRecord → RouteRecord} (hf : Restales f)
    (hg : Restales g) : Restales fun id record => g id (f id record) := by
  intro id record
  rcases hf id record with h | ⟨hx, h⟩
  · simpa only [h] using hg id record
  · rcases hg id record.markStale with h' | ⟨hx', -⟩
    · refine .inr ⟨hx, ?_⟩
      simp only [h, h']
    · simp [RouteRecord.executable, RouteRecord.markStale] at hx'

end ModelRouter.Effects
