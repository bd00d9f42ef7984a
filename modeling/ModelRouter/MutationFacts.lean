import ModelRouter.Effects

namespace ModelRouter.MutationFacts

open Base Base.Refusal Bytes Ids Outcome Capability Evidence Catalog Decision Persistence State
open CatalogMutation EvidenceMutation Mutations Commit Handoff Recovery Section Effects

variable {m : Mutation} {now : UnixMillis} {s : CanonicalState}

theorem next_of_refused {r : MutationResult} (h : (m.attempt now s).refusal = some r) :
    m.next now s = s ∧ m.result now s = r := by
  constructor
  · simp only [Mutation.next, Mutation.run, Attempt.settle_of_some h]
  · simp only [Mutation.result, Mutation.run, Attempt.settle_of_some h]

theorem next_of_taken (h : (m.attempt now s).refusal = none) :
    m.next now s = (m.attempt now s).written now ∧ m.result now s = (m.attempt now s).answer := by
  constructor
  · simp only [Mutation.next, Mutation.run, Attempt.settle_of_none h]
  · simp only [Mutation.result, Mutation.run, Attempt.settle_of_none h]

theorem next_cases (m : Mutation) (now : UnixMillis) (s : CanonicalState) :
    m.next now s = s ∨
      ((m.attempt now s).refusal = none ∧ m.next now s = (m.attempt now s).written now) := by
  cases h : (m.attempt now s).refusal with
  | some r => exact .inl (next_of_refused h).1
  | none => exact .inr ⟨rfl, (next_of_taken h).1⟩

theorem written_holdings (a : Attempt) (now : UnixMillis) :
    holdings (a.written now) = holdings a.edited := by
  unfold Attempt.written
  split <;> rfl

theorem written_control (a : Attempt) (now : UnixMillis) :
    control (a.written now) = control a.edited := by
  unfold Attempt.written
  split <;> rfl

theorem edited_control (m : Mutation) (now : UnixMillis) (s : CanonicalState) :
    control (m.attempt now s).edited = control s := by
  cases m with
  | registerModel model => rfl
  | registerProvider provider => rfl
  | registerBackend backend => exact (installBackend_frame _ _).1
  | unregisterBackend backendId generation =>
      change control (unregisterBackend s backendId generation now).edited = _
      dsimp only [unregisterBackend]
      cases s.backends.find? backendId <;> rfl
  | fenceBackendBoot backendId generation backendBoot reason =>
      change control (fenceBackendBoot s backendId generation backendBoot reason now).edited = _
      dsimp only [fenceBackendBoot]
      cases (s.backends.find? backendId).filter _ <;> rfl
  | publishCapabilities publication => exact (editBackend_frame s _ _).1
  | retireModel modelId generation =>
      change control (retireModel s modelId generation).edited = _
      dsimp only [retireModel]
      cases s.models.find? modelId <;> rfl
  | updateHealth evidence => exact (editBackend_frame s _ _).1
  | updateAvailability evidence => exact (editBackend_frame s _ _).1
  | updateReadiness evidence => exact (editBackend_frame s _ _).1
  | updateResidency evidence => exact (editBackend_frame s _ _).1
  | updateCapacity evidence detail => exact (editBackend_frame s _ _).1
  | updateLatency evidence => exact (editBackend_frame s _ _).1
  | setPolicy policy => rfl
  | setBudget budget => rfl
  | setSlo slo => rfl
  | setCompatibility evidence => rfl
  | setTrust evidence => exact (rebindTrust_frame _ _).1
  | setCost evidence => exact (editBackend_frame s _ _).1

theorem next_control (m : Mutation) (now : UnixMillis) (s : CanonicalState) :
    control (m.next now s) = control s := by
  rcases next_cases m now s with h | ⟨-, h⟩
  · rw [h]
  · rw [h, written_control, edited_control]

def RoutesRestaled (s t : CanonicalState) : Prop :=
  ∃ f, Restales f ∧ ∀ id, t.routes.find? id = (s.routes.find? id).map (f id)

theorem RoutesRestaled.of_eq {s t : CanonicalState} (h : t.routes = s.routes) :
    RoutesRestaled s t :=
  ⟨fun _ record => record, fun _ _ => .inl rfl, fun id => by simp [h]⟩

theorem RoutesRestaled.trans {s t u : CanonicalState} (h : RoutesRestaled s t)
    (h' : RoutesRestaled t u) : RoutesRestaled s u := by
  obtain ⟨f, hf, heq⟩ := h
  obtain ⟨g, hg, heq'⟩ := h'
  exact ⟨_, hf.comp hg, fun id => by rw [heq', heq, Option.map_map]; rfl⟩

theorem staleDecisionsForBackend_restales (s : CanonicalState) (id : BackendId)
    (boot : BackendBootId) : RoutesRestaled s (s.staleDecisionsForBackend id boot) := by
  refine ⟨_, ?_, fun _ => OrderedMap.find?_map _ _ _⟩
  intro _ record
  dsimp only
  split
  · rename_i h
    exact .inr ⟨by simp only [Bool.and_eq_true] at h; exact h.1.1, rfl⟩
  · exact .inl rfl

theorem staleDecisionsForAuthorityChange_restales (s : CanonicalState) (now : UnixMillis) :
    RoutesRestaled s (s.staleDecisionsForAuthorityChange now) :=
  ⟨_, fun _ record => staleDecisionIfNotDispatchable_cases s now record,
    fun _ => OrderedMap.find?_map _ _ _⟩

def withdraws : Mutation → Bool
  | .unregisterBackend _ _ | .fenceBackendBoot _ _ _ _ => true
  | _ => false

theorem edited_routes_eq (hm : withdraws m = false) :
    (m.attempt now s).edited.routes = s.routes := by
  cases m with
  | registerModel model => rfl
  | registerProvider provider => rfl
  | registerBackend backend => exact (installBackend_frame _ _).2
  | unregisterBackend backendId generation => cases hm
  | fenceBackendBoot backendId generation backendBoot reason => cases hm
  | publishCapabilities publication => exact (editBackend_frame s _ _).2
  | retireModel modelId generation =>
      change (retireModel s modelId generation).edited.routes = _
      dsimp only [retireModel]
      cases s.models.find? modelId <;> rfl
  | updateHealth evidence => exact (editBackend_frame s _ _).2
  | updateAvailability evidence => exact (editBackend_frame s _ _).2
  | updateReadiness evidence => exact (editBackend_frame s _ _).2
  | updateResidency evidence => exact (editBackend_frame s _ _).2
  | updateCapacity evidence detail => exact (editBackend_frame s _ _).2
  | updateLatency evidence => exact (editBackend_frame s _ _).2
  | setPolicy policy => rfl
  | setBudget budget => rfl
  | setSlo slo => rfl
  | setCompatibility evidence => rfl
  | setTrust evidence => exact (rebindTrust_frame _ _).2
  | setCost evidence => exact (editBackend_frame s _ _).2

theorem edited_routes (m : Mutation) (now : UnixMillis) (s : CanonicalState) :
    RoutesRestaled s (m.attempt now s).edited := by
  cases m with
  | unregisterBackend backendId generation =>
      change RoutesRestaled s (unregisterBackend s backendId generation now).edited
      dsimp only [unregisterBackend]
      cases s.backends.find? backendId with
      | none => exact .of_eq rfl
      | some existing => exact staleDecisionsForBackend_restales _ _ _
  | fenceBackendBoot backendId generation backendBoot reason =>
      refine .trans (.of_eq ?_) (staleDecisionsForBackend_restales _ _ _)
      cases (s.backends.find? backendId).filter _ <;> rfl
  | _ => exact .of_eq (edited_routes_eq rfl)

theorem next_routes (m : Mutation) (now : UnixMillis) (s : CanonicalState) :
    RoutesRestaled s (m.next now s) := by
  rcases next_cases m now s with h | ⟨-, h⟩
  · rw [h]
    exact .of_eq rfl
  · rw [h, Attempt.written]
    split
    · exact (edited_routes m now s).trans (staleDecisionsForAuthorityChange_restales _ now)
    · exact edited_routes m now s

def fenceKey (b : BackendDescriptor) : FenceKey :=
  ⟨b.backendId, b.backendBoot⟩

def incarnationOf (s : CanonicalState) (id : BackendId) : Option FenceKey :=
  (s.backends.find? id).map fenceKey

theorem incarnationOf_congr {t : CanonicalState} (h : t.backends = s.backends) (id : BackendId) :
    incarnationOf t id = incarnationOf s id := by
  rw [incarnationOf, h, incarnationOf]

theorem editBackend_incarnationOf (s : CanonicalState) (id : BackendId)
    {edit : BackendDescriptor → BackendDescriptor}
    (h : ∀ b, fenceKey (edit b) = fenceKey b) (j : BackendId) :
    incarnationOf (editBackend s id edit) j = incarnationOf s j := by
  unfold editBackend
  cases hb : s.backends.find? id with
  | none => rfl
  | some existing =>
      by_cases hj : id = j
      · subst hj
        simp [incarnationOf, hb, h]
      · simp [incarnationOf, hj]

theorem editBackend_fencedBoots (s : CanonicalState) (id : BackendId)
    (edit : BackendDescriptor → BackendDescriptor) :
    (editBackend s id edit).fencedBoots = s.fencedBoots := by
  unfold editBackend
  cases s.backends.find? id <;> rfl

theorem setBindingCost_fenceKey (b : BackendDescriptor) (modelId : ModelId)
    (cost : CostEvidence) : fenceKey (b.setBindingCost modelId cost) = fenceKey b := by
  unfold BackendDescriptor.setBindingCost
  split <;> rfl

def movesIncarnation : Mutation → Bool
  | .registerBackend _ | .unregisterBackend _ _ | .fenceBackendBoot _ _ _ _ => true
  | _ => false

def SameIncarnations (s t : CanonicalState) : Prop :=
  t.fencedBoots = s.fencedBoots ∧ ∀ id, incarnationOf t id = incarnationOf s id

theorem SameIncarnations.of_holdings {t : CanonicalState} (h : holdings t = holdings s) :
    SameIncarnations s t :=
  ⟨fencedBoots_of_holdings h, incarnationOf_congr (backends_of_holdings h)⟩

theorem editBackend_incarnations (s : CanonicalState) (id : BackendId)
    {edit : BackendDescriptor → BackendDescriptor}
    (h : ∀ b, fenceKey (edit b) = fenceKey b) :
    SameIncarnations s (editBackend s id edit) :=
  ⟨editBackend_fencedBoots s id edit, editBackend_incarnationOf s id h⟩

theorem rebindTrust_incarnations (s : CanonicalState) (evidence : TrustEvidence) :
    SameIncarnations s (rebindTrust s evidence) := by
  unfold rebindTrust
  cases hb : s.backends.find? evidence.backendId with
  | none => exact ⟨rfl, fun _ => rfl⟩
  | some backend =>
      refine ⟨rfl, fun j => ?_⟩
      change ((s.backends.insert evidence.backendId _).find? j).map _ = _
      rw [OrderedMap.find?_insert]
      by_cases hj : evidence.backendId = j
      · rw [if_pos hj, incarnationOf, ← hj, hb]
        rfl
      · rw [if_neg hj, incarnationOf]

theorem edited_incarnations (hm : movesIncarnation m = false) :
    SameIncarnations s (m.attempt now s).edited := by
  cases m with
  | registerModel model => exact ⟨rfl, fun _ => rfl⟩
  | registerProvider provider => exact ⟨rfl, fun _ => rfl⟩
  | registerBackend backend => cases hm
  | unregisterBackend backendId generation => cases hm
  | fenceBackendBoot backendId generation backendBoot reason => cases hm
  | publishCapabilities publication =>
      refine editBackend_incarnations s _ fun b => ?_
      split <;> rfl
  | retireModel modelId generation =>
      change SameIncarnations s (retireModel s modelId generation).edited
      dsimp only [retireModel]
      cases s.models.find? modelId <;> exact ⟨rfl, fun _ => rfl⟩
  | updateHealth evidence => exact editBackend_incarnations s _ fun _ => rfl
  | updateAvailability evidence => exact editBackend_incarnations s _ fun _ => rfl
  | updateReadiness evidence => exact editBackend_incarnations s _ fun _ => rfl
  | updateResidency evidence => exact editBackend_incarnations s _ fun _ => rfl
  | updateCapacity evidence detail => exact editBackend_incarnations s _ fun _ => rfl
  | updateLatency evidence => exact editBackend_incarnations s _ fun _ => rfl
  | setPolicy policy => exact ⟨rfl, fun _ => rfl⟩
  | setBudget budget => exact ⟨rfl, fun _ => rfl⟩
  | setSlo slo => exact ⟨rfl, fun _ => rfl⟩
  | setCompatibility evidence => exact ⟨rfl, fun _ => rfl⟩
  | setTrust evidence => exact rebindTrust_incarnations _ evidence
  | setCost evidence =>
      exact editBackend_incarnations s _ fun b => setBindingCost_fenceKey b _ _

theorem next_incarnations (hm : movesIncarnation m = false) :
    SameIncarnations s (m.next now s) := by
  rcases next_cases m now s with h | ⟨-, h⟩
  · rw [h]
    exact ⟨rfl, fun _ => rfl⟩
  · have hw := SameIncarnations.of_holdings (written_holdings (m.attempt now s) now)
    have he : SameIncarnations s (m.attempt now s).edited := edited_incarnations hm
    rw [h]
    exact ⟨hw.1.trans he.1, fun id => (hw.2 id).trans (he.2 id)⟩

section

variable {t : CanonicalState} {k : Act}

/-- What only the life cycle, the handoffs and an import change: the epochs, the phase the
router is in and the records of its dispatches. -/
structure Standing where
  epochs : RouterEpoch × CoordinatorEpoch
  running : Bool
  shuttingDown : Bool
  dispatches : OrderedMap RouteDecisionId DispatchRecord
  dispatchIndex : OrderedMap DispatchId RouteDecisionId

def epochs (s : CanonicalState) : RouterEpoch × CoordinatorEpoch :=
  (s.routerEpoch, s.coordinatorEpoch)

def standing (s : CanonicalState) : Standing where
  epochs := epochs s
  running := s.running
  shuttingDown := s.shuttingDown
  dispatches := s.dispatches
  dispatchIndex := s.dispatchIndex

theorem standing_of_control (h : control t = control s) : standing t = standing s := by
  have hr : t.routerEpoch = s.routerEpoch := congrArg Control.routerEpoch h
  have hc : t.coordinatorEpoch = s.coordinatorEpoch := congrArg Control.coordinatorEpoch h
  have hrunning : t.running = s.running := congrArg Control.running h
  have hdown : t.shuttingDown = s.shuttingDown := congrArg Control.shuttingDown h
  have hd : t.dispatches = s.dispatches := congrArg Control.dispatches h
  have hi : t.dispatchIndex = s.dispatchIndex := congrArg Control.dispatchIndex h
  simp only [standing, epochs, hr, hc, hrunning, hdown, hd, hi]

theorem epochs_of_control (h : control t = control s) : epochs t = epochs s :=
  congrArg Standing.epochs (standing_of_control h)

theorem editRoute_standing (s : CanonicalState) (id : RouteDecisionId)
    (edit : RouteRecord → RouteRecord) : standing (editRoute s id edit) = standing s := by
  unfold editRoute
  cases s.routes.find? id <;> rfl

theorem editRoute_epochs (s : CanonicalState) (id : RouteDecisionId)
    (edit : RouteRecord → RouteRecord) : epochs (editRoute s id edit) = epochs s :=
  congrArg Standing.epochs (editRoute_standing s id edit)

theorem noteTenant_standing (s : CanonicalState) (tenant : TenantId) :
    standing (s.noteTenant tenant) = standing s := by
  unfold CanonicalState.noteTenant
  split <;> rfl

theorem noteTenant_epochs (s : CanonicalState) (tenant : TenantId) :
    epochs (s.noteTenant tenant) = epochs s :=
  congrArg Standing.epochs (noteTenant_standing s tenant)

def keepsStanding : Act → Bool
  | .admitStart | .publish _ | .importState _ | .beginShutdown | .recordDispatch _ _ _ _
  | .recordCompletion _ => false
  | _ => true

theorem apply_standing (hk : keepsStanding k = true) (w : World) :
    standing (k.apply w).state = standing w.state := by
  cases k with
  | observe => rfl
  | allocate => rfl
  | mutate m now => exact standing_of_control (next_control m now w.state)
  | writeCapacityDetail detail => exact standing_of_control (editBackend_frame w.state _ _).1
  | rejectRoute tenant rejected => exact noteTenant_standing _ _
  | commit draft =>
      change standing (commitSection draft w).1.state = _
      unfold commitSection
      cases commitRefusal draft w.state with
      | some refusal => rfl
      | none => exact noteTenant_standing _ _
  | markStale id => exact editRoute_standing w.state id _
  | finishRevalidate id bound comparisonCurrent now =>
      change standing (finishRevalidate w.state id bound comparisonCurrent now) = _
      unfold finishRevalidate
      split
      · exact editRoute_standing w.state id _
      · exact editRoute_standing w.state id _
  | supersede id now fresh =>
      change standing (Handoff.supersede w.state id now fresh) = _
      unfold Handoff.supersede
      cases fresh
      · exact editRoute_standing w.state id _
      · exact editRoute_standing w.state id _
  | store path persisted => rfl
  | _ => cases hk

def keepsEpochs : Act → Bool
  | .publish _ | .importState _ => false
  | _ => true

theorem apply_epochs (hk : keepsEpochs k = true) (w : World) :
    epochs (k.apply w).state = epochs w.state := by
  cases hs : keepsStanding k with
  | true => exact congrArg Standing.epochs (apply_standing hs w)
  | false =>
      cases k with
      | admitStart =>
          change epochs (admitStart w.state) = _
          unfold admitStart
          split <;> rfl
      | beginShutdown =>
          change epochs (beginShutdown w.state) = _
          unfold beginShutdown
          split <;> rfl
      | recordDispatch id epoch coordinatorEpoch record =>
          change epochs (Handoff.recordDispatch w id epoch coordinatorEpoch record).state = _
          unfold Handoff.recordDispatch
          split
          · exact editRoute_epochs w.state id _
          · rfl
      | recordCompletion completion =>
          change epochs (Handoff.recordCompletion w.state completion).1 = _
          unfold Handoff.recordCompletion
          cases completable w.state completion <;> rfl
      | publish now => cases hk
      | importState canonical => cases hk
      | _ => cases hs

def keepsShuttingDown : Act → Bool
  | .admitStart | .publish _ | .beginShutdown => false
  | _ => true

theorem apply_shuttingDown (hk : keepsShuttingDown k = true) (w : World) :
    (k.apply w).state.shuttingDown = w.state.shuttingDown := by
  cases hs : keepsStanding k with
  | true => exact congrArg Standing.shuttingDown (apply_standing hs w)
  | false =>
      cases k with
      | recordDispatch id epoch coordinatorEpoch record =>
          change (Handoff.recordDispatch w id epoch coordinatorEpoch record).state.shuttingDown = _
          unfold Handoff.recordDispatch
          split
          · exact congrArg Standing.shuttingDown (editRoute_standing w.state id _)
          · rfl
      | recordCompletion completion =>
          change (Handoff.recordCompletion w.state completion).1.shuttingDown = _
          unfold Handoff.recordCompletion
          cases completable w.state completion <;> rfl
      | importState canonical =>
          change (importSection canonical w).state.shuttingDown = _
          unfold importSection
          split
          · rfl
          · exact rebuildIndexes_keeps _ CanonicalState.shuttingDown (fun _ _ => rfl) rfl
      | admitStart => cases hk
      | publish now => cases hk
      | beginShutdown => cases hk
      | _ => cases hs

def keepsRoutes : Act → Bool
  | .observe | .allocate | .writeCapacityDetail _ | .admitStart | .publish _ | .rejectRoute _ _
  | .store _ _ => true
  | _ => false

theorem noteTenant_routes (s : CanonicalState) (tenant : TenantId) :
    (s.noteTenant tenant).routes = s.routes := by
  unfold CanonicalState.noteTenant
  split <;> rfl

theorem apply_routes (hk : keepsRoutes k = true) (w : World) :
    (k.apply w).state.routes = w.state.routes := by
  cases k with
  | observe => rfl
  | allocate => rfl
  | writeCapacityDetail detail => exact (editBackend_frame w.state _ _).2
  | admitStart =>
      change (admitStart w.state).routes = _
      unfold admitStart
      split <;> rfl
  | publish now =>
      change (publish w.state now).routes = _
      unfold publish
      split <;> rfl
  | rejectRoute tenant rejected => exact noteTenant_routes _ _
  | store path persisted => rfl
  | _ => cases hk

end

end ModelRouter.MutationFacts
