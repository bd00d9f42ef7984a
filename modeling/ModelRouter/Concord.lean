import ModelRouter.Discovery
import ModelRouter.Consulted
import ModelRouter.Indexing

namespace ModelRouter.Concord

open Base Base.Program Base.Refusal Bytes Ids Outcome Capability Evidence Catalog Candidate Authority
open Request Policy Eligibility Persistence Decision State CatalogMutation EvidenceMutation Mutations
open Commit Recovery Providers Section Pass Route Dispatch Stages Effects MutationFacts Run Records
open Dispatchability Currentness Coherence Verdicts Consulted Repertoire Rankings Courses Discovery
open Indexing Sorting

def KeyedModels (models : OrderedMap ModelId ModelDescriptor) : Prop :=
  ∀ id model, models.find? id = some model → model.modelId = id

/-- The registered models and backends, each under its own identity. -/
structure Registered (s : CanonicalState) : Prop where
  models : KeyedModels s.models
  backends : ∀ id backend, s.backends.find? id = some backend → backend.backendId = id

theorem KeyedModels.insert {models : OrderedMap ModelId ModelDescriptor} (h : KeyedModels models)
    {id : ModelId} {model : ModelDescriptor} (hid : model.modelId = id) :
    KeyedModels (models.insert id model) := by
  intro j found hfind
  rw [OrderedMap.find?_insert] at hfind
  split at hfind
  · rename_i hj
    obtain rfl := Option.some.inj hfind
    rw [hid, hj]
  · exact h j found hfind

theorem edited_models {s : CanonicalState} (m : Mutation) (now : UnixMillis)
    (h : KeyedModels s.models) : KeyedModels (m.attempt now s).edited.models := by
  have hedit (id : BackendId) (edit : BackendDescriptor → BackendDescriptor) :
      (editBackend s id edit).models = s.models := by
    unfold editBackend
    split <;> rfl
  cases m with
  | registerModel model => exact h.insert rfl
  | registerProvider provider => exact h
  | registerBackend raw =>
      have hkept : (registerBackend s raw).edited.models = s.models := by
        simp only [registerBackend, installBackend]
        split <;> rfl
      change KeyedModels (registerBackend s raw).edited.models
      rw [hkept]
      exact h
  | unregisterBackend id generation =>
      change KeyedModels (unregisterBackend s id generation now).edited.models
      dsimp only [unregisterBackend]
      split
      · exact h
      · exact h
  | fenceBackendBoot id generation boot reason =>
      change KeyedModels (fenceBackendBoot s id generation boot reason now).edited.models
      dsimp only [fenceBackendBoot]
      split
      · exact h
      · exact h
  | retireModel id generation =>
      change KeyedModels (retireModel s id generation).edited.models
      dsimp only [retireModel]
      split
      · exact h
      · rename_i existing hfound
        exact h.insert (h id existing hfound)
  | setTrust evidence =>
      have hkept : (rebindTrust { s with trust := s.trust.insert evidence.backendId evidence }
          evidence).models = s.models := by
        unfold rebindTrust
        split <;> rfl
      change KeyedModels (rebindTrust _ evidence).models
      rw [hkept]
      exact h
  | setPolicy policy => exact h
  | setBudget budget => exact h
  | setSlo slo => exact h
  | setCompatibility evidence => exact h
  | publishCapabilities publication => exact (hedit _ _).symm ▸ h
  | updateHealth evidence => exact (hedit _ _).symm ▸ h
  | updateAvailability evidence => exact (hedit _ _).symm ▸ h
  | updateReadiness evidence => exact (hedit _ _).symm ▸ h
  | updateResidency evidence => exact (hedit _ _).symm ▸ h
  | updateCapacity evidence detail => exact (hedit _ _).symm ▸ h
  | updateLatency evidence => exact (hedit _ _).symm ▸ h
  | setCost evidence => exact (hedit _ _).symm ▸ h

theorem event_models {e : Event World Act} (h : KeyedModels e.pre.state.models) :
    KeyedModels (after e).state.models := by
  obtain ⟨k, w⟩ := e
  cases hkeep : keepsHoldings k with
  | true =>
      have hkept : (k.apply w).state.models = w.state.models :=
        congrArg Holdings.models (apply_holdings hkeep w)
      change KeyedModels (k.apply w).state.models
      rw [hkept]
      exact h
  | false =>
      cases k with
      | mutate m now =>
          change KeyedModels (m.next now w.state).models
          rcases next_cases m now w.state with hsame | ⟨-, htaken⟩
          · rw [hsame]
            exact h
          · have hkept : ((m.attempt now w.state).written now).models =
                (m.attempt now w.state).edited.models :=
              congrArg Holdings.models (written_holdings _ now)
            rw [htaken, hkept]
            exact edited_models m now h
      | writeCapacityDetail detail =>
          change KeyedModels (editBackend w.state _ _).models
          unfold editBackend
          split
          · exact h
          · exact h
      | importState canonical =>
          change KeyedModels (importSection canonical w).state.models
          unfold importSection
          split
          · exact h
          · have hkept : (restore w.state canonical
                (importRoutes w.highestIssued {} canonical.routes).2).models =
                  importModels canonical.models :=
              rebuildIndexes_keeps _ CanonicalState.models (fun _ _ => rfl) rfl
            dsimp only
            rw [hkept]
            intro id model hfind
            obtain ⟨record, -, hrecord⟩ := List.mem_map.mp (OrderedMap.mem_of_find?_ofList hfind)
            obtain ⟨rfl, rfl⟩ := Prod.mk.inj hrecord
            rfl
      | _ => cases hkeep

theorem registered_of_run {options : ModelRouterOptions} {highest : UInt64} {es : Trace} {s : World}
    (h : Chained Act.apply (World.fresh options highest) es s) : Registered s.state := by
  have hmodels := h.invariant (I := fun w => KeyedModels w.state.models)
    (fun id model hfind => by cases hfind) fun e _ => event_models
  have hindexed := h.invariant (I := fun w => Indexed w.state) (fresh_indexed options highest)
    fun e _ => event_indexed
  exact ⟨hmodels, hindexed.keyed⟩

/-- A candidate as the catalog holds it. -/
structure Offered (s : CanonicalState) (candidate : RouteCandidate) : Prop where
  model : s.models.find? candidate.key.modelId = some candidate.model
  backend : s.backends.find? candidate.key.backendId = some candidate.backend
  made : ∃ binding, candidate = candidateOf candidate.model candidate.backend binding

theorem offered_of_catalog {s : CanonicalState} (hs : Registered s) {candidate : RouteCandidate}
    (h : candidate ∈ catalogCandidates s) : Offered s candidate := by
  obtain ⟨bucket, -, hbucket⟩ := List.mem_flatMap.mp h
  obtain ⟨id, -, hcandidate⟩ := List.mem_filterMap.mp hbucket
  rw [catalogCandidate] at hcandidate
  split at hcandidate
  · rename_i model backend hmodel hbackend
    obtain ⟨binding, -, rfl⟩ := Option.map_eq_some_iff.mp hcandidate
    have hmodelId := hs.models _ _ hmodel
    have hbackendId := hs.backends _ _ hbackend
    refine ⟨?_, ?_, binding, rfl⟩
    · change s.models.find? model.modelId = some model
      rw [hmodelId, hmodel]
    · change s.backends.find? backend.backendId = some backend
      rw [hbackendId, hbackend]
  · cases hcandidate

theorem lifecycle_of_eligible {input : EligibilityInput} (h : firstFailure input = none) :
    input.candidate.model.lifecycle = .current ∧ input.candidate.backend.retired = false ∧
      input.candidate.backend.draining = false := by
  simp only [firstFailure, chain_eq_none] at h
  obtain ⟨hmodel, hincarnation, -⟩ := h
  simp only [checkModel, chain_eq_none, fail_eq_none, Bool.not_eq_false'] at hmodel
  simp only [checkIncarnation, chain_eq_none, fail_eq_none] at hincarnation
  obtain ⟨-, -, hcurrent, -⟩ := hmodel
  obtain ⟨-, hretired, hdraining, -⟩ := hincarnation
  simp only [ModelDescriptor.current, Bool.and_eq_true, beq_iff_eq] at hcurrent
  exact ⟨hcurrent.1.2, hretired, hdraining⟩

section

variable {β γ : Type} {e : Env} {supplied : Bool} {held value : β}
variable {query : Adapters → EvidenceResult β}

def Echoes (e : Env) (supplied : Bool) (held : β) (query : Adapters → EvidenceResult β)
    (view : β → γ) : Prop :=
  supplied = true → ∀ answer, (query e.adapters).evidence = some answer → view answer = view held

theorem provided_echoes (h : Provided (· = e) supplied held query value) (view : β → γ) :
    view value = view held ↔ Echoes e supplied held query view := by
  cases supplied with
  | false =>
      obtain rfl : value = held := h
      simp [Echoes]
  | true =>
      obtain ⟨_, rfl, hanswer⟩ := h
      constructor
      · intro hsame _ answer hfound
        obtain rfl := Option.some.inj (hanswer.symm.trans hfound)
        exact hsame
      · intro hechoes
        exact hechoes rfl value hanswer

end

def heldPrice (candidate : RouteCandidate) : CostEvidenceId × PriceGeneration :=
  let cost := (candidate.backend.findBinding candidate.key.modelId).map ModelBinding.cost
  ((cost.map CostEvidence.evidenceId).getD {}, (cost.map CostEvidence.priceGeneration).getD {})

def heldReservation (s : CanonicalState) (id : BackendId) : ReservationId × ReservationGeneration :=
  (((s.reservations.find? id).map ReservationEvidence.reservationId).getD {},
    ((s.reservations.find? id).map ReservationEvidence.generation).getD {})

/-- What the adapters say of the governance of a request and of a candidate has the identity and
the generation of what canonical state holds, and so has the budget that the request names. -/
structure Matches (options : ModelRouterOptions) (e : Env) (s : CanonicalState)
    (request : RouteRequest) (context : DiscoveryContext) (candidate : RouteCandidate) : Prop where
  policy : Echoes e options.providers.policy s.policy
    (fun adapters => adapters.policy request.policyId request.policyGeneration context)
    fun policy => (policy.policyId, policy.generation)
  budget : request.budgetId.valid = true →
    (request.budgetId, request.budgetGeneration) = (s.budget.budgetId, s.budget.generation)
  slo : request.requirements.requireSlo = true → Echoes e options.providers.slo s.slo
    (fun adapters => adapters.slo request.sloId request.sloGeneration request context)
    fun slo => (slo.sloId, slo.generation)
  price : options.providers.cost = true → ∀ answer,
    (e.adapters.cost candidate request context).evidence = some answer →
      answer.priceGeneration.valid = true →
        (answer.evidenceId, answer.priceGeneration) = heldPrice candidate
  reservation : options.providers.reservation = true → ∀ answer,
    (e.adapters.reserve candidate request context).evidence = some answer →
      answer.reservationId.valid = true ∨ answer.generation.valid = true →
        (answer.reservationId, answer.generation) = heldReservation s candidate.key.backendId

section

variable {options : ModelRouterOptions} {e clock : Env} {raw : RouteRequest} {admitted : World}
variable {p : Prepared} {s : CanonicalState} {candidate : RouteCandidate}

theorem policy_echoes (h : PreparedBy (· = e) options raw clock admitted p) :
    (p.governing.policy.policyId, p.governing.policy.generation) =
        (admitted.state.policy.policyId, admitted.state.policy.generation) ↔
      Echoes e options.providers.policy admitted.state.policy
        (fun adapters =>
          adapters.policy p.request.policyId p.request.policyGeneration p.snapshot.context)
        fun policy => (policy.policyId, policy.generation) := by
  obtain ⟨-, fetched, hcanonical, hprovided⟩ := h.policy
  have hheld : p.snapshot.policy = admitted.state.policy := by rw [h.snapshot]; rfl
  rw [hheld] at hprovided
  rw [hcanonical]
  exact provided_echoes hprovided fun policy => (policy.policyId, policy.generation)

theorem slo_echoes (h : PreparedBy (· = e) options raw clock admitted p) :
    (p.governing.slo.generation.valid = true →
        (p.governing.slo.sloId, p.governing.slo.generation) =
          (admitted.state.slo.sloId, admitted.state.slo.generation)) ↔
      (p.request.requirements.requireSlo = true → Echoes e options.providers.slo admitted.state.slo
        (fun adapters =>
          adapters.slo p.request.sloId p.request.sloGeneration p.request p.snapshot.context)
        fun slo => (slo.sloId, slo.generation)) := by
  have hslo := h.slo
  have hheld : p.snapshot.slo = admitted.state.slo := by rw [h.snapshot]; rfl
  rw [hheld] at hslo
  split at hslo
  · rename_i hrequired
    obtain ⟨hnone, hprovided⟩ := hslo
    have hvalid : p.governing.slo.generation.valid = true := by
      simp only [sloRefusal, chain_eq_none, stopIf_eq_none] at hnone
      simpa using (Bool.or_eq_false_iff.mp hnone.1).1
    have hechoes := provided_echoes hprovided fun slo => (slo.sloId, slo.generation)
    simpa only [hvalid, hrequired, forall_const] using hechoes
  · rename_i hrequired
    rw [hslo]
    exact iff_of_true (fun _ => rfl) fun hrequires => absurd hrequires hrequired

theorem budget_named (h : PreparedBy (· = e) options raw clock admitted p)
    (hnamed : p.request.budgetId.valid = true) :
    p.governing.budget.generation = p.request.budgetGeneration ∧
      p.request.budgetGeneration.valid = true := by
  have hbudget := h.budget
  rw [if_pos hnamed, budgetRefusal] at hbudget
  simp only [chain_eq_none, stopIf_eq_none, Bool.or_eq_false_iff, bne_eq_false_iff_eq] at hbudget
  obtain ⟨⟨hvalid, -⟩, hgeneration, -⟩ := hbudget.1
  rw [← hgeneration]
  exact ⟨rfl, by simpa using hvalid⟩

theorem budget_echoes (h : PreparedBy (· = e) options raw clock admitted p) :
    let id : BudgetId := if p.request.budgetId.valid then p.request.budgetId else {}
    let generation : BudgetGeneration :=
      if p.request.budgetId.valid then p.governing.budget.generation else {}
    (generation.valid = true → (id, generation) =
        (if generation.valid then admitted.state.budget.budgetId else {},
          if generation.valid then admitted.state.budget.generation else {})) ↔
      (p.request.budgetId.valid = true → (p.request.budgetId, p.request.budgetGeneration) =
        (admitted.state.budget.budgetId, admitted.state.budget.generation)) := by
  cases hnamed : p.request.budgetId.valid with
  | false => exact iff_of_true (fun hvalid => by cases hvalid) fun hvalid => by cases hvalid
  | true =>
      obtain ⟨hgeneration, hvalid⟩ := budget_named h hnamed
      simp only [if_true, hgeneration, hvalid, forall_const]

variable (candidate)

theorem price_echoes :
    ((p.resolved options e candidate).cost.priceGeneration.valid = true →
        ((p.resolved options e candidate).cost.evidenceId,
          (p.resolved options e candidate).cost.priceGeneration) = heldPrice candidate) ↔
      (options.providers.cost = true → ∀ answer,
        (e.adapters.cost candidate p.request p.snapshot.context).evidence = some answer →
          answer.priceGeneration.valid = true →
            (answer.evidenceId, answer.priceGeneration) = heldPrice candidate) := by
  have hview (cost : CostEvidence) (key : CandidateKey) :
      ((if !cost.backendId.valid then
          { cost with backendId := key.backendId, modelId := key.modelId } else cost).evidenceId,
        (if !cost.backendId.valid then
          { cost with backendId := key.backendId, modelId := key.modelId }
            else cost).priceGeneration) = (cost.evidenceId, cost.priceGeneration) := by
    split <;> rfl
  obtain ⟨hid, hgeneration⟩ := Prod.mk.inj (hview
    (if options.providers.cost then
      (e.adapters.cost candidate p.request p.snapshot.context).evidence.getD {}
      else ((candidate.backend.findBinding candidate.key.modelId).map ModelBinding.cost).getD {})
    candidate.key)
  change ((resolveCost options.providers e.adapters p.request p.snapshot.context
    candidate).priceGeneration.valid = true → ((resolveCost options.providers e.adapters p.request
      p.snapshot.context candidate).evidenceId, (resolveCost options.providers e.adapters p.request
        p.snapshot.context candidate).priceGeneration) = heldPrice candidate) ↔ _
  simp only [resolveCost, hid, hgeneration]
  cases options.providers.cost with
  | false =>
      refine iff_of_true (fun _ => ?_) fun hsupplied => by cases hsupplied
      simp only [heldPrice, Bool.false_eq_true, if_false]
      cases candidate.backend.findBinding candidate.key.modelId with
      | none => rfl
      | some binding => rfl
  | true =>
      simp only [if_true, forall_const]
      cases (e.adapters.cost candidate p.request p.snapshot.context).evidence with
      | none =>
          refine iff_of_true (fun hvalid => ?_) fun answer hanswer => by cases hanswer
          cases hvalid
      | some answer => simp

variable (p e options) in
theorem reservation_bound {authority : RouteAuthority} (hid : authority.reservationId = {})
    (hgeneration : authority.reservationGeneration = {}) :
    let found := resolveReservation options.providers e.adapters p.request p.snapshot.context
      p.snapshot.evidence candidate
    ((bindResolved authority (p.resolved options e candidate)).reservationId,
        (bindResolved authority (p.resolved options e candidate)).reservationGeneration) =
      ((found.map ReservationEvidence.reservationId).getD {},
        (found.map ReservationEvidence.generation).getD {}) := by
  simp only [bindResolved, Prepared.resolved, resolveCandidate, hid, hgeneration]
  cases resolveReservation options.providers e.adapters p.request p.snapshot.context
    p.snapshot.evidence candidate with
  | none => rfl
  | some found => rfl

theorem reservation_echoes (h : PreparedBy (· = e) options raw clock admitted p) :
    let found := resolveReservation options.providers e.adapters p.request p.snapshot.context
      p.snapshot.evidence candidate
    let bound : ReservationId × ReservationGeneration :=
      ((found.map ReservationEvidence.reservationId).getD {},
        (found.map ReservationEvidence.generation).getD {})
    (bound.1.valid = true ∨ bound.2.valid = true →
        bound = heldReservation admitted.state candidate.key.backendId) ↔
      (options.providers.reservation = true → ∀ answer,
        (e.adapters.reserve candidate p.request p.snapshot.context).evidence = some answer →
          answer.reservationId.valid = true ∨ answer.generation.valid = true →
            (answer.reservationId, answer.generation) =
              heldReservation admitted.state candidate.key.backendId) := by
  have hheld : p.snapshot.evidence.reservations = admitted.state.reservations := by
    rw [h.snapshot]
    rfl
  simp only [resolveReservation, hheld]
  cases options.providers.reservation with
  | false => exact iff_of_true (fun _ => rfl) fun hsupplied => by cases hsupplied
  | true =>
      simp only [if_true, forall_const]
      cases (e.adapters.reserve candidate p.request p.snapshot.context).evidence with
      | none =>
          refine iff_of_true (fun hvalid => ?_) fun answer hanswer => by cases hanswer
          rcases hvalid with hvalid | hvalid
          · cases hvalid
          · cases hvalid
      | some answer => simp

def bindingOf (p : Prepared) (options : ModelRouterOptions) (e : Env) (s : CanonicalState)
    (id : RouteDecisionId) : RouteAuthority :=
  nameDecision
    (bindResolved (p.described candidate.key s) (p.resolved options e candidate)) id

variable {candidate}

theorem described_of_offered (h : Offered s candidate) : p.described candidate.key s =
    bindGoverning (bindDescriptor
        (bindWinner p.snapshot.context p.snapshot.context.routerId p.request candidate.key)
        candidate.backend)
      p.request p.governing.policy p.governing.budget p.governing.slo := by
  rw [Prepared.described, h.backend]

theorem binding_agrees_iff (h : PreparedBy (· = e) options raw clock admitted p)
    (hoffered : Offered admitted.state candidate) (id : RouteDecisionId) :
    Agrees (bindingOf candidate p options e admitted.state id)
        (observedAuthority admitted.state (bindingOf candidate p options e admitted.state id)
          candidate.model candidate.backend) ↔
      Matches options e admitted.state p.request p.snapshot.context candidate := by
  obtain ⟨hid, hgeneration⟩ := described_unreserved p candidate.key admitted.state
  have hreserved := reservation_bound options e p candidate hid hgeneration
  obtain ⟨binding, hmade⟩ := hoffered.made
  have hkey : candidate.key = (candidateOf candidate.model candidate.backend binding).key :=
    congrArg RouteCandidate.key hmade
  have hepochs : p.snapshot.context.routerEpoch = admitted.state.routerEpoch ∧
      p.snapshot.context.coordinatorEpoch = admitted.state.coordinatorEpoch := by
    rw [h.snapshot]
    exact ⟨rfl, rfl⟩
  rw [bindingOf, described_of_offered hoffered]
  rw [described_of_offered hoffered] at hreserved
  constructor
  · intro hagrees
    constructor
    · exact (policy_echoes h).mp hagrees.policy
    · exact (budget_echoes h).mp hagrees.budget
    · exact (slo_echoes h).mp hagrees.slo
    · exact (price_echoes candidate).mp hagrees.price
    · refine (reservation_echoes candidate h).mp ?_
      intro hvalid
      rw [← hreserved] at hvalid ⊢
      exact hagrees.reservation hvalid
  · intro hmatches
    constructor
    · exact Prod.ext hepochs.1 hepochs.2
    · rfl
    · exact Prod.ext rfl (Prod.ext (congrArg CandidateKey.modelGeneration hkey)
        (congrArg CandidateKey.artifactGeneration hkey))
    · exact Prod.ext rfl (Prod.ext (congrArg CandidateKey.backendGeneration hkey)
        (Prod.ext rfl (congrArg CandidateKey.backendBoot hkey)))
    · exact Prod.ext (congrArg CandidateKey.endpointId hkey)
        (congrArg CandidateKey.endpointGeneration hkey)
    · rfl
    · exact (policy_echoes h).mpr hmatches.policy
    · rfl
    · rfl
    · rfl
    · exact fun _ => rfl
    · exact (budget_echoes h).mpr hmatches.budget
    · exact (price_echoes candidate).mpr hmatches.price
    · exact (slo_echoes h).mpr hmatches.slo
    · exact fun _ => rfl
    · exact fun _ => rfl
    · exact fun _ => rfl
    · intro hvalid
      have hreservation := (reservation_echoes candidate h).mpr hmatches.reservation
      rw [← hreserved] at hreservation
      exact hreservation hvalid
    · intro hdispatch
      cases hdispatch

theorem observed_of_offered (hoffered : Offered admitted.state candidate) (kind : CommitKind)
    (id : RouteDecisionId) :
    buildCurrentAuthority (evict kind admitted.state)
        (bindingOf candidate p options e admitted.state id) =
      some (observedAuthority admitted.state (bindingOf candidate p options e admitted.state id)
        candidate.model candidate.backend) := by
  have hmodel : admitted.state.models.find? (bindingOf candidate p options e admitted.state id).modelId
      = some candidate.model := by
    rw [bindingOf, described_of_offered hoffered]
    exact hoffered.model
  have hbackend : admitted.state.backends.find?
      (bindingOf candidate p options e admitted.state id).backendId = some candidate.backend := by
    rw [bindingOf, described_of_offered hoffered]
    exact hoffered.backend
  rw [buildCurrentAuthority_congr (s := admitted.state) (t := evict kind admitted.state) rfl rfl rfl,
    buildCurrentAuthority, hmodel, hbackend]

theorem comparison_current_iff (h : PreparedBy (· = e) options raw clock admitted p)
    (hoffered : Offered admitted.state candidate) (kind : CommitKind) (id : RouteDecisionId) :
    (commitComparison (evict kind admitted.state)
        (bindingOf candidate p options e admitted.state id)).current = true ↔
      Matches options e admitted.state p.request p.snapshot.context candidate := by
  rw [commitComparison, observed_of_offered hoffered, current_iff_accepted,
    compareAuthority_agrees]
  exact binding_agrees_iff h hoffered id

theorem binding_dispatchable_iff (h : PreparedBy (· = e) options raw clock admitted p)
    (hoffered : Offered admitted.state candidate)
    (hlifecycle : candidate.model.lifecycle = .current ∧ candidate.backend.retired = false ∧
      candidate.backend.draining = false) (kind : CommitKind) (id : RouteDecisionId) :
    dispatchabilityReason (evict kind admitted.state)
        (bindingOf candidate p options e admitted.state id) p.snapshot.now = .accepted ↔
      admitted.state.isFenced candidate.key.backendId candidate.key.backendBoot = false ∧
        Matches options e admitted.state p.request p.snapshot.context candidate := by
  have hbound : (bindingOf candidate p options e admitted.state id).modelId = candidate.key.modelId ∧
      (bindingOf candidate p options e admitted.state id).backendId = candidate.key.backendId ∧
      (bindingOf candidate p options e admitted.state id).backendBoot = candidate.key.backendBoot ∧
      (bindingOf candidate p options e admitted.state id).backendGeneration =
        candidate.key.backendGeneration ∧
      (bindingOf candidate p options e admitted.state id).endpointGeneration =
        candidate.key.endpointGeneration ∧
      (bindingOf candidate p options e admitted.state id).expired p.snapshot.now =
        p.request.expired p.snapshot.now := by
    rw [bindingOf, described_of_offered hoffered]
    exact ⟨rfl, rfl, rfl, rfl, rfl, rfl⟩
  obtain ⟨hmodelId, hbackendId, hboot, hgeneration, hendpoint, hexpired⟩ := hbound
  have hunexpired : p.request.expired p.snapshot.now = false := by
    have hadmitted := h.admitted
    simp only [admitRefusal, chain_eq_none, stopIf_eq_none] at hadmitted
    rw [h.snapshot]
    exact hadmitted.2.2.2
  obtain ⟨binding, hmade⟩ := hoffered.made
  have hkey : candidate.key = (candidateOf candidate.model candidate.backend binding).key :=
    congrArg RouteCandidate.key hmade
  rw [dispatchabilityReason_congr (s := admitted.state) (t := evict kind admitted.state) rfl rfl rfl,
    dispatchabilityReason_accepted,
    hexpired, hunexpired, hmodelId, hbackendId, hboot, hoffered.model, hoffered.backend]
  constructor
  · rintro ⟨-, hfenced, model, backend, hmodel, hbackend, hagrees, -⟩
    obtain rfl := Option.some.inj hmodel
    obtain rfl := Option.some.inj hbackend
    exact ⟨hfenced, (binding_agrees_iff h hoffered id).mp hagrees⟩
  · rintro ⟨hfenced, hmatches⟩
    refine ⟨rfl, hfenced, _, _, rfl, rfl, (binding_agrees_iff h hoffered id).mpr hmatches, ?_⟩
    rw [lifecycleReason_accepted, hboot, hgeneration, hendpoint]
    exact ⟨hlifecycle.1, hlifecycle.2.1, hlifecycle.2.2,
      (congrArg CandidateKey.backendBoot hkey).symm,
      (congrArg CandidateKey.backendGeneration hkey).symm,
      (congrArg CandidateKey.endpointGeneration hkey).symm⟩

end

def identified (raw : RouteRequest) (s : World) : World :=
  if raw.requestId.valid then s else s.allocate

section

variable {options : ModelRouterOptions} {e : Env} {E : Env → Prop} {raw : RouteRequest} {s t : World}
variable {es : Trace}

theorem identify_leaves {request : RouteRequest} (h : Executes E Eq (identify raw) s es request t) :
    t = identified raw s := by
  rw [identify] at h
  rw [identified]
  dsimp only at h
  split at h
  · rename_i hvalid
    obtain ⟨-, -, rfl⟩ := executes_done.mp h
    rw [if_pos hvalid]
  · rename_i hvalid
    obtain ⟨w, ds, rfl, -, hdone⟩ := executes_perform.mp h
    obtain ⟨-, -, rfl⟩ := executes_done.mp hdone
    rw [if_neg hvalid]
    rfl

theorem prepare_leaves {x : Except Stop Prepared} (h : Executes E Eq (prepare options raw) s es x t) :
    t = identified raw s := by
  obtain ⟨named, u, es₀, es₁, rfl, hidentify, hasks⟩ := executes_bind.mp h
  obtain rfl := identify_leaves hidentify
  obtain ⟨clock, hclock, hasked⟩ := executes_ask.mp hasks
  obtain ⟨w, es₂, rfl, rfl, hadmission⟩ := executes_perform.mp hasked
  rcases executes_proceed hadmission with ⟨reason, -, -, rfl⟩ | ⟨_, -, hpass⟩
  · rfl
  obtain ⟨policed, v₁, ds, es₃, rfl, hvalidates, hpoliced⟩ := executes_bind.mp hpass
  obtain ⟨-, rfl, -⟩ := executes_validatePolicy hvalidates
  rcases executes_proceed hpoliced with ⟨reason, -, -, rfl⟩ | ⟨policy, -, hbudgets⟩
  · rfl
  obtain ⟨budgeted, v₂, ds', es₄, rfl, hvalidates', hbudgeted⟩ := executes_bind.mp hbudgets
  obtain ⟨-, rfl, -⟩ := executes_validateBudget hvalidates'
  rcases executes_proceed hbudgeted with ⟨reason, -, -, rfl⟩ | ⟨budget, -, hslos⟩
  · rfl
  obtain ⟨sloed, v₃, ds'', es₅, rfl, hvalidates'', hsloed⟩ := executes_bind.mp hslos
  obtain ⟨-, rfl, -⟩ := executes_validateSlo hvalidates''
  rcases executes_proceed hsloed with ⟨reason, -, -, rfl⟩ | ⟨slo, -, hdone⟩
  · rfl
  obtain ⟨-, -, rfl⟩ := executes_done.mp hdone
  rfl

theorem run_alone {α : Type} (q : Operation α) (s : World) :
    Executes (· = e) Eq q s (Program.run Act.apply e [] q s).1 (Program.run Act.apply e [] q s).2.1
      (Program.run Act.apply e [] q s).2.2 :=
  Program.run_exec Act.apply e q s (fun _ => rfl) fun g hg => absurd hg (List.not_mem_nil (a := g))

def offered (s : World) : List RouteCandidate :=
  canonicalCandidates (catalogCandidates s.state)

/-- A pass that runs alone builds a ranking within the limits, with this candidate in front. -/
structure Ranks (options : ModelRouterOptions) (e : Env) (raw : RouteRequest) (s : World)
    (p : Prepared) (candidate : RouteCandidate) : Prop where
  prepared : prepared options e [] raw s = .ok p
  discovered :
    (catalogCandidates s.state).length ≤ p.snapshot.limits.maxCandidatesPerRequest.toNat
  ranked : (eligible ((offered s).map (p.assessed options e))).length ≤
    p.snapshot.limits.maxRankedCandidates.toNat
  first : ∃ winner tail, rankAll (eligible ((offered s).map (p.assessed options e))) = winner :: tail ∧
    (offered s).find? (fun candidate => candidate.key = winner.key) = some candidate

def draftFor (options : ModelRouterOptions) (e : Env) (p : Prepared) (candidate : RouteCandidate)
    (explanation : RouteExplanation) (winner : RankedCandidate) (tail : List RankedCandidate)
    (s : CanonicalState) : CommitDraft :=
  draftRoute p.request p.snapshot p.governing.policy explanation winner tail
    (bindResolved (p.described candidate.key s) (p.resolved options e candidate))

theorem run_finish_leaves (p : Prepared) (basis : Option Basis) (winner : RankedCandidate)
    (tail : List RankedCandidate) (authority : RouteAuthority) (explanation : RouteExplanation) :
    (Program.run Act.apply e [] (commitWinner.finish p.request p.snapshot p.governing basis winner
      tail authority explanation) s).2.2 =
      (commitSection (draftRoute p.request p.snapshot p.governing.policy explanation winner tail
        authority) s).1 := by
  rw [commitWinner.finish]
  generalize draftRoute p.request p.snapshot p.governing.policy explanation winner tail authority =
    draft
  rw [perform, bind_eq, act_bind, Program.run]
  dsimp only
  rw [done_bind]
  split
  · rfl
  · rfl

theorem run_commitWinner_leaves (p : Prepared) (basis : Option Basis)
    {candidates : List RouteCandidate} {candidate : RouteCandidate} (winner : RankedCandidate)
    (tail : List RankedCandidate) (explanation : RouteExplanation)
    (hfind : candidates.find? (fun candidate => candidate.key = winner.key) = some candidate) :
    let draft := draftRoute p.request p.snapshot p.governing.policy
      (priced (p.resolved options e candidate).cost explanation) winner tail
      (bindResolved (p.described winner.key s.state) (p.resolved options e candidate))
    let pass := (Program.run Act.apply e [] (commitWinner options p.request p.snapshot p.governing
      basis candidates explanation winner tail) s).2
    pass.1.1 = committedOutcome draft s winner.score ∧ pass.2 = (commitSection draft s).1 := by
  refine ⟨run_commitWinner p e [] s basis tail explanation hfind, ?_⟩
  rw [commitWinner, perform, bind_eq, act_bind, Program.run]
  dsimp only
  rw [done_bind, hfind]
  exact run_finish_leaves p basis winner tail _ _

theorem run_weigh_ranked {p : Prepared} {candidate : RouteCandidate} {u : World}
    (h : Ranks options e raw s p candidate) :
    ∃ explanation winner tail,
      let draft := draftFor options e p candidate explanation winner tail u.state
      let pass := (Program.run Act.apply e [] (weigh options p (catalogCandidates s.state)) u).2
      pass.1.1 = committedOutcome draft u winner.score ∧ pass.2 = (commitSection draft u).1 := by
  obtain ⟨winner, tail, hranking, hfind⟩ := h.first
  have hkey : candidate.key = winner.key := by simpa using List.find?_some hfind
  have hfew := Nat.not_lt.mpr h.discovered
  have hranked := Nat.not_lt.mpr h.ranked
  rw [weigh, if_neg hfew, rankAndCommit_eq, run_bind, run_assessAll]
  change ∃ explanation winner tail,
    let draft := draftFor options e p candidate explanation winner tail u.state
    let pass := (Program.run Act.apply e [] (settle options p (offered s)
      ((offered s).map (p.assessed options e))) u).2
    pass.1.1 = committedOutcome draft u winner.score ∧ pass.2 = (commitSection draft u).1
  rw [settle, if_neg hranked, hranking]
  refine ⟨priced (p.resolved options e candidate).cost
    (explain p.request p.governing (winner :: tail)
      ((rejected ((offered s).map (p.assessed options e))).take
        p.snapshot.limits.maxRejectionRecords.toNat)), winner, tail, ?_⟩
  rw [draftFor, hkey]
  exact run_commitWinner_leaves p _ winner tail _ hfind

theorem run_route_of_ranks {p : Prepared} {candidate : RouteCandidate}
    (hcatalog : options.providers.candidates = false) (h : Ranks options e raw s p candidate) :
    ∃ explanation winner tail,
      let u := identified raw s
      let draft := draftFor options e p candidate explanation winner tail u.state
      let pass := (Program.run Act.apply e [] (route options raw) s).2
      pass.1 = committedOutcome draft u winner.score ∧ pass.2 = (commitSection draft u).1 := by
  have hleaves : (Program.run Act.apply e [] (prepare options raw) s).2.2 = identified raw s :=
    prepare_leaves (run_alone _ _)
  have hstate : (identified raw s).state = s.state := by
    rw [identified]
    split <;> rfl
  have hprepared : (Program.run Act.apply e [] (prepare options raw) s).2.1 = .ok p := h.prepared
  rw [route, bind_eq, run_bind, routePass_eq, bind_eq, run_bind]
  dsimp only
  rw [hprepared, hleaves, List.drop_nil, List.drop_nil, conclude, discover,
    if_neg (by simp [hcatalog])]
  have hweighed := run_weigh_ranked (u := identified raw s) h
  rw [← hstate] at hweighed
  exact hweighed

end

/-! What a commit that is taken leaves of a decision. -/

section

variable {s : CanonicalState} {now : UnixMillis} {record : RouteRecord}

theorem checked_of_dispatchable
    (h : dispatchabilityReason s record.decision.authority now = .accepted) :
    staleDecisionIfNotDispatchable s now record = record := by
  have hdispatchable : isAuthorityDispatchable s record.decision.authority now = true := by
    simp [isAuthorityDispatchable, h]
  rw [staleDecisionIfNotDispatchable, hdispatchable]
  split
  · rfl
  · rfl

theorem checked_current_iff :
    (staleDecisionIfNotDispatchable s now record).decision.status = .current ↔
      record.decision.status = .current ∧
        dispatchabilityReason s record.decision.authority now = .accepted := by
  constructor
  · intro hcurrent
    have hreason := staleDecisionIfNotDispatchable_current hcurrent
    rcases staleDecisionIfNotDispatchable_cases s now record with hsame | ⟨-, hstale⟩
    · rw [hsame] at hcurrent hreason
      exact ⟨hcurrent, hreason⟩
    · rw [hstale] at hcurrent
      cases hcurrent
  · rintro ⟨hcurrent, hreason⟩
    rw [checked_of_dispatchable hreason]
    exact hcurrent

end

section

variable {draft : CommitDraft} {u : World} {callerTenant : TenantId} {callerNamespace : NamespaceId}
variable {record : RouteRecord}

theorem reply_of_taken (h : commitRefusal draft u.state = none) :
    let kept := evict draft.kind u.state
    let reply := (commitSection draft u).2
    reply.refusal = none ∧ reply.decision = boundDecision kept draft ⟨u.nextId⟩ ∧
      reply.committedCurrent =
        ((commitComparison kept (nameDecision draft.decision.authority ⟨u.nextId⟩)).current &&
          ((commitSection draft u).1.state.routes.find? ⟨u.nextId⟩).any fun record =>
            record.decision.status == .current) := by
  obtain ⟨hauthority, -⟩ := boundDecision_parts (evict draft.kind u.state) draft ⟨u.nextId⟩
  have hid : (boundDecision (evict draft.kind u.state) draft ⟨u.nextId⟩).decisionId = ⟨u.nextId⟩ :=
    rfl
  rw [commitSection, h]
  dsimp only
  rw [noteTenant_routes, hauthority, hid]
  exact ⟨rfl, rfl, rfl⟩

theorem passes_after_commit (now : UnixMillis) :
    Passes (commitSection draft u).1.state record callerTenant callerNamespace now ↔
      Passes u.state record callerTenant callerNamespace now := by
  have hshut : (commitSection draft u).1.state.shuttingDown = u.state.shuttingDown :=
    apply_shuttingDown (k := .commit draft) rfl u
  have hepochs : epochs (commitSection draft u).1.state = epochs u.state :=
    apply_epochs (k := .commit draft) rfl u
  obtain ⟨hrouter, hcoordinator⟩ := Prod.mk.inj hepochs
  have hreason := dispatchabilityReason_congr (commitSection_holdings draft u) hrouter hcoordinator
    record.decision.authority now
  constructor
  · rintro ⟨hadmitted, hcaller, hstatus, hauthority⟩
    exact ⟨hshut ▸ hadmitted, hcaller, hstatus, hreason ▸ hauthority⟩
  · rintro ⟨hadmitted, hcaller, hstatus, hauthority⟩
    exact ⟨hshut.symm ▸ hadmitted, hcaller, hstatus, hreason.symm ▸ hauthority⟩

theorem kept_reason (kind : CommitKind) (authority : RouteAuthority) (now : UnixMillis) :
    dispatchabilityReason (evict kind u.state) authority now =
      dispatchabilityReason u.state authority now :=
  dispatchabilityReason_congr rfl rfl rfl authority now

theorem admitting_of_taken (h : commitRefusal draft u.state = none) : u.state.shuttingDown = false := by
  simp only [commitRefusal, chain_eq_none, refuse_eq_none] at h
  exact h.1

theorem commit_confirmed_iff (htaken : commitRefusal draft u.state = none)
    (hstatus : draft.decision.status = .current)
    (hcaller : callerRefusal draft.tenant callerTenant draft.nameSpace callerNamespace = none) :
    let kept := evict draft.kind u.state
    let authority := nameDecision draft.decision.authority ⟨u.nextId⟩
    let after := commitSection draft u
    (after.2.committedCurrent = true ∧ after.2.decision.status = .current ∧
        ∃ record, after.1.state.routes.find? ⟨u.nextId⟩ = some record ∧
          Passes after.1.state record callerTenant callerNamespace draft.now) ↔
      (commitComparison kept authority).current = true ∧
        (kept.routes.find? ⟨u.nextId⟩ = none →
          dispatchabilityReason kept authority draft.now = .accepted) ∧
        ∀ held, kept.routes.find? ⟨u.nextId⟩ = some held →
          held.decision.status = .current ∧
            Passes u.state held callerTenant callerNamespace draft.now := by
  intro kept authority after
  obtain ⟨-, hdecision, hcurrent⟩ := reply_of_taken htaken
  have hfound := commitSection_routes htaken ⟨u.nextId⟩
  rw [if_pos rfl] at hfound
  have hbound : (boundDecision kept draft ⟨u.nextId⟩).authority = authority :=
    (boundDecision_parts kept draft ⟨u.nextId⟩).1
  have hboundStatus (hcompares : (commitComparison kept authority).current = true) :
      (boundDecision kept draft ⟨u.nextId⟩).status = .current := by
    rw [← hstatus]
    simp only [boundDecision]
    rw [if_pos hcompares]
  rw [hdecision, hcurrent, hfound]
  have hpasses (record : RouteRecord) :
      Passes after.1.state record callerTenant callerNamespace draft.now ↔
        Passes u.state record callerTenant callerNamespace draft.now := passes_after_commit draft.now
  simp only [hpasses, Option.any_some, Bool.and_eq_true, beq_iff_eq, Option.some.injEq,
    exists_eq_left', checked_current_iff]
  change (((commitComparison kept authority).current = true ∧
    ((kept.routes.find? ⟨u.nextId⟩).getD _).decision.status = .current ∧
      dispatchabilityReason kept ((kept.routes.find? ⟨u.nextId⟩).getD _).decision.authority
        draft.now = .accepted) ∧ _ ∧ Passes u.state
          (staleDecisionIfNotDispatchable kept draft.now ((kept.routes.find? ⟨u.nextId⟩).getD _))
          callerTenant callerNamespace draft.now) ↔ _
  cases kept.routes.find? ⟨u.nextId⟩ with
  | none =>
      rw [Option.getD_none]
      generalize hrecord : committedRecord draft (boundDecision kept draft ⟨u.nextId⟩)
        ⟨u.allocate.nextId⟩ = record
      have hauthority : record.decision.authority = authority := by
        rw [← hrecord]
        exact hbound
      constructor
      · rintro ⟨⟨hcompares, -, hreason⟩, -, -⟩
        rw [hauthority] at hreason
        exact ⟨hcompares, fun _ => hreason, fun held hheld => by cases hheld⟩
      · rintro ⟨hcompares, hreason, -⟩
        have haccepted := hreason rfl
        rw [← hauthority] at haccepted
        have hnow : record.decision.status = .current := by
          rw [← hrecord]
          exact hboundStatus hcompares
        refine ⟨⟨hcompares, hnow, haccepted⟩, hboundStatus hcompares, ?_⟩
        rw [checked_of_dispatchable haccepted]
        refine ⟨admitting_of_taken htaken, ?_, ?_, ?_⟩
        · rw [← hrecord]
          exact hcaller
        · rw [hnow]
          rfl
        · rw [← kept_reason draft.kind]
          exact haccepted
  | some held =>
      rw [Option.getD_some]
      constructor
      · rintro ⟨⟨hcompares, hnow, hreason⟩, -, hpassed⟩
        rw [checked_of_dispatchable hreason] at hpassed
        refine ⟨hcompares, fun hnone => (by cases hnone), fun other hother => ?_⟩
        obtain rfl := Option.some.inj hother
        exact ⟨hnow, hpassed⟩
      · rintro ⟨hcompares, -, hstands⟩
        obtain ⟨hnow, hpassed⟩ := hstands held rfl
        have hreason := hpassed.authority
        rw [← kept_reason draft.kind] at hreason
        refine ⟨⟨hcompares, hnow, hreason⟩, hboundStatus hcompares, ?_⟩
        rw [checked_of_dispatchable hreason]
        exact hpassed

end

def nextDecision (raw : RouteRequest) (s : World) : RouteDecisionId :=
  ⟨(identified raw s).nextId⟩

/-- A state and surroundings in which what a pass binds is what a comparison finds: the adapters say
what canonical state holds, the incarnation in front is not fenced, and a decision that still
occupies the new identity stands itself. -/
structure Harmonious (options : ModelRouterOptions) (e : Env) (raw : RouteRequest) (s : World)
    (p : Prepared) (candidate : RouteCandidate) (callerTenant : TenantId)
    (callerNamespace : NamespaceId) : Prop where
  matched : Matches options e s.state p.request p.snapshot.context candidate
  unfenced : (evict .route s.state).routes.find? (nextDecision raw s) = none →
    s.state.isFenced candidate.key.backendId candidate.key.backendBoot = false
  stands : ∀ held, (evict .route s.state).routes.find? (nextDecision raw s) = some held →
    held.decision.status = .current ∧ Passes s.state held callerTenant callerNamespace e.now

section

variable {options : ModelRouterOptions} {e : Env} {raw : RouteRequest} {s t u : World}
variable {p : Prepared} {candidate : RouteCandidate}

theorem identified_state : (identified raw s).state = s.state := by
  rw [identified]
  split <;> rfl

theorem preparedBy_alone (h : prepared options e [] raw s = .ok p) :
    PreparedBy (· = e) options raw e (identified raw s) p := by
  obtain ⟨hacts, hby⟩ := executes_prepare (run_alone (e := e) (prepare options raw) s)
  obtain ⟨clock, admitted, hadmitted, hby⟩ := hby p h
  obtain ⟨-, hpre⟩ := quiet_state (run_alone (e := e) (prepare options raw) s).chained hacts
  have hsame : admitted.state = (identified raw s).state := by
    rw [identified_state]
    exact hpre _ hadmitted
  have hclock : clock = e := hby.asked
  have hsnapshot := hby.snapshot
  have hadmits := hby.admitted
  rw [hsame, hclock] at hsnapshot hadmits
  exact ⟨rfl, hby.request, hsnapshot, hadmits, hby.policy, hby.budget, hby.slo⟩

theorem front_of_ranks (hs : Registered s.state) (h : Ranks options e raw s p candidate) :
    Offered s.state candidate ∧ candidate.model.lifecycle = .current ∧
      candidate.backend.retired = false ∧ candidate.backend.draining = false := by
  obtain ⟨winner, tail, hranking, hfind⟩ := h.first
  obtain ⟨found, hmem, -, hok, hfound⟩ :=
    winner_resolved (canonicalCandidates_nodup (catalogCandidates s.state)) hranking
  obtain rfl := Option.some.inj (hfind.symm.trans hfound)
  refine ⟨offered_of_catalog hs (mem_stableSort.mp (mem_of_mem_unique hmem)), ?_⟩
  rw [Prepared.verdict] at hok
  cases hassessed : p.assessed options e candidate with
  | error rejection =>
      rw [hassessed] at hok
      cases hok
  | ok assessment =>
      obtain ⟨-, hnone⟩ := assess_ok hassessed
      exact lifecycle_of_eligible hnone

/-- A pass that runs alone and builds a ranking within the limits returns a current decision that an
immediate revalidation accepts exactly where what the adapters say is what canonical state holds. -/
theorem routed_confirmed_iff {highest : UInt64} {before es ds : Trace} {outcome : RouteOutcome}
    {result : MutationResult} {callerTenant : TenantId} {callerNamespace : NamespaceId}
    (hrun : Chained Act.apply (World.fresh options highest) before s)
    (hcatalog : options.providers.candidates = false) (hranks : Ranks options e raw s p candidate)
    (hroute : Executes (· = e) Eq (route options raw) s es outcome t)
    (hcaller : callerRefusal p.request.tenant callerTenant p.request.nameSpace callerNamespace = none)
    (hrevalidate : Executes (· = e) Eq
      (revalidate outcome.decision.decisionId callerTenant callerNamespace) t ds result u) :
    (outcome.code = .routed ∧ outcome.decision.status = .current ∧ result.code = .accepted) ↔
      Harmonious options e raw s p candidate callerTenant callerNamespace := by
  obtain ⟨hoffered, hlifecycle⟩ := front_of_ranks (registered_of_run hrun) hranks
  have hby := preparedBy_alone hranks.prepared
  have hopen := (prepared_open hranks.prepared).1
  have hclock : p.snapshot.now = e.now := by
    rw [hby.snapshot]
    rfl
  obtain ⟨explanation, winner, tail, houtcome, hleaves⟩ := run_route_of_ranks hcatalog hranks
  rw [Program.run_of_exec Act.apply hroute] at houtcome hleaves
  have hstate : (identified raw s).state = s.state := identified_state
  generalize hdraft : draftFor options e p candidate explanation winner tail (identified raw s).state =
    draft at houtcome hleaves
  have hkind : draft.kind = .route := by rw [← hdraft]; rfl
  have hnow : draft.now = e.now := by rw [← hclock, ← hdraft]; rfl
  have htaken : commitRefusal draft (identified raw s).state = none := by
    rw [prepare_leaves (run_alone (e := e) (prepare options raw) s)] at hopen
    rw [← hdraft]
    simp [commitRefusal, draftFor, draftRoute, hopen.admitting, hopen.routerEpoch,
      hopen.coordinatorEpoch]
  have hauthority : nameDecision draft.decision.authority (nextDecision raw s) =
      bindingOf candidate p options e (identified raw s).state (nextDecision raw s) := by
    rw [← hdraft]
    rfl
  have hcalled : callerRefusal draft.tenant callerTenant draft.nameSpace callerNamespace = none := by
    rw [← hdraft]
    exact hcaller
  have hconfirmed := commit_confirmed_iff htaken (by rw [← hdraft]; rfl) hcalled
  have hcompares := comparison_current_iff hby (hstate ▸ hoffered) draft.kind (nextDecision raw s)
  have hreason := binding_dispatchable_iff hby (hstate ▸ hoffered) hlifecycle draft.kind
    (nextDecision raw s)
  obtain ⟨haccepted, hdecision, -⟩ := reply_of_taken htaken
  have hfound := commitSection_routes htaken (nextDecision raw s)
  rw [nextDecision, if_pos rfl] at hfound
  rw [committedOutcome, haccepted] at houtcome
  dsimp only at houtcome hleaves hconfirmed
  have hcode : outcome.code = .routed ↔
      (commitSection draft (identified raw s)).2.committedCurrent = true := by
    rw [houtcome, routedOutcome]
    dsimp only
    split
    · simp [*]
    · simp [*]
  have hsame : outcome.decision = (commitSection draft (identified raw s)).2.decision := by
    rw [houtcome]
    rfl
  have hid : outcome.decision.decisionId = nextDecision raw s := by
    rw [hsame, hdecision]
    rfl
  rw [hid, hleaves] at hrevalidate
  have hpasses := revalidate_accepted_iff hfound hrevalidate
  rw [hnow] at hconfirmed
  rw [hclock] at hreason
  rw [hcode, hsame, hpasses]
  have hkept : evict draft.kind (identified raw s).state = evict .route s.state := by
    rw [hkind, hstate]
  rw [hstate] at hcompares hreason
  change _ ↔ (commitComparison _ (nameDecision draft.decision.authority (nextDecision raw s))).current =
    true ∧ ((evict draft.kind (identified raw s).state).routes.find? (nextDecision raw s) = none →
      dispatchabilityReason _ (nameDecision draft.decision.authority (nextDecision raw s)) e.now =
        .accepted) ∧ _ at hconfirmed
  rw [hauthority, hkept, hstate] at hconfirmed
  rw [hkind] at hcompares hreason
  rw [hcompares, hreason] at hconfirmed
  constructor
  · rintro ⟨hcurrent, hstatus, hpassed⟩
    obtain ⟨hmatches, hfree, hheld⟩ := hconfirmed.mp ⟨hcurrent, hstatus, _, hfound, hpassed⟩
    exact ⟨hmatches, fun hnone => (hfree hnone).1, hheld⟩
  · rintro ⟨hmatches, hfree, hheld⟩
    obtain ⟨hcurrent, hstatus, record, hrecord, hpassed⟩ :=
      hconfirmed.mpr ⟨hmatches, fun hnone => ⟨hfree hnone, hmatches⟩, hheld⟩
    obtain rfl := Option.some.inj (hfound.symm.trans hrecord)
    exact ⟨hcurrent, hstatus, hpassed⟩

end

section

def governedOptions : ModelRouterOptions :=
  { sampleOptions with providers := { policy := true } }

/-- Surroundings whose policy provider always answers the sample policy under this generation. -/
def governedEnv (generation : PolicyGeneration) : Env :=
  { sampleEnv with
    adapters :=
      { policy := fun _ _ _ =>
          { code := .accepted, value := some { samplePolicy with generation := generation } } } }

def governedRequest (generation : PolicyGeneration) : RouteRequest :=
  { sampleRequest with policyGeneration := generation }

/-- The sample catalog, with the first generation of the sample policy in canonical state. -/
def governedWorld (generation : PolicyGeneration) : World :=
  (play governedOptions (governedEnv generation) sampleCatalog).2.2

def front (options : ModelRouterOptions) (e : Env) (s : World) (p : Prepared) : Option RouteCandidate :=
  if (catalogCandidates s.state).length ≤ p.snapshot.limits.maxCandidatesPerRequest.toNat ∧
      (eligible ((offered s).map (p.assessed options e))).length ≤
        p.snapshot.limits.maxRankedCandidates.toNat then
    (rankAll (eligible ((offered s).map (p.assessed options e)))).head?.bind fun winner =>
      (offered s).find? fun candidate => candidate.key = winner.key
  else none

theorem ranks_of_front {options : ModelRouterOptions} {e : Env} {raw : RouteRequest} {s : World}
    {p : Prepared} {candidate : RouteCandidate} (hprepared : prepared options e [] raw s = .ok p)
    (h : front options e s p = some candidate) : Ranks options e raw s p candidate := by
  rw [front, Option.ite_none_right_eq_some] at h
  obtain ⟨⟨hdiscovered, hranked⟩, hfront⟩ := h
  obtain ⟨winner, hhead, hfind⟩ := Option.bind_eq_some_iff.mp hfront
  obtain ⟨tail, hranking⟩ := List.head?_eq_some_iff.mp hhead
  exact ⟨hprepared, hdiscovered, hranked, winner, tail, hranking, hfind⟩

/-- Whether a pass builds a ranking within the limits. -/
def ranking (options : ModelRouterOptions) (e : Env) (raw : RouteRequest) (s : World) : Bool :=
  match prepared options e [] raw s with
  | .ok p => (front options e s p).isSome
  | .error _ => false

theorem ranks_of_ranking {options : ModelRouterOptions} {e : Env} {raw : RouteRequest} {s : World}
    (h : ranking options e raw s = true) : ∃ p candidate, Ranks options e raw s p candidate := by
  rw [ranking] at h
  cases hprepared : prepared options e [] raw s with
  | error reason =>
      rw [hprepared] at h
      cases h
  | ok p =>
      rw [hprepared] at h
      obtain ⟨candidate, hfront⟩ := Option.isSome_iff_exists.mp h
      exact ⟨p, candidate, ranks_of_front hprepared hfront⟩

theorem governed_chained (generation : PolicyGeneration) :
    Chained Act.apply (World.fresh governedOptions 100)
      (play governedOptions (governedEnv generation) sampleCatalog).1 (governedWorld generation) :=
  (play_history governedOptions (governedEnv generation) sampleCatalog).chained

/-- A pass under a policy provider that answers what canonical state holds is confirmed. -/
theorem echoed_policy_confirmed :
    ∃ es outcome t ds result u,
      Executes (· = governedEnv ⟨1⟩) Eq (route governedOptions (governedRequest ⟨1⟩))
        (governedWorld ⟨1⟩) es outcome t ∧
      Executes (· = governedEnv ⟨1⟩) Eq (revalidate outcome.decision.decisionId {} {}) t ds result u ∧
      outcome.code = .routed ∧ outcome.decision.status = .current ∧ result.code = .accepted := by
  have hranking : ranking governedOptions (governedEnv ⟨1⟩) (governedRequest ⟨1⟩)
      (governedWorld ⟨1⟩) = true := by decide +kernel
  obtain ⟨p, candidate, hranks⟩ := ranks_of_ranking hranking
  have hroute := run_alone (e := governedEnv ⟨1⟩) (route governedOptions (governedRequest ⟨1⟩))
    (governedWorld ⟨1⟩)
  refine ⟨_, _, _, _, _, _, hroute, run_alone _ _, ?_⟩
  refine (routed_confirmed_iff (governed_chained ⟨1⟩) rfl hranks hroute rfl (run_alone _ _)).mpr ?_
  have hheld : ((governedWorld ⟨1⟩).state.policy.policyId,
      (governedWorld ⟨1⟩).state.policy.generation) = (⟨5⟩, ⟨1⟩) := by decide +kernel
  have hfree : (evict .route (governedWorld ⟨1⟩).state).routes.find?
      (nextDecision (governedRequest ⟨1⟩) (governedWorld ⟨1⟩)) = none := by decide +kernel
  have hunfenced : (governedWorld ⟨1⟩).state.fencedBoots.entries.isEmpty = true := by decide +kernel
  rw [List.isEmpty_iff] at hunfenced
  have hby := preparedBy_alone hranks.prepared
  have hrequest := hby.request
  rw [Stamped] at hrequest
  refine ⟨⟨?_, ?_, ?_, ?_, ?_⟩, fun _ => ?_, ?_⟩
  · intro _ answer hanswer
    obtain rfl := Option.some.inj hanswer
    exact hheld.symm
  · intro hnamed
    rw [hrequest] at hnamed
    cases hnamed
  · intro _ hsupplied
    cases hsupplied
  · intro hsupplied
    cases hsupplied
  · intro hsupplied
    cases hsupplied
  · rw [CanonicalState.isFenced, OrderedMap.contains, OrderedMap.find?, hunfenced]
    rfl
  · intro held hfound
    rw [hfree] at hfound
    cases hfound

/-- A pass under a policy provider that is a generation ahead of canonical state commits a stale
decision, although nothing happens in between. -/
theorem later_policy_commits_stale :
    ¬∀ (options : ModelRouterOptions) (e : Env) (raw : RouteRequest) (highest : UInt64)
        (before es ds : Trace) (s t u : World) (p : Prepared) (candidate : RouteCandidate)
        (outcome : RouteOutcome) (result : MutationResult) (callerTenant : TenantId)
        (callerNamespace : NamespaceId),
      Chained Act.apply (World.fresh options highest) before s →
      options.providers.candidates = false → Ranks options e raw s p candidate →
      Executes (· = e) Eq (route options raw) s es outcome t →
      callerRefusal p.request.tenant callerTenant p.request.nameSpace callerNamespace = none →
      Executes (· = e) Eq (revalidate outcome.decision.decisionId callerTenant callerNamespace) t ds
        result u →
      outcome.code = .routed ∧ outcome.decision.status = .current ∧ result.code = .accepted := by
  intro h
  have hranking : ranking governedOptions (governedEnv ⟨2⟩) (governedRequest ⟨2⟩)
      (governedWorld ⟨2⟩) = true := by decide +kernel
  obtain ⟨p, candidate, hranks⟩ := ranks_of_ranking hranking
  have hroute := run_alone (e := governedEnv ⟨2⟩) (route governedOptions (governedRequest ⟨2⟩))
    (governedWorld ⟨2⟩)
  have hclaimed := h _ _ _ _ _ _ _ _ _ _ _ _ _ _ {} {} (governed_chained ⟨2⟩) rfl hranks hroute rfl
    (run_alone _ _)
  have hcode : (Program.run Act.apply (governedEnv ⟨2⟩) [] (route governedOptions
      (governedRequest ⟨2⟩)) (governedWorld ⟨2⟩)).2.1.code = .revalidationRequired := by decide +kernel
  rw [hclaimed.1] at hcode
  cases hcode

end

end ModelRouter.Concord
