import ModelRouter.Dispatchability
import ModelRouter.Timing

namespace ModelRouter.Currentness

open Base Base.Refusal Bytes Ids Outcome Capability Evidence Catalog Authority Decision Persistence
open State CatalogMutation EvidenceMutation Mutations Commit Handoff Recovery Providers Section
open Router Effects MutationFacts Dispatchability Timing Run

variable {s t : CanonicalState} {now : UnixMillis}

/-- Every retained decision reported as current is dispatchable. -/
def Trustworthy (now : UnixMillis) (s : CanonicalState) : Prop :=
  ∀ id record, s.routes.find? id = some record → record.decision.status = .current →
    dispatchabilityReason s record.decision.authority now = .accepted

def NoNewCurrent (s t : CanonicalState) : Prop :=
  ∀ id record, t.routes.find? id = some record → record.decision.status = .current →
    ∃ earlier, s.routes.find? id = some earlier ∧ earlier.decision.status = .current ∧
      earlier.decision.authority = record.decision.authority

theorem NoNewCurrent.of_eq (h : t.routes = s.routes) : NoNewCurrent s t :=
  fun _ record hfind hcurrent => ⟨record, h ▸ hfind, hcurrent, rfl⟩

def SameGrounds (s t : CanonicalState) : Prop :=
  holdings t = holdings s ∧ epochs t = epochs s

theorem SameGrounds.reason (h : SameGrounds s t) (bound : RouteAuthority) :
    dispatchabilityReason t bound now = dispatchabilityReason s bound now := by
  obtain ⟨hr, hc⟩ := Prod.mk.inj h.2
  exact dispatchabilityReason_congr h.1 hr hc bound now

theorem trustworthy_of_noNewCurrent (hs : Trustworthy now s) (hg : SameGrounds s t)
    (hn : NoNewCurrent s t) : Trustworthy now t := by
  intro id record hfind hcurrent
  obtain ⟨earlier, hearlier, hstatus, hauthority⟩ := hn id record hfind hcurrent
  rw [hg.reason, ← hauthority]
  exact hs id earlier hearlier hstatus

theorem editRoute_noNewCurrent (id : RouteDecisionId) {edit : RouteRecord → RouteRecord}
    (hedit : ∀ record, (edit record).decision.status ≠ .current) :
    NoNewCurrent s (editRoute s id edit) := by
  unfold editRoute
  cases hid : s.routes.find? id with
  | none => exact .of_eq rfl
  | some record =>
      intro j found hfind hcurrent
      change (s.routes.insert id (edit record)).find? j = some found at hfind
      rw [OrderedMap.find?_insert] at hfind
      by_cases hj : id = j
      · rw [if_pos hj] at hfind
        obtain rfl := Option.some.inj hfind
        exact absurd hcurrent (hedit record)
      · rw [if_neg hj] at hfind
        exact ⟨found, hfind, hcurrent, rfl⟩

theorem staleDecisionIfNotDispatchable_current {record : RouteRecord}
    (h : (staleDecisionIfNotDispatchable s now record).decision.status = .current) :
    dispatchabilityReason s (staleDecisionIfNotDispatchable s now record).decision.authority now =
      .accepted := by
  unfold staleDecisionIfNotDispatchable at h ⊢
  cases hx : record.executable with
  | false =>
      simp only [hx, Bool.not_false, if_true] at h
      simp [RouteRecord.executable, h] at hx
  | true =>
      simp only [hx, Bool.not_true, Bool.false_eq_true, if_false] at h ⊢
      cases hd : isAuthorityDispatchable s record.decision.authority now with
      | true =>
          simp only [if_true]
          simpa [isAuthorityDispatchable] using hd
      | false => simp [hd, RouteRecord.markStale] at h

theorem staleDecisionsForAuthorityChange_trustworthy (s : CanonicalState) (now : UnixMillis) :
    Trustworthy now (s.staleDecisionsForAuthorityChange now) := by
  intro id record hfind hcurrent
  have hg : SameGrounds s (s.staleDecisionsForAuthorityChange now) := ⟨rfl, rfl⟩
  rw [hg.reason]
  change (s.routes.map _).find? id = some record at hfind
  rw [OrderedMap.find?_map] at hfind
  obtain ⟨earlier, -, rfl⟩ := Option.map_eq_some_iff.mp hfind
  exact staleDecisionIfNotDispatchable_current hcurrent

section

variable {model : ModelDescriptor}

/-- A model registration that `register_model` lets through and that changes the generation, the
artifact or the life cycle of the model. -/
def Admissible (s : CanonicalState) (model : ModelDescriptor) : Prop :=
  model.validate = none ∧ s.shuttingDown = false ∧
    (s.models.size < s.limits.maxModels.toNat ∨ s.models.contains model.modelId = true) ∧
    (∀ seen, s.modelGenerationWatermark.find? model.modelId = some seen →
      generationRegressed model.modelGeneration seen = false) ∧
    ∀ existing, s.models.find? model.modelId = some existing →
      ¬(existing.modelGeneration = model.modelGeneration ∧
        existing.artifactGeneration = model.artifactGeneration ∧
        existing.lifecycle = model.lifecycle)

theorem admissible_iff : (registerModel s model).refusal = none ↔ Admissible s model := by
  simp only [registerModel, chain_eq_none, refuse_eq_none, shuttingDownRefusal, Admissible,
    Option.map_eq_none_iff, Option.any_eq_false, Bool.and_eq_false_iff, decide_eq_false_iff_not,
    not_le, Bool.not_eq_false', ge_iff_le, beq_eq_false_iff_ne, ne_eq, not_and_or, or_assoc]

/-- Some current decision is bound to the model. -/
def BindsModel (s : CanonicalState) (modelId : ModelId) : Prop :=
  ∃ id record, s.routes.find? id = some record ∧ record.decision.status = .current ∧
    record.decision.authority.modelId = modelId

theorem registerModel_reason (bound : RouteAuthority) (h : bound.modelId ≠ model.modelId) :
    dispatchabilityReason (registerModel s model).edited bound now =
      dispatchabilityReason s bound now := by
  have hmodel : (registerModel s model).edited.models.find? bound.modelId =
      s.models.find? bound.modelId := OrderedMap.find?_insert_ne _ _ (Ne.symm h)
  simp only [dispatchabilityReason, buildCurrentAuthority, hmodel]
  rfl

theorem registered_of_dispatchable {bound : RouteAuthority}
    (h : dispatchabilityReason s bound now = .accepted) :
    ∃ model, s.models.find? bound.modelId = some model ∧
      bound.modelGeneration = model.modelGeneration ∧
      bound.artifactGeneration = model.artifactGeneration ∧ model.lifecycle = .current := by
  obtain ⟨-, -, model, backend, hmodel, hbackend, hagrees, hlife⟩ :=
    dispatchabilityReason_accepted.mp h
  obtain ⟨-, htail⟩ := Prod.mk.inj hagrees.model
  obtain ⟨hgeneration, hartifact⟩ := Prod.mk.inj htail
  exact ⟨model, hmodel, hgeneration, hartifact, (lifecycleReason_accepted.mp hlife).1⟩

theorem registerModel_trustworthy (hs : Trustworthy now s) (ha : Admissible s model) :
    Trustworthy now (registerModel s model).edited ↔ ¬BindsModel s model.modelId := by
  constructor
  · rintro ht ⟨id, record, hfind, hcurrent, hmodelId⟩
    obtain ⟨old, hold, hgeneration, hartifact, hlife⟩ :=
      registered_of_dispatchable (hs id record hfind hcurrent)
    obtain ⟨new, hnew, hgeneration', hartifact', hlife'⟩ :=
      registered_of_dispatchable (ht id record hfind hcurrent)
    rw [hmodelId] at hold hnew
    have hregistered : (registerModel s model).edited.models.find? model.modelId = some model :=
      OrderedMap.find?_insert_self _ _ _
    obtain rfl := Option.some.inj (hregistered.symm.trans hnew)
    refine ha.2.2.2.2 old hold ⟨?_, ?_, ?_⟩
    · exact hgeneration.symm.trans hgeneration'
    · exact hartifact.symm.trans hartifact'
    · exact hlife.trans hlife'.symm
  · intro hn id record hfind hcurrent
    rw [registerModel_reason]
    · exact hs id record hfind hcurrent
    · exact fun hmodelId => hn ⟨id, record, hfind, hcurrent, hmodelId⟩

end

section

variable {m : Mutation}

theorem next_trustworthy (hm : ∀ model, m ≠ .registerModel model) (hs : Trustworthy now s) :
    Trustworthy now (m.next now s) := by
  rcases next_cases m now s with h | ⟨-, h⟩
  · rwa [h]
  · rw [h]
    cases m with
    | registerModel model => exact absurd rfl (hm model)
    | registerProvider provider => exact hs
    | _ => exact staleDecisionsForAuthorityChange_trustworthy _ now

end

/-- The epochs a start publishes are not those of the router: some epoch can still advance. -/
def EpochsAdvance (s : CanonicalState) : Prop :=
  s.routerEpoch.next ≠ s.routerEpoch ∨ s.coordinatorEpoch.next ≠ s.coordinatorEpoch

theorem dispatchable_epochs {bound : RouteAuthority}
    (h : dispatchabilityReason s bound now = .accepted) :
    (bound.routerEpoch, bound.coordinatorEpoch) = epochs s := by
  obtain ⟨-, -, model, backend, -, -, hagrees, -⟩ := dispatchabilityReason_accepted.mp h
  exact hagrees.epochs

theorem publish_trustworthy (hs : Trustworthy now s) (time : UnixMillis)
    (hrunning : s.running = false) :
    Trustworthy now (publish s time) ↔
      ¬((∃ id record, s.routes.find? id = some record ∧ record.decision.status = .current) ∧
        EpochsAdvance s) := by
  have hpublish : publish s time = _ := if_neg (by simp [hrunning])
  have hroutes : (publish s time).routes = s.routes := by rw [hpublish]
  have hepochs : epochs (publish s time) = (s.routerEpoch.next, s.coordinatorEpoch.next) := by
    rw [hpublish]
    rfl
  constructor
  · rintro ht ⟨⟨id, record, hfind, hcurrent⟩, hadvance⟩
    have hbefore := dispatchable_epochs (hs id record hfind hcurrent)
    have hafter := dispatchable_epochs (ht id record (hroutes ▸ hfind) hcurrent)
    rw [hbefore, hepochs] at hafter
    obtain ⟨hrouter, hcoordinator⟩ := Prod.mk.inj hafter
    rcases hadvance with hr | hc
    · exact hr hrouter.symm
    · exact hc hcoordinator.symm
  · intro hn
    by_cases hadvance : EpochsAdvance s
    · intro id record hfind hcurrent
      exact absurd ⟨⟨id, record, hroutes ▸ hfind, hcurrent⟩, hadvance⟩ hn
    · simp only [EpochsAdvance, not_or, not_not] at hadvance
      refine trustworthy_of_noNewCurrent hs ⟨?_, ?_⟩ (.of_eq hroutes)
      · rw [hpublish]
        rfl
      · rw [hepochs, epochs, hadvance.1, hadvance.2]

theorem insertRecord_trustworthy {record : RouteRecord} (hs : Trustworthy now s) :
    Trustworthy now (insertRecord s record now) := by
  have hg : SameGrounds s (insertRecord s record now) := ⟨rfl, rfl⟩
  intro id found hfind hcurrent
  rw [hg.reason]
  change (s.routes.insert record.decision.decisionId _).find? id = some found at hfind
  rw [OrderedMap.find?_insert] at hfind
  by_cases hid : record.decision.decisionId = id
  · rw [if_pos hid] at hfind
    obtain rfl := Option.some.inj hfind
    exact staleDecisionIfNotDispatchable_current hcurrent
  · rw [if_neg hid] at hfind
    exact hs id found hfind hcurrent

theorem evict_trustworthy (kind : CommitKind) (hs : Trustworthy now s) :
    Trustworthy now (evict kind s) := by
  refine trustworthy_of_noNewCurrent hs ⟨rfl, rfl⟩ fun id record hfind hcurrent => ?_
  change ((evicted kind s).foldl OrderedMap.erase s.routes).find? id = some record at hfind
  rw [OrderedMap.find?_foldl_erase] at hfind
  split at hfind
  · cases hfind
  · exact ⟨record, hfind, hcurrent, rfl⟩

theorem noteTenant_trustworthy (tenant : TenantId) (hs : Trustworthy now s) :
    Trustworthy now (s.noteTenant tenant) := by
  refine trustworthy_of_noNewCurrent hs ⟨noteTenant_holdings s tenant, noteTenant_epochs s tenant⟩
    (.of_eq ?_)
  unfold CanonicalState.noteTenant
  split <;> rfl

theorem commitSection_trustworthy {draft : CommitDraft} {w : World} (hnow : draft.now = now)
    (hs : Trustworthy now w.state) : Trustworthy now (commitSection draft w).1.state := by
  subst hnow
  unfold commitSection
  cases commitRefusal draft w.state with
  | some refusal => exact hs
  | none =>
      refine noteTenant_trustworthy _ ?_
      have hinserted (record : RouteRecord) :
          Trustworthy draft.now (insertRecord (evict draft.kind w.state) record draft.now) :=
        insertRecord_trustworthy (evict_trustworthy draft.kind hs)
      exact hinserted _

theorem importRoutes_stale {highest : UInt64} {routes : List PersistedRouteRecord}
    {kept : OrderedMap RouteDecisionId RouteRecord}
    (hkept : ∀ id record, kept.find? id = some record → record.decision.status = .stale) :
    ∀ id record, (importRoutes highest kept routes).2.find? id = some record →
      record.decision.status = .stale := by
  induction routes generalizing highest kept with
  | nil => exact hkept
  | cons route rest ih =>
      refine ih fun id record hfind => ?_
      rw [OrderedMap.find?_insert] at hfind
      split at hfind
      · obtain rfl := Option.some.inj hfind
        rfl
      · exact hkept id record hfind

theorem importSection_trustworthy (canonical : RouterPersistentState) {w : World}
    (hs : Trustworthy now w.state) : Trustworthy now (importSection canonical w).state := by
  unfold importSection
  cases w.state.running with
  | true => exact hs
  | false =>
      have hroutes : ∀ routes, (restore w.state canonical routes).routes = routes :=
        fun routes => rebuildIndexes_keeps _ CanonicalState.routes (fun _ _ => rfl) rfl
      intro id record hfind hcurrent
      rw [if_neg Bool.false_ne_true] at hfind
      dsimp only at hfind
      rw [hroutes] at hfind
      have hstale := importRoutes_stale (fun id record h => by cases h) id record hfind
      rw [hcurrent] at hstale
      cases hstale

theorem beginShutdown_trustworthy (hs : Trustworthy now s) : Trustworthy now (beginShutdown s) := by
  unfold beginShutdown
  split
  · exact hs
  · intro id record hfind hcurrent
    change (s.routes.map _).find? id = some record at hfind
    rw [OrderedMap.find?_map] at hfind
    obtain ⟨earlier, -, rfl⟩ := Option.map_eq_some_iff.mp hfind
    unfold withdrawCurrent at hcurrent
    split at hcurrent
    · cases hcurrent
    · rename_i hnot
      exact absurd hcurrent hnot

theorem finishRevalidate_trustworthy {id : RouteDecisionId} {record : RouteRecord}
    {comparisonCurrent : Bool} (hs : Trustworthy now s)
    (hrecord : s.routes.find? id = some record) :
    Trustworthy now
      (finishRevalidate s id record.decision.authority comparisonCurrent now) := by
  unfold finishRevalidate
  split
  · rename_i hdispatchable
    have hg : SameGrounds s (editRoute s id markCurrent) :=
      ⟨editRoute_holdings s id _, editRoute_epochs s id _⟩
    intro j found hfind hcurrent
    rw [hg.reason]
    simp only [editRoute, hrecord] at hfind
    rw [OrderedMap.find?_insert] at hfind
    split at hfind
    · obtain rfl := Option.some.inj hfind
      exact hdispatchable.2
    · exact hs j found hfind hcurrent
  · exact trustworthy_of_noNewCurrent hs ⟨editRoute_holdings s id _, editRoute_epochs s id _⟩
      (editRoute_noNewCurrent id fun record => by simp [RouteRecord.markStale])

theorem writeCapacityDetail_trustworthy (detail : CapacityDetail) (hs : Trustworthy now s) :
    Trustworthy now (writeCapacityDetail s detail) := by
  unfold writeCapacityDetail editBackend
  cases hd : s.backends.find? detail.backendId with
  | none => exact hs
  | some existing =>
      intro id record hfind hcurrent
      obtain ⟨hexpired, hfenced, model, backend, hmodel, hbackend, hagrees, hlife⟩ :=
        dispatchabilityReason_accepted.mp (hs id record hfind hcurrent)
      refine dispatchabilityReason_accepted.mpr ⟨hexpired, hfenced, model, ?_⟩
      by_cases hid : detail.backendId = record.decision.authority.backendId
      · rw [← hid, hd] at hbackend
        obtain rfl := Option.some.inj hbackend
        refine ⟨{ existing with
          capacityDetail := { detail with generation := existing.capacity.generation } },
          hmodel, ?_, hagrees, hlife⟩
        change (s.backends.insert _ _).find? _ = _
        rw [OrderedMap.find?_insert, if_pos hid]
      · refine ⟨backend, hmodel, ?_, hagrees, hlife⟩
        change (s.backends.insert _ _).find? _ = _
        rw [OrderedMap.find?_insert, if_neg hid, hbackend]

theorem completionStatus_ne_current (completion : CompletionRecord) :
    completionStatus completion ≠ .current := by
  unfold completionStatus
  split <;> simp

theorem recordCompletion_trustworthy (completion : CompletionRecord) (hs : Trustworthy now s) :
    Trustworthy now (Handoff.recordCompletion s completion).1 := by
  unfold Handoff.recordCompletion
  cases completable s completion with
  | error result => exact hs
  | ok target =>
      refine trustworthy_of_noNewCurrent hs ⟨rfl, rfl⟩ fun id record hfind hcurrent => ?_
      change (s.routes.insert target.1 _).find? id = some record at hfind
      rw [OrderedMap.find?_insert] at hfind
      split at hfind
      · obtain rfl := Option.some.inj hfind
        exact absurd hcurrent (completionStatus_ne_current completion)
      · exact ⟨record, hfind, hcurrent, rfl⟩

/-- The sections that leave a decision current over an authority they invalidate: a model
registration that names the model of a current decision, and a start over a current decision. -/
def untrusts (w : World) : Act → Prop
  | .mutate (.registerModel model) _ =>
    Admissible w.state model ∧ BindsModel w.state model.modelId
  | .publish _ =>
    w.state.running = false ∧
      (∃ id record, w.state.routes.find? id = some record ∧ record.decision.status = .current) ∧
      EpochsAdvance w.state
  | _ => False

theorem mutate_trustworthy {w : World} (m : Mutation) (hs : Trustworthy now w.state) :
    Trustworthy now (m.next now w.state) ↔ ¬untrusts w (.mutate m now) := by
  by_cases hm : ∃ model, m = .registerModel model
  · obtain ⟨model, rfl⟩ := hm
    cases hr : (registerModel w.state model).refusal with
    | some r =>
        have hnext : (Mutation.registerModel model).next now w.state = w.state :=
          (next_of_refused (m := .registerModel model) hr).1
        rw [hnext]
        refine iff_of_true hs fun hu => ?_
        have hnone := admissible_iff.mpr hu.1
        rw [hr] at hnone
        cases hnone
    | none =>
        have hnext : (Mutation.registerModel model).next now w.state =
            (registerModel w.state model).edited :=
          (next_of_taken (m := .registerModel model) hr).1
        have ha := admissible_iff.mp hr
        rw [hnext, registerModel_trustworthy hs ha]
        exact not_congr ⟨fun hb => ⟨ha, hb⟩, fun hu => hu.2⟩
  · have hother : ∀ model, m ≠ .registerModel model := fun model heq => hm ⟨model, heq⟩
    refine iff_of_true (next_trustworthy hother hs) ?_
    cases m with
    | registerModel model => exact absurd rfl (hother model)
    | _ => exact not_false

theorem event_trustworthy {e : Event World Act} (hf : Faithful now e)
    (hs : Trustworthy now e.pre.state) :
    Trustworthy now (after e).state ↔ ¬untrusts e.pre e.act := by
  obtain ⟨k, w⟩ := e
  rcases hf with htimely | ⟨id, record, comparisonCurrent, hrecord, rfl⟩
  · cases k with
    | observe => exact iff_of_true hs not_false
    | allocate => exact iff_of_true hs not_false
    | mutate m time =>
        obtain rfl : time = now := htimely
        exact mutate_trustworthy m hs
    | writeCapacityDetail detail =>
        exact iff_of_true (writeCapacityDetail_trustworthy detail hs) not_false
    | admitStart =>
        refine iff_of_true ?_ not_false
        change Trustworthy now (admitStart w.state)
        unfold admitStart
        split <;> exact hs
    | publish time =>
        cases hrunning : w.state.running with
        | true =>
            have hsame : publish w.state time = w.state := by simp [publish, hrunning]
            refine iff_of_true ?_ fun hu => ?_
            · change Trustworthy now (publish w.state time)
              rwa [hsame]
            · cases hrunning.symm.trans hu.1
        | false =>
            change Trustworthy now (publish w.state time) ↔ _
            rw [publish_trustworthy hs time hrunning]
            exact not_congr ⟨fun hb => ⟨hrunning, hb⟩, fun hu => hu.2⟩
    | importState canonical => exact iff_of_true (importSection_trustworthy canonical hs) not_false
    | beginShutdown => exact iff_of_true (beginShutdown_trustworthy hs) not_false
    | rejectRoute tenant rejected =>
        exact iff_of_true (noteTenant_trustworthy tenant hs) not_false
    | commit draft => exact iff_of_true (commitSection_trustworthy htimely hs) not_false
    | markStale id =>
        refine iff_of_true (trustworthy_of_noNewCurrent hs ?_ ?_) not_false
        · exact ⟨editRoute_holdings w.state id _, editRoute_epochs w.state id _⟩
        · exact editRoute_noNewCurrent id fun record => by simp [RouteRecord.markStale]
    | finishRevalidate id bound comparisonCurrent time => exact htimely.elim
    | recordDispatch id epoch coordinatorEpoch record =>
        refine iff_of_true ?_ not_false
        have hg : SameGrounds w.state (Handoff.recordDispatch w id epoch coordinatorEpoch record).state :=
          ⟨recordDispatch_holdings w id epoch coordinatorEpoch record,
            apply_epochs (k := .recordDispatch id epoch coordinatorEpoch record) rfl w⟩
        refine trustworthy_of_noNewCurrent hs hg ?_
        change NoNewCurrent w.state (Handoff.recordDispatch w id epoch coordinatorEpoch record).state
        unfold Handoff.recordDispatch
        split
        · exact editRoute_noNewCurrent id fun record => by simp [markDispatched]
        · exact .of_eq rfl
    | recordCompletion completion =>
        exact iff_of_true (recordCompletion_trustworthy completion hs) not_false
    | supersede id time fresh =>
        refine iff_of_true ?_ not_false
        refine trustworthy_of_noNewCurrent hs ⟨supersede_holdings w.state id time fresh,
          apply_epochs (k := .supersede id time fresh) rfl w⟩ ?_
        change NoNewCurrent w.state (Handoff.supersede w.state id time fresh)
        unfold Handoff.supersede
        split
        · exact editRoute_noNewCurrent id fun record => by simp
        · exact editRoute_noNewCurrent id fun record => by simp
    | store path persisted => exact iff_of_true hs not_false
  · exact iff_of_true (finishRevalidate_trustworthy hs hrecord) not_false

/-- Surroundings whose clock stands at `now` and that answer anything else as they like. -/
def clockAt (now : UnixMillis) : Trace → Env → Prop :=
  fun _ => AtTime now

theorem fresh_trustworthy (options : ModelRouterOptions) (highest : UInt64) :
    Trustworthy now (World.fresh options highest).state := by
  intro id record hfind
  cases hfind

/-- While the clock stands still, every decision reported as current is dispatchable all along a
run exactly when the run has no section of the two kinds. -/
theorem history_trustworthy_iff {options : ModelRouterOptions} {highest : UInt64} {es : Trace}
    {calls : List (Op × Reply)} {t : World}
    (h : History options (clockAt now) highest es calls t) :
    (∀ e ∈ es, Trustworthy now (after e).state) ↔ ∀ e ∈ es, ¬untrusts e.pre e.act := by
  have hfaithful : ∀ e ∈ es, Faithful now e := h.forall_mem program_faithful
  have hstep : ∀ e ∈ es, Trustworthy now e.pre.state → True →
      (Trustworthy now (after e).state ↔ ¬untrusts e.pre e.act) ∧ True :=
    fun e he hs _ => ⟨event_trustworthy (hfaithful e he) hs, trivial⟩
  exact h.chained.forall_iff (I := fun w => Trustworthy now w.state) (J := fun _ => True)
    (fresh_trustworthy options highest) trivial hstep

theorem play_clockAt (options : ModelRouterOptions) (env : Env) (ops : List Op) :
    History options (clockAt env.now) 100 (play options env ops).1 (play options env ops).2.1
      (play options env ops).2.2 := by
  have hE : ∀ es, clockAt env.now es env := fun _ => rfl
  exact Session.run_session hE ops _

theorem sampleRoute_trustworthy_iff :
    let run := play sampleOptions sampleEnv (sampleCatalog ++ [.route sampleRequest])
    (∀ e ∈ run.1, Trustworthy 100 (after e).state) ↔ ∀ e ∈ run.1, ¬untrusts e.pre e.act :=
  history_trustworthy_iff (play_clockAt sampleOptions sampleEnv _)

def modelReregistered : Trace × List (Op × Reply) × World :=
  play sampleOptions sampleEnv
    (sampleCatalog ++ [.route sampleRequest, .mutation (.registerModel (sampleModel ⟨2⟩))])

theorem current_and_not_dispatchable :
    ¬∀ (options : ModelRouterOptions) (now : UnixMillis) (highest : UInt64) (es : Trace)
        (calls : List (Op × Reply)) (t : World),
      History options (clockAt now) highest es calls t → Trustworthy now t.state := by
  intro h
  have ht : Trustworthy 100 modelReregistered.2.2.state :=
    h _ _ _ _ _ _ (play_clockAt sampleOptions sampleEnv _)
  have hfound : modelReregistered.2.2.state.routes.entries.any (fun entry =>
      entry.2.decision.status == .current &&
        dispatchabilityReason modelReregistered.2.2.state entry.2.decision.authority 100 !=
          .accepted) = true := by
    decide +kernel
  obtain ⟨⟨id, record⟩, hmem, hbad⟩ := List.any_eq_true.mp hfound
  rw [Bool.and_eq_true, beq_iff_eq, bne_iff_ne] at hbad
  exact hbad.2 (ht id record (OrderedMap.mem_entries_iff.mp hmem) hbad.1)

end ModelRouter.Currentness
