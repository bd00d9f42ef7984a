import ModelRouter.Coherence
import ModelRouter.Courses
import ModelRouter.Currentness
import ModelRouter.Revalidation
import ModelRouter.Transactions
import ModelRouter.Verdicts

namespace ModelRouter.Consulted

open Base Base.Refusal Bytes Ids Outcome Capability Evidence Catalog Candidate Authority Request
open Policy Eligibility Decision State Commit Handoff Providers Section Pass Route Dispatch Reroute
open Router Effects Run Records Repertoire Dispatchability Revalidation Coherence Transactions Courses
open Currentness Verdicts

/-- The evidence in canonical state that a hard-eligibility verdict can depend on and that carries a
generation of its own. -/
inductive EvidenceKind where
  | model | artifact | capability | compatibility | availability | health | readiness | residency
  | capacity | trust | cost | policy | budget | slo
deriving DecidableEq

/-- The generation of the evidence about the identities an authority names; `none` where there is
no such evidence. -/
def reading (s : CanonicalState) (a : RouteAuthority) : EvidenceKind → Option UInt64
  | .model => (s.models.find? a.modelId).map (·.modelGeneration.value)
  | .artifact => (s.models.find? a.modelId).map (·.artifactGeneration.value)
  | .capability => (s.backends.find? a.backendId).map (·.capabilityGeneration.value)
  | .compatibility => (s.compatibility.find? a.backendId).map (·.generation.value)
  | .availability => (s.backends.find? a.backendId).map (·.availability.generation.value)
  | .health => (s.backends.find? a.backendId).map (·.health.generation.value)
  | .readiness => (s.backends.find? a.backendId).map (·.readiness.generation.value)
  | .residency => (s.backends.find? a.backendId).map (·.residency.generation.value)
  | .capacity => (s.backends.find? a.backendId).map (·.capacity.generation.value)
  | .trust => (s.backends.find? a.backendId).map (·.trustGeneration.value)
  | .cost =>
    ((s.backends.find? a.backendId).bind (·.findBinding a.modelId)).map (·.cost.priceGeneration.value)
  | .policy => some s.policy.generation.value
  | .budget => some s.budget.generation.value
  | .slo => some s.slo.generation.value

/-- The canonical evidence that the verdict on the winner depends on, under these adapters, for
this request and under this policy. What every verdict looks at counts for any of them. -/
def Consults (options : ModelRouterOptions) (request : RouteRequest) (policy : PolicySnapshot) :
    EvidenceKind → Prop
  | .compatibility => options.providers.compatibility = false
  | .residency => request.requirements.requireResident = true
  | .capacity => request.requirements.requireCapacity = true
  | .cost =>
    (options.providers.cost = false ∧
      (request.requirements.requireKnownCost || request.requirements.enforceCostCeiling) = true) ∨
        policy.maximumRequestCost.micros > 0
  | .budget => request.budgetId.valid = true
  | .slo =>
    request.requirements.requireSlo = true ∧
      (options.providers.slo && request.sloId.valid) = false
  | _ => True

/-- The generation an authority is compared by; `none` where the comparison passes over it. -/
def binds (a : RouteAuthority) : EvidenceKind → Option UInt64
  | .model => some a.modelGeneration.value
  | .artifact => some a.artifactGeneration.value
  | .capability => some a.capabilityGeneration.value
  | .compatibility => none
  | .availability => some a.availabilityGeneration.value
  | .health => some a.healthGeneration.value
  | .readiness => some a.readinessGeneration.value
  | .residency => if a.residencyGeneration.valid then some a.residencyGeneration.value else none
  | .capacity => if a.capacityGeneration.valid then some a.capacityGeneration.value else none
  | .trust => some a.trustGeneration.value
  | .cost => if a.priceGeneration.valid then some a.priceGeneration.value else none
  | .policy => some a.policyGeneration.value
  | .budget => if a.budgetGeneration.valid then some a.budgetGeneration.value else none
  | .slo => if a.sloGeneration.valid then some a.sloGeneration.value else none

/-- The evidence whose change a revalidation does not see: the compatibility entry of the backend,
and what had no generation when the authority was bound. -/
def Overlooks (a : RouteAuthority) (k : EvidenceKind) : Prop :=
  k = .compatibility ∨
    (k = .residency ∨ k = .capacity ∨ k = .cost) ∧ binds a k = none

section

variable {s : CanonicalState} {a : RouteAuthority} {model : ModelDescriptor}
variable {backend : BackendDescriptor} {k : EvidenceKind} {generation : UInt64}

theorem reading_of_agrees (hmodel : s.models.find? a.modelId = some model)
    (hbackend : s.backends.find? a.backendId = some backend)
    (hagrees : Agrees a (observedAuthority s a model backend)) (hbinds : binds a k = some generation) :
    reading s a k = some generation := by
  have hprice : binds a .cost = some generation → reading s a .cost = some generation := by
    intro hcost
    simp only [binds, Option.ite_none_right_eq_some] at hcost
    have hobserved := congrArg Prod.snd (hagrees.price hcost.1)
    simp only [observedAuthority] at hobserved
    simp only [reading, hbackend, Option.bind_some]
    cases hbinding : backend.findBinding a.modelId with
    | none =>
        rw [hbinding] at hobserved
        rw [hobserved] at hcost
        cases hcost.1
    | some binding =>
        rw [hbinding] at hobserved
        rw [← hcost.2, hobserved]
        rfl
  have hmodels := hagrees.model
  have hcapability := hagrees.capability
  have hpolicy := hagrees.policy
  have htrust := hagrees.trust
  have hdynamic := hagrees.dynamic
  simp only [observedAuthority, Prod.mk.injEq] at hmodels hcapability hpolicy htrust hdynamic
  cases k with
  | cost => exact hprice hbinds
  | compatibility => cases hbinds
  | model => simpa [reading, binds, hmodel, hmodels.2.1] using hbinds
  | artifact => simpa [reading, binds, hmodel, hmodels.2.2] using hbinds
  | capability => simpa [reading, binds, hbackend, hcapability.2] using hbinds
  | availability => simpa [reading, binds, hbackend, hdynamic.2.1] using hbinds
  | health => simpa [reading, binds, hbackend, hdynamic.1] using hbinds
  | readiness => simpa [reading, binds, hbackend, hdynamic.2.2] using hbinds
  | trust => simpa [reading, binds, hbackend, htrust.2] using hbinds
  | policy => simpa [reading, binds, hpolicy.2] using hbinds
  | residency =>
      simp only [binds, Option.ite_none_right_eq_some] at hbinds
      have hobserved := hagrees.residency hbinds.1
      simp only [observedAuthority] at hobserved
      simpa [reading, hbackend, hobserved] using hbinds.2
  | capacity =>
      simp only [binds, Option.ite_none_right_eq_some] at hbinds
      have hobserved := hagrees.capacity hbinds.1
      simp only [observedAuthority] at hobserved
      simpa [reading, hbackend, hobserved] using hbinds.2
  | budget =>
      simp only [binds, Option.ite_none_right_eq_some] at hbinds
      have hobserved := congrArg Prod.snd (hagrees.budget hbinds.1)
      simp only [observedAuthority, if_pos hbinds.1] at hobserved
      simpa [reading, hobserved] using hbinds.2
  | slo =>
      simp only [binds, Option.ite_none_right_eq_some] at hbinds
      have hobserved := congrArg Prod.snd (hagrees.slo hbinds.1)
      simp only [observedAuthority] at hobserved
      simpa [reading, hobserved] using hbinds.2

end

/-- The budget and the objective that a verdict consulted are bound with their generations. -/
structure BindsGoverning (options : ModelRouterOptions) (raw : RouteRequest) (draft : CommitDraft) :
    Prop where
  budget : Consults options raw draft.decision.explanation.policy .budget →
    draft.decision.authority.budgetGeneration.valid = true
  slo : Consults options raw draft.decision.explanation.policy .slo →
    draft.decision.authority.sloGeneration.valid = true

variable {options : ModelRouterOptions} {raw request : RouteRequest}
variable {E : Env → Prop} {R : World → World → Prop} {s t : World} {es : Trace}

theorem course_binds {met : World → Prop} {c : Course} (h : Taken E options raw met c) :
    BindsGoverning options raw c.draft := by
  have hrequest := h.request
  rw [Stamped] at hrequest
  constructor
  · intro hnamed
    have hvalid : c.request.budgetId.valid = true := by
      rw [hrequest]
      exact hnamed
    have hbudget := h.budget
    rw [if_pos hvalid, budgetRefusal] at hbudget
    simp only [chain_eq_none, stopIf_eq_none] at hbudget
    change (if c.request.budgetId.valid then c.governing.budget.generation else _).valid = true
    rw [if_pos hvalid]
    simpa using (Bool.or_eq_false_iff.mp hbudget.1.1).1
  · rintro ⟨hrequired, -⟩
    have hrequires : c.request.requirements.requireSlo = true := by
      rw [hrequest]
      exact hrequired
    have hslo := h.slo
    rw [if_pos hrequires, sloRefusal] at hslo
    simp only [chain_eq_none, stopIf_eq_none] at hslo
    change c.governing.slo.generation.valid = true
    simpa using (Bool.or_eq_false_iff.mp hslo.1.1).1

/-- What the fallback walk assesses, under the governing evidence of its pass. -/
structure Walks (options : ModelRouterOptions) (raw request : RouteRequest) (snapshot : Snapshot)
    (governing : Governing) : Prop where
  request : Stamped raw request
  budget : governing.budget = snapshot.budget
  slo : governing.slo = snapshot.slo
  evidence : snapshot.evidence.slo = snapshot.slo

theorem fallback_binds {snapshot : Snapshot} {governing : Governing} {candidate : RouteCandidate}
    {evidence : CandidateEvidence} (hwalks : Walks options raw request snapshot governing)
    (hevidence : Resolves E options request snapshot candidate evidence) {frame : Frame}
    (hframe : frame.request = request ∧ frame.budget = governing.budget) {assessment : Assessment}
    (hassess : assess frame candidate evidence = .ok assessment) (planned : List CandidateKey)
    (permitted : UInt32) (routerId : RouterId) :
    BindsGoverning options raw
      (draftFallback request snapshot governing assessment
        (bindFallback snapshot.context routerId request assessment.candidate evidence
          governing.policy governing.budget governing.slo) planned permitted) := by
  have hrequest := hwalks.request
  rw [Stamped] at hrequest
  obtain ⟨-, hnone⟩ := assess_ok hassess
  simp only [firstFailure, chain_eq_none, Frame.input, hframe.1, hframe.2] at hnone
  obtain ⟨-, -, -, -, -, -, -, -, -, -, -, -, -, -, -, hbudget, -, hslo, -⟩ := hnone
  constructor
  · intro hnamed
    have hvalid : request.budgetId.valid = true := by
      rw [hrequest]
      exact hnamed
    simp only [checkBudget, chain_eq_none, fail_eq_none, hvalid, Bool.true_and] at hbudget
    change (if request.budgetId.valid then governing.budget.generation else _).valid = true
    rw [if_pos hvalid]
    simpa using (Bool.or_eq_false_iff.mp hbudget.1).1
  · rintro ⟨hrequired, hheld⟩
    have hrequires : request.requirements.requireSlo = true := by
      rw [hrequest]
      exact hrequired
    have hcanonical : evidence.slo = governing.slo := by
      obtain ⟨e, -, rfl⟩ := hevidence
      have hid : request.sloId = raw.sloId := by rw [hrequest]
      change (if options.providers.slo && request.sloId.valid then _ else _) = _
      rw [hid, if_neg (by simp [hheld]), hwalks.evidence, hwalks.slo]
    simp only [checkSlo, chain_eq_none, fail_eq_none, hrequires, Bool.true_and, hcanonical] at hslo
    change governing.slo.generation.valid = true
    simpa using (Bool.or_eq_false_iff.mp hslo.1).1

/-- A property that whatever is committed for a request has, by a routing pass or by the fallback
walk. -/
structure Drafted (E : Env → Prop) (options : ModelRouterOptions)
    (Q : RouteRequest → CommitDraft → Prop) : Prop where
  course : ∀ {raw : RouteRequest} {met : World → Prop} {c : Course}, Taken E options raw met c →
    Q raw c.draft
  fallback : ∀ {raw request : RouteRequest} {snapshot : Snapshot} {governing : Governing}
    {candidate : RouteCandidate} {evidence : CandidateEvidence} {frame : Frame}
    {assessment : Assessment}, Walks options raw request snapshot governing →
    Resolves E options request snapshot candidate evidence →
    (frame.request = request ∧ frame.budget = governing.budget) →
    assess frame candidate evidence = .ok assessment →
    ∀ (planned : List CandidateKey) (permitted : UInt32) (routerId : RouterId),
      Q raw (draftFallback request snapshot governing assessment
        (bindFallback snapshot.context routerId request assessment.candidate evidence
          governing.policy governing.budget governing.slo) planned permitted)
  stamped : ∀ {raw request : RouteRequest} {draft : CommitDraft}, Stamped raw request →
    Q request draft → Q raw draft

/-- A trace that commits only drafts with a property. -/
abbrev Commits (Q : CommitDraft → Prop) (es : Trace) : Prop :=
  ∀ e ∈ es, ∀ draft, e.act = .commit draft → Q draft

theorem Commits.append {Q : CommitDraft → Prop} {ds : Trace} (h : Commits Q es)
    (h' : Commits Q ds) : Commits Q (es ++ ds) := by
  intro e he
  rcases List.mem_append.mp he with he | he
  · exact h e he
  · exact h' e he

theorem Commits.cons {Q : CommitDraft → Prop} {k : Act} {w : World} (hk : ∀ draft, k ≠ .commit draft)
    (h : Commits Q es) : Commits Q (⟨k, w⟩ :: es) := by
  intro e he draft hact
  rcases List.mem_cons.mp he with rfl | he
  · exact absurd hact (hk draft)
  · exact h e he draft hact

section

variable {Q : RouteRequest → CommitDraft → Prop}

theorem route_drafts (hQ : Drafted E options Q) {outcome : RouteOutcome}
    (h : Executes E R (route options raw) s es outcome t) : Commits (Q raw) es := by
  obtain ⟨result, u, es₁, es₂, rfl, hpass, hdone⟩ := executes_bind.mp h
  obtain ⟨rfl, -, -⟩ := executes_done.mp hdone
  intro e he draft hact
  rw [List.append_nil] at he
  obtain ⟨met, c, htaken, rfl⟩ := (routePass_ending hpass).commit he hact
  obtain rfl := Act.commit.inj hact
  exact hQ.course htaken

theorem commitSingleCandidate_drafts (hQ : Drafted E options Q) {snapshot : Snapshot}
    {governing : Governing} {candidate : RouteCandidate} {evidence : CandidateEvidence}
    (hwalks : Walks options raw request snapshot governing)
    (hevidence : Resolves E options request snapshot candidate evidence)
    {planned : List CandidateKey} {permitted : UInt32} {outcome : RouteOutcome}
    (h : Executes E R (commitSingleCandidate request snapshot governing candidate evidence planned
      permitted) s es outcome t) : Commits (Q raw) es := by
  unfold commitSingleCandidate at h
  dsimp only at h
  split at h
  · obtain ⟨rfl, -, -⟩ := executes_done.mp h
    simp [Commits]
  · rename_i assessment hassess
    obtain ⟨w, ds, -, rfl, hbound⟩ := executes_perform.mp h
    obtain ⟨u, ds', -, rfl, hcommitted⟩ := executes_perform.mp hbound
    have hlast : ds' = [] := by
      split at hcommitted
      · exact (executes_done.mp hcommitted).1
      · exact (executes_done.mp hcommitted).1
    subst hlast
    intro e he draft hact
    simp only [List.mem_cons, List.not_mem_nil, or_false] at he
    rcases he with rfl | rfl
    · cases hact
    · obtain rfl := Act.commit.inj hact
      exact hQ.fallback hwalks hevidence ⟨rfl, rfl⟩ hassess _ _ _

theorem tryFallbacks_drafts (hQ : Drafted E options Q) {id : RouteDecisionId}
    {snapshot : Snapshot} {governing : Governing}
    (hwalks : Walks options raw request snapshot governing) {planned keys : List CandidateKey}
    {permitted : UInt32} {found : Option RouteOutcome}
    (h : Executes E R (tryFallbacks options id request snapshot governing planned permitted keys) s
      es found t) : Commits (Q raw) es := by
  induction keys generalizing s es with
  | nil =>
      obtain ⟨rfl, -, -⟩ := executes_done.mp h
      simp [Commits]
  | cons key rest ih =>
      obtain ⟨w, ds, -, rfl, hwalked⟩ := executes_perform.mp h
      refine .cons (by simp) ?_
      split at hwalked
      · exact ih hwalked
      · obtain ⟨evidence, u, es₁, es₂, rfl, hresolve, hgoes⟩ := executes_bind.mp hwalked
        obtain ⟨rfl, rfl, hevidence⟩ := executes_resolve hresolve
        obtain ⟨outcome, v, es₃, es₄, rfl, hcommit, hrest⟩ := executes_bind.mp hgoes
        refine .append (by simp [Commits])
          (.append (commitSingleCandidate_drafts hQ hwalks hevidence hcommit) ?_)
        split at hrest
        · obtain ⟨x, ds', -, rfl, hdone⟩ := executes_perform.mp hrest
          obtain ⟨rfl, -, -⟩ := executes_done.mp hdone
          exact .cons (by simp) (by simp [Commits])
        · exact ih hrest

theorem rerouteFresh_drafts (hQ : Drafted E options Q) {id : RouteDecisionId} {now : UnixMillis} {outcome : RouteOutcome}
    (hstamped : Stamped raw request)
    (h : Executes E R (rerouteFresh options id request now) s es outcome t) :
    Commits (Q raw) es := by
  obtain ⟨fresh, u, es₁, es₂, rfl, hroute, hrest⟩ := executes_bind.mp h
  have hcommits : Commits (Q raw) es₁ := fun e he draft hact =>
    hQ.stamped hstamped (route_drafts hQ hroute e he draft hact)
  refine hcommits.append ?_
  split at hrest
  · obtain ⟨x, ds, -, rfl, hdone⟩ := executes_perform.mp hrest
    obtain ⟨rfl, -, -⟩ := executes_done.mp hdone
    exact .cons (by simp) (by simp [Commits])
  · obtain ⟨rfl, -, -⟩ := executes_done.mp hrest
    simp [Commits]

theorem reroute_drafts (hQ : Drafted E options Q) {id : RouteDecisionId} {failure : FailureClass} {outcome : RouteOutcome}
    (h : Executes E R (reroute options id failure raw) s es outcome t) :
    Commits (Q raw) es := by
  obtain ⟨request, u, es₀, es₁, rfl, hidentify, hasks⟩ := executes_bind.mp h
  obtain ⟨hallocates, hstamped⟩ := executes_identify hidentify
  have hnone : Commits (Q raw) ([] : Trace) := by simp [Commits]
  refine .append (fun e he draft hact => ?_) ?_
  · cases (hallocates e he).symm.trans hact
  · obtain ⟨clock, -, hasked⟩ := executes_ask.mp hasks
    obtain ⟨w, ds, -, rfl, hfound⟩ := executes_perform.mp hasked
    refine .cons (by simp) ?_
    split at hfound
    · obtain ⟨rfl, -, -⟩ := executes_done.mp hfound
      exact hnone
    · rename_i stored hstored
      rcases executes_proceed hfound with ⟨reason, rfl, -, -⟩ | ⟨_, -, hconsults⟩
      · exact hnone
      obtain ⟨answer, v, es₂, es₃, rfl, hconsult, hpolicy⟩ := executes_bind.mp hconsults
      obtain ⟨rfl, rfl, -⟩ := executes_consult hconsult
      rcases executes_proceed hpolicy with ⟨reason, rfl, -, -⟩ | ⟨fetched, -, hpermits⟩
      · exact hnone
      rcases executes_proceed hpermits with ⟨reason, rfl, -, -⟩ | ⟨_, -, htries⟩
      · exact hnone
      obtain ⟨fallback, x, es₄, es₅, rfl, htry, hrest⟩ := executes_bind.mp htries
      refine .append hnone (.append (tryFallbacks_drafts hQ ⟨hstamped, rfl, rfl, rfl⟩ htry) ?_)
      split at hrest
      · obtain ⟨rfl, -, -⟩ := executes_done.mp hrest
        exact hnone
      · exact rerouteFresh_drafts hQ hstamped hrest

theorem program_drafts (hQ : Drafted E options Q) {op : Op} (hop : requestOf op = some raw)
    {reply : Reply} (h : Executes E R (op.program options) s es reply t) : Commits (Q raw) es := by
  cases op with
  | route request =>
      obtain rfl : request = raw := Option.some.inj hop
      obtain ⟨outcome, -, hroute⟩ := executes_map h
      exact route_drafts hQ hroute
  | reroute id failure request =>
      obtain rfl : request = raw := Option.some.inj hop
      obtain ⟨outcome, -, hreroute⟩ := executes_map h
      exact reroute_drafts hQ hreroute
  | _ => cases hop

end

theorem bindsGoverning_drafted : Drafted E options (BindsGoverning options) where
  course htaken := course_binds htaken
  fallback hwalks hevidence hframe hassess := fallback_binds hwalks hevidence hframe hassess
  stamped hstamped hbinds := by
    obtain ⟨hbudget, hslo⟩ := hbinds
    rw [Stamped] at hstamped
    rw [hstamped] at hbudget hslo
    exact ⟨hbudget, hslo⟩

/-- A call for a retained decision that nothing `revalidate` looks at stands against. -/
structure Passes (u : CanonicalState) (record : RouteRecord) (callerTenant : TenantId)
    (callerNamespace : NamespaceId) (now : UnixMillis) : Prop where
  admitted : u.shuttingDown = false
  caller : callerRefusal record.tenant callerTenant record.nameSpace callerNamespace = none
  status : statusRefusal record.decision.status = none
  authority : dispatchabilityReason u record.decision.authority now = .accepted

section

variable {u v : World} {id : RouteDecisionId} {record : RouteRecord} {env : Env}
variable {callerTenant : TenantId} {callerNamespace : NamespaceId} {result : MutationResult}

theorem failStale_rejects {failed : MutationResult} (hcode : failed.code.isAcceptance = false)
    (h : Executes E Eq (failStale id failed) u es result v) : result.code.isAcceptance = false := by
  obtain ⟨w, ds, -, rfl, hdone⟩ := executes_perform.mp h
  obtain ⟨-, rfl, -⟩ := executes_done.mp hdone
  exact hcode

theorem revalidate_accepted_iff (hrecord : u.state.routes.find? id = some record)
    (h : Executes (· = env) Eq (revalidate id callerTenant callerNamespace) u es result v) :
    result.code = .accepted ↔ Passes u.state record callerTenant callerNamespace env.now := by
  have hrejects (hcode : result.code.isAcceptance = false)
      (hnot : ¬Passes u.state record callerTenant callerNamespace env.now) :
      result.code = .accepted ↔ Passes u.state record callerTenant callerNamespace env.now := by
    refine iff_of_false (fun haccepted => ?_) hnot
    rw [haccepted] at hcode
    cases hcode
  obtain ⟨w, ds, rfl, rfl, hfound⟩ := executes_perform.mp h
  by_cases hshut : u.state.shuttingDown = true
  · rw [if_pos hshut] at hfound
    obtain ⟨-, rfl, -⟩ := executes_done.mp hfound
    refine hrejects rfl fun hpasses => ?_
    rw [hpasses.admitted] at hshut
    cases hshut
  rw [if_neg hshut, hrecord] at hfound
  dsimp only at hfound
  cases hrefusal : (callerRefusal record.tenant callerTenant record.nameSpace callerNamespace <|>
      statusRefusal record.decision.status) with
  | some reason =>
      rw [hrefusal] at hfound
      obtain ⟨-, rfl, -⟩ := executes_done.mp hfound
      refine hrejects ?_ fun hpasses => ?_
      · rcases chain_eq_some.mp hrefusal with hcaller | ⟨-, hstatus⟩
        · rw [Dispatch.rejected, callerRefusal_rejects hcaller]
          rfl
        · exact statusRefusal_rejects hstatus
      · rw [hpasses.caller, hpasses.status] at hrefusal
        cases hrefusal
  | none =>
      rw [hrefusal] at hfound
      obtain ⟨hcaller, hstatus⟩ := chain_eq_none.mp hrefusal
      obtain ⟨e, rfl, hasked⟩ := executes_ask.mp hfound
      by_cases hexpired : record.decision.authority.expired e.now = true
      · rw [if_pos hexpired] at hasked
        refine hrejects (failStale_rejects rfl hasked) fun hpasses => ?_
        rw [(dispatchabilityReason_accepted.mp hpasses.authority).1] at hexpired
        cases hexpired
      rw [if_neg hexpired] at hasked
      by_cases hfenced : u.state.isFenced record.decision.authority.backendId
          record.decision.authority.backendBoot = true
      · rw [if_pos hfenced] at hasked
        refine hrejects (failStale_rejects rfl hasked) fun hpasses => ?_
        rw [(dispatchabilityReason_accepted.mp hpasses.authority).2.1] at hfenced
        cases hfenced
      rw [if_neg hfenced] at hasked
      obtain ⟨x, ds', rfl, rfl, hobserves⟩ := executes_perform.mp hasked
      have hseen : (Act.observe.apply u).state = u.state := rfl
      rw [hseen] at hobserves
      cases hobserved : buildCurrentAuthority u.state record.decision.authority with
      | none =>
          rw [hobserved] at hobserves
          refine hrejects (failStale_rejects rfl hobserves) fun hpasses => ?_
          obtain ⟨-, -, model, backend, hmodel, hbackend, -⟩ :=
            dispatchabilityReason_accepted.mp hpasses.authority
          simp only [buildCurrentAuthority, hmodel, hbackend, reduceCtorEq] at hobserved
      | some observed =>
          rw [hobserved] at hobserves
          obtain ⟨y, ds'', rfl, rfl, hfinishes⟩ := executes_perform.mp hobserves
          obtain ⟨-, rfl, -⟩ := executes_done.mp hfinishes
          have hretained : u.state.routes.contains id = true :=
            OrderedMap.contains_iff.mpr ⟨record, hrecord⟩
          have hcode := finishResult_code hretained hobserved e.now
          dsimp only at hcode
          by_cases hreason :
              dispatchabilityReason u.state record.decision.authority e.now = .accepted
          · rw [if_pos hreason] at hcode
            exact iff_of_true hcode ⟨by simpa using hshut, hcaller, hstatus, hreason⟩
          · rw [if_neg hreason] at hcode
            exact hrejects hcode fun hpasses => hreason hpasses.authority

end

theorem not_overlooked {a : RouteAuthority} {k : EvidenceKind} (h : binds a k = none)
    (hbudget : k = .budget → a.budgetGeneration.valid = true)
    (hslo : k = .slo → a.sloGeneration.valid = true) : Overlooks a k := by
  cases k with
  | compatibility => exact .inl rfl
  | residency => exact .inr ⟨.inl rfl, h⟩
  | capacity => exact .inr ⟨.inr (.inl rfl), h⟩
  | cost => exact .inr ⟨.inr (.inr rfl), h⟩
  | budget => simp [binds, hbudget rfl] at h
  | slo => simp [binds, hslo rfl] at h
  | _ => cases h

theorem reading_of_accepted {s : CanonicalState} {a : RouteAuthority} {now : UnixMillis}
    (h : dispatchabilityReason s a now = .accepted) {k : EvidenceKind} {generation : UInt64}
    (hbinds : binds a k = some generation) : reading s a k = some generation := by
  obtain ⟨-, -, model, backend, hmodel, hbackend, hagrees, -⟩ := dispatchabilityReason_accepted.mp h
  exact reading_of_agrees hmodel hbackend hagrees hbinds

section

variable {id : RouteDecisionId} {e : Event World Act} {committed record : RouteRecord}

theorem current_reads (hcommits : replaces id e)
    (hcommitted : (after e).state.routes.find? id = some committed)
    (hcurrent : committed.decision.status = .current) {k : EvidenceKind} {generation : UInt64}
    (hbinds : binds committed.decision.authority k = some generation) :
    reading e.pre.state committed.decision.authority k = some generation := by
  obtain ⟨k', w⟩ := e
  cases k' with
  | commit draft =>
      obtain ⟨htaken, hid, hfree⟩ := hcommits
      change (commitSection draft w).1.state.routes.find? id = some committed at hcommitted
      rw [commitSection_routes htaken, if_pos hid] at hcommitted
      obtain rfl := Option.some.inj hcommitted
      have hkept := dispatchabilityReason_congr (s := w.state) (t := evict draft.kind w.state)
        rfl rfl rfl
      exact reading_of_accepted ((hkept _ _).symm.trans (staleDecisionIfNotDispatchable_current
        hcurrent)) hbinds
  | _ => exact hcommits.elim

/-- A revalidation that comes to an accepted result has noticed every change of the evidence the
winner's verdict consulted, exactly when the evidence it overlooks is what it was at the commit and
the evidence it compares was then what the authority binds. -/
theorem revalidate_notices_iff {op : Op} (hop : requestOf op = some raw) {reply : Reply}
    (h : Executes E R (op.program options) s es reply t) (he : e ∈ es) (hcommits : replaces id e)
    (hcommitted : (after e).state.routes.find? id = some committed) {u v : World}
    (hrecord : u.state.routes.find? id = some record) (hsame : frozen record = frozen committed)
    {env : Env} {callerTenant : TenantId} {callerNamespace : NamespaceId} {ds : Trace}
    {result : MutationResult}
    (hrevalidated :
      Executes (· = env) Eq (revalidate id callerTenant callerNamespace) u ds result v) :
    let a := committed.decision.authority
    let consulted := Consults options raw committed.decision.explanation.policy
    (result.code = .accepted →
        ∀ k, consulted k → reading u.state a k = reading e.pre.state a k) ↔
      (Passes u.state record callerTenant callerNamespace env.now → ∀ k, consulted k →
        (Overlooks a k → reading u.state a k = reading e.pre.state a k) ∧
          ∀ generation, binds a k = some generation →
            reading e.pre.state a k = some generation) := by
  intro a consulted
  have hauthority : record.decision.authority = a := congrArg (fun r => r.decision.authority) hsame
  have hnow (hpasses : Passes u.state record callerTenant callerNamespace env.now) {k : EvidenceKind}
      {generation : UInt64} (hbinds : binds a k = some generation) :
      reading u.state a k = some generation := by
    have haccepted := hpasses.authority
    rw [hauthority] at haccepted
    exact reading_of_accepted haccepted hbinds
  rw [revalidate_accepted_iff hrecord hrevalidated]
  constructor
  · intro hnotices hpasses k hk
    refine ⟨fun _ => hnotices hpasses k hk, fun generation hbinds => ?_⟩
    rw [← hnotices hpasses k hk]
    exact hnow hpasses hbinds
  · intro hkeeps hpasses k hk
    obtain ⟨hoverlooked, hbound⟩ := hkeeps hpasses k hk
    cases hbinds : binds a k with
    | some generation => rw [hnow hpasses hbinds, hbound generation hbinds]
    | none =>
        obtain ⟨draft, hact, hf⟩ := replaced_record hcommits hcommitted
        have hgoverning := program_drafts bindsGoverning_drafted hop h e he draft hact
        obtain ⟨hnamed, -, -, -, -, hpolicy, -⟩ :=
          boundDecision_parts (evict draft.kind e.pre.state) draft id
        have ha : a = nameDecision draft.decision.authority id :=
          (congrArg (fun r => r.decision.authority) hf).trans hnamed
        have hp : committed.decision.explanation.policy = draft.decision.explanation.policy :=
          (congrArg (fun r => r.decision.explanation.policy) hf).trans hpolicy
        refine hoverlooked (not_overlooked hbinds ?_ ?_)
        · rintro rfl
          rw [ha]
          exact hgoverning.budget hk
        · rintro rfl
          rw [ha]
          exact hgoverning.slo hk

section

def compatibility (generation : CompatibilityGeneration) (verdict : CompatibilityVerdict) :
    CompatibilityEvidence where
  generation := generation
  backendId := ⟨7⟩
  verdict := verdict

def compatibleCatalog : List Op :=
  liveCatalog ++ [.mutation (.setCompatibility (compatibility ⟨1⟩ .compatible))]

def carefulRequest : RouteRequest :=
  { sampleRequest with
    requirements := { sampleRequest.requirements with requireKnownCompatibility := true } }

def carefullyRouted : Trace × Reply × World :=
  Program.run Act.apply sampleEnv [] (Op.program sampleOptions (.route carefulRequest))
    (play sampleOptions sampleEnv compatibleCatalog).2.2

theorem carefullyRouted_executes : Executes (· = sampleEnv) Eq
    (Op.program sampleOptions (.route carefulRequest))
      (play sampleOptions sampleEnv compatibleCatalog).2.2 carefullyRouted.1 carefullyRouted.2.1
        carefullyRouted.2.2 :=
  Program.run_exec Act.apply sampleEnv _ _ (fun _ => rfl) (by simp)

def incompatible : List Op :=
  [.mutation (.setCompatibility (compatibility ⟨2⟩ .incompatible))]

def turned : Trace × List (Op × Reply) × World :=
  Session.run (Op.program sampleOptions) Act.apply sampleEnv incompatible carefullyRouted.2.2

def revalidated : Trace × MutationResult × World :=
  Program.run Act.apply sampleEnv [] (revalidate ⟨101⟩ {} {}) turned.2.2

theorem revalidated_executes : Executes (· = sampleEnv) Eq (revalidate ⟨101⟩ {} {}) turned.2.2
    revalidated.1 revalidated.2.1 revalidated.2.2 :=
  Program.run_exec Act.apply sampleEnv _ _ (fun _ => rfl) (by simp)

theorem turned_chained : Chained Act.apply carefullyRouted.2.2 turned.1 turned.2.2 := by
  have hE (es : Trace) : constantly sampleEnv es sampleEnv := rfl
  exact (Session.run_session hE incompatible _).chained

def mutating (e : Event World Act) : Bool :=
  match e.act with
  | .mutate _ _ => true
  | _ => false

/-- A decision that the last section of a call commits is retained with its content while only
evidence changes. -/
theorem commit_kept {ds : Trace} {u : World} {id : RouteDecisionId}
    {p : Event World Act → RouteRecord → Bool} (hfirst : Chained Act.apply s es t)
    (hlater : Chained Act.apply t ds u) (hmutates : ds.all mutating = true)
    (hlast : (es.getLast?.any fun e => leavesNew id e &&
      ((after e).state.routes.find? id).any (p e)) = true)
    (hretained : u.state.routes.contains id = true) :
    ∃ e ∈ es, ∃ committed record, replaces id e ∧
      (after e).state.routes.find? id = some committed ∧ u.state.routes.find? id = some record ∧
      frozen record = frozen committed ∧ p e committed = true := by
  obtain ⟨e, he, hleaves⟩ := (Option.any_eq_true _ _).mp hlast
  rw [Bool.and_eq_true] at hleaves
  obtain ⟨committed, hcommitted, hp⟩ := (Option.any_eq_true _ _).mp hleaves.2
  rw [← List.dropLast_append_getLast? e he] at hfirst
  have hafter : t = after e := (Chained.snoc_iff.mp hfirst).2
  obtain ⟨record, hrecord⟩ := OrderedMap.contains_iff.mp hretained
  have hkeeps : ∀ e ∈ ds, ¬replaces id e ∧ ¬restores e := by
    rintro ⟨k, w⟩ hmem
    have hmutate := List.all_eq_true.mp hmutates _ hmem
    cases k with
    | mutate m now => exact ⟨not_false, fun hrestores => Bool.false_ne_true hrestores.1⟩
    | _ => cases hmutate
  obtain ⟨earlier, hearlier, hf⟩ := frozen_kept hlater hkeeps hrecord
  rw [hafter, hcommitted] at hearlier
  obtain rfl := Option.some.inj hearlier
  exact ⟨e, List.mem_of_getLast? he, committed, record, (replaces_of_leavesNew hleaves.1).1,
    hcommitted, hrecord, hf, hp⟩

theorem carefullyRouted_commits :
    ∃ e ∈ carefullyRouted.1, ∃ committed record, replaces ⟨101⟩ e ∧
      (after e).state.routes.find? ⟨101⟩ = some committed ∧
      turned.2.2.state.routes.find? ⟨101⟩ = some record ∧ frozen record = frozen committed ∧
      committed.decision.status = .current ∧
      reading turned.2.2.state committed.decision.authority .compatibility ≠
        reading e.pre.state committed.decision.authority .compatibility := by
  have hlast : (carefullyRouted.1.getLast?.any fun e => leavesNew ⟨101⟩ e &&
      ((after e).state.routes.find? ⟨101⟩).any fun committed =>
        committed.decision.status == .current &&
          reading turned.2.2.state committed.decision.authority .compatibility !=
            reading e.pre.state committed.decision.authority .compatibility) = true := by
    decide +kernel
  obtain ⟨e, he, committed, record, hcommits, hcommitted, hrecord, hsame, hdiffers⟩ :=
    commit_kept carefullyRouted_executes.chained turned_chained (by decide +kernel) hlast
      (by decide +kernel)
  rw [Bool.and_eq_true, beq_iff_eq, bne_iff_ne] at hdiffers
  exact ⟨e, he, committed, record, hcommits, hcommitted, hrecord, hsame, hdiffers⟩

theorem carefullyRouted_notices_iff :
    ∃ (e : Event World Act) (committed record : RouteRecord), replaces ⟨101⟩ e ∧
      ((revalidated.2.1.code = .accepted →
          ∀ k, Consults sampleOptions carefulRequest committed.decision.explanation.policy k →
            reading turned.2.2.state committed.decision.authority k =
              reading e.pre.state committed.decision.authority k) ↔
        (Passes turned.2.2.state record {} {} 100 →
          ∀ k, Consults sampleOptions carefulRequest committed.decision.explanation.policy k →
            (Overlooks committed.decision.authority k →
              reading turned.2.2.state committed.decision.authority k =
                reading e.pre.state committed.decision.authority k) ∧
            ∀ generation, binds committed.decision.authority k = some generation →
              reading e.pre.state committed.decision.authority k = some generation)) := by
  obtain ⟨e, he, committed, record, hcommits, hcommitted, hrecord, hsame, -⟩ :=
    carefullyRouted_commits
  exact ⟨e, committed, record, hcommits, revalidate_notices_iff rfl carefullyRouted_executes he
    hcommits hcommitted hrecord hsame revalidated_executes⟩

/-- A revalidation is accepted after the compatibility of the winner was withdrawn. -/
theorem revalidate_misses_compatibility :
    ¬∀ (options : ModelRouterOptions) (raw : RouteRequest) (op : Op) (env : Env) (highest : UInt64)
        (before es later ds : Trace) (calls calls' : List (Op × Reply)) (s t u v : World)
        (reply : Reply) (e : Event World Act) (id : RouteDecisionId) (committed record : RouteRecord)
        (callerTenant : TenantId) (callerNamespace : NamespaceId) (result : MutationResult),
      requestOf op = some raw → History options (constantly env) highest before calls s →
      Executes (· = env) Eq (op.program options) s es reply t → e ∈ es → replaces id e →
      (after e).state.routes.find? id = some committed → committed.decision.status = .current →
      Session (Op.program options) Act.apply (constantly env) t later calls' u →
      (∀ call ∈ calls', call.2.accepted = true) → u.state.routes.find? id = some record →
      frozen record = frozen committed →
      Executes (· = env) Eq (revalidate id callerTenant callerNamespace) u ds result v →
      result.code = .accepted →
      ∀ k, Consults options raw committed.decision.explanation.policy k →
        reading u.state committed.decision.authority k =
          reading e.pre.state committed.decision.authority k := by
  intro h
  obtain ⟨e, he, committed, record, hcommits, hcommitted, hrecord, hsame, hcurrent, hdiffers⟩ :=
    carefullyRouted_commits
  have hE (es : Trace) : constantly sampleEnv es sampleEnv := rfl
  have haccepted : ∀ call ∈ turned.2.1, call.2.accepted = true := by decide +kernel
  have hpasses : revalidated.2.1.code = .accepted := by decide +kernel
  exact hdiffers (h sampleOptions carefulRequest (.route carefulRequest) sampleEnv 100 _ _ _ _ _ _
    _ _ _ _ _ e ⟨101⟩ committed record {} {} revalidated.2.1 rfl
    (play_history sampleOptions sampleEnv compatibleCatalog) carefullyRouted_executes he hcommits
    hcommitted hcurrent (Session.run_session hE incompatible _) haccepted hrecord hsame
    revalidated_executes hpasses .compatibility rfl)

end

end

end ModelRouter.Consulted
