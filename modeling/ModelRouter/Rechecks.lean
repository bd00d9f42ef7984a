import ModelRouter.Consulted
import ModelRouter.Tightening

namespace ModelRouter.Rechecks

open Base Base.Program Base.Refusal Bytes Ids Outcome Capability Evidence Catalog Candidate Authority
open Request Policy Eligibility Decision State Commit Handoff Providers Section Pass Route Dispatch
open Reroute Router Effects Run Records Repertoire Revalidation Coherence Courses Verdicts Tightening
open Consulted

/-- What a request becomes when it is taken up, as far as eligibility goes. -/
def asked (raw : RouteRequest) : RouteRequest :=
  { raw with requirements := raw.requirements.canonicalize }

/-- What a dispatch of a retained decision looks at in such a state when it judges a candidate
again. -/
def rereadInput (options : ModelRouterOptions) (e : Env) (s : CanonicalState) (stored : RouteRecord)
    (candidate : RouteCandidate) : EligibilityInput :=
  let snapshot := Snapshot.capture s stored.tenant stored.nameSpace e.now
  (dispatchFrame (rebuiltRequest stored) snapshot).input candidate
    (resolveCandidate options.providers e.adapters (rebuiltRequest stored) snapshot.context
      snapshot.evidence candidate)

/-- The same evidence under another request. -/
def underRequest (request : RouteRequest) (input : EligibilityInput) : EligibilityInput :=
  { input with request := request }

/-- What a request asks of a candidate beyond what a request without requirements of its own asks. -/
structure Meets (request : RouteRequest) (input : EligibilityInput) : Prop where
  residency : checkResidency request.requirements.requireResident input.candidate input.now = none
  capacity : checkCapacity request.requirements.requireCapacity input.candidate input.now = none
  reservation : checkReservation request.requirements.requireReservation input.candidate
    input.evidence input.now = none
  capabilities : checkCapabilities request input.candidate input.now = none
  modalities : checkModalities request input.candidate = none
  shape : checkShape request input.candidate input.evidence input.now = none
  limits : checkLimits request.requirements input.candidate = none
  filters : checkFilters request.requirements input.candidate = none
  placement : checkPlacement request.requirements input.candidate = none
  cost : checkCost request.requirements input.evidence.cost input.now = none
  slo : checkSlo request input.evidence input.now = none
  latency : checkLatency request.requirements input.candidate.backend.latency input.now = none
  compatibility : request.requirements.requireKnownCompatibility = true →
    input.evidence.compatibility.current input.now = true

def BindsBudget (raw : RouteRequest) (authority : RouteAuthority) : Prop :=
  (authority.budgetId, authority.budgetGeneration) =
    if raw.budgetId.valid then (raw.budgetId, raw.budgetGeneration) else ({}, {})

section

variable {options : ModelRouterOptions} {raw request : RouteRequest} {E : Env → Prop}

theorem course_budget {met : World → Prop} {c : Course} (h : Taken E options raw met c) :
    BindsBudget raw c.draft.decision.authority := by
  have hrequest := h.request
  rw [Stamped] at hrequest
  have hid : c.request.budgetId = raw.budgetId := by rw [hrequest]
  have hgeneration : c.request.budgetGeneration = raw.budgetGeneration := by rw [hrequest]
  have hdescribed : c.described.budgetId = {} ∧ c.described.budgetGeneration = {} := by
    rw [Course.described]
    split
    · exact ⟨rfl, rfl⟩
    · exact ⟨rfl, rfl⟩
  have hbudget := h.budget
  change ((if c.request.budgetId.valid then c.request.budgetId else c.described.budgetId),
    if c.request.budgetId.valid then c.governing.budget.generation
      else c.described.budgetGeneration) = _
  rw [hdescribed.1, hdescribed.2, ← hid, ← hgeneration]
  split
  · rename_i hnamed
    rw [if_pos hnamed, budgetRefusal] at hbudget
    simp only [chain_eq_none, stopIf_eq_none, bne_eq_false_iff_eq] at hbudget
    rw [hbudget.1.2.1]
  · rfl

theorem fallback_budget {snapshot : Snapshot} {governing : Governing} {candidate : RouteCandidate}
    {evidence : CandidateEvidence} (hwalks : Walks options raw request snapshot governing)
    {frame : Frame} (hframe : frame.request = request ∧ frame.budget = governing.budget)
    {assessment : Assessment} (hassess : assess frame candidate evidence = .ok assessment)
    (planned : List CandidateKey) (permitted : UInt32) (routerId : RouterId) :
    BindsBudget raw
      (draftFallback request snapshot governing assessment
        (bindFallback snapshot.context routerId request assessment.candidate evidence
          governing.policy governing.budget governing.slo) planned permitted).decision.authority := by
  have hrequest := hwalks.request
  rw [Stamped] at hrequest
  have hid : request.budgetId = raw.budgetId := by rw [hrequest]
  have hgeneration : request.budgetGeneration = raw.budgetGeneration := by rw [hrequest]
  obtain ⟨-, hnone⟩ := assess_ok hassess
  simp only [firstFailure, chain_eq_none, Frame.input, hframe.1, hframe.2] at hnone
  obtain ⟨-, -, -, -, -, -, -, -, -, -, -, -, -, -, -, hbudget, -⟩ := hnone
  change ((if request.budgetId.valid then request.budgetId else {}),
    if request.budgetId.valid then governing.budget.generation else {}) = _
  rw [← hid, ← hgeneration]
  split
  · rename_i hnamed
    simp only [checkBudget, chain_eq_none, fail_eq_none, hnamed, Bool.true_and,
      bne_eq_false_iff_eq] at hbudget
    rw [hbudget.2.2.2.1]
  · rfl

theorem bindsBudget_drafted :
    Drafted E options fun raw draft => BindsBudget raw draft.decision.authority where
  course htaken := course_budget htaken
  fallback hwalks _ hframe hassess := fallback_budget hwalks hframe hassess
  stamped hstamped hbinds := by
    rw [Stamped] at hstamped
    rw [hstamped] at hbinds
    exact hbinds

theorem checkBudget_rebuilt {stored : RouteRecord} (h : BindsBudget raw stored.decision.authority)
    (budget : BudgetSnapshot) (now : UnixMillis) :
    checkBudget (rebuiltRequest stored) budget now = checkBudget (asked raw) budget now := by
  have hid : (rebuiltRequest stored).budgetId = stored.decision.authority.budgetId := rfl
  have hgeneration :
      (rebuiltRequest stored).budgetGeneration = stored.decision.authority.budgetGeneration := rfl
  have hasked : (asked raw).budgetId = raw.budgetId ∧
      (asked raw).budgetGeneration = raw.budgetGeneration := ⟨rfl, rfl⟩
  rw [BindsBudget] at h
  split at h
  · obtain ⟨hboundId, hbound⟩ := Prod.mk.inj h
    simp only [checkBudget, hid, hgeneration, hasked, hboundId, hbound]
  · rename_i hunnamed
    obtain ⟨hboundId, -⟩ := Prod.mk.inj h
    rw [Bool.not_eq_true] at hunnamed
    have hnone : (({} : BudgetId)).valid = false := rfl
    simp only [checkBudget, hid, hasked, hboundId, hunnamed, hnone, Bool.false_and]

theorem eligible_under_iff {stored : RouteRecord} {input : EligibilityInput}
    (hbinds : BindsBudget raw stored.decision.authority) (hrequest : input.request = rebuiltRequest stored)
    (hpassed : firstFailure input = none) :
    (evaluateHardEligibility (underRequest (asked raw) input)).eligible = true ↔
      Meets (asked raw) input := by
  rw [eligible_iff]
  simp only [firstFailure, chain_eq_none, hrequest] at hpassed
  obtain ⟨hmodel, hincarnation, havailable, hhealthy, hready, -, -, -, -, -, -, -, -, -, hpolicy,
    hbudget, -, -, -, hcompatible⟩ := hpassed
  rw [checkBudget_rebuilt hbinds] at hbudget
  have hcompatibility : checkCompatibility (asked raw).requirements input.evidence input.now = none ↔
      ((asked raw).requirements.requireKnownCompatibility = true →
        input.evidence.compatibility.current input.now = true) := by
    simp only [checkCompatibility, chain_eq_none, fail_eq_none] at hcompatible ⊢
    have hempty : (rebuiltRequest stored).requirements.requiredProtocol.isEmpty = true := rfl
    rw [hempty, Bool.true_and] at hcompatible
    rw [Bool.and_assoc, hcompatible.2, Bool.and_false]
    simp
  simp only [firstFailure, chain_eq_none, underRequest]
  constructor
  · rintro ⟨-, -, -, -, -, hresidency, hcapacity, hreservation, hcapabilities, hmodalities, hshape,
      hlimits, hfilters, hplacement, -, -, hcost, hslo, hlatency, hknown⟩
    exact ⟨hresidency, hcapacity, hreservation, hcapabilities, hmodalities, hshape, hlimits,
      hfilters, hplacement, hcost, hslo, hlatency, hcompatibility.mp hknown⟩
  · intro h
    have hon {required : Bool} (_ : required = true) : true = true := rfl
    exact ⟨hmodel, hincarnation, checkLive_laxer hon _ _ _ _ _ _ _ _ _ havailable,
      checkLive_laxer hon _ _ _ _ _ _ _ _ _ hhealthy, checkLive_laxer hon _ _ _ _ _ _ _ _ _ hready,
      h.residency, h.capacity, h.reservation, h.capabilities, h.modalities, h.shape, h.limits,
      h.filters, h.placement, hpolicy, hbudget, h.cost, h.slo, h.latency,
      hcompatibility.mpr h.compatibility⟩

end

section

variable {options : ModelRouterOptions} {env : Env} {u v : World} {id : RouteDecisionId}
variable {stored : RouteRecord} {result : DispatchRecord} {ds : Trace}

/-- What a dispatch that answers `DISPATCHED` found when it judged the target again. -/
structure Reread (options : ModelRouterOptions) (env : Env) (s : CanonicalState)
    (stored : RouteRecord) (candidate : RouteCandidate) : Prop where
  found : catalogCandidate s stored.plan.primary.modelId stored.plan.primary.backendId =
    some candidate
  planned : candidate.key = stored.plan.primary
  passed : firstFailure (rereadInput options env s stored candidate) = none

theorem reread_of_editRoute {s : CanonicalState} {edit : RouteRecord → RouteRecord}
    {candidate : RouteCandidate} (h : Reread options env (editRoute s id edit) stored candidate) :
    Reread options env s stored candidate := by
  rw [editRoute] at h
  split at h
  · exact h
  · exact ⟨h.found, h.planned, h.passed⟩

theorem ineligible_rejects {input : EligibilityInput}
    (h : ¬(evaluateHardEligibility input).eligible = true) :
    (evaluateHardEligibility input).code.isAcceptance = false := by
  rw [eligible_iff] at h
  cases hfails : firstFailure input with
  | none => exact absurd hfails h
  | some verdict =>
      rw [evaluateHardEligibility, hfails]
      exact firstFailure_rejects input verdict hfails

theorem reevaluate_rereads {base : DispatchRecord}
    (h : Executes (· = env) Eq (reevaluate options id stored base) u ds result v)
    (hcode : result.code = .dispatched) :
    ∃ candidate, Reread options env u.state stored candidate := by
  obtain ⟨e, rfl, hasked⟩ := executes_ask.mp h
  obtain ⟨w, ds', rfl, rfl, hfirst⟩ := executes_perform.mp hasked
  obtain ⟨x, ds'', rfl, rfl, hsecond⟩ := executes_perform.mp hfirst
  have hseen : (Act.observe.apply u).state = u.state := rfl
  simp only [hseen] at hsecond
  split at hsecond
  · obtain ⟨-, rfl, -⟩ := executes_done.mp hsecond
    cases hcode
  · rename_i candidate hcandidate
    split at hsecond
    · obtain ⟨-, rfl, -⟩ := executes_done.mp hsecond
      cases hcode
    · rename_i hplanned
      obtain ⟨answer, rfl, hresolved⟩ := executes_ask.mp hsecond
      obtain ⟨late, -, hlate⟩ := executes_ask.mp hresolved
      refine ⟨candidate, hcandidate, not_not.mp hplanned, ?_⟩
      rw [← eligible_iff]
      by_contra hineligible
      have hrejects := ineligible_rejects hineligible
      simp only [rereadInput] at hineligible hrejects
      rw [if_pos (by simpa using hineligible)] at hlate
      obtain ⟨-, rfl, -⟩ := executes_done.mp hlate
      dsimp only at hcode
      rw [hcode] at hrejects
      cases hrejects

theorem dispatch_rereads {callerTenant : TenantId} {callerNamespace : NamespaceId}
    (h : Executes (· = env) Eq (dispatch options id callerTenant callerNamespace) u ds result v)
    (hstored : u.state.routes.find? id = some stored) (hcode : result.code = .dispatched) :
    ∃ candidate, Reread options env u.state stored candidate := by
  obtain ⟨w, ds', rfl, rfl, hfound⟩ := executes_perform.mp h
  split at hfound
  · obtain ⟨-, rfl, -⟩ := executes_done.mp hfound
    cases hcode
  · rw [hstored] at hfound
    dsimp only at hfound
    cases hrefusal : callerRefusal stored.tenant callerTenant stored.nameSpace callerNamespace with
    | some reason =>
        rw [hrefusal] at hfound
        obtain ⟨-, rfl, -⟩ := executes_done.mp hfound
        cases (callerRefusal_rejects hrefusal).symm.trans hcode
    | none =>
        rw [hrefusal] at hfound
        obtain ⟨revalidated, x, es₁, es₂, rfl, hrevalidated, hrest⟩ := executes_bind.mp hfound
        by_cases haccepts : revalidated.accepted = true
        · rw [haccepts, Bool.not_true, if_neg Bool.false_ne_true] at hrest
          obtain ⟨record, e, observed, -, -, -, -, rfl⟩ :=
            (revalidate_ending hrevalidated).accepted haccepts
          obtain ⟨candidate, hreread⟩ := reevaluate_rereads hrest hcode
          exact ⟨candidate, reread_of_editRoute hreread⟩
        · rw [Bool.not_eq_true] at haccepts
          rw [haccepts, Bool.not_false, if_pos rfl] at hrest
          obtain ⟨e, -, hasked⟩ := executes_ask.mp hrest
          obtain ⟨-, rfl, -⟩ := executes_done.mp hasked
          dsimp only at hcode
          rw [MutationResult.accepted, hcode] at haccepts
          cases haccepts

end

section

variable {E : Env → Prop} {R : World → World → Prop} {options : ModelRouterOptions}
variable {raw : RouteRequest} {s t u v : World} {es ds : Trace} {e : Event World Act}
variable {id : RouteDecisionId} {committed record : RouteRecord}

theorem committed_budget {op : Op} (hop : requestOf op = some raw) {reply : Reply}
    (h : Executes E R (op.program options) s es reply t) (he : e ∈ es) (hcommits : replaces id e)
    (hcommitted : (after e).state.routes.find? id = some committed) :
    BindsBudget raw committed.decision.authority := by
  obtain ⟨draft, hact, hf⟩ := replaced_record hcommits hcommitted
  have hbinds := program_drafts bindsBudget_drafted hop h e he draft hact
  obtain ⟨hnamed, -⟩ := boundDecision_parts (evict draft.kind e.pre.state) draft id
  have hauthority : committed.decision.authority = nameDecision draft.decision.authority id :=
    (congrArg (fun r => r.decision.authority) hf).trans hnamed
  rw [hauthority]
  exact hbinds

/-- The target of a dispatch that answers `DISPATCHED` passes, as it was read again, under the
request the decision was routed for, exactly when it meets what the rebuilt request leaves out. -/
theorem dispatched_eligible_iff {op : Op} (hop : requestOf op = some raw) {reply : Reply}
    (h : Executes E R (op.program options) s es reply t) (he : e ∈ es) (hcommits : replaces id e)
    (hcommitted : (after e).state.routes.find? id = some committed)
    (hrecord : u.state.routes.find? id = some record) (hsame : frozen record = frozen committed)
    {env : Env} {callerTenant : TenantId} {callerNamespace : NamespaceId} {result : DispatchRecord}
    (hdispatched :
      Executes (· = env) Eq (dispatch options id callerTenant callerNamespace) u ds result v)
    (hcode : result.code = .dispatched) :
    ∃ candidate, catalogCandidate u.state record.plan.primary.modelId
        record.plan.primary.backendId = some candidate ∧ candidate.key = record.plan.primary ∧
      ((evaluateHardEligibility
          (underRequest (asked raw) (rereadInput options env u.state record candidate))).eligible =
            true ↔
        Meets (asked raw) (rereadInput options env u.state record candidate)) := by
  have hbinds := committed_budget hop h he hcommits hcommitted
  have hauthority : record.decision.authority = committed.decision.authority :=
    congrArg (fun r => r.decision.authority) hsame
  rw [← hauthority] at hbinds
  obtain ⟨candidate, hreread⟩ := dispatch_rereads hdispatched hrecord hcode
  exact ⟨candidate, hreread.found, hreread.planned, eligible_under_iff hbinds rfl hreread.passed⟩

section

def latency (micros : UInt32) : LatencyEvidence where
  backendId := ⟨7⟩
  backendBoot := ⟨1⟩
  healthGeneration := ⟨1⟩
  dispatchMicros := micros

def quickCatalog : List Op :=
  liveCatalog ++ [.mutation (.updateLatency (latency 5))]

def quickRequest : RouteRequest :=
  { sampleRequest with
    requirements := { sampleRequest.requirements with maxLatencyMicros := 10 } }

def quicklyRouted : Trace × Reply × World :=
  Program.run Act.apply dispatchingEnv [] (Op.program dispatchingOptions (.route quickRequest))
    (play dispatchingOptions dispatchingEnv quickCatalog).2.2

theorem quicklyRouted_executes : Executes (· = dispatchingEnv) Eq
    (Op.program dispatchingOptions (.route quickRequest))
      (play dispatchingOptions dispatchingEnv quickCatalog).2.2 quicklyRouted.1 quicklyRouted.2.1
        quicklyRouted.2.2 :=
  Program.run_exec Act.apply dispatchingEnv _ _ (fun _ => rfl) (by simp)

/-- Another latency is observed after the commit. -/
def observed (micros : UInt32) : Trace × List (Op × Reply) × World :=
  Session.run (Op.program dispatchingOptions) Act.apply dispatchingEnv
    [.mutation (.updateLatency (latency micros))] quicklyRouted.2.2

def dispatched (micros : UInt32) : Trace × DispatchRecord × World :=
  Program.run Act.apply dispatchingEnv [] (dispatch dispatchingOptions ⟨101⟩ {} {})
    (observed micros).2.2

theorem dispatched_executes (micros : UInt32) : Executes (· = dispatchingEnv) Eq
    (dispatch dispatchingOptions ⟨101⟩ {} {}) (observed micros).2.2 (dispatched micros).1
      (dispatched micros).2.1 (dispatched micros).2.2 :=
  Program.run_exec Act.apply dispatchingEnv _ _ (fun _ => rfl) (by simp)

theorem observed_session (micros : UInt32) :
    Session (Op.program dispatchingOptions) Act.apply (constantly dispatchingEnv) quicklyRouted.2.2
      (observed micros).1 (observed micros).2.1 (observed micros).2.2 := by
  have hE (es : Trace) : constantly dispatchingEnv es dispatchingEnv := rfl
  exact Session.run_session hE _ _

theorem quicklyRouted_kept {micros : UInt32}
    (hmutates : (observed micros).1.all mutating = true)
    (hretained : (observed micros).2.2.state.routes.contains ⟨101⟩ = true) :
    ∃ e ∈ quicklyRouted.1, ∃ committed record, replaces ⟨101⟩ e ∧
      (after e).state.routes.find? ⟨101⟩ = some committed ∧
      (observed micros).2.2.state.routes.find? ⟨101⟩ = some record ∧
      frozen record = frozen committed := by
  have hlast : (quicklyRouted.1.getLast?.any fun e => leavesNew ⟨101⟩ e &&
      ((after e).state.routes.find? ⟨101⟩).any fun _ => true) = true := by
    decide +kernel
  obtain ⟨e, he, committed, record, hcommits, hcommitted, hrecord, hsame, -⟩ :=
    commit_kept quicklyRouted_executes.chained (observed_session micros).chained hmutates hlast hretained
  exact ⟨e, he, committed, record, hcommits, hcommitted, hrecord, hsame⟩

/-- A latency below the ceiling. -/
theorem quick_eligible_iff :
    ∃ (record : RouteRecord) (candidate : RouteCandidate),
      catalogCandidate (observed 7).2.2.state record.plan.primary.modelId
        record.plan.primary.backendId = some candidate ∧ candidate.key = record.plan.primary ∧
      ((evaluateHardEligibility (underRequest (asked quickRequest) (rereadInput dispatchingOptions
          dispatchingEnv (observed 7).2.2.state record candidate))).eligible = true ↔
        Meets (asked quickRequest) (rereadInput dispatchingOptions dispatchingEnv
          (observed 7).2.2.state record candidate)) := by
  have hmutates : (observed 7).1.all mutating = true := by decide +kernel
  have hretained : (observed 7).2.2.state.routes.contains ⟨101⟩ = true := by decide +kernel
  obtain ⟨e, he, committed, record, hcommits, hcommitted, hrecord, hsame⟩ :=
    quicklyRouted_kept hmutates hretained
  have hcode : (dispatched 7).2.1.code = .dispatched := by decide +kernel
  exact ⟨record, dispatched_eligible_iff rfl quicklyRouted_executes he hcommits hcommitted hrecord
    hsame (dispatched_executes 7) hcode⟩

def tooSlow (u : CanonicalState) (record : RouteRecord) (candidate : RouteCandidate) : Bool :=
  !(evaluateHardEligibility (underRequest (asked quickRequest) (rereadInput dispatchingOptions
    dispatchingEnv u record candidate))).eligible

/-- A dispatch succeeds on a target whose latency has risen above the ceiling of the request. -/
theorem slow_target_dispatched :
    ¬∀ (options : ModelRouterOptions) (raw : RouteRequest) (op : Op) (env : Env) (highest : UInt64)
        (before es later ds : Trace) (calls calls' : List (Op × Reply)) (s t u v : World)
        (reply : Reply) (e : Event World Act) (id : RouteDecisionId) (committed record : RouteRecord)
        (candidate : RouteCandidate) (callerTenant : TenantId) (callerNamespace : NamespaceId)
        (result : DispatchRecord),
      requestOf op = some raw → History options (constantly env) highest before calls s →
      Executes (· = env) Eq (op.program options) s es reply t → e ∈ es → replaces id e →
      (after e).state.routes.find? id = some committed →
      Session (Op.program options) Act.apply (constantly env) t later calls' u →
      u.state.routes.find? id = some record → frozen record = frozen committed →
      Executes (· = env) Eq (dispatch options id callerTenant callerNamespace) u ds result v →
      result.code = .dispatched →
      catalogCandidate u.state record.plan.primary.modelId record.plan.primary.backendId =
        some candidate →
      (evaluateHardEligibility
        (underRequest (asked raw) (rereadInput options env u.state record candidate))).eligible =
          true := by
  intro h
  have hmutates : (observed 50).1.all mutating = true := by decide +kernel
  have hslow : (((observed 50).2.2.state.routes.find? ⟨101⟩).any fun record =>
      (catalogCandidate (observed 50).2.2.state record.plan.primary.modelId
        record.plan.primary.backendId).any
          (tooSlow (observed 50).2.2.state record)) = true := by decide +kernel
  obtain ⟨found, hfound, hany⟩ := (Option.any_eq_true _ _).mp hslow
  obtain ⟨candidate, hcandidate, hrejected⟩ := (Option.any_eq_true _ _).mp hany
  have hretained : (observed 50).2.2.state.routes.contains ⟨101⟩ = true :=
    OrderedMap.contains_iff.mpr ⟨found, hfound⟩
  obtain ⟨e, he, committed, record, hcommits, hcommitted, hrecord, hsame⟩ :=
    quicklyRouted_kept hmutates hretained
  obtain rfl := Option.some.inj (hfound.symm.trans hrecord)
  have hcode : (dispatched 50).2.1.code = .dispatched := by decide +kernel
  have heligible := h dispatchingOptions quickRequest (.route quickRequest) dispatchingEnv 100
    _ _ _ _ _ _ _ _ _ _ _ e ⟨101⟩ committed found candidate {} {} (dispatched 50).2.1 rfl
    (play_history dispatchingOptions dispatchingEnv quickCatalog) quicklyRouted_executes he hcommits
    hcommitted (observed_session 50) hfound hsame (dispatched_executes 50) hcode hcandidate
  rw [tooSlow, heligible] at hrejected
  cases hrejected

end

end

end ModelRouter.Rechecks
