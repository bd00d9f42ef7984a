import ModelRouter.Admission
import ModelRouter.Rechecks
import ModelRouter.Switching

namespace ModelRouter.Ownership

open Base Base.Program Base.Refusal Bytes Ids Outcome Capability Evidence Catalog Candidate
open Authority Request Policy Eligibility Decision State Commit Handoff Providers Section Pass
open Route Dispatch
open Reroute Router Run Transactions Stages Courses Verdicts Dispatchability Revalidation Consulted
open Rerouting Switching Discovery Rechecks Admission

/-- The decision a call is about, and the tenant and the namespace it names. -/
def claimant : Op → Option (RouteDecisionId × TenantId × NamespaceId)
  | .revalidate id callerTenant callerNamespace => some (id, callerTenant, callerNamespace)
  | .dispatch id callerTenant callerNamespace => some (id, callerTenant, callerNamespace)
  | .reroute id _ request => some (id, request.tenant, request.nameSpace)
  | _ => none

/-- A caller that names another tenant than the owner of a decision, or another namespace. -/
def Foreign (stored : RouteRecord) (tenant : TenantId) (nameSpace : NamespaceId) : Prop :=
  (tenant.valid = true ∧ tenant ≠ stored.tenant) ∨
    (nameSpace.valid = true ∧ nameSpace ≠ stored.nameSpace)

section

variable (stored : RouteRecord)

/-- Where the guards see a foreign caller: `reroute` does not look at the namespace, the other two
calls do where the decision has one. -/
def Caught : Op → Prop
  | .revalidate _ tenant _ | .dispatch _ tenant _ =>
    (tenant.valid = true ∧ tenant ≠ stored.tenant) ∨ stored.nameSpace.valid = true
  | .reroute _ _ request => request.tenant ≠ stored.tenant
  | _ => False

/-- A decision that cannot be dispatched, and is marked so already. -/
def Withdrawn (s : CanonicalState) (now : UnixMillis) : Prop :=
  dispatchabilityReason s stored.decision.authority now ≠ .accepted ∧ stored.markStale = stored

/-- A decision that can be dispatched, and is marked so already. -/
def Stands (s : CanonicalState) (now : UnixMillis) : Prop :=
  dispatchabilityReason s stored.decision.authority now = .accepted ∧ markCurrent stored = stored

end

section

variable {env : Env} {E : Env → Prop} {s t u v : World} {es ds : Trace} {id : RouteDecisionId}
variable {stored : RouteRecord} {tenant : TenantId} {nameSpace : NamespaceId}

theorem editRoute_eq_iff {edit : RouteRecord → RouteRecord}
    (hstored : s.state.routes.find? id = some stored) :
    editRoute s.state id edit = s.state ↔ edit stored = stored := by
  rw [editRoute, hstored]
  constructor
  · intro hsame
    have hroutes := congrArg (fun u => u.routes.find? id) hsame
    dsimp only at hroutes
    rw [OrderedMap.find?_insert_self, hstored] at hroutes
    exact Option.some.inj hroutes
  · intro hsame
    dsimp only
    rw [hsame, OrderedMap.insert_of_find? hstored]

section

variable {result : MutationResult}

theorem failStale_answers {failed : MutationResult} (hcode : failed.code.isAcceptance = false)
    (hstored : s.state.routes.find? id = some stored)
    (h : Executes E Eq (failStale id failed) s es result v) :
    result.accepted = false ∧ (Untouched es ↔ stored.markStale = stored) := by
  obtain ⟨w, ds, rfl, rfl, hdone⟩ := executes_perform.mp h
  obtain ⟨rfl, rfl, -⟩ := executes_done.mp hdone
  exact ⟨hcode, untouched_single.trans (editRoute_eq_iff hstored)⟩

/-- What a revalidation comes to that gets past the caller and the status. -/
structure Answers (env : Env) (s : World) (stored : RouteRecord) (es : Trace)
    (result : MutationResult) : Prop where
  accepted : result.accepted = true ↔
    dispatchabilityReason s.state stored.decision.authority env.now = .accepted
  stale : result.accepted = false → (Untouched es ↔ stored.markStale = stored)
  current : result.accepted = true → (Untouched es ↔ markCurrent stored = stored)

theorem checkAuthority_answers (hstored : s.state.routes.find? id = some stored)
    (h : Executes (· = env) Eq (checkAuthority id stored.decision.authority
      (s.state.isFenced stored.decision.authority.backendId stored.decision.authority.backendBoot))
      s es result v) : Answers env s stored es result := by
  have hfails
      (hreason : dispatchabilityReason s.state stored.decision.authority env.now ≠ .accepted)
      (hstale : result.accepted = false ∧ (Untouched es ↔ stored.markStale = stored)) :
      Answers env s stored es result := by
    have hnot : result.accepted ≠ true := by
      rw [hstale.1]
      exact Bool.false_ne_true
    exact ⟨iff_of_false hnot hreason, fun _ => hstale.2, fun haccepted => absurd haccepted hnot⟩
  obtain ⟨e, rfl, hasked⟩ := executes_ask.mp h
  by_cases hexpired : stored.decision.authority.expired e.now = true
  · rw [if_pos hexpired] at hasked
    refine hfails (fun hreason => ?_) (failStale_answers rfl hstored hasked)
    rw [(dispatchabilityReason_accepted.mp hreason).1] at hexpired
    cases hexpired
  rw [if_neg hexpired] at hasked
  by_cases hfenced : s.state.isFenced stored.decision.authority.backendId
      stored.decision.authority.backendBoot = true
  · rw [if_pos hfenced] at hasked
    refine hfails (fun hreason => ?_) (failStale_answers rfl hstored hasked)
    rw [(dispatchabilityReason_accepted.mp hreason).2.1] at hfenced
    cases hfenced
  rw [if_neg hfenced] at hasked
  obtain ⟨x, fs, rfl, rfl, hobserves⟩ := executes_perform.mp hasked
  rw [observe_untouched] at hfails
  cases hobserved : buildCurrentAuthority s.state stored.decision.authority with
  | none =>
      rw [hobserved] at hobserves
      refine hfails (fun hreason => ?_) (failStale_answers rfl hstored hobserves)
      obtain ⟨-, -, model, backend, hmodel, hbackend, -⟩ :=
        dispatchabilityReason_accepted.mp hreason
      simp only [buildCurrentAuthority, hmodel, hbackend, reduceCtorEq] at hobserved
  | some observed =>
      rw [hobserved] at hobserves
      obtain ⟨y, gs, rfl, rfl, hfinishes⟩ := executes_perform.mp hobserves
      obtain ⟨rfl, rfl, -⟩ := executes_done.mp hfinishes
      have hretained : s.state.routes.contains id = true :=
        OrderedMap.contains_iff.mpr ⟨stored, hstored⟩
      have hcode := finishResult_code hretained hobserved e.now
      dsimp only at hcode
      have hmarks := untouched_single (s := s) (k := .finishRevalidate id stored.decision.authority
        (compareAuthority stored.decision.authority observed
          stored.decision.authority.requiredMask).current e.now)
      change _ ↔ finishRevalidate s.state id _ _ e.now = s.state at hmarks
      rw [finishRevalidate] at hmarks
      by_cases hreason :
          dispatchabilityReason s.state stored.decision.authority e.now = .accepted
      · rw [if_pos hreason] at hcode
        rw [if_pos ⟨current_of_reason hobserved hreason, hreason⟩] at hmarks
        have haccepts : MutationResult.accepted _ = true := congrArg OutcomeCode.isAcceptance hcode
        refine ⟨iff_of_true haccepts hreason, fun hrejected => ?_, fun _ => ?_⟩
        · cases hrejected.symm.trans haccepts
        · exact observe_untouched.trans (hmarks.trans (editRoute_eq_iff hstored))
      · rw [if_neg hreason] at hcode
        rw [if_neg fun hboth => hreason hboth.2] at hmarks
        exact hfails hreason ⟨hcode, hmarks.trans (editRoute_eq_iff hstored)⟩

theorem Answers.observed (h : Answers env s stored es result) :
    Answers env s stored (⟨.observe, s⟩ :: es) result :=
  ⟨h.accepted, fun hrejected => observe_untouched.trans (h.stale hrejected),
    fun haccepted => observe_untouched.trans (h.current haccepted)⟩

/-- A decision or a router that no call for it gets past. -/
def Shut (s : CanonicalState) (stored : RouteRecord) : Prop :=
  s.shuttingDown = true ∨ statusRefusal stored.decision.status ≠ none

theorem revalidate_stopped (hstored : s.state.routes.find? id = some stored)
    (hstop : Shut s.state stored ∨
      callerRefusal stored.tenant tenant stored.nameSpace nameSpace ≠ none)
    (h : Executes E Eq (revalidate id tenant nameSpace) s es result v) :
    result.accepted = false ∧ Untouched es := by
  obtain ⟨w, ds, rfl, rfl, hfound⟩ := executes_perform.mp h
  rw [observe_untouched]
  by_cases hclosing : s.state.shuttingDown = true
  · rw [if_pos hclosing] at hfound
    obtain ⟨rfl, rfl, -⟩ := executes_done.mp hfound
    exact ⟨rfl, untouched_nil⟩
  rw [if_neg hclosing, hstored] at hfound
  dsimp only at hfound
  cases hrefusal : (callerRefusal stored.tenant tenant stored.nameSpace nameSpace <|>
      statusRefusal stored.decision.status) with
  | none =>
      obtain ⟨hcaller, hstatus⟩ := chain_eq_none.mp hrefusal
      exact absurd hstop (not_or.mpr ⟨not_or.mpr ⟨hclosing, not_not.mpr hstatus⟩,
        not_not.mpr hcaller⟩)
  | some reason =>
      rw [hrefusal] at hfound
      obtain ⟨rfl, rfl, -⟩ := executes_done.mp hfound
      refine ⟨?_, untouched_nil⟩
      rcases chain_eq_some.mp hrefusal with hcaller | ⟨-, hstatus⟩
      · change reason.1.isAcceptance = false
        rw [callerRefusal_rejects hcaller]
        rfl
      · exact statusRefusal_rejects hstatus

theorem revalidate_answers (hstored : s.state.routes.find? id = some stored)
    (hopen : ¬Shut s.state stored)
    (hcaller : callerRefusal stored.tenant tenant stored.nameSpace nameSpace = none)
    (h : Executes (· = env) Eq (revalidate id tenant nameSpace) s es result v) :
    Answers env s stored es result := by
  obtain ⟨hclosing, hstatus⟩ := not_or.mp hopen
  obtain ⟨w, ds, rfl, rfl, hfound⟩ := executes_perform.mp h
  rw [if_neg hclosing, hstored] at hfound
  dsimp only at hfound
  rw [hcaller, not_not.mp hstatus] at hfound
  exact (checkAuthority_answers hstored hfound).observed

theorem revalidate_refused_iff (hstored : s.state.routes.find? id = some stored)
    (hcaller : callerRefusal stored.tenant tenant stored.nameSpace nameSpace = none)
    (h : Executes (· = env) Eq (revalidate id tenant nameSpace) s es result v) :
    result.accepted = false ∧ Untouched es ↔
      Shut s.state stored ∨ Withdrawn stored s.state env.now := by
  by_cases hshut : Shut s.state stored
  · exact iff_of_true (revalidate_stopped hstored (.inl hshut) h) (.inl hshut)
  rw [or_iff_right hshut, Withdrawn]
  have hanswers := revalidate_answers hstored hshut hcaller h
  rw [ne_eq, ← hanswers.accepted, Bool.not_eq_true]
  exact and_congr_right hanswers.stale

end

section

variable {options : ModelRouterOptions} {result : DispatchRecord}

/-- A dispatch that would hand the decision over: its target passes as it is read again, and the
dispatcher takes it. -/
def HandsOver (options : ModelRouterOptions) (env : Env) (s : CanonicalState)
    (stored : RouteRecord) : Prop :=
  options.providers.dispatcher = true ∧ (∃ candidate, Reread options env s stored candidate) ∧
    (env.adapters.handoff stored.decision stored.plan
      (Snapshot.capture s stored.tenant stored.nameSpace env.now).context).code.isAcceptance = true

theorem handedRecord_code (answer : DispatchRecord) (id : RouteDecisionId) (stored : RouteRecord)
    (target : CandidateKey) (now : UnixMillis) :
    (handedRecord answer id stored target now).code.isAcceptance = answer.code.isAcceptance := by
  rw [handedRecord]
  dsimp only
  by_cases hhanded : answer.code = .dispatched ∨ answer.code = .accepted
  · rw [if_pos hhanded]
    rcases hhanded with hcode | hcode
    · rw [hcode]
    · rw [hcode]
      rfl
  · rw [if_neg hhanded]

theorem handOff_refused_iff (hstored : s.state.routes.find? id = some stored)
    {target : CandidateKey}
    (h : Executes (· = env) Eq (handOff id stored
      (Snapshot.capture s.state stored.tenant stored.nameSpace env.now) target) s es result v) :
    result.code.isAcceptance = false ∧ Untouched es ↔
      (env.adapters.handoff stored.decision stored.plan
        (Snapshot.capture s.state stored.tenant stored.nameSpace env.now).context).code.isAcceptance ≠
          true := by
  obtain ⟨e, rfl, hasked⟩ := executes_ask.mp h
  obtain ⟨late, rfl, hlate⟩ := executes_ask.mp hasked
  have hcode := handedRecord_code (late.adapters.handoff stored.decision stored.plan
    (Snapshot.capture s.state stored.tenant stored.nameSpace late.now).context) id stored target
    late.now
  rw [← hcode]
  dsimp only at hlate
  generalize handedRecord _ id stored target late.now = record at hlate ⊢
  by_cases hdispatched : record.code = .dispatched
  · rw [if_neg (not_not.mpr hdispatched)] at hlate
    obtain ⟨w, ds, rfl, rfl, hdone⟩ := executes_perform.mp hlate
    obtain ⟨rfl, rfl, -⟩ := executes_done.mp hdone
    have hretained : s.state.routes.contains id = true :=
      OrderedMap.contains_iff.mpr ⟨stored, hstored⟩
    have hrecorded : (dispatchRecorded s id s.state.routerEpoch s.state.coordinatorEpoch
        record).code = .dispatched := by
      simpa [dispatchRecorded, hretained] using hdispatched
    refine iff_of_false (fun hrefused => ?_) (not_not.mpr (by rw [hdispatched]; rfl))
    have hrejected : (dispatchRecorded s id s.state.routerEpoch s.state.coordinatorEpoch
        record).code.isAcceptance = false := hrefused.1
    rw [hrecorded] at hrejected
    cases hrejected
  · rw [if_pos hdispatched] at hlate
    obtain ⟨rfl, rfl, -⟩ := executes_done.mp hlate
    rw [and_iff_left untouched_nil, ← Bool.not_eq_true]

theorem reevaluate_refused_iff {base : DispatchRecord}
    (hstored : s.state.routes.find? id = some stored)
    (h : Executes (· = env) Eq (reevaluate options id stored base) s es result v) :
    result.code.isAcceptance = false ∧ Untouched es ↔ ¬HandsOver options env s.state stored := by
  obtain ⟨e, rfl, hasked⟩ := executes_ask.mp h
  obtain ⟨w, fs, rfl, rfl, hfirst⟩ := executes_perform.mp hasked
  obtain ⟨x, gs, rfl, rfl, hsecond⟩ := executes_perform.mp hfirst
  rw [observe_untouched, observe_untouched]
  have hstops {record : DispatchRecord} (hcode : record.code.isAcceptance = false)
      (hdone : Executes (· = e) Eq (pure record) (Act.observe.apply s) gs result v)
      (hnot : ¬HandsOver options e s.state stored) :
      result.code.isAcceptance = false ∧ Untouched gs ↔ ¬HandsOver options e s.state stored := by
    obtain ⟨rfl, rfl, -⟩ := executes_done.mp hdone
    exact iff_of_true ⟨hcode, untouched_nil⟩ hnot
  split at hsecond
  · rename_i hmissing
    have hcandidate : catalogCandidate s.state stored.plan.primary.modelId
        stored.plan.primary.backendId = none := hmissing
    refine hstops rfl hsecond ?_
    rintro ⟨-, ⟨candidate, hreread⟩, -⟩
    cases hcandidate.symm.trans hreread.found
  · rename_i candidate hfound
    have hcandidate : catalogCandidate s.state stored.plan.primary.modelId
        stored.plan.primary.backendId = some candidate := hfound
    by_cases hplanned : candidate.key = stored.plan.primary
    · rw [if_neg (not_not.mpr hplanned)] at hsecond
      obtain ⟨answer, rfl, hresolved⟩ := executes_ask.mp hsecond
      obtain ⟨late, rfl, hlate⟩ := executes_ask.mp hresolved
      by_cases heligible :
          (evaluateHardEligibility
            (rereadInput options late s.state stored candidate)).eligible = true
      · have hreread : Reread options late s.state stored candidate :=
          ⟨hcandidate, hplanned, eligible_iff.mp heligible⟩
        simp only [rereadInput] at heligible
        rw [if_neg (by simpa using heligible)] at hlate
        by_cases hdispatcher : options.providers.dispatcher = true
        · rw [if_neg (by simpa using hdispatcher), hplanned] at hlate
          rw [handOff_refused_iff hstored hlate, HandsOver, and_iff_right hdispatcher,
            and_iff_right ⟨candidate, hreread⟩]
        · rw [if_pos (by simpa using hdispatcher)] at hlate
          exact hstops rfl hlate fun hhands => hdispatcher hhands.1
      · have hnot : ¬HandsOver options late s.state stored := by
          rintro ⟨-, ⟨other, hreread⟩, -⟩
          obtain rfl := Option.some.inj (hcandidate.symm.trans hreread.found)
          exact heligible (eligible_iff.mpr hreread.passed)
        have hrejects := ineligible_rejects heligible
        simp only [rereadInput] at heligible hrejects
        rw [if_pos (by simpa using heligible)] at hlate
        exact hstops hrejects hlate hnot
    · rw [if_pos hplanned] at hsecond
      refine hstops rfl hsecond ?_
      rintro ⟨-, ⟨other, hreread⟩, -⟩
      obtain rfl := Option.some.inj (hcandidate.symm.trans hreread.found)
      exact hplanned hreread.planned

theorem dispatch_stopped (hstored : s.state.routes.find? id = some stored)
    (hcaller : callerRefusal stored.tenant tenant stored.nameSpace nameSpace ≠ none)
    (h : Executes E Eq (dispatch options id tenant nameSpace) s es result v) :
    result.code.isAcceptance = false ∧ Untouched es := by
  obtain ⟨w, ds, rfl, rfl, hfound⟩ := executes_perform.mp h
  rw [observe_untouched]
  by_cases hclosing : s.state.shuttingDown = true
  · rw [if_pos hclosing] at hfound
    obtain ⟨rfl, rfl, -⟩ := executes_done.mp hfound
    exact ⟨rfl, untouched_nil⟩
  rw [if_neg hclosing, hstored] at hfound
  dsimp only at hfound
  cases hrefusal : callerRefusal stored.tenant tenant stored.nameSpace nameSpace with
  | none => exact absurd hrefusal hcaller
  | some reason =>
      rw [hrefusal] at hfound
      obtain ⟨rfl, rfl, -⟩ := executes_done.mp hfound
      refine ⟨?_, untouched_nil⟩
      change reason.1.isAcceptance = false
      rw [callerRefusal_rejects hrefusal]
      rfl

theorem dispatch_refused_iff (hstored : s.state.routes.find? id = some stored)
    (hcaller : callerRefusal stored.tenant tenant stored.nameSpace nameSpace = none)
    (h : Executes (· = env) Eq (dispatch options id tenant nameSpace) s es result v) :
    result.code.isAcceptance = false ∧ Untouched es ↔
      Shut s.state stored ∨ Withdrawn stored s.state env.now ∨
        (Stands stored s.state env.now ∧ ¬HandsOver options env s.state stored) := by
  obtain ⟨w, ds, rfl, rfl, hfound⟩ := executes_perform.mp h
  rw [observe_untouched]
  by_cases hclosing : s.state.shuttingDown = true
  · rw [if_pos hclosing] at hfound
    obtain ⟨rfl, rfl, -⟩ := executes_done.mp hfound
    exact iff_of_true ⟨rfl, untouched_nil⟩ (.inl (.inl hclosing))
  rw [if_neg hclosing, hstored] at hfound
  dsimp only at hfound
  rw [hcaller] at hfound
  obtain ⟨revalidated, x, es₁, es₂, rfl, hrevalidated, hrest⟩ := executes_bind.mp hfound
  rw [untouched_append]
  by_cases haccepts : revalidated.accepted = true
  · rw [haccepts, Bool.not_true, if_neg Bool.false_ne_true] at hrest
    have hopen : ¬Shut s.state stored := by
      intro hshut
      have hrejected := (revalidate_stopped hstored (.inl hshut) hrevalidated).1
      cases haccepts.symm.trans hrejected
    have hanswers := revalidate_answers hstored hopen hcaller hrevalidated
    have hreason := hanswers.accepted.mp haccepts
    have hwithdrawn : ¬Withdrawn stored s.state env.now := fun h => h.1 hreason
    rw [or_iff_right hopen, or_iff_right hwithdrawn, Stands, and_iff_right hreason,
      ← hanswers.current haccepts, and_left_comm]
    refine and_congr_right fun hquiet => ?_
    have hstate : x.state = s.state := hquiet.state_eq hrevalidated.chained
    rw [← hstate] at hstored ⊢
    exact reevaluate_refused_iff hstored hrest
  · rw [Bool.not_eq_true] at haccepts
    rw [haccepts, Bool.not_false, if_pos rfl] at hrest
    obtain ⟨e, -, hasked⟩ := executes_ask.mp hrest
    obtain ⟨rfl, rfl, -⟩ := executes_done.mp hasked
    have hrefused := revalidate_refused_iff hstored hcaller hrevalidated
    have hstands : ¬Shut s.state stored → ¬Stands stored s.state env.now := by
      intro hopen hstands
      have hanswers := revalidate_answers hstored hopen hcaller hrevalidated
      cases (hanswers.accepted.mpr hstands.1).symm.trans haccepts
    rw [and_iff_left untouched_nil]
    refine hrefused.trans ⟨fun h => h.imp_right .inl, ?_⟩
    rintro (hshut | hwithdrawn | ⟨hcurrent, -⟩)
    · exact .inl hshut
    · exact .inr hwithdrawn
    · exact .inl (by_contra fun hopen => hstands hopen hcurrent)

end

section

variable {options : ModelRouterOptions} {failure : FailureClass} {raw : RouteRequest}
variable {outcome : RouteOutcome} {q : Inquiry}

def usable (options : ModelRouterOptions) (env : Env) (q : Inquiry) (s : CanonicalState)
    (key : CandidateKey) : Bool :=
  ((catalogCandidate s key.modelId key.backendId).filter (·.key = key)).any fun candidate =>
    (assess (Inquiry.frame q) candidate (resolveCandidate options.providers env.adapters q.request
      q.snapshot.context q.snapshot.evidence candidate)).isOk

/-- What a reroute that runs alone goes by once it has fetched a policy. -/
def inquired (options : ModelRouterOptions) (env : Env) (raw : RouteRequest) (stored : RouteRecord)
    (s : World) : Except Stop Inquiry :=
  let request := named raw s
  let snapshot := Snapshot.capture s.state stored.tenant stored.nameSpace env.now
  match stopIf s.state.shuttingDown .shuttingDown "router is shutting down" <|>
      rerouteRefusal stored request env.now with
  | some reason => .error reason
  | none =>
    (consulted env options.providers.policy snapshot.policy fun adapters =>
      adapters.policy request.policyId request.policyGeneration snapshot.context).map fun fetched =>
        ⟨request, env.now, snapshot, stored, fetched.canonicalize⟩

def rerouteStop (options : ModelRouterOptions) (env : Env) (failure : FailureClass)
    (raw : RouteRequest) (stored : RouteRecord) (s : World) : Option Stop :=
  match inquired options env raw stored s with
  | .error reason => some reason
  | .ok q =>
    governance failure q <|>
    if stored.plan.fallbacks.any (usable options env q s.state) then none
    else passStop env options q.request (arrived raw s)

/-- A state in which a reroute may still commit under what it copied of it. -/
structure Live (q : Inquiry) (s : CanonicalState) : Prop where
  admitting : s.shuttingDown = false
  routerEpoch : s.routerEpoch = q.snapshot.epoch
  coordinatorEpoch : s.coordinatorEpoch = q.snapshot.coordinatorEpoch

theorem commitSingle_touches {candidate : RouteCandidate} {evidence : CandidateEvidence}
    {planned : List CandidateKey} {permitted : UInt32} (hlive : Live q s.state)
    (h : Executes (· = env) Eq (commitSingleCandidate q.request q.snapshot q.governing candidate
      evidence planned permitted) s es outcome t) :
    if (assess (Inquiry.frame q) candidate evidence).isOk then ¬Untouched es
    else outcome.code.isAcceptance = false ∧ t = s ∧ Untouched es := by
  unfold commitSingleCandidate at h
  dsimp only at h
  split at h
  · rename_i rejection hrejected
    have hassess : assess (Inquiry.frame q) candidate evidence = .error rejection := hrejected
    rw [hassess]
    obtain ⟨rfl, rfl, rfl⟩ := executes_done.mp h
    refine ⟨?_, rfl, untouched_nil⟩
    rw [assess] at hassess
    split at hassess
    · cases hassess
    · rename_i hineligible
      rw [← Except.error.inj hassess]
      exact ineligible_rejects hineligible
  · rename_i assessment hassessed
    have hassess : assess (Inquiry.frame q) candidate evidence = .ok assessment := hassessed
    rw [hassess]
    obtain ⟨w, ds, rfl, rfl, hbound⟩ := executes_perform.mp h
    obtain ⟨x, fs, rfl, rfl, -⟩ := executes_perform.mp hbound
    rw [observe_untouched, untouched_cons]
    refine fun hes => creates_touches ⟨rfl, ?_⟩ hes.1
    simp [commitRefusal, draftFallback, hlive.admitting, hlive.routerEpoch,
      hlive.coordinatorEpoch, Act.apply]

theorem executes_fallbacks {keys planned : List CandidateKey} {permitted : UInt32}
    (hlive : Live q s.state) {answer : Option RouteOutcome}
    (h : Executes (· = env) Eq (tryFallbacks options id q.request q.snapshot q.governing planned
      permitted keys) s es answer t) :
    if keys.any (usable options env q s.state) then ¬Untouched es
    else answer = none ∧ t = s ∧ Untouched es := by
  induction keys generalizing es with
  | nil =>
      obtain ⟨rfl, rfl, rfl⟩ := executes_done.mp h
      exact ⟨rfl, rfl, untouched_nil⟩
  | cons key rest ih =>
      obtain ⟨w, ds, rfl, rfl, hwalked⟩ := executes_perform.mp h
      rw [observe_untouched, List.any_cons, usable]
      cases hcandidate : (catalogCandidate s.state key.modelId key.backendId).filter
          (·.key = key) with
      | none =>
          rw [hcandidate] at hwalked
          exact ih hwalked
      | some candidate =>
          rw [hcandidate] at hwalked
          obtain ⟨evidence, v, es₁, es₂, rfl, hresolve, hgoes⟩ := executes_bind.mp hwalked
          obtain ⟨rfl, rfl, e, rfl, rfl⟩ := executes_resolve hresolve
          obtain ⟨result, x, es₃, es₄, rfl, hcommit, hrest⟩ := executes_bind.mp hgoes
          have hsingle := commitSingle_touches hlive hcommit
          rw [Option.any_some, List.nil_append, untouched_append]
          split at hsingle
          · rename_i hok
            rw [hok, Bool.true_or, if_pos rfl]
            exact fun hes => hsingle hes.1
          · rename_i hok
            obtain ⟨hrejects, rfl, hquiet⟩ := hsingle
            rw [Bool.not_eq_true] at hok
            have hcode : result.code ≠ .routed := by
              intro hrouted
              rw [hrouted] at hrejects
              cases hrejects
            rw [if_neg hcode] at hrest
            rw [hok, Bool.false_or, and_iff_right hquiet]
            exact ih hrest

theorem rerouteFresh_answers {request : RouteRequest} {now : UnixMillis}
    (h : Executes (· = env) Eq (rerouteFresh options id request now) s es outcome t) :
    (∀ reason, passStop env options request s = some reason →
        outcome.code = reason.1 ∧ (reason.1.isAcceptance = false → Untouched es)) ∧
      (passStop env options request s = none → ¬Untouched es) := by
  obtain ⟨fresh, u, es₁, es₂, rfl, hroute, hrest⟩ := executes_bind.mp h
  obtain ⟨result, v, es₃, es₄, rfl, hpass, hdone⟩ := executes_bind.mp hroute
  obtain ⟨rfl, rfl, rfl⟩ := executes_done.mp hdone
  obtain ⟨hstops, htouches⟩ := executes_passStop hpass
  rw [List.append_nil, untouched_append]
  refine ⟨fun reason hreason => ?_, fun hnone hes => htouches hnone hes.1⟩
  obtain ⟨rfl, hquiet⟩ := hstops reason hreason
  split at hrest
  · rename_i hrouted
    obtain ⟨w, ds, rfl, rfl, hended⟩ := executes_perform.mp hrest
    obtain ⟨rfl, rfl, -⟩ := executes_done.mp hended
    refine ⟨rfl, fun hrejects => ?_⟩
    have hcode : reason.1 = .routed := hrouted
    rw [hcode] at hrejects
    cases hrejects
  · obtain ⟨rfl, rfl, -⟩ := executes_done.mp hrest
    exact ⟨rfl, fun _ => ⟨hquiet, untouched_nil⟩⟩

theorem executes_inquired {x : Except Stop Inquiry}
    (hstored : s.state.routes.find? id = some stored)
    (h : Executes (· = env) Eq (inquire options id raw) s es x t) :
    x = inquired options env raw stored s ∧ t = arrived raw s ∧ Untouched es := by
  obtain ⟨request, u, es₀, es₁, rfl, hidentify, hasks⟩ := executes_bind.mp h
  have hnaming : Untouched es₀ :=
    untouched_of_acts fun e he => .inr ((executes_identify hidentify).1 e he)
  obtain ⟨rfl, rfl⟩ := executes_named hidentify
  obtain ⟨clock, rfl, hasked⟩ := executes_ask.mp hasks
  obtain ⟨w, es₂, rfl, rfl, hfound⟩ := executes_perform.mp hasked
  rw [arrived_state, hstored] at hfound
  rw [untouched_append, and_iff_right hnaming, observe_untouched, inquired]
  dsimp only at hfound ⊢
  cases hrefusal : (stopIf s.state.shuttingDown .shuttingDown (text "router is shutting down") <|>
      rerouteRefusal stored (named raw s) clock.now) with
  | some reason =>
      rw [hrefusal] at hfound
      obtain ⟨rfl, rfl, rfl⟩ := executes_done.mp hfound
      exact ⟨rfl, rfl, untouched_nil⟩
  | none =>
      rw [hrefusal] at hfound
      obtain ⟨answer, v, es₃, es₄, rfl, hconsult, hlast⟩ := executes_bind.mp hfound
      obtain ⟨rfl, rfl, hanswer⟩ := executes_consulted hconsult
      dsimp only
      rw [← hanswer]
      cases answer with
      | error reason =>
          obtain ⟨rfl, rfl, rfl⟩ := executes_done.mp hlast
          exact ⟨rfl, rfl, untouched_nil⟩
      | ok fetched =>
          obtain ⟨rfl, rfl, rfl⟩ := executes_done.mp hlast
          exact ⟨rfl, rfl, untouched_nil⟩

/-- What a reroute has got past by the time it has fetched a policy. -/
structure Inquired (options : ModelRouterOptions) (env : Env) (raw : RouteRequest)
    (stored : RouteRecord) (s : World) (q : Inquiry) : Prop where
  admitting : s.state.shuttingDown = false
  request : q.request = named raw s
  now : q.now = env.now
  snapshot : q.snapshot = Snapshot.capture s.state stored.tenant stored.nameSpace env.now
  record : q.stored = stored
  accepted : rerouteRefusal stored q.request env.now = none
  policy : ∃ fetched, q.policy = fetched.canonicalize ∧
    consulted env options.providers.policy q.snapshot.policy (fun adapters =>
      adapters.policy q.request.policyId q.request.policyGeneration q.snapshot.context) =
        .ok fetched

theorem inquired_ok (h : inquired options env raw stored s = .ok q) :
    Inquired options env raw stored s q := by
  rw [inquired] at h
  split at h
  · cases h
  · rename_i hrefusal
    obtain ⟨hclosing, hrefused⟩ := chain_eq_none.mp hrefusal
    cases hanswer : consulted env options.providers.policy
        (Snapshot.capture s.state stored.tenant stored.nameSpace env.now).policy fun adapters =>
          adapters.policy (named raw s).policyId (named raw s).policyGeneration
            (Snapshot.capture s.state stored.tenant stored.nameSpace env.now).context with
    | error reason =>
        rw [hanswer] at h
        cases h
    | ok fetched =>
        rw [hanswer] at h
        obtain rfl := Except.ok.inj h
        exact ⟨stopIf_eq_none.mp hclosing, rfl, rfl, rfl, rfl, hrefused, fetched, rfl, hanswer⟩

theorem Inquired.live (h : Inquired options env raw stored s q) : Live q s.state := by
  refine ⟨h.admitting, ?_, ?_⟩
  · rw [h.snapshot]
    rfl
  · rw [h.snapshot]
    rfl

theorem executes_rerouteStop (hstored : s.state.routes.find? id = some stored)
    (h : Executes (· = env) Eq (reroute options id failure raw) s es outcome t) :
    (∀ reason, rerouteStop options env failure raw stored s = some reason →
        outcome.code = reason.1 ∧ (reason.1.isAcceptance = false → Untouched es)) ∧
      (rerouteStop options env failure raw stored s = none → ¬Untouched es) := by
  rw [reroute_eq] at h
  obtain ⟨x, u, es₁, es₂, rfl, hinquire, hresume⟩ := executes_bind.mp h
  obtain ⟨hinquired, rfl, hquiet⟩ := executes_inquired hstored hinquire
  rw [rerouteStop, ← hinquired, untouched_append, and_iff_right hquiet]
  have hstops {reason : Stop} (hdone : Executes (· = env) Eq (pure (rerouteStopped reason))
      (arrived raw s) es₂ outcome t) :
      (∀ other, some reason = some other →
          outcome.code = other.1 ∧ (other.1.isAcceptance = false → Untouched es₂)) ∧
        (some reason = none → ¬Untouched es₂) := by
    obtain ⟨rfl, rfl, -⟩ := executes_done.mp hdone
    refine ⟨fun other hother => ?_, fun hnone => (by cases hnone)⟩
    obtain rfl := Option.some.inj hother
    exact ⟨rfl, fun _ => untouched_nil⟩
  cases x with
  | error reason => exact hstops hresume
  | ok q =>
      have hpast := inquired_ok hinquired.symm
      have hlive := hpast.live
      dsimp only
      change Executes (· = env) Eq (proceed rerouteStopped (guarded (governance failure q) ())
        fun _ => walk options id q) (arrived raw s) es₂ outcome t at hresume
      cases hgoverned : governance failure q with
      | some reason =>
          rw [hgoverned] at hresume
          exact hstops hresume
      | none =>
          rw [hgoverned] at hresume
          obtain ⟨answer, v, es₃, es₄, rfl, hwalked, hrest⟩ := executes_bind.mp hresume
          rw [← arrived_state raw s] at hlive
          have hfallbacks := executes_fallbacks hlive hwalked
          rw [arrived_state, hpast.record] at hfallbacks
          change (∀ reason, (if stored.plan.fallbacks.any (usable options env q s.state) then none
            else passStop env options q.request (arrived raw s)) = some reason → _) ∧ _
          rw [untouched_append]
          split at hfallbacks
          · rename_i hany
            rw [hany, if_pos rfl]
            exact ⟨fun reason hreason => (by cases hreason), fun _ hes => hfallbacks hes.1⟩
          · rename_i hany
            rw [if_neg hany]
            obtain ⟨rfl, rfl, hquiet'⟩ := hfallbacks
            rw [and_iff_right hquiet']
            exact rerouteFresh_answers hrest

theorem reroute_refused_iff (hstored : s.state.routes.find? id = some stored)
    (h : Executes (· = env) Eq (reroute options id failure raw) s es outcome t) :
    outcome.code.isAcceptance = false ∧ Untouched es ↔
      ∃ reason, rerouteStop options env failure raw stored s = some reason ∧
        reason.1.isAcceptance = false := by
  obtain ⟨hstops, htouches⟩ := executes_rerouteStop hstored h
  cases hstop : rerouteStop options env failure raw stored s with
  | none => exact iff_of_false (fun hrefused => htouches hstop hrefused.2) (by simp)
  | some reason =>
      obtain ⟨hcode, hquiet⟩ := hstops reason hstop
      rw [hcode]
      constructor
      · intro hrefused
        exact ⟨reason, rfl, hrefused.1⟩
      · rintro ⟨other, hother, hrejects⟩
        obtain rfl := Option.some.inj hother
        exact ⟨hrejects, hquiet hrejects⟩

theorem rerouteRefusal_tenant {request : RouteRequest} (now : UnixMillis)
    (htenant : request.tenant ≠ stored.tenant) :
    ∃ reason, rerouteRefusal stored request now = some reason ∧ reason.1.isAcceptance = false := by
  have hnamed : (request.tenant != stored.tenant) = true := bne_iff_ne.mpr htenant
  rw [rerouteRefusal, hnamed]
  cases hstatus :
      (stored.decision.status == .completed || stored.decision.status == .cancelled) with
  | true => exact ⟨_, rfl, rfl⟩
  | false => exact ⟨_, rfl, rfl⟩

theorem reroute_stopped (hstored : s.state.routes.find? id = some stored)
    (htenant : raw.tenant ≠ stored.tenant)
    (h : Executes E Eq (reroute options id failure raw) s es outcome t) :
    outcome.code.isAcceptance = false ∧ Untouched es := by
  obtain ⟨request, u, es₀, es₁, rfl, hidentify, hasks⟩ := executes_bind.mp h
  obtain ⟨hacts, hstamped⟩ := executes_identify hidentify
  have hstate := (quiet_state hidentify.chained fun e he => .inr (hacts e he)).1
  have hnaming : Untouched es₀ := untouched_of_acts fun e he => .inr (hacts e he)
  obtain ⟨clock, -, hasked⟩ := executes_ask.mp hasks
  obtain ⟨w, es₂, rfl, rfl, hfound⟩ := executes_perform.mp hasked
  rw [hstate, hstored] at hfound
  rw [untouched_append, and_iff_right hnaming, observe_untouched]
  dsimp only at hfound
  have hnamed : request.tenant = raw.tenant := by rw [hstamped]
  obtain ⟨reason, hrefused, hrejects⟩ := rerouteRefusal_tenant clock.now (hnamed.symm ▸ htenant)
  rw [hrefused] at hfound
  cases hclosing : s.state.shuttingDown with
  | true =>
      rw [hclosing] at hfound
      obtain ⟨rfl, rfl, -⟩ := executes_done.mp hfound
      exact ⟨rfl, untouched_nil⟩
  | false =>
      rw [hclosing] at hfound
      obtain ⟨rfl, rfl, -⟩ := executes_done.mp hfound
      exact ⟨hrejects, untouched_nil⟩

end

section

variable {op : Op} {reply : Reply} {options : ModelRouterOptions}

/-- A call that is rejected and leaves canonical state as it was at every moment. -/
structure Refused (reply : Reply) (s : World) (es : Trace) (t : World) : Prop where
  rejected : reply.accepted = false
  untouched : Untouched es
  unchanged : t.state = s.state

/-- Where a call that the guards let pass is refused all the same, whoever makes it. -/
def Barred (options : ModelRouterOptions) (env : Env) (stored : RouteRecord) (s : World) : Op → Prop
  | .revalidate .. => Shut s.state stored ∨ Withdrawn stored s.state env.now
  | .dispatch .. =>
    Shut s.state stored ∨ Withdrawn stored s.state env.now ∨
      (Stands stored s.state env.now ∧ ¬HandsOver options env s.state stored)
  | .reroute _ failure raw =>
    ∃ reason, rerouteStop options env failure raw stored s = some reason ∧
      reason.1.isAcceptance = false
  | _ => False

theorem refused_iff (hchained : Chained Act.apply s es t) :
    Refused reply s es t ↔ reply.accepted = false ∧ Untouched es :=
  ⟨fun h => ⟨h.rejected, h.untouched⟩, fun h => ⟨h.1, h.2, h.2.state_eq hchained⟩⟩

theorem callerRefusal_foreign (hforeign : Foreign stored tenant nameSpace) :
    callerRefusal stored.tenant tenant stored.nameSpace nameSpace = none ↔
      ¬((tenant.valid = true ∧ tenant ≠ stored.tenant) ∨ stored.nameSpace.valid = true) := by
  rw [callerRefusal, chain_eq_none, stopIf_eq_none, stopIf_eq_none, not_or]
  rcases hforeign with ⟨hvalid, htenant⟩ | ⟨hvalid, hnamed⟩
  · simp [hvalid, htenant]
  · simp [hvalid, hnamed]

theorem caught_refused (hop : claimant op = some (id, tenant, nameSpace))
    (hstored : s.state.routes.find? id = some stored) (hforeign : Foreign stored tenant nameSpace)
    (hcaught : Caught stored op) (h : Executes E Eq (op.program options) s es reply t) :
    reply.accepted = false ∧ Untouched es := by
  have hguards := callerRefusal_foreign hforeign
  cases op with
  | revalidate id callerTenant callerNamespace =>
      obtain ⟨rfl, rfl, rfl⟩ := Prod.mk.inj (Option.some.inj hop)
      obtain ⟨result, rfl, hrun⟩ := executes_map h
      exact revalidate_stopped hstored (.inr (hguards.not_left.mpr hcaught)) hrun
  | dispatch id callerTenant callerNamespace =>
      obtain ⟨rfl, rfl, rfl⟩ := Prod.mk.inj (Option.some.inj hop)
      obtain ⟨result, rfl, hrun⟩ := executes_map h
      exact dispatch_stopped hstored (hguards.not_left.mpr hcaught) hrun
  | reroute id failure raw =>
      obtain ⟨rfl, rfl, rfl⟩ := Prod.mk.inj (Option.some.inj hop)
      obtain ⟨outcome, rfl, hrun⟩ := executes_map h
      exact reroute_stopped hstored hcaught hrun
  | _ => cases hop

theorem passed_refused_iff (hop : claimant op = some (id, tenant, nameSpace))
    (hstored : s.state.routes.find? id = some stored) (hforeign : Foreign stored tenant nameSpace)
    (hpassed : ¬Caught stored op) (h : Executes (· = env) Eq (op.program options) s es reply t) :
    reply.accepted = false ∧ Untouched es ↔ Barred options env stored s op := by
  have hguards := callerRefusal_foreign hforeign
  cases op with
  | revalidate id callerTenant callerNamespace =>
      obtain ⟨rfl, rfl, rfl⟩ := Prod.mk.inj (Option.some.inj hop)
      obtain ⟨result, rfl, hrun⟩ := executes_map h
      exact revalidate_refused_iff hstored (hguards.mpr hpassed) hrun
  | dispatch id callerTenant callerNamespace =>
      obtain ⟨rfl, rfl, rfl⟩ := Prod.mk.inj (Option.some.inj hop)
      obtain ⟨result, rfl, hrun⟩ := executes_map h
      exact dispatch_refused_iff hstored (hguards.mpr hpassed) hrun
  | reroute id failure raw =>
      obtain ⟨rfl, rfl, rfl⟩ := Prod.mk.inj (Option.some.inj hop)
      obtain ⟨outcome, rfl, hrun⟩ := executes_map h
      exact reroute_refused_iff hstored hrun
  | _ => cases hop

/-- A call that names a foreign tenant or namespace is refused where the guards see it, whatever
the surroundings; and elsewhere just where such a call is refused whoever makes it. -/
theorem foreign_refused_iff (hop : claimant op = some (id, tenant, nameSpace))
    (hstored : s.state.routes.find? id = some stored) (hforeign : Foreign stored tenant nameSpace) :
    (∀ E es reply t, Executes E Eq (op.program options) s es reply t → Caught stored op →
        Refused reply s es t) ∧
      ∀ env es reply t, Executes (· = env) Eq (op.program options) s es reply t →
        (Refused reply s es t ↔ Caught stored op ∨ Barred options env stored s op) := by
  refine ⟨fun E es reply t h hcaught => ?_, fun env es reply t h => ?_⟩
  · rw [refused_iff h.chained]
    exact caught_refused hop hstored hforeign hcaught h
  · rw [refused_iff h.chained]
    by_cases hcaught : Caught stored op
    · exact iff_of_true (caught_refused hop hstored hforeign hcaught h) (.inl hcaught)
    · rw [or_iff_right hcaught]
      exact passed_refused_iff hop hstored hforeign hcaught h

end

end

section

/-- The sample router with one decision, which belongs to a tenant and to no namespace. -/
def sharedWorld : World :=
  (play sampleOptions sampleEnv (liveCatalog ++ [.route sampleRequest])).2.2

def sharedRecord : RouteRecord :=
  (sharedWorld.state.routes.find? ⟨101⟩).getD {}

theorem shared_retained : sharedWorld.state.routes.find? ⟨101⟩ = some sharedRecord := by
  have hretained : (sharedWorld.state.routes.find? ⟨101⟩).isSome = true := by decide +kernel
  obtain ⟨record, hrecord⟩ := Option.isSome_iff_exists.mp hretained
  rw [sharedRecord, hrecord]
  rfl

/-- A caller of another tenant dispatches the decision of the sample router. -/
theorem stolen_dispatch_refused :
    (∀ E es reply t, Executes E Eq ((Op.dispatch ⟨101⟩ ⟨3⟩ {}).program sampleOptions) sharedWorld es
        reply t → Caught sharedRecord (.dispatch ⟨101⟩ ⟨3⟩ {}) → Refused reply sharedWorld es t) ∧
      ∀ env es reply t, Executes (· = env) Eq ((Op.dispatch ⟨101⟩ ⟨3⟩ {}).program sampleOptions)
          sharedWorld es reply t →
        (Refused reply sharedWorld es t ↔ Caught sharedRecord (.dispatch ⟨101⟩ ⟨3⟩ {}) ∨
          Barred sampleOptions env sharedRecord sharedWorld (.dispatch ⟨101⟩ ⟨3⟩ {})) :=
  foreign_refused_iff rfl shared_retained (.inl (by decide +kernel))

def borrowed : Trace × Reply × World :=
  Program.run Act.apply sampleEnv [] ((Op.revalidate ⟨101⟩ {} ⟨9⟩).program sampleOptions)
    sharedWorld

theorem borrowed_executes : Executes (· = sampleEnv) Eq
    ((Op.revalidate ⟨101⟩ {} ⟨9⟩).program sampleOptions) sharedWorld borrowed.1 borrowed.2.1
      borrowed.2.2 :=
  run_executes _ sharedWorld

theorem borrowed_accepted : borrowed.2.1.accepted = true := by
  decide +kernel

theorem shared_foreign : Foreign sharedRecord {} ⟨9⟩ :=
  .inr (by decide +kernel)

theorem foreign_namespace_revalidates :
    ¬∀ (options : ModelRouterOptions) (env : Env) (highest : UInt64) (es ds : Trace)
        (calls : List (Op × Reply)) (s t : World) (op : Op) (reply : Reply) (id : RouteDecisionId)
        (tenant : TenantId) (nameSpace : NamespaceId) (stored : RouteRecord),
      History options (constantly env) highest es calls s →
      claimant op = some (id, tenant, nameSpace) → s.state.routes.find? id = some stored →
      Foreign stored tenant nameSpace →
      Executes (· = env) Eq (op.program options) s ds reply t → Refused reply s ds t := by
  intro h
  have hrefused := h sampleOptions sampleEnv 100 _ borrowed.1 _ sharedWorld borrowed.2.2 _
    borrowed.2.1 _ _ _ _ (play_history sampleOptions sampleEnv _) rfl shared_retained shared_foreign
    borrowed_executes
  exact Bool.false_ne_true (hrefused.rejected.symm.trans borrowed_accepted)

end

end ModelRouter.Ownership
