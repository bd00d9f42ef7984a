import ModelRouter.Consulted

namespace ModelRouter.Rerouting

open Base Base.Program Base.Refusal Bytes Ids Outcome Capability Evidence Candidate Authority Request Policy
open Eligibility Decision State Commit Providers Section Pass Route Reroute Stages Run Courses Consulted
open Verdicts

variable {options : ModelRouterOptions} {id : RouteDecisionId} {failure : FailureClass}
variable {raw : RouteRequest} {E : Env → Prop} {R : World → World → Prop} {s t u : World}
variable {es ds : Trace} {outcome : RouteOutcome}

/-- What `reroute` has found when it comes to the governance of the fallback. -/
structure Inquiry where
  request : RouteRequest
  now : UnixMillis
  snapshot : Snapshot
  stored : RouteRecord
  policy : PolicySnapshot

def Inquiry.permitted (q : Inquiry) : UInt32 :=
  permittedFallbacks q.request q.policy q.snapshot.limits

def Inquiry.governing (q : Inquiry) : Governing :=
  ⟨q.policy, q.snapshot.budget, q.snapshot.slo⟩

/-- The part of `reroute` before the governance checks. -/
def inquire (options : ModelRouterOptions) (id : RouteDecisionId) (raw : RouteRequest) :
    Operation (Except Stop Inquiry) := do
  let request ← identify raw
  let e ← ask
  let w ← perform .observe
  match w.state.routes.find? id with
  | none => return .error (.rejectInvalid, "route decision is not retained")
  | some stored =>
    let snapshot := Snapshot.capture w.state stored.tenant stored.nameSpace e.now
    proceed .error
      (guarded
        (stopIf w.state.shuttingDown .shuttingDown "router is shutting down" <|>
          rerouteRefusal stored request e.now) ()) fun _ => do
      let answer ← consult options.providers.policy snapshot.policy fun adapters =>
        adapters.policy request.policyId request.policyGeneration snapshot.context
      proceed .error answer fun fetched =>
        return .ok ⟨request, e.now, snapshot, stored, fetched.canonicalize⟩

/-- The part of `reroute` after the governance checks. -/
def walk (options : ModelRouterOptions) (id : RouteDecisionId) (q : Inquiry) :
    Operation RouteOutcome := do
  let fallback ← tryFallbacks options id q.request q.snapshot q.governing q.stored.plan.fallbacks
    q.permitted q.stored.plan.fallbacks
  match fallback with
  | some outcome => return outcome
  | none => rerouteFresh options id q.request q.now

/-- The answer of the governance checks. -/
def governance (failure : FailureClass) (q : Inquiry) : Option Stop :=
  reroutePolicyRefusal q.policy q.request q.stored failure q.now

/-- The governance checks and what follows them. -/
def review (options : ModelRouterOptions) (id : RouteDecisionId) (failure : FailureClass)
    (q : Inquiry) : Operation RouteOutcome :=
  proceed rerouteStopped (guarded (governance failure q) ()) fun _ => walk options id q

def resume (options : ModelRouterOptions) (id : RouteDecisionId) (failure : FailureClass)
    (x : Except Stop Inquiry) : Operation RouteOutcome :=
  proceed rerouteStopped x (review options id failure)

theorem reroute_eq : reroute options id failure raw =
    inquire options id raw >>= resume options id failure := by
  have hstopped (reason : Stop) :
      resume options id failure (.error reason) = pure (rerouteStopped reason) := rfl
  rw [inquire, bind_eq, bind_eq, bind_assoc]
  refine congrArg (Program.bind (identify raw)) (funext fun request => ?_)
  refine congrArg Program.ask (funext fun e => ?_)
  refine congrArg (Program.act Act.observe) (funext fun w => ?_)
  dsimp only [done_bind]
  cases w.state.routes.find? id with
  | none => rfl
  | some stored =>
      refine Eq.symm ((proceed_bind hstopped _ _).trans ?_)
      refine congrArg (proceed rerouteStopped _) (funext fun _ => ?_)
      refine (bind_assoc _ _ _).trans (congrArg (Program.bind _) (funext fun answer => ?_))
      exact proceed_bind hstopped _ _

theorem executes_reroute (h : Executes E R (reroute options id failure raw) s es outcome t) :
    (∃ reason, outcome = rerouteStopped reason ∧
        Executes E R (inquire options id raw) s es (.error reason) t) ∨
      ∃ q u es₁ es₂, es = es₁ ++ es₂ ∧ Executes E R (inquire options id raw) s es₁ (.ok q) u ∧
        Executes E R (review options id failure q) u es₂ outcome t := by
  rw [reroute_eq] at h
  obtain ⟨x, u, es₁, es₂, rfl, hinquire, hrest⟩ := executes_bind.mp h
  cases x with
  | error reason =>
      obtain ⟨rfl, rfl, rfl⟩ := executes_done.mp hrest
      rw [List.append_nil]
      exact .inl ⟨reason, rfl, hinquire⟩
  | ok q => exact .inr ⟨q, u, es₁, es₂, rfl, hinquire, hrest⟩

theorem route_acts (h : Executes E R (route options raw) s es outcome t) : es ≠ [] := by
  obtain ⟨result, u, es₁, es₂, rfl, hpass, -⟩ := executes_bind.mp h
  obtain ⟨named, v, es₃, es₄, rfl, -, hasks⟩ := executes_bind.mp hpass
  obtain ⟨clock, -, hasked⟩ := executes_ask.mp hasks
  obtain ⟨w, rest, -, rfl, -⟩ := executes_perform.mp hasked
  simp

theorem walk_acts {q : Inquiry} (h : Executes E R (walk options id q) s es outcome t) : es ≠ [] := by
  have hfresh {request : RouteRequest} {now : UnixMillis} {v : World} {ds : Trace}
      (hroutes : Executes E R (rerouteFresh options id request now) v ds outcome t) : ds ≠ [] := by
    obtain ⟨fresh, x, es₁, es₂, rfl, hroute, -⟩ := executes_bind.mp hroutes
    simp [route_acts hroute]
  obtain ⟨fallback, u, es₁, es₂, rfl, htry, hrest⟩ := executes_bind.mp h
  cases hplan : q.stored.plan.fallbacks with
  | nil =>
      rw [hplan] at htry
      obtain ⟨rfl, rfl, rfl⟩ := executes_done.mp htry
      exact hfresh hrest
  | cons key rest =>
      rw [hplan] at htry
      obtain ⟨w, ds, -, rfl, -⟩ := executes_perform.mp htry
      simp

section

variable {q : Inquiry}

/-- An inquiry under a policy that permits fallbacks for the listed outcomes only, and that the
request is allowed under. -/
structure Explicit (q : Inquiry) : Prop where
  policy : q.policy.fallbackPolicy = .explicitOnly
  allowed : (evaluateRequest q.policy q.request q.now).allowed = true
  fallbacks : q.request.requirements.allowFallbacks = true
  depth : 0 < q.request.requirements.retryPolicy.maxFallbacks

/-- The outcome the decision was retained with is on the list, and is not permanent. -/
def StoredListed (q : Inquiry) : Prop :=
  q.stored.decision.code ∈ q.policy.fallbackPermittedOutcomes ∧
    isPermanent (classifyFailure q.stored.decision.code) = false

/-- Some outcome on the list is of the class of the reported failure. -/
def ClassListed (failure : FailureClass) (q : Inquiry) : Prop :=
  ∃ code ∈ q.policy.fallbackPermittedOutcomes, classifyFailure code = failure

instance (q : Inquiry) : Decidable (Explicit q) :=
  decidable_of_iff
    (q.policy.fallbackPolicy = .explicitOnly ∧
      (evaluateRequest q.policy q.request q.now).allowed = true ∧
      q.request.requirements.allowFallbacks = true ∧
      0 < q.request.requirements.retryPolicy.maxFallbacks)
    ⟨fun h => ⟨h.1, h.2.1, h.2.2.1, h.2.2.2⟩, fun h => ⟨h.policy, h.allowed, h.fallbacks, h.depth⟩⟩

instance (q : Inquiry) : Decidable (StoredListed q) :=
  inferInstanceAs (Decidable (_ ∧ _))

instance (failure : FailureClass) (q : Inquiry) : Decidable (ClassListed failure q) :=
  inferInstanceAs (Decidable (∃ code ∈ _, _))

theorem governance_eq_none_iff (h : Explicit q) :
    governance failure q = none ↔ StoredListed q ∧ isPermanent failure = false := by
  have hdepth : (q.request.requirements.retryPolicy.maxFallbacks != 0) = true := by
    rw [bne_iff_ne]
    intro hzero
    have hpositive := h.depth
    rw [hzero] at hpositive
    exact absurd hpositive (by decide)
  simp only [governance, reroutePolicyRefusal, chain_eq_none, stopIf_eq_none, h.allowed,
    fallbackPermitted, h.fallbacks, hdepth, h.policy, Bool.true_and, Bool.not_eq_false',
    Bool.and_eq_true, List.contains_iff_mem, Bool.not_eq_true', StoredListed, true_and]

theorem executes_walk_iff (h : Executes E R (review options id failure q) u ds outcome t) :
    Executes E R (walk options id q) u ds outcome t ↔ governance failure q = none := by
  rcases executes_proceed h with ⟨reason, rfl, -, -⟩ | ⟨_, hgoverned, hwalk⟩
  · constructor
    · intro hwalk
      exact absurd rfl (walk_acts hwalk)
    · intro hnone
      rw [review, hnone] at h
      exact h
  · exact iff_of_true hwalk (guarded_ok hgoverned).1

/-- `reroute` goes past the governance checks for the failures whose class the policy lists exactly
where the outcome the decision was retained with is listed along with them. -/
theorem reroute_governed_iff (hinquire : Executes E R (inquire options id raw) s es (.ok q) u)
    (hexplicit : Explicit q)
    (hreview : Executes E R (review options id failure q) u ds outcome t) :
    Executes E R (reroute options id failure raw) s (es ++ ds) outcome t ∧
      ((Executes E R (walk options id q) u ds outcome t ↔
          isPermanent failure = false ∧ ClassListed failure q) ↔
        (isPermanent failure = true ∨ (StoredListed q ↔ ClassListed failure q))) := by
  constructor
  · rw [reroute_eq]
    exact executes_bind.mpr ⟨.ok q, u, es, ds, rfl, hinquire, hreview⟩
  · rw [executes_walk_iff hreview, governance_eq_none_iff hexplicit]
    cases isPermanent failure with
    | true => simp
    | false => simp

end

section

/-- The sample router under a policy that lists the outcomes, with one decision routed. -/
def listingWorld (outcomes : List OutcomeCode) : World :=
  (play sampleOptions sampleEnv
    [.start, .mutation (.registerModel (sampleModel ⟨1⟩)),
      .mutation (.registerBackend (sampleBackend ⟨1⟩ ⟨1⟩)),
      .mutation (.setPolicy { samplePolicy with fallbackPermittedOutcomes := outcomes }),
      .route sampleRequest]).2.2

def sampleInquiry (raw : RouteRequest) (s : World) : Except Stop Inquiry :=
  (Program.run Act.apply sampleEnv [] (inquire sampleOptions ⟨101⟩ raw) s).2.1

def finds (raw : RouteRequest) (s : World) (condition : Inquiry → Bool) : Bool :=
  match sampleInquiry raw s with
  | .ok q => condition q
  | .error _ => false

theorem run_executes {α : Type} (p : Operation α) (s : World) :
    Executes (· = sampleEnv) Eq p s (Program.run Act.apply sampleEnv [] p s).1
      (Program.run Act.apply sampleEnv [] p s).2.1 (Program.run Act.apply sampleEnv [] p s).2.2 :=
  Program.run_exec Act.apply sampleEnv p s (fun _ => rfl) fun _ h => absurd h List.not_mem_nil

theorem finds_executes {s : World} {condition : Inquiry → Bool} (h : finds raw s condition = true) :
    ∃ q es u, Executes (· = sampleEnv) Eq (inquire sampleOptions ⟨101⟩ raw) s es (.ok q) u ∧
      condition q = true := by
  have hrun := run_executes (inquire sampleOptions ⟨101⟩ raw) s
  rw [finds] at h
  cases hfound : sampleInquiry raw s with
  | error reason =>
      rw [hfound] at h
      cases h
  | ok q =>
      rw [hfound] at h
      rw [sampleInquiry] at hfound
      rw [hfound] at hrun
      exact ⟨q, _, _, hrun, h⟩

/-- With ROUTED on the list a reroute for an unknown failure goes on. -/
theorem routed_listed_proceeds :
    ∃ q u ds outcome t, Executes (· = sampleEnv) Eq (walk sampleOptions ⟨101⟩ q) u ds outcome t := by
  have hfinds : finds sampleRequest (listingWorld [.routed]) (fun q => Explicit q ∧ StoredListed q ∧
      ClassListed .unknown q) = true := by decide +kernel
  obtain ⟨q, es, u, hinquire, hcondition⟩ := finds_executes hfinds
  obtain ⟨hexplicit, hstored, hclass⟩ := of_decide_eq_true hcondition
  have hreview := run_executes (review sampleOptions ⟨101⟩ .unknown q) u
  have hgoverned := (reroute_governed_iff hinquire hexplicit hreview).2.mpr
    (.inr (iff_of_true hstored hclass))
  exact ⟨q, u, _, _, _, hgoverned.mpr ⟨rfl, hclass⟩⟩

/-- A listed REJECT_UNAVAILABLE does not let a reroute for an unavailable backend go on. -/
theorem listed_class_refused :
    ∃ q es u ds outcome t,
      Executes (· = sampleEnv) Eq (inquire sampleOptions ⟨101⟩ sampleRequest)
        (listingWorld [.rejectUnavailable]) es (.ok q) u ∧ Explicit q ∧
      Executes (· = sampleEnv) Eq (review sampleOptions ⟨101⟩ .backendUnavailable q) u ds outcome t ∧
      ¬(Executes (· = sampleEnv) Eq (walk sampleOptions ⟨101⟩ q) u ds outcome t ↔
        isPermanent .backendUnavailable = false ∧ ClassListed .backendUnavailable q) := by
  have hfinds : finds sampleRequest (listingWorld [.rejectUnavailable]) (fun q => Explicit q ∧
      ClassListed .backendUnavailable q ∧ governance .backendUnavailable q ≠ none) = true := by
    decide +kernel
  obtain ⟨q, es, u, hinquire, hcondition⟩ := finds_executes hfinds
  obtain ⟨hexplicit, hclass, hrefused⟩ := of_decide_eq_true hcondition
  have hreview := run_executes (review sampleOptions ⟨101⟩ .backendUnavailable q) u
  refine ⟨q, es, u, _, _, _, hinquire, hexplicit, hreview, fun hclaim => ?_⟩
  exact hrefused ((executes_walk_iff hreview).mp (hclaim.mpr ⟨rfl, hclass⟩))

end

end ModelRouter.Rerouting
