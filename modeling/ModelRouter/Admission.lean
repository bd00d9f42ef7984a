import ModelRouter.Discovery
import ModelRouter.Switching

namespace ModelRouter.Admission

open Base Base.Program Base.Refusal Bytes Ids Outcome Capability Evidence Catalog Limits Candidate
open Authority Request Policy Eligibility Decision State Commit Providers Section Pass Route Stages
open Run Courses Discovery Switching

/-- A call none of whose sections changes canonical state. -/
def Untouched (es : Trace) : Prop :=
  ∀ e ∈ es, (after e).state = e.pre.state

/-- A call that creates a decision for a candidate. -/
def Commits (es : Trace) (key : CandidateKey) : Prop :=
  ∃ e ∈ es, ∃ draft, Creates e draft ∧ draft.winner = key

section

variable {es ds : Trace} {s t : World}

theorem untouched_nil : Untouched [] :=
  List.forall_mem_nil _

theorem untouched_append : Untouched (es ++ ds) ↔ Untouched es ∧ Untouched ds :=
  List.forall_mem_append

theorem untouched_cons {e : Event World Act} :
    Untouched (e :: es) ↔ (after e).state = e.pre.state ∧ Untouched es :=
  List.forall_mem_cons

theorem untouched_of_acts (h : ∀ e ∈ es, e.act = .observe ∨ e.act = .allocate) : Untouched es := by
  intro e he
  rw [after]
  rcases h e he with hact | hact
  · rw [hact]
    rfl
  · rw [hact]
    rfl

theorem untouched_single {k : Act} : Untouched [⟨k, s⟩] ↔ (k.apply s).state = s.state := by
  rw [untouched_cons]
  exact and_iff_left untouched_nil

theorem observe_untouched : Untouched (⟨.observe, s⟩ :: es) ↔ Untouched es := by
  rw [untouched_cons]
  exact and_iff_right rfl

theorem commits_append {key : CandidateKey} :
    Commits (es ++ ds) key ↔ Commits es key ∨ Commits ds key := by
  simp only [Commits, List.mem_append, or_and_right, exists_or]

theorem commits_cons {k : Act} {key : CandidateKey} (hk : ∀ draft, k ≠ .commit draft) :
    Commits (⟨k, s⟩ :: es) key ↔ Commits es key := by
  constructor
  · rintro ⟨e, he, draft, hcreates, hwinner⟩
    rcases List.mem_cons.mp he with rfl | he
    · exact absurd hcreates.1 (hk draft)
    · exact ⟨e, he, draft, hcreates, hwinner⟩
  · rintro ⟨e, he, hdraft⟩
    exact ⟨e, List.mem_cons_of_mem _ he, hdraft⟩

theorem Untouched.state_eq (h : Untouched es) (hchained : Chained Act.apply s es t) :
    t.state = s.state := by
  refine hchained.invariant (I := fun w => w.state = s.state) rfl fun e he hsame => ?_
  exact (h e he).trans hsame

end

section

variable {β : Type} (env : Env)

def consulted (supplied : Bool) (held : β) (query : Adapters → EvidenceResult β) : Except Stop β :=
  if supplied then
    match (query env.adapters).evidence with
    | some value => .ok value
    | none => .error ((query env.adapters).code, (query env.adapters).detail)
  else .ok held

def named (raw : RouteRequest) (w : World) : RouteRequest :=
  { raw with
    requirements := raw.requirements.canonicalize
    requestId := if raw.requestId.valid then raw.requestId else ⟨w.nextId⟩
    requestGeneration := if raw.requestGeneration.valid then raw.requestGeneration else ⟨1⟩ }

/-- The world a call goes on in once its request has an identity. -/
def arrived (raw : RouteRequest) (w : World) : World :=
  if raw.requestId.valid then w else w.allocate

def dated (request : RouteRequest) (now : UnixMillis) : RouteRequest :=
  if request.createdAtUnixMillis = 0 then { request with createdAtUnixMillis := now } else request

variable (options : ModelRouterOptions) (request : RouteRequest) (snapshot : Snapshot)

def validatedPolicy : Except Stop PolicySnapshot :=
  match consulted env options.providers.policy snapshot.policy fun adapters =>
    adapters.policy request.policyId request.policyGeneration snapshot.context with
  | .error reason => .error (unavailable "policy evidence is unavailable" reason)
  | .ok fetched =>
    guarded (policyRefusal fetched.canonicalize request snapshot.now) fetched.canonicalize

def validatedBudget : Except Stop BudgetSnapshot :=
  if request.budgetId.valid then
    match consulted env options.providers.budget snapshot.budget fun adapters =>
      adapters.budget request.budgetId request.budgetGeneration request snapshot.context with
    | .error reason => .error (unavailable "budget evidence is unavailable" reason)
    | .ok budget => guarded (budgetRefusal budget request) budget
  else .ok snapshot.budget

def validatedSlo : Except Stop SloEvidence :=
  if request.requirements.requireSlo then
    match consulted env options.providers.slo snapshot.slo fun adapters =>
      adapters.slo request.sloId request.sloGeneration request snapshot.context with
    | .error reason => .error (unavailable "SLO evidence is unavailable" reason)
    | .ok slo => guarded (sloRefusal slo request) slo
  else .ok snapshot.slo

def admission (raw : RouteRequest) (w : World) : Except Stop Prepared :=
  let request := dated (named raw w) env.now
  let snapshot := Snapshot.capture w.state request.tenant request.nameSpace env.now
  match admitRefusal w.state request env.now with
  | some reason => .error reason
  | none =>
    (validatedPolicy env options request snapshot).bind fun policy =>
      (validatedBudget env options request snapshot).bind fun budget =>
        (validatedSlo env options request snapshot).bind fun slo =>
          .ok ⟨request, snapshot, ⟨policy, budget, slo⟩⟩

def found (s : CanonicalState) : List RouteCandidate :=
  if options.providers.candidates then
    (env.adapters.discover request snapshot.context).evidence.getD []
  else catalogCandidates s

def crowded (p : Prepared) (discovered : List RouteCandidate) : Option Stop :=
  stopIf (discovered.length > p.snapshot.limits.maxCandidatesPerRequest.toNat) .rejectLimit
    "candidate discovery exceeded the configured limit" <|>
  stopIf ((eligible ((canonicalCandidates discovered).map (p.assessed options env))).length >
    p.snapshot.limits.maxRankedCandidates.toNat) .rejectLimit
    "eligible candidate count exceeds the configured ranking limit"

def passStop (raw : RouteRequest) (w : World) : Option Stop :=
  match admission env options raw w with
  | .error reason => some reason
  | .ok p => crowded env options p (found env options p.request p.snapshot w.state)

end

section

variable {β : Type} {env : Env} {options : ModelRouterOptions} {s t u : World} {es : Trace}

theorem executes_consulted {supplied : Bool} {held : β} {query : Adapters → EvidenceResult β}
    {x : Except Stop β} (h : Executes (· = env) Eq (consult supplied held query) s es x t) :
    es = [] ∧ t = s ∧ x = consulted env supplied held query := by
  cases supplied with
  | false =>
      obtain ⟨rfl, rfl, rfl⟩ := executes_done.mp h
      exact ⟨rfl, rfl, rfl⟩
  | true =>
      obtain ⟨e, rfl, hasked⟩ := executes_ask.mp h
      obtain ⟨rfl, rfl, rfl⟩ := executes_done.mp hasked
      exact ⟨rfl, rfl, rfl⟩

theorem executes_named {raw request : RouteRequest}
    (h : Executes (· = env) Eq (identify raw) s es request t) :
    request = named raw s ∧ t = arrived raw s := by
  rw [identify] at h
  dsimp only at h
  rw [named, arrived]
  by_cases hvalid : raw.requestId.valid = true
  · rw [if_pos hvalid] at h
    obtain ⟨-, rfl, rfl⟩ := executes_done.mp h
    rw [if_pos hvalid, if_pos hvalid]
    split
    · exact ⟨rfl, rfl⟩
    · exact ⟨rfl, rfl⟩
  · rw [if_neg hvalid] at h
    obtain ⟨w, ds, rfl, -, hallocated⟩ := executes_perform.mp h
    obtain ⟨-, rfl, rfl⟩ := executes_done.mp hallocated
    rw [if_neg hvalid, if_neg hvalid]
    split
    · exact ⟨rfl, rfl⟩
    · exact ⟨rfl, rfl⟩

theorem arrived_state (raw : RouteRequest) (w : World) : (arrived raw w).state = w.state := by
  rw [arrived]
  split
  · rfl
  · rfl

section

variable {request : RouteRequest} {snapshot : Snapshot}

theorem executes_validatedPolicy {x : Except Stop PolicySnapshot}
    (h : Executes (· = env) Eq (validatePolicy options request snapshot) s es x t) :
    es = [] ∧ t = s ∧ x = validatedPolicy env options request snapshot := by
  obtain ⟨answer, u, es₁, es₂, rfl, hconsult, hdone⟩ := executes_bind.mp h
  obtain ⟨rfl, rfl, rfl⟩ := executes_consulted hconsult
  obtain ⟨rfl, rfl, rfl⟩ := executes_done.mp hdone
  exact ⟨rfl, rfl, rfl⟩

theorem executes_validatedBudget {x : Except Stop BudgetSnapshot}
    (h : Executes (· = env) Eq (validateBudget options request snapshot) s es x t) :
    es = [] ∧ t = s ∧ x = validatedBudget env options request snapshot := by
  rw [validateBudget] at h
  rw [validatedBudget]
  split at h
  · obtain ⟨answer, u, es₁, es₂, rfl, hconsult, hdone⟩ := executes_bind.mp h
    obtain ⟨rfl, rfl, rfl⟩ := executes_consulted hconsult
    obtain ⟨rfl, rfl, rfl⟩ := executes_done.mp hdone
    rw [if_pos ‹_›]
    exact ⟨rfl, rfl, rfl⟩
  · obtain ⟨rfl, rfl, rfl⟩ := executes_done.mp h
    rw [if_neg ‹_›]
    exact ⟨rfl, rfl, rfl⟩

theorem executes_validatedSlo {x : Except Stop SloEvidence}
    (h : Executes (· = env) Eq (validateSlo options request snapshot) s es x t) :
    es = [] ∧ t = s ∧ x = validatedSlo env options request snapshot := by
  rw [validateSlo] at h
  rw [validatedSlo]
  split at h
  · obtain ⟨answer, u, es₁, es₂, rfl, hconsult, hdone⟩ := executes_bind.mp h
    obtain ⟨rfl, rfl, rfl⟩ := executes_consulted hconsult
    obtain ⟨rfl, rfl, rfl⟩ := executes_done.mp hdone
    rw [if_pos ‹_›]
    exact ⟨rfl, rfl, rfl⟩
  · obtain ⟨rfl, rfl, rfl⟩ := executes_done.mp h
    rw [if_neg ‹_›]
    exact ⟨rfl, rfl, rfl⟩

end

theorem executes_admission {raw : RouteRequest} {x : Except Stop Prepared}
    (h : Executes (· = env) Eq (prepare options raw) s es x t) :
    x = admission env options raw s ∧ t.state = s.state := by
  refine ⟨?_, (quiet_state h.chained (executes_prepare h).1).1⟩
  obtain ⟨request, u, es₀, es₁, rfl, hidentify, hasks⟩ := executes_bind.mp h
  obtain ⟨rfl, hu⟩ := executes_named hidentify
  have hstate : u.state = s.state := hu ▸ arrived_state raw s
  obtain ⟨clock, rfl, hasked⟩ := executes_ask.mp hasks
  have hdated : dated (named raw s) clock.now = if (named raw s).createdAtUnixMillis = 0 then
    { named raw s with createdAtUnixMillis := clock.now } else named raw s := rfl
  rw [← hdated] at hasked
  rw [admission]
  generalize dated (named raw s) clock.now = request at hasked ⊢
  obtain ⟨w, es₂, rfl, rfl, hadmission⟩ := executes_perform.mp hasked
  rw [hstate] at hadmission
  cases hrefusal : admitRefusal s.state request clock.now with
  | some reason =>
      rw [hrefusal] at hadmission
      exact (executes_done.mp hadmission).2.1
  | none =>
      rw [hrefusal] at hadmission
      obtain ⟨policed, v₁, ds, es₃, rfl, hpolicy, hpoliced⟩ := executes_bind.mp hadmission
      obtain ⟨rfl, rfl, hanswer⟩ := executes_validatedPolicy hpolicy
      dsimp only
      rw [← hanswer]
      cases policed with
      | error reason => exact (executes_done.mp hpoliced).2.1
      | ok policy =>
          obtain ⟨budgeted, v₂, ds, es₄, rfl, hbudget, hbudgeted⟩ := executes_bind.mp hpoliced
          obtain ⟨rfl, rfl, hanswer'⟩ := executes_validatedBudget hbudget
          rw [Except.bind, ← hanswer']
          cases budgeted with
          | error reason => exact (executes_done.mp hbudgeted).2.1
          | ok budget =>
              obtain ⟨sloed, v₃, ds, es₅, rfl, hslo, hsloed⟩ := executes_bind.mp hbudgeted
              obtain ⟨rfl, rfl, hanswer''⟩ := executes_validatedSlo hslo
              rw [Except.bind, ← hanswer'']
              cases sloed with
              | error reason => exact (executes_done.mp hsloed).2.1
              | ok slo => exact (executes_done.mp hsloed).2.1

/-! A pass that comes to its last section changes canonical state. -/

theorem counted_ne (kind : CommitKind) (c : Persistence.PersistenceCounters) :
    countCommit kind c ≠ c := by
  intro hsame
  have hdecisions : c.routeDecisions + 1 = c.routeDecisions := by
    conv_rhs => rw [← hsame]
    cases kind with
    | route => rfl
    | fallback => rfl
  simp at hdecisions

theorem noteTenant_counters (s : CanonicalState) (tenant : TenantId) :
    (s.noteTenant tenant).counters = s.counters := by
  rw [CanonicalState.noteTenant]
  split
  · rfl
  · rfl

theorem creates_touches {draft : CommitDraft} {e : Event World Act} (h : Creates e draft) :
    (after e).state ≠ e.pre.state := by
  obtain ⟨k, w⟩ := e
  obtain ⟨rfl, hnone⟩ := h
  intro hsame
  have hcounters := congrArg CanonicalState.counters hsame
  change (commitSection draft w).1.state.counters = _ at hcounters
  rw [commitSection] at hcounters
  rw [hnone, noteTenant_counters] at hcounters
  exact counted_ne draft.kind _ hcounters

theorem commits_touches {key : CandidateKey} (h : Commits es key) : ¬Untouched es := by
  obtain ⟨e, he, draft, hcreates, -⟩ := h
  exact fun hes => creates_touches hcreates (hes e he)

theorem rejectRoute_touches {tenant : TenantId} {rejected : UInt32}
    (hes : Untouched (⟨.rejectRoute tenant rejected, s⟩ :: es)) : False := by
  have hsame : (rejectRoute s.state tenant rejected).counters = s.state.counters :=
    congrArg CanonicalState.counters (untouched_cons.mp hes).1
  rw [rejectRoute, noteTenant_counters] at hsame
  have hrequests : s.state.counters.routeRequests + 1 = s.state.counters.routeRequests :=
    congrArg Persistence.PersistenceCounters.routeRequests hsame
  simp at hrequests

section

variable {p : Prepared} {result : RouteOutcome × Option Basis}

theorem draftRoute_admitted (hopen : Open p s.state) (explanation : RouteExplanation)
    (winner : RankedCandidate) (tail : List RankedCandidate) (authority : RouteAuthority) :
    commitRefusal (draftRoute p.request p.snapshot p.governing.policy explanation winner tail
      authority) s.state = none := by
  simp [commitRefusal, draftRoute, hopen.admitting, hopen.routerEpoch, hopen.coordinatorEpoch]

theorem commitWinner_commits {basis : Option Basis} {candidates : List RouteCandidate}
    {explanation : RouteExplanation} {winner : RankedCandidate} {tail : List RankedCandidate}
    (hopen : Open p s.state)
    (h : Executes (· = env) Eq (commitWinner options p.request p.snapshot p.governing basis
      candidates explanation winner tail) s es result t) : Commits es winner.key := by
  have hfinish {authority : RouteAuthority} {explanation : RouteExplanation} {ds : Trace}
      (hlast : Executes (· = env) Eq (commitWinner.finish p.request p.snapshot p.governing basis
        winner tail authority explanation) s ds result t) : Commits ds winner.key := by
    rw [commitWinner.finish] at hlast
    obtain ⟨w, fs, rfl, rfl, -⟩ := executes_perform.mp hlast
    have hadmitted := draftRoute_admitted hopen explanation winner tail authority
    exact ⟨_, List.mem_cons_self, _, ⟨rfl, hadmitted⟩, rfl⟩
  obtain ⟨w, ds, rfl, rfl, hbound⟩ := executes_perform.mp h
  rw [commits_cons fun _ => Act.noConfusion]
  dsimp only at hbound
  split at hbound
  · exact hfinish hbound
  · obtain ⟨evidence, v, es₁, es₂, rfl, hresolve, hlast⟩ := executes_bind.mp hbound
    obtain ⟨rfl, rfl, -⟩ := executes_resolve hresolve
    exact hfinish hlast

theorem executes_found {request : RouteRequest} {snapshot : Snapshot}
    {candidates : List RouteCandidate}
    (h : Executes (· = env) Eq (discover options request snapshot) s es candidates t) :
    (∀ e ∈ es, e.act = .observe) ∧ candidates = found env options request snapshot s.state := by
  refine ⟨(executes_discover h).1, ?_⟩
  rw [discover] at h
  rw [found]
  by_cases hsupplied : options.providers.candidates = true
  · rw [if_pos hsupplied] at h ⊢
    obtain ⟨e, rfl, hasked⟩ := executes_ask.mp h
    exact (executes_done.mp hasked).2.1
  · rw [if_neg hsupplied] at h ⊢
    obtain ⟨w, ds, rfl, -, hobserved⟩ := executes_perform.mp h
    exact (executes_done.mp hobserved).2.1

theorem executes_concluded (hopen : Open p s.state)
    (h : Executes (· = env) Eq (conclude options (.ok p)) s es result t) :
    (∀ reason,
      crowded env options p (found env options p.request p.snapshot s.state) = some reason →
        result = stopped reason ∧ Untouched es) ∧
      (crowded env options p (found env options p.request p.snapshot s.state) = none →
        ¬Untouched es) := by
  obtain ⟨discovered, u, es₁, es₂, rfl, hdiscover, hweigh⟩ := executes_bind.mp h
  obtain ⟨hacts, hfound⟩ := executes_found hdiscover
  obtain ⟨hstate, -⟩ := quiet_state hdiscover.chained fun e he => .inl (hacts e he)
  have hquiet : Untouched es₁ := untouched_of_acts fun e he => .inl (hacts e he)
  rw [← hfound, untouched_append, and_iff_right hquiet]
  rw [← hstate] at hopen
  rw [weigh] at hweigh
  rw [crowded]
  by_cases hmany : discovered.length > p.snapshot.limits.maxCandidatesPerRequest.toNat
  · rw [if_pos hmany] at hweigh
    obtain ⟨rfl, rfl, -⟩ := executes_done.mp hweigh
    rw [decide_eq_true hmany]
    exact ⟨fun reason hreason => ⟨congrArg stopped (Option.some.inj hreason), untouched_nil⟩,
      fun hnone => (by cases hnone)⟩
  rw [if_neg hmany, rankAndCommit_eq] at hweigh
  rw [decide_eq_false hmany]
  obtain ⟨assessed, v, es₃, es₄, rfl, hassess, hsettle⟩ := executes_bind.mp hweigh
  have hrun := run_of_exec Act.apply hassess
  rw [run_assessAll, Prod.mk.injEq, Prod.mk.injEq] at hrun
  obtain ⟨rfl, hassessed, rfl⟩ := hrun
  rw [List.nil_append, hassessed]
  dsimp only [settle] at hsettle
  by_cases hranked : (eligible assessed).length > p.snapshot.limits.maxRankedCandidates.toNat
  · rw [if_pos hranked] at hsettle
    obtain ⟨rfl, rfl, -⟩ := executes_done.mp hsettle
    rw [decide_eq_true hranked]
    exact ⟨fun reason hreason => ⟨congrArg stopped (Option.some.inj hreason), untouched_nil⟩,
      fun hnone => (by cases hnone)⟩
  · rw [if_neg hranked] at hsettle
    rw [decide_eq_false hranked]
    refine ⟨fun reason hreason => (by cases hreason), fun _ hes => ?_⟩
    split at hsettle
    · obtain ⟨w, ds, rfl, rfl, -⟩ := executes_perform.mp hsettle
      exact rejectRoute_touches hes
    · exact commits_touches (commitWinner_commits hopen hsettle) hes

theorem executes_admitted {raw : RouteRequest} {x : Except Stop Prepared}
    (h : Executes (· = env) Eq (prepare options raw) s es x t) (hx : x = .ok p) :
    Open p t.state := by
  have hrun := run_of_exec Act.apply h
  have hprepared : prepared options env [] raw s = .ok p := by
    rw [prepared, hrun]
    exact hx
  have hopen := (prepared_open hprepared).1
  rw [hrun] at hopen
  exact hopen

theorem executes_passStop {raw : RouteRequest}
    (h : Executes (· = env) Eq (routePass options raw) s es result t) :
    (∀ reason, passStop env options raw s = some reason → result = stopped reason ∧ Untouched es) ∧
      (passStop env options raw s = none → ¬Untouched es) := by
  rw [routePass_eq] at h
  obtain ⟨x, u, es₁, es₂, rfl, hprepare, hconclude⟩ := executes_bind.mp h
  obtain ⟨hadmission, hstate⟩ := executes_admission hprepare
  have hquiet : Untouched es₁ := untouched_of_acts (executes_prepare hprepare).1
  rw [passStop, ← hadmission, untouched_append, and_iff_right hquiet]
  cases hx : x with
  | error reason =>
      rw [hx] at hconclude
      obtain ⟨rfl, rfl, -⟩ := executes_done.mp hconclude
      exact ⟨fun _ hreason => ⟨congrArg stopped (Option.some.inj hreason), untouched_nil⟩,
        fun hnone => (by cases hnone)⟩
  | ok p =>
      rw [hx] at hconclude
      have hconcluded := executes_concluded (executes_admitted hprepare hx) hconclude
      rw [hstate] at hconcluded
      exact hconcluded

end

end

end ModelRouter.Admission
