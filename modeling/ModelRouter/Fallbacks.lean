import ModelRouter.Ownership

namespace ModelRouter.Fallbacks

open Base Base.Program Base.Refusal Bytes Ids Outcome Capability Evidence Catalog Limits Candidate
open Authority Request Policy Eligibility Decision State Commit Providers Section Pass Route Reroute
open Router Effects Run Repertoire Rankings Stages Courses Verdicts Rerouting Switching Discovery
open Admission Ownership

/-- The same router, with a discovery provider. -/
def restricted (options : ModelRouterOptions) : ModelRouterOptions :=
  { options with providers := { options.providers with candidates := true } }

section

variable {env : Env} {options : ModelRouterOptions} {s t u v : World} {es ds : Trace}
variable {p : Prepared} {candidate : RouteCandidate} {result : RouteOutcome × Option Basis}

theorem canonicalCandidates_singleton (candidate : RouteCandidate) :
    canonicalCandidates [candidate] = [candidate] :=
  rfl

theorem single_commits_iff (hopen : Open p s.state)
    (hroom : crowded env options p [candidate] = none)
    (h : Executes (· = env) Eq (weigh options p [candidate]) s es result t) :
    Commits es candidate.key ↔ (p.assessed options env candidate).isOk = true := by
  obtain ⟨hfew, hranked⟩ := chain_eq_none.mp hroom
  rw [stopIf_eq_none, decide_eq_false_iff_not] at hfew hranked
  rw [weigh, if_neg hfew, canonicalCandidates_singleton, rankAndCommit_eq] at h
  rw [canonicalCandidates_singleton, List.map_singleton] at hranked
  obtain ⟨assessed, v, es₁, es₂, rfl, hassess, hsettle⟩ := executes_bind.mp h
  have hrun := run_of_exec Act.apply hassess
  rw [run_assessAll, Prod.mk.injEq, Prod.mk.injEq] at hrun
  obtain ⟨rfl, rfl, rfl⟩ := hrun
  rw [List.map_singleton] at hsettle
  dsimp only [settle] at hsettle
  rw [if_neg hranked] at hsettle
  cases hverdict : p.assessed options env candidate with
  | error rejection =>
      rw [hverdict] at hsettle
      obtain ⟨w, ds, rfl, rfl, hdone⟩ := executes_perform.mp hsettle
      obtain ⟨rfl, -, -⟩ := executes_done.mp hdone
      refine iff_of_false ?_ Bool.false_ne_true
      rw [List.nil_append, commits_cons fun _ => Act.noConfusion]
      exact fun hcommits => commits_touches hcommits untouched_nil
  | ok assessment =>
      rw [hverdict] at hsettle
      have hkey : assessment.ranked.key = candidate.key := (assess_key hverdict).1
      refine iff_of_true ?_ rfl
      change Executes (· = env) Eq (commitWinner options p.request p.snapshot p.governing _
        [candidate] _ { assessment.ranked with rank := 1 } []) _ es₂ result t at hsettle
      rw [List.nil_append, ← hkey]
      exact commitWinner_commits hopen hsettle

theorem admission_restricted (env : Env) (options : ModelRouterOptions) (raw : RouteRequest)
    (s : World) (candidates : List RouteCandidate) :
    admission (offering env candidates) (restricted options) raw s = admission env options raw s :=
  rfl

theorem restricted_commits_iff {raw : RouteRequest} {outcome : RouteOutcome}
    (h : Executes (· = offering env [candidate]) Eq (route (restricted options) raw) s es outcome
      t) :
    Commits es candidate.key ↔ ∃ p, admission env options raw s = .ok p ∧
      crowded env options p [candidate] = none ∧
      (p.assessed options env candidate).isOk = true := by
  obtain ⟨result, u, es₁, es₂, rfl, hpass, hdone⟩ := executes_bind.mp h
  obtain ⟨rfl, -, -⟩ := executes_done.mp hdone
  rw [List.append_nil]
  rw [routePass_eq] at hpass
  obtain ⟨x, v, es₃, es₄, rfl, hprepare, hconclude⟩ := executes_bind.mp hpass
  obtain ⟨hadmission, -⟩ := executes_admission hprepare
  have hquiet : ¬Commits es₃ candidate.key := fun hcommits =>
    commits_touches hcommits (untouched_of_acts (executes_prepare hprepare).1)
  rw [commits_append, or_iff_right hquiet, ← admission_restricted env options raw s [candidate],
    ← hadmission]
  cases hx : x with
  | error reason =>
      rw [hx] at hconclude
      obtain ⟨rfl, -, -⟩ := executes_done.mp hconclude
      exact iff_of_false (fun hcommits => commits_touches hcommits untouched_nil) (by simp)
  | ok p =>
      have hopen := executes_admitted hprepare hx
      rw [hx] at hconclude
      simp only [Except.ok.injEq, exists_eq_left']
      cases hcrowded : crowded env options p [candidate] with
      | some reason =>
          have hstops := (executes_concluded hopen hconclude).1 reason hcrowded
          exact iff_of_false (fun hcommits => commits_touches hcommits hstops.2) (by simp)
      | none =>
          obtain ⟨discovered, w, es₅, es₆, rfl, hdiscover, hweigh⟩ := executes_bind.mp hconclude
          obtain ⟨hacts, hfound⟩ := executes_found hdiscover
          have hlooks : ∀ e ∈ es₅, e.act = .observe ∨ e.act = .allocate :=
            fun e he => .inl (hacts e he)
          obtain rfl : discovered = [candidate] := hfound
          have hidle : ¬Commits es₅ candidate.key := fun hcommits =>
            commits_touches hcommits (untouched_of_acts hlooks)
          rw [← (quiet_state hdiscover.chained hlooks).1] at hopen
          rw [commits_append, or_iff_right hidle, and_iff_right rfl]
          have hsingle : Commits es₆ candidate.key ↔
              (p.assessed (restricted options) (offering env [candidate]) candidate).isOk = true :=
            single_commits_iff hopen hcrowded hweigh
          exact hsingle

section

variable {id : RouteDecisionId} {failure : FailureClass} {raw : RouteRequest}
variable {outcome : RouteOutcome} {stored : RouteRecord} {q : Inquiry} {draft : CommitDraft}
variable {e : Event World Act}

theorem keepsHoldings_of_calm {k : Act} (h : calm k = true) : keepsHoldings k = true := by
  cases k with
  | mutate m now => cases h
  | writeCapacityDetail detail => cases h
  | importState canonical => cases h
  | _ => rfl

theorem catalogCandidate_congr {a b : CanonicalState} (h : holdings a = holdings b)
    (modelId : ModelId) (backendId : BackendId) :
    catalogCandidate a modelId backendId = catalogCandidate b modelId backendId := by
  have hmodels : a.models = b.models := congrArg Holdings.models h
  have hbackends : a.backends = b.backends := congrArg Holdings.backends h
  rw [catalogCandidate, catalogCandidate, hmodels, hbackends]

theorem reroute_holdings
    (h : Executes (· = env) Eq (reroute options id failure raw) s es outcome t) (he : e ∈ es) :
    holdings e.pre.state = holdings s.state := by
  have honly : (reroute options id failure raw).Only (fun _ => True) (· = env)
      fun k => keepsHoldings k = true :=
    reroute_only (fun _ => keepsHoldings_of_calm) options id failure raw fun _ _ _ => rfl
  have hkeeps := h.only honly fun _ _ => trivial
  refine h.chained.invariant_pre (I := fun w => holdings w.state = holdings s.state) rfl ?_ e he
  intro d hd hsame
  exact (apply_holdings (hkeeps d hd) d.pre).trans hsame

/-- A fallback that a reroute was about to commit. -/
structure Chosen (options : ModelRouterOptions) (env : Env) (failure : FailureClass)
    (raw : RouteRequest) (stored : RouteRecord) (s : World) (q : Inquiry)
    (candidate : RouteCandidate) : Prop where
  inquired : inquired options env raw stored s = .ok q
  governed : governance failure q = none
  held : catalogCandidate s.state candidate.key.modelId candidate.key.backendId = some candidate
  passes : (assess (Inquiry.frame q) candidate (resolveCandidate options.providers env.adapters
    q.request q.snapshot.context q.snapshot.evidence candidate)).isOk = true

theorem fallback_chosen (hstored : s.state.routes.find? id = some stored)
    (h : Executes (· = env) Eq (reroute options id failure raw) s es outcome t) (he : e ∈ es)
    (hcreates : Creates e draft) (hkind : draft.kind = .fallback) :
    ∃ q candidate, candidate.key = draft.winner ∧
      Chosen options env failure raw stored s q candidate := by
  have hholdings (d : Event World Act) (hd : d ∈ es) := reroute_holdings h hd
  rw [reroute_eq] at h
  obtain ⟨x, u, es₁, es₂, rfl, hinquire, hresume⟩ := executes_bind.mp h
  obtain ⟨hinquired, rfl, -⟩ := executes_inquired hstored hinquire
  have hlater : e ∈ es₂ := (List.mem_append.mp he).resolve_left fun hearly =>
    inquire_idle hinquire e hearly draft hcreates.1
  cases x with
  | error reason =>
      obtain ⟨rfl, -, -⟩ := executes_done.mp hresume
      cases hlater
  | ok q =>
      have hreview : Executes (· = env) Eq (review options id failure q) (arrived raw s) es₂ outcome
        t := hresume
      rcases executes_proceed hreview with ⟨reason, rfl, -, -⟩ | ⟨_, hgoverned, hwalk⟩
      · cases hlater
      obtain ⟨found, v, es₃, es₄, rfl, htry, hrest⟩ := executes_bind.mp hwalk
      rcases List.mem_append.mp hlater with hwalked | hfresh
      · have hfalls := tryFallbacks_falls (fun _ hkey => hkey) htry fun e (hd : e ∈ es₃) => hd
        obtain ⟨key, -, w, hw, candidate, husable, hwinner, -⟩ :=
          hfalls e hwalked draft hcreates.1
        obtain ⟨evidence, assessment, ⟨asked, rfl, rfl⟩, hassess⟩ := husable.eligible
        have hcatalog : holdings w.state = holdings s.state :=
          hholdings _ (List.mem_append_right _ (List.mem_append_left _ hw))
        refine ⟨q, candidate, husable.key.trans hwinner.symm, hinquired.symm,
          (guarded_ok hgoverned).1, ?_, ?_⟩
        · rw [husable.key, ← catalogCandidate_congr hcatalog]
          exact husable.held
        · rw [hassess]
          rfl
      · cases found with
        | some result =>
            obtain ⟨rfl, -, -⟩ := executes_done.mp hrest
            cases hfresh
        | none =>
            obtain ⟨c, -, -, rfl⟩ := rerouteFresh_commits hrest (fun _ hd => hd) hfresh hcreates.1
            cases hkind

def posed (env : Env) (raw : RouteRequest) (s : World) : RouteRequest :=
  dated (named raw s) env.now

/-- The checks of a pass over a request that a reroute under way has not made, or has made with
other answers of the adapters. -/
structure Readmits (options : ModelRouterOptions) (env : Env) (raw : RouteRequest) (s : World)
    (candidate : RouteCandidate) : Prop where
  running : s.state.running = true
  coherent : (posed env raw s).validate s.state.limits = none
  room : 0 < s.state.limits.maxCandidatesPerRequest ∧ 0 < s.state.limits.maxRankedCandidates
  passes : ∃ policy budget slo,
    let request := posed env raw s
    let snapshot := Snapshot.capture s.state request.tenant request.nameSpace env.now
    validatedPolicy env options request snapshot = .ok policy ∧
      validatedBudget env options request snapshot = .ok budget ∧
      validatedSlo env options request snapshot = .ok slo ∧
      (Prepared.assessed ⟨request, snapshot, ⟨policy, budget, slo⟩⟩ options env candidate).isOk =
        true

theorem admission_ok_iff {p : Prepared} : admission env options raw s = .ok p ↔
    let request := posed env raw s
    let snapshot := Snapshot.capture s.state request.tenant request.nameSpace env.now
    admitRefusal s.state request env.now = none ∧ p.request = request ∧ p.snapshot = snapshot ∧
      validatedPolicy env options request snapshot = .ok p.governing.policy ∧
      validatedBudget env options request snapshot = .ok p.governing.budget ∧
      validatedSlo env options request snapshot = .ok p.governing.slo := by
  rw [admission, ← posed]
  dsimp only
  cases hrefusal : admitRefusal s.state (posed env raw s) env.now with
  | some reason => simp
  | none =>
      dsimp only
      generalize validatedPolicy _ _ _ _ = policed
      generalize validatedBudget _ _ _ _ = budgeted
      generalize validatedSlo _ _ _ _ = sloed
      cases policed with
      | error reason => simp [Except.bind]
      | ok policy =>
          cases budgeted with
          | error reason => simp [Except.bind]
          | ok budget =>
              cases sloed with
              | error reason => simp [Except.bind]
              | ok slo =>
                  constructor
                  · intro hadmitted
                    obtain rfl := Except.ok.inj hadmitted
                    exact ⟨rfl, rfl, rfl, rfl, rfl, rfl⟩
                  · obtain ⟨request, snapshot, policy', budget', slo'⟩ := p
                    rintro ⟨-, hrequest, hsnapshot, hpolicy, hbudget, hslo⟩
                    cases hrequest
                    cases hsnapshot
                    cases hpolicy
                    cases hbudget
                    cases hslo
                    rfl

theorem assess_isOk_iff {frame : Frame} {evidence : CandidateEvidence} :
    (assess frame candidate evidence).isOk = true ↔
      firstFailure (frame.input (countCapabilities candidate frame.request.requirements frame.now)
        evidence) = none := by
  rw [assess, ← eligible_iff]
  split
  · rename_i heligible
    exact iff_of_true rfl heligible
  · rename_i hineligible
    exact iff_of_false Bool.false_ne_true hineligible

theorem crowded_iff {p : Prepared} (hok : (p.assessed options env candidate).isOk = true) :
    crowded env options p [candidate] = none ↔
      0 < p.snapshot.limits.maxCandidatesPerRequest ∧
        0 < p.snapshot.limits.maxRankedCandidates := by
  cases hverdict : p.assessed options env candidate with
  | error rejection =>
      rw [hverdict] at hok
      cases hok
  | ok assessment =>
      rw [crowded, chain_eq_none, stopIf_eq_none, stopIf_eq_none, canonicalCandidates_singleton,
        List.map_singleton, hverdict, decide_eq_false_iff_not, decide_eq_false_iff_not, not_lt,
        not_lt, UInt32.lt_iff_toNat_lt, UInt32.lt_iff_toNat_lt]
      exact Iff.rfl

theorem readmits_iff (hclosing : s.state.shuttingDown = false)
    (hexpiry : raw.expired env.now = false) :
    (∃ p, admission env options raw s = .ok p ∧ crowded env options p [candidate] = none ∧
        (p.assessed options env candidate).isOk = true) ↔ Readmits options env raw s candidate := by
  have hexpired : (posed env raw s).expired env.now = false := by
    rw [posed, dated]
    split
    · exact hexpiry
    · exact hexpiry
  have hadmits : admitRefusal s.state (posed env raw s) env.now = none ↔
      s.state.running = true ∧ (posed env raw s).validate s.state.limits = none := by
    simp [admitRefusal, hclosing, hexpired]
  constructor
  · rintro ⟨p, hadmitted, hroom, hok⟩
    obtain ⟨hrefusal, hrequest, hsnapshot, hpolicy, hbudget, hslo⟩ := admission_ok_iff.mp hadmitted
    obtain ⟨hrunning, hcoherent⟩ := hadmits.mp hrefusal
    rw [crowded_iff hok, hsnapshot] at hroom
    refine ⟨hrunning, hcoherent, hroom, p.governing.policy, p.governing.budget, p.governing.slo,
      hpolicy, hbudget, hslo, ?_⟩
    rw [← hrequest] at hsnapshot ⊢
    rw [← hsnapshot]
    exact hok
  · rintro ⟨hrunning, hcoherent, hroom, policy, budget, slo, hpolicy, hbudget, hslo, hok⟩
    have hrefusal := hadmits.mpr ⟨hrunning, hcoherent⟩
    exact ⟨_, admission_ok_iff.mpr ⟨hrefusal, rfl, rfl, hpolicy, hbudget, hslo⟩,
      (crowded_iff hok).mpr hroom, hok⟩

/-! What is left of the condition where the adapters are asked the same on both paths. -/

/-- A request that both paths ask the adapters about in the same words. -/
structure Alike (raw : RouteRequest) (stored : RouteRecord) : Prop where
  nameSpace : stored.nameSpace = raw.nameSpace
  created : raw.createdAtUnixMillis ≠ 0

/-- The checks of a pass that a reroute leaves out altogether. -/
structure Spared (options : ModelRouterOptions) (env : Env) (raw : RouteRequest) (s : World) :
    Prop where
  running : s.state.running = true
  coherent : (posed env raw s).validate s.state.limits = none
  room : 0 < s.state.limits.maxCandidatesPerRequest ∧ 0 < s.state.limits.maxRankedCandidates
  budget : raw.budgetId.valid = true → options.providers.budget = true → ∃ budget,
    (env.adapters.budget raw.budgetId raw.budgetGeneration (posed env raw s)
      (Snapshot.capture s.state raw.tenant raw.nameSpace env.now).context).evidence = some budget ∧
    checkBudget (posed env raw s) budget env.now = none

theorem policyRefusal_of_allowed {policy : PolicySnapshot} {request : RouteRequest}
    {now : UnixMillis} (h : (evaluateRequest policy request now).allowed = true) :
    policyRefusal policy request now = none := by
  have hnone : requestRejection policy request now = none := by
    have hanswers : Answers (fun verdict => ¬verdict.allowed = true)
        (requestRejection policy request now) := by
      have hstale {condition : Bool} {detail : Text} :
          Answers (fun verdict => ¬verdict.allowed = true)
            (reject condition .rejectStalePolicy detail) := answers_refuse Bool.false_ne_true
      exact hstale.chain (hstale.chain (hstale.chain (hstale.chain
        (answers_refuse Bool.false_ne_true))))
    refine Option.eq_none_iff_forall_ne_some.mpr fun verdict hverdict =>
      hanswers verdict hverdict ?_
    rw [evaluateRequest, hverdict] at h
    exact h
  rw [requestRejection, chain_eq_none, reject_eq_none] at hnone
  rw [policyRefusal, chain_eq_none, stopIf_eq_none, stopIf_eq_none, h]
  exact ⟨hnone.1, rfl⟩

theorem budgetRefusal_of_check {budget : BudgetSnapshot} {request : RouteRequest}
    {now : UnixMillis} (hnamed : request.budgetId.valid = true)
    (h : checkBudget request budget now = none) : budgetRefusal budget request = none := by
  simp only [checkBudget, chain_eq_none, fail_eq_none, hnamed, Bool.true_and] at h
  simp only [budgetRefusal, chain_eq_none, stopIf_eq_none]
  exact ⟨h.1, h.2.2.2.1, h.2.2.2.2⟩

theorem sloRefusal_of_check {evidence : CandidateEvidence} {request : RouteRequest}
    {now : UnixMillis} (hrequired : request.requirements.requireSlo = true)
    (h : checkSlo request evidence now = none) : sloRefusal evidence.slo request = none := by
  simp only [checkSlo, chain_eq_none, fail_eq_none, hrequired, Bool.true_and] at h
  simp only [sloRefusal, chain_eq_none, stopIf_eq_none]
  exact ⟨h.1, h.2.2.2.1, h.2.2.2.2.1⟩

theorem firstFailure_budget {input : EligibilityInput} (h : firstFailure input = none)
    (budget : BudgetSnapshot) :
    firstFailure { input with budget := budget } = none ↔
      checkBudget input.request budget input.now = none := by
  simp only [firstFailure, chain_eq_none] at h
  simp only [firstFailure, chain_eq_none, h, true_and, and_true]

theorem firstFailure_slo {input : EligibilityInput} (h : firstFailure input = none) :
    checkSlo input.request input.evidence input.now = none := by
  simp only [firstFailure, chain_eq_none] at h
  simp only [h]

theorem validatedSlo_of_check {request : RouteRequest} {snapshot : Snapshot} {now : UnixMillis}
    (hheld : snapshot.evidence.slo = snapshot.slo)
    (hnamed : request.requirements.requireSlo = true → request.sloId.valid = true)
    (h : checkSlo request (resolveCandidate options.providers env.adapters request snapshot.context
      snapshot.evidence candidate) now = none) :
    ∃ slo, validatedSlo env options request snapshot = .ok slo := by
  rw [validatedSlo]
  by_cases hrequired : request.requirements.requireSlo = true
  · have hrefusal := sloRefusal_of_check hrequired h
    rw [if_pos hrequired, consulted]
    change sloRefusal (resolveSlo options.providers env.adapters request snapshot.context
      snapshot.evidence) request = none at hrefusal
    rw [resolveSlo, hnamed hrequired, Bool.and_true] at hrefusal
    by_cases hsupplied : options.providers.slo = true
    · rw [if_pos hsupplied] at hrefusal ⊢
      cases hanswer : (env.adapters.slo request.sloId request.sloGeneration request
          snapshot.context).evidence with
      | none =>
          rw [hanswer] at hrefusal
          cases hrefusal
      | some slo =>
          rw [hanswer] at hrefusal
          have hpassed : sloRefusal slo request = none := hrefusal
          dsimp only
          rw [hpassed]
          exact ⟨_, rfl⟩
    · rw [if_neg hsupplied, hheld] at hrefusal
      rw [if_neg hsupplied]
      dsimp only
      rw [hrefusal]
      exact ⟨_, rfl⟩
  · rw [if_neg hrequired]
    exact ⟨_, rfl⟩

theorem validatedBudget_ok_iff {request : RouteRequest} {snapshot : Snapshot}
    {budget : BudgetSnapshot} (hnamed : request.budgetId.valid = true) :
    validatedBudget env options request snapshot = .ok budget ↔
      budgetRefusal budget request = none ∧
        if options.providers.budget then
          (env.adapters.budget request.budgetId request.budgetGeneration request
            snapshot.context).evidence = some budget
        else budget = snapshot.budget := by
  have hguarded {found : BudgetSnapshot} :
      guarded (budgetRefusal found request) found = .ok budget ↔
        budgetRefusal budget request = none ∧ found = budget := by
    cases hrefusal : budgetRefusal found request with
    | some reason =>
        refine iff_of_false (fun hok => nomatch hok) ?_
        rintro ⟨hnone, rfl⟩
        cases hrefusal.symm.trans hnone
    | none =>
        constructor
        · intro hok
          obtain rfl := Except.ok.inj hok
          exact ⟨hrefusal, rfl⟩
        · rintro ⟨-, rfl⟩
          rfl
  rw [validatedBudget, if_pos hnamed, consulted]
  by_cases hsupplied : options.providers.budget = true
  · rw [if_pos hsupplied, if_pos hsupplied]
    cases hanswer : (env.adapters.budget request.budgetId request.budgetGeneration request
        snapshot.context).evidence with
    | none => simp
    | some found =>
        dsimp only
        rw [hguarded, Option.some.injEq]
  · rw [if_neg hsupplied, if_neg hsupplied]
    dsimp only
    rw [hguarded, @eq_comm _ budget]

theorem alike_readmits_iff (hchosen : Chosen options env failure raw stored s q candidate)
    (halike : Alike raw stored) :
    Readmits options env raw s candidate ↔ Spared options env raw s := by
  have hpast := inquired_ok hchosen.inquired
  have hposed : posed env raw s = q.request := by
    rw [posed, dated, hpast.request]
    exact if_neg halike.created
  have htenant : raw.tenant = stored.tenant := by
    have haccepted := hpast.accepted
    rw [hpast.request] at haccepted
    simp only [rerouteRefusal, chain_eq_none, stopIf_eq_none, bne_eq_false_iff_eq] at haccepted
    exact haccepted.2.1
  have hsnapshot : Snapshot.capture s.state raw.tenant raw.nameSpace env.now = q.snapshot := by
    rw [hpast.snapshot, htenant, halike.nameSpace]
  have hpolicy : validatedPolicy env options q.request q.snapshot = .ok q.policy := by
    obtain ⟨fetched, hpolicy, hanswer⟩ := hpast.policy
    have hallowed :
        (evaluateRequest fetched.canonicalize q.request q.snapshot.now).allowed = true := by
      have hgoverned := hchosen.governed
      simp only [governance, reroutePolicyRefusal, chain_eq_none, stopIf_eq_none,
        Bool.not_eq_false'] at hgoverned
      rw [← hpolicy, hpast.snapshot]
      rw [hpast.now] at hgoverned
      exact hgoverned.1
    rw [validatedPolicy, hanswer]
    dsimp only
    rw [policyRefusal_of_allowed hallowed, hpolicy]
    rfl
  have hnow : q.snapshot.now = env.now := by
    rw [hpast.snapshot]
    rfl
  have hcheck := assess_isOk_iff.mp hchosen.passes
  have hassessed (budget : BudgetSnapshot) (slo : SloEvidence) :
      (Prepared.assessed ⟨q.request, q.snapshot, ⟨q.policy, budget, slo⟩⟩ options env
        candidate).isOk = true ↔ checkBudget q.request budget env.now = none := by
    rw [Prepared.assessed, assess_isOk_iff, ← hnow]
    exact firstFailure_budget hcheck budget
  have hheld : checkBudget q.request q.snapshot.budget env.now = none :=
    (hassessed q.snapshot.budget q.snapshot.slo).mp hchosen.passes
  have hids : q.request.budgetId = raw.budgetId ∧
      q.request.budgetGeneration = raw.budgetGeneration := by
    rw [hpast.request]
    exact ⟨rfl, rfl⟩
  have hcaptured : Snapshot.capture s.state q.request.tenant q.request.nameSpace env.now =
      q.snapshot := by
    rw [hpast.request]
    exact hsnapshot
  constructor
  · rintro ⟨hrunning, hcoherent, hroom, policy, budget, slo, hvalid, hbudget, -, hok⟩
    refine ⟨hrunning, hcoherent, hroom, fun hnamed hsupplied => ?_⟩
    rw [hposed, hcaptured] at hvalid hbudget hok
    obtain rfl := Except.ok.inj (hvalid.symm.trans hpolicy)
    have hanswer := ((validatedBudget_ok_iff (hids.1 ▸ hnamed)).mp hbudget).2
    rw [if_pos hsupplied, hids.1, hids.2] at hanswer
    rw [hposed, hsnapshot]
    exact ⟨budget, hanswer, (hassessed budget slo).mp hok⟩
  · rintro ⟨hrunning, hcoherent, hroom, hasked⟩
    have hslo : ∃ slo, validatedSlo env options q.request q.snapshot = .ok slo := by
      refine validatedSlo_of_check ?_ (fun hrequired => ?_) (firstFailure_slo hcheck)
      · rw [hpast.snapshot]
        rfl
      · rw [hposed] at hcoherent
        simp only [RouteRequest.validate, chain_eq_none, violation, refuse_eq_none, hrequired,
          Bool.true_and, Bool.or_eq_false_iff, Bool.not_eq_false'] at hcoherent
        exact hcoherent.2.2.2.2.2.2.1.1
    have hbudget : ∃ budget, validatedBudget env options q.request q.snapshot = .ok budget ∧
        checkBudget q.request budget env.now = none := by
      by_cases hnamed : q.request.budgetId.valid = true
      · by_cases hsupplied : options.providers.budget = true
        · obtain ⟨budget, hanswer, hfits⟩ := hasked (hids.1 ▸ hnamed) hsupplied
          rw [hposed, hsnapshot, ← hids.1, ← hids.2] at hanswer
          rw [hposed] at hfits
          refine ⟨budget, (validatedBudget_ok_iff hnamed).mpr
            ⟨budgetRefusal_of_check hnamed hfits, ?_⟩, hfits⟩
          rw [if_pos hsupplied]
          exact hanswer
        · refine ⟨q.snapshot.budget, (validatedBudget_ok_iff hnamed).mpr
            ⟨budgetRefusal_of_check hnamed hheld, ?_⟩, hheld⟩
          rw [if_neg hsupplied]
      · refine ⟨q.snapshot.budget, ?_, hheld⟩
        rw [validatedBudget, if_neg hnamed]
    obtain ⟨slo, hslo⟩ := hslo
    obtain ⟨budget, hbudget, hfits⟩ := hbudget
    refine ⟨hrunning, hcoherent, hroom, q.policy, budget, slo, ?_⟩
    rw [hposed]
    dsimp only
    rw [hcaptured]
    exact ⟨hpolicy, hbudget, hslo, (hassessed budget slo).mpr hfits⟩

/-- What a reroute commits as a fallback, a pass over the request that finds this candidate alone
commits as well exactly where it is readmitted; and where the adapters are asked alike, what that
takes are the checks the reroute left out. -/
theorem fallback_readmitted_iff (hstored : s.state.routes.find? id = some stored)
    (h : Executes (· = env) Eq (reroute options id failure raw) s es outcome t) (he : e ∈ es)
    (hcreates : Creates e draft) (hkind : draft.kind = .fallback) :
    ∃ candidate, candidate.key = draft.winner ∧
      catalogCandidate s.state draft.winner.modelId draft.winner.backendId = some candidate ∧
      (∀ ds reply u,
        Executes (· = offering env [candidate]) Eq (route (restricted options) raw) s ds reply u →
          (Commits ds candidate.key ↔ Readmits options env raw s candidate)) ∧
      (Alike raw stored → (Readmits options env raw s candidate ↔ Spared options env raw s)) := by
  obtain ⟨q, candidate, hkey, hchosen⟩ := fallback_chosen hstored h he hcreates hkind
  have hpast := inquired_ok hchosen.inquired
  have hexpiry : raw.expired env.now = false := by
    have haccepted := hpast.accepted
    rw [hpast.request] at haccepted
    simp only [rerouteRefusal, chain_eq_none, stopIf_eq_none] at haccepted
    exact haccepted.2.2
  refine ⟨candidate, hkey, hkey ▸ hchosen.held, fun ds reply u hroute => ?_, fun halike => ?_⟩
  · exact (restricted_commits_iff hroute).trans (readmits_iff hpast.admitting hexpiry)
  · exact alike_readmits_iff hchosen halike

end

end

section

def fallsBack (e : Event World Act) : Bool :=
  match e.act with
  | .commit draft =>
    (commitRefusal draft e.pre.state).isNone && decide (draft.kind = .fallback)
  | _ => false

theorem fallsBack_creates {e : Event World Act} (h : fallsBack e = true) :
    ∃ draft, Creates e draft ∧ draft.kind = .fallback := by
  obtain ⟨k, w⟩ := e
  cases k with
  | commit draft =>
      simp only [fallsBack, Bool.and_eq_true, decide_eq_true_eq, Option.isNone_iff_eq_none] at h
      exact ⟨draft, ⟨rfl, h.1⟩, h.2⟩
  | _ => cases h

/-- A reroute of the decision of a router with three models. -/
def fallen (raw : RouteRequest) : Trace × RouteOutcome × World :=
  Program.run Act.apply sampleEnv [] (reroute sampleOptions ⟨101⟩ .unknown raw) threeWorld

theorem fallen_executes (raw : RouteRequest) : Executes (· = sampleEnv) Eq
    (reroute sampleOptions ⟨101⟩ .unknown raw) threeWorld (fallen raw).1 (fallen raw).2.1
      (fallen raw).2.2 :=
  run_executes _ threeWorld

theorem fallen_commits (raw : RouteRequest) (h : (fallen raw).1.any fallsBack = true) :
    ∃ e ∈ (fallen raw).1, ∃ draft, Creates e draft ∧ draft.kind = .fallback := by
  obtain ⟨e, he, hfalls⟩ := List.any_eq_true.mp h
  exact ⟨e, he, fallsBack_creates hfalls⟩

def threeRecord : RouteRecord :=
  (threeWorld.state.routes.find? ⟨101⟩).getD {}

theorem three_retained : threeWorld.state.routes.find? ⟨101⟩ = some threeRecord := by
  have hretained : (threeWorld.state.routes.find? ⟨101⟩).isSome = true := by decide +kernel
  obtain ⟨record, hrecord⟩ := Option.isSome_iff_exists.mp hretained
  rw [threeRecord, hrecord]
  rfl

theorem sample_readmitted :
    ∃ e ∈ (fallen sampleRequest).1, ∃ draft, Creates e draft ∧ ∃ candidate,
      candidate.key = draft.winner ∧ catalogCandidate threeWorld.state draft.winner.modelId
        draft.winner.backendId = some candidate ∧
      (∀ ds reply u, Executes (· = offering sampleEnv [candidate]) Eq
          (route (restricted sampleOptions) sampleRequest) threeWorld ds reply u →
        (Commits ds candidate.key ↔ Readmits sampleOptions sampleEnv sampleRequest threeWorld
          candidate)) ∧
      (Alike sampleRequest threeRecord →
        (Readmits sampleOptions sampleEnv sampleRequest threeWorld candidate ↔
          Spared sampleOptions sampleEnv sampleRequest threeWorld)) := by
  obtain ⟨e, he, draft, hcreates, hkind⟩ := fallen_commits sampleRequest (by decide +kernel)
  exact ⟨e, he, draft, hcreates,
    fallback_readmitted_iff three_retained (fallen_executes sampleRequest) he hcreates hkind⟩

def vagueRequest : RouteRequest :=
  { sampleRequest with
    requirements := { sampleRequest.requirements with requiredInputModalities := {} } }

/-- A reroute commits a fallback for a request that no routing pass would take up. -/
theorem vague_fallback_committed :
    ¬∀ (options : ModelRouterOptions) (env : Env) (highest : UInt64) (es₀ es : Trace)
        (calls : List (Op × Reply)) (s t : World) (id : RouteDecisionId) (failure : FailureClass)
        (raw : RouteRequest) (stored : RouteRecord) (outcome : RouteOutcome) (e : Event World Act)
        (draft : CommitDraft),
      History options (constantly env) highest es₀ calls s →
      s.state.routes.find? id = some stored →
      Executes (· = env) Eq (reroute options id failure raw) s es outcome t → e ∈ es →
      Creates e draft → draft.kind = .fallback →
      ∃ candidate, candidate.key = draft.winner ∧
        catalogCandidate s.state draft.winner.modelId draft.winner.backendId = some candidate ∧
        ∀ ds reply u,
          Executes (· = offering env [candidate]) Eq (route (restricted options) raw) s ds reply u →
            Commits ds candidate.key := by
  intro h
  obtain ⟨e, he, draft, hcreates, hkind⟩ := fallen_commits vagueRequest (by decide +kernel)
  obtain ⟨candidate, -, -, hcommits⟩ := h sampleOptions sampleEnv 100 _ _ _ threeWorld _ _ _ _ _ _ _
    _ (play_history sampleOptions sampleEnv _) three_retained (fallen_executes vagueRequest) he
    hcreates hkind
  have hroute := Program.run_exec Act.apply (offering sampleEnv [candidate])
    (route (restricted sampleOptions) vagueRequest) threeWorld (fun _ => rfl)
    fun _ hgap => absurd hgap List.not_mem_nil
  have hadmitted := (restricted_commits_iff hroute).mp (hcommits _ _ _ hroute)
  have hreadmits := (readmits_iff (by decide +kernel) (by decide +kernel)).mp hadmitted
  have hincoherent :
      (posed sampleEnv vagueRequest threeWorld).validate threeWorld.state.limits ≠ none := by
    decide +kernel
  exact hincoherent hreadmits.coherent

end

end ModelRouter.Fallbacks
