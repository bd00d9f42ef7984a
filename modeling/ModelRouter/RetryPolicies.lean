import ModelRouter.Ownership

namespace ModelRouter.RetryPolicies

open Base Base.Program Base.Refusal Bytes Ids Outcome Capability Evidence Catalog Candidate Authority
open Request Policy Eligibility Decision State Commit Providers Section Pass Route Reroute Router Run
open Sorting RankOrder Repertoire Rankings MutationFacts
open Stages Courses Consulted Verdicts Rechecks Rerouting Switching Discovery Admission Ownership

variable {env : Env} {options : ModelRouterOptions} {id : RouteDecisionId} {failure : FailureClass}
variable {raw : RouteRequest} {stored : RouteRecord} {s t u : World} {es ds : Trace}
variable {outcome : RouteOutcome} {q : Inquiry} {draft : CommitDraft}

/-- What the retry policy of the request says to a decision for a model of a provider, after the
failed one. -/
structure Permits (q : Inquiry) (modelId : ModelId) (providerId : ProviderId) : Prop where
  reroute : q.request.requirements.retryPolicy.allowReroute = true
  model : q.request.requirements.retryPolicy.allowModelSwitch = false →
    modelId = q.stored.decision.authority.modelId
  provider : q.request.requirements.retryPolicy.allowProviderSwitch = false →
    providerId = q.stored.decision.authority.providerId

/-- The stored fallbacks within the permitted depth. -/
def Inquiry.reach (q : Inquiry) : List CandidateKey :=
  q.stored.plan.fallbacks.take q.permitted.toNat

/-- Every decision that is created is one the retry policy permits, and a stored fallback among
them stands within the permitted depth. -/
def Honours (q : Inquiry) (es : Trace) : Prop :=
  ∀ e ∈ es, ∀ draft, Creates e draft →
    Permits q draft.decision.authority.modelId draft.decision.authority.providerId ∧
      (draft.kind = .fallback → draft.winner ∈ Inquiry.reach q)

section

variable (options : ModelRouterOptions) (env : Env) (q : Inquiry)

def offered (s : CanonicalState) (key : CandidateKey) : Option Assessment :=
  ((catalogCandidate s key.modelId key.backendId).filter (·.key = key)).bind fun candidate =>
    (assess (Inquiry.frame q) candidate (resolveCandidate options.providers env.adapters q.request
      q.snapshot.context q.snapshot.evidence candidate)).toOption

def fallbackDraft (assessment : Assessment) (w : World) : CommitDraft :=
  draftFallback q.request q.snapshot q.governing assessment
    (bindFallback q.snapshot.context w.state.routerId q.request assessment.candidate
      assessment.evidence q.policy q.snapshot.budget q.snapshot.slo)
    q.stored.plan.fallbacks q.permitted

/-- Where the walk looks at the next fallback, unless it committed this one as current. -/
def beyond (key : CandidateKey) (w : World) : Option World :=
  match offered options env q w.state key with
  | none => some w
  | some assessment =>
    let committed := commitSection (fallbackDraft q assessment w) w
    if committed.2.committedCurrent then none else some committed.1

/-- Where the fresh pass starts, unless a fallback was committed as current. -/
def exhausted : List CandidateKey → World → Option World
  | [], w => some w
  | key :: rest, w => (beyond options env q key w).bind (exhausted rest)

/-- Each fallback that the walk comes to and can take is one the retry policy permits, within the
permitted depth. -/
def HeedsFallbacks : List CandidateKey → World → Prop
  | [], _ => True
  | key :: rest, w =>
    (∀ assessment, offered options env q w.state key = some assessment →
      Permits q key.modelId assessment.candidate.backend.providerId ∧ key ∈ Inquiry.reach q) ∧
      ∀ u, beyond options env q key w = some u → HeedsFallbacks rest u

/-- Each eligible candidate of a fresh pass that the retry policy forbids ranks behind another. -/
def HeedsFresh (w : World) : Prop :=
  ∀ p, admission env options q.request w = .ok p →
    let discovered := found env options p.request p.snapshot w.state
    let assessed := eligible ((canonicalCandidates discovered).map (p.assessed options env))
    crowded env options p discovered = none →
      ∀ a ∈ assessed,
        Permits q a.ranked.key.modelId (p.described a.ranked.key w.state).providerId ∨
          ∃ b ∈ assessed, candidateRanksBefore b.ranked a.ranked = true

/-- What the retry policy asks of the fallbacks the walk comes to and, where it committed none as
current, of the fresh pass. -/
structure Heeds (w : World) : Prop where
  fallbacks : HeedsFallbacks options env q q.stored.plan.fallbacks w
  fresh : ∀ u, exhausted options env q q.stored.plan.fallbacks w = some u →
    HeedsFresh options env q u

end

section

variable {e : Event World Act}

theorem honours_append : Honours q (es ++ ds) ↔ Honours q es ∧ Honours q ds :=
  List.forall_mem_append

theorem idle_honours (h : Idle es) : Honours q es :=
  fun e he draft hcreates => absurd hcreates.1 (h e he draft)

theorem idle_append_honours (h : Idle es) : Honours q (es ++ ds) ↔ Honours q ds :=
  honours_append.trans (and_iff_right (idle_honours h))

theorem honours_observe : Honours q (⟨.observe, s⟩ :: es) ↔ Honours q es := by
  have hlook : Idle [⟨.observe, s⟩] := idle_cons (fun _ => Act.noConfusion) idle_nil
  exact idle_append_honours hlook

theorem idle_of_acts (h : ∀ e ∈ es, e.act = .observe ∨ e.act = .allocate) : Idle es := by
  intro e he draft hact
  rcases h e he with hlook | hlook
  · cases hlook.symm.trans hact
  · cases hlook.symm.trans hact

theorem honours_commit (hrefusal : commitRefusal draft s.state = none) :
    Honours q [⟨.commit draft, s⟩] ↔
      Permits q draft.decision.authority.modelId draft.decision.authority.providerId ∧
        (draft.kind = .fallback → draft.winner ∈ Inquiry.reach q) := by
  constructor
  · intro h
    exact h _ List.mem_cons_self draft ⟨rfl, hrefusal⟩
  · intro h e he other hcreates
    obtain rfl := List.mem_singleton.mp he
    obtain rfl := Act.commit.inj hcreates.1
    exact h

end

theorem live_commit (h : Live q s.state) (draft : CommitDraft) :
    Live q (commitSection draft s).1.state := by
  have hsame := @apply_standing (.commit draft) rfl s
  have hshut : (commitSection draft s).1.state.shuttingDown = s.state.shuttingDown :=
    congrArg Standing.shuttingDown hsame
  have hepochs := congrArg Standing.epochs hsame
  have hrouter : (commitSection draft s).1.state.routerEpoch = s.state.routerEpoch :=
    congrArg Prod.fst hepochs
  have hcoordinator : (commitSection draft s).1.state.coordinatorEpoch =
      s.state.coordinatorEpoch := congrArg Prod.snd hepochs
  exact ⟨hshut.trans h.admitting, hrouter.trans h.routerEpoch,
    hcoordinator.trans h.coordinatorEpoch⟩

theorem fallbackDraft_admitted (h : Live q s.state) (assessment : Assessment) :
    commitRefusal (fallbackDraft q assessment s) s.state = none := by
  simp [commitRefusal, fallbackDraft, draftFallback, h.admitting, h.routerEpoch,
    h.coordinatorEpoch]

/-- What one fallback comes to that is assessed. -/
structure Committed (q : Inquiry) (assessment : Assessment) (s : World) (es : Trace)
    (outcome : RouteOutcome) (t : World) : Prop where
  trace : es = [⟨.observe, s⟩, ⟨.commit (fallbackDraft q assessment s), s⟩]
  world : t = (commitSection (fallbackDraft q assessment s) s).1
  routed : outcome.code = .routed ↔
    (commitSection (fallbackDraft q assessment s) s).2.committedCurrent = true

theorem commitSingle_ends {candidate : RouteCandidate} {evidence : CandidateEvidence}
    (hlive : Live q s.state)
    (h : Executes (· = env) Eq (commitSingleCandidate q.request q.snapshot q.governing candidate
      evidence q.stored.plan.fallbacks q.permitted) s es outcome t) :
    ((assess (Inquiry.frame q) candidate evidence).toOption = none →
        es = [] ∧ t = s ∧ outcome.code ≠ .routed) ∧
      ∀ assessment, (assess (Inquiry.frame q) candidate evidence).toOption = some assessment →
        Committed q assessment s es outcome t := by
  unfold commitSingleCandidate at h
  dsimp only at h
  split at h
  · rename_i rejection hrejected
    have hassess : assess (Inquiry.frame q) candidate evidence = .error rejection := hrejected
    rw [hassess]
    obtain ⟨rfl, rfl, rfl⟩ := executes_done.mp h
    refine ⟨fun _ => ⟨rfl, rfl, fun hrouted => ?_⟩, fun _ hnone => (by cases hnone)⟩
    rw [assess] at hassess
    split at hassess
    · cases hassess
    · rename_i hineligible
      have hrejects := ineligible_rejects hineligible
      have hcode : rejection.code = .routed := hrouted
      rw [← Except.error.inj hassess] at hcode
      cases hrejects.symm.trans (congrArg OutcomeCode.isAcceptance hcode)
  · rename_i assessment hassessed
    have hassess : assess (Inquiry.frame q) candidate evidence = .ok assessment := hassessed
    rw [hassess]
    refine ⟨fun hnone => (by cases hnone), fun found hfound => ?_⟩
    obtain rfl := Option.some.inj hfound
    obtain ⟨w, ds, rfl, rfl, hbound⟩ := executes_perform.mp h
    obtain ⟨x, fs, rfl, rfl, hlast⟩ := executes_perform.mp hbound
    obtain rfl : assessment.evidence = evidence := by rw [(assess_ok hassess).1]
    have hnone : (commitSection (fallbackDraft q assessment s) s).2.refusal = none := by
      rw [commitSection, fallbackDraft_admitted hlive]
    split at hlast
    · rename_i reason hrefused
      cases hrefused.symm.trans hnone
    · obtain ⟨rfl, rfl, rfl⟩ := executes_done.mp hlast
      refine ⟨rfl, rfl, ?_⟩
      change (fallbackOutcome (fallbackDraft q assessment s)
        (commitSection (fallbackDraft q assessment s) s).2).code = .routed ↔ _
      rw [fallbackOutcome]
      cases (commitSection (fallbackDraft q assessment s) s).2.committedCurrent with
      | true => simp
      | false => simp

theorem Committed.honours {assessment : Assessment} {key : CandidateKey} (hlive : Live q s.state)
    (hkey : assessment.candidate.key = key) (h : Committed q assessment s es outcome t) :
    Honours q es ↔
      Permits q key.modelId assessment.candidate.backend.providerId ∧ key ∈ Inquiry.reach q := by
  subst hkey
  rw [h.trace, honours_observe, honours_commit (fallbackDraft_admitted hlive assessment)]
  exact and_congr_right fun _ => forall_prop_of_true rfl

theorem offered_of_held {s : CanonicalState} {key : CandidateKey} {candidate : RouteCandidate}
    (h : (catalogCandidate s key.modelId key.backendId).filter (·.key = key) = some candidate) :
    offered options env q s key = (assess (Inquiry.frame q) candidate
      (resolveCandidate options.providers env.adapters q.request q.snapshot.context
        q.snapshot.evidence candidate)).toOption := by
  rw [offered, h, Option.bind_some]

theorem offered_key {s : CanonicalState} {key : CandidateKey} {assessment : Assessment}
    (h : offered options env q s key = some assessment) : assessment.candidate.key = key := by
  obtain ⟨candidate, hfound, hassess⟩ := Option.bind_eq_some_iff.mp h
  obtain ⟨-, hkey⟩ := Option.filter_eq_some_iff.mp hfound
  cases hverdict : assess (Inquiry.frame q) candidate (resolveCandidate options.providers
      env.adapters q.request q.snapshot.context q.snapshot.evidence candidate) with
  | error rejection =>
      rw [hverdict] at hassess
      cases hassess
  | ok found =>
      rw [hverdict] at hassess
      obtain rfl := Option.some.inj hassess
      rw [(assess_ok hverdict).1]
      exact of_decide_eq_true hkey

theorem tryFallbacks_honours {keys : List CandidateKey} (hlive : Live q s.state)
    {answer : Option RouteOutcome}
    (h : Executes (· = env) Eq (tryFallbacks options id q.request q.snapshot q.governing
      q.stored.plan.fallbacks q.permitted keys) s es answer t) :
    (Honours q es ↔ HeedsFallbacks options env q keys s) ∧
      match exhausted options env q keys s with
      | none => answer.isSome
      | some u => answer = none ∧ t = u := by
  induction keys generalizing s es with
  | nil =>
      obtain ⟨rfl, rfl, rfl⟩ := executes_done.mp h
      exact ⟨iff_of_true (idle_honours idle_nil) trivial, rfl, rfl⟩
  | cons key rest ih =>
      obtain ⟨w, ds, rfl, rfl, hwalked⟩ := executes_perform.mp h
      rw [honours_observe, HeedsFallbacks, exhausted]
      cases hcandidate : (catalogCandidate s.state key.modelId key.backendId).filter
          (·.key = key) with
      | none =>
          have hoffered : offered options env q s.state key = none := by
            rw [offered, hcandidate, Option.bind_none]
          rw [hcandidate] at hwalked
          rw [beyond, hoffered]
          simpa using ih hlive hwalked
      | some candidate =>
          rw [hcandidate] at hwalked
          obtain ⟨evidence, v, es₁, es₂, rfl, hresolve, hgoes⟩ := executes_bind.mp hwalked
          obtain ⟨rfl, rfl, e, rfl, rfl⟩ := executes_resolve hresolve
          obtain ⟨result, x, es₃, es₄, rfl, hcommit, hrest⟩ := executes_bind.mp hgoes
          have hsingle := commitSingle_ends hlive hcommit
          rw [← offered_of_held hcandidate] at hsingle
          rw [List.nil_append, honours_append, beyond]
          cases hassess : offered options e q v.state key with
          | none =>
              obtain ⟨rfl, rfl, hcode⟩ := hsingle.1 hassess
              rw [if_neg hcode] at hrest
              simpa [idle_honours idle_nil] using ih hlive hrest
          | some assessment =>
              have hcommitted := hsingle.2 assessment hassess
              have hthis := hcommitted.honours hlive (offered_key hassess)
              obtain ⟨-, rfl, hrouted⟩ := hcommitted
              dsimp only
              by_cases hcurrent :
                  (commitSection (fallbackDraft q assessment v) v).2.committedCurrent = true
              · rw [if_pos (hrouted.mpr hcurrent)] at hrest
                obtain ⟨w, ds, rfl, rfl, hended⟩ := executes_perform.mp hrest
                obtain ⟨rfl, rfl, -⟩ := executes_done.mp hended
                have hlast (w : World) : Honours q [⟨.supersede id q.snapshot.now false, w⟩] :=
                  idle_honours (idle_cons (fun _ => Act.noConfusion) idle_nil)
                rw [if_pos hcurrent, hthis, and_iff_left (hlast _)]
                simp
              · rw [if_neg fun hcode => hcurrent (hrouted.mp hcode)] at hrest
                have hrec := ih (live_commit hlive (fallbackDraft q assessment v)) hrest
                rw [if_neg hcurrent, hthis, hrec.1]
                simpa using hrec.2

section

variable {assessments : List Assessment} {winner : RankedCandidate} {tail : List RankedCandidate}

theorem first_ranked (h : rankAll assessments = winner :: tail) {P : CandidateKey → Prop} :
    (∀ a ∈ assessments, P a.ranked.key ∨
      ∃ b ∈ assessments, candidateRanksBefore b.ranked a.ranked = true) ↔ P winner.key := by
  have hkeys : (rankAll assessments).map rankKey =
      (stableSort candidateRanksBefore (assessments.map Assessment.ranked)).map rankKey := by
    rw [rankAll, numberRanks_map rankKey fun _ _ => rfl]
  have hsorted : ((rankAll assessments).map rankKey).Pairwise (· ≤ ·) := by
    rw [hkeys, List.pairwise_map]
    exact stableSort_sorted candidateRanksBefore_iff _
  have hmem (k) : k ∈ (rankAll assessments).map rankKey ↔
      ∃ a ∈ assessments, rankKey a.ranked = k := by
    rw [hkeys]
    simp [mem_stableSort]
  rw [h, List.map_cons, List.pairwise_cons] at hsorted
  rw [h, List.map_cons] at hmem
  obtain ⟨a₀, ha₀, hfirst⟩ := (hmem _).mp List.mem_cons_self
  have hleast {a : Assessment} (ha : a ∈ assessments) : rankKey winner ≤ rankKey a.ranked := by
    rcases List.mem_cons.mp ((hmem _).mpr ⟨a, ha, rfl⟩) with heq | hlater
    · exact heq.ge
    · exact hsorted.1 _ hlater
  have hkey {a : Assessment} (heq : rankKey a.ranked = rankKey winner) :
      a.ranked.key = winner.key := congrArg (fun k => (ofLex (ofLex k).2).2) heq
  constructor
  · intro hall
    rcases hall a₀ ha₀ with hpermitted | ⟨b, hb, hbefore⟩
    · exact hkey hfirst ▸ hpermitted
    · have hlt := (candidateRanksBefore_iff _ _).mp hbefore
      rw [hfirst] at hlt
      exact absurd (hleast hb) (not_le.mpr hlt)
  · intro hwinner a ha
    rcases (hleast ha).eq_or_lt with heq | hlt
    · exact .inl (by rwa [hkey heq.symm])
    · refine .inr ⟨a₀, ha₀, (candidateRanksBefore_iff _ _).mpr ?_⟩
      rwa [hfirst]

variable {p : Prepared} {result : RouteOutcome × Option Basis}

theorem described_ids (p : Prepared) (key : CandidateKey) (s : CanonicalState) :
    (p.described key s).modelId = key.modelId := by
  rw [Prepared.described]
  cases s.backends.find? key.backendId with
  | none => rfl
  | some backend => rfl

theorem commitWinner_honours {basis : Option Basis} {candidates : List RouteCandidate}
    {explanation : RouteExplanation} (hopen : Open p s.state)
    (h : Executes (· = env) Eq (commitWinner options p.request p.snapshot p.governing basis
      candidates explanation winner tail) s es result t) :
    Honours q es ↔
      Permits q winner.key.modelId (p.described winner.key s.state).providerId := by
  have hfinish {authority : RouteAuthority} {explanation : RouteExplanation} {ds : Trace}
      (hmodel : authority.modelId = winner.key.modelId)
      (hprovider : authority.providerId = (p.described winner.key s.state).providerId)
      (hlast : Executes (· = env) Eq (commitWinner.finish p.request p.snapshot p.governing basis
        winner tail authority explanation) s ds result t) :
      Honours q ds ↔
        Permits q winner.key.modelId (p.described winner.key s.state).providerId := by
    rw [commitWinner.finish] at hlast
    obtain ⟨w, fs, rfl, rfl, hdone⟩ := executes_perform.mp hlast
    have hadmitted := draftRoute_admitted hopen explanation winner tail authority
    obtain rfl : fs = [] := by
      dsimp only at hdone
      split at hdone
      · exact (executes_done.mp hdone).1
      · exact (executes_done.mp hdone).1
    rw [honours_commit hadmitted, ← hmodel, ← hprovider]
    exact and_iff_left fun hkind => CommitKind.noConfusion hkind
  obtain ⟨w, ds, rfl, rfl, hbound⟩ := executes_perform.mp h
  rw [honours_observe]
  dsimp only at hbound
  split at hbound
  · exact hfinish (described_ids p winner.key s.state) rfl hbound
  · obtain ⟨evidence, v, es₁, es₂, rfl, hresolve, hlast⟩ := executes_bind.mp hbound
    obtain ⟨rfl, rfl, -⟩ := executes_resolve hresolve
    rw [List.nil_append]
    refine hfinish ?_ ?_ hlast
    · exact described_ids p winner.key _
    · rfl

theorem concluded_honours (hopen : Open p s.state)
    (h : Executes (· = env) Eq (conclude options (.ok p)) s es result t) :
    Honours q es ↔
      (crowded env options p (found env options p.request p.snapshot s.state) = none →
        ∀ a ∈ eligible ((canonicalCandidates (found env options p.request p.snapshot s.state)).map
            (p.assessed options env)),
          Permits q a.ranked.key.modelId (p.described a.ranked.key s.state).providerId ∨
            ∃ b ∈ eligible ((canonicalCandidates
                (found env options p.request p.snapshot s.state)).map (p.assessed options env)),
              candidateRanksBefore b.ranked a.ranked = true) := by
  obtain ⟨discovered, u, es₁, es₂, rfl, hdiscover, hweigh⟩ := executes_bind.mp h
  obtain ⟨hacts, hfound⟩ := executes_found hdiscover
  obtain ⟨hstate, -⟩ := quiet_state hdiscover.chained fun e he => .inl (hacts e he)
  rw [← hfound, idle_append_honours (idle_of_acts fun e he => .inl (hacts e he))]
  rw [← hstate] at hopen ⊢
  rw [weigh] at hweigh
  rw [crowded]
  by_cases hmany : discovered.length > p.snapshot.limits.maxCandidatesPerRequest.toNat
  · rw [if_pos hmany] at hweigh
    obtain ⟨rfl, -, -⟩ := executes_done.mp hweigh
    rw [decide_eq_true hmany]
    exact iff_of_true (idle_honours idle_nil) fun hnone => (by cases hnone)
  rw [if_neg hmany, rankAndCommit_eq] at hweigh
  rw [decide_eq_false hmany]
  obtain ⟨assessed, v, es₃, es₄, rfl, hassess, hsettle⟩ := executes_bind.mp hweigh
  have hrun := run_of_exec Act.apply hassess
  rw [run_assessAll, Prod.mk.injEq, Prod.mk.injEq] at hrun
  obtain ⟨rfl, hassessed, rfl⟩ := hrun
  rw [List.nil_append, hassessed]
  dsimp only [settle] at hsettle
  by_cases hranked : (eligible assessed).length > p.snapshot.limits.maxRankedCandidates.toNat
  · rw [if_pos hranked] at hsettle
    obtain ⟨rfl, -, -⟩ := executes_done.mp hsettle
    rw [decide_eq_true hranked]
    exact iff_of_true (idle_honours idle_nil) fun hnone => (by cases hnone)
  · rw [if_neg hranked] at hsettle
    rw [decide_eq_false hranked]
    refine Iff.trans ?_ (forall_prop_of_true rfl).symm
    cases hranking : rankAll (eligible assessed) with
    | nil =>
        rw [hranking] at hsettle
        obtain ⟨w, ds, rfl, rfl, hdone⟩ := executes_perform.mp hsettle
        obtain ⟨rfl, -, -⟩ := executes_done.mp hdone
        have hnone : eligible assessed = [] := by
          have hkeys := rankAll_keys (eligible assessed)
          rw [hranking] at hkeys
          exact List.map_eq_nil_iff.mp hkeys.symm.eq_nil
        rw [hnone]
        exact iff_of_true (idle_honours (idle_cons (fun _ => Act.noConfusion) idle_nil))
          (List.forall_mem_nil _)
    | cons winner tail =>
        rw [hranking] at hsettle
        rw [first_ranked hranking (P := fun key =>
          Permits q key.modelId (p.described key u.state).providerId)]
        exact commitWinner_honours hopen hsettle

end

theorem rerouteFresh_honours {now : UnixMillis}
    (h : Executes (· = env) Eq (rerouteFresh options id q.request now) s es outcome t) :
    Honours q es ↔ HeedsFresh options env q s := by
  obtain ⟨fresh, u, es₁, es₂, rfl, hroute, hrest⟩ := executes_bind.mp h
  obtain ⟨result, v, es₃, es₄, rfl, hpass, hdone⟩ := executes_bind.mp hroute
  obtain ⟨rfl, rfl, rfl⟩ := executes_done.mp hdone
  have hlast : Idle es₂ := by
    split at hrest
    · obtain ⟨w, ds, -, rfl, hended⟩ := executes_perform.mp hrest
      obtain ⟨rfl, -, -⟩ := executes_done.mp hended
      exact idle_cons (fun _ => Act.noConfusion) idle_nil
    · obtain ⟨rfl, -, -⟩ := executes_done.mp hrest
      exact idle_nil
  rw [honours_append, and_iff_left (idle_honours hlast), List.append_nil]
  rw [routePass_eq] at hpass
  obtain ⟨x, y, es₅, es₆, rfl, hprepare, hconclude⟩ := executes_bind.mp hpass
  obtain ⟨hadmission, hstate⟩ := executes_admission hprepare
  rw [idle_append_honours (idle_of_acts (executes_prepare hprepare).1), HeedsFresh, ← hadmission]
  cases hx : x with
  | error reason =>
      rw [hx] at hconclude
      obtain ⟨rfl, -, -⟩ := executes_done.mp hconclude
      exact iff_of_true (idle_honours idle_nil) fun p hp => (by cases hp)
  | ok p =>
      rw [hx] at hconclude
      have hconcluded := concluded_honours (q := q) (executes_admitted hprepare hx) hconclude
      rw [hstate] at hconcluded
      rw [hconcluded]
      constructor
      · intro hall p' hp'
        obtain rfl := Except.ok.inj hp'
        exact hall
      · intro hall
        exact hall p rfl

/-- A reroute that runs alone honours the retry policy and the permitted depth exactly where it is
stopped before the walk, or the fallbacks it comes to, and the fresh pass where it comes to that,
heed them. -/
theorem reroute_honours_iff (hstored : s.state.routes.find? id = some stored)
    (h : Executes (· = env) Eq (reroute options id failure raw) s es outcome t) :
    (∀ reason, inquired options env raw stored s = .error reason → Idle es) ∧
      ∀ q, inquired options env raw stored s = .ok q →
        (Honours q es ↔ (governance failure q = none → Heeds options env q (arrived raw s))) := by
  rw [reroute_eq] at h
  obtain ⟨x, u, es₁, es₂, rfl, hinquire, hresume⟩ := executes_bind.mp h
  have hasks := inquire_idle hinquire
  obtain ⟨hinquired, rfl, -⟩ := executes_inquired hstored hinquire
  rw [← hinquired]
  constructor
  · rintro reason rfl
    obtain ⟨rfl, -, -⟩ := executes_done.mp hresume
    exact hasks.append idle_nil
  · rintro q rfl
    have hlive := (inquired_ok hinquired.symm).live
    rw [← arrived_state raw s] at hlive
    rw [idle_append_honours hasks]
    have hreview : Executes (· = env) Eq (review options id failure q) (arrived raw s) es₂ outcome
      t := hresume
    cases hgoverned : governance failure q with
    | some reason =>
        rw [review, hgoverned] at hreview
        obtain ⟨rfl, -, -⟩ := executes_done.mp hreview
        exact iff_of_true (idle_honours idle_nil) fun hnone => (by cases hnone)
    | none =>
        rw [review, hgoverned] at hreview
        obtain ⟨answer, v, es₃, es₄, rfl, htry, hrest⟩ := executes_bind.mp hreview
        obtain ⟨hwalk, hends⟩ := tryFallbacks_honours hlive htry
        rw [honours_append, hwalk, forall_prop_of_true rfl]
        cases hexhausted : exhausted options env q q.stored.plan.fallbacks (arrived raw s) with
        | none =>
            rw [hexhausted] at hends
            obtain ⟨result, rfl⟩ := Option.isSome_iff_exists.mp hends
            obtain ⟨rfl, -, -⟩ := executes_done.mp hrest
            rw [and_iff_left (idle_honours idle_nil)]
            exact ⟨fun hfallbacks => ⟨hfallbacks, fun u hu => (by simp [hexhausted] at hu)⟩,
              fun hheeds => hheeds.fallbacks⟩
        | some u =>
            rw [hexhausted] at hends
            obtain ⟨rfl, rfl⟩ := hends
            rw [rerouteFresh_honours hrest]
            constructor
            · rintro ⟨hfallbacks, hfresh⟩
              refine ⟨hfallbacks, fun w hw => ?_⟩
              obtain rfl := Option.some.inj (hexhausted.symm.trans hw)
              exact hfresh
            · intro hheeds
              exact ⟨hheeds.fallbacks, hheeds.fresh v hexhausted⟩

section

def requestUnder (retryPolicy : RetryReroutePolicy) : RouteRequest :=
  { sampleRequest with
    requirements := { sampleRequest.requirements with retryPolicy := retryPolicy } }

/-- A router that routed one decision and has two fallbacks for it, the first for the same model of
the same provider. -/
def twinWorld : World :=
  (play sampleOptions sampleEnv
    [.start, .mutation (.registerModel (sampleModel ⟨1⟩)),
      .mutation (.registerModel { sampleModel ⟨1⟩ with modelId := ⟨3⟩ }),
      .mutation (.registerBackend (otherBackend ⟨7⟩ ⟨1⟩ ⟨3⟩)),
      .mutation (.registerBackend (otherBackend ⟨8⟩ ⟨1⟩ ⟨3⟩)),
      .mutation (.registerBackend (otherBackend ⟨9⟩ ⟨3⟩ ⟨5⟩)),
      .mutation (.setPolicy
        { samplePolicy with fallbackPolicy := .permitted, maxFallbackDepth := 2 }),
      .route sampleRequest]).2.2

def twinRecord : RouteRecord :=
  (twinWorld.state.routes.find? ⟨101⟩).getD {}

theorem twin_retained : twinWorld.state.routes.find? ⟨101⟩ = some twinRecord := by
  have hretained : (twinWorld.state.routes.find? ⟨101⟩).isSome = true := by decide +kernel
  obtain ⟨record, hrecord⟩ := Option.isSome_iff_exists.mp hretained
  rw [twinRecord, hrecord]
  rfl

/-- The sample request that must stay with the model and the provider. -/
def boundRequest : RouteRequest :=
  requestUnder { allowModelSwitch := false, allowProviderSwitch := false, maxFallbacks := 2 }

def firstStands (q : Inquiry) (w : World) : Bool :=
  match q.stored.plan.fallbacks with
  | [] => false
  | key :: _ =>
    q.request.requirements.retryPolicy.allowReroute &&
      decide (key.modelId = q.stored.decision.authority.modelId) &&
      (offered sampleOptions sampleEnv q w.state key).all (fun assessment =>
        assessment.candidate.backend.providerId = q.stored.decision.authority.providerId) &&
      decide (key ∈ Inquiry.reach q) && (beyond sampleOptions sampleEnv q key w).isNone

theorem firstStands_heeds {w : World} (h : firstStands q w = true) :
    Heeds sampleOptions sampleEnv q w := by
  rw [firstStands] at h
  cases hplan : q.stored.plan.fallbacks with
  | nil =>
      rw [hplan] at h
      cases h
  | cons key rest =>
      rw [hplan] at h
      simp only [Bool.and_eq_true, decide_eq_true_eq, Option.all_eq_true,
        Option.isNone_iff_eq_none] at h
      obtain ⟨⟨⟨⟨hreroute, hmodel⟩, hprovider⟩, hreach⟩, hbeyond⟩ := h
      constructor
      · rw [hplan]
        refine ⟨fun assessment hoffered => ⟨⟨hreroute, fun _ => hmodel, fun _ => ?_⟩, hreach⟩, ?_⟩
        · exact hprovider assessment hoffered
        · intro u hu
          cases hbeyond.symm.trans hu
      · intro u hu
        rw [hplan, exhausted, hbeyond] at hu
        cases hu

/-- A reroute that may switch neither the model nor the provider commits the fallback that does not,
and never looks at the one that does. -/
theorem bound_reroute_honours :
    ∃ q es outcome t, inquired sampleOptions sampleEnv boundRequest twinRecord twinWorld = .ok q ∧
      q.request.requirements.retryPolicy.allowModelSwitch = false ∧
      q.request.requirements.retryPolicy.allowProviderSwitch = false ∧
      q.stored.plan.fallbacks.map (·.modelId) = [⟨1⟩, ⟨3⟩] ∧
      Executes (· = sampleEnv) Eq
        (reroute sampleOptions ⟨101⟩ .unknown boundRequest) twinWorld es outcome t ∧
      outcome.code = .routed ∧ Honours q es := by
  have hfound : (inquired sampleOptions sampleEnv boundRequest twinRecord twinWorld).toOption.any
      (fun q => q.request.requirements.retryPolicy.allowModelSwitch = false ∧
        q.request.requirements.retryPolicy.allowProviderSwitch = false ∧
        q.stored.plan.fallbacks.map (·.modelId) = [⟨1⟩, ⟨3⟩] ∧
        firstStands q (arrived boundRequest twinWorld) = true) = true := by decide +kernel
  cases hq : inquired sampleOptions sampleEnv boundRequest twinRecord twinWorld with
  | error reason =>
      rw [hq] at hfound
      cases hfound
  | ok q =>
      rw [hq] at hfound
      obtain ⟨hmodel, hprovider, hplan, hfirst⟩ := of_decide_eq_true hfound
      have hrun := run_executes (reroute sampleOptions ⟨101⟩ .unknown boundRequest) twinWorld
      have hhonours := ((reroute_honours_iff twin_retained hrun).2 q hq).mpr fun _ =>
        firstStands_heeds hfirst
      exact ⟨q, _, _, _, rfl, hmodel, hprovider, hplan, hrun, by decide +kernel, hhonours⟩

/-- The sample request that forbids reroutes and switches and permits one fallback. -/
def stayingRequest : RouteRequest :=
  requestUnder
    { allowReroute := false
      allowModelSwitch := false
      allowProviderSwitch := false
      maxFallbacks := 1 }

def defies (q : Inquiry) (e : Event World Act) : Bool :=
  match e.act with
  | .commit draft =>
    (commitRefusal draft e.pre.state).isNone &&
      decide (draft.decision.authority.modelId ≠ q.stored.decision.authority.modelId) &&
      decide (draft.decision.authority.providerId ≠ q.stored.decision.authority.providerId) &&
      decide (draft.kind = .fallback ∧ draft.winner ∉ Inquiry.reach q)
  | _ => false

theorem defies_creates {e : Event World Act} (h : defies q e = true) :
    ∃ draft, Creates e draft ∧
      draft.decision.authority.modelId ≠ q.stored.decision.authority.modelId ∧
      draft.decision.authority.providerId ≠ q.stored.decision.authority.providerId ∧
      draft.kind = .fallback ∧ draft.winner ∉ Inquiry.reach q := by
  obtain ⟨k, w⟩ := e
  cases k with
  | commit draft =>
      simp only [defies, Bool.and_eq_true, decide_eq_true_eq, Option.isNone_iff_eq_none] at h
      exact ⟨draft, ⟨rfl, h.1.1.1⟩, h.1.1.2, h.1.2, h.2⟩
  | _ => cases h

/-- A reroute that is allowed neither to reroute nor to switch the model or the provider commits the
second stored fallback where one is permitted. -/
theorem staying_reroute_switches :
    ∃ q es₀ u es outcome t, Executes (· = sampleEnv) Eq
        (inquire sampleOptions ⟨101⟩ stayingRequest) threeWorld es₀ (.ok q) u ∧
      Executes (· = sampleEnv) Eq
        (reroute sampleOptions ⟨101⟩ .unknown stayingRequest) threeWorld es outcome t ∧
      q.request.requirements.retryPolicy.allowReroute = false ∧
      q.request.requirements.retryPolicy.allowModelSwitch = false ∧
      q.request.requirements.retryPolicy.allowProviderSwitch = false ∧
      ∃ e ∈ es, ∃ draft, Creates e draft ∧
        draft.decision.authority.modelId ≠ q.stored.decision.authority.modelId ∧
        draft.decision.authority.providerId ≠ q.stored.decision.authority.providerId ∧
        draft.kind = .fallback ∧ draft.winner ∉ Inquiry.reach q := by
  have hfinds : finds stayingRequest threeWorld (fun q =>
      q.request.requirements.retryPolicy.allowReroute = false ∧
      q.request.requirements.retryPolicy.allowModelSwitch = false ∧
      q.request.requirements.retryPolicy.allowProviderSwitch = false ∧
      (Program.run Act.apply sampleEnv [] (reroute sampleOptions ⟨101⟩ .unknown stayingRequest)
        threeWorld).1.any (defies q) = true) = true := by decide +kernel
  obtain ⟨q, es₀, u, hinquire, hcondition⟩ := finds_executes hfinds
  obtain ⟨hreroute, hmodel, hprovider, hany⟩ := of_decide_eq_true hcondition
  obtain ⟨e, he, hdefies⟩ := List.any_eq_true.mp hany
  exact ⟨q, es₀, u, _, _, _, hinquire, run_executes _ _, hreroute, hmodel, hprovider, e, he,
    defies_creates hdefies⟩

end

end ModelRouter.RetryPolicies
