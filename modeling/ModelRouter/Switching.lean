import ModelRouter.Rerouting

namespace ModelRouter.Switching

open Base Base.Program Base.Refusal Bytes Ids Outcome Capability Evidence Catalog Candidate Authority
open Request Policy Eligibility Decision State Commit Providers Section Pass Route Reroute Router Run
open Courses Consulted Verdicts Rerouting

variable {options : ModelRouterOptions} {id : RouteDecisionId} {failure : FailureClass}
variable {raw : RouteRequest} {E : Env → Prop} {R : World → World → Prop} {s t u : World}
variable {es ds : Trace} {outcome : RouteOutcome} {q : Inquiry} {draft : CommitDraft}

/-- A section that creates a decision. -/
def Creates (e : Event World Act) (draft : CommitDraft) : Prop :=
  e.act = .commit draft ∧ commitRefusal draft e.pre.state = none

/-- What the candidates of the walk are assessed in. -/
def Inquiry.frame (q : Inquiry) : Frame where
  request := q.request
  policy := q.policy
  budget := q.snapshot.budget
  weights := q.snapshot.weights
  scales := q.snapshot.scales
  continuity := q.snapshot.continuity
  now := q.snapshot.now

/-- A stored fallback that the catalog still holds in its incarnation and that passes the hard
checks. -/
structure Usable (E : Env → Prop) (options : ModelRouterOptions) (q : Inquiry) (w : World)
    (key : CandidateKey) (candidate : RouteCandidate) : Prop where
  held : catalogCandidate w.state key.modelId key.backendId = some candidate
  key : candidate.key = key
  eligible : ∃ evidence assessment, Resolves E options q.request q.snapshot candidate evidence ∧
    assess (Inquiry.frame q) candidate evidence = .ok assessment

theorem Taken.mono {met met' : World → Prop} {c : Course} (h : Taken E options raw met c)
    (hmet : ∀ w, met w → met' w) : Taken E options raw met' c := by
  obtain ⟨discovered, hcandidates, hdiscovered⟩ := h.discovered
  refine ⟨h.clock, h.request, ⟨hmet _ h.admitted.1, h.admitted.2⟩, h.policy, h.budget, h.slo,
    ⟨discovered, hcandidates, ?_⟩, h.chosen⟩
  rw [Discovered] at hdiscovered ⊢
  by_cases hsupplied : options.providers.candidates = true
  · rw [if_pos hsupplied] at hdiscovered ⊢
    exact hdiscovered
  · rw [if_neg hsupplied] at hdiscovered ⊢
    obtain ⟨w, hw, hfound⟩ := hdiscovered
    exact ⟨w, hmet w hw, hfound⟩

/-- A trace in which nothing is committed. -/
def Idle (es : Trace) : Prop :=
  ∀ e ∈ es, ∀ draft, e.act ≠ .commit draft

theorem idle_cons {k : Act} {w : World} (hk : ∀ draft, k ≠ .commit draft) (h : Idle es) :
    Idle (⟨k, w⟩ :: es) :=
  List.forall_mem_cons.mpr ⟨hk, h⟩

theorem Idle.append (h : Idle es) (h' : Idle ds) : Idle (es ++ ds) :=
  fun e he => (List.mem_append.mp he).elim (h e) (h' e)

theorem idle_nil : Idle [] :=
  List.forall_mem_nil _

theorem inquire_idle {x : Except Stop Inquiry} (h : Executes E R (inquire options id raw) s es x t) :
    Idle es := by
  obtain ⟨request, u, es₀, es₁, rfl, hidentify, hasks⟩ := executes_bind.mp h
  obtain ⟨hallocates, -⟩ := executes_identify hidentify
  have hnaming : Idle es₀ := by
    intro e he draft hact
    cases (hallocates e he).symm.trans hact
  refine hnaming.append ?_
  obtain ⟨clock, -, hasked⟩ := executes_ask.mp hasks
  obtain ⟨w, rest, -, rfl, hfound⟩ := executes_perform.mp hasked
  refine idle_cons (fun _ => Act.noConfusion) ?_
  cases hstored : w.state.routes.find? id with
  | none =>
      rw [hstored] at hfound
      obtain ⟨rfl, -, -⟩ := executes_done.mp hfound
      exact idle_nil
  | some stored =>
      rw [hstored] at hfound
      rcases executes_proceed hfound with ⟨reason, rfl, -, -⟩ | ⟨_, -, hconsults⟩
      · exact idle_nil
      obtain ⟨answer, v, es₂, es₃, rfl, hconsult, hlast⟩ := executes_bind.mp hconsults
      obtain ⟨rfl, rfl, -⟩ := executes_consult hconsult
      rcases executes_proceed hlast with ⟨reason, rfl, -, -⟩ | ⟨fetched, -, hdone⟩
      · exact idle_nil
      · obtain ⟨rfl, -, -⟩ := executes_done.mp hdone
        exact idle_nil

def Falls (E : Env → Prop) (options : ModelRouterOptions) (q : Inquiry) (es ds : Trace) : Prop :=
  ∀ e ∈ ds, ∀ draft, e.act = .commit draft →
    ∃ key ∈ q.stored.plan.fallbacks, ∃ w, ⟨.observe, w⟩ ∈ es ∧ ∃ candidate,
      Usable E options q w key candidate ∧ draft.winner = key ∧
        draft.decision.authority.modelId = key.modelId ∧
        draft.decision.authority.providerId = candidate.backend.providerId

theorem Idle.falls (h : Idle ds) : Falls E options q es ds :=
  fun e he draft hact => absurd hact (h e he draft)

theorem Falls.append {fs : Trace} (h : Falls E options q es ds) (h' : Falls E options q es fs) :
    Falls E options q es (ds ++ fs) :=
  fun e he => (List.mem_append.mp he).elim (h e) (h' e)

theorem commitSingleCandidate_falls {w : World} {key : CandidateKey} {candidate : RouteCandidate}
    {evidence : CandidateEvidence} (hkey : key ∈ q.stored.plan.fallbacks) (hw : ⟨.observe, w⟩ ∈ es)
    (hheld : catalogCandidate w.state key.modelId key.backendId = some candidate)
    (hincarnation : candidate.key = key)
    (hevidence : Resolves E options q.request q.snapshot candidate evidence)
    (h : Executes E R (commitSingleCandidate q.request q.snapshot q.governing candidate evidence
      q.stored.plan.fallbacks q.permitted) s ds outcome t) : Falls E options q es ds := by
  unfold commitSingleCandidate at h
  dsimp only at h
  split at h
  · obtain ⟨rfl, -, -⟩ := executes_done.mp h
    exact idle_nil.falls
  · rename_i assessment hassess
    obtain ⟨v, fs, -, rfl, hbound⟩ := executes_perform.mp h
    obtain ⟨x, fs', -, rfl, hcommitted⟩ := executes_perform.mp hbound
    have hlast : fs' = [] := by
      split at hcommitted
      · exact (executes_done.mp hcommitted).1
      · exact (executes_done.mp hcommitted).1
    subst hlast
    have hcounted := (assess_ok hassess).1
    have hchosen : assessment.candidate.key = key := by
      rw [hcounted]
      exact hincarnation
    have hbackend : assessment.candidate.backend = candidate.backend := by
      rw [hcounted]
      rfl
    intro e he draft hact
    simp only [List.mem_cons, List.not_mem_nil, or_false] at he
    rcases he with rfl | rfl
    · cases hact
    · obtain rfl := Act.commit.inj hact
      refine ⟨key, hkey, w, hw, candidate, ⟨hheld, hincarnation, evidence, assessment, hevidence,
        hassess⟩, hchosen, ?_, ?_⟩
      · rw [← hchosen]
        rfl
      · rw [← hbackend]
        rfl

theorem tryFallbacks_falls {keys : List CandidateKey}
    (hkeys : ∀ key ∈ keys, key ∈ q.stored.plan.fallbacks) {found : Option RouteOutcome}
    (h : Executes E R (tryFallbacks options id q.request q.snapshot q.governing
      q.stored.plan.fallbacks q.permitted keys) s ds found t) (hseen : ∀ e ∈ ds, e ∈ es) :
    Falls E options q es ds := by
  induction keys generalizing s ds with
  | nil =>
      obtain ⟨rfl, -, -⟩ := executes_done.mp h
      exact idle_nil.falls
  | cons key rest ih =>
      rw [List.forall_mem_cons] at hkeys
      obtain ⟨w, fs, -, rfl, hwalked⟩ := executes_perform.mp h
      rw [List.forall_mem_cons] at hseen
      have hlook : Falls E options q es [⟨.observe, w⟩] :=
        (idle_cons (fun _ => Act.noConfusion) idle_nil).falls
      refine hlook.append ?_
      split at hwalked
      · exact ih hkeys.2 hwalked hseen.2
      · rename_i candidate hcandidate
        obtain ⟨hheld, hincarnation⟩ := Option.filter_eq_some_iff.mp hcandidate
        obtain ⟨evidence, v, es₁, es₂, rfl, hresolve, hgoes⟩ := executes_bind.mp hwalked
        obtain ⟨rfl, rfl, hevidence⟩ := executes_resolve hresolve
        obtain ⟨outcome, x, es₃, es₄, rfl, hcommit, hrest⟩ := executes_bind.mp hgoes
        refine idle_nil.falls.append (Falls.append
          (commitSingleCandidate_falls hkeys.1 hseen.1 hheld (of_decide_eq_true hincarnation)
            hevidence hcommit) ?_)
        have hlater : ∀ e ∈ es₄, e ∈ es := fun e he =>
          hseen.2 e (List.mem_append_right _ (List.mem_append_right _ he))
        split at hrest
        · obtain ⟨y, fs', -, rfl, hdone⟩ := executes_perform.mp hrest
          obtain ⟨rfl, -, -⟩ := executes_done.mp hdone
          exact (idle_cons (fun _ => Act.noConfusion) idle_nil).falls
        · exact ih hkeys.2 hrest hlater

theorem rerouteFresh_commits {now : UnixMillis}
    (h : Executes E R (rerouteFresh options id raw now) s ds outcome t) (hseen : ∀ e ∈ ds, e ∈ es)
    {e : Event World Act} (he : e ∈ ds) (hact : e.act = .commit draft) :
    ∃ c, Taken E options raw (fun w => ⟨.observe, w⟩ ∈ es) c ∧ ⟨.observe, c.bound⟩ ∈ es ∧
      draft = c.draft := by
  obtain ⟨fresh, u, es₁, es₂, rfl, hroute, hrest⟩ := executes_bind.mp h
  obtain ⟨result, v, es₃, es₄, rfl, hpass, hdone⟩ := executes_bind.mp hroute
  obtain ⟨rfl, -, -⟩ := executes_done.mp hdone
  rw [List.append_nil] at he hseen
  have hlast : Idle es₂ := by
    split at hrest
    · obtain ⟨y, fs, -, rfl, hended⟩ := executes_perform.mp hrest
      obtain ⟨rfl, -, -⟩ := executes_done.mp hended
      exact idle_cons (fun _ => Act.noConfusion) idle_nil
    · obtain ⟨rfl, -, -⟩ := executes_done.mp hrest
      exact idle_nil
  rcases List.mem_append.mp he with he | he
  · cases routePass_ending hpass with
    | stopped hnone _ _ => exact absurd hact (hnone e he draft)
    | @committed before c hearly htaken =>
        have hin : ∀ e ∈ before ++ [⟨.observe, c.bound⟩, ⟨.commit c.draft, c.found⟩], e ∈ es :=
          fun e he => hseen e (List.mem_append_left _ he)
        refine ⟨c, Taken.mono htaken fun w hw => hin _ (List.mem_append_left _ hw),
          hin _ (List.mem_append_right _ List.mem_cons_self), ?_⟩
        rcases List.mem_append.mp he with he | he
        · rcases hearly e he with hobserved | hallocated
          · cases hobserved.symm.trans hact
          · cases hallocated.symm.trans hact
        · rcases List.mem_cons.mp he with rfl | he
          · cases hact
          · obtain rfl := List.mem_singleton.mp he
            exact (Act.commit.inj hact).symm
  · exact absurd hact (hlast e he draft)

section

/-- A router with three models on three backends that routed one decision and then lost the backend
of its first fallback. -/
def threeWorld : World :=
  (play sampleOptions sampleEnv
    [.start, .mutation (.registerModel (sampleModel ⟨1⟩)),
      .mutation (.registerModel { sampleModel ⟨1⟩ with modelId := ⟨2⟩ }),
      .mutation (.registerModel { sampleModel ⟨1⟩ with modelId := ⟨3⟩ }),
      .mutation (.registerBackend (otherBackend ⟨7⟩ ⟨1⟩ ⟨3⟩)),
      .mutation (.registerBackend (otherBackend ⟨8⟩ ⟨2⟩ ⟨4⟩)),
      .mutation (.registerBackend (otherBackend ⟨9⟩ ⟨3⟩ ⟨5⟩)),
      .mutation (.setPolicy
        { samplePolicy with fallbackPolicy := .permitted, maxFallbackDepth := 2 }),
      .route sampleRequest, .mutation (.unregisterBackend ⟨8⟩ ⟨1⟩)]).2.2

end

end ModelRouter.Switching
