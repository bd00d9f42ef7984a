import ModelRouter.Bindings
import ModelRouter.Concord
import ModelRouter.Switching

namespace ModelRouter.Receipts

open Base Base.Program Bytes Ids Outcome Capability Candidate Authority Request Eligibility Decision
open State Commit
open Mutations Providers Section Pass Route Reroute Router Run Coherence Courses Discovery Records
open Effects Rerouting Switching Concord Bindings

section

variable (draft : CommitDraft) (e : Event World Act)

def kept : CanonicalState :=
  evict draft.kind e.pre.state

def drawn : RouteAuthority :=
  nameDecision draft.decision.authority ⟨e.pre.nextId⟩

/-- No decision is retained under the identity a commit draws. -/
def Free : Prop :=
  (kept draft e).routes.find? ⟨e.pre.nextId⟩ = none

def comparesCurrent : Prop :=
  (commitComparison (kept draft e) (drawn draft e)).current = true

/-- An authority of the current generations can also be dispatched: it has not expired, its
incarnation is not fenced, and neither the model nor the backend has left service. -/
def Serviceable : Prop :=
  comparesCurrent draft e →
    dispatchabilityReason (kept draft e) (drawn draft e) draft.now = .accepted

end

/-- An outcome carries the decision that a commit left in the retained record, and says that it
routed just when the record was left current. -/
structure Tells (outcome : RouteOutcome) (e : Event World Act) (stored : RouteRecord) : Prop where
  retained : (after e).state.routes.find? ⟨e.pre.nextId⟩ = some stored
  carried : outcome.hasDecision = true
  decision : outcome.decision = stored.decision
  explanation : outcome.route = stored.decision.explanation
  fallbacks : outcome.decision.fallbacks = stored.plan.fallbacks
  code : outcome.code = .routed ↔ stored.decision.status = .current

/-- A draft of a decision to be retained with the fallbacks of its plan. -/
structure Drafted (draft : CommitDraft) : Prop where
  status : draft.decision.status = .current
  fallbacks : draft.decision.fallbacks = draft.plan.fallbacks

/-- An outcome that was made of the reply of a commit. -/
structure Answers (outcome : RouteOutcome) (reply : CommitReply) : Prop where
  carried : outcome.hasDecision = true
  decision : outcome.decision = reply.decision
  explanation : outcome.route = reply.decision.explanation
  code : outcome.code = if reply.committedCurrent then .routed else .revalidationRequired

theorem Answers.routed_iff {outcome : RouteOutcome} {reply : CommitReply}
    (h : Answers outcome reply) : outcome.code = .routed ↔ reply.committedCurrent = true := by
  rw [h.code]
  cases reply.committedCurrent with
  | true => exact iff_of_true rfl rfl
  | false => exact iff_of_false OutcomeCode.noConfusion Bool.noConfusion

section

variable {draft : CommitDraft} {e : Event World Act} {outcome : RouteOutcome}

def brought (draft : CommitDraft) (e : Event World Act) : RouteRecord :=
  committedRecord draft (boundDecision (kept draft e) draft ⟨e.pre.nextId⟩)
    ⟨e.pre.allocate.nextId⟩

def checked (draft : CommitDraft) (e : Event World Act) : RouteRecord :=
  staleDecisionIfNotDispatchable (kept draft e) draft.now (brought draft e)

theorem checked_retained (h : Creates e draft) (hfree : Free draft e) :
    (after e).state.routes.find? ⟨e.pre.nextId⟩ = some (checked draft e) := by
  obtain ⟨k, w⟩ := e
  obtain ⟨rfl, htaken⟩ := h
  have hroutes := commitSection_routes htaken ⟨w.nextId⟩
  rw [if_pos rfl] at hroutes
  have hnone : (evict draft.kind w.state).routes.find? ⟨w.nextId⟩ = none := hfree
  rw [hnone, Option.getD_none] at hroutes
  exact hroutes

theorem brought_status (hdrafted : Drafted draft) :
    ((brought draft e).decision.status = .current ∧ comparesCurrent draft e) ∨
      ((brought draft e).decision.status = .stale ∧ ¬comparesCurrent draft e) := by
  have hstatus : (brought draft e).decision.status =
      if (commitComparison (kept draft e) (drawn draft e)).current then draft.decision.status
      else .stale := rfl
  rw [hstatus, comparesCurrent]
  by_cases hcurrent : (commitComparison (kept draft e) (drawn draft e)).current = true
  · rw [if_pos hcurrent]
    exact .inl ⟨hdrafted.status, hcurrent⟩
  · rw [if_neg hcurrent]
    exact .inr ⟨rfl, hcurrent⟩

theorem brought_authority : (brought draft e).decision.authority = drawn draft e :=
  (boundDecision_parts (kept draft e) draft ⟨e.pre.nextId⟩).1

theorem brought_fallbacks (hdrafted : Drafted draft) :
    (brought draft e).decision.fallbacks = (brought draft e).plan.fallbacks := by
  obtain ⟨-, -, hfallbacks, -⟩ := boundDecision_parts (kept draft e) draft ⟨e.pre.nextId⟩
  exact hfallbacks.trans hdrafted.fallbacks

theorem checked_eq (hdrafted : Drafted draft) (h : Serviceable draft e) :
    checked draft e = brought draft e := by
  rcases brought_status hdrafted with ⟨-, hcurrent⟩ | ⟨hstale, -⟩
  · refine checked_of_dispatchable ?_
    rw [brought_authority]
    exact h hcurrent
  · have hexecutable : (brought draft e).executable = false := by
      rw [RouteRecord.executable, hstale]
      rfl
    rw [checked, staleDecisionIfNotDispatchable, hexecutable]
    rfl

theorem reply_decision (h : Creates e draft) :
    (commitSection draft e.pre).2.decision = (brought draft e).decision :=
  (reply_of_taken h.2).2.1

theorem reply_current_iff (h : Creates e draft) (hfree : Free draft e) (hdrafted : Drafted draft) :
    (commitSection draft e.pre).2.committedCurrent = true ↔
      (checked draft e).decision.status = .current := by
  have hretained := checked_retained h hfree
  obtain ⟨k, w⟩ := e
  obtain ⟨rfl, htaken⟩ := h
  obtain ⟨-, -, hcurrent⟩ := reply_of_taken htaken
  have hfound : (commitSection draft w).1.state.routes.find? ⟨w.nextId⟩ = _ := hretained
  rw [hcurrent, hfound, Option.any_some, Bool.and_eq_true, beq_iff_eq, and_iff_right_iff_imp]
  intro hstatus
  have hbrought := (checked_current_iff.mp hstatus).1
  rcases brought_status hdrafted with ⟨-, hcompares⟩ | ⟨hstale, -⟩
  · exact hcompares
  · cases hbrought.symm.trans hstale

theorem tells_iff (h : Creates e draft) (hfree : Free draft e) (hdrafted : Drafted draft)
    (hanswers : Answers outcome (commitSection draft e.pre).2) :
    (∃ stored, Tells outcome e stored) ↔ Serviceable draft e := by
  have hdecision := hanswers.decision.trans (reply_decision h)
  have hcode := hanswers.routed_iff.trans (reply_current_iff h hfree hdrafted)
  constructor
  · rintro ⟨stored, htells⟩ hcurrent
    obtain rfl := Option.some.inj (htells.retained.symm.trans (checked_retained h hfree))
    rcases brought_status hdrafted with ⟨hstatus, -⟩ | ⟨-, hstale⟩
    · have hkept : (checked draft e).decision.status = .current := by
        rw [← htells.decision, hdecision, hstatus]
      rw [← brought_authority]
      exact (checked_current_iff.mp hkept).2
    · exact absurd hcurrent hstale
  · intro hserviceable
    refine ⟨checked draft e, checked_retained h hfree, hanswers.carried, ?_, ?_, ?_, hcode⟩
    · rw [hdecision, checked_eq hdrafted hserviceable]
    · rw [hanswers.explanation, reply_decision h, checked_eq hdrafted hserviceable]
    · rw [hdecision, checked_eq hdrafted hserviceable]
      exact brought_fallbacks hdrafted

end

/-! The decisions of a routing pass. -/

theorem route_drafted (c : Course) : Drafted c.draft :=
  ⟨rfl, rfl⟩

theorem routed_answers (draft : CommitDraft) (reply : CommitReply) (score : Int) :
    Answers (routedOutcome draft reply score) reply :=
  ⟨rfl, rfl, rfl, rfl⟩

theorem fallback_answers (draft : CommitDraft) (reply : CommitReply) :
    Answers (fallbackOutcome draft reply) reply :=
  ⟨rfl, rfl, rfl, rfl⟩

section

variable {options : ModelRouterOptions} {id : RouteDecisionId} {failure : FailureClass}
variable {raw : RouteRequest} {E : Env → Prop} {R : World → World → Prop} {s t u : World}
variable {es ds : Trace} {outcome : RouteOutcome} {draft : CommitDraft}

def Barren (es : Trace) : Prop :=
  ∀ e ∈ es, ∀ draft, ¬Creates e draft

theorem barren_of_idle (h : Idle es) : Barren es :=
  fun e he draft hcreates => h e he draft hcreates.1

theorem Barren.append (h : Barren es) (h' : Barren ds) : Barren (es ++ ds) :=
  fun e he => (List.mem_append.mp he).elim (h e) (h' e)

/-- How a pass ends: nothing is created, or one decision, from whose commit the outcome is made. -/
inductive Single : Trace → RouteOutcome → Prop where
  | barren {es : Trace} {outcome : RouteOutcome} : Barren es → outcome.hasDecision = false →
      Single es outcome
  | created {before : Trace} {draft : CommitDraft} {w : World} {outcome : RouteOutcome} :
      Barren before → Creates ⟨.commit draft, w⟩ draft → Drafted draft → draft.kind = .route →
      Answers outcome (commitSection draft w).2 →
      (∃ ranking, draft.decision.explanation.tieBreakReason = tieBreakReason ranking) →
      Single (before ++ [⟨.commit draft, w⟩]) outcome

theorem refused_reply {w : World} {reason : Stop} (h : commitRefusal draft w.state = some reason) :
    (commitSection draft w).2.refusal = some reason := by
  rw [commitSection, h]

theorem refused_barren {w : World} {reason : Stop} (h : commitRefusal draft w.state = some reason) :
    Barren [⟨.commit draft, w⟩] := by
  intro e he other hcreates
  obtain rfl := List.mem_singleton.mp he
  obtain ⟨hact, htaken⟩ := hcreates
  rw [← Act.commit.inj hact, h] at htaken
  cases htaken

theorem route_single (h : Executes E R (route options raw) s es outcome t) : Single es outcome := by
  obtain ⟨result, v, es₁, es₂, rfl, hpass, hdone⟩ := executes_bind.mp h
  obtain ⟨rfl, rfl, rfl⟩ := executes_done.mp hdone
  rw [List.append_nil]
  cases routePass_ending hpass with
  | stopped hnone _ hdecision => exact .barren (barren_of_idle hnone) hdecision
  | @committed before c hearly htaken =>
      have hbefore : Idle (before ++ [⟨.observe, c.bound⟩]) := by
        refine Idle.append (fun e he draft hact => ?_) (idle_cons (fun _ => Act.noConfusion) idle_nil)
        rcases hearly e he with hobserved | hallocated
        · cases hobserved.symm.trans hact
        · cases hallocated.symm.trans hact
      have hsplit : before ++ [⟨.observe, c.bound⟩, ⟨.commit c.draft, c.found⟩] =
          (before ++ [⟨.observe, c.bound⟩]) ++ [⟨.commit c.draft, c.found⟩] :=
        (List.append_assoc before [⟨.observe, c.bound⟩] [⟨.commit c.draft, c.found⟩]).symm
      rw [hsplit, Course.result]
      cases hrefusal : commitRefusal c.draft c.found.state with
      | some reason =>
          rw [refused_reply hrefusal]
          exact .barren ((barren_of_idle hbefore).append (refused_barren hrefusal)) rfl
      | none =>
          rw [(reply_of_taken hrefusal).1]
          exact .created (barren_of_idle hbefore) ⟨rfl, hrefusal⟩ (route_drafted c) rfl (routed_answers _ _ _)
            ⟨_, rfl⟩

/-- The draft of one freshly validated fallback. -/
structure Fallen (draft : CommitDraft) : Prop where
  drafted : Drafted draft
  kind : draft.kind = .fallback
  reason : draft.decision.explanation.tieBreakReason =
    "single freshly revalidated fallback candidate"

/-- What the walk over the fallbacks creates: decisions it goes on from, and at its end one that it
returns. -/
inductive Walked : Trace → Option RouteOutcome → Prop where
  | barren {es : Trace} {found : Option RouteOutcome} : Barren es →
      (∀ outcome, found = some outcome → outcome.code = .routed) → Walked es found
  | returned {front back : Trace} {draft : CommitDraft} {w : World} {outcome : RouteOutcome} :
      Barren front → Barren back → Creates ⟨.commit draft, w⟩ draft → Fallen draft →
      Answers outcome (commitSection draft w).2 → outcome.code = .routed →
      Walked (front ++ ⟨.commit draft, w⟩ :: back) (some outcome)
  | left {front es : Trace} {draft : CommitDraft} {w : World} {outcome : RouteOutcome}
      {found : Option RouteOutcome} : Barren front → Creates ⟨.commit draft, w⟩ draft →
      Fallen draft → Answers outcome (commitSection draft w).2 → outcome.code ≠ .routed →
      Walked es found → Walked (front ++ ⟨.commit draft, w⟩ :: es) found

theorem Walked.after {found : Option RouteOutcome} (h : Walked es found) (hds : Barren ds) :
    Walked (ds ++ es) found := by
  cases h with
  | barren hes hcode => exact .barren (hds.append hes) hcode
  | returned hfront hback hcreates hfallen hanswers hcode =>
      rw [← List.append_assoc]
      exact .returned (hds.append hfront) hback hcreates hfallen hanswers hcode
  | left hfront hcreates hfallen hanswers hcode hrest =>
      rw [← List.append_assoc]
      exact .left (hds.append hfront) hcreates hfallen hanswers hcode hrest

/-- One attempt of the walk. -/
inductive Attempt : Trace → RouteOutcome → Prop where
  | barren {es : Trace} {outcome : RouteOutcome} : Barren es → Attempt es outcome
  | created {before : Trace} {draft : CommitDraft} {w : World} {outcome : RouteOutcome} :
      Barren before → Creates ⟨.commit draft, w⟩ draft → Fallen draft →
      Answers outcome (commitSection draft w).2 → Attempt (before ++ [⟨.commit draft, w⟩]) outcome

theorem executes_reply {w : World} (hfallen : Fallen draft) (hes : Barren es)
    (h : Executes E R (match (commitSection draft w).2.refusal with
      | some reason => pure (rerouteStopped reason)
      | none => pure (fallbackOutcome draft (commitSection draft w).2)) s ds outcome t) :
    Attempt (es ++ ⟨.commit draft, w⟩ :: ds) outcome := by
  cases hrefusal : commitRefusal draft w.state with
  | some reason =>
      rw [refused_reply hrefusal] at h
      obtain ⟨rfl, -, -⟩ := executes_done.mp h
      exact .barren (hes.append (refused_barren hrefusal))
  | none =>
      rw [(reply_of_taken hrefusal).1] at h
      obtain ⟨rfl, rfl, -⟩ := executes_done.mp h
      exact .created hes ⟨rfl, hrefusal⟩ hfallen (fallback_answers draft _)

theorem commitSingleCandidate_attempt {request : RouteRequest} {snapshot : Snapshot}
    {governing : Governing} {candidate : RouteCandidate} {evidence : CandidateEvidence}
    {planned : List CandidateKey} {permitted : UInt32}
    (h : Executes E R (commitSingleCandidate request snapshot governing candidate evidence planned
      permitted) s es outcome t) : Attempt es outcome := by
  unfold commitSingleCandidate at h
  dsimp only at h
  split at h
  · obtain ⟨rfl, -, -⟩ := executes_done.mp h
    exact .barren (barren_of_idle idle_nil)
  · rename_i assessment hassess
    obtain ⟨v, fs, -, rfl, hbound⟩ := executes_perform.mp h
    obtain ⟨w, fs', -, rfl, hcommitted⟩ := executes_perform.mp hbound
    have hobserves : Barren [⟨.observe, v⟩] :=
      barren_of_idle (idle_cons (fun _ => Act.noConfusion) idle_nil)
    exact executes_reply ⟨⟨rfl, rfl⟩, rfl, rfl⟩ hobserves hcommitted

theorem tryFallbacks_walked {request : RouteRequest} {snapshot : Snapshot} {governing : Governing}
    {planned keys : List CandidateKey} {permitted : UInt32} {found : Option RouteOutcome}
    (h : Executes E R (tryFallbacks options id request snapshot governing planned permitted keys) s
      es found t) : Walked es found := by
  have hsection {k : Act} {w : World} (hk : ∀ draft, k ≠ .commit draft) : Barren [⟨k, w⟩] :=
    barren_of_idle (idle_cons hk idle_nil)
  induction keys generalizing s es with
  | nil =>
      obtain ⟨rfl, rfl, -⟩ := executes_done.mp h
      exact .barren (barren_of_idle idle_nil) fun _ hnone => nomatch hnone
  | cons key rest ih =>
      obtain ⟨w, fs, -, rfl, hwalked⟩ := executes_perform.mp h
      have hobserve : Barren [(⟨.observe, w⟩ : Event World Act)] :=
        hsection fun _ => Act.noConfusion
      refine Walked.after ?_ hobserve
      split at hwalked
      · exact ih hwalked
      · obtain ⟨evidence, v, es₁, es₂, rfl, hresolve, hgoes⟩ := executes_bind.mp hwalked
        obtain ⟨rfl, -, -⟩ := executes_resolve hresolve
        obtain ⟨outcome, x, es₃, es₄, rfl, hcommit, hrest⟩ := executes_bind.mp hgoes
        have hattempt := commitSingleCandidate_attempt hcommit
        rw [List.nil_append]
        split at hrest
        · rename_i hrouted
          obtain ⟨y, fs', -, rfl, hdone⟩ := executes_perform.mp hrest
          obtain ⟨rfl, rfl, -⟩ := executes_done.mp hdone
          have hmarks : Barren [⟨.supersede id snapshot.now false, y⟩] :=
            hsection fun _ => Act.noConfusion
          cases hattempt with
          | barren hes => exact .barren (hes.append hmarks) fun _ h => Option.some.inj h ▸ hrouted
          | @created before draft u _ hbefore hcreates hfallen hanswers =>
              rw [List.append_assoc]
              exact .returned hbefore hmarks hcreates hfallen hanswers hrouted
        · rename_i hleft
          cases hattempt with
          | barren hes => exact (ih hrest).after hes
          | @created before draft u _ hbefore hcreates hfallen hanswers =>
              rw [List.append_assoc]
              exact .left hbefore hcreates hfallen hanswers hleft (ih hrest)

/-- The sections of `route` or of `reroute`, split where the walk over the fallbacks ends. -/
inductive Routed : Trace → RouteOutcome → Prop where
  | route {es : Trace} {outcome : RouteOutcome} : Single es outcome → Routed es outcome
  | stopped {es : Trace} {outcome : RouteOutcome} : Barren es → Routed es outcome
  | fallback {es : Trace} {outcome : RouteOutcome} : Walked es (some outcome) → Routed es outcome
  | fresh {es ds fs : Trace} {outcome : RouteOutcome} : Walked es none → Single ds outcome →
      Barren fs → Routed (es ++ (ds ++ fs)) outcome

/-- An operation that routes. -/
inductive Routing (options : ModelRouterOptions) : Operation RouteOutcome → Prop where
  | route (raw : RouteRequest) : Routing options (route options raw)
  | reroute (id : RouteDecisionId) (failure : FailureClass) (raw : RouteRequest) :
      Routing options (reroute options id failure raw)

theorem reroute_routed (h : Executes E R (reroute options id failure raw) s es outcome t) :
    Routed es outcome := by
  rcases executes_reroute h with ⟨reason, rfl, hinquire⟩ |
    ⟨q, u, es₁, es₂, rfl, hinquire, hreview⟩
  · exact .stopped (barren_of_idle (inquire_idle hinquire))
  have hearly := barren_of_idle (inquire_idle hinquire)
  rcases executes_proceed hreview with ⟨reason, rfl, -, -⟩ | ⟨_, -, hwalk⟩
  · rw [List.append_nil]
    exact .stopped hearly
  obtain ⟨found, v, es₃, es₄, rfl, htry, hrest⟩ := executes_bind.mp hwalk
  have hwalked := (tryFallbacks_walked htry).after hearly
  cases found with
  | some result =>
      obtain ⟨rfl, rfl, -⟩ := executes_done.mp hrest
      rw [List.append_nil]
      exact .fallback hwalked
  | none =>
      obtain ⟨fresh, x, es₅, es₆, rfl, hroute, hmark⟩ := executes_bind.mp hrest
      have hlast : outcome = fresh ∧ Barren es₆ := by
        split at hmark
        · obtain ⟨y, fs, -, rfl, hdone⟩ := executes_perform.mp hmark
          obtain ⟨rfl, hsame, -⟩ := executes_done.mp hdone
          exact ⟨hsame, barren_of_idle (idle_cons (fun _ => Act.noConfusion) idle_nil)⟩
        · obtain ⟨rfl, hsame, -⟩ := executes_done.mp hmark
          exact ⟨hsame, barren_of_idle idle_nil⟩
      obtain ⟨rfl, hbarren⟩ := hlast
      rw [← List.append_assoc]
      exact .fresh hwalked (route_single hroute) hbarren

theorem routing_routed {p : Operation RouteOutcome} (hp : Routing options p)
    (h : Executes E R p s es outcome t) : Routed es outcome := by
  cases hp with
  | route raw => exact .route (route_single h)
  | reroute id failure raw => exact reroute_routed h

/-- A commit that leaves what its outcome says: nothing was retained under its identity, the late
check withdraws nothing, and a fallback is still of the current generations. -/
structure Steady (draft : CommitDraft) (e : Event World Act) : Prop where
  free : Free draft e
  serviceable : Serviceable draft e
  current : draft.kind = .fallback → comparesCurrent draft e

/-- A property of all decisions a trace creates. -/
def AllCreated (es : Trace) (P : CommitDraft → Event World Act → Prop) : Prop :=
  ∀ e ∈ es, ∀ draft, Creates e draft → P draft e

section

variable {P : CommitDraft → Event World Act → Prop} {w : World}

theorem AllCreated.left (h : AllCreated (es ++ ds) P) : AllCreated es P :=
  fun e he => h e (List.mem_append_left ds he)

theorem AllCreated.right (h : AllCreated (es ++ ds) P) : AllCreated ds P :=
  fun e he => h e (List.mem_append_right es he)

theorem AllCreated.append (h : AllCreated es P) (h' : AllCreated ds P) : AllCreated (es ++ ds) P :=
  fun e he => (List.mem_append.mp he).elim (h e) (h' e)

theorem Barren.all (h : Barren es) : AllCreated es P :=
  fun e he draft hcreates => absurd hcreates (h e he draft)

theorem allCreated_cons (h : P draft ⟨.commit draft, w⟩) (hes : AllCreated es P) :
    AllCreated (⟨.commit draft, w⟩ :: es) P := by
  intro e he other hcreates
  rcases List.mem_cons.mp he with rfl | he
  · obtain rfl := Act.commit.inj hcreates.1
    exact h
  · exact hes e he other hcreates

theorem AllCreated.head (h : AllCreated (⟨.commit draft, w⟩ :: es) P)
    (hcreates : Creates ⟨.commit draft, w⟩ draft) : P draft ⟨.commit draft, w⟩ :=
  h _ List.mem_cons_self draft hcreates

end

/-- What the outcome says of every decision the trace creates. -/
def AllTold (es : Trace) (outcome : RouteOutcome) : Prop :=
  AllCreated es fun _ e => ∃ stored, Tells outcome e stored

section

variable {w : World}

theorem routed_iff (hcreates : Creates ⟨.commit draft, w⟩ draft)
    (hfree : Free draft ⟨.commit draft, w⟩) (hdrafted : Drafted draft)
    (hanswers : Answers outcome (commitSection draft w).2) :
    outcome.code = .routed ↔ comparesCurrent draft ⟨.commit draft, w⟩ ∧
      Serviceable draft ⟨.commit draft, w⟩ := by
  rw [hanswers.routed_iff, reply_current_iff hcreates hfree hdrafted, checked, checked_current_iff,
    brought_authority]
  constructor
  · rintro ⟨hcurrent, hreason⟩
    rcases brought_status hdrafted with ⟨-, hcompares⟩ | ⟨hstale, -⟩
    · exact ⟨hcompares, fun _ => hreason⟩
    · cases hcurrent.symm.trans hstale
  · rintro ⟨hcompares, hserviceable⟩
    rcases brought_status hdrafted with ⟨hcurrent, -⟩ | ⟨-, hstale⟩
    · exact ⟨hcurrent, hserviceable hcompares⟩
    · exact absurd hcompares hstale

end

theorem single_told (h : Single es outcome) (hsteady : AllCreated es Steady) :
    AllTold es outcome := by
  cases h with
  | barren hes _ => exact hes.all
  | @created before draft w _ hbefore hcreates hdrafted hkind hanswers hreason =>
      have hlast := (hsteady.right).head hcreates
      exact hbefore.all.append (allCreated_cons
        ((tells_iff hcreates hlast.free hdrafted hanswers).mpr hlast.serviceable)
        (List.forall_mem_nil _))

theorem single_steady (h : Single es outcome) (hfree : AllCreated es Free)
    (htold : AllTold es outcome) : AllCreated es Steady := by
  cases h with
  | barren hes _ => exact hes.all
  | @created before draft w _ hbefore hcreates hdrafted hkind hanswers hreason =>
      have hlast := (hfree.right).head hcreates
      have hserviceable := (tells_iff hcreates hlast hdrafted hanswers).mp
        ((AllCreated.right htold).head hcreates)
      refine hbefore.all.append (allCreated_cons ⟨hlast, hserviceable, fun hfallback => ?_⟩
        (List.forall_mem_nil _))
      cases hkind.symm.trans hfallback

theorem walked_told {found : Option RouteOutcome} (h : Walked es found)
    (hsteady : AllCreated es Steady) :
    Barren es ∨ ∃ outcome, found = some outcome ∧ AllTold es outcome := by
  induction h with
  | barren hes _ => exact .inl hes
  | @returned front back draft w outcome hfront hback hcreates hfallen hanswers hcode =>
      have hlast := (hsteady.right).head hcreates
      exact .inr ⟨outcome, rfl, hfront.all.append (allCreated_cons
        ((tells_iff hcreates hlast.free hfallen.drafted hanswers).mpr hlast.serviceable) hback.all)⟩
  | @left front rest draft w outcome found hfront hcreates hfallen hanswers hcode hrest ih =>
      have hlast := (hsteady.right).head hcreates
      have hrouted := (routed_iff hcreates hlast.free hfallen.drafted hanswers).mpr
        ⟨hlast.current hfallen.kind, hlast.serviceable⟩
      exact absurd hrouted hcode

theorem walked_steady {found : Option RouteOutcome} (h : Walked es found)
    (hfree : AllCreated es Free) (htold : AllTold es outcome)
    (hfinal : ∀ draft e stored, Creates e draft → Fallen draft → Free draft e →
      Tells outcome e stored → outcome.code = .routed) : AllCreated es Steady := by
  have htells {draft : CommitDraft} {w : World} (hcreates : Creates ⟨.commit draft, w⟩ draft)
      (hfallen : Fallen draft) (hfree : Free draft ⟨.commit draft, w⟩)
      (htold : ∃ stored, Tells outcome ⟨.commit draft, w⟩ stored) :
      (checked draft ⟨.commit draft, w⟩).decision.status = .current := by
    obtain ⟨stored, htells⟩ := htold
    obtain rfl := Option.some.inj (htells.retained.symm.trans (checked_retained hcreates hfree))
    exact htells.code.mp (hfinal draft _ _ hcreates hfallen hfree htells)
  induction h with
  | barren hes _ => exact hes.all
  | @returned front back draft w result hfront hback hcreates hfallen hanswers hcode =>
      have hlast := (hfree.right).head hcreates
      obtain ⟨hcompares, hserviceable⟩ :=
        (routed_iff hcreates hlast hfallen.drafted hanswers).mp hcode
      exact hfront.all.append
        (allCreated_cons ⟨hlast, hserviceable, fun _ => hcompares⟩ hback.all)
  | @left front rest draft w result found hfront hcreates hfallen hanswers hcode hrest ih =>
      have hlast := (hfree.right).head hcreates
      have hcurrent := htells hcreates hfallen hlast ((AllCreated.right htold).head hcreates)
      rw [← reply_current_iff hcreates hlast hfallen.drafted, ← hanswers.routed_iff] at hcurrent
      exact absurd hcurrent hcode

theorem walked_routed {found : Option RouteOutcome} (h : Walked es found)
    (hfound : found = some outcome) : outcome.code = .routed := by
  induction h with
  | barren _ hcode => exact hcode outcome hfound
  | returned _ _ _ _ _ hcode => exact Option.some.inj hfound ▸ hcode
  | left _ _ _ _ _ _ ih => exact ih hfound

theorem brought_reason (draft : CommitDraft) (e : Event World Act) :
    (brought draft e).decision.explanation.tieBreakReason =
      draft.decision.explanation.tieBreakReason := by
  change (boundDecision _ _ _).explanation.tieBreakReason = _
  rw [boundDecision]
  dsimp only
  split
  · rfl
  · rfl

theorem tieBreakReason_ne (ranking : List RankedCandidate) :
    tieBreakReason ranking ≠ "single freshly revalidated fallback candidate" := by
  unfold tieBreakReason
  split
  · split
    · decide
    · decide
  · decide

theorem single_not_fallen (h : Single es outcome) {e : Event World Act} {stored : RouteRecord}
    (hcreates : Creates e draft) (hfallen : Fallen draft) (hfree : Free draft e)
    (htells : Tells outcome e stored) : False := by
  obtain rfl := Option.some.inj (htells.retained.symm.trans (checked_retained hcreates hfree))
  have hreason : (checked draft e).decision.explanation.tieBreakReason =
      draft.decision.explanation.tieBreakReason := by
    rw [checked]
    rcases staleDecisionIfNotDispatchable_cases (kept draft e) draft.now (brought draft e) with
      hsame | ⟨-, hstale⟩
    · rw [hsame]
      exact brought_reason draft e
    · rw [hstale]
      exact brought_reason draft e
  cases h with
  | barren _ hdecision => cases hdecision.symm.trans htells.carried
  | @created before other w _ hbefore hother _ _ hanswers hranking =>
      obtain ⟨ranking, hranking⟩ := hranking
      have hdecision : outcome.decision = (brought other ⟨.commit other, w⟩).decision :=
        hanswers.decision.trans (reply_decision hother)
      rw [← htells.decision, hdecision, brought_reason, hranking, hfallen.reason] at hreason
      exact tieBreakReason_ne ranking hreason

theorem routed_told (h : Routed es outcome) (hsteady : AllCreated es Steady) :
    AllTold es outcome := by
  cases h with
  | route hsingle => exact single_told hsingle hsteady
  | stopped hes => exact hes.all
  | fallback hwalked =>
      rcases walked_told hwalked hsteady with hbarren | ⟨result, hresult, htold⟩
      · exact hbarren.all
      · exact Option.some.inj hresult ▸ htold
  | fresh hwalked hsingle hlast =>
      rcases walked_told hwalked hsteady.left with hbarren | ⟨result, hresult, -⟩
      · exact hbarren.all.append ((single_told hsingle hsteady.right.left).append hlast.all)
      · cases hresult

theorem routed_steady (h : Routed es outcome) (hfree : AllCreated es Free)
    (htold : AllTold es outcome) : AllCreated es Steady := by
  cases h with
  | route hsingle => exact single_steady hsingle hfree htold
  | stopped hes => exact hes.all
  | fallback hwalked =>
      exact walked_steady hwalked hfree htold fun _ _ _ _ _ _ _ => walked_routed hwalked rfl
  | fresh hwalked hsingle hlast =>
      refine (walked_steady hwalked hfree.left (AllCreated.left htold) ?_).append
        ((single_steady hsingle hfree.right.left (AllCreated.left (AllCreated.right htold))).append
          hlast.all)
      intro draft e stored hcreates hfallen hunheld htells
      exact (single_not_fallen hsingle hcreates hfallen hunheld htells).elim

/-- The outcome of `route` and of `reroute` says of every decision created what was retained where
each commit is steady; and under free identities nowhere else. -/
theorem outcome_told {p : Operation RouteOutcome} (hp : Routing options p)
    (h : Executes E R p s es outcome t) :
    (AllCreated es Steady → AllTold es outcome) ∧
      (AllCreated es Free → AllTold es outcome → AllCreated es Steady) :=
  ⟨routed_told (routing_routed hp h), routed_steady (routing_routed hp h)⟩

end

section

def liveWorld : World :=
  (play sampleOptions sampleEnv liveCatalog).2.2

theorem sample_outcome_told :
    let r := Program.run Act.apply sampleEnv [] (route sampleOptions sampleRequest) liveWorld
    (AllCreated r.1 Steady → AllTold r.1 r.2.1) ∧
      (AllCreated r.1 Free → AllTold r.1 r.2.1 → AllCreated r.1 Steady) :=
  outcome_told (.route sampleRequest) (run_executes (route sampleOptions sampleRequest) liveWorld)

def fencesBoot (w : World) : World :=
  (Program.run Act.apply sampleEnv []
    (Op.program sampleOptions (.mutation (.fenceBackendBoot ⟨7⟩ ⟨1⟩ ⟨1⟩ .fenced))) w).2.2

def overtaken : Trace × RouteOutcome × World :=
  Program.run Act.apply sampleEnv [id, id, id, fencesBoot] (route sampleOptions sampleRequest)
    liveWorld

def tellsStatus (outcome : RouteOutcome) (e : Event World Act) : Bool :=
  match e.act with
  | .commit draft =>
    (commitRefusal draft e.pre.state).isSome ||
      ((after e).state.routes.find? ⟨e.pre.nextId⟩).any fun stored =>
        decide (outcome.decision.status = stored.decision.status)
  | _ => true

theorem overtaken_untold : ¬AllTold overtaken.1 overtaken.2.1 := by
  intro htold
  have hall : overtaken.1.all (tellsStatus overtaken.2.1) = true := by
    refine List.all_eq_true.mpr fun e he => ?_
    rw [tellsStatus]
    split
    · rename_i draft hact
      cases hrefusal : commitRefusal draft e.pre.state with
      | some reason => rfl
      | none =>
          obtain ⟨stored, htells⟩ := htold e he draft ⟨hact, hrefusal⟩
          rw [htells.retained, htells.decision]
          simp
    · rfl
  exact absurd hall (by decide +kernel)

theorem fencesBoot_meanwhile (w : World) : Meanwhile sampleOptions sampleEnv w (fencesBoot w) :=
  .single ⟨_, _, _, run_executes _ w⟩

theorem overtaken_executes :
    Executes (· = sampleEnv) (Meanwhile sampleOptions sampleEnv)
      (route sampleOptions sampleRequest) liveWorld overtaken.1 overtaken.2.1 overtaken.2.2 := by
  refine Program.run_exec Act.apply sampleEnv _ _ (fun _ => .refl) fun g hg w => ?_
  simp only [List.mem_cons, List.not_mem_nil, or_false] at hg
  rcases hg with rfl | rfl | rfl | rfl
  · exact .refl
  · exact .refl
  · exact .refl
  · exact fencesBoot_meanwhile w

/-- A pass commits a decision that the late check withdraws, and returns it as current. -/
theorem withdrawn_decision_returned :
    ¬∀ (options : ModelRouterOptions) (env : Env) (highest : UInt64) (before es : Trace)
        (calls : List (Op × Reply)) (s t : World) (raw : RouteRequest) (outcome : RouteOutcome),
      History options (constantly env) highest before calls s →
      Executes (· = env) (Meanwhile options env) (route options raw) s es outcome t →
      AllTold es outcome := by
  intro h
  exact overtaken_untold (h sampleOptions sampleEnv 100 _ _ _ _ _ sampleRequest _
    (play_history sampleOptions sampleEnv liveCatalog) overtaken_executes)

end

end ModelRouter.Receipts
