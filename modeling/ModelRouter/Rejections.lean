import ModelRouter.Discovery
import ModelRouter.FullScan
import ModelRouter.Records

namespace ModelRouter.Rejections

open Base Base.Program Bytes Ids Outcome Capability Limits Candidate Authority Request Decision State
open Commit Eligibility Providers Section Pass Route Stages Run Sorting Repertoire Rankings Courses
open Discovery FullScan Indexing Records

/-- No rejection comes before an earlier one in the canonical order. -/
def Canonical (rejections : List RouteRejection) : Prop :=
  rejections.Pairwise fun earlier later => later.canonicalLess earlier = false

/-- A candidate that was refused, with the verdict on it. -/
structure Refused where
  key : CandidateKey
  verdict : EligibilityVerdict

namespace Refused

def report (r : Refused) : RouteRejection :=
  rejectionOf { key := r.key } r.verdict

def ReasonBefore (r q : Refused) : Prop :=
  r.verdict.code.ctorIdx < q.verdict.code.ctorIdx ∨
    r.verdict.code = q.verdict.code ∧ r.verdict.detail < q.verdict.detail

def PlacedBefore (r q : Refused) : Prop :=
  r.key.backendId < q.key.backendId ∨ r.key.backendId = q.key.backendId ∧
    (r.key.backendBoot < q.key.backendBoot ∨ r.key.backendBoot = q.key.backendBoot ∧
      (r.key.backendGeneration < q.key.backendGeneration ∨
        r.key.backendGeneration = q.key.backendGeneration ∧
          (r.key.endpointId < q.key.endpointId ∨
            r.key.endpointId = q.key.endpointId ∧ r.ReasonBefore q)))

end Refused

/-- Two refused candidates, in the order of their keys, whose reports are in the other order: the
keys put the artifact before the backend, the generation of a backend before its boot, and that of
an endpoint before the reason. -/
inductive Misplaced (a b : Refused) : Prop where
  | artifact : a.key.modelId = b.key.modelId → a.key.modelGeneration = b.key.modelGeneration →
      a.key.artifactGeneration < b.key.artifactGeneration → b.PlacedBefore a → Misplaced a b
  | incarnation : a.key.modelId = b.key.modelId →
      a.key.modelGeneration = b.key.modelGeneration →
      a.key.artifactGeneration = b.key.artifactGeneration → a.key.backendId = b.key.backendId →
      a.key.backendGeneration < b.key.backendGeneration →
      b.key.backendBoot < a.key.backendBoot → Misplaced a b
  | endpoint : a.key.modelId = b.key.modelId → a.key.modelGeneration = b.key.modelGeneration →
      a.key.artifactGeneration = b.key.artifactGeneration → a.key.backendId = b.key.backendId →
      a.key.backendGeneration = b.key.backendGeneration → a.key.backendBoot = b.key.backendBoot →
      a.key.endpointId = b.key.endpointId → a.key.endpointGeneration < b.key.endpointGeneration →
      b.ReasonBefore a → Misplaced a b

section

variable {a b : Refused}

theorem rung {α : Type} [DecidableEq α] (before : α → α → Prop) [DecidableRel before]
    (hirrefl : ∀ x, ¬before x x) {x y : α} {rest : Bool} :
    (if x ≠ y then decide (before x y) else rest) = true ↔ before x y ∨ x = y ∧ rest = true := by
  by_cases h : x = y
  · subst h
    simp [hirrefl]
  · simp [h]

theorem entity_rung {t : Tag} {i j : EntityId t} {rest : Bool} :
    (if i.value ≠ j.value then decide (i.value < j.value) else rest) = true ↔
      i < j ∨ i = j ∧ rest = true := by
  refine (rung (· < ·) UInt64.lt_irrefl).trans (or_congr UInt64.lt_iff_toNat_lt ?_)
  exact and_congr_left fun _ => (EntityId.mk.injEq i.value j.value).symm.to_iff

theorem report_before : b.report.canonicalLess a.report = true ↔
    b.key.modelId < a.key.modelId ∨ b.key.modelId = a.key.modelId ∧
      (b.key.modelGeneration < a.key.modelGeneration ∨
        b.key.modelGeneration = a.key.modelGeneration ∧ b.PlacedBefore a) := by
  refine entity_rung.trans (or_congr_right (and_congr_right fun _ => ?_))
  refine (rung (· < ·) lt_irrefl).trans (or_congr_right (and_congr_right fun _ => ?_))
  refine entity_rung.trans (or_congr_right (and_congr_right fun _ => ?_))
  refine (rung (· < ·) lt_irrefl).trans (or_congr_right (and_congr_right fun _ => ?_))
  refine (rung (· < ·) lt_irrefl).trans (or_congr_right (and_congr_right fun _ => ?_))
  refine entity_rung.trans (or_congr_right (and_congr_right fun _ => ?_))
  refine (rung (fun c d : OutcomeCode => c.ctorIdx < d.ctorIdx) fun c => lt_irrefl _).trans ?_
  exact or_congr_right (and_congr_right fun _ => decide_eq_true_iff)

theorem key_before : a.key < b.key ↔
    a.key.modelId < b.key.modelId ∨ a.key.modelId = b.key.modelId ∧
      (a.key.modelGeneration < b.key.modelGeneration ∨
        a.key.modelGeneration = b.key.modelGeneration ∧
      (a.key.artifactGeneration < b.key.artifactGeneration ∨
        a.key.artifactGeneration = b.key.artifactGeneration ∧
      (a.key.backendId < b.key.backendId ∨ a.key.backendId = b.key.backendId ∧
      (a.key.backendGeneration < b.key.backendGeneration ∨
        a.key.backendGeneration = b.key.backendGeneration ∧
      (a.key.backendBoot < b.key.backendBoot ∨ a.key.backendBoot = b.key.backendBoot ∧
      (a.key.endpointId < b.key.endpointId ∨ a.key.endpointId = b.key.endpointId ∧
        a.key.endpointGeneration < b.key.endpointGeneration)))))) := by
  have hentity {t : Tag} (i j : EntityId t) : i.value.toNat = j.value.toNat ↔ i = j :=
    UInt64.toNat_inj.trans (EntityId.mk.injEq i.value j.value).symm.to_iff
  have hgeneration {t : Tag} (g h : Generation t) : g.value.toNat = h.value.toNat ↔ g = h :=
    UInt64.toNat_inj.trans (Generation.mk.injEq g.value h.value).symm.to_iff
  change a.key.members < b.key.members ↔ _
  simp only [CandidateKey.members, List.cons_lt_cons_iff, List.lt_irrefl, and_false, or_false,
    ← EntityId.lt_iff, ← Generation.lt_iff, hentity, hgeneration]

theorem not_behind {α : Type} [LinearOrder α] {x y : α} {p : Prop} (h : x < y) :
    ¬(y < x ∨ y = x ∧ p) := by
  rintro (hlt | ⟨heq, -⟩)
  · exact h.asymm hlt
  · exact h.ne' heq

theorem of_behind {α : Type} [LinearOrder α] {x y : α} {p : Prop} (h : x = y)
    (hbehind : y < x ∨ y = x ∧ p) : p :=
  (hbehind.resolve_left h.not_gt).2

theorem misplaced_iff (h : a.key < b.key) :
    b.report.canonicalLess a.report = true ↔ Misplaced a b := by
  rw [report_before]
  constructor
  · intro hbefore
    rcases key_before.mp h with hmodel | ⟨hmodel, h⟩
    · exact absurd hbefore (not_behind hmodel)
    replace hbefore := of_behind hmodel hbefore
    rcases h with hgeneration | ⟨hgeneration, h⟩
    · exact absurd hbefore (not_behind hgeneration)
    replace hbefore := of_behind hgeneration hbefore
    rcases h with hartifact | ⟨hartifact, h⟩
    · exact .artifact hmodel hgeneration hartifact hbefore
    rcases h with hbackend | ⟨hbackend, h⟩
    · exact absurd hbefore (not_behind hbackend)
    replace hbefore := of_behind hbackend hbefore
    rcases h with hincarnation | ⟨hincarnation, h⟩
    · rcases hbefore with hboot | ⟨-, hbefore⟩
      · exact .incarnation hmodel hgeneration hartifact hbackend hincarnation hboot
      · exact absurd hbefore (not_behind hincarnation)
    rcases h with hboot | ⟨hboot, h⟩
    · exact absurd hbefore (not_behind hboot)
    replace hbefore := of_behind hincarnation (of_behind hboot hbefore)
    rcases h with hendpoint | ⟨hendpoint, hreached⟩
    · exact absurd hbefore (not_behind hendpoint)
    exact .endpoint hmodel hgeneration hartifact hbackend hincarnation hboot hendpoint hreached
      (of_behind hendpoint hbefore)
  · intro hmisplaced
    cases hmisplaced with
    | artifact hmodel hgeneration hartifact hplaced =>
        exact .inr ⟨hmodel.symm, .inr ⟨hgeneration.symm, hplaced⟩⟩
    | incarnation hmodel hgeneration hartifact hbackend hincarnation hboot =>
        exact .inr ⟨hmodel.symm, .inr ⟨hgeneration.symm, .inr ⟨hbackend.symm, .inl hboot⟩⟩⟩
    | endpoint hmodel hgeneration hartifact hbackend hincarnation hboot hendpoint hreached hreason =>
        exact .inr ⟨hmodel.symm, .inr ⟨hgeneration.symm, .inr ⟨hbackend.symm, .inr ⟨hboot.symm,
          .inr ⟨hincarnation.symm, .inr ⟨hendpoint.symm, hreason⟩⟩⟩⟩⟩⟩

end

theorem canonical_iff {refused : List Refused} (h : refused.Pairwise fun a b => a.key < b.key) :
    Canonical (refused.map Refused.report) ↔ refused.Pairwise fun a b => ¬Misplaced a b := by
  rw [Canonical, List.pairwise_map]
  have hpair {a b : Refused} (hkey : a.key < b.key) :
      b.report.canonicalLess a.report = false ↔ ¬Misplaced a b := by
    rw [← misplaced_iff hkey, Bool.not_eq_true]
  constructor
  · intro hcanonical
    exact (h.and hcanonical).imp fun hboth => (hpair hboth.1).mp hboth.2
  · intro hplaced
    exact (h.and hplaced).imp fun hboth => (hpair hboth.1).mpr hboth.2

section

variable (options : ModelRouterOptions) (e : Env) (p : Prepared)

def judged (candidate : RouteCandidate) : EligibilityVerdict :=
  evaluateHardEligibility
    (p.frame.input (countCapabilities candidate p.request.requirements p.snapshot.now)
      (p.resolved options e candidate))

/-- The candidates that do not pass, in the order they are looked at. -/
def refused (candidates : List RouteCandidate) : List Refused :=
  candidates.filterMap fun candidate =>
    if (judged options e p candidate).eligible then none
    else some ⟨candidate.key, judged options e p candidate⟩

def reported (found : List RouteCandidate) : List Refused :=
  (refused options e p (canonicalCandidates found)).take
    p.snapshot.limits.maxRejectionRecords.toNat

theorem assessed_eq (candidate : RouteCandidate) :
    p.assessed options e candidate =
      let counted := countCapabilities candidate p.request.requirements p.snapshot.now
      let evidence := p.resolved options e candidate
      if (judged options e p candidate).eligible then
        .ok ⟨counted, evidence, rankCandidate p.frame counted evidence⟩
      else .error (Refused.report ⟨candidate.key, judged options e p candidate⟩) := rfl

theorem rejected_eq (candidates : List RouteCandidate) :
    rejected (candidates.map (p.assessed options e)) =
      (refused options e p candidates).map Refused.report := by
  rw [rejected, List.filterMap_map, refused, List.map_filterMap]
  refine List.filterMap_congr fun candidate _ => ?_
  rw [Function.comp_apply, assessed_eq]
  by_cases hok : (judged options e p candidate).eligible
  · rw [if_pos hok, if_pos hok]
    rfl
  · rw [if_neg hok, if_neg hok]
    rfl

theorem canonicalCandidates_strict (found : List RouteCandidate) :
    (canonicalCandidates found).Pairwise fun a b => a.key < b.key :=
  unique_strict (fun _ _ => beq_iff_eq) (stableSort_sorted (fun _ _ => decide_eq_true_iff) found)

variable {options e p} in
theorem refused_key {candidate : RouteCandidate} {r : Refused}
    (h : (if (judged options e p candidate).eligible then none
      else some ⟨candidate.key, judged options e p candidate⟩) = some r) :
    r.key = candidate.key := by
  split at h
  · cases h
  · rw [← Option.some.inj h]

theorem reported_strict (found : List RouteCandidate) :
    (reported options e p found).Pairwise fun a b => a.key < b.key := by
  refine List.Pairwise.sublist (List.take_sublist _ _) ?_
  rw [refused, List.pairwise_filterMap]
  refine (canonicalCandidates_strict found).imp fun h r hr q hq => ?_
  rw [refused_key hr, refused_key hq]
  exact h

end

/-- Every list a pass gives out of what it refused is in canonical order. -/
structure Ordered (outcome : RouteOutcome) (es : Trace) : Prop where
  explained : Canonical outcome.route.rejections
  decided : Canonical outcome.decision.explanation.rejections
  committed : ∀ ev ∈ es, ∀ id record, replaces id ev →
    (after ev).state.routes.find? id = some record →
      Canonical record.decision.explanation.rejections

/-- The lists a pass gives out are all the same one, or empty. -/
structure Carries (rejections : List RouteRejection) (outcome : RouteOutcome) (es : Trace) :
    Prop where
  explained : outcome.route.rejections = rejections
  decided : outcome.decision.explanation.rejections = [] ∨
    outcome.decision.explanation.rejections = rejections
  drafted : ∀ ev ∈ es, ∀ draft, ev.act = .commit draft →
    commitRefusal draft ev.pre.state = none → draft.decision.explanation.rejections = rejections

theorem Carries.ordered_iff {rejections : List RouteRejection} {outcome : RouteOutcome}
    {es : Trace} (h : Carries rejections outcome es) :
    Ordered outcome es ↔ Canonical rejections := by
  refine ⟨fun hordered => h.explained ▸ hordered.explained, fun hcanonical => ⟨?_, ?_, ?_⟩⟩
  · rwa [h.explained]
  · rcases h.decided with hnone | hsame
    · rw [hnone]
      exact .nil
    · rwa [hsame]
  · intro ev hev id record hreplaces hrecord
    obtain ⟨draft, hact, hfrozen⟩ := replaced_record hreplaces hrecord
    have htaken : commitRefusal draft ev.pre.state = none := by
      rw [replaces, hact] at hreplaces
      exact hreplaces.1
    have hrejections : record.decision.explanation.rejections =
        (boundDecision (evict draft.kind ev.pre.state) draft id).explanation.rejections :=
      congrArg (fun r : RouteRecord => r.decision.explanation.rejections) hfrozen
    rw [hrejections, (boundDecision_reports _ draft id).2, h.drafted ev hev draft hact htaken]
    exact hcanonical

theorem Carries.after {rejections : List RouteRejection} {outcome : RouteOutcome} {ds es : Trace}
    (h : Carries rejections outcome es) (hds : ∀ ev ∈ ds, ∀ draft, ev.act ≠ .commit draft) :
    Carries rejections outcome (ds ++ es) := by
  refine ⟨h.explained, h.decided, fun ev hev draft hact => ?_⟩
  rcases List.mem_append.mp hev with hev | hev
  · exact absurd hact (hds ev hev draft)
  · exact h.drafted ev hev draft hact

theorem carries_nothing {outcome : RouteOutcome} {es : Trace}
    (hexplained : outcome.route.rejections = [])
    (hdecided : outcome.decision.explanation.rejections = [])
    (hes : ∀ ev ∈ es, ∀ draft, ev.act ≠ .commit draft) : Carries [] outcome es :=
  ⟨hexplained, .inl hdecided, fun ev hev draft hact => absurd hact (hes ev hev draft)⟩

section

variable (p : Prepared) (e : Env) (gaps : List (World → World)) (s : World)

theorem run_finish_trace (basis : Option Basis) (winner : RankedCandidate)
    (tail : List RankedCandidate) (authority : RouteAuthority) (explanation : RouteExplanation) :
    (Program.run Act.apply e gaps (commitWinner.finish p.request p.snapshot p.governing basis
      winner tail authority explanation) s).1 =
      [⟨.commit (draftRoute p.request p.snapshot p.governing.policy explanation winner tail
        authority), gaps.headD id s⟩] := by
  rw [commitWinner.finish]
  generalize draftRoute p.request p.snapshot p.governing.policy explanation winner tail authority =
    draft
  rw [perform, bind_eq, act_bind, Program.run]
  dsimp only
  rw [done_bind]
  cases (commitSection draft (gaps.headD id s)).2.refusal with
  | some reason => rfl
  | none => rfl

theorem run_commitWinner_trace {options : ModelRouterOptions} {candidates : List RouteCandidate}
    {winner : RankedCandidate} {candidate : RouteCandidate} (basis : Option Basis)
    (tail : List RankedCandidate) (explanation : RouteExplanation)
    (hcandidate : candidates.find? (fun candidate => candidate.key = winner.key) =
      some candidate) :
    (Program.run Act.apply e gaps (commitWinner options p.request p.snapshot p.governing basis
      candidates explanation winner tail) s).1 =
      [⟨.observe, gaps.headD id s⟩,
        ⟨.commit (draftRoute p.request p.snapshot p.governing.policy
          (priced (p.resolved options e candidate).cost explanation) winner tail
          (bindResolved (p.described winner.key (gaps.headD id s).state)
            (p.resolved options e candidate))), gaps.tail.headD id (gaps.headD id s)⟩] := by
  rw [commitWinner, perform, bind_eq, act_bind, Program.run]
  dsimp only
  rw [done_bind, hcandidate]
  exact congrArg _ (run_finish_trace p e gaps.tail _ basis winner tail _ _)

end

section

variable {options : ModelRouterOptions} {p : Prepared} {e : Env} {gaps : List (World → World)}
  {w : World} {found : List RouteCandidate}

/-- When a pass gets as far as to report what it refused, if it commits in this world. -/
structure Reports (options : ModelRouterOptions) (e : Env) (p : Prepared)
    (found : List RouteCandidate) (w : World) : Prop where
  few : found.length ≤ p.snapshot.limits.maxCandidatesPerRequest.toNat
  ranked : (eligible ((canonicalCandidates found).map (p.assessed options e))).length ≤
    p.snapshot.limits.maxRankedCandidates.toNat
  admitted : eligible ((canonicalCandidates found).map (p.assessed options e)) ≠ [] →
    Open p w.state

theorem rankAll_nil {assessments : List Assessment} :
    rankAll assessments = [] ↔ assessments = [] := by
  have hlength := (rankAll_keys assessments).length_eq
  rw [List.length_map, List.length_map] at hlength
  rw [← List.length_eq_zero_iff, hlength, List.length_eq_zero_iff]

theorem taken_iff {u : World} {explanation : RouteExplanation} {winner : RankedCandidate}
    {tail : List RankedCandidate} {authority : RouteAuthority} :
    commitRefusal (draftRoute p.request p.snapshot p.governing.policy explanation winner tail
      authority) u.state = none ↔ Open p u.state := by
  constructor
  · intro htaken
    simp [commitRefusal, draftRoute] at htaken
    exact ⟨htaken.1, htaken.2.1, htaken.2.2⟩
  · intro hopen
    simp [commitRefusal, draftRoute, hopen.admitting, hopen.routerEpoch, hopen.coordinatorEpoch]

theorem committed_carries {draft : CommitDraft} {u : World} {score : Int}
    {rejections : List RouteRejection}
    (hdraft : draft.decision.explanation.rejections = rejections)
    (htaken : commitRefusal draft u.state = none) :
    Carries rejections (committedOutcome draft u score) [⟨.observe, w⟩, ⟨.commit draft, u⟩] := by
  subst hdraft
  have hreports := fun s id => (boundDecision_reports s draft id).2
  rw [committedOutcome, commitSection, htaken]
  refine ⟨hreports _ _, .inr (hreports _ _), fun ev hev drafted hact _ => ?_⟩
  rcases List.mem_cons.mp hev with rfl | hev
  · cases hact
  · obtain rfl := List.mem_singleton.mp hev
    rw [← Act.commit.inj hact]

theorem refused_carries {draft : CommitDraft} {u : World} {score : Int}
    (hrefused : commitRefusal draft u.state ≠ none) :
    Carries [] (committedOutcome draft u score) [⟨.observe, w⟩, ⟨.commit draft, u⟩] := by
  obtain ⟨reason, hreason⟩ := Option.ne_none_iff_exists'.mp hrefused
  rw [committedOutcome, commitSection, hreason]
  refine ⟨rfl, .inl rfl, fun ev hev drafted hact htaken => ?_⟩
  rcases List.mem_cons.mp hev with rfl | hev
  · cases hact
  · obtain rfl := List.mem_singleton.mp hev
    rw [← Act.commit.inj hact] at htaken
    exact absurd htaken hrefused

theorem run_weigh_carries (options : ModelRouterOptions) (p : Prepared) (e : Env)
    (gaps : List (World → World)) (w : World) (found : List RouteCandidate) :
    let r := Program.run Act.apply e gaps (weigh options p found) w
    (Reports options e p found (gaps.tail.headD id (gaps.headD id w)) →
      Carries ((reported options e p found).map Refused.report) r.2.1.1 r.1) ∧
    (¬Reports options e p found (gaps.tail.headD id (gaps.headD id w)) →
      Carries [] r.2.1.1 r.1) := by
  dsimp only
  rw [weigh]
  by_cases hmany : found.length > p.snapshot.limits.maxCandidatesPerRequest.toNat
  · rw [if_pos hmany]
    exact ⟨fun h => absurd h.few hmany.not_ge, fun _ => carries_nothing rfl rfl (by simp [run])⟩
  rw [if_neg hmany, rankAndCommit_eq, run_bind, run_assessAll]
  dsimp only [settle, List.nil_append, List.length_nil, List.drop_zero]
  by_cases htoo : (eligible ((canonicalCandidates found).map (p.assessed options e))).length >
      p.snapshot.limits.maxRankedCandidates.toNat
  · rw [if_pos htoo]
    exact ⟨fun h => absurd h.ranked htoo.not_ge, fun _ => carries_nothing rfl rfl (by simp [run])⟩
  rw [if_neg htoo, rejected_eq, ← List.map_take]
  cases hranking : rankAll (eligible ((canonicalCandidates found).map (p.assessed options e))) with
  | nil =>
      have hnone := rankAll_nil.mp hranking
      have hreports (u : World) : Reports options e p found u :=
        ⟨not_lt.mp hmany, not_lt.mp htoo, fun hsome => absurd hnone hsome⟩
      exact ⟨fun _ => ⟨rfl, .inl rfl, by simp [run, perform]⟩, fun h => absurd (hreports _) h⟩
  | cons winner tail =>
      obtain ⟨candidate, -, -, -, hfind⟩ :=
        winner_resolved (canonicalCandidates_nodup found) hranking
      have hsome : eligible ((canonicalCandidates found).map (p.assessed options e)) ≠ [] := by
        rw [ne_eq, ← rankAll_nil, hranking]
        exact List.cons_ne_nil winner tail
      dsimp only
      rw [List.drop_zero, run_commitWinner p e gaps w _ tail _ hfind,
        run_commitWinner_trace p e gaps w _ tail _ hfind]
      refine ⟨fun h => committed_carries rfl (taken_iff.mpr (h.admitted hsome)), fun h => ?_⟩
      refine refused_carries fun htaken => h ?_
      exact ⟨not_lt.mp hmany, not_lt.mp htoo, fun _ => taken_iff.mp htaken⟩

end

section

variable (options : ModelRouterOptions) (e : Env) (gaps : List (World → World))
variable (raw : RouteRequest) (s : World)

def discovery (p : Prepared) : Trace × List RouteCandidate × World :=
  let before := Program.run Act.apply e gaps (prepare options raw) s
  Program.run Act.apply e (gaps.drop before.1.length) (discover options p.request p.snapshot)
    before.2.2

def commitWorld (p : Prepared) : World :=
  let before := Program.run Act.apply e gaps (prepare options raw) s
  let found := discovery options e gaps raw s p
  let rest := (gaps.drop before.1.length).drop found.1.length
  rest.tail.headD id (rest.headD id found.2.2)

/-- No two candidates that a pass reports as refused are misplaced. -/
def InPlace : Prop :=
  ∀ p, prepared options e gaps raw s = .ok p →
    Reports options e p (discovery options e gaps raw s p).2.1
      (commitWorld options e gaps raw s p) →
    (reported options e p (discovery options e gaps raw s p).2.1).Pairwise fun a b =>
      ¬Misplaced a b

theorem route_run (x : Except Stop Prepared) (hx : prepared options e gaps raw s = x) :
    let before := Program.run Act.apply e gaps (prepare options raw) s
    let rest := Program.run Act.apply e (gaps.drop before.1.length) (conclude options x) before.2.2
    Program.run Act.apply e gaps (route options raw) s =
      (before.1 ++ rest.1, rest.2.1.1, rest.2.2) := by
  subst hx
  rw [route, bind_eq, run_bind, routePass_eq, bind_eq, run_bind]
  exact Prod.ext (List.append_nil _) rfl

theorem prepare_commits_nothing :
    ∀ ev ∈ (Program.run Act.apply e gaps (prepare options raw) s).1, ∀ draft,
      ev.act ≠ .commit draft := by
  have hrun : Executes (· = e) (fun _ _ => True) (prepare options raw) s
      (Program.run Act.apply e gaps (prepare options raw) s).1 _ _ :=
    Program.run_exec Act.apply e _ s (fun _ => trivial) fun _ _ _ => trivial
  intro ev hev draft hact
  rcases (executes_prepare hrun).1 ev hev with hobserved | hallocated
  · cases hobserved.symm.trans hact
  · cases hallocated.symm.trans hact

theorem discovery_commits_nothing (p : Prepared) :
    ∀ ev ∈ (discovery options e gaps raw s p).1, ∀ draft, ev.act ≠ .commit draft := by
  have hrun : Executes (· = e) (fun _ _ => True) (discover options p.request p.snapshot) _
      (discovery options e gaps raw s p).1 _ _ :=
    Program.run_exec Act.apply e _ _ (fun _ => trivial) fun _ _ _ => trivial
  intro ev hev draft hact
  cases ((executes_discover hrun).1 ev hev).symm.trans hact

theorem route_carries {p : Prepared} (hprepared : prepared options e gaps raw s = .ok p) :
    let r := Program.run Act.apply e gaps (route options raw) s
    let found := (discovery options e gaps raw s p).2.1
    (Reports options e p found (commitWorld options e gaps raw s p) →
      Carries ((reported options e p found).map Refused.report) r.2.1 r.1) ∧
    (¬Reports options e p found (commitWorld options e gaps raw s p) → Carries [] r.2.1 r.1) := by
  have hearly := prepare_commits_nothing options e gaps raw s
  have hfound := discovery_commits_nothing options e gaps raw s p
  dsimp only
  rw [route_run options e gaps raw s _ hprepared]
  dsimp only [conclude]
  rw [bind_eq, run_bind]
  obtain ⟨hreports, hnothing⟩ := run_weigh_carries options p e
    ((gaps.drop (Program.run Act.apply e gaps (prepare options raw) s).1.length).drop
      (discovery options e gaps raw s p).1.length)
    (discovery options e gaps raw s p).2.2 (discovery options e gaps raw s p).2.1
  exact ⟨fun h => ((hreports h).after hfound).after hearly,
    fun h => ((hnothing h).after hfound).after hearly⟩

/-- The lists of rejections that a pass gives out are in canonical order just when none of the
candidates it reports are misplaced. -/
theorem route_ordered_iff :
    Ordered (Program.run Act.apply e gaps (route options raw) s).2.1
      (Program.run Act.apply e gaps (route options raw) s).1 ↔
        InPlace options e gaps raw s := by
  cases hprepared : prepared options e gaps raw s with
  | error reason =>
      rw [route_run options e gaps raw s _ hprepared]
      have hnothing : Carries [] (stopped reason).1 [] := carries_nothing rfl rfl (by simp)
      have hcarries := hnothing.after (prepare_commits_nothing options e gaps raw s)
      refine iff_of_true (hcarries.ordered_iff.mpr .nil) fun p hp => ?_
      cases hprepared.symm.trans hp
  | ok p =>
      obtain ⟨hreports, hnothing⟩ := route_carries options e gaps raw s hprepared
      by_cases h : Reports options e p (discovery options e gaps raw s p).2.1
          (commitWorld options e gaps raw s p)
      · rw [(hreports h).ordered_iff, canonical_iff (reported_strict options e p _)]
        refine ⟨fun hplaced q hq _ => ?_, fun hplaced => hplaced p hprepared h⟩
        obtain rfl := Except.ok.inj (hprepared.symm.trans hq)
        exact hplaced
      · refine iff_of_true ((hnothing h).ordered_iff.mpr .nil) fun q hq hq' => ?_
        obtain rfl := Except.ok.inj (hprepared.symm.trans hq)
        exact absurd hq' h

end

theorem catalog_in_place (options : ModelRouterOptions) (e : Env) (p : Prepared)
    {s : CanonicalState} (hm : ModelsKeyed s) (hs : Indexed s) :
    (reported options e p (catalogCandidates s)).Pairwise fun a b => ¬Misplaced a b := by
  have hoffered : ∀ r ∈ reported options e p (catalogCandidates s), ∃ model backend binding,
      s.models.find? r.key.modelId = some model ∧
        s.backends.find? r.key.backendId = some backend ∧
        r.key = (candidateOf model backend binding).key := by
    intro r hr
    obtain ⟨candidate, hcandidate, hjudged⟩ := List.mem_filterMap.mp (List.mem_of_mem_take hr)
    have hkey := refused_key hjudged
    have hfound := mem_stableSort.mp (mem_of_mem_unique hcandidate)
    rw [catalogCandidates_eq hs, fullScan, List.mem_flatMap] at hfound
    obtain ⟨modelId, -, hpaired⟩ := hfound
    obtain ⟨backendId, -, hpair⟩ := List.mem_filterMap.mp hpaired
    obtain ⟨model, backend, binding, hmodel, hbackend, -, -, rfl⟩ := catalogCandidate_pair hpair
    refine ⟨model, backend, binding, ?_, ?_, hkey⟩
    · rw [hkey]
      change s.models.find? model.modelId = some model
      rwa [hm modelId model hmodel]
    · rw [hkey]
      change s.backends.find? backend.backendId = some backend
      rwa [hs.keyed backendId backend hbackend]
  refine List.pairwise_of_forall_mem_list fun a ha b hb hmisplaced => ?_
  obtain ⟨model, backend, binding, hmodel, hbackend, hkey⟩ := hoffered a ha
  obtain ⟨model', backend', binding', hmodel', hbackend', hkey'⟩ := hoffered b hb
  have hmodels : a.key.modelId = b.key.modelId → model = model' := fun h =>
    Option.some.inj (hmodel.symm.trans (h ▸ hmodel'))
  have hbackends : a.key.backendId = b.key.backendId → backend = backend' := fun h =>
    Option.some.inj (hbackend.symm.trans (h ▸ hbackend'))
  cases hmisplaced with
  | artifact hid _ hartifact _ =>
      obtain rfl := hmodels hid
      rw [hkey, hkey'] at hartifact
      exact lt_irrefl _ hartifact
  | incarnation _ _ _ hid hincarnation _ =>
      obtain rfl := hbackends hid
      rw [hkey, hkey'] at hincarnation
      exact lt_irrefl _ hincarnation
  | endpoint _ _ _ hid _ _ _ hreached _ =>
      obtain rfl := hbackends hid
      rw [hkey, hkey'] at hreached
      exact lt_irrefl _ hreached

section

/-- A candidate for an artifact of the sample model that takes no input, on some backend. -/
def offeredArtifact (artifactGeneration : ArtifactGeneration) (backendId : BackendId) :
    RouteCandidate :=
  candidateOf { inputlessFound.model with artifactGeneration := artifactGeneration }
    { sampleFound.backend with backendId := backendId } {}

/-- The older artifact is offered on backend 8, the newer one on backend 7. -/
def twoArtifacts : List RouteCandidate :=
  [offeredArtifact ⟨1⟩ ⟨8⟩, offeredArtifact ⟨2⟩ ⟨7⟩]

/-- A pass that refuses two artifacts of one model lists the second before the first in its own
order. -/
theorem artifacts_out_of_order :
    ¬Canonical (routed discoveringOptions (offering sampleEnv twoArtifacts) [] sampleRequest
      servingWorld).route.rejections := by
  rw [Canonical]
  decide +kernel

end

end ModelRouter.Rejections
