import ModelRouter.Courses

namespace ModelRouter.Discovery

open Base Base.Program Bytes Ids Outcome Capability Limits Candidate Authority Request Decision State Commit
open Eligibility Providers Section Pass Route Stages Run Sorting Repertoire Rankings Courses

/-- The same surroundings, but for what the discovery provider finds. -/
def offering (e : Env) (candidates : List RouteCandidate) : Env :=
  { e with
    adapters :=
      { e.adapters with
        discover := fun _ _ => { code := .accepted, value := some candidates } } }

def Elsewhere (e e' : Env) : Prop :=
  ∃ candidates, e' = offering e candidates

variable {options : ModelRouterOptions}

section

variable {α β : Type}

theorem ask_indifferent {f : Env → Operation α}
    (hf : ∀ e candidates, f (offering e candidates) = f e)
    (h : ∀ e, (f e).Indifferent Elsewhere) : (ask >>= f).Indifferent Elsewhere := by
  rintro e e' ⟨candidates, rfl⟩
  exact ⟨(hf e candidates).symm, h e⟩

theorem perform_indifferent {k : Act} {f : World → Operation α}
    (h : ∀ w, (f w).Indifferent Elsewhere) : (perform k >>= f).Indifferent Elsewhere :=
  h

theorem proceed_indifferent {stop : Stop → α} {x : Except Stop β} {next : β → Operation α}
    (h : ∀ value, (next value).Indifferent Elsewhere) :
    (proceed stop x next).Indifferent Elsewhere := by
  cases x with
  | error reason => trivial
  | ok value => exact h value

theorem consult_indifferent {supplied : Bool} {held : β} {query : Adapters → EvidenceResult β}
    (hquery : ∀ (e : Env) candidates, query (offering e candidates).adapters = query e.adapters) :
    (consult supplied held query).Indifferent Elsewhere := by
  rw [consult]
  split
  · exact ask_indifferent (fun e candidates => by rw [hquery]) fun e => trivial
  · trivial

end

theorem identify_indifferent (raw : RouteRequest) : (identify raw).Indifferent Elsewhere := by
  rw [identify]
  dsimp only
  split
  · trivial
  · exact fun _ => trivial

section

variable (request : RouteRequest) (snapshot : Snapshot)

theorem validatePolicy_indifferent :
    (validatePolicy options request snapshot).Indifferent Elsewhere :=
  (consult_indifferent fun _ _ => rfl).bind fun _ => trivial

theorem validateBudget_indifferent :
    (validateBudget options request snapshot).Indifferent Elsewhere := by
  rw [validateBudget]
  split
  · exact (consult_indifferent fun _ _ => rfl).bind fun _ => trivial
  · trivial

theorem validateSlo_indifferent :
    (validateSlo options request snapshot).Indifferent Elsewhere := by
  rw [validateSlo]
  split
  · exact (consult_indifferent fun _ _ => rfl).bind fun _ => trivial
  · trivial

end

theorem prepare_indifferent (raw : RouteRequest) :
    (prepare options raw).Indifferent Elsewhere := by
  refine (identify_indifferent raw).bind fun named => ?_
  refine ask_indifferent (fun _ _ => rfl) fun e => perform_indifferent fun w => ?_
  refine proceed_indifferent fun _ => ?_
  refine (validatePolicy_indifferent _ _).bind fun x => proceed_indifferent fun policy => ?_
  refine (validateBudget_indifferent _ _).bind fun y => proceed_indifferent fun budget => ?_
  refine (validateSlo_indifferent _ _).bind fun z => proceed_indifferent fun slo => ?_
  trivial

theorem resolve_indifferent (request : RouteRequest) (snapshot : Snapshot)
    (candidate : RouteCandidate) :
    (resolve options request snapshot candidate).Indifferent Elsewhere :=
  ask_indifferent (fun _ _ => rfl) fun _ => trivial

theorem assessAll_indifferent (request : RouteRequest) (snapshot : Snapshot) (frame : Frame)
    (candidates : List RouteCandidate) :
    (assessAll options request snapshot frame candidates).Indifferent Elsewhere := by
  induction candidates with
  | nil => trivial
  | cons candidate rest ih =>
      refine (resolve_indifferent request snapshot candidate).bind fun evidence => ?_
      exact ih.bind fun others => trivial

theorem finish_indifferent (request : RouteRequest) (snapshot : Snapshot) (governing : Governing)
    (basis : Option Basis) (winner : RankedCandidate) (tail : List RankedCandidate)
    (authority : RouteAuthority) (explanation : RouteExplanation) :
    (commitWinner.finish request snapshot governing basis winner tail authority
      explanation).Indifferent Elsewhere := by
  refine perform_indifferent fun w => ?_
  dsimp only
  split
  · trivial
  · trivial

theorem commitWinner_indifferent (request : RouteRequest) (snapshot : Snapshot)
    (governing : Governing) (basis : Option Basis) (candidates : List RouteCandidate)
    (explanation : RouteExplanation) (winner : RankedCandidate) (tail : List RankedCandidate) :
    (commitWinner options request snapshot governing basis candidates explanation winner
      tail).Indifferent Elsewhere := by
  refine perform_indifferent fun w => ?_
  dsimp only
  split
  · exact finish_indifferent _ _ _ _ _ _ _ _
  · refine (resolve_indifferent _ _ _).bind fun evidence => ?_
    exact finish_indifferent _ _ _ _ _ _ _ _

theorem weigh_indifferent (p : Prepared) (discovered : List RouteCandidate) :
    (weigh options p discovered).Indifferent Elsewhere := by
  rw [weigh]
  split
  · trivial
  refine (assessAll_indifferent _ _ _ _).bind fun assessed => ?_
  dsimp only
  split
  · trivial
  split
  · exact fun _ => trivial
  · exact commitWinner_indifferent _ _ _ _ _ _ _ _

/-- What a caller learns of a routing pass from its outcome. -/
structure SameRouting (a b : RouteOutcome) : Prop where
  code : a.code = b.code
  winner : a.route.winner = b.route.winner
  ranking : a.route.ranking = b.route.ranking
  fallbacks : a.route.fallbackOrder = b.route.fallbackOrder ∧
    a.decision.fallbacks = b.decision.fallbacks
  rejections : a.route.rejections = b.route.rejections
  semanticDigest : a.route.semanticDigest = b.route.semanticDigest

theorem SameRouting.refl (outcome : RouteOutcome) : SameRouting outcome outcome :=
  ⟨rfl, rfl, rfl, ⟨rfl, rfl⟩, rfl, rfl⟩

theorem SameRouting.symm {a b : RouteOutcome} (h : SameRouting a b) : SameRouting b a :=
  ⟨h.code.symm, h.winner.symm, h.ranking.symm, ⟨h.fallbacks.1.symm, h.fallbacks.2.symm⟩,
    h.rejections.symm, h.semanticDigest.symm⟩

theorem SameRouting.trans {a b c : RouteOutcome} (h : SameRouting a b) (h' : SameRouting b c) :
    SameRouting a c :=
  ⟨h.code.trans h'.code, h.winner.trans h'.winner, h.ranking.trans h'.ranking,
    ⟨h.fallbacks.1.trans h'.fallbacks.1, h.fallbacks.2.trans h'.fallbacks.2⟩,
    h.rejections.trans h'.rejections, h.semanticDigest.trans h'.semanticDigest⟩

/-! Two commits whose explanations name different costs. -/

section

variable (cost : Evidence.CostEvidence)

def priced (explanation : RouteExplanation) : RouteExplanation :=
  { explanation with cost := cost }

def pricedDecision (decision : RouteDecision) : RouteDecision :=
  { decision with explanation := priced cost decision.explanation }

def pricedDraft (draft : CommitDraft) : CommitDraft :=
  { draft with decision := pricedDecision cost draft.decision }

theorem boundDecision_priced (s : CanonicalState) (draft : CommitDraft) (id : RouteDecisionId) :
    boundDecision s (pricedDraft cost draft) id = pricedDecision cost (boundDecision s draft id) := by
  have hauthority : (pricedDraft cost draft).decision.authority = draft.decision.authority := rfl
  simp only [boundDecision, hauthority]
  split
  · simp only [pricedDraft, pricedDecision, priced, RouteExplanation.computeSemanticDigest]
  · simp only [pricedDraft, pricedDecision, priced, RouteExplanation.computeSemanticDigest]

theorem staleDecisionIfNotDispatchable_priced (s : CanonicalState) (now : UnixMillis)
    (record : RouteRecord) :
    (staleDecisionIfNotDispatchable s now
      { record with decision := pricedDecision cost record.decision }).decision.status =
      (staleDecisionIfNotDispatchable s now record).decision.status := by
  have hexecutable : RouteRecord.executable
      { record with decision := pricedDecision cost record.decision } = record.executable := rfl
  simp only [staleDecisionIfNotDispatchable, hexecutable]
  split
  · rfl
  · change (if isAuthorityDispatchable s record.decision.authority now then _ else _ :
      RouteRecord).decision.status = _
    split
    · rfl
    · rfl

theorem insertRecord_priced (s : CanonicalState) (record : RouteRecord) (now : UnixMillis) :
    ((insertRecord s { record with decision := pricedDecision cost record.decision }
        now).routes.find? record.decision.decisionId).any
          (fun found => found.decision.status == .current) =
      ((insertRecord s record now).routes.find? record.decision.decisionId).any
        fun found => found.decision.status == .current := by
  change ((s.routes.insert record.decision.decisionId _).find? _).any _ =
    ((s.routes.insert record.decision.decisionId _).find? _).any _
  rw [OrderedMap.find?_insert_self, OrderedMap.find?_insert_self, Option.any_some, Option.any_some]
  change ((staleDecisionIfNotDispatchable s now ((s.routes.find? record.decision.decisionId).getD
    _)).decision.status == .current) = _
  cases s.routes.find? record.decision.decisionId with
  | none => rw [Option.getD_none, Option.getD_none, staleDecisionIfNotDispatchable_priced]
  | some held => rfl

theorem commitSection_priced (draft : CommitDraft) (w : World) :
    (commitSection (pricedDraft cost draft) w).2.refusal = (commitSection draft w).2.refusal ∧
      ((commitSection draft w).2.refusal = none →
        (commitSection (pricedDraft cost draft) w).2.decision =
            pricedDecision cost (commitSection draft w).2.decision ∧
          (commitSection (pricedDraft cost draft) w).2.committedCurrent =
            (commitSection draft w).2.committedCurrent) := by
  have hrefusal : commitRefusal (pricedDraft cost draft) w.state = commitRefusal draft w.state :=
    rfl
  rw [commitSection, commitSection, hrefusal]
  cases commitRefusal draft w.state with
  | some reason => exact ⟨rfl, fun h => nomatch h⟩
  | none =>
      have hkind : (pricedDraft cost draft).kind = draft.kind := rfl
      dsimp only
      rw [hkind, boundDecision_priced]
      refine ⟨rfl, fun _ => ⟨rfl, ?_⟩⟩
      congr 1
      exact insertRecord_priced cost _ (committedRecord draft _ _) draft.now

end

def committedOutcome (draft : CommitDraft) (w : World) (score : Int) : RouteOutcome :=
  match (commitSection draft w).2.refusal with
  | some reason => (stopped reason).1
  | none => routedOutcome draft (commitSection draft w).2 score

theorem committedOutcome_priced (cost : Evidence.CostEvidence) (draft : CommitDraft) (w : World)
    (score : Int) :
    SameRouting (committedOutcome (pricedDraft cost draft) w score)
      (committedOutcome draft w score) := by
  obtain ⟨hrefusal, haccepted⟩ := commitSection_priced cost draft w
  rw [committedOutcome, committedOutcome, hrefusal]
  cases hreply : (commitSection draft w).2.refusal with
  | some reason => exact .refl _
  | none =>
      obtain ⟨hdecision, hcurrent⟩ := haccepted hreply
      constructor <;>
        simp only [routedOutcome, hdecision, hcurrent, pricedDecision, priced, and_self]

theorem draftRoute_priced (cost : Evidence.CostEvidence) (request : RouteRequest)
    (snapshot : Snapshot) (policy : Evidence.PolicySnapshot) (explanation : RouteExplanation)
    (winner : RankedCandidate) (tail : List RankedCandidate) (authority : RouteAuthority) :
    draftRoute request snapshot policy (priced cost explanation) winner tail authority =
      pricedDraft cost
        (draftRoute request snapshot policy explanation winner tail authority) := by
  simp only [draftRoute, pricedDraft, pricedDecision, priced]

section

variable (p : Prepared) (e : Env) (gaps : List (World → World)) (s : World)

theorem run_finish (basis : Option Basis) (winner : RankedCandidate) (tail : List RankedCandidate)
    (authority : RouteAuthority) (explanation : RouteExplanation) :
    (Program.run Act.apply e gaps (commitWinner.finish p.request p.snapshot p.governing basis
      winner tail authority explanation) s).2.1.1 =
      committedOutcome (draftRoute p.request p.snapshot p.governing.policy explanation winner tail
        authority) (gaps.headD id s) winner.score := by
  rw [commitWinner.finish, committedOutcome]
  generalize draftRoute p.request p.snapshot p.governing.policy explanation winner tail authority =
    draft
  rw [perform, bind_eq, act_bind, Program.run]
  dsimp only
  rw [done_bind]
  cases (commitSection draft (gaps.headD id s)).2.refusal with
  | some reason => rfl
  | none => rfl

theorem run_commitWinner {candidates : List RouteCandidate} {winner : RankedCandidate}
    {candidate : RouteCandidate} (basis : Option Basis) (tail : List RankedCandidate)
    (explanation : RouteExplanation)
    (hcandidate : candidates.find? (fun candidate => candidate.key = winner.key) =
      some candidate) :
    (Program.run Act.apply e gaps (commitWinner options p.request p.snapshot p.governing basis
      candidates explanation winner tail) s).2.1.1 =
      committedOutcome (draftRoute p.request p.snapshot p.governing.policy
        (priced (p.resolved options e candidate).cost explanation) winner tail
        (bindResolved (p.described winner.key (gaps.headD id s).state)
          (p.resolved options e candidate))) (gaps.tail.headD id (gaps.headD id s))
        winner.score := by
  rw [commitWinner, perform, bind_eq, act_bind, Program.run]
  dsimp only
  rw [done_bind, hcandidate]
  exact run_finish p e gaps.tail _ basis winner tail _ _

theorem described_unreserved (key : CandidateKey) (state : CanonicalState) :
    (p.described key state).reservationId = {} ∧
      (p.described key state).reservationGeneration = {} := by
  rw [Prepared.described]
  cases state.backends.find? key.backendId with
  | none => exact ⟨rfl, rfl⟩
  | some backend => exact ⟨rfl, rfl⟩

theorem run_assessAll (candidates : List RouteCandidate) :
    Program.run Act.apply e gaps (assessAll options p.request p.snapshot p.frame candidates) s =
      ([], candidates.map (p.assessed options e), s) := by
  induction candidates with
  | nil => rfl
  | cons candidate rest ih =>
      have hrest (evidence : CandidateEvidence) : Program.run Act.apply e gaps
          ((assessAll options p.request p.snapshot p.frame rest).bind fun others =>
            pure (assess p.frame candidate evidence :: others)) s =
          ([], assess p.frame candidate evidence :: rest.map (p.assessed options e), s) := by
        rw [run_bind, ih]
        rfl
      exact hrest _

end

theorem bindResolved_congr {authority : RouteAuthority} {x y : CandidateEvidence}
    (hid : authority.reservationId = {}) (hgeneration : authority.reservationGeneration = {})
    (h : bindResolved {} x = bindResolved {} y) :
    bindResolved authority x = bindResolved authority y := by
  have htakes (z : CandidateEvidence) : bindResolved authority z =
      { authority with
        costEvidenceId := (bindResolved {} z).costEvidenceId
        priceGeneration := (bindResolved {} z).priceGeneration
        reservationId := (bindResolved {} z).reservationId
        reservationGeneration := (bindResolved {} z).reservationGeneration } := by
    simp only [bindResolved, hid, hgeneration]
  rw [htakes, h, ← htakes]

theorem reports_congr {xs ys : List (Except RouteRejection Assessment)}
    (h : xs.map (Except.map Assessment.ranked) = ys.map (Except.map Assessment.ranked)) :
    (eligible xs).map Assessment.ranked = (eligible ys).map Assessment.ranked ∧
      rejected xs = rejected ys := by
  induction xs generalizing ys with
  | nil =>
      obtain rfl := List.map_eq_nil_iff.mp h.symm
      exact ⟨rfl, rfl⟩
  | cons x xs ih =>
      cases ys with
      | nil => cases h
      | cons y ys =>
          obtain ⟨hhead, htail⟩ := List.cons.inj h
          obtain ⟨hranked, hrejected⟩ := ih htail
          cases x with
          | error rejection =>
              cases y with
              | error other =>
                  obtain rfl := Except.error.inj hhead
                  exact ⟨hranked, congrArg (rejection :: ·) hrejected⟩
              | ok assessment => cases hhead
          | ok assessment =>
              cases y with
              | error rejection => cases hhead
              | ok other =>
                  have hsame : assessment.ranked = other.ranked := Except.ok.inj hhead
                  refine ⟨?_, hrejected⟩
                  change assessment.ranked :: (eligible xs).map Assessment.ranked =
                    other.ranked :: (eligible ys).map Assessment.ranked
                  rw [hsame, hranked]

theorem rankAll_congr {xs ys : List Assessment}
    (h : xs.map Assessment.ranked = ys.map Assessment.ranked) : rankAll xs = rankAll ys := by
  rw [rankAll, h, rankAll]

theorem winner_resolved {p : Prepared} {e : Env} {candidates : List RouteCandidate}
    {winner : RankedCandidate} {tail : List RankedCandidate}
    (hkeys : (candidates.map RouteCandidate.key).Nodup)
    (hranking : rankAll (eligible (candidates.map (p.assessed options e))) = winner :: tail) :
    ∃ candidate ∈ candidates, candidate.key = winner.key ∧
      (p.verdict options e candidate).isOk = true ∧
      candidates.find? (fun candidate => candidate.key = winner.key) = some candidate := by
  have hassessed : AssessedFrom (· = e) options p.request p.snapshot p.frame candidates
      (candidates.map (p.assessed options e)) := by
    intro result hresult
    obtain ⟨candidate, hcandidate, rfl⟩ := List.mem_map.mp hresult
    exact ⟨candidate, hcandidate, _, ⟨e, rfl, rfl⟩, rfl⟩
  obtain ⟨assessment, candidate, evidence, -, hfind, ⟨asked, hasked, hevidence⟩, hassess⟩ :=
    winner_found hassessed hkeys hranking
  have hkey : candidate.key = winner.key := by simpa using List.find?_some hfind
  refine ⟨candidate, List.mem_of_find?_eq_some hfind, hkey, ?_, hfind⟩
  have hok : p.assessed options e candidate = .ok assessment := by
    rw [← hassess, hevidence, hasked]
    rfl
  rw [Prepared.verdict, hok]
  rfl

/-- Candidates with one key of which it makes no difference which one is kept. -/
structure Agree (options : ModelRouterOptions) (e : Env) (p : Prepared) (a b : RouteCandidate) :
    Prop where
  verdict : p.verdict options e a = p.verdict options e b
  bound : (p.verdict options e a).isOk = true →
    bindResolved {} (p.resolved options e a) = bindResolved {} (p.resolved options e b)

section

variable {p : Prepared} {e : Env} (gaps : List (World → World)) (s : World)

theorem rankAndCommit_congr {xs ys : List RouteCandidate}
    (hxs : (xs.map RouteCandidate.key).Nodup) (hys : (ys.map RouteCandidate.key).Nodup)
    (hverdicts : xs.map (p.verdict options e) = ys.map (p.verdict options e))
    (hagree : ∀ a ∈ xs, ∀ b ∈ ys, a.key = b.key → Agree options e p a b) :
    SameRouting
      (Program.run Act.apply e gaps
        (rankAndCommit options p.request p.snapshot p.governing xs) s).2.1.1
      (Program.run Act.apply e gaps
        (rankAndCommit options p.request p.snapshot p.governing ys) s).2.1.1 := by
  have hreports : (xs.map (p.assessed options e)).map (Except.map Assessment.ranked) =
      (ys.map (p.assessed options e)).map (Except.map Assessment.ranked) := by
    rw [List.map_map, List.map_map]
    exact hverdicts
  obtain ⟨hranked, hrejected⟩ := reports_congr hreports
  have hlength := congrArg List.length hranked
  rw [List.length_map, List.length_map] at hlength
  rw [rankAndCommit_eq, rankAndCommit_eq, run_bind, run_bind, run_assessAll, run_assessAll]
  dsimp only [settle]
  rw [hlength, hrejected, rankAll_congr hranked]
  split
  · exact .refl _
  cases hranking : rankAll (eligible (ys.map (p.assessed options e))) with
  | nil => exact .refl _
  | cons winner tail =>
      obtain ⟨a, ha, hkeya, -, hfinda⟩ := winner_resolved hxs
        ((rankAll_congr hranked).trans hranking)
      obtain ⟨b, hb, hkeyb, hok, hfindb⟩ := winner_resolved hys hranking
      obtain ⟨hverdict, hbound⟩ := hagree a ha b hb (hkeya.trans hkeyb.symm)
      have hresolved := hbound (by rw [hverdict]; exact hok)
      dsimp only
      rw [run_commitWinner p e _ s _ tail _ hfinda, run_commitWinner p e _ s _ tail _ hfindb]
      obtain ⟨hid, hgeneration⟩ := described_unreserved p winner.key
        ((gaps.drop ([] : Trace).length).headD id s).state
      rw [bindResolved_congr hid hgeneration hresolved, draftRoute_priced, draftRoute_priced]
      exact (committedOutcome_priced _ _ _ _).trans (committedOutcome_priced _ _ _ _).symm

theorem weigh_congr {xs ys : List RouteCandidate} (hperm : xs.Perm ys)
    (hagree : xs.length ≤ p.snapshot.limits.maxCandidatesPerRequest.toNat →
      ∀ a ∈ xs, ∀ b ∈ xs, a.key = b.key → Agree options e p a b) :
    SameRouting (Program.run Act.apply e gaps (weigh options p xs) s).2.1.1
      (Program.run Act.apply e gaps (weigh options p ys) s).2.1.1 := by
  rw [weigh, weigh, hperm.length_eq]
  split
  · exact .refl _
  rename_i hfew
  have hsame := hagree (by rw [hperm.length_eq]; exact Nat.not_lt.mp hfew)
  have hsorted (zs : List RouteCandidate) : (stableSort (fun a b : RouteCandidate =>
      a.key < b.key) zs).Pairwise fun a b => a.key ≤ b.key :=
    stableSort_sorted (fun a b => by simp) zs
  have hkept (zs : List RouteCandidate) (z : RouteCandidate) (hz : z ∈ canonicalCandidates zs) :
      z ∈ zs := mem_stableSort.mp (mem_of_mem_unique hz)
  have hsorts := (stableSort_perm (fun a b : RouteCandidate => a.key < b.key) xs).trans
    (hperm.trans (stableSort_perm (fun a b : RouteCandidate => a.key < b.key) ys).symm)
  refine rankAndCommit_congr gaps s (canonicalCandidates_nodup xs) (canonicalCandidates_nodup ys)
    ?_ fun a ha b hb => hsame a (hkept xs a ha) b (hperm.mem_iff.mpr (hkept ys b hb))
  refine unique_map_eq (fun a b => by simp) hsorts (hsorted xs) (hsorted ys) ?_
  intro a ha b hb hkey
  exact (hsame a (mem_stableSort.mp ha) b (mem_stableSort.mp hb) hkey).verdict

end

section

variable (options : ModelRouterOptions) (e : Env) (gaps : List (World → World))
variable (raw : RouteRequest) (s : World)

/-- The outcome of a pass among given moves of others. -/
def routed : RouteOutcome :=
  (Program.run Act.apply e gaps (route options raw) s).2.1

/-- What such a pass has settled before discovery. -/
def prepared : Except Stop Prepared :=
  (Program.run Act.apply e gaps (prepare options raw) s).2.1

/-- What is found for the pass holds candidates with one key only where it makes no difference
which of them is kept. -/
def Uniform (candidates : List RouteCandidate) : Prop :=
  options.providers.candidates = true → ∀ p, prepared options e gaps raw s = .ok p →
    candidates.length ≤ p.snapshot.limits.maxCandidatesPerRequest.toNat →
      ∀ a ∈ candidates, ∀ b ∈ candidates, a.key = b.key → Agree options e p a b

theorem routed_offering (candidates : List RouteCandidate) :
    routed options (offering e candidates) gaps raw s =
      (Program.run Act.apply (offering e candidates)
        (gaps.drop (Program.run Act.apply e gaps (prepare options raw) s).1.length)
        (conclude options (prepared options e gaps raw s))
        (Program.run Act.apply e gaps (prepare options raw) s).2.2).2.1.1 := by
  have hprepare := (prepare_indifferent raw).run_eq Act.apply ⟨candidates, rfl⟩ gaps s
    (p := prepare options raw) (e := e)
  rw [routed, route, bind_eq, run_bind, routePass_eq, bind_eq, run_bind, ← hprepare]
  rfl

end

variable {e : Env} {gaps : List (World → World)} {raw : RouteRequest} {s : World}

theorem conclude_offering {p : Prepared} (hsupplied : options.providers.candidates = true)
    (candidates : List RouteCandidate) :
    Program.run Act.apply (offering e candidates) gaps (conclude options (.ok p)) s =
      Program.run Act.apply e gaps (weigh options p candidates) s := by
  rw [(weigh_indifferent p candidates).run_eq Act.apply ⟨candidates, rfl⟩, conclude, discover,
    if_pos hsupplied]
  rfl

theorem conclude_builtin {p : Prepared} (hbuiltin : options.providers.candidates = false) :
    (conclude options (.ok p)).Indifferent Elsewhere := by
  rw [conclude, discover, if_neg (by simp [hbuiltin])]
  exact fun w => weigh_indifferent p _

theorem routed_perm {candidates found : List RouteCandidate}
    (huniform : Uniform options e gaps raw s candidates) (hperm : found.Perm candidates) :
    SameRouting (routed options (offering e found) gaps raw s)
      (routed options (offering e candidates) gaps raw s) := by
  rw [routed_offering, routed_offering]
  cases hprepared : prepared options e gaps raw s with
  | error reason => exact .refl _
  | ok p =>
      cases hsupplied : options.providers.candidates with
      | true =>
          rw [conclude_offering hsupplied, conclude_offering hsupplied]
          exact (weigh_congr _ _ hperm.symm (huniform hsupplied p hprepared)).symm
      | false =>
          have hbuiltin := conclude_builtin (p := p) hsupplied
          rw [← hbuiltin.run_eq Act.apply ⟨found, rfl⟩, ← hbuiltin.run_eq Act.apply ⟨candidates, rfl⟩]
          exact .refl _

/-! A pass that runs alone reports every verdict. -/

/-- A state in which a pass may commit. -/
structure Open (p : Prepared) (s : CanonicalState) : Prop where
  admitting : s.shuttingDown = false
  routerEpoch : s.routerEpoch = p.snapshot.epoch
  coordinatorEpoch : s.coordinatorEpoch = p.snapshot.coordinatorEpoch

theorem boundDecision_reports (s : CanonicalState) (draft : CommitDraft) (id : RouteDecisionId) :
    (boundDecision s draft id).explanation.ranking = draft.decision.explanation.ranking ∧
      (boundDecision s draft id).explanation.rejections = draft.decision.explanation.rejections := by
  rw [boundDecision]
  dsimp only
  split
  · exact ⟨rfl, rfl⟩
  · exact ⟨rfl, rfl⟩

theorem committedOutcome_reports {p : Prepared} {w : World} (hopen : Open p w.state)
    (explanation : RouteExplanation) (winner : RankedCandidate) (tail : List RankedCandidate)
    (authority : RouteAuthority) (score : Int) :
    (committedOutcome (draftRoute p.request p.snapshot p.governing.policy explanation winner tail
        authority) w score).route.ranking = explanation.ranking ∧
      (committedOutcome (draftRoute p.request p.snapshot p.governing.policy explanation winner tail
        authority) w score).route.rejections = explanation.rejections := by
  have htaken : commitRefusal (draftRoute p.request p.snapshot p.governing.policy explanation winner
      tail authority) w.state = none := by
    simp [commitRefusal, draftRoute, hopen.admitting, hopen.routerEpoch, hopen.coordinatorEpoch]
  rw [committedOutcome, commitSection, htaken]
  exact boundDecision_reports _ _ _

/-- Limits that cut nothing off so many candidates. -/
structure Roomy (limits : ResourceLimits) (count : Nat) : Prop where
  discovered : count ≤ limits.maxCandidatesPerRequest.toNat
  ranked : count ≤ limits.maxRankedCandidates.toNat
  rejections : count ≤ limits.maxRejectionRecords.toNat

theorem eligible_length (assessed : List (Except RouteRejection Assessment)) :
    (eligible assessed).length ≤ assessed.length :=
  List.length_filterMap_le _ assessed

theorem rejected_length (assessed : List (Except RouteRejection Assessment)) :
    (rejected assessed).length ≤ assessed.length :=
  List.length_filterMap_le _ assessed

theorem rankAndCommit_reports {p : Prepared} {e : Env} {w : World} {candidates : List RouteCandidate}
    (hkeys : (candidates.map RouteCandidate.key).Nodup) (hopen : Open p w.state)
    (hroom : Roomy p.snapshot.limits candidates.length) :
    let outcome := (Program.run Act.apply e []
      (rankAndCommit options p.request p.snapshot p.governing candidates) w).2.1.1
    outcome.route.ranking = rankAll (eligible (candidates.map (p.assessed options e))) ∧
      outcome.route.rejections = rejected (candidates.map (p.assessed options e)) := by
  have hranked : ¬(eligible (candidates.map (p.assessed options e))).length >
      p.snapshot.limits.maxRankedCandidates.toNat := by
    have hlength := eligible_length (candidates.map (p.assessed options e))
    rw [List.length_map] at hlength
    have hfits := hroom.ranked
    omega
  have hkept : (rejected (candidates.map (p.assessed options e))).take
      p.snapshot.limits.maxRejectionRecords.toNat =
        rejected (candidates.map (p.assessed options e)) := by
    have hlength := rejected_length (candidates.map (p.assessed options e))
    rw [List.length_map] at hlength
    exact List.take_of_length_le (hlength.trans hroom.rejections)
  rw [rankAndCommit_eq, run_bind, run_assessAll]
  dsimp only [settle]
  rw [if_neg hranked, hkept]
  cases hranking : rankAll (eligible (candidates.map (p.assessed options e))) with
  | nil => exact ⟨rfl, rfl⟩
  | cons winner tail =>
      obtain ⟨candidate, -, -, -, hfind⟩ := winner_resolved hkeys hranking
      dsimp only
      rw [run_commitWinner p e _ w _ tail _ hfind]
      exact committedOutcome_reports hopen _ winner tail _ winner.score

theorem mem_assessed_rank {p : Prepared} {e : Env} {candidates : List RouteCandidate}
    {assessment : Assessment} (h : assessment ∈ eligible (candidates.map (p.assessed options e))) :
    assessment.ranked.rank = 0 := by
  obtain ⟨candidate, -, hassess⟩ := List.mem_map.mp (mem_eligible.mp h)
  rw [Prepared.assessed, assess] at hassess
  split at hassess
  · obtain rfl := Except.ok.inj hassess
    rfl
  · cases hassess

theorem rankAll_unnumbered {p : Prepared} {e : Env} (candidates : List RouteCandidate) :
    ((rankAll (eligible (candidates.map (p.assessed options e)))).map
      fun ranked => { ranked with rank := 0 }).Perm
        ((eligible (candidates.map (p.assessed options e))).map Assessment.ranked) := by
  rw [rankAll, numberRanks_map _ fun _ _ => rfl]
  refine ((stableSort_perm candidateRanksBefore _).map _).trans ?_
  rw [List.map_map]
  refine .of_eq (List.map_congr_left fun assessment hassessment => ?_)
  change { assessment.ranked with rank := 0 } = assessment.ranked
  rw [← mem_assessed_rank hassessment]

theorem verdict_of_reports {x y : Except RouteRejection Assessment}
    (hranked : ((eligible [x]).map Assessment.ranked).Perm ((eligible [y]).map Assessment.ranked))
    (hrejected : rejected [x] = rejected [y]) :
    x.map Assessment.ranked = y.map Assessment.ranked := by
  cases x with
  | error rejection =>
      cases y with
      | error other => exact congrArg Except.error (List.cons.inj hrejected).1
      | ok assessment => cases hrejected
  | ok assessment =>
      cases y with
      | error rejection => cases hrejected
      | ok other =>
          have hsame : [assessment.ranked] = [other.ranked] := List.perm_singleton.mp hranked
          exact congrArg Except.ok (List.cons.inj hsame).1

theorem verdict_eq {p : Prepared} {e : Env} {front back : List RouteCandidate}
    {a b : RouteCandidate}
    (hranking : rankAll (eligible ((front ++ a :: back).map (p.assessed options e))) =
      rankAll (eligible ((front ++ b :: back).map (p.assessed options e))))
    (hrejected : rejected ((front ++ a :: back).map (p.assessed options e)) =
      rejected ((front ++ b :: back).map (p.assessed options e))) :
    p.verdict options e a = p.verdict options e b := by
  have hlists := (rankAll_unnumbered (front ++ a :: back)).symm.trans
    (hranking ▸ rankAll_unnumbered (front ++ b :: back))
  have hsplit (c : RouteCandidate) : (front ++ c :: back).map (p.assessed options e) =
      front.map (p.assessed options e) ++ ([p.assessed options e c] ++
        back.map (p.assessed options e)) := by
    simp
  simp only [hsplit, eligible, rejected, List.filterMap_append, List.map_append] at hlists hrejected
  refine verdict_of_reports ?_ ?_
  · exact (List.perm_append_right_iff _).mp ((List.perm_append_left_iff _).mp hlists)
  · exact List.append_cancel_right (List.append_cancel_left hrejected)

theorem mem_canonicalCandidates {found : List RouteCandidate} {candidate : RouteCandidate} :
    candidate ∈ canonicalCandidates found ↔
      found.find? (fun other => other.key = candidate.key) = some candidate := by
  have hfirst : (canonicalCandidates found).find? (fun other => other.key = candidate.key) =
      found.find? fun other => other.key = candidate.key := by
    have hheld (other : RouteCandidate) :
        decide (other.key = candidate.key) = true ↔ other.key = candidate.key := decide_eq_true_iff
    rw [canonicalCandidates, find?_unique (fun a b => by simp) hheld,
      find?_stableSort (fun a b => by simp) hheld]
  constructor
  · intro hmem
    have hsome : ((canonicalCandidates found).find? fun other =>
        other.key = candidate.key).isSome :=
      List.find?_isSome.mpr ⟨candidate, hmem, decide_eq_true rfl⟩
    obtain ⟨other, hother⟩ := Option.isSome_iff_exists.mp hsome
    have hkey : other.key = candidate.key := by simpa using List.find?_some hother
    rw [← hfirst, hother, List.inj_on_of_nodup_map (canonicalCandidates_nodup found)
      (List.mem_of_find?_eq_some hother) hmem hkey]
  · intro hfind
    exact List.mem_of_find?_eq_some (hfirst.trans hfind)

theorem canonicalCandidates_keys {xs ys : List RouteCandidate} (hperm : xs.Perm ys) :
    (canonicalCandidates xs).map RouteCandidate.key =
      (canonicalCandidates ys).map RouteCandidate.key := by
  have hsorted (zs : List RouteCandidate) : (stableSort (fun a b : RouteCandidate =>
      a.key < b.key) zs).Pairwise fun a b => a.key ≤ b.key :=
    stableSort_sorted (fun a b => by simp) zs
  refine unique_keys_eq (fun a b => by simp) ?_ (hsorted xs) (hsorted ys)
  exact (stableSort_perm _ xs).trans (hperm.trans (stableSort_perm _ ys).symm)

theorem canonicalCandidates_swap {a b : RouteCandidate} (rest : List RouteCandidate)
    (hkey : a.key = b.key) :
    ∃ front back, canonicalCandidates (a :: b :: rest) = front ++ a :: back ∧
      canonicalCandidates (b :: a :: rest) = front ++ b :: back := by
  refine split_of_keys (canonicalCandidates_keys (.swap b a rest))
    (canonicalCandidates_nodup _) ?_ ?_ hkey fun x hx y hy hxy hne => ?_
  · exact mem_canonicalCandidates.mpr (List.find?_cons_of_pos (decide_eq_true rfl))
  · exact mem_canonicalCandidates.mpr (List.find?_cons_of_pos (decide_eq_true rfl))
  · have hx' := mem_canonicalCandidates.mp hx
    have hy' := mem_canonicalCandidates.mp hy
    have hskip (z : RouteCandidate) (hz : z.key = a.key) (zs : List RouteCandidate) :
        (z :: zs).find? (fun other => other.key = x.key) =
          zs.find? fun other => other.key = x.key :=
      List.find?_cons_of_neg (by simpa [hz] using hne.symm)
    rw [hskip a rfl, hskip b hkey.symm] at hx'
    rw [← hxy, hskip b hkey.symm, hskip a rfl, hx'] at hy'
    exact Option.some.inj hy'

theorem canonicalCandidates_length (found : List RouteCandidate) :
    (canonicalCandidates found).length ≤ found.length := by
  have hnodup : (canonicalCandidates found).Nodup := (canonicalCandidates_nodup found).of_map
  have hsubset : canonicalCandidates found ⊆ found := fun z hz =>
    mem_stableSort.mp (mem_of_mem_unique hz)
  exact (List.subperm_of_subset hnodup hsubset).length_le

theorem Roomy.mono {limits : ResourceLimits} {m n : Nat} (h : Roomy limits n) (hle : m ≤ n) :
    Roomy limits m :=
  ⟨hle.trans h.discovered, hle.trans h.ranked, hle.trans h.rejections⟩

theorem weigh_reports (options : ModelRouterOptions) (e : Env) (found : List RouteCandidate)
    {p : Prepared} {w : World} (hopen : Open p w.state) (hroom : Roomy p.snapshot.limits found.length) :
    let outcome := (Program.run Act.apply e [] (weigh options p found) w).2.1.1
    let assessed := (canonicalCandidates found).map (p.assessed options e)
    outcome.route.ranking = rankAll (eligible assessed) ∧
      outcome.route.rejections = rejected assessed := by
  rw [weigh, if_neg (Nat.not_lt.mpr hroom.discovered)]
  exact rankAndCommit_reports (canonicalCandidates_nodup found) hopen
    (hroom.mono (canonicalCandidates_length found))

theorem weigh_swap {p : Prepared} {e : Env} {w : World} {a b : RouteCandidate}
    {rest : List RouteCandidate} (hopen : Open p w.state)
    (hroom : Roomy p.snapshot.limits (rest.length + 2)) (hkey : a.key = b.key)
    (h : SameRouting (Program.run Act.apply e [] (weigh options p (a :: b :: rest)) w).2.1.1
      (Program.run Act.apply e [] (weigh options p (b :: a :: rest)) w).2.1.1) :
    p.verdict options e a = p.verdict options e b := by
  obtain ⟨hranking, hrejected⟩ := weigh_reports options e (a :: b :: rest) hopen hroom
  obtain ⟨hranking', hrejected'⟩ := weigh_reports options e (b :: a :: rest) hopen hroom
  obtain ⟨front, back, ha, hb⟩ := canonicalCandidates_swap rest hkey
  have hrankings := hranking.symm.trans (h.ranking.trans hranking')
  have hrejections := hrejected.symm.trans (h.rejections.trans hrejected')
  rw [ha, hb] at hrankings hrejections
  exact verdict_eq hrankings hrejections

theorem quiet_state {es : Trace} {u t : World} (h : Chained Act.apply u es t)
    (hacts : ∀ e ∈ es, e.act = .observe ∨ e.act = .allocate) :
    t.state = u.state ∧ ∀ e ∈ es, e.pre.state = u.state := by
  have hkeeps : ∀ e ∈ es, e.pre.state = u.state → (e.act.apply e.pre).state = u.state := by
    intro e he hstate
    rcases hacts e he with hact | hact
    · rw [hact]
      exact hstate
    · rw [hact]
      exact hstate
  exact ⟨h.invariant (I := fun w => w.state = u.state) rfl hkeeps,
    h.invariant_pre (I := fun w => w.state = u.state) rfl hkeeps⟩

theorem prepared_open {p : Prepared} (hprepared : prepared options e [] raw s = .ok p) :
    Open p (Program.run Act.apply e [] (prepare options raw) s).2.2.state ∧
      p.snapshot.limits = s.state.limits := by
  have hexec : Executes (· = e) Eq (prepare options raw) s _ _ _ :=
    Program.run_exec Act.apply e (prepare options raw) s (fun _ => rfl)
      fun g hg => absurd hg (List.not_mem_nil (a := g))
  obtain ⟨hacts, hby⟩ := executes_prepare hexec
  obtain ⟨clock, admitted, hadmitted, hby⟩ := hby p hprepared
  obtain ⟨hend, hpre⟩ := quiet_state hexec.chained hacts
  have hsame : admitted.state = s.state := hpre _ hadmitted
  have hadmitting : admitted.state.shuttingDown = false := by
    have hrefusal := hby.admitted
    simp only [admitRefusal, Option.orElse_eq_none, stopIf_eq_none] at hrefusal
    exact hrefusal.1
  rw [hend, ← hsame, hby.snapshot]
  refine ⟨⟨hadmitting, ?_, ?_⟩, rfl⟩
  · rw [hby.snapshot]
    rfl
  · rw [hby.snapshot]
    rfl

theorem verdicts_agree {candidates : List RouteCandidate}
    (hroom : Roomy s.state.limits candidates.length)
    (hsupplied : options.providers.candidates = true) {p : Prepared}
    (hprepared : prepared options e [] raw s = .ok p)
    (h : ∀ found, found.Perm candidates →
      SameRouting (routed options (offering e found) [] raw s)
        (routed options (offering e candidates) [] raw s))
    {a b : RouteCandidate} (ha : a ∈ candidates) (hb : b ∈ candidates) (hkey : a.key = b.key) :
    p.verdict options e a = p.verdict options e b := by
  by_cases hab : b = a
  · rw [hab]
  obtain ⟨front, back, rfl⟩ := List.append_of_mem ha
  have hb' : b ∈ front ++ back := by
    rw [List.mem_append, List.mem_cons] at hb
    rw [List.mem_append]
    exact hb.imp_right fun hback => hback.resolve_left hab
  obtain ⟨front', back', heq⟩ := List.append_of_mem hb'
  have hperm : (a :: b :: (front' ++ back')).Perm (front ++ a :: back) := by
    refine ((List.Perm.cons a ?_).trans List.perm_middle.symm)
    rw [heq]
    exact List.perm_middle.symm
  have hab := (h _ hperm).trans (h _ ((List.Perm.swap a b _).trans hperm)).symm
  obtain ⟨hopen, hlimits⟩ := prepared_open hprepared
  rw [routed_offering, routed_offering, hprepared, conclude_offering hsupplied,
    conclude_offering hsupplied, List.drop_nil] at hab
  refine weigh_swap hopen ?_ hkey hab
  rw [hlimits]
  have hlength := hperm.length_eq
  rw [List.length_cons, List.length_cons] at hlength
  rw [hlength]
  exact hroom

/-- Routing does not depend on the order of discovery where it makes no difference which candidate
of a key is kept; and nowhere else, as far as the verdicts go and a pass that runs alone with room
to report them. -/
theorem discovery_order (options : ModelRouterOptions) (e : Env) (gaps : List (World → World))
    (raw : RouteRequest) (s : World) (candidates : List RouteCandidate) :
    (Uniform options e gaps raw s candidates → ∀ found, found.Perm candidates →
      SameRouting (routed options (offering e found) gaps raw s)
        (routed options (offering e candidates) gaps raw s)) ∧
    ((∀ found, found.Perm candidates →
        SameRouting (routed options (offering e found) [] raw s)
          (routed options (offering e candidates) [] raw s)) →
      Roomy s.state.limits candidates.length → options.providers.candidates = true →
        ∀ p, prepared options e [] raw s = .ok p → ∀ a ∈ candidates, ∀ b ∈ candidates,
          a.key = b.key → p.verdict options e a = p.verdict options e b) := by
  refine ⟨fun huniform found hperm => routed_perm huniform hperm, ?_⟩
  intro hsame hroom hsupplied p hprepared a ha b hb hkey
  exact verdicts_agree hroom hsupplied hprepared hsame ha hb hkey

section

def discoveringOptions : ModelRouterOptions :=
  { sampleOptions with providers := { candidates := true } }

def servingWorld : World :=
  (play sampleOptions sampleEnv sampleCatalog).2.2

def sampleFound : RouteCandidate :=
  candidateOf (sampleModel ⟨1⟩) (sampleBackend ⟨1⟩ ⟨1⟩)
    { modelId := ⟨1⟩, modelGeneration := ⟨1⟩, artifactGeneration := ⟨1⟩ }

/-- The same candidate as another source reports it. -/
def mirroredFound : RouteCandidate :=
  { sampleFound with discoverySource := "mirror" }

/-- The same candidate as a source reports it that knows of no input modality. -/
def inputlessFound : RouteCandidate :=
  { sampleFound with model := { sampleFound.model with inputModalities := ⟨0⟩ } }

/-- Whether it makes no difference to the sample pass which of two candidates is kept. -/
def sampleAgrees (a b : RouteCandidate) : Bool :=
  match prepared discoveringOptions sampleEnv [] sampleRequest servingWorld with
  | .error _ => true
  | .ok p =>
    (match p.verdict discoveringOptions sampleEnv a, p.verdict discoveringOptions sampleEnv b with
      | .ok ranked, .ok other => decide (ranked = other)
      | .error rejection, .error other => decide (rejection = other)
      | _, _ => false) &&
    decide (bindResolved {} (p.resolved discoveringOptions sampleEnv a) =
      bindResolved {} (p.resolved discoveringOptions sampleEnv b))

theorem agree_of_sampleAgrees {p : Prepared} {a b : RouteCandidate}
    (hprepared : prepared discoveringOptions sampleEnv [] sampleRequest servingWorld = .ok p)
    (h : sampleAgrees a b = true) : Agree discoveringOptions sampleEnv p a b := by
  rw [sampleAgrees, hprepared] at h
  obtain ⟨hverdict, hbound⟩ := Bool.and_eq_true_iff.mp h
  refine ⟨?_, fun _ => of_decide_eq_true hbound⟩
  split at hverdict
  · rename_i hx hy
    rw [hx, hy, of_decide_eq_true hverdict]
  · rename_i hx hy
    rw [hx, hy, of_decide_eq_true hverdict]
  · cases hverdict

theorem mirrored_routes_same :
    SameRouting
      (routed discoveringOptions (offering sampleEnv [mirroredFound, sampleFound]) [] sampleRequest
        servingWorld)
      (routed discoveringOptions (offering sampleEnv [sampleFound, mirroredFound]) [] sampleRequest
        servingWorld) := by
  refine (discovery_order discoveringOptions sampleEnv [] sampleRequest servingWorld
    [sampleFound, mirroredFound]).1 (fun _ p hprepared _ a ha b hb _ => ?_) _ (.swap _ _ _)
  have hagrees : ∀ a ∈ [sampleFound, mirroredFound], ∀ b ∈ [sampleFound, mirroredFound],
      sampleAgrees a b = true := by decide +kernel
  exact agree_of_sampleAgrees hprepared (hagrees a ha b hb)

/-- Of two candidates with one key the one that is found first decides whether there is a route. -/
theorem discovery_order_matters :
    ¬∀ (options : ModelRouterOptions) (e : Env) (raw : RouteRequest) (s : World)
      (candidates found : List RouteCandidate), found.Perm candidates →
        SameRouting (routed options (offering e found) [] raw s)
          (routed options (offering e candidates) [] raw s) := by
  intro h
  have hcode := (h discoveringOptions sampleEnv sampleRequest servingWorld
    [inputlessFound, sampleFound] [sampleFound, inputlessFound] (.swap _ _ _)).code
  have hroutes : (routed discoveringOptions (offering sampleEnv [sampleFound, inputlessFound]) []
      sampleRequest servingWorld).code = .routed := by decide +kernel
  have hfails : (routed discoveringOptions (offering sampleEnv [inputlessFound, sampleFound]) []
      sampleRequest servingWorld).code = .noEligibleCandidate := by decide +kernel
  rw [hroutes, hfails] at hcode
  cases hcode

end

end ModelRouter.Discovery
