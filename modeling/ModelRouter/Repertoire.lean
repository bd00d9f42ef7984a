import ModelRouter.Run
import ModelRouter.Sorting

namespace ModelRouter.Repertoire

open Base Base.Program Bytes Ids Outcome Capability Evidence Catalog Limits Candidate Authority Request
open Policy Eligibility Decision Persistence State CatalogMutation Mutations Commit Recovery Providers
open Section Pass Route Dispatch Reroute Lifecycle Router Run Sorting

/-- What a named and canonical request keeps of the request that was made. -/
structure SameTerms (raw request : RouteRequest) : Prop where
  tenant : request.tenant = raw.tenant
  nameSpace : request.nameSpace = raw.nameSpace
  retryPolicy : request.requirements.retryPolicy = raw.requirements.retryPolicy

theorem SameTerms.trans {raw request named : RouteRequest} (h : SameTerms raw request)
    (h' : SameTerms request named) : SameTerms raw named :=
  ⟨h'.tenant.trans h.tenant, h'.nameSpace.trans h.nameSpace, h'.retryPolicy.trans h.retryPolicy⟩

def boundKey (a : RouteAuthority) : CandidateKey where
  modelId := a.modelId
  modelGeneration := a.modelGeneration
  artifactGeneration := a.artifactGeneration
  backendId := a.backendId
  backendGeneration := a.backendGeneration
  backendBoot := a.backendBoot
  endpointId := a.endpointId
  endpointGeneration := a.endpointGeneration

/-- An authority over a candidate, for a request and in the epochs of a context. -/
structure BoundTo (request : RouteRequest) (context : DiscoveryContext) (key : CandidateKey)
    (a : RouteAuthority) : Prop where
  key : boundKey a = key
  routerEpoch : a.routerEpoch = context.routerEpoch
  coordinatorEpoch : a.coordinatorEpoch = context.coordinatorEpoch
  tenant : a.tenant = request.tenant
  nameSpace : a.nameSpace = request.nameSpace

section

variable {request : RouteRequest} {context : DiscoveryContext} {key : CandidateKey}
variable {a : RouteAuthority}

theorem bindWinner_boundTo (routerId : RouterId) :
    BoundTo request context key (bindWinner context routerId request key) :=
  ⟨rfl, rfl, rfl, rfl, rfl⟩

theorem BoundTo.descriptor (h : BoundTo request context key a) (backend : BackendDescriptor) :
    BoundTo request context key (bindDescriptor a backend) :=
  ⟨h.key, h.routerEpoch, h.coordinatorEpoch, h.tenant, h.nameSpace⟩

theorem BoundTo.governing (h : BoundTo request context key a) (policy : PolicySnapshot)
    (budget : BudgetSnapshot) (slo : SloEvidence) :
    BoundTo request context key (bindGoverning a request policy budget slo) :=
  ⟨h.key, h.routerEpoch, h.coordinatorEpoch, h.tenant, h.nameSpace⟩

theorem BoundTo.resolved (h : BoundTo request context key a) (evidence : CandidateEvidence) :
    BoundTo request context key (bindResolved a evidence) :=
  ⟨h.key, h.routerEpoch, h.coordinatorEpoch, h.tenant, h.nameSpace⟩

theorem bindFallback_boundTo (routerId : RouterId) (candidate : RouteCandidate)
    (evidence : CandidateEvidence) (policy : PolicySnapshot) (budget : BudgetSnapshot)
    (slo : SloEvidence) :
    BoundTo request context candidate.key
      (bindFallback context routerId request candidate evidence policy budget slo) :=
  (((bindWinner_boundTo routerId).descriptor candidate.backend).governing policy budget
    slo).resolved evidence

end

/-- A ranking of assessed candidates no two of which are the same. -/
def Ranks (ranking : List RankedCandidate) : Prop :=
  ∃ assessments : List Assessment,
    (assessments.map fun assessment => assessment.ranked.key).Nodup ∧ ranking = rankAll assessments

/-- An explanation that keeps to the bounds of a pass and lists every factor of a candidate. -/
structure Listed (limits : ResourceLimits) (explanation : RouteExplanation) : Prop where
  ranking : explanation.ranking.length ≤ max 1 limits.maxRankedCandidates.toNat
  factors : ∀ ranked ∈ explanation.ranking, ranked.factors.length = canonicalFactorOrder.length
  rejections : explanation.rejections.length ≤ limits.maxRejectionRecords.toNat

theorem numberRanks_map {β : Type} (f : RankedCandidate → β)
    (hf : ∀ candidate rank, f { candidate with rank := rank } = f candidate) (rank : Nat)
    (candidates : List RankedCandidate) :
    (numberRanks rank candidates).map f = candidates.map f := by
  induction candidates generalizing rank with
  | nil => rfl
  | cons candidate rest ih => rw [numberRanks, List.map_cons, List.map_cons, hf, ih]

theorem rankAll_length (assessments : List Assessment) :
    (rankAll assessments).length = assessments.length := by
  have hkeys := congrArg List.length (numberRanks_map RankedCandidate.key (fun _ _ => rfl) 1
    (stableSort candidateRanksBefore (assessments.map Assessment.ranked)))
  rwa [List.length_map, List.length_map, (stableSort_perm _ _).length_eq, List.length_map] at hkeys

theorem mem_rankAll {assessments : List Assessment} {ranked : RankedCandidate}
    (h : ranked ∈ rankAll assessments) :
    ∃ assessment ∈ assessments, assessment.ranked.factors = ranked.factors := by
  have hmem := List.mem_map_of_mem (f := RankedCandidate.factors) h
  rw [rankAll, numberRanks_map _ fun _ _ => rfl] at hmem
  obtain ⟨found, hfound, hfactors⟩ := List.mem_map.mp hmem
  obtain ⟨assessment, hassessment, rfl⟩ := List.mem_map.mp (mem_stableSort.mp hfound)
  exact ⟨assessment, hassessment, hfactors⟩

variable {I : World → Prop} {E : Env → Prop}

def Lists (I : World → Prop) (draft : CommitDraft) : Prop :=
  ∃ w, I w ∧ Listed w.state.limits draft.decision.explanation

/-- What a pass over a request brings to its commit, where its snapshot was taken in `I`. -/
inductive RouteDraft (I : World → Prop) (E : Env → Prop) (raw : RouteRequest) :
    CommitDraft → Prop where
  | intro {request : RouteRequest} {w : World} {e : Env} {explanation : RouteExplanation}
      {winner : RankedCandidate} {tail : List RankedCandidate} {authority : RouteAuthority} :
      I w → E e → SameTerms raw request → explanation.ranking = winner :: tail →
      Ranks (winner :: tail) →
      BoundTo request (Snapshot.capture w.state request.tenant request.nameSpace e.now).context
        winner.key authority →
      RouteDraft I E raw
        (draftRoute request (Snapshot.capture w.state request.tenant request.nameSpace e.now)
          explanation.policy explanation winner tail authority)

/-- What the fallback walk over a retained decision brings to its commit. -/
inductive FallbackDraft (I : World → Prop) (E : Env → Prop) (id : RouteDecisionId)
    (raw : RouteRequest) : CommitDraft → Prop where
  | intro {request : RouteRequest} {w : World} {e : Env} {stored : RouteRecord}
      {governing : Governing} {assessment : Assessment} {authority : RouteAuthority} :
      I w → E e → SameTerms raw request → w.state.routes.find? id = some stored →
      assessment.ranked.key = assessment.candidate.key →
      BoundTo request (Snapshot.capture w.state stored.tenant stored.nameSpace e.now).context
        assessment.candidate.key authority →
      FallbackDraft I E id raw
        (draftFallback request (Snapshot.capture w.state stored.tenant stored.nameSpace e.now)
          governing assessment authority stored.plan.fallbacks
          (permittedFallbacks request governing.policy w.state.limits))

theorem RouteDraft.of_sameTerms {raw request : RouteRequest} {draft : CommitDraft}
    (hterms : SameTerms raw request) (h : RouteDraft I E request draft) :
    RouteDraft I E raw draft := by
  obtain ⟨hw, he, hnamed, hranking, hranks, hbound⟩ := h
  exact .intro hw he (hterms.trans hnamed) hranking hranks hbound

/-- The sections that carry nothing an operation computed from states it met before. -/
def plain : Act → Bool
  | .mutate _ _ | .publish _ | .importState _ | .commit _ | .finishRevalidate _ _ _ _
  | .recordDispatch _ _ _ _ | .store _ _ => false
  | _ => true

def idle : Act → Bool
  | .writeCapacityDetail _ => false
  | k => plain k

theorem plain_of_idle {k : Act} (h : idle k = true) : plain k = true := by
  cases k with
  | writeCapacityDetail detail => cases h
  | _ => exact h

/-- The idle sections of the operations other than `start` and `shutdown`. -/
def calm : Act → Bool
  | .admitStart | .beginShutdown => false
  | k => idle k

theorem idle_of_calm {k : Act} (h : calm k = true) : idle k = true := by
  cases k with
  | admitStart => cases h
  | beginShutdown => cases h
  | _ => exact h

variable {P : Act → Prop}

section

variable {α β : Type} {Q : α → Prop}

theorem done_only (a : α) : (pure a : Operation α).Only I E P := trivial

theorem perform_only {k : Act} {f : World → Operation α} (hk : P k)
    (h : ∀ w, I w → (f w).Only I E P) : (perform k >>= f).Only I E P :=
  ⟨hk, h⟩

theorem ask_only {f : Env → Operation α} (h : ∀ e, E e → (f e).Only I E P) :
    (ask >>= f).Only I E P :=
  h

theorem bind_only {p : Operation β} {f : β → Operation α} (hp : p.Only I E P)
    (h : ∀ b, (f b).Only I E P) : (p >>= f).Only I E P :=
  hp.bind h

theorem bind_only_ends {p : Operation α} {f : α → Operation β} (hp : p.Only I E P)
    (hq : p.Ends I E Q) (h : ∀ a, Q a → (f a).Only I E P) : (p >>= f).Only I E P :=
  hp.bind_ends hq h

theorem ite_only {condition : Prop} [Decidable condition] {p q : Operation α}
    (hp : p.Only I E P) (hq : q.Only I E P) : (if condition then p else q).Only I E P := by
  split
  · exact hp
  · exact hq

theorem map_only {p : Operation α} (f : α → β) (hp : p.Only I E P) : (f <$> p).Only I E P :=
  hp.bind fun _ => trivial

theorem proceed_only {stop : Stop → α} {x : Except Stop β} {next : β → Operation α}
    (h : ∀ value, (next value).Only I E P) : (proceed stop x next).Only I E P := by
  cases x with
  | error reason => trivial
  | ok value => exact h value

theorem consult_only (supplied : Bool) (held : β) (query : Adapters → EvidenceResult β) :
    (consult supplied held query).Only I E P := by
  rw [consult]
  exact ite_only (ask_only fun _ _ => done_only _) (done_only _)

end

theorem identify_ends (raw : RouteRequest) : (identify raw).Ends I E (SameTerms raw) := by
  have hnamed (request : RouteRequest) (h : SameTerms raw request) :
      (pure (if request.requestGeneration.valid then request
        else { request with requestGeneration := ⟨1⟩ }) : Operation RouteRequest).Ends I E
          (SameTerms raw) := by
    change SameTerms raw _
    split
    · exact h
    · exact ⟨h.tenant, h.nameSpace, h.retryPolicy⟩
  rw [identify]
  dsimp only
  split
  · exact hnamed _ ⟨rfl, rfl, rfl⟩
  · exact fun _ _ => hnamed _ ⟨rfl, rfl, rfl⟩

theorem canonicalCandidates_nodup (candidates : List RouteCandidate) :
    ((canonicalCandidates candidates).map RouteCandidate.key).Nodup := by
  have hsorted : (stableSort (fun a b : RouteCandidate => a.key < b.key) candidates).Pairwise
      fun a b => a.key ≤ b.key := stableSort_sorted (fun a b => by simp) candidates
  have hstrict : (canonicalCandidates candidates).Pairwise fun a b => a.key < b.key :=
    unique_strict (fun a b => by simp) hsorted
  rw [List.nodup_iff_pairwise_ne, List.pairwise_map]
  exact hstrict.imp fun h => ne_of_lt h

theorem assess_key {frame : Frame} {candidate : RouteCandidate} {evidence : CandidateEvidence}
    {assessment : Assessment} (h : assess frame candidate evidence = .ok assessment) :
    assessment.ranked.key = candidate.key ∧ assessment.candidate.key = candidate.key := by
  rw [assess] at h
  split at h
  · obtain rfl := Except.ok.inj h
    exact ⟨rfl, rfl⟩
  · cases h

theorem pushedFactors_length (candidate : RouteCandidate) (context : Ranking.RankingContext) :
    (Ranking.pushedFactors candidate context).length = canonicalFactorOrder.length := by
  simp only [Ranking.pushedFactors, List.length_cons, List.length_nil, canonicalFactorOrder]

theorem assess_factors {frame : Frame} {candidate : RouteCandidate} {evidence : CandidateEvidence}
    {assessment : Assessment} (h : assess frame candidate evidence = .ok assessment) :
    assessment.ranked.factors.length = canonicalFactorOrder.length := by
  rw [assess] at h
  split at h
  · obtain rfl := Except.ok.inj h
    simp only [rankCandidate, Ranking.buildFactors, sortFactors]
    rw [(stableSort_perm _ _).length_eq, pushedFactors_length]
  · cases h

def AssessedOf (candidates : List RouteCandidate)
    (assessed : List (Except RouteRejection Assessment)) : Prop :=
  ((eligible assessed).map fun assessment => assessment.ranked.key).Sublist
    (candidates.map RouteCandidate.key)

theorem assessAll_ends (options : ModelRouterOptions) (request : RouteRequest)
    (snapshot : Snapshot) (frame : Frame) (candidates : List RouteCandidate) :
    (assessAll options request snapshot frame candidates).Ends I E (AssessedOf candidates) := by
  induction candidates with
  | nil => exact List.Sublist.slnil
  | cons candidate rest ih =>
      have hresolve : (resolve options request snapshot candidate).Ends I E fun _ => True :=
        fun _ _ => trivial
      refine hresolve.bind fun evidence _ => ih.bind fun others hothers => ?_
      change AssessedOf (candidate :: rest) (assess frame candidate evidence :: others)
      rw [AssessedOf, eligible, List.filterMap_cons]
      cases hassess : assess frame candidate evidence with
      | error rejection => exact hothers.cons _
      | ok assessment =>
          dsimp only
          rw [List.map_cons, List.map_cons, (assess_key hassess).1]
          exact hothers.cons_cons _

theorem assessAll_factors (options : ModelRouterOptions) (request : RouteRequest)
    (snapshot : Snapshot) (frame : Frame) (candidates : List RouteCandidate) :
    (assessAll options request snapshot frame candidates).Ends I E fun assessed =>
      ∀ assessment ∈ eligible assessed,
        assessment.ranked.factors.length = canonicalFactorOrder.length := by
  induction candidates with
  | nil => exact fun _ h => nomatch h
  | cons candidate rest ih =>
      have hresolve : (resolve options request snapshot candidate).Ends I E fun _ => True :=
        fun _ _ => trivial
      refine hresolve.bind fun evidence _ => ih.bind fun others hothers => ?_
      change ∀ assessment ∈ eligible (assess frame candidate evidence :: others), _
      rw [eligible, List.filterMap_cons]
      cases hassess : assess frame candidate evidence with
      | error rejection => exact hothers
      | ok assessment => exact List.forall_mem_cons.mpr ⟨assess_factors hassess, hothers⟩

theorem ranks_of_assessedOf {candidates : List RouteCandidate}
    {assessed : List (Except RouteRejection Assessment)} (h : AssessedOf candidates assessed)
    (hcandidates : (candidates.map RouteCandidate.key).Nodup) :
    Ranks (rankAll (eligible assessed)) :=
  ⟨eligible assessed, h.nodup hcandidates, rfl⟩

section

variable (hcalm : ∀ k, calm k = true → P k)

include hcalm

theorem identify_only (raw : RouteRequest) : (identify raw).Only I E P := by
  rw [identify]
  dsimp only
  split
  · exact done_only _
  · exact perform_only (hcalm _ rfl) fun _ _ => done_only _

section

variable (options : ModelRouterOptions) (request : RouteRequest) (snapshot : Snapshot)

theorem discover_only : (discover options request snapshot).Only I E P := by
  rw [discover]
  exact ite_only (ask_only fun _ _ => done_only _)
    (perform_only (hcalm _ rfl) fun _ _ => done_only _)

omit hcalm

theorem validatePolicy_only : (validatePolicy options request snapshot).Only I E P :=
  bind_only (consult_only _ _ _) fun _ => done_only _

theorem validateBudget_only : (validateBudget options request snapshot).Only I E P := by
  rw [validateBudget]
  exact ite_only (bind_only (consult_only _ _ _) fun _ => done_only _) (done_only _)

theorem validateSlo_only : (validateSlo options request snapshot).Only I E P := by
  rw [validateSlo]
  exact ite_only (bind_only (consult_only _ _ _) fun _ => done_only _) (done_only _)

theorem resolve_only (candidate : RouteCandidate) :
    (resolve options request snapshot candidate).Only I E P :=
  ask_only fun _ _ => done_only _

theorem assessAll_only (frame : Frame) (candidates : List RouteCandidate) :
    (assessAll options request snapshot frame candidates).Only I E P := by
  induction candidates with
  | nil => exact done_only _
  | cons candidate rest ih =>
      exact bind_only (resolve_only _ _ _ _) fun _ => bind_only ih fun _ => done_only _

end

omit hcalm in
theorem finish_only {raw request : RouteRequest} {w : World} {e : Env} (hw : I w) (he : E e)
    (hterms : SameTerms raw request)
    (hcommit : ∀ draft, RouteDraft I E raw draft → Lists I draft → P (.commit draft)) {governing : Governing}
    {basis : Option Basis} {winner : RankedCandidate} {tail : List RankedCandidate}
    {authority : RouteAuthority} {explanation : RouteExplanation}
    (hpolicy : explanation.policy = governing.policy)
    (hranking : explanation.ranking = winner :: tail) (hranks : Ranks (winner :: tail))
    (hlisted : Listed w.state.limits explanation)
    (hbound : BoundTo request
      (Snapshot.capture w.state request.tenant request.nameSpace e.now).context winner.key
        authority) :
    (commitWinner.finish request (Snapshot.capture w.state request.tenant request.nameSpace e.now)
      governing basis winner tail authority explanation).Only I E P := by
  rw [commitWinner.finish, ← hpolicy]
  refine perform_only (hcommit _ (.intro hw he hterms hranking hranks hbound)
    ⟨w, hw, hlisted.ranking, hlisted.factors, hlisted.rejections⟩) fun u _ => ?_
  dsimp only
  split
  · exact done_only _
  · exact done_only _

theorem commitWinner_only (options : ModelRouterOptions) {raw request : RouteRequest} {w : World}
    {e : Env} (hw : I w) (he : E e) (hterms : SameTerms raw request)
    (hcommit : ∀ draft, RouteDraft I E raw draft → Lists I draft → P (.commit draft)) {governing : Governing}
    (basis : Option Basis) (candidates : List RouteCandidate) {explanation : RouteExplanation}
    {winner : RankedCandidate} {tail : List RankedCandidate}
    (hpolicy : explanation.policy = governing.policy)
    (hranking : explanation.ranking = winner :: tail) (hranks : Ranks (winner :: tail))
    (hlisted : Listed w.state.limits explanation) :
    (commitWinner options request
      (Snapshot.capture w.state request.tenant request.nameSpace e.now) governing basis candidates
        explanation winner tail).Only I E P := by
  refine perform_only (hcalm _ rfl) fun u _ => ?_
  dsimp only
  split
  · refine finish_only hw he hterms hcommit hpolicy hranking hranks hlisted (.governing ?_ _ _ _)
    split
    · exact (bindWinner_boundTo _).descriptor _
    · exact bindWinner_boundTo _
  · refine bind_only (resolve_only _ _ _ _) fun evidence => ?_
    refine finish_only hw he hterms hcommit hpolicy hranking hranks
      ⟨hlisted.ranking, hlisted.factors, hlisted.rejections⟩ (.resolved (.governing ?_ _ _ _) evidence)
    split
    · exact (bindWinner_boundTo _).descriptor _
    · exact bindWinner_boundTo _

theorem rankAndCommit_only (options : ModelRouterOptions) {raw request : RouteRequest} {w : World}
    {e : Env} (hw : I w) (he : E e) (hterms : SameTerms raw request)
    (hcommit : ∀ draft, RouteDraft I E raw draft → Lists I draft → P (.commit draft)) (governing : Governing)
    {candidates : List RouteCandidate} (hkeys : (candidates.map RouteCandidate.key).Nodup) :
    (rankAndCommit options request
      (Snapshot.capture w.state request.tenant request.nameSpace e.now) governing
        candidates).Only I E P := by
  refine bind_only_ends (assessAll_only _ _ _ _ _)
    ((assessAll_ends _ _ _ _ _).and (assessAll_factors _ _ _ _ _)) fun assessed hassessed => ?_
  dsimp only
  have hranks := ranks_of_assessedOf hassessed.1 hkeys
  split
  · exact done_only _
  · rename_i hroom
    have hlength : (rankAll (eligible assessed)).length ≤
        w.state.limits.maxRankedCandidates.toNat := by
      rw [rankAll_length]
      exact Nat.le_of_not_lt hroom
    split
    · exact perform_only (hcalm _ rfl) fun _ _ => done_only _
    · rename_i winner tail hranking
      refine commitWinner_only hcalm options hw he hterms hcommit _ _ rfl hranking ?_
        ⟨hlength.trans (Nat.le_max_right _ _), fun ranked hmem => ?_, List.length_take_le _ _⟩
      · rwa [← hranking]
      · obtain ⟨assessment, hassessment, hfactors⟩ := mem_rankAll hmem
        rw [← hfactors]
        exact hassessed.2 assessment hassessment

theorem routePass_only (options : ModelRouterOptions) (raw : RouteRequest)
    (hcommit : ∀ draft, RouteDraft I E raw draft → Lists I draft → P (.commit draft)) :
    (routePass options raw).Only I E P := by
  refine bind_only_ends (identify_only hcalm raw) (identify_ends raw) fun named hnamed => ?_
  refine ask_only fun e he => perform_only (hcalm _ rfl) fun w hw => proceed_only fun _ => ?_
  refine bind_only (validatePolicy_only _ _ _) fun policy => proceed_only fun policy => ?_
  refine bind_only (validateBudget_only _ _ _) fun budget => proceed_only fun budget => ?_
  refine bind_only (validateSlo_only _ _ _) fun slo => proceed_only fun slo => ?_
  refine bind_only (discover_only hcalm _ _ _) fun discovered => ite_only (done_only _) ?_
  refine rankAndCommit_only hcalm options hw he ?_ hcommit _ (canonicalCandidates_nodup _)
  split
  · exact ⟨hnamed.tenant, hnamed.nameSpace, hnamed.retryPolicy⟩
  · exact hnamed

theorem route_only (options : ModelRouterOptions) (raw : RouteRequest)
    (hcommit : ∀ draft, RouteDraft I E raw draft → Lists I draft → P (.commit draft)) :
    (route options raw).Only I E P :=
  bind_only (routePass_only hcalm options raw hcommit) fun _ => done_only _

theorem commitSingleCandidate_only {raw request : RouteRequest} {w : World} {e : Env}
    {id : RouteDecisionId} {stored : RouteRecord} (hw : I w) (he : E e)
    (hterms : SameTerms raw request) (hstored : w.state.routes.find? id = some stored)
    (hcommit : ∀ draft, FallbackDraft I E id raw draft → Lists I draft → P (.commit draft)) (governing : Governing)
    (candidate : RouteCandidate) (evidence : CandidateEvidence) :
    (commitSingleCandidate request
      (Snapshot.capture w.state stored.tenant stored.nameSpace e.now) governing candidate evidence
        stored.plan.fallbacks
        (permittedFallbacks request governing.policy w.state.limits)).Only I E P := by
  unfold commitSingleCandidate
  dsimp only
  split
  · exact done_only _
  · rename_i assessment hassess
    obtain ⟨hranked, hcandidate⟩ := assess_key hassess
    have hkey : assessment.ranked.key = assessment.candidate.key := hranked.trans hcandidate.symm
    refine perform_only (hcalm _ rfl) fun u _ => ?_
    have hlisted : Lists I (draftFallback request
        (Snapshot.capture w.state stored.tenant stored.nameSpace e.now) governing assessment
        (bindFallback (Snapshot.capture w.state stored.tenant stored.nameSpace e.now).context
          u.state.routerId request assessment.candidate evidence governing.policy governing.budget
          governing.slo) stored.plan.fallbacks
        (permittedFallbacks request governing.policy w.state.limits)) :=
      ⟨w, hw, Nat.le_max_left _ _, List.forall_mem_singleton.mpr (assess_factors hassess),
        Nat.zero_le _⟩
    refine perform_only (hcommit _ (.intro hw he hterms hstored hkey
      (bindFallback_boundTo _ _ _ _ _ _)) hlisted) fun v _ => ?_
    split
    · exact done_only _
    · exact done_only _

theorem tryFallbacks_only (options : ModelRouterOptions) {raw request : RouteRequest} {w : World}
    {e : Env} {id : RouteDecisionId} {stored : RouteRecord} (hw : I w) (he : E e)
    (hterms : SameTerms raw request) (hstored : w.state.routes.find? id = some stored)
    (hcommit : ∀ draft, FallbackDraft I E id raw draft → Lists I draft → P (.commit draft)) (governing : Governing)
    (keys : List CandidateKey) :
    (tryFallbacks options id request
      (Snapshot.capture w.state stored.tenant stored.nameSpace e.now) governing
        stored.plan.fallbacks (permittedFallbacks request governing.policy w.state.limits)
        keys).Only I E P := by
  induction keys with
  | nil => exact done_only _
  | cons key rest ih =>
      refine perform_only (hcalm _ rfl) fun u _ => ?_
      split
      · exact ih
      · refine bind_only (resolve_only _ _ _ _) fun evidence => ?_
        refine bind_only (commitSingleCandidate_only hcalm hw he hterms hstored hcommit _ _ _)
          fun outcome => ?_
        exact ite_only (perform_only (hcalm _ rfl) fun _ _ => done_only _) ih

theorem rerouteFresh_only (options : ModelRouterOptions) (id : RouteDecisionId)
    (request : RouteRequest) (now : UnixMillis)
    (hcommit : ∀ draft, RouteDraft I E request draft → Lists I draft → P (.commit draft)) :
    (rerouteFresh options id request now).Only I E P := by
  refine bind_only (route_only hcalm options request hcommit) fun fresh => ?_
  exact ite_only (perform_only (hcalm _ rfl) fun _ _ => done_only _) (done_only _)

theorem reroute_only (options : ModelRouterOptions) (id : RouteDecisionId)
    (failure : FailureClass) (raw : RouteRequest)
    (hcommit : ∀ draft, RouteDraft I E raw draft ∨ FallbackDraft I E id raw draft →
      Lists I draft → P (.commit draft)) : (reroute options id failure raw).Only I E P := by
  refine bind_only_ends (identify_only hcalm raw) (identify_ends raw) fun request hterms => ?_
  refine ask_only fun e he => perform_only (hcalm _ rfl) fun w hw => ?_
  split
  · exact done_only _
  · rename_i stored hstored
    refine proceed_only fun _ => bind_only (consult_only _ _ _) fun answer => ?_
    refine proceed_only fun fetched => proceed_only fun _ => ?_
    refine bind_only (tryFallbacks_only hcalm options hw he hterms hstored
      (fun draft h hlists => hcommit draft (.inr h) hlists) _ _) fun fallback => ?_
    split
    · exact done_only _
    · exact rerouteFresh_only hcalm options id request _
        fun draft h hlists => hcommit draft (.inl (h.of_sameTerms hterms)) hlists

omit hcalm in
theorem handOff_only {id : RouteDecisionId}
    (hrecord : ∀ epoch coordinatorEpoch dispatch,
      P (.recordDispatch id epoch coordinatorEpoch dispatch))
    (stored : RouteRecord) (snapshot : Snapshot) (target : CandidateKey) :
    (handOff id stored snapshot target).Only I E P := by
  refine ask_only fun e _ => ask_only fun late _ => ?_
  exact ite_only (done_only _) (perform_only (hrecord _ _ _) fun _ _ => done_only _)

theorem reevaluate_only (options : ModelRouterOptions) {id : RouteDecisionId}
    (hrecord : ∀ epoch coordinatorEpoch dispatch,
      P (.recordDispatch id epoch coordinatorEpoch dispatch))
    (stored : RouteRecord) (base : DispatchRecord) :
    (reevaluate options id stored base).Only I E P := by
  refine ask_only fun e _ => perform_only (hcalm _ rfl) fun w _ =>
    perform_only (hcalm _ rfl) fun u _ => ?_
  split
  · exact done_only _
  · refine ite_only (done_only _) (bind_only (resolve_only _ _ _ _) fun evidence => ?_)
    refine ask_only fun late _ => ite_only (done_only _) (ite_only (done_only _) ?_)
    exact handOff_only hrecord _ _ _

theorem failStale_only (id : RouteDecisionId) (result : MutationResult) :
    (failStale id result).Only I E P :=
  perform_only (hcalm _ rfl) fun _ _ => done_only _

theorem checkAuthority_only (id : RouteDecisionId) (bound : RouteAuthority) (fenced : Bool)
    (hfinish : ∀ comparisonCurrent now, P (.finishRevalidate id bound comparisonCurrent now)) :
    (checkAuthority id bound fenced).Only I E P := by
  refine ask_only fun e _ => ite_only (failStale_only hcalm _ _) ?_
  refine ite_only (failStale_only hcalm _ _) (perform_only (hcalm _ rfl) fun w _ => ?_)
  split
  · exact failStale_only hcalm _ _
  · exact perform_only (hfinish _ _) fun _ _ => done_only _

theorem revalidate_only (id : RouteDecisionId) (callerTenant : TenantId)
    (callerNamespace : NamespaceId)
    (hfinish : ∀ bound comparisonCurrent now,
      P (.finishRevalidate id bound comparisonCurrent now)) :
    (revalidate id callerTenant callerNamespace).Only I E P := by
  refine perform_only (hcalm _ rfl) fun w _ => ite_only (done_only _) ?_
  split
  · exact done_only _
  · exact proceed_only fun _ => checkAuthority_only hcalm _ _ _ (hfinish _)

theorem dispatch_only (options : ModelRouterOptions) (id : RouteDecisionId)
    (callerTenant : TenantId) (callerNamespace : NamespaceId)
    (hfinish : ∀ bound comparisonCurrent now,
      P (.finishRevalidate id bound comparisonCurrent now))
    (hrecord : ∀ epoch coordinatorEpoch dispatch,
      P (.recordDispatch id epoch coordinatorEpoch dispatch)) :
    (dispatch options id callerTenant callerNamespace).Only I E P := by
  refine perform_only (hcalm _ rfl) fun w _ => ite_only (done_only _) ?_
  split
  · exact done_only _
  · refine proceed_only fun _ =>
      bind_only (revalidate_only hcalm _ _ _ hfinish) fun revalidated => ?_
    exact ite_only (ask_only fun _ _ => done_only _) (reevaluate_only hcalm options hrecord _ _)

end

def revalidates : Op → Bool
  | .revalidate _ _ _ | .dispatch _ _ _ => true
  | _ => false

/-- The sections of a start, a shutdown, a save and a load. -/
structure Persists (I : World → Prop) (E : Env → Prop) (P : Act → Prop) : Prop where
  idle : ∀ k, idle k = true → P k
  publish : ∀ e, E e → P (.publish e.now)
  importState : ∀ e path limits, E e → (e.load path limits).ok = true →
    P (.importState (e.load path limits).state.canonicalize)
  store : ∀ path w now, I w → P (.store path (exportPersistentState w now))
  storeShut : ∀ path w now, I w → P (.store path (shutdownImage w now))

/-- The sections of every operation but the last one of a revalidation and the one that records a
handoff. -/
structure Allows (I : World → Prop) (E : Env → Prop) (P : Act → Prop) : Prop where
  plain : ∀ k, plain k = true → P k
  mutate : ∀ m e, E e → P (.mutate m e.now)
  publish : ∀ e, E e → P (.publish e.now)
  importState : ∀ e path limits, E e → (e.load path limits).ok = true →
    P (.importState (e.load path limits).state.canonicalize)
  commitRoute : ∀ raw draft, RouteDraft I E raw draft → P (.commit draft)
  commitFallback : ∀ id raw draft, FallbackDraft I E id raw draft → P (.commit draft)
  store : ∀ path w now, I w → P (.store path (exportPersistentState w now))
  storeShut : ∀ path w now, I w → P (.store path (shutdownImage w now))

theorem Persists.calm (h : Persists I E P) (k : Act) (hk : calm k = true) : P k :=
  h.idle k (idle_of_calm hk)

theorem Allows.persists (h : Allows I E P) : Persists I E P where
  idle k hk := h.plain k (plain_of_idle hk)
  publish := h.publish
  importState := h.importState
  store := h.store
  storeShut := h.storeShut

theorem loadOnStart_ends (options : ModelRouterOptions) : (loadOnStart options).Ends I E fun loaded =>
    ∀ found ∈ loaded, ∃ e path limits, E e ∧ found = e.load path limits := by
  rw [loadOnStart]
  split
  · intro w _ e he found hfound
    exact ⟨e, options.persistencePath, w.state.limits, he, (Option.some.inj hfound).symm⟩
  · intro found hfound
    cases hfound

theorem writeState_only {persisted : RouterPersistentState} {path : Text}
    (limits : ResourceLimits) (hstore : P (.store path persisted)) :
    (writeState persisted path limits).Only I E P :=
  ask_only fun _ _ => ite_only (perform_only hstore fun _ _ => done_only _) (done_only _)

section

variable (h : Persists I E P)

include h

theorem importPersistentState_only {persisted : RouterPersistentState}
    (himport : P (.importState persisted.canonicalize)) :
    (importPersistentState persisted).Only I E P := by
  refine perform_only (h.idle _ rfl) fun w _ => ?_
  split
  · exact done_only _
  · exact perform_only himport fun _ _ => done_only _

theorem publishRouter_only : publishRouter.Only I E P :=
  ask_only fun e he => perform_only (h.publish e he) fun _ _ =>
    ite_only (done_only _) (done_only _)

section

variable (options : ModelRouterOptions)

theorem loadOnStart_only : (loadOnStart options).Only I E P := by
  rw [loadOnStart]
  refine ite_only (perform_only (h.idle _ rfl) fun w _ => ?_) (done_only _)
  exact ask_only fun _ _ => done_only _

theorem start_only : (Lifecycle.start options).Only I E P := by
  rw [Lifecycle.start]
  split
  · exact done_only _
  · refine bind_only_ends (loadOnStart_only h options) (loadOnStart_ends options)
      fun loaded hloaded => perform_only (h.idle _ rfl) fun w _ => ite_only (done_only _) ?_
    rw [admitted.eq_def]
    split
    · exact publishRouter_only h
    · rename_i found
      obtain ⟨e, path, limits, he, rfl⟩ := hloaded found rfl
      split
      · rename_i hok
        refine bind_only (importPersistentState_only h (h.importState e path limits he hok))
          fun imported => ?_
        exact ite_only (publishRouter_only h) (done_only _)
      · exact ite_only (publishRouter_only h) (done_only _)

theorem shutdown_only : (Lifecycle.shutdown options).Only I E P := by
  refine ask_only fun e _ => perform_only (h.idle _ rfl) fun w hw => ?_
  refine ite_only (done_only _) (ite_only ?_ ?_)
  · refine bind_only (writeState_only _ (h.storeShut _ w e.now hw)) fun saved => ?_
    exact ite_only (done_only _) (perform_only (h.idle _ rfl) fun _ _ => done_only _)
  · exact perform_only (h.idle _ rfl) fun _ _ => done_only _

theorem save_only (path : Text) : (Lifecycle.save path).Only I E P :=
  ask_only fun e _ => perform_only (h.idle _ rfl) fun w hw =>
    perform_only (h.idle _ rfl) fun _ _ => writeState_only _ (h.store path w e.now hw)

theorem load_only (path : Text) : (Lifecycle.load path).Only I E P := by
  refine perform_only (h.idle _ rfl) fun w _ => ask_only fun e he => ?_
  by_cases hok : (e.load path w.state.limits).ok = true
  · refine ite_only (done_only _)
      (bind_only (importPersistentState_only h (h.importState e path _ he hok)) fun imported => ?_)
    exact ite_only (done_only _) (done_only _)
  · dsimp only
    rw [if_pos (by simp [hok])]
    exact done_only _

end

end

section

variable (h : Allows I E P)

include h

theorem mutation_only (m : Mutation) : (Lifecycle.mutation m).Only I E P :=
  ask_only fun e he => perform_only (h.mutate m e he) fun _ _ => done_only _

theorem updateCapacity_only (evidence : Evidence.CapacityEvidence)
    (detail : Evidence.CapacityDetail) :
    (Lifecycle.updateCapacity evidence detail).Only I E P := by
  refine bind_only (mutation_only h _) fun result => ?_
  exact ite_only (perform_only (h.plain _ rfl) fun _ _ => done_only _) (done_only _)

variable (options : ModelRouterOptions)

theorem program_only_of_not_revalidates {op : Op} (hop : revalidates op = false) :
    (op.program options).Only I E P := by
  cases op with
  | mutation m =>
      cases m with
      | updateCapacity evidence detail => exact map_only _ (updateCapacity_only h _ _)
      | _ => exact map_only _ (mutation_only h _)
  | start => exact map_only _ (start_only h.persists options)
  | shutdown => exact map_only _ (shutdown_only h.persists options)
  | save path => exact map_only _ (save_only h.persists path)
  | load path => exact map_only _ (load_only h.persists path)
  | route request =>
      exact map_only _ (route_only h.persists.calm options request fun draft hdraft _ =>
        h.commitRoute request draft hdraft)
  | revalidate id callerTenant callerNamespace => cases hop
  | dispatch id callerTenant callerNamespace => cases hop
  | recordCompletion completion =>
      exact map_only _ (perform_only (h.persists.calm _ rfl) fun _ _ => done_only _)
  | reroute id failure request =>
      refine map_only _ (reroute_only h.persists.calm options id failure request ?_)
      rintro draft (hroute | hfallback) -
      · exact h.commitRoute request draft hroute
      · exact h.commitFallback id request draft hfallback

theorem program_only (op : Op)
    (hfinish : ∀ id bound comparisonCurrent now,
      P (.finishRevalidate id bound comparisonCurrent now))
    (hrecord : ∀ id epoch coordinatorEpoch dispatch,
      P (.recordDispatch id epoch coordinatorEpoch dispatch)) :
    (op.program options).Only I E P := by
  cases op with
  | revalidate id callerTenant callerNamespace =>
      exact map_only _ (revalidate_only h.persists.calm _ _ _ (hfinish id))
  | dispatch id callerTenant callerNamespace =>
      exact map_only _ (dispatch_only h.persists.calm options _ _ _ (hfinish id) (hrecord id))
  | _ => exact program_only_of_not_revalidates h options rfl

end

end ModelRouter.Repertoire
