import ModelRouter.Saved

namespace ModelRouter.Coherence

open Base Bytes Ids Outcome Capability Evidence Limits Candidate Authority Request Policy Decision
open Persistence State Commit Providers Section Pass Route Reroute Router MutationFacts Run Records
open Sorting Rankings Repertoire Saved

/-- A decision and its plan whose parts agree with each other and keep to the bounds. -/
structure Coherent (request : RouteRequest) (limits : ResourceLimits) (record : RouteRecord) :
    Prop where
  primary : record.decision.explanation.ranking.head?.map RankedCandidate.key =
    some record.plan.primary
  winner : record.decision.explanation.winner = record.plan.primary
  bound : boundKey record.decision.authority = record.plan.primary
  ordered : record.decision.explanation.ranking.Pairwise fun a b => candidateRanksBefore a b = true
  keys : (record.decision.explanation.ranking.map RankedCandidate.key).Nodup
  planned : record.plan.fallbacks = record.decision.fallbacks
  explainedFallbacks : record.decision.explanation.fallbackOrder = record.decision.fallbacks
  distinct : record.decision.fallbacks.Nodup
  excluded : record.plan.primary ∉ record.decision.fallbacks
  number : record.decision.fallbacks.length ≤
    min (min request.requirements.retryPolicy.maxFallbacks.toNat limits.maxFallbackCandidates.toNat)
      record.decision.explanation.policy.maxFallbackDepth.toNat
  forbidden : record.decision.explanation.policy.fallbackPolicy = .forbidden →
    record.decision.fallbacks = []
  explainedAuthority : record.decision.explanation.authority = record.decision.authority
  tenant : record.tenant = record.decision.authority.tenant

/-- The fallbacks of a decision were ranked with its winner. -/
def RankedFallbacks (record : RouteRecord) : Prop :=
  ∀ key ∈ record.decision.fallbacks,
    key ∈ record.decision.explanation.ranking.map RankedCandidate.key

def draftRecord (draft : CommitDraft) : RouteRecord where
  decision := draft.decision
  plan := draft.plan
  tenant := draft.tenant
  nameSpace := draft.nameSpace

section

variable {request : RouteRequest} {limits : ResourceLimits} {record earlier : RouteRecord}
variable {draft : CommitDraft}

theorem Coherent.of_frozen (h : Coherent request limits earlier)
    (hf : frozen record = frozen earlier) : Coherent request limits record := by
  have hfrozen : Coherent request limits (frozen earlier) :=
    ⟨h.primary, h.winner, h.bound, h.ordered, h.keys, h.planned, h.explainedFallbacks, h.distinct,
      h.excluded, h.number, h.forbidden, h.explainedAuthority, h.tenant⟩
  rw [← hf] at hfrozen
  obtain ⟨primary, winner, bound, ordered, keys, planned, explainedFallbacks, distinct, excluded,
    number, forbidden, explainedAuthority, tenant⟩ := hfrozen
  exact ⟨primary, winner, bound, ordered, keys, planned, explainedFallbacks, distinct, excluded,
    number, forbidden, explainedAuthority, tenant⟩

theorem RankedFallbacks.of_frozen (h : RankedFallbacks earlier)
    (hf : frozen record = frozen earlier) : RankedFallbacks record := by
  have hfrozen : RankedFallbacks (frozen earlier) := h
  rw [← hf] at hfrozen
  exact hfrozen

theorem boundDecision_parts (s : CanonicalState) (draft : CommitDraft) (id : RouteDecisionId) :
    let decision := boundDecision s draft id
    decision.authority = nameDecision draft.decision.authority id ∧
      decision.explanation.authority = decision.authority ∧
      decision.fallbacks = draft.decision.fallbacks ∧
      decision.explanation.ranking = draft.decision.explanation.ranking ∧
      decision.explanation.winner = draft.decision.explanation.winner ∧
      decision.explanation.policy = draft.decision.explanation.policy ∧
      decision.explanation.fallbackOrder = draft.decision.explanation.fallbackOrder := by
  unfold boundDecision
  dsimp only
  split
  · exact ⟨rfl, rfl, rfl, rfl, rfl, rfl, rfl⟩
  · exact ⟨rfl, rfl, rfl, rfl, rfl, rfl, rfl⟩

theorem Coherent.committed (h : Coherent request limits (draftRecord draft)) (s : CanonicalState)
    (id : RouteDecisionId) (planId : RoutePlanId) :
    Coherent request limits (committedRecord draft (boundDecision s draft id) planId) := by
  obtain ⟨hauthority, hexplained, hfallbacks, hranking, hwinner, hpolicy, horder⟩ :=
    boundDecision_parts s draft id
  constructor <;> simp only [committedRecord, hfallbacks, hranking, hwinner, hpolicy, horder]
  · exact h.primary
  · exact h.winner
  · rw [hauthority]
    exact h.bound
  · exact h.ordered
  · exact h.keys
  · exact h.planned
  · exact h.explainedFallbacks
  · exact h.distinct
  · exact h.excluded
  · exact h.number
  · exact h.forbidden
  · exact hexplained
  · rw [hauthority]
    exact h.tenant

theorem RankedFallbacks.committed (h : RankedFallbacks (draftRecord draft)) (s : CanonicalState)
    (id : RouteDecisionId) (planId : RoutePlanId) :
    RankedFallbacks (committedRecord draft (boundDecision s draft id) planId) := by
  obtain ⟨-, -, hfallbacks, hranking, -⟩ := boundDecision_parts s draft id
  change ∀ key ∈ (boundDecision s draft id).fallbacks,
    key ∈ (boundDecision s draft id).explanation.ranking.map RankedCandidate.key
  rw [hfallbacks, hranking]
  exact h

end

theorem permittedFallbacks_le (request : RouteRequest) (policy : PolicySnapshot)
    (limits : ResourceLimits) :
    (permittedFallbacks request policy limits).toNat ≤
      min (min request.requirements.retryPolicy.maxFallbacks.toNat
        limits.maxFallbackCandidates.toNat) policy.maxFallbackDepth.toNat := by
  have hmin (a b : UInt32) : (min a b).toNat = min a.toNat b.toNat := by
    change (if a ≤ b then a else b).toNat = _
    split
    · rename_i hle
      exact (Nat.min_eq_left (UInt32.le_iff_toNat_le.mp hle)).symm
    · rename_i hlt
      rw [UInt32.le_iff_toNat_le] at hlt
      exact (Nat.min_eq_right (Nat.le_of_not_le hlt)).symm
  rw [permittedFallbacks]
  split
  · exact Nat.zero_le _
  · rw [hmin, hmin]

theorem permittedFallbacks_forbidden {request : RouteRequest} {policy : PolicySnapshot}
    {limits : ResourceLimits} (h : policy.fallbackPolicy = .forbidden) :
    (permittedFallbacks request policy limits).toNat = 0 := by
  rw [permittedFallbacks, if_pos h]
  rfl

section

variable {winner : RankedCandidate} {tail : List RankedCandidate} {permitted : UInt32}

theorem mem_fallbackOrder {key : CandidateKey} (h : key ∈ fallbackOrder winner tail permitted) :
    key ∈ tail.map RankedCandidate.key := by
  obtain ⟨candidate, hcandidate, rfl⟩ := List.mem_map.mp h
  exact List.mem_map_of_mem (mem_stableSort.mp (List.mem_of_mem_take hcandidate))

theorem fallbackOrder_length :
    (fallbackOrder winner tail permitted).length ≤ permitted.toNat := by
  rw [fallbackOrder, List.length_map]
  exact List.length_take_le _ _

end

section

variable {planned : List CandidateKey} {chosen : CandidateKey} {permitted : UInt32}

theorem remainingFallbacks_length :
    (remainingFallbacks planned chosen permitted).length ≤ permitted.toNat :=
  List.length_take_le _ _

theorem chosen_not_mem : chosen ∉ remainingFallbacks planned chosen permitted := by
  intro hmem
  have hkept := (List.mem_filter.mp (List.mem_of_mem_take hmem)).2
  simp at hkept

end

variable {I : World → Prop} {E : Env → Prop} {raw : RouteRequest} {draft : CommitDraft}

theorem routeDraft_coherent (h : RouteDraft I E raw draft) :
    RankedFallbacks (draftRecord draft) ∧
      ∃ w, I w ∧ Coherent raw w.state.limits (draftRecord draft) := by
  obtain @⟨request, w, e, explanation, winner, tail, authority, hw, -, hterms, hranking, hranks,
    hbound⟩ := h
  have hdistinct : winner.key ∉ tail.map RankedCandidate.key :=
    (List.nodup_cons.mp (ranks_distinct hranks)).1
  have hpermitted := permittedFallbacks_le request explanation.policy w.state.limits
  rw [hterms.retryPolicy] at hpermitted
  refine ⟨fun key hkey => ?_, w, hw, ?_⟩
  · change key ∈ explanation.ranking.map RankedCandidate.key
    rw [hranking, List.map_cons]
    exact List.mem_cons_of_mem _ (mem_fallbackOrder hkey)
  · constructor
    · change explanation.ranking.head?.map RankedCandidate.key = some winner.key
      rw [hranking]
      rfl
    · rfl
    · exact hbound.key
    · change explanation.ranking.Pairwise _
      rw [hranking]
      exact ranks_strict hranks
    · change (explanation.ranking.map RankedCandidate.key).Nodup
      rw [hranking]
      exact ranks_distinct hranks
    · rfl
    · rfl
    · exact fallbackOrder_distinct hranks _
    · exact fun hmem => hdistinct (mem_fallbackOrder hmem)
    · exact fallbackOrder_length.trans hpermitted
    · intro hforbidden
      refine List.length_eq_zero_iff.mp (Nat.le_zero.mp ?_)
      exact fallbackOrder_length.trans_eq (permittedFallbacks_forbidden hforbidden)
    · rfl
    · exact hbound.tenant.symm

theorem fallbackDraft_coherent {id : RouteDecisionId} (hI : ∀ w, I w → Sound w)
    (h : FallbackDraft I E id raw draft) :
    draft.kind = .fallback ∧ ∃ w, I w ∧ Coherent raw w.state.limits (draftRecord draft) := by
  have hsound : FallbackDraft Sound E id raw draft := by
    obtain ⟨hw, he, hterms, hstored, hkey, hbound⟩ := h
    exact .intro (hI _ hw) he hterms hstored hkey hbound
  have hdistinct : draft.decision.fallbacks.Nodup := (fallbackDraft_sound hsound).distinct
  obtain @⟨request, w, e, stored, governing, assessment, authority, hw, -, hterms, hstored, hkey,
    hbound⟩ := h
  have hpermitted := permittedFallbacks_le request governing.policy w.state.limits
  rw [hterms.retryPolicy] at hpermitted
  refine ⟨rfl, w, hw, ?_⟩
  constructor
  · exact congrArg some hkey
  · rfl
  · exact hbound.key
  · exact List.pairwise_singleton _ _
  · exact List.nodup_singleton _
  · rfl
  · rfl
  · exact hdistinct
  · exact chosen_not_mem
  · exact remainingFallbacks_length.trans hpermitted
  · intro hforbidden
    refine List.length_eq_zero_iff.mp (Nat.le_zero.mp ?_)
    exact remainingFallbacks_length.trans_eq (permittedFallbacks_forbidden hforbidden)
  · rfl
  · exact hbound.tenant.symm

/-- The request of an operation that commits decisions. -/
def requestOf : Op → Option RouteRequest
  | .route request | .reroute _ _ request => some request
  | _ => none

def CommitsCoherent (raw : RouteRequest) (met : World → Prop) : Act → Prop
  | .commit draft =>
    (draft.kind = .route → RankedFallbacks (draftRecord draft)) ∧
      ∃ w, met w ∧ Coherent raw w.state.limits (draftRecord draft)
  | _ => True

theorem commitsCoherent_of_calm {met : World → Prop} {k : Act} (hk : calm k = true) :
    CommitsCoherent raw met k := by
  cases k with
  | commit draft => cases hk
  | _ => trivial

theorem program_commitsCoherent {options : ModelRouterOptions} {op : Op}
    (hop : requestOf op = some raw) (hI : ∀ w, I w → Sound w) :
    (op.program options).Only I E (CommitsCoherent raw I) := by
  have hroute (draft : CommitDraft) (h : RouteDraft I E raw draft) :
      CommitsCoherent raw I (.commit draft) := by
    obtain ⟨hranked, hcoherent⟩ := routeDraft_coherent h
    exact ⟨fun _ => hranked, hcoherent⟩
  cases op with
  | route request =>
      obtain rfl : request = raw := Option.some.inj hop
      exact map_only _
        (route_only (fun _ => commitsCoherent_of_calm) options request fun draft h _ =>
          hroute draft h)
  | reroute id failure request =>
      obtain rfl : request = raw := Option.some.inj hop
      refine map_only _
        (reroute_only (fun _ => commitsCoherent_of_calm) options id failure request ?_)
      rintro draft (h | h) -
      · exact hroute draft h
      · obtain ⟨hkind, hcoherent⟩ := fallbackDraft_coherent hI h
        refine ⟨fun hroute => ?_, hcoherent⟩
        rw [hkind] at hroute
        cases hroute
  | _ => cases hop

/-- Every decision a `route` or `reroute` commits among any other operations is coherent. -/
theorem committed_coherent {options : ModelRouterOptions} {op : Op} (hop : requestOf op = some raw)
    {R : World → World → Prop} {s t : World} {es : Trace} {reply : Reply}
    (h : Executes E R (op.program options) s es reply t)
    (hreachable : ∀ e ∈ es, Reachable options e.pre) {e : Event World Act} (he : e ∈ es)
    {id : RouteDecisionId} (hcommits : replaces id e) {record : RouteRecord}
    (hrecord : (after e).state.routes.find? id = some record) :
    (∃ found ∈ es, Coherent raw found.pre.state.limits record) ∧
      ((∃ draft, e.act = .commit draft ∧ draft.kind = .route) → RankedFallbacks record) := by
  let met (w : World) : Prop := Sound w ∧ ∃ found ∈ es, found.pre = w
  have hmet (d : Event World Act) (hd : d ∈ es) : met d.pre :=
    ⟨(hreachable d hd).sound, d, hd, rfl⟩
  have hact := h.only (program_commitsCoherent (I := met) hop fun w hw => hw.1) hmet e he
  obtain ⟨draft, hdraft, hf⟩ := replaced_record hcommits hrecord
  rw [hdraft] at hact
  obtain ⟨hranked, w, ⟨-, found, hfound, rfl⟩, hcoherent⟩ := hact
  refine ⟨⟨found, hfound, (hcoherent.committed _ _ _).of_frozen hf⟩, ?_⟩
  rintro ⟨draft', hdraft', hkind⟩
  obtain rfl := Act.commit.inj (hdraft.symm.trans hdraft')
  exact ((hranked hkind).committed _ _ _).of_frozen hf

section

def leavesNew (id : RouteDecisionId) (e : Event World Act) : Bool :=
  match e.act with
  | .commit draft =>
    (commitRefusal draft e.pre.state).isNone && decide (id = ⟨e.pre.nextId⟩) &&
      (e.pre.state.routes.find? id).isNone && ((after e).state.routes.find? id).isSome
  | _ => false

theorem replaces_of_leavesNew {id : RouteDecisionId} {e : Event World Act}
    (h : leavesNew id e = true) :
    replaces id e ∧ ∃ record, (after e).state.routes.find? id = some record := by
  obtain ⟨k, w⟩ := e
  cases k with
  | commit draft =>
      simp only [leavesNew, Bool.and_eq_true, decide_eq_true_eq, Option.isNone_iff_eq_none] at h
      obtain ⟨⟨⟨htaken, hid⟩, hfree⟩, hleft⟩ := h
      exact ⟨⟨htaken, hid, .inl hfree⟩, Option.isSome_iff_exists.mp hleft⟩
  | _ => cases h

/-- The sample route, over two backends for two models. -/
def sampleRouted : Trace × Reply × World :=
  Program.run Act.apply sampleEnv [] (Op.program sampleOptions (.route sampleRequest))
    (play sampleOptions sampleEnv pairCatalog).2.2

theorem sampleRouted_executes : Executes (· = sampleEnv) Eq
    (Op.program sampleOptions (.route sampleRequest)) (play sampleOptions sampleEnv pairCatalog).2.2
      sampleRouted.1 sampleRouted.2.1 sampleRouted.2.2 :=
  Program.run_exec Act.apply sampleEnv _ _ (fun _ => rfl) (by simp)

theorem sampleRouted_reachable : ∀ e ∈ sampleRouted.1, Reachable sampleOptions e.pre := by
  have hreads : Reads SavedFile sampleEnv := fun _ _ hok => nomatch hok
  have hrun : History sampleOptions (constantly sampleEnv) 100 (_ ++ sampleRouted.1)
      (_ ++ [(.route sampleRequest, sampleRouted.2.1)]) sampleRouted.2.2 :=
    .snoc (play_history sampleOptions sampleEnv pairCatalog) sampleRouted_executes
  have hE (es : Trace) (e : Env) (he : constantly sampleEnv es e) : Reads SavedFile e := by
    obtain rfl : e = sampleEnv := he
    exact hreads
  intro e he
  exact (history_reachable hreads hE hrun).2 e (List.mem_append_right _ he)

def leavesFallback (id : RouteDecisionId) (e : Event World Act) : Bool :=
  leavesNew id e && ((after e).state.routes.find? id).any (·.decision.fallbacks.length = 1) &&
    match e.act with
    | .commit draft => decide (draft.kind = .route)
    | _ => false

theorem sampleRouted_coherent :
    ∃ record, (∃ e ∈ sampleRouted.1, replaces ⟨101⟩ e ∧
        (after e).state.routes.find? ⟨101⟩ = some record) ∧
      record.decision.fallbacks.length = 1 ∧
      (∃ found ∈ sampleRouted.1, Coherent sampleRequest found.pre.state.limits record) ∧
      RankedFallbacks record := by
  have hnew : sampleRouted.1.any (leavesFallback ⟨101⟩) = true := by decide +kernel
  obtain ⟨e, he, hleaves⟩ := List.any_eq_true.mp hnew
  simp only [leavesFallback, Bool.and_eq_true] at hleaves
  obtain ⟨⟨hfresh, hfallback⟩, hkind⟩ := hleaves
  obtain ⟨hreplaces, record, hrecord⟩ := replaces_of_leavesNew hfresh
  obtain ⟨hcoherent, hranked⟩ :=
    committed_coherent rfl sampleRouted_executes sampleRouted_reachable he hreplaces hrecord
  rw [hrecord, Option.any_some, decide_eq_true_eq] at hfallback
  refine ⟨record, ⟨e, he, hreplaces, hrecord⟩, hfallback, hcoherent, hranked ?_⟩
  cases hact : e.act with
  | commit draft =>
      rw [hact] at hkind
      exact ⟨draft, rfl, of_decide_eq_true hkind⟩
  | _ =>
      rw [hact] at hkind
      cases hkind

end

end ModelRouter.Coherence
