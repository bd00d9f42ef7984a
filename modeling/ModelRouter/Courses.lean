import ModelRouter.Rankings
import ModelRouter.Run
import ModelRouter.Stages

namespace ModelRouter.Courses

open Base Bytes Ids Outcome Capability Evidence Catalog Limits Candidate Authority Request Policy
open Eligibility Decision State Commit Providers Section Pass Route Stages Run Repertoire Rankings

variable {E : Env → Prop} {R : World → World → Prop} {s t : World} {es : Trace}

/-- A request as a pass names and dates it. -/
def Stamped (raw request : RouteRequest) : Prop :=
  request =
    { raw with
      requirements := raw.requirements.canonicalize
      requestId := request.requestId
      requestGeneration := request.requestGeneration
      createdAtUnixMillis := request.createdAtUnixMillis }

/-- The value an adapter gives, or the one held where no adapter was supplied. -/
def Provided {β : Type} (E : Env → Prop) (supplied : Bool) (held : β)
    (query : Adapters → EvidenceResult β) (value : β) : Prop :=
  if supplied then ∃ e, E e ∧ (query e.adapters).evidence = some value else value = held

section

variable {α β : Type}

theorem executes_proceed {stop : Stop → α} {x : Except Stop β} {next : β → Operation α} {a : α}
    (h : Executes E R (proceed stop x next) s es a t) :
    (∃ reason, es = [] ∧ a = stop reason ∧ t = s) ∨
      ∃ value, x = .ok value ∧ Executes E R (next value) s es a t := by
  cases x with
  | error reason => exact .inl ⟨reason, executes_done.mp h⟩
  | ok value => exact .inr ⟨value, rfl, h⟩

theorem guarded_ok {refusal : Option Stop} {value found : β}
    (h : guarded refusal value = .ok found) : refusal = none ∧ found = value := by
  cases refusal with
  | some reason => cases h
  | none => exact ⟨rfl, (Except.ok.inj h).symm⟩

theorem executes_consult {supplied : Bool} {held : β} {query : Adapters → EvidenceResult β}
    {x : Except Stop β} (h : Executes E R (consult supplied held query) s es x t) :
    es = [] ∧ t = s ∧ ∀ value, x = .ok value → Provided E supplied held query value := by
  cases supplied with
  | false =>
      obtain ⟨rfl, rfl, rfl⟩ := executes_done.mp h
      exact ⟨rfl, rfl, fun value hvalue => (Except.ok.inj hvalue).symm⟩
  | true =>
      obtain ⟨e, he, hasked⟩ := executes_ask.mp h
      obtain ⟨rfl, rfl, rfl⟩ := executes_done.mp hasked
      refine ⟨rfl, rfl, fun value hvalue => ⟨e, he, ?_⟩⟩
      cases hanswer : (query e.adapters).evidence with
      | none =>
          rw [hanswer] at hvalue
          cases hvalue
      | some found =>
          rw [hanswer] at hvalue
          rw [Except.ok.inj hvalue]

end

theorem executes_identify {raw request : RouteRequest}
    (h : Executes E R (identify raw) s es request t) :
    (∀ e ∈ es, e.act = .allocate) ∧ Stamped raw request := by
  have hnamed {named : RouteRequest} (hstamped : Stamped raw named) {u v : World} {ds : Trace}
      (hdone : Executes E R (pure (if named.requestGeneration.valid then named
        else { named with requestGeneration := ⟨1⟩ })) u ds request v) :
      ds = [] ∧ Stamped raw request := by
    obtain ⟨rfl, rfl, rfl⟩ := executes_done.mp hdone
    refine ⟨rfl, ?_⟩
    split
    · exact hstamped
    · rw [Stamped] at hstamped ⊢
      rw [hstamped]
  rw [identify] at h
  dsimp only at h
  split at h
  · obtain ⟨rfl, hrequest⟩ := hnamed (by exact rfl) h
    exact ⟨by simp, hrequest⟩
  · obtain ⟨u, ds, -, rfl, hallocated⟩ := executes_perform.mp h
    obtain ⟨rfl, hrequest⟩ := hnamed (by exact rfl) hallocated
    exact ⟨by simp, hrequest⟩

section

variable {options : ModelRouterOptions} {request : RouteRequest} {snapshot : Snapshot}

theorem executes_validatePolicy {x : Except Stop PolicySnapshot}
    (h : Executes E R (validatePolicy options request snapshot) s es x t) :
    es = [] ∧ t = s ∧ ∀ policy, x = .ok policy →
      policyRefusal policy request snapshot.now = none ∧
        ∃ fetched, policy = fetched.canonicalize ∧
          Provided E options.providers.policy snapshot.policy
            (fun adapters =>
              adapters.policy request.policyId request.policyGeneration snapshot.context)
            fetched := by
  obtain ⟨answer, u, es₁, es₂, rfl, hconsult, hdone⟩ := executes_bind.mp h
  obtain ⟨rfl, rfl, hanswer⟩ := executes_consult hconsult
  obtain ⟨rfl, rfl, rfl⟩ := executes_done.mp hdone
  refine ⟨rfl, rfl, fun policy hpolicy => ?_⟩
  cases answer with
  | error reason => cases hpolicy
  | ok fetched =>
      obtain ⟨hnone, rfl⟩ := guarded_ok hpolicy
      exact ⟨hnone, fetched, rfl, hanswer fetched rfl⟩

theorem executes_validateBudget {x : Except Stop BudgetSnapshot}
    (h : Executes E R (validateBudget options request snapshot) s es x t) :
    es = [] ∧ t = s ∧ ∀ budget, x = .ok budget →
      if request.budgetId.valid then
        budgetRefusal budget request = none ∧
          Provided E options.providers.budget snapshot.budget
            (fun adapters =>
              adapters.budget request.budgetId request.budgetGeneration request snapshot.context)
            budget
      else budget = snapshot.budget := by
  rw [validateBudget] at h
  split at h
  · obtain ⟨answer, u, es₁, es₂, rfl, hconsult, hdone⟩ := executes_bind.mp h
    obtain ⟨rfl, rfl, hanswer⟩ := executes_consult hconsult
    obtain ⟨rfl, rfl, rfl⟩ := executes_done.mp hdone
    refine ⟨rfl, rfl, fun budget hbudget => ?_⟩
    cases answer with
    | error reason => cases hbudget
    | ok fetched =>
        obtain ⟨hnone, rfl⟩ := guarded_ok hbudget
        rw [if_pos ‹_›]
        exact ⟨hnone, hanswer budget rfl⟩
  · obtain ⟨rfl, rfl, rfl⟩ := executes_done.mp h
    refine ⟨rfl, rfl, fun budget hbudget => ?_⟩
    rw [if_neg ‹_›]
    exact (Except.ok.inj hbudget).symm

theorem executes_validateSlo {x : Except Stop SloEvidence}
    (h : Executes E R (validateSlo options request snapshot) s es x t) :
    es = [] ∧ t = s ∧ ∀ slo, x = .ok slo →
      if request.requirements.requireSlo then
        sloRefusal slo request = none ∧
          Provided E options.providers.slo snapshot.slo
            (fun adapters =>
              adapters.slo request.sloId request.sloGeneration request snapshot.context)
            slo
      else slo = snapshot.slo := by
  rw [validateSlo] at h
  split at h
  · obtain ⟨answer, u, es₁, es₂, rfl, hconsult, hdone⟩ := executes_bind.mp h
    obtain ⟨rfl, rfl, hanswer⟩ := executes_consult hconsult
    obtain ⟨rfl, rfl, rfl⟩ := executes_done.mp hdone
    refine ⟨rfl, rfl, fun slo hslo => ?_⟩
    cases answer with
    | error reason => cases hslo
    | ok fetched =>
        obtain ⟨hnone, rfl⟩ := guarded_ok hslo
        rw [if_pos ‹_›]
        exact ⟨hnone, hanswer slo rfl⟩
  · obtain ⟨rfl, rfl, rfl⟩ := executes_done.mp h
    refine ⟨rfl, rfl, fun slo hslo => ?_⟩
    rw [if_neg ‹_›]
    exact (Except.ok.inj hslo).symm

/-- The candidates a pass starts from. -/
def Discovered (E : Env → Prop) (options : ModelRouterOptions) (request : RouteRequest)
    (snapshot : Snapshot) (met : World → Prop) (candidates : List RouteCandidate) : Prop :=
  if options.providers.candidates then
    ∃ e, E e ∧
      candidates = (e.adapters.discover request snapshot.context).evidence.getD []
  else ∃ w, met w ∧ candidates = catalogCandidates w.state

theorem executes_discover {candidates : List RouteCandidate}
    (h : Executes E R (discover options request snapshot) s es candidates t) :
    (∀ e ∈ es, e.act = .observe) ∧
      Discovered E options request snapshot (fun w => ⟨.observe, w⟩ ∈ es) candidates := by
  rw [discover] at h
  split at h
  · rename_i hsupplied
    obtain ⟨e, he, hasked⟩ := executes_ask.mp h
    obtain ⟨rfl, rfl, rfl⟩ := executes_done.mp hasked
    refine ⟨by simp, ?_⟩
    rw [Discovered, if_pos hsupplied]
    exact ⟨e, he, rfl⟩
  · rename_i hbuiltin
    obtain ⟨w, ds, -, rfl, hfound⟩ := executes_perform.mp h
    obtain ⟨rfl, hcandidates, -⟩ := executes_done.mp hfound
    refine ⟨by simp, ?_⟩
    rw [Discovered, if_neg hbuiltin]
    exact ⟨w, List.mem_singleton_self _, hcandidates⟩

def Resolves (E : Env → Prop) (options : ModelRouterOptions) (request : RouteRequest)
    (snapshot : Snapshot) (candidate : RouteCandidate) (evidence : CandidateEvidence) : Prop :=
  ∃ e, E e ∧
    evidence = resolveCandidate options.providers e.adapters request snapshot.context
      snapshot.evidence candidate

theorem executes_resolve {candidate : RouteCandidate} {evidence : CandidateEvidence}
    (h : Executes E R (resolve options request snapshot candidate) s es evidence t) :
    es = [] ∧ t = s ∧ Resolves E options request snapshot candidate evidence := by
  obtain ⟨e, he, hasked⟩ := executes_ask.mp h
  obtain ⟨rfl, rfl, rfl⟩ := executes_done.mp hasked
  exact ⟨rfl, rfl, e, he, rfl⟩

def AssessedFrom (E : Env → Prop) (options : ModelRouterOptions) (request : RouteRequest)
    (snapshot : Snapshot) (frame : Frame) (candidates : List RouteCandidate)
    (assessed : List (Except RouteRejection Assessment)) : Prop :=
  ∀ result ∈ assessed, ∃ candidate ∈ candidates, ∃ evidence,
    Resolves E options request snapshot candidate evidence ∧
      assess frame candidate evidence = result

theorem executes_assessAll {frame : Frame} {candidates : List RouteCandidate}
    {assessed : List (Except RouteRejection Assessment)}
    (h : Executes E R (assessAll options request snapshot frame candidates) s es assessed t) :
    es = [] ∧ t = s ∧ AssessedFrom E options request snapshot frame candidates assessed := by
  induction candidates generalizing s t es assessed with
  | nil =>
      obtain ⟨rfl, rfl, rfl⟩ := executes_done.mp h
      exact ⟨rfl, rfl, by simp [AssessedFrom]⟩
  | cons candidate rest ih =>
      obtain ⟨evidence, u, es₁, es₂, rfl, hresolve, hothers⟩ := executes_bind.mp h
      obtain ⟨rfl, rfl, hevidence⟩ := executes_resolve hresolve
      obtain ⟨others, v, es₃, es₄, rfl, hrest, hdone⟩ := executes_bind.mp hothers
      obtain ⟨rfl, rfl, hassessed⟩ := ih hrest
      obtain ⟨rfl, rfl, rfl⟩ := executes_done.mp hdone
      refine ⟨rfl, rfl, fun result hresult => ?_⟩
      rcases List.mem_cons.mp hresult with rfl | hresult
      · exact ⟨candidate, List.mem_cons_self, evidence, hevidence, rfl⟩
      · obtain ⟨other, hother, hfound⟩ := hassessed result hresult
        exact ⟨other, List.mem_cons_of_mem candidate hother, hfound⟩

theorem mem_eligible {assessed : List (Except RouteRejection Assessment)} {assessment : Assessment} :
    assessment ∈ eligible assessed ↔ .ok assessment ∈ assessed := by
  rw [eligible, List.mem_filterMap]
  constructor
  · rintro ⟨result, hresult, hfound⟩
    cases result with
    | ok found =>
        obtain rfl := Option.some.inj hfound
        exact hresult
    | error rejection => cases hfound
  · intro hmem
    exact ⟨_, hmem, rfl⟩

theorem winner_found {frame : Frame} {candidates : List RouteCandidate}
    {assessed : List (Except RouteRejection Assessment)}
    (hassessed : AssessedFrom E options request snapshot frame candidates assessed)
    (hkeys : (candidates.map RouteCandidate.key).Nodup) {winner : RankedCandidate}
    {tail : List RankedCandidate} (hranking : rankAll (eligible assessed) = winner :: tail) :
    ∃ assessment candidate evidence,
      (eligible assessed).find? (fun assessment => assessment.ranked.key = winner.key) =
        some assessment ∧
      candidates.find? (fun candidate => candidate.key = winner.key) = some candidate ∧
      Resolves E options request snapshot candidate evidence ∧
      assess frame candidate evidence = .ok assessment := by
  have hwinner : winner.key ∈ (rankAll (eligible assessed)).map RankedCandidate.key := by
    rw [hranking]
    exact List.mem_map_of_mem List.mem_cons_self
  obtain ⟨found, hfound, hkey⟩ := List.mem_map.mp ((rankAll_keys _).mem_iff.mp hwinner)
  have hsome : ((eligible assessed).find?
      fun assessment => assessment.ranked.key = winner.key).isSome := by
    rw [List.find?_isSome]
    exact ⟨found, hfound, decide_eq_true hkey⟩
  obtain ⟨assessment, hassessment⟩ := Option.isSome_iff_exists.mp hsome
  have hranked : assessment.ranked.key = winner.key := by simpa using List.find?_some hassessment
  have hmem := mem_eligible.mp (List.mem_of_find?_eq_some hassessment)
  obtain ⟨candidate, hcandidate, evidence, hresolves, hassess⟩ := hassessed _ hmem
  have hcandidateKey : candidate.key = winner.key := (assess_key hassess).1.symm.trans hranked
  refine ⟨assessment, candidate, evidence, hassessment, ?_, hresolves, hassess⟩
  cases hother : candidates.find? fun candidate => candidate.key = winner.key with
  | none =>
      have hnone := List.find?_eq_none.mp hother candidate hcandidate
      exact absurd (decide_eq_true hcandidateKey) hnone
  | some other =>
      have hkey : other.key = winner.key := by simpa using List.find?_some hother
      rw [List.inj_on_of_nodup_map hkeys (List.mem_of_find?_eq_some hother) hcandidate
        (hkey.trans hcandidateKey.symm)]

end

theorem Stamped.dated {raw named : RouteRequest} (h : Stamped raw named) (now : UnixMillis) :
    Stamped raw (if named.createdAtUnixMillis = 0 then { named with createdAtUnixMillis := now }
      else named) := by
  split
  · rw [Stamped] at h ⊢
    rw [h]
  · exact h

/-- What a pass that is about to look for candidates got past. -/
structure PreparedBy (E : Env → Prop) (options : ModelRouterOptions) (raw : RouteRequest)
    (clock : Env) (admitted : World) (p : Prepared) : Prop where
  asked : E clock
  request : Stamped raw p.request
  snapshot : p.snapshot =
    Snapshot.capture admitted.state p.request.tenant p.request.nameSpace clock.now
  admitted : admitRefusal admitted.state p.request clock.now = none
  policy : policyRefusal p.governing.policy p.request p.snapshot.now = none ∧
    ∃ fetched, p.governing.policy = fetched.canonicalize ∧
      Provided E options.providers.policy p.snapshot.policy
        (fun adapters =>
          adapters.policy p.request.policyId p.request.policyGeneration p.snapshot.context) fetched
  budget : if p.request.budgetId.valid then
      budgetRefusal p.governing.budget p.request = none ∧
        Provided E options.providers.budget p.snapshot.budget
          (fun adapters => adapters.budget p.request.budgetId p.request.budgetGeneration p.request
            p.snapshot.context) p.governing.budget
    else p.governing.budget = p.snapshot.budget
  slo : if p.request.requirements.requireSlo then
      sloRefusal p.governing.slo p.request = none ∧
        Provided E options.providers.slo p.snapshot.slo
          (fun adapters =>
            adapters.slo p.request.sloId p.request.sloGeneration p.request p.snapshot.context)
          p.governing.slo
    else p.governing.slo = p.snapshot.slo

theorem executes_prepare {options : ModelRouterOptions} {raw : RouteRequest}
    {x : Except Stop Prepared} (h : Executes E R (prepare options raw) s es x t) :
    (∀ e ∈ es, e.act = .observe ∨ e.act = .allocate) ∧
      ∀ p, x = .ok p → ∃ clock admitted, ⟨.observe, admitted⟩ ∈ es ∧
        PreparedBy E options raw clock admitted p := by
  obtain ⟨named, u, es₀, es₁, rfl, hidentify, hasks⟩ := executes_bind.mp h
  obtain ⟨hallocates, hnamed⟩ := executes_identify hidentify
  obtain ⟨clock, hclock, hasked⟩ := executes_ask.mp hasks
  have hstamped := hnamed.dated clock.now
  generalize (if named.createdAtUnixMillis = 0 then
    { named with createdAtUnixMillis := clock.now } else named) = request at hasked hstamped
  obtain ⟨admitted, es₂, -, rfl, hadmission⟩ := executes_perform.mp hasked
  have hacts : ∀ e ∈ es₀ ++ [⟨.observe, admitted⟩], e.act = Act.observe ∨ e.act = Act.allocate := by
    intro e he
    rcases List.mem_append.mp he with he | he
    · exact .inr (hallocates e he)
    · obtain rfl := List.mem_singleton.mp he
      exact .inl rfl
  rcases executes_proceed hadmission with ⟨reason, rfl, rfl, rfl⟩ | ⟨_, hadmit, hpass⟩
  · exact ⟨hacts, fun p hp => nomatch hp⟩
  obtain ⟨policed, v₁, ds, es₃, rfl, hvalidates, hpoliced⟩ := executes_bind.mp hpass
  obtain ⟨rfl, rfl, hpolicy⟩ := executes_validatePolicy hvalidates
  rcases executes_proceed hpoliced with ⟨reason, rfl, rfl, rfl⟩ | ⟨policy, rfl, hbudgets⟩
  · exact ⟨hacts, fun p hp => nomatch hp⟩
  obtain ⟨budgeted, v₂, ds, es₄, rfl, hvalidates', hbudgeted⟩ := executes_bind.mp hbudgets
  obtain ⟨rfl, rfl, hbudget⟩ := executes_validateBudget hvalidates'
  rcases executes_proceed hbudgeted with ⟨reason, rfl, rfl, rfl⟩ | ⟨budget, rfl, hslos⟩
  · exact ⟨hacts, fun p hp => nomatch hp⟩
  obtain ⟨sloed, v₃, ds, es₅, rfl, hvalidates'', hsloed⟩ := executes_bind.mp hslos
  obtain ⟨rfl, rfl, hslo⟩ := executes_validateSlo hvalidates''
  rcases executes_proceed hsloed with ⟨reason, rfl, rfl, rfl⟩ | ⟨slo, rfl, hdone⟩
  · exact ⟨hacts, fun p hp => nomatch hp⟩
  obtain ⟨rfl, rfl, rfl⟩ := executes_done.mp hdone
  refine ⟨hacts, fun p hp => ?_⟩
  obtain rfl := Except.ok.inj hp
  refine ⟨clock, _, List.mem_append_right _ List.mem_cons_self, ?_⟩
  exact ⟨hclock, hstamped, rfl, (guarded_ok hadmit).1, hpolicy policy rfl, hbudget budget rfl,
    hslo slo rfl⟩

/-- What a routing pass read and chose on its way to a commit. -/
structure Course where
  request : RouteRequest
  clock : Env
  admitted : World
  governing : Governing
  candidates : List RouteCandidate
  assessed : List (Except RouteRejection Assessment)
  winner : RankedCandidate
  tail : List RankedCandidate
  candidate : RouteCandidate
  assessment : Assessment
  bound : World
  evidence : CandidateEvidence
  found : World

namespace Course

variable (c : Course)

/-- The copy of canonical state the pass took when it was admitted. -/
def snapshot : Snapshot :=
  Snapshot.capture c.admitted.state c.request.tenant c.request.nameSpace c.clock.now

def frame : Frame where
  request := c.request
  policy := c.governing.policy
  budget := c.governing.budget
  weights := c.snapshot.weights
  scales := c.snapshot.scales
  continuity := c.snapshot.continuity
  now := c.snapshot.now

def described : RouteAuthority :=
  let authority := bindWinner c.snapshot.context c.snapshot.context.routerId c.request c.winner.key
  match c.bound.state.backends.find? c.winner.key.backendId with
  | some backend => bindDescriptor authority backend
  | none => authority

def authority : RouteAuthority :=
  bindResolved
    (bindGoverning c.described c.request c.governing.policy c.governing.budget c.governing.slo)
    c.evidence

def explanation : RouteExplanation :=
  { explain c.request c.governing (c.winner :: c.tail)
      ((rejected c.assessed).take c.snapshot.limits.maxRejectionRecords.toNat) with
    cost := c.evidence.cost }

def draft : CommitDraft :=
  draftRoute c.request c.snapshot c.governing.policy c.explanation c.winner c.tail c.authority

def basis : Basis where
  assessment := c.assessment
  governing := c.governing

/-- What a pass returns after its commit. -/
def result : RouteOutcome × Option Basis :=
  let reply := (commitSection c.draft c.found).2
  match reply.refusal with
  | some reason => stopped reason
  | none => (routedOutcome c.draft reply c.winner.score, some c.basis)

end Course

/-- The winner of a course comes first in its ranking, and is assessed and bound on evidence that
was resolved for it. -/
structure Chosen (E : Env → Prop) (options : ModelRouterOptions) (c : Course) : Prop where
  ranking : rankAll (eligible c.assessed) = c.winner :: c.tail
  candidate : c.candidate ∈ c.candidates ∧ c.candidate.key = c.winner.key
  assessment : c.assessment.ranked.key = c.winner.key ∧
    ∃ evidence, Resolves E options c.request c.snapshot c.candidate evidence ∧
      assess c.frame c.candidate evidence = .ok c.assessment
  evidence : Resolves E options c.request c.snapshot c.candidate c.evidence

/-- A course that a pass over a request may take with such answers. -/
structure Taken (E : Env → Prop) (options : ModelRouterOptions) (raw : RouteRequest)
    (met : World → Prop) (c : Course) : Prop where
  clock : E c.clock
  request : Stamped raw c.request
  admitted : met c.admitted ∧ admitRefusal c.admitted.state c.request c.clock.now = none
  policy : policyRefusal c.governing.policy c.request c.snapshot.now = none ∧
    ∃ fetched, c.governing.policy = fetched.canonicalize ∧
      Provided E options.providers.policy c.snapshot.policy
        (fun adapters =>
          adapters.policy c.request.policyId c.request.policyGeneration c.snapshot.context) fetched
  budget : if c.request.budgetId.valid then
      budgetRefusal c.governing.budget c.request = none ∧
        Provided E options.providers.budget c.snapshot.budget
          (fun adapters => adapters.budget c.request.budgetId c.request.budgetGeneration c.request
            c.snapshot.context) c.governing.budget
    else c.governing.budget = c.snapshot.budget
  slo : if c.request.requirements.requireSlo then
      sloRefusal c.governing.slo c.request = none ∧
        Provided E options.providers.slo c.snapshot.slo
          (fun adapters =>
            adapters.slo c.request.sloId c.request.sloGeneration c.request c.snapshot.context)
          c.governing.slo
    else c.governing.slo = c.snapshot.slo
  discovered : ∃ discovered, c.candidates = canonicalCandidates discovered ∧
    Discovered E options c.request c.snapshot met discovered
  chosen : Chosen E options c

/-- How a routing pass ends: without a commit, or with the commit of what it bound. -/
inductive Ending (E : Env → Prop) (options : ModelRouterOptions) (raw : RouteRequest) :
    Trace → RouteOutcome × Option Basis → World → Prop where
  | stopped {es : Trace} {result : RouteOutcome × Option Basis} {t : World} :
      (∀ e ∈ es, ∀ draft, e.act ≠ .commit draft) → result.2 = none → result.1.hasDecision = false →
      Ending E options raw es result t
  | committed {before : Trace} (c : Course) :
      (∀ e ∈ before, e.act = .observe ∨ e.act = .allocate) →
      Taken E options raw (fun w => ⟨.observe, w⟩ ∈ before) c →
      Ending E options raw (before ++ [⟨.observe, c.bound⟩, ⟨.commit c.draft, c.found⟩]) c.result
        (commitSection c.draft c.found).1

section

variable {options : ModelRouterOptions} {raw : RouteRequest}

theorem executes_commitWinner (c : Course) {result : RouteOutcome × Option Basis}
    (hcandidate : c.candidates.find? (fun candidate => candidate.key = c.winner.key) =
      some c.candidate)
    (h : Executes E R
      (commitWinner options c.request c.snapshot c.governing (some c.basis) c.candidates
        (explain c.request c.governing (c.winner :: c.tail)
          ((rejected c.assessed).take c.snapshot.limits.maxRejectionRecords.toNat))
        c.winner c.tail) s es result t) :
    ∃ bound evidence found,
      let d : Course := { c with bound := bound, evidence := evidence, found := found }
      Resolves E options c.request c.snapshot c.candidate evidence ∧
        es = [⟨.observe, bound⟩, ⟨.commit d.draft, found⟩] ∧ result = d.result ∧
        t = (commitSection d.draft found).1 := by
  obtain ⟨bound, ds, -, rfl, hbound⟩ := executes_perform.mp h
  rw [hcandidate] at hbound
  dsimp only at hbound
  obtain ⟨evidence, u, es₁, es₂, rfl, hresolve, hfinish⟩ := executes_bind.mp hbound
  obtain ⟨rfl, rfl, hevidence⟩ := executes_resolve hresolve
  rw [commitWinner.finish] at hfinish
  obtain ⟨found, ds', -, rfl, hcommitted⟩ := executes_perform.mp hfinish
  let d : Course := { c with bound := u, evidence := evidence, found := found }
  refine ⟨u, evidence, found, hevidence, ?_⟩
  change Executes E R
    (match (commitSection d.draft found).2.refusal with
      | some reason => pure (stopped reason)
      | none => pure (routedOutcome d.draft (commitSection d.draft found).2 c.winner.score,
          some c.basis)) (commitSection d.draft found).1 ds' result t at hcommitted
  have hresult : ds' = [] ∧ result = d.result ∧ t = (commitSection d.draft found).1 := by
    rw [Course.result]
    split at hcommitted
    · rename_i reason hrefusal
      rw [hrefusal]
      exact executes_done.mp hcommitted
    · rename_i hrefusal
      rw [hrefusal]
      exact executes_done.mp hcommitted
  obtain ⟨rfl, hresult, ht⟩ := hresult
  exact ⟨rfl, hresult, ht⟩

theorem stopped_ending {reason : Stop} (hes : ∀ e ∈ es, e.act = .observe ∨ e.act = .allocate) :
    Ending E options raw es (stopped reason) t := by
  refine .stopped (fun e he draft hact => ?_) rfl rfl
  rcases hes e he with h | h
  · cases h.symm.trans hact
  · cases h.symm.trans hact

theorem executes_rankAndCommit {request : RouteRequest} {clock : Env} {admitted : World}
    {governing : Governing} {candidates : List RouteCandidate}
    {result : RouteOutcome × Option Basis} (hkeys : (candidates.map RouteCandidate.key).Nodup)
    (h : Executes E R (rankAndCommit options request
      (Snapshot.capture admitted.state request.tenant request.nameSpace clock.now) governing
        candidates) s es result t) :
    ((∀ e ∈ es, ∀ draft, e.act ≠ .commit draft) ∧ result.2 = none ∧
        result.1.hasDecision = false) ∨
      ∃ c : Course, (c.request = request ∧ c.clock = clock ∧ c.admitted = admitted ∧
          c.governing = governing ∧ c.candidates = candidates) ∧ Chosen E options c ∧
        es = [⟨.observe, c.bound⟩, ⟨.commit c.draft, c.found⟩] ∧ result = c.result ∧
        t = (commitSection c.draft c.found).1 := by
  obtain ⟨assessed, u, es₁, es₂, rfl, hassess, hranked⟩ := executes_bind.mp h
  obtain ⟨rfl, rfl, hassessed⟩ := executes_assessAll hassess
  dsimp only at hranked
  split at hranked
  · obtain ⟨rfl, rfl, rfl⟩ := executes_done.mp hranked
    exact .inl ⟨by simp, rfl, rfl⟩
  · split at hranked
    · obtain ⟨v, ds, -, rfl, hrejected⟩ := executes_perform.mp hranked
      obtain ⟨rfl, rfl, rfl⟩ := executes_done.mp hrejected
      exact .inl ⟨by simp, rfl, rfl⟩
    · rename_i winner tail hranking
      obtain ⟨assessment, candidate, evidence, hassessment, hcandidate, hresolves, hok⟩ :=
        winner_found hassessed hkeys hranking
      rw [hassessment, hranking] at hranked
      let c : Course :=
        { request := request
          clock := clock
          admitted := admitted
          governing := governing
          candidates := candidates
          assessed := assessed
          winner := winner
          tail := tail
          candidate := candidate
          assessment := assessment
          bound := u
          evidence := evidence
          found := u }
      obtain ⟨bound, evidence', found, hresolves', hes, hresult, ht⟩ :=
        executes_commitWinner c hcandidate hranked
      have hkey : candidate.key = winner.key := by simpa using List.find?_some hcandidate
      have hchosen : Chosen E options
          { c with bound := bound, evidence := evidence', found := found } :=
        ⟨hranking, ⟨List.mem_of_find?_eq_some hcandidate, hkey⟩,
          ⟨(assess_key hok).1.trans hkey, evidence, hresolves, hok⟩, hresolves'⟩
      exact .inr ⟨{ c with bound := bound, evidence := evidence', found := found },
        ⟨rfl, rfl, rfl, rfl, rfl⟩, hchosen, hes, hresult, ht⟩

theorem routePass_ending {result : RouteOutcome × Option Basis}
    (h : Executes E R (routePass options raw) s es result t) : Ending E options raw es result t := by
  rw [routePass_eq] at h
  obtain ⟨x, u, es₁, es₂, rfl, hprepares, hconcludes⟩ := executes_bind.mp h
  obtain ⟨hacts, hprepared⟩ := executes_prepare hprepares
  cases x with
  | error reason =>
      obtain ⟨rfl, rfl, rfl⟩ := executes_done.mp hconcludes
      rw [List.append_nil]
      exact stopped_ending hacts
  | ok p =>
      obtain ⟨clock, admitted, hadmitted, hby⟩ := hprepared p rfl
      obtain ⟨discovered, w, es₃, es₄, rfl, hdiscovers, hweighs⟩ := executes_bind.mp hconcludes
      obtain ⟨hobserves, hdiscovered⟩ := executes_discover hdiscovers
      have hearly : ∀ e ∈ es₁ ++ es₃, e.act = Act.observe ∨ e.act = Act.allocate := by
        intro e he
        rcases List.mem_append.mp he with he | he
        · exact hacts e he
        · exact .inl (hobserves e he)
      rw [← List.append_assoc]
      rw [weigh] at hweighs
      split at hweighs
      · obtain ⟨rfl, rfl, rfl⟩ := executes_done.mp hweighs
        rw [List.append_nil]
        exact stopped_ending hearly
      obtain ⟨request, snapshot, governing⟩ := p
      obtain rfl : snapshot =
        Snapshot.capture admitted.state request.tenant request.nameSpace clock.now := hby.snapshot
      rcases executes_rankAndCommit (canonicalCandidates_nodup discovered) hweighs with
        ⟨hnone, hbasis, hdecision⟩ | ⟨c, ⟨rfl, rfl, rfl, rfl, hcandidates⟩, hchosen, rfl, rfl, rfl⟩
      · refine .stopped (fun e he draft hact => ?_) hbasis hdecision
        rcases List.mem_append.mp he with he | he
        · rcases hearly e he with hobserved | hallocated
          · cases hobserved.symm.trans hact
          · cases hallocated.symm.trans hact
        · exact hnone e he draft hact
      · refine .committed c hearly ⟨hby.asked, hby.request,
          ⟨List.mem_append_left _ hadmitted, hby.admitted⟩, hby.policy, hby.budget, hby.slo,
          ⟨discovered, hcandidates, ?_⟩, hchosen⟩
        rw [Discovered] at hdiscovered ⊢
        split
        · rename_i hsupplied
          rwa [if_pos hsupplied] at hdiscovered
        · rename_i hbuiltin
          rw [if_neg hbuiltin] at hdiscovered
          obtain ⟨found, hfound, heq⟩ := hdiscovered
          exact ⟨found, List.mem_append_right _ hfound, heq⟩

theorem Ending.commit {result : RouteOutcome × Option Basis} (h : Ending E options raw es result t)
    {e : Event World Act} (he : e ∈ es) {draft : CommitDraft} (hact : e.act = .commit draft) :
    ∃ met c, Taken E options raw met c ∧ e = ⟨.commit c.draft, c.found⟩ := by
  cases h with
  | stopped hnone _ _ => exact absurd hact (hnone e he draft)
  | @committed before c hearly htaken =>
      rcases List.mem_append.mp he with he | he
      · rcases hearly e he with hobserved | hallocated
        · cases hobserved.symm.trans hact
        · cases hallocated.symm.trans hact
      · rcases List.mem_cons.mp he with rfl | he
        · cases hact
        · exact ⟨_, c, htaken, List.mem_singleton.mp he⟩

end

end ModelRouter.Courses
