import ModelRouter.Pass

namespace ModelRouter.Route

open Base Base.Refusal Bytes Ids Outcome Capability Evidence Catalog Limits Candidate Authority
open Request Policy Eligibility Ranking Decision State Commit Providers Section Pass

def admitRefusal (s : CanonicalState) (request : RouteRequest) (now : UnixMillis) : Option Stop :=
  stopIf s.shuttingDown .shuttingDown
    "router is shutting down and cannot admit a route request" <|>
  stopIf (!s.running) .rejectInvalid "router is not running" <|>
  (request.validate s.limits).map (fun error => (OutcomeCode.rejectInvalid, error)) <|>
  stopIf (request.expired now) .rejectStaleRequest "route request has expired"

def unavailable (message : Text) (reason : Stop) : Stop :=
  (reason.1, firstNonempty reason.2 message)

def policyRefusal (policy : PolicySnapshot) (request : RouteRequest) (now : UnixMillis) :
    Option Stop :=
  let verdict := evaluateRequest policy request now
  stopIf (!policy.generation.valid) .rejectStalePolicy
    "no current policy evidence is available" <|>
  stopIf (!verdict.allowed) verdict.code verdict.detail

def budgetRefusal (budget : BudgetSnapshot) (request : RouteRequest) : Option Stop :=
  stopIf (!budget.generation.valid || budget.verdict == .unknown) .rejectUnknownEvidence
    "budget evidence is UNKNOWN" <|>
  stopIf (budget.generation != request.budgetGeneration) .rejectStaleBudget
    "budget generation is not the request budget generation" <|>
  stopIf (budget.verdict == .denied) .rejectBudget "budget verdict denies the request"

def sloRefusal (slo : SloEvidence) (request : RouteRequest) : Option Stop :=
  stopIf (!slo.generation.valid || slo.verdict == .unknown) .rejectUnknownEvidence
    "SLO evidence is UNKNOWN" <|>
  stopIf (slo.generation != request.sloGeneration) .rejectStaleSlo
    "SLO generation is not the request SLO generation" <|>
  stopIf (slo.verdict == .infeasible) .rejectSlo "SLO verdict is infeasible"

section

variable (options : ModelRouterOptions) (request : RouteRequest) (snapshot : Snapshot)

def validatePolicy : Operation (Except Stop PolicySnapshot) := do
  let answer ← consult options.providers.policy snapshot.policy fun adapters =>
    adapters.policy request.policyId request.policyGeneration snapshot.context
  return match answer with
    | .error reason => .error (unavailable "policy evidence is unavailable" reason)
    | .ok fetched =>
      guarded (policyRefusal fetched.canonicalize request snapshot.now) fetched.canonicalize

def validateBudget : Operation (Except Stop BudgetSnapshot) :=
  if request.budgetId.valid then do
    let answer ← consult options.providers.budget snapshot.budget fun adapters =>
      adapters.budget request.budgetId request.budgetGeneration request snapshot.context
    return match answer with
      | .error reason => .error (unavailable "budget evidence is unavailable" reason)
      | .ok budget => guarded (budgetRefusal budget request) budget
  else return .ok snapshot.budget

def validateSlo : Operation (Except Stop SloEvidence) :=
  if request.requirements.requireSlo then do
    let answer ← consult options.providers.slo snapshot.slo fun adapters =>
      adapters.slo request.sloId request.sloGeneration request snapshot.context
    return match answer with
      | .error reason => .error (unavailable "SLO evidence is unavailable" reason)
      | .ok slo => guarded (sloRefusal slo request) slo
  else return .ok snapshot.slo

def discover : Operation (List RouteCandidate) :=
  if options.providers.candidates then do
    let e ← ask
    return (e.adapters.discover request snapshot.context).evidence.getD []
  else do
    let w ← perform .observe
    return catalogCandidates w.state

def canonicalCandidates (candidates : List RouteCandidate) : List RouteCandidate :=
  unique (fun a b => a.key == b.key) (stableSort (fun a b => a.key < b.key) candidates)

def resolve (candidate : RouteCandidate) : Operation CandidateEvidence := do
  let e ← ask
  return resolveCandidate options.providers e.adapters request snapshot.context snapshot.evidence
    candidate

def assessAll (frame : Frame) :
    List RouteCandidate → Operation (List (Except RouteRejection Assessment))
  | [] => return []
  | candidate :: rest => do
    let evidence ← resolve options request snapshot candidate
    let others ← assessAll frame rest
    return assess frame candidate evidence :: others

end

def eligible (assessed : List (Except RouteRejection Assessment)) : List Assessment :=
  assessed.filterMap fun result => match result with
    | .ok assessment => some assessment
    | .error _ => none

def rejected (assessed : List (Except RouteRejection Assessment)) : List RouteRejection :=
  assessed.filterMap fun result => match result with
    | .ok _ => none
    | .error rejection => some rejection

def rankAll (assessments : List Assessment) : List RankedCandidate :=
  numberRanks 1 (stableSort candidateRanksBefore (assessments.map Assessment.ranked))

def tieBreakReason : List RankedCandidate → Text
  | first :: second :: _ =>
    if first.score = second.score then
      "canonical factor sequence then canonical candidate identity"
    else "higher integer score"
  | _ => "higher integer score"

def fallbackOrder (winner : RankedCandidate) (tail : List RankedCandidate) (permitted : UInt32) :
    List CandidateKey :=
  let before (lhs rhs : RankedCandidate) :=
    lhs.key.backendId != winner.key.backendId && rhs.key.backendId == winner.key.backendId
  ((stableSort before tail).take permitted.toNat).map RankedCandidate.key

/-- The validated evidence that governs a whole pass. -/
structure Governing where
  policy : PolicySnapshot
  budget : BudgetSnapshot
  slo : SloEvidence

/-- What the winner's verdict and factors were computed from. -/
structure Basis where
  assessment : Assessment
  governing : Governing

def explain (request : RouteRequest) (governing : Governing) (ranking : List RankedCandidate)
    (rejections : List RouteRejection) : RouteExplanation where
  requestId := request.requestId
  requestGeneration := request.requestGeneration
  policy := governing.policy
  budget := governing.budget
  slo := governing.slo
  requirementDigest := request.requirements.digest
  policyResult := .accepted
  eligibleCandidateCount := ranking.length.toUInt32
  rejectedCandidateCount := rejections.length.toUInt32
  rejections := rejections
  ranking := ranking

def stopped (reason : Stop) : RouteOutcome × Option Basis :=
  (RouteOutcome.make reason.1 "route" reason.2, none)

def noEligible (explanation : RouteExplanation) : RouteOutcome :=
  { RouteOutcome.make .noEligibleCandidate "route"
      "no candidate satisfies every current hard requirement" with
    route := explanation }

def routedOutcome (draft : CommitDraft) (reply : CommitReply) (score : Int) : RouteOutcome :=
  let code : OutcomeCode := if reply.committedCurrent then .routed else .revalidationRequired
  { code := code
    decision := reply.decision
    route := reply.decision.explanation
    hasDecision := true
    explanation := buildExplanation code "route"
      (if reply.committedCurrent then "route decision committed"
        else "route decision committed stale: authority advanced during the pass")
      [.u64 "decision_id" reply.decision.decisionId.value,
        .u64 "eligible" draft.eligible.toUInt64, .u64 "rejected" draft.rejected.toUInt64,
        .u64 "model_id" draft.winner.modelId.value,
        .u64 "backend_id" draft.winner.backendId.value,
        .u64 "backend_boot" draft.winner.backendBoot.value,
        .u64 "score" (UInt64.ofInt score),
        .bool "committed_current" reply.committedCurrent,
        ⟨"authority_digest", authorityDigest reply.decision.authority⟩] }

def draftRoute (request : RouteRequest) (snapshot : Snapshot) (policy : PolicySnapshot)
    (explanation : RouteExplanation) (winner : RankedCandidate) (tail : List RankedCandidate)
    (authority : RouteAuthority) : CommitDraft :=
  let permitted := permittedFallbacks request policy snapshot.limits
  let fallbacks := fallbackOrder winner tail permitted
  let explanation :=
    { explanation with
      winner := winner.key
      authority := authority
      currentness := .current
      revalidationRequired := false
      tieBreakReason := tieBreakReason explanation.ranking
      fallbackOrder := fallbacks }
  { kind := .route
    epoch := snapshot.epoch
    coordinatorEpoch := snapshot.coordinatorEpoch
    decision :=
      { requestId := request.requestId
        requestGeneration := request.requestGeneration
        status := .current
        code := .routed
        authority := authority
        fallbacks := fallbacks
        createdAtUnixMillis := snapshot.now
        explanation := explanation }
    plan := planFor request policy winner.key fallbacks authority permitted snapshot.now
    tenant := request.tenant
    nameSpace := request.nameSpace
    winner := winner.key
    now := snapshot.now
    eligible := explanation.eligibleCandidateCount
    rejected := explanation.rejectedCandidateCount }

section

variable (options : ModelRouterOptions)

def commitWinner (request : RouteRequest) (snapshot : Snapshot) (governing : Governing)
    (basis : Option Basis) (candidates : List RouteCandidate) (explanation : RouteExplanation)
    (winner : RankedCandidate) (tail : List RankedCandidate) :
    Operation (RouteOutcome × Option Basis) := do
  let w ← perform .observe
  let authority := bindWinner snapshot.context snapshot.context.routerId request winner.key
  let authority := match w.state.backends.find? winner.key.backendId with
    | some backend => bindDescriptor authority backend
    | none => authority
  let authority := bindGoverning authority request governing.policy governing.budget governing.slo
  match candidates.find? fun candidate => candidate.key = winner.key with
  | none => finish authority explanation
  | some candidate => do
    let evidence ← resolve options request snapshot candidate
    finish (bindResolved authority evidence) { explanation with cost := evidence.cost }
where
  finish (authority : RouteAuthority) (explanation : RouteExplanation) :
      Operation (RouteOutcome × Option Basis) := do
    let draft := draftRoute request snapshot governing.policy explanation winner tail authority
    let w ← perform (.commit draft)
    let reply := (commitSection draft w).2
    match reply.refusal with
    | some reason => return stopped reason
    | none => return (routedOutcome draft reply winner.score, basis)

def rankAndCommit (request : RouteRequest) (snapshot : Snapshot) (governing : Governing)
    (candidates : List RouteCandidate) : Operation (RouteOutcome × Option Basis) := do
  let frame : Frame :=
    { request := request
      policy := governing.policy
      budget := governing.budget
      weights := snapshot.weights
      scales := snapshot.scales
      continuity := snapshot.continuity
      now := snapshot.now }
  let assessed ← assessAll options request snapshot frame candidates
  let assessments := eligible assessed
  if assessments.length > snapshot.limits.maxRankedCandidates.toNat then
    return stopped
      (.rejectLimit, "eligible candidate count exceeds the configured ranking limit")
  else
    let rejections := (rejected assessed).take snapshot.limits.maxRejectionRecords.toNat
    let explanation := explain request governing (rankAll assessments) rejections
    match rankAll assessments with
    | [] => do
      let _found ← perform (.rejectRoute request.tenant explanation.rejectedCandidateCount)
      return (noEligible explanation, none)
    | winner :: tail =>
      let assessment := assessments.find? fun assessment => assessment.ranked.key = winner.key
      commitWinner options request snapshot governing
        (assessment.map fun assessment => ⟨assessment, governing⟩) candidates explanation winner
        tail

/-- The routing pass, with the basis of the decision it commits. -/
def routePass (raw : RouteRequest) : Operation (RouteOutcome × Option Basis) := do
  let named ← identify raw
  let e ← ask
  let request :=
    if named.createdAtUnixMillis = 0 then { named with createdAtUnixMillis := e.now } else named
  let w ← perform .observe
  proceed stopped (guarded (admitRefusal w.state request e.now) ()) fun _ => do
    let snapshot := Snapshot.capture w.state request.tenant request.nameSpace e.now
    let policy ← validatePolicy options request snapshot
    proceed stopped policy fun policy => do
      let budget ← validateBudget options request snapshot
      proceed stopped budget fun budget => do
        let slo ← validateSlo options request snapshot
        proceed stopped slo fun slo => do
          let discovered ← discover options request snapshot
          if discovered.length > snapshot.limits.maxCandidatesPerRequest.toNat then
            return stopped
              (.rejectLimit, "candidate discovery exceeded the configured limit")
          else
            rankAndCommit options request snapshot ⟨policy, budget, slo⟩
              (canonicalCandidates discovered)

def route (raw : RouteRequest) : Operation RouteOutcome := do
  let pass ← routePass options raw
  return pass.1

end

end ModelRouter.Route
