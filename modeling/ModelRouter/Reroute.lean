import ModelRouter.Dispatch

namespace ModelRouter.Reroute

open Base Base.Refusal Bytes Ids Outcome Capability Evidence Catalog Limits Candidate Authority
open Request Policy Eligibility Ranking Decision State Commit Handoff Providers Section Pass Route
open Dispatch

def rerouteStopped (reason : Stop) : RouteOutcome :=
  RouteOutcome.make reason.1 "reroute" reason.2

def remainingFallbacks (fallbacks : List CandidateKey) (chosen : CandidateKey)
    (permitted : UInt32) : List CandidateKey :=
  (fallbacks.filter (· ≠ chosen)).take permitted.toNat

/-- The authority of a fallback is bound from the candidate itself, not from canonical state. -/
def bindFallback (context : DiscoveryContext) (routerId : RouterId) (request : RouteRequest)
    (candidate : RouteCandidate) (evidence : CandidateEvidence) (policy : PolicySnapshot)
    (budget : BudgetSnapshot) (slo : SloEvidence) : RouteAuthority :=
  bindResolved
    (bindGoverning
      (bindDescriptor (bindWinner context routerId request candidate.key) candidate.backend)
      request policy budget slo)
    evidence

def draftFallback (request : RouteRequest) (snapshot : Snapshot) (governing : Governing)
    (assessment : Assessment) (authority : RouteAuthority) (planned : List CandidateKey)
    (permitted : UInt32) : CommitDraft :=
  let key := assessment.candidate.key
  let fallbacks := remainingFallbacks planned key permitted
  { kind := .fallback
    epoch := snapshot.epoch
    coordinatorEpoch := snapshot.coordinatorEpoch
    decision :=
      { requestId := request.requestId
        requestGeneration := request.requestGeneration
        status := .current
        code := .routed
        authority := authority
        fallbacks := fallbacks
        createdAtUnixMillis := snapshot.now
        explanation :=
          { requestId := request.requestId
            requestGeneration := request.requestGeneration
            winner := key
            eligibleCandidateCount := 1
            rejectedCandidateCount := 0
            ranking := [{ assessment.ranked with rank := 1 }]
            policy := governing.policy
            budget := governing.budget
            slo := governing.slo
            cost := assessment.evidence.cost
            policyResult := (evaluateCandidate governing.policy assessment.candidate snapshot.now).code
            requirementDigest := request.requirements.digest
            currentness := .current
            tieBreakReason := "single freshly revalidated fallback candidate"
            authority := authority
            fallbackOrder := fallbacks } }
    plan := planFor request governing.policy key fallbacks authority permitted snapshot.now
    tenant := request.tenant
    nameSpace := request.nameSpace
    winner := key
    now := snapshot.now
    eligible := 1
    rejected := 0 }

def fallbackOutcome (draft : CommitDraft) (reply : CommitReply) : RouteOutcome :=
  let code : OutcomeCode := if reply.committedCurrent then .routed else .revalidationRequired
  { code := code
    decision := reply.decision
    route := reply.decision.explanation
    hasDecision := true
    explanation := buildExplanation code "reroute"
      (if reply.committedCurrent then "fallback candidate freshly revalidated and committed"
        else "fallback committed stale: authority advanced during validation")
      [.u64 "decision_id" reply.decision.decisionId.value,
        .u64 "backend_id" draft.winner.backendId.value,
        .u64 "backend_boot" draft.winner.backendBoot.value,
        .bool "committed_current" reply.committedCurrent] }

def ineligible (request : RouteRequest) (rejection : RouteRejection) : RouteOutcome :=
  { RouteOutcome.make rejection.code "reroute" rejection.detail with
    route :=
      { requestId := request.requestId
        requestGeneration := request.requestGeneration } }

def commitSingleCandidate (request : RouteRequest) (snapshot : Snapshot) (governing : Governing)
    (candidate : RouteCandidate) (evidence : CandidateEvidence) (planned : List CandidateKey)
    (permitted : UInt32) : Operation RouteOutcome := do
  let frame : Frame :=
    { request := request
      policy := governing.policy
      budget := governing.budget
      weights := snapshot.weights
      scales := snapshot.scales
      continuity := snapshot.continuity
      now := snapshot.now }
  match assess frame candidate evidence with
  | .error rejection => return ineligible request rejection
  | .ok assessment => do
    -- the router identity is read without the lock
    let w ← perform .observe
    let authority := bindFallback snapshot.context w.state.routerId request assessment.candidate
      evidence governing.policy governing.budget governing.slo
    let draft := draftFallback request snapshot governing assessment authority planned permitted
    let u ← perform (.commit draft)
    let reply := (commitSection draft u).2
    match reply.refusal with
    | some reason => return rerouteStopped reason
    | none => return fallbackOutcome draft reply

section

variable (options : ModelRouterOptions)

/-- The walk over the ordered fallback set; `none` when no fallback could be committed. -/
def tryFallbacks (id : RouteDecisionId) (request : RouteRequest) (snapshot : Snapshot)
    (governing : Governing) (planned : List CandidateKey) (permitted : UInt32) :
    List CandidateKey → Operation (Option RouteOutcome)
  | [] => return none
  | key :: rest => do
    let w ← perform .observe
    match (catalogCandidate w.state key.modelId key.backendId).filter (·.key = key) with
    | none => tryFallbacks id request snapshot governing planned permitted rest
    | some candidate => do
      let evidence ← resolve options request snapshot candidate
      let outcome ←
        commitSingleCandidate request snapshot governing candidate evidence planned permitted
      if outcome.code = .routed then do
        let _found ← perform (.supersede id snapshot.now false)
        return some outcome
      else tryFallbacks id request snapshot governing planned permitted rest

/-- The full routing pass `reroute` ends with when no fallback remained valid. -/
def rerouteFresh (id : RouteDecisionId) (request : RouteRequest) (now : UnixMillis) :
    Operation RouteOutcome := do
  let fresh ← route options request
  if fresh.code = .routed then do
    let _found ← perform (.supersede id now true)
    return fresh
  else return fresh

def rerouteRefusal (stored : RouteRecord) (request : RouteRequest) (now : UnixMillis) :
    Option Stop :=
  stopIf (stored.decision.status == .completed || stored.decision.status == .cancelled)
    .rejectInvalid "route decision has reached a terminal state" <|>
  stopIf (request.tenant != stored.tenant) .rejectConflict
    "reroute request tenant does not match the route decision tenant" <|>
  stopIf (request.expired now) .rejectStaleRequest "reroute request has expired"

def reroutePolicyRefusal (policy : PolicySnapshot) (request : RouteRequest) (stored : RouteRecord)
    (failure : FailureClass) (now : UnixMillis) : Option Stop :=
  let verdict := evaluateRequest policy request now
  stopIf (!verdict.allowed) verdict.code verdict.detail <|>
  stopIf (!fallbackPermitted policy request.requirements stored.decision.code) .rejectPolicy
    "fallback is not permitted for this failure by policy" <|>
  stopIf (isPermanent failure) .rejectPolicy
    "the failure class is permanent and may not be rerouted"

def reroute (id : RouteDecisionId) (failure : FailureClass) (raw : RouteRequest) :
    Operation RouteOutcome := do
  let request ← identify raw
  let e ← ask
  let w ← perform .observe
  match w.state.routes.find? id with
  | none => return rerouteStopped (.rejectInvalid, "route decision is not retained")
  | some stored =>
    let snapshot := Snapshot.capture w.state stored.tenant stored.nameSpace e.now
    proceed rerouteStopped
      (guarded
        (stopIf w.state.shuttingDown .shuttingDown "router is shutting down" <|>
          rerouteRefusal stored request e.now) ()) fun _ => do
      let answer ← consult options.providers.policy snapshot.policy fun adapters =>
        adapters.policy request.policyId request.policyGeneration snapshot.context
      proceed rerouteStopped answer fun fetched => do
        let policy := fetched.canonicalize
        proceed rerouteStopped
          (guarded (reroutePolicyRefusal policy request stored failure e.now) ()) fun _ => do
          let fallback ← tryFallbacks options id request snapshot
            ⟨policy, snapshot.budget, snapshot.slo⟩ stored.plan.fallbacks
            (permittedFallbacks request policy snapshot.limits) stored.plan.fallbacks
          match fallback with
          | some outcome => return outcome
          | none => rerouteFresh options id request e.now

end

end ModelRouter.Reroute
