import ModelRouter.Route

namespace ModelRouter.Stages

open Base Base.Program Bytes Ids Outcome Limits Candidate Authority Request Eligibility Decision State
open Commit Providers Section Pass Route

/-- What a pass has settled before it looks for candidates. -/
structure Prepared where
  request : RouteRequest
  snapshot : Snapshot
  governing : Governing

namespace Prepared

variable (p : Prepared)

def frame : Frame where
  request := p.request
  policy := p.governing.policy
  budget := p.governing.budget
  weights := p.snapshot.weights
  scales := p.snapshot.scales
  continuity := p.snapshot.continuity
  now := p.snapshot.now

def resolved (options : ModelRouterOptions) (e : Env) (candidate : RouteCandidate) :
    CandidateEvidence :=
  resolveCandidate options.providers e.adapters p.request p.snapshot.context p.snapshot.evidence
    candidate

def assessed (options : ModelRouterOptions) (e : Env) (candidate : RouteCandidate) :
    Except RouteRejection Assessment :=
  assess p.frame candidate (p.resolved options e candidate)

/-- What the pass reports of a candidate: its place in the ranking, or its rejection. -/
def verdict (options : ModelRouterOptions) (e : Env) (candidate : RouteCandidate) :
    Except RouteRejection RankedCandidate :=
  (p.assessed options e candidate).map Assessment.ranked

def described (key : CandidateKey) (s : CanonicalState) : RouteAuthority :=
  let authority := bindWinner p.snapshot.context p.snapshot.context.routerId p.request key
  let authority := match s.backends.find? key.backendId with
    | some backend => bindDescriptor authority backend
    | none => authority
  bindGoverning authority p.request p.governing.policy p.governing.budget p.governing.slo

end Prepared

section

variable (options : ModelRouterOptions)

def prepare (raw : RouteRequest) : Operation (Except Stop Prepared) := do
  let named ← identify raw
  let e ← ask
  let request :=
    if named.createdAtUnixMillis = 0 then { named with createdAtUnixMillis := e.now } else named
  let w ← perform .observe
  proceed .error (guarded (admitRefusal w.state request e.now) ()) fun _ => do
    let snapshot := Snapshot.capture w.state request.tenant request.nameSpace e.now
    let policy ← validatePolicy options request snapshot
    proceed .error policy fun policy => do
      let budget ← validateBudget options request snapshot
      proceed .error budget fun budget => do
        let slo ← validateSlo options request snapshot
        proceed .error slo fun slo => return .ok ⟨request, snapshot, ⟨policy, budget, slo⟩⟩

def weigh (p : Prepared) (discovered : List RouteCandidate) :
    Operation (RouteOutcome × Option Basis) :=
  if discovered.length > p.snapshot.limits.maxCandidatesPerRequest.toNat then
    return stopped (.rejectLimit, "candidate discovery exceeded the configured limit")
  else
    rankAndCommit options p.request p.snapshot p.governing (canonicalCandidates discovered)

def settle (p : Prepared) (candidates : List RouteCandidate)
    (assessed : List (Except RouteRejection Assessment)) : Operation (RouteOutcome × Option Basis) :=
  let assessments := eligible assessed
  if assessments.length > p.snapshot.limits.maxRankedCandidates.toNat then
    return stopped
      (.rejectLimit, "eligible candidate count exceeds the configured ranking limit")
  else
    let rejections := (rejected assessed).take p.snapshot.limits.maxRejectionRecords.toNat
    let explanation := explain p.request p.governing (rankAll assessments) rejections
    match rankAll assessments with
    | [] => do
      let _found ← perform (.rejectRoute p.request.tenant explanation.rejectedCandidateCount)
      return (noEligible explanation, none)
    | winner :: tail =>
      let assessment := assessments.find? fun assessment => assessment.ranked.key = winner.key
      commitWinner options p.request p.snapshot p.governing
        (assessment.map fun assessment => ⟨assessment, p.governing⟩) candidates explanation winner
        tail

def conclude : Except Stop Prepared → Operation (RouteOutcome × Option Basis)
  | .error reason => return stopped reason
  | .ok p => do
    let discovered ← discover options p.request p.snapshot
    weigh options p discovered

end

theorem rankAndCommit_eq (options : ModelRouterOptions) (p : Prepared)
    (candidates : List RouteCandidate) :
    rankAndCommit options p.request p.snapshot p.governing candidates =
      (assessAll options p.request p.snapshot p.frame candidates).bind
        (settle options p candidates) := rfl

theorem proceed_bind {α β γ : Type} {stop : Stop → α} {f : Except Stop γ → Operation α}
    (hf : ∀ reason, f (.error reason) = pure (stop reason)) (x : Except Stop β)
    (next : β → Operation (Except Stop γ)) :
    (proceed .error x next).bind f = proceed stop x fun value => (next value).bind f := by
  cases x with
  | error reason => exact hf reason
  | ok value => rfl

variable {options : ModelRouterOptions}

theorem routePass_eq (raw : RouteRequest) :
    routePass options raw = prepare options raw >>= conclude options := by
  have hstopped (reason : Stop) : conclude options (.error reason) = pure (stopped reason) := rfl
  rw [prepare, bind_eq, bind_eq, bind_assoc]
  refine congrArg (Program.bind (identify raw)) (funext fun named => ?_)
  refine congrArg Program.ask (funext fun e => ?_)
  refine congrArg (Program.act Act.observe) (funext fun w => ?_)
  refine Eq.symm ((proceed_bind hstopped _ _).trans ?_)
  refine congrArg (proceed stopped _) (funext fun _ => ?_)
  refine (bind_assoc _ _ _).trans (congrArg (Program.bind _) (funext fun policy => ?_))
  refine (proceed_bind hstopped _ _).trans (congrArg (proceed stopped _) (funext fun policy => ?_))
  refine (bind_assoc _ _ _).trans (congrArg (Program.bind _) (funext fun budget => ?_))
  refine (proceed_bind hstopped _ _).trans (congrArg (proceed stopped _) (funext fun budget => ?_))
  refine (bind_assoc _ _ _).trans (congrArg (Program.bind _) (funext fun slo => ?_))
  exact proceed_bind hstopped _ _

end ModelRouter.Stages
