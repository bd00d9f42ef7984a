import ModelRouter.Route

namespace ModelRouter.Dispatch

open Base Base.Refusal Bytes Ids Outcome Capability Evidence Catalog Limits Candidate Authority
open Request Policy Eligibility Ranking Decision State CatalogMutation Commit Handoff Providers
open Section Pass Route

/-- The caller checks of `revalidate` and `dispatch`. -/
def callerRefusal (tenant callerTenant : TenantId) (nameSpace callerNamespace : NamespaceId) :
    Option Stop :=
  stopIf (callerTenant.valid && callerTenant != tenant) .rejectConflict
    "route decision belongs to a different tenant" <|>
  stopIf (callerNamespace.valid && nameSpace.valid && callerNamespace != nameSpace)
    .rejectConflict "route decision belongs to a different namespace"

def statusRefusal : RouteStatus → Option Stop
  | .superseded | .cancelled => some (.superseded, "route decision is no longer current")
  | .completed | .failed =>
    some (.rejectInvalid, "route decision has already reached a terminal state")
  | _ => none

def rejected (reason : Stop) : MutationResult :=
  .make reason.1 "revalidate" reason.2

def failedResult (code : OutcomeCode) (message : Text) (factors : List ExplanationFactor) :
    MutationResult where
  code := code
  explanation := buildExplanation code "revalidate" message factors

def differenceFactor (difference : AuthorityDifference) : ExplanationFactor :=
  ⟨difference.component.name,
    decimal difference.bound.toNat ++ text "->" ++ decimal difference.current.toNat⟩

def finishResult (s : CanonicalState) (id : RouteDecisionId) (bound observed : RouteAuthority)
    (comparison : AuthorityComparison) (now : UnixMillis) : MutationResult :=
  let reason := dispatchabilityReason s bound now
  if !s.routes.contains id then rejected (.rejectInvalid, "route decision is not retained")
  else if !comparison.current then
    failedResult comparison.code "route authority is no longer current"
      (.u64 "decision_id" id.value ::
        .u64 "differences" comparison.differences.length.toUInt64 ::
        comparison.differences.map differenceFactor)
  else if reason ≠ .accepted then
    failedResult reason "bound model or backend is no longer dispatchable"
      [.u64 "decision_id" id.value]
  else
    .accept "revalidate" "every required authority component is current"
      [.u64 "decision_id" id.value, ⟨"authority_digest", authorityDigest observed⟩]

def failStale (id : RouteDecisionId) (result : MutationResult) : Operation MutationResult := do
  let _found ← perform (.markStale id)
  return result

/-- The part of `revalidate` after the checks of the caller and of the status. -/
def checkAuthority (id : RouteDecisionId) (bound : RouteAuthority) (fenced : Bool) :
    Operation MutationResult := do
  let e ← ask
  if bound.expired e.now then
    failStale id (rejected (.rejectStaleRequest, "route decision has expired"))
  else if fenced then
    failStale id
      (failedResult .rejectStaleBackendBoot "backend incarnation is fenced"
        [.u64 "backend_id" bound.backendId.value, .u64 "backend_boot" bound.backendBoot.value])
  else do
    let w ← perform .observe
    match buildCurrentAuthority w.state bound with
    | none =>
      failStale id
        (rejected (.rejectStaleBackend, "bound model or backend identity no longer exists"))
    | some observed => do
      let comparison := compareAuthority bound observed bound.requiredMask
      let u ← perform (.finishRevalidate id bound comparison.current e.now)
      return finishResult u.state id bound observed comparison e.now

def revalidate (id : RouteDecisionId) (callerTenant : TenantId) (callerNamespace : NamespaceId) :
    Operation MutationResult := do
  let w ← perform .observe
  if w.state.shuttingDown then
    return rejected (.shuttingDown, "router is shutting down and cannot re-authorize a route")
  else match w.state.routes.find? id with
    | none => return rejected (.rejectInvalid, "route decision is not retained")
    | some record =>
      let bound := record.decision.authority
      proceed rejected
        (guarded
          (callerRefusal record.tenant callerTenant record.nameSpace callerNamespace <|>
            statusRefusal record.decision.status) ()) fun _ =>
        checkAuthority id bound (w.state.isFenced bound.backendId bound.backendBoot)

def rebuiltRequest (stored : RouteRecord) : RouteRequest where
  requestId := stored.decision.requestId
  requestGeneration := stored.decision.requestGeneration
  tenant := stored.tenant
  nameSpace := stored.nameSpace
  policyId := stored.decision.authority.policyId
  policyGeneration := stored.decision.authority.policyGeneration
  budgetId := stored.decision.authority.budgetId
  budgetGeneration := stored.decision.authority.budgetGeneration
  sloId := stored.decision.authority.sloId
  sloGeneration := stored.decision.authority.sloGeneration
  expiresAtUnixMillis := stored.decision.authority.expiresAtUnixMillis

def dispatchFrame (request : RouteRequest) (snapshot : Snapshot) : Frame where
  request := request
  policy := snapshot.policy
  budget := snapshot.budget
  weights := snapshot.weights
  scales := snapshot.scales
  continuity := snapshot.continuity
  now := snapshot.now

def handedRecord (answer : DispatchRecord) (id : RouteDecisionId) (stored : RouteRecord)
    (target : CandidateKey) (now : UnixMillis) : DispatchRecord :=
  let record :=
    { answer with
      decisionId := id
      decisionGeneration := stored.decision.decisionGeneration
      target := target
      revalidated := true
      dispatchedAtUnixMillis :=
        if answer.dispatchedAtUnixMillis = 0 then now else answer.dispatchedAtUnixMillis }
  if record.code = .dispatched ∨ record.code = .accepted then
    { record with code := .dispatched, handedOff := true }
  else
    { record with
      handedOff := false
      failure := if record.failure = .unknown then classifyFailure record.code else record.failure }

section

variable (options : ModelRouterOptions)

def handOff (id : RouteDecisionId) (stored : RouteRecord) (snapshot : Snapshot)
    (target : CandidateKey) : Operation DispatchRecord := do
  let e ← ask
  let late ← ask
  let answer := e.adapters.handoff stored.decision stored.plan snapshot.context
  let record := handedRecord answer id stored target late.now
  if record.code ≠ .dispatched then return record
  else do
    let w ← perform (.recordDispatch id snapshot.epoch snapshot.coordinatorEpoch record)
    return dispatchRecorded w id snapshot.epoch snapshot.coordinatorEpoch record

/-- The re-evaluation of the target that `dispatch` performs after revalidation. -/
def reevaluate (id : RouteDecisionId) (stored : RouteRecord) (base : DispatchRecord) :
    Operation DispatchRecord := do
  let e ← ask
  let w ← perform .observe
  let snapshot := Snapshot.capture w.state stored.tenant stored.nameSpace e.now
  let request := rebuiltRequest stored
  let u ← perform .observe
  match catalogCandidate u.state stored.plan.primary.modelId stored.plan.primary.backendId with
  | none =>
    return { base with
      code := .rejectStaleBackend
      failure := .staleRoute
      detail := "bound candidate identity no longer exists" }
  | some candidate =>
    if candidate.key ≠ stored.plan.primary then
      return { base with
        code := .rejectStaleBackendBoot
        failure := .backendRestarted
        detail := "bound candidate identity is not the current incarnation" }
    else do
      let evidence ← resolve options request snapshot candidate
      let verdict :=
        evaluateHardEligibility ((dispatchFrame request snapshot).input candidate evidence)
      let late ← ask
      if !verdict.eligible then
        return { base with
          code := verdict.code
          failure := classifyFailure verdict.code
          detail := verdict.detail
          dispatchedAtUnixMillis := late.now }
      else if !options.providers.dispatcher then
        return { base with
          code := .rejectInvalid
          failure := .unknown
          detail := "no dispatch handler is configured"
          dispatchedAtUnixMillis := late.now }
      else handOff id stored snapshot candidate.key

def dispatch (id : RouteDecisionId) (callerTenant : TenantId) (callerNamespace : NamespaceId) :
    Operation DispatchRecord := do
  let start : DispatchRecord := { decisionId := id }
  let w ← perform .observe
  if w.state.shuttingDown then
    return { start with
      code := .shuttingDown
      detail := "router is shutting down and cannot dispatch" }
  else match w.state.routes.find? id with
    | none =>
      return { start with code := .rejectInvalid, detail := "route decision is not retained" }
    | some stored =>
      let base :=
        { start with
          decisionGeneration := stored.decision.decisionGeneration
          target := stored.plan.primary }
      proceed (fun reason => { base with code := reason.1, detail := reason.2 })
        (guarded (callerRefusal stored.tenant callerTenant stored.nameSpace callerNamespace) ())
        fun _ => do
          let revalidated ← revalidate id callerTenant callerNamespace
          if !revalidated.accepted then do
            let e ← ask
            return { base with
              code := revalidated.code
              failure := classifyFailure revalidated.code
              detail := revalidated.explanation.message
              revalidated := true
              dispatchedAtUnixMillis := e.now }
          else reevaluate options id stored { base with revalidated := true }

end

end ModelRouter.Dispatch
