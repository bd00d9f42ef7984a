import ModelRouter.Commit

namespace ModelRouter.Handoff

open Base Bytes Ids Outcome Capability Request Authority Decision State Commit

def editRoute (s : CanonicalState) (id : RouteDecisionId) (edit : RouteRecord → RouteRecord) :
    CanonicalState :=
  match s.routes.find? id with
  | none => s
  | some record => { s with routes := s.routes.insert id (edit record) }

def markStale (s : CanonicalState) (id : RouteDecisionId) : CanonicalState :=
  editRoute s id RouteRecord.markStale

def markCurrent (record : RouteRecord) : RouteRecord :=
  { record with
    decision := { record.decision with
      status := .current
      explanation := { record.decision.explanation with
        currentness := .current
        revalidationRequired := false } } }

/-- The last section of `revalidate`, for an authority whose comparison was taken before. -/
def finishRevalidate (s : CanonicalState) (id : RouteDecisionId) (bound : RouteAuthority)
    (comparisonCurrent : Bool) (now : UnixMillis) : CanonicalState :=
  if comparisonCurrent ∧ dispatchabilityReason s bound now = .accepted then
    editRoute s id markCurrent
  else markStale s id

def markDispatched (dispatch : DispatchRecord) (record : RouteRecord) : RouteRecord :=
  { record with
    decision := { record.decision with
      status := .dispatched
      dispatchId := dispatch.dispatchId
      dispatchGeneration := dispatch.dispatchGeneration } }

def dispatchRecorded (w : World) (id : RouteDecisionId) (epoch : RouterEpoch)
    (coordinatorEpoch : CoordinatorEpoch) (record : DispatchRecord) : DispatchRecord :=
  if !w.state.routes.contains id then
    { record with
      code := .rejectInvalid
      detail := "route decision disappeared before the dispatch could be recorded" }
  else if w.state.routerEpoch ≠ epoch ∨ w.state.coordinatorEpoch ≠ coordinatorEpoch then
    { record with
      code := .rejectStaleRouterEpoch
      failure := .staleRoute
      handedOff := false
      detail := "router epoch advanced during the dispatch handoff" }
  else { record with dispatchId := ⟨w.nextId⟩, dispatchGeneration := ⟨1⟩ }

def recordsDispatch (s : CanonicalState) (id : RouteDecisionId) (epoch : RouterEpoch)
    (coordinatorEpoch : CoordinatorEpoch) : Bool :=
  s.routes.contains id && s.routerEpoch == epoch && s.coordinatorEpoch == coordinatorEpoch

def recordDispatch (w : World) (id : RouteDecisionId) (epoch : RouterEpoch)
    (coordinatorEpoch : CoordinatorEpoch) (record : DispatchRecord) : World :=
  if recordsDispatch w.state id epoch coordinatorEpoch then
    let recorded := dispatchRecorded w id epoch coordinatorEpoch record
    let edited := editRoute w.state id (markDispatched recorded)
    { w.allocate with
      state :=
        { edited with
          dispatches := edited.dispatches.insert id recorded
          dispatchIndex := edited.dispatchIndex.insert recorded.dispatchId id
          counters := { edited.counters with dispatches := edited.counters.dispatches + 1 } } }
  else w

def completionTarget (s : CanonicalState) (completion : CompletionRecord) :
    Option RouteDecisionId :=
  if completion.dispatchId.valid then s.dispatchIndex.find? completion.dispatchId
  else some completion.decisionId

def completionStatus (completion : CompletionRecord) : RouteStatus :=
  if completion.code = .completed ∨ completion.code = .accepted then .completed else .failed

def completionOutcome (completion : CompletionRecord) : OutcomeCode :=
  if completion.code = .completed ∨ completion.code = .accepted then .completed else .failed

def completable (s : CanonicalState) (completion : CompletionRecord) :
    Except MutationResult (RouteDecisionId × RouteRecord) :=
  match completionTarget s completion with
  | none =>
    .error (.make .rejectInvalid "record_completion" "dispatch identity is not retained")
  | some id =>
    match s.routes.find? id with
    | none => .error (.make .rejectInvalid "record_completion" "route decision is not retained")
    | some record =>
      if record.decision.status ≠ .dispatched then
        .error (.make .rejectConflict "record_completion" "route decision was not dispatched")
      else .ok (id, record)

def recordCompletion (s : CanonicalState) (completion : CompletionRecord) :
    CanonicalState × MutationResult :=
  match completable s completion with
  | .error result => (s, result)
  | .ok (id, record) =>
    let dispatches := match s.dispatches.find? id with
      | none => s.dispatches
      | some dispatch =>
        s.dispatches.insert id
          { dispatch with code := completion.code, failure := completion.failure }
    ({ s with
        routes := s.routes.insert id
          { record with
            decision := { record.decision with status := completionStatus completion } }
        dispatches := dispatches },
      { code := completionOutcome completion
        explanation := buildExplanation (completionOutcome completion) "record_completion" []
          [.u64 "decision_id" id.value, ⟨"failure", completion.failure.name⟩,
            .u64 "observed_latency_micros" completion.observedLatencyMicros.toUInt64] })

/-- The section of `reroute` that supersedes the old decision; after a fresh pass it also
counts the reroute. -/
def supersede (s : CanonicalState) (id : RouteDecisionId) (now : UnixMillis) (fresh : Bool) :
    CanonicalState :=
  let superseded := editRoute s id fun record =>
    { record with
      decision := { record.decision with status := .superseded, supersededAtUnixMillis := now } }
  if fresh then
    { superseded with
      counters := { superseded.counters with reroutes := superseded.counters.reroutes + 1 } }
  else superseded

end ModelRouter.Handoff
