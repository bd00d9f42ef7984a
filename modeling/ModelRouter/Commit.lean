import ModelRouter.State

namespace ModelRouter.Commit

open Base Base.Refusal Bytes Ids Outcome Capability Limits Candidate Authority Decision State

/-- The canonical state together with the process-wide identity source. -/
structure World where
  state : CanonicalState := {}
  highestIssued : UInt64 := 0

/-- Which of the two operations commits: a routing pass, or a reroute to one fallback. -/
inductive CommitKind where
  | route | fallback
deriving DecidableEq

namespace CommitKind

def subject : CommitKind → Text
  | route => "route" | fallback => "reroute"

def shuttingDownMessage : CommitKind → Text
  | route => "router began shutting down before the route could be committed"
  | fallback => "router is shutting down"

def epochMessage : CommitKind → Text
  | route => "router epoch advanced before the route could be committed"
  | fallback => "router epoch advanced before the reroute could be committed"

end CommitKind

/-- What an operation brings to its commit section. -/
structure CommitDraft where
  kind : CommitKind
  epoch : RouterEpoch
  coordinatorEpoch : CoordinatorEpoch
  decision : RouteDecision
  plan : RoutePlan
  tenant : TenantId
  nameSpace : NamespaceId
  winner : CandidateKey
  now : UnixMillis
  eligible : UInt32
  rejected : UInt32

def victims (maxRouteHistory : Nat) : List RouteDecisionId → List RouteDecisionId
  | [] => []
  | victim :: rest =>
    if rest.length + 1 ≥ maxRouteHistory then victim :: victims maxRouteHistory rest else []

def evicted (kind : CommitKind) (s : CanonicalState) : List RouteDecisionId :=
  if kind = .route ∧ s.routes.size < s.limits.maxRouteHistory.toNat then []
  else victims s.limits.maxRouteHistory.toNat s.routeOrder

def evict (kind : CommitKind) (s : CanonicalState) : CanonicalState :=
  { s with
    routes := (evicted kind s).foldl OrderedMap.erase s.routes
    routeOrder := s.routeOrder.drop (evicted kind s).length }

/-- The comparison a commit makes; an identity that is gone leaves no difference to report. -/
def commitComparison (s : CanonicalState) (bound : RouteAuthority) : AuthorityComparison :=
  match buildCurrentAuthority s bound with
  | some observed => compareAuthority bound observed bound.requiredMask
  | none => { code := .rejectStaleBackend }

def nameDecision (authority : RouteAuthority) (id : RouteDecisionId) : RouteAuthority :=
  { authority with decisionId := id, decisionGeneration := ⟨1⟩ }

def boundDecision (s : CanonicalState) (draft : CommitDraft) (id : RouteDecisionId) :
    RouteDecision :=
  let authority := nameDecision draft.decision.authority id
  let current := (commitComparison s authority).current
  let explanation := { draft.decision.explanation with authority := authority }
  let explanation :=
    if current then explanation
    else { explanation with currentness := .stale, revalidationRequired := true }
  { draft.decision with
    decisionId := id
    decisionGeneration := ⟨1⟩
    authority := authority
    status := if current then draft.decision.status else .stale
    explanation := { explanation with semanticDigest := explanation.computeSemanticDigest } }

def committedRecord (draft : CommitDraft) (decision : RouteDecision) (planId : RoutePlanId) :
    RouteRecord where
  decision := decision
  plan :=
    { draft.plan with
      planId := planId
      planGeneration := ⟨1⟩
      decisionId := decision.decisionId
      decisionGeneration := decision.decisionGeneration }
  tenant := draft.tenant
  nameSpace := draft.nameSpace

def countCommit (kind : CommitKind) (c : Persistence.PersistenceCounters) :
    Persistence.PersistenceCounters :=
  match kind with
  | .route => { c with routeRequests := c.routeRequests + 1, routeDecisions := c.routeDecisions + 1 }
  | .fallback =>
    { c with
      routeDecisions := c.routeDecisions + 1
      reroutes := c.reroutes + 1
      fallbacksTaken := c.fallbacksTaken + 1 }

/-- `routes.emplace` followed by the check of the one record found under the identity. -/
def insertRecord (s : CanonicalState) (record : RouteRecord) (now : UnixMillis) : CanonicalState :=
  let id := record.decision.decisionId
  let held := ((s.routes.find? id).getD record)
  { s with
    routes := s.routes.insert id (staleDecisionIfNotDispatchable s now held)
    routeOrder := s.routeOrder ++ [id] }

/-- What a commit section reports back. -/
structure CommitReply where
  refusal : Option (OutcomeCode × Text) := none
  decision : RouteDecision := {}
  committedCurrent : Bool := false

def commitRefusal (draft : CommitDraft) (s : CanonicalState) : Option (OutcomeCode × Text) :=
  refuse s.shuttingDown (.shuttingDown, draft.kind.shuttingDownMessage) <|>
  refuse (s.routerEpoch != draft.epoch || s.coordinatorEpoch != draft.coordinatorEpoch)
    (.rejectStaleRouterEpoch, draft.kind.epochMessage)

/-- The identity the next allocation hands out. -/
def World.nextId (w : World) : UInt64 :=
  (allocatorNext w.highestIssued).1

def World.allocate (w : World) : World :=
  { w with highestIssued := (allocatorNext w.highestIssued).2 }

def commitSection (draft : CommitDraft) (w : World) : World × CommitReply :=
  match commitRefusal draft w.state with
  | some refusal => (w, { refusal := some refusal })
  | none =>
    let kept := evict draft.kind w.state
    let decision := boundDecision kept draft ⟨w.nextId⟩
    let record := committedRecord draft decision ⟨w.allocate.nextId⟩
    let inserted := insertRecord kept record draft.now
    let stored := inserted.routes.find? decision.decisionId
    let counted :=
      { inserted with
        counters := countCommit draft.kind inserted.counters
        lastEligible := draft.eligible
        lastRejected := draft.rejected
        lastWinnerByTenant := inserted.lastWinnerByTenant.insert draft.tenant draft.winner.backendId }
    ({ state := counted.noteTenant draft.tenant, highestIssued := w.allocate.allocate.highestIssued },
      { decision := decision
        committedCurrent := (commitComparison kept decision.authority).current &&
          stored.any fun record => record.decision.status == .current })

end ModelRouter.Commit
