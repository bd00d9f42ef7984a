import ModelRouter.Authority
import ModelRouter.Candidate
import ModelRouter.Request

namespace ModelRouter.Decision

open Bytes Ids Outcome Capability Evidence Request Authority Candidate Sha256

inductive RouteStatus where
  | current | superseded | stale | dispatched | completed | failed | cancelled
deriving DecidableEq, Repr, Inhabited

def RouteStatus.name : RouteStatus → Text
  | .current => "CURRENT" | .superseded => "SUPERSEDED" | .stale => "STALE"
  | .dispatched => "DISPATCHED" | .completed => "COMPLETED" | .failed => "FAILED"
  | .cancelled => "CANCELLED"

structure RouteExplanation where
  requestId : RouteRequestId := {}
  requestGeneration : RouteRequestGeneration := {}
  winner : CandidateKey := {}
  eligibleCandidateCount : UInt32 := 0
  rejectedCandidateCount : UInt32 := 0
  rejections : List RouteRejection := []
  ranking : List RankedCandidate := []
  tieBreakReason : Text := []
  authority : RouteAuthority := {}
  cost : CostEvidence := {}
  slo : SloEvidence := {}
  budget : BudgetSnapshot := {}
  policy : PolicySnapshot := {}
  policyResult : OutcomeCode := .accepted
  fallbackOrder : List CandidateKey := []
  currentness : Currentness := .current
  revalidationRequired : Bool := false
  detailRetained : Bool := true
  requirementDigest : Text := []
  semanticDigest : Text := []
deriving DecidableEq, Repr

def appendU64 (value : UInt64) : Text :=
  (List.range 8).map fun index => (value >>> (index * 8).toUInt64).toUInt8

def digestedGenerations (a : RouteAuthority) : List UInt64 :=
  [a.routerEpoch.value, a.coordinatorEpoch.value, a.modelGeneration.value,
    a.artifactGeneration.value, a.backendGeneration.value, a.backendBoot.value,
    a.endpointGeneration.value, a.capabilityGeneration.value, a.policyGeneration.value,
    a.budgetGeneration.value, a.priceGeneration.value, a.sloGeneration.value,
    a.compatibilityGeneration.value, a.trustGeneration.value, a.healthGeneration.value,
    a.availabilityGeneration.value, a.readinessGeneration.value,
    a.residencyGeneration.value, a.capacityGeneration.value, a.reservationGeneration.value]

def numberRanks (rank : Nat) : List RankedCandidate → List RankedCandidate
  | [] => []
  | candidate :: rest => { candidate with rank := rank.toUInt32 } :: numberRanks (rank + 1) rest

def sortFactors (factors : List FactorValue) : List FactorValue :=
  stableSort (fun a b => (a.factor.ctorIdx < b.factor.ctorIdx)) factors

namespace RouteExplanation

def rankedText (candidate : RankedCandidate) : Text :=
  candidate.key.render ++ text ":" ++ appendU64 (UInt64.ofInt candidate.score) ++ text ":" ++
    appendU64 candidate.rank.toUInt64 ++ text ":" ++
    candidate.factors.flatMap (fun factor =>
      factor.factor.ctorIdx.toUInt8 :: (if factor.known then text "1" else text "0")) ++
    text "|"

def rejectionText (rejection : RouteRejection) : Text :=
  appendU64 rejection.modelId ++ text "/" ++ appendU64 rejection.modelGeneration.value ++
    text "/" ++ appendU64 rejection.backendId ++ text "/" ++
    appendU64 rejection.backendBoot.value ++ text "/" ++
    rejection.code.ctorIdx.toUInt8 :: text ";"

def computeSemanticDigest (e : RouteExplanation) : Text :=
  hexDigest
    (e.requirementDigest ++ text "|" ++ e.winner.render ++ text "|" ++
      e.ranking.flatMap rankedText ++ e.rejections.flatMap rejectionText ++ text "|" ++
      e.fallbackOrder.flatMap (fun key => key.render ++ text ";") ++ text "|" ++
      (digestedGenerations e.authority).flatMap (fun value => appendU64 value ++ text ","))

def canonicalize (e : RouteExplanation) : RouteExplanation :=
  { e with
    rejections := stableSort RouteRejection.canonicalLess e.rejections
    ranking := (numberRanks 1 (stableSort candidateRanksBefore e.ranking)).map fun candidate =>
      { candidate with factors := sortFactors candidate.factors } }

end RouteExplanation

structure RouteDecision where
  decisionId : RouteDecisionId := {}
  decisionGeneration : RouteDecisionGeneration := {}
  requestId : RouteRequestId := {}
  requestGeneration : RouteRequestGeneration := {}
  status : RouteStatus := .current
  code : OutcomeCode := .routed
  authority : RouteAuthority := {}
  explanation : RouteExplanation := {}
  fallbacks : List CandidateKey := []
  dispatchGeneration : DispatchGeneration := {}
  dispatchId : DispatchId := {}
  reservation : ReservationEvidence := {}
  createdAtUnixMillis : UnixMillis := 0
  supersededAtUnixMillis : UnixMillis := 0
deriving DecidableEq, Repr

structure DispatchConstraints where
  requireRevalidation : Bool := true
  requireReservation : Bool := false
  maxAttempts : UInt32 := 2
  maxFallbacks : UInt32 := 2
  dispatchDeadlineUnixMillis : UnixMillis := kNoExpiry
deriving DecidableEq, Repr

structure RoutePlan where
  planId : RoutePlanId := {}
  planGeneration : RoutePlanGeneration := {}
  decisionId : RouteDecisionId := {}
  decisionGeneration : RouteDecisionGeneration := {}
  primary : CandidateKey := {}
  fallbacks : List CandidateKey := []
  authority : RouteAuthority := {}
  constraints : DispatchConstraints := {}
  retryPolicy : RetryReroutePolicy := {}
  fallbackPolicy : FallbackPolicy := .explicitOnly
  createdAtUnixMillis : UnixMillis := 0
  expiresAtUnixMillis : UnixMillis := kNoExpiry
deriving DecidableEq, Repr

/-- The result of a dispatch handoff attempt. -/
structure DispatchRecord where
  dispatchId : DispatchId := {}
  dispatchGeneration : DispatchGeneration := {}
  decisionId : RouteDecisionId := {}
  decisionGeneration : RouteDecisionGeneration := {}
  target : CandidateKey := {}
  code : OutcomeCode := .internalError
  failure : FailureClass := .unknown
  revalidation : AuthorityComparison := {}
  revalidated : Bool := false
  handedOff : Bool := false
  dispatchedAtUnixMillis : UnixMillis := 0
  detail : Text := []
deriving DecidableEq, Repr

/-- The observed completion of a dispatched route. -/
structure CompletionRecord where
  dispatchId : DispatchId := {}
  decisionId : RouteDecisionId := {}
  code : OutcomeCode := .internalError
  failure : FailureClass := .unknown
  observedLatencyMicros : UInt32 := 0
  observedTimeToFirstTokenMicros : UInt32 := 0
  observedAtUnixMillis : UnixMillis := 0
  detail : Text := []
deriving DecidableEq, Repr

structure RouteOutcome where
  code : OutcomeCode := .internalError
  explanation : Explanation := {}
  route : RouteExplanation := {}
  decision : RouteDecision := {}
  hasDecision : Bool := false
deriving DecidableEq, Repr

def RouteOutcome.make (code : OutcomeCode) (subject message : Text) : RouteOutcome where
  code := code
  explanation := buildExplanation code subject message []

end ModelRouter.Decision
