import ModelRouter.Recovery
import ModelRouter.Rendering

namespace ModelRouter.Summaries

open Base Base.Json Bytes Ids Outcome Capability Evidence Catalog Candidate Authority Decision
open Persistence State Recovery Sha256 Rendering

structure BackendSummary where
  backendId : BackendId := {}
  backendGeneration : BackendGeneration := {}
  backendBoot : BackendBootId := {}
  providerId : ProviderId := {}
  endpointId : EndpointId := {}
  endpointGeneration : EndpointGeneration := {}
  trustDomain : TrustDomain := .unknown
  locality : LocalityKey := []
  health : HealthState := .unknown
  availability : AvailabilityState := .unknown
  readiness : ReadinessState := .unknown
  residency : ResidencyState := .unknown
  capacity : CapacityState := .unknown
  boundModelCount : UInt32 := 0
  fenced : Bool := false
  evidenceCurrent : Bool := false
  priceKnown : Bool := false
  provenance : Provenance := .synthetic

/-- One retained route decision as seen in a snapshot. -/
structure RouteSummary where
  decisionId : RouteDecisionId := {}
  decisionGeneration : RouteDecisionGeneration := {}
  requestId : RouteRequestId := {}
  winner : CandidateKey := {}
  status : RouteStatus := .current
  code : OutcomeCode := .routed
  currentness : Currentness := .current
  fallbackCount : UInt32 := 0
  createdAtUnixMillis : UnixMillis := 0
  semanticDigest : Text := []

structure RouterSnapshot where
  routerId : RouterId := {}
  routerGeneration : RouterGeneration := {}
  routerEpoch : RouterEpoch := {}
  coordinatorEpoch : CoordinatorEpoch := {}
  routerBoot : RouterBootId := {}
  policyGeneration : PolicyGeneration := {}
  priceGeneration : PriceGeneration := {}
  budgetGeneration : BudgetGeneration := {}
  sloGeneration : SLOGeneration := {}
  capabilityGeneration : CapabilityGeneration := {}
  modelCount : UInt32 := 0
  backendCount : UInt32 := 0
  fencedBootCount : UInt32 := 0
  routeDecisionCount : UInt32 := 0
  tenantCount : UInt32 := 0
  backends : List BackendSummary := []
  routes : List RouteSummary := []
  currentness : Currentness := .current
  shuttingDown : Bool := false
  takenAtUnixMillis : UnixMillis := 0
  semanticDigest : Text := []

structure RouterSummary where
  routerId : RouterId := {}
  routerGeneration : RouterGeneration := {}
  routerEpoch : RouterEpoch := {}
  coordinatorEpoch : CoordinatorEpoch := {}
  routerBoot : RouterBootId := {}
  modelCount : UInt32 := 0
  providerCount : UInt32 := 0
  backendCount : UInt32 := 0
  fencedBootCount : UInt32 := 0
  routeDecisionCount : UInt32 := 0
  tenantCount : UInt32 := 0
  eligibleLastRequest : UInt32 := 0
  rejectedLastRequest : UInt32 := 0
  counters : PersistenceCounters := {}
  policyGeneration : PolicyGeneration := {}
  priceGeneration : PriceGeneration := {}
  budgetGeneration : BudgetGeneration := {}
  sloGeneration : SLOGeneration := {}
  capabilityGeneration : CapabilityGeneration := {}
  running : Bool := false
  shuttingDown : Bool := false
  recovered : Bool := false
  startedAtUnixMillis : UnixMillis := 0
  semanticDigest : Text := []

section

variable (s : CanonicalState) (now : UnixMillis)

def summarizeBackend (backend : BackendDescriptor) : BackendSummary where
  backendId := backend.backendId
  backendGeneration := backend.backendGeneration
  backendBoot := backend.backendBoot
  providerId := backend.providerId
  endpointId := backend.endpoint.endpointId
  endpointGeneration := backend.endpoint.endpointGeneration
  trustDomain := backend.trustDomain
  locality := backend.locality
  health := backend.health.state
  availability := backend.availability.state
  readiness := backend.readiness.state
  residency := backend.residency.state
  capacity := backend.capacity.state
  boundModelCount := backend.modelBindings.length.toUInt32
  fenced := s.fencedBoots.contains ⟨backend.backendId, backend.backendBoot⟩
  evidenceCurrent := backend.health.generation.valid && backend.availability.generation.valid &&
    backend.readiness.generation.valid && !backend.health.expired now &&
    !backend.availability.expired now && !backend.readiness.expired now
  priceKnown := !backend.modelBindings.isEmpty &&
    backend.modelBindings.all fun binding => binding.cost.known && binding.cost.current now
  provenance := backend.provenance

def summarizeRoute (record : RouteRecord) : RouteSummary where
  decisionId := record.decision.decisionId
  decisionGeneration := record.decision.decisionGeneration
  requestId := record.decision.requestId
  winner := record.plan.primary
  status := record.decision.status
  code := record.decision.code
  currentness := record.decision.explanation.currentness
  fallbackCount := record.decision.fallbacks.length.toUInt32
  createdAtUnixMillis := record.decision.createdAtUnixMillis
  semanticDigest := record.decision.explanation.semanticDigest

def highestCapability : CapabilityGeneration :=
  highest (s.backends.values.map BackendDescriptor.capabilityGeneration)

def highestPrice : PriceGeneration :=
  highest (s.backends.values.flatMap fun backend =>
    backend.modelBindings.map fun binding => binding.cost.priceGeneration)

def backendDigestText (backend : BackendSummary) : Text :=
  decimal backend.backendId.value.toNat ++ decimal backend.backendBoot.value.toNat ++
    decimal backend.health.ctorIdx ++ decimal backend.availability.ctorIdx ++
    decimal backend.readiness.ctorIdx

def routeDigestText (route : RouteSummary) : Text :=
  decimal route.decisionId.value.toNat ++ decimal route.status.ctorIdx ++ route.semanticDigest

def snapshotDigest (snapshot : RouterSnapshot) : Text :=
  hexDigest
    (decimal snapshot.routerId.value.toNat ++ decimal snapshot.routerEpoch.value.toNat ++
      decimal snapshot.coordinatorEpoch.value.toNat ++
      decimal snapshot.policyGeneration.value.toNat ++
      decimal snapshot.priceGeneration.value.toNat ++
      snapshot.backends.flatMap backendDigestText ++ snapshot.routes.flatMap routeDigestText)

def snapshot : RouterSnapshot :=
  let taken : RouterSnapshot :=
    { routerId := s.routerId
      routerGeneration := s.routerGeneration
      routerEpoch := s.routerEpoch
      coordinatorEpoch := s.coordinatorEpoch
      routerBoot := s.routerBoot
      policyGeneration := s.policy.generation
      priceGeneration := highestPrice s
      budgetGeneration := s.budget.generation
      sloGeneration := s.slo.generation
      capabilityGeneration := highestCapability s
      modelCount := s.models.size.toUInt32
      backendCount := s.backends.size.toUInt32
      fencedBootCount := s.fencedBoots.size.toUInt32
      routeDecisionCount := s.routes.size.toUInt32
      tenantCount := s.tenants.size.toUInt32
      backends := s.backends.values.map (summarizeBackend s now)
      routes := s.routes.values.map summarizeRoute
      currentness := if s.recovered then .reconstructed else .current
      shuttingDown := s.shuttingDown
      takenAtUnixMillis := now }
  { taken with semanticDigest := snapshotDigest taken }

def summaryDigest (summary : RouterSummary) : Text :=
  hexDigest
    (decimal summary.routerId.value.toNat ++ decimal summary.routerEpoch.value.toNat ++
      decimal summary.coordinatorEpoch.value.toNat ++ decimal summary.modelCount.toNat ++
      decimal summary.backendCount.toNat ++ decimal summary.routeDecisionCount.toNat ++
      decimal summary.fencedBootCount.toNat)

def summary : RouterSummary :=
  let taken : RouterSummary :=
    { routerId := s.routerId
      routerGeneration := s.routerGeneration
      routerEpoch := s.routerEpoch
      coordinatorEpoch := s.coordinatorEpoch
      routerBoot := s.routerBoot
      modelCount := s.models.size.toUInt32
      providerCount := s.providers.size.toUInt32
      backendCount := s.backends.size.toUInt32
      fencedBootCount := s.fencedBoots.size.toUInt32
      routeDecisionCount := s.routes.size.toUInt32
      tenantCount := s.tenants.size.toUInt32
      eligibleLastRequest := s.lastEligible
      rejectedLastRequest := s.lastRejected
      counters := s.counters
      policyGeneration := s.policy.generation
      priceGeneration := highestPrice s
      budgetGeneration := s.budget.generation
      sloGeneration := s.slo.generation
      capabilityGeneration := highestCapability s
      running := s.running
      shuttingDown := s.shuttingDown
      recovered := s.recovered
      startedAtUnixMillis := s.startedAtUnixMillis }
  { taken with semanticDigest := summaryDigest taken }

end

section

def summaryJson (r : RouterSummary) : Text :=
  text "\x7b\"router_id\":" ++ decimal r.routerId.value.toNat ++ text ",\"router_epoch\":" ++
    decimal r.routerEpoch.value.toNat ++ text ",\"coordinator_epoch\":" ++
    decimal r.coordinatorEpoch.value.toNat ++ text ",\"router_boot\":" ++
    decimal r.routerBoot.value.toNat ++ text ",\"running\":" ++ flagText r.running ++
    text ",\"shutting_down\":" ++ flagText r.shuttingDown ++ text ",\"recovered\":" ++
    flagText r.recovered ++ text ",\"counts\":\x7b\"models\":" ++ decimal r.modelCount.toNat ++
    text ",\"providers\":" ++ decimal r.providerCount.toNat ++ text ",\"backends\":" ++
    decimal r.backendCount.toNat ++ text ",\"fenced_boots\":" ++
    decimal r.fencedBootCount.toNat ++ text ",\"decisions\":" ++
    decimal r.routeDecisionCount.toNat ++ text ",\"tenants\":" ++ decimal r.tenantCount.toNat ++
    text "\x7d,\"generations\":\x7b\"policy\":" ++ decimal r.policyGeneration.value.toNat ++
    text ",\"price\":" ++ decimal r.priceGeneration.value.toNat ++ text ",\"budget\":" ++
    decimal r.budgetGeneration.value.toNat ++ text ",\"slo\":" ++
    decimal r.sloGeneration.value.toNat ++ text ",\"capability\":" ++
    decimal r.capabilityGeneration.value.toNat ++ text "\x7d,\"counters\":\x7b\"requests\":" ++
    decimal r.counters.routeRequests.toNat ++ text ",\"decisions\":" ++
    decimal r.counters.routeDecisions.toNat ++ text ",\"dispatches\":" ++
    decimal r.counters.dispatches.toNat ++ text ",\"rejections\":" ++
    decimal r.counters.routeRejections.toNat ++ text ",\"reroutes\":" ++
    decimal r.counters.reroutes.toNat ++ text ",\"fallbacks\":" ++
    decimal r.counters.fallbacksTaken.toNat ++ text "\x7d,\"semantic_digest\":\"" ++
    r.semanticDigest ++ text "\"\x7d"

def summaryTree (r : RouterSummary) : Value :=
  .object
    [("router_id", number r.routerId.value.toNat),
      ("router_epoch", number r.routerEpoch.value.toNat),
      ("coordinator_epoch", number r.coordinatorEpoch.value.toNat),
      ("router_boot", number r.routerBoot.value.toNat), ("running", .flag r.running),
      ("shutting_down", .flag r.shuttingDown), ("recovered", .flag r.recovered),
      ("counts", .object
        [("models", number r.modelCount.toNat), ("providers", number r.providerCount.toNat),
          ("backends", number r.backendCount.toNat),
          ("fenced_boots", number r.fencedBootCount.toNat),
          ("decisions", number r.routeDecisionCount.toNat),
          ("tenants", number r.tenantCount.toNat)]),
      ("generations", .object
        [("policy", number r.policyGeneration.value.toNat),
          ("price", number r.priceGeneration.value.toNat),
          ("budget", number r.budgetGeneration.value.toNat),
          ("slo", number r.sloGeneration.value.toNat),
          ("capability", number r.capabilityGeneration.value.toNat)]),
      ("counters", .object
        [("requests", number r.counters.routeRequests.toNat),
          ("decisions", number r.counters.routeDecisions.toNat),
          ("dispatches", number r.counters.dispatches.toNat),
          ("rejections", number r.counters.routeRejections.toNat),
          ("reroutes", number r.counters.reroutes.toNat),
          ("fallbacks", number r.counters.fallbacksTaken.toNat)]),
      ("semantic_digest", .string r.semanticDigest)]

end

section

set_option maxRecDepth 8192 in
theorem summaryJson_eq {r : RouterSummary} (h : escaping.Plain r.semanticDigest) :
    summaryJson r = escaping.print (summaryTree r) := by
  have hdigest := escaping.string_plain h
  unfold summaryJson summaryTree
  simp only [Escaping.print, Escaping.printMembers, hdigest, flagText_eq, decimal_number,
    List.append_assoc, List.cons_append, List.nil_append]
  rfl

theorem hexDigest_plain (canonical : Text) : escaping.Plain (hexDigest canonical) := by
  rw [hexDigest]
  exact toHex_plain _

theorem summaryJson_reads (s : CanonicalState) :
    read (summaryJson (summary s)) = some (summaryTree (summary s)) := by
  have hdigest : escaping.Plain (summary s).semanticDigest := hexDigest_plain _
  rw [summaryJson_eq hdigest]
  exact escaping.read_print _

end

end ModelRouter.Summaries
