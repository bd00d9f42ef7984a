import Mathlib.Algebra.Group.Nat.Defs
import ModelRouter.Base.Program
import ModelRouter.Handoff
import ModelRouter.Mutations
import ModelRouter.Providers
import ModelRouter.Recovery

namespace ModelRouter.Section

open Base Bytes Ids Outcome Capability Evidence Authority Decision Persistence State Mutations
open EvidenceMutation Commit Handoff Recovery Providers

/-- The critical sections of the public operations. -/
inductive Act where
  | observe
  | allocate
  | mutate (m : Mutation) (now : UnixMillis)
  | writeCapacityDetail (detail : CapacityDetail)
  | admitStart
  | publish (now : UnixMillis)
  | importState (canonical : RouterPersistentState)
  | beginShutdown
  | rejectRoute (tenant : TenantId) (rejected : UInt32)
  | commit (draft : CommitDraft)
  | markStale (id : RouteDecisionId)
  | finishRevalidate (id : RouteDecisionId) (bound : RouteAuthority) (comparisonCurrent : Bool)
      (now : UnixMillis)
  | recordDispatch (id : RouteDecisionId) (epoch : RouterEpoch)
      (coordinatorEpoch : CoordinatorEpoch) (record : DispatchRecord)
  | recordCompletion (completion : CompletionRecord)
  | supersede (id : RouteDecisionId) (now : UnixMillis) (fresh : Bool)
  | store (path : Text) (persisted : RouterPersistentState)

/-- The first section of `start`: a router that is not running is no longer shutting down. -/
def admitStart (s : CanonicalState) : CanonicalState :=
  if s.running then s else { s with shuttingDown := false }

def publish (s : CanonicalState) (now : UnixMillis) : CanonicalState :=
  if s.running then s
  else
    { s with
      routerBoot := s.routerBoot.next
      routerEpoch := s.routerEpoch.next
      coordinatorEpoch := s.coordinatorEpoch.next
      running := true
      shuttingDown := false
      startedAtUnixMillis := now }

def withdrawCurrent (record : RouteRecord) : RouteRecord :=
  if record.decision.status = .current then
    { record with decision := { record.decision with status := .stale } }
  else record

/-- The first section of `shutdown`. -/
def beginShutdown (s : CanonicalState) : CanonicalState :=
  if !s.running && !s.shuttingDown then s
  else
    { s with
      shuttingDown := true
      routes := s.routes.map fun _ record => withdrawCurrent record
      running := false }

def rejectRoute (s : CanonicalState) (tenant : TenantId) (rejected : UInt32) : CanonicalState :=
  { s with
    counters :=
      { s.counters with
        routeRequests := s.counters.routeRequests + 1
        routeRejections := s.counters.routeRejections + 1 }
    lastEligible := 0
    lastRejected := rejected }.noteTenant tenant

def onState (w : World) (edit : CanonicalState → CanonicalState) : World :=
  { w with state := edit w.state }

namespace Act

/-- What a section does to the world it finds. -/
def apply : Act → World → World
  | observe, w => w
  | allocate, w => w.allocate
  | mutate m now, w => onState w (m.next now)
  | writeCapacityDetail detail, w => onState w (EvidenceMutation.writeCapacityDetail · detail)
  | admitStart, w => onState w Section.admitStart
  | publish now, w => onState w (Section.publish · now)
  | importState canonical, w => importSection canonical w
  | beginShutdown, w => onState w Section.beginShutdown
  | rejectRoute tenant rejected, w => onState w (Section.rejectRoute · tenant rejected)
  | commit draft, w => (commitSection draft w).1
  | markStale id, w => onState w (Handoff.markStale · id)
  | finishRevalidate id bound comparisonCurrent now, w =>
    onState w (Handoff.finishRevalidate · id bound comparisonCurrent now)
  | recordDispatch id epoch coordinatorEpoch record, w =>
    Handoff.recordDispatch w id epoch coordinatorEpoch record
  | recordCompletion completion, w => onState w fun s => (Handoff.recordCompletion s completion).1
  | supersede id now fresh, w => onState w (Handoff.supersede · id now fresh)
  | store _ _, w => w

end Act

/-- A public operation as a tree of sections and questions to the surroundings. -/
abbrev Operation := Program World Act Env

def perform (k : Act) : Operation World :=
  .act k .done

def ask : Operation Env :=
  .ask .done

/-- The world a router with these options starts from. -/
def World.fresh (options : ModelRouterOptions) (highestIssued : UInt64) : World :=
  let issued := allocatorNext highestIssued
  { state :=
      { limits := options.limits
        weights := options.weights
        scales := options.scales
        routerId := if options.routerId.valid then options.routerId else ⟨issued.1⟩
        routerGeneration :=
          if options.routerGeneration.valid then options.routerGeneration else ⟨1⟩ }
    highestIssued := if options.routerId.valid then highestIssued else issued.2 }

end ModelRouter.Section
