import ModelRouter.Admission
import ModelRouter.Base.Ledger
import ModelRouter.Base.Tally
import ModelRouter.Rechecks
import ModelRouter.Saved

namespace ModelRouter.Accounting

open Base Base.Program Base.Refusal Bytes Ids Outcome Capability Candidate Request Decision
open Persistence State Mutations CatalogMutation EvidenceMutation Commit Handoff Recovery Providers
open Section Pass Route Dispatch
open Reroute Router Effects MutationFacts Run Repertoire Durability Saved

/-- Every request has been counted as a decision or as a rejection, and every fallback that was
taken as a decision. -/
def Balanced (c : PersistenceCounters) : Prop :=
  c.routeRequests + c.fallbacksTaken = c.routeDecisions + c.routeRejections

def handed : Act → World → Nat
  | .recordDispatch id epoch coordinatorEpoch _, w =>
    if recordsDispatch w.state id epoch coordinatorEpoch then 1 else 0
  | _, _ => 0

def decided : Act → World → Nat
  | .commit draft, w => if (commitRefusal draft w.state).isNone then 1 else 0
  | _, _ => 0

/-- What a section does to the counters it finds. -/
structure Counted (k : Act) (w : World) (c c' : PersistenceCounters) : Prop where
  dispatches : c'.dispatches = c.dispatches + UInt64.ofNat (handed k w)
  decisions : c'.routeDecisions = c.routeDecisions + UInt64.ofNat (decided k w)
  balance : c'.routeRequests + c'.fallbacksTaken + (c.routeDecisions + c.routeRejections) =
    c'.routeDecisions + c'.routeRejections + (c.routeRequests + c.fallbacksTaken)

section

variable {k : Act} {w : World} {c c' : PersistenceCounters}

theorem Counted.of_same (hhanded : handed k w = 0) (hdecided : decided k w = 0) (h : c' = c) :
    Counted k w c c' := by
  rw [h]
  refine ⟨?_, ?_, add_comm _ _⟩
  · rw [hhanded]
    exact (add_zero _).symm
  · rw [hdecided]
    exact (add_zero _).symm

theorem editRoute_counters (s : CanonicalState) (id : RouteDecisionId)
    (edit : RouteRecord → RouteRecord) : (editRoute s id edit).counters = s.counters := by
  unfold editRoute
  cases s.routes.find? id <;> rfl

theorem commit_counted (draft : CommitDraft) (w : World) :
    Counted (.commit draft) w w.state.counters (commitSection draft w).1.state.counters := by
  unfold commitSection
  cases hrefusal : commitRefusal draft w.state with
  | some refusal => exact .of_same rfl (by simp [decided, hrefusal]) rfl
  | none =>
      have hdecided : decided (.commit draft) w = 1 := by simp [decided, hrefusal]
      dsimp only
      rw [Admission.noteTenant_counters]
      change Counted _ w w.state.counters (countCommit draft.kind w.state.counters)
      cases draft.kind with
      | route =>
          refine ⟨(add_zero _).symm, by rw [hdecided]; rfl, ?_⟩
          simp only [countCommit]
          grind
      | fallback =>
          refine ⟨(add_zero _).symm, by rw [hdecided]; rfl, ?_⟩
          simp only [countCommit]
          grind

theorem recordDispatch_counted (w : World) (id : RouteDecisionId) (epoch : RouterEpoch)
    (coordinatorEpoch : CoordinatorEpoch) (record : DispatchRecord) :
    Counted (.recordDispatch id epoch coordinatorEpoch record) w w.state.counters
      (Handoff.recordDispatch w id epoch coordinatorEpoch record).state.counters := by
  unfold Handoff.recordDispatch
  by_cases hrecords : recordsDispatch w.state id epoch coordinatorEpoch = true
  · have hhanded : handed (.recordDispatch id epoch coordinatorEpoch record) w = 1 := by
      rw [handed, if_pos hrecords]
    rw [if_pos hrecords]
    dsimp only
    rw [editRoute_counters]
    refine ⟨?_, (add_zero _).symm, ?_⟩
    · rw [hhanded]
      rfl
    · exact add_comm _ _
  · rw [if_neg hrecords]
    exact .of_same (by rw [handed, if_neg hrecords]) rfl rfl

theorem apply_counted (hk : imports k = false) (w : World) :
    Counted k w w.state.counters (k.apply w).state.counters := by
  cases k with
  | importState canonical => cases hk
  | commit draft => exact commit_counted draft w
  | recordDispatch id epoch coordinatorEpoch record =>
      exact recordDispatch_counted w id epoch coordinatorEpoch record
  | observe => exact .of_same rfl rfl rfl
  | allocate => exact .of_same rfl rfl rfl
  | store path persisted => exact .of_same rfl rfl rfl
  | mutate m now =>
      exact .of_same rfl rfl (congrArg Control.counters (next_control m now w.state))
  | writeCapacityDetail detail =>
      exact .of_same rfl rfl (congrArg Control.counters (editBackend_frame w.state _ _).1)
  | admitStart =>
      refine .of_same rfl rfl ?_
      change (admitStart w.state).counters = _
      unfold admitStart
      split <;> rfl
  | publish now =>
      refine .of_same rfl rfl ?_
      change (publish w.state now).counters = _
      unfold publish
      split <;> rfl
  | beginShutdown =>
      refine .of_same rfl rfl ?_
      change (beginShutdown w.state).counters = _
      unfold beginShutdown
      split <;> rfl
  | rejectRoute tenant rejected =>
      change Counted _ w w.state.counters (rejectRoute w.state tenant rejected).counters
      rw [rejectRoute, Admission.noteTenant_counters]
      refine ⟨(add_zero _).symm, (add_zero _).symm, ?_⟩
      dsimp only
      grind
  | markStale id => exact .of_same rfl rfl (editRoute_counters w.state id _)
  | finishRevalidate id bound comparisonCurrent now =>
      refine .of_same rfl rfl ?_
      change (finishRevalidate w.state id bound comparisonCurrent now).counters = _
      unfold finishRevalidate
      split
      · exact editRoute_counters w.state id _
      · exact editRoute_counters w.state id _
  | recordCompletion completion =>
      refine .of_same rfl rfl ?_
      change (Handoff.recordCompletion w.state completion).1.counters = _
      unfold Handoff.recordCompletion
      split <;> rfl
  | supersede id now fresh =>
      change Counted _ w w.state.counters (supersede w.state id now fresh).counters
      unfold supersede
      cases fresh with
      | false => exact .of_same rfl rfl (editRoute_counters w.state id _)
      | true =>
          dsimp only
          rw [if_pos rfl, editRoute_counters]
          exact ⟨(add_zero _).symm, (add_zero _).symm, add_comm _ _⟩

end

def Sane (w : World) : Prop :=
  Balanced w.state.counters

section

variable {E : Env → Prop} {options : ModelRouterOptions} {highest : UInt64}
variable {schedule : List (Choice Op Env)}

end

def told (record : DispatchRecord) : Nat :=
  if record.code = .dispatched then 1 else 0

/-- The decisions the outcome of a pass returns. -/
def returned (outcome : RouteOutcome) : Nat :=
  if outcome.hasDecision then 1 else 0

def handoffs : Reply → Nat
  | .dispatch record => told record
  | _ => 0

def decisions : Reply → Nat
  | .route outcome => returned outcome
  | _ => 0

section

variable {α β : Type} {E : Env → Prop} {weight : Act → World → Nat} {worth : α → Nat} {n : Nat}

end

section

variable {E : Env → Prop} (options : ModelRouterOptions)

variable {options}

end

def counts : Act → Bool
  | .commit _ | .recordDispatch _ _ _ _ => true
  | _ => false

def tells : Op → Bool
  | .route _ | .dispatch _ _ _ | .reroute _ _ _ => true
  | _ => false

/-- The calls that may commit decisions they do not return. -/
def reroutes : Op → Bool
  | .reroute _ _ _ => true
  | _ => false

section

variable {E : Env → Prop} {weight : Act → World → Nat} {worth : Reply → Nat} {op : Op}
variable (options : ModelRouterOptions)

end

section

/-- The result of a program that is done. -/
def result {α : Type} : Operation α → Option α
  | .done a => some a
  | _ => none

end

end ModelRouter.Accounting
