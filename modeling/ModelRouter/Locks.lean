import ModelRouter.Router

namespace ModelRouter.Locks

open Base Base.Program Base.Refusal Bytes Ids Outcome Capability Evidence Candidate Request Policy
open Decision Persistence State CatalogMutation Mutations Commit Handoff Recovery Providers Section
open Pass Route Dispatch Reroute Lifecycle Router

/-- How a scope holds the canonical mutex. -/
inductive Mode where
  | shared | exclusive
deriving DecidableEq

/-- What a call does with the canonical mutex, and the sections it performs. -/
inductive LockStep where
  | acquire (mode : Mode)
  | release
  | inside (k : Act)

def LockStep.apply : LockStep → World → World
  | .inside k, w => k.apply w
  | _, w => w

abbrev Locked := Program World LockStep Env

variable {α : Type}

def lockStep (step : LockStep) : Locked World :=
  .act step .done

/-- A block that holds the mutex from its first line until it is left, on whatever path. -/
def holding (mode : Mode) (body : Locked α) : Locked α := do
  let _found ← lockStep (.acquire mode)
  let result ← body
  let _left ← lockStep .release
  return result

def askSurroundings : Locked Env :=
  .ask .done

def goOn {β : Type} (stop : Stop → α) (x : Except Stop β) (next : β → Locked α) : Locked α :=
  match x with
  | .error reason => .done (stop reason)
  | .ok value => next value

section

def identified {σ : Type} {t : Tag} (evidence : BackendEvidence σ t) : Bool :=
  evidence.backendId.valid && evidence.backendBoot.valid && evidence.generation.valid

def checked : Mutation → Bool
  | .registerModel model => model.validate.isNone
  | .registerProvider provider => provider.providerId.valid && provider.generation.valid
  | .registerBackend backend => backend.canonicalize.validate.isNone
  | .unregisterBackend _ _ | .retireModel _ _ => true
  | .fenceBackendBoot backendId _ backendBoot _ => backendId.valid && backendBoot.valid
  | .publishCapabilities publication =>
    publication.backendId.valid && publication.backendBoot.valid && publication.generation.valid
  | .updateHealth evidence => identified evidence
  | .updateAvailability evidence => identified evidence
  | .updateReadiness evidence => identified evidence
  | .updateResidency evidence => identified evidence
  | .updateCapacity evidence detail =>
    !(detail.backendId.valid && detail.backendId != evidence.backendId) &&
      !(detail.backendBoot.valid && detail.backendBoot != evidence.backendBoot) &&
      identified evidence
  | .updateLatency evidence => evidence.backendId.valid && evidence.backendBoot.valid
  | .setPolicy policy => policy.canonicalize.validate.isNone
  | .setBudget budget => budget.generation.valid
  | .setSlo slo => slo.generation.valid
  | .setCompatibility evidence => evidence.backendId.valid && evidence.generation.valid
  | .setTrust evidence =>
    evidence.profileId.valid && evidence.generation.valid && evidence.backendId.valid
  | .setCost evidence =>
    evidence.priceGeneration.valid && evidence.backendId.valid && evidence.modelId.valid &&
      !(evidence.knownness != .unknown && !evidence.unit.valid) &&
      !(evidence.estimatedTotalMicros < 0)

end

/-- The scope a section has in the function that performs it; `none` where it has none: identities
come from a process-wide counter, the store is written outside the mutex. -/
def usual : Act → Option Mode
  | .observe => some .shared
  | .allocate | .store _ _ => none
  | .mutate m _ => if checked m then some .exclusive else none
  | _ => some .exclusive

/-- The same in functions that read a part of the canonical state without the mutex. -/
def unguarded : Act → Option Mode
  | .observe => none
  | k => usual k

/-- An operation each of whose sections is a scope of its own: what it calls inside of one takes
no lock. -/
def inScopes (scope : Act → Option Mode) : Operation α → Locked α
  | .done a => .done a
  | .act k next =>
    match scope k with
    | some mode => holding mode (lockStep (.inside k)) >>= fun w => inScopes scope (next w)
    | none => .act (.inside k) fun w => inScopes scope (next w)
  | .ask next => .ask fun e => inScopes scope (next e)

/-- `export_persistent_state` takes the mutex for itself, whoever calls it. -/
def exportPersistentState (read : Locked World) (now : UnixMillis) : Locked RouterPersistentState :=
  holding .shared do
    let w ← read
    return Recovery.exportPersistentState w now

def importPersistentState (persisted : RouterPersistentState) : Locked MutationResult :=
  inScopes unguarded (Lifecycle.importPersistentState persisted)

def shutDown (persisted : Bool) : Locked MutationResult :=
  holding .exclusive do
    let w ← lockStep (.inside .observe)
    return shutdownResult w.state persisted

section

variable (options : ModelRouterOptions)

def start : Locked MutationResult :=
  inScopes unguarded (Lifecycle.start options)

/-- The first scope of `shutdown`: nothing on a router that is not running, otherwise the state
found and the durable image, if it is to be saved. -/
def stopRouting (now : UnixMillis) : Locked (Option (World × Option RouterPersistentState)) :=
  holding .exclusive do
    let w ← lockStep (.inside .beginShutdown)
    if !w.state.running && !w.state.shuttingDown then return none
    else if options.saveOnShutdown && !options.persistencePath.isEmpty then do
      -- the exclusive scope is still open
      let persisted ← exportPersistentState (return onState w beginShutdown) now
      return some (w, some persisted)
    else return some (w, none)

def shutdown : Locked MutationResult := do
  let e ← askSurroundings
  let stopped ← stopRouting options e.now
  match stopped with
  | none => return .make .noChange "shutdown" "router is not running"
  | some (_, none) => shutDown false
  | some (w, some persisted) => do
    let saved ←
      inScopes usual (writeState persisted options.persistencePath w.state.limits)
    if !saved.ok then
      return reject .internalError "shutdown"
        (text "durable state could not be saved: " ++ saved.detail)
    else shutDown true

def save (path : Text) : Locked PersistenceResult := do
  let e ← askSurroundings
  let persisted ← exportPersistentState (lockStep (.inside .observe)) e.now
  let u ← holding .shared (lockStep (.inside .observe))
  inScopes usual (writeState persisted path u.state.limits)

def load (path : Text) : Locked PersistenceResult := do
  let w ← holding .shared (lockStep (.inside .observe))
  let e ← askSurroundings
  let loaded := e.load path w.state.limits
  if !loaded.ok then return { code := loaded.code, detail := loaded.detail }
  else do
    let imported ← importPersistentState loaded.state
    if !imported.accepted then
      return { code := imported.code, detail := imported.explanation.message }
    else
      return {
        code := loaded.code
        detail := text "records=" ++ decimal loaded.recordCount.toNat }

/-- The walk of `reroute`; a fallback is committed with the identity of the router read without
the mutex. -/
def tryFallbacks (id : RouteDecisionId) (request : RouteRequest) (snapshot : Snapshot)
    (governing : Governing) (planned : List CandidateKey) (permitted : UInt32) :
    List CandidateKey → Locked (Option RouteOutcome)
  | [] => return none
  | key :: rest => do
    let w ← holding .shared (lockStep (.inside .observe))
    match (catalogCandidate w.state key.modelId key.backendId).filter (·.key = key) with
    | none => tryFallbacks id request snapshot governing planned permitted rest
    | some candidate => do
      let evidence ← inScopes usual (resolve options request snapshot candidate)
      let outcome ← inScopes unguarded
        (commitSingleCandidate request snapshot governing candidate evidence planned permitted)
      if outcome.code = .routed then do
        let _found ← holding .exclusive (lockStep (.inside (.supersede id snapshot.now false)))
        return some outcome
      else tryFallbacks id request snapshot governing planned permitted rest

def reroute (id : RouteDecisionId) (failure : FailureClass) (raw : RouteRequest) :
    Locked RouteOutcome := do
  let request ← inScopes usual (identify raw)
  let e ← askSurroundings
  let w ← holding .shared (lockStep (.inside .observe))
  match w.state.routes.find? id with
  | none => return rerouteStopped (.rejectInvalid, "route decision is not retained")
  | some stored =>
    let snapshot := Snapshot.capture w.state stored.tenant stored.nameSpace e.now
    goOn rerouteStopped
      (guarded
        (stopIf w.state.shuttingDown .shuttingDown "router is shutting down" <|>
          rerouteRefusal stored request e.now) ()) fun _ => do
      let answer ← inScopes usual (consult options.providers.policy snapshot.policy fun adapters =>
        adapters.policy request.policyId request.policyGeneration snapshot.context)
      goOn rerouteStopped answer fun fetched => do
        let policy := fetched.canonicalize
        goOn rerouteStopped
          (guarded (reroutePolicyRefusal policy request stored failure e.now) ()) fun _ => do
          let fallback ← tryFallbacks options id request snapshot
            ⟨policy, snapshot.budget, snapshot.slo⟩ stored.plan.fallbacks
            (permittedFallbacks request policy snapshot.limits) stored.plan.fallbacks
          match fallback with
          | some outcome => return outcome
          | none => inScopes usual (rerouteFresh options id request e.now)

/-- The public operations that may change a router, with their scopes. -/
def operation : Op → Locked Reply
  | .start => Reply.mutation <$> start options
  | .shutdown => Reply.mutation <$> shutdown options
  | .save path => Reply.persistence <$> save path
  | .load path => Reply.persistence <$> load path
  | .reroute id failure request => Reply.route <$> reroute options id failure request
  | op => inScopes usual (op.program options)

end

/-- The public operations that only read a router. -/
inductive Inspection where
  | running | shuttingDown
  | snapshot | summary | checkInvariants
  | findModel (modelId : ModelId) | findBackend (backendId : BackendId)
  | findDecision (id : RouteDecisionId)
  | routeHistory | fencedBoots | explainRoute (id : RouteDecisionId)
  | routerId | routerEpoch | coordinatorEpoch | routerBoot

def inspect : Inspection → Locked World
  | .snapshot | .checkInvariants => do
    let _clock ← askSurroundings
    holding .shared (lockStep (.inside .observe))
  | _ => holding .shared (lockStep (.inside .observe))

/-- A call of any public operation. -/
inductive Call where
  | operation (op : Op)
  | inspection (read : Inspection)

inductive Answer where
  | reply (reply : Reply)
  | found (w : World)

def Call.locked (options : ModelRouterOptions) : Call → Locked Answer
  | .operation op => Answer.reply <$> Locks.operation options op
  | .inspection read => Answer.found <$> inspect read

/-- What a call knows of its own hold on the canonical mutex. -/
inductive Mutex where
  | free | shared | exclusive
deriving DecidableEq

def Mode.held : Mode → Mutex
  | .shared => .shared
  | .exclusive => .exclusive

/-- The mutex is not recursive: a call that holds it and acquires it again waits for itself. -/
def Mutex.step : Mutex → LockStep → Option Mutex
  | .free, .acquire mode => some mode.held
  | _, .acquire _ => none
  | .free, .release => none
  | _, .release => some .free
  | m, .inside _ => some m

end ModelRouter.Locks
