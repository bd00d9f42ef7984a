import ModelRouter.Section

namespace ModelRouter.Lifecycle

open Base Base.Refusal Bytes Ids Outcome Capability Limits Persistence State CatalogMutation
open Mutations EvidenceMutation Commit Recovery Providers Section

def mutation (m : Mutation) : Operation MutationResult := do
  let e ← ask
  let w ← perform (.mutate m e.now)
  return m.result e.now w.state

/-- `update_capacity`: after an accepted first pass the detail is written in a second one. -/
def updateCapacity (evidence : Evidence.CapacityEvidence) (detail : Evidence.CapacityDetail) :
    Operation MutationResult := do
  let result ← mutation (.updateCapacity evidence detail)
  if result.accepted then do
    let _found ← perform (.writeCapacityDetail detail)
    return result
  else return result

def importPersistentState (persisted : RouterPersistentState) : Operation MutationResult := do
  let w ← perform .observe
  match persisted.canonicalize.validate w.state.limits with
  | some error => return reject .rejectInvalid "load" error
  | none => do
    let u ← perform (.importState persisted.canonicalize)
    return importResult persisted.canonicalize u

def publishResult (s : CanonicalState) : MutationResult :=
  .accept "start" "router identity published; dynamic evidence requires fresh publication"
    [.u64 "router_id" s.routerId.value, .u64 "router_generation" s.routerGeneration.value,
      .u64 "router_epoch" s.routerEpoch.value,
      .u64 "coordinator_epoch" s.coordinatorEpoch.value,
      .u64 "router_boot" s.routerBoot.value, .bool "recovered" s.recovered]

def alreadyRunning : MutationResult :=
  .make .noChange "start" "router is already running"

def publishRouter : Operation MutationResult := do
  let e ← ask
  let w ← perform (.publish e.now)
  if w.state.running then return alreadyRunning
  else return publishResult (Section.publish w.state e.now)

section

variable (options : ModelRouterOptions)

/-- The durable state `start` loads before it takes the lock, if it is told to. -/
def loadOnStart : Operation (Option PersistenceLoad) :=
  if options.loadOnStart && !options.persistencePath.isEmpty then do
    let w ← perform .observe
    let e ← ask
    return some (e.load options.persistencePath w.state.limits)
  else return none

/-- `start` after the first section, on a router that was not running. A failed load stops it
only when it comes with a detail. -/
def admitted (loaded : Option PersistenceLoad) : Operation MutationResult :=
  match loaded with
  | none => publishRouter
  | some load =>
    if load.ok then do
      let imported ← importPersistentState load.state
      if imported.accepted then publishRouter else return imported
    else if load.detail.isEmpty then publishRouter
    else
      return reject load.code "start"
        (text "durable state could not be loaded: " ++ load.detail)

def start : Operation MutationResult :=
  match options.validate with
  | some error =>
    return reject .rejectInvalid "start" (text "router options are invalid: " ++ error)
  | none => do
    let loaded ← loadOnStart options
    let w ← perform .admitStart
    if w.state.running then return alreadyRunning else admitted loaded

def shutdownResult (s : CanonicalState) (persisted : Bool) : MutationResult :=
  .accept "shutdown" "router stopped accepting route requests"
    [.u64 "router_epoch" s.routerEpoch.value, .bool "persisted" persisted]

def writeState (persisted : RouterPersistentState) (path : Text) (limits : ResourceLimits) :
    Operation PersistenceResult := do
  let e ← ask
  let saved := e.save persisted path limits
  if saved.ok then do
    let _found ← perform (.store path persisted)
    return saved
  else return saved

def shutdownImage (w : World) (now : UnixMillis) : RouterPersistentState :=
  exportPersistentState (onState w beginShutdown) now

def shutdown : Operation MutationResult := do
  let e ← ask
  let w ← perform .beginShutdown
  if !w.state.running && !w.state.shuttingDown then
    return .make .noChange "shutdown" "router is not running"
  else if options.saveOnShutdown && !options.persistencePath.isEmpty then do
    let saved ← writeState (shutdownImage w e.now) options.persistencePath w.state.limits
    if !saved.ok then
      return reject .internalError "shutdown"
        (text "durable state could not be saved: " ++ saved.detail)
    else do
      let u ← perform .observe
      return shutdownResult u.state true
  else do
    let u ← perform .observe
    return shutdownResult u.state false

end

def save (path : Text) : Operation PersistenceResult := do
  let e ← ask
  let w ← perform .observe
  let u ← perform .observe
  writeState (exportPersistentState w e.now) path u.state.limits

def load (path : Text) : Operation PersistenceResult := do
  let w ← perform .observe
  let e ← ask
  let loaded := e.load path w.state.limits
  if !loaded.ok then return { code := loaded.code, detail := loaded.detail }
  else do
    let imported ← importPersistentState loaded.state
    if !imported.accepted then
      return { code := imported.code, detail := imported.explanation.message }
    else
      return {
        code := loaded.code
        detail := text "records=" ++ decimal loaded.recordCount.toNat }

end ModelRouter.Lifecycle
