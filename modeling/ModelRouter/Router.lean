import ModelRouter.Lifecycle
import ModelRouter.Reroute

namespace ModelRouter.Router

open Base Bytes Ids Outcome Evidence Request Decision Persistence Mutations Commit Providers Section

/-- The public operations that may change a router. -/
inductive Op where
  | mutation (m : Mutation)
  | start
  | shutdown
  | save (path : Text)
  | load (path : Text)
  | route (request : RouteRequest)
  | revalidate (id : RouteDecisionId) (callerTenant : TenantId) (callerNamespace : NamespaceId)
  | dispatch (id : RouteDecisionId) (callerTenant : TenantId) (callerNamespace : NamespaceId)
  | recordCompletion (completion : CompletionRecord)
  | reroute (id : RouteDecisionId) (failure : FailureClass) (request : RouteRequest)

inductive Reply where
  | mutation (result : MutationResult)
  | persistence (result : PersistenceResult)
  | route (outcome : RouteOutcome)
  | dispatch (record : DispatchRecord)

def Reply.accepted : Reply → Bool
  | mutation result => result.accepted
  | persistence result => result.ok
  | route outcome => outcome.code.isAcceptance
  | dispatch record => record.code.isAcceptance

def recordCompletion (completion : CompletionRecord) : Operation MutationResult := do
  let w ← perform (.recordCompletion completion)
  return (Handoff.recordCompletion w.state completion).2

namespace Op

def program (options : ModelRouterOptions) : Op → Operation Reply
  | mutation (.updateCapacity evidence detail) =>
    Reply.mutation <$> Lifecycle.updateCapacity evidence detail
  | mutation m => Reply.mutation <$> Lifecycle.mutation m
  | start => Reply.mutation <$> Lifecycle.start options
  | shutdown => Reply.mutation <$> Lifecycle.shutdown options
  | save path => Reply.persistence <$> Lifecycle.save path
  | load path => Reply.persistence <$> Lifecycle.load path
  | route request => Reply.route <$> Route.route options request
  | revalidate id callerTenant callerNamespace =>
    Reply.mutation <$> Dispatch.revalidate id callerTenant callerNamespace
  | dispatch id callerTenant callerNamespace =>
    Reply.dispatch <$> Dispatch.dispatch options id callerTenant callerNamespace
  | recordCompletion completion => Reply.mutation <$> Router.recordCompletion completion
  | reroute id failure request => Reply.route <$> Reroute.reroute options id failure request

end Op

end ModelRouter.Router
