import ModelRouter.Messages
import ModelRouter.Router

namespace ModelRouter.Coordinator

open Base Bytes Ids Outcome Evidence Catalog Candidate Request Decision State Mutations Commit
open Providers Section Router Messages

abbrev SessionId := Nat

abbrev LinkId := Nat

structure BackendLink where
  backendId : BackendId
  backendGeneration : BackendGeneration
  backendBoot : BackendBootId
  connection : SessionId
  results : OrderedMap DispatchId DispatchResultMessage := {}
  closed : Bool := false

namespace BackendLink

def incarnation (link : BackendLink) : FenceKey :=
  ⟨link.backendId, link.backendBoot⟩

def answers (link : BackendLink) (id : DispatchId) : Bool :=
  link.closed || link.results.contains id

def close (link : BackendLink) : BackendLink :=
  { link with closed := true }

def put (link : BackendLink) (message : DispatchResultMessage) : BackendLink :=
  { link with results := link.results.insert message.dispatchId message }

def take (link : BackendLink) (id : DispatchId) : BackendLink :=
  { link with results := link.results.erase id }

end BackendLink

/-- An operation of the router that a frame may lead to. -/
inductive Call where
  | mutation (m : Mutation)
  | route (request : RouteRequest)
  | revalidate (id : RouteDecisionId)
  | dispatch (id : RouteDecisionId)
  | reroute (id : RouteDecisionId) (failure : FailureClass) (request : RouteRequest)
  | save (path : Text)
  | load (path : Text)

def Call.op : Call → Op
  | mutation m => .mutation m
  | route request => .route request
  | revalidate id => .revalidate id {} {}
  | dispatch id => .dispatch id {} {}
  | reroute id failure request => .reroute id failure request
  | save path => .save path
  | load path => .load path

/-- A received frame. Which operations an admin request leads to is left open. -/
inductive Inbound where
  | hello
  | backendRegister (message : BackendRegisterMessage)
  | capabilityPublish (message : CapabilityPublishMessage)
  | healthUpdate (evidence : HealthEvidence)
  | availabilityUpdate (evidence : AvailabilityEvidence)
  | readinessUpdate (evidence : ReadinessEvidence)
  | residencyUpdate (evidence : ResidencyEvidence)
  | capacityUpdate (evidence : CapacityEvidence) (detail : CapacityDetail)
  | latencyUpdate (evidence : LatencyEvidence)
  | costUpdate (evidence : CostEvidence)
  | routeRequest (message : RouteRequestMessage)
  | dispatchResult (message : DispatchResultMessage)
  | adminRequest (request : AdminRequest) (calls : List Call)
  | ping
  | bye
  | snapshotRequest
  | unreadable

/-- Where the thread of a session stands in `serve` and `handle_frame`. -/
inductive Stage where
  | receiving
  | registering (backend : BackendDescriptor)
  | installing (backend : BackendDescriptor)
  | calling (pending : Operation Unit)
  | awaiting (link : LinkId) (id : DispatchId) (pending : Operation Unit)
  | delivering (link : LinkId) (message : DispatchResultMessage)
  | replying
  | resolving (keepGoing : Bool)
  | closing
  | waking (link : LinkId)
  | erasing (link : LinkId)
  | fencing (link : LinkId)
  | ended

def Stage.open : Stage → Bool
  | closing | waking _ | erasing _ | fencing _ | ended => false
  | _ => true

def Stage.isEnded : Stage → Bool
  | ended => true
  | _ => false

/-- One run of `serve`, with its local variable `link`. -/
structure Session where
  link : Option LinkId := none
  stage : Stage := .receiving

/-- A connection: open, closed by either side, or given up by its thread over a frame that does not
decode, which leaves it with the counter of the listener. -/
inductive Connection where
  | open | closed | broken
deriving DecidableEq

namespace Connection

def close : Connection → Connection
  | broken => broken
  | _ => closed

/-- Whether `counter->active` of the listener still includes the connection. -/
def counted : Connection → Bool
  | closed => false
  | _ => true

end Connection

/-- Where the accept thread stands in `accept_loop`. -/
inductive Loop where
  | checking
  | accepting
  | ended
deriving DecidableEq

/-- Where the caller of `stop` stands. -/
inductive Stop where
  | standing
  | joining
  | waking (links : List LinkId)
  | waiting
  | shutting (pending : Operation MutationResult)
  | stopped

/-- The coordinator with the sessions it ever served, their connections and the links it ever made;
`threads` is `sessions_` and `active` the counter of the listener. -/
structure State where
  router : World
  links : OrderedMap BackendId LinkId := {}
  made : List BackendLink := []
  sessions : List Session := []
  connections : List Connection := []
  threads : List SessionId := []
  active : Nat := 0
  loop : Loop := .checking
  stopping : Bool := false
  stop : Stop := .standing

/-- One step of one of the threads. A connection that arrives is as its own thread has left it by the
time `sessions_` is looked at. -/
inductive Move where
  | check
  | accept (arrival : Option Connection)
  | lose (c : SessionId) (broken : Bool)
  | receive (c : SessionId) (input : Option Inbound)
  | advance (c : SessionId) (e : Env)
  | handoff (c : SessionId) (target : CandidateKey) (sent : Bool)
  | reply (c : SessionId) (sent : Bool)
  | stop
  | advanceStop (e : Env)

namespace State

variable (options : ModelRouterOptions) (s : State)

def onSession (c : SessionId) (f : Session → Session) : State :=
  { s with sessions := s.sessions.modify c f }

def enter (c : SessionId) (stage : Stage) : State :=
  s.onSession c fun session => { session with stage := stage }

def edit (l : LinkId) (f : BackendLink → BackendLink) : State :=
  { s with made := s.made.modify l f }

/-- `mark_closed` on the connection of a session: the first time, the listener counts one less. -/
def hangUp (c : SessionId) : State :=
  if s.connections[c]? = some .open then
    { s with connections := s.connections.set c .closed, active := s.active - 1 }
  else s

/-- The thread of a connection gives it up over a frame, without `mark_closed`. -/
def giveUp (c : SessionId) : State :=
  if s.connections[c]? = some .open then
    { s with connections := s.connections.set c .broken }
  else s

def resolve (c : SessionId) : Option LinkId :=
  s.links.values.find? fun l => (s.made[l]?).any fun link => link.connection = c

def callAll : List Call → Operation Unit
  | [] => pure ()
  | call :: calls => do
    let _reply ← call.op.program options
    callAll calls

def call (c : SessionId) (calls : List Call) : State :=
  s.enter c (.calling (callAll options calls))

def mutate (c : SessionId) (m : Mutation) : State :=
  s.call options c [.mutation m]

def handleFrame (c : SessionId) : Inbound → State
  | .backendRegister message => s.enter c (.registering message.backend)
  | .capabilityPublish message => s.mutate options c (.publishCapabilities message.publication)
  | .healthUpdate evidence => s.mutate options c (.updateHealth evidence)
  | .availabilityUpdate evidence => s.mutate options c (.updateAvailability evidence)
  | .readinessUpdate evidence => s.mutate options c (.updateReadiness evidence)
  | .residencyUpdate evidence => s.mutate options c (.updateResidency evidence)
  | .capacityUpdate evidence detail => s.mutate options c (.updateCapacity evidence detail)
  | .latencyUpdate evidence => s.mutate options c (.updateLatency evidence)
  | .costUpdate evidence => s.mutate options c (.setCost evidence)
  | .routeRequest message => s.call options c [.route message.request]
  | .dispatchResult message =>
    match s.resolve c with
    | some l => s.enter c (.delivering l message)
    | none => s.enter c (.resolving true)
  | .adminRequest request calls =>
    { s with stopping := s.stopping || request.op = AdminOp.shutdown }.call options c calls
  | .bye => s.enter c (.resolving false)
  | .hello | .ping | .snapshotRequest | .unreadable => s.enter c .replying

def registration (backend : BackendDescriptor) (e : Env) : MutationResult :=
  (Mutation.registerBackend backend).result e.now s.router.state

def onRouter (k : Act) : State :=
  { s with router := k.apply s.router }

def install (c : SessionId) (backend : BackendDescriptor) : State :=
  { s with
    links := s.links.insert backend.backendId s.made.length
    made := s.made ++
      [{ backendId := backend.backendId
         backendGeneration := backend.backendGeneration
         backendBoot := backend.backendBoot
         connection := c }] }

def eraseLink (l : LinkId) : State :=
  match s.made[l]? with
  | some link => { s with links := s.links.erase link.backendId }
  | none => s

def fenceLink (l : LinkId) (e : Env) : State :=
  match s.made[l]? with
  | some link =>
    s.onRouter (.mutate
      (.fenceBackendBoot link.backendId link.backendGeneration link.backendBoot .fenced) e.now)
  | none => s

def callStep (c : SessionId) (e : Env) : Operation Unit → State
  | .done _ => s.enter c .replying
  | .act k next => (s.onRouter k).enter c (.calling (next s.router))
  | .ask next => s.enter c (.calling (next e))

/-- The end of an iteration of the loop of `serve`: the link is resolved lazily. -/
def resolveLink (c : SessionId) (keepGoing : Bool) : State :=
  s.onSession c fun session =>
    { link := session.link <|> s.resolve c
      stage := if keepGoing then .receiving else .closing }

def advance (c : SessionId) (session : Session) (e : Env) : State :=
  match session.stage with
  | .registering backend =>
    (s.onRouter (.mutate (.registerBackend backend) e.now)).enter c
      (if (s.registration backend e).accepted then .installing backend else .replying)
  | .installing backend => (s.install c backend).enter c .replying
  | .calling pending => s.callStep c e pending
  | .awaiting l id pending =>
    if (s.made[l]?).any (·.answers id) then
      (s.edit l (·.take id)).enter c (.calling pending)
    else s
  | .delivering l message => (s.edit l (·.put message)).enter c (.resolving true)
  | .resolving keepGoing => s.resolveLink c keepGoing
  | .closing =>
    match session.link with
    | some l => (s.hangUp c).enter c (.waking l)
    | none => (s.hangUp c).enter c .ended
  | .waking l => (s.edit l BackendLink.close).enter c (.erasing l)
  | .erasing l => (s.eraseLink l).enter c (.fencing l)
  | .fencing l => (s.fenceLink l e).enter c .ended
  | .receiving | .replying | .ended => s

/-- `Dispatcher::handoff` up to its wait, by a thread whose operation asks its surroundings. -/
def handoff (c : SessionId) (target : CandidateKey) (sent : Bool) (pending : Operation Unit) :
    State :=
  match s.links.find? target.backendId with
  | none => s
  | some l =>
    if (s.made[l]?).any fun link => link.backendBoot = target.backendBoot then
      let asked := s.onRouter .allocate
      if sent then asked.enter c (.awaiting l ⟨s.router.nextId⟩ pending) else asked
    else s

/-- A connection that `accept_loop` obtained: served, or closed where `sessions_` is full. -/
def admitSession (arrival : Connection) : State :=
  if s.threads.length ≥ options.limits.maxSessionThreads.toNat then
    { s with active := s.active + arrival.close.counted.toNat }
  else
    { s with
      sessions := s.sessions ++ [{}]
      connections := s.connections ++ [arrival]
      threads := s.threads ++ [s.sessions.length]
      active := s.active + arrival.counted.toNat }

def full : Bool :=
  s.active ≥ options.limits.maxConnections.toNat

def missed : State :=
  { s with loop := if s.stopping then .ended else .checking }

/-- The caller of `stop` closes the connection of a link, and then the link. -/
def closeLink (l : LinkId) : State :=
  match s.made[l]? with
  | some link => (s.hangUp link.connection).edit l BackendLink.close
  | none => s

def advanceStop (e : Env) : State :=
  match s.stop with
  | .joining => if s.loop = .ended then { s with stop := .waking s.links.values } else s
  | .waking (l :: rest) => { s.closeLink l with stop := .waking rest }
  | .waking [] => { s with threads := [], stop := .waiting }
  | .waiting =>
    if s.sessions.all fun session => session.stage.isEnded then
      { s with stop := .shutting (Lifecycle.shutdown options) }
    else s
  | .shutting (.act k next) => { s.onRouter k with stop := .shutting (next s.router) }
  | .shutting (.ask next) => { s with stop := .shutting (next e) }
  | .shutting (.done _) => { s with stop := .stopped }
  | .standing | .stopped => s

def apply (m : Move) (s : State) : State :=
  match m with
  | .check =>
    if s.loop = .checking then
      { s with loop := if s.stopping then .ended else .accepting }
    else s
  | .accept arrival =>
    if s.loop = .accepting then
      match arrival with
      | some connection =>
        if s.full options then s.missed
        else { s.admitSession options connection with loop := .checking }
      | none => s.missed
    else s
  | .lose c broken => if broken then s.giveUp c else s.hangUp c
  | .receive c input =>
    match s.sessions[c]? with
    | some { stage := .receiving, .. } =>
      match input with
      | some inbound => s.handleFrame options c inbound
      | none => s.enter c .closing
    | _ => s
  | .advance c e =>
    match s.sessions[c]? with
    | some session => s.advance c session e
    | none => s
  | .handoff c target sent =>
    match s.sessions[c]? with
    | some { stage := .calling (.ask next), .. } => s.handoff c target sent (.ask next)
    | _ => s
  | .reply c sent =>
    match s.sessions[c]? with
    | some { stage := .replying, .. } =>
      s.enter c (if sent then .resolving true else .closing)
    | _ => s
  | .stop => if s.stopping then s else { s with stopping := true, stop := .joining }
  | .advanceStop e => s.advanceStop options e

end State

end ModelRouter.Coordinator
