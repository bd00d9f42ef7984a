import ModelRouter.Carriage
import ModelRouter.Channel
import ModelRouter.Coordinator

namespace ModelRouter.Exchange

open Base Bytes Ids Limits Outcome Evidence Candidate Request Decision Frames Framing Messages
open Protocol Carriage Transport Coordinator Channel

def mix (value item : UInt64) : UInt64 :=
  (value ^^^ item) * 0x100000001B3

def syntheticStep (key : CandidateKey) (attempt : UInt32) : UInt64 :=
  [key.modelId.value, key.modelGeneration.value, key.backendId.value, key.backendBoot.value,
    key.endpointId.value, attempt.toUInt64].foldl mix 0xCBF29CE484222325

def execute (latencyMicros : UInt32) (dispatch : DispatchMessage) : DispatchResultMessage where
  dispatchId := dispatch.dispatchId
  decisionId := dispatch.decisionId
  code := .dispatched
  failure := .unknown
  latencyMicros := latencyMicros
  detail := text "synthetic-step=" ++ decimal (syntheticStep dispatch.target dispatch.attempt).toNat

/-- Where a thread in `handoff` stands once it has its dispatch identity. -/
inductive Stage where
  | sending
  | waiting
  | returned (record : DispatchRecord)
deriving DecidableEq, Repr

structure Handoff where
  decision : RouteDecision
  plan : RoutePlan
  id : DispatchId
  stage : Stage := .sending
deriving DecidableEq, Repr

def handoffRecord (decision : RouteDecision) (plan : RoutePlan) : DispatchRecord where
  decisionId := decision.decisionId
  decisionGeneration := decision.decisionGeneration
  target := plan.primary

namespace Handoff

def message (h : Handoff) : DispatchMessage where
  dispatchId := h.id
  dispatchGeneration := ⟨1⟩
  decisionId := h.decision.decisionId
  decisionGeneration := h.decision.decisionGeneration
  target := h.plan.primary
  attempt := 1

def fail (h : Handoff) (code : OutcomeCode) (failure : FailureClass) (detail : Text) : Handoff :=
  let record := { handoffRecord h.decision h.plan with
    code := code, failure := failure, detail := detail }
  { h with stage := .returned record }

def answer (h : Handoff) (result : DispatchResultMessage) : DispatchRecord :=
  { handoffRecord h.decision h.plan with
    dispatchId := h.message.dispatchId
    dispatchGeneration := h.message.dispatchGeneration
    code := result.code
    failure := result.failure
    handedOff := result.code == .dispatched
    dispatchedAtUnixMillis := 1
    detail := result.detail }

end Handoff

/-- Where the thread that serves the link stands. -/
inductive Serving where
  | receiving
  | delivering (message : DispatchResultMessage)
  | waking
  | erasing
  | ended
deriving DecidableEq, Repr

structure Setup where
  limits : ResourceLimits := {}
  maxSendQueueFrames : Side → UInt32 := fun _ => 4096
  latencyMicros : UInt32 := 0
  backendId : BackendId := ⟨1⟩
  backendGeneration : BackendGeneration := ⟨1⟩
  backendBoot : BackendBootId := ⟨1⟩
  highestIssued : UInt64 := 0

def Setup.options (setup : Setup) (side : Side) : ChannelOptions where
  limits := setup.limits
  maxSendQueueFrames := setup.maxSendQueueFrames side

/-- A worker that serves and the coordinator, at the near side, with the link to it: the handoffs
that were given an identity, and what the others returned. -/
structure State where
  channel : Link
  link : BackendLink
  registered : Bool := true
  issued : UInt64
  handoffs : List Handoff := []
  refusals : List DispatchRecord := []
  serving : Serving := .receiving
  working : Bool := true

inductive Step where
  | issue
  | handoff (decision : RouteDecision) (plan : RoutePlan)
  | send (i : Nat)
  | collect (i : Nat)
  | serve
  | work
  | write (side : Side) (room : Nat)
  | read (side : Side) (count : Nat)
  | close (side : Side) (reason : CloseReason) (message : Text)
  | displace
  | stop
deriving DecidableEq, Repr

namespace State

variable (setup : Setup) (s : State)

def start : State where
  channel := Link.connect setup.options
  link := {
    backendId := setup.backendId
    backendGeneration := setup.backendGeneration
    backendBoot := setup.backendBoot
    connection := 0
    results := .empty }
  issued := setup.highestIssued

def carry (st : Channel.Step) : State :=
  { s with channel := s.channel.step st }

def transmit (side : Side) (frame : Frame) : Except Text State := do
  let _sent ← (s.channel.peer side).send frame
  return s.carry (.send side frame)

/-- `handoff` up to its identity. -/
def handoff (decision : RouteDecision) (plan : RoutePlan) : State :=
  let record := handoffRecord decision plan
  if !(s.registered && plan.primary.backendId == s.link.backendId) then
    { s with refusals := s.refusals ++ [{ record with
        code := .rejectStaleBackend
        failure := .backendUnavailable
        detail := text "no live backend worker connection for the target backend" }] }
  else if s.link.backendBoot != plan.primary.backendBoot then
    { s with refusals := s.refusals ++ [{ record with
        code := .rejectStaleBackendBoot
        failure := .backendRestarted
        detail := text "live connection belongs to a different backend incarnation" }] }
  else
    let allocated := allocatorNext s.issued
    { s with
      issued := allocated.2
      handoffs := s.handoffs ++ [{ decision := decision, plan := plan, id := ⟨allocated.1⟩ }] }

def put (i : Nat) (h : Handoff) : State :=
  { s with handoffs := s.handoffs.set i h }

def sendDispatch (i : Nat) (h : Handoff) : State :=
  match encodeDispatch h.message with
  | .error error => s.put i (h.fail .rejectInvalid .unknown error)
  | .ok payload =>
    match s.transmit .near (makeFrame .dispatch payload) with
    | .error error => s.put i (h.fail .rejectUnavailable .backendUnavailable error)
    | .ok sent => sent.put i { h with stage := .waiting }

def collect (i : Nat) (h : Handoff) : State :=
  if s.link.answers h.id then
    match s.link.results.find? h.id with
    | none =>
      s.put i (h.fail .rejectUnavailable .backendUnavailable
        (text "backend connection closed before the dispatch result arrived"))
    | some result =>
      { s with link := s.link.take h.id }.put i { h with stage := .returned (h.answer result) }
  else s

def hangUp : State :=
  { s.carry (.close .near .localClose []) with serving := .waking }

def replyError (detail : Text) : State :=
  match encodeError setup.limits { code := .rejectInvalid, detail := detail } with
  | .error _ => s.hangUp
  | .ok payload =>
    match s.transmit .near (makeFrame .errorMessage payload) with
    | .error _ => s.hangUp
    | .ok sent => sent

/-- `handle_frame` on the results of the worker; a worker that serves sends nothing else, and no
result with a code outside its enumeration. -/
def handleFrame (frame : Frame) : State :=
  if frame.header.messageType = Enumerated.code16 MessageType.dispatchResult then
    match decodeDispatchResult setup.limits frame.payload with
    | .ok message => if s.registered then { s with serving := .delivering message } else s
    | .error (.refused detail) => s.replyError setup detail
    | .error .undeclared => s
  else s

def serve : State :=
  match s.serving with
  | .receiving =>
    match (s.channel.peer .near).session.receive with
    | none => if (s.channel.peer .near).session.closed then s.hangUp else s
    | some (frame, _) => (s.carry (.receive .near)).handleFrame setup frame
  | .delivering message => { s with link := s.link.put message, serving := .receiving }
  | .waking => { s with link := s.link.close, serving := .erasing }
  | .erasing => { s with registered := false, serving := .ended }
  | .ended => s

def leave : State :=
  { s.carry (.close .far .localClose []) with working := false }

def respond (type : MessageType) (payload : List UInt8) : State :=
  match s.transmit .far (makeFrame type payload) with
  | .error _ => s.leave
  | .ok sent => sent

def sendResult (result : DispatchResultMessage) : State :=
  match encodeDispatchResult setup.limits result with
  | .error _ => s.leave
  | .ok payload => s.respond .dispatchResult payload

def workOn (frame : Frame) : State :=
  if frame.header.messageType = Enumerated.code16 MessageType.ping then s.respond .pong []
  else if frame.header.messageType = Enumerated.code16 MessageType.bye then s.leave
  else if frame.header.messageType = Enumerated.code16 MessageType.dispatch then
    match decodeDispatch setup.limits frame.payload with
    | .error _ => s
    | .ok dispatch => s.sendResult setup (execute setup.latencyMicros dispatch)
  else s

def work : State :=
  if s.working then
    match (s.channel.peer .far).session.receive with
    | none => if (s.channel.peer .far).session.closed then s.leave else s
    | some (frame, _) => (s.carry (.receive .far)).workOn setup frame
  else s

def step (s : State) (st : Step) : State :=
  match st with
  | .issue => { s with issued := (allocatorNext s.issued).2 }
  | .handoff decision plan => s.handoff decision plan
  | .send i =>
    match s.handoffs[i]? with
    | some h => if h.stage = .sending then s.sendDispatch i h else s
    | none => s
  | .collect i =>
    match s.handoffs[i]? with
    | some h => if h.stage = .waiting then s.collect i h else s
    | none => s
  | .serve => s.serve setup
  | .work => s.work setup
  | .write side room => s.carry (.write side room)
  | .read side count => s.carry (.read side count)
  | .close side reason message => s.carry (.close side reason message)
  | .displace => { s with registered := false }
  | .stop =>
    if (s.channel.peer .near).session.closed then { s with link := s.link.close } else s

def advance (s : State) (steps : List Step) : State :=
  steps.foldl (step setup) s

def run (steps : List Step) : State :=
  (start setup).advance setup steps

end State

def dispatchOf (limits : ResourceLimits) (frame : Frame) : Option DispatchMessage :=
  if frame.header.messageType = Enumerated.code16 MessageType.dispatch then
    (decodeDispatch limits frame.payload).toOption
  else none

def resultOf (limits : ResourceLimits) (frame : Frame) : Option DispatchResultMessage :=
  if frame.header.messageType = Enumerated.code16 MessageType.dispatchResult then
    (decodeDispatchResult limits frame.payload).toOption
  else none

/-! The dispatches asked of the worker and those it has come to, the results it has sent and those
the coordinator has come to. -/

def asked (limits : ResourceLimits) (l : Link) : List DispatchMessage :=
  (l.accepted .near).filterMap (dispatchOf limits)

def executed (limits : ResourceLimits) (l : Link) : List DispatchMessage :=
  (l.received .far).filterMap (dispatchOf limits)

def replied (limits : ResourceLimits) (l : Link) : List DispatchResultMessage :=
  (l.accepted .far).filterMap (resultOf limits)

def settled (limits : ResourceLimits) (l : Link) : List DispatchResultMessage :=
  (l.received .near).filterMap (resultOf limits)

def Asks (limits : ResourceLimits) (frame : Frame) (message : DispatchMessage) : Prop :=
  Sendable limits frame ∧ ∃ payload, encodeDispatch message = .ok payload ∧
    frame = makeFrame .dispatch payload

def Replies (limits : ResourceLimits) (frame : Frame) (message : DispatchResultMessage) : Prop :=
  Sendable limits frame ∧ ∃ payload, encodeDispatchResult limits message = .ok payload ∧
    frame = makeFrame .dispatchResult payload

section

variable {limits : ResourceLimits} {frame : Frame} {l : Link} {α β ε : Type}

theorem ok_of_map {f : α → β} (hf : Function.Injective f) {x : Except ε α} {a : α}
    (h : f <$> x = .ok (f a)) : x = .ok a := by
  cases x with
  | error e => cases h
  | ok b => exact congrArg Except.ok (hf (Except.ok.inj h))

theorem payload_small {type : MessageType} {payload : List UInt8}
    (h : Sendable limits (makeFrame type payload)) :
    payload.length ≤ limits.maxPayloadBytes.toNat := by
  obtain ⟨image, himage⟩ := h
  have hfits := payloadFits_iff.mp (encodeFrame_ok.mp himage).1.fits
  exact hfits.trans (Nat.min_le_right _ _)

theorem Asks.decodes {message : DispatchMessage} (h : Asks limits frame message) :
    frame.header.messageType = Enumerated.code16 MessageType.dispatch ∧
      decodeDispatch limits frame.payload = .ok message := by
  obtain ⟨hsendable, payload, hpayload, rfl⟩ := h
  refine ⟨rfl, ok_of_map (f := Message.dispatch) (fun a b hab => ?_) ?_⟩
  · injection hab
  · exact decoded limits .dispatch (dispatch_carried message) trivial hpayload
      (payload_small hsendable)

theorem Replies.decodes {message : DispatchResultMessage} (h : Replies limits frame message) :
    frame.header.messageType = Enumerated.code16 MessageType.dispatchResult ∧
      decodeDispatchResult limits frame.payload = .ok message := by
  obtain ⟨hsendable, payload, hpayload, rfl⟩ := h
  refine ⟨rfl, ok_of_map (f := Message.dispatchResult) (fun a b hab => ?_) ?_⟩
  · injection hab
  · exact decoded limits .dispatchResult (dispatchResult_carried limits message) trivial hpayload
      (payload_small hsendable)

theorem Asks.dispatchOf {message : DispatchMessage} (h : Asks limits frame message) :
    dispatchOf limits frame = some message := by
  rw [Exchange.dispatchOf, if_pos h.decodes.1, h.decodes.2]
  rfl

theorem Replies.resultOf {message : DispatchResultMessage} (h : Replies limits frame message) :
    resultOf limits frame = some message := by
  rw [Exchange.resultOf, if_pos h.decodes.1, h.decodes.2]
  rfl

theorem dispatchOf_withChecksums (frame : Frame) :
    dispatchOf limits (withChecksums frame) = dispatchOf limits frame := rfl

theorem resultOf_withChecksums (frame : Frame) :
    resultOf limits (withChecksums frame) = resultOf limits frame := rfl

theorem executed_initial (limits : ResourceLimits) {options : Side → ChannelOptions} (h : l.Sound options) :
    executed limits l <+: asked limits l := by
  have hpre := (h.received_initial .near).filterMap (dispatchOf limits)
  rw [List.filterMap_map] at hpre
  exact hpre

theorem settled_initial {options : Side → ChannelOptions} (h : l.Sound options) :
    settled limits l <+: replied limits l := by
  have hpre := (h.received_initial .far).filterMap (resultOf limits)
  rw [List.filterMap_map] at hpre
  exact hpre

end

/-- What is on its way between the two sides: dispatches one way, and their results the other. -/
structure Traffic (setup : Setup) (l : Link) (working : Bool) : Prop where
  sound : l.Sound setup.options
  asks : ∀ frame ∈ l.accepted .near, ∃ message, Asks setup.limits frame message
  replies : ∀ frame ∈ l.accepted .far, ∃ message, Replies setup.limits frame message
  replied : replied setup.limits l <+:
    (executed setup.limits l).map (execute setup.latencyMicros)
  busy : working = true →
    Exchange.replied setup.limits l = (executed setup.limits l).map (execute setup.latencyMicros)

namespace Traffic

variable {setup : Setup} {l : Link} {working : Bool} {frame : Frame} {session : SessionState}
variable {p : Peer}

theorem room (setup : Setup) (side : Side) :
    Accommodates (setup.options side).limits (setup.options side.other).limits :=
  Nat.le_refl _

theorem free (h : Traffic setup l working) (side : Side) : (l.peer side).session.mutex = .free :=
  h.sound.free side

theorem sent_sendable (h : Traffic setup l working) {side : Side}
    (hsend : (l.peer side).send frame = .ok p) : Sendable setup.limits frame := by
  have hlimits : (l.peer side).session.options.limits = setup.limits :=
    (h.sound.flows side).sending
  rw [← hlimits]
  exact (Peer.send_ok hsend).1

theorem settled_initial (h : Traffic setup l working) :
    settled setup.limits l <+: (asked setup.limits l).map (execute setup.latencyMicros) :=
  (Exchange.settled_initial h.sound).trans
    (h.replied.trans ((executed_initial setup.limits h.sound).map (execute setup.latencyMicros)))

theorem idle (h : Traffic setup l working) : Traffic setup l false :=
  { h with busy := fun hworking => absurd hworking Bool.false_ne_true }

theorem quiet (h : Traffic setup l working) (st : Channel.Step)
    (hsend : ∀ side frame, st ≠ .send side frame) (hreceive : ∀ side, st ≠ .receive side) :
    Traffic setup (l.step st) working := by
  have haccepted := Link.accepted_step (l := l) st hsend
  have hreceived := Link.received_step (l := l) st hreceive
  obtain ⟨hsound, hasks, hreplies, hreplied, hbusy⟩ := h
  refine ⟨Link.sound_step (room setup) hsound st, ?_, ?_, ?_, ?_⟩
  · rwa [haccepted]
  · rwa [haccepted]
  · rwa [Exchange.replied, executed, haccepted, hreceived]
  · rwa [Exchange.replied, executed, haccepted, hreceived]

theorem quiet_histories (setup : Setup) (l : Link) (st : Channel.Step)
    (hsend : ∀ side frame, st ≠ .send side frame) (hreceive : ∀ side, st ≠ .receive side) :
    asked setup.limits (l.step st) = asked setup.limits l ∧
      settled setup.limits (l.step st) = settled setup.limits l := by
  rw [asked, settled, Link.accepted_step st hsend, Link.received_step st hreceive]
  exact ⟨rfl, rfl⟩

theorem ask {message : DispatchMessage} {payload : List UInt8} (h : Traffic setup l working)
    (hpayload : encodeDispatch message = .ok payload)
    (hsend : (l.peer .near).send (makeFrame .dispatch payload) = .ok p) :
    Traffic setup (l.step (.send .near (makeFrame .dispatch payload))) working ∧
      asked setup.limits (l.step (.send .near (makeFrame .dispatch payload))) =
        asked setup.limits l ++ [message] ∧
      settled setup.limits (l.step (.send .near (makeFrame .dispatch payload))) =
        settled setup.limits l := by
  have hsound := Link.sound_step (room setup) h.sound (.send .near (makeFrame .dispatch payload))
  have hasks : Asks setup.limits (makeFrame .dispatch payload) message :=
    ⟨h.sent_sendable hsend, payload, hpayload, rfl⟩
  rw [Link.step_send (h.free .near) hsend] at hsound ⊢
  refine ⟨⟨hsound, ?_, h.replies, h.replied, h.busy⟩, ?_, rfl⟩
  · exact List.forall_mem_append.mpr ⟨h.asks, List.forall_mem_singleton.mpr ⟨message, hasks⟩⟩
  · change ((l.accepted .near) ++ [makeFrame .dispatch payload]).filterMap _ = _
    rw [List.filterMap_append, List.filterMap_cons, hasks.dispatchOf]
    rfl

theorem come (h : Traffic setup l working)
    (hreceive : (l.peer .far).session.receive = some (frame, session)) :
    ∃ message, frame.header.messageType = Enumerated.code16 MessageType.dispatch ∧
      decodeDispatch setup.limits frame.payload = .ok message ∧
      Traffic setup (l.step (.receive .far)) false ∧
      executed setup.limits (l.step (.receive .far)) = executed setup.limits l ++ [message] ∧
      Exchange.replied setup.limits (l.step (.receive .far)) = Exchange.replied setup.limits l := by
  have hsound := Link.sound_step (room setup) h.sound (.receive .far)
  have hreceived := hsound.received_initial .near
  rw [Link.step_receive hreceive] at hsound hreceived ⊢
  have hmem : frame ∈ (l.accepted .near).map withChecksums :=
    hreceived.subset (List.mem_append_right _ (List.mem_singleton.mpr rfl))
  obtain ⟨sent, hsent, rfl⟩ := List.mem_map.mp hmem
  obtain ⟨message, hasks⟩ := h.asks sent hsent
  have hexecuted : executed setup.limits { l with
      peer := Function.update l.peer .far { l.peer .far with session := session }
      received := Function.update l.received .far
        (l.received .far ++ [withChecksums sent]) } =
      executed setup.limits l ++ [message] := by
    change ((l.received .far) ++ [withChecksums sent]).filterMap _ = _
    rw [List.filterMap_append, List.filterMap_cons, dispatchOf_withChecksums, hasks.dispatchOf]
    rfl
  refine ⟨message, hasks.decodes.1, hasks.decodes.2,
    ⟨hsound, h.asks, h.replies, ?_, fun hworking => absurd hworking Bool.false_ne_true⟩,
    hexecuted, rfl⟩
  rw [hexecuted, List.map_append]
  exact h.replied.trans (List.prefix_append _ _)

theorem answer {result : DispatchResultMessage} {payload : List UInt8}
    (h : Traffic setup l working)
    (hdue : Exchange.replied setup.limits l ++ [result] =
      (executed setup.limits l).map (execute setup.latencyMicros))
    (hpayload : encodeDispatchResult setup.limits result = .ok payload)
    (hsend : (l.peer .far).send (makeFrame .dispatchResult payload) = .ok p) :
    Traffic setup (l.step (.send .far (makeFrame .dispatchResult payload))) true := by
  have hsound := Link.sound_step (room setup) h.sound
    (.send .far (makeFrame .dispatchResult payload))
  have hreplies : Replies setup.limits (makeFrame .dispatchResult payload) result :=
    ⟨h.sent_sendable hsend, payload, hpayload, rfl⟩
  rw [Link.step_send (h.free .far) hsend] at hsound ⊢
  have hreplied : Exchange.replied setup.limits { l with
      peer := Function.update l.peer .far p
      accepted := Function.update l.accepted .far
        (l.accepted .far ++ [makeFrame .dispatchResult payload]) } =
      (executed setup.limits l).map (execute setup.latencyMicros) := by
    rw [← hdue]
    change ((l.accepted .far) ++ [makeFrame .dispatchResult payload]).filterMap _ = _
    rw [List.filterMap_append, List.filterMap_cons, hreplies.resultOf]
    rfl
  refine ⟨hsound, h.asks, ?_, hreplied ▸ List.prefix_rfl, fun _ => hreplied⟩
  exact List.forall_mem_append.mpr ⟨h.replies, List.forall_mem_singleton.mpr ⟨result, hreplies⟩⟩

theorem take (h : Traffic setup l working)
    (hreceive : (l.peer .near).session.receive = some (frame, session)) :
    ∃ message, frame.header.messageType = Enumerated.code16 MessageType.dispatchResult ∧
      decodeDispatchResult setup.limits frame.payload = .ok message ∧
      Traffic setup (l.step (.receive .near)) working ∧
      asked setup.limits (l.step (.receive .near)) = asked setup.limits l ∧
      settled setup.limits (l.step (.receive .near)) = settled setup.limits l ++ [message] := by
  have hsound := Link.sound_step (room setup) h.sound (.receive .near)
  have hreceived := hsound.received_initial .far
  rw [Link.step_receive hreceive] at hsound hreceived ⊢
  have hmem : frame ∈ (l.accepted .far).map withChecksums :=
    hreceived.subset (List.mem_append_right _ (List.mem_singleton.mpr rfl))
  obtain ⟨sent, hsent, rfl⟩ := List.mem_map.mp hmem
  obtain ⟨message, hreplies⟩ := h.replies sent hsent
  refine ⟨message, hreplies.decodes.1, hreplies.decodes.2,
    ⟨hsound, h.asks, h.replies, h.replied, h.busy⟩, rfl, ?_⟩
  change ((l.received .near) ++ [withChecksums sent]).filterMap _ = _
  rw [List.filterMap_append, List.filterMap_cons, resultOf_withChecksums, hreplies.resultOf]
  rfl

end Traffic

/-- The handoffs have identities of their own, and what was asked of the worker was asked once, by
one that has left it to the transport. -/
structure Ledger (issued : UInt64) (handoffs : List Handoff) (asked : List DispatchMessage) :
    Prop where
  bounded : ∀ h ∈ handoffs, h.id.value.toNat ≤ issued.toNat
  distinct : (handoffs.map Handoff.id).Nodup
  once : (asked.map DispatchMessage.dispatchId).Nodup
  known : ∀ message ∈ asked, ∃ h ∈ handoffs, h.message = message ∧ h.stage ≠ .sending
  sent : ∀ h ∈ handoffs, h.stage = .waiting → h.message ∈ asked

section

variable {issued issued' : UInt64} {handoffs : List Handoff} {asked : List DispatchMessage}
variable {h k : Handoff} {i : Nat} {stage : Stage}

theorem eq_of_id (hdistinct : (handoffs.map Handoff.id).Nodup) (hh : h ∈ handoffs)
    (hk : k ∈ handoffs) (hid : h.id = k.id) : h = k :=
  List.inj_on_of_nodup_map hdistinct hh hk hid

theorem mem_set_iff (stage : Stage) (hdistinct : (handoffs.map Handoff.id).Nodup)
    (hi : handoffs[i]? = some h) (k : Handoff) :
    k ∈ handoffs.set i { h with stage := stage } ↔
      k = { h with stage := stage } ∨ k ∈ handoffs ∧ k.id ≠ h.id := by
  obtain ⟨hlt, hget⟩ := List.getElem?_eq_some_iff.mp hi
  have hindex (j : Nat) (hj : handoffs[j]? = some k) : k.id = h.id ↔ j = i := by
    obtain ⟨hlt', hget'⟩ := List.getElem?_eq_some_iff.mp hj
    have hj' : j < (handoffs.map Handoff.id).length := by rwa [List.length_map]
    have hi' : i < (handoffs.map Handoff.id).length := by rwa [List.length_map]
    have hinj : (handoffs.map Handoff.id)[j] = (handoffs.map Handoff.id)[i] ↔ j = i :=
      hdistinct.getElem_inj_iff
    rw [List.getElem_map, List.getElem_map, hget, hget'] at hinj
    exact hinj
  rw [List.mem_iff_getElem?]
  simp only [List.getElem?_set, hlt, if_true]
  constructor
  · rintro ⟨j, hj⟩
    split at hj
    · exact .inl (Option.some.inj hj).symm
    · rename_i hne
      exact .inr ⟨List.mem_of_getElem? hj, fun hid => hne ((hindex j hj).mp hid).symm⟩
  · rintro (rfl | ⟨hk, hid⟩)
    · exact ⟨i, if_pos rfl⟩
    · obtain ⟨j, hj⟩ := List.mem_iff_getElem?.mp hk
      exact ⟨j, (if_neg fun hij => hid ((hindex j hj).mpr hij.symm)).trans hj⟩

theorem ids_set (hi : handoffs[i]? = some h) :
    (handoffs.set i { h with stage := stage }).map Handoff.id = handoffs.map Handoff.id := by
  obtain ⟨hlt, hget⟩ := List.getElem?_eq_some_iff.mp hi
  rw [List.map_set]
  apply List.ext_getElem?
  intro j
  rw [List.getElem?_set]
  split
  · rename_i hij
    subst hij
    rw [List.length_map, if_pos hlt, List.getElem?_map, hi]
    rfl
  · rfl

theorem Ledger.later (hl : Ledger issued handoffs asked) (hle : issued.toNat ≤ issued'.toNat) :
    Ledger issued' handoffs asked :=
  { hl with bounded := fun h hh => (hl.bounded h hh).trans hle }

theorem Ledger.of_message (hl : Ledger issued handoffs asked) (hh : h ∈ handoffs)
    {message : DispatchMessage} (hmessage : message ∈ asked) (hid : message.dispatchId = h.id) :
    h.message = message ∧ h.stage ≠ .sending := by
  obtain ⟨k, hk, rfl, hstage⟩ := hl.known message hmessage
  obtain rfl := eq_of_id hl.distinct hk hh hid
  exact ⟨rfl, hstage⟩

theorem Ledger.unasked (hl : Ledger issued handoffs asked) (hh : h ∈ handoffs)
    (hstage : h.stage = .sending) : h.message ∉ asked := fun hmem =>
  (hl.of_message hh hmem rfl).2 hstage

theorem Ledger.enter (hl : Ledger issued handoffs asked) (hlt : issued.toNat < issued'.toNat)
    (hid : h.id.value = issued') (hstage : h.stage = .sending) :
    Ledger issued' (handoffs ++ [h]) asked := by
  refine ⟨?_, ?_, hl.once, ?_, ?_⟩
  · rw [List.forall_mem_append, List.forall_mem_singleton]
    exact ⟨(hl.later hlt.le).bounded, (congrArg UInt64.toNat hid).le⟩
  · rw [List.map_append, List.nodup_append]
    refine ⟨hl.distinct, List.nodup_singleton _, ?_⟩
    intro a ha b hb hab
    obtain ⟨k, hk, rfl⟩ := List.mem_map.mp ha
    rw [List.map_singleton, List.mem_singleton] at hb
    have hle := hl.bounded k hk
    rw [hab, hb, hid] at hle
    omega
  · intro message hmessage
    obtain ⟨k, hk, hknown⟩ := hl.known message hmessage
    exact ⟨k, List.mem_append_left _ hk, hknown⟩
  · rw [List.forall_mem_append, List.forall_mem_singleton]
    exact ⟨hl.sent, fun hwaiting => absurd (hstage.symm.trans hwaiting) (by simp)⟩

theorem Ledger.settle {record : DispatchRecord} (hl : Ledger issued handoffs asked)
    (hi : handoffs[i]? = some h) :
    Ledger issued (handoffs.set i { h with stage := .returned record }) asked := by
  have hmem := mem_set_iff (.returned record) hl.distinct hi
  refine ⟨?_, ?_, hl.once, ?_, ?_⟩
  · intro k hk
    rcases (hmem k).mp hk with rfl | ⟨hk, -⟩
    · exact hl.bounded h (List.mem_of_getElem? hi)
    · exact hl.bounded k hk
  · rw [ids_set hi]
    exact hl.distinct
  · intro message hmessage
    obtain ⟨k, hk, rfl, hstage⟩ := hl.known message hmessage
    by_cases hid : k.id = h.id
    · obtain rfl := eq_of_id hl.distinct hk (List.mem_of_getElem? hi) hid
      exact ⟨_, (hmem _).mpr (.inl rfl), rfl, by simp⟩
    · exact ⟨k, (hmem k).mpr (.inr ⟨hk, hid⟩), rfl, hstage⟩
  · intro k hk hwaiting
    rcases (hmem k).mp hk with rfl | ⟨hk, -⟩
    · cases hwaiting
    · exact hl.sent k hk hwaiting

theorem Ledger.ask (hl : Ledger issued handoffs asked) (hi : handoffs[i]? = some h)
    (hstage : h.stage = .sending) :
    Ledger issued (handoffs.set i { h with stage := .waiting }) (asked ++ [h.message]) := by
  have hh := List.mem_of_getElem? hi
  have hmem := mem_set_iff .waiting hl.distinct hi
  refine ⟨?_, ?_, ?_, ?_, ?_⟩
  · intro k hk
    rcases (hmem k).mp hk with rfl | ⟨hk, -⟩
    · exact hl.bounded h hh
    · exact hl.bounded k hk
  · rw [ids_set hi]
    exact hl.distinct
  · rw [List.map_append, List.nodup_append]
    refine ⟨hl.once, List.nodup_singleton _, ?_⟩
    intro a ha b hb hab
    obtain ⟨message, hmessage, rfl⟩ := List.mem_map.mp ha
    rw [List.map_singleton, List.mem_singleton] at hb
    exact (hl.of_message hh hmessage (hab.trans hb)).2 hstage
  · rw [List.forall_mem_append, List.forall_mem_singleton]
    refine ⟨?_, _, (hmem _).mpr (.inl rfl), rfl, by simp⟩
    intro message hmessage
    obtain ⟨k, hk, rfl, hsent⟩ := hl.known message hmessage
    refine ⟨k, (hmem k).mpr (.inr ⟨hk, fun hid => ?_⟩), rfl, hsent⟩
    obtain rfl := eq_of_id hl.distinct hk hh hid
    exact hsent hstage
  · intro k hk hwaiting
    rcases (hmem k).mp hk with rfl | ⟨hk, -⟩
    · exact List.mem_append_right _ (List.mem_singleton.mpr rfl)
    · exact List.mem_append_left _ (hl.sent k hk hwaiting)

end

def Held (link : BackendLink) (serving : Serving) (result : DispatchResultMessage) : Prop :=
  serving = .delivering result ∨ link.results.find? result.dispatchId = some result

/-- What is held and what was returned are the results of the worker, each for the handoff that
asked for it. -/
structure Account (latencyMicros : UInt32) (link : BackendLink) (registered : Bool)
    (serving : Serving) (handoffs : List Handoff) (asked : List DispatchMessage)
    (settled : List DispatchResultMessage) : Prop where
  keyed : ∀ id result, link.results.find? id = some result → result.dispatchId = id
  apart : ∀ result, serving = .delivering result → link.results.find? result.dispatchId = none
  held : ∀ result, Held link serving result → result ∈ settled
  waits : link.closed = false → ∀ result, Held link serving result →
    ∀ h ∈ handoffs, h.id = result.dispatchId → h.stage = .waiting
  complete : registered = true → ∀ h ∈ handoffs, h.stage = .waiting →
    execute latencyMicros h.message ∈ settled →
      Held link serving (execute latencyMicros h.message)
  answered : ∀ h ∈ handoffs, ∀ record, h.stage = .returned record → record.handedOff = true →
    record = h.answer (execute latencyMicros h.message) ∧
      execute latencyMicros h.message ∈ settled
  told : link.closed = false → ∀ h ∈ handoffs, h.message ∈ asked →
    h.stage = .waiting ∨ h.stage = .returned (h.answer (execute latencyMicros h.message))

section

variable {latencyMicros : UInt32} {link : BackendLink} {registered : Bool} {serving : Serving}
variable {handoffs : List Handoff} {asked : List DispatchMessage} {issued : UInt64}
variable {settled : List DispatchResultMessage} {result : DispatchResultMessage}
variable {h k : Handoff} {i : Nat} {stage : Stage}

theorem results_take (link : BackendLink) (id : DispatchId) :
    (link.take id).results = link.results.erase id := rfl

theorem results_put (link : BackendLink) (message : DispatchResultMessage) :
    (link.put message).results = link.results.insert message.dispatchId message := rfl

theorem of_settled (hpre : settled <+: asked.map (execute latencyMicros))
    (hresult : result ∈ settled) :
    ∃ message ∈ asked, result = execute latencyMicros message := by
  obtain ⟨message, hmessage, rfl⟩ := List.mem_map.mp (hpre.subset hresult)
  exact ⟨message, hmessage, rfl⟩

theorem Ledger.of_result (hl : Ledger issued handoffs asked)
    (hpre : settled <+: asked.map (execute latencyMicros)) (hh : h ∈ handoffs)
    (hresult : result ∈ settled) (hid : h.id = result.dispatchId) :
    result = execute latencyMicros h.message ∧ h.message ∈ asked ∧ h.stage ≠ .sending := by
  obtain ⟨message, hmessage, rfl⟩ := of_settled hpre hresult
  obtain ⟨rfl, hstage⟩ := hl.of_message hh hmessage hid.symm
  exact ⟨rfl, hmessage, hstage⟩

theorem Ledger.results_once (hl : Ledger issued handoffs asked)
    (hpre : settled <+: asked.map (execute latencyMicros)) :
    (settled.map DispatchResultMessage.dispatchId).Nodup := by
  have hids := hpre.map DispatchResultMessage.dispatchId
  rw [List.map_map] at hids
  exact hl.once.sublist hids.sublist

theorem Ledger.next_result (hl : Ledger issued handoffs asked)
    (hpre : settled ++ [result] <+: asked.map (execute latencyMicros))
    {old : DispatchResultMessage} (hold : old ∈ settled) :
    old.dispatchId ≠ result.dispatchId := by
  have hnodup := hl.results_once hpre
  rw [List.map_append, List.nodup_append] at hnodup
  exact hnodup.2.2 _ (List.mem_map_of_mem hold) _ (List.mem_singleton.mpr rfl)

namespace Account

theorem start (link : BackendLink) (hlink : link.results = {}) :
    Account latencyMicros link registered .receiving [] [] [] := by
  have hnone (id : DispatchId) (result : DispatchResultMessage) :
      link.results.find? id ≠ some result := by
    rw [hlink, OrderedMap.find?_empty]
    simp
  have hheld (result : DispatchResultMessage) : ¬Held link .receiving result := by
    rintro (hserving | hfound)
    · cases hserving
    · exact hnone _ _ hfound
  refine ⟨fun id result h => absurd h (hnone id result), fun result h => ?_,
    fun result h => absurd h (hheld result), fun _ result h => absurd h (hheld result), ?_, ?_, ?_⟩
  · cases h
  · intro _ h hh
    cases hh
  · intro h hh
    cases hh
  · intro _ h hh
    cases hh

theorem enter (ha : Account latencyMicros link registered serving handoffs asked settled)
    (hpre : settled <+: asked.map (execute latencyMicros)) (hstage : h.stage = .sending)
    (hfresh : ∀ message ∈ asked, message.dispatchId ≠ h.id) :
    Account latencyMicros link registered serving (handoffs ++ [h]) asked settled := by
  refine ⟨ha.keyed, ha.apart, ha.held, ?_, ?_, ?_, ?_⟩
  · intro hopen result hheld k hk hid
    rcases List.mem_append.mp hk with hk | hk
    · exact ha.waits hopen result hheld k hk hid
    · obtain rfl := List.mem_singleton.mp hk
      obtain ⟨message, hmessage, rfl⟩ := of_settled hpre (ha.held result hheld)
      exact absurd hid.symm (hfresh message hmessage)
  · intro hregistered k hk hwaiting
    rcases List.mem_append.mp hk with hk | hk
    · exact ha.complete hregistered k hk hwaiting
    · obtain rfl := List.mem_singleton.mp hk
      rw [hstage] at hwaiting
      cases hwaiting
  · intro k hk record hreturned
    rcases List.mem_append.mp hk with hk | hk
    · exact ha.answered k hk record hreturned
    · obtain rfl := List.mem_singleton.mp hk
      rw [hstage] at hreturned
      cases hreturned
  · intro hopen k hk hasked
    rcases List.mem_append.mp hk with hk | hk
    · exact ha.told hopen k hk hasked
    · obtain rfl := List.mem_singleton.mp hk
      exact absurd rfl (hfresh _ hasked)

theorem fail {record : DispatchRecord}
    (ha : Account latencyMicros link registered serving handoffs asked settled)
    (hl : Ledger issued handoffs asked) (hpre : settled <+: asked.map (execute latencyMicros))
    (hi : handoffs[i]? = some h) (hrecord : record.handedOff = false)
    (hunasked : link.closed = false → h.message ∉ asked) :
    Account latencyMicros link registered serving
      (handoffs.set i { h with stage := .returned record }) asked settled := by
  have hh := List.mem_of_getElem? hi
  have hmem := mem_set_iff (.returned record) hl.distinct hi
  refine ⟨ha.keyed, ha.apart, ha.held, ?_, ?_, ?_, ?_⟩
  · intro hopen result hheld k hk hid
    rcases (hmem k).mp hk with rfl | ⟨hk, -⟩
    · have hasked := (hl.of_result hpre hh (ha.held result hheld) hid).2.1
      exact absurd hasked (hunasked hopen)
    · exact ha.waits hopen result hheld k hk hid
  · intro hregistered k hk hwaiting
    rcases (hmem k).mp hk with rfl | ⟨hk, -⟩
    · cases hwaiting
    · exact ha.complete hregistered k hk hwaiting
  · intro k hk record' hreturned hhanded
    rcases (hmem k).mp hk with rfl | ⟨hk, -⟩
    · obtain rfl := Stage.returned.inj hreturned
      rw [hrecord] at hhanded
      cases hhanded
    · exact ha.answered k hk record' hreturned hhanded
  · intro hopen k hk hasked
    rcases (hmem k).mp hk with rfl | ⟨hk, -⟩
    · exact absurd hasked (hunasked hopen)
    · exact ha.told hopen k hk hasked

theorem ask (ha : Account latencyMicros link registered serving handoffs asked settled)
    (hl : Ledger issued handoffs asked) (hpre : settled <+: asked.map (execute latencyMicros))
    (hi : handoffs[i]? = some h) (hstage : h.stage = .sending) :
    Account latencyMicros link registered serving
      (handoffs.set i { h with stage := .waiting }) (asked ++ [h.message]) settled := by
  have hh := List.mem_of_getElem? hi
  have hmem := mem_set_iff .waiting hl.distinct hi
  refine ⟨ha.keyed, ha.apart, ha.held, ?_, ?_, ?_, ?_⟩
  · intro hopen result hheld k hk hid
    rcases (hmem k).mp hk with rfl | ⟨hk, -⟩
    · rfl
    · exact ha.waits hopen result hheld k hk hid
  · intro hregistered k hk hwaiting hsettled
    rcases (hmem k).mp hk with rfl | ⟨hk, -⟩
    · exact absurd hstage (hl.of_result hpre hh hsettled rfl).2.2
    · exact ha.complete hregistered k hk hwaiting hsettled
  · intro k hk record hreturned hhanded
    rcases (hmem k).mp hk with rfl | ⟨hk, -⟩
    · cases hreturned
    · exact ha.answered k hk record hreturned hhanded
  · intro hopen k hk hasked
    rcases (hmem k).mp hk with rfl | ⟨hk, hid⟩
    · exact .inl rfl
    · rcases List.mem_append.mp hasked with hasked | hasked
      · exact ha.told hopen k hk hasked
      · exact absurd (congrArg DispatchMessage.dispatchId (List.mem_singleton.mp hasked)) hid

theorem collect (ha : Account latencyMicros link registered serving handoffs asked settled)
    (hl : Ledger issued handoffs asked) (hpre : settled <+: asked.map (execute latencyMicros))
    (hi : handoffs[i]? = some h) (hfound : link.results.find? h.id = some result) :
    result = execute latencyMicros h.message ∧
      Account latencyMicros (link.take h.id) registered serving
        (handoffs.set i { h with stage := .returned (h.answer result) }) asked settled := by
  have hh := List.mem_of_getElem? hi
  have hmem := mem_set_iff (.returned (h.answer result)) hl.distinct hi
  have hid := ha.keyed h.id result hfound
  have hsettled := ha.held result (.inr (hid ▸ hfound))
  obtain ⟨hresult, -, -⟩ := hl.of_result hpre hh hsettled hid.symm
  have hfind (id : DispatchId) := OrderedMap.find?_erase link.results h.id id
  have hback {result : DispatchResultMessage} (hheld : Held (link.take h.id) serving result) :
      Held link serving result ∧ result.dispatchId ≠ h.id := by
    rcases hheld with hserving | htaken
    · refine ⟨.inl hserving, fun hsame => ?_⟩
      have hnone := ha.apart result hserving
      rw [hsame, hfound] at hnone
      cases hnone
    · rw [results_take, hfind] at htaken
      split at htaken
      · cases htaken
      · rename_i hne
        exact ⟨.inr htaken, fun hsame => hne hsame.symm⟩
  refine ⟨hresult, ?_, ?_, fun r hr => ha.held r (hback hr).1, ?_, ?_, ?_, ?_⟩
  · intro id result htaken
    rw [results_take, hfind] at htaken
    split at htaken
    · cases htaken
    · exact ha.keyed id result htaken
  · intro result hserving
    rw [results_take, hfind]
    split
    · rfl
    · exact ha.apart result hserving
  · intro hopen result hheld k hk hkid
    rcases (hmem k).mp hk with rfl | ⟨hk, -⟩
    · exact absurd hkid.symm (hback hheld).2
    · exact ha.waits hopen result (hback hheld).1 k hk hkid
  · intro hregistered k hk hwaiting hdone
    rcases (hmem k).mp hk with rfl | ⟨hk, hne⟩
    · cases hwaiting
    · refine (ha.complete hregistered k hk hwaiting hdone).imp id fun hheld => ?_
      rw [results_take, hfind]
      exact (if_neg fun hsame => hne hsame.symm).trans hheld
  · intro k hk record hreturned hhanded
    rcases (hmem k).mp hk with rfl | ⟨hk, -⟩
    · obtain rfl := Stage.returned.inj hreturned
      exact ⟨congrArg h.answer hresult, hresult ▸ hsettled⟩
    · exact ha.answered k hk record hreturned hhanded
  · intro hopen k hk hasked
    rcases (hmem k).mp hk with rfl | ⟨hk, -⟩
    · exact .inr (congrArg (fun r => Stage.returned (h.answer r)) hresult)
    · exact ha.told hopen k hk hasked

theorem take (ha : Account latencyMicros link registered .receiving handoffs asked settled)
    (hl : Ledger issued handoffs asked)
    (hpre : settled ++ [result] <+: asked.map (execute latencyMicros))
    (hserving : serving = .receiving ∧ registered = false ∨ serving = .delivering result) :
    Account latencyMicros link registered serving handoffs asked (settled ++ [result]) := by
  have hnew {old : DispatchResultMessage} (hold : old ∈ settled) := hl.next_result hpre hold
  have hback {old : DispatchResultMessage} (hheld : Held link serving old) :
      old = result ∧ serving = .delivering result ∨ Held link .receiving old := by
    rcases hheld with hdelivering | hfound
    · rcases hserving with ⟨hstill, -⟩ | hnow
      · rw [hstill] at hdelivering
        cases hdelivering
      · rw [hnow] at hdelivering
        exact .inl ⟨(Serving.delivering.inj hdelivering).symm, hnow⟩
    · exact .inr (.inr hfound)
  refine ⟨ha.keyed, ?_, ?_, ?_, ?_, ?_, ha.told⟩
  · intro result' hdelivering
    rcases hserving with ⟨hstill, -⟩ | hnow
    · rw [hstill] at hdelivering
      cases hdelivering
    · rw [hnow] at hdelivering
      obtain rfl := Serving.delivering.inj hdelivering
      cases hfind : link.results.find? result.dispatchId with
      | none => rfl
      | some old =>
          have hid := ha.keyed _ old hfind
          exact absurd hid (hnew (ha.held old (.inr (hid.symm ▸ hfind))))
  · intro old hheld
    rcases hback hheld with ⟨rfl, -⟩ | hheld
    · exact List.mem_append_right _ (List.mem_singleton.mpr rfl)
    · exact List.mem_append_left _ (ha.held old hheld)
  · intro hopen old hheld h hh hid
    rcases hback hheld with ⟨rfl, -⟩ | hheld
    · obtain ⟨hresult, hasked, -⟩ := hl.of_result hpre hh
        (List.mem_append_right _ (List.mem_singleton.mpr rfl)) hid
      refine (ha.told hopen h hh hasked).resolve_right fun hreturned => ?_
      have hdone := (ha.answered h hh _ hreturned rfl).2
      rw [← hresult] at hdone
      exact hnew hdone rfl
    · exact ha.waits hopen old hheld h hh hid
  · intro hregistered h hh hwaiting hdone
    rcases hserving with ⟨-, hgone⟩ | hnow
    · rw [hgone] at hregistered
      cases hregistered
    · rcases List.mem_append.mp hdone with hdone | hdone
      · refine .inr ((ha.complete hregistered h hh hwaiting hdone).resolve_left fun hstill => ?_)
        cases hstill
      · exact .inl (hnow.trans (congrArg Serving.delivering (List.mem_singleton.mp hdone).symm))
  · intro h hh record hreturned hhanded
    exact (ha.answered h hh record hreturned hhanded).imp id (List.mem_append_left _)

theorem deliver
    (ha : Account latencyMicros link registered (.delivering result) handoffs asked settled) :
    Account latencyMicros (link.put result) registered .receiving handoffs asked settled := by
  have hfind (id : DispatchId) :=
    OrderedMap.find?_insert link.results result.dispatchId id result
  have hback {old : DispatchResultMessage} (hheld : Held (link.put result) .receiving old) :
      Held link (.delivering result) old := by
    rcases hheld with hserving | hfound
    · cases hserving
    · rw [results_put, hfind] at hfound
      split at hfound
      · exact .inl (congrArg Serving.delivering (Option.some.inj hfound))
      · exact .inr hfound
  refine ⟨?_, ?_, fun r hr => ha.held r (hback hr), ?_, ?_, ha.answered, ha.told⟩
  · intro id old hfound
    rw [results_put, hfind] at hfound
    split at hfound
    · rename_i hid
      rw [← Option.some.inj hfound]
      exact hid
    · exact ha.keyed id old hfound
  · intro old hserving
    cases hserving
  · exact fun hopen old hheld => ha.waits hopen old (hback hheld)
  · intro hregistered h hh hwaiting hdone
    refine .inr ?_
    rw [results_put, hfind]
    rcases ha.complete hregistered h hh hwaiting hdone with hserving | hfound
    · obtain rfl := Serving.delivering.inj hserving
      exact if_pos rfl
    · split
      · rename_i hid
        have hnone := ha.apart result rfl
        rw [hid, hfound] at hnone
        cases hnone
      · exact hfound

theorem proceed (ha : Account latencyMicros link registered serving handoffs asked settled)
    {serving' : Serving} {registered' : Bool}
    (hserving : ∀ result, serving' = .delivering result ↔ serving = .delivering result)
    (hregistered : registered' = true → registered = true) :
    Account latencyMicros link registered' serving' handoffs asked settled := by
  have hheld (result : DispatchResultMessage) :
      Held link serving' result ↔ Held link serving result :=
    or_congr (hserving result) Iff.rfl
  refine ⟨ha.keyed, fun r hr => ha.apart r ((hserving r).mp hr),
    fun r hr => ha.held r ((hheld r).mp hr),
    fun hopen r hr => ha.waits hopen r ((hheld r).mp hr),
    fun hr h hh hwaiting hdone => ?_, ha.answered, ha.told⟩
  exact (hheld _).mpr (ha.complete (hregistered hr) h hh hwaiting hdone)

theorem close (ha : Account latencyMicros link registered serving handoffs asked settled) :
    Account latencyMicros link.close registered serving handoffs asked settled :=
  ⟨ha.keyed, ha.apart, ha.held, fun hopen => absurd hopen (by simp [BackendLink.close]),
    ha.complete, ha.answered, fun hopen => absurd hopen (by simp [BackendLink.close])⟩

end Account

end

namespace State

/-- Every state of the exchange. -/
structure Sane (setup : Setup) (s : State) : Prop where
  traffic : Traffic setup s.channel s.working
  ledger : Ledger s.issued s.handoffs (asked setup.limits s.channel)
  account : Account setup.latencyMicros s.link s.registered s.serving s.handoffs
    (asked setup.limits s.channel) (settled setup.limits s.channel)

variable {setup : Setup} {s : State} {i : Nat} {h : Handoff}

theorem transmit_ok {side : Side} {frame : Frame} {t : State}
    (hsend : s.transmit side frame = .ok t) :
    ∃ p, (s.channel.peer side).send frame = .ok p ∧ t = s.carry (.send side frame) := by
  simp only [transmit, bind_ok] at hsend
  obtain ⟨p, hp, ht⟩ := hsend
  exact ⟨p, hp, (Except.ok.inj ht).symm⟩

theorem sane_start (setup : Setup) : Sane setup (start setup) where
  traffic := by
    have hnone : ∀ frame ∈ ([] : List Frame), False := List.forall_mem_nil _
    exact ⟨Link.connect_sound setup.options, fun frame hframe => (hnone frame hframe).elim,
      fun frame hframe => (hnone frame hframe).elim, List.prefix_rfl, fun _ => rfl⟩
  ledger := by
    refine ⟨?_, List.nodup_nil, List.nodup_nil, ?_, ?_⟩
    · intro h hh
      cases hh
    · intro message hmessage
      cases hmessage
    · intro h hh
      cases hh
  account := Account.start _ rfl

theorem Sane.carry (hs : Sane setup s) (st : Channel.Step)
    (hsend : ∀ side frame, st ≠ .send side frame) (hreceive : ∀ side, st ≠ .receive side) :
    Sane setup (s.carry st) := by
  obtain ⟨hasked, hsettled⟩ := Traffic.quiet_histories setup s.channel st hsend hreceive
  refine ⟨hs.traffic.quiet st hsend hreceive, ?_, ?_⟩
  · rw [State.carry, hasked]
    exact hs.ledger
  · rw [State.carry, hasked, hsettled]
    exact hs.account

theorem allocatorNext_fresh {n : UInt64} (h : (allocatorNext n).2 ≠ kCeiling) :
    (allocatorNext n).1 = (allocatorNext n).2 ∧ n.toNat < (allocatorNext n).2.toNat := by
  rw [allocatorNext] at h ⊢
  split at h
  · rename_i hge
    have hlt := n.toNat_lt
    have hle : kCeiling.toNat ≤ n.toNat := hge
    rw [kCeiling] at hle
    refine absurd (UInt64.toNat_inj.mp ?_) h
    rw [kCeiling]
    change n.toNat = 18446744073709551615
    change 18446744073709551615 ≤ n.toNat at hle
    omega
  · rename_i hroom
    rw [if_neg hroom]
    have hlt : n.toNat < 18446744073709551615 := Nat.lt_of_not_le hroom
    refine ⟨rfl, ?_⟩
    change n.toNat < (n + 1).toNat
    rw [UInt64.toNat_add]
    change n.toNat < (n.toNat + 1) % 2 ^ 64
    omega

theorem Sane.issue (hs : Sane setup s) :
    Sane setup { s with issued := (allocatorNext s.issued).2 } := by
  have hle : s.issued.toNat ≤ (allocatorNext s.issued).2.toNat := by
    rw [allocatorNext]
    split
    · exact Nat.le_refl _
    · rename_i hroom
      have hlt : s.issued.toNat < 18446744073709551615 := Nat.lt_of_not_le hroom
      change s.issued.toNat ≤ (s.issued + 1).toNat
      rw [UInt64.toNat_add]
      change s.issued.toNat ≤ (s.issued.toNat + 1) % 2 ^ 64
      omega
  exact ⟨hs.traffic, hs.ledger.later hle, hs.account⟩

theorem Sane.handoff (hs : Sane setup s) (decision : RouteDecision) (plan : RoutePlan)
    (hissued : (s.handoff decision plan).issued ≠ kCeiling) :
    Sane setup (s.handoff decision plan) := by
  rw [State.handoff] at hissued ⊢
  dsimp only at hissued ⊢
  split
  · exact ⟨hs.traffic, hs.ledger, hs.account⟩
  · rename_i hregistered
    rw [if_neg hregistered] at hissued
    split
    · exact ⟨hs.traffic, hs.ledger, hs.account⟩
    · rename_i hboot
      rw [if_neg hboot] at hissued
      obtain ⟨hid, hlt⟩ := allocatorNext_fresh hissued
      refine ⟨hs.traffic, hs.ledger.enter hlt hid rfl,
        hs.account.enter hs.traffic.settled_initial rfl ?_⟩
      intro message hmessage hsame
      obtain ⟨k, hk, rfl, -⟩ := hs.ledger.known message hmessage
      have hle := hs.ledger.bounded k hk
      have hkid : k.id = ⟨(allocatorNext s.issued).1⟩ := hsame
      rw [hkid, hid] at hle
      exact absurd hlt (Nat.not_lt.mpr hle)

theorem Sane.fail (hs : Sane setup s) (hi : s.handoffs[i]? = some h) {record : DispatchRecord}
    (hrecord : record.handedOff = false)
    (hunasked : s.link.closed = false → h.message ∉ asked setup.limits s.channel) :
    Sane setup (s.put i { h with stage := .returned record }) :=
  ⟨hs.traffic, hs.ledger.settle hi,
    hs.account.fail hs.ledger hs.traffic.settled_initial hi hrecord hunasked⟩

theorem Sane.send (hs : Sane setup s) (hi : s.handoffs[i]? = some h) (hstage : h.stage = .sending) :
    Sane setup (s.sendDispatch i h) := by
  have hunasked := hs.ledger.unasked (List.mem_of_getElem? hi) hstage
  rw [State.sendDispatch]
  split
  · exact hs.fail hi rfl fun _ => hunasked
  · rename_i payload hpayload
    split
    · exact hs.fail hi rfl fun _ => hunasked
    · rename_i sent hsent
      obtain ⟨p, hp, rfl⟩ := transmit_ok hsent
      obtain ⟨htraffic, hasked, hsettled⟩ := hs.traffic.ask hpayload hp
      refine ⟨htraffic, ?_, ?_⟩
      · rw [State.put, State.carry, hasked]
        exact hs.ledger.ask hi hstage
      · rw [State.put, State.carry, hasked, hsettled]
        exact hs.account.ask hs.ledger hs.traffic.settled_initial hi hstage

theorem Sane.collect (hs : Sane setup s) (hi : s.handoffs[i]? = some h) :
    Sane setup (s.collect i h) := by
  rw [State.collect]
  split
  · rename_i hanswers
    split
    · rename_i hnone
      refine hs.fail hi rfl fun hopen => ?_
      rw [BackendLink.answers, hopen, Bool.false_or, OrderedMap.contains_iff, hnone] at hanswers
      obtain ⟨result, hresult⟩ := hanswers
      cases hresult
    · rename_i result hfound
      exact ⟨hs.traffic, hs.ledger.settle hi,
        (hs.account.collect hs.ledger hs.traffic.settled_initial hi hfound).2⟩
  · exact hs

theorem Sane.proceed (hs : Sane setup s) {serving : Serving} {registered : Bool}
    (hserving : ∀ result, serving = .delivering result ↔ s.serving = .delivering result)
    (hregistered : registered = true → s.registered = true) :
    Sane setup { s with serving := serving, registered := registered } :=
  ⟨hs.traffic, hs.ledger, hs.account.proceed hserving hregistered⟩

theorem Sane.close (hs : Sane setup s) : Sane setup { s with link := s.link.close } :=
  ⟨hs.traffic, hs.ledger, hs.account.close⟩

theorem serve_receive (hs : Sane setup s) (hserving : s.serving = .receiving)
    {frame : Frame} {session : SessionState}
    (hreceive : (s.channel.peer .near).session.receive = some (frame, session)) :
    ∃ result, settled setup.limits (s.channel.step (.receive .near)) =
        settled setup.limits s.channel ++ [result] ∧
      s.serve setup = { s.carry (.receive .near) with
        serving := if s.registered then .delivering result else .receiving } := by
  obtain ⟨result, htype, hdecode, -, -, hsettled⟩ := hs.traffic.take hreceive
  refine ⟨result, hsettled, ?_⟩
  rw [State.serve, hserving]
  dsimp only
  rw [hreceive]
  dsimp only
  rw [State.handleFrame, if_pos htype, hdecode]
  dsimp only
  change (if s.registered = true then _ else _) = _
  split
  · rfl
  · rw [← hserving]
    rfl

theorem Sane.serve (hs : Sane setup s) : Sane setup (s.serve setup) := by
  cases hserving : s.serving with
  | receiving =>
      cases hreceive : (s.channel.peer .near).session.receive with
      | none =>
          rw [State.serve, hserving]
          dsimp only
          rw [hreceive]
          dsimp only
          split
          · refine (hs.carry (.close .near .localClose []) ?_ ?_).proceed ?_ id
            · intro side frame h
              cases h
            · intro side h
              cases h
            · intro result
              change Serving.waking = _ ↔ s.serving = _
              simp [hserving]
          · exact hs
      | some found =>
          obtain ⟨frame, session⟩ := found
          obtain ⟨result, htype, hdecode, htraffic, hasked, hsettled⟩ := hs.traffic.take hreceive
          obtain ⟨result', hsettled', hserve⟩ := serve_receive hs hserving hreceive
          obtain rfl := List.singleton_injective
            (List.append_cancel_left (hsettled.symm.trans hsettled'))
          rw [hserve]
          have haccount := hs.account
          rw [hserving] at haccount
          have hpre := htraffic.settled_initial
          rw [hasked, hsettled] at hpre
          refine ⟨htraffic, ?_, ?_⟩
          · rw [State.carry, hasked]
            exact hs.ledger
          · rw [State.carry, hasked, hsettled]
            refine haccount.take hs.ledger hpre ?_
            dsimp only
            split
            · exact .inr rfl
            · rename_i hregistered
              exact .inl ⟨rfl, Bool.eq_false_iff.mpr hregistered⟩
  | delivering message =>
      rw [State.serve, hserving]
      have haccount := hs.account
      rw [hserving] at haccount
      exact ⟨hs.traffic, hs.ledger, haccount.deliver⟩
  | waking =>
      rw [State.serve, hserving]
      exact hs.close.proceed (by simp [hserving]) id
  | erasing =>
      rw [State.serve, hserving]
      refine hs.proceed (by simp [hserving]) ?_
      intro h
      cases h
  | ended =>
      rw [State.serve, hserving]
      exact hs

theorem sendResult_cases (setup : Setup) (s : State) (result : DispatchResultMessage) :
    s.sendResult setup result = s.leave ∨
      ∃ payload p, encodeDispatchResult setup.limits result = .ok payload ∧
        (s.channel.peer .far).send (makeFrame .dispatchResult payload) = .ok p ∧
        s.sendResult setup result = s.carry (.send .far (makeFrame .dispatchResult payload)) := by
  rw [State.sendResult]
  split
  · exact .inl rfl
  · rename_i payload hpayload
    rw [State.respond]
    split
    · exact .inl rfl
    · rename_i sent hsent
      obtain ⟨p, hp, rfl⟩ := transmit_ok hsent
      exact .inr ⟨payload, p, hpayload, hp, rfl⟩

theorem sendResult_ok {result : DispatchResultMessage} {payload : List UInt8} {p : Peer}
    (hpayload : encodeDispatchResult setup.limits result = .ok payload)
    (hsend : (s.channel.peer .far).send (makeFrame .dispatchResult payload) = .ok p) :
    s.sendResult setup result = s.carry (.send .far (makeFrame .dispatchResult payload)) := by
  rw [State.sendResult, hpayload]
  dsimp only
  rw [State.respond, State.transmit, hsend]
  rfl

theorem work_cases (ht : Traffic setup s.channel s.working) :
    ∃ channel working, s.work setup = { s with channel := channel, working := working } ∧
      Traffic setup channel working ∧ asked setup.limits channel = asked setup.limits s.channel ∧
      settled setup.limits channel = settled setup.limits s.channel := by
  have hleaves (s' : State) (hs' : s' = { s with channel := s'.channel, working := s'.working })
      (ht' : Traffic setup s'.channel s'.working)
      (hasked : asked setup.limits s'.channel = asked setup.limits s.channel)
      (hsettled : settled setup.limits s'.channel = settled setup.limits s.channel) :
      ∃ channel working, s'.leave = { s with channel := channel, working := working } ∧
        Traffic setup channel working ∧
        asked setup.limits channel = asked setup.limits s.channel ∧
        settled setup.limits channel = settled setup.limits s.channel := by
    have hsend : ∀ side frame, Channel.Step.close .far .localClose [] ≠ .send side frame := by
      intro side frame h
      cases h
    have hreceive : ∀ side, Channel.Step.close .far .localClose [] ≠ .receive side := by
      intro side h
      cases h
    obtain ⟨hasked', hsettled'⟩ :=
      Traffic.quiet_histories setup s'.channel _ hsend hreceive
    refine ⟨_, false, ?_, (ht'.quiet _ hsend hreceive).idle, hasked'.trans hasked,
      hsettled'.trans hsettled⟩
    rw [State.leave, hs']
    rfl
  rw [State.work]
  split
  · rename_i hworking
    cases hreceive : (s.channel.peer .far).session.receive with
    | none =>
        dsimp only
        split
        · exact hleaves s rfl ht rfl rfl
        · exact ⟨s.channel, s.working, rfl, ht, rfl, rfl⟩
    | some found =>
        obtain ⟨frame, session⟩ := found
        obtain ⟨message, htype, hdecode, hcome, hexecuted, hreplied⟩ := ht.come hreceive
        have hasked : asked setup.limits (s.channel.step (.receive .far)) =
            asked setup.limits s.channel := by
          rw [asked, Link.accepted_step _ (fun side frame h => by cases h)]
          rfl
        have hsettled : settled setup.limits (s.channel.step (.receive .far)) =
            settled setup.limits s.channel := by
          rw [settled, Link.step_receive hreceive]
          rfl
        dsimp only
        rw [State.workOn, htype, if_neg (by decide), if_neg (by decide), if_pos rfl, hdecode]
        dsimp only
        rcases sendResult_cases setup (s.carry (.receive .far))
          (execute setup.latencyMicros message) with hleft | ⟨payload, p, hpayload, hp, hsent⟩
        · rw [hleft]
          exact hleaves { s.carry (.receive .far) with working := false } rfl hcome hasked hsettled
        · have hdue : replied setup.limits (s.channel.step (.receive .far)) ++
              [execute setup.latencyMicros message] =
                (executed setup.limits (s.channel.step (.receive .far))).map
                  (execute setup.latencyMicros) := by
            rw [hexecuted, hreplied, ht.busy hworking, List.map_append, List.map_singleton]
          have hanswer := hcome.answer hdue hpayload hp
          rw [hsent]
          refine ⟨_, true, ?_, hanswer, ?_, ?_⟩
          · rw [← hworking]
            rfl
          · rw [← hasked, asked, Link.step_send (hcome.free .far) hp]
            rfl
          · rw [← hsettled, settled, Link.step_send (hcome.free .far) hp]
            rfl
  · exact ⟨s.channel, s.working, rfl, ht, rfl, rfl⟩

theorem Sane.work (hs : Sane setup s) : Sane setup (s.work setup) := by
  obtain ⟨channel, working, hwork, htraffic, hasked, hsettled⟩ := work_cases hs.traffic
  rw [hwork]
  refine ⟨htraffic, ?_, ?_⟩
  · rw [hasked]
    exact hs.ledger
  · rw [hasked, hsettled]
    exact hs.account

theorem Sane.step (hs : Sane setup s) (st : Step) (hissued : (s.step setup st).issued ≠ kCeiling) :
    Sane setup (s.step setup st) := by
  cases st with
  | issue => exact hs.issue
  | handoff decision plan => exact hs.handoff decision plan hissued
  | send i =>
      rw [State.step.eq_def]
      dsimp only
      split
      · rename_i h hi
        split
        · rename_i hstage
          exact hs.send hi hstage
        · exact hs
      · exact hs
  | collect i =>
      rw [State.step.eq_def]
      dsimp only
      split
      · rename_i h hi
        split
        · exact hs.collect hi
        · exact hs
      · exact hs
  | serve => exact hs.serve
  | work => exact hs.work
  | write | read | close =>
      refine hs.carry _ ?_ ?_
      · intro side frame h
        cases h
      · intro side h
        cases h
  | displace =>
      refine hs.proceed (fun _ => Iff.rfl) ?_
      intro h
      cases h
  | stop =>
      rw [State.step.eq_def]
      dsimp only
      split
      · exact hs.close
      · exact hs

theorem transmit_issued {side : Side} {frame : Frame} {t : State}
    (hsend : s.transmit side frame = .ok t) : t.issued = s.issued := by
  obtain ⟨p, -, rfl⟩ := transmit_ok hsend
  rfl

theorem handleFrame_issued (s : State) (frame : Frame) :
    (s.handleFrame setup frame).issued = s.issued := by
  rw [State.handleFrame]
  split
  · split
    · split
      · rfl
      · rfl
    · rw [State.replyError]
      split
      · rfl
      · split
        · rfl
        · rename_i hsent
          exact transmit_issued hsent
    · rfl
  · rfl

theorem serve_issued (s : State) : (s.serve setup).issued = s.issued := by
  rw [State.serve]
  split
  · split
    · split
      · rfl
      · rfl
    · exact handleFrame_issued _ _
  · rfl
  · rfl
  · rfl
  · rfl

theorem respond_issued (s : State) (type : MessageType) (payload : List UInt8) :
    (s.respond type payload).issued = s.issued := by
  rw [State.respond]
  split
  · rfl
  · rename_i hsent
    exact transmit_issued hsent

theorem work_issued (s : State) : (s.work setup).issued = s.issued := by
  rw [State.work]
  split
  · split
    · split
      · rfl
      · rfl
    · rw [State.workOn]
      split
      · exact respond_issued _ _ _
      · split
        · rfl
        · split
          · split
            · rfl
            · rw [State.sendResult]
              split
              · rfl
              · exact respond_issued _ _ _
          · rfl
  · rfl

theorem step_exhausted (st : Step) (hs : s.issued = kCeiling) :
    (s.step setup st).issued = kCeiling := by
  have hnext : (allocatorNext s.issued).2 = kCeiling := by
    rw [hs]
    rfl
  cases st with
  | issue => exact hnext
  | handoff decision plan =>
      change (s.handoff decision plan).issued = kCeiling
      rw [State.handoff]
      dsimp only
      split
      · exact hs
      · split
        · exact hs
        · exact hnext
  | send i =>
      rw [State.step.eq_def]
      dsimp only
      split
      · split
        · rw [State.sendDispatch]
          split
          · exact hs
          · split
            · exact hs
            · rename_i hsent
              exact (transmit_issued hsent).trans hs
        · exact hs
      · exact hs
  | collect i =>
      rw [State.step.eq_def]
      dsimp only
      split
      · split
        · rw [State.collect]
          split
          · split
            · exact hs
            · exact hs
          · exact hs
        · exact hs
      · exact hs
  | serve => exact (serve_issued s).trans hs
  | work => exact (work_issued s).trans hs
  | write | read | close | displace => exact hs
  | stop =>
      rw [State.step.eq_def]
      dsimp only
      split
      · exact hs
      · exact hs

theorem advance_exhausted (steps : List Step) (hs : s.issued = kCeiling) :
    (s.advance setup steps).issued = kCeiling := by
  induction steps generalizing s with
  | nil => exact hs
  | cons st steps ih => exact ih (step_exhausted st hs)

theorem Sane.advance (hs : Sane setup s) (steps : List Step)
    (hissued : (s.advance setup steps).issued ≠ kCeiling) : Sane setup (s.advance setup steps) := by
  induction steps generalizing s with
  | nil => exact hs
  | cons st steps ih =>
      have hstep : (s.step setup st).issued ≠ kCeiling := fun hs' =>
        hissued (advance_exhausted steps hs')
      exact ih (hs.step st hstep) hissued

/-- What the two sides make of the handoffs. -/
structure Exchanged (setup : Setup) (s : State) : Prop where
  answered : ∀ h ∈ s.handoffs, ∀ record, h.stage = .returned record → record.handedOff = true →
    record = h.answer (execute setup.latencyMicros h.message) ∧
      h.message ∈ executed setup.limits s.channel
  once : ((executed setup.limits s.channel).map DispatchMessage.dispatchId).Nodup
  requested : ∀ message ∈ executed setup.limits s.channel, ∃ h ∈ s.handoffs, h.message = message
  ordered : executed setup.limits s.channel <+: asked setup.limits s.channel
  told : s.link.closed = false → ∀ h ∈ s.handoffs, h.message ∈ asked setup.limits s.channel →
    h.stage = .waiting ∨
      h.stage = .returned (h.answer (execute setup.latencyMicros h.message))
  wanted : s.link.closed = false → ∀ id result, s.link.results.find? id = some result →
    ∃ h ∈ s.handoffs, h.id = id ∧ h.stage = .waiting ∧
      result = execute setup.latencyMicros h.message

theorem Sane.exchanged (hs : Sane setup s) : Exchanged setup s := by
  have hpre := executed_initial setup.limits hs.traffic.sound
  have hpre' := hs.traffic.settled_initial
  refine ⟨?_, hs.ledger.once.sublist (hpre.map DispatchMessage.dispatchId).sublist, ?_, hpre,
    hs.account.told, ?_⟩
  · intro h hh record hreturned hhanded
    obtain ⟨hrecord, hsettled⟩ := hs.account.answered h hh record hreturned hhanded
    refine ⟨hrecord, ?_⟩
    have hdone := (settled_initial hs.traffic.sound).trans hs.traffic.replied
    obtain ⟨message, hmessage, hresult⟩ := List.mem_map.mp (hdone.subset hsettled)
    have hid := congrArg DispatchResultMessage.dispatchId hresult
    rw [(hs.ledger.of_message hh (hpre.subset hmessage) hid).1]
    exact hmessage
  · intro message hmessage
    obtain ⟨h, hh, hknown, -⟩ := hs.ledger.known message (hpre.subset hmessage)
    exact ⟨h, hh, hknown⟩
  · intro hopen id result hfound
    have hid := hs.account.keyed id result hfound
    have hheld : Held s.link s.serving result := .inr (hid.symm ▸ hfound)
    obtain ⟨message, hmessage, rfl⟩ := of_settled hpre' (hs.account.held result hheld)
    obtain ⟨h, hh, rfl, -⟩ := hs.ledger.known message hmessage
    exact ⟨h, hh, hid, hs.account.waits hopen _ hheld h hh rfl, rfl⟩

/-- Whatever the threads, the worker and the connection do and in whatever order, a handoff that
succeeds has the answer of the worker to its own dispatch, and the worker comes to every dispatch
once at most. -/
theorem run_exchanged (steps : List Step) (hissued : (run setup steps).issued ≠ kCeiling) :
    Exchanged setup (run setup steps) :=
  ((sane_start setup).advance steps hissued).exchanged

/-- A dispatch is on its way to the worker, and a handoff to another backend was refused. -/
def oneHandoff : List Step :=
  [.handoff {} { primary := { backendId := ⟨1⟩, backendBoot := ⟨1⟩ } },
    .handoff {} { primary := { backendId := ⟨2⟩ } }, .send 0, .write .near 10]

theorem oneHandoff_exchanged :
    (run {} oneHandoff).handoffs.map Handoff.stage = [.waiting] ∧
      (run {} oneHandoff).refusals.map DispatchRecord.code = [.rejectStaleBackend] ∧
      Exchanged {} (run {} oneHandoff) :=
  ⟨by decide +kernel, by decide +kernel, run_exchanged oneHandoff (by decide +kernel)⟩

end State

end ModelRouter.Exchange
