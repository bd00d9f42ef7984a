import ModelRouter.Base.PrefixCode
import ModelRouter.Delivery

namespace ModelRouter.Channel

open Base Bytes Limits Frames Framing Transport Delivery

/-- What `receive` and the session loop see of the options, and the bound of `send`. -/
structure ChannelOptions extends TransportOptions where
  maxSendQueueFrames : UInt32 := 4096
deriving DecidableEq, Repr

/-- A session with the part of its state that `send` and the write loop use. -/
structure Peer where
  session : SessionState
  maxSendQueueFrames : UInt32 := 4096
  outbound : List Frame := []
  pendingWrite : List UInt8 := []
  pendingOffset : Nat := 0
  framesSent : UInt64 := 0
  bytesSent : UInt64 := 0
deriving DecidableEq, Repr

namespace Peer

/-- The queued frames and the one that is being written. -/
def pending (p : Peer) : Nat :=
  p.outbound.length + if p.pendingWrite.isEmpty then 0 else 1

def send (frame : Frame) (p : Peer) : Except Text Peer := do
  let _encoded ← encodeFrame frame p.session.options.limits
  demand (!p.session.closed) "connection is closed"
  demand (p.pending < p.maxSendQueueFrames.toNat) "send queue is full"
  return { p with outbound := p.outbound ++ [frame] }

/-- The next frame is taken from the queue when none is being written; one that does not encode
is dropped. -/
def refill (p : Peer) : Peer :=
  match p.pendingWrite, p.outbound with
  | [], frame :: rest =>
    match encodeFrame frame p.session.options.limits with
    | .error _ => { p with outbound := rest }
    | .ok encoded => { p with outbound := rest, pendingWrite := encoded, pendingOffset := 0 }
  | _, _ => p

/-- What `::send` takes of the frame that is being written, when it has this much room. -/
def flush (room : Nat) (p : Peer) : Peer × List UInt8 :=
  let sent := (p.pendingWrite.drop p.pendingOffset).take room
  if sent.isEmpty then (p, [])
  else
    let offset := p.pendingOffset + sent.length
    let p := { p with bytesSent := p.bytesSent + UInt64.ofNat sent.length }
    if offset ≥ p.pendingWrite.length then
      ({ p with pendingWrite := [], pendingOffset := 0, framesSent := p.framesSent + 1 }, sent)
    else ({ p with pendingOffset := offset }, sent)

/-- One round of the write loop. -/
def write (room : Nat) (p : Peer) : Peer × List UInt8 :=
  p.refill.flush room

/-- Whether the session thread is still in its loop. -/
def running (p : Peer) : Bool :=
  !p.session.closed && p.session.mutex == .free

def markClosed (reason : CloseReason) (message : Text) (p : Peer) : Peer :=
  if p.running then
    { p with session := { p.session with
        closed := true
        reason := reason
        lastError := if p.session.lastError.isEmpty then message else p.session.lastError } }
  else p

end Peer

inductive Side where
  | near | far
deriving DecidableEq, Repr

def Side.other : Side → Side
  | near => far
  | far => near

/-- Two sessions over one connection: the bytes each has written and the other has not read, the
frames each has been asked to send and has taken, and the frames its reader has been given. -/
structure Link where
  peer : Side → Peer
  wire : Side → List UInt8 := fun _ => []
  accepted : Side → List Frame := fun _ => []
  received : Side → List Frame := fun _ => []

inductive Step where
  | send (side : Side) (frame : Frame)
  | write (side : Side) (room : Nat)
  | read (side : Side) (count : Nat)
  | receive (side : Side)
  | close (side : Side) (reason : CloseReason) (message : Text)
deriving DecidableEq, Repr

def readBytes : Nat := 4096

namespace Link

open Function (update)

def connect (options : Side → ChannelOptions) : Link where
  peer side :=
    { session := { options := (options side).toTransportOptions }
      maxSendQueueFrames := (options side).maxSendQueueFrames }

/-- A step that its side is not ready for, or that waits for a mutex it never gets, changes
nothing. -/
def step (l : Link) : Step → Link
  | .send side frame =>
    if (l.peer side).session.mutex = .free then
      match (l.peer side).send frame with
      | .error _ => l
      | .ok p =>
        { l with
          peer := update l.peer side p
          accepted := update l.accepted side (l.accepted side ++ [frame]) }
    else l
  | .write side room =>
    if (l.peer side).running then
      let written := (l.peer side).write room
      { l with
        peer := update l.peer side written.1
        wire := update l.wire side (l.wire side ++ written.2) }
    else l
  | .read side count =>
    let chunk := (l.wire side.other).take (min count readBytes)
    if (l.peer side).running && !chunk.isEmpty then
      { l with
        peer := update l.peer side
          { l.peer side with session := (l.peer side).session.turn chunk }
        wire := update l.wire side.other ((l.wire side.other).drop chunk.length) }
    else l
  | .receive side =>
    match (l.peer side).session.receive with
    | none => l
    | some (frame, session) =>
      { l with
        peer := update l.peer side { l.peer side with session := session }
        received := update l.received side (l.received side ++ [frame]) }
  | .close side reason message =>
    { l with peer := update l.peer side ((l.peer side).markClosed reason message) }

def advance (l : Link) (steps : List Step) : Link :=
  steps.foldl step l

def run (options : Side → ChannelOptions) (steps : List Step) : Link :=
  (connect options).advance steps

/-- What has come out at a side, taken by its reader or not yet. -/
def delivered (l : Link) (side : Side) : List Frame :=
  l.received side ++ (l.peer side).session.inbound

end Link

/-- A frame on the wire. -/
def image (frame : Frame) : List UInt8 :=
  frameBytes (withChecksums frame)

def Peer.unsent (p : Peer) : List UInt8 :=
  p.pendingWrite.drop p.pendingOffset ++ p.outbound.flatMap image

/-- Payloads that fit the limits of the one side fit those of the other. -/
def Accommodates (limits limits' : ResourceLimits) : Prop :=
  min limits.maxFramePayloadBytes.toNat limits.maxPayloadBytes.toNat ≤
    min limits'.maxFramePayloadBytes.toNat limits'.maxPayloadBytes.toNat

instance {limits limits' : ResourceLimits} : Decidable (Accommodates limits limits') :=
  inferInstanceAs (Decidable (_ ≤ _))

def Sendable (limits : ResourceLimits) (frame : Frame) : Prop :=
  ∃ bytes, encodeFrame frame limits = .ok bytes

def Decodable (limits : ResourceLimits) (frame : Frame) : Prop :=
  decodeFrame (frameBytes frame) limits = .ok frame

/-- One direction of a link. -/
structure Lane where
  sender : Peer
  receiver : Peer
  wire : List UInt8
  accepted : List Frame
  received : List Frame

def Lane.delivered (lane : Lane) : List Frame :=
  lane.received ++ lane.receiver.session.inbound

def Link.lane (l : Link) (side : Side) : Lane where
  sender := l.peer side
  receiver := l.peer side.other
  wire := l.wire side
  accepted := l.accepted side
  received := l.received side.other

/-- What was accepted and is not delivered is on its way, in order. -/
structure Flow (limits limits' : ResourceLimits) (lane : Lane) : Prop where
  sending : lane.sender.session.options.limits = limits
  receiving : lane.receiver.session.options.limits = limits'
  free : lane.receiver.session.mutex = .free
  sendable : ∀ frame ∈ lane.accepted, Sendable limits frame
  queued : ∀ frame ∈ lane.sender.outbound, frame ∈ lane.accepted
  started : lane.sender.pendingWrite = [] ∨
    lane.sender.pendingOffset < lane.sender.pendingWrite.length
  waiting : Waiting limits' lane.receiver.session.receiveBuffer
  underway : ∃ rest, lane.accepted.map withChecksums = lane.delivered ++ rest ∧
    lane.receiver.session.receiveBuffer ++ (lane.wire ++ lane.sender.unsent) =
      rest.flatMap frameBytes

section

variable {limits limits' : ResourceLimits} {frame : Frame} {frames : List Frame}
variable {front more : List UInt8}

theorem Sendable.image_eq {bytes : List UInt8} (h : encodeFrame frame limits = .ok bytes) :
    bytes = image frame :=
  (encodeFrame_ok.mp h).2.1.symm

theorem Sendable.decodable (h : Sendable limits frame) (hroom : Accommodates limits limits') :
    Decodable limits' (withChecksums frame) := by
  obtain ⟨bytes, hbytes⟩ := h
  obtain ⟨hadmitted, -⟩ := encodeFrame_ok.mp hbytes
  have hfits : payloadFits limits' frame.payload.length = true :=
    payloadFits_iff.mpr ((payloadFits_iff.mp hadmitted.fits).trans hroom)
  exact decodeFrame_ok.mpr
    ⟨⟨hadmitted.magic, hadmitted.version, hadmitted.known, hfits⟩, withChecksums_idem frame, rfl⟩

theorem frameCode (limits : ResourceLimits) : PrefixCode frameBytes (Decodable limits) where
  nonempty frame _ := by
    intro hnil
    have hlength := congrArg List.length hnil
    rw [length_frameBytes, List.length_nil, frameHeaderBytes] at hlength
    omega
  cancel a b ha hb hpre := by
    have hbytes := decodeFrame_unique ha hb hpre
    rw [Decodable, hbytes, hb] at ha
    exact (Except.ok.inj ha).symm

theorem not_malformed (hframes : ∀ frame ∈ frames, Decodable limits frame)
    (h : front ++ more = frames.flatMap frameBytes) : ¬Malformed limits front := by
  intro hbad
  have hstream := hbad.extend more
  rw [h] at hstream
  cases frames with
  | nil =>
      have hshort := hstream.1
      rw [List.flatMap_nil, List.length_nil, frameHeaderBytes] at hshort
      omega
  | cons frame frames =>
      exact hstream.maximal (frameBytes frame) frame (List.prefix_append _ _)
        (hframes frame List.mem_cons_self)

theorem nil_of_waiting (hframes : ∀ frame ∈ frames, Decodable limits frame)
    (h : Waiting limits (frames.flatMap frameBytes)) : frames = [] := by
  cases frames with
  | nil => rfl
  | cons frame frames =>
      exact absurd (hframes frame List.mem_cons_self)
        (h.maximal (frameBytes frame) frame (List.prefix_append _ _))

end

namespace Peer

variable {p : Peer} {frame : Frame} {room : Nat}

theorem send_ok {q : Peer} (h : p.send frame = .ok q) :
    Sendable p.session.options.limits frame ∧ p.pending < p.maxSendQueueFrames.toNat ∧
      q = { p with outbound := p.outbound ++ [frame] } := by
  simp only [send, bind_ok, demand_ok, exists_const, decide_eq_true_iff] at h
  obtain ⟨bytes, hbytes, -, hroom, h⟩ := h
  exact ⟨⟨bytes, hbytes⟩, hroom, (Except.ok.inj h).symm⟩

theorem send_accepts (hsendable : Sendable p.session.options.limits frame)
    (hopened : p.session.closed = false) (hroom : p.pending < p.maxSendQueueFrames.toNat) :
    p.send frame = .ok { p with outbound := p.outbound ++ [frame] } := by
  obtain ⟨bytes, hbytes⟩ := hsendable
  rw [send, hbytes, hopened]
  simp [demand, hroom, bind, Except.bind, pure, Except.pure]

theorem refill_cases (hqueued : ∀ frame ∈ p.outbound, Sendable p.session.options.limits frame) :
    (p.refill = p ∧ (p.pendingWrite ≠ [] ∨ p.outbound = [])) ∨
      ∃ frame rest, p.pendingWrite = [] ∧ p.outbound = frame :: rest ∧
        p.refill =
          { p with outbound := rest, pendingWrite := image frame, pendingOffset := 0 } := by
  rw [refill.eq_def]
  split
  · rename_i frame rest hwrite houtbound
    obtain ⟨bytes, hbytes⟩ := hqueued frame (houtbound ▸ List.mem_cons_self)
    rw [hbytes, Sendable.image_eq hbytes]
    exact .inr ⟨frame, rest, hwrite, houtbound, rfl⟩
  · rename_i hnone
    refine .inl ⟨rfl, ?_⟩
    by_contra hboth
    rw [not_or, not_not] at hboth
    obtain ⟨frame, rest, houtbound⟩ := List.exists_cons_of_ne_nil hboth.2
    exact hnone frame rest hboth.1 houtbound

theorem flush_cases (p : Peer) (room : Nat) :
    ((p.flush room).1.session = p.session ∧ (p.flush room).1.outbound = p.outbound ∧
      (p.flush room).2 ++ (p.flush room).1.unsent = p.unsent) ∧
    ((p.flush room).1.pendingWrite = [] ∨ (p.flush room).1.pendingWrite = p.pendingWrite ∧
      (p.pendingOffset < p.pendingWrite.length →
        (p.flush room).1.pendingOffset < p.pendingWrite.length)) := by
  have hsplit := List.take_append_drop room (p.pendingWrite.drop p.pendingOffset)
  rw [flush]
  dsimp only
  split
  · exact ⟨⟨rfl, rfl, rfl⟩, .inr ⟨rfl, id⟩⟩
  · split
    · rename_i hend
      have hrest : (p.pendingWrite.drop p.pendingOffset).drop room = [] := by
        rw [List.length_take, List.length_drop] at hend
        rw [List.drop_drop, List.drop_eq_nil_iff]
        omega
      rw [hrest, List.append_nil] at hsplit
      refine ⟨⟨rfl, rfl, ?_⟩, .inl rfl⟩
      rw [unsent, unsent, hsplit]
      rfl
    · rename_i hleft
      have hdrop : p.pendingWrite.drop (p.pendingOffset +
          ((p.pendingWrite.drop p.pendingOffset).take room).length) =
            (p.pendingWrite.drop p.pendingOffset).drop room := by
        rw [List.length_take, List.length_drop, List.drop_drop]
        rcases Nat.le_total room (p.pendingWrite.length - p.pendingOffset) with hle | hle
        · rw [Nat.min_eq_left hle]
        · rw [List.drop_eq_nil_of_le (by omega), List.drop_eq_nil_of_le (by omega)]
      refine ⟨⟨rfl, rfl, ?_⟩, .inr ⟨rfl, fun _ => Nat.lt_of_not_le hleft⟩⟩
      rw [unsent, unsent, hdrop, ← List.append_assoc, hsplit]

theorem write_session (p : Peer) (room : Nat) :
    (p.write room).1.session = p.session ∧
      (p.write room).1.maxSendQueueFrames = p.maxSendQueueFrames := by
  have hrefill : p.refill.session = p.session ∧
      p.refill.maxSendQueueFrames = p.maxSendQueueFrames := by
    rw [refill.eq_def]
    split
    · split
      · exact ⟨rfl, rfl⟩
      · exact ⟨rfl, rfl⟩
    · exact ⟨rfl, rfl⟩
  rw [write, flush]
  dsimp only
  split
  · exact hrefill
  · split
    · exact hrefill
    · exact hrefill

theorem flush_pending (p : Peer) (room : Nat) : (p.flush room).1.pending ≤ p.pending := by
  obtain ⟨⟨-, houtbound, -⟩, hdone | ⟨hsame, -⟩⟩ := p.flush_cases room
  · rw [pending, pending, houtbound, hdone]
    exact Nat.le_add_right _ _
  · rw [pending, pending, houtbound, hsame]

theorem refill_pending (hqueued : ∀ frame ∈ p.outbound, Sendable p.session.options.limits frame) :
    p.refill.pending = p.pending := by
  rcases refill_cases hqueued with ⟨hsame, -⟩ | ⟨frame, rest, hwrite, houtbound, hnext⟩
  · rw [hsame]
  · have himage : (image frame).isEmpty = false := by
      rw [List.isEmpty_eq_false_iff, ← List.length_pos_iff, image, length_frameBytes,
        frameHeaderBytes]
      omega
    rw [hnext, pending, pending, hwrite, houtbound, himage]
    rfl

theorem flush_all (hstarted : p.pendingWrite = [] ∨ p.pendingOffset < p.pendingWrite.length) :
    (p.flush p.pendingWrite.length).1.pendingWrite = [] := by
  rcases hstarted with hnone | hsome
  · rcases (p.flush_cases p.pendingWrite.length).2 with hdone | ⟨hsame, -⟩
    · exact hdone
    · exact hsame.trans hnone
  · have hall : (p.pendingWrite.drop p.pendingOffset).take p.pendingWrite.length =
        p.pendingWrite.drop p.pendingOffset := by
      refine List.take_of_length_le ?_
      rw [List.length_drop]
      omega
    have hlength : (p.pendingWrite.drop p.pendingOffset).length =
        p.pendingWrite.length - p.pendingOffset := List.length_drop ..
    have hsome' : (p.pendingWrite.drop p.pendingOffset).isEmpty = false := by
      rw [List.isEmpty_eq_false_iff, ← List.length_pos_iff, hlength]
      omega
    rw [flush]
    dsimp only
    rw [hall, hsome', if_neg Bool.false_ne_true, if_pos (by omega)]

theorem write_pending (hqueued : ∀ frame ∈ p.outbound, Sendable p.session.options.limits frame)
    (hstarted : p.refill.pendingWrite = [] ∨
      p.refill.pendingOffset < p.refill.pendingWrite.length) :
    (p.write p.refill.pendingWrite.length).1.pending = p.pending - 1 := by
  obtain ⟨⟨-, houtbound, -⟩, -⟩ := p.refill.flush_cases p.refill.pendingWrite.length
  have hleft : (p.write p.refill.pendingWrite.length).1.pending = p.refill.outbound.length := by
    rw [write, pending, flush_all hstarted, houtbound]
    rfl
  rw [hleft]
  rcases refill_cases hqueued with ⟨hsame, hwrite | hnone⟩ | ⟨frame, rest, hwrite, hsome, hnext⟩
  · rw [hsame, pending, if_neg (by rwa [List.isEmpty_iff])]
    rfl
  · rw [hsame, pending, hnone]
    split
    · rfl
    · rfl
  · rw [hnext, pending, hwrite, hsome]
    rfl

theorem unsent_nil (h : p.pending = 0) : p.unsent = [] := by
  rw [pending] at h
  have houtbound : p.outbound = [] := List.length_eq_zero_iff.mp (by omega)
  have hwrite : p.pendingWrite = [] := by
    rw [← List.isEmpty_iff]
    by_contra hne
    rw [if_neg hne] at h
    omega
  rw [unsent, houtbound, hwrite, List.drop_nil]
  rfl

end Peer

section

variable {limits limits' : ResourceLimits} {lane : Lane} {p : Peer}

theorem Flow.decodable (h : Flow limits limits' lane) (hroom : Accommodates limits limits') :
    ∀ frame ∈ lane.accepted.map withChecksums, Decodable limits' frame := by
  intro frame hframe
  obtain ⟨sent, hsent, rfl⟩ := List.mem_map.mp hframe
  exact (h.sendable sent hsent).decodable hroom

theorem Flow.of_sender (h : Flow limits limits' lane)
    (hlimits : p.session.options.limits = limits)
    (houtbound : p.outbound = lane.sender.outbound)
    (hwrite : p.pendingWrite = lane.sender.pendingWrite)
    (hoffset : p.pendingOffset = lane.sender.pendingOffset) :
    Flow limits limits' { lane with sender := p } := by
  have hunsent : p.unsent = lane.sender.unsent := by
    rw [Peer.unsent, Peer.unsent, houtbound, hwrite, hoffset]
  obtain ⟨rest, hrest, hbytes⟩ := h.underway
  refine ⟨hlimits, h.receiving, h.free, h.sendable, ?_, ?_, h.waiting, rest, hrest, ?_⟩
  · rw [houtbound]
    exact h.queued
  · rw [hwrite, hoffset]
    exact h.started
  · rw [hunsent]
    exact hbytes

theorem Flow.of_receiver (h : Flow limits limits' lane)
    (hlimits : p.session.options.limits = limits')
    (hfree : p.session.mutex = lane.receiver.session.mutex)
    (hbuffer : p.session.receiveBuffer = lane.receiver.session.receiveBuffer)
    (hinbound : p.session.inbound = lane.receiver.session.inbound) :
    Flow limits limits' { lane with receiver := p } := by
  obtain ⟨rest, hrest, hbytes⟩ := h.underway
  refine ⟨h.sending, hlimits, ?_, h.sendable, h.queued, h.started, ?_, rest, ?_, ?_⟩
  · rw [hfree]
    exact h.free
  · rw [hbuffer]
    exact h.waiting
  · change _ = lane.received ++ p.session.inbound ++ rest
    rw [hinbound]
    exact hrest
  · rw [hbuffer]
    exact hbytes

theorem Flow.send {frame : Frame} (h : Flow limits limits' lane)
    (hsend : lane.sender.send frame = .ok p) :
    Flow limits limits' { lane with sender := p, accepted := lane.accepted ++ [frame] } := by
  obtain ⟨hsendable, -, rfl⟩ := Peer.send_ok hsend
  rw [h.sending] at hsendable
  obtain ⟨rest, hrest, hbytes⟩ := h.underway
  refine ⟨h.sending, h.receiving, h.free, ?_, ?_, h.started, h.waiting,
    rest ++ [withChecksums frame], ?_, ?_⟩
  · exact List.forall_mem_append.mpr ⟨h.sendable, List.forall_mem_singleton.mpr hsendable⟩
  · intro queued hqueued
    rcases List.mem_append.mp hqueued with hold | hnew
    · exact List.mem_append_left _ (h.queued queued hold)
    · exact List.mem_append_right _ hnew
  · rw [List.map_append, hrest, List.append_assoc]
    rfl
  · rw [List.flatMap_append, List.flatMap_singleton, ← hbytes]
    simp only [Peer.unsent, List.flatMap_append, List.flatMap_singleton, List.append_assoc, image]

theorem Flow.outbound_sendable (h : Flow limits limits' lane) :
    ∀ frame ∈ lane.sender.outbound, Sendable lane.sender.session.options.limits frame := by
  intro frame hframe
  rw [h.sending]
  exact h.sendable frame (h.queued frame hframe)

theorem Flow.refill (h : Flow limits limits' lane) :
    Flow limits limits' { lane with sender := lane.sender.refill } := by
  rcases Peer.refill_cases h.outbound_sendable with ⟨hsame, -⟩ |
    ⟨frame, rest, hwrite, houtbound, hnext⟩
  · rw [hsame]
    exact h
  · obtain ⟨later, hlater, hbytes⟩ := h.underway
    rw [hnext]
    refine ⟨h.sending, h.receiving, h.free, h.sendable, ?_, .inr ?_, h.waiting, later, hlater, ?_⟩
    · intro queued hmem
      exact h.queued queued (houtbound ▸ List.mem_cons_of_mem frame hmem)
    · change 0 < (image frame).length
      rw [image, length_frameBytes, frameHeaderBytes]
      omega
    · rw [← hbytes, Peer.unsent, Peer.unsent, hwrite, houtbound, List.drop_nil]
      rfl

theorem Flow.flush (h : Flow limits limits' lane) (room : Nat) :
    Flow limits limits'
      { lane with
        sender := (lane.sender.flush room).1
        wire := lane.wire ++ (lane.sender.flush room).2 } := by
  obtain ⟨⟨hsession, houtbound, hsplit⟩, hstarted⟩ := lane.sender.flush_cases room
  obtain ⟨later, hlater, hbytes⟩ := h.underway
  refine ⟨?_, h.receiving, h.free, h.sendable, ?_, ?_, h.waiting, later, hlater, ?_⟩
  · exact (congrArg (fun s => s.options.limits) hsession).trans h.sending
  · intro queued hmem
    exact h.queued queued (houtbound ▸ hmem)
  · rcases hstarted with hdone | ⟨hsame, hoffset⟩
    · exact .inl hdone
    · rcases h.started with hnone | hsome
      · exact .inl (hsame.trans hnone)
      · refine .inr ?_
        dsimp only
        rw [hsame]
        exact hoffset hsome
  · dsimp only
    rw [List.append_assoc lane.wire, hsplit]
    exact hbytes

theorem Flow.write (h : Flow limits limits' lane) (room : Nat) :
    Flow limits limits'
      { lane with
        sender := (lane.sender.write room).1
        wire := lane.wire ++ (lane.sender.write room).2 } :=
  h.refill.flush room

theorem Flow.settled (h : Flow limits limits' lane) (hroom : Accommodates limits limits')
    (hopened : lane.receiver.session.closed = false) :
    Settled lane.receiver.session.options
      (lane.delivered.flatMap frameBytes ++ lane.receiver.session.receiveBuffer)
      ⟨lane.receiver.session, lane.received⟩ := by
  obtain ⟨rest, hrest, -⟩ := h.underway
  have hdecodable := h.decodable hroom
  rw [hrest] at hdecodable
  refine ⟨rfl, hopened, ?_, _, rfl, .inl ⟨?_, h.free, rfl⟩⟩
  · rw [h.receiving]
    exact (List.forall_mem_append.mp hdecodable).1
  · rw [h.receiving]
    exact h.waiting

theorem Flow.read (h : Flow limits limits' lane) (hroom : Accommodates limits limits')
    (hopened : lane.receiver.session.closed = false) (n : Nat) :
    Flow limits limits'
      { lane with
        receiver := { lane.receiver with
          session := lane.receiver.session.turn (lane.wire.take n) }
        wire := lane.wire.drop n } := by
  have hdecodable := h.decodable hroom
  obtain ⟨rest, hrest, hbytes⟩ := h.underway
  rw [hrest] at hdecodable
  obtain ⟨hoptions, -, hvalid, left, hleft, hend⟩ :=
    settled_chunk (h.settled hroom hopened) (lane.wire.take n)
  dsimp only at hoptions hvalid hleft hend
  rw [h.receiving] at hvalid hend
  have hstream : (lane.received ++
      (lane.receiver.session.turn (lane.wire.take n)).inbound).flatMap frameBytes ++
        (left ++ (lane.wire.drop n ++ lane.sender.unsent)) =
          (lane.delivered ++ rest).flatMap frameBytes := by
    rw [← List.append_assoc, hleft, List.flatMap_append, ← hbytes]
    simp only [List.append_assoc]
    rw [← List.append_assoc (lane.wire.take n), List.take_append_drop]
  obtain ⟨later, hlater, hremaining⟩ := (frameCode limits').split hvalid hdecodable hstream
  have hdecodableLater : ∀ frame ∈ later, Decodable limits' frame := by
    rw [hlater] at hdecodable
    exact (List.forall_mem_append.mp hdecodable).2
  rcases hend with ⟨hwaiting, hfree, hbuffer⟩ | ⟨hbad, -⟩
  · refine ⟨h.sending, ?_, hfree, h.sendable, h.queued, h.started, ?_, later, ?_, ?_⟩
    · exact (congrArg TransportOptions.limits hoptions).trans h.receiving
    · dsimp only
      rw [hbuffer]
      exact hwaiting
    · exact hrest.trans hlater
    · dsimp only
      rw [hbuffer]
      exact hremaining
  · exact absurd hbad (not_malformed hdecodableLater hremaining)

theorem Flow.drained (h : Flow limits limits' lane) (hroom : Accommodates limits limits')
    (hunsent : lane.sender.unsent = []) (hwire : lane.wire = []) :
    lane.delivered = lane.accepted.map withChecksums := by
  have hdecodable := h.decodable hroom
  obtain ⟨rest, hrest, hbytes⟩ := h.underway
  rw [hunsent, hwire, List.append_nil, List.append_nil] at hbytes
  have hwaiting := h.waiting
  rw [hbytes] at hwaiting
  rw [hrest] at hdecodable
  have hnil := nil_of_waiting (List.forall_mem_append.mp hdecodable).2 hwaiting
  rw [hrest, hnil, List.append_nil]

theorem Flow.receive {frame : Frame} {session : SessionState} (h : Flow limits limits' lane)
    (hreceive : lane.receiver.session.receive = some (frame, session)) :
    Flow limits limits'
      { lane with
        receiver := { lane.receiver with session := session }
        received := lane.received ++ [frame] } := by
  obtain ⟨rest, hrest, hbytes⟩ := h.underway
  rw [SessionState.receive.eq_def] at hreceive
  split at hreceive
  · rename_i frame' inbound hfree hinbound
    obtain ⟨rfl, rfl⟩ := Prod.mk.inj (Option.some.inj hreceive)
    refine ⟨h.sending, h.receiving, h.free, h.sendable, h.queued, h.started, h.waiting, rest, ?_,
      hbytes⟩
    rw [hrest]
    simp only [Lane.delivered, hinbound, List.append_assoc, List.cons_append, List.nil_append]
  · cases hreceive

end

namespace Side

@[simp] theorem other_other (side : Side) : side.other.other = side := by
  cases side <;> rfl

@[simp] theorem other_ne (side : Side) : side.other ≠ side := by
  cases side <;> decide

theorem forall_iff (side : Side) {P : Side → Prop} : (∀ s, P s) ↔ P side ∧ P side.other := by
  constructor
  · intro h
    exact ⟨h side, h side.other⟩
  · rintro ⟨hself, hother⟩ s
    cases side <;> cases s <;> assumption

end Side

namespace Link

variable {options : Side → ChannelOptions} {l : Link}

/-- Both directions of a link are in order, and neither side has taken more than its bound. -/
structure Sound (options : Side → ChannelOptions) (l : Link) : Prop where
  flows : ∀ side, Flow (options side).limits (options side.other).limits (l.lane side)
  bound : ∀ side, (l.peer side).maxSendQueueFrames = (options side).maxSendQueueFrames
  bounded : ∀ side, (l.peer side).pending ≤ (options side).maxSendQueueFrames.toNat

theorem Sound.back (h : Sound options l) (side : Side) :
    Flow (options side.other).limits (options side).limits
      ⟨l.peer side.other, l.peer side, l.wire side.other, l.accepted side.other,
        l.received side⟩ := by
  have hflow := h.flows side.other
  rwa [lane, Side.other_other] at hflow

theorem Sound.free (h : Sound options l) (side : Side) : (l.peer side).session.mutex = .free :=
  (h.back side).free

theorem Sound.step {p : Peer} {side : Side} {k : Link} (h : Sound options l)
    (hpeer : k.peer = Function.update l.peer side p)
    (hsends : Flow (options side).limits (options side.other).limits
      ⟨p, l.peer side.other, k.wire side, k.accepted side, k.received side.other⟩)
    (hreceives : Flow (options side.other).limits (options side).limits
      ⟨l.peer side.other, p, k.wire side.other, k.accepted side.other, k.received side⟩)
    (hbound : p.maxSendQueueFrames = (l.peer side).maxSendQueueFrames)
    (hbounded : p.pending ≤ (options side).maxSendQueueFrames.toNat) : Sound options k := by
  have hself : k.peer side = p := by rw [hpeer, Function.update_self]
  have hother : k.peer side.other = l.peer side.other := by
    rw [hpeer, Function.update_of_ne side.other_ne]
  refine ⟨side.forall_iff.mpr ⟨?_, ?_⟩, side.forall_iff.mpr ⟨?_, ?_⟩, side.forall_iff.mpr ⟨?_, ?_⟩⟩
  · rw [lane, hself, hother]
    exact hsends
  · rw [lane, Side.other_other, hself, hother]
    exact hreceives
  · rw [hself, hbound]
    exact h.bound side
  · rw [hother]
    exact h.bound side.other
  · rw [hself]
    exact hbounded
  · rw [hother]
    exact h.bounded side.other

theorem connect_sound (options : Side → ChannelOptions) : Sound options (connect options) where
  flows side := by
    have hempty : ([] : List UInt8).length < frameHeaderBytes := by decide
    refine ⟨rfl, rfl, rfl, ?_, ?_, .inl rfl, .inl hempty, [], rfl, rfl⟩
    · intro frame hframe
      cases hframe
    · intro frame hframe
      cases hframe
  bound _ := rfl
  bounded _ := Nat.zero_le _

theorem sound_send (h : Sound options l) (side : Side) (frame : Frame) :
    Sound options (l.step (.send side frame)) := by
  rw [Link.step.eq_def]
  dsimp only
  rw [if_pos (h.free side)]
  split
  · exact h
  · rename_i p hsend
    have hsends := (h.flows side).send hsend
    obtain ⟨-, hroom, rfl⟩ := Peer.send_ok hsend
    refine h.step rfl ?_ ?_ rfl ?_
    · dsimp only
      rw [Function.update_self]
      exact hsends
    · dsimp only
      rw [Function.update_of_ne side.other_ne]
      exact (h.back side).of_receiver (h.flows side).sending rfl rfl rfl
    · rw [h.bound side] at hroom
      rw [Peer.pending] at hroom ⊢
      rw [List.length_append, List.length_singleton]
      dsimp only at hroom ⊢
      omega

theorem sound_write (h : Sound options l) (side : Side) (room : Nat) :
    Sound options (l.step (.write side room)) := by
  rw [Link.step.eq_def]
  dsimp only
  split
  · have hsends := (h.flows side).write room
    have hqueued := (h.flows side).outbound_sendable
    obtain ⟨hsession, hbound⟩ := (l.peer side).write_session room
    refine h.step rfl ?_ ?_ hbound ?_
    · dsimp only
      rw [Function.update_self]
      exact hsends
    · dsimp only
      rw [Function.update_of_ne side.other_ne]
      refine (h.back side).of_receiver hsends.sending ?_ ?_ ?_
      · exact congrArg SessionState.mutex hsession
      · exact congrArg SessionState.receiveBuffer hsession
      · exact congrArg SessionState.inbound hsession
    · have hle := (l.peer side).refill.flush_pending room
      have hrefill := Peer.refill_pending hqueued
      exact (hle.trans hrefill.le).trans (h.bounded side)
  · exact h

theorem sound_read (hroom : ∀ side, Accommodates (options side).limits (options side.other).limits)
    (h : Sound options l) (side : Side) (count : Nat) :
    Sound options (l.step (.read side count)) := by
  have hback := hroom side.other
  rw [Side.other_other] at hback
  rw [Link.step.eq_def]
  dsimp only
  split
  · rename_i hready
    have hopened : (l.peer side).session.closed = false := by
      simp only [Peer.running, Bool.and_eq_true, Bool.not_eq_true'] at hready
      exact hready.1.1
    have hreceives := (h.back side).read hback hopened (min count readBytes)
    have hdrop : (l.wire side.other).drop
        ((l.wire side.other).take (min count readBytes)).length =
          (l.wire side.other).drop (min count readBytes) := by
      rw [List.length_take]
      rcases Nat.le_total (min count readBytes) (l.wire side.other).length with hle | hle
      · rw [Nat.min_eq_left hle]
      · rw [Nat.min_eq_right hle, List.drop_length, List.drop_eq_nil_of_le hle]
    refine h.step rfl ?_ ?_ rfl (h.bounded side)
    · dsimp only
      rw [Function.update_of_ne side.other_ne.symm]
      exact (h.flows side).of_sender hreceives.receiving rfl rfl rfl
    · dsimp only
      rw [Function.update_self, hdrop]
      exact hreceives
  · exact h

theorem sound_receive (h : Sound options l) (side : Side) :
    Sound options (l.step (.receive side)) := by
  rw [Link.step.eq_def]
  dsimp only
  split
  · exact h
  · rename_i frame session hreceive
    have hreceives := (h.back side).receive hreceive
    refine h.step rfl ?_ ?_ rfl (h.bounded side)
    · dsimp only
      rw [Function.update_of_ne side.other_ne]
      exact (h.flows side).of_sender hreceives.receiving rfl rfl rfl
    · dsimp only
      rw [Function.update_self]
      exact hreceives

theorem sound_close (h : Sound options l) (side : Side) (reason : CloseReason) (message : Text) :
    Sound options (l.step (.close side reason message)) := by
  rw [Link.step.eq_def]
  dsimp only
  rw [Peer.markClosed]
  split
  · refine h.step rfl ?_ ?_ rfl (h.bounded side)
    · exact (h.flows side).of_sender (h.flows side).sending rfl rfl rfl
    · exact (h.back side).of_receiver (h.flows side).sending rfl rfl rfl
  · rw [Function.update_eq_self]
    exact h

theorem sound_step (hroom : ∀ side, Accommodates (options side).limits (options side.other).limits)
    (h : Sound options l) (st : Step) : Sound options (l.step st) := by
  cases st with
  | send side frame => exact sound_send h side frame
  | write side room => exact sound_write h side room
  | read side count => exact sound_read hroom h side count
  | receive side => exact sound_receive h side
  | close side reason message => exact sound_close h side reason message

theorem sound_steps (hroom : ∀ side, Accommodates (options side).limits (options side.other).limits)
    (h : Sound options l) (steps : List Step) : Sound options (l.advance steps) := by
  induction steps generalizing l with
  | nil => exact h
  | cons st steps ih => exact ih (sound_step hroom h st)

theorem run_sound (hroom : ∀ side, Accommodates (options side).limits (options side.other).limits)
    (steps : List Step) : Sound options (run options steps) :=
  sound_steps hroom (connect_sound options) steps

theorem accepted_step (st : Step) (hst : ∀ side frame, st ≠ .send side frame) :
    (l.step st).accepted = l.accepted := by
  cases st with
  | send side frame => exact absurd rfl (hst side frame)
  | write | read =>
      rw [Link.step.eq_def]
      dsimp only
      split
      · rfl
      · rfl
  | receive =>
      rw [Link.step.eq_def]
      dsimp only
      split
      · rfl
      · rfl
  | close => rfl

theorem received_step (st : Step) (hst : ∀ side, st ≠ .receive side) :
    (l.step st).received = l.received := by
  cases st with
  | send =>
      rw [Link.step.eq_def]
      dsimp only
      split
      · split
        · rfl
        · rfl
      · rfl
  | write | read =>
      rw [Link.step.eq_def]
      dsimp only
      split
      · rfl
      · rfl
  | receive side => exact absurd rfl (hst side)
  | close => rfl

theorem step_send {side : Side} {frame : Frame} {p : Peer}
    (hfree : (l.peer side).session.mutex = .free) (h : (l.peer side).send frame = .ok p) :
    l.step (.send side frame) = { l with
      peer := Function.update l.peer side p
      accepted := Function.update l.accepted side (l.accepted side ++ [frame]) } := by
  rw [Link.step.eq_def]
  dsimp only
  rw [if_pos hfree, h]

theorem step_receive {side : Side} {frame : Frame} {session : SessionState}
    (h : (l.peer side).session.receive = some (frame, session)) :
    l.step (.receive side) = { l with
      peer := Function.update l.peer side { l.peer side with session := session }
      received := Function.update l.received side (l.received side ++ [frame]) } := by
  rw [Link.step.eq_def]
  dsimp only
  rw [h]

theorem Sound.received_initial (h : Sound options l) (side : Side) :
    l.received side.other <+: (l.accepted side).map withChecksums := by
  obtain ⟨rest, hrest, -⟩ := (h.flows side).underway
  rw [lane] at hrest
  refine ⟨(l.peer side.other).session.inbound ++ rest, ?_⟩
  rw [hrest, ← List.append_assoc]
  rfl

/-- The steps that carry what a side has accepted to the other one. -/
def moves (side : Side) : Step → Bool
  | .write writer _ => writer == side
  | .read reader _ => reader == side.other
  | _ => false

theorem step_write {side : Side} (hrunning : (l.peer side).running = true) (room : Nat) :
    l.step (.write side room) = { l with
      peer := Function.update l.peer side ((l.peer side).write room).1
      wire := Function.update l.wire side (l.wire side ++ ((l.peer side).write room).2) } := by
  rw [Link.step.eq_def]
  dsimp only
  rw [if_pos hrunning]

theorem step_read {side : Side} (hrunning : (l.peer side.other).running = true)
    (hwire : l.wire side ≠ []) :
    l.step (.read side.other readBytes) = { l with
      peer := Function.update l.peer side.other
        { l.peer side.other with
          session := (l.peer side.other).session.turn ((l.wire side).take readBytes) }
      wire := Function.update l.wire side
        ((l.wire side).drop ((l.wire side).take readBytes).length) } := by
  have hpos := List.length_pos_iff.mpr hwire
  have hchunk : ((l.wire side).take readBytes).isEmpty = false := by
    rw [List.isEmpty_eq_false_iff, ← List.length_pos_iff, List.length_take, readBytes]
    omega
  rw [Link.step.eq_def]
  dsimp only
  rw [Side.other_other, Nat.min_self, hrunning, hchunk, Bool.not_false, Bool.and_self, if_pos rfl]

theorem drain_sender (h : Sound options l) {side : Side} (hrunning : (l.peer side).running = true) :
    ∃ steps, (∀ st ∈ steps, moves side st = true) ∧
      (l.advance steps).accepted = l.accepted ∧ (l.advance steps).received = l.received ∧
      (l.advance steps).peer side.other = l.peer side.other ∧
      ((l.advance steps).peer side).session = (l.peer side).session ∧
      ((l.advance steps).peer side).pending = 0 := by
  generalize hn : (l.peer side).pending = n
  induction n generalizing l with
  | zero => exact ⟨[], List.forall_mem_nil _, rfl, rfl, rfl, rfl, hn⟩
  | succ n ih =>
      let room := (l.peer side).refill.pendingWrite.length
      have hpending : ((l.peer side).write room).1.pending = (l.peer side).pending - 1 :=
        Peer.write_pending (h.flows side).outbound_sendable (h.flows side).refill.started
      have hsession := ((l.peer side).write_session room).1
      have hstep := step_write hrunning room
      have hself : (l.step (.write side room)).peer side = ((l.peer side).write room).1 := by
        rw [hstep]
        exact Function.update_self ..
      have hother : (l.step (.write side room)).peer side.other = l.peer side.other := by
        rw [hstep]
        exact Function.update_of_ne side.other_ne ..
      have hnext : ((l.step (.write side room)).peer side).running = true := by
        rw [hself, Peer.running, hsession]
        exact hrunning
      have hless : ((l.step (.write side room)).peer side).pending = n := by
        rw [hself, hpending, hn, Nat.add_sub_cancel]
      obtain ⟨steps, hmoves, haccepted, hreceived, hpeer, hsession', hwritten⟩ :=
        ih (sound_write h side room) hnext hless
      refine ⟨.write side room :: steps,
        List.forall_mem_cons.mpr ⟨beq_self_eq_true side, hmoves⟩, ?_, ?_, hpeer.trans hother,
        hsession'.trans (by rw [hself, hsession]), hwritten⟩
      · exact haccepted.trans (by rw [hstep])
      · exact hreceived.trans (by rw [hstep])

theorem drain_wire (hroom : ∀ side, Accommodates (options side).limits (options side.other).limits)
    (h : Sound options l) {side : Side} (hrunning : (l.peer side.other).running = true) :
    ∃ steps, (∀ st ∈ steps, moves side st = true) ∧
      (l.advance steps).accepted = l.accepted ∧ (l.advance steps).received = l.received ∧
      (l.advance steps).peer side = l.peer side ∧ (l.advance steps).wire side = [] := by
  generalize hn : (l.wire side).length = n
  induction n using Nat.strong_induction_on generalizing l with
  | h n ih =>
      by_cases hempty : l.wire side = []
      · exact ⟨[], List.forall_mem_nil _, rfl, rfl, rfl, hempty⟩
      · have hpos := List.length_pos_iff.mpr hempty
        have hstep := step_read hrunning hempty
        have hsound := sound_read hroom h side.other readBytes
        have hopened : (l.peer side.other).session.closed = false := by
          simp only [Peer.running, Bool.and_eq_true, Bool.not_eq_true'] at hrunning
          exact hrunning.1
        have hreader : (l.step (.read side.other readBytes)).peer side.other =
            { l.peer side.other with
              session := (l.peer side.other).session.turn ((l.wire side).take readBytes) } := by
          rw [hstep]
          exact Function.update_self ..
        have hother : (l.step (.read side.other readBytes)).peer side = l.peer side := by
          rw [hstep]
          exact Function.update_of_ne side.other_ne.symm ..
        have hnext : ((l.step (.read side.other readBytes)).peer side.other).running = true := by
          have hclosed : ((l.peer side.other).session.turn
              ((l.wire side).take readBytes)).closed = false :=
            (settled_chunk ((h.flows side).settled (hroom side) hopened) _).opened
          rw [Peer.running, hsound.free side.other, hreader, hclosed]
          rfl
        have hless : ((l.step (.read side.other readBytes)).wire side).length < n := by
          have hwire : (l.step (.read side.other readBytes)).wire side =
              (l.wire side).drop ((l.wire side).take readBytes).length := by
            rw [hstep]
            exact Function.update_self ..
          rw [hwire, List.length_drop, List.length_take, readBytes]
          omega
        obtain ⟨steps, hmoves, haccepted, hreceived, hpeer, hdone⟩ := ih _ hless hsound hnext rfl
        refine ⟨.read side.other readBytes :: steps,
          List.forall_mem_cons.mpr ⟨beq_self_eq_true _, hmoves⟩, ?_, ?_, hpeer.trans hother, hdone⟩
        · exact haccepted.trans (by rw [hstep])
        · exact hreceived.trans (by rw [hstep])

theorem opened_moves
    (hroom : ∀ side, Accommodates (options side).limits (options side.other).limits)
    (h : Sound options l) (hopened : ∀ s, (l.peer s).session.closed = false) {side : Side}
    {st : Step}
    (hst : moves side st = true) (s : Side) : ((l.step st).peer s).session.closed = false := by
  cases st with
  | send | receive | close => cases hst
  | write writer room =>
      rw [Link.step.eq_def]
      dsimp only
      split
      · dsimp only
        by_cases hs : s = writer
        · rw [hs, Function.update_self, ((l.peer writer).write_session room).1]
          exact hopened writer
        · rw [Function.update_of_ne hs]
          exact hopened s
      · exact hopened s
  | read reader count =>
      rw [Link.step.eq_def]
      dsimp only
      split
      · dsimp only
        by_cases hs : s = reader
        · have hback := hroom reader.other
          rw [Side.other_other] at hback
          rw [hs, Function.update_self]
          exact (settled_chunk ((h.back reader).settled hback (hopened reader)) _).opened
        · rw [Function.update_of_ne hs]
          exact hopened s
      · exact hopened s

theorem drain (hroom : ∀ side, Accommodates (options side).limits (options side.other).limits)
    (h : Sound options l) (hopened : ∀ s, (l.peer s).session.closed = false) (side : Side) :
    ∃ steps, (∀ st ∈ steps, moves side st = true) ∧
      (l.advance steps).accepted = l.accepted ∧ (l.advance steps).received = l.received ∧
      (∀ s, ((l.advance steps).peer s).session.closed = false) ∧
      ((l.advance steps).peer side).session = (l.peer side).session ∧
      ((l.advance steps).peer side).pending = 0 ∧
      (l.advance steps).delivered side.other = (l.accepted side).map withChecksums := by
  have hrunning (s : Side) : (l.peer s).running = true := by
    rw [Peer.running, hopened s, h.free s]
    rfl
  have hkeeps {k : Link} (hk : Sound options k) (hk' : ∀ s, (k.peer s).session.closed = false)
      {steps : List Step} (hsteps : ∀ st ∈ steps, moves side st = true) :
      ∀ s, ((k.advance steps).peer s).session.closed = false := by
    induction steps generalizing k with
    | nil => exact hk'
    | cons st steps ih =>
        rw [List.forall_mem_cons] at hsteps
        exact ih (sound_step hroom hk st) (opened_moves hroom hk hk' hsteps.1) hsteps.2
  obtain ⟨writes, hwrites, haccepted, hreceived, hpeer, hsession, hpending⟩ :=
    drain_sender h (hrunning side)
  obtain ⟨reads, hreads, haccepted', hreceived', hpeer', hwire⟩ :=
    drain_wire hroom (sound_steps hroom h writes) (hpeer ▸ hrunning side.other)
  have hadvance : l.advance (writes ++ reads) = (l.advance writes).advance reads :=
    List.foldl_append ..
  have hmoves := List.forall_mem_append.mpr ⟨hwrites, hreads⟩
  have hend := sound_steps hroom (sound_steps hroom h writes) reads
  refine ⟨writes ++ reads, hmoves, ?_, ?_, hkeeps h hopened hmoves, ?_, ?_, ?_⟩
  · rw [hadvance, haccepted', haccepted]
  · rw [hadvance, hreceived', hreceived]
  · rw [hadvance, hpeer', hsession]
  · rw [hadvance, hpeer', hpending]
  · have hunsent : (((l.advance writes).advance reads).lane side).sender.unsent = [] := by
      rw [lane, hpeer']
      exact Peer.unsent_nil hpending
    rw [hadvance]
    exact ((hend.flows side).drained (hroom side) hunsent hwire).trans
      (by rw [lane, haccepted', haccepted])

/-- Whatever the two sides do and in whatever order, a link hands over the frames a side has
accepted in their order, each once, and its queues keep to their bounds. -/
theorem run_in_order
    (hroom : ∀ side, Accommodates (options side).limits (options side.other).limits)
    (steps : List Step) (side : Side) :
    (run options steps).delivered side.other <+:
        ((run options steps).accepted side).map withChecksums ∧
      ((run options steps).peer side).session.mutex = .free ∧
      ((run options steps).peer side).pending ≤ (options side).maxSendQueueFrames.toNat := by
  have hsound := run_sound hroom steps
  obtain ⟨rest, hrest, -⟩ := (hsound.flows side).underway
  refine ⟨⟨rest, hrest.symm⟩, hsound.free side, hsound.bounded side⟩

/-- Two frames are accepted; the first crosses in two pieces, and is read by the other side. -/
def twoFrames : List Step :=
  [.send .near (helloFrame [1, 2, 3]), .send .near (helloFrame [4]), .write .near 10,
    .read .far 4096, .write .near 4096, .read .far 4096, .receive .far]

theorem twoFrames_in_order :
    (run (fun _ => {}) twoFrames).received .far = [withChecksums (helloFrame [1, 2, 3])] ∧
      (run (fun _ => {}) twoFrames).delivered .far <+:
        ((run (fun _ => {}) twoFrames).accepted .near).map withChecksums := by
  have hroom : ∀ side : Side, Accommodates ((fun _ => {} : Side → ChannelOptions) side).limits
      ((fun _ => {} : Side → ChannelOptions) side.other).limits := fun _ => le_rfl
  exact ⟨by decide +kernel, (run_in_order hroom twoFrames .near).1⟩

end Link

end ModelRouter.Channel
