import ModelRouter.Frames

namespace ModelRouter.Transport

open Base Bytes Limits Frames

inductive CloseReason where
  | none | localClose | peerClosed | transportError | protocolError | resourceLimit
deriving DecidableEq, Repr

structure TransportOptions where
  limits : ResourceLimits := {}
  maxReceiveQueueFrames : UInt32 := 4096
deriving DecidableEq, Repr

/-- The session mutex; it is `reacquired` once the thread that holds it asks for it again, which
no `std::mutex` answers. -/
inductive Mutex where
  | free | held | reacquired
deriving DecidableEq, Repr

structure SessionState where
  options : TransportOptions
  mutex : Mutex := .free
  closed : Bool := false
  reason : CloseReason := .none
  inbound : List Frame := []
  receiveBuffer : List UInt8 := []
  lastError : Text := []
  framesReceived : UInt64 := 0
  bytesReceived : UInt64 := 0
deriving DecidableEq, Repr

namespace SessionState

def acquire (s : SessionState) : SessionState :=
  { s with mutex := if s.mutex = .free then .held else .reacquired }

def release (s : SessionState) : SessionState :=
  { s with mutex := .free }

def setError (message : Text) (s : SessionState) : SessionState :=
  let s := s.acquire
  if s.mutex = .reacquired then s
  else
    let lastError := if s.lastError.isEmpty then message else s.lastError
    { s with lastError := lastError }.release

def closeMalformed (error : Text) (s : SessionState) : SessionState :=
  let s := s.setError error
  if s.mutex = .reacquired then s
  else { s with closed := true, reason := .protocolError }.release

def decodeNext (s : SessionState) : SessionState × Bool :=
  let s := s.acquire
  if s.receiveBuffer.length < frameHeaderBytes then (s.release, false)
  else
    match decodeHeader (s.receiveBuffer.take frameHeaderBytes) s.options.limits with
    | .error error => (s.closeMalformed error, false)
    | .ok header =>
      let total := frameHeaderBytes + header.payloadBytes.toNat
      if s.receiveBuffer.length < total then (s.release, false)
      else
        match decodeFrame (s.receiveBuffer.take total) s.options.limits with
        | .error error => (s.closeMalformed error, false)
        | .ok frame =>
          let s := { s with
            receiveBuffer := s.receiveBuffer.drop total
            inbound := s.inbound ++ [frame]
            framesReceived := s.framesReceived + 1 }
          (s.release, true)

def decodeFrames : Nat → SessionState → SessionState
  | 0, s => s
  | fuel + 1, s =>
    match s.decodeNext with
    | (s, true) => decodeFrames fuel s
    | (s, false) => s

def receiveBytes (bytes : List UInt8) (s : SessionState) : SessionState :=
  let s := s.acquire
  let s := { s with
    bytesReceived := s.bytesReceived + UInt64.ofNat bytes.length
    receiveBuffer := s.receiveBuffer ++ bytes }
  s.release

/-- One turn of `session_loop_posix` that has the bytes to read. The thread of a closed session has
left the loop, and one that waits for its own mutex never comes back to it. -/
def turn (bytes : List UInt8) (s : SessionState) : SessionState :=
  if s.closed || s.mutex != .free then s
  else
    let s := s.receiveBytes bytes
    s.decodeFrames (s.receiveBuffer.length + 1)

/-- A `receive` that finds a frame; any other one goes on waiting or answers an error. -/
def receive (s : SessionState) : Option (Frame × SessionState) :=
  match s.mutex, s.inbound with
  | .free, frame :: rest => some (frame, { s with inbound := rest })
  | _, _ => none

end SessionState

inductive Event where
  | chunk (bytes : List UInt8)
  | receive
deriving DecidableEq, Repr

/-- A session and the frames its reader has been given. -/
structure Connection where
  session : SessionState
  received : List Frame := []
deriving DecidableEq, Repr

def Connection.step (c : Connection) : Event → Option Connection
  | .chunk bytes => some { c with session := c.session.turn bytes }
  | .receive =>
    c.session.receive.map fun (frame, session) =>
      { session := session, received := c.received ++ [frame] }

def run (options : TransportOptions) (events : List Event) : Option Connection :=
  events.foldlM Connection.step { session := { options := options } }

end ModelRouter.Transport
