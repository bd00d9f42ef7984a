import ModelRouter.Base.Attempt
import ModelRouter.Base.Fields
import ModelRouter.Crc32c
import ModelRouter.Limits

namespace ModelRouter.Frames

open Base Bytes Limits Crc32c

def frameMagic : UInt32 := 0x4D525446

def frameHeaderBytes : Nat := 24

def protocolVersion : UInt32 := 1

inductive MessageType where
  | invalid | hello | helloAck | backendRegister | backendRegisterAck | capabilityPublish
  | healthUpdate | availabilityUpdate | readinessUpdate | residencyUpdate | capacityUpdate
  | latencyUpdate | costUpdate | routeRequest | routeResponse | dispatch | dispatchResult
  | completion | fence | ping | pong | bye | errorMessage | snapshotRequest | snapshotResponse
  | adminRequest | adminResponse
deriving DecidableEq, Repr

instance : Enumerated MessageType :=
  .ofCodes [.invalid, .hello, .helloAck, .backendRegister, .backendRegisterAck,
    .capabilityPublish, .healthUpdate, .availabilityUpdate, .readinessUpdate, .residencyUpdate,
    .capacityUpdate, .latencyUpdate, .costUpdate, .routeRequest, .routeResponse, .dispatch,
    .dispatchResult, .completion, .fence, .ping, .pong, .bye, .errorMessage, .snapshotRequest,
    .snapshotResponse, .adminRequest, .adminResponse]
    MessageType.ctorIdx (by rintro ⟨⟩ <;> decide) rfl (by decide)

def MessageType.kCount : Nat :=
  (Enumerated.all : List MessageType).length

structure FrameHeader where
  magic : UInt32 := frameMagic
  protocolVersion : UInt16 := 0
  messageType : UInt16 := 0
  flags : UInt32 := 0
  payloadBytes : UInt32 := 0
  headerCrc32c : UInt32 := 0
  payloadCrc32c : UInt32 := 0
deriving DecidableEq, Repr

structure Frame where
  header : FrameHeader := {}
  payload : List UInt8 := []
deriving DecidableEq, Repr

def coveredBytes (header : FrameHeader) : List UInt8 :=
  littleEndian 4 header.magic.toNat ++ littleEndian 2 header.protocolVersion.toNat ++
    littleEndian 2 header.messageType.toNat ++ littleEndian 4 header.flags.toNat ++
    littleEndian 4 header.payloadBytes.toNat

def putHeader (header : FrameHeader) : List UInt8 :=
  coveredBytes header ++ littleEndian 4 header.headerCrc32c.toNat ++
    littleEndian 4 header.payloadCrc32c.toNat

def knownType (messageType : UInt16) : Bool :=
  !(messageType.toNat == 0 || MessageType.kCount ≤ messageType.toNat)

def payloadFits (limits : ResourceLimits) (payloadBytes : Nat) : Bool :=
  !(payloadBytes > limits.maxFramePayloadBytes.toNat || payloadBytes > limits.maxPayloadBytes.toNat)

/-- A frame with its length and its checksums computed. -/
def withChecksums (frame : Frame) : Frame :=
  let header := { frame.header with
    payloadBytes := UInt32.ofNat frame.payload.length, payloadCrc32c := crc32c frame.payload }
  let header := { header with headerCrc32c := crc32c ((putHeader header).take 16) }
  { frame with header := header }

def frameBytes (frame : Frame) : List UInt8 :=
  putHeader frame.header ++ frame.payload

def encodeFrame (frame : Frame) (limits : ResourceLimits) : Except Text (List UInt8) := do
  demand (frame.header.magic == frameMagic) "frame magic is not the protocol magic"
  demand (frame.header.protocolVersion.toUInt32 == protocolVersion)
    "frame protocol version is not supported"
  demand (knownType frame.header.messageType) "frame message type is not a known message type"
  demand (payloadFits limits frame.payload.length) "frame payload exceeds the configured limit"
  let out := frameBytes (withChecksums frame)
  demand (out.length ≤ limits.maxFrameBytes.toNat) "encoded frame exceeds the configured byte limit"
  return out

def headerAt (bytes : List UInt8) : FrameHeader where
  magic := UInt32.ofNat (numberAt 4 0 bytes)
  protocolVersion := UInt16.ofNat (numberAt 2 4 bytes)
  messageType := UInt16.ofNat (numberAt 2 6 bytes)
  flags := UInt32.ofNat (numberAt 4 8 bytes)
  payloadBytes := UInt32.ofNat (numberAt 4 12 bytes)
  headerCrc32c := UInt32.ofNat (numberAt 4 16 bytes)
  payloadCrc32c := UInt32.ofNat (numberAt 4 20 bytes)

def decodeHeader (bytes : List UInt8) (limits : ResourceLimits) : Except Text FrameHeader := do
  demand (frameHeaderBytes ≤ bytes.length) "frame header is truncated"
  let header := headerAt bytes
  demand (header.magic == frameMagic) "frame magic does not match"
  demand (header.protocolVersion.toUInt32 == protocolVersion)
    "frame protocol version is not supported"
  demand (knownType header.messageType) "frame message type is not a known message type"
  demand (header.headerCrc32c == crc32c (bytes.take 16)) "frame header checksum mismatch"
  demand (payloadFits limits header.payloadBytes.toNat)
    "declared frame payload length exceeds the configured limit"
  return header

def decodeFrame (bytes : List UInt8) (limits : ResourceLimits) : Except Text Frame := do
  let header ← decodeHeader bytes limits
  let expected := frameHeaderBytes + header.payloadBytes.toNat
  demand (bytes.length == expected)
    (if bytes.length < expected then "frame is truncated" else "frame has trailing bytes" : Text)
  let payload := bytes.drop frameHeaderBytes
  demand (crc32c payload == header.payloadCrc32c) "frame payload checksum mismatch"
  return { header := header, payload := payload }

end ModelRouter.Frames
