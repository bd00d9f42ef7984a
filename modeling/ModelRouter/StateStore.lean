import ModelRouter.Base.Attempt
import ModelRouter.Base.Fields
import ModelRouter.Crc32c
import ModelRouter.RecordCodec

namespace ModelRouter.StateStore

open Base Base.Parse Bytes Outcome Limits Persistence Codec Stored RecordCodec Crc32c Sha256
open Base.Put (puts)

def kRecordMeta : UInt16 := 1
def kRecordModel : UInt16 := 2
def kRecordBackend : UInt16 := 3
def kRecordFenced : UInt16 := 4
def kRecordRoute : UInt16 := 5

def persistenceHeaderBytes : Nat := 72

def persistenceMagic : List UInt8 := [0x4D, 0x52, 0x53, 0x54, 0x41, 0x54, 0x45, 0]

def persistenceFormatVersion : Nat := 1

variable {α : Type}

def writeRecord (kind : UInt16) (body : Put) : Put :=
  body.bind fun bytes => puts [putU16 kind, putCount bytes, some bytes]

def bounded (w : Put) (detail : Text) : Except PersistenceResult (List UInt8) :=
  match w with
  | some bytes => .ok bytes
  | none => .error { code := .rejectLimit, detail := detail }

def recordsOf (kind : UInt16) (write : α → Put) (xs : List α) : Put :=
  puts (xs.map fun x => writeRecord kind (write x))

def encodePayload (limits : ResourceLimits) (s : StoredState) :
    Except PersistenceResult (List UInt8) := do
  let router ← bounded (writeRecord kRecordMeta (writeMeta s))
    "meta record exceeds the configured bounds"
  let models ← bounded (recordsOf kRecordModel (writeModel limits) s.models)
    "model record exceeds the configured bounds"
  let backends ← bounded (recordsOf kRecordBackend (writeBackend limits) s.backends)
    "backend record exceeds the configured bounds"
  let fencedBoots ← bounded (recordsOf kRecordFenced writeFence s.fencedBoots)
    "fenced record exceeds the configured bounds"
  let routes ← bounded (recordsOf kRecordRoute (writeRoute limits) s.routes)
    "route record exceeds the configured bounds"
  return router ++ models ++ backends ++ fencedBoots ++ routes

def recordCount (s : StoredState) : UInt32 :=
  UInt32.ofNat (1 + s.models.length + s.backends.length + s.fencedBoots.length + s.routes.length)

def coveredHeader (records : UInt32) (payload : List UInt8) : List UInt8 :=
  persistenceMagic ++ littleEndian 4 persistenceFormatVersion ++
    littleEndian 4 persistenceHeaderBytes ++ littleEndian 4 0 ++ littleEndian 4 records.toNat ++
    littleEndian 8 payload.length ++ littleEndian 4 (crc32c payload).toNat

def imageBytes (records : UInt32) (digest payload : List UInt8) : List UInt8 :=
  let header := coveredHeader records payload
  header ++ littleEndian 4 (crc32c header).toNat ++ digest ++ payload

structure Image where
  bytes : List UInt8
  records : UInt32
deriving DecidableEq, Repr

/-- The image of a state, when the state is accepted. -/
def encode (s : StoredState) (limits : ResourceLimits) : Except PersistenceResult Image := do
  let canonical := s.canonicalize
  let problem := canonical.validate limits
  demand problem.isNone { code := .rejectInvalid, detail := problem.getD [] }
  let payload ← encodePayload limits canonical
  let records := recordCount canonical
  demand (records ≤ limits.maxPersistenceRecords)
    { code := .rejectLimit, detail := "record count exceeds the configured persistence limit" }
  demand (persistenceHeaderBytes + payload.length ≤ limits.maxPersistenceBytes.toNat)
    { code := .rejectLimit, detail := "persistence image exceeds the configured byte limit" }
  let digest := sha256 (canonicalTextBytes canonical)
  return { bytes := imageBytes records digest payload, records := records }

/-- What the record loop has built so far. -/
structure Progress where
  state : StoredState := {}
  seen : UInt32 := 0
  haveMeta : Bool := false
deriving DecidableEq, Repr

def readRecord (limits : ResourceLimits) (progress : Progress) (kind : UInt16)
    (body : List UInt8) : Except Refused Progress :=
  let state := progress.state
  if kind = kRecordMeta then do
    demand (!progress.haveMeta)
      (malformed "persistence image contains more than one meta record")
    let state ← ((readMeta state).run ⟨body, none⟩).1
    return { progress with state := state, haveMeta := true }
  else if kind = kRecordModel then do
    let record ← readBody (readModel limits (readProfile limits))
      "persistence model record is malformed" body
    return { progress with state := { state with models := state.models ++ [record] } }
  else if kind = kRecordBackend then do
    let record ← readBody (readBackend limits (readProfile limits) getBool)
      "persistence backend record is malformed" body
    return { progress with state := { state with backends := state.backends ++ [record] } }
  else if kind = kRecordFenced then do
    let record ← readBody readFence "persistence fenced record is malformed" body
    return { progress with state := { state with fencedBoots := state.fencedBoots ++ [record] } }
  else if kind = kRecordRoute then do
    let record ← readBody (readRoute limits) "persistence route record is malformed" body
    return { progress with state := { state with routes := state.routes ++ [record] } }
  else .error (malformed "persistence record has an unknown record kind")

def readRecords (limits : ResourceLimits) :
    Nat → Progress → List UInt8 → Except Refused Progress
  | _, progress, [] => .ok progress
  | 0, _, _ :: _ => .error (malformed [])
  | fuel + 1, progress, payload@(_ :: _) => do
    demand (6 ≤ payload.length) (malformed "persistence payload ends inside a record header")
    let kind := UInt16.ofNat (numberAt 2 0 payload)
    let length := numberAt 4 2 payload
    let rest := payload.drop 6
    demand (length ≤ rest.length)
      (malformed "persistence record length exceeds the remaining payload")
    let seen := progress.seen + 1
    demand (seen ≤ limits.maxPersistenceRecords)
      (overLimit "persistence record count exceeds the configured limit")
    let progress ← readRecord limits { progress with seen := seen } kind (rest.take length)
    readRecords limits fuel progress (rest.drop length)

/-- A load that was accepted. -/
structure Loaded where
  state : StoredState
  recordCount : UInt32
deriving DecidableEq, Repr

def decode (bytes : List UInt8) (limits : ResourceLimits) : Except Refused Loaded := do
  demand (persistenceHeaderBytes ≤ bytes.length)
    { code := .rejectInvalid, detail := "persistence image is shorter than its header" }
  demand (bytes.length ≤ limits.maxPersistenceBytes.toNat)
    { code := .rejectLimit, detail := "persistence image exceeds the configured byte limit" }
  demand (bytes.take 8 == persistenceMagic)
    { code := .rejectInvalid, detail := "persistence magic does not match" }
  let version := numberAt 4 8 bytes
  demand (version == persistenceFormatVersion)
    { code := .rejectInvalid
      detail := text "unsupported persistence format version " ++ decimal version
      formatVersion := UInt32.ofNat version }
  demand (numberAt 4 12 bytes == persistenceHeaderBytes)
    (malformed "persistence header size is not the format's header size")
  demand (numberAt 4 16 bytes == 0) (malformed "persistence header carries unknown flags")
  let records := UInt32.ofNat (numberAt 4 20 bytes)
  let payloadBytes := numberAt 8 24 bytes
  demand (numberAt 4 36 bytes == (crc32c (bytes.take 36)).toNat)
    (malformed "persistence header checksum mismatch")
  demand (payloadBytes ≤ limits.maxPayloadBytes.toNat)
    (overLimit "persistence payload length exceeds the configured limit")
  demand (persistenceHeaderBytes + payloadBytes == bytes.length)
    (malformed (if bytes.length < persistenceHeaderBytes + payloadBytes
      then "persistence image is truncated" else "persistence image has trailing garbage"))
  let payload := bytes.drop persistenceHeaderBytes
  demand ((crc32c payload).toNat == numberAt 4 32 bytes)
    (malformed "persistence payload checksum mismatch")
  let progress ← readRecords limits payload.length {} payload
  demand progress.haveMeta (malformed "persistence image has no meta record")
  demand (progress.seen == records)
    (malformed "persistence record count does not match the header")
  let state := progress.state.canonicalize
  let problem := state.validate limits
  demand problem.isNone (malformed (problem.getD []))
  demand (sha256 (canonicalTextBytes state) == (bytes.drop 40).take 32)
    (malformed "persistence semantic digest does not match the decoded state")
  return { state := state, recordCount := records }

end ModelRouter.StateStore
