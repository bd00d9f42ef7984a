import ModelRouter.Readmission
import ModelRouter.Spellings

namespace ModelRouter.PlainSpelling

open Base Base.Parse Bytes Ids Limits Capability Evidence Catalog Candidate Authority Persistence
open Codec Stored RecordCodec StateStore Readback Sizes Sorting Canonical Images RoundTrip
open Readmission Spellings Crc32c Sha256

variable {α : Type} {limits : ResourceLimits} {s : StoredState} {bytes payload : List UInt8}
variable {loaded : Loaded} {progress : Progress} {kind : UInt16} {write : α → Put} {xs : List α}
variable {bodies : List (List UInt8)}

def framedAll (kind : UInt16) (bodies : List (List UInt8)) : List UInt8 :=
  (bodies.map (framed kind)).flatten

/-- Each body is read by `p` as the record beside it. -/
def Each (p : Parse Refused α) (bodies : List (List UInt8)) (records : List α) : Prop :=
  List.Forall₂ (fun body record => readBody p [] body = .ok record) bodies records

/-- The one spelling of a payload that is written: the meta record of the length it is written
with, then the records of each kind in the order of their keys; bindings in the order of the
models, the claims of a profile in strictly ascending order, and every boolean 0 or 1. -/
def Plain (limits : ResourceLimits) (bytes : List UInt8) : Prop :=
  ∃ (s : StoredState) (router : List UInt8) (models backends fencedBoots routes : List (List UInt8)),
    bytes.drop persistenceHeaderBytes = framed kRecordMeta router ++
      framedAll kRecordModel models ++ framedAll kRecordBackend backends ++
      framedAll kRecordFenced fencedBoots ++ framedAll kRecordRoute routes ∧
    router.length = 200 ∧
    Each (readModel limits (readOrderedProfile limits)) models s.models ∧
    Each (readBackend limits (readOrderedProfile limits) readFlag) backends s.backends ∧
    Each readFence fencedBoots s.fencedBoots ∧
    Each (readRoute limits) routes s.routes ∧ InOrder s

end ModelRouter.PlainSpelling
