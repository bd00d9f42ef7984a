import ModelRouter.Base.Refusal
import ModelRouter.Bytes
import ModelRouter.Ids

namespace ModelRouter.Capability

open Base.Refusal Bytes Ids

abbrev UnixMillis := Int64

def kNoExpiry : UnixMillis := 0

/-- The shape of every expiry test of the source: an instant at or past a set deadline. -/
def expiredAt (now expiresAt : UnixMillis) : Bool :=
  expiresAt != kNoExpiry && (now ≥ expiresAt)

inductive CapabilityState where
  | unknown | declared | observed | verified | revoked | stale | unsupported
deriving DecidableEq, Repr, Inhabited

namespace CapabilityState

def name : CapabilityState → Text
  | unknown => "UNKNOWN" | declared => "DECLARED" | observed => "OBSERVED"
  | verified => "VERIFIED" | revoked => "REVOKED" | stale => "STALE"
  | unsupported => "UNSUPPORTED"

def isSatisfying : CapabilityState → Bool
  | declared | observed | verified => true
  | _ => false

def evidenceStrength : CapabilityState → Nat
  | unknown => 0 | declared => 1 | observed => 2 | verified => 3 | _ => 0

end CapabilityState

abbrev CapabilityKey := Text

def kMaxCapabilityKeyBytes : Nat := 128

def byteOf (c : Char) : UInt8 :=
  c.toUInt8

def isKeyCharacter (ch : UInt8) : Bool :=
  (byteOf 'a' ≤ ch && ch ≤ byteOf 'z') || (byteOf '0' ≤ ch && ch ≤ byteOf '9') ||
    ch == byteOf '.' || ch == byteOf '-' || ch == byteOf '_' || ch == byteOf '/'

/-- The character loop shared by the key validations: every byte is admissible and no two
separators meet. -/
def scanSegments (admissible : UInt8 → Bool) (invalid emptySegment : Text) (previous : Bool) :
    Text → Option Text
  | [] => none
  | ch :: rest =>
    if !admissible ch then some invalid
    else if ch == byteOf '/' then
      if previous then some emptySegment else scanSegments admissible invalid emptySegment true rest
    else scanSegments admissible invalid emptySegment false rest

namespace CapabilityKey

def validate (value : Text) : Option Text :=
  violation value.isEmpty "capability key is empty" <|>
  violation ((value.length > kMaxCapabilityKeyBytes)) "capability key exceeds 128 bytes" <|>
  violation (value.head? == some (byteOf '/') || value.getLast? == some (byteOf '/'))
    "capability key has a leading or trailing separator" <|>
  scanSegments isKeyCharacter "capability key contains an invalid character"
    "capability key contains an empty segment" false value <|>
  violation (!value.contains (byteOf '/')) "capability key must be namespaced, for example domain/name"

end CapabilityKey

structure CapabilityEvidence where
  key : CapabilityKey := []
  state : CapabilityState := .unknown
  generation : CapabilityGeneration := {}
  profileId : CapabilityProfileId := {}
  modelGeneration : ModelGeneration := {}
  backendGeneration : BackendGeneration := {}
  backendBoot : BackendBootId := {}
  observedAtUnixMillis : UnixMillis := 0
  expiresAtUnixMillis : UnixMillis := kNoExpiry
  source : Text := []
  detail : Text := []
deriving DecidableEq, Repr

def CapabilityEvidence.expired (e : CapabilityEvidence) (now : UnixMillis) : Bool :=
  expiredAt now e.expiresAtUnixMillis

structure CapabilityRequirement where
  key : CapabilityKey := []
  minimumState : CapabilityState := .declared
deriving DecidableEq, Repr

/-- A set of capability claims, kept in key order by `set` and `erase`. -/
structure CapabilityProfile where
  id : CapabilityProfileId := {}
  generation : CapabilityGeneration := {}
  entries : List CapabilityEvidence := []
deriving DecidableEq, Repr

namespace CapabilityProfile

/-- The claims below a key and the claims from it on, as `std::lower_bound` splits them. -/
def split (key : CapabilityKey) (entries : List CapabilityEvidence) :
    List CapabilityEvidence × List CapabilityEvidence :=
  (entries.takeWhile (fun entry => (entry.key < key)),
    entries.dropWhile (fun entry => (entry.key < key)))

/-- Insert or replace the claim for its key; `none` when the entry bound is reached. -/
def set (p : CapabilityProfile) (evidence : CapabilityEvidence) (maxEntries : UInt32) :
    Option CapabilityProfile :=
  match split evidence.key p.entries with
  | (below, existing :: above) =>
    if existing.key = evidence.key then some { p with entries := below ++ evidence :: above }
    else if p.entries.length ≥ maxEntries.toNat then none
    else some { p with entries := below ++ evidence :: existing :: above }
  | (below, []) =>
    if p.entries.length ≥ maxEntries.toNat then none
    else some { p with entries := below ++ [evidence] }

def erase (p : CapabilityProfile) (key : CapabilityKey) : Option CapabilityProfile :=
  match split key p.entries with
  | (below, existing :: above) =>
    if existing.key = key then some { p with entries := below ++ above } else none
  | (_, []) => none

def find (p : CapabilityProfile) (key : CapabilityKey) : Option CapabilityEvidence :=
  match (split key p.entries).2 with
  | existing :: _ => if existing.key = key then some existing else none
  | [] => none

/-- `none` when the requirement is satisfied, otherwise the rejection reason. -/
def evaluate (p : CapabilityProfile) (requirement : CapabilityRequirement) (now : UnixMillis) :
    Option Text :=
  if requirement.key.isEmpty then some "required capability key is empty"
  else match p.find requirement.key with
    | none => some ("capability " ++ requirement.key ++ " has no evidence")
    | some evidence =>
      violation (evidence.state == .unknown) ("capability " ++ requirement.key ++ " is UNKNOWN") <|>
      violation (!evidence.state.isSatisfying)
        ("capability " ++ requirement.key ++ " is " ++ evidence.state.name) <|>
      violation (evidence.expired now)
        ("capability " ++ requirement.key ++ " evidence is stale") <|>
      refuse
        ((evidence.state.evidenceStrength < requirement.minimumState.evidenceStrength))
        ("capability " ++ requirement.key ++ " evidence is " ++ evidence.state.name ++ " but " ++
          requirement.minimumState.name ++ " is required")

end CapabilityProfile

structure BackendCapabilityPublication where
  backendId : BackendId := {}
  backendGeneration : BackendGeneration := {}
  backendBoot : BackendBootId := {}
  profileId : CapabilityProfileId := {}
  generation : CapabilityGeneration := {}
  claims : List CapabilityEvidence := []
deriving DecidableEq, Repr

end ModelRouter.Capability
