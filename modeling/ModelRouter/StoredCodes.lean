import ModelRouter.Codes
import ModelRouter.Readmission
import ModelRouter.Spellings

namespace ModelRouter.StoredCodes

open Base Base.Parse Ids Outcome Limits Capability Evidence Catalog Decision Codec Messages
open Received Stored RecordCodec StateStore Sorting Spellings Images RoundTrip Readmission Codes
open Base.Walk (skip code text all list)
open Bytes (Text stableSort)

instance : Enumerated ModelLifecycle :=
  .ofCodes [.unknown, .current, .deprecated, .retired]
    ModelLifecycle.ctorIdx (by rintro ⟨⟩ <;> decide) rfl (by decide)

def modelCodes (m : StoredModel) : List Code :=
  [.of ModelLifecycle m.lifecycle.toNat, .of Provenance m.provenance.toNat]

def backendCodes (b : StoredBackend) : List Code :=
  [.of TrustDomain b.trustDomain.toNat, .of Provenance b.provenance.toNat]

def fenceCodes (f : StoredFence) : List Code :=
  [.of OutcomeCode f.reason.toNat]

def routeCodes (r : StoredRoute) : List Code :=
  [.of RouteStatus r.status.toNat, .of OutcomeCode r.code.toNat]

/-- The enumeration fields of a state that need not hold an enumerator. -/
def stateCodes (s : StoredState) : List Code :=
  s.models.flatMap modelCodes ++ (s.backends.flatMap backendCodes ++
    (s.fencedBoots.flatMap fenceCodes ++ s.routes.flatMap routeCodes))

def profileWalk : Walk :=
  all (words 2 ++ [list capabilityWalk])

def modelWalk : Walk :=
  all (words 5 ++ numbers 5 ++ [code 1 ModelLifecycle] ++ words 2 ++
    [profileWalk, code 1 Provenance] ++ words 2 ++ [text])

def backendWalk : Walk :=
  all (words 10 ++ [code 1 TrustDomain, text, skip 4] ++ words 2 ++
    [profileWalk, list bindingWalk, skip 1, code 1 Provenance, skip 8])

def fenceWalk : Walk :=
  all (words 3 ++ [code 2 OutcomeCode, skip 8])

def routeWalk : Walk :=
  all (words 4 ++ [keyWalk, list keyWalk, authorityWalk, code 1 RouteStatus, code 2 OutcomeCode,
    costWalk] ++ words 4 ++ [text, text, skip 8])

def recordWalk (kind : UInt16) : Walk :=
  if kind = kRecordModel then modelWalk
  else if kind = kRecordBackend then backendWalk
  else if kind = kRecordFenced then fenceWalk
  else if kind = kRecordRoute then routeWalk
  else all []

def records : Nat → List UInt8 → List (UInt16 × List UInt8)
  | 0, _ => []
  | fuel + 1, payload =>
    if payload.length < 6 then []
    else
      let length := numberAt 4 2 payload
      (UInt16.ofNat (numberAt 2 0 payload), (payload.drop 6).take length) ::
        records fuel ((payload.drop 6).drop length)

/-- Every code in the records of an image stands for an enumerator. -/
def imageDeclares (bytes : List UInt8) : Bool :=
  let payload := bytes.drop persistenceHeaderBytes
  (records payload.length payload).all fun (kind, body) => (recordWalk kind).declares body

theorem claims_plain {limits : ResourceLimits} {parsed : CapabilityProfile} {n : Nat} :
    Plain (readClaims limits parsed n) (all (List.replicate n capabilityWalk)) := by
  induction n generalizing parsed with
  | zero => exact .done rfl
  | succ n ih => exact .past (capability_plain limits) fun _ => .ofOption fun _ => ih

theorem profile_plain (limits : ResourceLimits) : Plain (readProfile limits) profileWalk :=
  .word fun _ => .word fun _ => .last (.ofCounted fun _ => .settle (.refuse claims_plain))

theorem model_follows (limits : ResourceLimits) :
    Follows (readModel limits (readProfile limits)) modelWalk fun m cs => cs = modelCodes m := by
  iterate 10 refine .word fun _ => ?_
  refine .code fun lifecycle => .word fun _ => .word fun _ => ?_
  refine .past (profile_plain limits).withError fun _ => .code fun provenance => ?_
  exact .word fun _ => .word fun _ => .string fun _ => .done rfl

theorem readBinding_plain (limits : ResourceLimits) :
    Plain (readBinding limits) bindingWalk := by
  iterate 5 refine .word fun _ => ?_
  exact .past (cost_plain limits).withError fun _ => .word fun _ => .done rfl

theorem bindings_plain (limits : ResourceLimits) :
    Plain (readBindings limits) (list bindingWalk) :=
  .ofCounted fun n => .refuse (.manyPlain (readBinding_plain limits) n.toNat)

theorem backend_follows (limits : ResourceLimits) :
    Follows (readBackend limits (readProfile limits) getBool) backendWalk
      fun b cs => cs = backendCodes b := by
  iterate 10 refine .word fun _ => ?_
  refine .code fun trustDomain => .string fun _ => ?_
  iterate 3 refine .word fun _ => ?_
  refine .past (profile_plain limits).withError fun _ => .past (bindings_plain limits) fun _ => ?_
  exact .bool fun _ => .code fun provenance => .word fun _ => .done rfl

theorem fence_follows :
    Follows (readFence : Parse Refused _) fenceWalk fun f cs => cs = fenceCodes f := by
  iterate 3 refine .word fun _ => ?_
  exact .code fun reason => .word fun _ => .done rfl

theorem fallbacks_plain (limits : ResourceLimits) :
    Plain (readFallbacks limits) (list keyWalk) :=
  .ofCounted fun n => .refuse (.manyPlain key_plain n.toNat)

theorem route_follows (limits : ResourceLimits) :
    Follows (readRoute limits) routeWalk fun r cs => cs = routeCodes r := by
  iterate 4 refine .word fun _ => ?_
  refine .past key_plain fun _ => .past (fallbacks_plain limits) fun _ => ?_
  refine .past authority_plain fun _ => .code fun status => .code fun outcome => ?_
  refine .past (cost_plain limits).withError fun _ => ?_
  iterate 4 refine .word fun _ => ?_
  exact .string fun _ => .string fun _ => .word fun _ => .done rfl

section

variable {limits : ResourceLimits}

theorem body_codes {α : Type} {p : Parse Refused α} {w : Walk} {codes : α → List Code}
    {progress progress' : Progress} {next : α → Progress} {detail : Text} {body : List UInt8}
    (hp : Follows p w fun a cs => cs = codes a)
    (hnext : ∀ a, (stateCodes (next a).state).all Code.declared =
      ((stateCodes progress.state).all Code.declared && (codes a).all Code.declared))
    (h : (readBody p detail body >>= fun a => pure (next a)) = .ok progress') :
    (stateCodes progress'.state).all Code.declared =
      ((stateCodes progress.state).all Code.declared && w.declares body) := by
  obtain ⟨a, ha, h⟩ := bind_ok.mp h
  obtain rfl := Except.ok.inj h
  obtain ⟨cs, rfl, hw⟩ := hp _ _ _ (readBody_run ha) rfl
  rw [hnext a, Walk.declares_of_some hw]

theorem readRecord_codes {progress progress' : Progress} {kind : UInt16} {body : List UInt8}
    (h : readRecord limits progress kind body = .ok progress') :
    (stateCodes progress'.state).all Code.declared =
      ((stateCodes progress.state).all Code.declared && (recordWalk kind).declares body) := by
  simp only [readRecord] at h
  split_ifs at h with hmeta hmodel hbackend hfenced hroute
  · obtain ⟨-, h⟩ := demand_bind_ok.mp h
    obtain ⟨state, hstate, h⟩ := bind_ok.mp h
    obtain rfl := Except.ok.inj h
    have hmade := readMeta_returns progress.state ⟨body, none⟩ state _ (Prod.ext hstate rfl)
    have hcodes : stateCodes state = stateCodes progress.state :=
      (congrArg stateCodes hmade).trans rfl
    rw [hmeta, hcodes]
    exact (Bool.and_true _).symm
  · rw [recordWalk, if_pos hmodel]
    refine body_codes (model_follows limits) (fun m => ?_) h
    simp [stateCodes, Bool.and_comm, Bool.and_left_comm]
  · rw [recordWalk, if_neg hmodel, if_pos hbackend]
    refine body_codes (backend_follows limits) (fun b => ?_) h
    simp [stateCodes, Bool.and_comm, Bool.and_left_comm]
  · rw [recordWalk, if_neg hmodel, if_neg hbackend, if_pos hfenced]
    refine body_codes fence_follows (fun f => ?_) h
    simp [stateCodes, Bool.and_comm, Bool.and_left_comm]
  · rw [recordWalk, if_neg hmodel, if_neg hbackend, if_neg hfenced, if_pos hroute]
    refine body_codes (route_follows limits) (fun r => ?_) h
    simp [stateCodes, Bool.and_comm, Bool.and_left_comm]

theorem readRecords_codes {fuel : Nat} {progress final : Progress} {payload : List UInt8}
    (h : readRecords limits fuel progress payload = .ok final) :
    (stateCodes final.state).all Code.declared =
      ((stateCodes progress.state).all Code.declared &&
        (records fuel payload).all fun (kind, body) => (recordWalk kind).declares body) := by
  induction fuel generalizing progress payload with
  | zero =>
      cases payload with
      | nil =>
          obtain rfl := Except.ok.inj h
          exact (Bool.and_true _).symm
      | cons x xs => cases h
  | succ fuel ih =>
      cases payload with
      | nil =>
          obtain rfl := Except.ok.inj h
          exact (Bool.and_true _).symm
      | cons x xs =>
          simp only [readRecords, bind_ok, demand_ok, exists_const, decide_eq_true_iff] at h
          obtain ⟨hheader, -, -, progress', hrecord, h⟩ := h
          rw [ih h, readRecord_codes hrecord, records, if_neg (Nat.not_lt.mpr hheader),
            List.all_cons, Bool.and_assoc]

end

theorem canonicalize_codes (s : StoredState) :
    (stateCodes s.canonicalize).all Code.declared = (stateCodes s).all Code.declared := by
  have hbackends : s.canonicalize.backends.flatMap backendCodes =
      (stableSort StoredBackend.less s.backends).flatMap backendCodes :=
    List.flatMap_map ..
  have hperm : (stateCodes s.canonicalize).Perm (stateCodes s) := by
    rw [stateCodes, hbackends]
    exact ((stableSort_perm _ _).flatMap_right _).append
      (((stableSort_perm _ _).flatMap_right _).append
        (((stableSort_perm _ _).flatMap_right _).append ((stableSort_perm _ _).flatMap_right _)))
  exact hperm.all_eq

theorem decode_codes {bytes : List UInt8} {limits : ResourceLimits} {loaded : Loaded}
    (h : StateStore.decode bytes limits = .ok loaded) :
    imageDeclares bytes = (stateCodes loaded.state).all Code.declared := by
  obtain ⟨progress, haccepted⟩ := decode_ok h
  rw [haccepted.state, canonicalize_codes, readRecords_codes haccepted.read]
  exact (Bool.true_and _).symm

/-- What a decoder accepts holds an enumerator in every enumeration field exactly when the bytes do
wherever the decoder does not look. -/
theorem accepted_declared_iff (bytes : List UInt8) (limits : ResourceLimits) :
    (∀ (m : Message) (message : ReceivedMessage),
      Received.decodeAs m bytes limits = .ok message →
        ((∀ c ∈ messageCodes message, c.declared = true) ↔
          (messageWalk m).declares bytes = true)) ∧
      ∀ loaded : Loaded, StateStore.decode bytes limits = .ok loaded →
        ((∀ c ∈ stateCodes loaded.state, c.declared = true) ↔ imageDeclares bytes = true) := by
  constructor
  · intro m message h
    rw [decodeAs_codes h, List.all_eq_true]
  · intro loaded h
    rw [decode_codes h, List.all_eq_true]

/-- An error of an outcome of the protocol, and a file with a record of each kind. -/
theorem declared_accepted :
    (∃ message, Received.decodeAs (.error {}) [64, 0, 0, 0, 0, 0] {} = .ok message ∧
        ∀ c ∈ messageCodes message, c.declared = true) ∧
      ∃ image loaded, encode (store smallState) {} = .ok image ∧
        StateStore.decode image.bytes {} = .ok loaded ∧ imageDeclares image.bytes = true := by
  constructor
  · have hdecode : Received.decodeAs (.error {}) [64, 0, 0, 0, 0, 0] {} =
        .ok (.error ⟨64, []⟩) := by
      decide +kernel
    exact ⟨_, hdecode, ((accepted_declared_iff _ _).1 _ _ hdecode).mpr (by decide +kernel)⟩
  · obtain ⟨image, hencode⟩ := smallState_encodes
    obtain ⟨loaded, hdecode⟩ :=
      (decode_accepts_iff smallState_ordered hencode).mpr (by decide +kernel)
    refine ⟨image, loaded, hencode, hdecode, ((accepted_declared_iff _ _).2 _ hdecode).mp ?_⟩
    rw [decode_encode smallState_ordered hencode hdecode]
    exact show ∀ c ∈ stateCodes (store smallState.canonicalize), c.declared = true by decide +kernel

/-- A file with a fence whose reason is no outcome. -/
def undeclaredFile : StoredState where
  routerId := ⟨1⟩
  routerGeneration := ⟨1⟩
  fencedBoots := [{ backendId := ⟨7⟩, backendBoot := ⟨2⟩, reason := 65535 }]

/-- An error with a code past every outcome is accepted, and so is such a file. -/
theorem undeclared_accepted :
    Received.decodeAs (.error {}) [255, 255, 0, 0, 0, 0] {} = .ok (.error ⟨65535, []⟩) ∧
      (∃ image loaded, encode undeclaredFile {} = .ok image ∧
        StateStore.decode image.bytes {} = .ok loaded ∧
        loaded.state.fencedBoots = undeclaredFile.fencedBoots) ∧
      ¬((∀ (m : Message) (payload : List UInt8) (limits : ResourceLimits)
          (message : ReceivedMessage), Received.decodeAs m payload limits = .ok message →
            ∀ c ∈ messageCodes message, c.declared = true) ∧
        ∀ (bytes : List UInt8) (limits : ResourceLimits) (loaded : Loaded),
          StateStore.decode bytes limits = .ok loaded →
            ∀ c ∈ stateCodes loaded.state, c.declared = true) := by
  have hmessage : Received.decodeAs (.error {}) [255, 255, 0, 0, 0, 0] {} =
      .ok (.error ⟨65535, []⟩) := by
    decide +kernel
  refine ⟨hmessage, ?_, fun h => ?_⟩
  · obtain ⟨image, hencode⟩ : ∃ image, encode undeclaredFile {} = .ok image :=
      encode_accepts.mpr (by decide +kernel)
    have hordered : StateOrdered undeclaredFile := by decide +kernel
    obtain ⟨loaded, hdecode⟩ := (decode_accepts_iff hordered hencode).mpr (by decide +kernel)
    obtain ⟨-, rfl⟩ := (decode_encoded {} hordered hencode).ok_iff.mp hdecode
    exact ⟨image, _, hencode, hdecode, rfl⟩
  · have hcode := h.1 _ _ _ _ hmessage (.of OutcomeCode 65535) (by decide)
    exact absurd hcode (by decide)

end ModelRouter.StoredCodes
