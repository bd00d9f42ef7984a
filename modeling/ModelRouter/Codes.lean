import ModelRouter.Base.Walk
import ModelRouter.Received
import ModelRouter.StateStore

namespace ModelRouter.Codes

open Base Base.Parse Ids Outcome Limits Capability Evidence Catalog Candidate Authority
open Request Decision Codec Messages Protocol Received Stored RecordCodec StateStore
open Base.Walk (skip code text all list)

/-! Where the enumerations that no reader looks at stand in the payloads of the messages. -/

def backendCodes (b : ReceivedBackend) : List Code :=
  [.of TrustDomain b.trustDomain.toNat, .of Provenance b.provenance.toNat]

def requirementsCodes (r : ReceivedRequirements) : List Code :=
  [.of CapabilityState r.minimumCapabilityEvidence.toNat, .of TrustDomain r.minimumTrust.toNat,
    .of FallbackPolicy r.fallbackPolicy.toNat]

def rejectionCodes (r : ReceivedRejection) : List Code :=
  [.of OutcomeCode r.code.toNat]

def decisionCodes (d : ReceivedDecision) : List Code :=
  [.of RouteStatus d.status.toNat, .of OutcomeCode d.code.toNat,
    .of Currentness d.currentness.toNat, .of OutcomeCode d.policyResult.toNat] ++
    d.rejections.flatMap rejectionCodes

/-- The enumeration fields of a message that need not hold an enumerator. -/
def messageCodes : ReceivedMessage → List Code
  | .helloAck m => [.of OutcomeCode m.code.toNat]
  | .backendRegister b => backendCodes b
  | .backendRegisterAck m => [.of OutcomeCode m.code.toNat]
  | .routeRequest r => requirementsCodes r.requirements
  | .routeResponse m => .of OutcomeCode m.code.toNat :: decisionCodes m.decision
  | .dispatchResult m => [.of OutcomeCode m.code.toNat]
  | .error m => [.of OutcomeCode m.code.toNat]
  | .adminResponse m => [.of OutcomeCode m.code.toNat]
  | .checked _ => []

theorem of_declared (m : Message) : ∀ c ∈ messageCodes (.of m), c.declared = true := by
  have hrejections (rejections : List RouteRejection) :
      ∀ c ∈ (rejections.map ReceivedRejection.of).flatMap rejectionCodes, c.declared = true := by
    intro c hc
    obtain ⟨received, hreceived, hc⟩ := List.mem_flatMap.mp hc
    obtain ⟨rejection, -, rfl⟩ := List.mem_map.mp hreceived
    rw [List.mem_singleton.mp hc]
    simp [ReceivedRejection.of]
  cases m with
  | routeResponse m =>
      have hcodes := hrejections m.decision.explanation.rejections
      simpa [messageCodes, ReceivedMessage.of, ReceivedResponse.of, decisionCodes,
        ReceivedDecision.of] using hcodes
  | _ =>
      simp [messageCodes, ReceivedMessage.of, backendCodes, requirementsCodes, ReceivedBackend.of,
        ReceivedRequest.of, ReceivedRequirements.of, ReceivedHelloAck.of,
        ReceivedBackendRegisterAck.of, ReceivedDispatchResult.of, ReceivedError.of,
        ReceivedAdminResponse.of]

abbrev words (n : Nat) : List Walk :=
  List.replicate n (skip 8)

abbrev numbers (n : Nat) : List Walk :=
  List.replicate n (skip 4)

abbrev flags (n : Nat) : List Walk :=
  List.replicate n (skip 1)

def keyWalk : Walk :=
  all (words 8)

def authorityWalk : Walk :=
  all (words 44)

def capabilityWalk : Walk :=
  all ([text, skip 1] ++ words 7 ++ [text, text])

def costWalk : Walk :=
  all (words 4 ++ [text, text] ++ words 6 ++ [skip 1] ++ words 2 ++ [text])

def bindingWalk : Walk :=
  all (words 3 ++ numbers 2 ++ [costWalk, skip 8])

def backendWalk : Walk :=
  all (words 10 ++ [text, text, skip 4] ++ words 2 ++ [code 1 TrustDomain, text, skip 4] ++
    words 4 ++ [list bindingWalk, skip 4, skip 1, code 1 Provenance] ++ words 2)

def requirementsWalk : Walk :=
  all ([list (all [text, skip 1]), list text, code 1 CapabilityState] ++ numbers 4 ++ flags 6 ++
    [skip 4] ++ List.replicate 8 (all [list (skip 8)]) ++ flags 3 ++
    [list text, list text, code 1 TrustDomain] ++ flags 2 ++ [text, text, skip 8] ++ numbers 2 ++
    flags 9 ++ [text, skip 4] ++ words 3 ++ flags 4 ++ words 3 ++
    [skip 1, code 1 FallbackPolicy] ++ flags 4 ++ numbers 2)

def requestWalk : Walk :=
  all (words 18 ++ numbers 2 ++ words 2 ++ [requirementsWalk])

def rejectionWalk : Walk :=
  all (words 6 ++ [code 2 OutcomeCode, text])

def factorWalk : Walk :=
  all (flags 2 ++ words 5 ++ [text])

def rankedWalk : Walk :=
  all [keyWalk, skip 8, skip 4, list factorWalk]

def decisionWalk : Walk :=
  all (words 4 ++ [code 1 RouteStatus, code 2 OutcomeCode, authorityWalk, keyWalk, list keyWalk,
    skip 4, skip 4, text, text, text, code 1 Currentness, code 2 OutcomeCode, costWalk,
    list rankedWalk, list rejectionWalk, skip 8])

def responseWalk : Walk :=
  all [code 2 OutcomeCode, skip 1, decisionWalk, text]

def helloAckWalk : Walk :=
  all (words 3 ++ [code 2 OutcomeCode, text])

def backendRegisterAckWalk : Walk :=
  all (words 2 ++ [code 2 OutcomeCode, text])

def dispatchResultWalk : Walk :=
  all (words 2 ++ [code 2 OutcomeCode, skip 1, skip 4, text])

def errorWalk : Walk :=
  all [code 2 OutcomeCode, text]

def adminResponseWalk : Walk :=
  all [code 2 OutcomeCode, text, text]

/-- The way through the payload of a message of the kind of `m`. -/
def messageWalk : Message → Walk
  | .helloAck _ => helloAckWalk
  | .backendRegister _ => backendWalk
  | .backendRegisterAck _ => backendRegisterAckWalk
  | .routeRequest _ => requestWalk
  | .routeResponse _ => responseWalk
  | .dispatchResult _ => dispatchResultWalk
  | .error _ => errorWalk
  | .adminResponse _ => adminResponseWalk
  | _ => all []

section

variable {ε : Type}

theorem key_plain : Plain (getCandidateKey : Parse ε _) keyWalk := by
  iterate 8 refine .word fun _ => ?_
  exact .done rfl

theorem authority_plain : Plain (getAuthority : Parse ε _) authorityWalk := by
  iterate 44 refine .word fun _ => ?_
  exact .done rfl

end

theorem capability_plain (limits : ResourceLimits) :
    Plain (getCapability limits) capabilityWalk := by
  refine .string fun _ => ?_
  iterate 8 refine .word fun _ => ?_
  exact .string fun _ => .string fun _ => .settle (.ofOption fun _ => .done rfl)

theorem cost_plain (limits : ResourceLimits) : Plain (getCost limits) costWalk := by
  iterate 4 refine .word fun _ => ?_
  refine .string fun _ => .string fun _ => ?_
  iterate 9 refine .word fun _ => ?_
  exact .string fun _ => .settle (.ofOption fun _ => .done rfl)

theorem binding_plain (limits : ResourceLimits) :
    Plain (Protocol.getBinding limits) bindingWalk := by
  iterate 5 refine .word fun _ => ?_
  exact .past (cost_plain limits).withError fun _ => .word fun _ => .done rfl

section

variable {α : Type} {read : Parse Stop α} {w : Walk} {limit : UInt32}

theorem list_follows {codes : α → List Code} (h : Follows read w fun a cs => cs = codes a) :
    Follows (getList limit read) (list w) fun xs cs => cs = xs.flatMap codes :=
  .ofCounted fun n => .settle (.refuse (.ofMany h n.toNat))

theorem list_plain (h : Plain read w) : Plain (getList limit read) (list w) :=
  .ofCounted fun n => .settle (.refuse (.manyPlain h n.toNat))

end

theorem backend_follows (limits : ResourceLimits) :
    Follows (Received.getBackend limits) backendWalk fun b cs => cs = backendCodes b := by
  iterate 10 refine .word fun _ => ?_
  refine .string fun _ => .string fun _ => ?_
  iterate 3 refine .word fun _ => ?_
  refine .code fun trustDomain => .string fun _ => ?_
  iterate 5 refine .word fun _ => ?_
  refine .past (list_plain (binding_plain limits)) fun _ => .word fun _ => .bool fun _ => ?_
  refine .code fun provenance => .word fun _ => .word fun _ => ?_
  exact .settle (.done rfl)

theorem requirement_plain (limits : ResourceLimits) :
    Plain (getRequirement limits) (all [text, skip 1]) :=
  .string fun _ => .word fun _ => .settle (.ofOption fun _ => .done rfl)

theorem ids_plain {t : Tag} (limits : ResourceLimits) :
    Plain (getIds limits : Parse Stop (List (EntityId t))) (all [list (skip 8)]) :=
  .past (list_plain .ofWord) fun _ => .settle (.done rfl)

theorem requirements_follows (limits : ResourceLimits) :
    Follows (Received.getRequirements limits) requirementsWalk
      fun r cs => cs = requirementsCodes r := by
  refine .past (list_plain (requirement_plain limits)) fun _ => ?_
  refine .past (list_plain .ofString) fun _ => ?_
  refine .code fun minimumCapabilityEvidence => ?_
  iterate 4 refine .word fun _ => ?_
  iterate 6 refine .bool fun _ => ?_
  refine .word fun _ => ?_
  iterate 8 refine .past (ids_plain limits) fun _ => ?_
  iterate 3 refine .bool fun _ => ?_
  iterate 2 refine .past (list_plain .ofString) fun _ => ?_
  refine .code fun minimumTrust => .bool fun _ => .bool fun _ => ?_
  refine .string fun _ => .string fun _ => ?_
  iterate 3 refine .word fun _ => ?_
  iterate 9 refine .bool fun _ => ?_
  refine .string fun _ => ?_
  iterate 4 refine .word fun _ => ?_
  iterate 4 refine .bool fun _ => ?_
  iterate 3 refine .word fun _ => ?_
  refine .bool fun _ => .code fun fallbackPolicy => ?_
  iterate 4 refine .bool fun _ => ?_
  iterate 2 refine .word fun _ => ?_
  exact .settle (.done rfl)

theorem request_follows (limits : ResourceLimits) :
    Follows (Received.getRequest limits) requestWalk
      fun r cs => cs = requirementsCodes r.requirements := by
  iterate 22 refine .word fun _ => ?_
  refine .bind (requirements_follows limits) fun requirements cs hcs => .done ?_
  rw [hcs, List.append_nil]

theorem rejection_follows (limits : ResourceLimits) :
    Follows (Received.getRejection limits) rejectionWalk fun r cs => cs = rejectionCodes r := by
  iterate 6 refine .word fun _ => ?_
  exact .code fun _ => .string fun _ => .done rfl

theorem factor_plain (limits : ResourceLimits) : Plain (getFactor limits) factorWalk := by
  refine .word fun _ => .bool fun _ => ?_
  iterate 4 refine .past (.map .ofWord _) fun _ => ?_
  exact .word fun _ => .string fun _ => .settle (.ofOption fun _ => .done rfl)

theorem ranked_plain (limits : ResourceLimits) : Plain (getRanked limits) rankedWalk :=
  .past key_plain fun _ => .past (.map .ofWord _) fun _ => .word fun _ =>
    .past (list_plain (factor_plain limits)) fun _ => .done rfl

theorem decision_follows (limits : ResourceLimits) :
    Follows (Received.getDecision limits) decisionWalk fun d cs => cs = decisionCodes d := by
  iterate 4 refine .word fun _ => ?_
  refine .code fun status => .code fun outcome => ?_
  refine .past authority_plain fun _ => .past key_plain fun _ => ?_
  refine .past (list_plain key_plain) fun _ => .word fun _ => .word fun _ => ?_
  iterate 3 refine .string fun _ => ?_
  refine .code fun currentness => .code fun policyResult => ?_
  refine .past (cost_plain limits).withError fun _ => ?_
  refine .past (list_plain (ranked_plain limits)) fun _ => ?_
  refine .bind (list_follows (rejection_follows limits)) fun rejections cs hcs => ?_
  refine .word fun _ => .settle (.done ?_)
  rw [hcs, List.append_nil]
  rfl

theorem response_follows (limits : ResourceLimits) :
    Follows (Received.getResponse limits) responseWalk
      fun m cs => cs = messageCodes (.routeResponse m) := by
  refine .code fun outcome => .bool fun _ => ?_
  refine .bind (decision_follows limits) fun decision cs hcs => ?_
  refine .string fun _ => .settle (.done ?_)
  rw [hcs, List.append_nil]
  rfl

theorem helloAck_follows (limits : ResourceLimits) :
    Follows (Received.getHelloAck limits) helloAckWalk
      fun m cs => cs = messageCodes (.helloAck m) := by
  iterate 3 refine .word fun _ => ?_
  exact .code fun _ => .string fun _ => .settle (.done rfl)

theorem backendRegisterAck_follows (limits : ResourceLimits) :
    Follows (Received.getBackendRegisterAck limits) backendRegisterAckWalk
      fun m cs => cs = messageCodes (.backendRegisterAck m) :=
  .word fun _ => .word fun _ => .code fun _ => .string fun _ => .settle (.done rfl)

theorem dispatchResult_follows (limits : ResourceLimits) :
    Follows (Received.getDispatchResult limits) dispatchResultWalk
      fun m cs => cs = messageCodes (.dispatchResult m) :=
  .word fun _ => .word fun _ => .code fun _ => .word fun _ => .word fun _ => .string fun _ =>
    .settle (.ofOption fun _ => .done rfl)

theorem error_follows (limits : ResourceLimits) :
    Follows (Received.getError limits) errorWalk fun m cs => cs = messageCodes (.error m) :=
  .code fun _ => .string fun _ => .settle (.done rfl)

theorem adminResponse_follows (limits : ResourceLimits) :
    Follows (Received.getAdminResponse limits) adminResponseWalk
      fun m cs => cs = messageCodes (.adminResponse m) :=
  .code fun _ => .string fun _ => .string fun _ => .settle (.done rfl)

section

variable {limits : ResourceLimits}

theorem backend_settled : Settled (Received.getBackend limits) := by
  repeat first | exact .settle | refine .bind fun _ => ?_

theorem requirements_settled : Settled (Received.getRequirements limits) := by
  repeat first | exact .settle | refine .bind fun _ => ?_

theorem request_settled : Settled (Received.getRequest limits) := by
  iterate 22 refine .bind fun _ => ?_
  exact requirements_settled.map _

theorem response_settled : Settled (Received.getResponse limits) := by
  iterate 4 refine .bind fun _ => ?_
  exact .settle

theorem helloAck_settled : Settled (Received.getHelloAck limits) := by
  iterate 5 refine .bind fun _ => ?_
  exact .settle

theorem backendRegisterAck_settled : Settled (Received.getBackendRegisterAck limits) := by
  iterate 4 refine .bind fun _ => ?_
  exact .settle

theorem dispatchResult_settled : Settled (Received.getDispatchResult limits) := by
  iterate 6 refine .bind fun _ => ?_
  exact .settleOption

theorem error_settled : Settled (Received.getError limits) :=
  .bind fun _ => .bind fun _ => .settle

theorem adminResponse_settled : Settled (Received.getAdminResponse limits) :=
  .bind fun _ => .bind fun _ => .bind fun _ => .settle

end

section

variable {α : Type} {p : Parse Stop α} {payload : List UInt8} {limits : ResourceLimits} {a : α}
variable {w : Walk} {codes : α → List Code}

theorem decodeMessage_run (h : decodeMessage payload limits p = .ok a) :
    ∃ r, p.run ⟨payload, none⟩ = (.ok a, r) := by
  simp only [decodeMessage] at h
  split at h
  · cases h
  split at h
  case h_1 b r hrun =>
    split at h
    · obtain rfl := Except.ok.inj h
      exact ⟨r, hrun⟩
    · cases h
  case h_2 => cases h
  case h_3 => split at h <;> cases h

theorem decoded_codes {make : α → ReceivedMessage} {message : ReceivedMessage}
    (hp : Follows p w fun a cs => cs = messageCodes (make a)) (hs : Settled p)
    (h : make <$> decodeMessage payload limits p = .ok message) :
    w.declares payload = (messageCodes message).all Code.declared := by
  cases hdecode : decodeMessage payload limits p with
  | error e =>
      rw [hdecode] at h
      cases h
  | ok a =>
      rw [hdecode] at h
      obtain rfl := Except.ok.inj h
      obtain ⟨r, hrun⟩ := decodeMessage_run hdecode
      obtain ⟨cs, rfl, hw⟩ := hp _ _ _ hrun (hs _ _ _ hrun)
      exact Walk.declares_of_some hw

end

theorem decodeAs_codes {m : Message} {payload : List UInt8} {limits : ResourceLimits}
    {message : ReceivedMessage} (h : Received.decodeAs m payload limits = .ok message) :
    (messageWalk m).declares payload = (messageCodes message).all Code.declared := by
  have hchecked {x : Except DecodeError Message} (hx : .checked <$> x = Except.ok message) :
      (all []).declares payload = (messageCodes message).all Code.declared := by
    cases x with
    | error e => cases hx
    | ok y =>
        obtain rfl := Except.ok.inj hx
        rfl
  cases m with
  | helloAck => exact decoded_codes (helloAck_follows limits) helloAck_settled h
  | backendRegister => exact decoded_codes (backend_follows limits) backend_settled h
  | backendRegisterAck =>
      exact decoded_codes (backendRegisterAck_follows limits) backendRegisterAck_settled h
  | routeRequest => exact decoded_codes (request_follows limits) request_settled h
  | routeResponse => exact decoded_codes (response_follows limits) response_settled h
  | dispatchResult => exact decoded_codes (dispatchResult_follows limits) dispatchResult_settled h
  | error => exact decoded_codes (error_follows limits) error_settled h
  | adminResponse => exact decoded_codes (adminResponse_follows limits) adminResponse_settled h
  | _ => exact hchecked h

theorem decodeAs_declares {m message : Message} {payload : List UInt8} {limits : ResourceLimits}
    (h : Protocol.decodeAs m payload limits = .ok message) :
    (messageWalk m).declares payload = true := by
  have hreceived : Received.decodeAs m payload limits = .ok (.of message) := by
    rw [decodeAs_received (by rw [h]; rintro ⟨⟩), h]
    rfl
  rw [decodeAs_codes hreceived, List.all_eq_true]
  exact of_declared message

end ModelRouter.Codes
