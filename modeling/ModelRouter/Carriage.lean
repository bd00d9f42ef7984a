import ModelRouter.Protocol
import ModelRouter.Readback

namespace ModelRouter.Carriage

open Base Base.Parse Bytes Ids Limits Capability Evidence Catalog Candidate Authority Outcome
open Request Decision Codec Readback Messages Protocol
open Base.Put (puts)

variable {ε α β γ : Type} {t : Tag} (limits : ResourceLimits)

/-! What the decoders of the messages make of the payloads of the encoders, under one configuration
on both sides. A condition says which lists the decoder has room for; no text is too long for it,
since the encoder has written it. -/

theorem string_reads (value : List UInt8) :
    Reads (ε := ε) True (putString limits value) (getString limits) value :=
  (Reads.ofString value).sure Put.isSome_string.mp

theorem enum8_reads [Enumerated α] (a : α) : Reads True (putCode8 a) getEnum8 a := by
  rw [← Put.puts_singleton (w := putCode8 a)]
  exact .word (.ofDeclared (by simp))

theorem enum16_reads [Enumerated α] (a : α) : Reads True (putCode16 a) getEnum16 a := by
  rw [← Put.puts_singleton (w := putCode16 a)]
  exact .word (.ofDeclared (by simp))

theorem list_reads {write : α → Put} {e : α → Prop} {view : α → β} {read : Parse Stop β}
    (limit : UInt32) (xs : List α) (hpos : ∀ x, write x ≠ some [])
    (h : ∀ x, Reads (e x) (write x) read (view x)) :
    Reads (xs.length ≤ limit.toNat ∧ ∀ x ∈ xs, e x) (putList write xs) (getList limit read)
      (xs.map view) := by
  refine .count (fun x _ => hpos x) fun hsmall => .settle ?_
  rw [← count_le hsmall]
  refine .refuse fun _ => .last ?_
  rw [toNat_count hsmall]
  exact .ofManyAs xs fun x _ => h x

theorem plain_reads {write : α → Put} {read : Parse Stop α} (limit : UInt32) (xs : List α)
    (hpos : ∀ x, write x ≠ some []) (h : ∀ x, Reads True (write x) read x) :
    Reads (xs.length ≤ limit.toNat) (putList write xs) (getList limit read) xs := by
  have hlist : Reads _ _ _ (xs.map id) := list_reads limit xs hpos h
  rw [List.map_id] at hlist
  exact hlist.congr (by simp)

theorem cost_carried (cost : CostEvidence) :
    Reads True (putCost limits cost) ((getCost limits).withError Stop.malformed) cost :=
  ((cost_reads limits limits cost).sure isSome_cost.mp).withError

theorem claim_carried (e : CapabilityEvidence) :
    Reads True (putCapability limits e) ((getCapability limits).withError Stop.malformed) e :=
  ((capability_reads limits limits e).sure isSome_capability.mp).withError

theorem binding_carried (binding : ModelBinding) :
    Reads True (putBinding limits binding) (Protocol.getBinding limits) binding := by
  iterate 5 refine .word ?_
  exact .next (cost_carried limits binding.cost) (.word .done)

theorem binding_ne (binding : ModelBinding) : putBinding limits binding ≠ some [] :=
  Put.seq_ne (Put.word_ne (by decide))

def carriedBackend (backend : BackendDescriptor) : BackendDescriptor :=
  { backend with
    capabilities := {}, health := { state := .unknown }, availability := { state := .unknown }
    readiness := { state := .unknown }, residency := { state := .unknown }
    capacity := { state := .unknown }, capacityDetail := {}, latency := {} }

theorem backend_carried (backend : BackendDescriptor) :
    Reads (backend.modelBindings.length ≤ limits.maxModelBindingsPerBackend.toNat)
      (putBackend limits backend) (getBackend limits) (carriedBackend backend) := by
  iterate 10 refine .word ?_
  refine .next (string_reads limits _) (.next (string_reads limits _) ?_)
  iterate 3 refine .word ?_
  refine .next (enum8_reads backend.trustDomain) (.next (string_reads limits _) ?_)
  iterate 5 refine .word ?_
  refine .guarded (plain_reads _ backend.modelBindings (binding_ne limits)
    (binding_carried limits)) ?_
  refine .word (.bool (.next (enum8_reads backend.provenance) ?_))
  exact .word (.word (.settle .done))

theorem requirement_carried (requirement : CapabilityRequirement) :
    Reads True (putRequirement limits requirement) (getRequirement limits) requirement := by
  refine .next (string_reads limits _) (.word (.settle ?_))
  exact .declared (by simp) .done

theorem requirement_ne (requirement : CapabilityRequirement) :
    putRequirement limits requirement ≠ some [] :=
  Put.seq_ne Put.string_ne

theorem ids_reads (ids : List (EntityId t)) :
    Reads (ids.length ≤ limits.maxAllowlistEntries.toNat) (putIds ids) (getIds limits) ids := by
  rw [← Put.puts_singleton (w := putIds ids)]
  have hids : Reads _ _ (getList limits.maxAllowlistEntries getId) ids :=
    plain_reads limits.maxAllowlistEntries ids (fun _ => Put.word_ne (Nat.succ_ne_zero 7))
      Reads.ofWord
  exact hids.guarded (f := fun ids => settle Stop.malformed >>= fun _ => pure ids) (.settle .done)

/-- The lists of the requirements are within the limits of the decoder. -/
def RequirementsFit (r : RouteRequirements) : Prop :=
  r.requiredCapabilities.length ≤ limits.maxRequirementEntries.toNat ∧
    r.preferredCapabilities.length ≤ limits.maxRequirementEntries.toNat ∧
    r.modelAllowlist.length ≤ limits.maxAllowlistEntries.toNat ∧
    r.modelDenylist.length ≤ limits.maxAllowlistEntries.toNat ∧
    r.familyAllowlist.length ≤ limits.maxAllowlistEntries.toNat ∧
    r.familyDenylist.length ≤ limits.maxAllowlistEntries.toNat ∧
    r.providerAllowlist.length ≤ limits.maxAllowlistEntries.toNat ∧
    r.providerDenylist.length ≤ limits.maxAllowlistEntries.toNat ∧
    r.backendAllowlist.length ≤ limits.maxAllowlistEntries.toNat ∧
    r.backendDenylist.length ≤ limits.maxAllowlistEntries.toNat ∧
    r.requiredLocalities.length ≤ limits.maxAllowlistEntries.toNat ∧
    r.deniedLocalities.length ≤ limits.maxAllowlistEntries.toNat

theorem requirements_carried (r : RouteRequirements) :
    Reads (RequirementsFit limits r) (putRequirements limits r) (getRequirements limits) r := by
  have hstrings (limit : UInt32) (xs : List Text) :
      Reads (xs.length ≤ limit.toNat) (putList (putString limits) xs)
        (getList limit (getString limits)) xs :=
    plain_reads limit xs (fun _ => Put.string_ne) (string_reads limits)
  refine .bind (plain_reads _ r.requiredCapabilities (requirement_ne limits)
    (requirement_carried limits)) ?_
  refine .bind (hstrings _ r.preferredCapabilities) ?_
  refine .next (enum8_reads r.minimumCapabilityEvidence) ?_
  iterate 4 refine .word ?_
  iterate 6 refine .bool ?_
  refine .word ?_
  iterate 8 refine .bind (ids_reads limits _) ?_
  iterate 3 refine .bool ?_
  refine .bind (hstrings _ r.requiredLocalities) (.guarded (hstrings _ r.deniedLocalities) ?_)
  refine .next (enum8_reads r.minimumTrust) (.bool (.bool ?_))
  refine .next (string_reads limits _) (.next (string_reads limits _) ?_)
  iterate 3 refine .word ?_
  iterate 9 refine .bool ?_
  refine .next (string_reads limits _) ?_
  iterate 4 refine .word ?_
  iterate 4 refine .bool ?_
  iterate 3 refine .word ?_
  refine .bool (.next (enum8_reads r.fallbackPolicy) ?_)
  iterate 4 refine .bool ?_
  exact .word (.word (.settle .done))

theorem request_carried (request : RouteRequest) :
    Reads (RequirementsFit limits request.requirements) (putRequest limits request)
      (getRequest limits) request := by
  iterate 22 refine .word ?_
  exact .guarded (requirements_carried limits request.requirements) .done

def kept (value : Int) : Int :=
  (Int64.ofInt value).toInt

theorem int_reads (value : Int) : Reads True (putInt value) getInt (kept value) := by
  rw [← Put.puts_singleton (w := putInt value)]
  exact .word .done

def keptFactor (factor : FactorValue) : FactorValue :=
  { factor with
    normalized := kept factor.normalized, raw := kept factor.raw
    weightPpm := kept factor.weightPpm, contribution := kept factor.contribution }

theorem factor_carried (factor : FactorValue) :
    Reads True (putFactor limits factor) (getFactor limits) (keptFactor factor) := by
  refine .word (.bool ?_)
  iterate 4 refine .next (int_reads _) ?_
  refine .word (.next (string_reads limits _) (.settle ?_))
  exact .declared (by simp) .done

def keptRanked (ranked : RankedCandidate) : RankedCandidate :=
  { ranked with score := kept ranked.score, factors := ranked.factors.map keptFactor }

theorem factor_ne (factor : FactorValue) : putFactor limits factor ≠ some [] :=
  Put.seq_ne (Put.word_ne (by decide))

theorem ranked_carried (ranked : RankedCandidate) :
    Reads (ranked.factors.length ≤ limits.maxExplanationFactors.toNat) (putRanked limits ranked)
      (getRanked limits) (keptRanked ranked) := by
  refine .next (candidateKey_reads ranked.key) (.next (int_reads ranked.score) (.word ?_))
  have hfactors := list_reads limits.maxExplanationFactors ranked.factors (factor_ne limits)
    (factor_carried limits)
  exact .guarded (hfactors.congr (by simp)) .done

theorem rejection_carried (rejection : RouteRejection) :
    Reads True (putRejection limits rejection) (getRejection limits) rejection := by
  iterate 6 refine .word ?_
  exact .next (enum16_reads rejection.code) (.next (string_reads limits _) .done)

theorem ranked_ne (ranked : RankedCandidate) : putRanked limits ranked ≠ some [] :=
  Put.seq_ne (candidateKey_ne ranked.key)

theorem rejection_ne (rejection : RouteRejection) : putRejection limits rejection ≠ some [] :=
  Put.seq_ne (Put.word_ne (by decide))

/-- The lists of the decision are within the limits of the decoder. -/
def DecisionFits (decision : RouteDecision) : Prop :=
  decision.fallbacks.length ≤ limits.maxFallbackCandidates.toNat ∧
    (decision.explanation.ranking.length ≤ limits.maxRankedCandidates.toNat ∧
      ∀ ranked ∈ decision.explanation.ranking,
        ranked.factors.length ≤ limits.maxExplanationFactors.toNat) ∧
    decision.explanation.rejections.length ≤ limits.maxRejectionRecords.toNat

def carriedDecision (decision : RouteDecision) : RouteDecision where
  decisionId := decision.decisionId
  decisionGeneration := decision.decisionGeneration
  requestId := decision.requestId
  requestGeneration := decision.requestGeneration
  status := decision.status
  code := decision.code
  authority := decision.authority
  fallbacks := decision.fallbacks
  createdAtUnixMillis := decision.createdAtUnixMillis
  explanation := {
    requestId := decision.requestId, requestGeneration := decision.requestGeneration
    authority := decision.authority, fallbackOrder := decision.fallbacks
    winner := decision.explanation.winner
    eligibleCandidateCount := decision.explanation.eligibleCandidateCount
    rejectedCandidateCount := decision.explanation.rejectedCandidateCount
    rejections := decision.explanation.rejections, ranking := decision.explanation.ranking
    tieBreakReason := decision.explanation.tieBreakReason, cost := decision.explanation.cost
    policyResult := decision.explanation.policyResult
    currentness := decision.explanation.currentness
    requirementDigest := decision.explanation.requirementDigest
    semanticDigest := decision.explanation.semanticDigest }

def keptDecision (decision : RouteDecision) : RouteDecision :=
  { decision with
    explanation := { decision.explanation with
      ranking := decision.explanation.ranking.map keptRanked } }

theorem decision_carried (decision : RouteDecision) :
    Reads (DecisionFits limits decision) (putDecision limits decision) (getDecision limits)
      (carriedDecision (keptDecision decision)) := by
  iterate 4 refine .word ?_
  refine .next (enum8_reads decision.status) (.next (enum16_reads decision.code) ?_)
  refine .next (authority_reads decision.authority) ?_
  refine .next (candidateKey_reads decision.explanation.winner) ?_
  refine .bind (plain_reads _ decision.fallbacks candidateKey_ne candidateKey_reads) ?_
  iterate 2 refine .word ?_
  iterate 3 refine .next (string_reads limits _) ?_
  refine .next (enum8_reads decision.explanation.currentness) ?_
  refine .next (enum16_reads decision.explanation.policyResult) ?_
  refine .next (cost_carried limits decision.explanation.cost) ?_
  refine .bind (list_reads _ decision.explanation.ranking (ranked_ne limits)
    (ranked_carried limits)) ?_
  refine .guarded (plain_reads _ decision.explanation.rejections (rejection_ne limits)
    (rejection_carried limits)) ?_
  exact .word (.settle .done)

theorem hello_carried (message : HelloMessage) :
    Reads True (putHello limits message) (getHello limits) message := by
  iterate 6 refine .word ?_
  exact .next (string_reads limits _) (.word (.settle .done))

theorem helloAck_carried (message : HelloAckMessage) :
    Reads True (putHelloAck limits message) (getHelloAck limits) message := by
  iterate 3 refine .word ?_
  exact .next (enum16_reads message.code) (.next (string_reads limits _) (.settle .done))

theorem backendRegisterAck_carried (message : BackendRegisterAckMessage) :
    Reads True (putBackendRegisterAck limits message) (getBackendRegisterAck limits) message := by
  iterate 2 refine .word ?_
  exact .next (enum16_reads message.code) (.next (string_reads limits _) (.settle .done))

theorem claim_ne (e : CapabilityEvidence) : putCapability limits e ≠ some [] :=
  Put.seq_ne Put.string_ne

theorem publication_carried (publication : BackendCapabilityPublication) :
    Reads (publication.claims.length ≤ limits.maxCapabilityEntriesPerBackend.toNat)
      (putPublication limits publication) (getPublication limits) publication := by
  iterate 5 refine .word ?_
  exact .guarded (plain_reads _ publication.claims (claim_ne limits) (claim_carried limits))
    (.settle .done)

theorem response_carried (message : RouteResponseMessage) :
    Reads (DecisionFits limits message.decision) (putResponse limits message)
      (getResponse limits)
      { message with decision := carriedDecision (keptDecision message.decision) } := by
  refine .next (enum16_reads message.code) (.bool ?_)
  refine .guarded (decision_carried limits message.decision) ?_
  exact .next (string_reads limits _) (.settle .done)

theorem dispatch_carried (message : DispatchMessage) :
    Reads True (putDispatch message) getDispatch message := by
  iterate 4 refine .word ?_
  exact .next (candidateKey_reads message.target) (.word (.settle .done))

theorem dispatchResult_carried (message : DispatchResultMessage) :
    Reads True (putDispatchResult limits message) (getDispatchResult limits) message := by
  iterate 2 refine .word ?_
  refine .next (enum16_reads message.code) (.word (.word ?_))
  refine .next (string_reads limits _) (.settle ?_)
  exact .declared (by simp) .done

theorem error_carried (message : ErrorMessage) :
    Reads True (putError limits message) (getError limits) message :=
  .next (enum16_reads message.code) (.next (string_reads limits _) (.settle .done))

theorem backendEvidence_carried [Enumerated α] (evidence : BackendEvidence α t) :
    Reads True (putBackendEvidence limits evidence) (getBackendEvidence limits) evidence := by
  iterate 8 refine .word ?_
  refine .next (string_reads limits _) (.next (string_reads limits _) (.settle ?_))
  exact .declared (by simp) .done

theorem capacityDetail_carried (detail : CapacityDetail) :
    Reads True (putCapacityDetail detail) getCapacityDetail detail := by
  iterate 9 refine .word ?_
  exact .settle .done

theorem latency_carried (evidence : LatencyEvidence) :
    Reads True (putLatency limits evidence) (getLatency limits) evidence := by
  iterate 13 refine .word ?_
  exact .next (string_reads limits _) (.settle .done)

theorem adminRequest_carried (message : AdminRequest) :
    Reads True (putAdminRequest limits message) (getAdminRequest limits) message := by
  iterate 6 refine .word ?_
  refine .next (string_reads limits _) (.settle ?_)
  exact .declared (by simp) .done

theorem adminResponse_carried (message : AdminResponse) :
    Reads True (putAdminResponse limits message) (getAdminResponse limits) message := by
  refine .next (enum16_reads message.code) ?_
  exact .next (string_reads limits _) (.next (string_reads limits _) (.settle .done))

theorem encodeMessage_ok {w : Put} {payload : List UInt8} :
    encodeMessage w = .ok payload ↔ w = some payload := by
  cases w with
  | none => exact ⟨nofun, nofun⟩
  | some bytes => exact ⟨fun h => congrArg some (Except.ok.inj h), fun h => by cases h; rfl⟩

theorem decoded {c : Prop} {w : Put} {p : Parse Stop α} {a : α} {payload : List UInt8}
    (make : α → Message) (h : Reads c w p a) (hc : c) (hw : encodeMessage w = .ok payload)
    (hsize : payload.length ≤ limits.maxPayloadBytes.toNat) :
    make <$> decodeMessage payload limits p = .ok (make a) := by
  have hbytes := encodeMessage_ok.mp hw
  have hlen : payload.length < 2 ^ 32 :=
    Nat.lt_of_le_of_lt hsize limits.maxPayloadBytes.toNat_lt
  have hrun := (h payload hbytes hlen []).1 hc
  rw [List.append_nil] at hrun
  rw [decodeMessage, if_neg (Nat.not_lt.mpr hsize), hrun]
  rfl

def Narrow (value : Int) : Prop :=
  -2 ^ 63 ≤ value ∧ value < 2 ^ 63

theorem kept_eq {value : Int} (h : Narrow value) : kept value = value :=
  Int64.toInt_ofInt_of_le h.1 h.2

/-- The numbers of the ranking are those of the code, which are of 64 bits. -/
def RankingNarrow (decision : RouteDecision) : Prop :=
  ∀ ranked ∈ decision.explanation.ranking, Narrow ranked.score ∧
    ∀ factor ∈ ranked.factors, Narrow factor.normalized ∧ Narrow factor.raw ∧
      Narrow factor.weightPpm ∧ Narrow factor.contribution

theorem keptDecision_eq {decision : RouteDecision} (h : RankingNarrow decision) :
    keptDecision decision = decision := by
  have hfactor : ∀ ranked ∈ decision.explanation.ranking, ranked.factors.map keptFactor =
      ranked.factors := by
    intro ranked hranked
    refine List.map_congr_left (g := id) (fun factor hfactor => ?_) |>.trans (List.map_id _)
    obtain ⟨hnormalized, hraw, hweight, hcontribution⟩ := (h ranked hranked).2 factor hfactor
    rw [keptFactor, kept_eq hnormalized, kept_eq hraw, kept_eq hweight, kept_eq hcontribution, id]
  have hranking : decision.explanation.ranking.map keptRanked = decision.explanation.ranking := by
    refine List.map_congr_left (g := id) (fun ranked hranked => ?_) |>.trans (List.map_id _)
    rw [keptRanked, kept_eq (h ranked hranked).1, hfactor ranked hranked, id]
  rw [keptDecision, hranking]

/-- The lists of the message are within the limits of its decoder, and its numbers are those of the
code. -/
def Fits : Message → Prop
  | .backendRegister message =>
      message.backend.modelBindings.length ≤ limits.maxModelBindingsPerBackend.toNat
  | .capabilityPublish message =>
      message.publication.claims.length ≤ limits.maxCapabilityEntriesPerBackend.toNat
  | .routeRequest message => RequirementsFit limits message.request.requirements
  | .routeResponse message => DecisionFits limits message.decision ∧ RankingNarrow message.decision
  | _ => True

instance {decision : RouteDecision} : Decidable (DecisionFits limits decision) :=
  inferInstanceAs (Decidable (_ ∧ _ ∧ _))

instance {value : Int} : Decidable (Narrow value) :=
  inferInstanceAs (Decidable (_ ∧ _))

instance {decision : RouteDecision} : Decidable (RankingNarrow decision) :=
  inferInstanceAs (Decidable (∀ ranked ∈ _, _ ∧ ∀ factor ∈ _, _))

/-- What a payload carries of a message. -/
def carried : Message → Message
  | .backendRegister message => .backendRegister { backend := carriedBackend message.backend }
  | .routeResponse message =>
      .routeResponse { message with decision := carriedDecision message.decision }
  | m => m

/-- Decoding undoes encoding for messages of every kind. -/
theorem decodeAs_encode {m : Message} {payload : List UInt8} (h : encode m limits = .ok payload)
    (hsize : payload.length ≤ limits.maxPayloadBytes.toNat) (hfits : Fits limits m) :
    decodeAs m payload limits = .ok (carried m) := by
  cases m with
  | hello message => exact decoded limits .hello (hello_carried limits message) trivial h hsize
  | helloAck message =>
      exact decoded limits .helloAck (helloAck_carried limits message) trivial h hsize
  | backendRegister message =>
      have hbackend := (backend_carried limits message.backend).guarded
        (f := fun backend => pure (BackendRegisterMessage.mk backend)) .done
      rw [Put.puts_singleton] at hbackend
      exact decoded limits .backendRegister hbackend hfits h hsize
  | backendRegisterAck message =>
      exact decoded limits .backendRegisterAck (backendRegisterAck_carried limits message) trivial
        h hsize
  | capabilityPublish message =>
      have hpublication := (publication_carried limits message.publication).guarded
        (f := fun publication => pure (CapabilityPublishMessage.mk publication)) .done
      rw [Put.puts_singleton] at hpublication
      exact decoded limits .capabilityPublish hpublication hfits h hsize
  | routeRequest message =>
      have hrequest := (request_carried limits message.request).guarded
        (f := fun request => pure (RouteRequestMessage.mk request)) .done
      rw [Put.puts_singleton] at hrequest
      exact decoded limits .routeRequest hrequest hfits h hsize
  | routeResponse message =>
      have hresponse := decoded limits .routeResponse (response_carried limits message) hfits.1
        h hsize
      rwa [keptDecision_eq hfits.2] at hresponse
  | dispatch message =>
      exact decoded limits .dispatch (dispatch_carried message) trivial h hsize
  | dispatchResult message =>
      exact decoded limits .dispatchResult (dispatchResult_carried limits message) trivial h hsize
  | error message => exact decoded limits .error (error_carried limits message) trivial h hsize
  | health evidence =>
      exact decoded limits .health (backendEvidence_carried limits evidence) trivial h hsize
  | availability evidence =>
      exact decoded limits .availability (backendEvidence_carried limits evidence) trivial h hsize
  | readiness evidence =>
      exact decoded limits .readiness (backendEvidence_carried limits evidence) trivial h hsize
  | residency evidence =>
      exact decoded limits .residency (backendEvidence_carried limits evidence) trivial h hsize
  | capacity evidence detail =>
      have hdetail := (capacityDetail_carried detail).next
        (f := fun detail => pure (evidence, detail)) .done
      have hboth := (backendEvidence_carried limits evidence).next
        (f := fun evidence => getCapacityDetail >>= fun detail => pure (evidence, detail)) hdetail
      exact decoded limits (fun (evidence, detail) => .capacity evidence detail) hboth trivial
        h hsize
  | latency evidence =>
      exact decoded limits .latency (latency_carried limits evidence) trivial h hsize
  | cost evidence => exact decoded limits .cost (cost_carried limits evidence) trivial h hsize
  | adminRequest message =>
      exact decoded limits .adminRequest (adminRequest_carried limits message) trivial h hsize
  | adminResponse message =>
      exact decoded limits .adminResponse (adminResponse_carried limits message) trivial h hsize

def rankedBackend (backend : UInt64) : CandidateKey where
  modelId := ⟨7⟩
  modelGeneration := ⟨2⟩
  backendId := ⟨backend⟩
  backendBoot := ⟨3⟩

/-- A response with two ranked candidates, a fallback and a rejection. -/
def rankedResponse : RouteResponseMessage where
  code := .routed
  hasDecision := true
  detail := text "routed"
  decision := {
    decisionId := ⟨41⟩, decisionGeneration := ⟨1⟩, fallbacks := [rankedBackend 12]
    authority := { routerEpoch := ⟨5⟩, backendId := ⟨11⟩ }
    reservation := { reservationId := ⟨9⟩ }
    explanation := {
      winner := rankedBackend 11, eligibleCandidateCount := 2, rejectedCandidateCount := 1
      ranking := [
        { key := rankedBackend 11, score := 640000, rank := 1
          factors := [{ factor := .latency, known := true, raw := -250
                        source := text "latency" }] },
        { key := rankedBackend 12, score := -3, rank := 2 }]
      rejections := [{ backendId := 13, code := .rejectCapacity, detail := text "saturated" }]
      semanticDigest := text "digest" } }

def rankedPayload : List UInt8 :=
  (putResponse {} rankedResponse).getD []

theorem rankedResponse_decodes :
    decodeAs (.routeResponse rankedResponse) rankedPayload {} =
      .ok (carried (.routeResponse rankedResponse)) := by
  refine decodeAs_encode {} (by decide +kernel) (by decide +kernel) ⟨?_, ?_⟩
  · decide +kernel
  · decide +kernel

end ModelRouter.Carriage
