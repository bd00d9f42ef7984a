import ModelRouter.Carriage
import ModelRouter.Coherence
import ModelRouter.Framing
import ModelRouter.Sizes

namespace ModelRouter.Emission

open Base Base.Parse Bytes Ids Outcome Limits Capability Evidence Candidate Request Decision
open State Commit Providers Section Pass Route Reroute Router Run Repertoire Coherence
open Codec Sizes Frames Framing Messages Protocol Carriage
open Base.Put (Measures)

variable {t : Tag} {limits : ResourceLimits}

/-! The number of bytes of the payloads that carry a request and a decision. -/

def textsBytes (texts : List Text) : Nat :=
  4 + (texts.map fun value => 4 + value.length).sum

def idsBytes (ids : List (EntityId t)) : Nat :=
  4 + 8 * ids.length

def requirementsBytes (r : RouteRequirements) : Nat :=
  144 + (r.requiredCapabilities.map fun requirement => 5 + requirement.key.length).sum +
    textsBytes r.preferredCapabilities + idsBytes r.modelAllowlist + idsBytes r.modelDenylist +
    idsBytes r.familyAllowlist + idsBytes r.familyDenylist + idsBytes r.providerAllowlist +
    idsBytes r.providerDenylist + idsBytes r.backendAllowlist + idsBytes r.backendDenylist +
    textsBytes r.requiredLocalities + textsBytes r.deniedLocalities +
    r.maximumCost.unit.currency.length + r.maximumCost.unit.basis.length +
    r.requiredProtocol.length

def requestBytes (request : RouteRequest) : Nat :=
  168 + requirementsBytes request.requirements

def rankedBytes (ranked : RankedCandidate) : Nat :=
  80 + (ranked.factors.map fun factor => 46 + factor.source.length).sum

def decisionBytes (decision : RouteDecision) : Nat :=
  494 + 64 * decision.fallbacks.length + costBytes decision.explanation.cost +
    decision.explanation.tieBreakReason.length + decision.explanation.requirementDigest.length +
    decision.explanation.semanticDigest.length +
    (decision.explanation.ranking.map rankedBytes).sum +
    (decision.explanation.rejections.map fun rejection => 54 + rejection.detail.length).sum

def responseBytes (message : RouteResponseMessage) : Nat :=
  7 + decisionBytes message.decision + message.detail.length

theorem list_measures {α : Type} {write : α → Put} {size : α → Nat}
    (h : ∀ a, Measures (write a) (size a)) (xs : List α) :
    Measures (putList write xs) (4 + (xs.map size).sum) :=
  .cons (.word _) (.cons (.map h xs) .nil)

theorem texts_measures (texts : List Text) :
    Measures (putList (putString limits) texts) (textsBytes texts) :=
  list_measures (fun value => .string _ value) texts

theorem ids_measures (ids : List (EntityId t)) : Measures (putIds ids) (idsBytes ids) :=
  .cons (.word _) (.cons (.mapConst (fun id => .word id) ids) .nil)

theorem requirement_measures (requirement : CapabilityRequirement) :
    Measures (putRequirement limits requirement) (5 + requirement.key.length) := by
  apply Measures.of_eq
  · exact .cons (.string _ _) (.cons (.word _) .nil)
  · simp only [width_uint8]
    omega

theorem requirements_measures (r : RouteRequirements) :
    Measures (putRequirements limits r) (requirementsBytes r) := by
  apply Measures.of_eq
  · apply Measures.cons (list_measures requirement_measures _)
    apply Measures.cons (texts_measures _)
    iterate 5 apply Measures.cons (.word _)
    iterate 6 apply Measures.cons (.bool _)
    apply Measures.cons (.word _)
    iterate 8 apply Measures.cons (ids_measures _)
    iterate 3 apply Measures.cons (.bool _)
    iterate 2 apply Measures.cons (texts_measures _)
    apply Measures.cons (.word _)
    iterate 2 apply Measures.cons (.bool _)
    iterate 2 apply Measures.cons (.string _ _)
    iterate 3 apply Measures.cons (.word _)
    iterate 9 apply Measures.cons (.bool _)
    apply Measures.cons (.string _ _)
    iterate 4 apply Measures.cons (.word _)
    iterate 4 apply Measures.cons (.bool _)
    iterate 3 apply Measures.cons (.word _)
    apply Measures.cons (.bool _)
    apply Measures.cons (.word _)
    iterate 4 apply Measures.cons (.bool _)
    exact .cons (.word _) (.cons (.word _) .nil)
  · simp only [requirementsBytes, width_uint8, width_uint32, width_int64, width_entityId]
    omega

theorem request_measures (request : RouteRequest) :
    Measures (putRequest limits request) (requestBytes request) := by
  apply Measures.of_eq
  · iterate 22 apply Measures.cons (.word _)
    exact .cons (requirements_measures _) .nil
  · simp only [requestBytes, width_uint32, width_uint64, width_int64, width_entityId,
      width_generation]
    omega

theorem factor_measures (factor : FactorValue) :
    Measures (putFactor limits factor) (46 + factor.source.length) := by
  apply Measures.of_eq
  · apply Measures.cons (.word _)
    apply Measures.cons (.bool _)
    iterate 5 apply Measures.cons (.word _)
    exact .cons (.string _ _) .nil
  · simp only [width_uint8, width_uint64, width_int64]
    omega

theorem ranked_measures (ranked : RankedCandidate) :
    Measures (putRanked limits ranked) (rankedBytes ranked) := by
  apply Measures.of_eq
  · apply Measures.cons (candidateKey_measures _)
    iterate 2 apply Measures.cons (.word _)
    exact .cons (list_measures factor_measures ranked.factors) .nil
  · simp only [rankedBytes, width_uint32, width_int64]
    omega

theorem rejection_measures (rejection : RouteRejection) :
    Measures (putRejection limits rejection) (54 + rejection.detail.length) := by
  apply Measures.of_eq
  · iterate 7 apply Measures.cons (.word _)
    exact .cons (.string _ _) .nil
  · simp only [width_uint16, width_uint64, width_generation]
    omega

theorem keys_measures (keys : List CandidateKey) :
    Measures (putList putCandidateKey keys) (4 + 64 * keys.length) :=
  .cons (.word _) (.cons (.mapConst candidateKey_measures keys) .nil)

theorem decision_measures (decision : RouteDecision) :
    Measures (putDecision limits decision) (decisionBytes decision) := by
  apply Measures.of_eq
  · iterate 6 apply Measures.cons (.word _)
    apply Measures.cons (authority_measures _)
    apply Measures.cons (candidateKey_measures _)
    apply Measures.cons (keys_measures _)
    iterate 2 apply Measures.cons (.word _)
    iterate 3 apply Measures.cons (.string _ _)
    iterate 2 apply Measures.cons (.word _)
    apply Measures.cons (cost_measures _)
    apply Measures.cons (list_measures ranked_measures _)
    apply Measures.cons (list_measures rejection_measures _)
    exact .cons (.word _) .nil
  · simp only [decisionBytes, width_uint8, width_uint16, width_uint32, width_int64,
      width_entityId, width_generation]
    omega

theorem response_measures (message : RouteResponseMessage) :
    Measures (putResponse limits message) (responseBytes message) := by
  apply Measures.of_eq
  · apply Measures.cons (.word _)
    apply Measures.cons (.bool _)
    exact .cons (decision_measures _) (.cons (.string _ _) .nil)
  · simp only [responseBytes, width_uint16]
    omega

/-! The decoders end by asking the reader. -/

theorem getRequirements_settled : Settled (getRequirements limits) := by
  iterate 64 refine .bind fun _ => ?_
  exact .settle

theorem getRequest_settled : Settled (getRequest limits) := by
  iterate 22 refine .bind fun _ => ?_
  exact getRequirements_settled.map _

theorem getResponse_settled : Settled (getResponse limits) := by
  iterate 4 refine .bind fun _ => ?_
  exact .settle

theorem decodes_iff (limits : ResourceLimits) {α : Type} {c : Prop} {w : Put} {p : Parse Protocol.Stop α} {a : α}
    {payload : List UInt8} (make : α → Message) (h : Reads c w p a) (hsettled : Settled p)
    (hw : encodeMessage w = .ok payload) :
    (∃ m, make <$> decodeMessage payload limits p = .ok m) ↔
      payload.length ≤ limits.maxPayloadBytes.toNat ∧ c := by
  constructor
  · rintro ⟨m, hm⟩
    by_cases hsize : payload.length ≤ limits.maxPayloadBytes.toNat
    · refine ⟨hsize, by_contra fun hc => ?_⟩
      have hbytes := encodeMessage_ok.mp hw
      have hlen : payload.length < 2 ^ 32 :=
        Nat.lt_of_le_of_lt hsize limits.maxPayloadBytes.toNat_lt
      have hfailed := (h payload hbytes hlen []).2 hc
      rw [List.append_nil] at hfailed
      obtain ⟨e, r, hrun⟩ := hsettled.error hfailed
      rw [decodeMessage, if_neg (Nat.not_lt.mpr hsize), hrun] at hm
      cases e with
      | undeclared => cases hm
      | malformed => cases hfault : r.fault with
        | none => simp [hfault] at hm
        | some fault => cases fault <;> simp [hfault] at hm
    · rw [decodeMessage, if_pos (Nat.lt_of_not_le hsize)] at hm
      cases hm
  · rintro ⟨hsize, hc⟩
    exact ⟨make a, decoded limits make h hc hw hsize⟩

/-- A decision that some `route` or `reroute`, among any other operations and under these limits
throughout, commits and reports. -/
inductive Committed (limits : ResourceLimits) : RouteDecision → Prop where
  | intro {options : ModelRouterOptions} {op : Op} {raw : RouteRequest} {E : Env → Prop}
      {R : World → World → Prop} {s u : World} {es : Trace} {reply : Reply} {e : Event World Act}
      {draft : CommitDraft} :
      requestOf op = some raw → Executes E R (op.program options) s es reply u →
      (∀ e ∈ es, e.pre.state.limits = limits) → e ∈ es → e.act = .commit draft →
      commitRefusal draft e.pre.state = none →
      Committed limits (commitSection draft e.pre).2.decision

/-- A decision that keeps to the bounds of a pass. -/
structure Bounded (limits : ResourceLimits) (decision : RouteDecision) : Prop where
  listed : Listed limits decision.explanation
  ranked : decision.explanation.ranking ≠ []
  fallbacks : decision.fallbacks.length ≤ limits.maxFallbackCandidates.toNat

theorem permitted_le (request : RouteRequest) (policy : PolicySnapshot) (limits : ResourceLimits) :
    (permittedFallbacks request policy limits).toNat ≤ limits.maxFallbackCandidates.toNat :=
  (permittedFallbacks_le request policy limits).trans
    ((Nat.min_le_left _ _).trans (Nat.min_le_right _ _))

section

variable {I : World → Prop} {E : Env → Prop} {raw : RouteRequest} {draft : CommitDraft}

theorem routeDraft_bounded (hI : ∀ w, I w → w.state.limits = limits)
    (h : RouteDraft I E raw draft) (hlists : Lists I draft) : Bounded limits draft.decision := by
  obtain ⟨v, hv, hlisted⟩ := hlists
  rw [hI v hv] at hlisted
  obtain @⟨request, w, e, explanation, winner, tail, authority, hw, -, -, hranking, -, -⟩ := h
  refine ⟨hlisted, ?_, ?_⟩
  · change explanation.ranking ≠ []
    rw [hranking]
    exact List.cons_ne_nil _ _
  · rw [← hI w hw]
    exact fallbackOrder_length.trans (permitted_le _ _ _)

theorem fallbackDraft_bounded {id : RouteDecisionId} (hI : ∀ w, I w → w.state.limits = limits)
    (h : FallbackDraft I E id raw draft) (hlists : Lists I draft) :
    Bounded limits draft.decision := by
  obtain ⟨v, hv, hlisted⟩ := hlists
  rw [hI v hv] at hlisted
  obtain @⟨request, w, e, stored, governing, assessment, authority, hw, -⟩ := h
  refine ⟨hlisted, List.cons_ne_nil _ _, ?_⟩
  rw [← hI w hw]
  exact remainingFallbacks_length.trans (permitted_le _ _ _)

theorem Bounded.bound (h : Bounded limits draft.decision) (s : CanonicalState)
    (id : RouteDecisionId) : Bounded limits (boundDecision s draft id) := by
  obtain ⟨hlisted, hranked, hfallbacks⟩ := h
  unfold boundDecision
  dsimp only
  split
  · exact ⟨⟨hlisted.ranking, hlisted.factors, hlisted.rejections⟩, hranked, hfallbacks⟩
  · exact ⟨⟨hlisted.ranking, hlisted.factors, hlisted.rejections⟩, hranked, hfallbacks⟩

def CommitsBounded (limits : ResourceLimits) : Act → Prop
  | .commit draft => Bounded limits draft.decision
  | _ => True

theorem commitsBounded_of_calm {k : Act} (hk : calm k = true) : CommitsBounded limits k := by
  cases k with
  | commit draft => cases hk
  | _ => trivial

theorem program_commitsBounded {options : ModelRouterOptions} {op : Op}
    (hop : requestOf op = some raw) (hI : ∀ w, I w → w.state.limits = limits) :
    (op.program options).Only I E (CommitsBounded limits) := by
  cases op with
  | route request =>
      exact map_only _ (route_only (fun _ => commitsBounded_of_calm) options request
        fun draft hdraft hlists => routeDraft_bounded hI hdraft hlists)
  | reroute id failure request =>
      refine map_only _
        (reroute_only (fun _ => commitsBounded_of_calm) options id failure request ?_)
      rintro draft (hdraft | hdraft) hlists
      · exact routeDraft_bounded hI hdraft hlists
      · exact fallbackDraft_bounded hI hdraft hlists
  | _ => cases hop

end

theorem committed_bounded {decision : RouteDecision} (h : Committed limits decision) :
    Bounded limits decision := by
  obtain @⟨options, op, raw, E, R, s, u, es, reply, e, draft, hop, hrun, hlimits, he, hact,
    hrefusal⟩ := h
  have honly := hrun.only (program_commitsBounded (I := fun w => w.state.limits = limits) hop
    fun w hw => hw) hlimits e he
  rw [hact] at honly
  rw [commitSection, hrefusal]
  exact honly.bound _ _

theorem ranked_min (h : limits.validate = none) : 1 ≤ limits.maxRankedCandidates.toNat := by
  simp only [ResourceLimits.validate, Refusal.chain_eq_none] at h
  have hfailure := h.2.2.2.1
  rw [Limits.failure, violation] at hfailure
  simpa [Nat.one_le_iff_ne_zero] using hfailure

theorem decisionFits_iff (hlimits : limits.validate = none) {decision : RouteDecision}
    (h : Bounded limits decision) :
    DecisionFits limits decision ↔
      canonicalFactorOrder.length ≤ limits.maxExplanationFactors.toNat := by
  constructor
  · rintro ⟨-, ⟨-, hfactors⟩, -⟩
    obtain ⟨ranked, hranked⟩ := List.exists_mem_of_ne_nil _ h.ranked
    rw [← h.listed.factors ranked hranked]
    exact hfactors ranked hranked
  · intro hroom
    have hranking := h.listed.ranking
    rw [Nat.max_eq_right (ranked_min hlimits)] at hranking
    refine ⟨h.fallbacks, ⟨hranking, fun ranked hranked => ?_⟩, h.listed.rejections⟩
    rw [h.listed.factors ranked hranked]
    exact hroom

theorem requirementsFit_iff {request : RouteRequest} (h : request.validate limits = none) :
    RequirementsFit limits request.requirements ↔
      request.requirements.familyAllowlist.length ≤ limits.maxAllowlistEntries.toNat ∧
        request.requirements.familyDenylist.length ≤ limits.maxAllowlistEntries.toNat := by
  constructor
  · rintro ⟨-, -, -, -, hallow, hdeny, -⟩
    exact ⟨hallow, hdeny⟩
  · rintro ⟨hallow, hdeny⟩
    simp only [RouteRequest.validate, Refusal.chain_eq_none] at h
    have hrequirements := h.2.2.2.2.2.2.2.2
    simp only [RouteRequirements.validate, Refusal.chain_eq_none, violation,
      Refusal.refuse_eq_none, Bool.or_eq_false_iff, decide_eq_false_iff_not, Nat.not_lt] at hrequirements
    obtain ⟨hrequired, hpreferred, hids, hlocalities, -⟩ := hrequirements
    obtain ⟨⟨⟨⟨⟨hmodelAllow, hmodelDeny⟩, hproviderAllow⟩, hproviderDeny⟩, hbackendAllow⟩,
      hbackendDeny⟩ := hids
    exact ⟨hrequired, hpreferred, hmodelAllow, hmodelDeny, hallow, hdeny, hproviderAllow,
      hproviderDeny, hbackendAllow, hbackendDeny, hlocalities.1, hlocalities.2⟩

/-- The messages this program sends with a request that is valid or a decision that was committed
under the limits. -/
inductive Sent (limits : ResourceLimits) : Message → Prop where
  | request {message : RouteRequestMessage} :
      message.request.validate limits = none → Sent limits (.routeRequest message)
  | response {message : RouteResponseMessage} :
      Committed limits message.decision → Sent limits (.routeResponse message)

/-- The payload of the message passes the frame encoder and the decoder for its kind. -/
def Accepted (limits : ResourceLimits) (m : Message) (payload : List UInt8) : Prop :=
  (∃ image, encodeFrame (makeFrame m.type payload) limits = .ok image) ∧
    ∃ m', decodeAs m payload limits = .ok m'

/-- So many bytes of payload fit in a frame. -/
def SizeFits (limits : ResourceLimits) (n : Nat) : Prop :=
  n ≤ limits.maxFramePayloadBytes.toNat ∧ n ≤ limits.maxPayloadBytes.toNat ∧
    frameHeaderBytes + n ≤ limits.maxFrameBytes.toNat

/-- What is left to check by the sender. -/
def Deliverable (limits : ResourceLimits) : Message → Prop
  | .routeRequest message => SizeFits limits (requestBytes message.request) ∧
      message.request.requirements.familyAllowlist.length ≤ limits.maxAllowlistEntries.toNat ∧
      message.request.requirements.familyDenylist.length ≤ limits.maxAllowlistEntries.toNat
  | .routeResponse message => SizeFits limits (responseBytes message) ∧
      canonicalFactorOrder.length ≤ limits.maxExplanationFactors.toNat
  | _ => True

theorem makeFrame_encodes_iff (limits : ResourceLimits) (type : MessageType) (htype : type ≠ .invalid)
    (payload : List UInt8) :
    (∃ image, encodeFrame (makeFrame type payload) limits = .ok image) ↔
      SizeFits limits payload.length := by
  have hknown : knownType (makeFrame type payload).header.messageType = true := by
    cases type <;> first | rfl | exact absurd rfl htype
  constructor
  · rintro ⟨image, h⟩
    obtain ⟨hadmitted, himage, hsize⟩ := encodeFrame_ok.mp h
    have hfits := payloadFits_iff.mp hadmitted.fits
    rw [← himage, length_frameBytes] at hsize
    exact ⟨hfits.trans (Nat.min_le_left _ _), hfits.trans (Nat.min_le_right _ _), hsize⟩
  · rintro ⟨hframe, hpayload, hsize⟩
    refine ⟨_, encodeFrame_ok.mpr ⟨⟨rfl, rfl, hknown, ?_⟩, rfl, ?_⟩⟩
    · exact payloadFits_iff.mpr (Nat.le_min.mpr ⟨hframe, hpayload⟩)
    · rw [length_frameBytes]
      exact hsize

/-- What a peer makes of a message that was encoded. -/
theorem accepted_iff_deliverable (hlimits : limits.validate = none) {m : Message}
    {payload : List UInt8} (hsent : Sent limits m) (hencode : encode m limits = .ok payload) :
    Accepted limits m payload ↔ Deliverable limits m := by
  cases hsent with
  | @request message hvalid =>
      have hlength := request_measures message.request payload (encodeMessage_ok.mp hencode)
      have hreads := (request_carried limits message.request).guarded
        (f := fun request => pure (RouteRequestMessage.mk request)) .done
      rw [Put.puts_singleton] at hreads
      have hdecodes := decodes_iff limits .routeRequest hreads
        (getRequest_settled.map _) hencode
      have hframe := makeFrame_encodes_iff limits .routeRequest nofun payload
      rw [Accepted, Deliverable, ← requirementsFit_iff hvalid, ← hlength]
      constructor
      · rintro ⟨hok, hdecode⟩
        exact ⟨hframe.mp hok, (hdecodes.mp hdecode).2⟩
      · rintro ⟨hsize, hfits⟩
        exact ⟨hframe.mpr hsize, hdecodes.mpr ⟨hsize.2.1, hfits⟩⟩
  | @response message hcommitted =>
      have hlength := response_measures message payload (encodeMessage_ok.mp hencode)
      have hdecodes := decodes_iff limits .routeResponse
        (response_carried limits message) getResponse_settled hencode
      have hframe := makeFrame_encodes_iff limits .routeResponse nofun payload
      rw [Accepted, Deliverable, ← decisionFits_iff hlimits (committed_bounded hcommitted),
        ← hlength]
      constructor
      · rintro ⟨hok, hdecode⟩
        exact ⟨hframe.mp hok, (hdecodes.mp hdecode).2⟩
      · rintro ⟨hsize, hfits⟩
        exact ⟨hframe.mpr hsize, hdecodes.mpr ⟨hsize.2.1, hfits⟩⟩

instance {n : Nat} : Decidable (SizeFits limits n) :=
  inferInstanceAs (Decidable (_ ∧ _))

def sampleMessage : RouteRequestMessage where
  request := sampleRequest

def requestPayload (limits : ResourceLimits) (message : RouteRequestMessage) : List UInt8 :=
  (putRequest limits message.request).getD []

theorem sampleMessage_accepted :
    Accepted {} (.routeRequest sampleMessage) (requestPayload {} sampleMessage) := by
  refine (accepted_iff_deliverable (by decide +kernel) (.request (by decide +kernel))
    (by decide +kernel)).mpr ⟨by decide +kernel, ?_⟩
  decide +kernel

/-- Limits that leave room for one entry in a list, and a request that lists two families. -/
def oneEntry : ResourceLimits :=
  { maxAllowlistEntries := 1 }

def twoFamilies : RouteRequestMessage where
  request :=
    { sampleRequest with
      requirements := { sampleRequest.requirements with familyAllowlist := [⟨1⟩, ⟨2⟩] } }

theorem twoFamilies_refused :
    oneEntry.validate = none ∧ Sent oneEntry (.routeRequest twoFamilies) ∧
      encode (.routeRequest twoFamilies) oneEntry = .ok (requestPayload oneEntry twoFamilies) ∧
      (∃ image, encodeFrame
        (makeFrame .routeRequest (requestPayload oneEntry twoFamilies)) oneEntry = .ok image) ∧
      ¬Accepted oneEntry (.routeRequest twoFamilies) (requestPayload oneEntry twoFamilies) := by
  have hrefused : decodeAs (.routeRequest twoFamilies) (requestPayload oneEntry twoFamilies)
      oneEntry = .error (.refused "message payload is malformed") := by decide +kernel
  refine ⟨by decide +kernel, .request (by decide +kernel), by decide +kernel, ?_, ?_⟩
  · exact (makeFrame_encodes_iff _ .routeRequest nofun _).mpr (by decide +kernel)
  · rintro ⟨-, m, hm⟩
    rw [hrefused] at hm
    cases hm

theorem sampleRouted_commits : ∃ decision, Committed {} decision := by
  have hcommits : sampleRouted.1.any (leavesNew ⟨101⟩) = true := by decide +kernel
  have hlimits : ∀ e ∈ sampleRouted.1, e.pre.state.limits = {} := by decide +kernel
  obtain ⟨e, he, hleaves⟩ := List.any_eq_true.mp hcommits
  obtain ⟨hreplaces, -⟩ := replaces_of_leavesNew hleaves
  obtain ⟨k, w⟩ := e
  cases k with
  | commit draft =>
      simp only [leavesNew, Bool.and_eq_true, Option.isNone_iff_eq_none] at hleaves
      exact ⟨_, .intro rfl sampleRouted_executes hlimits he rfl hleaves.1.1.1⟩
  | _ => cases hleaves

end ModelRouter.Emission
