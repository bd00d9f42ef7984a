import ModelRouter.Run
import ModelRouter.Verdicts

namespace ModelRouter.Grounds

open Base.Refusal Bytes Ids Outcome Capability Evidence Catalog Request Candidate Policy Eligibility
open Run Verdicts

/-- A live fact that current evidence of one incarnation affirms. -/
structure Affirmed {σ : Type} {t : Tag} (evidence : BackendEvidence σ t) (affirmative : σ)
    (boot : BackendBootId) (now : UnixMillis) : Prop where
  valid : evidence.generation.valid = true
  unexpired : evidence.expired now = false
  own : evidence.backendBoot = boot
  state : evidence.state = affirmative

/-- A reservation that holds for one incarnation. -/
structure Reserved (evidence : CandidateEvidence) (key : CandidateKey) (now : UnixMillis) : Prop where
  present : evidence.reservationPresent = true
  valid : evidence.reservation.generation.valid = true
  unexpired : expiredAt now evidence.reservation.expiresAtUnixMillis = false
  backend : evidence.reservation.backendId = key.backendId
  own : evidence.reservation.backendBoot = key.backendBoot

/-- A price that names no other backend and no other model. -/
structure OwnCost (cost : CostEvidence) (key : CandidateKey) : Prop where
  backend : cost.backendId.valid = true → cost.backendId = key.backendId
  model : cost.modelId.valid = true → cost.modelId = key.modelId

/-- A price a requirement may rest on. -/
structure Priced (cost : CostEvidence) (key : CandidateKey) (now : UnixMillis) : Prop where
  known : cost.known = true
  unexpired : expiredAt now cost.expiresAtUnixMillis = false
  own : OwnCost cost key

structure Within (cost : CostEvidence) (ceiling : Money) : Prop where
  unit : cost.unit.compatibleWith ceiling.unit = true
  amount : cost.estimatedTotalMicros ≤ ceiling.micros

/-- A latency a requirement may rest on. -/
structure Measured (latency : LatencyEvidence) (boot : BackendBootId) (now : UnixMillis) : Prop where
  known : latency.dispatchMicros ≠ kUnknownLatencyMicros
  unexpired : latency.expired now = false
  own : latency.backendBoot = boot

/-- Every requirement of the request and of the policy rests on evidence that may bear it. -/
structure Backed (input : EligibilityInput) : Prop where
  available : input.request.requirements.requireAvailable = true →
    Affirmed input.candidate.backend.availability .available input.candidate.key.backendBoot input.now
  healthy : input.request.requirements.requireHealthy = true →
    Affirmed input.candidate.backend.health .healthy input.candidate.key.backendBoot input.now
  ready : input.request.requirements.requireReady = true →
    Affirmed input.candidate.backend.readiness .ready input.candidate.key.backendBoot input.now
  resident : input.request.requirements.requireResident = true →
    Affirmed input.candidate.backend.residency .resident input.candidate.key.backendBoot input.now
  capacity : input.request.requirements.requireCapacity = true →
    Affirmed input.candidate.backend.capacity .available input.candidate.key.backendBoot input.now
  reserved : input.request.requirements.requireReservation = true →
    Reserved input.evidence input.candidate.key input.now
  knownCost : input.request.requirements.requireKnownCost = true →
    Priced input.evidence.cost input.candidate.key input.now
  costCeiling : input.request.requirements.enforceCostCeiling = true →
    Priced input.evidence.cost input.candidate.key input.now ∧
      Within input.evidence.cost input.request.requirements.maximumCost
  policyCost : 0 < input.policy.maximumRequestCost.micros →
    Priced input.evidence.cost input.candidate.key input.now ∧
      Within input.evidence.cost input.policy.maximumRequestCost
  knownLatency : input.request.requirements.requireKnownLatency = true →
    Measured input.candidate.backend.latency input.candidate.key.backendBoot input.now
  latencyCeiling : input.request.requirements.maxLatencyMicros ≠ kUnspecified →
    Measured input.candidate.backend.latency input.candidate.key.backendBoot input.now ∧
      input.candidate.backend.latency.dispatchMicros ≤ input.request.requirements.maxLatencyMicros
  policyLatency : input.policy.maximumLatencyMicros ≠ kUnspecified →
    Measured input.candidate.backend.latency input.candidate.key.backendBoot input.now ∧
      input.candidate.backend.latency.dispatchMicros ≤ input.policy.maximumLatencyMicros

def CostRequired (input : EligibilityInput) : Prop :=
  input.request.requirements.requireKnownCost = true ∨
    input.request.requirements.enforceCostCeiling = true ∨
    0 < input.policy.maximumRequestCost.micros

def LatencyRequired (input : EligibilityInput) : Prop :=
  input.request.requirements.requireKnownLatency = true ∨
    input.request.requirements.maxLatencyMicros ≠ kUnspecified ∨
    input.policy.maximumLatencyMicros ≠ kUnspecified

/-- What no hard predicate looks at. The policy ceiling is compared with the price of the binding
and not with the cost evidence; of the three latency requirements only the ceiling of the request
looks at the expiry, and none looks at the incarnation. -/
structure Unasked (input : EligibilityInput) : Prop where
  policyCost : 0 < input.policy.maximumRequestCost.micros →
    input.evidence.cost.known = true ∧
      expiredAt input.now input.evidence.cost.expiresAtUnixMillis = false ∧
      Within input.evidence.cost input.policy.maximumRequestCost
  ownCost : CostRequired input → OwnCost input.evidence.cost input.candidate.key
  latencyUnexpired : input.request.requirements.requireKnownLatency = true ∨
      input.policy.maximumLatencyMicros ≠ kUnspecified →
    input.candidate.backend.latency.expired input.now = false
  ownLatency : LatencyRequired input →
    input.candidate.backend.latency.backendBoot = input.candidate.key.backendBoot

theorem Backed.unasked {input : EligibilityInput} (h : Backed input) : Unasked input where
  policyCost hceiling := by
    obtain ⟨hpriced, hwithin⟩ := h.policyCost hceiling
    exact ⟨hpriced.known, hpriced.unexpired, hwithin⟩
  ownCost hrequired := by
    rcases hrequired with hknown | hceiling | hpolicy
    · exact (h.knownCost hknown).own
    · exact (h.costCeiling hceiling).1.own
    · exact (h.policyCost hpolicy).1.own
  latencyUnexpired hrequired := by
    rcases hrequired with hknown | hpolicy
    · exact (h.knownLatency hknown).unexpired
    · exact (h.policyLatency hpolicy).1.unexpired
  ownLatency hrequired := by
    rcases hrequired with hknown | hceiling | hpolicy
    · exact (h.knownLatency hknown).own
    · exact (h.latencyCeiling hceiling).1.own
    · exact (h.policyLatency hpolicy).1.own

section

variable {required : Bool} {now : UnixMillis} {requirements : RouteRequirements}

theorem checkLive_affirmed {σ : Type} {t : Tag} [DecidableEq σ] {evidence : BackendEvidence σ t}
    {unknownState affirmative : σ} {boot : BackendBootId} {unknownDetail otherIncarnation : Text}
    {stale negative : EligibilityVerdict}
    (h : checkLive required evidence unknownState affirmative boot now unknownDetail stale
      otherIncarnation negative = none) (hrequired : required = true) :
    Affirmed evidence affirmative boot now := by
  simp only [checkLive, hrequired, Bool.true_and, chain_eq_none, fail_eq_none, Bool.or_eq_false_iff,
    Bool.not_eq_false', bne_eq_false_iff_eq] at h
  obtain ⟨⟨hvalid, -⟩, hunexpired, hboot, hstate⟩ := h
  exact ⟨hvalid, hunexpired, hboot, hstate⟩

theorem checkReservation_reserved {candidate : RouteCandidate} {evidence : CandidateEvidence}
    (h : checkReservation required candidate evidence now = none) (hrequired : required = true) :
    Reserved evidence candidate.key now := by
  simp only [checkReservation, hrequired, Bool.true_and, chain_eq_none, fail_eq_none,
    Bool.or_eq_false_iff, Bool.not_eq_false', bne_eq_false_iff_eq] at h
  obtain ⟨hpresent, hcurrent, hbackend, hboot⟩ := h
  simp only [ReservationEvidence.current, Bool.and_eq_true, Bool.not_eq_true'] at hcurrent
  obtain ⟨⟨⟨-, hvalid⟩, -⟩, hunexpired⟩ := hcurrent
  exact ⟨hpresent, hvalid, hunexpired, hbackend, hboot⟩

theorem checkCost_known {cost : CostEvidence} (h : checkCost requirements cost now = none)
    (hneeded : requirements.requireKnownCost = true ∨ requirements.enforceCostCeiling = true) :
    cost.known = true ∧ expiredAt now cost.expiresAtUnixMillis = false := by
  have hor : (requirements.requireKnownCost || requirements.enforceCostCeiling) = true :=
    Bool.or_eq_true_iff.mpr hneeded
  simp only [checkCost, hor, Bool.true_and, chain_eq_none, fail_eq_none, Bool.not_eq_false'] at h
  obtain ⟨hknown, hcurrent, -⟩ := h
  simp only [CostEvidence.current, Bool.and_eq_true, Bool.not_eq_true'] at hcurrent
  exact ⟨hknown, hcurrent.2⟩

theorem checkCost_within {cost : CostEvidence} (h : checkCost requirements cost now = none)
    (hceiling : requirements.enforceCostCeiling = true) : Within cost requirements.maximumCost := by
  simp only [checkCost, hceiling, Bool.true_and, chain_eq_none, fail_eq_none, Bool.not_eq_false',
    decide_eq_false_iff_not] at h
  obtain ⟨-, -, hunit, hamount⟩ := h
  exact ⟨hunit, Int64.not_lt.mp hamount⟩

theorem checkLatency_known {latency : LatencyEvidence}
    (h : checkLatency requirements latency now = none)
    (hneeded : requirements.requireKnownLatency = true ∨
      requirements.maxLatencyMicros ≠ kUnspecified) :
    latency.dispatchMicros ≠ kUnknownLatencyMicros := by
  simp only [checkLatency, chain_eq_none, fail_eq_none, Bool.and_eq_false_iff, beq_eq_false_iff_ne,
    bne_eq_false_iff_eq] at h
  obtain ⟨hknown, hceiling, -⟩ := h
  rcases hneeded with hrequired | hset
  · exact hknown.resolve_left (by simp [hrequired])
  · exact hceiling.resolve_left hset

theorem checkLatency_ceiling {latency : LatencyEvidence}
    (h : checkLatency requirements latency now = none)
    (hceiling : requirements.maxLatencyMicros ≠ kUnspecified) :
    latency.expired now = false ∧ latency.dispatchMicros ≤ requirements.maxLatencyMicros := by
  simp only [checkLatency, bne_iff_ne.mpr hceiling, Bool.true_and, chain_eq_none, fail_eq_none,
    decide_eq_false_iff_not] at h
  obtain ⟨-, -, hunexpired, hamount⟩ := h
  exact ⟨hunexpired, UInt32.not_lt.mp hamount⟩

theorem boundRejection_latency {policy : PolicySnapshot} {candidate : RouteCandidate}
    (h : boundRejection policy candidate = none)
    (hceiling : policy.maximumLatencyMicros ≠ kUnspecified) :
    candidate.backend.latency.dispatchMicros ≠ kUnknownLatencyMicros ∧
      candidate.backend.latency.dispatchMicros ≤ policy.maximumLatencyMicros := by
  simp only [boundRejection, bne_iff_ne.mpr hceiling, Bool.true_and, chain_eq_none, reject_eq_none,
    beq_eq_false_iff_ne, decide_eq_false_iff_not] at h
  obtain ⟨-, -, -, -, -, -, hknown, hamount⟩ := h
  exact ⟨hknown, UInt32.not_lt.mp hamount⟩

end

theorem passed_bounds {input : EligibilityInput} (h : firstFailure input = none) :
    checkCost input.request.requirements input.evidence.cost input.now = none ∧
      checkLatency input.request.requirements input.candidate.backend.latency input.now = none ∧
      boundRejection input.policy input.candidate = none := by
  simp only [firstFailure, chain_eq_none] at h
  obtain ⟨-, -, -, -, -, -, -, -, -, -, -, -, -, -, hpolicy, -, hcost, -, hlatency, -⟩ := h
  rw [checkPolicy_eq_none] at hpolicy
  simp only [candidateRejection, chain_eq_none] at hpolicy
  exact ⟨hcost, hlatency, hpolicy.2.2.2⟩

theorem passed_live {input : EligibilityInput} (h : firstFailure input = none) :
    checkAvailability input.request.requirements.requireAvailable input.candidate input.now = none ∧
      checkHealth input.request.requirements.requireHealthy input.candidate input.now = none ∧
      checkReadiness input.request.requirements.requireReady input.candidate input.now = none ∧
      checkResidency input.request.requirements.requireResident input.candidate input.now = none ∧
      checkCapacity input.request.requirements.requireCapacity input.candidate input.now = none ∧
      checkReservation input.request.requirements.requireReservation input.candidate input.evidence
        input.now = none := by
  simp only [firstFailure, chain_eq_none] at h
  obtain ⟨-, -, havailable, hhealthy, hready, hresident, hcapacity, hreserved, -⟩ := h
  exact ⟨havailable, hhealthy, hready, hresident, hcapacity, hreserved⟩

/-- An accepted candidate rests on sound evidence exactly when what the predicates do not look at
is sound as well. -/
theorem accepted_backed_iff {input : EligibilityInput}
    (h : (evaluateHardEligibility input).eligible = true) : Backed input ↔ Unasked input := by
  rw [eligible_iff] at h
  obtain ⟨havailable, hhealthy, hready, hresident, hcapacity, hreserved⟩ := passed_live h
  obtain ⟨hcost, hlatency, hbound⟩ := passed_bounds h
  refine ⟨Backed.unasked, fun hunasked => ?_⟩
  have hpriced (hneeded : input.request.requirements.requireKnownCost = true ∨
      input.request.requirements.enforceCostCeiling = true) :
      Priced input.evidence.cost input.candidate.key input.now := by
    obtain ⟨hknown, hunexpired⟩ := checkCost_known hcost hneeded
    refine ⟨hknown, hunexpired, hunasked.ownCost ?_⟩
    exact hneeded.imp_right Or.inl
  exact
    { available := checkLive_affirmed havailable
      healthy := checkLive_affirmed hhealthy
      ready := checkLive_affirmed hready
      resident := checkLive_affirmed hresident
      capacity := checkLive_affirmed hcapacity
      reserved := checkReservation_reserved hreserved
      knownCost := fun hneeded => hpriced (.inl hneeded)
      costCeiling := fun hneeded => ⟨hpriced (.inr hneeded), checkCost_within hcost hneeded⟩
      policyCost := by
        intro hceiling
        obtain ⟨hknown, hunexpired, hwithin⟩ := hunasked.policyCost hceiling
        exact ⟨⟨hknown, hunexpired, hunasked.ownCost (.inr (.inr hceiling))⟩, hwithin⟩
      knownLatency := by
        intro hneeded
        exact ⟨checkLatency_known hlatency (.inl hneeded), hunasked.latencyUnexpired (.inl hneeded),
          hunasked.ownLatency (.inl hneeded)⟩
      latencyCeiling := by
        intro hceiling
        obtain ⟨hunexpired, hamount⟩ := checkLatency_ceiling hlatency hceiling
        exact ⟨⟨checkLatency_known hlatency (.inr hceiling), hunexpired,
          hunasked.ownLatency (.inr (.inl hceiling))⟩, hamount⟩
      policyLatency := by
        intro hceiling
        obtain ⟨hknown, hamount⟩ := boundRejection_latency hbound hceiling
        exact ⟨⟨hknown, hunasked.latencyUnexpired (.inr hceiling),
          hunasked.ownLatency (.inr (.inr hceiling))⟩, hamount⟩ }

section

def sampleCandidate (binding : ModelBinding) : RouteCandidate where
  key :=
    { modelId := ⟨1⟩
      modelGeneration := ⟨1⟩
      artifactGeneration := ⟨1⟩
      backendId := ⟨7⟩
      backendGeneration := ⟨1⟩
      backendBoot := ⟨1⟩
      endpointId := ⟨4⟩
      endpointGeneration := ⟨1⟩ }
  model := sampleModel ⟨1⟩
  backend := { sampleBackend ⟨1⟩ ⟨1⟩ with modelBindings := [binding] }
  endpoint := (sampleBackend ⟨1⟩ ⟨1⟩).endpoint
  contextLimitTokens := 8

def samplePrice : CostEvidence where
  priceGeneration := ⟨1⟩
  backendId := ⟨7⟩
  modelId := ⟨1⟩
  unit := ⟨"USD", "token"⟩
  estimatedTotalMicros := 500
  knownness := .quoted
  expiresAtUnixMillis := 50

/-- A policy with a ceiling of one thousand, and a price that expired at fifty. -/
def ceilingInput (now : UnixMillis) : EligibilityInput where
  request := sampleRequest
  candidate := sampleCandidate
    { modelId := ⟨1⟩, modelGeneration := ⟨1⟩, artifactGeneration := ⟨1⟩, cost := samplePrice }
  policy := { samplePolicy with maximumRequestCost := { micros := 1000, unit := ⟨"USD", "token"⟩ } }
  budget := {}
  evidence := { cost := samplePrice }
  now := now

/-- The price of a binding is accepted under the ceiling of the policy after it has expired. -/
theorem expired_price_accepted :
    (evaluateHardEligibility (ceilingInput 100)).eligible = true ∧ ¬Backed (ceilingInput 100) := by
  refine ⟨by decide +kernel, fun hbacked => ?_⟩
  have hpriced := (hbacked.policyCost (by decide)).1
  exact absurd hpriced.unexpired (by decide)

theorem current_price_backed : Backed (ceilingInput 40) ↔ Unasked (ceilingInput 40) :=
  accepted_backed_iff (by decide +kernel)

end

end ModelRouter.Grounds
