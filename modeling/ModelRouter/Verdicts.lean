import ModelRouter.Pass

namespace ModelRouter.Verdicts

open Base.Refusal Bytes Ids Outcome Capability Evidence Catalog Request Candidate Policy Eligibility
open Pass

abbrev Rejects (check : Option EligibilityVerdict) : Prop :=
  Answers (fun verdict => verdict.code.isAcceptance = false) check

theorem ne_accepted {code : OutcomeCode} (h : code.isAcceptance = false) : code ≠ .accepted := by
  rintro rfl
  cases h

theorem fail_rejects {condition : Bool} {code : OutcomeCode} {detail : Text}
    (h : code.isAcceptance = false) :
    Rejects (fail condition code detail) :=
  answers_refuse h

section

variable (request : RouteRequest) (requirements : RouteRequirements) (candidate : RouteCandidate)
variable (evidence : CandidateEvidence) (now : UnixMillis) (required : Bool)

theorem checkModel_rejects : Rejects (checkModel candidate now) := by
  rw [checkModel]
  refine .chain ?_ (.chain ?_ (.chain ?_ (.chain ?_ (.chain ?_ ?_))))
  case refine_6 =>
    split
    · exact fail_rejects (by decide)
    · exact fail_rejects (by decide)
  all_goals exact fail_rejects (by decide)

theorem checkIncarnation_rejects : Rejects (checkIncarnation candidate) := by
  rw [checkIncarnation]
  refine .chain ?_ (.chain ?_ (.chain ?_ ?_))
  all_goals exact fail_rejects (by decide)

theorem checkLive_rejects {σ : Type} {t : Tag} [DecidableEq σ] (required : Bool)
    (evidence : BackendEvidence σ t) (unknownState affirmative : σ) (boot : BackendBootId)
    (now : UnixMillis) (unknownDetail : Text) {stale : EligibilityVerdict} (otherIncarnation : Text)
    {negative : EligibilityVerdict} (hstale : stale.code.isAcceptance = false)
    (hnegative : negative.code.isAcceptance = false) :
    Rejects (checkLive required evidence unknownState affirmative boot now unknownDetail stale
      otherIncarnation negative) := by
  rw [checkLive]
  exact .chain (fail_rejects (by decide)) (.chain (fail_rejects hstale)
    (.chain (fail_rejects (by decide)) (fail_rejects hnegative)))

theorem checkReservation_rejects : Rejects (checkReservation required candidate evidence now) := by
  rw [checkReservation]
  refine .chain ?_ (.chain ?_ ?_)
  all_goals exact fail_rejects (by decide)

theorem checkCapability_rejects (requirement : CapabilityRequirement) :
    Rejects (checkCapability candidate now requirement) := by
  intro verdict hverdict
  rw [checkCapability] at hverdict
  split_ifs at hverdict
  split at hverdict
  · obtain rfl := Option.some.inj hverdict
    rfl
  · split_ifs at hverdict
    all_goals
      obtain rfl := Option.some.inj hverdict
      rfl

theorem checkCapabilities_rejects : Rejects (checkCapabilities request candidate now) :=
  answers_findSome? fun _ _ => checkCapability_rejects candidate now _

theorem checkModalities_rejects : Rejects (checkModalities request candidate) := by
  rw [checkModalities]
  exact .chain (fail_rejects (by decide)) (fail_rejects (by decide))

theorem checkShape_rejects : Rejects (checkShape request candidate evidence now) := by
  rw [checkShape]
  refine .chain ?_ (.chain ?_ (.chain ?_ (.chain ?_ (.chain ?_ (.chain ?_ (.chain ?_ ?_))))))
  all_goals exact fail_rejects (by decide)

theorem checkLimits_rejects : Rejects (checkLimits requirements candidate) := by
  rw [checkLimits]
  refine .chain ?_ (.chain ?_ (.chain ?_ ?_))
  all_goals exact fail_rejects (by decide)

theorem checkFilter_rejects {t : Tag} (allowlist denylist : List (EntityId t)) (id : EntityId t)
    (unlisted denied : Text) : Rejects (checkFilter allowlist denylist id unlisted denied) := by
  rw [checkFilter]
  exact .chain (fail_rejects (by decide)) (fail_rejects (by decide))

theorem checkFilters_rejects : Rejects (checkFilters requirements candidate) := by
  rw [checkFilters]
  refine .chain ?_ (.chain ?_ (.chain ?_ ?_))
  all_goals exact checkFilter_rejects _ _ _ _ _

theorem checkPlacement_rejects : Rejects (checkPlacement requirements candidate) := by
  rw [checkPlacement]
  refine .chain ?_ (.chain ?_ (.chain ?_ (.chain ?_ (.chain ?_ (.chain ?_ ?_)))))
  all_goals exact fail_rejects (by decide)

theorem reject_rejects {condition : Bool} {code : OutcomeCode} {detail : Text}
    (h : code.isAcceptance = false) :
    Answers (fun verdict : PolicyVerdict => verdict.code.isAcceptance = false)
      (reject condition code detail) :=
  answers_refuse h

theorem candidateRejection_rejects (policy : PolicySnapshot) :
    Answers (fun verdict : PolicyVerdict => verdict.code.isAcceptance = false)
      (candidateRejection policy candidate now) := by
  refine .chain (reject_rejects (by decide)) (.chain ?_ (.chain ?_ ?_))
  · rw [identityRejection]
    refine .chain ?_ (.chain ?_ (.chain ?_ (.chain ?_ (.chain ?_ (.chain ?_ (.chain ?_ (.chain ?_
      (.chain ?_ (.chain ?_ (.chain ?_ ?_))))))))))
    all_goals exact reject_rejects (by decide)
  · rw [placementRejection]
    refine .chain ?_ (.chain ?_ (.chain ?_ ?_))
    all_goals exact reject_rejects (by decide)
  · rw [boundRejection]
    refine .chain ?_ (.chain ?_ (.chain ?_ (.chain ?_ (.chain ?_ (.chain ?_ (.chain ?_ ?_))))))
    all_goals exact reject_rejects (by decide)

theorem checkPolicy_eq_none {policy : PolicySnapshot} {candidate : RouteCandidate}
    {now : UnixMillis} :
    checkPolicy policy candidate now = none ↔ candidateRejection policy candidate now = none := by
  cases h : candidateRejection policy candidate now with
  | none =>
      refine iff_of_true ?_ rfl
      simp [checkPolicy, evaluateCandidate, h, PolicyVerdict.allowed]
  | some verdict =>
      have hcode := ne_accepted (candidateRejection_rejects candidate now policy verdict h)
      simp [checkPolicy, evaluateCandidate, h, PolicyVerdict.allowed, hcode]

theorem checkPolicy_rejects (policy : PolicySnapshot) :
    Rejects (checkPolicy policy candidate now) := by
  intro verdict hverdict
  rw [checkPolicy] at hverdict
  split at hverdict
  · cases hverdict
  · rename_i hdenied
    obtain rfl := Option.some.inj hverdict
    rw [evaluateCandidate] at hdenied ⊢
    cases hrejection : candidateRejection policy candidate now with
    | none =>
        rw [hrejection] at hdenied
        exact absurd rfl hdenied
    | some rejection => exact candidateRejection_rejects candidate now policy rejection hrejection

theorem checkBudget_rejects (budget : BudgetSnapshot) : Rejects (checkBudget request budget now) := by
  rw [checkBudget]
  refine .chain ?_ (.chain ?_ (.chain ?_ (.chain ?_ ?_)))
  all_goals exact fail_rejects (by decide)

theorem checkCost_rejects (cost : CostEvidence) : Rejects (checkCost requirements cost now) := by
  rw [checkCost]
  refine .chain ?_ (.chain ?_ (.chain ?_ ?_))
  all_goals exact fail_rejects (by decide)

theorem checkSlo_rejects : Rejects (checkSlo request evidence now) := by
  rw [checkSlo]
  refine .chain ?_ (.chain ?_ (.chain ?_ (.chain ?_ (.chain ?_ (.chain ?_ (.chain ?_ ?_))))))
  all_goals exact fail_rejects (by decide)

theorem checkLatency_rejects (latency : LatencyEvidence) :
    Rejects (checkLatency requirements latency now) := by
  rw [checkLatency]
  refine .chain ?_ (.chain ?_ (.chain ?_ ?_))
  all_goals exact fail_rejects (by decide)

theorem checkCompatibility_rejects : Rejects (checkCompatibility requirements evidence now) := by
  rw [checkCompatibility]
  exact .chain (fail_rejects (by decide)) (fail_rejects (by decide))

end

theorem firstFailure_rejects (input : EligibilityInput) : Rejects (firstFailure input) := by
  have hlive {σ : Type} {t : Tag} [DecidableEq σ] (required : Bool) (evidence : BackendEvidence σ t)
      (unknownState affirmative : σ) (boot : BackendBootId) (now : UnixMillis)
      (unknownDetail otherIncarnation : Text) {stale negative : EligibilityVerdict}
      (hcodes : stale.code.isAcceptance = false ∧ negative.code.isAcceptance = false) :=
    checkLive_rejects required evidence unknownState affirmative boot now unknownDetail
      otherIncarnation hcodes.1 hcodes.2
  rw [firstFailure]
  refine .chain (checkModel_rejects _ _) (.chain (checkIncarnation_rejects _) (.chain
    (hlive _ _ _ _ _ _ _ _ (by decide)) (.chain (hlive _ _ _ _ _ _ _ _ (by decide)) (.chain
    (hlive _ _ _ _ _ _ _ _ (by decide)) (.chain (hlive _ _ _ _ _ _ _ _ (by decide)) (.chain
    (hlive _ _ _ _ _ _ _ _ (by decide)) (.chain (checkReservation_rejects _ _ _ _) ?_)))))))
  refine .chain (checkCapabilities_rejects _ _ _) (.chain (checkModalities_rejects _ _) (.chain
    (checkShape_rejects _ _ _ _) (.chain (checkLimits_rejects _ _) (.chain
    (checkFilters_rejects _ _) (.chain (checkPlacement_rejects _ _) (.chain
    (checkPolicy_rejects _ _ _) (.chain (checkBudget_rejects _ _ _) ?_)))))))
  exact .chain (checkCost_rejects _ _ _) (.chain (checkSlo_rejects _ _ _) (.chain
    (checkLatency_rejects _ _ _) (checkCompatibility_rejects _ _ _)))

theorem eligible_iff {input : EligibilityInput} :
    (evaluateHardEligibility input).eligible = true ↔ firstFailure input = none := by
  rw [evaluateHardEligibility]
  cases h : firstFailure input with
  | none => exact iff_of_true rfl rfl
  | some verdict =>
      have hcode := ne_accepted (firstFailure_rejects input verdict h)
      simpa [EligibilityVerdict.eligible] using hcode

theorem satisfies_iff {now : UnixMillis} {minimum : CapabilityState}
    {held : Option CapabilityEvidence} :
    satisfies now held minimum = true ↔ ∃ claim, held = some claim ∧
      claim.state.isSatisfying = true ∧ claim.expired now = false ∧
      minimum.evidenceStrength ≤ claim.state.evidenceStrength := by
  simp only [satisfies, Option.any_eq_true, Bool.and_eq_true, Bool.not_eq_true', decide_eq_true_eq,
    and_assoc]

theorem checkCapability_eq_none {now : UnixMillis} {candidate : RouteCandidate}
    {requirement : CapabilityRequirement} :
    checkCapability candidate now requirement = none ↔
      satisfies now (candidate.model.capabilities.find requirement.key) requirement.minimumState =
          true ∨
        satisfies now (candidate.backend.capabilities.find requirement.key)
          requirement.minimumState = true := by
  rw [← Bool.or_eq_true_iff]
  constructor
  · intro h
    by_contra hneither
    rw [checkCapability, if_neg hneither] at h
    split at h
    · cases h
    · split_ifs at h
  · intro h
    rw [checkCapability, if_pos h]

/-- An eligible candidate is identified by the generations of its own descriptors. -/
structure Identified (candidate : RouteCandidate) : Prop where
  model : candidate.model.modelGeneration = candidate.key.modelGeneration
  artifact : candidate.model.artifactGeneration = candidate.key.artifactGeneration
  backend : candidate.backend.backendGeneration = candidate.key.backendGeneration
  boot : candidate.backend.backendBoot = candidate.key.backendBoot
  endpoint : candidate.endpoint.endpointGeneration = candidate.key.endpointGeneration

theorem eligible_identified {input : EligibilityInput} (h : firstFailure input = none) :
    Identified input.candidate := by
  simp only [firstFailure, chain_eq_none] at h
  obtain ⟨hmodel, hincarnation, -⟩ := h
  simp only [checkModel, chain_eq_none, fail_eq_none, Bool.or_eq_false_iff, bne_eq_false_iff_eq]
    at hmodel
  simp only [checkIncarnation, chain_eq_none, fail_eq_none, Bool.or_eq_false_iff,
    bne_eq_false_iff_eq] at hincarnation
  obtain ⟨-, -, -, -, ⟨hgeneration, hartifact⟩, -⟩ := hmodel
  obtain ⟨⟨hboot, hbackend⟩, -, -, hendpoint, -⟩ := hincarnation
  exact ⟨hgeneration.symm, hartifact.symm, hbackend, hboot, hendpoint⟩

theorem assess_ok {frame : Frame} {candidate : RouteCandidate} {evidence : CandidateEvidence}
    {assessment : Assessment} (h : assess frame candidate evidence = .ok assessment) :
    let counted := countCapabilities candidate frame.request.requirements frame.now
    assessment =
        { candidate := counted
          evidence := evidence
          ranked := rankCandidate frame counted evidence } ∧
      firstFailure (frame.input counted evidence) = none := by
  rw [assess] at h
  split at h
  · rename_i heligible
    exact ⟨(Except.ok.inj h).symm, eligible_iff.mp heligible⟩
  · cases h

end ModelRouter.Verdicts
