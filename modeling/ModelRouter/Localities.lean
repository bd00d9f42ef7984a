import ModelRouter.Grounds
import ModelRouter.Tightening

namespace ModelRouter.Localities

open Base.Refusal Bytes Ids Outcome Capability Evidence Catalog Request Candidate Policy Eligibility
open Verdicts Sorting Tightening Grounds Run

def SameLocality (a b : LocalityKey) : Prop :=
  LocalityKey.canonicalize a = LocalityKey.canonicalize b

instance (a b : LocalityKey) : Decidable (SameLocality a b) :=
  inferInstanceAs (Decidable (_ = _))

example : SameLocality "/EU_West//Zone_1/" "eu-west/zone-1" := by decide

def Names (keys : List LocalityKey) (locality : LocalityKey) : Prop :=
  ∃ key ∈ keys, SameLocality key locality

def Spells (keys : List LocalityKey) (locality : LocalityKey) : Prop :=
  locality ≠ [] ∧ locality ∈ keys

theorem Spells.names {keys : List LocalityKey} {locality : LocalityKey}
    (h : Spells keys locality) : Names keys locality :=
  ⟨locality, h.2, rfl⟩

/-- What `evaluate_candidate` and `evaluate_hard_eligibility` ask of an allow list. -/
def passes (allowlist : List LocalityKey) (locality : LocalityKey) : Bool :=
  !(!allowlist.isEmpty && (locality.isEmpty || !binarySearch allowlist locality))

def denied (denylist : List LocalityKey) (locality : LocalityKey) : Bool :=
  !locality.isEmpty && binarySearch denylist locality

section

variable {keys : List LocalityKey} {locality : LocalityKey}

theorem passes_iff (h : Searchable keys) (hkeys : keys ≠ []) :
    passes keys locality = true ↔ Spells keys locality := by
  rw [passes, List.isEmpty_eq_false_iff.mpr hkeys, Bool.not_false, Bool.true_and, Bool.not_or,
    Bool.not_not, Bool.and_eq_true, Bool.not_eq_true', List.isEmpty_eq_false_iff, h locality]
  rfl

theorem denied_iff (h : Searchable keys) : denied keys locality = true ↔ Spells keys locality := by
  rw [denied, Bool.and_eq_true, Bool.not_eq_true', List.isEmpty_eq_false_iff, h locality]
  rfl

end

section

variable (r : RouteRequirements) (p : PolicySnapshot) (candidate : RouteCandidate)

theorem checkPlacement_split :
    checkPlacement r candidate = none ↔
      checkPlacement { r with requiredLocalities := [], deniedLocalities := [] } candidate = none ∧
        passes r.requiredLocalities candidate.backend.locality = true ∧
          denied r.deniedLocalities candidate.backend.locality = false := by
  have hempty : binarySearch [] candidate.backend.locality = false := rfl
  simp only [checkPlacement, chain_eq_none, fail_eq_none, passes, denied, hempty,
    List.isEmpty_nil, Bool.not_true, Bool.false_and, Bool.and_false, Bool.not_eq_true']
  tauto

theorem identityRejection_split :
    identityRejection p candidate = none ↔
      identityRejection { p with allowedLocalities := [], deniedLocalities := [] } candidate =
          none ∧
        passes p.allowedLocalities candidate.backend.locality = true ∧
          denied p.deniedLocalities candidate.backend.locality = false := by
  have hempty : binarySearch [] candidate.backend.locality = false := rfl
  simp only [identityRejection, chain_eq_none, reject_eq_none, passes, denied, hempty,
    List.isEmpty_nil, Bool.not_true, Bool.false_and, Bool.and_false, Bool.not_eq_true']
  tauto

theorem checkPolicy_split (now : UnixMillis) :
    checkPolicy p candidate now = none ↔
      checkPolicy { p with allowedLocalities := [], deniedLocalities := [] } candidate now =
          none ∧
        passes p.allowedLocalities candidate.backend.locality = true ∧
          denied p.deniedLocalities candidate.backend.locality = false := by
  rw [checkPolicy_eq_none, checkPolicy_eq_none, candidateRejection, candidateRejection]
  simp only [chain_eq_none, identityRejection_split p]
  have hplacement : placementRejection { p with allowedLocalities := [], deniedLocalities := [] }
      candidate = placementRejection p candidate := rfl
  have hbounds : boundRejection { p with allowedLocalities := [], deniedLocalities := [] }
      candidate = boundRejection p candidate := rfl
  have hcurrent : { p with allowedLocalities := [], deniedLocalities := [] }.current now =
      p.current now := rfl
  rw [hplacement, hbounds, hcurrent]
  tauto

end

def anywhere (input : EligibilityInput) : EligibilityInput :=
  { input with
    request.requirements :=
      { input.request.requirements with requiredLocalities := [], deniedLocalities := [] }
    policy := { input.policy with allowedLocalities := [], deniedLocalities := [] } }

def undenied (input : EligibilityInput) : EligibilityInput :=
  { input with
    request.requirements := { input.request.requirements with deniedLocalities := [] }
    policy := { input.policy with deniedLocalities := [] } }

section

variable (input : EligibilityInput)

theorem eligible_split :
    (evaluateHardEligibility input).eligible = true ↔
      (evaluateHardEligibility (anywhere input)).eligible = true ∧
        passes input.request.requirements.requiredLocalities input.candidate.backend.locality =
          true ∧
        denied input.request.requirements.deniedLocalities input.candidate.backend.locality =
          false ∧
        passes input.policy.allowedLocalities input.candidate.backend.locality = true ∧
        denied input.policy.deniedLocalities input.candidate.backend.locality = false := by
  have hplacement := checkPlacement_split input.request.requirements input.candidate
  have hpolicy := checkPolicy_split input.policy input.candidate input.now
  rw [eligible_iff, eligible_iff, firstFailure, firstFailure]
  simp only [chain_eq_none]
  constructor
  · rintro ⟨hmodel, hincarnation, havailable, hhealthy, hready, hresident, hcapacity, hreservation,
      hcapabilities, hmodalities, hshape, hlimits, hfilters, hplaced, hallowed, hrest⟩
    obtain ⟨hplaced, hrequired⟩ := hplacement.mp hplaced
    obtain ⟨hallowed, hlisted⟩ := hpolicy.mp hallowed
    exact ⟨⟨hmodel, hincarnation, havailable, hhealthy, hready, hresident, hcapacity, hreservation,
      hcapabilities, hmodalities, hshape, hlimits, hfilters, hplaced, hallowed, hrest⟩,
      hrequired.1, hrequired.2, hlisted⟩
  · rintro ⟨⟨hmodel, hincarnation, havailable, hhealthy, hready, hresident, hcapacity, hreservation,
      hcapabilities, hmodalities, hshape, hlimits, hfilters, hplaced, hallowed, hrest⟩,
      hrequired, hundenied, hlisted⟩
    exact ⟨hmodel, hincarnation, havailable, hhealthy, hready, hresident, hcapacity, hreservation,
      hcapabilities, hmodalities, hshape, hlimits, hfilters,
      hplacement.mpr ⟨hplaced, hrequired, hundenied⟩, hpolicy.mpr ⟨hallowed, hlisted⟩, hrest⟩

theorem eligible_undenied :
    (evaluateHardEligibility input).eligible = true ↔
      (evaluateHardEligibility (undenied input)).eligible = true ∧
        denied input.request.requirements.deniedLocalities input.candidate.backend.locality =
          false ∧
        denied input.policy.deniedLocalities input.candidate.backend.locality = false := by
  have hempty : denied [] input.candidate.backend.locality = false := Bool.and_false _
  rw [eligible_split input, eligible_split (undenied input)]
  change _ ↔ ((evaluateHardEligibility (anywhere input)).eligible = true ∧ _ ∧
    denied [] input.candidate.backend.locality = false ∧ _ ∧
      denied [] input.candidate.backend.locality = false) ∧ _
  rw [hempty]
  tauto

end

section

variable (input : EligibilityInput)

def denylists : List LocalityKey :=
  input.policy.deniedLocalities ++ input.request.requirements.deniedLocalities

/-- The spelling of a locality makes no difference to what the four lists say of it. -/
structure SpellingBlind : Prop where
  denied : Names (denylists input) input.candidate.backend.locality →
    (evaluateHardEligibility input).eligible = false
  allowed : input.policy.allowedLocalities ≠ [] →
    (passes input.policy.allowedLocalities input.candidate.backend.locality = true ↔
      Names input.policy.allowedLocalities input.candidate.backend.locality)
  required : input.request.requirements.requiredLocalities ≠ [] →
    (passes input.request.requirements.requiredLocalities input.candidate.backend.locality = true ↔
      Names input.request.requirements.requiredLocalities input.candidate.backend.locality)

/-- The lists that name the locality of the backend spell it as the backend does; a deny list may
spell it otherwise where the candidate is not eligible even without it. -/
structure SpelledAlike : Prop where
  denied : Names (denylists input) input.candidate.backend.locality →
    Spells (denylists input) input.candidate.backend.locality ∨
      (evaluateHardEligibility (undenied input)).eligible = false
  allowed : Names input.policy.allowedLocalities input.candidate.backend.locality →
    Spells input.policy.allowedLocalities input.candidate.backend.locality
  required : Names input.request.requirements.requiredLocalities input.candidate.backend.locality →
    Spells input.request.requirements.requiredLocalities input.candidate.backend.locality

end

section

variable {keys : List LocalityKey} {locality : LocalityKey}

theorem passes_names_iff (h : Searchable keys) :
    (keys ≠ [] → (passes keys locality = true ↔ Names keys locality)) ↔
      (Names keys locality → Spells keys locality) := by
  constructor
  · intro hblind hnames
    have hkeys : keys ≠ [] := by
      obtain ⟨key, hmem, -⟩ := hnames
      exact List.ne_nil_of_mem hmem
    exact (passes_iff h hkeys).mp ((hblind hkeys).mpr hnames)
  · intro hspelled hkeys
    rw [passes_iff h hkeys]
    exact ⟨Spells.names, hspelled⟩

end

/-- The verdict on a candidate does not depend on how localities are spelled just when the lists
that name its locality spell it alike. -/
theorem spelling_blind_iff (raw : EligibilityInput) :
    let input := EligibilityInput.under raw raw.request.requirements.canonicalize
      raw.policy.canonicalize
    SpellingBlind input ↔ SpelledAlike input := by
  intro input
  have hpolicyDenied : Searchable input.policy.deniedLocalities := searchable_sortLocalities _
  have hpolicyAllowed : Searchable input.policy.allowedLocalities := searchable_sortLocalities _
  have hrequestDenied : Searchable input.request.requirements.deniedLocalities :=
    searchable_sortLocalities _
  have hrequired : Searchable input.request.requirements.requiredLocalities :=
    searchable_sortLocalities _
  have hdenied : (evaluateHardEligibility input).eligible = false ↔
      Spells (denylists input) input.candidate.backend.locality ∨
        (evaluateHardEligibility (undenied input)).eligible = false := by
    have hspells : Spells (denylists input) input.candidate.backend.locality ↔
        Spells input.policy.deniedLocalities input.candidate.backend.locality ∨
          Spells input.request.requirements.deniedLocalities input.candidate.backend.locality := by
      rw [Spells, denylists, List.mem_append, and_or_left]
      rfl
    rw [hspells, ← denied_iff hpolicyDenied, ← denied_iff hrequestDenied, Bool.eq_false_iff, ne_eq,
      eligible_undenied]
    simp only [← Bool.not_eq_false]
    tauto
  constructor
  · rintro ⟨hdeny, hallow, hrequire⟩
    exact ⟨fun hnames => hdenied.mp (hdeny hnames), (passes_names_iff hpolicyAllowed).mp hallow,
      (passes_names_iff hrequired).mp hrequire⟩
  · rintro ⟨hdeny, hallow, hrequire⟩
    exact ⟨fun hnames => hdenied.mpr (hdeny hnames), (passes_names_iff hpolicyAllowed).mpr hallow,
      (passes_names_iff hrequired).mpr hrequire⟩

def respelledInput (locality : LocalityKey) : EligibilityInput :=
  let input := ceilingInput 40
  { input with
    candidate.backend.locality := locality
    policy := { input.policy with deniedLocalities := ["eu-west"] } }

/-- The policy denies eu-west, and the backend in EU_West is eligible. -/
theorem respelled_locality_admitted :
    let input := EligibilityInput.under (respelledInput "EU_West")
      (respelledInput "EU_West").request.requirements.canonicalize
      (respelledInput "EU_West").policy.canonicalize
    Names input.policy.deniedLocalities input.candidate.backend.locality ∧
      (evaluateHardEligibility input).eligible = true := by
  refine ⟨⟨"eu-west", by decide, by decide⟩, by decide +kernel⟩

end ModelRouter.Localities
