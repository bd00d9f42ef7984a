import ModelRouter.Grounds
import ModelRouter.Sorting

namespace ModelRouter.Tightening

open Base.Refusal Bytes Ids Outcome Capability Evidence Catalog Request Candidate Policy Eligibility
open Sorting Run Verdicts Grounds

variable {α : Type}

/-- An allowlist as it was, or cut down to some of its entries. -/
def Shrinks (allowlist allowlist' : List α) : Prop :=
  allowlist = [] ∧ allowlist' = [] ∨ allowlist' ≠ [] ∧ allowlist' ⊆ allowlist

/-- Requirements that restrict at least as much as `r` does, and in no other way. -/
structure Tightens (r r' : RouteRequirements) : Prop where
  capabilities : ∀ required ∈ r.requiredCapabilities, ∃ required' ∈ r'.requiredCapabilities,
    required'.key = required.key ∧
      required.minimumState.evidenceStrength ≤ required'.minimumState.evidenceStrength
  context : r.minContextTokens ≤ r'.minContextTokens
  output : r.maxOutputTokens ≤ r'.maxOutputTokens
  inputModalities : r'.requiredInputModalities.covers r.requiredInputModalities = true
  outputModalities : r'.requiredOutputModalities.covers r.requiredOutputModalities = true
  structuredOutput : r.requireStructuredOutput = true → r'.requireStructuredOutput = true
  jsonSchema : r.requireJsonSchema = true → r'.requireJsonSchema = true
  toolCalling : r.requireToolCalling = true → r'.requireToolCalling = true
  streaming : r.requireStreaming = true → r'.requireStreaming = true
  logprobs : r.requireLogprobs = true → r'.requireLogprobs = true
  deterministicSeed : r.requireDeterministicSeed = true → r'.requireDeterministicSeed = true
  quality : r.qualityFloor ≤ r'.qualityFloor
  modelAllowlist : Shrinks r.modelAllowlist r'.modelAllowlist
  modelDenylist : r.modelDenylist ⊆ r'.modelDenylist
  familyAllowlist : Shrinks r.familyAllowlist r'.familyAllowlist
  familyDenylist : r.familyDenylist ⊆ r'.familyDenylist
  providerAllowlist : Shrinks r.providerAllowlist r'.providerAllowlist
  providerDenylist : r.providerDenylist ⊆ r'.providerDenylist
  backendAllowlist : Shrinks r.backendAllowlist r'.backendAllowlist
  backendDenylist : r.backendDenylist ⊆ r'.backendDenylist
  localOnly : r.localOnly = true → r'.localOnly = true
  offlineOnly : r.offlineOnly = true → r'.offlineOnly = true
  remoteAllowed : r'.remoteAllowed = true → r.remoteAllowed = true
  localities : Shrinks r.requiredLocalities r'.requiredLocalities
  deniedLocalities : r.deniedLocalities ⊆ r'.deniedLocalities
  trust : r.minimumTrust.trustRank ≤ r'.minimumTrust.trustRank
  knownCost : r.requireKnownCost = true → r'.requireKnownCost = true
  costCeiling : r.enforceCostCeiling = true → r'.enforceCostCeiling = true ∧
    r'.maximumCost.unit = r.maximumCost.unit ∧ r'.maximumCost.micros ≤ r.maximumCost.micros
  latencyCeiling : r'.maxLatencyMicros ≤ r.maxLatencyMicros
  slo : r.requireSlo = true → r'.requireSlo = true
  available : r.requireAvailable = true → r'.requireAvailable = true
  healthy : r.requireHealthy = true → r'.requireHealthy = true
  ready : r.requireReady = true → r'.requireReady = true
  resident : r.requireResident = true → r'.requireResident = true
  capacity : r.requireCapacity = true → r'.requireCapacity = true
  reservation : r.requireReservation = true → r'.requireReservation = true
  knownLatency : r.requireKnownLatency = true → r'.requireKnownLatency = true
  knownCompatibility : r.requireKnownCompatibility = true → r'.requireKnownCompatibility = true
  protocol : r'.requiredProtocol = r.requiredProtocol
  protocolVersion : r.requiredProtocolVersion = 0 ∨
    r'.requiredProtocolVersion = r.requiredProtocolVersion

/-- A policy that restricts at least as much as `p` does, and in no other way. -/
structure TightensPolicy (p p' : PolicySnapshot) : Prop where
  generation : p'.generation.valid = true → p.generation.valid = true
  expiry : p'.expiresAtUnixMillis = p.expiresAtUnixMillis
  allowedModels : Shrinks p.allowedModels p'.allowedModels
  deniedModels : p.deniedModels ⊆ p'.deniedModels
  allowedProviders : Shrinks p.allowedProviders p'.allowedProviders
  deniedProviders : p.deniedProviders ⊆ p'.deniedProviders
  allowedBackends : Shrinks p.allowedBackends p'.allowedBackends
  deniedBackends : p.deniedBackends ⊆ p'.deniedBackends
  deniedFamilies : p.deniedModelFamilies ⊆ p'.deniedModelFamilies
  allowedLocalities : Shrinks p.allowedLocalities p'.allowedLocalities
  deniedLocalities : p.deniedLocalities ⊆ p'.deniedLocalities
  trust : p.minimumTrust.trustRank ≤ p'.minimumTrust.trustRank
  capabilities : p.minimumCapabilityEvidence.evidenceStrength ≤
    p'.minimumCapabilityEvidence.evidenceStrength
  quality : p.qualityFloor ≤ p'.qualityFloor
  costCeiling : 0 < p.maximumRequestCost.micros → 0 < p'.maximumRequestCost.micros ∧
    p'.maximumRequestCost.unit = p.maximumRequestCost.unit ∧
    p'.maximumRequestCost.micros ≤ p.maximumRequestCost.micros
  latencyCeiling : p'.maximumLatencyMicros ≤ p.maximumLatencyMicros
  localOnly : p.localOnly = true → p'.localOnly = true
  denyPublicRemote : p.denyPublicRemote = true → p'.denyPublicRemote = true
  unlistedModels : p'.allowUnlistedModels = true → p.allowUnlistedModels = true
  unlistedProviders : p'.allowUnlistedProviders = true → p.allowUnlistedProviders = true
  unlistedBackends : p'.allowUnlistedBackends = true → p.allowUnlistedBackends = true

section

variable {t : Tag}

theorem searchable_ids {ids : List (EntityId t)} (h : sortIds ids = ids) : Searchable ids := by
  have hsorted : (stableSort (fun a b => decide (a < b)) ids).Pairwise fun a b => a ≤ b :=
    stableSort_sorted (fun a b => decide_eq_true_iff) ids
  have hstrict : (sortIds ids).Pairwise fun a b => a < b :=
    unique_strict (fun a b => beq_iff_eq) hsorted
  rw [h] at hstrict
  exact searchable_of_sorted (fun a b => Iff.rfl) Function.injective_id (hstrict.imp le_of_lt)

theorem searchable_sortLocalities (keys : List LocalityKey) : Searchable (sortLocalities keys) := by
  have hbefore (a b : LocalityKey) :
      decide (a < b) = true ↔ a.map UInt8.toNat < b.map UInt8.toNat :=
    decide_eq_true_iff.trans text_lt_iff
  have hsame (a b : LocalityKey) : (a == b) = true ↔ a.map UInt8.toNat = b.map UInt8.toNat :=
    beq_iff_eq.trans text_key_injective.eq_iff.symm
  have hstrict : (sortLocalities keys).Pairwise fun a b =>
      a.map UInt8.toNat < b.map UInt8.toNat :=
    unique_strict hsame (stableSort_sorted hbefore keys)
  exact searchable_of_sorted (fun a b => text_lt_iff) text_key_injective (hstrict.imp le_of_lt)

theorem searchable_localities {keys : List LocalityKey} (h : sortLocalities keys = keys) :
    Searchable keys :=
  h ▸ searchable_sortLocalities keys

end

section

variable [LT α] [DecidableLT α] {xs xs' : List α} {value : α}

theorem denied_grows (h : Searchable xs) (h' : Searchable xs') (hgrows : xs ⊆ xs')
    (hdenied : binarySearch xs value = true) : binarySearch xs' value = true :=
  (h' value).mpr (hgrows ((h value).mp hdenied))

theorem unlisted_grows (h : Searchable xs) (h' : Searchable xs') (hshrinks : Shrinks xs xs')
    (hunlisted : (!xs.isEmpty && !binarySearch xs value) = true) :
    (!xs'.isEmpty && !binarySearch xs' value) = true := by
  rw [Bool.and_eq_true, Bool.not_eq_true', Bool.not_eq_true', List.isEmpty_eq_false_iff,
    Bool.eq_false_iff, ne_eq, ne_eq, h value] at hunlisted
  rw [Bool.and_eq_true, Bool.not_eq_true', Bool.not_eq_true', List.isEmpty_eq_false_iff,
    Bool.eq_false_iff, ne_eq, ne_eq, h' value]
  rcases hshrinks with ⟨hempty, -⟩ | ⟨hne, hsubset⟩
  · exact absurd hempty hunlisted.1
  · exact ⟨hne, fun hmem => hunlisted.2 (hsubset hmem)⟩

end

section

variable {r r' : RouteRequirements} {request request' : RouteRequest} {candidate : RouteCandidate}
variable {evidence : CandidateEvidence} {now : UnixMillis}

theorem and_on {b b' c : Bool} (h : b = true → b' = true) (hc : (b && c) = true) :
    (b' && c) = true := by
  rw [Bool.and_eq_true] at hc ⊢
  exact ⟨h hc.1, hc.2⟩

theorem checkLive_laxer {σ : Type} {t : Tag} [DecidableEq σ] {required required' : Bool}
    (h : required = true → required' = true) (evidence : BackendEvidence σ t)
    (unknownState affirmative : σ) (boot : BackendBootId) (now : UnixMillis) (unknownDetail : Text)
    (stale : EligibilityVerdict) (otherIncarnation : Text) (negative : EligibilityVerdict) :
    Laxer
      (checkLive required evidence unknownState affirmative boot now unknownDetail stale
        otherIncarnation negative)
      (checkLive required' evidence unknownState affirmative boot now unknownDetail stale
        otherIncarnation negative) :=
  (laxer_refuse (and_on h)).chain ((laxer_refuse (and_on h)).chain
    ((laxer_refuse (and_on h)).chain (laxer_refuse (and_on h))))

theorem checkReservation_laxer {required required' : Bool} (h : required = true → required' = true) :
    Laxer (checkReservation required candidate evidence now)
      (checkReservation required' candidate evidence now) :=
  (laxer_refuse (and_on h)).chain ((laxer_refuse (and_on h)).chain (laxer_refuse (and_on h)))

theorem satisfies_weaker {held : Option CapabilityEvidence} {low high : CapabilityState}
    (hle : low.evidenceStrength ≤ high.evidenceStrength) (h : satisfies now held high = true) :
    satisfies now held low = true := by
  obtain ⟨claim, hheld, hclaim⟩ := (Option.any_eq_true _ _).mp h
  refine (Option.any_eq_true _ _).mpr ⟨claim, hheld, ?_⟩
  rw [Bool.and_eq_true, decide_eq_true_eq] at hclaim ⊢
  exact ⟨hclaim.1, hle.trans hclaim.2⟩

theorem checkCapability_laxer {required required' : CapabilityRequirement}
    (hkey : required'.key = required.key)
    (hle : required.minimumState.evidenceStrength ≤ required'.minimumState.evidenceStrength) :
    Laxer (checkCapability candidate now required) (checkCapability candidate now required') := by
  intro h
  have hsatisfied := checkCapability_eq_none.mp h
  rw [hkey] at hsatisfied
  exact checkCapability_eq_none.mpr
    (hsatisfied.imp (satisfies_weaker hle) (satisfies_weaker hle))

theorem checkCapabilities_laxer (h : Tightens request.requirements request'.requirements) :
    Laxer (checkCapabilities request candidate now) (checkCapabilities request' candidate now) := by
  intro hnone
  rw [checkCapabilities, List.findSome?_eq_none_iff] at hnone ⊢
  intro required hrequired
  obtain ⟨required', hrequired', hkey, hle⟩ := h.capabilities required hrequired
  exact checkCapability_laxer hkey hle (hnone required' hrequired')

theorem covers_trans {a b c : ModalitySet} (hab : a.covers b = true) (hbc : b.covers c = true) :
    a.covers c = true := by
  simp only [ModalitySet.covers, beq_iff_eq] at hab hbc ⊢
  rw [← hbc, ← UInt32.and_assoc, hab]

theorem uncovered_grows {held needed needed' : ModalitySet} (hneeded : needed'.covers needed = true)
    (h : (!held.covers needed) = true) : (!held.covers needed') = true := by
  rw [Bool.not_eq_true', Bool.eq_false_iff] at h ⊢
  exact fun hcovered => h (covers_trans hcovered hneeded)

theorem checkModalities_laxer (h : Tightens request.requirements request'.requirements) :
    Laxer (checkModalities request candidate) (checkModalities request' candidate) :=
  (laxer_refuse (uncovered_grows h.inputModalities)).chain
    (laxer_refuse (uncovered_grows h.outputModalities))

theorem checkShape_laxer (h : Tightens request.requirements request'.requirements) :
    Laxer (checkShape request candidate evidence now) (checkShape request' candidate evidence now) := by
  refine (laxer_refuse (and_on h.structuredOutput)).chain ((laxer_refuse (and_on h.jsonSchema)).chain
    ((laxer_refuse (and_on h.toolCalling)).chain ((laxer_refuse (and_on h.streaming)).chain
    ((laxer_refuse (and_on h.logprobs)).chain ((laxer_refuse (and_on h.deterministicSeed)).chain
    ((laxer_refuse ?_).chain (laxer_refuse ?_)))))))
  · rw [h.protocol]
    exact id
  · rw [h.protocol]
    rcases h.protocolVersion with hany | hsame
    · rw [hany]
      simp only [bne_self_eq_false, Bool.false_and, Bool.or_false, Bool.and_eq_true,
        Bool.or_eq_true]
      exact fun hother => ⟨hother.1, .inl hother.2⟩
    · rw [hsame]
      exact id

theorem floor_rises {floor floor' : QualityClass} (h : floor ≤ floor')
    (hfloor : (floor != kUnclassifiedQuality) = true) : (floor' != kUnclassifiedQuality) = true := by
  simp only [kUnclassifiedQuality, bne_iff_ne, ne_eq, UInt32.le_iff_toNat_le, ← UInt32.toNat_inj,
    UInt32.toNat_zero] at h hfloor ⊢
  omega

theorem below_rises {quality floor floor' : QualityClass} (h : floor ≤ floor')
    (hbelow : (floor != kUnclassifiedQuality && decide (quality < floor)) = true) :
    (floor' != kUnclassifiedQuality && decide (quality < floor')) = true := by
  rw [Bool.and_eq_true, decide_eq_true_eq] at hbelow ⊢
  exact ⟨floor_rises h hbelow.1, UInt32.lt_of_lt_of_le hbelow.2 h⟩

theorem checkLimits_laxer (h : Tightens r r') :
    Laxer (checkLimits r candidate) (checkLimits r' candidate) := by
  refine (laxer_refuse ?_).chain ((laxer_refuse ?_).chain
    ((laxer_refuse (and_on (floor_rises h.quality))).chain (laxer_refuse (below_rises h.quality))))
  · simp only [decide_eq_true_eq]
    exact fun hshort => UInt32.lt_of_lt_of_le hshort h.context
  · simp only [decide_eq_true_eq]
    exact fun hshort => UInt32.lt_of_lt_of_le hshort h.output

theorem checkFilter_laxer {t : Tag} {allow deny : RouteRequirements → List (EntityId t)}
    {id : EntityId t} {unlisted denied : Text}
    (hallow : ∀ r, allow r.canonicalize = sortIds (allow r))
    (hdeny : ∀ r, deny r.canonicalize = sortIds (deny r)) (hr : r.canonicalize = r)
    (hr' : r'.canonicalize = r') (hshrinks : Shrinks (allow r) (allow r'))
    (hgrows : deny r ⊆ deny r') :
    Laxer (checkFilter (allow r) (deny r) id unlisted denied)
      (checkFilter (allow r') (deny r') id unlisted denied) := by
  have hsearch {get : RouteRequirements → List (EntityId t)}
      (hget : ∀ r, get r.canonicalize = sortIds (get r)) {r : RouteRequirements}
      (hr : r.canonicalize = r) : Searchable (get r) :=
    searchable_ids ((hget r).symm.trans (congrArg get hr))
  exact (laxer_refuse (unlisted_grows (hsearch hallow hr) (hsearch hallow hr') hshrinks)).chain
    (laxer_refuse (denied_grows (hsearch hdeny hr) (hsearch hdeny hr') hgrows))

theorem checkFilters_laxer (hr : r.canonicalize = r) (hr' : r'.canonicalize = r')
    (h : Tightens r r') : Laxer (checkFilters r candidate) (checkFilters r' candidate) := by
  refine .chain ?_ (.chain ?_ (.chain ?_ ?_))
  · exact checkFilter_laxer (fun _ => rfl) (fun _ => rfl) hr hr' h.modelAllowlist h.modelDenylist
  · exact checkFilter_laxer (fun _ => rfl) (fun _ => rfl) hr hr' h.familyAllowlist h.familyDenylist
  · exact checkFilter_laxer (fun _ => rfl) (fun _ => rfl) hr hr' h.providerAllowlist h.providerDenylist
  · exact checkFilter_laxer (fun _ => rfl) (fun _ => rfl) hr hr' h.backendAllowlist h.backendDenylist

theorem rank_floor_rises {floor floor' : TrustDomain} (h : floor.trustRank ≤ floor'.trustRank)
    (hfloor : (floor != .unknown) = true) : (floor' != .unknown) = true := by
  rw [bne_iff_ne] at hfloor ⊢
  rintro rfl
  have hpositive : 0 < floor.trustRank := by
    cases floor with
    | unknown => exact absurd rfl hfloor
    | _ => decide
  exact absurd h (Nat.not_le.mpr hpositive)

theorem rank_below_rises {domain floor floor' : TrustDomain}
    (h : floor.trustRank ≤ floor'.trustRank)
    (hbelow : (floor != .unknown && decide (domain.trustRank < floor.trustRank)) = true) :
    (floor' != .unknown && decide (domain.trustRank < floor'.trustRank)) = true := by
  rw [Bool.and_eq_true, decide_eq_true_eq] at hbelow ⊢
  exact ⟨rank_floor_rises h hbelow.1, hbelow.2.trans_le h⟩

theorem locality_unlisted_grows {keys keys' : List LocalityKey} {locality : LocalityKey}
    (h : Searchable keys) (h' : Searchable keys') (hshrinks : Shrinks keys keys')
    (hunlisted : (!keys.isEmpty && (locality.isEmpty || !binarySearch keys locality)) = true) :
    (!keys'.isEmpty && (locality.isEmpty || !binarySearch keys' locality)) = true := by
  rw [Bool.and_or_distrib_left, Bool.or_eq_true] at hunlisted ⊢
  refine hunlisted.imp (fun hempty => ?_) (unlisted_grows h h' hshrinks)
  rw [Bool.and_eq_true, Bool.not_eq_true', List.isEmpty_eq_false_iff] at hempty ⊢
  rcases hshrinks with ⟨hnone, -⟩ | ⟨hne, -⟩
  · exact absurd hnone hempty.1
  · exact ⟨hne, hempty.2⟩

theorem and_grows {b c c' : Bool} (h : c = true → c' = true) (hc : (b && c) = true) :
    (b && c') = true := by
  rw [Bool.and_eq_true] at hc ⊢
  exact ⟨hc.1, h hc.2⟩

theorem off_stays {b b' : Bool} (h : b' = true → b = true) (hoff : (!b) = true) : (!b') = true := by
  rw [Bool.not_eq_true', Bool.eq_false_iff] at hoff ⊢
  exact fun hon => hoff (h hon)

theorem checkPlacement_laxer (hr : r.canonicalize = r) (hr' : r'.canonicalize = r')
    (h : Tightens r r') : Laxer (checkPlacement r candidate) (checkPlacement r' candidate) := by
  have hrequired {r : RouteRequirements} (hr : r.canonicalize = r) : Searchable r.requiredLocalities :=
    searchable_localities (congrArg RouteRequirements.requiredLocalities hr)
  have hdenied {r : RouteRequirements} (hr : r.canonicalize = r) : Searchable r.deniedLocalities :=
    searchable_localities (congrArg RouteRequirements.deniedLocalities hr)
  refine (laxer_refuse (and_on h.localOnly)).chain
    ((laxer_refuse (and_on (off_stays h.remoteAllowed))).chain
    ((laxer_refuse (and_on h.offlineOnly)).chain ((laxer_refuse ?_).chain ((laxer_refuse ?_).chain
    ((laxer_refuse (and_on (rank_floor_rises h.trust))).chain
    (laxer_refuse (rank_below_rises h.trust)))))))
  · exact locality_unlisted_grows (hrequired hr) (hrequired hr') h.localities
  · exact and_grows (denied_grows (hdenied hr) (hdenied hr') h.deniedLocalities)

theorem checkCost_laxer (h : Tightens r r') (cost : CostEvidence) :
    Laxer (checkCost r cost now) (checkCost r' cost now) := by
  have hneeded (hcost : (r.requireKnownCost || r.enforceCostCeiling) = true) :
      (r'.requireKnownCost || r'.enforceCostCeiling) = true := by
    rw [Bool.or_eq_true] at hcost ⊢
    exact hcost.imp h.knownCost fun hceiling => (h.costCeiling hceiling).1
  refine (laxer_refuse (and_on hneeded)).chain ((laxer_refuse (and_on hneeded)).chain
    ((laxer_refuse ?_).chain (laxer_refuse ?_)))
  · intro hunit
    rw [Bool.and_eq_true] at hunit ⊢
    obtain ⟨hceiling, hsame, -⟩ := h.costCeiling hunit.1
    exact ⟨hceiling, hsame ▸ hunit.2⟩
  · intro hamount
    rw [Bool.and_eq_true, decide_eq_true_eq] at hamount ⊢
    obtain ⟨hceiling, -, hlower⟩ := h.costCeiling hamount.1
    exact ⟨hceiling, Int64.lt_of_le_of_lt hlower hamount.2⟩

theorem checkSlo_laxer (h : request.requirements.requireSlo = true →
    request'.requirements.requireSlo = true) (hid : request'.sloId = request.sloId)
    (hgeneration : request'.sloGeneration = request.sloGeneration) :
    Laxer (checkSlo request evidence now) (checkSlo request' evidence now) := by
  rw [checkSlo, checkSlo, hid, hgeneration]
  exact (laxer_refuse (and_on h)).chain ((laxer_refuse (and_on h)).chain
    ((laxer_refuse (and_on (and_on h))).chain ((laxer_refuse (and_on h)).chain
    ((laxer_refuse (and_on h)).chain ((laxer_refuse (and_on h)).chain
    ((laxer_refuse (and_on h)).chain (laxer_refuse (and_on h))))))))

theorem ceiling_stays {ceiling ceiling' : UInt32} (h : ceiling' ≤ ceiling)
    (hset : (ceiling != kUnspecified) = true) : (ceiling' != kUnspecified) = true := by
  have hmax := UInt32.toNat_lt ceiling
  have hunspecified : kUnspecified.toNat = 2 ^ 32 - 1 := rfl
  simp only [bne_iff_ne, ne_eq, ← UInt32.toNat_inj, hunspecified, UInt32.le_iff_toNat_le] at h hset ⊢
  omega

theorem above_stays {amount ceiling ceiling' : UInt32} (h : ceiling' ≤ ceiling)
    (habove : (ceiling != kUnspecified && decide (amount > ceiling)) = true) :
    (ceiling' != kUnspecified && decide (amount > ceiling')) = true := by
  rw [Bool.and_eq_true, decide_eq_true_eq] at habove ⊢
  exact ⟨ceiling_stays h habove.1, UInt32.lt_of_le_of_lt h habove.2⟩

theorem checkLatency_laxer (h : Tightens r r') (latency : LatencyEvidence) :
    Laxer (checkLatency r latency now) (checkLatency r' latency now) :=
  (laxer_refuse (and_on h.knownLatency)).chain
    ((laxer_refuse (and_on (ceiling_stays h.latencyCeiling))).chain
    ((laxer_refuse (and_on (ceiling_stays h.latencyCeiling))).chain
    (laxer_refuse (above_stays h.latencyCeiling))))

theorem checkCompatibility_laxer (h : Tightens r r') :
    Laxer (checkCompatibility r evidence now) (checkCompatibility r' evidence now) := by
  refine (laxer_refuse (and_on h.knownCompatibility)).chain (laxer_refuse ?_)
  rw [h.protocol]
  exact id

end

section

variable {p p' : PolicySnapshot} {candidate : RouteCandidate} {now : UnixMillis}

theorem identityRejection_laxer (hp : p.canonicalize = p) (hp' : p'.canonicalize = p')
    (h : TightensPolicy p p') :
    Laxer (identityRejection p candidate) (identityRejection p' candidate) := by
  have hsearch {t : Tag} {get : PolicySnapshot → List (EntityId t)}
      (hget : ∀ p, get p.canonicalize = sortIds (get p)) :
      Searchable (get p) ∧ Searchable (get p') :=
    ⟨searchable_ids ((hget p).symm.trans (congrArg get hp)),
      searchable_ids ((hget p').symm.trans (congrArg get hp'))⟩
  have hlocalities {get : PolicySnapshot → List LocalityKey}
      (hget : ∀ p, get p.canonicalize = sortLocalities (get p)) :
      Searchable (get p) ∧ Searchable (get p') :=
    ⟨searchable_localities ((hget p).symm.trans (congrArg get hp)),
      searchable_localities ((hget p').symm.trans (congrArg get hp'))⟩
  have hdenied {t : Tag} {id : EntityId t} {get : PolicySnapshot → List (EntityId t)}
      (hget : ∀ p, get p.canonicalize = sortIds (get p)) (hgrows : get p ⊆ get p') :
      binarySearch (get p) id = true → binarySearch (get p') id = true :=
    denied_grows (hsearch hget).1 (hsearch hget).2 hgrows
  have hunlisted {t : Tag} {id : EntityId t} {get : PolicySnapshot → List (EntityId t)}
      (hget : ∀ p, get p.canonicalize = sortIds (get p)) (hshrinks : Shrinks (get p) (get p')) :
      (!(get p).isEmpty && !binarySearch (get p) id) = true →
        (!(get p').isEmpty && !binarySearch (get p') id) = true :=
    unlisted_grows (hsearch hget).1 (hsearch hget).2 hshrinks
  have hclosed {α : Type} {xs xs' : List α} {unlisted unlisted' : Bool} (hshrinks : Shrinks xs xs')
      (hopen : unlisted' = true → unlisted = true) :
      (xs.isEmpty && !unlisted) = true → (xs'.isEmpty && !unlisted') = true := by
    intro hempty
    rw [Bool.and_eq_true, List.isEmpty_iff] at hempty ⊢
    refine ⟨?_, off_stays hopen hempty.2⟩
    rcases hshrinks with ⟨-, hnone⟩ | ⟨hne, hsubset⟩
    · exact hnone
    · rw [hempty.1] at hsubset
      exact absurd (List.subset_nil.mp hsubset) hne
  refine .chain (laxer_refuse ?_) (.chain (laxer_refuse ?_) (.chain (laxer_refuse ?_) (.chain
    (laxer_refuse ?_) (.chain (laxer_refuse ?_) (.chain (laxer_refuse ?_) (.chain (laxer_refuse ?_)
    (.chain (laxer_refuse ?_) (.chain (laxer_refuse ?_) (.chain (laxer_refuse ?_) (.chain
    (laxer_refuse ?_) (laxer_refuse ?_)))))))))))
  · exact hdenied (fun _ => rfl) h.deniedModels
  · exact and_grows (hdenied (fun _ => rfl) h.deniedFamilies)
  · exact hdenied (fun _ => rfl) h.deniedProviders
  · exact hdenied (fun _ => rfl) h.deniedBackends
  · obtain ⟨hfirst, hsecond⟩ := @hlocalities PolicySnapshot.deniedLocalities fun _ => rfl
    exact and_grows (denied_grows hfirst hsecond h.deniedLocalities)
  · exact hunlisted (fun _ => rfl) h.allowedModels
  · exact hclosed h.allowedModels h.unlistedModels
  · exact hunlisted (fun _ => rfl) h.allowedProviders
  · exact hclosed h.allowedProviders h.unlistedProviders
  · exact hunlisted (fun _ => rfl) h.allowedBackends
  · exact hclosed h.allowedBackends h.unlistedBackends
  · obtain ⟨hfirst, hsecond⟩ := @hlocalities PolicySnapshot.allowedLocalities fun _ => rfl
    exact locality_unlisted_grows hfirst hsecond h.allowedLocalities

theorem placementRejection_laxer (h : TightensPolicy p p') :
    Laxer (placementRejection p candidate) (placementRejection p' candidate) :=
  (laxer_refuse (and_on h.localOnly)).chain ((laxer_refuse (and_on h.denyPublicRemote)).chain
    ((laxer_refuse (and_on (rank_floor_rises h.trust))).chain
    (laxer_refuse (rank_below_rises h.trust))))

theorem weak_grows {minimum minimum' : CapabilityState} {claims : List CapabilityEvidence}
    (h : minimum.evidenceStrength ≤ minimum'.evidenceStrength)
    (hweak : (minimum != .unknown && claims.any fun claim =>
      claim.state.isSatisfying && claim.state.evidenceStrength < minimum.evidenceStrength) = true) :
    (minimum' != .unknown && claims.any fun claim =>
      claim.state.isSatisfying && claim.state.evidenceStrength < minimum'.evidenceStrength) = true := by
  rw [Bool.and_eq_true, List.any_eq_true] at hweak ⊢
  obtain ⟨-, claim, hclaim, hbelow⟩ := hweak
  rw [Bool.and_eq_true, decide_eq_true_eq] at hbelow
  have hlower := hbelow.2.trans_le h
  refine ⟨?_, claim, hclaim, ?_⟩
  · rw [bne_iff_ne]
    rintro rfl
    exact Nat.not_lt_zero _ hlower
  · rw [Bool.and_eq_true, decide_eq_true_eq]
    exact ⟨hbelow.1, hlower⟩

theorem boundRejection_laxer (h : TightensPolicy p p') :
    Laxer (boundRejection p candidate) (boundRejection p' candidate) := by
  have hceiling (hset : decide (p.maximumRequestCost.micros > 0) = true) :
      decide (p'.maximumRequestCost.micros > 0) = true := by
    rw [decide_eq_true_eq] at hset ⊢
    exact (h.costCeiling hset).1
  refine .chain (laxer_refuse (and_on (floor_rises h.quality)))
    (.chain (laxer_refuse (below_rises h.quality)) (.chain (laxer_refuse (weak_grows h.capabilities))
    (.chain (laxer_refuse (and_on hceiling)) (.chain (laxer_refuse ?_) (.chain (laxer_refuse ?_)
    (.chain (laxer_refuse (and_on (ceiling_stays h.latencyCeiling)))
    (laxer_refuse (above_stays h.latencyCeiling))))))))
  · intro hunit
    rw [Bool.and_eq_true, decide_eq_true_eq] at hunit
    obtain ⟨hset, hsame, -⟩ := h.costCeiling hunit.1
    rw [Bool.and_eq_true, decide_eq_true_eq]
    exact ⟨hset, hsame ▸ hunit.2⟩
  · intro hamount
    rw [Bool.and_eq_true, decide_eq_true_eq, decide_eq_true_eq] at hamount ⊢
    obtain ⟨hset, -, hlower⟩ := h.costCeiling hamount.1
    exact ⟨hset, Int64.lt_of_le_of_lt hlower hamount.2⟩

theorem candidateRejection_laxer (hp : p.canonicalize = p) (hp' : p'.canonicalize = p')
    (h : TightensPolicy p p') :
    Laxer (candidateRejection p candidate now) (candidateRejection p' candidate now) := by
  refine (laxer_refuse fun hstale => ?_).chain ((identityRejection_laxer hp hp' h).chain
    ((placementRejection_laxer h).chain (boundRejection_laxer h)))
  simp only [PolicySnapshot.current, h.expiry, Bool.or_eq_true, Bool.not_eq_true',
    Bool.and_eq_false_iff] at hstale ⊢
  rcases hstale with hinvalid | hinvalid | hexpired
  · exact .inl (Bool.eq_false_iff.mpr fun hvalid =>
      Bool.eq_false_iff.mp hinvalid (h.generation hvalid))
  · exact .inl (Bool.eq_false_iff.mpr fun hvalid =>
      Bool.eq_false_iff.mp hinvalid (h.generation hvalid))
  · exact .inr (.inr hexpired)

end

/-- The evaluation of the same candidate under other requirements and another policy. -/
def EligibilityInput.under (input : EligibilityInput) (r : RouteRequirements) (p : PolicySnapshot) :
    EligibilityInput :=
  { input with request := { input.request with requirements := r }, policy := p }

theorem firstFailure_laxer (input : EligibilityInput) {r r' : RouteRequirements}
    {p p' : PolicySnapshot} (hr : r.canonicalize = r) (hr' : r'.canonicalize = r')
    (hp : p.canonicalize = p) (hp' : p'.canonicalize = p') (h : Tightens r r')
    (hpolicy : TightensPolicy p p') :
    Laxer (firstFailure (EligibilityInput.under input r p))
      (firstFailure (EligibilityInput.under input r' p')) := by
  refine .chain id (.chain id (.chain (checkLive_laxer h.available _ _ _ _ _ _ _ _ _) (.chain
    (checkLive_laxer h.healthy _ _ _ _ _ _ _ _ _) (.chain
    (checkLive_laxer h.ready _ _ _ _ _ _ _ _ _) (.chain
    (checkLive_laxer h.resident _ _ _ _ _ _ _ _ _) (.chain
    (checkLive_laxer h.capacity _ _ _ _ _ _ _ _ _) (.chain (checkReservation_laxer h.reservation)
    ?_)))))))
  refine .chain (checkCapabilities_laxer h) (.chain (checkModalities_laxer h) (.chain
    (checkShape_laxer h) (.chain (checkLimits_laxer h) (.chain (checkFilters_laxer hr hr' h) (.chain
    (checkPlacement_laxer hr hr' h) (.chain ?_ (.chain id (.chain (checkCost_laxer h _) (.chain
    (checkSlo_laxer h.slo rfl rfl) (.chain (checkLatency_laxer h _)
    (checkCompatibility_laxer h)))))))))))
  intro hnone
  rw [checkPolicy_eq_none] at hnone ⊢
  exact candidateRejection_laxer hp hp' hpolicy hnone

/-- Tightening the requirements or the policy admits no candidate. -/
theorem tightening_admits_none (input : EligibilityInput) {r r' : RouteRequirements}
    {p p' : PolicySnapshot} (hr : r.canonicalize = r) (hr' : r'.canonicalize = r')
    (hp : p.canonicalize = p) (hp' : p'.canonicalize = p') (h : Tightens r r')
    (hpolicy : TightensPolicy p p')
    (hineligible : (evaluateHardEligibility (EligibilityInput.under input r p)).eligible = false) :
    (evaluateHardEligibility (EligibilityInput.under input r' p')).eligible = false := by
  rw [Bool.eq_false_iff, ne_eq, eligible_iff] at hineligible ⊢
  exact fun hadmitted => hineligible (firstFailure_laxer input hr hr' hp hp' h hpolicy hadmitted)

section

theorem Shrinks.refl (xs : List α) : Shrinks xs xs := by
  by_cases h : xs = []
  · exact .inl ⟨h, h⟩
  · exact .inr ⟨h, List.Subset.refl xs⟩

theorem covers_self (needed : ModalitySet) : needed.covers needed = true := by
  rw [ModalitySet.covers, UInt32.and_self, beq_self_eq_true]

theorem Tightens.refl (r : RouteRequirements) : Tightens r r := by
  constructor
  case capabilities => exact fun required hrequired => ⟨required, hrequired, rfl, le_rfl⟩
  case inputModalities => exact covers_self _
  case outputModalities => exact covers_self _
  case costCeiling => exact fun hceiling => ⟨hceiling, rfl, Int64.le_refl _⟩
  case protocol => rfl
  case protocolVersion => exact .inr rfl
  all_goals first
    | exact id
    | exact Shrinks.refl _
    | exact List.Subset.refl _
    | exact le_rfl
    | exact UInt32.le_refl _

theorem TightensPolicy.refl (p : PolicySnapshot) : TightensPolicy p p := by
  constructor
  case costCeiling => exact fun hceiling => ⟨hceiling, rfl, Int64.le_refl _⟩
  case expiry => rfl
  all_goals first
    | exact id
    | exact Shrinks.refl _
    | exact List.Subset.refl _
    | exact le_rfl
    | exact UInt32.le_refl _

def longRequirements : RouteRequirements :=
  { sampleRequest.requirements with maxOutputTokens := 9 }

def localRequirements : RouteRequirements :=
  { longRequirements with maxOutputTokens := 10, localOnly := true, backendDenylist := [⟨8⟩] }

def trustingPolicy : PolicySnapshot :=
  { samplePolicy with minimumTrust := .local, deniedBackends := [⟨8⟩] }

theorem local_admits_none :
    (evaluateHardEligibility
      (EligibilityInput.under (ceilingInput 40) localRequirements trustingPolicy)).eligible = false := by
  have hrequirements : Tightens longRequirements localRequirements :=
    { Tightens.refl longRequirements with
      output := by decide
      localOnly := fun _ => rfl
      backendDenylist := List.nil_subset _ }
  have hpolicy : TightensPolicy samplePolicy trustingPolicy :=
    { TightensPolicy.refl samplePolicy with
      trust := by decide
      deniedBackends := List.nil_subset _ }
  exact tightening_admits_none (ceilingInput 40) (by decide) (by decide) (by decide) (by decide)
    hrequirements hpolicy (by decide +kernel)

end

end ModelRouter.Tightening
