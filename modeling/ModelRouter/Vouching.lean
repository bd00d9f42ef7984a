import ModelRouter.Descriptors
import ModelRouter.Indexing
import ModelRouter.Verdicts

namespace ModelRouter.Vouching

open Base Base.Refusal Bytes Ids Outcome Capability Evidence Catalog Request Candidate Policy
open Eligibility Persistence State CatalogMutation Mutations Commit Providers Recovery Section
open Router Effects MutationFacts Run Descriptors Indexing Verdicts

/-- A claim made for the incarnation and the capability generation of a descriptor. -/
structure Own (backend : BackendDescriptor) (claim : CapabilityEvidence) : Prop where
  boot : claim.backendBoot = backend.backendBoot
  generation : claim.generation = backend.capabilityGeneration

/-- A descriptor whose satisfying claims are its own. -/
def Vouched (backend : BackendDescriptor) : Prop :=
  ∀ claim ∈ backend.capabilities.entries, claim.state.isSatisfying = true → Own backend claim

def AllVouched (s : CanonicalState) : Prop :=
  ∀ id backend, s.backends.find? id = some backend → Vouched backend

def brought (e : Event World Act) : List BackendDescriptor :=
  match e.act with
  | .mutate (.registerBackend raw) _ =>
    if (registerBackend e.pre.state raw).refusal = none then [raw] else []
  | .importState canonical =>
    if e.pre.state.running then [] else canonical.backends.map importBackend
  | _ => []

def Vouches (e : Event World Act) : Prop :=
  ∀ backend ∈ brought e, Vouched backend

instance (backend : BackendDescriptor) (claim : CapabilityEvidence) : Decidable (Own backend claim) :=
  decidable_of_iff (claim.backendBoot = backend.backendBoot ∧
    claim.generation = backend.capabilityGeneration)
    ⟨fun h => ⟨h.1, h.2⟩, fun h => ⟨h.boot, h.generation⟩⟩

instance (backend : BackendDescriptor) : Decidable (Vouched backend) :=
  inferInstanceAs (Decidable (∀ claim ∈ backend.capabilities.entries, _ → _))

instance (e : Event World Act) : Decidable (Vouches e) :=
  inferInstanceAs (Decidable (∀ backend ∈ brought e, _))

section

variable {s : CanonicalState} {m : Mutation} {now : UnixMillis} {b b' : BackendDescriptor}

theorem Vouched.congr (h : Vouched b) (hclaims : b'.capabilities = b.capabilities)
    (hboot : b'.backendBoot = b.backendBoot)
    (hgeneration : b'.capabilityGeneration = b.capabilityGeneration) : Vouched b' := by
  intro claim hclaim hstate
  rw [hclaims] at hclaim
  obtain ⟨hown, hissued⟩ := h claim hclaim hstate
  exact ⟨hown.trans hboot.symm, hissued.trans hgeneration.symm⟩

theorem mem_split {key : CapabilityKey} {entries : List CapabilityEvidence}
    {claim : CapabilityEvidence} :
    claim ∈ (CapabilityProfile.split key entries).1 ∨ claim ∈ (CapabilityProfile.split key entries).2 ↔
      claim ∈ entries := by
  rw [← List.mem_append, CapabilityProfile.split, List.takeWhile_append_dropWhile]

theorem mem_of_find {profile : CapabilityProfile} {key : CapabilityKey} {claim : CapabilityEvidence}
    (h : profile.find key = some claim) : claim ∈ profile.entries := by
  rw [CapabilityProfile.find] at h
  split at h
  · rename_i existing above hsplit
    split at h
    · obtain rfl := Option.some.inj h
      exact mem_split.mp (.inr (hsplit ▸ List.mem_cons_self))
    · cases h
  · cases h

theorem mem_set {profile next : CapabilityProfile} {evidence claim : CapabilityEvidence}
    {maxEntries : UInt32} (h : profile.set evidence maxEntries = some next)
    (hclaim : claim ∈ next.entries) : claim = evidence ∨ claim ∈ profile.entries := by
  have hheld := @mem_split evidence.key profile.entries claim
  rw [CapabilityProfile.set] at h
  split at h
  · rename_i below existing above hsplit
    rw [hsplit] at hheld
    split_ifs at h
    · obtain rfl := Option.some.inj h
      simp only [List.mem_append, List.mem_cons] at hclaim hheld
      tauto
    · obtain rfl := Option.some.inj h
      simp only [List.mem_append, List.mem_cons] at hclaim hheld
      tauto
  · rename_i below hsplit
    rw [hsplit] at hheld
    split_ifs at h
    obtain rfl := Option.some.inj h
    simp only [List.mem_append, List.mem_singleton, List.not_mem_nil, or_false] at hclaim hheld
    tauto

theorem bindClaims_bound {limits : Limits.ResourceLimits} {publication : BackendCapabilityPublication}
    {claims : List CapabilityEvidence} {profile result : CapabilityProfile}
    (h : bindClaims limits publication b profile claims = .ok result)
    (hprofile : ∀ claim ∈ profile.entries,
      claim.backendBoot = publication.backendBoot ∧ claim.generation = publication.generation) :
    ∀ claim ∈ result.entries,
      claim.backendBoot = publication.backendBoot ∧ claim.generation = publication.generation := by
  induction claims generalizing profile with
  | nil =>
      obtain rfl := Except.ok.inj h
      exact hprofile
  | cons first rest ih =>
      rw [bindClaims] at h
      split at h
      · cases h
      · split at h
        · cases h
        · rename_i next hnext
          refine ih h fun claim hclaim => ?_
          rcases mem_set hnext hclaim with rfl | hheld
          · exact ⟨rfl, rfl⟩
          · exact hprofile claim hheld

theorem publishClaims_vouched {publication : BackendCapabilityPublication} (hb : Vouched b)
    (hboot : b.backendBoot = publication.backendBoot) : Vouched (publishClaims s publication b) := by
  rw [publishClaims]
  split
  · exact hb
  · rename_i profile hprofile
    intro claim hclaim _
    obtain ⟨hown, hissued⟩ := bindClaims_bound hprofile (by simp) claim hclaim
    exact ⟨hown.trans hboot.symm, hissued⟩

theorem published_boot {publication : BackendCapabilityPublication}
    (htaken : (publishCapabilities s publication).refusal = none)
    (hb : s.backends.find? publication.backendId = some b) :
    b.backendBoot = publication.backendBoot := by
  simp only [publishCapabilities, chain_eq_none, hb, publicationRefusal, refuse_eq_none,
    bne_eq_false_iff_eq] at htaken
  exact htaken.2.2.2.2.1

theorem redescribe_vouched (hb : Vouched b) (htaken : (m.attempt now s).refusal = none)
    (hregisters : ∀ raw, m = .registerBackend raw → Vouched raw) {id : BackendId}
    (htarget : target m = some id) (hheld : s.backends.find? id = some b)
    (h : redescribe s m (some b) = some b') : Vouched b' := by
  cases m with
  | registerBackend raw =>
      obtain rfl := Option.some.inj h
      exact (hregisters raw rfl).congr rfl rfl rfl
  | unregisterBackend id generation => cases h
  | fenceBackendBoot id generation boot reason =>
      simp only [redescribe, Option.filter_eq_some_iff, Option.some.injEq] at h
      exact h.1 ▸ hb
  | publishCapabilities publication =>
      obtain rfl := Option.some.inj h
      obtain rfl := Option.some.inj htarget
      exact publishClaims_vouched hb (published_boot htaken hheld)
  | setCost evidence =>
      obtain rfl := Option.some.inj h
      simp only [BackendDescriptor.setBindingCost]
      split
      · exact hb.congr rfl rfl rfl
      · exact hb
  | _ =>
      obtain rfl := Option.some.inj h
      exact hb.congr rfl rfl rfl

theorem next_vouched (hs : AllVouched s)
    (hregisters : ∀ raw, m = .registerBackend raw → (m.attempt now s).refusal = none → Vouched raw) :
    AllVouched (m.next now s) := by
  cases htaken : (m.attempt now s).refusal with
  | some result =>
      rw [(next_of_refused htaken).1]
      exact hs
  | none =>
      intro id b' hb'
      rw [next_backends htaken] at hb'
      split at hb'
      · rename_i htarget
        cases hheld : s.backends.find? id with
        | none =>
            rw [hheld] at hb'
            cases m with
            | registerBackend raw =>
                obtain rfl := Option.some.inj hb'
                exact (hregisters raw rfl htaken).congr rfl rfl rfl
            | _ => cases hb'
        | some b =>
            rw [hheld] at hb'
            exact redescribe_vouched (hs id b hheld) htaken
              (fun raw hraw => hregisters raw hraw htaken) htarget hheld hb'
      · exact hs id b' hb'

end

theorem event_vouched {e : Event World Act} (he : Vouches e) (hs : AllVouched e.pre.state) :
    AllVouched (after e).state := by
  obtain ⟨k, w⟩ := e
  cases hkeep : keepsHoldings k with
  | true =>
      intro id b hb
      rw [after, backends_of_holdings (apply_holdings hkeep w)] at hb
      exact hs id b hb
  | false =>
      cases k with
      | mutate m now =>
          refine next_vouched hs fun raw hraw htaken => ?_
          subst hraw
          have hbrought : brought ⟨.mutate (.registerBackend raw) now, w⟩ = [raw] := if_pos htaken
          exact he raw (hbrought ▸ List.mem_singleton_self raw)
      | writeCapacityDetail detail =>
          intro id b hb
          change (editBackend w.state detail.backendId _).backends.find? id = some b at hb
          rw [editBackend_find?] at hb
          split at hb
          · obtain ⟨held, hheld, rfl⟩ := Option.map_eq_some_iff.mp hb
            exact (hs id held hheld).congr rfl rfl rfl
          · exact hs id b hb
      | importState canonical =>
          change AllVouched (importSection canonical w).state
          unfold importSection
          split
          · exact hs
          · rename_i hrunning
            intro id b hb
            simp only [restore] at hb
            rw [rebuildIndexes_frame] at hb
            obtain ⟨record, hrecord, hpair⟩ := List.mem_map.mp (OrderedMap.mem_of_find?_ofList hb)
            obtain ⟨-, rfl⟩ := Prod.mk.inj hpair
            have hbrought : brought ⟨.importState canonical, w⟩ =
                canonical.backends.map importBackend := if_neg hrunning
            exact he _ (hbrought ▸ List.mem_map_of_mem hrecord)
      | _ => cases hkeep

theorem run_vouched {options : ModelRouterOptions} {highest : UInt64} {es : Trace} {t : World}
    (h : Chained Act.apply (World.fresh options highest) es t) (hvouches : ∀ e ∈ es, Vouches e) :
    AllVouched t.state := by
  have hfresh : AllVouched (World.fresh options highest).state := by
    intro id b hb
    cases hb
  have hstep : ∀ e ∈ es, AllVouched e.pre.state → AllVouched (after e).state :=
    fun e he => event_vouched (hvouches e he)
  exact h.invariant (I := fun w => AllVouched w.state) hfresh hstep

/-- A candidate with the identity and the descriptors of one the catalog offers. -/
def Catalogued (s : CanonicalState) (candidate : RouteCandidate) : Prop :=
  ∃ found ∈ catalogCandidates s, candidate.key = found.key ∧ candidate.model = found.model ∧
    candidate.backend = found.backend

/-- A claim that bears a required capability: made by the model, or by the backend for its current
incarnation and generation. -/
structure Proven (input : EligibilityInput) (requirement : CapabilityRequirement)
    (claim : CapabilityEvidence) : Prop where
  source : input.candidate.model.capabilities.find requirement.key = some claim ∨
    input.candidate.backend.capabilities.find requirement.key = some claim ∧
      claim.backendBoot = input.candidate.key.backendBoot ∧
      claim.generation = input.candidate.backend.capabilityGeneration
  satisfying : claim.state.isSatisfying = true
  unexpired : claim.expired input.now = false
  required : requirement.minimumState.evidenceStrength ≤ claim.state.evidenceStrength
  minimum : input.policy.minimumCapabilityEvidence.evidenceStrength ≤ claim.state.evidenceStrength

/-- Every required capability is proven, and no claim of the backend for another incarnation or
generation satisfies a requirement. -/
structure Grounded (input : EligibilityInput) : Prop where
  proven : ∀ requirement ∈ input.request.requirements.requiredCapabilities,
    ∃ claim, Proven input requirement claim
  own : ∀ requirement ∈ input.request.requirements.requiredCapabilities, ∀ claim,
    input.candidate.backend.capabilities.find requirement.key = some claim →
    satisfies input.now (some claim) requirement.minimumState = true →
    claim.backendBoot = input.candidate.key.backendBoot ∧
      claim.generation = input.candidate.backend.capabilityGeneration

/-- The minimum of the policy, which is compared with the claims of the model only, holds of the
claims of the backend too wherever the model satisfies a requirement with none of its own. -/
def Reaches (input : EligibilityInput) : Prop :=
  ∀ requirement ∈ input.request.requirements.requiredCapabilities,
    satisfies input.now (input.candidate.model.capabilities.find requirement.key)
      requirement.minimumState = false →
    ∀ claim, input.candidate.backend.capabilities.find requirement.key = some claim →
      input.policy.minimumCapabilityEvidence.evidenceStrength ≤ claim.state.evidenceStrength

section

variable {claim : CapabilityEvidence}

theorem boundRejection_minimum {policy : PolicySnapshot} {candidate : RouteCandidate}
    (h : boundRejection policy candidate = none)
    (hclaim : claim ∈ candidate.model.capabilities.entries)
    (hstate : claim.state.isSatisfying = true) :
    policy.minimumCapabilityEvidence.evidenceStrength ≤ claim.state.evidenceStrength := by
  simp only [boundRejection, chain_eq_none, reject_eq_none, Bool.and_eq_false_iff,
    bne_eq_false_iff_eq, List.any_eq_false, Bool.and_eq_true, decide_eq_true_eq, not_and, not_lt] at h
  obtain ⟨-, -, hminimum, -⟩ := h
  rcases hminimum with hunset | hreached
  · rw [hunset]
    exact Nat.zero_le _
  · exact hreached claim hclaim hstate

end

theorem accepted_capabilities {input : EligibilityInput} (h : firstFailure input = none) :
    (∀ requirement ∈ input.request.requirements.requiredCapabilities,
      checkCapability input.candidate input.now requirement = none) ∧
      boundRejection input.policy input.candidate = none := by
  simp only [firstFailure, chain_eq_none] at h
  obtain ⟨-, -, -, -, -, -, -, -, hcapabilities, -, -, -, -, -, hpolicy, -⟩ := h
  rw [checkPolicy_eq_none] at hpolicy
  simp only [candidateRejection, chain_eq_none] at hpolicy
  exact ⟨List.findSome?_eq_none_iff.mp hcapabilities, hpolicy.2.2.2⟩

theorem Catalogued.backend {s : CanonicalState} {candidate : RouteCandidate}
    (h : Catalogued s candidate) : ∃ id, s.backends.find? id = some candidate.backend := by
  obtain ⟨found, hfound, -, -, hbackend⟩ := h
  obtain ⟨bucket, -, hbucket⟩ := List.mem_flatMap.mp hfound
  obtain ⟨id, -, hcandidate⟩ := List.mem_filterMap.mp hbucket
  rw [catalogCandidate] at hcandidate
  split at hcandidate
  · rename_i model backend hmodel hheld
    obtain ⟨binding, -, rfl⟩ := Option.map_eq_some_iff.mp hcandidate
    exact ⟨id, hbackend ▸ hheld⟩
  · cases hcandidate

/-- In a run that registers and loads only vouched descriptors, an accepted candidate of the catalog
is grounded exactly when the claims of its backend reach the minimum of the policy. -/
theorem vouched_grounded_iff {options : ModelRouterOptions} {highest : UInt64} {es : Trace} {t : World}
    (hrun : Chained Act.apply (World.fresh options highest) es t) (hvouches : ∀ e ∈ es, Vouches e)
    {input : EligibilityInput} (hcatalogued : Catalogued t.state input.candidate)
    (haccepted : (evaluateHardEligibility input).eligible = true) :
    Grounded input ↔ Reaches input := by
  rw [eligible_iff] at haccepted
  obtain ⟨id, hheld⟩ := hcatalogued.backend
  have hvouched : Vouched input.candidate.backend := run_vouched hrun hvouches id _ hheld
  have hboot := (eligible_identified haccepted).boot
  obtain ⟨hcapabilities, hbound⟩ := accepted_capabilities haccepted
  have hown {requirement : CapabilityRequirement} {claim : CapabilityEvidence}
      (hfound : input.candidate.backend.capabilities.find requirement.key = some claim)
      (hstate : claim.state.isSatisfying = true) :
      claim.backendBoot = input.candidate.key.backendBoot ∧
        claim.generation = input.candidate.backend.capabilityGeneration := by
    obtain ⟨hclaimed, hissued⟩ := hvouched claim (mem_of_find hfound) hstate
    exact ⟨hclaimed.trans hboot, hissued⟩
  constructor
  · intro hgrounded requirement hrequirement hmodel claim hfound
    obtain ⟨proven, hproven⟩ := hgrounded.proven requirement hrequirement
    rcases hproven.source with hsource | ⟨hsource, -⟩
    · have hsatisfied := satisfies_iff.mpr
        ⟨proven, hsource, hproven.satisfying, hproven.unexpired, hproven.required⟩
      rw [hmodel] at hsatisfied
      cases hsatisfied
    · rw [hfound] at hsource
      obtain rfl := Option.some.inj hsource
      exact hproven.minimum
  · intro hreaches
    refine ⟨fun requirement hrequirement => ?_, fun requirement hrequirement claim hfound hclaim => ?_⟩
    · cases hmodel : satisfies input.now
          (input.candidate.model.capabilities.find requirement.key) requirement.minimumState with
      | true =>
          obtain ⟨claim, hfound, hstate, hunexpired, hrequired⟩ := satisfies_iff.mp hmodel
          exact ⟨claim, .inl hfound, hstate, hunexpired, hrequired,
            boundRejection_minimum hbound (mem_of_find hfound) hstate⟩
      | false =>
          have hbackend := (checkCapability_eq_none.mp
            (hcapabilities requirement hrequirement)).resolve_left (by simp [hmodel])
          obtain ⟨claim, hfound, hstate, hunexpired, hrequired⟩ := satisfies_iff.mp hbackend
          exact ⟨claim, .inr ⟨hfound, hown hfound hstate⟩, hstate, hunexpired, hrequired,
            hreaches requirement hrequirement hmodel claim hfound⟩
    · obtain ⟨held, hheld, hstate, -⟩ := satisfies_iff.mp hclaim
      obtain rfl := Option.some.inj hheld
      exact hown hfound hstate

section

def claimingBackend (state : CapabilityState) (boot : BackendBootId) : BackendDescriptor :=
  { sampleBackend ⟨1⟩ ⟨1⟩ with
    capabilityProfileId := ⟨6⟩
    capabilityGeneration := ⟨1⟩
    capabilities :=
      { id := ⟨6⟩
        generation := ⟨1⟩
        entries :=
          [{ key := "task/code", state := state, generation := ⟨1⟩, profileId := ⟨6⟩
             backendGeneration := ⟨1⟩, backendBoot := boot }] } }

def claimingCatalog (state : CapabilityState) (boot : BackendBootId) :
    Trace × List (Op × Reply) × World :=
  play sampleOptions sampleEnv
    [.start, .mutation (.registerModel (sampleModel ⟨1⟩)),
      .mutation (.registerBackend (claimingBackend state boot)), .mutation (.setPolicy samplePolicy)]

def claimingInput (state : CapabilityState) (boot : BackendBootId) : EligibilityInput where
  request :=
    { sampleRequest with
      requirements :=
        { sampleRequest.requirements with requiredCapabilities := [{ key := "task/code" }] } }
  candidate :=
    candidateOf (sampleModel ⟨1⟩) (claimingBackend state boot)
      { modelId := ⟨1⟩, modelGeneration := ⟨1⟩, artifactGeneration := ⟨1⟩ }
  policy := { samplePolicy with minimumCapabilityEvidence := .observed }
  budget := {}
  evidence := {}
  now := 100

theorem claiming_chained (state : CapabilityState) (boot : BackendBootId) :
    Chained Act.apply (World.fresh sampleOptions 100) (claimingCatalog state boot).1
      (claimingCatalog state boot).2.2 :=
  (play_history sampleOptions sampleEnv _).chained

/-- A registration brings a claim of another incarnation, and the claim satisfies a requirement. -/
theorem foreign_claim_accepted :
    Catalogued (claimingCatalog .verified ⟨9⟩).2.2.state (claimingInput .verified ⟨9⟩).candidate ∧
      (evaluateHardEligibility (claimingInput .verified ⟨9⟩)).eligible = true ∧
      ¬Grounded (claimingInput .verified ⟨9⟩) := by
  refine ⟨⟨_, ?_, rfl, rfl, rfl⟩, by decide +kernel, fun hgrounded => ?_⟩
  · exact List.mem_of_elem_eq_true (by decide +kernel)
  · obtain ⟨hboot, -⟩ := hgrounded.own _ (List.mem_singleton_self _) _ rfl (by decide +kernel)
    cases hboot

theorem own_claim_grounded :
    Grounded (claimingInput .verified ⟨1⟩) ↔ Reaches (claimingInput .verified ⟨1⟩) := by
  refine vouched_grounded_iff (claiming_chained .verified ⟨1⟩) (by decide +kernel)
    ⟨_, ?_, rfl, rfl, rfl⟩ (by decide +kernel)
  exact List.mem_of_elem_eq_true (by decide +kernel)

end

end ModelRouter.Vouching
