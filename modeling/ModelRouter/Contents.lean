import ModelRouter.Base.Journal
import ModelRouter.Generations
import ModelRouter.Repertoire
import ModelRouter.Transactions

namespace ModelRouter.Contents

open Base Base.Refusal Bytes Ids Outcome Capability Evidence Catalog Persistence State
open CatalogMutation EvidenceMutation Mutations Commit Handoff Providers Section Router Effects
open MutationFacts Acceptance Descriptors Run Repertoire Generations Transactions

variable {m : Mutation} {now : UnixMillis} {s t : CanonicalState}

def Fixed {V : Type} {tag : Tag} (generation : V → Generation tag) (a b : V) : Prop :=
  (generation a).valid = true → generation b = generation a → b = a

/-- The evidence of a descriptor changes no content under an unchanged generation. -/
structure SameEvidence (b b' : BackendDescriptor) : Prop where
  profile : b.capabilityGeneration.valid = true → b'.capabilityGeneration = b.capabilityGeneration →
    b'.capabilityProfileId = b.capabilityProfileId ∧ b'.capabilities = b.capabilities
  health : Fixed BackendEvidence.generation b.health b'.health
  availability : Fixed BackendEvidence.generation b.availability b'.availability
  readiness : Fixed BackendEvidence.generation b.readiness b'.readiness
  residency : Fixed BackendEvidence.generation b.residency b'.residency
  capacity : Fixed BackendEvidence.generation b.capacity b'.capacity
  detail : b.capacity.generation.valid = true → b'.capacity.generation = b.capacity.generation →
    b'.capacityDetail = b.capacityDetail
  latency : Fixed LatencyEvidence.healthGeneration b.latency b'.latency
  cost : ∀ modelId binding binding', b.findBinding modelId = some binding →
    b'.findBinding modelId = some binding' →
      Fixed CostEvidence.priceGeneration binding.cost binding'.cost

/-- No generation-bound object changes its content under an unchanged generation, and none of a
backend does so within its incarnation. -/
structure Unaltered (s t : CanonicalState) : Prop where
  policy : Fixed PolicySnapshot.generation s.policy t.policy
  budget : Fixed BudgetSnapshot.generation s.budget t.budget
  slo : Fixed SloEvidence.generation s.slo t.slo
  compatibility : ∀ id e e', s.compatibility.find? id = some e →
    t.compatibility.find? id = some e' → Fixed CompatibilityEvidence.generation e e'
  trust : ∀ id e e', s.trust.find? id = some e → t.trust.find? id = some e' →
    Fixed TrustEvidence.generation e e'
  backend : ∀ id b b', s.backends.find? id = some b → t.backends.find? id = some b' →
    b'.backendBoot = b.backendBoot → SameEvidence b b'

/-- A mutation that brings other content under the generation already stored. -/
def Reissues (s : CanonicalState) : Mutation → Prop
  | .registerBackend raw =>
    ∃ b, s.backends.find? raw.backendId = some b ∧ b.backendBoot = raw.backendBoot ∧
      ¬SameEvidence b raw.canonicalize
  | .updateCapacity evidence detail =>
    ∃ b, s.backends.find? detail.backendId = some b ∧ b.capacity.generation.valid = true ∧
      (detail.backendId = evidence.backendId → evidence.generation = b.capacity.generation) ∧
      b.capacityDetail ≠ { detail with generation := b.capacity.generation }
  | .updateLatency evidence =>
    ∃ b, s.backends.find? evidence.backendId = some b ∧
      ¬Fixed LatencyEvidence.healthGeneration b.latency evidence
  | .setPolicy raw => ¬Fixed PolicySnapshot.generation s.policy raw.canonicalize
  | .setBudget budget => ¬Fixed BudgetSnapshot.generation s.budget budget
  | .setSlo slo => ¬Fixed SloEvidence.generation s.slo slo
  | .setCompatibility evidence =>
    ∃ e, s.compatibility.find? evidence.backendId = some e ∧
      ¬Fixed CompatibilityEvidence.generation e evidence
  | .setTrust evidence =>
    ∃ e, s.trust.find? evidence.backendId = some e ∧ e.generation.valid = true ∧
      evidence.generation = e.generation ∧ e.domain ≠ evidence.domain
  | .setCost evidence =>
    ∃ b binding, s.backends.find? evidence.backendId = some b ∧
      b.findBinding evidence.modelId = some binding ∧
      binding.cost.priceGeneration.valid = true ∧
      evidence.priceGeneration = binding.cost.priceGeneration ∧
      ¬(binding.cost.knownness = evidence.knownness ∧
        binding.cost.estimatedTotalMicros = evidence.estimatedTotalMicros ∧
        binding.cost.unit = evidence.unit)
  | _ => False

section

variable {V : Type} {tag : Tag} {generation : V → Generation tag} {a b : V}

theorem fixed_refl : Fixed generation a a :=
  fun _ _ => rfl

theorem fixed_of_ne (h : (generation a).valid = true → generation b ≠ generation a) :
    Fixed generation a b :=
  fun hvalid hsame => absurd hsame (h hvalid)

end

theorem sameEvidence_refl (b : BackendDescriptor) : SameEvidence b b where
  profile _ _ := ⟨rfl, rfl⟩
  health := fixed_refl
  availability := fixed_refl
  readiness := fixed_refl
  residency := fixed_refl
  capacity := fixed_refl
  detail _ _ := rfl
  latency := fixed_refl
  cost modelId binding binding' hbinding hbinding' := by
    obtain rfl := Option.some.inj (hbinding.symm.trans hbinding')
    exact fixed_refl

theorem unaltered_refl (s : CanonicalState) : Unaltered s s where
  policy := fixed_refl
  budget := fixed_refl
  slo := fixed_refl
  compatibility id e e' he he' := by
    obtain rfl := Option.some.inj (he.symm.trans he')
    exact fixed_refl
  trust id e e' he he' := by
    obtain rfl := Option.some.inj (he.symm.trans he')
    exact fixed_refl
  backend id b b' hb hb' _ := by
    obtain rfl := Option.some.inj (hb.symm.trans hb')
    exact sameEvidence_refl b

theorem Unaltered.of_settings (h : settings t = settings s)
    (hbackend : ∀ id b b', s.backends.find? id = some b → t.backends.find? id = some b' →
      b'.backendBoot = b.backendBoot → SameEvidence b b') : Unaltered s t := by
  have hpolicy : t.policy = s.policy := congrArg Settings.policy h
  have hbudget : t.budget = s.budget := congrArg Settings.budget h
  have hslo : t.slo = s.slo := congrArg Settings.slo h
  have hcompatibility : t.compatibility = s.compatibility := congrArg Settings.compatibility h
  have htrust : t.trust = s.trust := congrArg Settings.trust h
  have hs := unaltered_refl s
  refine ⟨?_, ?_, ?_, ?_, ?_, hbackend⟩
  · rw [hpolicy]
    exact hs.policy
  · rw [hbudget]
    exact hs.budget
  · rw [hslo]
    exact hs.slo
  · rw [hcompatibility]
    exact hs.compatibility
  · rw [htrust]
    exact hs.trust

theorem unaltered_of_holdings (h : holdings t = holdings s) : Unaltered s t := by
  refine .of_settings (settings_of_holdings h) fun id b b' hb hb' _ => ?_
  rw [backends_of_holdings h, hb] at hb'
  obtain rfl := Option.some.inj hb'
  exact sameEvidence_refl b

section

variable {σ : Type} {tag : Tag} [DecidableEq σ] {slot : EvidenceSlot σ tag}
variable {evidence : BackendEvidence σ tag} {b : BackendDescriptor}

theorem applyEvidence_fixed (h : (applyEvidence slot s evidence).refusal = none)
    (hb : s.backends.find? evidence.backendId = some b) :
    (slot.get b).generation.valid = true → evidence.generation ≠ (slot.get b).generation := by
  simp only [applyEvidence, hb, evidenceRefusal, chain_eq_none, refuse_eq_none] at h
  obtain ⟨-, -, -, -, -, -, -, -, hconflict⟩ := h
  intro hvalid hsame
  simp [hvalid, hsame] at hconflict

end

theorem publishCapabilities_fixed {publication : BackendCapabilityPublication}
    {b : BackendDescriptor} (h : (publishCapabilities s publication).refusal = none)
    (hb : s.backends.find? publication.backendId = some b) :
    b.capabilityGeneration.valid = true → publication.generation ≠ b.capabilityGeneration := by
  simp only [publishCapabilities, hb, publicationRefusal, chain_eq_none, refuse_eq_none] at h
  obtain ⟨-, -, -, -, -, -, -, -, hpublished⟩ := h
  intro hvalid hsame
  split at hpublished
  · cases hpublished
  · rw [if_pos (by simp [hvalid, hsame])] at hpublished
    split at hpublished <;> cases hpublished

theorem publishClaims_sameEvidence {publication : BackendCapabilityPublication}
    {b : BackendDescriptor}
    (h : b.capabilityGeneration.valid = true → publication.generation ≠ b.capabilityGeneration) :
    SameEvidence b (publishClaims s publication b) := by
  simp only [publishClaims]
  split
  · exact sameEvidence_refl b
  · exact { sameEvidence_refl b with profile := fun hvalid hsame => absurd hsame (h hvalid) }

theorem latency_sameEvidence_iff {evidence : LatencyEvidence} {b : BackendDescriptor} :
    SameEvidence b { b with latency := evidence } ↔
      Fixed LatencyEvidence.healthGeneration b.latency evidence := by
  constructor
  · intro h
    exact h.latency
  · intro h
    exact { sameEvidence_refl b with latency := h }

theorem detail_sameEvidence_iff {detail : CapacityDetail} {b : BackendDescriptor} :
    SameEvidence b { b with capacityDetail := detail } ↔
      ¬(b.capacity.generation.valid = true ∧ b.capacityDetail ≠ detail) := by
  constructor
  · rintro h ⟨hvalid, hne⟩
    exact hne (h.detail hvalid rfl).symm
  · intro h
    refine { sameEvidence_refl b with detail := fun hvalid _ => ?_ }
    by_contra hne
    exact h ⟨hvalid, fun hsame => hne hsame.symm⟩

theorem cost_sameEvidence_iff {b : BackendDescriptor} {modelId : ModelId} {binding : ModelBinding}
    {cost : CostEvidence} (hbinding : b.findBinding modelId = some binding) :
    SameEvidence b (b.setBindingCost modelId cost) ↔
      Fixed CostEvidence.priceGeneration binding.cost cost := by
  have hset (j : ModelId) : (b.setBindingCost modelId cost).findBinding j =
      if modelId = j then some { binding with cost := cost } else b.findBinding j :=
    findBinding_setBindingCost hbinding
  constructor
  · intro h
    have hwritten := hset modelId
    rw [if_pos rfl] at hwritten
    exact h.cost modelId binding _ hbinding hwritten
  · intro h
    have hself := sameEvidence_refl b
    have hcost : ∀ j x y, b.findBinding j = some x →
        (b.setBindingCost modelId cost).findBinding j = some y →
          Fixed CostEvidence.priceGeneration x.cost y.cost := by
      intro j x y hx hy
      rw [hset j] at hy
      split at hy
      · rename_i hj
        obtain rfl := Option.some.inj hy
        obtain rfl := Option.some.inj ((hj ▸ hbinding).symm.trans hx)
        exact h
      · exact hself.cost j x y hx hy
    revert hcost
    simp only [BackendDescriptor.setBindingCost]
    split
    · intro hcost
      exact { hself with cost := hcost }
    · exact fun _ => hself

/-- A mutation that would bring other content under a stored generation never answers with the
`NO_CHANGE` that keeps the stored content: it is taken, or turned away with a rejection. -/
theorem Reissues.answers (h : Reissues s m)
    (hm : ∀ evidence detail, m ≠ .updateCapacity evidence detail) :
    Answers (fun r => ¬Accepts r) (m.attempt now s).refusal := by
  have hguard {condition : Bool} {code : OutcomeCode} {subject message : Text}
      (hcode : code.isAcceptance = false) :
      Answers (fun r => ¬Accepts r) (refuse condition (.make code subject message)) :=
    answers_refuse (not_accepts_make hcode)
  have hlast {condition : Bool} {result : MutationResult} (hc : condition = false) :
      Answers (fun r => ¬Accepts r) (refuse condition result) := by
    rw [hc]
    exact answers_none
  cases m with
  | registerBackend raw =>
      refine .chain (answers_map fun _ => not_accepts_make rfl) (.chain (hguard rfl)
        (.chain (hguard rfl) (.chain (hguard rfl) (.chain (hguard rfl) (hguard rfl)))))
  | updateCapacity evidence detail => exact absurd rfl (hm evidence detail)
  | updateLatency evidence =>
      refine .chain (hguard rfl) (.chain (hguard rfl) (.chain (hguard rfl) ?_))
      obtain ⟨b, hb, -⟩ := h
      rw [hb]
      exact .chain (hguard rfl) (hguard rfl)
  | setPolicy raw =>
      exact .chain (answers_map fun _ => not_accepts_make rfl)
        (.chain (hguard rfl) (.chain (hguard rfl) (hguard rfl)))
  | setBudget budget => exact .chain (hguard rfl) (.chain (hguard rfl) (hguard rfl))
  | setSlo slo => exact .chain (hguard rfl) (.chain (hguard rfl) (hguard rfl))
  | setCompatibility evidence => exact .chain (hguard rfl) (.chain (hguard rfl) (hguard rfl))
  | setTrust evidence =>
      obtain ⟨e, he, -, -, hdomain⟩ := h
      refine .chain (hguard rfl) (.chain (hguard rfl) (.chain (hguard rfl) (hlast ?_)))
      rw [he]
      simp [hdomain]
  | setCost evidence =>
      obtain ⟨b, binding, hb, hbinding, -, -, hne⟩ := h
      refine .chain (hguard rfl) (.chain (hguard rfl) (.chain (hguard rfl) (.chain (hguard rfl) ?_)))
      rw [hb]
      dsimp only
      rw [hbinding]
      refine .chain (hguard rfl) (hlast ?_)
      by_contra hall
      simp only [Bool.not_eq_false, Bool.and_eq_true, beq_iff_eq] at hall
      exact hne ⟨hall.1.1.2, hall.1.2, hall.2⟩
  | _ => cases h

theorem redescribe_sameEvidence_iff {id : BackendId} {b b' : BackendDescriptor}
    (htaken : (m.attempt now s).refusal = none) (hr : registers m = false)
    (hw : writesSettings m = false) (hm : ∀ evidence detail, m ≠ .updateCapacity evidence detail)
    (ht : target m = some id) (hb : s.backends.find? id = some b)
    (hb' : redescribe s m (some b) = some b') :
    b'.backendBoot = b.backendBoot ∧ (SameEvidence b b' ↔ ¬Reissues s m) := by
  have hself := sameEvidence_refl b
  cases m with
  | registerBackend raw => cases hr
  | unregisterBackend j generation => cases hb'
  | fenceBackendBoot j generation boot reason =>
      simp only [redescribe, Option.filter_eq_some_iff, Option.some.injEq] at hb'
      obtain ⟨rfl, -⟩ := hb'
      exact ⟨rfl, iff_of_true hself not_false⟩
  | publishCapabilities publication =>
      obtain rfl := Option.some.inj ht
      obtain rfl := Option.some.inj hb'
      refine ⟨?_, iff_of_true (publishClaims_sameEvidence (publishCapabilities_fixed htaken hb)) not_false⟩
      simp only [publishClaims]
      split <;> rfl
  | updateHealth evidence =>
      obtain rfl := Option.some.inj ht
      obtain rfl := Option.some.inj hb'
      have hfixed := fixed_of_ne (applyEvidence_fixed htaken hb)
      exact ⟨rfl, iff_of_true { hself with health := hfixed } not_false⟩
  | updateAvailability evidence =>
      obtain rfl := Option.some.inj ht
      obtain rfl := Option.some.inj hb'
      have hfixed := fixed_of_ne (applyEvidence_fixed htaken hb)
      exact ⟨rfl, iff_of_true { hself with availability := hfixed } not_false⟩
  | updateReadiness evidence =>
      obtain rfl := Option.some.inj ht
      obtain rfl := Option.some.inj hb'
      have hfixed := fixed_of_ne (applyEvidence_fixed htaken hb)
      exact ⟨rfl, iff_of_true { hself with readiness := hfixed } not_false⟩
  | updateResidency evidence =>
      obtain rfl := Option.some.inj ht
      obtain rfl := Option.some.inj hb'
      have hfixed := fixed_of_ne (applyEvidence_fixed htaken hb)
      exact ⟨rfl, iff_of_true { hself with residency := hfixed } not_false⟩
  | updateCapacity evidence detail => exact absurd rfl (hm evidence detail)
  | updateLatency evidence =>
      obtain rfl := Option.some.inj ht
      obtain rfl := Option.some.inj hb'
      refine ⟨rfl, latency_sameEvidence_iff.trans ?_⟩
      simp [Reissues, hb]
  | setCost evidence =>
      obtain rfl := Option.some.inj ht
      obtain rfl := Option.some.inj hb'
      refine ⟨by simp only [BackendDescriptor.setBindingCost]; split <;> rfl, ?_⟩
      simp only [Mutation.attempt, setCost, hb, chain_eq_none] at htaken
      cases hbinding : b.findBinding evidence.modelId with
      | none => simp [hbinding] at htaken
      | some binding =>
          rw [hbinding] at htaken
          simp only [costRefusal, chain_eq_none, refuse_eq_none] at htaken
          have hnew := htaken.2.2.2.2.2
          rw [cost_sameEvidence_iff hbinding]
          constructor
          · rintro hfixed ⟨found, found', hfound, hfound', hvalid, hsame, hne⟩
            obtain rfl := Option.some.inj (hb.symm.trans hfound)
            obtain rfl := Option.some.inj (hbinding.symm.trans hfound')
            have heq : evidence = binding.cost := hfixed hvalid hsame
            exact hne (by rw [heq]; exact ⟨rfl, rfl, rfl⟩)
          · intro hgood hvalid hsame
            refine absurd ⟨b, binding, hb, hbinding, hvalid, hsame, fun hall => ?_⟩ hgood
            simp [hvalid, hsame, hall] at hnew
  | setTrust evidence => cases hw
  | _ => cases ht

section

variable {V : Type} {tag : Tag} {generation : V → Generation tag} {held : OrderedMap BackendId V}
variable {id : BackendId} {entry : V}

theorem insert_fixed_iff :
    (∀ j e e', held.find? j = some e → (held.insert id entry).find? j = some e' →
      Fixed generation e e') ↔
      ∀ e, held.find? id = some e → Fixed generation e entry := by
  constructor
  · intro h e he
    refine h id e entry he ?_
    rw [OrderedMap.find?_insert, if_pos rfl]
  · intro h j e e' he he'
    rw [OrderedMap.find?_insert] at he'
    split at he'
    · rename_i hj
      obtain rfl := Option.some.inj he'
      exact h e (hj ▸ he)
    · obtain rfl := Option.some.inj (he.symm.trans he')
      exact fixed_refl

theorem fixed_entry_iff :
    (∀ e, held.find? id = some e → Fixed generation e entry) ↔
      ¬∃ e, held.find? id = some e ∧ ¬Fixed generation e entry := by
  simp only [not_exists, not_and, not_not]

end

theorem settings_backend (htaken : (m.attempt now s).refusal = none)
    (hw : writesSettings m = true) (id : BackendId) (b b' : BackendDescriptor)
    (hb : s.backends.find? id = some b) (hb' : (m.next now s).backends.find? id = some b') :
    SameEvidence b b' := by
  rw [next_backends htaken, hb] at hb'
  cases m with
  | setTrust evidence =>
      split at hb'
      · obtain rfl := Option.some.inj hb'
        exact { sameEvidence_refl b with }
      · obtain rfl := Option.some.inj hb'
        exact sameEvidence_refl b
  | setPolicy raw =>
      obtain rfl := Option.some.inj hb'
      exact sameEvidence_refl b
  | setBudget budget =>
      obtain rfl := Option.some.inj hb'
      exact sameEvidence_refl b
  | setSlo slo =>
      obtain rfl := Option.some.inj hb'
      exact sameEvidence_refl b
  | setCompatibility evidence =>
      obtain rfl := Option.some.inj hb'
      exact sameEvidence_refl b
  | _ => cases hw

theorem unaltered_iff_settings {r : Settings} (h : settings t = r)
    (hbackend : ∀ id b b', s.backends.find? id = some b → t.backends.find? id = some b' →
      SameEvidence b b') :
    Unaltered s t ↔
      Fixed PolicySnapshot.generation s.policy r.policy ∧
      Fixed BudgetSnapshot.generation s.budget r.budget ∧
      Fixed SloEvidence.generation s.slo r.slo ∧
      (∀ id e e', s.compatibility.find? id = some e → r.compatibility.find? id = some e' →
        Fixed CompatibilityEvidence.generation e e') ∧
      ∀ id e e', s.trust.find? id = some e → r.trust.find? id = some e' →
        Fixed TrustEvidence.generation e e' := by
  subst h
  constructor
  · intro h
    exact ⟨h.policy, h.budget, h.slo, h.compatibility, h.trust⟩
  · rintro ⟨hpolicy, hbudget, hslo, hcompatibility, htrust⟩
    exact ⟨hpolicy, hbudget, hslo, hcompatibility, htrust, fun id b b' hb hb' _ =>
      hbackend id b b' hb hb'⟩

theorem settings_unaltered_iff (htaken : (m.attempt now s).refusal = none)
    (hw : writesSettings m = true) : Unaltered s (m.next now s) ↔ ¬Reissues s m := by
  rw [unaltered_iff_settings (next_settings htaken) (settings_backend htaken hw)]
  have hself := unaltered_refl s
  have hs := And.intro hself.policy (And.intro hself.budget (And.intro hself.slo
    (And.intro hself.compatibility hself.trust)))
  obtain ⟨hpolicy, hbudget, hslo, hcompatibility, htrust⟩ := hs
  cases m with
  | setPolicy raw =>
      simp only [Reissues, not_not]
      exact ⟨fun h => h.1, fun h => ⟨h, hbudget, hslo, hcompatibility, htrust⟩⟩
  | setBudget budget =>
      simp only [Reissues, not_not]
      exact ⟨fun h => h.2.1, fun h => ⟨hpolicy, h, hslo, hcompatibility, htrust⟩⟩
  | setSlo slo =>
      simp only [Reissues, not_not]
      exact ⟨fun h => h.2.2.1, fun h => ⟨hpolicy, hbudget, h, hcompatibility, htrust⟩⟩
  | setCompatibility evidence =>
      simp only [Reissues]
      rw [← fixed_entry_iff, ← insert_fixed_iff]
      exact ⟨fun h => h.2.2.2.1, fun h => ⟨hpolicy, hbudget, hslo, h, htrust⟩⟩
  | setTrust evidence =>
      simp only [Mutation.attempt, setTrust, chain_eq_none, refuse_eq_none] at htaken
      have hnew := htaken.2.2.2
      have hentry : (∀ e, s.trust.find? evidence.backendId = some e →
          Fixed TrustEvidence.generation e evidence) ↔ ¬Reissues s (.setTrust evidence) := by
        constructor
        · rintro h ⟨e, he, hvalid, hsame, hdomain⟩
          exact hdomain (congrArg TrustEvidence.domain (h e he hvalid hsame)).symm
        · intro h e he hvalid hsame
          refine absurd ⟨e, he, hvalid, hsame, fun hdomain => ?_⟩ h
          rw [he] at hnew
          simp [hsame, hdomain] at hnew
      rw [← hentry, ← insert_fixed_iff]
      exact ⟨fun h => h.2.2.2.2, fun h => ⟨hpolicy, hbudget, hslo, hcompatibility, h⟩⟩
  | _ => cases hw

theorem registerBackend_unaltered_iff {raw : BackendDescriptor}
    (htaken : ((Mutation.registerBackend raw).attempt now s).refusal = none) :
    Unaltered s ((Mutation.registerBackend raw).next now s) ↔
      ¬Reissues s (.registerBackend raw) := by
  have hbackends := next_backends htaken
  simp only [target, redescribe, Option.some.injEq] at hbackends
  constructor
  · rintro h ⟨b, hb, hboot, hne⟩
    have hnew := hbackends raw.backendId
    rw [if_pos rfl] at hnew
    exact hne (h.backend raw.backendId b raw.canonicalize hb hnew hboot.symm)
  · intro hgood
    refine .of_settings (next_settings htaken) fun id b b' hb hb' hboot => ?_
    rw [hbackends] at hb'
    split at hb'
    · rename_i hid
      obtain rfl := Option.some.inj hb'
      by_contra hne
      exact hgood ⟨b, hid ▸ hb, hboot.symm, hne⟩
    · obtain rfl := Option.some.inj (hb.symm.trans hb')
      exact sameEvidence_refl b

theorem next_unaltered_iff (hm : ∀ evidence detail, m ≠ .updateCapacity evidence detail)
    (ha : Accepts (m.result now s)) : Unaltered s (m.next now s) ↔ ¬Reissues s m := by
  cases htaken : (m.attempt now s).refusal with
  | some result =>
      rw [(next_of_refused htaken).1]
      refine iff_of_true (unaltered_refl s) fun hbad => ?_
      have hnone := (answers_of_accepted ha).eq_none (hbad.answers hm)
      rw [htaken] at hnone
      cases hnone
  | none =>
      by_cases hr : registers m = true
      · cases m with
        | registerBackend raw => exact registerBackend_unaltered_iff htaken
        | _ => cases hr
      · have hr : registers m = false := by simpa using hr
        by_cases hw : writesSettings m = true
        · exact settings_unaltered_iff htaken hw
        · have hw : writesSettings m = false := by simpa using hw
          have hsettings : settings (m.next now s) = settings s := by
            rw [next_settings htaken]
            cases m <;> first | rfl | cases hw
          constructor
          · intro h hbad
            have hfound : ∃ id b b', target m = some id ∧ s.backends.find? id = some b ∧
                redescribe s m (some b) = some b' := by
              cases m with
              | updateLatency evidence =>
                  obtain ⟨b, hb, -⟩ := hbad
                  exact ⟨_, b, _, rfl, hb, rfl⟩
              | setCost evidence =>
                  obtain ⟨b, binding, hb, -⟩ := hbad
                  exact ⟨_, b, _, rfl, hb, rfl⟩
              | updateCapacity evidence detail => exact absurd rfl (hm evidence detail)
              | registerBackend raw => cases hr
              | setPolicy raw => cases hw
              | setBudget budget => cases hw
              | setSlo slo => cases hw
              | setCompatibility evidence => cases hw
              | setTrust evidence => cases hw
              | _ => cases hbad
            obtain ⟨id, b, b', ht, hb, hb'⟩ := hfound
            obtain ⟨hboot, hiff⟩ := redescribe_sameEvidence_iff htaken hr hw hm ht hb hb'
            have hnext : (m.next now s).backends.find? id = some b' := by
              rw [next_backends htaken, if_pos ht, hb, hb']
            exact hiff.mp (h.backend id b b' hb hnext hboot) hbad
          · intro hgood
            refine .of_settings hsettings fun id b b' hb hb' _ => ?_
            rw [next_backends htaken, hb] at hb'
            split at hb'
            · rename_i ht
              exact (redescribe_sameEvidence_iff htaken hr hw hm ht hb hb').2.mpr hgood
            · obtain rfl := Option.some.inj hb'
              exact sameEvidence_refl b

section

variable {E : Env → Prop} {w v : World} {es : Trace} {evidence : CapacityEvidence}
variable {detail : CapacityDetail}

theorem writeCapacityDetail_backend {id : BackendId} {b b' : BackendDescriptor}
    (hb : s.backends.find? id = some b)
    (hb' : (writeCapacityDetail s detail).backends.find? id = some b') :
    b' = if detail.backendId = id then
        { b with capacityDetail := { detail with generation := b.capacity.generation } }
      else b := by
  rw [writeCapacityDetail, editBackend_find?, hb] at hb'
  simp only [Option.some.injEq] at hb'
  split
  · rename_i hid
    rw [if_pos hid] at hb'
    exact (Option.some.inj hb').symm
  · rename_i hid
    rw [if_neg hid] at hb'
    exact (Option.some.inj hb').symm

theorem writeCapacityDetail_written {b : BackendDescriptor}
    (hb : s.backends.find? detail.backendId = some b) :
    (writeCapacityDetail s detail).backends.find? detail.backendId =
      some { b with capacityDetail := { detail with generation := b.capacity.generation } } := by
  rw [writeCapacityDetail, editBackend_find?, if_pos rfl, hb, Option.map_some]

theorem updateCapacity_answers :
    Answers (fun r => Accepts r → r.code = .noChange) (updateCapacity s evidence detail).refusal := by
  have hguard {condition : Bool} {code : OutcomeCode} {subject message : Text}
      (hcode : code.isAcceptance = false) :
      Answers (fun r => Accepts r → r.code = .noChange)
        (refuse condition (.make code subject message)) :=
    answers_refuse fun ha => absurd ha (not_accepts_make hcode)
  refine .chain (hguard rfl) (.chain (hguard rfl) ?_)
  refine .chain (hguard rfl) (.chain (hguard rfl) (.chain (hguard rfl) (.chain (hguard rfl) ?_)))
  cases hb : s.backends.find? evidence.backendId with
  | none =>
      rintro r hr ha
      obtain rfl := Option.some.inj hr
      exact absurd ha (not_accepts_make rfl)
  | some backend =>
      refine .chain (hguard rfl) (.chain (hguard rfl) (.chain (hguard rfl) (.chain ?_ (hguard rfl))))
      exact answers_refuse fun _ => rfl

theorem current_unaltered_iff {backend : BackendDescriptor}
    (hcurrent : AlreadyCurrent s evidence detail backend) :
    Unaltered s (writeCapacityDetail s detail) ↔ ¬Reissues s (.updateCapacity evidence detail) := by
  constructor
  · rintro h ⟨b, hb, hvalid, -, hne⟩
    have hsame := h.backend detail.backendId b _ hb (writeCapacityDetail_written hb) rfl
    exact detail_sameEvidence_iff.mp hsame ⟨hvalid, hne⟩
  · intro hgood
    refine .of_settings (editBackend_settings s _ _) fun id b b' hb hb' _ => ?_
    rw [writeCapacityDetail_backend hb hb']
    split
    · rename_i hid
      subst hid
      refine detail_sameEvidence_iff.mpr fun hbad => hgood ⟨b, hb, hbad.1, fun hid => ?_, hbad.2⟩
      obtain rfl := Option.some.inj ((hid ▸ hb).symm.trans hcurrent.registered)
      exact hcurrent.sameGeneration
    · exact sameEvidence_refl b

theorem advanced_unaltered_iff
    (htaken : ((Mutation.updateCapacity evidence detail).attempt now s).refusal = none) :
    Unaltered s
        (writeCapacityDetail ((Mutation.updateCapacity evidence detail).next now s) detail) ↔
      ¬Reissues s (.updateCapacity evidence detail) := by
  have hfirst : (applyEvidence capacitySlot s evidence).refusal = none := by
    simp only [Mutation.attempt, updateCapacity, chain_eq_none] at htaken
    exact htaken.2.2
  have hnext (id : BackendId) (b : BackendDescriptor) (hb : s.backends.find? id = some b) :
      ((Mutation.updateCapacity evidence detail).next now s).backends.find? id =
        some (if evidence.backendId = id then { b with capacity := evidence } else b) := by
    rw [next_backends htaken, hb]
    simp only [target, Option.some.injEq, redescribe, Option.map_some]
    split
    · rfl
    · rfl
  constructor
  · rintro h ⟨b, hb, hvalid, hsame, hne⟩
    have hkept := hnext detail.backendId b hb
    by_cases hid : detail.backendId = evidence.backendId
    · have hadvanced := applyEvidence_fixed hfirst (hid ▸ hb)
      exact hadvanced hvalid (hsame hid)
    · rw [if_neg (Ne.symm hid)] at hkept
      have hdetail := h.backend detail.backendId b _ hb (writeCapacityDetail_written hkept) rfl
      exact detail_sameEvidence_iff.mp hdetail ⟨hvalid, hne⟩
  · intro hgood
    refine .of_settings ((editBackend_settings _ _ _).trans (next_settings htaken))
      fun id b b' hb hb' _ => ?_
    rw [writeCapacityDetail_backend (hnext id b hb) hb']
    have hself := sameEvidence_refl b
    by_cases hevidence : evidence.backendId = id
    · have hadvanced := applyEvidence_fixed hfirst (hevidence ▸ hb)
      have hfixed : Fixed BackendEvidence.generation b.capacity evidence := fixed_of_ne hadvanced
      rw [if_pos hevidence]
      split
      · exact { hself with
          capacity := hfixed
          detail := fun hvalid hsame => absurd hsame (hadvanced hvalid) }
      · exact { hself with
          capacity := hfixed
          detail := fun hvalid hsame => absurd hsame (hadvanced hvalid) }
    · rw [if_neg hevidence]
      split
      · rename_i hid
        subst hid
        refine detail_sameEvidence_iff.mpr fun hbad => hgood ⟨b, hb, hbad.1, fun hid => ?_, hbad.2⟩
        exact absurd hid.symm hevidence
      · exact hself

theorem updateCapacity_unaltered_iff {result : MutationResult}
    (h : Executes E Eq (Lifecycle.updateCapacity evidence detail) w es result v)
    (ha : Accepts result) :
    Unaltered w.state v.state ↔ ¬Reissues w.state (.updateCapacity evidence detail) := by
  obtain ⟨now, rfl, rfl⟩ := updateCapacity_executes h
  have haccepted : ((Mutation.updateCapacity evidence detail).result now w.state).accepted = true := ha
  rw [if_pos haccepted]
  change Unaltered w.state (writeCapacityDetail _ detail) ↔ _
  cases hr : ((Mutation.updateCapacity evidence detail).attempt now w.state).refusal with
  | none => exact advanced_unaltered_iff hr
  | some r =>
      obtain ⟨hnext, hresult⟩ := next_of_refused hr
      have hnochange : answersNoChange (updateCapacity w.state evidence detail).refusal = true := by
        have hcode := updateCapacity_answers r hr (hresult ▸ haccepted)
        have hsome : (updateCapacity w.state evidence detail).refusal = some r := hr
        simp [answersNoChange, hsome, hcode]
      obtain ⟨backend, hcurrent⟩ := updateCapacity_noChange.mp hnochange
      rw [hnext]
      exact current_unaltered_iff hcurrent

end

def Retains (k : Act) : Prop :=
  keepsHoldings k = true ∨ imports k = true

theorem retains_of_idle {k : Act} (h : idle k = true) : Retains k := by
  cases k with
  | mutate m now => cases h
  | writeCapacityDetail detail => cases h
  | importState canonical => cases h
  | _ => exact .inl rfl

def mutates : Op → Bool
  | .mutation _ => true
  | _ => false

theorem program_retains (options : ModelRouterOptions) {op : Op} (hop : mutates op = false) :
    (op.program options).Only (fun _ => True) (fun _ => True) Retains := by
  have hcycle : Persists (fun _ => True) (fun _ => True) Retains :=
    ⟨fun _ => retains_of_idle, fun _ _ => .inl rfl, fun _ _ _ _ _ => .inr rfl, fun _ _ _ _ => .inl rfl,
      fun _ _ _ _ => .inl rfl⟩
  cases op with
  | mutation m => cases hop
  | start => exact map_only _ (start_only hcycle options)
  | shutdown => exact map_only _ (shutdown_only hcycle options)
  | save path => exact map_only _ (save_only hcycle path)
  | load path => exact map_only _ (load_only hcycle path)
  | route request => exact map_only _ (route_only hcycle.calm options request fun _ _ _ => .inl rfl)
  | revalidate id callerTenant callerNamespace =>
      exact map_only _ (revalidate_only hcycle.calm _ _ _ fun _ _ _ => .inl rfl)
  | dispatch id callerTenant callerNamespace =>
      exact map_only _ (dispatch_only hcycle.calm options _ _ _ (fun _ _ _ => .inl rfl)
        fun _ _ _ => .inl rfl)
  | recordCompletion completion =>
      exact map_only _ (perform_only (.inl rfl) fun _ _ => done_only _)
  | reroute id failure request =>
      exact map_only _ (reroute_only hcycle.calm options id failure request fun _ _ _ => .inl rfl)

theorem mutation_loads_nothing (options : ModelRouterOptions) (m : Mutation) :
    (Op.program options (.mutation m)).Only (fun _ => True) (fun _ => True)
      fun k => imports k = false := by
  have hfirst (m : Mutation) : (Lifecycle.mutation m).Only (fun _ => True) (fun _ => True)
      fun k => imports k = false :=
    ask_only fun _ _ => perform_only rfl fun _ _ => done_only _
  cases m with
  | updateCapacity evidence detail =>
      refine map_only _ (bind_only (hfirst _) fun result => ?_)
      exact ite_only (perform_only rfl fun _ _ => done_only _) (done_only _)
  | _ => exact map_only _ (hfirst _)

/-- One operation of a router, alone from beginning to end. -/
abbrev RouterCall := Call World Act Op Reply

/-- The operation brings other content under the generation already stored. -/
def reissues (c : RouterCall) : Prop :=
  match c.op with
  | .mutation m => Reissues c.before.state m
  | _ => False

/-- An accepted operation that loads no durable state leaves every content it does not give a new
generation. -/
def KeepsContent (c : RouterCall) : Prop :=
  c.reply.accepted = true → LoadFree c.sections → Unaltered c.before.state c.after.state

theorem call_keepsContent_iff {options : ModelRouterOptions} {c : RouterCall} {E : Env → Prop}
    (h : Executes E Eq (Op.program options c.op) c.before c.sections c.reply c.after) :
    KeepsContent c ↔ (c.reply.accepted = true → ¬reissues c) := by
  obtain ⟨op, w, es, reply, v⟩ := c
  dsimp only [KeepsContent, reissues] at h ⊢
  cases op with
  | mutation m =>
      have hfree : LoadFree es :=
        (h.weaken fun _ _ => trivial).only (mutation_loads_nothing options m) fun _ _ => trivial
      by_cases hm : ∃ evidence detail, m = .updateCapacity evidence detail
      · obtain ⟨evidence, detail, rfl⟩ := hm
        obtain ⟨result, rfl, hrun⟩ := executes_map h
        exact ⟨fun hkeep ha => (updateCapacity_unaltered_iff hrun ha).mp (hkeep ha hfree),
          fun hgood ha _ => (updateCapacity_unaltered_iff hrun ha).mpr (hgood ha)⟩
      · have hm : ∀ evidence detail, m ≠ .updateCapacity evidence detail :=
          fun evidence detail heq => hm ⟨evidence, detail, heq⟩
        have hprogram : Op.program options (.mutation m) = Reply.mutation <$> Lifecycle.mutation m := by
          cases m with
          | updateCapacity evidence detail => exact absurd rfl (hm evidence detail)
          | _ => rfl
        rw [hprogram] at h
        obtain ⟨result, rfl, hrun⟩ := executes_map h
        obtain ⟨now, rfl, rfl⟩ := mutation_executes hrun
        exact ⟨fun hkeep ha => (next_unaltered_iff hm ha).mp (hkeep ha hfree),
          fun hgood ha _ => (next_unaltered_iff hm ha).mpr (hgood ha)⟩
  | _ =>
      refine iff_of_true (fun _ hfree => ?_) fun _ => not_false
      have hchained := h.chained
      have hacts := (h.weaken fun _ _ => trivial).only (program_retains options rfl) fun _ _ => trivial
      have hkeep : ∀ e ∈ es, holdings (after e).state = holdings e.pre.state := by
        intro e he
        rcases hacts e he with hkeep | himport
        · exact apply_holdings hkeep e.pre
        · exact absurd ((hfree e he).symm.trans himport) (by decide)
      refine unaltered_of_holdings ?_
      exact hchained.invariant (I := fun u => holdings u.state = holdings w.state) rfl
        fun e he hpre => (hkeep e he).trans hpre

/-- In a run of operations content changes under an unchanged generation exactly if one of the
accepted ones brings it. -/
theorem journal_keepsContent_iff {options : ModelRouterOptions} {E : Trace → Env → Prop}
    {highest : UInt64} {cs : List RouterCall} {t : World}
    (h : Journal (Op.program options) Act.apply E (World.fresh options highest) cs t) :
    (∀ c ∈ cs, KeepsContent c) ↔ ∀ c ∈ cs, c.reply.accepted = true → ¬reissues c :=
  h.forall_iff fun _ _ hc => call_keepsContent_iff hc

section

def relaxedPolicy : PolicySnapshot :=
  { samplePolicy with localOnly := true }

/-- A policy set twice under one generation. -/
def policyReissued : List RouterCall × World :=
  Journal.run (Op.program sampleOptions) Act.apply sampleEnv
    (sampleCatalog ++ [.mutation (.setPolicy relaxedPolicy)]) (World.fresh sampleOptions 100)

theorem policyReissued_journal : Journal (Op.program sampleOptions) Act.apply (constantly sampleEnv)
    (World.fresh sampleOptions 100) policyReissued.1 policyReissued.2 := by
  have hE : ∀ es, constantly sampleEnv es sampleEnv := fun _ => rfl
  exact Journal.run_journal hE _ _

theorem policyReissued_keepsContent_iff :
    (∀ c ∈ policyReissued.1, KeepsContent c) ↔
      ∀ c ∈ policyReissued.1, c.reply.accepted = true → ¬reissues c :=
  journal_keepsContent_iff policyReissued_journal

theorem policy_content_changes :
    ¬∀ (options : ModelRouterOptions) (E : Trace → Env → Prop) (highest : UInt64)
        (cs : List RouterCall) (t : World),
      Journal (Op.program options) Act.apply E (World.fresh options highest) cs t →
        ∀ c ∈ cs, KeepsContent c := by
  intro h
  have hkeeps := h sampleOptions (constantly sampleEnv) 100 _ _ policyReissued_journal
  have hfound : policyReissued.1.any (fun c => c.reply.accepted &&
      decide (LoadFree c.sections) && c.before.state.policy.generation.valid &&
      c.after.state.policy.generation == c.before.state.policy.generation &&
      c.after.state.policy != c.before.state.policy) = true := by
    decide +kernel
  obtain ⟨c, hc, hbad⟩ := List.any_eq_true.mp hfound
  simp only [Bool.and_eq_true, decide_eq_true_eq, beq_iff_eq, bne_iff_ne] at hbad
  obtain ⟨⟨⟨⟨haccepted, hfree⟩, hvalid⟩, hsame⟩, hne⟩ := hbad
  exact hne ((hkeeps c hc haccepted hfree).policy hvalid hsame)

end

end ModelRouter.Contents
