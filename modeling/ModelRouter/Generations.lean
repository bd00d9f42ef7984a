import Mathlib.Data.List.TakeWhile
import ModelRouter.Acceptance
import ModelRouter.Descriptors
import ModelRouter.Run

namespace ModelRouter.Generations

open Base Base.Refusal Bytes Ids Outcome Capability Evidence Catalog Persistence State
open CatalogMutation EvidenceMutation Mutations Commit Handoff Providers Section Router Effects
open MutationFacts Acceptance Descriptors Run

variable {m : Mutation} {now : UnixMillis} {s t : CanonicalState}

/-- The generations a descriptor holds for its incarnation. -/
inductive Kind where
  | descriptor | trust | capability | health | availability | readiness | residency | capacity
  | latency
deriving DecidableEq

def generationOf (b : BackendDescriptor) : Kind → Nat
  | .descriptor => b.backendGeneration.value.toNat
  | .trust => b.trustGeneration.value.toNat
  | .capability => b.capabilityGeneration.value.toNat
  | .health => b.health.generation.value.toNat
  | .availability => b.availability.generation.value.toNat
  | .readiness => b.readiness.generation.value.toNat
  | .residency => b.residency.generation.value.toNat
  | .capacity => b.capacity.generation.value.toNat
  | .latency => b.latency.healthGeneration.value.toNat

/-- As long as a backend keeps its boot, no generation of its descriptor decreases. -/
def SameBootRises (s t : CanonicalState) : Prop :=
  ∀ id b b', s.backends.find? id = some b → t.backends.find? id = some b' →
    b'.backendBoot = b.backendBoot → ∀ kind, generationOf b kind ≤ generationOf b' kind

def priceOf (s : CanonicalState) (id : BackendId) (modelId : ModelId) : Option PriceGeneration :=
  (s.backends.find? id).bind fun b => (b.findBinding modelId).map fun binding =>
    binding.cost.priceGeneration

/-- The generations that belong to the router or to a backend identity do not decrease. -/
structure Rises (s t : CanonicalState) : Prop where
  policy : s.policy.generation ≤ t.policy.generation
  budget : s.budget.generation ≤ t.budget.generation
  slo : s.slo.generation ≤ t.slo.generation
  compatibility : ∀ id e e', s.compatibility.find? id = some e →
    t.compatibility.find? id = some e' → e.generation ≤ e'.generation
  trust : ∀ id e e', s.trust.find? id = some e → t.trust.find? id = some e' →
    e.generation ≤ e'.generation
  price : ∀ id modelId g g', priceOf s id modelId = some g → priceOf t id modelId = some g' →
    g ≤ g'

/-- A call that takes a generation of a registered descriptor back within its incarnation. -/
def rewinds (s : CanonicalState) : Act → Prop
  | .mutate (.registerBackend raw) now =>
    ((Mutation.registerBackend raw).attempt now s).refusal = none ∧
      ∃ b, s.backends.find? raw.backendId = some b ∧ b.backendBoot = raw.backendBoot ∧
        ∃ kind ≠ .descriptor, generationOf raw kind < generationOf b kind
  | .mutate (.setTrust evidence) now =>
    ((Mutation.setTrust evidence).attempt now s).refusal = none ∧
      ∃ b, s.backends.find? evidence.backendId = some b ∧ evidence.generation < b.trustGeneration
  | .mutate (.updateLatency evidence) now =>
    ((Mutation.updateLatency evidence).attempt now s).refusal = none ∧
      evidence.healthGeneration.valid = false ∧
      ∃ b, s.backends.find? evidence.backendId = some b ∧
        b.latency.healthGeneration.valid = true
  | _ => False

/-- A registration that prices a binding below the price an earlier state had for it. -/
def undercuts (u : CanonicalState) (e : Event World Act) : Prop :=
  match e.act with
  | .mutate (.registerBackend raw) now =>
    ((Mutation.registerBackend raw).attempt now e.pre.state).refusal = none ∧
      ∃ modelId g binding, priceOf u raw.backendId modelId = some g ∧
        raw.canonicalize.findBinding modelId = some binding ∧
        binding.cost.priceGeneration < g
  | _ => False

section

variable {tag : Tag} {g h : Generation tag}

theorem le_of_not_regressed (hvalid : h.valid = true) (hr : generationRegressed h g = false) :
    g ≤ h := by
  by_cases hg : g.valid = true
  · simpa [generationRegressed, hvalid, hg] using hr
  · have hzero : g.value = 0 := by simpa [Generation.valid] using hg
    rw [Generation.le_iff, hzero]
    exact Nat.zero_le _

theorem pos_of_valid (hvalid : g.valid = true) : 0 < g.value.toNat := by
  have hne : g.value ≠ 0 := by simpa [Generation.valid] using hvalid
  refine Nat.pos_of_ne_zero fun hzero => hne (UInt64.toNat_inj.mp hzero)

theorem zero_of_invalid (hvalid : g.valid = false) : g.value.toNat = 0 := by
  have hzero : g.value = 0 := by simpa [Generation.valid] using hvalid
  rw [hzero]
  rfl

end

section

variable {σ : Type} {tag : Tag} [DecidableEq σ] {slot : EvidenceSlot σ tag}
variable {evidence : BackendEvidence σ tag} {b : BackendDescriptor}

theorem applyEvidence_rises (h : (applyEvidence slot s evidence).refusal = none)
    (hb : s.backends.find? evidence.backendId = some b) :
    (slot.get b).generation ≤ evidence.generation := by
  simp only [applyEvidence, hb, evidenceRefusal, chain_eq_none, refuse_eq_none,
    Bool.not_eq_false'] at h
  obtain ⟨-, hvalid, -, -, -, -, hregressed, -⟩ := h
  exact le_of_not_regressed hvalid hregressed

end

theorem publishCapabilities_rises {publication : BackendCapabilityPublication}
    {b : BackendDescriptor} (h : (publishCapabilities s publication).refusal = none)
    (hb : s.backends.find? publication.backendId = some b) :
    b.capabilityGeneration ≤ publication.generation := by
  simp only [publishCapabilities, hb, publicationRefusal, chain_eq_none, refuse_eq_none,
    Bool.not_eq_false'] at h
  obtain ⟨-, hvalid, -, -, -, -, hregressed, -⟩ := h
  exact le_of_not_regressed hvalid hregressed

theorem publishClaims_generationOf (publication : BackendCapabilityPublication)
    (b : BackendDescriptor) (h : b.capabilityGeneration ≤ publication.generation) (kind : Kind) :
    generationOf b kind ≤ generationOf (publishClaims s publication b) kind := by
  simp only [publishClaims]
  split
  · exact le_rfl
  · cases kind with
    | capability => exact h
    | _ => exact le_rfl

theorem setBindingCost_generationOf (b : BackendDescriptor) (modelId : ModelId)
    (cost : CostEvidence) (kind : Kind) :
    generationOf (b.setBindingCost modelId cost) kind = generationOf b kind := by
  simp only [BackendDescriptor.setBindingCost]
  split
  · cases kind <;> rfl
  · rfl

theorem updateLatency_rises_iff {evidence : LatencyEvidence} {b : BackendDescriptor}
    (h : (updateLatency s evidence).refusal = none)
    (hb : s.backends.find? evidence.backendId = some b) :
    (∀ kind, generationOf b kind ≤ generationOf { b with latency := evidence } kind) ↔
      ¬(evidence.healthGeneration.valid = false ∧ b.latency.healthGeneration.valid = true) := by
  simp only [updateLatency, hb, chain_eq_none, refuse_eq_none] at h
  obtain ⟨-, -, -, -, hregressed⟩ := h
  constructor
  · rintro hrises ⟨hinvalid, hvalid⟩
    have hlatency := hrises .latency
    have hzero := zero_of_invalid hinvalid
    have hpos := pos_of_valid hvalid
    simp only [generationOf] at hlatency
    omega
  · intro hgood kind
    cases kind with
    | latency =>
        cases hvalid : evidence.healthGeneration.valid with
        | true => exact le_of_not_regressed hvalid hregressed
        | false =>
            have hold : b.latency.healthGeneration.valid = false := by
              by_contra hne
              exact hgood ⟨hvalid, by simpa using hne⟩
            have hzero := zero_of_invalid hold
            simp only [generationOf]
            omega
    | _ => exact le_rfl

theorem bindTrust_rises_iff (evidence : TrustEvidence) (b : BackendDescriptor) :
    (∀ kind, generationOf b kind ≤ generationOf (bindTrust evidence b) kind) ↔
      ¬evidence.generation < b.trustGeneration := by
  rw [not_lt]
  constructor
  · intro hrises
    exact hrises .trust
  · intro hle kind
    cases kind with
    | trust => exact hle
    | _ => exact le_rfl

/-- A taken mutation that registers nothing keeps the boot of a descriptor, and all of its
generations unless it rewinds one. -/
theorem redescribe_rises_iff {id : BackendId} {b b' : BackendDescriptor}
    (htaken : (m.attempt now s).refusal = none) (hm : registers m = false)
    (ht : target m = some id) (hb : s.backends.find? id = some b)
    (hb' : redescribe s m (some b) = some b') :
    b'.backendBoot = b.backendBoot ∧
      ((∀ kind, generationOf b kind ≤ generationOf b' kind) ↔ ¬rewinds s (.mutate m now)) := by
  cases m with
  | registerBackend raw => cases hm
  | unregisterBackend j generation => cases hb'
  | fenceBackendBoot j generation boot reason =>
      simp only [redescribe, Option.filter_eq_some_iff, Option.some.injEq] at hb'
      obtain ⟨rfl, -⟩ := hb'
      exact ⟨rfl, iff_of_true (fun _ => le_rfl) not_false⟩
  | publishCapabilities publication =>
      obtain rfl := Option.some.inj ht
      obtain rfl := Option.some.inj hb'
      refine ⟨?_, iff_of_true (publishClaims_generationOf publication b ?_) not_false⟩
      · simp only [publishClaims]
        split <;> rfl
      · exact publishCapabilities_rises htaken hb
  | updateHealth evidence =>
      obtain rfl := Option.some.inj ht
      obtain rfl := Option.some.inj hb'
      have hrises := applyEvidence_rises htaken hb
      refine ⟨rfl, iff_of_true (fun kind => ?_) not_false⟩
      cases kind with
      | health => exact hrises
      | _ => exact le_rfl
  | updateAvailability evidence =>
      obtain rfl := Option.some.inj ht
      obtain rfl := Option.some.inj hb'
      have hrises := applyEvidence_rises htaken hb
      refine ⟨rfl, iff_of_true (fun kind => ?_) not_false⟩
      cases kind with
      | availability => exact hrises
      | _ => exact le_rfl
  | updateReadiness evidence =>
      obtain rfl := Option.some.inj ht
      obtain rfl := Option.some.inj hb'
      have hrises := applyEvidence_rises htaken hb
      refine ⟨rfl, iff_of_true (fun kind => ?_) not_false⟩
      cases kind with
      | readiness => exact hrises
      | _ => exact le_rfl
  | updateResidency evidence =>
      obtain rfl := Option.some.inj ht
      obtain rfl := Option.some.inj hb'
      have hrises := applyEvidence_rises htaken hb
      refine ⟨rfl, iff_of_true (fun kind => ?_) not_false⟩
      cases kind with
      | residency => exact hrises
      | _ => exact le_rfl
  | updateCapacity evidence detail =>
      obtain rfl := Option.some.inj ht
      obtain rfl := Option.some.inj hb'
      have hfirst : (applyEvidence capacitySlot s evidence).refusal = none := by
        simp only [Mutation.attempt, updateCapacity, chain_eq_none] at htaken
        exact htaken.2.2
      have hrises := applyEvidence_rises hfirst hb
      refine ⟨rfl, iff_of_true (fun kind => ?_) not_false⟩
      cases kind with
      | capacity => exact hrises
      | _ => exact le_rfl
  | updateLatency evidence =>
      obtain rfl := Option.some.inj ht
      obtain rfl := Option.some.inj hb'
      refine ⟨rfl, (updateLatency_rises_iff htaken hb).trans (not_congr ?_)⟩
      constructor
      · rintro ⟨hinvalid, hvalid⟩
        exact ⟨htaken, hinvalid, b, hb, hvalid⟩
      · rintro ⟨-, hinvalid, found, hfound, hvalid⟩
        obtain rfl := Option.some.inj (hb.symm.trans hfound)
        exact ⟨hinvalid, hvalid⟩
  | setTrust evidence =>
      obtain rfl := Option.some.inj ht
      obtain rfl := Option.some.inj hb'
      refine ⟨rfl, (bindTrust_rises_iff evidence b).trans (not_congr ?_)⟩
      constructor
      · intro hlt
        exact ⟨htaken, b, hb, hlt⟩
      · rintro ⟨-, found, hfound, hlt⟩
        obtain rfl := Option.some.inj (hb.symm.trans hfound)
        exact hlt
  | setCost evidence =>
      obtain rfl := Option.some.inj hb'
      refine ⟨?_, iff_of_true (fun kind => ?_) not_false⟩
      · simp only [BackendDescriptor.setBindingCost]
        split <;> rfl
      · rw [setBindingCost_generationOf]
  | _ => cases ht

section

variable {modelId j : ModelId} {cost : CostEvidence} {binding : ModelBinding}

theorem findBinding_overwrite (b : BackendDescriptor) {below above : List ModelBinding}
    (binding : ModelBinding) (cost : CostEvidence) (hne : binding.modelId ≠ j) :
    { b with modelBindings := below ++ { binding with cost := cost } :: above }.findBinding j =
      { b with modelBindings := below ++ binding :: above }.findBinding j := by
  induction below with
  | nil =>
      simp only [BackendDescriptor.findBinding, List.nil_append, List.dropWhile_cons]
      by_cases hlt : binding.modelId < j
      · simp [hlt]
      · simp [hlt, hne]
  | cons first below ih =>
      simp only [BackendDescriptor.findBinding, List.cons_append, List.dropWhile_cons] at ih ⊢
      by_cases hlt : first.modelId < j
      · simpa [hlt] using ih
      · simp [hlt]

theorem findBinding_setBindingCost {b : BackendDescriptor}
    (hfound : b.findBinding modelId = some binding) :
    (b.setBindingCost modelId cost).findBinding j =
      if modelId = j then some { binding with cost := cost } else b.findBinding j := by
  have hsplit := List.takeWhile_append_dropWhile (p := fun binding : ModelBinding =>
    decide (binding.modelId < modelId)) (l := b.modelBindings)
  simp only [BackendDescriptor.findBinding] at hfound
  split at hfound
  · rename_i found above hdrop
    rw [hdrop] at hsplit
    split at hfound
    · rename_i hid
      obtain rfl := Option.some.inj hfound
      have hset : b.setBindingCost modelId cost = { b with
          modelBindings := b.modelBindings.takeWhile (fun binding => binding.modelId < modelId) ++
            { found with cost := cost } :: above } := by
        simp only [BackendDescriptor.setBindingCost, hdrop]
      rw [hset]
      by_cases hj : modelId = j
      · subst hj
        rw [if_pos rfl, BackendDescriptor.findBinding, List.dropWhile_append_of_pos]
        · simp [hid]
        · intro a ha
          have hbelow := List.mem_takeWhile_imp
            (p := fun binding : ModelBinding => decide (binding.modelId < modelId)) ha
          exact hbelow
      · rw [if_neg hj, findBinding_overwrite b found cost (hid ▸ hj), hsplit]
    · cases hfound
  · cases hfound

end

theorem redescribe_price {id : BackendId} {b b' : BackendDescriptor} {modelId : ModelId}
    {found : ModelBinding} (htaken : (m.attempt now s).refusal = none) (hm : registers m = false)
    (ht : target m = some id) (hb : s.backends.find? id = some b)
    (hb' : redescribe s m (some b) = some b') (hfound : b'.findBinding modelId = some found) :
    ∃ binding, b.findBinding modelId = some binding ∧
      binding.cost.priceGeneration ≤ found.cost.priceGeneration := by
  cases m with
  | registerBackend raw => cases hm
  | unregisterBackend k generation => cases hb'
  | fenceBackendBoot k generation boot reason =>
      simp only [redescribe, Option.filter_eq_some_iff, Option.some.injEq] at hb'
      obtain ⟨rfl, -⟩ := hb'
      exact ⟨found, hfound, le_rfl⟩
  | publishCapabilities publication =>
      obtain rfl := Option.some.inj hb'
      have hsame : (publishClaims s publication b).findBinding modelId = b.findBinding modelId := by
        simp only [publishClaims]
        split <;> rfl
      exact ⟨found, hsame ▸ hfound, le_rfl⟩
  | setCost evidence =>
      obtain rfl := Option.some.inj ht
      obtain rfl := Option.some.inj hb'
      simp only [Mutation.attempt, setCost, hb, chain_eq_none, refuse_eq_none] at htaken
      obtain ⟨hvalid, -, -, -, hcost⟩ := htaken
      cases hbinding : b.findBinding evidence.modelId with
      | none =>
          rw [hbinding] at hcost
          cases hcost
      | some binding =>
          rw [hbinding] at hcost
          simp only [costRefusal, chain_eq_none, refuse_eq_none] at hcost
          simp only [Bool.or_eq_false_iff, Bool.not_eq_false'] at hvalid
          rw [findBinding_setBindingCost hbinding] at hfound
          split at hfound
          · rename_i hj
            obtain rfl := Option.some.inj hfound
            exact ⟨binding, hj ▸ hbinding, le_of_not_regressed hvalid.1.1 hcost.1⟩
          · exact ⟨found, hfound, le_rfl⟩
  | updateHealth evidence =>
      obtain rfl := Option.some.inj hb'
      exact ⟨found, hfound, le_rfl⟩
  | updateAvailability evidence =>
      obtain rfl := Option.some.inj hb'
      exact ⟨found, hfound, le_rfl⟩
  | updateReadiness evidence =>
      obtain rfl := Option.some.inj hb'
      exact ⟨found, hfound, le_rfl⟩
  | updateResidency evidence =>
      obtain rfl := Option.some.inj hb'
      exact ⟨found, hfound, le_rfl⟩
  | updateCapacity evidence detail =>
      obtain rfl := Option.some.inj hb'
      exact ⟨found, hfound, le_rfl⟩
  | updateLatency evidence =>
      obtain rfl := Option.some.inj hb'
      exact ⟨found, hfound, le_rfl⟩
  | setTrust evidence =>
      obtain rfl := Option.some.inj hb'
      exact ⟨found, hfound, le_rfl⟩
  | _ => cases ht

/-- The generations outside the descriptors: they do not decrease and their entries stay. -/
structure Lasts (s t : CanonicalState) : Prop where
  policy : s.policy.generation ≤ t.policy.generation
  budget : s.budget.generation ≤ t.budget.generation
  slo : s.slo.generation ≤ t.slo.generation
  compatibility : ∀ id e, s.compatibility.find? id = some e →
    ∃ e', t.compatibility.find? id = some e' ∧ e.generation ≤ e'.generation
  trust : ∀ id e, s.trust.find? id = some e →
    ∃ e', t.trust.find? id = some e' ∧ e.generation ≤ e'.generation

/-- What `set_policy`, `set_budget`, `set_slo`, `set_compatibility` and `set_trust` write. -/
structure Settings where
  policy : PolicySnapshot
  budget : BudgetSnapshot
  slo : SloEvidence
  compatibility : OrderedMap BackendId CompatibilityEvidence
  trust : OrderedMap BackendId TrustEvidence

def settings (s : CanonicalState) : Settings where
  policy := s.policy
  budget := s.budget
  slo := s.slo
  compatibility := s.compatibility
  trust := s.trust

theorem settings_of_holdings (h : holdings t = holdings s) : settings t = settings s := by
  have hpolicy : t.policy = s.policy := congrArg Holdings.policy h
  have hbudget : t.budget = s.budget := congrArg Holdings.budget h
  have hslo : t.slo = s.slo := congrArg Holdings.slo h
  have hcompatibility : t.compatibility = s.compatibility := congrArg Holdings.compatibility h
  have htrust : t.trust = s.trust := congrArg Holdings.trust h
  simp only [settings, hpolicy, hbudget, hslo, hcompatibility, htrust]

theorem Lasts.of_settings (h : settings t = settings s) : Lasts s t := by
  have hpolicy : t.policy = s.policy := congrArg Settings.policy h
  have hbudget : t.budget = s.budget := congrArg Settings.budget h
  have hslo : t.slo = s.slo := congrArg Settings.slo h
  have hcompatibility : t.compatibility = s.compatibility := congrArg Settings.compatibility h
  have htrust : t.trust = s.trust := congrArg Settings.trust h
  refine ⟨?_, ?_, ?_, fun id e he => ?_, fun id e he => ?_⟩
  · rw [hpolicy]
  · rw [hbudget]
  · rw [hslo]
  · exact ⟨e, hcompatibility ▸ he, le_rfl⟩
  · exact ⟨e, htrust ▸ he, le_rfl⟩

theorem Lasts.trans {u : CanonicalState} (h : Lasts s t) (h' : Lasts t u) : Lasts s u := by
  refine ⟨h.policy.trans h'.policy, h.budget.trans h'.budget, h.slo.trans h'.slo,
    fun id e he => ?_, fun id e he => ?_⟩
  · obtain ⟨e', he', hle⟩ := h.compatibility id e he
    obtain ⟨e'', he'', hle'⟩ := h'.compatibility id e' he'
    exact ⟨e'', he'', hle.trans hle'⟩
  · obtain ⟨e', he', hle⟩ := h.trust id e he
    obtain ⟨e'', he'', hle'⟩ := h'.trust id e' he'
    exact ⟨e'', he'', hle.trans hle'⟩

instance : IsTrans World fun w u => Lasts w.state u.state where
  trans _ _ _ := Lasts.trans

def writesSettings : Mutation → Bool
  | .setPolicy _ | .setBudget _ | .setSlo _ | .setCompatibility _ | .setTrust _ => true
  | _ => false

theorem editBackend_settings (s : CanonicalState) (id : BackendId)
    (edit : BackendDescriptor → BackendDescriptor) :
    settings (editBackend s id edit) = settings s := by
  simp only [editBackend]
  cases s.backends.find? id <;> rfl

theorem edited_settings (hm : writesSettings m = false) :
    settings (m.attempt now s).edited = settings s := by
  cases m with
  | registerModel model => rfl
  | registerProvider provider => rfl
  | registerBackend raw =>
      change settings (installBackend _ raw.canonicalize) = _
      simp only [installBackend]
      cases s.backends.find? raw.canonicalize.backendId <;> rfl
  | unregisterBackend id generation =>
      change settings (unregisterBackend s id generation now).edited = _
      dsimp only [unregisterBackend]
      cases s.backends.find? id <;> rfl
  | fenceBackendBoot id generation boot reason =>
      change settings (fenceBackendBoot s id generation boot reason now).edited = _
      dsimp only [fenceBackendBoot]
      cases (s.backends.find? id).filter _ <;> rfl
  | publishCapabilities publication => exact editBackend_settings s _ _
  | retireModel modelId generation =>
      change settings (retireModel s modelId generation).edited = _
      dsimp only [retireModel]
      cases s.models.find? modelId <;> rfl
  | updateHealth evidence => exact editBackend_settings s _ _
  | updateAvailability evidence => exact editBackend_settings s _ _
  | updateReadiness evidence => exact editBackend_settings s _ _
  | updateResidency evidence => exact editBackend_settings s _ _
  | updateCapacity evidence detail => exact editBackend_settings s _ _
  | updateLatency evidence => exact editBackend_settings s _ _
  | setCost evidence => exact editBackend_settings s _ _
  | _ => cases hm

theorem rebindTrust_settings (s : CanonicalState) (evidence : TrustEvidence) :
    settings (rebindTrust s evidence) = settings s := by
  simp only [rebindTrust]
  cases s.backends.find? evidence.backendId <;> rfl

def revise (s : CanonicalState) : Mutation → Settings
  | .setPolicy raw => { settings s with policy := raw.canonicalize }
  | .setBudget budget => { settings s with budget := budget }
  | .setSlo slo => { settings s with slo := slo }
  | .setCompatibility evidence =>
    { settings s with compatibility := s.compatibility.insert evidence.backendId evidence }
  | .setTrust evidence => { settings s with trust := s.trust.insert evidence.backendId evidence }
  | _ => settings s

theorem next_settings (htaken : (m.attempt now s).refusal = none) :
    settings (m.next now s) = revise s m := by
  rw [(next_of_taken htaken).1, settings_of_holdings (written_holdings _ now)]
  cases hm : writesSettings m with
  | false =>
      rw [edited_settings hm]
      cases m <;> first | rfl | cases hm
  | true =>
      cases m with
      | setPolicy raw => rfl
      | setBudget budget => rfl
      | setSlo slo => rfl
      | setCompatibility evidence => rfl
      | setTrust evidence => exact rebindTrust_settings _ evidence
      | _ => cases hm

theorem setPolicy_issued {raw : PolicySnapshot} (h : (setPolicy s raw).refusal = none) :
    raw.canonicalize.generation.valid = true := by
  simp only [setPolicy, chain_eq_none, refuse_eq_none, Option.map_eq_none_iff,
    PolicySnapshot.validate, violation] at h
  obtain ⟨⟨hvalid, -⟩, -⟩ := h
  simpa using hvalid

theorem setPolicy_rises {raw : PolicySnapshot} (h : (setPolicy s raw).refusal = none) :
    s.policy.generation ≤ raw.canonicalize.generation := by
  have hvalid := setPolicy_issued h
  simp only [setPolicy, chain_eq_none, refuse_eq_none] at h
  exact le_of_not_regressed hvalid h.2.2.1

theorem find?_insert_rises {V : Type} {held : OrderedMap BackendId V} {tag : Tag}
    {generation : V → Generation tag} {id : BackendId} {entry : V}
    (hvalid : (generation entry).valid = true)
    (h : (held.find? id).any (fun existing =>
      generationRegressed (generation entry) (generation existing)) = false)
    (j : BackendId) (e : V) (he : held.find? j = some e) :
    ∃ e', (held.insert id entry).find? j = some e' ∧ generation e ≤ generation e' := by
  rw [OrderedMap.find?_insert]
  by_cases hj : id = j
  · rw [if_pos hj]
    rw [hj, he, Option.any_some] at h
    exact ⟨entry, rfl, le_of_not_regressed hvalid h⟩
  · rw [if_neg hj]
    exact ⟨e, he, le_rfl⟩

theorem edited_lasts (htaken : (m.attempt now s).refusal = none) :
    Lasts s (m.attempt now s).edited := by
  cases hm : writesSettings m with
  | false => exact .of_settings (edited_settings hm)
  | true =>
      have hsame : Lasts s s := .of_settings rfl
      cases m with
      | setPolicy raw => exact { hsame with policy := setPolicy_rises htaken }
      | setBudget budget =>
          simp only [Mutation.attempt, setBudget, chain_eq_none, refuse_eq_none,
            Bool.not_eq_false'] at htaken
          exact { hsame with budget := le_of_not_regressed htaken.1 htaken.2.2 }
      | setSlo slo =>
          simp only [Mutation.attempt, setSlo, chain_eq_none, refuse_eq_none,
            Bool.not_eq_false'] at htaken
          exact { hsame with slo := le_of_not_regressed htaken.1 htaken.2.2 }
      | setCompatibility evidence =>
          simp only [Mutation.attempt, setCompatibility, chain_eq_none, refuse_eq_none,
            Bool.or_eq_false_iff, Bool.not_eq_false'] at htaken
          exact { hsame with
            compatibility := find?_insert_rises htaken.1.2 htaken.2.2 }
      | setTrust evidence =>
          simp only [Mutation.attempt, setTrust, chain_eq_none, refuse_eq_none,
            Bool.or_eq_false_iff, Bool.not_eq_false'] at htaken
          have hstored : Lasts s { s with trust := s.trust.insert evidence.backendId evidence } :=
            { hsame with trust := find?_insert_rises htaken.1.1.2 htaken.2.2.1 }
          exact hstored.trans (.of_settings (rebindTrust_settings _ evidence))
      | _ => cases hm

theorem event_lasts {e : Event World Act} (hload : imports e.act = false) :
    Lasts e.pre.state (after e).state := by
  obtain ⟨k, w⟩ := e
  cases hkeep : keepsHoldings k with
  | true => exact .of_settings (settings_of_holdings (apply_holdings hkeep w))
  | false =>
      cases k with
      | mutate m now =>
          change Lasts w.state (m.next now w.state)
          cases htaken : (m.attempt now w.state).refusal with
          | some result =>
              rw [(next_of_refused htaken).1]
              exact .of_settings rfl
          | none =>
              have hwritten := settings_of_holdings (written_holdings (m.attempt now w.state) now)
              rw [(next_of_taken htaken).1]
              exact (edited_lasts htaken).trans (.of_settings hwritten)
      | writeCapacityDetail detail => exact .of_settings (editBackend_settings w.state _ _)
      | importState canonical => cases hload
      | _ => cases hkeep

def Watermarked (s : CanonicalState) : Prop :=
  ∀ id b, s.backends.find? id = some b →
    s.backendGenerationWatermark.find? id = some b.backendGeneration

theorem Watermarked.congr (hs : Watermarked s) (hb : t.backends = s.backends)
    (hw : watermarks t = watermarks s) : Watermarked t := by
  have hmark : t.backendGenerationWatermark = s.backendGenerationWatermark := congrArg Prod.snd hw
  intro id b hfind
  rw [hmark]
  exact hs id b (hb ▸ hfind)

theorem next_watermarked (hs : Watermarked s) : Watermarked (m.next now s) := by
  cases htaken : (m.attempt now s).refusal with
  | some result =>
      rw [(next_of_refused htaken).1]
      exact hs
  | none =>
      intro id b hb
      rw [next_backends htaken] at hb
      have hmark : (m.next now s).backendGenerationWatermark = (raise s m).2 :=
        congrArg Prod.snd (next_watermarks htaken)
      rw [hmark]
      cases m with
      | registerBackend raw =>
          change (s.backendGenerationWatermark.insert _ _).find? id = _
          rw [OrderedMap.find?_insert]
          simp only [target, Option.some.injEq] at hb
          by_cases hid : raw.backendId = id
          · rw [if_pos hid] at hb ⊢
            obtain rfl := Option.some.inj hb
            rfl
          · rw [if_neg hid] at hb ⊢
            exact hs id b hb
      | registerModel model => exact hs id b hb
      | _ =>
          split at hb
          · cases hheld : s.backends.find? id with
            | none =>
                rw [hheld, redescribe_none (by simp)] at hb
                cases hb
            | some held =>
                rw [hheld] at hb
                rw [redescribe_backendGeneration (by simp) hb]
                exact hs id held hheld
          · exact hs id b hb

theorem event_watermarked {e : Event World Act} (hload : imports e.act = false)
    (hs : Watermarked e.pre.state) : Watermarked (after e).state := by
  obtain ⟨k, w⟩ := e
  cases hkeep : keepsHoldings k with
  | true =>
      have hsame := apply_holdings hkeep w
      exact hs.congr (backends_of_holdings hsame) (watermarks_of_holdings hsame)
  | false =>
      cases k with
      | mutate m now => exact next_watermarked hs
      | writeCapacityDetail detail =>
          intro id b hb
          change (editBackend w.state detail.backendId _).backends.find? id = some b at hb
          have hmark : (after ⟨.writeCapacityDetail detail, w⟩).state.backendGenerationWatermark =
              w.state.backendGenerationWatermark :=
            congrArg Prod.snd (editBackend_watermarks w.state _ _)
          rw [hmark]
          rw [editBackend_find?] at hb
          split at hb
          · obtain ⟨held, hheld, rfl⟩ := Option.map_eq_some_iff.mp hb
            exact hs id held hheld
          · exact hs id b hb
      | importState canonical => cases hload
      | _ => cases hkeep

theorem SameBootRises.of_backends (h : t.backends = s.backends) : SameBootRises s t := by
  intro id b b' hb hb' _ kind
  rw [h, hb] at hb'
  obtain rfl := Option.some.inj hb'
  exact le_rfl

theorem taken_of_rewinds (h : rewinds s (.mutate m now)) : (m.attempt now s).refusal = none := by
  cases m with
  | registerBackend raw => exact h.1
  | setTrust evidence => exact h.1
  | updateLatency evidence => exact h.1
  | _ => cases h

theorem registerBackend_rises_iff {raw : BackendDescriptor} (hs : Watermarked s)
    (htaken : ((Mutation.registerBackend raw).attempt now s).refusal = none) :
    SameBootRises s ((Mutation.registerBackend raw).next now s) ↔
      ¬rewinds s (.mutate (.registerBackend raw) now) := by
  have hbackends := next_backends htaken
  simp only [target, redescribe, Option.some.injEq] at hbackends
  constructor
  · rintro hrises ⟨-, b, hb, hboot, kind, -, hlt⟩
    have hnew := hbackends raw.backendId
    rw [if_pos rfl] at hnew
    have hle := hrises raw.backendId b raw.canonicalize hb hnew hboot.symm kind
    have hcanonical : generationOf raw.canonicalize kind = generationOf raw kind := by
      cases kind <;> rfl
    omega
  · intro hgood id b b' hb hb' hboot kind
    rw [hbackends] at hb'
    split at hb'
    · rename_i hid
      obtain rfl := Option.some.inj hb'
      have hcanonical : generationOf raw.canonicalize kind = generationOf raw kind := by
        cases kind <;> rfl
      rw [hcanonical]
      by_cases hkind : kind = .descriptor
      · subst hkind
        simp only [Mutation.attempt, registerBackend, chain_eq_none, refuse_eq_none,
          Option.map_eq_none_iff, BackendDescriptor.validate, violation] at htaken
        obtain ⟨⟨-, hvalid, -⟩, -, -, -, hregressed, -⟩ := htaken
        have hmark : s.backendGenerationWatermark.find? raw.canonicalize.backendId = _ :=
          hs raw.backendId b (hid ▸ hb)
        have hissued : raw.canonicalize.backendGeneration.valid = true := by simpa using hvalid
        rw [hmark, Option.any_some] at hregressed
        exact le_of_not_regressed hissued hregressed
      · refine Nat.le_of_not_lt fun hlt => hgood ⟨htaken, b, hid ▸ hb, hboot.symm, kind, hkind, hlt⟩
    · rw [hb] at hb'
      obtain rfl := Option.some.inj hb'
      exact le_rfl

theorem next_rises_iff (hs : Watermarked s) :
    SameBootRises s (m.next now s) ↔ ¬rewinds s (.mutate m now) := by
  cases htaken : (m.attempt now s).refusal with
  | some result =>
      rw [(next_of_refused htaken).1]
      refine iff_of_true (.of_backends rfl) fun hbad => ?_
      rw [taken_of_rewinds hbad] at htaken
      cases htaken
  | none =>
      cases hm : registers m with
      | true =>
          cases m with
          | registerBackend raw => exact registerBackend_rises_iff hs htaken
          | _ => cases hm
      | false =>
          have hbackends := next_backends htaken
          constructor
          · intro hrises hbad
            have hfound : ∃ id b b', target m = some id ∧ s.backends.find? id = some b ∧
                redescribe s m (some b) = some b' := by
              cases m with
              | registerBackend raw => cases hm
              | setTrust evidence =>
                  obtain ⟨-, b, hb, -⟩ := hbad
                  exact ⟨_, b, _, rfl, hb, rfl⟩
              | updateLatency evidence =>
                  obtain ⟨-, -, b, hb, -⟩ := hbad
                  exact ⟨_, b, _, rfl, hb, rfl⟩
              | _ => cases hbad
            obtain ⟨id, b, b', ht, hb, hb'⟩ := hfound
            obtain ⟨hboot, hiff⟩ := redescribe_rises_iff htaken hm ht hb hb'
            have hnext : (m.next now s).backends.find? id = some b' := by
              rw [hbackends, if_pos ht, hb, hb']
            exact hiff.mp (hrises id b b' hb hnext hboot) hbad
          · intro hgood id b b' hb hb' _ kind
            rw [hbackends, hb] at hb'
            split at hb'
            · rename_i ht
              exact (redescribe_rises_iff htaken hm ht hb hb').2.mpr hgood kind
            · obtain rfl := Option.some.inj hb'
              exact le_rfl

theorem event_rises_iff {e : Event World Act} (hload : imports e.act = false)
    (hs : Watermarked e.pre.state) :
    SameBootRises e.pre.state (after e).state ↔ ¬rewinds e.pre.state e.act := by
  obtain ⟨k, w⟩ := e
  cases hkeep : keepsHoldings k with
  | true =>
      refine iff_of_true (.of_backends (backends_of_holdings (apply_holdings hkeep w))) ?_
      cases k with
      | mutate m now => cases hkeep
      | _ => exact not_false
  | false =>
      cases k with
      | mutate m now => exact next_rises_iff hs
      | writeCapacityDetail detail =>
          refine iff_of_true (fun id b b' hb hb' _ kind => ?_) not_false
          change (editBackend w.state detail.backendId _).backends.find? id = some b' at hb'
          rw [editBackend_find?, hb] at hb'
          split at hb'
          · obtain rfl := Option.some.inj hb'
            cases kind <;> exact le_rfl
          · obtain rfl := Option.some.inj hb'
            exact le_rfl
      | importState canonical => cases hload
      | _ => cases hkeep

/-- The price generation of every binding stored in both states has not decreased. -/
def PriceRises (s t : CanonicalState) : Prop :=
  ∀ id modelId g g', priceOf s id modelId = some g → priceOf t id modelId = some g' → g ≤ g'

/-- A section that brings in no price: each price after it was there before, no higher. -/
def NoNewPrice (s t : CanonicalState) : Prop :=
  ∀ id modelId g', priceOf t id modelId = some g' → ∃ g, priceOf s id modelId = some g ∧ g ≤ g'

theorem priceOf_eq_some {id : BackendId} {modelId : ModelId} {g : PriceGeneration} :
    priceOf s id modelId = some g ↔ ∃ b binding, s.backends.find? id = some b ∧
      b.findBinding modelId = some binding ∧ binding.cost.priceGeneration = g := by
  simp only [priceOf, Option.bind_eq_some_iff, Option.map_eq_some_iff]
  constructor
  · rintro ⟨b, hb, binding, hbinding, hg⟩
    exact ⟨b, binding, hb, hbinding, hg⟩
  · rintro ⟨b, binding, hb, hbinding, hg⟩
    exact ⟨b, hb, binding, hbinding, hg⟩

theorem NoNewPrice.of_backends (h : t.backends = s.backends) : NoNewPrice s t := by
  intro id modelId g' hg'
  rw [priceOf, h] at hg'
  exact ⟨g', hg', le_rfl⟩

theorem next_noNewPrice (hm : registers m = false) : NoNewPrice s (m.next now s) := by
  cases htaken : (m.attempt now s).refusal with
  | some result =>
      rw [(next_of_refused htaken).1]
      exact .of_backends rfl
  | none =>
      intro id modelId g' hg'
      obtain ⟨b', found, hb', hfound, rfl⟩ := priceOf_eq_some.mp hg'
      rw [next_backends htaken] at hb'
      have hregister : ∀ raw, m ≠ .registerBackend raw := by
        rintro raw rfl
        cases hm
      split at hb'
      · rename_i ht
        cases hb : s.backends.find? id with
        | none =>
            rw [hb, redescribe_none hregister] at hb'
            cases hb'
        | some b =>
            rw [hb] at hb'
            obtain ⟨binding, hbinding, hle⟩ := redescribe_price htaken hm ht hb hb' hfound
            exact ⟨_, priceOf_eq_some.mpr ⟨b, binding, hb, hbinding, rfl⟩, hle⟩
      · exact ⟨_, priceOf_eq_some.mpr ⟨b', found, hb', hfound, rfl⟩, le_rfl⟩

theorem registerBackend_price_iff {u : CanonicalState} {raw : BackendDescriptor}
    (htaken : ((Mutation.registerBackend raw).attempt now s).refusal = none)
    (hu : PriceRises u s) :
    PriceRises u ((Mutation.registerBackend raw).next now s) ↔
      ¬∃ modelId g binding, priceOf u raw.backendId modelId = some g ∧
        raw.canonicalize.findBinding modelId = some binding ∧
        binding.cost.priceGeneration < g := by
  have hbackends := next_backends htaken
  simp only [target, redescribe, Option.some.injEq] at hbackends
  constructor
  · rintro hrises ⟨modelId, g, binding, hg, hbinding, hlt⟩
    have hnew := hbackends raw.backendId
    rw [if_pos rfl] at hnew
    have hle := hrises raw.backendId modelId g _ hg
      (priceOf_eq_some.mpr ⟨_, binding, hnew, hbinding, rfl⟩)
    exact absurd hle (not_le_of_gt hlt)
  · intro hgood id modelId g g' hg hg'
    obtain ⟨b', found, hb', hfound, rfl⟩ := priceOf_eq_some.mp hg'
    rw [hbackends] at hb'
    split at hb'
    · rename_i hid
      obtain rfl := Option.some.inj hb'
      exact le_of_not_gt fun hlt => hgood ⟨modelId, g, found, hid ▸ hg, hfound, hlt⟩
    · exact hu id modelId g _ hg (priceOf_eq_some.mpr ⟨b', found, hb', hfound, rfl⟩)

theorem PriceRises.next {u : CanonicalState} (hu : PriceRises u s) (h : NoNewPrice s t) :
    PriceRises u t := by
  intro id modelId g g' hg hg'
  obtain ⟨g'', hg'', hle⟩ := h id modelId g' hg'
  exact (hu id modelId g g'' hg hg'').trans hle

theorem event_price_iff {u : CanonicalState} {e : Event World Act} (hload : imports e.act = false)
    (hu : PriceRises u e.pre.state) : PriceRises u (after e).state ↔ ¬undercuts u e := by
  obtain ⟨k, w⟩ := e
  cases hkeep : keepsHoldings k with
  | true =>
      have hsame := backends_of_holdings (apply_holdings hkeep w)
      refine iff_of_true (hu.next (.of_backends hsame)) ?_
      cases k with
      | mutate m now => cases hkeep
      | _ => exact not_false
  | false =>
      cases k with
      | mutate m now =>
          cases hm : registers m with
          | false =>
              refine iff_of_true (hu.next (next_noNewPrice hm)) fun hbad => ?_
              cases m with
              | registerBackend raw => cases hm
              | _ => exact hbad
          | true =>
              cases m with
              | registerBackend raw =>
                  cases htaken : ((Mutation.registerBackend raw).attempt now w.state).refusal with
                  | some result =>
                      have hsame := (next_of_refused htaken).1
                      refine iff_of_true (hu.next (.of_backends (congrArg _ hsame))) fun hbad => ?_
                      have hnone := htaken.symm.trans hbad.1
                      cases hnone
                  | none =>
                      refine (registerBackend_price_iff htaken hu).trans (not_congr ?_)
                      exact ⟨fun h => ⟨htaken, h⟩, fun h => h.2⟩
              | _ => cases hm
      | writeCapacityDetail detail =>
          refine iff_of_true (hu.next fun id modelId g' hg' => ?_) not_false
          obtain ⟨b', found, hb', hfound, rfl⟩ := priceOf_eq_some.mp hg'
          change (editBackend w.state detail.backendId _).backends.find? id = some b' at hb'
          rw [editBackend_find?] at hb'
          split at hb'
          · obtain ⟨b, hb, rfl⟩ := Option.map_eq_some_iff.mp hb'
            exact ⟨_, priceOf_eq_some.mpr ⟨b, found, hb, hfound, rfl⟩, le_rfl⟩
          · exact ⟨_, priceOf_eq_some.mpr ⟨b', found, hb', hfound, rfl⟩, le_rfl⟩
      | importState canonical => cases hload
      | _ => cases hkeep

theorem Lasts.rises (h : Lasts s t) (hp : PriceRises s t) : Rises s t := by
  refine ⟨h.policy, h.budget, h.slo, fun id e e' he he' => ?_, fun id e e' he he' => ?_, hp⟩
  · obtain ⟨found, hfound, hle⟩ := h.compatibility id e he
    obtain rfl := Option.some.inj (hfound.symm.trans he')
    exact hle
  · obtain ⟨found, hfound, hle⟩ := h.trust id e he
    obtain rfl := Option.some.inj (hfound.symm.trans he')
    exact hle

/-- The states a schedule passes through, the first one included. -/
def states (s : World) (es : Trace) : List World :=
  s :: es.map after

instance : Std.Refl fun w u : World => PriceRises w.state u.state where
  refl _ _ _ _ _ hg hg' := by
    rw [hg] at hg'
    exact (Option.some.inj hg').le

/-- No stored generation decreases along a run without imports exactly when no call rewinds a
generation of the incarnation it is about and no registration undercuts an earlier price. -/
theorem interleaved_rises_iff (options : ModelRouterOptions) (highest : UInt64)
    (schedule : List (Choice Op Env)) (hload : LoadFree (interleaved options highest schedule)) :
    ((states (World.fresh options highest) (interleaved options highest schedule)).Pairwise
        (fun w u => Rises w.state u.state) ∧
      ∀ e ∈ interleaved options highest schedule, SameBootRises e.pre.state (after e).state) ↔
      (∀ e ∈ interleaved options highest schedule,
        ¬rewinds e.pre.state e.act ∧ ¬undercuts e.pre.state e) ∧
      (interleaved options highest schedule).Pairwise fun d e => ¬undercuts d.pre.state e := by
  obtain ⟨t, hchained⟩ := interleaved_chained options highest schedule
  generalize interleaved options highest schedule = es at hchained hload ⊢
  have hfresh : Watermarked (World.fresh options highest).state := fun id b hb => by cases hb
  have hmarked := hchained.invariant_pre (I := fun w => Watermarked w.state) hfresh
    fun e he hs => event_watermarked (hload e he) hs
  have hlasts := (hchained.pairwise_iff (R := fun w u => Lasts w.state u.state)).mpr
    fun e he => event_lasts (hload e he)
  have hstep : ∀ e ∈ es, ∀ u : World, PriceRises u.state e.pre.state →
      (PriceRises u.state (after e).state ↔ ¬undercuts u.state e) :=
    fun e he u hu => event_price_iff (hload e he) hu
  have hprice := hchained.pairwise_iff_of_bad (R := fun w u => PriceRises w.state u.state) hstep
  have hrises : (states (World.fresh options highest) es).Pairwise
      (fun w u => Rises w.state u.state) ↔
        (states (World.fresh options highest) es).Pairwise
          fun w u => PriceRises w.state u.state := by
    constructor
    · intro h
      exact h.imp fun hr => hr.price
    · intro h
      exact h.imp₂ (fun _ _ hp hl => hl.rises hp) hlasts
  have hboots : (∀ e ∈ es, SameBootRises e.pre.state (after e).state) ↔
      ∀ e ∈ es, ¬rewinds e.pre.state e.act :=
    forall₂_congr fun e he => event_rises_iff (hload e he) (hmarked e he)
  rw [hrises, hboots]
  constructor
  · rintro ⟨hp, hr⟩
    obtain ⟨hown, hearlier⟩ := hprice.mp hp
    exact ⟨fun e he => ⟨hr e he, hown e he⟩, hearlier⟩
  · rintro ⟨hown, hearlier⟩
    exact ⟨hprice.mpr ⟨fun e he => (hown e he).2, hearlier⟩, fun e he => (hown e he).1⟩

section

def sampleLatency (generation : HealthGeneration) : LatencyEvidence where
  backendId := ⟨7⟩
  backendBoot := ⟨1⟩
  healthGeneration := generation

/-- Latency evidence of generation two, and then evidence that names no generation. -/
def latencyRewound : List (Choice Op Env) :=
  inTurn 5 sampleEnv 0
    (sampleCatalog ++
      [.mutation (.updateLatency (sampleLatency ⟨2⟩)), .mutation (.updateLatency (sampleLatency {}))])

theorem latencyRewound_loadFree : LoadFree (interleaved sampleOptions 100 latencyRewound) := by
  decide +kernel

theorem latencyRewound_rises_iff :
    ((states (World.fresh sampleOptions 100) (interleaved sampleOptions 100 latencyRewound)).Pairwise
        (fun w u => Rises w.state u.state) ∧
      ∀ e ∈ interleaved sampleOptions 100 latencyRewound,
        SameBootRises e.pre.state (after e).state) ↔
      (∀ e ∈ interleaved sampleOptions 100 latencyRewound,
        ¬rewinds e.pre.state e.act ∧ ¬undercuts e.pre.state e) ∧
      (interleaved sampleOptions 100 latencyRewound).Pairwise fun d e => ¬undercuts d.pre.state e :=
  interleaved_rises_iff sampleOptions 100 latencyRewound latencyRewound_loadFree

def latencyOf (w : World) : Option Nat :=
  (w.state.backends.find? ⟨7⟩).map fun b => generationOf b .latency

theorem latency_generation_decreases :
    ¬∀ (options : ModelRouterOptions) (highest : UInt64) (schedule : List (Choice Op Env)),
      LoadFree (interleaved options highest schedule) →
      (states (World.fresh options highest) (interleaved options highest schedule)).Pairwise
          (fun w u => Rises w.state u.state) ∧
        ∀ e ∈ interleaved options highest schedule, SameBootRises e.pre.state (after e).state := by
  intro h
  have hboots := (h sampleOptions 100 latencyRewound latencyRewound_loadFree).2
  have hfound : (interleaved sampleOptions 100 latencyRewound).any (fun e =>
      latencyOf e.pre == some 2 && latencyOf (after e) == some 0 &&
        ((e.pre.state.backends.find? ⟨7⟩).map BackendDescriptor.backendBoot ==
          ((after e).state.backends.find? ⟨7⟩).map BackendDescriptor.backendBoot)) = true := by
    decide +kernel
  obtain ⟨e, he, hbad⟩ := List.any_eq_true.mp hfound
  simp only [Bool.and_eq_true, beq_iff_eq] at hbad
  obtain ⟨⟨hbefore, hafter⟩, hboot⟩ := hbad
  obtain ⟨b, hb, htwo⟩ := Option.map_eq_some_iff.mp hbefore
  obtain ⟨b', hb', hzero⟩ := Option.map_eq_some_iff.mp hafter
  rw [hb, hb', Option.map_some, Option.map_some, Option.some.injEq] at hboot
  have hle := hboots e he ⟨7⟩ b b' hb hb' hboot.symm .latency
  omega

end

end ModelRouter.Generations
