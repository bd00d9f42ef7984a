import ModelRouter.MutationFacts

namespace ModelRouter.Acceptance

open Base Base.Refusal Bytes Ids Outcome Capability Evidence Catalog Persistence State
open CatalogMutation EvidenceMutation Mutations Effects MutationFacts

variable {m : Mutation} {now : UnixMillis} {s : CanonicalState} {key : FenceKey}

def Accepts (r : MutationResult) : Prop :=
  r.accepted = true

instance (r : MutationResult) : Decidable (Accepts r) :=
  inferInstanceAs (Decidable (r.accepted = true))

theorem not_accepts_make {code : OutcomeCode} {subject message : Text}
    (h : code.isAcceptance = false) : ¬Accepts (.make code subject message) := by
  simp [Accepts, MutationResult.accepted, h]

theorem answers_of_accepted (h : Accepts (m.result now s)) :
    Answers Accepts (m.attempt now s).refusal := by
  intro r hr
  rwa [(next_of_refused hr).2] at h

def names : Mutation → Option FenceKey
  | .registerBackend backend => some (fenceKey backend)
  | .publishCapabilities publication => some ⟨publication.backendId, publication.backendBoot⟩
  | .updateHealth evidence => some ⟨evidence.backendId, evidence.backendBoot⟩
  | .updateAvailability evidence => some ⟨evidence.backendId, evidence.backendBoot⟩
  | .updateReadiness evidence => some ⟨evidence.backendId, evidence.backendBoot⟩
  | .updateResidency evidence => some ⟨evidence.backendId, evidence.backendBoot⟩
  | .updateCapacity evidence _ => some ⟨evidence.backendId, evidence.backendBoot⟩
  | .updateLatency evidence => some ⟨evidence.backendId, evidence.backendBoot⟩
  | _ => none

def bootOf (s : CanonicalState) (id : BackendId) : Option BackendBootId :=
  (s.backends.find? id).map BackendDescriptor.backendBoot

def Speaks (s : CanonicalState) (key : FenceKey) : Prop :=
  s.fencedBoots.contains key = false ∧ bootOf s key.backendId = some key.backendBoot

theorem registerBackend_answers {raw : BackendDescriptor}
    (h : Answers Accepts (registerBackend s raw).refusal) :
    (registerBackend s raw).refusal = none := by
  obtain ⟨h₁, h⟩ := Answers.check h fun _ => not_accepts_make rfl
  obtain ⟨h₂, h⟩ := Answers.guard h (not_accepts_make rfl)
  obtain ⟨h₃, h⟩ := Answers.guard h (not_accepts_make rfl)
  obtain ⟨h₄, h⟩ := Answers.guard h (not_accepts_make rfl)
  obtain ⟨h₅, h⟩ := Answers.guard h (not_accepts_make rfl)
  have h₆ := Answers.refuse_eq h (not_accepts_make rfl)
  simp only [registerBackend, chain_eq_none, refuse_eq_none, shuttingDownRefusal]
  exact ⟨by simpa using h₁, h₂, h₃, h₄, h₅, h₆⟩

theorem publishCapabilities_answers {publication : BackendCapabilityPublication}
    (h : Answers Accepts (publishCapabilities s publication).refusal) :
    Speaks s ⟨publication.backendId, publication.backendBoot⟩ := by
  obtain ⟨-, h⟩ := Answers.guard h (not_accepts_make rfl)
  obtain ⟨-, h⟩ := Answers.guard h (not_accepts_make rfl)
  obtain ⟨-, h⟩ := Answers.guard h (not_accepts_make rfl)
  obtain ⟨hfenced, h⟩ := Answers.guard h (not_accepts_make rfl)
  refine ⟨hfenced, ?_⟩
  cases hb : s.backends.find? publication.backendId with
  | none =>
      rw [hb] at h
      exact absurd (h _ rfl) (not_accepts_make rfl)
  | some backend =>
      rw [hb] at h
      obtain ⟨hboot, -⟩ := Answers.guard h (not_accepts_make rfl)
      simpa [bootOf, hb] using hboot

section

variable {σ : Type} {t : Tag} [DecidableEq σ] {slot : EvidenceSlot σ t}

theorem applyEvidence_answers {evidence : BackendEvidence σ t}
    (h : Answers Accepts (applyEvidence slot s evidence).refusal) :
    Speaks s ⟨evidence.backendId, evidence.backendBoot⟩ := by
  obtain ⟨-, h⟩ := Answers.guard h (not_accepts_make rfl)
  obtain ⟨-, h⟩ := Answers.guard h (not_accepts_make rfl)
  obtain ⟨-, h⟩ := Answers.guard h (not_accepts_make rfl)
  obtain ⟨hfenced, h⟩ := Answers.guard h (not_accepts_make rfl)
  refine ⟨hfenced, ?_⟩
  cases hb : s.backends.find? evidence.backendId with
  | none =>
      rw [hb] at h
      exact absurd (h _ rfl) (not_accepts_make rfl)
  | some backend =>
      rw [hb] at h
      obtain ⟨hboot, -⟩ := Answers.guard h (not_accepts_make rfl)
      simpa [bootOf, hb] using hboot

end

theorem updateLatency_answers {evidence : LatencyEvidence}
    (h : Answers Accepts (updateLatency s evidence).refusal) :
    Speaks s ⟨evidence.backendId, evidence.backendBoot⟩ := by
  obtain ⟨-, h⟩ := Answers.guard h (not_accepts_make rfl)
  obtain ⟨-, h⟩ := Answers.guard h (not_accepts_make rfl)
  obtain ⟨hfenced, h⟩ := Answers.guard h (not_accepts_make rfl)
  refine ⟨hfenced, ?_⟩
  cases hb : s.backends.find? evidence.backendId with
  | none =>
      rw [hb] at h
      exact absurd (h _ rfl) (not_accepts_make rfl)
  | some backend =>
      rw [hb] at h
      obtain ⟨hboot, -⟩ := Answers.guard h (not_accepts_make rfl)
      simpa [bootOf, hb] using hboot

def registers : Mutation → Bool
  | .registerBackend _ => true
  | _ => false

/-- An accepted registration was taken, and any other accepted call that names an incarnation
found it registered and not fenced. -/
theorem accepted_names (hn : names m = some key) (ha : Accepts (m.result now s)) :
    if registers m then s.fencedBoots.contains key = false ∧ (m.attempt now s).refusal = none
    else Speaks s key := by
  have h := answers_of_accepted ha
  cases m with
  | registerBackend backend =>
      obtain rfl := Option.some.inj hn
      have hnone := registerBackend_answers h
      have hfenced : s.isFenced backend.backendId backend.backendBoot = false := by
        simp only [registerBackend, chain_eq_none, refuse_eq_none] at hnone
        exact hnone.2.2.1
      exact ⟨hfenced, hnone⟩
  | publishCapabilities publication => exact Option.some.inj hn ▸ publishCapabilities_answers h
  | updateHealth evidence => exact Option.some.inj hn ▸ applyEvidence_answers h
  | updateAvailability evidence => exact Option.some.inj hn ▸ applyEvidence_answers h
  | updateReadiness evidence => exact Option.some.inj hn ▸ applyEvidence_answers h
  | updateResidency evidence => exact Option.some.inj hn ▸ applyEvidence_answers h
  | updateCapacity evidence detail =>
      obtain ⟨-, h⟩ := Answers.guard h (not_accepts_make rfl)
      obtain ⟨-, h⟩ := Answers.guard h (not_accepts_make rfl)
      exact Option.some.inj hn ▸ applyEvidence_answers h
  | updateLatency evidence => exact Option.some.inj hn ▸ updateLatency_answers h
  | _ => cases hn

theorem not_fenced_of_accepted (hn : names m = some key) (ha : Accepts (m.result now s)) :
    s.fencedBoots.contains key = false := by
  have h := accepted_names hn ha
  split at h
  · exact h.1
  · exact h.1

end ModelRouter.Acceptance
