import ModelRouter.Coherence
import ModelRouter.Courses
import ModelRouter.Verdicts

namespace ModelRouter.Bindings

open Base Bytes Ids Outcome Capability Evidence Catalog Candidate Authority Request Policy
open Eligibility Decision State Mutations Commit Providers Section Pass Route Router Run Coherence
open Repertoire Courses Verdicts

/-- Every generation and incarnation that an authority binds is the one of the evidence the
winner's verdict and factors were computed from. -/
structure Faithful (a : RouteAuthority) (b : Basis) : Prop where
  model : a.modelGeneration = b.assessment.candidate.model.modelGeneration
  artifact : a.artifactGeneration = b.assessment.candidate.model.artifactGeneration
  backend : a.backendGeneration = b.assessment.candidate.backend.backendGeneration
  boot : a.backendBoot = b.assessment.candidate.backend.backendBoot
  endpoint : a.endpointGeneration = b.assessment.candidate.endpoint.endpointGeneration
  registration : a.backendRegistrationGeneration =
    b.assessment.candidate.backend.backendRegistrationGeneration
  provider : a.providerGeneration = b.assessment.candidate.backend.providerGeneration
  capability : a.capabilityGeneration = b.assessment.candidate.backend.capabilityGeneration
  trust : a.trustGeneration = b.assessment.candidate.backend.trustGeneration
  health : a.healthGeneration = b.assessment.candidate.backend.health.generation
  availability : a.availabilityGeneration = b.assessment.candidate.backend.availability.generation
  readiness : a.readinessGeneration = b.assessment.candidate.backend.readiness.generation
  residency : a.residencyGeneration = b.assessment.candidate.backend.residency.generation
  capacity : a.capacityGeneration = b.assessment.candidate.backend.capacity.generation
  compatibility : a.compatibilityGeneration = b.assessment.evidence.compatibility.generation
  policy : a.policyGeneration = b.governing.policy.generation
  budget : a.budgetGeneration.valid = true → a.budgetGeneration = b.governing.budget.generation
  price : a.priceGeneration = b.assessment.evidence.cost.priceGeneration
  slo : a.sloGeneration = b.assessment.evidence.slo.generation
  reservation : a.reservationGeneration =
    if b.assessment.evidence.reservationPresent then b.assessment.evidence.reservation.generation
    else {}

def held (c : Course) : BackendDescriptor :=
  (c.bound.state.backends.find? c.winner.key.backendId).getD {}

/-- What was read for the winner to judge it is there again, under the same generations, when its
authority is bound. -/
structure Undisturbed (c : Course) : Prop where
  registration : (held c).backendRegistrationGeneration =
    c.assessment.candidate.backend.backendRegistrationGeneration
  provider : (held c).providerGeneration = c.assessment.candidate.backend.providerGeneration
  capability : (held c).capabilityGeneration = c.assessment.candidate.backend.capabilityGeneration
  trust : (held c).trustGeneration = c.assessment.candidate.backend.trustGeneration
  health : (held c).health.generation = c.assessment.candidate.backend.health.generation
  availability : (held c).availability.generation = c.assessment.candidate.backend.availability.generation
  readiness : (held c).readiness.generation = c.assessment.candidate.backend.readiness.generation
  residency : (held c).residency.generation = c.assessment.candidate.backend.residency.generation
  capacity : (held c).capacity.generation = c.assessment.candidate.backend.capacity.generation
  compatibility :
    (held c).compatibilityGeneration = c.assessment.evidence.compatibility.generation
  price : c.evidence.cost.priceGeneration = c.assessment.evidence.cost.priceGeneration
  slo : c.governing.slo.generation = c.assessment.evidence.slo.generation
  reservation :
    (if c.evidence.reservationPresent then c.evidence.reservation.generation else {}) =
      if c.assessment.evidence.reservationPresent then
        c.assessment.evidence.reservation.generation
      else {}

theorem described_eq (c : Course) :
    c.described = bindDescriptor
      (bindWinner c.snapshot.context c.snapshot.context.routerId c.request c.winner.key)
        (held c) := by
  rw [Course.described, held]
  cases c.bound.state.backends.find? c.winner.key.backendId with
  | some backend => rfl
  | none => rfl

variable {E : Env → Prop} {options : ModelRouterOptions} {raw : RouteRequest}

theorem faithful_iff {met : World → Prop} {c : Course} (h : Taken E options raw met c)
    (id : RouteDecisionId) : Faithful (nameDecision c.authority id) c.basis ↔ Undisturbed c := by
  obtain ⟨evidence, -, hassess⟩ := h.chosen.assessment.2
  obtain ⟨hassessment, hnone⟩ := assess_ok hassess
  have hidentified : Identified c.assessment.candidate := by
    rw [hassessment]
    exact eligible_identified hnone
  have hkey : c.assessment.candidate.key = c.winner.key :=
    (assess_key hassess).2.trans h.chosen.candidate.2
  have hauthority : c.authority = bindResolved
      (bindGoverning (bindDescriptor
        (bindWinner c.snapshot.context c.snapshot.context.routerId c.request c.winner.key) (held c))
        c.request c.governing.policy c.governing.budget c.governing.slo) c.evidence := by
    rw [Course.authority, described_eq]
  rw [hauthority]
  constructor
  · intro hf
    exact ⟨hf.registration, hf.provider, hf.capability, hf.trust, hf.health, hf.availability,
      hf.readiness, hf.residency, hf.capacity, hf.compatibility, hf.price, hf.slo, hf.reservation⟩
  · intro hu
    have hbudget (hvalid : (if c.request.budgetId.valid then c.governing.budget.generation
        else ({} : BudgetGeneration)).valid = true) :
        (if c.request.budgetId.valid then c.governing.budget.generation else {}) =
          c.governing.budget.generation := by
      by_cases hnamed : c.request.budgetId.valid = true
      · rw [if_pos hnamed]
      · rw [if_neg hnamed] at hvalid
        cases hvalid
    obtain ⟨hmodel, hartifact, hbackend, hboot, hendpoint⟩ := hidentified
    rw [hkey] at hmodel hartifact hbackend hboot hendpoint
    exact
      { model := hmodel.symm
        artifact := hartifact.symm
        backend := hbackend.symm
        boot := hboot.symm
        endpoint := hendpoint.symm
        registration := hu.registration
        provider := hu.provider
        capability := hu.capability
        trust := hu.trust
        health := hu.health
        availability := hu.availability
        readiness := hu.readiness
        residency := hu.residency
        capacity := hu.capacity
        compatibility := hu.compatibility
        policy := rfl
        budget := hbudget
        price := hu.price
        slo := hu.slo
        reservation := hu.reservation }

theorem reply_authority {draft : CommitDraft} {w : World}
    (h : (commitSection draft w).2.refusal = none) :
    (commitSection draft w).2.decision.authority = nameDecision draft.decision.authority ⟨w.nextId⟩ := by
  rw [commitSection] at h ⊢
  split
  · rename_i reason hrefusal
    rw [hrefusal] at h
    cases h
  · exact (boundDecision_parts _ _ _).1

/-- What a routing pass commits is bound to the evidence its winner was judged by exactly when
nothing of it was disturbed before the binding section. -/
theorem committed_faithful_iff {R : World → World → Prop} {s t : World} {es : Trace}
    {outcome : RouteOutcome} {basis : Basis}
    (h : Executes E R (routePass options raw) s es (outcome, some basis) t) :
    ∃ (c : Course) (before : Trace), Taken E options raw (fun w => ⟨.observe, w⟩ ∈ before) c ∧
      es = before ++ [⟨.observe, c.bound⟩, ⟨.commit c.draft, c.found⟩] ∧ basis = c.basis ∧
      (Faithful outcome.decision.authority basis ↔ Undisturbed c) := by
  generalize hresult : (outcome, some basis) = result at h
  cases routePass_ending h with
  | stopped _ hnone _ =>
      rw [← hresult] at hnone
      cases hnone
  | @committed before c hearly htaken =>
      refine ⟨c, before, htaken, rfl, ?_⟩
      rw [Course.result] at hresult
      split at hresult
      · cases hresult
      · rename_i hcommits
        obtain ⟨rfl, hbasis⟩ := Prod.mk.inj hresult
        obtain rfl := Option.some.inj hbasis
        refine ⟨rfl, ?_⟩
        change Faithful (commitSection c.draft c.found).2.decision.authority c.basis ↔ _
        rw [reply_authority hcommits]
        exact faithful_iff htaken _

section

/-- Whole mutating operations of other callers, one after another. -/
def Meanwhile (options : ModelRouterOptions) (env : Env) : World → World → Prop :=
  Relation.ReflTransGen fun a b => ∃ m ds reply,
    Executes (· = env) Eq (Op.program options (.mutation m)) a ds reply b

def turnsUnhealthy (w : World) : World :=
  (Program.run Act.apply sampleEnv []
    (Op.program sampleOptions (.mutation (.updateHealth (sampleEvidence .unhealthy ⟨2⟩)))) w).2.2

theorem turnsUnhealthy_meanwhile (w : World) :
    Meanwhile sampleOptions sampleEnv w (turnsUnhealthy w) :=
  .single ⟨_, _, _, Program.run_exec Act.apply sampleEnv _ _ (fun _ => rfl) (by simp)⟩

def healthyRequest : RouteRequest :=
  { sampleRequest with
    requirements := { sampleRequest.requirements with requireHealthy := true } }

/-- A pass whose winner turns unhealthy after it was judged and before its authority is bound. -/
def disturbed : Trace × (RouteOutcome × Option Basis) × World :=
  Program.run Act.apply sampleEnv [id, id, turnsUnhealthy] (routePass sampleOptions healthyRequest)
    (play sampleOptions sampleEnv liveCatalog).2.2

theorem disturbed_executes : ∃ basis, disturbed.2.1.2 = some basis ∧
    Executes (· = sampleEnv) (Meanwhile sampleOptions sampleEnv)
      (routePass sampleOptions healthyRequest) (play sampleOptions sampleEnv liveCatalog).2.2
      disturbed.1 (disturbed.2.1.1, some basis) disturbed.2.2 := by
  have hsome : disturbed.2.1.2.isSome = true := by decide +kernel
  obtain ⟨basis, hbasis⟩ := Option.isSome_iff_exists.mp hsome
  refine ⟨basis, hbasis, ?_⟩
  rw [← hbasis]
  refine Program.run_exec Act.apply sampleEnv _ _ (fun _ => .refl) fun g hg w => ?_
  simp only [List.mem_cons, List.not_mem_nil, or_false] at hg
  rcases hg with rfl | rfl | rfl
  · exact .refl
  · exact .refl
  · exact turnsUnhealthy_meanwhile w

theorem disturbed_faithful_iff :
    ∃ (basis : Basis) (c : Course), disturbed.2.1.2 = some basis ∧
      (Faithful disturbed.2.1.1.decision.authority basis ↔ Undisturbed c) := by
  obtain ⟨basis, hbasis, hexecutes⟩ := disturbed_executes
  obtain ⟨c, -, -, -, -, hiff⟩ := committed_faithful_iff hexecutes
  exact ⟨basis, c, hbasis, hiff⟩

/-- A current decision binds the newer generation of a fact its winner was judged by before. -/
theorem disturbed_unfaithful :
    ¬∀ (options : ModelRouterOptions) (env : Env) (highest : UInt64) (before es : Trace)
        (calls : List (Op × Reply)) (s t : World) (raw : RouteRequest) (outcome : RouteOutcome)
        (basis : Basis),
      History options (constantly env) highest before calls s →
      Executes (· = env) (Meanwhile options env) (routePass options raw) s es
        (outcome, some basis) t →
      outcome.decision.status = .current → Faithful outcome.decision.authority basis := by
  intro h
  obtain ⟨basis, hbasis, hexecutes⟩ := disturbed_executes
  have hcurrent : disturbed.2.1.1.decision.status = .current := by decide +kernel
  have hfaithful := h sampleOptions sampleEnv 100 _ _ _ _ _ healthyRequest _ basis
    (play_history sampleOptions sampleEnv liveCatalog) hexecutes hcurrent
  have hbound : disturbed.2.1.1.decision.authority.healthGeneration = ⟨2⟩ := by decide +kernel
  have hjudged : disturbed.2.1.2.map (fun b => b.assessment.candidate.backend.health.generation) =
      some ⟨1⟩ := by decide +kernel
  rw [hbasis] at hjudged
  cases (hbound.symm.trans hfaithful.health).trans (Option.some.inj hjudged)

end

end ModelRouter.Bindings
