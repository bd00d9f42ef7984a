import Mathlib
import ModelRouter.Authority
import ModelRouter.Sorting

namespace ModelRouter.Comparison

open Ids Authority Bytes Sorting

/-- The identities and generations that an authority binds. -/
inductive AuthorityField where
  | routerId | routerEpoch | coordinatorEpoch | requestId | requestGeneration | decisionId
  | decisionGeneration | modelId | modelGeneration | artifactGeneration | providerId
  | providerGeneration | backendId | backendGeneration | backendBoot
  | backendRegistrationGeneration | endpointId | endpointGeneration | capabilityProfileId
  | capabilityGeneration | policyId | policyGeneration | budgetId | budgetGeneration
  | costEvidenceId | priceGeneration | sloId | sloGeneration | compatibilityProfileId
  | compatibilityGeneration | trustProfileId | trustGeneration | healthGeneration
  | availabilityGeneration | readinessGeneration | residencyGeneration | capacityGeneration
  | reservationId | reservationGeneration | tenant | nameSpace | dispatchGeneration
deriving DecidableEq, Repr

namespace AuthorityField

def all : List AuthorityField :=
  [routerId, routerEpoch, coordinatorEpoch, requestId, requestGeneration, decisionId,
    decisionGeneration, modelId, modelGeneration, artifactGeneration, providerId,
    providerGeneration, backendId, backendGeneration, backendRegistrationGeneration,
    backendBoot, endpointId, endpointGeneration, capabilityProfileId,
    capabilityGeneration, policyId, policyGeneration, budgetId, budgetGeneration,
    costEvidenceId, priceGeneration, sloId, sloGeneration, compatibilityProfileId,
    compatibilityGeneration, trustProfileId, trustGeneration, healthGeneration,
    availabilityGeneration, readinessGeneration, residencyGeneration, capacityGeneration,
    reservationId, reservationGeneration, tenant, nameSpace, dispatchGeneration]

def value (a : RouteAuthority) : AuthorityField → UInt64
  | routerId => a.routerId.value
  | routerEpoch => a.routerEpoch.value
  | coordinatorEpoch => a.coordinatorEpoch.value
  | requestId => a.requestId.value
  | requestGeneration => a.requestGeneration.value
  | decisionId => a.decisionId.value
  | decisionGeneration => a.decisionGeneration.value
  | modelId => a.modelId.value
  | modelGeneration => a.modelGeneration.value
  | artifactGeneration => a.artifactGeneration.value
  | providerId => a.providerId.value
  | providerGeneration => a.providerGeneration.value
  | backendId => a.backendId.value
  | backendGeneration => a.backendGeneration.value
  | backendBoot => a.backendBoot.value
  | backendRegistrationGeneration => a.backendRegistrationGeneration.value
  | endpointId => a.endpointId.value
  | endpointGeneration => a.endpointGeneration.value
  | capabilityProfileId => a.capabilityProfileId.value
  | capabilityGeneration => a.capabilityGeneration.value
  | policyId => a.policyId.value
  | policyGeneration => a.policyGeneration.value
  | budgetId => a.budgetId.value
  | budgetGeneration => a.budgetGeneration.value
  | costEvidenceId => a.costEvidenceId.value
  | priceGeneration => a.priceGeneration.value
  | sloId => a.sloId.value
  | sloGeneration => a.sloGeneration.value
  | compatibilityProfileId => a.compatibilityProfileId.value
  | compatibilityGeneration => a.compatibilityGeneration.value
  | trustProfileId => a.trustProfileId.value
  | trustGeneration => a.trustGeneration.value
  | healthGeneration => a.healthGeneration.value
  | availabilityGeneration => a.availabilityGeneration.value
  | readinessGeneration => a.readinessGeneration.value
  | residencyGeneration => a.residencyGeneration.value
  | capacityGeneration => a.capacityGeneration.value
  | reservationId => a.reservationId.value
  | reservationGeneration => a.reservationGeneration.value
  | tenant => a.tenant.value
  | nameSpace => a.nameSpace.value
  | dispatchGeneration => a.dispatchGeneration.value

def component : AuthorityField → Option AuthorityComponent
  | routerId | decisionId | decisionGeneration => none
  | routerEpoch => some .routerEpoch
  | coordinatorEpoch => some .coordinatorEpoch
  | requestId | requestGeneration => some .request
  | modelId | modelGeneration => some .model
  | artifactGeneration => some .artifact
  | providerId | providerGeneration => some .provider
  | backendId | backendGeneration | backendRegistrationGeneration => some .backend
  | backendBoot => some .backendBoot
  | endpointId | endpointGeneration => some .endpoint
  | capabilityProfileId | capabilityGeneration => some .capability
  | policyId | policyGeneration => some .policy
  | budgetId | budgetGeneration => some .budget
  | costEvidenceId | priceGeneration => some .price
  | sloId | sloGeneration => some .slo
  | compatibilityProfileId | compatibilityGeneration => some .compatibility
  | trustProfileId | trustGeneration => some .trust
  | healthGeneration => some .health
  | availabilityGeneration => some .availability
  | readinessGeneration => some .readiness
  | residencyGeneration => some .residency
  | capacityGeneration => some .capacity
  | reservationId | reservationGeneration => some .reservation
  | tenant | nameSpace => some .tenancy
  | dispatchGeneration => some .dispatch

theorem mem_all (f : AuthorityField) : f ∈ all := by
  cases f <;> decide

end AuthorityField

variable {bound current : RouteAuthority} {required : AuthorityMask}

def Differs (bound current : RouteAuthority) (required : AuthorityMask) (f : AuthorityField)
    (c : AuthorityComponent) : Prop :=
  f.component = some c ∧ required.contains c = true ∧ f.value bound ≠ f.value current

def difference (bound current : RouteAuthority) (required : AuthorityMask) (f : AuthorityField) :
    Option AuthorityDifference :=
  f.component.bind fun c =>
    if required.contains c && f.value bound != f.value current then
      some ⟨c, f.value bound, f.value current, c.staleCode⟩
    else none

theorem difference_eq_some {f : AuthorityField} {d : AuthorityDifference} :
    difference bound current required f = some d ↔
      ∃ c, Differs bound current required f c ∧
        d = ⟨c, f.value bound, f.value current, c.staleCode⟩ := by
  cases hc : f.component with
  | none => simp [difference, Differs, hc]
  | some c =>
      simp only [difference, Differs, hc, Option.bind_some, Option.ite_none_right_eq_some,
        Bool.and_eq_true, bne_iff_ne, ne_eq, Option.some.injEq]
      constructor
      · rintro ⟨hdiffers, rfl⟩
        exact ⟨c, ⟨rfl, hdiffers⟩, rfl⟩
      · rintro ⟨c', ⟨rfl, hdiffers⟩, rfl⟩
        exact ⟨hdiffers, rfl⟩

theorem recorded_eq :
    (bound.fields.zip current.fields).filterMap (recordDifference required) =
      AuthorityField.all.filterMap (difference bound current required) := by
  have hfields (a : RouteAuthority) : a.fields =
      AuthorityField.all.filterMap fun f => f.component.map fun c => (c, f.value a) := rfl
  have hzip : bound.fields.zip current.fields = AuthorityField.all.filterMap fun f =>
      f.component.map fun c => ((c, f.value bound), (c, f.value current)) := rfl
  rw [hzip, List.filterMap_filterMap]
  refine List.filterMap_congr fun f _ => ?_
  rw [difference, Option.bind_map]
  rfl

theorem differences_perm :
    (compareAuthority bound current required).differences.Perm
      (AuthorityField.all.filterMap (difference bound current required)) := by
  rw [← recorded_eq]
  exact stableSort_perm _ _

theorem mem_differences_iff {d : AuthorityDifference} :
    d ∈ (compareAuthority bound current required).differences ↔
      ∃ f c, Differs bound current required f c ∧
        d = ⟨c, f.value bound, f.value current, c.staleCode⟩ := by
  rw [differences_perm.mem_iff, List.mem_filterMap]
  constructor
  · rintro ⟨f, -, hd⟩
    exact ⟨f, difference_eq_some.mp hd⟩
  · rintro ⟨f, hd⟩
    exact ⟨f, f.mem_all, difference_eq_some.mpr hd⟩

theorem bit_lt_iff (c d : AuthorityComponent) : c.bit < d.bit ↔ c.ctorIdx < d.ctorIdx := by
  cases c <;> cases d <;> decide

theorem component_injective : Function.Injective AuthorityComponent.ctorIdx := by
  intro c d h
  have hc := AuthorityComponent.ofNat_ctorIdx c
  rw [h, AuthorityComponent.ofNat_ctorIdx] at hc
  exact hc.symm

def differenceKey (d : AuthorityDifference) : ℕ ×ₗ ℕ ×ₗ ℕ :=
  toLex (d.component.ctorIdx, toLex (d.bound.toNat, d.current.toNat))

theorem canonicalLess_iff (a b : AuthorityDifference) :
    AuthorityDifference.canonicalLess a b = true ↔ differenceKey a < differenceKey b := by
  simp only [AuthorityDifference.canonicalLess, differenceKey, Prod.Lex.toLex_lt_toLex,
    component_injective.eq_iff, UInt64.toNat_inj, ← UInt64.lt_iff_toNat_lt]
  by_cases hcomponent : a.component = b.component
  · by_cases hbound : a.bound = b.bound
    · simp [hcomponent, hbound]
    · simp [hcomponent, hbound]
  · simp [hcomponent, bit_lt_iff]

theorem differences_sorted :
    (compareAuthority bound current required).differences.Pairwise fun a b =>
      differenceKey a ≤ differenceKey b :=
  stableSort_sorted canonicalLess_iff _

theorem code_of_lowest {f : AuthorityField} {c : AuthorityComponent}
    (hdiffers : Differs bound current required f c)
    (hlowest : ∀ g d, Differs bound current required g d → c.ctorIdx ≤ d.ctorIdx) :
    (compareAuthority bound current required).code = c.staleCode := by
  have hmem : ⟨c, f.value bound, f.value current, c.staleCode⟩ ∈
      (compareAuthority bound current required).differences :=
    mem_differences_iff.mpr ⟨f, c, hdiffers, rfl⟩
  have hsorted := @differences_sorted bound current required
  change (((compareAuthority bound current required).differences.head?.map
    AuthorityDifference.code).getD .accepted) = c.staleCode
  cases hlist : (compareAuthority bound current required).differences with
  | nil =>
      rw [hlist] at hmem
      cases hmem
  | cons first rest =>
      have hfirst : first ∈ (compareAuthority bound current required).differences := by
        rw [hlist]
        exact List.mem_cons_self
      obtain ⟨g, d, hd, rfl⟩ := mem_differences_iff.mp hfirst
      have hle : d.ctorIdx ≤ c.ctorIdx := by
        rw [hlist] at hmem hsorted
        rcases List.mem_cons.mp hmem with heq | hrest
        · exact le_of_eq (congrArg (fun x => x.component.ctorIdx) heq.symm)
        · have hkeys := (List.pairwise_cons.mp hsorted).1 _ hrest
          exact Prod.Lex.monotone_fst _ _ hkeys
      have hsame : d = c := component_injective (le_antisymm hle (hlowest g d hd))
      rw [hsame]
      rfl

/-- A comparison under a mask looks at every identity and generation of the masked components: it
is current exactly when they all agree, and reports each that does not once, in canonical order,
under the code of the first component that differs. -/
theorem compareAuthority_complete (bound current : RouteAuthority) (required : AuthorityMask) :
    let comparison := compareAuthority bound current required
    (comparison.code = .accepted ∧ comparison.differences = [] ↔
        ∀ f : AuthorityField, ∀ c, f.component = some c → required.contains c = true →
          f.value bound = f.value current) ∧
      comparison.differences.Perm
        (AuthorityField.all.filterMap (difference bound current required)) ∧
      (comparison.differences.Pairwise fun a b =>
        AuthorityDifference.canonicalLess b a = false) ∧
      ∀ f c, Differs bound current required f c →
        (∀ g d, Differs bound current required g d → c.ctorIdx ≤ d.ctorIdx) →
          comparison.code = c.staleCode := by
  refine ⟨?_, differences_perm, ?_, fun f c => code_of_lowest⟩
  · rw [compareAuthority_code, and_self, List.eq_nil_iff_forall_not_mem]
    constructor
    · intro h f c hc hmasked
      by_contra hne
      exact h _ (mem_differences_iff.mpr ⟨f, c, ⟨hc, hmasked, hne⟩, rfl⟩)
    · intro h d hd
      obtain ⟨f, c, ⟨hc, hmasked, hne⟩, -⟩ := mem_differences_iff.mp hd
      exact hne (h f c hc hmasked)
  · refine differences_sorted.imp fun {a b} hle => ?_
    rw [Bool.eq_false_iff, ne_eq, canonicalLess_iff]
    exact hle.not_gt

end ModelRouter.Comparison
