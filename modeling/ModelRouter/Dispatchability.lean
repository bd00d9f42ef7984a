import ModelRouter.MutationFacts

namespace ModelRouter.Dispatchability

open Base Bytes Ids Outcome Capability Evidence Catalog Authority Persistence State Effects
open MutationFacts

/-- Every component the bound authority requires is the observed one. -/
structure Agrees (a b : RouteAuthority) : Prop where
  epochs : (a.routerEpoch, a.coordinatorEpoch) = (b.routerEpoch, b.coordinatorEpoch)
  request : (a.requestId, a.requestGeneration) = (b.requestId, b.requestGeneration)
  model : (a.modelId, a.modelGeneration, a.artifactGeneration) =
    (b.modelId, b.modelGeneration, b.artifactGeneration)
  backend : (a.backendId, a.backendGeneration, a.backendRegistrationGeneration, a.backendBoot) =
    (b.backendId, b.backendGeneration, b.backendRegistrationGeneration, b.backendBoot)
  endpoint : (a.endpointId, a.endpointGeneration) = (b.endpointId, b.endpointGeneration)
  capability : (a.capabilityProfileId, a.capabilityGeneration) =
    (b.capabilityProfileId, b.capabilityGeneration)
  policy : (a.policyId, a.policyGeneration) = (b.policyId, b.policyGeneration)
  trust : (a.trustProfileId, a.trustGeneration) = (b.trustProfileId, b.trustGeneration)
  dynamic : (a.healthGeneration, a.availabilityGeneration, a.readinessGeneration) =
    (b.healthGeneration, b.availabilityGeneration, b.readinessGeneration)
  tenancy : (a.tenant, a.nameSpace) = (b.tenant, b.nameSpace)
  provider : a.providerId.valid = true ∨ a.providerGeneration.valid = true →
    (a.providerId, a.providerGeneration) = (b.providerId, b.providerGeneration)
  budget : a.budgetGeneration.valid = true →
    (a.budgetId, a.budgetGeneration) = (b.budgetId, b.budgetGeneration)
  price : a.priceGeneration.valid = true →
    (a.costEvidenceId, a.priceGeneration) = (b.costEvidenceId, b.priceGeneration)
  slo : a.sloGeneration.valid = true → (a.sloId, a.sloGeneration) = (b.sloId, b.sloGeneration)
  compatibility : a.compatibilityGeneration.valid = true →
    (a.compatibilityProfileId, a.compatibilityGeneration) =
      (b.compatibilityProfileId, b.compatibilityGeneration)
  residency : a.residencyGeneration.valid = true → a.residencyGeneration = b.residencyGeneration
  capacity : a.capacityGeneration.valid = true → a.capacityGeneration = b.capacityGeneration
  reservation : a.reservationId.valid = true ∨ a.reservationGeneration.valid = true →
    (a.reservationId, a.reservationGeneration) = (b.reservationId, b.reservationGeneration)
  dispatch : a.dispatchGeneration.valid = true → a.dispatchGeneration = b.dispatchGeneration

theorem entityId_value {t : Tag} {i j : EntityId t} : i.value = j.value ↔ i = j := by
  cases i
  cases j
  simp

theorem generation_value {t : Tag} {g h : Generation t} : g.value = h.value ↔ g = h := by
  cases g
  cases h
  simp

theorem compareAuthority_agrees {a b : RouteAuthority} :
    (compareAuthority a b a.requiredMask).code = .accepted ↔ Agrees a b := by
  rw [compareAuthority_accepted_iff]
  simp only [RouteAuthority.fields, List.zip_cons_cons, List.zip_nil_right, List.forall_mem_cons,
    RouteAuthority.requiredMask, AuthorityMask.contains_addIf, AuthorityMask.contains_add,
    AuthorityMask.contains_empty, reduceCtorEq, decide_false, decide_true, Bool.and_false,
    Bool.and_true, Bool.or_false, forall_const, entityId_value, generation_value,
    List.not_mem_nil, false_imp_iff, implies_true, and_true, Bool.or_eq_true, or_true,
    false_or, or_false, Bool.false_eq_true]
  constructor
  · rintro ⟨hrouter, hcoordinator, hrequest, hrequestGen, hmodel, hmodelGen, hartifact, hprovider,
      hproviderGen, hbackend, hbackendGen, hregistration, hboot, hendpoint, hendpointGen, hprofile,
      hcapability, hpolicy, hpolicyGen, hbudget, hbudgetGen, hcost, hprice, hslo, hsloGen, hcompat,
      hcompatGen, htrust, htrustGen, hhealth, havailability, hreadiness, hresidency, hcapacity,
      hreservation, hreservationGen, htenant, hname, hdispatch⟩
    exact
      { epochs := by rw [hrouter, hcoordinator]
        request := by rw [hrequest, hrequestGen]
        model := by rw [hmodel, hmodelGen, hartifact]
        backend := by rw [hbackend, hbackendGen, hregistration, hboot]
        endpoint := by rw [hendpoint, hendpointGen]
        capability := by rw [hprofile, hcapability]
        policy := by rw [hpolicy, hpolicyGen]
        trust := by rw [htrust, htrustGen]
        dynamic := by rw [hhealth, havailability, hreadiness]
        tenancy := by rw [htenant, hname]
        provider := fun h => Prod.ext (hprovider h) (hproviderGen h)
        budget := fun h => Prod.ext (hbudget h) (hbudgetGen h)
        price := fun h => Prod.ext (hcost h) (hprice h)
        slo := fun h => Prod.ext (hslo h) (hsloGen h)
        compatibility := fun h => Prod.ext (hcompat h) (hcompatGen h)
        residency := hresidency
        capacity := hcapacity
        reservation := fun h => Prod.ext (hreservation h) (hreservationGen h)
        dispatch := hdispatch }
  · rintro ⟨hepochs, hrequest, hmodel, hbackend, hendpoint, hcapability, hpolicy, htrust, hdynamic,
      htenancy, hprovider, hbudget, hprice, hslo, hcompatibility, hresidency, hcapacity,
      hreservation, hdispatch⟩
    simp only [Prod.mk.injEq] at *
    exact ⟨hepochs.1, hepochs.2, hrequest.1, hrequest.2, hmodel.1, hmodel.2.1, hmodel.2.2,
      fun h => (hprovider h).1, fun h => (hprovider h).2, hbackend.1, hbackend.2.1,
      hbackend.2.2.1, hbackend.2.2.2, hendpoint.1, hendpoint.2, hcapability.1, hcapability.2,
      hpolicy.1, hpolicy.2, fun h => (hbudget h).1, fun h => (hbudget h).2,
      fun h => (hprice h).1, fun h => (hprice h).2, fun h => (hslo h).1, fun h => (hslo h).2,
      fun h => (hcompatibility h).1, fun h => (hcompatibility h).2, htrust.1, htrust.2,
      hdynamic.1, hdynamic.2.1, hdynamic.2.2, hresidency, hcapacity,
      fun h => (hreservation h).1, fun h => (hreservation h).2, htenancy.1, htenancy.2, hdispatch⟩

section

variable {s t : CanonicalState} {bound : RouteAuthority} {now : UnixMillis}

theorem current_iff_accepted {a b : RouteAuthority} {mask : AuthorityMask} :
    (compareAuthority a b mask).current = true ↔ (compareAuthority a b mask).code = .accepted := by
  rw [compareAuthority_code, AuthorityComparison.current, List.isEmpty_iff]

theorem lifecycleReason_accepted {model : ModelDescriptor} {backend : BackendDescriptor} :
    lifecycleReason model backend bound = .accepted ↔
      model.lifecycle = .current ∧ backend.retired = false ∧ backend.draining = false ∧
        backend.backendBoot = bound.backendBoot ∧
        backend.backendGeneration = bound.backendGeneration ∧
        backend.endpoint.endpointGeneration = bound.endpointGeneration := by
  unfold lifecycleReason
  constructor
  · intro h
    split_ifs at h with hretired hmodel hbackend hdraining hboot hendpoint
    simp only [not_or, not_not] at hboot hmodel hendpoint
    exact ⟨hmodel, by simpa using hbackend, by simpa using hdraining, hboot.1, hboot.2, hendpoint⟩
  · rintro ⟨hmodel, hretired, hdraining, hboot, hgeneration, hendpoint⟩
    simp [hmodel, hretired, hdraining, hboot, hgeneration, hendpoint]

theorem dispatchabilityReason_accepted :
    dispatchabilityReason s bound now = .accepted ↔
      bound.expired now = false ∧ s.isFenced bound.backendId bound.backendBoot = false ∧
        ∃ model backend, s.models.find? bound.modelId = some model ∧
          s.backends.find? bound.backendId = some backend ∧
          Agrees bound (observedAuthority s bound model backend) ∧
          lifecycleReason model backend bound = .accepted := by
  unfold dispatchabilityReason
  cases hexpired : bound.expired now with
  | true => simp
  | false =>
      cases hfenced : s.isFenced bound.backendId bound.backendBoot with
      | true => simp
      | false =>
          cases hmodel : s.models.find? bound.modelId with
          | none => simp [buildCurrentAuthority, hmodel]
          | some model =>
              cases hbackend : s.backends.find? bound.backendId with
              | none => simp [buildCurrentAuthority, hmodel, hbackend]
              | some backend =>
                  have hobserved : buildCurrentAuthority s bound =
                      some (observedAuthority s bound model backend) := by
                    simp only [buildCurrentAuthority, hmodel, hbackend]
                  simp only [hobserved, Bool.false_eq_true, if_false, Bool.not_eq_true',
                    Option.some.injEq, exists_and_left, exists_eq_left', true_and,
                    ← compareAuthority_agrees]
                  cases hcurrent : (compareAuthority bound
                    (observedAuthority s bound model backend) bound.requiredMask).current with
                  | false =>
                      have hne : (compareAuthority bound
                          (observedAuthority s bound model backend) bound.requiredMask).code ≠
                            .accepted := by
                        rw [ne_eq, ← current_iff_accepted, hcurrent]
                        exact Bool.false_ne_true
                      simp [hne]
                  | true => simp [current_iff_accepted.mp hcurrent]

end

end ModelRouter.Dispatchability
