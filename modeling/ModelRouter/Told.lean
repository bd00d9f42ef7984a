import ModelRouter.Base.Delimited
import ModelRouter.Messages
import ModelRouter.Rendering

namespace ModelRouter.Told

open Base Base.Json Base.Delimited Bytes Ids Outcome Evidence Authority Candidate Decision
open Numerals Rendering

/-- Two explanations that tell a reader the same. -/
structure SameTold (a b : RouteExplanation) : Prop where
  requestId : a.requestId = b.requestId
  requestGeneration : a.requestGeneration = b.requestGeneration
  winner : a.winner = b.winner
  eligible : a.eligibleCandidateCount = b.eligibleCandidateCount
  rejected : a.rejectedCandidateCount = b.rejectedCandidateCount
  policyResult : a.policyResult = b.policyResult
  currentness : a.currentness = b.currentness
  revalidation : a.revalidationRequired = b.revalidationRequired
  tieBreak : a.tieBreakReason = b.tieBreakReason
  authority : authorityDigest a.authority = authorityDigest b.authority
  detail : a.detailRetained = b.detailRetained
  ranking : a.ranking = b.ranking
  rejections : a.rejections = b.rejections
  fallbacks : a.fallbackOrder = b.fallbackOrder
  unit : a.cost.unit = b.cost.unit
  estimated : a.cost.estimatedTotalMicros = b.cost.estimatedTotalMicros
  knownness : a.cost.knownness = b.cost.knownness
  price : a.cost.priceGeneration = b.cost.priceGeneration
  slo : a.slo.sloId = b.slo.sloId ∧ a.slo.generation = b.slo.generation ∧
    a.slo.verdict = b.slo.verdict
  budget : a.budget.budgetId = b.budget.budgetId ∧ a.budget.generation = b.budget.generation ∧
    a.budget.verdict = b.budget.verdict
  policy : a.policy.policyId = b.policy.policyId ∧ a.policy.generation = b.policy.generation
  requirementDigest : a.requirementDigest = b.requirementDigest
  semanticDigest : a.semanticDigest = b.semanticDigest

section

variable {t : Tag}

theorem id_inj {a b : EntityId t} : a.value = b.value ↔ a = b := by
  obtain ⟨a⟩ := a
  obtain ⟨b⟩ := b
  exact ⟨congrArg EntityId.mk, congrArg EntityId.value⟩

theorem generation_inj {a b : Generation t} : a.value = b.value ↔ a = b := by
  obtain ⟨a⟩ := a
  obtain ⟨b⟩ := b
  exact ⟨congrArg Generation.mk, congrArg Generation.value⟩

end

theorem name_injective {α : Type} [Enumerated α] {name : α → Text}
    (h : ((Enumerated.all : List α).map name).Nodup) : Function.Injective name := by
  have hmem (a : α) : a ∈ (Enumerated.all : List α) :=
    List.mem_of_getElem? (Enumerated.all_code a)
  intro a b hname
  exact List.inj_on_of_nodup_map h (hmem a) (hmem b) hname

theorem outcomeName_injective : Function.Injective OutcomeCode.name :=
  name_injective (by decide +kernel)

theorem factorName_injective : Function.Injective RankingFactor.name :=
  name_injective (by decide +kernel)

theorem currentnessName_injective : Function.Injective currentnessName :=
  name_injective (by decide +kernel)

theorem knownnessName_injective : Function.Injective CostKnownness.name := by
  intro a b h
  cases a <;> cases b <;> first | rfl | exact absurd h (by decide)

theorem sloVerdictName_injective : Function.Injective SloVerdict.name := by
  intro a b h
  cases a <;> cases b <;> first | rfl | exact absurd h (by decide)

theorem budgetVerdictName_injective : Function.Injective BudgetVerdict.name := by
  intro a b h
  cases a <;> cases b <;> first | rfl | exact absurd h (by decide)

theorem decimal_split {n m : Nat} {d : UInt8} {label x y : Text} (hhead : label.head? = some d)
    (hd : ¬IsDigit d) (h : decimal n ++ (label ++ x) = decimal m ++ (label ++ y)) :
    n = m ∧ x = y := by
  obtain ⟨rest, rfl⟩ := List.head?_eq_some_iff.mp hhead
  obtain ⟨hn, hrest⟩ := split_first (not_mem_decimal hd n) (not_mem_decimal hd m) h
  exact ⟨decimal_injective hn, List.append_cancel_left hrest⟩

theorem render_injective : Function.Injective CandidateKey.render := by
  intro a b h
  simp only [CandidateKey.render, List.append_assoc, List.append_cancel_left_eq] at h
  have hat : (text "@").head? = some 64 := rfl
  obtain ⟨hmodel, h⟩ := decimal_split hat (by decide) h
  obtain ⟨hgeneration, h⟩ := decimal_split (d := 46) rfl (by decide) h
  obtain ⟨hartifact, h⟩ := decimal_split (d := 32) rfl (by decide) h
  obtain ⟨hbackend, h⟩ := decimal_split hat (by decide) h
  obtain ⟨hregistration, h⟩ := decimal_split (d := 46) rfl (by decide) h
  obtain ⟨hboot, h⟩ := decimal_split (d := 32) rfl (by decide) h
  obtain ⟨hendpoint, h⟩ := decimal_split hat (by decide) h
  apply CandidateKey.members_injective
  simp only [CandidateKey.members, hmodel, hgeneration, hartifact, hbackend, hregistration, hboot,
    hendpoint, decimal_injective h]

theorem factorTree_injective : Function.Injective factorTree := by
  intro a b h
  simp only [factorTree, number, Prod.mk.injEq, Value.object.injEq, List.cons.injEq,
    Value.flag.injEq, Value.number.injEq, Value.string.injEq, true_and, and_true,
    Int.natCast_inj, UInt64.toNat_inj] at h
  obtain ⟨hfactor, hknown, hnormalized, hraw, hweight, hcontribution, hgeneration, hsource⟩ := h
  replace hfactor := factorName_injective hfactor
  obtain ⟨⟩ := a
  obtain ⟨⟩ := b
  simp_all

theorem candidateTree_injective : Function.Injective candidateTree := by
  intro a b h
  simp only [candidateTree, number, Prod.mk.injEq, Value.object.injEq, List.cons.injEq,
    Value.number.injEq, Value.string.injEq, true_and, and_true, Int.natCast_inj,
    UInt32.toNat_inj] at h
  obtain ⟨hrank, hscore, hkey, hfactors⟩ := h
  replace hfactors := factorTree_injective.list_map hfactors
  replace hkey := render_injective hkey
  obtain ⟨⟩ := a
  obtain ⟨⟩ := b
  simp_all

theorem rejectionTree_injective : Function.Injective rejectionTree := by
  intro a b h
  simp only [rejectionTree, number, Prod.mk.injEq, Value.object.injEq, List.cons.injEq,
    Value.number.injEq, Value.string.injEq, true_and, and_true, Int.natCast_inj,
    UInt64.toNat_inj, generation_inj] at h
  obtain ⟨hmodel, hgeneration, hbackend, hregistration, hboot, hendpoint, hcode, hdetail⟩ := h
  replace hcode := outcomeName_injective hcode
  obtain ⟨⟩ := a
  obtain ⟨⟩ := b
  simp_all

theorem request_split {a b : RouteExplanation}
    (h : decimal a.requestId.value.toNat ++ text "/" ++ decimal a.requestGeneration.value.toNat =
      decimal b.requestId.value.toNat ++ text "/" ++ decimal b.requestGeneration.value.toNat) :
    a.requestId = b.requestId ∧ a.requestGeneration = b.requestGeneration := by
  rw [List.append_assoc, List.append_assoc] at h
  obtain ⟨hid, hgeneration⟩ := decimal_split (d := 47) rfl (by decide) h
  exact ⟨id_inj.mp (UInt64.toNat_inj.mp hid),
    generation_inj.mp (UInt64.toNat_inj.mp (decimal_injective hgeneration))⟩

theorem unit_eq {a b : CostUnit} (hcurrency : a.currency = b.currency) (hbasis : a.basis = b.basis) :
    a = b := by
  obtain ⟨⟩ := a
  obtain ⟨⟩ := b
  simp_all

theorem fallbacks_injective :
    Function.Injective fun key : CandidateKey => Value.string key.render := by
  intro a b h
  exact render_injective (Value.string.inj h)

theorem explanationTree_eq_iff {a b : RouteExplanation} :
    explanationTree a = explanationTree b ↔ SameTold a b := by
  constructor
  · intro h
    simp only [explanationTree, number, Prod.mk.injEq, Value.object.injEq, List.cons.injEq,
      Value.number.injEq, Value.string.injEq, Value.flag.injEq, Value.array.injEq, true_and,
      and_true, Int.natCast_inj, UInt32.toNat_inj, UInt64.toNat_inj, Int64.toInt_inj, id_inj,
      generation_inj] at h
    obtain ⟨hrequest, hwinner, heligible, hrejected, hpolicy, hcurrent, hrevalidation, htie,
      hauthority, hdetail, hranking, hrejections, hfallbacks,
      ⟨hcurrency, hbasis, hestimated, hknownness, hprice⟩, ⟨hslo, hsloGeneration, hsloVerdict⟩,
      ⟨hbudget, hbudgetGeneration, hbudgetVerdict⟩, hpolicyBound, hrequirement, hsemantic⟩ := h
    obtain ⟨hid, hgeneration⟩ := request_split hrequest
    exact
      { requestId := hid
        requestGeneration := hgeneration
        winner := render_injective hwinner
        eligible := heligible
        rejected := hrejected
        policyResult := outcomeName_injective hpolicy
        currentness := currentnessName_injective hcurrent
        revalidation := hrevalidation
        tieBreak := htie
        authority := hauthority
        detail := hdetail
        ranking := candidateTree_injective.list_map hranking
        rejections := rejectionTree_injective.list_map hrejections
        fallbacks := fallbacks_injective.list_map hfallbacks
        unit := unit_eq hcurrency hbasis
        estimated := hestimated
        knownness := knownnessName_injective hknownness
        price := hprice
        slo := ⟨hslo, hsloGeneration, sloVerdictName_injective hsloVerdict⟩
        budget := ⟨hbudget, hbudgetGeneration, budgetVerdictName_injective hbudgetVerdict⟩
        policy := hpolicyBound
        requirementDigest := hrequirement
        semanticDigest := hsemantic }
  · intro h
    rw [explanationTree, explanationTree, h.requestId, h.requestGeneration, h.winner, h.eligible,
      h.rejected, h.policyResult, h.currentness, h.revalidation, h.tieBreak, h.authority, h.detail,
      h.ranking, h.rejections, h.fallbacks, h.unit, h.estimated, h.knownness, h.price, h.slo.1,
      h.slo.2.1, h.slo.2.2, h.budget.1, h.budget.2.1, h.budget.2.2, h.policy.1, h.policy.2,
      h.requirementDigest, h.semanticDigest]

/-- Two explanations are rendered alike exactly when they tell the same. -/
theorem explanationJson_eq_iff {a b : RouteExplanation} (ha : PlainDigests a)
    (hb : PlainDigests b) : explanationJson a = explanationJson b ↔ SameTold a b := by
  rw [explanationJson_eq ha, explanationJson_eq hb, escaping.print_injective.eq_iff,
    explanationTree_eq_iff]

/-- A quote in a text is told like any other byte. -/
theorem quoted_told :
    explanationJson {} ≠ explanationJson { tieBreakReason := text "\"" } := by
  have hplain : escaping.Plain [] := by
    intro b hb
    cases hb
  have htold := explanationJson_eq_iff (a := {}) (b := { tieBreakReason := text "\"" })
    ⟨hplain, hplain⟩ ⟨hplain, hplain⟩
  intro h
  have htie : ([] : Text) = text "\"" := (htold.mp h).tieBreak
  exact absurd htie (by decide)

end ModelRouter.Told
