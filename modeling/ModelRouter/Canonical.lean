import ModelRouter.Sorting
import ModelRouter.Stored
import Mathlib.Data.Prod.Lex

namespace ModelRouter.Canonical

open Bytes Ids Outcome Catalog Persistence Stored Sorting

/-! The keys by which `canonicalize` sorts, as elements of linear orders. -/

def modelKey (m : StoredModel) : ModelId ×ₗ ModelGeneration :=
  toLex (m.modelId, m.modelGeneration)

def fenceKey (f : StoredFence) : BackendId ×ₗ BackendBootId ×ₗ BackendGeneration ×ₗ Nat :=
  toLex (f.backendId, toLex (f.backendBoot, toLex (f.backendGeneration, f.reason.toNat)))

theorem modelLess_iff (a b : StoredModel) : a.less b = true ↔ modelKey a < modelKey b := by
  rw [StoredModel.less, modelKey, modelKey, Prod.Lex.toLex_lt_toLex]
  split_ifs with h
  · simp [h]
  · simp_all

theorem fenceLess_iff (a b : StoredFence) : a.canonicalLess b = true ↔ fenceKey a < fenceKey b := by
  rw [StoredFence.canonicalLess, fenceKey, fenceKey, Prod.Lex.toLex_lt_toLex,
    Prod.Lex.toLex_lt_toLex, Prod.Lex.toLex_lt_toLex]
  split_ifs with h1 h2 h3
  · simp [h1]
  · simp_all
  · simp_all
  · simp_all [UInt16.lt_iff_toNat_lt]

theorem backendLess_iff (a b : StoredBackend) : a.less b = true ↔ a.backendId < b.backendId := by
  simp [StoredBackend.less]

theorem bindingLess_iff (a b : ModelBinding) : bindingLess a b = true ↔ a.modelId < b.modelId := by
  simp [bindingLess]

theorem routeLess_iff (a b : StoredRoute) : a.less b = true ↔ a.decisionId < b.decisionId := by
  simp [StoredRoute.less]

/-- Every list of the state is in the order of its key. -/
structure InOrder (s : StoredState) : Prop where
  models : s.models.Pairwise fun a b => modelKey a ≤ modelKey b
  backends : s.backends.Pairwise fun a b => a.backendId ≤ b.backendId
  bindings : ∀ b ∈ s.backends, b.modelBindings.Pairwise fun x y => x.modelId ≤ y.modelId
  fencedBoots : s.fencedBoots.Pairwise fun a b => fenceKey a ≤ fenceKey b
  routes : s.routes.Pairwise fun a b => a.decisionId ≤ b.decisionId

theorem canonicalize_inOrder (s : StoredState) : InOrder s.canonicalize where
  models := stableSort_sorted modelLess_iff s.models
  backends := List.pairwise_map.mpr (stableSort_sorted backendLess_iff s.backends)
  bindings b hb := by
    obtain ⟨b', -, rfl⟩ := List.mem_map.mp hb
    exact stableSort_sorted bindingLess_iff b'.modelBindings
  fencedBoots := stableSort_sorted fenceLess_iff s.fencedBoots
  routes := stableSort_sorted routeLess_iff s.routes

theorem InOrder.canonicalize {s : StoredState} (h : InOrder s) : s.canonicalize = s := by
  have hbindings : ∀ b ∈ s.backends, b.sortBindings = b := fun b hb => by
    rw [StoredBackend.sortBindings, stableSort_eq_self bindingLess_iff (h.bindings b hb)]
  rw [StoredState.canonicalize, stableSort_eq_self modelLess_iff h.models,
    stableSort_eq_self backendLess_iff h.backends, stableSort_eq_self fenceLess_iff h.fencedBoots,
    stableSort_eq_self routeLess_iff h.routes, List.map_congr_left hbindings, List.map_id']

theorem canonicalize_canonicalize (s : StoredState) :
    s.canonicalize.canonicalize = s.canonicalize :=
  (canonicalize_inOrder s).canonicalize

theorem canonicalLess_iff (a b : FencedBootRecord) :
    a.canonicalLess b = true ↔ fenceKey (storeFence a) < fenceKey (storeFence b) := by
  have hcode (code : OutcomeCode) : (UInt16.ofNat code.ctorIdx).toNat = code.ctorIdx := by
    cases code <;> rfl
  rw [FencedBootRecord.canonicalLess, fenceKey, fenceKey, Prod.Lex.toLex_lt_toLex,
    Prod.Lex.toLex_lt_toLex, Prod.Lex.toLex_lt_toLex]
  simp only [storeFence, hcode]
  split_ifs with h1 h2 h3
  · simp [h1]
  · simp_all
  · simp_all
  · simp_all

theorem store_canonicalize (s : RouterPersistentState) :
    (store s).canonicalize = store s.canonicalize := by
  have hmodels : stableSort StoredModel.less (s.models.map storeModel) =
      (stableSort modelRecordLess s.models).map storeModel := stableSort_map (fun _ _ => rfl) _
  have hbackends : stableSort StoredBackend.less (s.backends.map storeBackend) =
      (stableSort (fun a b => a.backendId < b.backendId) s.backends).map storeBackend :=
    stableSort_map (fun _ _ => rfl) _
  have hfences : stableSort StoredFence.canonicalLess (s.fencedBoots.map storeFence) =
      (stableSort FencedBootRecord.canonicalLess s.fencedBoots).map storeFence :=
    stableSort_map (fun a b => by rw [Bool.eq_iff_iff, fenceLess_iff, canonicalLess_iff]) _
  have hroutes : stableSort StoredRoute.less (s.routes.map storeRoute) =
      (stableSort (fun a b => a.decisionId < b.decisionId) s.routes).map storeRoute :=
    stableSort_map (fun _ _ => rfl) _
  rw [StoredState.canonicalize, store, hmodels, hbackends, hfences, hroutes, List.map_map]
  simp only [store, RouterPersistentState.canonicalize, List.map_map]
  rfl

end ModelRouter.Canonical
