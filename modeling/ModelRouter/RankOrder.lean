import Mathlib
import ModelRouter.Candidate

namespace ModelRouter.RankOrder

open Candidate

abbrev FactorKey := Nat ×ₗ ℤ ×ₗ ℤ ×ₗ Bool

def factorKey (f : FactorValue) : FactorKey :=
  toLex (f.factor.ctorIdx, toLex (-f.contribution, toLex (-f.normalized, !f.known)))

def vectorKey (factors : List FactorValue) : List (WithTop FactorKey) :=
  factors.map (fun f => (factorKey f : WithTop FactorKey)) ++ [⊤]

def rankKey (c : RankedCandidate) : ℤ ×ₗ List (WithTop FactorKey) ×ₗ CandidateKey :=
  toLex (-c.score, toLex (vectorKey c.factors, c.key))

theorem ctorIdx_injective : Function.Injective RankingFactor.ctorIdx := by
  intro a b h
  have ha := RankingFactor.ofNat_ctorIdx a
  rw [h, RankingFactor.ofNat_ctorIdx] at ha
  exact ha.symm

theorem factorKey_lt {l r : FactorValue} :
    factorKey l < factorKey r ↔
      l.factor.ctorIdx < r.factor.ctorIdx ∨ l.factor = r.factor ∧
        (l.contribution > r.contribution ∨ l.contribution = r.contribution ∧
          (l.normalized > r.normalized ∨ l.normalized = r.normalized ∧
            l.known = true ∧ r.known = false)) := by
  simp only [factorKey, Prod.Lex.toLex_lt_toLex, Int.neg_lt_neg_iff, Int.neg_inj,
    ctorIdx_injective.eq_iff, gt_iff_lt, Bool.lt_iff, Bool.not_eq_eq_eq_not, Bool.not_false,
    Bool.not_true]

theorem factorKey_eq {l r : FactorValue} :
    factorKey l = factorKey r ↔
      l.factor = r.factor ∧ l.contribution = r.contribution ∧ l.normalized = r.normalized ∧
        l.known = r.known := by
  simp [factorKey, ctorIdx_injective.eq_iff]

theorem vectorKey_cons_lt {l r : FactorValue} {ls rs : List FactorValue} :
    vectorKey (l :: ls) < vectorKey (r :: rs) ↔
      factorKey l < factorKey r ∨ factorKey l = factorKey r ∧ vectorKey ls < vectorKey rs := by
  rw [vectorKey, vectorKey, List.map_cons, List.map_cons, List.cons_append, List.cons_append,
    List.cons_lt_cons_iff, WithTop.coe_lt_coe, WithTop.coe_inj]
  rfl

theorem vectorKey_cons_eq {l r : FactorValue} {ls rs : List FactorValue} :
    vectorKey (l :: ls) = vectorKey (r :: rs) ↔
      factorKey l = factorKey r ∧ vectorKey ls = vectorKey rs := by
  rw [vectorKey, vectorKey, List.map_cons, List.map_cons, List.cons_append, List.cons_append,
    List.cons.injEq, WithTop.coe_inj]
  rfl

theorem vectorKey_nil_lt (rs : List FactorValue) : ¬vectorKey [] < vectorKey rs := by
  cases rs with
  | nil => exact lt_irrefl _
  | cons r rs => simp [vectorKey, List.cons_lt_cons_iff]

theorem vectorKey_cons_lt_nil (l : FactorValue) (ls : List FactorValue) :
    vectorKey (l :: ls) < vectorKey [] := by
  simp [vectorKey, List.cons_lt_cons_iff]

theorem factorsRankBefore_key (ls rs : List FactorValue) :
    match factorsRankBefore ls rs with
    | some verdict =>
      (verdict = true ↔ vectorKey ls < vectorKey rs) ∧ vectorKey ls ≠ vectorKey rs
    | none =>
      (vectorKey ls < vectorKey rs ↔ rs.length < ls.length) ∧
        (vectorKey ls = vectorKey rs ↔ ls.length = rs.length) := by
  induction ls, rs using factorsRankBefore.induct with
  | case1 left ls right rs hfactor =>
      rw [factorsRankBefore, if_pos hfactor]
      simp [vectorKey_cons_lt, vectorKey_cons_eq, factorKey_lt, factorKey_eq, hfactor]
  | case2 left ls right rs hfactor hcontribution =>
      rw [factorsRankBefore, if_neg hfactor, if_pos hcontribution]
      simp [vectorKey_cons_lt, vectorKey_cons_eq, factorKey_lt, factorKey_eq, hcontribution,
        not_not.mp hfactor]
  | case3 left ls right rs hfactor hcontribution hnormalized =>
      rw [factorsRankBefore, if_neg hfactor, if_neg hcontribution, if_pos hnormalized]
      simp [vectorKey_cons_lt, vectorKey_cons_eq, factorKey_lt, factorKey_eq, hnormalized,
        not_not.mp hfactor, not_not.mp hcontribution]
  | case4 left ls right rs hfactor hcontribution hnormalized hknown =>
      rw [factorsRankBefore, if_neg hfactor, if_neg hcontribution, if_neg hnormalized,
        if_pos hknown]
      simp [vectorKey_cons_lt, vectorKey_cons_eq, factorKey_lt, factorKey_eq, hknown,
        not_not.mp hfactor, not_not.mp hcontribution, not_not.mp hnormalized]
      revert hknown
      cases left.known <;> cases right.known <;> simp
  | case5 left ls right rs hfactor hcontribution hnormalized hknown ih =>
      rw [factorsRankBefore, if_neg hfactor, if_neg hcontribution, if_neg hnormalized,
        if_neg hknown]
      have hsame : factorKey left = factorKey right :=
        factorKey_eq.mpr ⟨not_not.mp hfactor, not_not.mp hcontribution, not_not.mp hnormalized,
          not_not.mp hknown⟩
      simpa [vectorKey_cons_lt, vectorKey_cons_eq, hsame] using ih
  | case6 ls rs hends =>
      rw [factorsRankBefore]
      · cases ls with
        | nil =>
            cases rs with
            | nil => simp
            | cons r rs =>
                have hlt := vectorKey_cons_lt_nil r rs
                simp [vectorKey_nil_lt, hlt.ne']
        | cons l ls =>
            cases rs with
            | nil => simp [vectorKey_cons_lt_nil l ls, (vectorKey_cons_lt_nil l ls).ne]
            | cons r rs => exact absurd rfl (hends l ls r rs rfl)
      · exact hends

theorem candidateRanksBefore_iff (a b : RankedCandidate) :
    candidateRanksBefore a b = true ↔ rankKey a < rankKey b := by
  rw [rankKey, rankKey, Prod.Lex.toLex_lt_toLex, Prod.Lex.toLex_lt_toLex, candidateRanksBefore]
  have hwalk := factorsRankBefore_key a.factors b.factors
  by_cases hscore : a.score = b.score
  · rw [if_neg (not_not.mpr hscore)]
    cases hverdict : factorsRankBefore a.factors b.factors with
    | some verdict =>
        rw [hverdict] at hwalk
        simp [hscore, hwalk]
    | none =>
        rw [hverdict] at hwalk
        by_cases hlength : a.factors.length = b.factors.length
        · simp [hscore, hwalk, hlength]
        · simp [hscore, hwalk, hlength]
  · rw [if_pos hscore]
    simp [hscore]

end ModelRouter.RankOrder
