import ModelRouter.RankOrder
import ModelRouter.Repertoire

namespace ModelRouter.Rankings

open Bytes Candidate Decision Pass Route Sorting RankOrder Repertoire

variable {assessments : List Assessment} {ranking candidates : List RankedCandidate}

theorem rankAll_keys (assessments : List Assessment) :
    ((rankAll assessments).map RankedCandidate.key).Perm
      (assessments.map fun assessment => assessment.ranked.key) := by
  rw [rankAll, numberRanks_map _ fun _ _ => rfl]
  have hperm := (stableSort_perm candidateRanksBefore (assessments.map Assessment.ranked)).map
    RankedCandidate.key
  rwa [List.map_map] at hperm

theorem ranks_distinct (h : Ranks ranking) : (ranking.map RankedCandidate.key).Nodup := by
  obtain ⟨assessments, hnodup, rfl⟩ := h
  exact (rankAll_keys assessments).nodup_iff.mpr hnodup

theorem rankKey_nodup (h : (candidates.map RankedCandidate.key).Nodup) :
    (candidates.map rankKey).Nodup := by
  refine List.Nodup.of_map (fun k => (ofLex (ofLex k).2).2) ?_
  rwa [List.map_map]

theorem ranks_strict (h : Ranks ranking) :
    ranking.Pairwise fun a b => candidateRanksBefore a b = true := by
  obtain ⟨assessments, hnodup, rfl⟩ := h
  rw [← Function.comp_def, ← List.map_map] at hnodup
  have hsorted := stableSort_strict candidateRanksBefore_iff (rankKey_nodup hnodup)
  simp only [candidateRanksBefore_iff] at hsorted ⊢
  rw [← List.pairwise_map (f := rankKey) (R := (· < ·))] at hsorted ⊢
  rwa [rankAll, numberRanks_map rankKey fun _ _ => rfl]

/-- The comparison is a strict total order of differently keyed candidates, whatever their scores
and factor vectors, so that they have one ranking. -/
theorem ranking_unique :
    (∀ a, candidateRanksBefore a a = false) ∧
      (∀ a b c, candidateRanksBefore a b = true → candidateRanksBefore b c = true →
        candidateRanksBefore a c = true) ∧
      (∀ a b, a.key ≠ b.key →
        candidateRanksBefore a b = true ∨ candidateRanksBefore b a = true) ∧
      ∀ candidates, (candidates.map RankedCandidate.key).Nodup → ∀ ranking,
        ranking.Perm candidates →
          ((ranking.Pairwise fun a b => candidateRanksBefore a b = true) ↔
            ranking = stableSort candidateRanksBefore candidates) := by
  refine ⟨fun a => ?_, fun a b c => ?_, fun a b hkeys => ?_, fun candidates hkeys ranking => ?_⟩
  · rw [Bool.eq_false_iff, ne_eq, candidateRanksBefore_iff]
    exact lt_irrefl _
  · rw [candidateRanksBefore_iff, candidateRanksBefore_iff, candidateRanksBefore_iff]
    exact lt_trans
  · rw [candidateRanksBefore_iff, candidateRanksBefore_iff]
    refine lt_or_gt_of_ne fun heq => hkeys ?_
    have hkey := congrArg (fun k => (ofLex (ofLex k).2).2) heq
    exact hkey
  · exact strict_iff_stableSort candidateRanksBefore_iff (rankKey_nodup hkeys)

end ModelRouter.Rankings
