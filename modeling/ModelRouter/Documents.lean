import ModelRouter.Saved
import ModelRouter.Scores
import ModelRouter.Summaries
import ModelRouter.Told

namespace ModelRouter.Documents

open Base Base.Json Base.Program Bytes Ids Outcome Capability Evidence Catalog Candidate Authority
open Request Policy Eligibility Decision Persistence State CatalogMutation Mutations Commit
open Recovery Providers Section Pass Route Dispatch Reroute Lifecycle Router Effects Run Records
open Repertoire Durability Saved Sorting Rendering Summaries

/-- An explanation whose rendering is a document that names every factor of a candidate once. -/
structure Readable (e : RouteExplanation) : Prop where
  digests : PlainDigests e
  factors : ∀ ranked ∈ e.ranking, (ranked.factors.map FactorValue.factor).Nodup

/-- What a draft has to bring for its commit to leave a readable explanation. -/
structure ReadableDraft (e : RouteExplanation) : Prop where
  requirement : escaping.Plain e.requirementDigest
  factors : ∀ ranked ∈ e.ranking, (ranked.factors.map FactorValue.factor).Nodup

section

variable {record earlier : RouteRecord}

theorem Readable.of_frozen (h : Readable earlier.decision.explanation)
    (hf : frozen record = frozen earlier) : Readable record.decision.explanation := by
  have hrequirement := congrArg (fun r => r.decision.explanation.requirementDigest) hf
  have hsemantic := congrArg (fun r => r.decision.explanation.semanticDigest) hf
  have hranking := congrArg (fun r => r.decision.explanation.ranking) hf
  dsimp only [frozen] at hrequirement hsemantic hranking
  refine ⟨?_, ?_⟩
  · rw [PlainDigests, hrequirement, hsemantic]
    exact h.digests
  · rw [hranking]
    exact h.factors

theorem ReadableDraft.committed {draft : CommitDraft} (h : ReadableDraft draft.decision.explanation)
    (s : CanonicalState) (id : RouteDecisionId) :
    Readable (boundDecision s draft id).explanation := by
  unfold boundDecision
  dsimp only
  split
  · exact ⟨⟨h.requirement, hexDigest_plain _⟩, h.factors⟩
  · exact ⟨⟨h.requirement, hexDigest_plain _⟩, h.factors⟩

end

section

variable {I : World → Prop} {E : Env → Prop} (options : ModelRouterOptions)

variable {request : RouteRequest} {snapshot : Snapshot} {governing : Governing}

end

section

end

section

end

end ModelRouter.Documents
