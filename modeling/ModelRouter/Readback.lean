import Mathlib.Data.List.TakeWhile
import ModelRouter.Base.Reading
import ModelRouter.RecordCodec

namespace ModelRouter.Readback

open Base Base.Parse Bytes Ids Limits Capability Evidence Catalog Candidate Authority
open Codec Stored RecordCodec
open Base.Put (puts Measures)

variable {ε : Type}

/-! What the readers make of the bytes of the writers. A condition says which records the limits of
the reader admit; the limits of the writer play no part in it. -/

def ClaimFits (limits : ResourceLimits) (e : CapabilityEvidence) : Prop :=
  e.key.length ≤ limits.maxStringBytes.toNat ∧ e.source.length ≤ limits.maxStringBytes.toNat ∧
    e.detail.length ≤ limits.maxStringBytes.toNat

def CostFits (limits : ResourceLimits) (cost : CostEvidence) : Prop :=
  cost.unit.currency.length ≤ limits.maxStringBytes.toNat ∧
    cost.unit.basis.length ≤ limits.maxStringBytes.toNat ∧
    cost.source.length ≤ limits.maxStringBytes.toNat

instance {limits : ResourceLimits} {e : CapabilityEvidence} : Decidable (ClaimFits limits e) :=
  inferInstanceAs (Decidable (_ ∧ _))

instance {limits : ResourceLimits} {cost : CostEvidence} : Decidable (CostFits limits cost) :=
  inferInstanceAs (Decidable (_ ∧ _))

theorem isSome_capability {limits : ResourceLimits} {e : CapabilityEvidence} :
    (putCapability limits e).isSome ↔ ClaimFits limits e := by
  simp [putCapability, Put.isSome_string, ClaimFits]

theorem isSome_cost {limits : ResourceLimits} {cost : CostEvidence} :
    (putCost limits cost).isSome ↔ CostFits limits cost := by
  simp [putCost, Put.isSome_string, CostFits]

theorem capability_reads (limits limits' : ResourceLimits) (e : CapabilityEvidence) :
    Reads (ClaimFits limits' e) (putCapability limits e) (getCapability limits') e := by
  have h : Reads (e.key.length ≤ limits'.maxStringBytes.toNat ∧
      e.source.length ≤ limits'.maxStringBytes.toNat ∧
      e.detail.length ≤ limits'.maxStringBytes.toNat ∧ True) (putCapability limits e)
      (getCapability limits') e := by
    refine .string ?_
    iterate 8 refine .word ?_
    refine .string (.string (.settle ?_))
    exact .declared (by simp) .done
  exact h.congr (by simp [ClaimFits])

theorem cost_reads (limits limits' : ResourceLimits) (cost : CostEvidence) :
    Reads (CostFits limits' cost) (putCost limits cost) (getCost limits') cost := by
  have h : Reads (cost.unit.currency.length ≤ limits'.maxStringBytes.toNat ∧
      cost.unit.basis.length ≤ limits'.maxStringBytes.toNat ∧
      cost.source.length ≤ limits'.maxStringBytes.toNat ∧ True) (putCost limits cost)
      (getCost limits') cost := by
    iterate 4 refine .word ?_
    refine .string (.string ?_)
    iterate 9 refine .word ?_
    refine .string (.settle ?_)
    exact .declared (by simp) .done
  exact h.congr (by simp [CostFits])

theorem candidateKey_reads (key : CandidateKey) :
    Reads (ε := ε) True (putCandidateKey key) getCandidateKey key := by
  iterate 8 refine .word ?_
  exact .done

theorem candidateKey_ne (key : CandidateKey) : putCandidateKey key ≠ some [] := by
  rw [putCandidateKey, Put.puts_cons]
  exact Put.seq_ne (Put.word_ne (by decide))

theorem authority_reads (authority : RouteAuthority) :
    Reads (ε := ε) True (putAuthority authority) getAuthority authority := by
  iterate 44 refine .word ?_
  exact .done

/-- A profile as its class keeps it: the claims in strictly ascending order of their keys. -/
def Ordered (profile : CapabilityProfile) : Prop :=
  profile.entries.Pairwise fun a b => a.key < b.key

instance {profile : CapabilityProfile} : Decidable (Ordered profile) :=
  inferInstanceAs (Decidable (profile.entries.Pairwise _))

def ProfileFits (limits : ResourceLimits) (profile : CapabilityProfile) : Prop :=
  profile.entries.length ≤ limits.maxCapabilityEntries.toNat ∧
    ∀ e ∈ profile.entries, ClaimFits limits e

theorem set_above {profile : CapabilityProfile} {e : CapabilityEvidence} (maxEntries : UInt32)
    (habove : ∀ x ∈ profile.entries, x.key < e.key)
    (hroom : profile.entries.length < maxEntries.toNat) :
    profile.set e maxEntries = some { profile with entries := profile.entries ++ [e] } := by
  have hbelow : profile.entries.takeWhile (fun x => decide (x.key < e.key)) = profile.entries :=
    List.takeWhile_eq_self_iff.mpr fun x hx => by simpa using habove x hx
  have hnone : profile.entries.dropWhile (fun x => decide (x.key < e.key)) = [] :=
    List.dropWhile_eq_nil_iff.mpr fun x hx => by simpa using habove x hx
  rw [CapabilityProfile.set, CapabilityProfile.split, hbelow, hnone]
  exact if_neg (Nat.not_le.mpr hroom)

theorem claims_reads (limits limits' : ResourceLimits) (parsed : CapabilityProfile)
    (es : List CapabilityEvidence)
    (hordered : (parsed.entries ++ es).Pairwise fun a b => a.key < b.key)
    (hroom : parsed.entries.length + es.length ≤ limits'.maxCapabilityEntries.toNat) :
    Reads (∀ e ∈ es, ClaimFits limits' e) (puts (es.map (putCapability limits)))
      (readClaims limits' parsed es.length)
      { parsed with entries := parsed.entries ++ es } := by
  induction es generalizing parsed with
  | nil =>
      rw [List.append_nil]
      exact Reads.done.congr (by simp)
  | cons e es ih =>
      have habove : ∀ x ∈ parsed.entries, x.key < e.key := fun x hx =>
        (List.pairwise_append.mp hordered).2.2 x hx e List.mem_cons_self
      have hset := set_above limits'.maxCapabilityEntries habove
        (by rw [List.length_cons] at hroom; omega)
      have hrest := ih { parsed with entries := parsed.entries ++ [e] }
        (by simpa using hordered) (by simpa [Nat.add_assoc, Nat.add_comm 1] using hroom)
      simp only [List.append_assoc, List.cons_append, List.nil_append] at hrest
      exact ((capability_reads limits limits' e).bind (.ofOption hset hrest)).congr
        List.forall_mem_cons.symm

theorem putCapability_ne (limits : ResourceLimits) (e : CapabilityEvidence) :
    putCapability limits e ≠ some [] :=
  Put.seq_ne Put.string_ne

theorem toNat_count {n : Nat} (h : n < 2 ^ 32) : (UInt32.ofNat n).toNat = n :=
  UInt32.toNat_ofNat_of_lt' h

theorem count_le {n : Nat} {limit : UInt32} (h : n < 2 ^ 32) :
    decide (UInt32.ofNat n > limit) = false ↔ n ≤ limit.toNat := by
  rw [decide_eq_false_iff_not, gt_iff_lt, UInt32.lt_iff_toNat_lt, toNat_count h, Nat.not_lt]

theorem profile_reads (limits limits' : ResourceLimits) {profile : CapabilityProfile}
    (hordered : Ordered profile) :
    Reads (ProfileFits limits' profile) (writeProfile limits profile) (readProfile limits')
      profile := by
  have hcount : Reads (profile.entries.length ≤ limits'.maxCapabilityEntries.toNat ∧
      ∀ e ∈ profile.entries, ClaimFits limits' e)
      (puts [putCount profile.entries, puts (profile.entries.map (putCapability limits))])
      (getU32 >>= fun count => settle () >>= fun _ =>
        refuse (count > limits'.maxCapabilityEntries) () >>= fun _ =>
        readClaims limits' { id := profile.id, generation := profile.generation } count.toNat)
      profile := by
    refine .count (fun e _ => putCapability_ne limits e) fun hsmall => .settle ?_
    rw [← count_le hsmall]
    refine .refuse fun hroom => .last ?_
    rw [toNat_count hsmall]
    rw [count_le hsmall] at hroom
    exact claims_reads limits limits' _ _ hordered (by simpa using hroom)
  exact .word (.word hcount)

def ModelFits (limits : ResourceLimits) (model : StoredModel) : Prop :=
  ProfileFits limits model.capabilities ∧
    model.displayName.length ≤ limits.maxStringBytes.toNat

theorem model_reads {limits limits' : ResourceLimits} {model : StoredModel}
    {profile : Parse Unit CapabilityProfile}
    (hprofile : Reads (ProfileFits limits' model.capabilities)
      (writeProfile limits model.capabilities) profile model.capabilities) :
    Reads (ModelFits limits' model) (writeModel limits model) (readModel limits' profile)
      model := by
  have h : Reads (ProfileFits limits' model.capabilities ∧
      model.displayName.length ≤ limits'.maxStringBytes.toNat ∧ True) (writeModel limits model)
      (readModel limits' profile) model := by
    iterate 13 refine .word ?_
    refine .bind hprofile.withError ?_
    iterate 3 refine .word ?_
    exact .string .done
  exact h.congr (by simp [ModelFits])

theorem binding_reads (limits limits' : ResourceLimits) (binding : ModelBinding) :
    Reads (CostFits limits' binding.cost) (writeBinding limits binding) (readBinding limits')
      binding := by
  have h : Reads (CostFits limits' binding.cost ∧ True) (writeBinding limits binding)
      (readBinding limits') binding := by
    iterate 5 refine .word ?_
    refine .bind (cost_reads limits limits' binding.cost).withError ?_
    exact .word .done
  exact h.congr (by rw [and_true])

def BackendFits (limits : ResourceLimits) (record : StoredBackend) : Prop :=
  record.locality.length ≤ limits.maxStringBytes.toNat ∧
    ProfileFits limits record.capabilities ∧
    record.modelBindings.length ≤ limits.maxModelBindingsPerBackend.toNat ∧
    ∀ binding ∈ record.modelBindings, CostFits limits binding.cost

theorem bindings_reads (limits limits' : ResourceLimits) (bindings : List ModelBinding) :
    Reads (bindings.length ≤ limits'.maxModelBindingsPerBackend.toNat ∧
        ∀ binding ∈ bindings, CostFits limits' binding.cost)
      (puts [putCount bindings, puts (bindings.map (writeBinding limits))])
      (readBindings limits') bindings := by
  have hne : ∀ binding ∈ bindings, writeBinding limits binding ≠ some [] :=
    fun _ _ => Put.seq_ne (Put.word_ne (by decide))
  refine .count hne fun hsmall => ?_
  rw [← count_le hsmall]
  refine .refuse fun _ => .last ?_
  rw [toNat_count hsmall]
  exact .ofMany bindings fun binding _ => binding_reads limits limits' binding

theorem backend_reads {limits limits' : ResourceLimits} {record : StoredBackend}
    {profile : Parse Unit CapabilityProfile} {flag : Parse Refused Bool}
    (hprofile : Reads (ProfileFits limits' record.capabilities)
      (writeProfile limits record.capabilities) profile record.capabilities)
    (hflag : Reads True (Put.bool record.offlineCapable) flag record.offlineCapable) :
    Reads (BackendFits limits' record) (writeBackend limits record)
      (readBackend limits' profile flag) record := by
  have h : Reads (record.locality.length ≤ limits'.maxStringBytes.toNat ∧
      ProfileFits limits' record.capabilities ∧
      (record.modelBindings.length ≤ limits'.maxModelBindingsPerBackend.toNat ∧
        ∀ binding ∈ record.modelBindings, CostFits limits' binding.cost) ∧ True)
      (writeBackend limits record) (readBackend limits' profile flag)
      record := by
    iterate 11 refine .word ?_
    refine .string ?_
    iterate 3 refine .word ?_
    refine .bind hprofile.withError ?_
    refine .pair (bindings_reads limits limits' record.modelBindings) (.next hflag ?_)
    exact .word (.word .done)
  exact h.congr (by simp [BackendFits])

theorem fence_reads (record : StoredFence) :
    Reads (ε := ε) True (writeFence record) readFence record := by
  iterate 5 refine .word ?_
  exact .done

def RouteFits (limits : ResourceLimits) (record : StoredRoute) : Prop :=
  record.fallbacks.length ≤ limits.maxFallbackCandidates.toNat ∧ CostFits limits record.cost ∧
    record.semanticDigest.length ≤ limits.maxStringBytes.toNat ∧
    record.requirementDigest.length ≤ limits.maxStringBytes.toNat

theorem fallbacks_reads (limits : ResourceLimits) (fallbacks : List CandidateKey) :
    Reads (fallbacks.length ≤ limits.maxFallbackCandidates.toNat)
      (puts [putCount fallbacks, puts (fallbacks.map putCandidateKey)])
      (readFallbacks limits) fallbacks := by
  refine .count (fun key _ => candidateKey_ne key) fun hsmall => ?_
  rw [← count_le hsmall]
  refine Reads.congr (.refuse fun _ => .last ?_) (by rw [and_true])
  rw [toNat_count hsmall]
  exact (Reads.ofMany fallbacks fun key _ => candidateKey_reads key).congr (by simp)

theorem route_reads (limits limits' : ResourceLimits) (record : StoredRoute) :
    Reads (RouteFits limits' record) (writeRoute limits record) (readRoute limits')
      record := by
  have h : Reads (record.fallbacks.length ≤ limits'.maxFallbackCandidates.toNat ∧
      CostFits limits' record.cost ∧
      record.semanticDigest.length ≤ limits'.maxStringBytes.toNat ∧
      record.requirementDigest.length ≤ limits'.maxStringBytes.toNat ∧ True)
      (writeRoute limits record) (readRoute limits') record := by
    iterate 4 refine .word ?_
    refine .next (candidateKey_reads record.winner) ?_
    refine .pair (fallbacks_reads limits' record.fallbacks) ?_
    refine .next (authority_reads record.authority) (.word (.word ?_))
    refine .bind (cost_reads limits limits' record.cost).withError ?_
    iterate 4 refine .word ?_
    refine .string (.string ?_)
    exact .word .done
  exact h.congr (by simp [RouteFits])

def withMeta (s state : StoredState) : StoredState :=
  { state with
    routerId := s.routerId, routerGeneration := s.routerGeneration
    lastRouterEpoch := s.lastRouterEpoch, lastCoordinatorEpoch := s.lastCoordinatorEpoch
    lastBoot := s.lastBoot, lastPolicyGeneration := s.lastPolicyGeneration
    lastPriceGeneration := s.lastPriceGeneration
    lastBudgetGeneration := s.lastBudgetGeneration, lastSloGeneration := s.lastSloGeneration
    lastCapabilityGeneration := s.lastCapabilityGeneration
    lastModelGeneration := s.lastModelGeneration
    lastBackendGeneration := s.lastBackendGeneration
    savedAtUnixMillis := s.savedAtUnixMillis
    lastStartedAtUnixMillis := s.lastStartedAtUnixMillis, counters := s.counters
    limits := { state.limits with
      maxModels := s.limits.maxModels, maxBackends := s.limits.maxBackends
      maxRouteHistory := s.limits.maxRouteHistory
      maxFallbackCandidates := s.limits.maxFallbackCandidates
      maxExplanationFactors := s.limits.maxExplanationFactors
      maxStringBytes := s.limits.maxStringBytes
      maxCapabilityEntriesPerBackend := s.limits.maxCapabilityEntriesPerBackend
      maxModelBindingsPerBackend := s.limits.maxModelBindingsPerBackend } }

theorem meta_reads (s state : StoredState) :
    Reads (ε := ε) True (writeMeta s) (readMeta state) (withMeta s state) := by
  iterate 29 refine .word ?_
  exact .done

end ModelRouter.Readback
