import ModelRouter.Grounds
import ModelRouter.Sorting

namespace ModelRouter.Merging

open Base.Refusal Bytes Ids Capability Evidence Catalog Request Candidate Eligibility
open Sorting Run Verdicts Grounds

/-- The same requirements with their lists in another order. -/
structure Reorders (r r' : RouteRequirements) : Prop where
  requiredCapabilities : r.requiredCapabilities.Perm r'.requiredCapabilities
  preferredCapabilities : r.preferredCapabilities.Perm r'.preferredCapabilities
  modelAllowlist : r.modelAllowlist.Perm r'.modelAllowlist
  modelDenylist : r.modelDenylist.Perm r'.modelDenylist
  familyAllowlist : r.familyAllowlist.Perm r'.familyAllowlist
  familyDenylist : r.familyDenylist.Perm r'.familyDenylist
  providerAllowlist : r.providerAllowlist.Perm r'.providerAllowlist
  providerDenylist : r.providerDenylist.Perm r'.providerDenylist
  backendAllowlist : r.backendAllowlist.Perm r'.backendAllowlist
  backendDenylist : r.backendDenylist.Perm r'.backendDenylist
  requiredLocalities : r.requiredLocalities.Perm r'.requiredLocalities
  deniedLocalities : r.deniedLocalities.Perm r'.deniedLocalities
  rest : r' =
    { r with
      requiredCapabilities := r'.requiredCapabilities
      preferredCapabilities := r'.preferredCapabilities
      modelAllowlist := r'.modelAllowlist
      modelDenylist := r'.modelDenylist
      familyAllowlist := r'.familyAllowlist
      familyDenylist := r'.familyDenylist
      providerAllowlist := r'.providerAllowlist
      providerDenylist := r'.providerDenylist
      backendAllowlist := r'.backendAllowlist
      backendDenylist := r'.backendDenylist
      requiredLocalities := r'.requiredLocalities
      deniedLocalities := r'.deniedLocalities }

/-- Whoever satisfies the canonical capabilities satisfies every listed one. -/
def NeverWeakens (r : RouteRequirements) : Prop :=
  ∀ (candidate : RouteCandidate) (now : UnixMillis),
    (∀ required ∈ r.canonicalize.requiredCapabilities,
      checkCapability candidate now required = none) →
    ∀ listed ∈ r.requiredCapabilities, checkCapability candidate now listed = none

/-- No capability is listed with two different minimum states. -/
def Coherent (r : RouteRequirements) : Prop :=
  ∀ a ∈ r.requiredCapabilities, ∀ b ∈ r.requiredCapabilities, a.key = b.key →
    a.minimumState = b.minimumState

def capabilityKey (requirement : CapabilityRequirement) : List Nat :=
  requirement.key.map UInt8.toNat

theorem capabilityKey_eq_iff {a b : CapabilityRequirement} :
    capabilityKey a = capabilityKey b ↔ a.key = b.key :=
  text_key_injective.eq_iff

section

variable (a b : CapabilityRequirement)

theorem requirement_before : decide (a.key < b.key) = true ↔ capabilityKey a < capabilityKey b :=
  decide_eq_true_iff.trans text_lt_iff

theorem requirement_same : (a.key == b.key) = true ↔ capabilityKey a = capabilityKey b :=
  beq_iff_eq.trans capabilityKey_eq_iff.symm

end

variable {r r' : RouteRequirements}

theorem Coherent.eq (h : Coherent r) {a b : CapabilityRequirement} (ha : a ∈ r.requiredCapabilities)
    (hb : b ∈ r.requiredCapabilities) (hkey : capabilityKey a = capabilityKey b) : a = b := by
  have hsame := capabilityKey_eq_iff.mp hkey
  have hstate := h a ha b hb hsame
  cases a
  cases b
  cases hsame
  cases hstate
  rfl

theorem sortIds_perm {t : Tag} {xs ys : List (EntityId t)} (h : xs.Perm ys) :
    sortIds xs = sortIds ys :=
  unique_stableSort_perm (fun _ _ => decide_eq_true_iff) (fun _ _ => beq_iff_eq) h
    fun _ _ _ _ => id

theorem sortTexts_perm {xs ys : List Text} (h : xs.Perm ys) :
    unique (· == ·) (stableSort (fun a b => decide (a < b)) xs) =
      unique (· == ·) (stableSort (fun a b => decide (a < b)) ys) := by
  have hbefore (a b : Text) : decide (a < b) = true ↔ a.map UInt8.toNat < b.map UInt8.toNat :=
    decide_eq_true_iff.trans text_lt_iff
  have hsame (a b : Text) : (a == b) = true ↔ a.map UInt8.toNat = b.map UInt8.toNat :=
    beq_iff_eq.trans text_key_injective.eq_iff.symm
  exact unique_stableSort_perm hbefore hsame h fun a _ b _ hkey => text_key_injective hkey

theorem canonicalize_reorders (hcoherent : Coherent r) (h : Reorders r r') :
    r'.canonicalize = r.canonicalize := by
  have hcapabilities := unique_stableSort_perm requirement_before requirement_same
    h.requiredCapabilities fun a ha b hb => hcoherent.eq ha hb
  rw [h.rest]
  simp only [RouteRequirements.canonicalize, RouteRequirements.mk.injEq, true_and, and_true,
    sortLocalities]
  exact ⟨hcapabilities.symm, (sortTexts_perm h.preferredCapabilities).symm,
    (sortIds_perm h.modelAllowlist).symm, (sortIds_perm h.modelDenylist).symm,
    (sortIds_perm h.familyAllowlist).symm, (sortIds_perm h.familyDenylist).symm,
    (sortIds_perm h.providerAllowlist).symm, (sortIds_perm h.providerDenylist).symm,
    (sortIds_perm h.backendAllowlist).symm, (sortIds_perm h.backendDenylist).symm,
    (sortTexts_perm h.requiredLocalities).symm, (sortTexts_perm h.deniedLocalities).symm⟩

theorem Coherent.kept (hcoherent : Coherent r) {listed : CapabilityRequirement}
    (hlisted : listed ∈ r.requiredCapabilities) :
    listed ∈ r.canonicalize.requiredCapabilities := by
  have hkey : capabilityKey listed ∈
      (r.canonicalize.requiredCapabilities).map capabilityKey := by
    refine (mem_map_unique requirement_same).mpr ?_
    exact List.mem_map_of_mem (mem_stableSort.mpr hlisted)
  obtain ⟨kept, hkept, heq⟩ := List.mem_map.mp hkey
  have hmem : kept ∈ r.requiredCapabilities := mem_stableSort.mp (mem_of_mem_unique hkept)
  rwa [← hcoherent.eq hmem hlisted heq]

theorem Coherent.neverWeakens (hcoherent : Coherent r) : NeverWeakens r :=
  fun _ _ hcanonical listed hlisted => hcanonical listed (hcoherent.kept hlisted)

def promote (r : RouteRequirements) (first : CapabilityRequirement) : RouteRequirements :=
  { r with requiredCapabilities := first :: r.requiredCapabilities.erase first }

theorem promote_reorders {first : CapabilityRequirement} (h : first ∈ r.requiredCapabilities) :
    Reorders r (promote r first) := by
  constructor
  case requiredCapabilities => exact List.perm_cons_erase h
  case rest => rfl
  all_goals exact .rfl

theorem promote_kept (r : RouteRequirements) (first : CapabilityRequirement) :
    (promote r first).canonicalize.requiredCapabilities.find? (fun z => z.key = first.key) =
      some first := by
  have hheld (z : CapabilityRequirement) :
      decide (z.key = first.key) = true ↔ capabilityKey z = capabilityKey first :=
    decide_eq_true_iff.trans capabilityKey_eq_iff.symm
  have hfind := find?_unique_stableSort requirement_before requirement_same hheld
    (promote r first).requiredCapabilities
  exact hfind.trans (List.find?_cons_of_pos (decide_eq_true rfl))

/-- The canonical form is independent of the order of the lists, and as strict as they are, exactly
where no capability is listed with two minimum states. -/
theorem canonicalize_iff (r : RouteRequirements) :
    (∀ r', Reorders r r' → r'.canonicalize = r.canonicalize) ∧ NeverWeakens r ↔ Coherent r := by
  constructor
  · rintro ⟨hindependent, -⟩ a ha b hb hkey
    have hcanonical : (promote r a).canonicalize = (promote r b).canonicalize :=
      (hindependent _ (promote_reorders ha)).trans (hindependent _ (promote_reorders hb)).symm
    have hkept := promote_kept r a
    rw [hcanonical, hkey, promote_kept r b] at hkept
    rw [Option.some.inj hkept]
  · intro hcoherent
    exact ⟨fun _ => canonicalize_reorders hcoherent, hcoherent.neverWeakens⟩

section

/-- One capability listed twice, the weaker minimum first. -/
def twiceListed : RouteRequirements where
  requiredCapabilities :=
    [{ key := "task/code", minimumState := .declared },
      { key := "task/code", minimumState := .verified }]

/-- A candidate whose model declares the capability and has not proved it. -/
def declaringCandidate : RouteCandidate where
  model := { capabilities := { entries := [{ key := "task/code", state := .declared }] } }

/-- The canonical form of a capability listed twice lets a candidate pass that the list does not. -/
theorem twice_listed_weakens :
    ¬((∀ r', Reorders twiceListed r' → r'.canonicalize = twiceListed.canonicalize) ∧
      NeverWeakens twiceListed) := by
  rintro ⟨-, hstrict⟩
  have hcanonical : ∀ required ∈ twiceListed.canonicalize.requiredCapabilities,
      checkCapability declaringCandidate 0 required = none := by decide
  have hlisted := hstrict declaringCandidate 0 hcanonical
    { key := "task/code", minimumState := .verified } (by decide)
  exact absurd hlisted (by decide)

end

end ModelRouter.Merging
