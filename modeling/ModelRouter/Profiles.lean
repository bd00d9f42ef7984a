import ModelRouter.Base.Bisection
import ModelRouter.Base.OrderedMap
import ModelRouter.Capability
import ModelRouter.Sorting

namespace ModelRouter.Profiles

open Base OrderedMap Bytes Ids Capability CapabilityProfile Sorting

inductive Call where
  | set (evidence : CapabilityEvidence) (maxEntries : UInt32)
  | erase (key : CapabilityKey)
deriving DecidableEq, Repr

/-- The profile a call leaves; `none` when the call answers `false`. -/
def Call.answer (p : CapabilityProfile) : Call → Option CapabilityProfile
  | .set evidence maxEntries => p.set evidence maxEntries
  | .erase key => p.erase key

/-- A profile with the calls it accepted, the latest one first. -/
structure Session where
  profile : CapabilityProfile
  accepted : List Call := []

def Session.call (s : Session) (c : Call) : Session :=
  match c.answer s.profile with
  | some next => { profile := next, accepted := c :: s.accepted }
  | none => s

/-- The calls made, in their order, on a profile that was just built. -/
def run (id : CapabilityProfileId) (generation : CapabilityGeneration) (calls : List Call) :
    Session :=
  calls.foldl Session.call { profile := { id := id, generation := generation } }

def lastSet (key : CapabilityKey) : List Call → Option CapabilityEvidence
  | [] => none
  | .set evidence _ :: earlier => if evidence.key = key then some evidence else lastSet key earlier
  | .erase erased :: earlier => if erased = key then none else lastSet key earlier

def Ordered (p : CapabilityProfile) : Prop :=
  p.entries.Pairwise fun a b => a.key < b.key

/-- What holds of a profile between two calls. -/
structure FiniteMap (s : Session) : Prop where
  sorted : Ordered s.profile
  unique : (s.profile.entries.map CapabilityEvidence.key).Nodup
  found : ∀ key, s.profile.find key = lastSet key s.accepted
  bounded : ∀ evidence maxEntries next, s.profile.set evidence maxEntries = some next →
    s.profile.find evidence.key = none → next.entries.length ≤ maxEntries.toNat
  unchanged : ∀ c : Call, c.answer s.profile = none → (s.call c).profile = s.profile
  setRefused : ∀ evidence maxEntries, s.profile.set evidence maxEntries = none ↔
    lastSet evidence.key s.accepted = none ∧ maxEntries.toNat ≤ s.profile.entries.length
  eraseRefused : ∀ key, s.profile.erase key = none ↔ lastSet key s.accepted = none
  /-- The halving search of the standard library lands where the entries are split. -/
  searched : ∀ key, split key s.profile.entries =
    s.profile.entries.splitAt
      (Bisection.lowerBound (fun entry => entry.key < key) s.profile.entries)

section

def rank (key : CapabilityKey) : List ℕ :=
  key.map UInt8.toNat

def view (entries : List CapabilityEvidence) : List (List ℕ × CapabilityEvidence) :=
  entries.map fun entry => (rank entry.key, entry)

variable {p next : CapabilityProfile} {key : CapabilityKey} {evidence existing : CapabilityEvidence}
  {entries below rest above : List CapabilityEvidence} {maxEntries : UInt32}

theorem key_lt_iff {a b : CapabilityKey} : a < b ↔ rank a < rank b :=
  text_lt_iff

theorem rank_eq_iff {a b : CapabilityKey} : rank a = rank b ↔ a = b :=
  text_key_injective.eq_iff

theorem ordered_iff : Ordered p ↔ (view p.entries).Pairwise fun a b => a.1 < b.1 := by
  rw [view, List.pairwise_map]
  simp only [Ordered, key_lt_iff]

theorem view_append : view (below ++ rest) = view below ++ view rest :=
  List.map_append

theorem split_append (h : split key entries = (below, rest)) : below ++ rest = entries := by
  obtain ⟨rfl, rfl⟩ := Prod.mk.inj h
  exact List.takeWhile_append_dropWhile

theorem split_below (h : split key entries = (below, rest)) : ∀ e ∈ view below, e.1 < rank key := by
  obtain ⟨rfl, -⟩ := Prod.mk.inj h
  intro e he
  obtain ⟨entry, hentry, rfl⟩ := List.mem_map.mp he
  have hlt := List.mem_takeWhile_imp hentry
  exact key_lt_iff.mp (of_decide_eq_true hlt)

theorem split_head (h : split key entries = (below, existing :: above)) :
    rank key ≤ rank existing.key := by
  obtain ⟨-, hrest⟩ := Prod.mk.inj h
  have hhead := List.head?_dropWhile_not (fun entry : CapabilityEvidence => entry.key < key) entries
  rw [hrest, List.head?_cons] at hhead
  rw [← not_lt, ← key_lt_iff]
  simpa using hhead

theorem set_eq_none_iff :
    p.set evidence maxEntries = none ↔
      p.find evidence.key = none ∧ maxEntries.toNat ≤ p.entries.length := by
  rw [CapabilityProfile.set, CapabilityProfile.find]
  rcases hsplit : split evidence.key p.entries with ⟨below, _ | ⟨existing, above⟩⟩
  · simp
  · by_cases hkey : existing.key = evidence.key
    · simp [hkey]
    · simp [hkey]

theorem erase_eq_none_iff : p.erase key = none ↔ p.find key = none := by
  rw [CapabilityProfile.erase, CapabilityProfile.find]
  rcases hsplit : split key p.entries with ⟨below, _ | ⟨existing, above⟩⟩
  · simp
  · by_cases hkey : existing.key = key
    · simp [hkey]
    · simp [hkey]

theorem set_view (h : p.set evidence maxEntries = some next) :
    view next.entries = place (rank evidence.key) evidence (view p.entries) := by
  rw [CapabilityProfile.set] at h
  rcases hsplit : split evidence.key p.entries with ⟨below, _ | ⟨existing, above⟩⟩
  all_goals
    rw [hsplit] at h
    rw [← split_append hsplit, view_append, place_append (split_below hsplit)]
    dsimp only at h
  · split at h
    · cases h
    · obtain rfl := Option.some.inj h
      rw [view_append]
      rfl
  · have hhead := split_head hsplit
    split at h
    · rename_i hkey
      obtain rfl := Option.some.inj h
      rw [view_append]
      simp [view, place, hkey]
    · rename_i hkey
      have hlt : rank evidence.key < rank existing.key :=
        lt_of_le_of_ne hhead fun heq => hkey (rank_eq_iff.mp heq).symm
      split at h
      · cases h
      · obtain rfl := Option.some.inj h
        rw [view_append]
        simp [view, place, hlt]

theorem set_length (h : p.set evidence maxEntries = some next)
    (hfind : p.find evidence.key = none) : next.entries.length ≤ maxEntries.toNat := by
  have hlen := congrArg List.length (set_view h)
  have hroom : ¬maxEntries.toNat ≤ p.entries.length := fun hfull => by
    rw [set_eq_none_iff.mpr ⟨hfind, hfull⟩] at h
    cases h
  have hgrow : ∀ es : List (List ℕ × CapabilityEvidence),
      (place (rank evidence.key) evidence es).length ≤ es.length + 1 := by
    intro es
    induction es with
    | nil => simp [place]
    | cons e es ih =>
        rw [place]
        split
        · simp
        · split
          · simp
          · simpa using ih
  have hmore := hgrow (view p.entries)
  rw [← hlen, view, view, List.length_map, List.length_map] at hmore
  omega

theorem find_view (hp : Ordered p) : p.find key = lookup (rank key) (view p.entries) := by
  have hsorted := ordered_iff.mp hp
  rw [CapabilityProfile.find]
  rcases hsplit : split key p.entries with ⟨below, _ | ⟨existing, above⟩⟩
  all_goals
    rw [← split_append hsplit, view_append] at hsorted ⊢
    rw [lookup_append (split_below hsplit)]
  · rfl
  · have hhead := split_head hsplit
    by_cases hkey : existing.key = key
    · simp [view, lookup, hkey]
    · have hlt : rank key < rank existing.key :=
        lt_of_le_of_ne hhead fun heq => hkey (rank_eq_iff.mp heq).symm
      have hrest := (List.pairwise_cons.mp (List.pairwise_append.mp hsorted).2.1).1
      have hnone : lookup (rank key) (view above) = none :=
        lookup_eq_none fun e he => hlt.trans (hrest e he)
      simpa [view, lookup, hkey, rank_eq_iff] using hnone.symm

theorem erase_view (h : p.erase key = some next) :
    view next.entries = drop (rank key) (view p.entries) := by
  rw [CapabilityProfile.erase] at h
  rcases hsplit : split key p.entries with ⟨below, _ | ⟨existing, above⟩⟩
  all_goals
    rw [hsplit] at h
    dsimp only at h
  · cases h
  · rw [← split_append hsplit, view_append, drop_append (split_below hsplit)]
    split at h
    · rename_i hkey
      obtain rfl := Option.some.inj h
      rw [view_append]
      simp [view, drop, hkey]
    · cases h

end

section

variable {s : Session}

def Recorded (s : Session) : Prop :=
  Ordered s.profile ∧ ∀ key, s.profile.find key = lastSet key s.accepted

theorem call_recorded (h : Recorded s) (c : Call) : Recorded (s.call c) := by
  obtain ⟨hordered, hfind⟩ := h
  have hsorted := ordered_iff.mp hordered
  rw [Session.call]
  split
  · rename_i next hanswer
    cases c with
    | set evidence maxEntries =>
        have hview := set_view hanswer
        have hnext : Ordered next := by
          rw [ordered_iff, hview]
          exact place_sorted hsorted
        refine ⟨hnext, fun key => ?_⟩
        rw [find_view hnext, hview, lookup_place _ _ _ hsorted, ← find_view hordered, hfind,
          lastSet]
        simp only [rank_eq_iff]
    | erase erased =>
        have hview := erase_view hanswer
        have hnext : Ordered next := by
          rw [ordered_iff, hview]
          exact hsorted.sublist (drop_sublist _ _)
        refine ⟨hnext, fun key => ?_⟩
        rw [find_view hnext, hview, lookup_drop _ _ hsorted, ← find_view hordered, hfind, lastSet]
        simp only [rank_eq_iff]
  · exact ⟨hordered, hfind⟩

theorem run_recorded (id : CapabilityProfileId) (generation : CapabilityGeneration)
    (calls : List Call) : Recorded (run id generation calls) := by
  have hfold (s : Session) (hs : Recorded s) : Recorded (calls.foldl Session.call s) := by
    induction calls generalizing s with
    | nil => exact hs
    | cons c calls ih => exact ih _ (call_recorded hs c)
  exact hfold _ ⟨List.Pairwise.nil, fun key => rfl⟩

theorem ordered_partitioned {p : CapabilityProfile} (hp : Ordered p) (key : CapabilityKey) :
    Bisection.Partitioned (fun entry => entry.key < key) p.entries := by
  refine hp.imp fun {a b} hab hb => ?_
  rw [decide_eq_true_eq, key_lt_iff] at hb ⊢
  exact (key_lt_iff.mp hab).trans hb

/-- After any calls a profile is the finite map of what was last set and not erased since. -/
theorem run_finiteMap (id : CapabilityProfileId) (generation : CapabilityGeneration)
    (calls : List Call) : FiniteMap (run id generation calls) := by
  obtain ⟨hordered, hfind⟩ := run_recorded id generation calls
  have hranks := (List.pairwise_map.mpr hordered :
    ((run id generation calls).profile.entries.map CapabilityEvidence.key).Pairwise (· < ·))
  refine
    { sorted := hordered
      unique := hranks.imp fun hab heq => (key_lt_iff.mp hab).ne (congrArg rank heq)
      found := hfind
      bounded := fun evidence maxEntries next => set_length
      unchanged := fun c hnone => by rw [Session.call, hnone]
      setRefused := fun evidence maxEntries => by rw [set_eq_none_iff, hfind]
      eraseRefused := fun key => by rw [erase_eq_none_iff, hfind]
      searched := fun key => ?_ }
  have hcut := ordered_partitioned hordered key
  rw [List.splitAt_eq, split, Bisection.takeWhile_eq_take hcut, Bisection.dropWhile_eq_drop hcut]

end

end ModelRouter.Profiles
