import Mathlib.Data.List.Sort
import ModelRouter.Base.OrderedMap

namespace ModelRouter.Base

abbrev SecondaryIndex (A K : Type) [LinearOrder A] [LinearOrder K] :=
  OrderedMap A (OrderedMap K Unit)

namespace SecondaryIndex

variable {A K : Type} [LinearOrder A] [LinearOrder K]

def add (index : SecondaryIndex A K) (a : A) (k : K) : SecondaryIndex A K :=
  index.insert a (((index.find? a).getD {}).insert k ())

def remove (index : SecondaryIndex A K) (a : A) (k : K) : SecondaryIndex A K :=
  match index.find? a with
  | none => index
  | some bucket =>
    if (bucket.erase k).entries.isEmpty then index.erase a else index.insert a (bucket.erase k)

/-- The index lists the identity under the attribute. -/
def Lists (index : SecondaryIndex A K) (a : A) (k : K) : Prop :=
  ((index.find? a).getD {}).contains k = true

/-- The index of a relation: it lists what the relation holds of, and no bucket is empty. -/
structure Indexes (index : SecondaryIndex A K) (r : A → K → Prop) : Prop where
  lists : ∀ a k, Lists index a k ↔ r a k
  occupied : ∀ a bucket, index.find? a = some bucket → bucket.entries ≠ []

variable {index : SecondaryIndex A K} {r r' : A → K → Prop} {a b : A} {k j : K}

theorem contains_of_entries {bucket : OrderedMap K Unit} (h : bucket.entries ≠ []) :
    ∃ k, bucket.contains k = true := by
  obtain ⟨e, he⟩ := List.exists_mem_of_ne_nil _ h
  exact ⟨e.1, OrderedMap.contains_iff.mpr ⟨e.2, OrderedMap.mem_entries_iff.mp he⟩⟩

theorem entries_of_contains {bucket : OrderedMap K Unit} (h : bucket.contains k = true) :
    bucket.entries ≠ [] := by
  obtain ⟨v, hv⟩ := OrderedMap.contains_iff.mp h
  exact List.ne_nil_of_mem (OrderedMap.mem_entries_iff.mpr hv)

theorem indexes_empty : Indexes ({} : SecondaryIndex A K) fun _ _ => False := by
  constructor
  · intro a k
    exact iff_of_false (by simp [Lists, OrderedMap.contains]) not_false
  · intro a bucket h
    cases h

theorem Indexes.congr (h : Indexes index r) (hr : ∀ a k, r a k ↔ r' a k) : Indexes index r' :=
  ⟨fun a k => (h.lists a k).trans (hr a k), h.occupied⟩

theorem lists_add : Lists (add index a k) b j ↔ (a = b ∧ k = j) ∨ Lists index b j := by
  rw [Lists, add, OrderedMap.find?_insert]
  by_cases hab : a = b
  · subst hab
    rw [if_pos rfl, Option.getD_some, OrderedMap.contains_insert_iff]
    simp [Lists]
  · rw [if_neg hab]
    simp [hab, Lists]

theorem Indexes.add (h : Indexes index r) (a : A) (k : K) :
    Indexes (add index a k) fun b j => (a = b ∧ k = j) ∨ r b j := by
  constructor
  · intro b j
    rw [lists_add, h.lists]
  · intro b bucket hb
    rw [SecondaryIndex.add, OrderedMap.find?_insert] at hb
    split at hb
    · obtain rfl := Option.some.inj hb
      exact entries_of_contains ((OrderedMap.contains_insert_iff _ k k ()).mpr (.inl rfl))
    · exact h.occupied b bucket hb

theorem lists_remove : Lists (remove index a k) b j ↔ Lists index b j ∧ ¬(a = b ∧ k = j) := by
  unfold remove
  cases ha : index.find? a with
  | none =>
      refine ⟨fun h => ⟨h, ?_⟩, And.left⟩
      rintro ⟨rfl, -⟩
      simp [Lists, ha, OrderedMap.contains] at h
  | some bucket =>
      have herase : (bucket.erase k).contains j = true ↔ bucket.contains j = true ∧ ¬k = j := by
        by_cases hk : k = j <;> simp [OrderedMap.contains, hk]
      by_cases hab : a = b
      · subst hab
        have hlists : Lists index a j ↔ bucket.contains j = true := by
          rw [Lists, ha, Option.getD_some]
        dsimp only
        split
        · rename_i hempty
          have hnone : ¬(bucket.erase k).contains j = true := fun hc =>
            entries_of_contains hc (List.isEmpty_iff.mp hempty)
          rw [Lists, OrderedMap.find?_erase, if_pos rfl, hlists, and_congr_right_iff.mpr fun _ =>
            not_congr (and_iff_right rfl), ← herase]
          exact iff_of_false (by simp [OrderedMap.contains]) hnone
        · rw [Lists, OrderedMap.find?_insert, if_pos rfl, Option.getD_some, herase, hlists]
          simp
      · have hsame : ∀ m : SecondaryIndex A K, m.find? b = index.find? b →
            (Lists m b j ↔ Lists index b j ∧ ¬(a = b ∧ k = j)) := by
          intro m hm
          rw [Lists, hm, ← Lists]
          simp [hab]
        dsimp only
        split
        · exact hsame _ (by rw [OrderedMap.find?_erase, if_neg hab])
        · exact hsame _ (by rw [OrderedMap.find?_insert, if_neg hab])

theorem Indexes.remove (h : Indexes index r) (a : A) (k : K) :
    Indexes (remove index a k) fun b j => r b j ∧ ¬(a = b ∧ k = j) := by
  constructor
  · intro b j
    rw [lists_remove, h.lists]
  · intro b bucket hb
    unfold SecondaryIndex.remove at hb
    split at hb
    · exact h.occupied b bucket hb
    · split at hb
      · rw [OrderedMap.find?_erase] at hb
        split at hb
        · cases hb
        · exact h.occupied b bucket hb
      · rename_i hne
        rw [OrderedMap.find?_insert] at hb
        split at hb
        · obtain rfl := Option.some.inj hb
          simpa using hne
        · exact h.occupied b bucket hb

theorem Indexes.foldl_add (h : Indexes index r) (as : List A) (k : K) :
    Indexes (as.foldl (fun i a => SecondaryIndex.add i a k) index) fun b j =>
      (b ∈ as ∧ k = j) ∨ r b j := by
  induction as generalizing index r with
  | nil => exact h.congr fun b j => by simp
  | cons a as ih =>
      refine (ih (h.add a k)).congr fun b j => ?_
      rw [List.mem_cons, or_and_right, or_left_comm, @eq_comm _ b, or_assoc]

theorem Indexes.foldl_remove (h : Indexes index r) (as : List A) (k : K) :
    Indexes (as.foldl (fun i a => SecondaryIndex.remove i a k) index) fun b j =>
      r b j ∧ ¬(b ∈ as ∧ k = j) := by
  induction as generalizing index r with
  | nil => exact h.congr fun b j => by simp
  | cons a as ih =>
      refine (ih (h.remove a k)).congr fun b j => ?_
      rw [List.mem_cons, or_and_right, not_or, and_assoc, @eq_comm _ b]

theorem Indexes.unique {other : SecondaryIndex A K} (h : Indexes index r) (h' : Indexes other r) :
    index = other := by
  have hbucket (a : A) (k : K) : ((index.find? a).getD {}).contains k =
      ((other.find? a).getD {}).contains k :=
    Bool.eq_iff_iff.mpr ((h.lists a k).trans (h'.lists a k).symm)
  have hsome {m n : SecondaryIndex A K} {a : A} {bucket : OrderedMap K Unit} {s : A → K → Prop}
      (hm : Indexes m s) (hmn : ∀ k, ((m.find? a).getD {}).contains k = ((n.find? a).getD {}).contains k)
      (hb : m.find? a = some bucket) : n.find? a = some bucket := by
    obtain ⟨k, hk⟩ := contains_of_entries (hm.occupied a bucket hb)
    cases hn : n.find? a with
    | none =>
        have hfalse := hmn k
        rw [hb, hn, Option.getD_some, hk] at hfalse
        cases hfalse
    | some found =>
        refine congrArg some (OrderedMap.ext fun j => ?_)
        have hj := hmn j
        rw [hb, hn, Option.getD_some, Option.getD_some] at hj
        unfold OrderedMap.contains at hj
        cases hf : found.find? j <;> cases hb' : bucket.find? j <;> simp_all
  refine OrderedMap.ext fun a => ?_
  cases ha : index.find? a with
  | some bucket => exact (hsome h (hbucket a) ha).symm
  | none =>
      cases ho : other.find? a with
      | none => rfl
      | some bucket =>
          rw [hsome h' (fun k => (hbucket a k).symm) ho] at ha
          cases ha

section

variable {β : Type}

omit [LinearOrder A] in
theorem flatMap_relevant (f : A → List β) (as : List A) :
    as.flatMap f = (as.filter fun a => !(f a).isEmpty).flatMap f := by
  induction as with
  | nil => rfl
  | cons a as ih =>
      cases ha : f a with
      | nil =>
          rw [List.flatMap_cons, ha, List.nil_append, ih, List.filter_cons_of_neg]
          simp [ha]
      | cons b bs =>
          rw [List.flatMap_cons, ih, List.filter_cons_of_pos (by simp [ha]), List.flatMap_cons]

theorem flatMap_eq_of_sorted {f : A → List β} {as bs : List A} (has : as.Pairwise (· < ·))
    (hbs : bs.Pairwise (· < ·)) (h : ∀ a, f a ≠ [] → (a ∈ as ↔ a ∈ bs)) :
    as.flatMap f = bs.flatMap f := by
  rw [flatMap_relevant f as, flatMap_relevant f bs]
  refine congrArg (List.flatMap f) ((has.filter _).eq_of_mem_iff (hbs.filter _) fun a => ?_)
  rw [List.mem_filter, List.mem_filter, Bool.not_eq_true', List.isEmpty_eq_false_iff]
  exact and_congr_left (h a)

theorem Indexes.scan_eq (h : Indexes index r) {f : A → K → Option β} {as : List A} {ks : List K}
    (has : as.Pairwise (· < ·)) (hks : ks.Pairwise (· < ·))
    (hf : ∀ a k, f a k ≠ none → r a k ∧ a ∈ as ∧ k ∈ ks) :
    (index.entries.flatMap fun bucket => bucket.2.keys.filterMap (f bucket.1)) =
      as.flatMap fun a => ks.filterMap (f a) := by
  have hbucket : ∀ bucket ∈ index.entries,
      bucket.2.keys.filterMap (f bucket.1) = ks.filterMap (f bucket.1) := by
    rintro ⟨a, bucket⟩ hentry
    have hfound := OrderedMap.mem_entries_iff.mp hentry
    rw [List.filterMap_eq_flatMap_toList, List.filterMap_eq_flatMap_toList]
    refine flatMap_eq_of_sorted bucket.keys_sorted hks fun k hk => ?_
    have hrelevant := hf a k fun hnone => hk (by rw [hnone, Option.toList_none])
    have hlists := (h.lists a k).mpr hrelevant.1
    rw [Lists, hfound, Option.getD_some] at hlists
    exact iff_of_true (OrderedMap.mem_keys_iff.mpr hlists) hrelevant.2.2
  calc
    index.entries.flatMap (fun bucket => bucket.2.keys.filterMap (f bucket.1))
      = index.entries.flatMap fun bucket => ks.filterMap (f bucket.1) :=
        List.flatMap_congr hbucket
    _ = index.keys.flatMap fun a => ks.filterMap (f a) := by
        rw [OrderedMap.keys, List.flatMap_map]
    _ = as.flatMap fun a => ks.filterMap (f a) := by
        refine flatMap_eq_of_sorted index.keys_sorted has fun a ha => ?_
        obtain ⟨b, hb⟩ := List.exists_mem_of_ne_nil _ ha
        obtain ⟨k, -, hk⟩ := List.mem_filterMap.mp hb
        have hrelevant := hf a k (by rw [hk]; exact Option.some_ne_none b)
        refine iff_of_true (OrderedMap.mem_keys_iff.mpr ?_) hrelevant.2.1
        have hlists := (h.lists a k).mpr hrelevant.1
        rw [OrderedMap.contains, Option.isSome_iff_ne_none]
        intro hnone
        rw [Lists, hnone] at hlists
        cases hlists

end

end SecondaryIndex

end ModelRouter.Base
