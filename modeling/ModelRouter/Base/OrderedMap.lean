import Mathlib.Order.Basic
import Mathlib.Order.Lattice
import Mathlib.Data.List.Basic
import Mathlib.Data.List.Pairwise

namespace ModelRouter.Base

variable {K V W : Type} [LinearOrder K]

/-- A finite map kept as its key-ascending list of entries. -/
structure OrderedMap (K V : Type) [LinearOrder K] where
  entries : List (K × V) := []
  sorted : entries.Pairwise (fun a b => a.1 < b.1) := by exact List.Pairwise.nil

namespace OrderedMap

abbrev empty : OrderedMap K V := {}

def lookup (k : K) : List (K × V) → Option V
  | [] => none
  | e :: es => if e.1 = k then some e.2 else lookup k es

def place (k : K) (v : V) : List (K × V) → List (K × V)
  | [] => [(k, v)]
  | e :: es =>
    if k < e.1 then (k, v) :: e :: es
    else if e.1 = k then (k, v) :: es
    else e :: place k v es

def drop (k : K) : List (K × V) → List (K × V)
  | [] => []
  | e :: es => if e.1 = k then es else e :: drop k es

theorem mem_place {k : K} {v : V} {es : List (K × V)} {e : K × V} (h : e ∈ place k v es) :
    e = (k, v) ∨ e ∈ es := by
  induction es with
  | nil => simpa [place] using h
  | cons d es ih =>
      simp only [place] at h
      split_ifs at h
      · simpa using h
      · rcases List.mem_cons.mp h with h | h
        · exact Or.inl h
        · exact Or.inr (List.mem_cons_of_mem _ h)
      · rcases List.mem_cons.mp h with h | h
        · exact Or.inr (by simp [h])
        · exact (ih h).imp_right (List.mem_cons_of_mem _)

theorem place_sorted {k : K} {v : V} {es : List (K × V)}
    (h : es.Pairwise (fun a b => a.1 < b.1)) : (place k v es).Pairwise (fun a b => a.1 < b.1) := by
  induction es with
  | nil => simp [place]
  | cons e es ih =>
      obtain ⟨he, hes⟩ := List.pairwise_cons.mp h
      simp only [place]
      split_ifs with hlt heq
      · refine List.pairwise_cons.mpr ⟨fun d hd => ?_, h⟩
        rcases List.mem_cons.mp hd with rfl | hd
        · exact hlt
        · exact hlt.trans (he d hd)
      · exact List.pairwise_cons.mpr ⟨fun d hd => heq ▸ he d hd, hes⟩
      · refine List.pairwise_cons.mpr ⟨fun d hd => ?_, ih hes⟩
        rcases mem_place hd with rfl | hd
        · exact lt_of_le_of_ne (not_lt.mp hlt) heq
        · exact he d hd

theorem drop_sublist (k : K) (es : List (K × V)) : (drop k es).Sublist es := by
  induction es with
  | nil => exact List.Sublist.refl _
  | cons e es ih =>
      simp only [drop]
      split_ifs
      · exact List.sublist_cons_self e es
      · exact ih.cons_cons e

theorem lookup_eq_none {k : K} {es : List (K × V)} (h : ∀ e ∈ es, k < e.1) : lookup k es = none := by
  induction es with
  | nil => rfl
  | cons e es ih =>
      have hk := h e List.mem_cons_self
      simp only [lookup, hk.ne', if_false]
      exact ih fun d hd => h d (List.mem_cons_of_mem _ hd)

theorem lookup_place (k j : K) (v : V) {es : List (K × V)}
    (h : es.Pairwise (fun a b => a.1 < b.1)) :
    lookup j (place k v es) = if k = j then some v else lookup j es := by
  induction es with
  | nil => simp [place, lookup]
  | cons e es ih =>
      obtain ⟨he, hes⟩ := List.pairwise_cons.mp h
      simp only [place]
      by_cases hlt : k < e.1
      · rw [if_pos hlt]
        rfl
      · rw [if_neg hlt]
        by_cases heq : e.1 = k
        · rw [if_pos heq]
          by_cases hkj : k = j <;> simp [heq, lookup, hkj]
        · rw [if_neg heq, lookup, ih hes, lookup]
          by_cases hkj : k = j
          · rw [if_neg (hkj ▸ heq), if_pos hkj, if_pos hkj]
          · rw [if_neg hkj, if_neg hkj]

theorem lookup_drop (k j : K) {es : List (K × V)} (h : es.Pairwise (fun a b => a.1 < b.1)) :
    lookup j (drop k es) = if k = j then none else lookup j es := by
  induction es with
  | nil => simp [drop, lookup]
  | cons e es ih =>
      obtain ⟨he, hes⟩ := List.pairwise_cons.mp h
      simp only [drop]
      by_cases hek : e.1 = k
      · rw [if_pos hek, lookup]
        by_cases hkj : k = j
        · rw [if_pos hkj]
          exact lookup_eq_none fun d hd => hkj ▸ hek ▸ he d hd
        · rw [if_neg hkj, if_neg (hek ▸ hkj)]
      · rw [if_neg hek, lookup, ih hes, lookup]
        by_cases hkj : k = j
        · rw [if_neg (hkj ▸ hek), if_pos hkj, if_pos hkj]
        · rw [if_neg hkj, if_neg hkj]

theorem lookup_eq_some_iff {k : K} {v : V} {es : List (K × V)}
    (h : es.Pairwise (fun a b => a.1 < b.1)) : lookup k es = some v ↔ (k, v) ∈ es := by
  induction es with
  | nil => simp [lookup]
  | cons e es ih =>
      obtain ⟨he, hes⟩ := List.pairwise_cons.mp h
      obtain ⟨j, w⟩ := e
      by_cases hjk : j = k
      · subst hjk
        have hfresh : (j, v) ∉ es := fun hm => lt_irrefl j (he _ hm)
        simp [lookup, hfresh, eq_comm]
      · have hkj : ¬k = j := fun h => hjk h.symm
        simp [lookup, hjk, hkj, ih hes]

theorem place_append {k : K} {v : V} {front back : List (K × V)} (h : ∀ e ∈ front, e.1 < k) :
    place k v (front ++ back) = front ++ place k v back := by
  induction front with
  | nil => rfl
  | cons e front ih =>
      have he := h e List.mem_cons_self
      rw [List.cons_append, place, if_neg he.not_gt, if_neg he.ne,
        ih fun d hd => h d (List.mem_cons_of_mem e hd), List.cons_append]

theorem drop_append {k : K} {front back : List (K × V)} (h : ∀ e ∈ front, e.1 < k) :
    drop k (front ++ back) = front ++ drop k back := by
  induction front with
  | nil => rfl
  | cons e front ih =>
      have he := h e List.mem_cons_self
      rw [List.cons_append, drop, if_neg he.ne, ih fun d hd => h d (List.mem_cons_of_mem e hd),
        List.cons_append]

theorem lookup_append {k : K} {front back : List (K × V)} (h : ∀ e ∈ front, e.1 < k) :
    lookup k (front ++ back) = lookup k back := by
  induction front with
  | nil => rfl
  | cons e front ih =>
      have he := h e List.mem_cons_self
      rw [List.cons_append, lookup, if_neg he.ne, ih fun d hd => h d (List.mem_cons_of_mem e hd)]

def find? (m : OrderedMap K V) (k : K) : Option V :=
  lookup k m.entries

def contains (m : OrderedMap K V) (k : K) : Bool :=
  (find? m k).isSome

def insert (m : OrderedMap K V) (k : K) (v : V) : OrderedMap K V :=
  ⟨place k v m.entries, place_sorted m.sorted⟩

def erase (m : OrderedMap K V) (k : K) : OrderedMap K V :=
  ⟨drop k m.entries, m.sorted.sublist (drop_sublist k m.entries)⟩

def map (f : K → V → W) (m : OrderedMap K V) : OrderedMap K W :=
  ⟨m.entries.map fun e => (e.1, f e.1 e.2), List.pairwise_map.mpr m.sorted⟩

def size (m : OrderedMap K V) : Nat :=
  m.entries.length

def keys (m : OrderedMap K V) : List K :=
  m.entries.map Prod.fst

def values (m : OrderedMap K V) : List V :=
  m.entries.map Prod.snd

def ofList (es : List (K × V)) : OrderedMap K V :=
  es.foldl (fun m e => insert m e.1 e.2) {}

@[simp] theorem find?_empty (k : K) : find? ({} : OrderedMap K V) k = none := rfl

@[simp] theorem find?_insert (m : OrderedMap K V) (k j : K) (v : V) :
    find? (insert m k v) j = if k = j then some v else find? m j :=
  lookup_place k j v m.sorted

@[simp] theorem find?_erase (m : OrderedMap K V) (k j : K) :
    find? (erase m k) j = if k = j then none else find? m j :=
  lookup_drop k j m.sorted

@[simp] theorem find?_map (f : K → V → W) (m : OrderedMap K V) (k : K) :
    find? (map f m) k = (find? m k).map (f k) := by
  have hl (es : List (K × V)) :
      lookup k (es.map fun e => (e.1, f e.1 e.2)) = (lookup k es).map (f k) := by
    induction es with
    | nil => rfl
    | cons e es ih => by_cases he : e.1 = k <;> simp [lookup, he, ih]
  exact hl m.entries

theorem find?_foldl_erase (ks : List K) (m : OrderedMap K V) (k : K) :
    find? (ks.foldl erase m) k = if k ∈ ks then none else find? m k := by
  induction ks generalizing m with
  | nil => rfl
  | cons j ks ih =>
      rw [List.foldl_cons, ih, find?_erase]
      by_cases hj : j = k
      · simp [hj]
      · simp [hj, Ne.symm hj]

theorem find?_insert_self (m : OrderedMap K V) (k : K) (v : V) : find? (insert m k v) k = some v := by
  simp

theorem find?_insert_ne (m : OrderedMap K V) {k j : K} (v : V) (h : k ≠ j) :
    find? (insert m k v) j = find? m j := by
  simp [h]

theorem contains_iff {m : OrderedMap K V} {k : K} : contains m k = true ↔ ∃ v, find? m k = some v :=
  Option.isSome_iff_exists

theorem contains_insert_iff (m : OrderedMap K V) (k j : K) (v : V) :
    contains (insert m k v) j = true ↔ k = j ∨ contains m j = true := by
  by_cases h : k = j <;> simp [contains, h]

theorem contains_ofList {es : List (K × V)} {k : K} :
    contains (ofList es) k = true ↔ k ∈ es.map Prod.fst := by
  have hfold (m : OrderedMap K V) :
      contains (es.foldl (fun m e => insert m e.1 e.2) m) k = true ↔
        contains m k = true ∨ k ∈ es.map Prod.fst := by
    induction es generalizing m with
    | nil => simp
    | cons e es ih =>
        rw [List.foldl_cons, ih, contains_insert_iff, List.map_cons, List.mem_cons, or_assoc,
          or_left_comm, @eq_comm _ e.1 k]
  rw [ofList, hfold]
  simp [contains]

theorem mem_of_find?_ofList {es : List (K × V)} {k : K} {v : V}
    (h : find? (ofList es) k = some v) : (k, v) ∈ es := by
  have hfold (m : OrderedMap K V) (hm : find? (es.foldl (fun m e => insert m e.1 e.2) m) k = some v) :
      find? m k = some v ∨ (k, v) ∈ es := by
    clear h
    induction es generalizing m with
    | nil => exact .inl hm
    | cons e es ih =>
        rcases ih (insert m e.1 e.2) hm with hinsert | hmem
        · rw [find?_insert] at hinsert
          split at hinsert
          · rename_i hk
            obtain rfl := Option.some.inj hinsert
            exact .inr (hk ▸ List.mem_cons_self)
          · exact .inl hinsert
        · exact .inr (List.mem_cons_of_mem _ hmem)
  exact (hfold {} h).resolve_left (by simp)

theorem find?_ofList [DecidableEq K] (es : List (K × V)) (k : K) :
    find? (ofList es) k = (es.reverse.find? fun e => e.1 = k).map Prod.snd := by
  have hfold (m : OrderedMap K V) :
      find? (es.foldl (fun m e => insert m e.1 e.2) m) k =
        ((es.reverse.find? fun e => e.1 = k).map Prod.snd).or (find? m k) := by
    induction es generalizing m with
    | nil => simp
    | cons e es ih =>
        rw [List.foldl_cons, ih, List.reverse_cons, List.find?_append, find?_insert]
        by_cases hk : e.1 = k <;> cases es.reverse.find? _ <;> simp [hk]
  rw [ofList, hfold, find?_empty, Option.or_none]

theorem find?_ofList_map (f : V → W) (es : List (K × V)) (k : K) :
    find? (ofList (es.map fun e => (e.1, f e.2))) k = (find? (ofList es) k).map f := by
  have hfold (m : OrderedMap K V) (n : OrderedMap K W)
      (h : find? n k = (find? m k).map f) :
      find? ((es.map fun e => (e.1, f e.2)).foldl (fun n e => insert n e.1 e.2) n) k =
        (find? (es.foldl (fun m e => insert m e.1 e.2) m) k).map f := by
    induction es generalizing m n with
    | nil => exact h
    | cons e es ih =>
        refine ih (insert m e.1 e.2) (insert n e.1 (f e.2)) ?_
        rw [find?_insert, find?_insert, h]
        by_cases hk : e.1 = k <;> simp [hk]
  exact hfold {} {} rfl

theorem mem_entries_iff {m : OrderedMap K V} {k : K} {v : V} :
    (k, v) ∈ m.entries ↔ find? m k = some v :=
  (lookup_eq_some_iff m.sorted).symm

theorem mem_values_iff {m : OrderedMap K V} {v : V} :
    v ∈ values m ↔ ∃ k, find? m k = some v := by
  simp [values, ← mem_entries_iff]

theorem mem_keys_iff {m : OrderedMap K V} {k : K} : k ∈ keys m ↔ contains m k = true := by
  simp [keys, contains_iff, ← mem_entries_iff]

@[ext] theorem ext {m n : OrderedMap K V} (h : ∀ k, find? m k = find? n k) : m = n := by
  obtain ⟨es, hes⟩ := m
  obtain ⟨ds, hds⟩ := n
  congr
  refine List.Perm.eq_of_pairwise ?_ hes hds ?_
  · intro a b _ _ hab hba
    exact absurd (hab.trans hba) (lt_irrefl _)
  · have hnd {l : List (K × V)} (hl : l.Pairwise (fun a b => a.1 < b.1)) : l.Nodup :=
      hl.imp fun {a b} hlt heq => by subst heq; exact lt_irrefl _ hlt
    refine (List.perm_ext_iff_of_nodup (hnd hes) (hnd hds)).mpr fun e => ?_
    rw [← lookup_eq_some_iff hes, ← lookup_eq_some_iff hds]
    exact iff_of_eq (congrArg (· = some e.2) (h e.1))

theorem insert_of_find? {m : OrderedMap K V} {k : K} {v : V} (h : find? m k = some v) :
    insert m k v = m := by
  ext j : 1
  rw [find?_insert]
  split
  · rename_i hj
    rw [← hj, h]
  · rfl

theorem keys_sorted (m : OrderedMap K V) : (keys m).Pairwise (· < ·) :=
  List.pairwise_map.mpr m.sorted

theorem keys_nodup (m : OrderedMap K V) : (keys m).Nodup :=
  m.keys_sorted.imp fun h => ne_of_lt h

theorem contains_map (f : K → V → W) (m : OrderedMap K V) (k : K) :
    contains (map f m) k = contains m k := by
  simp only [contains, find?_map, Option.isSome_map]

theorem contains_insert (m : OrderedMap K V) (k j : K) (v : V) :
    contains (insert m k v) j = (decide (k = j) || contains m j) := by
  simp only [contains, find?_insert]
  by_cases hk : k = j <;> simp [hk]

theorem size_eq_length {m : OrderedMap K V} {ks : List K} (hks : ks.Nodup)
    (h : ∀ k, k ∈ ks ↔ contains m k = true) : size m = ks.length := by
  have hperm : (keys m).Perm ks :=
    (List.perm_ext_iff_of_nodup (keys_nodup m) hks).mpr fun k => mem_keys_iff.trans (h k).symm
  have hsize : size m = (keys m).length := (List.length_map ..).symm
  rw [hsize, hperm.length_eq]

theorem size_congr {m : OrderedMap K V} {n : OrderedMap K W}
    (h : ∀ k, contains m k = contains n k) : size m = size n := by
  have hn : size n = (keys n).length := size_eq_length (keys_nodup n) fun k => mem_keys_iff
  rw [hn]
  refine size_eq_length (keys_nodup n) fun k => ?_
  rw [mem_keys_iff, h]

theorem size_insert (m : OrderedMap K V) (k : K) (v : V) :
    size (insert m k v) = if contains m k then size m else size m + 1 := by
  split
  · rename_i hk
    refine size_congr fun j => ?_
    rw [contains_insert]
    by_cases hj : k = j
    · rw [← hj, hk, Bool.or_true]
    · simp [hj]
  · rename_i hk
    have hm : size m = (keys m).length := size_eq_length (keys_nodup m) fun k => mem_keys_iff
    have hnd : (k :: keys m).Nodup :=
      List.nodup_cons.mpr ⟨fun hmem => hk (mem_keys_iff.mp hmem), keys_nodup m⟩
    rw [hm, ← List.length_cons (a := k)]
    refine size_eq_length hnd fun j => ?_
    rw [List.mem_cons, mem_keys_iff, contains_insert, eq_comm, Bool.or_eq_true, decide_eq_true_iff]

end OrderedMap

end ModelRouter.Base
