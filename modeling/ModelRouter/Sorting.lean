import Mathlib.Data.List.Lex
import ModelRouter.Bytes

namespace ModelRouter.Sorting

open Bytes

variable {α κ : Type} {before : α → α → Bool}

theorem text_lt_iff {a b : Text} : a < b ↔ a.map UInt8.toNat < b.map UInt8.toNat := by
  induction a generalizing b with
  | nil => cases b <;> simp
  | cons x xs ih =>
      cases b with
      | nil => simp
      | cons y ys =>
          simp only [List.map_cons, List.cons_lt_cons_iff, ih, UInt8.lt_iff_toNat_lt,
            UInt8.toNat_inj]

theorem text_key_injective : Function.Injective (List.map UInt8.toNat) :=
  List.map_injective_iff.mpr fun _ _ => UInt8.toNat_inj.mp

theorem stableSort_perm (before : α → α → Bool) (xs : List α) : (stableSort before xs).Perm xs :=
  List.perm_insertionSort _ xs

theorem mem_stableSort {xs : List α} {x : α} : x ∈ stableSort before xs ↔ x ∈ xs :=
  (stableSort_perm before xs).mem_iff

theorem stableSort_map {β : Type} {before' : β → β → Bool} {f : α → β}
    (h : ∀ a b, before' (f a) (f b) = before a b) (xs : List α) :
    stableSort before' (xs.map f) = (stableSort before xs).map f := by
  refine (List.map_insertionSort _ _ f xs fun a _ b _ => ?_).symm
  rw [h]

variable [LinearOrder κ] {key : α → κ}

theorem stableSort_sorted (hbefore : ∀ a b, before a b = true ↔ key a < key b) (xs : List α) :
    (stableSort before xs).Pairwise fun a b => key a ≤ key b := by
  have hle (a b : α) : (!before b a) = true ↔ key a ≤ key b := by
    rw [Bool.not_eq_true', Bool.eq_false_iff, ne_eq, hbefore, not_lt]
  have htotal : Std.Total fun a b => (!before b a) = true :=
    ⟨fun a b => by simpa only [hle] using le_total (key a) (key b)⟩
  have htrans : IsTrans α fun a b => (!before b a) = true :=
    ⟨fun a b c => by simpa only [hle] using le_trans⟩
  have hsorted := List.pairwise_insertionSort (fun a b => (!before b a) = true) xs
  exact hsorted.imp fun h => (hle _ _).mp h

theorem stableSort_strict (hbefore : ∀ a b, before a b = true ↔ key a < key b) {xs : List α}
    (hxs : (xs.map key).Nodup) : (stableSort before xs).Pairwise fun a b => before a b = true := by
  have hnodup : ((stableSort before xs).map key).Nodup :=
    ((stableSort_perm before xs).map key).nodup_iff.mpr hxs
  have hne := List.pairwise_map.mp hnodup
  refine ((stableSort_sorted hbefore xs).and hne).imp ?_
  rintro a b ⟨hle, hab⟩
  exact (hbefore a b).mpr (lt_of_le_of_ne hle hab)

theorem strict_iff_stableSort (hbefore : ∀ a b, before a b = true ↔ key a < key b) {xs ys : List α}
    (hxs : (xs.map key).Nodup) (hperm : ys.Perm xs) :
    (ys.Pairwise fun a b => before a b = true) ↔ ys = stableSort before xs := by
  have hstrict := stableSort_strict hbefore hxs
  constructor
  · intro hys
    refine List.Perm.eq_of_pairwise (fun a b _ _ hab hba => ?_) hys hstrict
      (hperm.trans (stableSort_perm before xs).symm)
    exact absurd ((hbefore b a).mp hba) (lt_asymm ((hbefore a b).mp hab))
  · rintro rfl
    exact hstrict

theorem find?_stableSort (hbefore : ∀ a b, before a b = true ↔ key a < key b) {k : κ}
    {held : α → Bool} (hat : ∀ z, held z = true ↔ key z = k) (xs : List α) :
    (stableSort before xs).find? held = xs.find? held := by
  have hplace (a : α) (ys : List α) :
      (ys.orderedInsert (fun a b => (!before b a) = true) a).find? held = (a :: ys).find? held := by
    induction ys with
    | nil => rfl
    | cons y rest ih =>
        rw [List.orderedInsert_cons]
        split
        · rfl
        · rename_i hafter
          have hlt : key y < key a := (hbefore y a).mp (by simpa using hafter)
          rw [List.find?_cons, ih]
          cases ha : held a with
          | true =>
              have hy : held y = false := by
                rw [Bool.eq_false_iff, ne_eq, hat, ← (hat a).mp ha]
                exact hlt.ne
              rw [hy, List.find?_cons, ha, List.find?_cons, ha]
          | false => simp only [List.find?_cons, ha]
  rw [stableSort]
  induction xs with
  | nil => rfl
  | cons x rest ih => rw [List.insertionSort_cons, hplace, List.find?_cons, List.find?_cons, ih]

theorem stableSort_eq_self (hbefore : ∀ a b, before a b = true ↔ key a < key b) {xs : List α}
    (hsorted : xs.Pairwise fun a b => key a ≤ key b) : stableSort before xs = xs := by
  refine List.Pairwise.insertionSort_eq (hsorted.imp fun {a b} h => ?_)
  rw [Bool.not_eq_true', Bool.eq_false_iff, ne_eq, hbefore, not_lt]
  exact h

section

variable {same : α → α → Bool}

theorem mem_of_mem_uniqueFrom {x y : α} {xs : List α} (h : y ∈ uniqueFrom same x xs) :
    y ∈ x :: xs := by
  induction xs generalizing x with
  | nil => exact h
  | cons z rest ih =>
      rw [uniqueFrom] at h
      split at h
      · exact List.mem_cons.mpr ((List.mem_cons.mp (ih h)).imp_right (List.mem_cons_of_mem z))
      · rcases List.mem_cons.mp h with rfl | hrest
        · exact List.mem_cons_self
        · exact List.mem_cons_of_mem x (ih hrest)

theorem mem_of_mem_unique {y : α} {xs : List α} (h : y ∈ unique same xs) : y ∈ xs := by
  cases xs with
  | nil => exact h
  | cons x rest => exact mem_of_mem_uniqueFrom h

omit [LinearOrder κ] in
theorem exists_mem_uniqueFrom (hsame : ∀ a b, same a b = true ↔ key a = key b) {x z : α}
    {xs : List α} (hz : z ∈ x :: xs) : ∃ y ∈ uniqueFrom same x xs, key y = key z := by
  induction xs generalizing x z with
  | nil => exact ⟨x, List.mem_singleton_self x, by rw [List.mem_singleton.mp hz]⟩
  | cons y rest ih =>
      rw [uniqueFrom]
      split
      · rename_i heq
        have hfirst : key x = key y := (hsame x y).mp heq
        rcases List.mem_cons.mp hz with hx | hz
        · obtain ⟨w, hw, hkey⟩ := ih (x := x) (z := x) List.mem_cons_self
          exact ⟨w, hw, by rw [hkey, hx]⟩
        · rcases List.mem_cons.mp hz with hy | hz
          · obtain ⟨w, hw, hkey⟩ := ih (x := x) (z := x) List.mem_cons_self
            exact ⟨w, hw, by rw [hkey, hy, hfirst]⟩
          · exact ih (List.mem_cons_of_mem x hz)
      · rcases List.mem_cons.mp hz with rfl | hz
        · exact ⟨z, List.mem_cons_self, rfl⟩
        · obtain ⟨w, hw, hkey⟩ := ih hz
          exact ⟨w, List.mem_cons_of_mem x hw, hkey⟩

omit [LinearOrder κ] in
theorem mem_map_unique (hsame : ∀ a b, same a b = true ↔ key a = key b) {xs : List α} {k : κ} :
    k ∈ (unique same xs).map key ↔ k ∈ xs.map key := by
  constructor
  · intro hk
    obtain ⟨y, hy, rfl⟩ := List.mem_map.mp hk
    exact List.mem_map_of_mem (mem_of_mem_unique hy)
  · intro hk
    obtain ⟨z, hz, rfl⟩ := List.mem_map.mp hk
    cases xs with
    | nil => cases hz
    | cons x rest =>
        obtain ⟨y, hy, hkey⟩ := exists_mem_uniqueFrom hsame hz
        exact hkey ▸ List.mem_map_of_mem hy

omit [LinearOrder κ] in
theorem find?_uniqueFrom (hsame : ∀ a b, same a b = true ↔ key a = key b) {k : κ}
    {held : α → Bool} (hheld : ∀ z, held z = true ↔ key z = k) (x : α) (xs : List α) :
    (uniqueFrom same x xs).find? held = (x :: xs).find? held := by
  induction xs generalizing x with
  | nil => rfl
  | cons y rest ih =>
      rw [uniqueFrom]
      split
      · rename_i heq
        have hfirst : held x = held y := by
          rw [Bool.eq_iff_iff, hheld, hheld, (hsame x y).mp heq]
        rw [ih, List.find?_cons, List.find?_cons, List.find?_cons, ← hfirst]
        cases held x with
        | true => rfl
        | false => rfl
      · rw [List.find?_cons, List.find?_cons, ih]

omit [LinearOrder κ] in
theorem find?_unique (hsame : ∀ a b, same a b = true ↔ key a = key b) {k : κ} {held : α → Bool}
    (hheld : ∀ z, held z = true ↔ key z = k) (xs : List α) :
    (unique same xs).find? held = xs.find? held := by
  cases xs with
  | nil => rfl
  | cons x rest => exact find?_uniqueFrom hsame hheld x rest

theorem uniqueFrom_strict (hsame : ∀ a b, same a b = true ↔ key a = key b) {x : α} {xs : List α}
    (hsorted : (x :: xs).Pairwise fun a b => key a ≤ key b) :
    (uniqueFrom same x xs).Pairwise fun a b => key a < key b := by
  induction xs generalizing x with
  | nil => exact List.pairwise_singleton _ x
  | cons y rest ih =>
      obtain ⟨hx, hrest⟩ := List.pairwise_cons.mp hsorted
      rw [uniqueFrom]
      split
      · refine ih (List.pairwise_cons.mpr ⟨?_, (List.pairwise_cons.mp hrest).2⟩)
        exact fun z hz => hx z (List.mem_cons_of_mem y hz)
      · rename_i hne
        rw [hsame] at hne
        refine List.pairwise_cons.mpr ⟨fun z hz => ?_, ih hrest⟩
        have hy : key x < key y := lt_of_le_of_ne (hx y List.mem_cons_self) hne
        rcases List.mem_cons.mp (mem_of_mem_uniqueFrom hz) with rfl | hz
        · exact hy
        · exact hy.trans_le ((List.pairwise_cons.mp hrest).1 z hz)

theorem unique_strict (hsame : ∀ a b, same a b = true ↔ key a = key b) {xs : List α}
    (hsorted : xs.Pairwise fun a b => key a ≤ key b) :
    (unique same xs).Pairwise fun a b => key a < key b := by
  cases xs with
  | nil => exact .nil
  | cons x rest => exact uniqueFrom_strict hsame hsorted

theorem unique_keys_eq (hsame : ∀ a b, same a b = true ↔ key a = key b) {xs ys : List α}
    (hperm : xs.Perm ys) (hxs : xs.Pairwise fun a b => key a ≤ key b)
    (hys : ys.Pairwise fun a b => key a ≤ key b) :
    (unique same xs).map key = (unique same ys).map key := by
  have hx := List.pairwise_map.mpr (unique_strict hsame hxs)
  have hy := List.pairwise_map.mpr (unique_strict hsame hys)
  refine List.Perm.eq_of_pairwise (fun a b _ _ hab hba => absurd hba (lt_asymm hab)) hx hy ?_
  refine (List.perm_ext_iff_of_nodup (hx.imp ne_of_lt) (hy.imp ne_of_lt)).mpr fun k => ?_
  rw [mem_map_unique hsame, mem_map_unique hsame]
  exact (hperm.map key).mem_iff

theorem unique_map_eq {β : Type} {f : α → β} (hsame : ∀ a b, same a b = true ↔ key a = key b)
    {xs ys : List α} (hperm : xs.Perm ys) (hxs : xs.Pairwise fun a b => key a ≤ key b)
    (hys : ys.Pairwise fun a b => key a ≤ key b)
    (hf : ∀ a ∈ xs, ∀ b ∈ xs, key a = key b → f a = f b) :
    (unique same xs).map f = (unique same ys).map f := by
  let g (k : κ) : Option β := (xs.find? fun x => key x = k).map f
  have hg (a : α) (ha : a ∈ xs) : some (f a) = g (key a) := by
    have hsome : (xs.find? fun x => key x = key a).isSome :=
      List.find?_isSome.mpr ⟨a, ha, decide_eq_true rfl⟩
    obtain ⟨b, hb⟩ := Option.isSome_iff_exists.mp hsome
    have hkey : key b = key a := by simpa using List.find?_some hb
    simp only [g, hb, Option.map_some]
    exact congrArg some (hf a ha b (List.mem_of_find?_eq_some hb) hkey.symm)
  have hmap (zs : List α) (hzs : ∀ z ∈ unique same zs, z ∈ xs) :
      ((unique same zs).map f).map some = ((unique same zs).map key).map g := by
    rw [List.map_map, List.map_map]
    exact List.map_congr_left fun a ha => hg a (hzs a ha)
  have heq := unique_keys_eq hsame hperm hxs hys
  refine List.map_injective_iff.mpr (Option.some_injective β) ?_
  rw [hmap xs fun z hz => mem_of_mem_unique hz,
    hmap ys fun z hz => hperm.mem_iff.mpr (mem_of_mem_unique hz), heq]

theorem unique_stableSort_perm (hbefore : ∀ a b, before a b = true ↔ key a < key b)
    (hsame : ∀ a b, same a b = true ↔ key a = key b) {xs ys : List α} (hperm : xs.Perm ys)
    (hcoherent : ∀ a ∈ xs, ∀ b ∈ xs, key a = key b → a = b) :
    unique same (stableSort before xs) = unique same (stableSort before ys) := by
  have hsorted := ((stableSort_perm before xs).trans hperm).trans (stableSort_perm before ys).symm
  have hmap := unique_map_eq (f := id) hsame hsorted (stableSort_sorted hbefore xs)
    (stableSort_sorted hbefore ys) fun a ha b hb =>
      hcoherent a (mem_stableSort.mp ha) b (mem_stableSort.mp hb)
  rwa [List.map_id, List.map_id] at hmap

theorem find?_unique_stableSort (hbefore : ∀ a b, before a b = true ↔ key a < key b)
    (hsame : ∀ a b, same a b = true ↔ key a = key b) {k : κ} {held : α → Bool}
    (hheld : ∀ z, held z = true ↔ key z = k) (xs : List α) :
    (unique same (stableSort before xs)).find? held = xs.find? held := by
  rw [find?_unique hsame hheld, find?_stableSort hbefore hheld]

end

section

variable [LT α] [DecidableLT α]

def Searchable (xs : List α) : Prop :=
  ∀ value, binarySearch xs value = true ↔ value ∈ xs

theorem searchable_of_sorted (hlt : ∀ a b : α, a < b ↔ key a < key b) (hkey : Function.Injective key)
    {xs : List α} (hsorted : xs.Pairwise fun a b => key a ≤ key b) : Searchable xs := by
  intro value
  induction xs with
  | nil => simp [binarySearch]
  | cons x rest ih =>
      obtain ⟨hx, hrest⟩ := List.pairwise_cons.mp hsorted
      by_cases hbelow : x < value
      · have hne : value ≠ x := fun heq => lt_irrefl (key x) ((hlt x x).mp (heq ▸ hbelow))
        have hskip : binarySearch (x :: rest) value = binarySearch rest value := by
          simp [binarySearch, hbelow]
        rw [hskip, ih hrest, List.mem_cons, or_iff_right hne]
      · have hstop : binarySearch (x :: rest) value = !decide (value < x) := by
          simp [binarySearch, hbelow]
        rw [hlt, not_lt] at hbelow
        rw [hstop, Bool.not_eq_true', decide_eq_false_iff_not, hlt, not_lt, List.mem_cons]
        constructor
        · intro hle
          exact .inl (hkey (le_antisymm hbelow hle))
        · rintro (rfl | hmem)
          · exact le_rfl
          · exact hx value hmem

end

omit [LinearOrder κ] in
theorem eq_of_keys {xs ys : List α} (hkeys : xs.map key = ys.map key)
    (h : ∀ x ∈ xs, ∀ y ∈ ys, key x = key y → x = y) : xs = ys := by
  induction xs generalizing ys with
  | nil => exact (List.map_eq_nil_iff.mp hkeys.symm).symm
  | cons x xs ih =>
      cases ys with
      | nil => cases hkeys
      | cons y ys =>
          obtain ⟨hhead, htail⟩ := List.cons.inj hkeys
          have hrest := ih htail fun z hz w hw =>
            h z (List.mem_cons_of_mem x hz) w (List.mem_cons_of_mem y hw)
          rw [h x List.mem_cons_self y List.mem_cons_self hhead, hrest]

omit [LinearOrder κ] in
theorem split_of_keys {xs ys : List α} {a b : α} (hkeys : xs.map key = ys.map key)
    (hnodup : (xs.map key).Nodup) (ha : a ∈ xs) (hb : b ∈ ys) (hab : key a = key b)
    (h : ∀ x ∈ xs, ∀ y ∈ ys, key x = key y → key x ≠ key a → x = y) :
    ∃ front back, xs = front ++ a :: back ∧ ys = front ++ b :: back := by
  induction xs generalizing ys with
  | nil => cases ha
  | cons x xs ih =>
      cases ys with
      | nil => cases hkeys
      | cons y ys =>
          obtain ⟨hhead, htail⟩ := List.cons.inj hkeys
          obtain ⟨hfresh, hrest⟩ := List.nodup_cons.mp hnodup
          rcases List.mem_cons.mp ha with rfl | ha
          · have hy : b = y := by
              rcases List.mem_cons.mp hb with rfl | hb
              · rfl
              · rw [hab, htail] at hfresh
                exact absurd (List.mem_map_of_mem hb) hfresh
            obtain rfl := hy
            refine ⟨[], xs, rfl, ?_⟩
            rw [List.nil_append, eq_of_keys htail fun z hz w hw hkey => ?_]
            refine h z (List.mem_cons_of_mem a hz) w (List.mem_cons_of_mem b hw) hkey fun hz' => ?_
            exact hfresh (hz' ▸ List.mem_map_of_mem hz)
          · have hx : key x ≠ key a := fun hx => hfresh (hx ▸ List.mem_map_of_mem ha)
            have hy : b ∈ ys := by
              rcases List.mem_cons.mp hb with rfl | hb
              · exact absurd (hhead.trans hab.symm) hx
              · exact hb
            obtain ⟨front, back, rfl, rfl⟩ := ih htail hrest ha hy fun z hz w hw =>
              h z (List.mem_cons_of_mem x hz) w (List.mem_cons_of_mem y hw)
            have hxy := h x List.mem_cons_self y List.mem_cons_self hhead hx
            exact ⟨x :: front, back, rfl, by rw [hxy, List.cons_append]⟩

end ModelRouter.Sorting
