import Mathlib.Data.List.Basic

namespace ModelRouter.Base.Delimited

variable {α β : Type} {d : α} {u v x y label : List α}

theorem split_first (hu : d ∉ u) (hv : d ∉ v) (h : u ++ d :: x = v ++ d :: y) : u = v ∧ x = y := by
  induction u generalizing v with
  | nil =>
      cases v with
      | nil => exact ⟨rfl, (List.cons.inj h).2⟩
      | cons c v => exact absurd (List.mem_cons.mpr (.inl (List.cons.inj h).1)) hv
  | cons c u ih =>
      cases v with
      | nil => exact absurd (List.mem_cons.mpr (.inl (List.cons.inj h).1.symm)) hu
      | cons c' v =>
          obtain ⟨rfl, htail⟩ := List.cons.inj h
          obtain ⟨rfl, hrest⟩ := ih (fun hmem => hu (List.mem_cons_of_mem _ hmem))
            (fun hmem => hv (List.mem_cons_of_mem _ hmem)) htail
          exact ⟨rfl, hrest⟩

theorem split_last (hu : d ∉ u) (hv : d ∉ v) (h : x ++ d :: u = y ++ d :: v) : x = y ∧ u = v := by
  have hreverse := congrArg List.reverse h
  simp only [List.reverse_append, List.reverse_cons, List.append_assoc, List.singleton_append]
    at hreverse
  obtain ⟨htail, hhead⟩ := split_first (by simpa using hu) (by simpa using hv) hreverse
  exact ⟨List.reverse_injective hhead, List.reverse_injective htail⟩

theorem delimiter_after (hu : d ∉ u) (h : u ++ x = v ++ d :: y) :
    ∃ w, v = u ++ w ∧ x = w ++ d :: y := by
  rcases List.append_eq_append_iff.mp h with ⟨w, hv, hx⟩ | ⟨w, hw, htail⟩
  · exact ⟨w, hv, hx⟩
  · cases w with
    | nil => exact ⟨[], by simpa using hw.symm, htail.symm⟩
    | cons c w =>
        obtain ⟨rfl, -⟩ := List.cons.inj htail
        exact absurd (hw ▸ List.mem_append_right v List.mem_cons_self) hu

theorem split_last_field (hlabel : label.head? = some d) (hclean : d ∉ label.tail) (hu : d ∉ u)
    (hv : d ∉ v) (h : x ++ (label ++ u) = y ++ (label ++ v)) : x = y ∧ u = v := by
  cases label with
  | nil => cases hlabel
  | cons c label =>
      obtain rfl := Option.some.inj hlabel
      have hfield {w : List α} (hw : c ∉ w) : c ∉ label ++ w := by
        simpa using ⟨hclean, hw⟩
      obtain ⟨hrest, hlast⟩ := split_last (hfield hu) (hfield hv) h
      exact ⟨hrest, List.append_cancel_left hlast⟩

def delimited (d : α) (write : β → List α) (xs : List β) : List α :=
  xs.flatMap fun b => write b ++ [d]

theorem delimited_injective {write : β → List α} {xs ys : List β} (hxs : ∀ b ∈ xs, d ∉ write b)
    (hys : ∀ b ∈ ys, d ∉ write b) (hwrite : ∀ a ∈ xs, ∀ b ∈ ys, write a = write b → a = b)
    (h : delimited d write xs = delimited d write ys) : xs = ys := by
  induction xs generalizing ys with
  | nil =>
      cases ys with
      | nil => rfl
      | cons b ys => simp [delimited] at h
  | cons a xs ih =>
      cases ys with
      | nil => simp [delimited] at h
      | cons b ys =>
          simp only [delimited, List.flatMap_cons, List.append_assoc, List.singleton_append] at h
          rw [List.forall_mem_cons] at hxs hys
          obtain ⟨hfield, hrest⟩ := split_first hxs.1 hys.1 h
          rw [hwrite a List.mem_cons_self b List.mem_cons_self hfield,
            ih hxs.2 hys.2 (fun a ha b hb => hwrite a (List.mem_cons_of_mem _ ha) b
              (List.mem_cons_of_mem _ hb)) hrest]

theorem not_mem_delimited {c : α} {write : β → List α} {xs : List β} (hc : c ≠ d)
    (hxs : ∀ b ∈ xs, c ∉ write b) : c ∉ delimited d write xs := by
  intro hmem
  obtain ⟨b, hb, hfield⟩ := List.mem_flatMap.mp hmem
  rcases List.mem_append.mp hfield with hwritten | hend
  · exact hxs b hb hwritten
  · exact hc (List.mem_singleton.mp hend)

def labelled (labels values : List (List α)) : List α :=
  (List.zipWith (· ++ ·) labels values).flatten

theorem labelled_head {labels : List (List α)} (values : List (List α)) {rest : List α}
    (hlabels : ∀ label ∈ labels, label.head? = some d) (hrest : rest.head? = some d) :
    (labelled labels values ++ rest).head? = some d := by
  cases labels with
  | nil => exact hrest
  | cons label labels =>
      cases values with
      | nil => exact hrest
      | cons v values =>
          simp only [labelled, List.zipWith_cons_cons, List.flatten_cons, List.append_assoc,
            List.head?_append, hlabels label List.mem_cons_self, Option.some_or]

theorem not_mem_labelled {c : α} {labels values : List (List α)} (hlabels : ∀ label ∈ labels, c ∉ label)
    (hvalues : ∀ v ∈ values, c ∉ v) : c ∉ labelled labels values := by
  induction labels generalizing values with
  | nil => exact List.not_mem_nil
  | cons label labels ih =>
      cases values with
      | nil => exact List.not_mem_nil
      | cons v values =>
          rw [List.forall_mem_cons] at hlabels hvalues
          simp only [labelled, List.zipWith_cons_cons, List.flatten_cons, List.mem_append, not_or]
          exact ⟨⟨hlabels.1, hvalues.1⟩, ih hlabels.2 hvalues.2⟩

theorem labelled_split {labels values values' : List (List α)} {rest rest' : List α}
    (hlabels : ∀ label ∈ labels, label.head? = some d) (hlength : values.length = labels.length)
    (hlength' : values'.length = labels.length) (hclean : ∀ v ∈ values, d ∉ v)
    (hclean' : ∀ v ∈ values', d ∉ v) (hrest : rest.head? = some d) (hrest' : rest'.head? = some d)
    (h : labelled labels values ++ rest = labelled labels values' ++ rest') :
    values = values' ∧ rest = rest' := by
  induction labels generalizing values values' with
  | nil =>
      obtain rfl := List.length_eq_zero_iff.mp hlength
      obtain rfl := List.length_eq_zero_iff.mp hlength'
      exact ⟨rfl, h⟩
  | cons label labels ih =>
      obtain ⟨v, values, rfl⟩ := List.exists_cons_of_length_eq_add_one hlength
      obtain ⟨v', values', rfl⟩ := List.exists_cons_of_length_eq_add_one hlength'
      rw [List.forall_mem_cons] at hlabels hclean hclean'
      simp only [labelled, List.zipWith_cons_cons, List.flatten_cons, List.append_assoc,
        List.append_cancel_left_eq] at h
      obtain ⟨tail, htail⟩ := List.head?_eq_some_iff.mp (labelled_head values hlabels.2 hrest)
      obtain ⟨tail', htail'⟩ := List.head?_eq_some_iff.mp (labelled_head values' hlabels.2 hrest')
      obtain ⟨hvalue, htails⟩ := split_first hclean.1 hclean'.1 (htail ▸ htail' ▸ h)
      obtain ⟨hvalues, hrests⟩ := ih hlabels.2 (Nat.succ.inj hlength) (Nat.succ.inj hlength')
        hclean.2 hclean'.2 (htail.trans (htails ▸ htail'.symm))
      exact ⟨by rw [hvalue, hvalues], hrests⟩

theorem labelled_split_last {labels values values' : List (List α)} {front front' : List α}
    (hlabels : ∀ label ∈ labels, label.head? = some d ∧ d ∉ label.tail)
    (hlength : values.length = labels.length) (hlength' : values'.length = labels.length)
    (hclean : ∀ v ∈ values, d ∉ v) (hclean' : ∀ v ∈ values', d ∉ v)
    (h : front ++ labelled labels values = front' ++ labelled labels values') :
    front = front' ∧ values = values' := by
  induction labels generalizing values values' front front' with
  | nil =>
      obtain rfl := List.length_eq_zero_iff.mp hlength
      obtain rfl := List.length_eq_zero_iff.mp hlength'
      exact ⟨List.append_cancel_right h, rfl⟩
  | cons label labels ih =>
      obtain ⟨v, values, rfl⟩ := List.exists_cons_of_length_eq_add_one hlength
      obtain ⟨v', values', rfl⟩ := List.exists_cons_of_length_eq_add_one hlength'
      rw [List.forall_mem_cons] at hlabels hclean hclean'
      simp only [labelled, List.zipWith_cons_cons, List.flatten_cons, ← List.append_assoc] at h
      obtain ⟨hfront, hvalues⟩ := ih hlabels.2 (Nat.succ.inj hlength) (Nat.succ.inj hlength')
        hclean.2 hclean'.2 h
      rw [List.append_assoc, List.append_assoc] at hfront
      obtain ⟨hrest, hvalue⟩ := split_last_field hlabels.1.1 hlabels.1.2 hclean.1 hclean'.1 hfront
      exact ⟨hrest, by rw [hvalue, hvalues]⟩

end ModelRouter.Base.Delimited
