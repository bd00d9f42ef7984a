import Mathlib.Order.Lattice
import ModelRouter.Base.Program

namespace ModelRouter.Base

/-- Registers that accept what is offered unless it is below what they remember, which is the last
value they accepted; only a reset makes them forget it. -/
structure Watermark {σ κ : Type} (apply : κ → σ → σ) (I G : Type) [LinearOrder G] where
  Offers : Event σ κ → I → G → Prop
  accepts : Event σ κ → Option (I × G)
  resets : Event σ κ → Bool
  mark : σ → I → Option G
  admits : ∀ {e i g}, accepts e = some (i, g) ↔
    Offers e i g ∧ ∀ w, mark e.pre i = some w → w ≤ g
  written : ∀ {e i g}, accepts e = some (i, g) → mark (apply e.act e.pre) i = some g
  kept : ∀ {e i}, resets e = false → (∀ g, accepts e ≠ some (i, g)) →
    mark (apply e.act e.pre) i = mark e.pre i

namespace Watermark

variable {σ κ I G : Type} [LinearOrder G] {apply : κ → σ → σ} (W : Watermark apply I G)
variable {s t : σ} {es : List (Event σ κ)} {e : Event σ κ} {i : I} {g w : G}

theorem guarded (h : W.accepts e = some (i, g)) (hw : W.mark e.pre i = some w) : w ≤ g :=
  (W.admits.mp h).2 w hw

theorem grows (hr : W.resets e = false) (hw : W.mark e.pre i = some w) :
    ∃ w', W.mark (apply e.act e.pre) i = some w' ∧ w ≤ w' := by
  by_cases h : ∃ g, W.accepts e = some (i, g)
  · obtain ⟨g, hg⟩ := h
    exact ⟨g, W.written hg, W.guarded hg hw⟩
  · exact ⟨w, (W.kept hr fun g hg => h ⟨g, hg⟩).trans hw, le_rfl⟩

theorem rises (h : Chained apply s es t) (hr : ∀ e ∈ es, W.resets e = false)
    (hw : W.mark s i = some w) : ∃ w', W.mark t i = some w' ∧ w ≤ w' := by
  induction h generalizing w with
  | nil s => exact ⟨w, hw, le_rfl⟩
  | @cons k s t es h ih =>
      rw [List.forall_mem_cons] at hr
      obtain ⟨v, hv, hle⟩ := W.grows (e := ⟨k, s⟩) hr.1 hw
      obtain ⟨w', hw', hle'⟩ := ih hr.2 hv
      exact ⟨w', hw', hle.trans hle'⟩

/-- Every value the register accepted was forgotten again. -/
def Forgotten (i : I) (es : List (Event σ κ)) : Prop :=
  ∀ l d r g, es = l ++ d :: r → W.accepts d = some (i, g) → ∃ e ∈ r, W.resets e = true

def recalled (first : I → Option G) (left : Event σ κ → I → Option G) (es : List (Event σ κ)) :
    I → Option G :=
  es.foldl (fun known e => if W.resets e then left e else known) first

/-- No accepted value is below the floor. -/
def NeverBelow (floor : I → G → Prop) (es : List (Event σ κ)) : Prop :=
  ∀ e ∈ es, ∀ i g, W.accepts e = some (i, g) → ∀ f, floor i f → f ≤ g

/-- No value that a register is offered while it has accepted none since the last reset, and that
is not below what this reset left it with, is below the floor. -/
def FirstNotBelow (first : I → Option G) (left : Event σ κ → I → Option G) (floor : I → G → Prop)
    (es : List (Event σ κ)) : Prop :=
  ∀ before e rest, es = before ++ e :: rest → ∀ i g, W.Offers e i g →
    W.Forgotten i before → (∀ w, W.recalled first left before i = some w → w ≤ g) →
    ∀ f, floor i f → f ≤ g

theorem between {before rest r : List (Event σ κ)} {d e : Event σ κ}
    (h : Chained apply s (before ++ d :: (r ++ e :: rest)) t) :
    Chained apply (apply d.act d.pre) r e.pre := by
  obtain ⟨u, -, hd⟩ := h.of_append
  cases hd with
  | cons hrest =>
      obtain ⟨v, hr, he⟩ := hrest.of_append
      rw [he.head_pre (e := e) rfl]
      exact hr

variable {first : I → Option G} {left : Event σ κ → I → Option G} {floor : I → G → Prop}

theorem recalls (h : Chained apply s es t)
    (hleft : ∀ e ∈ es, W.resets e = true → W.mark (apply e.act e.pre) = left e)
    (hforgotten : W.Forgotten i es) (hs : (∃ e ∈ es, W.resets e = true) ∨ W.mark s i = first i) :
    W.mark t i = W.recalled first left es i := by
  induction h generalizing first with
  | nil s =>
      rcases hs with ⟨e, he, -⟩ | hs
      · cases he
      · exact hs
  | @cons k s t es h ih =>
      rw [List.forall_mem_cons] at hleft
      have htail : W.Forgotten i es := fun l d r g hes hd =>
        hforgotten (⟨k, s⟩ :: l) d r g (congrArg _ hes) hd
      rw [recalled, List.foldl_cons]
      refine ih hleft.2 htail ?_
      by_cases hr : W.resets ⟨k, s⟩ = true
      · rw [if_pos hr]
        exact .inr (congrFun (hleft.1 hr) i)
      · rw [if_neg hr]
        rcases hs with ⟨e, he, hreset⟩ | hs
        · rcases List.mem_cons.mp he with rfl | he
          · exact absurd hreset hr
          · exact .inl ⟨e, he, hreset⟩
        · by_cases hg : ∃ g, W.accepts ⟨k, s⟩ = some (i, g)
          · obtain ⟨g, hg⟩ := hg
            exact .inl (hforgotten [] _ es g rfl hg)
          · refine .inr ?_
            rw [← hs]
            exact W.kept (e := ⟨k, s⟩) (by simpa using hr) fun g h => hg ⟨g, h⟩

theorem recalls_before (h : Chained apply s es t) (hs : W.mark s = first)
    (hleft : ∀ e ∈ es, W.resets e = true → W.mark (apply e.act e.pre) = left e)
    {before rest : List (Event σ κ)} (hes : es = before ++ e :: rest)
    (hforgotten : W.Forgotten i before) : W.mark e.pre i = W.recalled first left before i := by
  obtain ⟨u, hbefore, hrest⟩ := (hes ▸ h).of_append
  have hpre : e.pre = u := hrest.head_pre rfl
  rw [hpre]
  refine W.recalls hbefore (fun d hd => ?_) hforgotten (.inr (congrFun hs i))
  exact hleft d (hes ▸ List.mem_append_left _ hd)

theorem not_below (h : Chained apply s es t) (hs : W.mark s = first)
    (hleft : ∀ e ∈ es, W.resets e = true → W.mark (apply e.act e.pre) = left e)
    (hfirst : W.FirstNotBelow first left floor es) {n : Nat} {before rest : List (Event σ κ)}
    (hn : before.length = n) (hes : es = before ++ e :: rest)
    (he : W.accepts e = some (i, g)) {f : G} (hf : floor i f) : f ≤ g := by
  induction n using Nat.strongRecOn generalizing before rest e g with
  | ind n ih =>
      by_cases hforgotten : W.Forgotten i before
      · have hmark := W.recalls_before h hs hleft hes hforgotten
        refine hfirst before e rest hes i g (W.admits.mp he).1 hforgotten (fun w hw => ?_) f hf
        exact W.guarded he (hmark.trans hw)
      · have hheld : ∃ l d r g', before = l ++ d :: r ∧ W.accepts d = some (i, g') ∧
            ∀ x ∈ r, W.resets x = false := by simpa [Forgotten] using hforgotten
        obtain ⟨l, d, r, g', hsplit, hd, hr⟩ := hheld
        have hlength : l.length < n := by
          rw [← hn, hsplit, List.length_append, List.length_cons]
          omega
        have hes' : es = l ++ d :: (r ++ e :: rest) := by rw [hes, hsplit]; simp
        obtain ⟨w, hw, hle⟩ := W.rises (between (hes' ▸ h)) hr (W.written hd)
        exact ((ih l.length hlength rfl hes' hd).trans hle).trans (W.guarded he hw)

/-- Registers that forget fall below a floor exactly with an offer below it that finds them as a
reset left them and that this does not keep out. -/
theorem neverBelow_iff (h : Chained apply s es t) (hs : W.mark s = first)
    (hleft : ∀ e ∈ es, W.resets e = true → W.mark (apply e.act e.pre) = left e) :
    W.NeverBelow floor es ↔ W.FirstNotBelow first left floor es := by
  constructor
  · intro hnever before e rest hes i g he hforgotten hknown f hf
    have hmem : e ∈ es := by
      rw [hes]
      exact List.mem_append_right _ List.mem_cons_self
    have hmark := W.recalls_before h hs hleft hes hforgotten
    have haccepts := W.admits.mpr ⟨he, fun w hw => hknown w (hmark.symm.trans hw)⟩
    exact hnever e hmem i g haccepts f hf
  · intro hfirst e he i g hg f hf
    obtain ⟨before, rest, hes⟩ := List.append_of_mem he
    exact W.not_below h hs hleft hfirst rfl hes hg hf

theorem reaches (h : Chained apply s es t) (hr : ∀ e ∈ es, W.resets e = false) (he : e ∈ es)
    (hg : W.accepts e = some (i, g)) : ∃ w, W.mark t i = some w ∧ g ≤ w := by
  obtain ⟨before, rest, rfl⟩ := List.append_of_mem he
  obtain ⟨u, -, hrest⟩ := h.of_append
  cases hrest with
  | cons hlater =>
      refine W.rises hlater (fun d hd => hr d ?_) (W.written hg)
      exact List.mem_append_right _ (List.mem_cons_of_mem _ hd)

end Watermark

end ModelRouter.Base
