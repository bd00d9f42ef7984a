import Mathlib.Tactic.Basic

namespace ModelRouter.Base

variable {ε δ α β : Type} {c d : Prop} {x : Except ε α} {f : α → Except ε β} {a : α} {b : β}

/-- One check of a sequence of early returns: `e` is the result where the condition fails. -/
def demand (condition : Bool) (e : ε) : Except ε Unit :=
  if condition then .ok () else .error e

theorem demand_ok {condition : Bool} {e : ε} {u : Unit} :
    demand condition e = .ok u ↔ condition = true := by
  cases condition <;> simp [demand]

theorem bind_ok : (x >>= f) = .ok b ↔ ∃ a, x = .ok a ∧ f a = .ok b := by
  cases x with
  | error e =>
      constructor
      · intro h
        cases h
      · rintro ⟨a, h, -⟩
        cases h
  | ok a =>
      constructor
      · intro h
        exact ⟨a, rfl, h⟩
      · rintro ⟨a', h, hf⟩
        cases h
        exact hf

theorem demand_bind_ok {condition : Bool} {e : ε} {f : Unit → Except ε β} :
    (demand condition e >>= f) = .ok b ↔ condition = true ∧ f () = .ok b := by
  rw [bind_ok]
  constructor
  · rintro ⟨u, hu, hf⟩
    exact ⟨demand_ok.mp hu, hf⟩
  · rintro ⟨hc, hf⟩
    exact ⟨(), demand_ok.mpr hc, hf⟩

/-- The attempt comes to `a` exactly when `c` holds, and to an error otherwise. -/
def Yields (c : Prop) (x : Except ε α) (a : α) : Prop :=
  (c → x = .ok a) ∧ (¬c → ∃ e, x = .error e)

namespace Yields

theorem ok_iff {a' : α} (h : Yields c x a) : x = .ok a' ↔ c ∧ a' = a := by
  constructor
  · intro hx
    by_cases hc : c
    · rw [h.1 hc, Except.ok.injEq] at hx
      exact ⟨hc, hx.symm⟩
    · obtain ⟨e, he⟩ := h.2 hc
      rw [he] at hx
      cases hx
  · rintro ⟨hc, rfl⟩
    exact h.1 hc

theorem congr (h : Yields c x a) (hcd : c ↔ d) : Yields d x a := by
  rwa [← propext hcd]

theorem done : Yields (ε := ε) True (pure a) a :=
  ⟨fun _ => rfl, fun h => absurd trivial h⟩

theorem bind (hx : Yields c x a) (hf : c → Yields d (f a) b) : Yields (c ∧ d) (x >>= f) b := by
  constructor
  · rintro ⟨hc, hd⟩
    rw [hx.1 hc]
    exact (hf hc).1 hd
  · intro hcd
    by_cases hc : c
    · rw [hx.1 hc]
      exact (hf hc).2 fun hd => hcd ⟨hc, hd⟩
    · obtain ⟨e, he⟩ := hx.2 hc
      rw [he]
      exact ⟨e, rfl⟩

theorem map (hx : Yields c x a) (g : α → β) : Yields c (x >>= fun a => pure (g a)) (g a) := by
  have h : Yields (c ∧ True) (x >>= fun a => pure (g a)) (g a) := hx.bind fun _ => done
  exact h.congr (by rw [and_true])

theorem demand {condition : Bool} {e : ε} {f : Unit → Except ε β}
    (hf : condition = true → Yields d (f ()) b) :
    Yields (condition = true ∧ d) (demand condition e >>= f) b := by
  refine bind (a := ()) ⟨fun hc => demand_ok.mpr hc, fun hc => ⟨e, ?_⟩⟩ hf
  rw [Base.demand, if_neg hc]

theorem pass {condition : Bool} {e : ε} {f : Unit → Except ε β} (hc : condition = true)
    (hf : Yields d (f ()) b) : Yields d (Base.demand condition e >>= f) b :=
  (demand fun _ => hf).congr (by simp [hc])

theorem next (hx : x = .ok a) (hf : Yields d (f a) b) : Yields d (x >>= f) b := by
  rw [hx]
  exact hf

end Yields

/-- Every error of the attempt is of a kind. -/
def Fails (P : ε → Prop) (x : Except ε α) : Prop :=
  ∀ e, x = .error e → P e

namespace Fails

variable {P : ε → Prop}

theorem done : Fails P (pure a : Except ε α) := by
  intro e h
  cases h

theorem bind (hx : Fails P x) (hf : ∀ a, Fails P (f a)) : Fails P (x >>= f) := by
  cases x with
  | error e =>
      intro e' h
      cases h
      exact hx e rfl
  | ok a => exact hf a

theorem demand {condition : Bool} {e : ε} (he : P e) : Fails P (demand condition e) := by
  intro e' h
  cases condition with
  | true => cases h
  | false =>
      cases h
      exact he

end Fails

end ModelRouter.Base
