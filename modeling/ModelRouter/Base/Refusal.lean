import Mathlib.Data.List.Basic

namespace ModelRouter.Base.Refusal

variable {α β ρ : Type}

def refuse (condition : Bool) (result : ρ) : Option ρ :=
  if condition then some result else none

@[simp] theorem refuse_eq_none {condition : Bool} {result : ρ} :
    refuse condition result = none ↔ condition = false := by
  simp [refuse]

@[simp] theorem refuse_eq_some {condition : Bool} {result r : ρ} :
    refuse condition result = some r ↔ condition = true ∧ result = r := by
  simp [refuse]

@[simp] theorem chain_eq_none {a b : Option ρ} : (a <|> b) = none ↔ a = none ∧ b = none := by
  cases a <;> simp

theorem chain_eq_some {a b : Option ρ} {r : ρ} :
    (a <|> b) = some r ↔ a = some r ∨ (a = none ∧ b = some r) := by
  cases a <;> simp

/-- Every result a chain can return satisfies `P`. -/
def Answers (P : ρ → Prop) (a : Option ρ) : Prop :=
  ∀ r, a = some r → P r

section

variable {P : ρ → Prop} {condition : Bool} {result : ρ} {b : Option ρ}

@[simp] theorem answers_none : Answers P (none : Option ρ) := by
  intro r hr
  cases hr

theorem answers_refuse (h : P result) : Answers P (refuse condition result) := by
  intro r hr
  obtain ⟨-, rfl⟩ := refuse_eq_some.mp hr
  exact h

theorem Answers.chain {a : Option ρ} (ha : Answers P a) (hb : Answers P b) :
    Answers P (a <|> b) := by
  intro r hr
  rcases chain_eq_some.mp hr with h | ⟨-, h⟩
  · exact ha r h
  · exact hb r h

theorem answers_map {a : Option α} {f : α → ρ} (h : ∀ x, P (f x)) : Answers P (a.map f) := by
  intro r hr
  obtain ⟨x, -, rfl⟩ := Option.map_eq_some_iff.mp hr
  exact h x

theorem Answers.eq_none {a : Option ρ} (h : Answers P a) (hn : Answers (fun r => ¬P r) a) :
    a = none := by
  cases a with
  | none => rfl
  | some r => exact absurd (h r rfl) (hn r rfl)

theorem answers_findSome? {f : α → Option ρ} {xs : List α} (h : ∀ x ∈ xs, Answers P (f x)) :
    Answers P (xs.findSome? f) := by
  intro r hr
  obtain ⟨x, hx, hfound⟩ := List.exists_of_findSome?_eq_some hr
  exact h x hx r hfound

theorem Answers.guard (h : Answers P (refuse condition result <|> b)) (hr : ¬P result) :
    condition = false ∧ Answers P b := by
  cases condition with
  | false => exact ⟨rfl, h⟩
  | true => exact absurd (h result rfl) hr

theorem Answers.refuse_eq (h : Answers P (refuse condition result)) (hr : ¬P result) :
    condition = false := by
  cases condition with
  | false => rfl
  | true => exact absurd (h result rfl) hr

theorem any_guard {p : ρ → Bool} (hr : p result = false) :
    (refuse condition result <|> b).any p = (!condition && b.any p) := by
  cases condition with
  | false => rfl
  | true => exact hr

theorem any_pass {p : ρ → Bool} (hr : p result = true) :
    (refuse condition result <|> b).any p = (condition || b.any p) := by
  cases condition with
  | false => rfl
  | true => exact hr

theorem Answers.check {a : Option α} {f : α → ρ} (h : Answers P (a.map f <|> b))
    (hf : ∀ x, ¬P (f x)) : a = none ∧ Answers P b := by
  cases a with
  | none => exact ⟨rfl, h⟩
  | some x => exact absurd (h (f x) rfl) (hf x)

end

section

variable {σ : Type} {a a' : Option ρ} {b b' : Option σ} {c c' : Bool} {x : ρ} {y : σ}

/-- Whatever passes `b` passes `a`. -/
def Laxer (a : Option ρ) (b : Option σ) : Prop :=
  b = none → a = none

theorem Laxer.chain (h : Laxer a b) (h' : Laxer a' b') : Laxer (a <|> a') (b <|> b') := by
  intro hnone
  obtain ⟨hb, hb'⟩ := chain_eq_none.mp hnone
  exact chain_eq_none.mpr ⟨h hb, h' hb'⟩

theorem laxer_refuse (h : c = true → c' = true) : Laxer (refuse c x) (refuse c' y) := by
  intro hnone
  rw [refuse_eq_none, Bool.eq_false_iff] at hnone ⊢
  exact fun hc => hnone (h hc)

end

end ModelRouter.Base.Refusal
