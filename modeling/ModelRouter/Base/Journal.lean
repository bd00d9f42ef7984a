import ModelRouter.Base.Program

namespace ModelRouter.Base

/-- One operation of a history, with the states around it. -/
structure Call (σ κ π α : Type) where
  op : π
  before : σ
  sections : List (Event σ κ)
  reply : α
  after : σ

/-- The calls of a history in their order, each from the state the one before it left. -/
inductive Journal {σ κ ε π α : Type} (program : π → Program σ κ ε α) (apply : κ → σ → σ)
    (E : List (Event σ κ) → ε → Prop) : σ → List (Call σ κ π α) → σ → Prop
  | nil (s : σ) : Journal program apply E s [] s
  | snoc {s t u : σ} {cs : List (Call σ κ π α)} {ds : List (Event σ κ)} {op : π} {a : α} :
      Journal program apply E s cs t →
      Program.Exec apply (E (cs.flatMap Call.sections)) Eq (program op) t ds a u →
      Journal program apply E s (cs ++ [⟨op, t, ds, a, u⟩]) u

namespace Journal

variable {σ κ ε π α : Type} {program : π → Program σ κ ε α} {apply : κ → σ → σ}
variable {E : List (Event σ κ) → ε → Prop} {s t : σ} {cs : List (Call σ κ π α)}

theorem forall_iff {P Q : Call σ κ π α → Prop} (h : Journal program apply E s cs t)
    (hcall : ∀ c F, Program.Exec apply F Eq (program c.op) c.before c.sections c.reply c.after →
      (P c ↔ Q c)) : (∀ c ∈ cs, P c) ↔ ∀ c ∈ cs, Q c := by
  induction h with
  | nil => simp
  | snoc _ hx ih =>
      rw [List.forall_mem_append, List.forall_mem_append, ih]
      have hlast := hcall ⟨_, _, _, _, _⟩ _ hx
      simp only [List.mem_singleton, forall_eq]
      exact and_congr_right fun _ => hlast

/-- Run a list of operations one after another with a fixed answer, and keep every state. -/
def run (program : π → Program σ κ ε α) (apply : κ → σ → σ) (e : ε) :
    List π → σ → List (Call σ κ π α) × σ
  | [], s => ([], s)
  | op :: ops, s =>
    let r := Program.run apply e [] (program op) s
    let rest := run program apply e ops r.2.2
    (⟨op, s, r.1, r.2.1, r.2.2⟩ :: rest.1, rest.2)

theorem run_append {e : ε} (he : ∀ es, E es e) (h : Journal program apply E s cs t)
    (ops : List π) : Journal program apply E s (cs ++ (run program apply e ops t).1)
      (run program apply e ops t).2 := by
  induction ops generalizing cs t with
  | nil => simpa [run] using h
  | cons op ops ih =>
      have hx : Program.Exec apply (· = e) Eq (program op) t _ _ _ :=
        Program.run_exec apply e (program op) t (fun _ => rfl)
          fun g hg => absurd hg (List.not_mem_nil (a := g))
      have hrest := ih (h.snoc (hx.weaken fun _ hx => hx ▸ he _))
      simpa [run] using hrest

theorem run_journal {e : ε} (he : ∀ es, E es e) (ops : List π) (s : σ) :
    Journal program apply E s (run program apply e ops s).1 (run program apply e ops s).2 :=
  (nil s).run_append he ops

end Journal

end ModelRouter.Base
