import Mathlib.Algebra.BigOperators.Group.List.Basic
import Mathlib.Algebra.GroupWithZero.Nat
import Mathlib.Data.List.Forall2
import ModelRouter.Base.Interleaving

namespace ModelRouter.Base

variable {σ κ ε π α β : Type}

namespace Program

/-- With answers in `E`, on every path the weights of the sections come, on top of what is given,
to what the result stands for. -/
def Tally (E : ε → Prop) (weight : κ → σ → Nat) (worth : α → Nat) : Program σ κ ε α → Nat → Prop
  | done a, n => worth a = n
  | act k next, n => ∀ s, (next s).Tally E weight worth (n + weight k s)
  | ask next, n => ∀ e, E e → (next e).Tally E weight worth n

/-- A section that weighs nothing in any state. -/
def Weightless (weight : κ → σ → Nat) (k : κ) : Prop :=
  ∀ s, weight k s = 0

variable {E : ε → Prop} {weight : κ → σ → Nat} {worth : β → Nat} {n : Nat}

theorem Tally.bind {Q : α → Prop} {p : Program σ κ ε α} {f : α → Program σ κ ε β}
    (hp : p.Only (fun _ => True) E (Weightless weight)) (hq : p.Ends (fun _ => True) E Q)
    (hf : ∀ a, Q a → (f a).Tally E weight worth n) : (p.bind f).Tally E weight worth n := by
  induction p with
  | done a => exact hf a hq
  | act k next ih =>
      intro s
      rw [hp.1 s, Nat.add_zero]
      exact ih s (hp.2 s trivial) (hq s trivial)
  | ask next ih => exact fun e he => ih e (hp e he) (hq e he)

theorem Tally.map {worth : α → Nat} {worth' : β → Nat} (g : α → β)
    (hg : ∀ a, worth' (g a) = worth a) {p : Program σ κ ε α} {n : Nat} (h : p.Tally E weight worth n) :
    (g <$> p).Tally E weight worth' n := by
  change (p.bind fun a => done (g a)).Tally E weight worth' n
  induction p generalizing n with
  | done a => exact (hg a).trans h
  | act k next ih => exact fun s => ih s (h s)
  | ask next ih => exact fun e he => ih e (h e he)

end Program

def weighed (weight : κ → σ → Nat) (es : List (Event σ κ)) : Nat :=
  (es.map fun e => weight e.act e.pre).sum

namespace Pool

variable {program : π → Program σ κ ε α} {apply : κ → σ → σ}
variable {E : ε → Prop} {weight : κ → σ → Nat} {worth : α → Nat}

/-- What the operations in flight have weighed so far. -/
def Tallied (E : ε → Prop) (weight : κ → σ → Nat) (worth : α → Nat)
    (threads : List (Program σ κ ε α)) (ns : List Nat) : Prop :=
  List.Forall₂ (fun thread n => thread.Tally E weight worth n) threads ns

theorem Tallied.set {threads : List (Program σ κ ε α)} {ns : List Nat} {i n : Nat}
    {thread : Program σ κ ε α} (h : Tallied E weight worth threads ns)
    (hthread : thread.Tally E weight worth n) :
    Tallied E weight worth (threads.set i thread) (ns.set i n) := by
  induction h generalizing i with
  | nil => exact .nil
  | cons hhead htail ih =>
      cases i with
      | zero => exact .cons hthread htail
      | succ i => exact .cons hhead ih

theorem Tallied.get {threads : List (Program σ κ ε α)} {ns : List Nat} {i : Nat}
    {thread : Program σ κ ε α} (h : Tallied E weight worth threads ns)
    (hi : threads[i]? = some thread) :
    ∃ n, ns[i]? = some n ∧ thread.Tally E weight worth n := by
  induction h generalizing i with
  | nil => cases hi
  | cons hhead htail ih =>
      cases i with
      | zero =>
          obtain rfl := Option.some.inj hi
          exact ⟨_, rfl, hhead⟩
      | succ i => exact ih hi

theorem Tallied.settled {results : List α} {ns : List Nat}
    (h : Tallied E weight worth (results.map .done) ns) : ns = results.map worth := by
  induction results generalizing ns with
  | nil =>
      cases h
      rfl
  | cons a results ih =>
      cases h with
      | cons hhead htail => exact congrArg₂ List.cons (Eq.symm hhead) (ih htail)

end Pool

end ModelRouter.Base
