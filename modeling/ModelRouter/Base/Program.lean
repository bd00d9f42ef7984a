import Mathlib.Data.List.Basic

namespace ModelRouter.Base

/-- An operation as a tree of critical sections. `act` performs one section atomically and goes
on with the state the section found; `ask` consults the environment outside every section. -/
inductive Program (σ κ ε α : Type) where
  | done (a : α)
  | act (k : κ) (next : σ → Program σ κ ε α)
  | ask (next : ε → Program σ κ ε α)

/-- One performed section: what it does and the state it found. -/
structure Event (σ κ : Type) where
  act : κ
  pre : σ

namespace Program

variable {σ κ ε α β : Type}

def bind : Program σ κ ε α → (α → Program σ κ ε β) → Program σ κ ε β
  | done a, f => f a
  | act k next, f => act k fun s => (next s).bind f
  | ask next, f => ask fun e => (next e).bind f

instance : Monad (Program σ κ ε) where
  pure := done
  bind := bind

@[simp] theorem pure_eq (a : α) : (pure a : Program σ κ ε α) = done a := rfl

@[simp] theorem bind_eq (p : Program σ κ ε α) (f : α → Program σ κ ε β) :
    (p >>= f) = p.bind f := rfl

@[simp] theorem done_bind (a : α) (f : α → Program σ κ ε β) : (done a).bind f = f a := rfl

@[simp] theorem act_bind (k : κ) (next : σ → Program σ κ ε α) (f : α → Program σ κ ε β) :
    (act k next).bind f = act k fun s => (next s).bind f := rfl

@[simp] theorem ask_bind (next : ε → Program σ κ ε α) (f : α → Program σ κ ε β) :
    (ask next).bind f = ask fun e => (next e).bind f := rfl

theorem bind_done (p : Program σ κ ε α) : p.bind done = p := by
  induction p with
  | done a => rfl
  | act k next ih => exact congrArg (act k) (funext ih)
  | ask next ih => exact congrArg ask (funext ih)

theorem bind_assoc {γ : Type} (p : Program σ κ ε α) (f : α → Program σ κ ε β)
    (g : β → Program σ κ ε γ) : (p.bind f).bind g = p.bind fun a => (f a).bind g := by
  induction p with
  | done a => rfl
  | act k next ih => exact congrArg (act k) (funext ih)
  | ask next ih => exact congrArg ask (funext ih)

/-- The sections a program may perform, whatever states in `I` it meets and whatever answers in
`E` it gets, all satisfy `P`. -/
def Only (I : σ → Prop) (E : ε → Prop) (P : κ → Prop) : Program σ κ ε α → Prop
  | done _ => True
  | act k next => P k ∧ ∀ s, I s → (next s).Only I E P
  | ask next => ∀ e, E e → (next e).Only I E P

section

variable {I : σ → Prop} {E : ε → Prop} {P Q : κ → Prop}

theorem Only.bind {p : Program σ κ ε α} {f : α → Program σ κ ε β} (hp : p.Only I E P)
    (hf : ∀ a, (f a).Only I E P) : (p.bind f).Only I E P := by
  induction p with
  | done a => exact hf a
  | act k next ih => exact ⟨hp.1, fun s hs => ih s (hp.2 s hs)⟩
  | ask next ih => exact fun e he => ih e (hp e he)

end

/-- In such states and with such answers every result of the program is in `Q`. -/
def Ends (I : σ → Prop) (E : ε → Prop) (Q : α → Prop) : Program σ κ ε α → Prop
  | done a => Q a
  | act _ next => ∀ s, I s → (next s).Ends I E Q
  | ask next => ∀ e, E e → (next e).Ends I E Q

section

variable {I : σ → Prop} {E : ε → Prop} {P : κ → Prop} {Q : α → Prop} {T : β → Prop}

theorem Ends.bind {p : Program σ κ ε α} {f : α → Program σ κ ε β} (hp : p.Ends I E Q)
    (hf : ∀ a, Q a → (f a).Ends I E T) : (p.bind f).Ends I E T := by
  induction p with
  | done a => exact hf a hp
  | act k next ih => exact fun s hs => ih s (hp s hs)
  | ask next ih => exact fun e he => ih e (hp e he)

theorem Ends.and {p : Program σ κ ε α} {S : α → Prop} (h : p.Ends I E Q) (h' : p.Ends I E S) :
    p.Ends I E fun a => Q a ∧ S a := by
  induction p with
  | done a => exact ⟨h, h'⟩
  | act k next ih => exact fun s hs => ih s (h s hs) (h' s hs)
  | ask next ih => exact fun e he => ih e (h e he) (h' e he)

theorem Only.bind_ends {p : Program σ κ ε α} {f : α → Program σ κ ε β} (hp : p.Only I E P)
    (hq : p.Ends I E Q) (hf : ∀ a, Q a → (f a).Only I E P) : (p.bind f).Only I E P := by
  induction p with
  | done a => exact hf a hq
  | act k next ih => exact ⟨hp.1, fun s hs => ih s (hp.2 s hs) (hq s hs)⟩
  | ask next ih => exact fun e he => ih e (hp e he) (hq e he)

end

variable (apply : κ → σ → σ)

/-- `Exec apply E R p s es a t`: from `s` the program performs the sections `es`, returns `a`
and leaves `t`, where each answer is in `E` and others move the state along `R` before each
section. With `R` equality the operation runs with nothing else in between. -/
inductive Exec (E : ε → Prop) (R : σ → σ → Prop) :
    Program σ κ ε α → σ → List (Event σ κ) → α → σ → Prop where
  | done (a : α) (s : σ) : Exec E R (.done a) s [] a s
  | act {k : κ} {next : σ → Program σ κ ε α} {s u t : σ} {es : List (Event σ κ)} {a : α} :
      R s u → Exec E R (next u) (apply k u) es a t → Exec E R (.act k next) s (⟨k, u⟩ :: es) a t
  | ask {next : ε → Program σ κ ε α} {e : ε} {s t : σ} {es : List (Event σ κ)} {a : α} :
      E e → Exec E R (next e) s es a t → Exec E R (.ask next) s es a t

section

variable {apply} {E : ε → Prop} {R : σ → σ → Prop} {s t : σ} {es : List (Event σ κ)}

@[simp] theorem exec_done {a b : α} :
    Exec apply E R (.done a) s es b t ↔ es = [] ∧ b = a ∧ t = s := by
  constructor
  · intro h
    cases h with
    | done => exact ⟨rfl, rfl, rfl⟩
  · rintro ⟨rfl, rfl, rfl⟩
    exact .done b t

theorem exec_act {k : κ} {next : σ → Program σ κ ε α} {a : α} :
    Exec apply E R (.act k next) s es a t ↔
      ∃ u es', R s u ∧ es = ⟨k, u⟩ :: es' ∧ Exec apply E R (next u) (apply k u) es' a t := by
  constructor
  · intro h
    cases h with
    | act hR h => exact ⟨_, _, hR, rfl, h⟩
  · rintro ⟨u, es', hR, rfl, h⟩
    exact .act hR h

theorem exec_ask {next : ε → Program σ κ ε α} {a : α} :
    Exec apply E R (.ask next) s es a t ↔ ∃ e, E e ∧ Exec apply E R (next e) s es a t := by
  constructor
  · intro h
    cases h with
    | ask he h => exact ⟨_, he, h⟩
  · rintro ⟨e, he, h⟩
    exact .ask he h

theorem exec_bind {p : Program σ κ ε α} {f : α → Program σ κ ε β} {b : β} :
    Exec apply E R (p.bind f) s es b t ↔
      ∃ a u es₁ es₂, es = es₁ ++ es₂ ∧ Exec apply E R p s es₁ a u ∧
        Exec apply E R (f a) u es₂ b t := by
  induction p generalizing s es with
  | done a => simp [exec_done]
  | act k next ih =>
      rw [act_bind, exec_act]
      constructor
      · rintro ⟨u, es', hR, rfl, h⟩
        obtain ⟨a, v, es₁, es₂, rfl, h₁, h₂⟩ := (ih u).mp h
        exact ⟨a, v, ⟨k, u⟩ :: es₁, es₂, rfl, .act hR h₁, h₂⟩
      · rintro ⟨a, v, es₁, es₂, rfl, h₁, h₂⟩
        obtain ⟨u, es', hR, rfl, h₃⟩ := exec_act.mp h₁
        exact ⟨u, es' ++ es₂, hR, rfl, (ih u).mpr ⟨a, v, es', es₂, rfl, h₃, h₂⟩⟩
  | ask next ih =>
      rw [ask_bind, exec_ask]
      constructor
      · rintro ⟨e, he, h⟩
        obtain ⟨a, v, es₁, es₂, rfl, h₁, h₂⟩ := (ih e).mp h
        exact ⟨a, v, es₁, es₂, rfl, .ask he h₁, h₂⟩
      · rintro ⟨a, v, es₁, es₂, rfl, h₁, h₂⟩
        obtain ⟨e, he, h₃⟩ := exec_ask.mp h₁
        exact ⟨e, he, (ih e).mpr ⟨a, v, es₁, es₂, rfl, h₃, h₂⟩⟩

theorem Exec.weaken {F : ε → Prop} {p : Program σ κ ε α} {a : α} (h : Exec apply E R p s es a t)
    (hE : ∀ e, E e → F e) : Exec apply F R p s es a t := by
  induction h with
  | done a s => exact .done a s
  | act hR h ih => exact .act hR ih
  | ask he h ih => exact .ask (hE _ he) ih

theorem Exec.only {p : Program σ κ ε α} {I : σ → Prop} {P : κ → Prop} {a : α}
    (h : Exec apply E R p s es a t) (hp : p.Only I E P) (hI : ∀ e ∈ es, I e.pre) :
    ∀ e ∈ es, P e.act := by
  induction h with
  | done a s => simp
  | act hR h ih =>
      rw [List.forall_mem_cons] at hI
      simpa using ⟨hp.1, ih (hp.2 _ hI.1) hI.2⟩
  | ask he h ih => exact ih (hp _ he) hI

end

/-- Run with a fixed answer and with given moves of the others before the sections. -/
def run (e : ε) : List (σ → σ) → Program σ κ ε α → σ → List (Event σ κ) × α × σ
  | _, .done a, s => ([], a, s)
  | gaps, .act k next, s =>
    let u := gaps.headD id s
    let r := run e gaps.tail (next u) (apply k u)
    (⟨k, u⟩ :: r.1, r.2)
  | gaps, .ask next, s => run e gaps (next e) s

theorem run_exec {R : σ → σ → Prop} (e : ε) {gaps : List (σ → σ)} (p : Program σ κ ε α) (s : σ)
    (hR : ∀ s, R s s) (hg : ∀ g ∈ gaps, ∀ s, R s (g s)) :
    Exec apply (· = e) R p s (run apply e gaps p s).1 (run apply e gaps p s).2.1
      (run apply e gaps p s).2.2 := by
  induction p generalizing gaps s with
  | done a => exact .done a s
  | act k next ih =>
      have hu : R s (gaps.headD id s) := by
        cases gaps with
        | nil => exact hR s
        | cons g gs => exact hg g List.mem_cons_self s
      exact .act hu (ih _ _ fun g h => hg g (List.mem_of_mem_tail h))
  | ask next ih => exact .ask rfl (ih e s hg)

theorem run_of_exec {e : ε} {p : Program σ κ ε α} {s t : σ} {es : List (Event σ κ)} {a : α}
    (h : Exec apply (· = e) Eq p s es a t) : run apply e [] p s = (es, a, t) := by
  induction p generalizing s es with
  | done b =>
      obtain ⟨rfl, rfl, rfl⟩ := exec_done.mp h
      rfl
  | act k next ih =>
      obtain ⟨u, es', rfl, rfl, hrest⟩ := exec_act.mp h
      have hrun := ih s hrest
      simp only [run, List.headD_nil, id_eq, List.tail_nil, hrun]
  | ask next ih =>
      obtain ⟨_, rfl, hrest⟩ := exec_ask.mp h
      exact ih _ hrest

theorem run_bind (e : ε) (p : Program σ κ ε α) (f : α → Program σ κ ε β)
    (gaps : List (σ → σ)) (s : σ) :
    run apply e gaps (p.bind f) s =
      let r := run apply e gaps p s
      let r' := run apply e (gaps.drop r.1.length) (f r.2.1) r.2.2
      (r.1 ++ r'.1, r'.2) := by
  induction p generalizing gaps s with
  | done a => simp [run]
  | act k next ih => simp [run, ih, ← List.drop_one, Nat.add_comm]
  | ask next ih => simp [run, ih]

/-- Related answers do not make a difference to the program. -/
def Indifferent (T : ε → ε → Prop) : Program σ κ ε α → Prop
  | done _ => True
  | act _ next => ∀ s, (next s).Indifferent T
  | ask next => ∀ e e', T e e' → next e = next e' ∧ (next e).Indifferent T

section

variable {T : ε → ε → Prop}

theorem Indifferent.bind {p : Program σ κ ε α} {f : α → Program σ κ ε β} (hp : p.Indifferent T)
    (hf : ∀ a, (f a).Indifferent T) : (p.bind f).Indifferent T := by
  induction p with
  | done a => exact hf a
  | act k next ih => exact fun s => ih s (hp s)
  | ask next ih =>
      intro e e' he
      obtain ⟨heq, hnext⟩ := hp e e' he
      exact ⟨congrArg (Program.bind · f) heq, ih e hnext⟩

theorem Indifferent.run_eq {p : Program σ κ ε α} (hp : p.Indifferent T) {e e' : ε} (he : T e e')
    (gaps : List (σ → σ)) (s : σ) : run apply e gaps p s = run apply e' gaps p s := by
  induction p generalizing gaps s with
  | done a => rfl
  | act k next ih =>
      have hnext := ih (gaps.headD id s) (hp _) gaps.tail (apply k (gaps.headD id s))
      simp only [run, hnext]
  | ask next ih =>
      obtain ⟨heq, hnext⟩ := hp e e' he
      have hrun := ih e hnext gaps s
      rw [heq] at hrun
      simpa only [run, heq] using hrun

end

end Program

/-- Each event finds the state the one before it left. -/
inductive Chained {σ κ : Type} (apply : κ → σ → σ) : σ → List (Event σ κ) → σ → Prop where
  | nil (s : σ) : Chained apply s [] s
  | cons {k : κ} {s t : σ} {es : List (Event σ κ)} :
      Chained apply (apply k s) es t → Chained apply s (⟨k, s⟩ :: es) t

namespace Chained

variable {σ κ : Type} {apply : κ → σ → σ} {s t u : σ} {es ds : List (Event σ κ)}

theorem append (h : Chained apply s es t) (h' : Chained apply t ds u) :
    Chained apply s (es ++ ds) u := by
  induction h with
  | nil s => exact h'
  | cons h ih => exact .cons (ih h')

theorem of_append (h : Chained apply s (es ++ ds) u) :
    ∃ t, Chained apply s es t ∧ Chained apply t ds u := by
  induction es generalizing s with
  | nil => exact ⟨s, .nil s, h⟩
  | cons e es ih =>
      cases h with
      | cons h =>
          obtain ⟨t, h₁, h₂⟩ := ih h
          exact ⟨t, .cons h₁, h₂⟩

theorem snoc_iff {e : Event σ κ} :
    Chained apply s (es ++ [e]) u ↔ Chained apply s es e.pre ∧ u = apply e.act e.pre := by
  constructor
  · intro h
    obtain ⟨t, h₁, h₂⟩ := h.of_append
    cases h₂ with
    | cons h =>
        cases h with
        | nil => exact ⟨h₁, rfl⟩
  · rintro ⟨h, rfl⟩
    exact h.append (.cons (.nil _))

def trace (apply : κ → σ → σ) : List κ → σ → List (Event σ κ)
  | [], _ => []
  | k :: ks, s => ⟨k, s⟩ :: trace apply ks (apply k s)

theorem trace_chained (apply : κ → σ → σ) (ks : List κ) (s : σ) :
    Chained apply s (trace apply ks s) (ks.foldl (fun s k => apply k s) s) := by
  induction ks generalizing s with
  | nil => exact .nil s
  | cons k ks ih => exact .cons (ih (apply k s))

theorem invariant {I : σ → Prop} (h : Chained apply s es t) (hs : I s)
    (step : ∀ e ∈ es, I e.pre → I (apply e.act e.pre)) : I t := by
  induction h with
  | nil s => exact hs
  | cons h ih =>
      exact ih (step _ List.mem_cons_self hs) fun e he => step e (List.mem_cons_of_mem _ he)

theorem invariant_pre {I : σ → Prop} (h : Chained apply s es t) (hs : I s)
    (step : ∀ e ∈ es, I e.pre → I (apply e.act e.pre)) : ∀ e ∈ es, I e.pre := by
  induction h with
  | nil s => simp
  | cons h ih =>
      rw [List.forall_mem_cons] at step ⊢
      exact ⟨hs, ih (step.1 hs) step.2⟩

theorem of_infix {stretch : List (Event σ κ)} (h : Chained apply s es t) (hi : stretch <:+: es) :
    ∃ u v, Chained apply u stretch v := by
  obtain ⟨before, rest, rfl⟩ := hi
  obtain ⟨v, hfront, -⟩ := h.of_append
  obtain ⟨u, -, hstretch⟩ := hfront.of_append
  exact ⟨u, v, hstretch⟩

theorem head_pre {e : Event σ κ} (h : Chained apply s es t) (he : e ∈ es.head?) : e.pre = s := by
  cases h with
  | nil => cases he
  | cons h =>
      obtain rfl := Option.some.inj he
      rfl

/-- A property that, under an invariant, only the sections in `bad` break holds all along a run
exactly when no section of the run is in `bad`. -/
theorem forall_iff {I J : σ → Prop} {bad : Event σ κ → Prop} (h : Chained apply s es t)
    (hI : I s) (hJ : J s)
    (step : ∀ e ∈ es, I e.pre → J e.pre →
      (I (apply e.act e.pre) ↔ ¬bad e) ∧ J (apply e.act e.pre)) :
    (∀ e ∈ es, I (apply e.act e.pre)) ↔ ∀ e ∈ es, ¬bad e := by
  induction h with
  | nil s => simp
  | @cons k s t es h ih =>
      obtain ⟨hiff, hJ'⟩ := step ⟨k, s⟩ List.mem_cons_self hI hJ
      rw [List.forall_mem_cons, List.forall_mem_cons]
      constructor
      · rintro ⟨hhead, htail⟩
        have htail' := ih hhead hJ' fun e he => step e (List.mem_cons_of_mem _ he)
        exact ⟨hiff.mp hhead, htail'.mp htail⟩
      · rintro ⟨hhead, htail⟩
        have hI' := hiff.mpr hhead
        have htail' := ih hI' hJ' fun e he => step e (List.mem_cons_of_mem _ he)
        exact ⟨hI', htail'.mpr htail⟩

theorem pairwise_iff {R : σ → σ → Prop} [IsTrans σ R] (h : Chained apply s es t) :
    (s :: es.map fun e => apply e.act e.pre).Pairwise R ↔ ∀ e ∈ es, R e.pre (apply e.act e.pre) := by
  rw [← List.isChain_iff_pairwise]
  induction h with
  | nil s => simp
  | cons h ih => rw [List.map_cons, List.isChain_cons_cons, List.forall_mem_cons, ih]

theorem pairwise_iff_of_bad {R : σ → σ → Prop} {bad : σ → Event σ κ → Prop} [Std.Refl R]
    (h : Chained apply s es t)
    (step : ∀ e ∈ es, ∀ u, R u e.pre → (R u (apply e.act e.pre) ↔ ¬bad u e)) :
    (s :: es.map fun e => apply e.act e.pre).Pairwise R ↔
      (∀ e ∈ es, ¬bad e.pre e) ∧ es.Pairwise fun d e => ¬bad d.pre e := by
  induction h with
  | nil s => simp
  | @cons k s t es h ih =>
      have htail := ih fun e he => step e (List.mem_cons_of_mem _ he)
      have hwhole : Chained apply s (⟨k, s⟩ :: es) t := .cons h
      have hfirst := hwhole.forall_iff (I := R s) (J := fun _ => True) (refl_of R s) trivial
        fun e he hs _ => ⟨step e he s hs, trivial⟩
      rw [List.pairwise_cons, List.forall_mem_map, hfirst, List.map_cons, htail,
        List.pairwise_cons, List.forall_mem_cons, List.forall_mem_cons]
      tauto

theorem rel_pre {R : σ → σ → Prop} [Std.Refl R] [IsTrans σ R] (h : Chained apply s es t)
    (step : ∀ e ∈ es, R e.pre (apply e.act e.pre)) : ∀ e ∈ es, R s e.pre := by
  induction h with
  | nil s => simp
  | @cons k s t es h ih =>
      rw [List.forall_mem_cons] at step ⊢
      refine ⟨refl_of R s, fun e he => ?_⟩
      exact trans_of R step.1 (ih step.2 e he)

theorem pairwise_pre {R : σ → σ → Prop} [Std.Refl R] [IsTrans σ R] (h : Chained apply s es t)
    (step : ∀ e ∈ es, R e.pre (apply e.act e.pre)) :
    es.Pairwise fun e e' => R (apply e.act e.pre) e'.pre := by
  induction h with
  | nil s => exact .nil
  | @cons k s t es h ih =>
      rw [List.forall_mem_cons] at step
      exact .cons (h.rel_pre step.2) (ih step.2)

end Chained

theorem Program.Exec.chained {σ κ ε α : Type} {apply : κ → σ → σ} {E : ε → Prop}
    {p : Program σ κ ε α} {s t : σ} {es : List (Event σ κ)} {a : α}
    (h : Program.Exec apply E Eq p s es a t) : Chained apply s es t := by
  induction h with
  | done a s => exact .nil s
  | act hR h ih =>
      subst hR
      exact .cons ih
  | ask he h ih => exact ih

/-- A history of completed operations, each run with nothing else in between. What the
surroundings may answer to an operation can depend on the events before it. -/
inductive Session {σ κ ε π α : Type} (program : π → Program σ κ ε α) (apply : κ → σ → σ)
    (E : List (Event σ κ) → ε → Prop) : σ → List (Event σ κ) → List (π × α) → σ → Prop where
  | nil (s : σ) : Session program apply E s [] [] s
  | snoc {s t u : σ} {es ds : List (Event σ κ)} {calls : List (π × α)} {op : π} {a : α} :
      Session program apply E s es calls t → Program.Exec apply (E es) Eq (program op) t ds a u →
      Session program apply E s (es ++ ds) (calls ++ [(op, a)]) u

namespace Session

variable {σ κ ε π α : Type} {program : π → Program σ κ ε α} {apply : κ → σ → σ}
variable {E : List (Event σ κ) → ε → Prop}
variable {s t : σ} {es : List (Event σ κ)} {calls : List (π × α)}

theorem chained (h : Session program apply E s es calls t) : Chained apply s es t := by
  induction h with
  | nil => exact .nil s
  | snoc _ hx ih => exact ih.append hx.chained

theorem forall_mem {P : Event σ κ → Prop} (h : Session program apply E s es calls t)
    (hop : ∀ {es op u ds a v}, Program.Exec apply (E es) Eq (program op) u ds a v →
      ∀ e ∈ ds, P e) : ∀ e ∈ es, P e := by
  induction h with
  | nil => simp
  | snoc _ hx ih =>
      intro e he
      rcases List.mem_append.mp he with he | he
      · exact ih e he
      · exact hop hx e he

/-- Run a list of operations one after another with a fixed answer. -/
def run (program : π → Program σ κ ε α) (apply : κ → σ → σ) (e : ε) :
    List π → σ → List (Event σ κ) × List (π × α) × σ
  | [], s => ([], [], s)
  | op :: ops, s =>
    let r := Program.run apply e [] (program op) s
    let rest := run program apply e ops r.2.2
    (r.1 ++ rest.1, (op, r.2.1) :: rest.2.1, rest.2.2)

theorem run_append (h : Session program apply E s es calls t) {e : ε}
    (he : ∀ ds, E (es ++ ds) e) (ops : List π) :
    Session program apply E s (es ++ (run program apply e ops t).1)
      (calls ++ (run program apply e ops t).2.1) (run program apply e ops t).2.2 := by
  induction ops generalizing es calls t with
  | nil => simpa [run] using h
  | cons op ops ih =>
      have hx : Program.Exec apply (· = e) Eq (program op) t _ _ _ :=
        Program.run_exec apply e (program op) t (fun _ => rfl)
          fun g hg => absurd hg (List.not_mem_nil (a := g))
      have hop := h.snoc (hx.weaken fun _ hx => hx ▸ List.append_nil es ▸ he [])
      have hrest := ih hop fun ds => List.append_assoc .. ▸ he _
      simpa [run] using hrest

theorem run_session {e : ε} (he : ∀ es, E es e) (ops : List π) (s : σ) :
    Session program apply E s (run program apply e ops s).1 (run program apply e ops s).2.1
      (run program apply e ops s).2.2 := by
  simpa using (nil s).run_append (fun ds => he ds) ops

end Session

end ModelRouter.Base
