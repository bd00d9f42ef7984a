import ModelRouter.Base.Program

namespace ModelRouter.Base

/-- The shared state and the operations in flight, each as what is left of its program. -/
structure Pool (σ κ ε α : Type) where
  state : σ
  threads : List (Program σ κ ε α)

/-- One choice of a schedule: a new operation begins, or an operation in flight takes its next
step with the given answer in case it asks for one. -/
inductive Choice (π ε : Type) where
  | start (op : π)
  | advance (thread : Nat) (answer : ε)

namespace Pool

variable {σ κ ε π α : Type} (program : π → Program σ κ ε α) (apply : κ → σ → σ)

/-- The next step of the operation `thread`, which is the `i`-th in flight. -/
def advance (p : Pool σ κ ε α) (i : Nat) (e : ε) :
    Program σ κ ε α → List (Event σ κ) × Pool σ κ ε α
  | .done _ => ([], p)
  | .act k next =>
    ([⟨k, p.state⟩], { state := apply k p.state, threads := p.threads.set i (next p.state) })
  | .ask next => ([], { p with threads := p.threads.set i (next e) })

def step (p : Pool σ κ ε α) : Choice π ε → List (Event σ κ) × Pool σ κ ε α
  | .start op => ([], { p with threads := p.threads ++ [program op] })
  | .advance i e =>
    match p.threads[i]? with
    | none => ([], p)
    | some thread => advance apply p i e thread

/-- Every schedule is a list of choices, so a fact about all runs is one about all
interleavings of the sections of any number of operations. -/
def run : List (Choice π ε) → Pool σ κ ε α → List (Event σ κ) × Pool σ κ ε α
  | [], p => ([], p)
  | c :: cs, p =>
    let first := step program apply p c
    let rest := run cs first.2
    (first.1 ++ rest.1, rest.2)

variable {program apply}

theorem step_advance {p : Pool σ κ ε α} {i : Nat} {thread : Program σ κ ε α}
    (h : p.threads[i]? = some thread) (e : ε) :
    step program apply p (.advance i e) = advance apply p i e thread := by
  simp only [step, h]

theorem step_idle {p : Pool σ κ ε α} {i : Nat} (h : p.threads[i]? = none) (e : ε) :
    step program apply p (.advance i e) = ([], p) := by
  simp only [step, h]

theorem advance_chained (p : Pool σ κ ε α) (i : Nat) (e : ε) (thread : Program σ κ ε α) :
    Chained apply p.state (advance apply p i e thread).1 (advance apply p i e thread).2.state := by
  cases thread with
  | done a => exact .nil _
  | act k next => exact .cons (.nil _)
  | ask next => exact .nil _

theorem step_chained (p : Pool σ κ ε α) (c : Choice π ε) :
    Chained apply p.state (step program apply p c).1 (step program apply p c).2.state := by
  cases c with
  | start op => exact .nil _
  | advance i e =>
      cases h : p.threads[i]? with
      | none =>
          rw [step_idle h]
          exact .nil _
      | some thread =>
          rw [step_advance h]
          exact advance_chained p i e thread

theorem run_chained (cs : List (Choice π ε)) (p : Pool σ κ ε α) :
    Chained apply p.state (run program apply cs p).1 (run program apply cs p).2.state := by
  induction cs generalizing p with
  | nil => exact .nil _
  | cons c cs ih => exact (step_chained p c).append (ih _)

/-- Every operation in flight keeps to `P`, as every operation that may begin does. -/
def Only (I : σ → Prop) (E : ε → Prop) (P : κ → Prop) (p : Pool σ κ ε α) : Prop :=
  ∀ thread ∈ p.threads, thread.Only I E P

/-- The answers of a schedule. -/
def Answered (E : ε → Prop) (cs : List (Choice π ε)) : Prop :=
  ∀ i e, Choice.advance i e ∈ cs → E e

variable {I : σ → Prop} {E : ε → Prop} {P : κ → Prop}

theorem Only.set {p : Pool σ κ ε α} (hp : p.Only I E P) {thread : Program σ κ ε α}
    (h : thread.Only I E P) (i : Nat) (s : σ) : Only I E P ⟨s, p.threads.set i thread⟩ := by
  intro other hother
  rcases List.mem_or_eq_of_mem_set hother with hold | rfl
  · exact hp other hold
  · exact h

theorem advance_only (hkeep : ∀ k s, P k → I s → I (apply k s)) {p : Pool σ κ ε α}
    (hI : I p.state) (hp : p.Only I E P) {e : ε} (he : E e) {thread : Program σ κ ε α}
    (h : thread.Only I E P) (i : Nat) :
    (∀ e' ∈ (advance apply p i e thread).1, I e'.pre ∧ P e'.act) ∧
      I (advance apply p i e thread).2.state ∧ (advance apply p i e thread).2.Only I E P := by
  cases thread with
  | done a => exact ⟨by simp [advance], hI, hp⟩
  | act k next =>
      refine ⟨?_, hkeep k p.state h.1 hI, hp.set (h.2 p.state hI) i _⟩
      simpa [advance] using ⟨hI, h.1⟩
  | ask next => exact ⟨by simp [advance], hI, hp.set (h e he) i _⟩

theorem step_only (hkeep : ∀ k s, P k → I s → I (apply k s))
    (hprogram : ∀ op, (program op).Only I E P) {p : Pool σ κ ε α} (hI : I p.state)
    (hp : p.Only I E P) {c : Choice π ε} (hc : ∀ i e, c = .advance i e → E e) :
    (∀ e ∈ (step program apply p c).1, I e.pre ∧ P e.act) ∧
      I (step program apply p c).2.state ∧ (step program apply p c).2.Only I E P := by
  cases c with
  | start op =>
      refine ⟨by simp [step], hI, ?_⟩
      intro thread hthread
      rcases List.mem_append.mp hthread with hold | hnew
      · exact hp thread hold
      · rw [List.mem_singleton.mp hnew]
        exact hprogram op
  | advance i e =>
      cases h : p.threads[i]? with
      | none =>
          rw [step_idle h]
          exact ⟨by simp, hI, hp⟩
      | some thread =>
          rw [step_advance h]
          exact advance_only hkeep hI hp (hc i e rfl) (hp thread (List.mem_of_getElem? h)) i

/-- What the sections in `P` keep holds in every state of a run whose operations, in such states,
perform nothing else. -/
theorem run_only (hkeep : ∀ k s, P k → I s → I (apply k s))
    (hprogram : ∀ op, (program op).Only I E P) {cs : List (Choice π ε)} (hcs : Answered E cs)
    {p : Pool σ κ ε α} (hI : I p.state) (hp : p.Only I E P) :
    (∀ e ∈ (run program apply cs p).1, I e.pre ∧ P e.act) ∧
      I (run program apply cs p).2.state := by
  induction cs generalizing p with
  | nil => exact ⟨by simp [run], hI⟩
  | cons c cs ih =>
      have hstep := step_only hkeep hprogram hI hp fun i e h => hcs i e (h ▸ List.mem_cons_self)
      have hrest := ih (fun i e h => hcs i e (List.mem_cons_of_mem _ h)) hstep.2.1 hstep.2.2
      refine ⟨fun e he => ?_, hrest.2⟩
      rcases List.mem_append.mp he with hfirst | hlater
      · exact hstep.1 e hfirst
      · exact hrest.1 e hlater

variable (program apply E) in
/-- Some schedule with answers in `E` takes the one pool to the other. -/
def Reaches (p q : Pool σ κ ε α) : Prop :=
  ∃ cs : List (Choice π ε), Answered E cs ∧ (run program apply cs p).2 = q

theorem Reaches.refl (p : Pool σ κ ε α) : Reaches program apply E p p :=
  ⟨[], by simp [Answered], rfl⟩

theorem Reaches.head {c : Choice π ε} (hc : ∀ i e, c = .advance i e → E e) {p q : Pool σ κ ε α}
    (h : Reaches program apply E (step program apply p c).2 q) : Reaches program apply E p q := by
  obtain ⟨cs, hcs, hq⟩ := h
  refine ⟨c :: cs, fun i e hmem => ?_, hq⟩
  rcases List.mem_cons.mp hmem with heq | hmem
  · exact hc i e heq.symm
  · exact hcs i e hmem

theorem Reaches.trans {p q r : Pool σ κ ε α} (h : Reaches program apply E p q)
    (h' : Reaches program apply E q r) : Reaches program apply E p r := by
  obtain ⟨cs, hcs, hq⟩ := h
  induction cs generalizing p with
  | nil =>
      obtain rfl : p = q := hq
      exact h'
  | cons c cs ih =>
      refine .head (fun i e heq => hcs i e (heq ▸ List.mem_cons_self)) (ih ?_ hq)
      exact fun i e hmem => hcs i e (List.mem_cons_of_mem c hmem)

section

variable {threads : List (Program σ κ ε α)} {i : Nat} {s : σ} {q : Pool σ κ ε α}

theorem getElem?_set {first next : Program σ κ ε α} (h : threads[i]? = some first) :
    (threads.set i next)[i]? = some next :=
  List.getElem?_set_self (List.getElem?_eq_some_iff.mp h).1

theorem Reaches.advance {first : Program σ κ ε α} {e : ε} (he : E e) (hi : threads[i]? = some first)
    (h : Reaches program apply E (Pool.advance apply ⟨s, threads⟩ i e first).2 q) :
    Reaches program apply E ⟨s, threads⟩ q := by
  have hstep : step program apply ⟨s, threads⟩ (.advance i e) =
      Pool.advance apply ⟨s, threads⟩ i e first := step_advance hi e
  rw [← hstep] at h
  refine .head (fun j e' heq => ?_) h
  obtain ⟨-, rfl⟩ := Choice.advance.inj heq
  exact he

end

theorem exec_reaches {answer : ε} (hanswer : E answer) {p : Program σ κ ε α} {s t : σ}
    {es : List (Event σ κ)} {a : α} (h : Program.Exec apply E Eq p s es a t)
    {threads : List (Program σ κ ε α)} {i : Nat} (hi : threads[i]? = some p) :
    (∃ others, Reaches program apply E ⟨s, threads⟩ ⟨t, others⟩) ∧
      ∀ e ∈ es, ∃ others, Reaches program apply E ⟨s, threads⟩ ⟨e.pre, others⟩ := by
  induction h generalizing threads with
  | done a s => exact ⟨⟨threads, .refl _⟩, by simp⟩
  | act hR h ih =>
      subst hR
      obtain ⟨⟨others, hend⟩, hevents⟩ := ih (getElem?_set hi)
      refine ⟨⟨others, .advance hanswer hi hend⟩, fun e he => ?_⟩
      rcases List.mem_cons.mp he with rfl | he
      · exact ⟨threads, .refl _⟩
      · obtain ⟨others', hpre⟩ := hevents e he
        exact ⟨others', .advance hanswer hi hpre⟩
  | ask he h ih =>
      obtain ⟨⟨others, hend⟩, hevents⟩ := ih (getElem?_set hi)
      refine ⟨⟨others, .advance he hi hend⟩, fun e hmem => ?_⟩
      obtain ⟨others', hpre⟩ := hevents e hmem
      exact ⟨others', .advance he hi hpre⟩

theorem session_reaches {answer : ε} (hanswer : E answer) {F : List (Event σ κ) → ε → Prop}
    (hF : ∀ es e, F es e → E e) {s t : σ} {es : List (Event σ κ)} {calls : List (π × α)}
    (h : Session program apply F s es calls t) :
    (∃ others, Reaches program apply E ⟨s, []⟩ ⟨t, others⟩) ∧
      ∀ e ∈ es, ∃ others, Reaches program apply E ⟨s, []⟩ ⟨e.pre, others⟩ := by
  induction h with
  | nil => exact ⟨⟨[], .refl _⟩, by simp⟩
  | @snoc t u es ds calls op a h hx ih =>
      obtain ⟨⟨threads, hbefore⟩, hevents⟩ := ih
      have hi : (threads ++ [program op])[threads.length]? = some (program op) := by simp
      obtain ⟨⟨others, hend⟩, hlater⟩ :
          (∃ others, Reaches program apply E ⟨t, threads ++ [program op]⟩ ⟨u, others⟩) ∧
            ∀ e ∈ ds, ∃ others, Reaches program apply E ⟨t, threads ++ [program op]⟩
              ⟨e.pre, others⟩ :=
        exec_reaches hanswer (hx.weaken (hF es)) hi
      have hstart {q : Pool σ κ ε α}
          (hq : Reaches program apply E ⟨t, threads ++ [program op]⟩ q) :
          Reaches program apply E ⟨s, []⟩ q := by
        refine hbefore.trans (.head (c := .start op) (fun j e heq => ?_) hq)
        cases heq
      refine ⟨⟨others, hstart hend⟩, fun e he => ?_⟩
      rcases List.mem_append.mp he with he | he
      · exact hevents e he
      · obtain ⟨others', hpre⟩ := hlater e he
        exact ⟨others', hstart hpre⟩

end Pool

end ModelRouter.Base
