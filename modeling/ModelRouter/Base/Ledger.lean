import Mathlib.Data.List.Perm.Basic
import ModelRouter.Base.Interleaving

namespace ModelRouter.Base

namespace Program

variable {σ κ ε α β μ : Type}

def finished : Program σ κ ε α → Bool
  | done _ => true
  | _ => false

def upcoming : Program σ κ ε α → Option κ
  | act k _ => some k
  | _ => none

/-- On every path of the program an automaton that watches the sections, each with the state it
finds, refuses nothing, and ends in a state that suits the result. -/
def Tracks (move : μ → Event σ κ → Option μ) (Q : μ → α → Prop) : μ → Program σ κ ε α → Prop
  | m, done a => Q m a
  | m, act k next => ∀ s, ∃ n, move m ⟨k, s⟩ = some n ∧ (next s).Tracks move Q n
  | m, ask next => ∀ e, (next e).Tracks move Q m

variable {move : μ → Event σ κ → Option μ} {Q : μ → α → Prop} {T : μ → β → Prop} {m : μ}

theorem Tracks.bind {p : Program σ κ ε α} {f : α → Program σ κ ε β} (hp : p.Tracks move Q m)
    (hf : ∀ n a, Q n a → (f a).Tracks move T n) : (p.bind f).Tracks move T m := by
  induction p generalizing m with
  | done a => exact hf m a hp
  | act k next ih =>
      intro s
      obtain ⟨n, hn, hnext⟩ := hp s
      exact ⟨n, hn, ih s hnext⟩
  | ask next ih => exact fun e => ih e (hp e)

theorem Only.tracks {P : κ → Prop} {p : Program σ κ ε α}
    (hp : p.Only (fun _ => True) (fun _ => True) P)
    (hstay : ∀ k s, P k → move m ⟨k, s⟩ = some m) : p.Tracks move (fun n _ => n = m) m := by
  induction p with
  | done a => rfl
  | act k next ih => exact fun s => ⟨m, hstay k s hp.1, ih s (hp.2 s trivial)⟩
  | ask next ih => exact fun e => ih e (hp e trivial)

theorem Only.upcoming {I : σ → Prop} {E : ε → Prop} {P : κ → Prop} {p : Program σ κ ε α}
    (hp : p.Only I E P) {k : κ} (hk : p.upcoming = some k) : P k := by
  cases p with
  | act j next =>
      obtain rfl := Option.some.inj hk
      exact hp.1
  | _ => cases hk

theorem Tracks.unfinished {p : Program σ κ ε α} (hp : p.Tracks move Q m) (hm : ∀ a, ¬Q m a) :
    p.finished = false := by
  cases p with
  | done a => exact absurd hp (hm a)
  | _ => rfl

theorem Tracks.only [Nonempty σ] {I : σ → Prop} {E : ε → Prop} {P : κ → Prop}
    {p : Program σ κ ε α} (hp : p.Tracks move Q m)
    (hmove : ∀ m e n, move m e = some n → P e.act) : p.Only I E P := by
  induction p generalizing m with
  | done a => trivial
  | act k next ih =>
      obtain ⟨s⟩ := ‹Nonempty σ›
      obtain ⟨n, hn, -⟩ := hp s
      refine ⟨hmove m ⟨k, s⟩ n hn, fun t _ => ?_⟩
      obtain ⟨u, -, hu⟩ := hp t
      exact ih t hu
  | ask next ih => exact fun e _ => ih e (hp e)

end Program

/-- An operation that has begun, with the sections it has taken, the latest one last. -/
structure Begun (σ κ ε π α : Type) where
  op : π
  rest : Program σ κ ε α
  sections : List (Event σ κ) := []

/-- The shared state and all operations that have begun, in the order they did. -/
structure Ledger (σ κ ε π α : Type) where
  state : σ
  calls : List (Begun σ κ ε π α) := []

variable {σ κ ε π α μ : Type}

/-- What the call did the automaton followed, as it will what is left of it. -/
def Begun.Tracks (move : μ → Event σ κ → Option μ) (Q : μ → α → Prop) (m₀ : μ)
    (call : Begun σ κ ε π α) : Prop :=
  ∃ m, call.sections.foldlM move m₀ = some m ∧ call.rest.Tracks move Q m

namespace Ledger

def pool (l : Ledger σ κ ε π α) : Pool σ κ ε α :=
  ⟨l.state, l.calls.map Begun.rest⟩

/-- The sections of all calls. -/
def sections (l : Ledger σ κ ε π α) : List (Event σ κ) :=
  l.calls.flatMap Begun.sections

section

variable (program : π → Program σ κ ε α) (apply : κ → σ → σ)

def step (l : Ledger σ κ ε π α) : Choice π ε → Ledger σ κ ε π α
  | .start op => { l with calls := l.calls ++ [{ op := op, rest := program op }] }
  | .advance i e =>
    match l.calls[i]? with
    | none => l
    | some call =>
      match call.rest with
      | .done _ => l
      | .act k next =>
        { state := apply k l.state
          calls := l.calls.set i
            { call with rest := next l.state, sections := call.sections ++ [⟨k, l.state⟩] } }
      | .ask next => { l with calls := l.calls.set i { call with rest := next e } }

def run : List (Choice π ε) → Ledger σ κ ε π α → Ledger σ κ ε π α
  | [], l => l
  | c :: cs, l => run cs (step program apply l c)

/-- Every step of the run meets a condition on the ledger it starts from. -/
def Throughout (condition : Ledger σ κ ε π α → Choice π ε → Prop) :
    Ledger σ κ ε π α → List (Choice π ε) → Prop
  | _, [] => True
  | l, c :: cs => condition l c ∧ Throughout condition (step program apply l c) cs

instance decidableThroughout (condition : Ledger σ κ ε π α → Choice π ε → Prop)
    [∀ l c, Decidable (condition l c)] :
    ∀ (l : Ledger σ κ ε π α) (cs : List (Choice π ε)),
      Decidable (Throughout program apply condition l cs)
  | _, [] => inferInstanceAs (Decidable True)
  | l, c :: cs =>
    have := decidableThroughout condition (step program apply l c) cs
    inferInstanceAs (Decidable (condition l c ∧ Throughout program apply condition _ cs))

/-- What a step does to a ledger. -/
inductive Step (l : Ledger σ κ ε π α) : Choice π ε → Ledger σ κ ε π α → Prop where
  | began (op : π) :
    Step l (.start op) { l with calls := l.calls ++ [{ op := op, rest := program op }] }
  | idled {i : Nat} {e : ε} :
    (∀ call, l.calls[i]? = some call → call.rest.finished = true) → Step l (.advance i e) l
  | answered {i : Nat} {e : ε} {call : Begun σ κ ε π α} {next : ε → Program σ κ ε α} :
    l.calls[i]? = some call → call.rest = .ask next →
    Step l (.advance i e) { l with calls := l.calls.set i { call with rest := next e } }
  | acted {i : Nat} {e : ε} {call : Begun σ κ ε π α} {k : κ} {next : σ → Program σ κ ε α} :
    l.calls[i]? = some call → call.rest = .act k next →
    Step l (.advance i e)
      { state := apply k l.state
        calls := l.calls.set i
          { call with rest := next l.state, sections := call.sections ++ [⟨k, l.state⟩] } }

end

variable {program : π → Program σ κ ε α} {apply : κ → σ → σ} {l l' : Ledger σ κ ε π α}
variable {c : Choice π ε} {cs : List (Choice π ε)}

theorem step_cases (l : Ledger σ κ ε π α) (c : Choice π ε) :
    Step program apply l c (step program apply l c) := by
  cases c with
  | start op => exact .began op
  | advance i e =>
      rw [step]
      cases hi : l.calls[i]? with
      | none => exact .idled fun call hcall => by cases hi.symm.trans hcall
      | some call =>
          dsimp only
          split
          · rename_i a hrest
            refine .idled fun other hother => ?_
            obtain rfl := Option.some.inj (hi.symm.trans hother)
            rw [hrest]
            rfl
          · rename_i k next hrest
            exact .acted hi hrest
          · rename_i next hrest
            exact .answered hi hrest

theorem Throughout.invariant {condition : Ledger σ κ ε π α → Choice π ε → Prop}
    {I : Ledger σ κ ε π α → Prop} (h : Throughout program apply condition l cs) (hI : I l)
    (hstep : ∀ l c l', I l → condition l c → Step program apply l c l' → I l') :
    I (run program apply cs l) := by
  induction cs generalizing l with
  | nil => exact hI
  | cons c cs ih => exact ih h.2 (hstep l c _ hI h.1 (step_cases l c))

section

variable {call call' other : Begun σ κ ε π α} {i : Nat}

theorem set_cases {calls : List (Begun σ κ ε π α)} {j : Nat}
    (h : (calls.set i call')[j]? = some other) :
    j = i ∧ other = call' ∨ j ≠ i ∧ calls[j]? = some other := by
  rw [List.getElem?_set] at h
  by_cases hij : i = j
  · rw [if_pos hij] at h
    split at h
    · exact .inl ⟨hij.symm, (Option.some.inj h).symm⟩
    · cases h
  · rw [if_neg hij] at h
    exact .inr ⟨Ne.symm hij, h⟩

theorem mem_set {calls : List (Begun σ κ ε π α)} (h : other ∈ calls.set i call') :
    other = call' ∨ ∃ j, j ≠ i ∧ calls[j]? = some other := by
  obtain ⟨j, hj⟩ := List.mem_iff_getElem?.mp h
  rcases set_cases hj with ⟨-, hother⟩ | hother
  · exact .inl hother
  · exact .inr ⟨j, hother⟩

theorem flatMap_set_perm {γ : Type} {f : Begun σ κ ε π α → List γ} {added : List γ}
    {calls : List (Begun σ κ ε π α)} (hi : calls[i]? = some call)
    (hf : f call' = f call ++ added) :
    ((calls.set i call').flatMap f).Perm (calls.flatMap f ++ added) := by
  induction calls generalizing i with
  | nil => cases hi
  | cons first rest ih =>
      cases i with
      | zero =>
          obtain rfl : first = call := Option.some.inj hi
          rw [List.set_cons_zero, List.flatMap_cons, List.flatMap_cons, hf, List.append_assoc,
            List.append_assoc]
          exact List.perm_append_comm.append_left _
      | succ i =>
          rw [List.set_cons_succ, List.flatMap_cons, List.flatMap_cons, List.append_assoc]
          exact (ih hi).append_left _

end

theorem pool_thread {call : Begun σ κ ε π α} {i : Nat} (hi : l.calls[i]? = some call) :
    l.pool.threads[i]? = some call.rest := by
  rw [pool, List.getElem?_map, hi, Option.map_some]

theorem Step.refines (h : Step program apply l c l') :
    l'.pool = (Pool.step program apply l.pool c).2 ∧
      l'.sections.Perm (l.sections ++ (Pool.step program apply l.pool c).1) := by
  cases h with
  | began op => simp [pool, sections, Pool.step]
  | @idled i e hidle =>
      have hstep : Pool.step program apply l.pool (.advance i e) = ([], l.pool) := by
        cases hi : l.calls[i]? with
        | none =>
            refine Pool.step_idle ?_ e
            rw [pool, List.getElem?_map, hi, Option.map_none]
        | some call =>
            rw [Pool.step_advance (pool_thread hi)]
            have hdone := hidle call hi
            cases hrest : call.rest with
            | done a => rfl
            | _ =>
                rw [hrest] at hdone
                cases hdone
      rw [hstep, List.append_nil]
      exact ⟨rfl, .refl _⟩
  | answered hi hrest =>
      rw [Pool.step_advance (pool_thread hi), hrest]
      exact ⟨by simp [pool, Pool.advance, List.map_set],
        flatMap_set_perm hi (by simp [Pool.advance])⟩
  | acted hi hrest =>
      rw [Pool.step_advance (pool_thread hi), hrest]
      exact ⟨by simp [pool, Pool.advance, List.map_set],
        flatMap_set_perm hi (by simp [Pool.advance, pool])⟩

theorem run_refines :
    (run program apply cs l).pool = (Pool.run program apply cs l.pool).2 ∧
      (run program apply cs l).sections.Perm
        (l.sections ++ (Pool.run program apply cs l.pool).1) := by
  induction cs generalizing l with
  | nil => simp [run, Pool.run]
  | cons c cs ih =>
      have hstep : Step program apply l c (step program apply l c) := step_cases l c
      obtain ⟨hpool, hsections⟩ := hstep.refines
      obtain ⟨hend, hall⟩ := ih (l := step program apply l c)
      rw [hpool] at hend hall
      refine ⟨hend, hall.trans ((hsections.append_right _).trans ?_)⟩
      rw [List.append_assoc]
      rfl

section

variable {move : μ → Event σ κ → Option μ} {Q : μ → α → Prop} {m₀ : μ} {p : π → Prop}

theorem Step.tracks (h : Step program apply l c l')
    (hprogram : ∀ op, p op → (program op).Tracks move Q m₀)
    (hl : ∀ call ∈ l.calls, p call.op → call.Tracks move Q m₀) :
    ∀ call ∈ l'.calls, p call.op → call.Tracks move Q m₀ := by
  intro other hother hp
  cases h with
  | began op =>
      rcases List.mem_append.mp hother with hold | hnew
      · exact hl other hold hp
      · obtain rfl := List.mem_singleton.mp hnew
        exact ⟨m₀, rfl, hprogram op hp⟩
  | idled => exact hl other hother hp
  | @answered i e call next hi hrest =>
      rcases mem_set hother with rfl | ⟨j, -, hj⟩
      · obtain ⟨m, hm, hnext⟩ := hl call (List.mem_of_getElem? hi) hp
        rw [hrest] at hnext
        exact ⟨m, hm, hnext e⟩
      · exact hl other (List.mem_of_getElem? hj) hp
  | @acted i e call k next hi hrest =>
      rcases mem_set hother with rfl | ⟨j, -, hj⟩
      · obtain ⟨m, hm, hnext⟩ := hl call (List.mem_of_getElem? hi) hp
        rw [hrest] at hnext
        obtain ⟨n, hn, htracks⟩ := hnext l.state
        refine ⟨n, ?_, htracks⟩
        simp [List.foldlM_append, hm, hn]
      · exact hl other (List.mem_of_getElem? hj) hp

theorem Step.only {I : σ → Prop} {E : ε → Prop} {P : κ → Prop} (h : Step program apply l c l')
    (hstart : ∀ op, c = .start op → (program op).Only I E P) (hI : ∀ s, I s) (hE : ∀ e, E e)
    (hl : ∀ call ∈ l.calls, call.rest.Only I E P) : ∀ call ∈ l'.calls, call.rest.Only I E P := by
  intro other hother
  cases h with
  | began op =>
      rcases List.mem_append.mp hother with hold | hnew
      · exact hl other hold
      · obtain rfl := List.mem_singleton.mp hnew
        exact hstart op rfl
  | idled => exact hl other hother
  | @answered i e call next hi hrest =>
      rcases mem_set hother with rfl | ⟨j, -, hj⟩
      · have hcall := hl call (List.mem_of_getElem? hi)
        rw [hrest] at hcall
        exact hcall e (hE e)
      · exact hl other (List.mem_of_getElem? hj)
  | @acted i e call k next hi hrest =>
      rcases mem_set hother with rfl | ⟨j, -, hj⟩
      · have hcall := hl call (List.mem_of_getElem? hi)
        rw [hrest] at hcall
        exact hcall.2 l.state (hI l.state)
      · exact hl other (List.mem_of_getElem? hj)

end

end Ledger

end ModelRouter.Base
