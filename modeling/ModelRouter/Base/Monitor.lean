import ModelRouter.Base.Program

namespace ModelRouter.Base.Program

variable {σ κ ε α β μ ν : Type}

/-- The state an automaton reaches that watches the sections and may refuse one. -/
def follow (step : μ → κ → Option μ) : μ → List κ → Option μ
  | m, [] => some m
  | m, k :: ks => (step m k).bind fun n => follow step n ks

/-- On every path of the program the automaton refuses nothing, and ends in a state that suits the
result. -/
def Follows (step : μ → κ → Option μ) (Q : μ → α → Prop) : μ → Program σ κ ε α → Prop
  | m, done a => Q m a
  | m, act k next => ∃ n, step m k = some n ∧ ∀ s, (next s).Follows step Q n
  | m, ask next => ∀ e, (next e).Follows step Q m

section

variable {step finer : μ → κ → Option μ} {Q : μ → α → Prop} {T : μ → β → Prop} {m n : μ}

theorem follow_append (ks js : List κ) :
    follow step m (ks ++ js) = (follow step m ks).bind fun n => follow step n js := by
  induction ks generalizing m with
  | nil => rfl
  | cons k ks ih =>
      rw [List.cons_append, follow, follow, Option.bind_assoc]
      congr
      funext n
      exact ih

theorem follow_coarser (h : ∀ m k n, finer m k = some n → step m k = some n) {ks : List κ}
    (hk : follow finer m ks = some n) : follow step m ks = some n := by
  induction ks generalizing m with
  | nil => exact hk
  | cons k ks ih =>
      obtain ⟨u, hu, hrest⟩ := Option.bind_eq_some_iff.mp hk
      rw [follow, h m k u hu]
      exact ih hrest

theorem Follows.bind {p : Program σ κ ε α} {f : α → Program σ κ ε β} (hp : p.Follows step Q m)
    (hf : ∀ n a, Q n a → (f a).Follows step T n) : (p.bind f).Follows step T m := by
  induction p generalizing m with
  | done a => exact hf m a hp
  | act k next ih =>
      obtain ⟨n, hn, hnext⟩ := hp
      exact ⟨n, hn, fun s => ih s (hnext s)⟩
  | ask next ih => exact fun e => ih e (hp e)

theorem Follows.exec {apply : κ → σ → σ} {E : ε → Prop} {R : σ → σ → Prop}
    {p : Program σ κ ε α} {s t : σ} {es : List (Event σ κ)} {a : α}
    (h : Exec apply E R p s es a t) (hp : p.Follows step Q m) :
    ∃ n, follow step m (es.map Event.act) = some n ∧ Q n a := by
  induction h generalizing m with
  | done a s => exact ⟨m, rfl, hp⟩
  | act hR h ih =>
      obtain ⟨u, hu, hnext⟩ := hp
      obtain ⟨n, hn, hq⟩ := ih (hnext _)
      refine ⟨n, ?_, hq⟩
      rw [List.map_cons, follow, hu]
      exact hn
  | ask he h ih => exact ih (hp _)

end

/-- The second program is the first one without the sections that `view` hides. -/
def Erases (view : κ → Option ν) : Program σ κ ε α → Program σ ν ε α → Prop
  | done a, q => q = done a
  | act k next, q =>
    match view k with
    | none => ∀ s, (next s).Erases view q
    | some j => ∃ rest, q = act j rest ∧ ∀ s, (next s).Erases view (rest s)
  | ask next, q => ∃ rest, q = ask rest ∧ ∀ e, (next e).Erases view (rest e)

section

variable {view : κ → Option ν}

theorem Erases.bind {p : Program σ κ ε α} {q : Program σ ν ε α} {f : α → Program σ κ ε β}
    {g : α → Program σ ν ε β} (hp : p.Erases view q) (hf : ∀ a, (f a).Erases view (g a)) :
    (p.bind f).Erases view (q.bind g) := by
  induction p generalizing q with
  | done a =>
      obtain rfl : q = done a := hp
      exact hf a
  | act k next ih =>
      rw [act_bind]
      cases hk : view k with
      | none =>
          simp only [Erases, hk] at hp ⊢
          exact fun s => ih s (hp s)
      | some j =>
          simp only [Erases, hk] at hp ⊢
          obtain ⟨rest, rfl, hrest⟩ := hp
          exact ⟨_, rfl, fun s => ih s (hrest s)⟩
  | ask next ih =>
      obtain ⟨rest, rfl, hrest⟩ := hp
      exact ⟨_, rfl, fun e => ih e (hrest e)⟩

theorem Exec.earlier {apply : κ → σ → σ} {E : ε → Prop} {R : σ → σ → Prop} [IsTrans σ R]
    [Std.Refl R] {p : Program σ κ ε α} {s u t : σ} {es : List (Event σ κ)} {a : α} (hR : R s u)
    (h : Exec apply E R p u es a t) : ∃ v, Exec apply E R p s es a v ∧ R v t := by
  induction h with
  | done a u => exact ⟨s, .done a s, hR⟩
  | act hmove h _ => exact ⟨_, .act (trans_of R hR hmove) h, refl_of R _⟩
  | ask he h ih =>
      obtain ⟨v, hexec, hv⟩ := ih hR
      exact ⟨v, .ask he hexec, hv⟩

theorem Erases.exec {apply : κ → σ → σ} {apply' : ν → σ → σ} {E : ε → Prop} {R : σ → σ → Prop}
    [IsTrans σ R] [Std.Refl R] (hhidden : ∀ k, view k = none → ∀ s, apply k s = s)
    (hshown : ∀ k j, view k = some j → ∀ s, apply k s = apply' j s) {p : Program σ κ ε α}
    {q : Program σ ν ε α} {s t : σ} {es : List (Event σ κ)} {a : α}
    (h : Exec apply E R p s es a t) (hp : p.Erases view q) :
    ∃ ds u, Exec apply' E R q s ds a u ∧ R u t ∧
      ds.map Event.act = es.filterMap fun e => view e.act := by
  induction h generalizing q with
  | done a s =>
      obtain rfl : q = done a := hp
      exact ⟨[], s, .done a s, refl_of R s, rfl⟩
  | @act k next s u t es a hR h ih =>
      cases hk : view k with
      | none =>
          simp only [Erases, hk] at hp
          obtain ⟨ds, v, hexec, hv, hacts⟩ := ih (hp _)
          rw [hhidden k hk] at hexec
          obtain ⟨x, hexec', hx⟩ := hexec.earlier hR
          exact ⟨ds, x, hexec', trans_of R hx hv, by simp [hk, hacts]⟩
      | some j =>
          simp only [Erases, hk] at hp
          obtain ⟨rest, rfl, hrest⟩ := hp
          obtain ⟨ds, v, hexec, hv, hacts⟩ := ih (hrest _)
          rw [hshown k j hk] at hexec
          exact ⟨_, v, .act hR hexec, hv, by simp [hk, hacts]⟩
  | ask he h ih =>
      obtain ⟨rest, rfl, hrest⟩ := hp
      obtain ⟨ds, v, hexec, hv, hacts⟩ := ih (hrest _)
      exact ⟨ds, v, .ask he hexec, hv, hacts⟩

end

end ModelRouter.Base.Program
