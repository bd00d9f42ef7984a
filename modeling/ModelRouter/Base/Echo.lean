import ModelRouter.Base.Spelling

namespace ModelRouter.Base.Parse

variable {ε α β γ δ : Type} {u : ε} {p : Parse ε α} {q : Parse ε γ} {h : α → γ}
variable {f : α → Parse ε β} {k : γ → Parse ε δ} {g : β → δ}

/-- Unless `p` is given up with `u`, `q` ends where `p` does, with the image of its value or with
the same error. -/
def Echoes (u : ε) (p : Parse ε α) (q : Parse ε γ) (g : α → γ) : Prop :=
  ∀ r, (p.run r).1 ≠ .error u → q.run r = ((p.run r).1.map g, (p.run r).2)

namespace Echoes

theorem done {b : β} {d : δ} (hd : g b = d) :
    Echoes u (pure b : Parse ε β) (pure d) g := by
  intro r _
  rw [← hd]
  rfl

theorem bind (hp : Echoes u p q h) (hf : ∀ a, Echoes u (f a) (k (h a)) g) :
    Echoes u (p >>= f) (q >>= k) g := by
  intro r hne
  cases hrun : p.run r with
  | mk o r₁ =>
      cases o with
      | ok a =>
          have hq := hp r (by rw [hrun]; rintro ⟨⟩)
          rw [hrun] at hq
          rw [run_bind hrun] at hne ⊢
          rw [run_bind hq]
          exact hf a r₁ hne
      | error e =>
          rw [run_bind_error hrun] at hne ⊢
          have hq := hp r (by rw [hrun]; rintro ⟨⟩; exact hne rfl)
          rw [hrun] at hq
          exact run_bind_error hq

theorem wrap {m : α → β} {g : β → γ} (hp : Echoes u p q h) (hm : ∀ a, g (m a) = h a) :
    Echoes u (p >>= fun a => pure (m a)) q g := by
  intro r hne
  cases hrun : p.run r with
  | mk o r₁ =>
      cases o with
      | ok a =>
          have hq := hp r (by rw [hrun]; rintro ⟨⟩)
          rw [hq, hrun, run_bind hrun]
          exact Prod.ext (congrArg Except.ok (hm a).symm) rfl
      | error e =>
          rw [run_bind_error hrun] at hne ⊢
          have hq := hp r (by rw [hrun]; rintro ⟨⟩; exact hne rfl)
          rw [hq, hrun]
          rfl

theorem same {k : α → Parse ε δ} (hf : ∀ a, Echoes u (f a) (k a) g) :
    Echoes u (p >>= f) (p >>= k) g := by
  refine bind (h := id) (fun r _ => ?_) hf
  cases hrun : p.run r with
  | mk o r₁ => cases o <;> rfl

theorem declared [Word α] [Enumerated γ] {value : α → Nat} {code : γ → α}
    (hcode : ∀ a c, Enumerated.code c = value a → code c = a) :
    Echoes u (Parse.word >>= fun a : α => Parse.declared (value a) u)
      Parse.word (code : γ → α) := by
  intro r hne
  cases hrun : (Parse.word : Parse ε α).run r with
  | mk o r₁ =>
      cases o with
      | ok a =>
          rw [run_bind hrun] at hne ⊢
          cases hvalue : (Enumerated.all : List γ)[value a]? with
          | none => exact absurd (by simp [Parse.declared, ofOption, hvalue]) hne
          | some c =>
              have hc := hcode a c (Enumerated.code_all _ c hvalue)
              simp [Parse.declared, ofOption, hvalue, hc, Except.map]
      | error e =>
          rw [run_bind_error hrun]
          rfl

theorem many (hp : Echoes u p q h) (n : Nat) :
    Echoes u (p.many n) (q.many n) (List.map h) := by
  induction n with
  | zero => exact done rfl
  | succ n ih => exact bind hp fun a => bind ih fun xs => done rfl

end Echoes

/-- `p` is not given up with `u`. -/
def Avoids (u : ε) (p : Parse ε α) : Prop :=
  ∀ r, (p.run r).1 ≠ .error u

namespace Avoids

theorem done {a : α} : Avoids u (pure a) := by
  rintro r ⟨⟩

theorem bind (hp : Avoids u p) (hf : ∀ a, Avoids u (f a)) : Avoids u (p >>= f) := by
  intro r
  cases hrun : p.run r with
  | mk o r₁ =>
      cases o with
      | ok a =>
          rw [run_bind hrun]
          exact hf a r₁
      | error e =>
          rw [run_bind_error hrun]
          rintro ⟨⟩
          exact hp r (by rw [hrun])

theorem getByte : Avoids u getByte := by
  rintro ⟨rest, fault⟩
  cases fault with
  | none => cases rest <;> rintro ⟨⟩
  | some fault => rintro ⟨⟩

theorem getBytes (n : Nat) : Avoids u (getBytes n) := by
  induction n with
  | zero => exact done
  | succ n ih => exact bind getByte fun _ => bind ih fun _ => done

theorem word [Word α] : Avoids u (Parse.word : Parse ε α) :=
  bind (getBytes _) fun _ => done

theorem string {limit : Nat} : Avoids u (Parse.string limit) := by
  refine bind word fun size => ?_
  rintro ⟨rest, fault⟩
  cases fault with
  | none =>
      dsimp only [block]
      split_ifs <;> rintro ⟨⟩
  | some fault => rintro ⟨⟩

variable {e : ε}

theorem settle (he : e ≠ u) : Avoids u (Parse.settle e) := by
  intro r
  dsimp only [Parse.settle]
  split
  · rintro ⟨⟩
  · rintro ⟨⟩
    exact he rfl

theorem refuse {condition : Bool} (he : e ≠ u) : Avoids u (Parse.refuse condition e) := by
  intro r
  dsimp only [Parse.refuse]
  split
  · rintro ⟨⟩
    exact he rfl
  · rintro ⟨⟩

theorem ofOption {value : Option α} (he : e ≠ u) : Avoids u (Parse.ofOption value e) := by
  intro r
  cases value with
  | some a => rintro ⟨⟩
  | none =>
      rintro ⟨⟩
      exact he rfl

theorem withError {p : Parse δ α} (he : e ≠ u) : Avoids u (p.withError e) := by
  intro r
  dsimp only [Parse.withError]
  split
  · rintro ⟨⟩
  · rintro ⟨⟩
    exact he rfl

theorem many (hp : Avoids u p) (n : Nat) : Avoids u (p.many n) := by
  induction n with
  | zero => exact done
  | succ n ih => exact bind hp fun _ => bind ih fun _ => done

end Avoids

end ModelRouter.Base.Parse
