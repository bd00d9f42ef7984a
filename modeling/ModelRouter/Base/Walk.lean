import ModelRouter.Base.Spelling

namespace ModelRouter.Base

/-- The code of an enumerator as it stands in the bytes, and how many enumerators there are. -/
structure Code where
  value : Nat
  count : Nat
deriving DecidableEq, Repr

namespace Code

def of (α : Type) [Enumerated α] (value : Nat) : Code :=
  ⟨value, (Enumerated.all : List α).length⟩

def declared (c : Code) : Bool :=
  c.value < c.count

theorem declared_of_iff {α : Type} [Enumerated α] {n : Nat} :
    (of α n).declared = true ↔ ∃ a : α, Enumerated.code a = n := by
  rw [declared, of, decide_eq_true_iff]
  constructor
  · intro h
    exact ⟨_, Enumerated.code_all n _ (List.getElem?_eq_getElem h)⟩
  · rintro ⟨a, rfl⟩
    exact (List.getElem?_eq_some_iff.mp (Enumerated.all_code a)).1

@[simp] theorem declared_code {α : Type} [Enumerated α] (a : α) :
    (of α (Enumerated.code a)).declared = true :=
  declared_of_iff.mpr ⟨a, rfl⟩

end Code

abbrev Walk := List UInt8 → Option (List Code × List UInt8)

namespace Walk

def skip (n : Nat) : Walk := fun bytes =>
  if bytes.length < n then none else some ([], bytes.drop n)

def code (width : Nat) (α : Type) [Enumerated α] : Walk := fun bytes =>
  if bytes.length < width then none
  else some ([Code.of α (fromLittleEndian (bytes.take width))], bytes.drop width)

def counted (w : Nat → Walk) : Walk := fun bytes =>
  if bytes.length < 4 then none else w (fromLittleEndian (bytes.take 4)) (bytes.drop 4)

def text : Walk :=
  counted skip

def seq (v w : Walk) : Walk := fun bytes => do
  let (codes, rest) ← v bytes
  let (more, rest) ← w rest
  return (codes ++ more, rest)

def all : List Walk → Walk
  | [] => fun bytes => some ([], bytes)
  | w :: ws => seq w (all ws)

def list (w : Walk) : Walk :=
  counted fun n => all (List.replicate n w)

/-- Every code the walk passes stands for an enumerator. -/
def declares (w : Walk) (bytes : List UInt8) : Bool :=
  (w bytes).all fun (codes, _) => codes.all Code.declared

theorem seq_some {v w : Walk} {bytes rest rest' : List UInt8} {codes more : List Code}
    (hv : v bytes = some (codes, rest)) (hw : w rest = some (more, rest')) :
    seq v w bytes = some (codes ++ more, rest') := by
  simp [seq, hv, hw]

theorem skip_append (bytes rest : List UInt8) :
    skip bytes.length (bytes ++ rest) = some ([], rest) := by
  rw [skip, if_neg (by simp), List.drop_left]

theorem code_append {α : Type} [Enumerated α] (bytes rest : List UInt8) :
    code bytes.length α (bytes ++ rest) = some ([Code.of α (fromLittleEndian bytes)], rest) := by
  rw [code, if_neg (by simp), List.take_left, List.drop_left]

theorem counted_append {w : Nat → Walk} {bytes : List UInt8} (hlen : bytes.length = 4)
    (rest : List UInt8) : counted w (bytes ++ rest) = w (fromLittleEndian bytes) rest := by
  rw [counted, ← hlen, if_neg (by simp), List.take_left, List.drop_left]

theorem declares_of_some {w : Walk} {bytes rest : List UInt8} {codes : List Code}
    (h : w bytes = some (codes, rest)) : w.declares bytes = codes.all Code.declared := by
  rw [declares, h]
  rfl

end Walk

namespace Parse

open Walk (skip code counted text all list)

variable {ε δ α β : Type} {p : Parse ε α} {f : α → Parse ε β} {a : α} {b : β}
variable {w : Walk} {ws : List Walk} {P : α → List Code → Prop} {Q : β → List Code → Prop}

/-- Wherever `p` arrives at a value, the walk goes to the same place, past codes that `P` allows
for the value. -/
def Follows (p : Parse ε α) (w : Walk) (P : α → List Code → Prop) : Prop :=
  ∀ r a r', p.run r = (.ok a, r') → r'.fault = none →
    ∃ codes, P a codes ∧ w r.rest = some (codes, r'.rest)

/-- What has no code in it. -/
abbrev Plain (p : Parse ε α) (w : Walk) : Prop :=
  Follows p w fun _ codes => codes = []

namespace Follows

theorem weaken {P' : α → List Code → Prop} (h : Follows p w P)
    (hP : ∀ a codes, P a codes → P' a codes) : Follows p w P' := by
  intro r a r' hrun hr'
  obtain ⟨codes, hcodes, hw⟩ := h r a r' hrun hr'
  exact ⟨codes, hP a codes hcodes, hw⟩

theorem done (h : P a []) : Follows (pure a : Parse ε α) (all []) P := by
  intro r a' r' hrun _
  obtain ⟨ha, rfl⟩ := Prod.mk.inj hrun
  rw [← Except.ok.inj ha]
  exact ⟨[], h, rfl⟩

theorem bind (hp : Follows p w P)
    (hf : ∀ a codes, P a codes → Follows (f a) (all ws) fun b more => Q b (codes ++ more)) :
    Follows (p >>= f) (all (w :: ws)) Q := by
  intro r b r' hrun hr'
  obtain ⟨a, r₁, hhead, htail⟩ := run_bind_ok hrun
  obtain ⟨codes, hcodes, hw⟩ := hp r a r₁ hhead (fault_of_run htail hr')
  obtain ⟨more, hmore, hws⟩ := hf a codes hcodes r₁ b r' htail hr'
  exact ⟨codes ++ more, hmore, Walk.seq_some hw hws⟩

theorem past (hp : Plain p w) (hf : ∀ a, Follows (f a) (all ws) Q) :
    Follows (p >>= f) (all (w :: ws)) Q :=
  hp.bind fun a codes hcodes => by
    rw [hcodes]
    exact hf a

theorem last (hp : Follows p w P) : Follows p (all [w]) P := by
  intro r a r' hrun hr'
  obtain ⟨codes, hcodes, hw⟩ := hp r a r' hrun hr'
  refine ⟨codes, hcodes, ?_⟩
  have hall := Walk.seq_some hw (show all [] r'.rest = some ([], r'.rest) from rfl)
  rwa [List.append_nil] at hall

theorem ofWord [Word α] : Plain (Parse.word : Parse ε α) (skip (Word.width α)) := by
  intro r a r' hrun hr'
  obtain ⟨bytes, hlen, -, hrest⟩ := word_read hrun hr'
  exact ⟨[], rfl, by rw [hrest, ← hlen, Walk.skip_append]⟩

theorem word [Word α] (hf : ∀ a, Follows (f a) (all ws) Q) :
    Follows (Parse.word >>= f) (all (skip (Word.width α) :: ws)) Q :=
  ofWord.past hf

theorem ofCode [Word α] {γ : Type} [Enumerated γ] :
    Follows (Parse.word : Parse ε α) (code (Word.width α) γ)
      fun a codes => codes = [Code.of γ (Word.toNat a)] := by
  intro r a r' hrun hr'
  obtain ⟨bytes, hlen, hvalue, hrest⟩ := word_read hrun hr'
  exact ⟨_, rfl, by rw [hrest, ← hlen, Walk.code_append, hvalue]⟩

theorem code [Word α] {γ : Type} [Enumerated γ] (hf : ∀ a, Follows (f a) (all ws)
      fun b codes => Q b (Code.of γ (Word.toNat a) :: codes)) :
    Follows (Parse.word >>= f) (all (Walk.code (Word.width α) γ :: ws)) Q :=
  ofCode.bind fun a codes hcodes => by
    rw [hcodes]
    exact hf a

theorem map (hp : Plain p w) (g : α → β) : Plain (p >>= fun a => pure (g a)) w := by
  intro r b r' hrun hr'
  obtain ⟨a, r₁, ha, hrun⟩ := run_bind_ok hrun
  obtain ⟨-, rfl⟩ := Prod.mk.inj hrun
  exact hp r a r₁ ha hr'

theorem bool {f : Bool → Parse ε β} (hf : ∀ x, Follows (f x) (all ws) Q) :
    Follows (Parse.bool >>= f) (all (skip 1 :: ws)) Q :=
  past (ofWord.map fun byte : UInt8 => byte != 0) hf

theorem ofCounted {f : UInt32 → Parse ε β} {v : Nat → Walk}
    (hf : ∀ n, Follows (f n) (v n.toNat) Q) : Follows (Parse.word >>= f) (counted v) Q := by
  intro r b r' hrun hr'
  obtain ⟨n, r₁, hn, htail⟩ := run_bind_ok hrun
  obtain ⟨bytes, hlen, hvalue, hrest⟩ := word_read hn (fault_of_run htail hr')
  obtain ⟨codes, hcodes, hv⟩ := hf n r₁ b r' htail hr'
  refine ⟨codes, hcodes, ?_⟩
  rw [hrest, Walk.counted_append hlen, hvalue]
  exact hv

theorem ofBlock {limit size : Nat} : Plain (block limit size : Parse ε _) (skip size) := by
  intro r value r' hrun hr'
  obtain ⟨-, hlen, hrest⟩ := block_read hrun hr'
  exact ⟨[], rfl, by rw [hrest, ← hlen, Walk.skip_append]⟩

theorem ofString {limit : Nat} : Plain (Parse.string limit : Parse ε _) text :=
  ofCounted fun _ => ofBlock

theorem string {limit : Nat} {f : List UInt8 → Parse ε β}
    (hf : ∀ value, Follows (f value) (all ws) Q) :
    Follows (Parse.string limit >>= f) (all (text :: ws)) Q :=
  ofString.past hf

theorem step (hp : ∀ r a r', p.run r = (.ok a, r') → r' = r)
    (hf : ∀ a, Follows (f a) w Q) : Follows (p >>= f) w Q := by
  intro r b r' hrun hr'
  obtain ⟨a, r₁, hhead, htail⟩ := run_bind_ok hrun
  obtain rfl := hp r a r₁ hhead
  exact hf a r₁ b r' htail hr'

theorem refuse {condition : Bool} {e : ε} {f : Unit → Parse ε β} (hf : Follows (f ()) w Q) :
    Follows (Parse.refuse condition e >>= f) w Q :=
  step (fun _ _ _ h => (Prod.mk.inj h).2.symm) fun _ => hf

theorem settle {e : ε} {f : Unit → Parse ε β} (hf : Follows (f ()) w Q) :
    Follows (Parse.settle e >>= f) w Q :=
  step (fun _ _ _ h => (Prod.mk.inj h).2.symm) fun _ => hf

theorem ofOption {value : Option α} {e : ε} (hf : ∀ a, Follows (f a) w Q) :
    Follows (Parse.ofOption value e >>= f) w Q :=
  step (fun _ _ _ h => (Prod.mk.inj h).2.symm) hf

theorem withError {p : Parse δ α} {e : ε} (h : Follows p w P) : Follows (p.withError e) w P :=
  fun r a r' hrun hr' => h r a r' (withError_ok hrun) hr'

theorem ofMany {codes : α → List Code} (hp : Follows p w fun a cs => cs = codes a) (n : Nat) :
    Follows (many p n) (all (List.replicate n w)) fun xs cs => cs = xs.flatMap codes := by
  induction n with
  | zero => exact done rfl
  | succ n ih =>
      refine hp.bind fun a cs hcs r xs r' hrun hr' => ?_
      obtain ⟨tail, r₁, htail, hrun⟩ := run_bind_ok hrun
      obtain ⟨hxs, rfl⟩ := Prod.mk.inj hrun
      obtain rfl := Except.ok.inj hxs
      obtain ⟨ds, hds, hw⟩ := ih r tail r₁ htail hr'
      refine ⟨ds, ?_, hw⟩
      rw [hcs, hds]
      exact List.flatMap_cons.symm

theorem manyPlain (hp : Plain p w) (n : Nat) : Plain (many p n) (all (List.replicate n w)) :=
  (@ofMany _ _ _ _ (fun _ => []) hp n).weaken fun xs cs hcs => by
    rw [hcs, List.flatMap_eq_nil_iff]
    exact fun _ _ => rfl

end Follows

theorem Settled.settleOption {value : Option α} {e e' : ε} {g : α → β} :
    Settled (Parse.settle e >>= fun _ => ofOption value e' >>= fun a => pure (g a)) := by
  intro r b r' hrun
  obtain ⟨_, r₁, hsettle, hrun⟩ := run_bind_ok hrun
  obtain ⟨a, r₂, hoption, hrun⟩ := run_bind_ok hrun
  obtain ⟨hok, rfl⟩ := Prod.mk.inj hsettle
  obtain ⟨-, rfl⟩ := Prod.mk.inj hoption
  obtain ⟨-, rfl⟩ := Prod.mk.inj hrun
  by_contra hfault
  rw [if_neg hfault] at hok
  cases hok

end Parse

end ModelRouter.Base
