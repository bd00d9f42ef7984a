import ModelRouter.Base.Reading

namespace ModelRouter.Base.Parse

open Put (puts seq)

variable {ε δ α β : Type} {p : Parse ε α} {f : α → Parse ε β} {a : α} {b : β}
variable {P : α → Put → Prop} {Q : β → Put → Prop}

/-- Wherever `p` arrives at a value, its input begins with the bytes of a writer that `P` allows
for the value. -/
def Spells (p : Parse ε α) (P : α → Put → Prop) : Prop :=
  ∀ r a r', p.run r = (.ok a, r') → r'.fault = none →
    ∃ w bytes, P a w ∧ w = some bytes ∧ r.rest = bytes ++ r'.rest

theorem fault_of_run {r r' : Reader} {o : Except ε α} (h : p.run r = (o, r'))
    (hr' : r'.fault = none) : r.fault = none := by
  by_contra hr
  have hkeeps := p.keeps r hr
  rw [h] at hkeeps
  exact hr (by rw [← hkeeps, hr'])

theorem getByte_spelled {r r' : Reader} {byte : UInt8}
    (h : (getByte : Parse ε UInt8).run r = (.ok byte, r')) (hr' : r'.fault = none) :
    r.rest = byte :: r'.rest := by
  have hr := fault_of_run h hr'
  obtain ⟨rest, fault⟩ := r
  obtain rfl : fault = none := hr
  cases rest with
  | nil =>
      rw [← (Prod.mk.inj h).2] at hr'
      cases hr'
  | cons x rest =>
      obtain ⟨hbyte, rfl⟩ := Prod.mk.inj h
      rw [Except.ok.inj hbyte]

theorem getBytes_spelled {n : Nat} {r r' : Reader} {bytes : List UInt8}
    (h : (getBytes n : Parse ε _).run r = (.ok bytes, r')) (hr' : r'.fault = none) :
    r.rest = bytes ++ r'.rest ∧ bytes.length = n := by
  induction n generalizing r r' bytes with
  | zero =>
      obtain ⟨hbytes, rfl⟩ := Prod.mk.inj h
      rw [← Except.ok.inj hbytes]
      exact ⟨rfl, rfl⟩
  | succ n ih =>
      obtain ⟨byte, r₁, hbyte, h⟩ := run_bind_ok h
      obtain ⟨rest, r₂, hrest, h⟩ := run_bind_ok h
      obtain ⟨hbytes, rfl⟩ := Prod.mk.inj h
      obtain ⟨htail, hlen⟩ := ih hrest hr'
      have hhead := getByte_spelled hbyte (fault_of_run hrest hr')
      rw [← Except.ok.inj hbytes, hhead, htail, List.length_cons, hlen]
      exact ⟨rfl, rfl⟩

theorem word_read [Word α] {r r' : Reader} (h : (Parse.word : Parse ε α).run r = (.ok a, r'))
    (hr' : r'.fault = none) : ∃ bytes, bytes.length = Word.width α ∧
      fromLittleEndian bytes = Word.toNat a ∧ r.rest = bytes ++ r'.rest := by
  obtain ⟨bytes, r₁, hbytes, hrun⟩ := run_bind_ok h
  obtain ⟨ha, rfl⟩ := Prod.mk.inj hrun
  obtain ⟨hrest, hlen⟩ := getBytes_spelled hbytes hr'
  have hlt := fromLittleEndian_lt bytes
  rw [hlen] at hlt
  exact ⟨bytes, hlen, by rw [← Except.ok.inj ha, Word.toNat_ofNat _ hlt], hrest⟩

theorem block_read {limit size : Nat} {r r' : Reader} {value : List UInt8}
    (h : (block limit size : Parse ε _).run r = (.ok value, r')) (hr' : r'.fault = none) :
    size ≤ limit ∧ value.length = size ∧ r.rest = value ++ r'.rest := by
  have hr := fault_of_run h hr'
  obtain ⟨rest, fault⟩ := r
  obtain rfl : fault = none := hr
  by_cases hlimit : size > limit
  · simp only [block, hlimit, if_true, Prod.mk.injEq] at h
    rw [← h.2] at hr'
    cases hr'
  by_cases hshort : rest.length < size
  · simp only [block, hlimit, hshort, if_true, if_false, Prod.mk.injEq] at h
    rw [← h.2] at hr'
    cases hr'
  simp only [block, hlimit, hshort, if_false, Prod.mk.injEq, Except.ok.injEq] at h
  obtain ⟨rfl, rfl⟩ := h
  refine ⟨Nat.le_of_not_gt hlimit, ?_, (List.take_append_drop size rest).symm⟩
  rw [List.length_take]
  omega

theorem withError_ok {p : Parse δ α} {e : ε} {r r' : Reader}
    (h : (p.withError e).run r = (.ok a, r')) : p.run r = (.ok a, r') := by
  cases hp : p.run r with
  | mk o r₁ =>
      cases o with
      | ok a' =>
          rw [withError_run e hp] at h
          obtain ⟨ha, rfl⟩ := Prod.mk.inj h
          rw [Except.ok.inj ha]
      | error e' =>
          simp only [Parse.withError, hp] at h
          cases h

namespace Spells

theorem weaken {P' : α → Put → Prop} (h : Spells p P) (hP : ∀ a w, P a w → P' a w) :
    Spells p P' := by
  intro r a r' hrun hr'
  obtain ⟨w, bytes, hw, hbytes⟩ := h r a r' hrun hr'
  exact ⟨w, bytes, hP a w hw, hbytes⟩

theorem done (h : P a (puts [])) : Spells (pure a : Parse ε α) P := by
  intro r a' r' hrun _
  obtain ⟨ha, rfl⟩ := Prod.mk.inj hrun
  rw [← Except.ok.inj ha]
  exact ⟨puts [], [], h, rfl, rfl⟩

theorem bind (hp : Spells p P) (hf : ∀ a w, P a w → Spells (f a) fun b v => Q b (seq w v)) :
    Spells (p >>= f) Q := by
  intro r b r' hrun hr'
  obtain ⟨a, r₁, hhead, htail⟩ := run_bind_ok hrun
  obtain ⟨w, bs, hw, hbs, hrest⟩ := hp r a r₁ hhead (fault_of_run htail hr')
  obtain ⟨v, cs, hv, hcs, hrest'⟩ := hf a w hw r₁ b r' htail hr'
  refine ⟨seq w v, bs ++ cs, hv, Put.seq_eq_some.mpr ⟨bs, cs, hbs, hcs, rfl⟩, ?_⟩
  rw [hrest, hrest', List.append_assoc]

theorem ofWord [Word α] : Spells (Parse.word : Parse ε α) fun a w => w = Put.word a := by
  intro r a r' hrun hr'
  obtain ⟨bytes, hlen, hvalue, hrest⟩ := word_read hrun hr'
  refine ⟨_, bytes, rfl, ?_, hrest⟩
  rw [Put.word, ← hvalue, ← hlen, littleEndian_fromLittleEndian]

theorem word [Word α] (hf : ∀ a, Spells (f a) fun b v => Q b (seq (Put.word a) v)) :
    Spells (Parse.word >>= f) Q :=
  ofWord.bind fun a w hw => by rw [hw]; exact hf a

theorem ofString {limit : Nat} :
    Spells (Parse.string limit : Parse ε _) fun value w => w = Put.string limit value := by
  intro r value r' hrun hr'
  obtain ⟨size, r₁, hsize, hblock⟩ := run_bind_ok hrun
  obtain ⟨w, bytes, hw, hbytes, hrest⟩ := ofWord r size r₁ hsize (fault_of_run hblock hr')
  obtain ⟨hlimit, hlen, hvalue⟩ := block_read hblock hr'
  refine ⟨_, bytes ++ value, rfl, ?_, ?_⟩
  · rw [hw] at hbytes
    rw [Put.string, if_neg (by omega), Put.puts_cons, hlen, UInt32.ofNat_toNat, hbytes]
    simp [seq]
  · rw [hrest, hvalue, List.append_assoc]

theorem string {limit : Nat} {f : List UInt8 → Parse ε β}
    (hf : ∀ value, Spells (f value) fun b v => Q b (seq (Put.string limit value) v)) :
    Spells (Parse.string limit >>= f) Q :=
  ofString.bind fun value w hw => by rw [hw]; exact hf value

theorem step {C : α → Prop} (hp : ∀ r a r', p.run r = (.ok a, r') → r' = r ∧ C a)
    (hf : ∀ a, C a → Spells (f a) Q) : Spells (p >>= f) Q := by
  intro r b r' hrun hr'
  obtain ⟨a, r₁, hhead, htail⟩ := run_bind_ok hrun
  obtain ⟨rfl, hc⟩ := hp r a r₁ hhead
  exact hf a hc r₁ b r' htail hr'

theorem refuse {condition : Bool} {e : ε} {f : Unit → Parse ε β}
    (hf : condition = false → Spells (f ()) Q) : Spells (Parse.refuse condition e >>= f) Q := by
  refine step (C := fun _ => condition = false) ?_ fun _ => hf
  intro r a r' h
  cases condition with
  | false => exact ⟨(Prod.mk.inj h).2.symm, rfl⟩
  | true => cases (Prod.mk.inj h).1

theorem settle {e : ε} {f : Unit → Parse ε β} (hf : Spells (f ()) Q) :
    Spells (Parse.settle e >>= f) Q :=
  step (C := fun _ => True) (fun _ _ _ h => ⟨(Prod.mk.inj h).2.symm, trivial⟩) fun _ _ => hf

theorem declared [Enumerated α] {n : Nat} {e : ε}
    (hf : ∀ a, Enumerated.code a = n → Spells (f a) Q) :
    Spells (Parse.declared n e >>= f) Q := by
  refine step (C := fun a => Enumerated.code a = n) ?_ hf
  intro r a r' h
  obtain ⟨ha, hr⟩ := Prod.mk.inj h
  refine ⟨hr.symm, Enumerated.code_all n a ?_⟩
  cases hn : (Enumerated.all : List α)[n]? with
  | none =>
      rw [hn] at ha
      cases ha
  | some a' =>
      rw [hn] at ha
      rw [Except.ok.inj ha]

theorem withError {p : Parse δ α} {e : ε} (h : Spells p P) : Spells (p.withError e) P :=
  fun r a r' hrun hr' => h r a r' (withError_ok hrun) hr'

theorem ofMany {write : α → Put} (hp : Spells p fun a w => w = write a) (n : Nat) :
    Spells (many p n) fun xs w => xs.length = n ∧ w = puts (xs.map write) := by
  induction n with
  | zero => exact done ⟨rfl, rfl⟩
  | succ n ih =>
      refine hp.bind fun a w hw => ih.bind fun xs v hv => done ?_
      obtain ⟨hlen, rfl⟩ := hv
      rw [hw, List.length_cons, hlen, List.map_cons, Put.puts_nil, Put.seq_nil_right]
      exact ⟨rfl, rfl⟩

end Spells

/-- Every value `p` arrives at satisfies `C`. -/
def Returns (C : α → Prop) (p : Parse ε α) : Prop :=
  ∀ r a r', p.run r = (.ok a, r') → C a

namespace Returns

variable {C : α → Prop} {D : β → Prop}

theorem done (h : C a) : Returns C (pure a : Parse ε α) := by
  intro r a' r' hrun
  rw [← Except.ok.inj (Prod.mk.inj hrun).1]
  exact h

theorem bind (hp : Returns C p) (hf : ∀ a, C a → Returns D (f a)) : Returns D (p >>= f) := by
  intro r b r' hrun
  obtain ⟨a, r₁, hhead, htail⟩ := run_bind_ok hrun
  exact hf a (hp r a r₁ hhead) r₁ b r' htail

theorem next (hf : ∀ a, Returns D (f a)) : Returns D (p >>= f) :=
  bind (C := fun _ => True) (fun _ _ _ _ => trivial) fun a _ => hf a

theorem withError {p : Parse δ α} {e : ε} (h : Returns C p) : Returns C (p.withError e) :=
  fun r a r' hrun => h r a r' (withError_ok hrun)

end Returns

/-- `p` takes `n` bytes, whatever they are. -/
def Takes (n : Nat) (p : Parse ε α) : Prop :=
  ∀ rest, n ≤ rest.length → ∃ a, p.run ⟨rest, none⟩ = (.ok a, ⟨rest.drop n, none⟩)

theorem Takes.of_eq {m n : Nat} (h : Takes m p) (he : m = n) : Takes n p :=
  he ▸ h

theorem Takes.done : Takes 0 (pure a : Parse ε α) :=
  fun _ _ => ⟨a, rfl⟩

theorem Takes.word [Word α] {n : Nat} (hf : ∀ a, Takes n (f a)) :
    Takes (Word.width α + n) (Parse.word >>= f) := by
  intro rest hlen
  have hbytes := getBytes_run (ε := ε) (rest.take (Word.width α)) (rest.drop (Word.width α))
  rw [List.length_take, Nat.min_eq_left (by omega), List.take_append_drop] at hbytes
  have hword := run_bind (f := fun bytes => pure (Word.ofNat (α := α) (fromLittleEndian bytes)))
    hbytes
  obtain ⟨b, hb⟩ := hf _ (rest.drop (Word.width α)) (by rw [List.length_drop]; omega)
  refine ⟨b, ?_⟩
  rw [List.drop_drop] at hb
  exact (run_bind hword).trans hb

end ModelRouter.Base.Parse
