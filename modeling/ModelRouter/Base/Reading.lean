import ModelRouter.Base.Wire

namespace ModelRouter.Base

variable {ε δ α β γ : Type} {c d : Prop} {w v : Put} {ws : List Put} {p : Parse ε α} {a : α} {b : β}
variable {f : α → Parse ε β}

namespace Put

theorem seq_eq_some {bytes : List UInt8} :
    seq w v = some bytes ↔ ∃ bs cs, w = some bs ∧ v = some cs ∧ bs ++ cs = bytes := by
  simp [seq, Option.bind_eq_some_iff]

@[simp] theorem puts_nil : puts [] = some [] := rfl

@[simp] theorem puts_cons : puts (w :: ws) = seq w (puts ws) := rfl

theorem seq_nil_right : seq w (some []) = w := by
  cases w <;> simp [seq]

theorem puts_singleton : puts [w] = w :=
  seq_nil_right

theorem seq_nil_left : seq (some []) w = w := by
  cases w <;> simp [seq]

theorem seq_assoc {u : Put} : seq (seq w v) u = seq w (seq v u) := by
  cases w <;> cases v <;> cases u <;> simp [seq]

theorem seq_ne (hw : w ≠ some []) : seq w v ≠ some [] := by
  intro h
  obtain ⟨bs, cs, hbs, _, hnil⟩ := seq_eq_some.mp h
  exact hw (by rw [hbs, (List.append_eq_nil_iff.mp hnil).1])

theorem word_ne [Word α] (hwidth : Word.width α ≠ 0) : word a ≠ some [] := by
  intro h
  rw [word, Option.some.injEq] at h
  exact hwidth (by rw [← length_littleEndian (Word.width α) (Word.toNat a), h, List.length_nil])

theorem string_ne {limit : Nat} {value : List UInt8} : string limit value ≠ some [] := by
  rw [string]
  split_ifs
  · exact nofun
  · exact seq_ne (word_ne (by decide))

theorem length_le_of_puts {write : α → Put} {xs : List α} (hpos : ∀ x ∈ xs, write x ≠ some [])
    {bytes : List UInt8} (h : puts (xs.map write) = some bytes) : xs.length ≤ bytes.length := by
  induction xs generalizing bytes with
  | nil => simp
  | cons x xs ih =>
      obtain ⟨bs, cs, hbs, hcs, rfl⟩ := seq_eq_some.mp h
      have hhead : bs ≠ [] := fun he => hpos x List.mem_cons_self (he ▸ hbs)
      have htail := ih (fun y hy => hpos y (List.mem_cons_of_mem x hy)) hcs
      have hlen := List.length_pos_iff.mpr hhead
      rw [List.length_cons, List.length_append]
      omega

@[simp] theorem isSome_seq : (seq w v).isSome = (w.isSome && v.isSome) := by
  cases w <;> simp [seq]

theorem isSome_map {write : α → Put} {xs : List α} :
    (puts (xs.map write)).isSome ↔ ∀ x ∈ xs, (write x).isSome := by
  induction xs with
  | nil => simp
  | cons x xs ih => simp [ih]

@[simp] theorem isSome_word [Word α] : (word a).isSome = true := rfl

@[simp] theorem isSome_bool {x : Bool} : (bool x).isSome = true := rfl

theorem isSome_string {limit : Nat} {value : List UInt8} :
    (string limit value).isSome ↔ value.length ≤ limit := by
  by_cases h : value.length > limit
  · simp [string, h]
  · simp [string, h, seq, word, Nat.le_of_not_lt h]

/-- Everything a writer can append has this many bytes. -/
def Measures (w : Put) (n : Nat) : Prop :=
  ∀ bytes, w = some bytes → bytes.length = n

namespace Measures

variable {m n : Nat}

theorem nil : Measures (puts []) 0 := by
  intro bytes h
  rw [puts_nil, Option.some.injEq] at h
  rw [← h]
  rfl

theorem cons (hw : Measures w m) (hws : Measures (puts ws) n) :
    Measures (puts (w :: ws)) (m + n) := by
  intro bytes h
  obtain ⟨bs, cs, hbs, hcs, rfl⟩ := seq_eq_some.mp h
  rw [List.length_append, hw _ hbs, hws _ hcs]

theorem word [Word α] (a : α) : Measures (word a) (Word.width α) := by
  intro bytes h
  rw [Put.word, Option.some.injEq] at h
  rw [← h, length_littleEndian]

theorem bool (x : Bool) : Measures (bool x) 1 :=
  word _

theorem string (limit : Nat) (value : List UInt8) :
    Measures (string limit value) (4 + value.length) := by
  intro bytes h
  by_cases hlong : value.length > limit
  · simp [Put.string, hlong] at h
  · rw [Put.string, if_neg hlong] at h
    have hvalue : Measures (some value) value.length := fun bs hbs => by
      rw [Option.some.injEq] at hbs
      rw [hbs]
    exact cons (word _) (cons hvalue nil) _ h

theorem map {write : α → Put} {size : α → Nat} (h : ∀ a, Measures (write a) (size a))
    (xs : List α) : Measures (puts (xs.map write)) (xs.map size).sum := by
  induction xs with
  | nil => exact nil
  | cons x xs ih => exact cons (h x) ih

theorem mapConst {write : α → Put} (h : ∀ a, Measures (write a) n) (xs : List α) :
    Measures (puts (xs.map write)) (n * xs.length) := by
  induction xs with
  | nil => exact nil
  | cons x xs ih =>
      rw [List.length_cons, Nat.mul_succ, Nat.add_comm]
      exact cons (h x) ih

theorem of_eq (h : Measures w m) (he : m = n) : Measures w n :=
  he ▸ h

end Measures

end Put

namespace Parse

/-- A reading that does not arrive at a value of a reader in good order. -/
def Failed (o : Except ε α × Reader) : Prop :=
  (∃ e, o.1 = .error e) ∨ o.2.fault ≠ none

theorem run_bind {r r' : Reader} (h : p.run r = (.ok a, r')) :
    (p >>= f).run r = (f a).run r' := by
  change (Parse.bind p f).run r = _
  simp only [Parse.bind, h]

theorem run_bind_error {r r' : Reader} {e : ε} (h : p.run r = (.error e, r')) :
    (p >>= f).run r = (.error e, r') := by
  change (Parse.bind p f).run r = _
  simp only [Parse.bind, h]

theorem failed_bind {r : Reader} (h : Failed (p.run r)) : Failed ((p >>= f).run r) := by
  cases hrun : p.run r with
  | mk o r' =>
      rw [hrun] at h
      cases o with
      | error e => exact .inl ⟨e, by rw [run_bind_error hrun]⟩
      | ok a =>
          right
          obtain ⟨e, he⟩ | hfault := h
          · cases he
          · rwa [run_bind hrun, (f a).keeps r' hfault]

theorem failed_settle {r : Reader} {e : ε} {k : α → Unit → Parse ε β} (h : Failed (p.run r)) :
    ∃ e', ((p >>= fun a => settle e >>= k a).run r).1 = .error e' := by
  cases hrun : p.run r with
  | mk o r' =>
      rw [hrun] at h
      cases o with
      | error e' => exact ⟨e', by rw [run_bind_error hrun]⟩
      | ok a =>
          obtain ⟨e', he⟩ | hfault := h
          · cases he
          have hsettle : (settle e : Parse ε Unit).run r' = (.error e, r') := by
            simp [settle, hfault]
          exact ⟨e, by rw [run_bind hrun, run_bind_error hsettle]⟩

theorem run_bind_ok {r r'' : Reader} (h : (p >>= f).run r = (.ok b, r'')) :
    ∃ a r', p.run r = (.ok a, r') ∧ (f a).run r' = (.ok b, r'') := by
  cases hrun : p.run r with
  | mk o r' =>
      cases o with
      | ok a =>
          rw [run_bind hrun] at h
          exact ⟨a, r', rfl, h⟩
      | error e =>
          rw [run_bind_error hrun] at h
          cases h

theorem withError_run {p : Parse δ α} {r r' : Reader} (e : ε) (h : p.run r = (.ok a, r')) :
    (p.withError e).run r = (.ok a, r') := by
  simp only [withError, h]

theorem failed_withError {p : Parse δ α} {r : Reader} (e : ε) (h : Failed (p.run r)) :
    Failed ((p.withError e).run r) := by
  cases hrun : p.run r with
  | mk o r' =>
      rw [hrun] at h
      cases o with
      | ok a =>
          obtain ⟨e', he⟩ | hfault := h
          · cases he
          · right
            simpa only [withError, hrun] using hfault
      | error e' =>
          left
          exact ⟨e, by simp only [withError, hrun]⟩

theorem getBytes_run (bytes rest : List UInt8) :
    (getBytes bytes.length : Parse ε _).run ⟨bytes ++ rest, none⟩ = (.ok bytes, ⟨rest, none⟩) := by
  induction bytes with
  | nil => rfl
  | cons byte bytes ih =>
      change (getByte >>= fun x => getBytes bytes.length >>= fun xs => pure (x :: xs)).run _ = _
      have hbyte : (getByte : Parse ε _).run ⟨byte :: (bytes ++ rest), none⟩ =
          (.ok byte, ⟨bytes ++ rest, none⟩) := rfl
      rw [List.cons_append, run_bind hbyte, run_bind ih]
      rfl

theorem word_run [Word α] (a : α) (rest : List UInt8) :
    (word : Parse ε α).run ⟨littleEndian (Word.width α) (Word.toNat a) ++ rest, none⟩ =
      (.ok a, ⟨rest, none⟩) := by
  have hread := getBytes_run (ε := ε) (littleEndian (Word.width α) (Word.toNat a)) rest
  rw [length_littleEndian] at hread
  rw [word, run_bind hread, fromLittleEndian_littleEndian (Word.toNat_lt a), Word.ofNat_toNat]
  rfl

theorem block_run {limit : Nat} {value : List UInt8} (h : value.length ≤ limit)
    (rest : List UInt8) :
    (block limit value.length : Parse ε _).run ⟨value ++ rest, none⟩ =
      (.ok value, ⟨rest, none⟩) := by
  simp [block, Nat.not_lt.mpr h]

theorem block_failed {limit size : Nat} (h : ¬size ≤ limit) (rest : List UInt8) :
    Failed ((block limit size : Parse ε _).run ⟨rest, none⟩) := by
  right
  simp [block, Nat.lt_of_not_le h]

/-- A reading that arrives at a value only with a reader in good order. -/
def Settled (p : Parse ε α) : Prop :=
  ∀ r a r', p.run r = (.ok a, r') → r'.fault = none

namespace Settled

theorem bind (h : ∀ a, Settled (f a)) : Settled (p >>= f) := by
  intro r b r' hrun
  obtain ⟨a, u, -, hf⟩ := run_bind_ok hrun
  exact h a u b r' hf

theorem settle {e : ε} : Settled (Parse.settle e >>= fun _ => pure a) := by
  intro r b r' hrun
  obtain ⟨_, u, hsettle, hpure⟩ := run_bind_ok hrun
  obtain ⟨hok, rfl⟩ := Prod.mk.inj hsettle
  obtain ⟨-, rfl⟩ := Prod.mk.inj hpure
  by_cases hfault : r.fault = none
  · exact hfault
  · rw [if_neg hfault] at hok
    cases hok

theorem map (h : Settled p) (g : α → β) : Settled (p >>= fun a => pure (g a)) := by
  intro r b r' hrun
  obtain ⟨a, u, hp, hpure⟩ := run_bind_ok hrun
  obtain ⟨-, rfl⟩ := Prod.mk.inj hpure
  exact h r a u hp

theorem error (h : Settled p) {r : Reader} (hfailed : Failed (p.run r)) :
    ∃ e r', p.run r = (.error e, r') := by
  cases hrun : p.run r with
  | mk o r' =>
      rw [hrun] at hfailed
      cases o with
      | error e => exact ⟨e, r', rfl⟩
      | ok a =>
          obtain ⟨e, he⟩ | hfault := hfailed
          · cases he
          · exact absurd (h r a r' hrun) hfault

end Settled

/-- `p` reads what `w` writes as `a`, whatever comes after it, exactly when `c` holds. -/
def Reads (c : Prop) (w : Put) (p : Parse ε α) (a : α) : Prop :=
  ∀ bytes, w = some bytes → bytes.length < 2 ^ 32 → ∀ rest,
    (c → p.run ⟨bytes ++ rest, none⟩ = (.ok a, ⟨rest, none⟩)) ∧
      (¬c → Failed (p.run ⟨bytes ++ rest, none⟩))

namespace Reads

theorem done : Reads (ε := ε) True (Put.puts []) (pure a) a := by
  intro bytes h hlen rest
  rw [Put.puts_nil, Option.some.injEq] at h
  subst h
  exact ⟨fun _ => rfl, fun hc => absurd trivial hc⟩

theorem congr (h : Reads c w p a) (hcd : c ↔ d) : Reads d w p a := by
  rwa [← propext hcd]

theorem bind (hp : Reads c w p a) (hf : Reads d (Put.puts ws) (f a) b) :
    Reads (c ∧ d) (Put.puts (w :: ws)) (p >>= f) b := by
  intro bytes h hlen rest
  obtain ⟨bs, cs, hbs, hcs, rfl⟩ := Put.seq_eq_some.mp h
  rw [List.length_append] at hlen
  rw [List.append_assoc]
  have hhead := hp bs hbs (by omega) (cs ++ rest)
  have htail := hf cs hcs (by omega) rest
  constructor
  · rintro ⟨hc, hd⟩
    rw [run_bind (hhead.1 hc)]
    exact htail.1 hd
  · intro hcd
    by_cases hc : c
    · rw [run_bind (hhead.1 hc)]
      exact htail.2 fun hd => hcd ⟨hc, hd⟩
    · exact failed_bind (hhead.2 hc)

theorem pair {w v : Put} (hp : Reads c (Put.puts [w, v]) p a)
    (hf : Reads d (Put.puts ws) (f a) b) :
    Reads (c ∧ d) (Put.puts (w :: v :: ws)) (p >>= f) b := by
  have h := hp.bind hf
  simp only [Put.puts_cons, Put.puts_nil, Put.seq_assoc] at h ⊢
  rwa [Put.seq_nil_left] at h

theorem last (hp : Reads c w p a) : Reads c (Put.puts [w]) p a := by
  rwa [Put.puts_singleton]

theorem next (hp : Reads True w p a) (hf : Reads d (Put.puts ws) (f a) b) :
    Reads d (Put.puts (w :: ws)) (p >>= f) b :=
  (hp.bind hf).congr (by rw [true_and])

theorem guarded (hp : Reads c w p a) (hf : Reads True (Put.puts ws) (f a) b) :
    Reads c (Put.puts (w :: ws)) (p >>= f) b :=
  (hp.bind hf).congr (by rw [and_true])

theorem ofWord [Word α] (a : α) : Reads (ε := ε) True (Put.word a) word a := by
  intro bytes h hlen rest
  rw [Put.word, Option.some.injEq] at h
  subst h
  exact ⟨fun _ => word_run a rest, fun hc => absurd trivial hc⟩

theorem word [Word α] {a : α} (hf : Reads d (Put.puts ws) (f a) b) :
    Reads d (Put.puts (Put.word a :: ws)) (Parse.word >>= f) b :=
  (ofWord a).next hf

theorem ofBool (x : Bool) : Reads (ε := ε) True (Put.bool x) bool x := by
  have hpure : Reads (ε := ε) True (Put.puts [])
      (pure ((if x then 1 else 0 : UInt8) != 0)) x := by
    cases x <;> exact done
  have hread := (ofWord (ε := ε) (if x then 1 else 0 : UInt8)).next
    (f := fun byte => pure (byte != 0)) hpure
  intro bytes h hlen rest
  refine hread bytes ?_ hlen rest
  rw [Put.bool] at h
  simp [Put.seq, h]

theorem bool {x : Bool} {f : Bool → Parse ε β} (hf : Reads d (Put.puts ws) (f x) b) :
    Reads d (Put.puts (Put.bool x :: ws)) (Parse.bool >>= f) b :=
  (ofBool x).next hf

theorem ofString {limit limit' : Nat} (value : List UInt8) :
    Reads (ε := ε) (value.length ≤ limit') (Put.string limit value) (string limit') value := by
  intro bytes h hlen rest
  by_cases hlong : value.length > limit
  · simp [Put.string, hlong] at h
  rw [Put.string, if_neg hlong, Put.puts_cons, Put.puts_cons, Put.puts_nil] at h
  simp only [Put.word, Put.seq, Option.bind_some, Option.map_some, List.append_nil,
    Option.some.injEq] at h
  have hsize : (UInt32.ofNat value.length).toNat = value.length := by
    rw [← h, List.length_append] at hlen
    exact UInt32.toNat_ofNat_of_lt' (by change value.length < 2 ^ 32; omega)
  rw [← h, List.append_assoc, string, run_bind (word_run _ _), hsize]
  exact ⟨fun hc => block_run hc rest, fun hc => block_failed hc _⟩

theorem string {limit limit' : Nat} {value : List UInt8} {f : List UInt8 → Parse ε β}
    (hf : Reads d (Put.puts ws) (f value) b) :
    Reads (value.length ≤ limit' ∧ d) (Put.puts (Put.string limit value :: ws))
      (Parse.string limit' >>= f) b :=
  (ofString value).bind hf

theorem step (hok : c → ∀ rest, p.run ⟨rest, none⟩ = (.ok a, ⟨rest, none⟩))
    (hfail : ¬c → ∀ rest, Failed (p.run ⟨rest, none⟩)) (hf : c → Reads d w (f a) b) :
    Reads (c ∧ d) w (p >>= f) b := by
  intro bytes h hlen rest
  constructor
  · rintro ⟨hc, hd⟩
    rw [run_bind (hok hc _)]
    exact (hf hc bytes h hlen rest).1 hd
  · intro hcd
    by_cases hc : c
    · rw [run_bind (hok hc _)]
      exact (hf hc bytes h hlen rest).2 fun hd => hcd ⟨hc, hd⟩
    · exact failed_bind (hfail hc _)

theorem refuse {condition : Bool} {e : ε} {f : Unit → Parse ε β}
    (hf : condition = false → Reads d w (f ()) b) :
    Reads (condition = false ∧ d) w (Parse.refuse condition e >>= f) b := by
  refine step (a := ()) ?_ ?_ hf
  · intro hc rest
    simp [Parse.refuse, hc]
  · intro hc rest
    left
    exact ⟨e, by simp [Parse.refuse, hc]⟩

theorem settle {e : ε} {f : Unit → Parse ε β} (hf : Reads d w (f ()) b) :
    Reads d w (Parse.settle e >>= f) b := by
  refine (step (c := True) (a := ()) ?_ ?_ fun _ => hf).congr (by rw [true_and])
  · intro _ rest
    rfl
  · intro hc
    exact absurd trivial hc

theorem ofOption {e : ε} {value : Option α} (hvalue : value = some a)
    (hf : Reads d w (f a) b) : Reads d w (Parse.ofOption value e >>= f) b := by
  refine (step (c := True) (a := a) ?_ ?_ fun _ => hf).congr (by rw [true_and])
  · intro _ rest
    simp [Parse.ofOption, hvalue]
  · intro hc
    exact absurd trivial hc

theorem declared [Enumerated α] {e : ε} {a : α} {n : Nat} (hn : n = Enumerated.code a)
    (hf : Reads d w (f a) b) : Reads d w (Parse.declared n e >>= f) b :=
  ofOption (by rw [hn, Enumerated.all_code]) hf

theorem ofDeclared [Enumerated α] {e : ε} {a : α} {n : Nat} (hn : n = Enumerated.code a) :
    Reads True (Put.puts []) (Parse.declared n e) a := by
  intro bytes h hlen rest
  rw [Put.puts_nil, Option.some.injEq] at h
  refine ⟨fun _ => ?_, fun hc => absurd trivial hc⟩
  rw [← h, hn, Parse.declared, Enumerated.all_code]
  rfl

theorem withError {p : Parse δ α} {e : ε} (h : Reads c w p a) :
    Reads c w (p.withError e) a := by
  intro bytes hw hlen rest
  obtain ⟨hok, hfail⟩ := h bytes hw hlen rest
  exact ⟨fun hc => withError_run e (hok hc), fun hc => failed_withError e (hfail hc)⟩

theorem sure (h : Reads c w p a) (hc : w.isSome → c) : Reads True w p a := by
  intro bytes hw hlen rest
  have hok := (h bytes hw hlen rest).1 (hc (by rw [hw]; rfl))
  exact ⟨fun _ => hok, fun hfalse => absurd trivial hfalse⟩

theorem ofManyAs {write : γ → Put} {e : γ → Prop} {view : γ → α} {p : Parse ε α}
    (xs : List γ) (h : ∀ x ∈ xs, Reads (e x) (write x) p (view x)) :
    Reads (∀ x ∈ xs, e x) (Put.puts (xs.map write)) (many p xs.length) (xs.map view) := by
  induction xs with
  | nil => exact done.congr (by simp)
  | cons x xs ih =>
      have hrest := ih fun y hy => h y (List.mem_cons_of_mem x hy)
      have hpure : Reads (ε := ε) True (Put.puts []) (pure (view x :: xs.map view))
          ((x :: xs).map view) := done
      have htail := (hrest.bind (f := fun rest => pure (view x :: rest)) hpure).congr
        (by rw [and_true])
      rw [Put.puts_singleton] at htail
      exact ((h x List.mem_cons_self).bind
        (f := fun a => many p xs.length >>= fun rest => pure (a :: rest)) htail).congr
        List.forall_mem_cons.symm

theorem ofMany {write : α → Put} {e : α → Prop} {p : Parse ε α}
    (xs : List α) (h : ∀ x ∈ xs, Reads (e x) (write x) p x) :
    Reads (∀ x ∈ xs, e x) (Put.puts (xs.map write)) (many p xs.length) xs := by
  have hmap : Reads _ _ _ (xs.map id) := ofManyAs xs h
  rwa [List.map_id] at hmap

theorem count {xs : List α} {write : α → Put} {f : UInt32 → Parse ε β}
    (hpos : ∀ x ∈ xs, write x ≠ some [])
    (hf : xs.length < 2 ^ 32 → Reads d (Put.puts (Put.puts (xs.map write) :: ws))
      (f (UInt32.ofNat xs.length)) b) :
    Reads d (Put.puts (Put.word (UInt32.ofNat xs.length) :: Put.puts (xs.map write) :: ws))
      (Parse.word >>= f) b := by
  intro bytes h hlen rest
  have hsmall : xs.length < 2 ^ 32 := by
    obtain ⟨bs, cs, _, hcs, rfl⟩ := Put.seq_eq_some.mp h
    obtain ⟨es, gs, hes, _, rfl⟩ := Put.seq_eq_some.mp hcs
    have hle := Put.length_le_of_puts hpos hes
    simp only [List.length_append] at hlen
    omega
  exact word (hf hsmall) bytes h hlen rest

end Reads

end Parse

end ModelRouter.Base
