import Mathlib.Algebra.Order.Ring.Nat
import Mathlib.Tactic.Ring

namespace ModelRouter.Base

def littleEndian : Nat → Nat → List UInt8
  | 0, _ => []
  | width + 1, n => UInt8.ofNat n :: littleEndian width (n / 256)

def fromLittleEndian : List UInt8 → Nat
  | [] => 0
  | byte :: rest => byte.toNat + 256 * fromLittleEndian rest

@[simp] theorem length_littleEndian (width n : Nat) : (littleEndian width n).length = width := by
  induction width generalizing n with
  | zero => rfl
  | succ width ih => simp [littleEndian, ih]

theorem fromLittleEndian_lt (bytes : List UInt8) :
    fromLittleEndian bytes < 256 ^ bytes.length := by
  induction bytes with
  | nil => simp [fromLittleEndian]
  | cons byte rest ih =>
      have hbyte := byte.toNat_lt
      simp only [fromLittleEndian, List.length_cons, pow_succ]
      omega

theorem fromLittleEndian_littleEndian {width n : Nat} (h : n < 256 ^ width) :
    fromLittleEndian (littleEndian width n) = n := by
  induction width generalizing n with
  | zero =>
      have hn : n = 0 := by simpa using h
      simp [littleEndian, fromLittleEndian, hn]
  | succ width ih =>
      have hquot : n / 256 < 256 ^ width := by
        rw [pow_succ] at h
        omega
      rw [littleEndian, fromLittleEndian, ih hquot, UInt8.toNat_ofNat']
      omega

theorem littleEndian_fromLittleEndian (bytes : List UInt8) :
    littleEndian bytes.length (fromLittleEndian bytes) = bytes := by
  induction bytes with
  | nil => rfl
  | cons byte rest ih =>
      have hbyte := byte.toNat_lt
      have hdiv : (byte.toNat + 256 * fromLittleEndian rest) / 256 = fromLittleEndian rest := by
        omega
      have hhead : UInt8.ofNat (byte.toNat + 256 * fromLittleEndian rest) = byte := by
        rw [← UInt8.toNat_inj, UInt8.toNat_ofNat']
        omega
      simp only [List.length_cons, fromLittleEndian, littleEndian, hdiv, hhead, ih]

/-- A type whose values are the numbers below a power of 256. -/
class Word (α : Type) where
  width : Nat
  toNat : α → Nat
  ofNat : Nat → α
  toNat_lt : ∀ a, toNat a < 256 ^ width
  ofNat_toNat : ∀ a, ofNat (toNat a) = a
  toNat_ofNat : ∀ n, n < 256 ^ width → toNat (ofNat n) = n

instance : Word UInt8 where
  width := 1
  toNat := UInt8.toNat
  ofNat := UInt8.ofNat
  toNat_lt a := a.toNat_lt
  ofNat_toNat _ := UInt8.ofNat_toNat
  toNat_ofNat _ h := UInt8.toNat_ofNat_of_lt' h

instance : Word UInt16 where
  width := 2
  toNat := UInt16.toNat
  ofNat := UInt16.ofNat
  toNat_lt a := a.toNat_lt
  ofNat_toNat _ := UInt16.ofNat_toNat
  toNat_ofNat _ h := UInt16.toNat_ofNat_of_lt' h

instance : Word UInt32 where
  width := 4
  toNat := UInt32.toNat
  ofNat := UInt32.ofNat
  toNat_lt a := a.toNat_lt
  ofNat_toNat _ := UInt32.ofNat_toNat
  toNat_ofNat _ h := UInt32.toNat_ofNat_of_lt' h

instance : Word UInt64 where
  width := 8
  toNat := UInt64.toNat
  ofNat := UInt64.ofNat
  toNat_lt a := a.toNat_lt
  ofNat_toNat _ := UInt64.ofNat_toNat
  toNat_ofNat _ h := UInt64.toNat_ofNat_of_lt' h

@[reducible] def Word.ofEquiv {α β : Type} [Word β] (f : α → β) (g : β → α)
    (hgf : ∀ a, g (f a) = a) (hfg : ∀ b, f (g b) = b) : Word α where
  width := Word.width β
  toNat a := Word.toNat (f a)
  ofNat n := g (Word.ofNat n)
  toNat_lt a := Word.toNat_lt (f a)
  ofNat_toNat a := by rw [Word.ofNat_toNat, hgf]
  toNat_ofNat n h := by rw [hfg, Word.toNat_ofNat n h]

instance : Word Int64 :=
  .ofEquiv Int64.toUInt64 UInt64.toInt64 (fun _ => Int64.toInt64_toUInt64 _)
    (fun _ => UInt64.toUInt64_toInt64 _)

/-- An enumeration whose codes are the positions in the list of its enumerators. -/
class Enumerated (α : Type) where
  all : List α
  code : α → Nat
  all_code : ∀ a, all[code a]? = some a
  code_all : ∀ n a, all[n]? = some a → code a = n
  few : all.length ≤ 256

@[reducible] def Enumerated.ofCodes {α : Type} (all : List α) (code : α → Nat)
    (hall : ∀ a, a ∈ all) (hcodes : all.map code = List.range all.length)
    (few : all.length ≤ 256) : Enumerated α :=
  have hcode (n : Nat) (a : α) (h : all[n]? = some a) : code a = n := by
    have hmap : (all.map code)[n]? = some (code a) := by rw [List.getElem?_map, h, Option.map_some]
    rw [hcodes] at hmap
    obtain ⟨hn, hget⟩ := List.getElem?_eq_some_iff.mp hmap
    rw [← hget, List.getElem_range]
  { all := all
    code := code
    all_code := fun a => by
      obtain ⟨n, hn⟩ := List.getElem?_of_mem (hall a)
      rw [hcode n a hn, hn]
    code_all := hcode
    few := few }

namespace Enumerated

variable {α : Type} [Enumerated α]

theorem code_lt (a : α) : code a < 256 := by
  have hsome := all_code a
  have hlt := (List.getElem?_eq_some_iff.mp hsome).1
  have hfew := few (α := α)
  omega

def code8 (a : α) : UInt8 := UInt8.ofNat (code a)

def code16 (a : α) : UInt16 := UInt16.ofNat (code a)

@[simp] theorem toNat_code8 (a : α) : (code8 a).toNat = code a :=
  UInt8.toNat_ofNat_of_lt' (code_lt a)

@[simp] theorem toNat_code16 (a : α) : (code16 a).toNat = code a := by
  have hlt := code_lt a
  exact UInt16.toNat_ofNat_of_lt' (by change code a < 65536; omega)

end Enumerated

abbrev Put := Option (List UInt8)

namespace Put

def seq (w v : Put) : Put :=
  w.bind fun bytes => v.map (bytes ++ ·)

def puts : List Put → Put
  | [] => some []
  | w :: ws => seq w (puts ws)

variable {α : Type} [Word α]

def word (a : α) : Put :=
  some (littleEndian (Word.width α) (Word.toNat a))

def bool (b : Bool) : Put :=
  word (if b then 1 else 0 : UInt8)

def string (limit : Nat) (value : List UInt8) : Put :=
  if value.length > limit then none
  else puts [word (UInt32.ofNat value.length), some value]

end Put

/-- How a bounded reader comes to fail. -/
inductive Fault where
  | short | oversized
deriving DecidableEq, Repr

structure Reader where
  rest : List UInt8
  fault : Option Fault := none
deriving DecidableEq, Repr

/-- A reading that may also be given up with an `ε`. A reader that has failed stays failed. -/
structure Parse (ε α : Type) where
  run : Reader → Except ε α × Reader
  keeps : ∀ r, r.fault ≠ none → (run r).2.fault = r.fault

namespace Parse

variable {ε α β : Type}

protected def pure (a : α) : Parse ε α where
  run r := (.ok a, r)
  keeps _ _ := rfl

protected def bind (p : Parse ε α) (f : α → Parse ε β) : Parse ε β where
  run r :=
    match p.run r with
    | (.ok a, r') => (f a).run r'
    | (.error e, r') => (.error e, r')
  keeps r h := by
    have hp := p.keeps r h
    split <;> rename_i hrun <;> rw [hrun] at hp
    · rw [(f _).keeps _ (by rw [hp]; exact h), hp]
    · exact hp

instance : Monad (Parse ε) where
  pure := Parse.pure
  bind := Parse.bind

def getByte : Parse ε UInt8 where
  run r :=
    match r.fault, r.rest with
    | none, byte :: rest => (.ok byte, { r with rest := rest })
    | none, [] => (.ok 0, { r with fault := some .short })
    | some _, _ => (.ok 0, r)
  keeps r h := by
    cases hr : r.fault with
    | none => exact absurd hr h
    | some fault => simp [hr]

def getBytes : Nat → Parse ε (List UInt8)
  | 0 => pure []
  | n + 1 => do
    let byte ← getByte
    let rest ← getBytes n
    return byte :: rest

def word [Word α] : Parse ε α := do
  let bytes ← getBytes (Word.width α)
  return Word.ofNat (fromLittleEndian bytes)

def bool : Parse ε Bool := do
  let byte ← (word : Parse ε UInt8)
  return byte != 0

def block (limit size : Nat) : Parse ε (List UInt8) where
  run r :=
    match r.fault with
    | some _ => (.ok [], r)
    | none =>
      if size > limit then (.ok [], { r with fault := some .oversized })
      else if r.rest.length < size then (.ok [], { r with fault := some .short })
      else (.ok (r.rest.take size), { r with rest := r.rest.drop size })
  keeps r h := by
    cases hr : r.fault with
    | none => exact absurd hr h
    | some fault => simp [hr]

def string (limit : Nat) : Parse ε (List UInt8) := do
  let size ← (word : Parse ε UInt32)
  block limit size.toNat

def refuse (condition : Bool) (e : ε) : Parse ε Unit where
  run r := (if condition then .error e else .ok (), r)
  keeps _ _ := rfl

def settle (e : ε) : Parse ε Unit where
  run r := (if r.fault = none then .ok () else .error e, r)
  keeps _ _ := rfl

def exhaust (e : ε) : Parse ε Unit where
  run r := (if r.rest.isEmpty then .ok () else .error e, r)
  keeps _ _ := rfl

def ofOption (value : Option α) (e : ε) : Parse ε α where
  run r := (match value with | some a => .ok a | none => .error e, r)
  keeps _ _ := rfl

/-- The enumerator with a code; the reading is given up where there is none. -/
def declared [Enumerated α] (code : Nat) (e : ε) : Parse ε α :=
  ofOption (Enumerated.all : List α)[code]? e

def withError {δ : Type} (p : Parse δ α) (e : ε) : Parse ε α where
  run r :=
    match p.run r with
    | (.ok a, r') => (.ok a, r')
    | (.error _, r') => (.error e, r')
  keeps r h := by
    have hp := p.keeps r h
    split <;> rename_i hrun <;> rw [hrun] at hp <;> exact hp

def many (p : Parse ε α) : Nat → Parse ε (List α)
  | 0 => pure []
  | n + 1 => do
    let a ← p
    let rest ← many p n
    return a :: rest

end Parse

end ModelRouter.Base
