import Mathlib

namespace ModelRouter.Base.Fips180

/-! SHA-256 of the Secure Hash Standard, over messages of bits. -/

variable {w : Nat}

abbrev Word := BitVec 32

def ch (x y z : Word) : Word :=
  (x &&& y) ^^^ (~~~x &&& z)

def maj (x y z : Word) : Word :=
  (x &&& y) ^^^ (x &&& z) ^^^ (y &&& z)

def upperSigma0 (x : Word) : Word :=
  x.rotateRight 2 ^^^ x.rotateRight 13 ^^^ x.rotateRight 22

def upperSigma1 (x : Word) : Word :=
  x.rotateRight 6 ^^^ x.rotateRight 11 ^^^ x.rotateRight 25

def lowerSigma0 (x : Word) : Word :=
  x.rotateRight 7 ^^^ x.rotateRight 18 ^^^ x >>> 3

def lowerSigma1 (x : Word) : Word :=
  x.rotateRight 17 ^^^ x.rotateRight 19 ^^^ x >>> 10

def primes : List Nat :=
  (List.range 312).filter fun p => p.Prime

def rootFraction (n p : Nat) : Word :=
  BitVec.ofNat 32 (Nat.nthRoot n (p * 2 ^ (32 * n)))

def constants : List Word :=
  primes.map (rootFraction 3)

structure Hash where
  a : Word
  b : Word
  c : Word
  d : Word
  e : Word
  f : Word
  g : Word
  h : Word
deriving DecidableEq

def Hash.words (s : Hash) : List Word :=
  [s.a, s.b, s.c, s.d, s.e, s.f, s.g, s.h]

def Hash.add (s t : Hash) : Hash where
  a := s.a + t.a
  b := s.b + t.b
  c := s.c + t.c
  d := s.d + t.d
  e := s.e + t.e
  f := s.f + t.f
  g := s.g + t.g
  h := s.h + t.h

def initial : Hash where
  a := rootFraction 2 2
  b := rootFraction 2 3
  c := rootFraction 2 5
  d := rootFraction 2 7
  e := rootFraction 2 11
  f := rootFraction 2 13
  g := rootFraction 2 17
  h := rootFraction 2 19

def bits (x : BitVec w) : List Bool :=
  (List.range w).map x.getMsbD

/-- A message is shorter than `2 ^ 64` bits. -/
structure Message where
  bits : List Bool
  short : bits.length < 2 ^ 64

def zeros (length : Nat) : Nat :=
  (448 + 511 - length % 512) % 512

def pad (m : Message) : List Bool :=
  m.bits ++ true :: List.replicate (zeros m.bits.length) false ++
    bits (BitVec.ofNat 64 m.bits.length)

def blocks (padded : List Bool) : List (List Bool) :=
  (List.range (padded.length / 512)).map fun i => (padded.drop (512 * i)).take 512

def wordAt (block : List Bool) (j : Nat) : Word :=
  BitVec.ofFnBE fun i : Fin 32 => block.getD (32 * j + i) false

/-- The message schedule of a block. -/
def schedule (block : List Bool) (t : Nat) : Word :=
  if t < 16 then wordAt block t
  else
    lowerSigma1 (schedule block (t - 2)) + schedule block (t - 7) +
      lowerSigma0 (schedule block (t - 15)) + schedule block (t - 16)
termination_by t

def round (s : Hash) (constant word : Word) : Hash :=
  let t1 := s.h + upperSigma1 s.e + ch s.e s.f s.g + constant + word
  let t2 := upperSigma0 s.a + maj s.a s.b s.c
  { a := t1 + t2, b := s.a, c := s.b, d := s.c, e := s.d + t1, f := s.e, g := s.f, h := s.g }

def compress (s : Hash) (block : List Bool) : Hash :=
  s.add ((List.range 64).foldl (fun s t => round s (constants.getD t 0) (schedule block t)) s)

def sha256 (m : Message) : List Bool :=
  ((blocks (pad m)).foldl compress initial).words.flatMap bits

theorem length_bits (x : BitVec w) : (bits x).length = w := by
  rw [bits, List.length_map, List.length_range]

theorem zeros_spec (length : Nat) :
    (length + 1 + zeros length) % 512 = 448 ∧
      ∀ k, (length + 1 + k) % 512 = 448 → zeros length ≤ k := by
  rw [zeros]
  constructor
  · omega
  · intro k hk
    omega

theorem flatMap_range {α : Type} (f : Nat → α) (m n : Nat) :
    ((List.range n).flatMap fun k => (List.range m).map fun i => f (m * k + i)) =
      (List.range (m * n)).map f := by
  induction n with
  | zero => rfl
  | succ n ih =>
      rw [List.range_succ, List.flatMap_append, ih, List.flatMap_singleton, Nat.mul_succ,
        List.range_add, List.map_append, List.map_map]
      rfl

theorem getD_flatMap_bits (xs : List (BitVec w)) {j i : Nat} (hi : i < w) :
    (xs.flatMap bits).getD (w * j + i) false = (xs.getD j 0#w).getMsbD i := by
  induction xs generalizing j with
  | nil => simp
  | cons x xs ih =>
      rw [List.flatMap_cons]
      cases j with
      | zero =>
          rw [List.getD_append _ _ _ _ (by rw [length_bits]; omega)]
          simp [bits, hi]
      | succ j =>
          have hlen : (bits x).length ≤ w * (j + 1) + i := by
            rw [length_bits, Nat.mul_succ]
            omega
          have hindex : w * (j + 1) + i - (bits x).length = w * j + i := by
            rw [length_bits, Nat.mul_succ]
            omega
          rw [List.getD_append_right _ _ _ _ hlen, hindex, ih, List.getD_cons_succ]

theorem blocks_append {block rest : List Bool} (hblock : block.length = 512) :
    blocks (block ++ rest) = block :: blocks rest := by
  have hcount : (block ++ rest).length / 512 = rest.length / 512 + 1 := by
    rw [List.length_append, hblock]
    omega
  rw [blocks, hcount, List.range_succ_eq_map, List.map_cons, Nat.mul_zero, List.drop_zero,
    List.take_left' hblock, List.map_map, blocks]
  congr 1
  refine List.map_congr_left fun i _ => ?_
  rw [Function.comp_apply, Nat.mul_succ, Nat.add_comm, ← List.drop_drop, List.drop_left' hblock]

theorem schedule_of_ge (block : List Bool) {t : Nat} (ht : 16 ≤ t) :
    schedule block t =
      lowerSigma1 (schedule block (t - 2)) + schedule block (t - 7) +
        lowerSigma0 (schedule block (t - 15)) + schedule block (t - 16) := by
  rw [schedule, if_neg (Nat.not_lt.mpr ht)]

theorem schedule_of_lt (block : List Bool) {t : Nat} (ht : t < 16) :
    schedule block t = wordAt block t := by
  rw [schedule, if_pos ht]

end ModelRouter.Base.Fips180
