import ModelRouter.Base.Wire

namespace ModelRouter.Base

variable {bytes bytes' : List UInt8}

/-! The bits of a message, the least significant one of each byte first. -/

def byteBits (byte : UInt8) : List Bool :=
  (List.range 8).map byte.toBitVec.getLsbD

def bitsOf (bytes : List UInt8) : List Bool :=
  bytes.flatMap byteBits

@[simp] theorem length_byteBits (byte : UInt8) : (byteBits byte).length = 8 := by
  simp [byteBits]

@[simp] theorem bitsOf_cons (byte : UInt8) (bytes : List UInt8) :
    bitsOf (byte :: bytes) = byteBits byte ++ bitsOf bytes := rfl

theorem bitsOf_append (xs ys : List UInt8) : bitsOf (xs ++ ys) = bitsOf xs ++ bitsOf ys :=
  List.flatMap_append

theorem length_bitsOf (bytes : List UInt8) : (bitsOf bytes).length = 8 * bytes.length := by
  induction bytes with
  | nil => rfl
  | cons byte bytes ih =>
      rw [bitsOf_cons, List.length_append, length_byteBits, ih, List.length_cons]
      omega

theorem byteBits_getElem? (byte : UInt8) {i : Nat} (hi : i < 8) :
    (byteBits byte)[i]? = some (byte.toBitVec.getLsbD i) := by
  simp [byteBits, hi]

theorem byteBits_injective {x y : UInt8} (h : byteBits x = byteBits y) : x = y := by
  apply UInt8.toBitVec_inj.mp
  apply BitVec.eq_of_getLsbD_eq
  intro i hi
  have hbit := congrArg (fun bits => bits[i]?) h
  simp only [byteBits_getElem? _ hi] at hbit
  exact Option.some.inj hbit

theorem bitsOf_injective (h : bitsOf bytes = bitsOf bytes') : bytes = bytes' := by
  induction bytes generalizing bytes' with
  | nil =>
      cases bytes' with
      | nil => rfl
      | cons y ys =>
          have hlen := congrArg List.length h
          rw [length_bitsOf, length_bitsOf] at hlen
          cases hlen
  | cons x xs ih =>
      cases bytes' with
      | nil =>
          have hlen := congrArg List.length h
          rw [length_bitsOf, length_bitsOf] at hlen
          cases hlen
      | cons y ys =>
          obtain ⟨hhead, htail⟩ := List.append_inj h (by simp)
          rw [byteBits_injective hhead, ih htail]

theorem bitsOf_take (bytes : List UInt8) (n : Nat) :
    bitsOf (bytes.take n) = (bitsOf bytes).take (8 * n) := by
  by_cases hn : n ≤ bytes.length
  · have hsplit : bitsOf bytes = bitsOf (bytes.take n) ++ bitsOf (bytes.drop n) := by
      rw [← bitsOf_append, List.take_append_drop]
    have hlen : (bitsOf (bytes.take n)).length = 8 * n := by
      rw [length_bitsOf, List.length_take, Nat.min_eq_left hn]
    rw [hsplit, List.take_left' hlen]
  · rw [List.take_of_length_le (by omega), List.take_of_length_le (by rw [length_bitsOf]; omega)]

theorem bitsOf_drop (bytes : List UInt8) (n : Nat) :
    bitsOf (bytes.drop n) = (bitsOf bytes).drop (8 * n) := by
  by_cases hn : n ≤ bytes.length
  · have hsplit : bitsOf bytes = bitsOf (bytes.take n) ++ bitsOf (bytes.drop n) := by
      rw [← bitsOf_append, List.take_append_drop]
    have hlen : (bitsOf (bytes.take n)).length = 8 * n := by
      rw [length_bitsOf, List.length_take, Nat.min_eq_left hn]
    conv_rhs => rw [hsplit, List.drop_left' hlen]
  · rw [List.drop_of_length_le (by omega), List.drop_of_length_le (by rw [length_bitsOf]; omega)]
    rfl

theorem littleEndian_bits {width n i : Nat} (hi : i < 8 * width) :
    (bitsOf (littleEndian width n))[i]? = some (n.testBit i) := by
  induction width generalizing n i with
  | zero => omega
  | succ width ih =>
      rw [littleEndian, bitsOf_cons]
      by_cases hlow : i < 8
      · have hbit : (UInt8.ofNat n).toBitVec.getLsbD i = n.testBit i := by
          change (n % 2 ^ 8).testBit i = n.testBit i
          rw [Nat.testBit_mod_two_pow, decide_eq_true hlow, Bool.true_and]
        rw [List.getElem?_append_left (by rw [length_byteBits]; exact hlow),
          byteBits_getElem? _ hlow, hbit]
      · have hbit : (n / 2 ^ 8).testBit (i - 8) = n.testBit i := by
          rw [Nat.testBit_div_two_pow, Nat.sub_add_cancel (by omega)]
        rw [List.getElem?_append_right (by rw [length_byteBits]; omega), length_byteBits,
          ih (by omega)]
        exact congrArg some hbit

/-- Equal outside of `w` consecutive bits. -/
def SameOutside (w : Nat) (xs ys : List Bool) : Prop :=
  ∃ k, ∀ i, i < k ∨ k + w ≤ i → xs[i]? = ys[i]?

theorem SameOutside.take {w : Nat} {xs ys : List Bool} (h : SameOutside w xs ys) (n : Nat) :
    SameOutside w (xs.take n) (ys.take n) := by
  obtain ⟨k, hk⟩ := h
  refine ⟨k, fun i hi => ?_⟩
  rw [List.getElem?_take, List.getElem?_take, hk i hi]

theorem SameOutside.drop {w : Nat} {xs ys : List Bool} (h : SameOutside w xs ys) (n : Nat) :
    SameOutside w (xs.drop n) (ys.drop n) := by
  obtain ⟨k, hk⟩ := h
  by_cases hn : n ≤ k
  · refine ⟨k - n, fun i hi => ?_⟩
    rw [List.getElem?_drop, List.getElem?_drop]
    exact hk _ (by omega)
  · refine ⟨0, fun i hi => ?_⟩
    rw [List.getElem?_drop, List.getElem?_drop]
    exact hk _ (by omega)

end ModelRouter.Base
