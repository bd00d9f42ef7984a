import Mathlib.Data.BitVec
import Mathlib.Data.List.Basic

namespace ModelRouter.Base.Crc

/-! A reflected cyclic redundancy check of any width, bit by bit. -/

variable {w : Nat} (poly : BitVec w) {r s : BitVec w}

def shift (r : BitVec w) : BitVec w :=
  if r.getLsbD 0 then (r >>> 1) ^^^ poly else r >>> 1

def shifts : Nat → BitVec w → BitVec w
  | 0, r => r
  | n + 1, r => shifts n (shift poly r)

def lowBit (b : Bool) : BitVec w :=
  if b then 1#w else 0#w

def feed (r : BitVec w) (bits : List Bool) : BitVec w :=
  bits.foldl (fun r b => shift poly (r ^^^ lowBit b)) r

def ofBits : List Bool → BitVec w
  | [] => 0#w
  | b :: bits => lowBit b ^^^ (ofBits bits <<< 1)

theorem feed_append (r : BitVec w) (xs ys : List Bool) :
    feed poly r (xs ++ ys) = feed poly (feed poly r xs) ys :=
  List.foldl_append

theorem shift_xor (r s : BitVec w) : shift poly (r ^^^ s) = shift poly r ^^^ shift poly s := by
  have hcancel : (r >>> 1 ^^^ poly) ^^^ (s >>> 1 ^^^ poly) = r >>> 1 ^^^ s >>> 1 := by
    rw [BitVec.xor_assoc, BitVec.xor_comm (s >>> 1), ← BitVec.xor_assoc poly, BitVec.xor_self,
      BitVec.zero_xor]
  simp only [shift, BitVec.getLsbD_xor, BitVec.ushiftRight_xor_distrib]
  cases r.getLsbD 0 <;> cases s.getLsbD 0
  · rfl
  · exact BitVec.xor_assoc _ _ _
  · simp only [Bool.xor_false, if_true, Bool.false_eq_true, if_false]
    rw [BitVec.xor_assoc, BitVec.xor_comm (s >>> 1), ← BitVec.xor_assoc]
  · exact hcancel.symm

theorem shift_eq_zero (hpoly : poly.msb = true) (h : shift poly r = 0#w) : r = 0#w := by
  rw [shift] at h
  split at h
  · rename_i hlow
    have hpos : 0 < w := Nat.pos_of_ne_zero fun hw => by
      subst hw
      rw [BitVec.msb_eq_getLsbD_last, BitVec.getLsbD_of_ge _ _ (by omega)] at hpoly
      cases hpoly
    have htop := congrArg (fun x => x.getLsbD (w - 1)) h
    rw [BitVec.msb_eq_getLsbD_last] at hpoly
    simp only [BitVec.getLsbD_xor, BitVec.getLsbD_ushiftRight, BitVec.getLsbD_zero, hpoly] at htop
    rw [BitVec.getLsbD_of_ge r (1 + (w - 1)) (by omega)] at htop
    cases htop
  · rename_i hlow
    apply BitVec.eq_of_getLsbD_eq
    intro i _
    cases i with
    | zero => simpa using hlow
    | succ i =>
        have hbit := congrArg (fun x => x.getLsbD i) h
        simpa [Nat.add_comm] using hbit

theorem shift_injective (hpoly : poly.msb = true) (h : shift poly r = shift poly s) : r = s := by
  have hzero : r ^^^ s = 0#w := by
    apply shift_eq_zero poly hpoly
    rw [shift_xor, h, BitVec.xor_self]
  rw [← BitVec.xor_zero (x := r), ← BitVec.xor_self (x := s), ← BitVec.xor_assoc, hzero,
    BitVec.zero_xor]

theorem shifts_xor (n : Nat) (r s : BitVec w) :
    shifts poly n (r ^^^ s) = shifts poly n r ^^^ shifts poly n s := by
  induction n generalizing r s with
  | zero => rfl
  | succ n ih => rw [shifts, shifts, shifts, shift_xor, ih]

theorem shifts_injective (hpoly : poly.msb = true) {n : Nat}
    (h : shifts poly n r = shifts poly n s) : r = s := by
  induction n generalizing r s with
  | zero => exact h
  | succ n ih => exact shift_injective poly hpoly (ih h)

theorem feed_injective (hpoly : poly.msb = true) {bits : List Bool}
    (h : feed poly r bits = feed poly s bits) : r = s := by
  induction bits generalizing r s with
  | nil => exact h
  | cons b bits ih =>
      have hshift := shift_injective poly hpoly (ih h)
      have hback := congrArg (· ^^^ lowBit b) hshift
      simpa only [BitVec.xor_assoc, BitVec.xor_self, BitVec.xor_zero] using hback

theorem shift_shiftLeft (h : r.getLsbD (w - 1) = false) : shift poly (r <<< 1) = r := by
  have hlow : (r <<< 1).getLsbD 0 = false := by simp
  rw [shift, hlow, if_neg Bool.false_ne_true]
  apply BitVec.eq_of_getLsbD_eq
  intro i hi
  rw [BitVec.getLsbD_ushiftRight, BitVec.getLsbD_shiftLeft]
  by_cases hlast : i = w - 1
  · rw [hlast, h]
    have hout : ¬1 + (w - 1) < w := by omega
    simp [hout]
  · have hin : 1 + i < w := by omega
    simp [hin]

theorem shifts_shiftLeft {n : Nat} (h : ∀ i, w - n ≤ i → r.getLsbD i = false) :
    shifts poly n (r <<< n) = r := by
  induction n with
  | zero => simp [shifts]
  | succ n ih =>
      have htop : (r <<< n).getLsbD (w - 1) = false := by
        rw [BitVec.getLsbD_shiftLeft, h (w - 1 - n) (by omega), Bool.and_false]
      rw [shifts, BitVec.shiftLeft_add, shift_shiftLeft poly htop]
      exact ih fun i hi => h i (by omega)

theorem getLsbD_ofBits (bits : List Bool) {i : Nat} (hi : i < w) :
    (ofBits bits : BitVec w).getLsbD i = bits[i]?.getD false := by
  induction bits generalizing i with
  | nil => simp [ofBits]
  | cons b bits ih =>
      rw [ofBits, BitVec.getLsbD_xor, BitVec.getLsbD_shiftLeft]
      cases i with
      | zero => cases b <;> simp [lowBit, hi]
      | succ i =>
          have hlow : (lowBit b : BitVec w).getLsbD (i + 1) = false := by
            cases b <;> simp [lowBit]
          rw [hlow, Nat.add_sub_cancel, ih (by omega)]
          simp [hi]

theorem feed_word {bits : List Bool} (hlen : bits.length ≤ w) (r : BitVec w) :
    feed poly r bits = shifts poly bits.length (r ^^^ ofBits bits) := by
  induction bits generalizing r with
  | nil => simp [feed, shifts, ofBits]
  | cons b bits ih =>
      rw [List.length_cons] at hlen
      have htop : (ofBits bits : BitVec w).getLsbD (w - 1) = false := by
        rw [getLsbD_ofBits bits (by omega), List.getElem?_eq_none (by omega), Option.getD_none]
      change feed poly (shift poly (r ^^^ lowBit b)) bits = _
      rw [ih (by omega), List.length_cons, shifts, ofBits, ← BitVec.xor_assoc,
        shift_xor poly (r ^^^ lowBit b), shift_shiftLeft poly htop]

theorem ofBits_injective {xs ys : List Bool} (hlen : xs.length = ys.length) (hx : xs.length ≤ w)
    (h : (ofBits xs : BitVec w) = ofBits ys) : xs = ys := by
  apply List.ext_getElem hlen
  intro i hi hi'
  have hbit := congrArg (fun x => x.getLsbD i) h
  simp only [getLsbD_ofBits xs (Nat.lt_of_lt_of_le hi hx),
    getLsbD_ofBits ys (Nat.lt_of_lt_of_le hi hx)] at hbit
  rwa [List.getElem?_eq_getElem hi, List.getElem?_eq_getElem hi'] at hbit

theorem burst_detected (hpoly : poly.msb = true) {xs ys : List Bool} {k : Nat}
    (hlen : xs.length = ys.length) (houtside : ∀ i, i < k ∨ k + w ≤ i → xs[i]? = ys[i]?)
    (h : feed poly r xs = feed poly r ys) : xs = ys := by
  have hfront : xs.take k = ys.take k := by
    apply List.ext_getElem?
    intro i
    rw [List.getElem?_take, List.getElem?_take]
    split
    · rename_i hi
      exact houtside i (.inl hi)
    · rfl
  have hback : (xs.drop k).drop w = (ys.drop k).drop w := by
    apply List.ext_getElem?
    intro i
    simp only [List.getElem?_drop]
    exact houtside _ (.inr (by omega))
  have hsplit (zs : List Bool) : zs = zs.take k ++ ((zs.drop k).take w ++ (zs.drop k).drop w) := by
    rw [List.take_append_drop, List.take_append_drop]
  rw [hsplit xs, hsplit ys, feed_append, feed_append, feed_append, feed_append, hfront, hback] at h
  have hmiddle := feed_injective poly hpoly h
  have hmiddleLen : ((xs.drop k).take w).length = ((ys.drop k).take w).length := by
    simp [hlen]
  rw [feed_word poly (List.length_take_le _ _), feed_word poly (List.length_take_le _ _),
    hmiddleLen] at hmiddle
  have hwords := shifts_injective poly hpoly hmiddle
  have hbits : (ofBits ((xs.drop k).take w) : BitVec w) = ofBits ((ys.drop k).take w) := by
    have hxor := congrArg (fun x => feed poly r (ys.take k) ^^^ x) hwords
    simpa only [← BitVec.xor_assoc, BitVec.xor_self, BitVec.zero_xor] using hxor
  rw [hsplit xs, hsplit ys, hfront, hback,
    ofBits_injective hmiddleLen (List.length_take_le _ _) hbits]

end ModelRouter.Base.Crc
