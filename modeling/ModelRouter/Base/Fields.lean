import ModelRouter.Base.Wire

namespace ModelRouter.Base

variable {bytes : List UInt8} {width position n : Nat}

def numberAt (width position : Nat) (bytes : List UInt8) : Nat :=
  fromLittleEndian ((bytes.drop position).take width)

theorem numberAt_lt (width position : Nat) (bytes : List UInt8) :
    numberAt width position bytes < 256 ^ width := by
  have hlt := fromLittleEndian_lt ((bytes.drop position).take width)
  exact Nat.lt_of_lt_of_le hlt (Nat.pow_le_pow_right (by omega) (List.length_take_le _ _))

theorem numberAt_field (pre : List UInt8) {post : List UInt8} (hpos : pre.length = position)
    (hn : n < 256 ^ width) :
    numberAt width position (pre ++ (littleEndian width n ++ post)) = n := by
  rw [numberAt, List.drop_left' hpos, List.take_left' (length_littleEndian width n),
    fromLittleEndian_littleEndian hn]

theorem numberAt_append {pre rest : List UInt8} (h : pre.length ≤ position) :
    numberAt width position (pre ++ rest) = numberAt width (position - pre.length) rest := by
  rw [numberAt, List.drop_append, List.drop_eq_nil_of_le h, List.nil_append, numberAt]

theorem numberAt_zero {rest : List UInt8} (hn : n < 256 ^ width) :
    numberAt width 0 (littleEndian width n ++ rest) = n :=
  numberAt_field [] rfl hn

theorem drop_field (hlen : position + width ≤ bytes.length) (h : numberAt width position bytes = n) :
    bytes.drop position = littleEndian width n ++ bytes.drop (position + width) := by
  have htake : ((bytes.drop position).take width).length = width := by
    rw [List.length_take, List.length_drop]
    omega
  have hfield := littleEndian_fromLittleEndian ((bytes.drop position).take width)
  rw [htake] at hfield
  rw [← h, numberAt, hfield, ← List.drop_drop, List.take_append_drop]

theorem numberAt_take (h : position + width ≤ n) :
    numberAt width position (bytes.take n) = numberAt width position bytes := by
  rw [numberAt, List.drop_take, List.take_take, Nat.min_eq_left (by omega), numberAt]

end ModelRouter.Base
