import ModelRouter.Base.Division
import ModelRouter.Corruption

namespace ModelRouter.Checksum

open Base Crc Division Corruption Polynomial

def kTable : List UInt32 :=
  (List.range 256).map fun index => ModelRouter.Crc32c.tableEntry index.toUInt32

/-- The checksum object between two updates. -/
structure Crc32c where
  state : UInt32 := 0xFFFFFFFF
deriving DecidableEq, Repr

namespace Crc32c

def step (state : UInt32) (byte : UInt8) : UInt32 :=
  kTable.getD ((state ^^^ byte.toUInt32) &&& 0xFF).toNat 0 ^^^ (state >>> 8)

def update (crc : Crc32c) (bytes : List UInt8) : Crc32c :=
  { state := bytes.foldl step crc.state }

def value (crc : Crc32c) : UInt32 :=
  crc.state ^^^ 0xFFFFFFFF

end Crc32c

/-- The checksum bit by bit: the reflected division over all bits of a message, the least
significant one of every byte first. -/
def bitwise (message : List UInt8) : BitVec 32 :=
  feed 0x82F63B78#32 0xFFFFFFFF#32 (bitsOf message) ^^^ 0xFFFFFFFF#32

/-- The polynomial of Castagnoli, `0x1EDC6F41` with its leading term. -/
noncomputable def castagnoli : (ZMod 2)[X] :=
  X ^ 32 + X ^ 28 + X ^ 27 + X ^ 26 + X ^ 25 + X ^ 23 + X ^ 22 + X ^ 20 + X ^ 19 + X ^ 18 + X ^ 14 +
    X ^ 13 + X ^ 11 + X ^ 10 + X ^ 9 + X ^ 8 + X ^ 6 + 1

theorem kTable_getD (index : UInt32) (h : index.toNat < 256) :
    kTable.getD index.toNat 0 = ModelRouter.Crc32c.tableEntry index := by
  rw [kTable, List.getD_eq_getElem?_getD, List.getElem?_map, List.getElem?_range h]
  simp

theorem step_eq (state : UInt32) (byte : UInt8) :
    Crc32c.step state byte = ModelRouter.Crc32c.update state byte := by
  have hindex : ((state ^^^ byte.toUInt32) &&& 0xFF).toNat < 256 := by
    rw [UInt32.toNat_and]
    exact Nat.lt_succ_of_le Nat.and_le_right
  rw [Crc32c.step, kTable_getD _ hindex, ModelRouter.Crc32c.update]

theorem divisor_eq : divisor (0x82F63B78#32) = castagnoli := by
  simp [divisor, ofWord, Finset.sum_range_succ, castagnoli]
  ring

theorem foldl_update (crc : Crc32c) (chunks : List (List UInt8)) :
    (chunks.foldl Crc32c.update crc).state =
      chunks.flatten.foldl ModelRouter.Crc32c.update crc.state := by
  induction chunks generalizing crc with
  | nil => rfl
  | cons chunk chunks ih =>
      have hstep : Crc32c.step = ModelRouter.Crc32c.update := by
        funext state byte
        exact step_eq state byte
      rw [List.foldl_cons, ih, List.flatten_cons, List.foldl_append, Crc32c.update, hstep]

/-- However a message is cut, the table-driven checksum is the bitwise one, and its register is the
remainder of the message, behind the initial register, modulo the polynomial of Castagnoli. -/
theorem value_bitwise (chunks : List (List UInt8)) :
    (chunks.foldl Crc32c.update {}).value.toBitVec = bitwise chunks.flatten ∧
      ofWord ((chunks.foldl Crc32c.update {}).value.toBitVec ^^^ 0xFFFFFFFF#32) =
        (ofWord (0xFFFFFFFF#32) * X ^ (8 * chunks.flatten.length) +
          ofMessage (bitsOf chunks.flatten) * X ^ 32) %ₘ castagnoli := by
  have hvalue : (chunks.foldl Crc32c.update {}).value =
      ModelRouter.Crc32c.crc32c chunks.flatten := by
    rw [Crc32c.value, foldl_update]
    rfl
  have hbitwise : (chunks.foldl Crc32c.update {}).value.toBitVec = bitwise chunks.flatten := by
    rw [hvalue, crc32c_feed]
    rfl
  refine ⟨hbitwise, ?_⟩
  rw [hbitwise, bitwise, BitVec.xor_assoc, BitVec.xor_self, BitVec.xor_zero,
    ofWord_feed (by decide), length_bitsOf, divisor_eq]

end ModelRouter.Checksum
