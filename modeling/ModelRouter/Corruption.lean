import ModelRouter.Base.Bits
import ModelRouter.Base.Crc
import ModelRouter.Readmission

namespace ModelRouter.Corruption

open Base Base.Crc Bytes Limits Persistence Codec Stored RecordCodec StateStore
open Readback Sizes Canonical Images Readmission Crc32c Sha256
open RoundTrip

variable {limits limits' : ResourceLimits} {s : StoredState} {image : Image}
variable {bytes bytes' payload payload' digest digest' : List UInt8} {records records' : UInt32}

/-! The table of the checksum computes the same register as eight bits of the division. -/

abbrev polynomial : BitVec 32 :=
  kPolynomial.toBitVec

theorem polynomial_msb : polynomial.msb = true := by
  decide

theorem bitStep_shift (value : UInt32) : (bitStep value).toBitVec = shift polynomial value.toBitVec := by
  have hlow : (value &&& 1 ≠ 0) ↔ value.toBitVec.getLsbD 0 = true := by
    have hword : (value &&& 1 = 0) ↔ value.toBitVec &&& 1#32 = 0#32 := by
      rw [← UInt32.toBitVec_inj, UInt32.toBitVec_and]
      rfl
    rw [ne_eq, hword, BitVec.and_one_eq_setWidth_ofBool_getLsbD]
    cases value.toBitVec.getLsbD 0 <;> decide
  rw [bitStep, shift]
  by_cases h : value &&& 1 ≠ 0
  · rw [if_pos h, if_pos (hlow.mp h), UInt32.toBitVec_xor]
    rfl
  · rw [if_neg h, if_neg (hlow.not.mp h)]
    rfl

theorem tableEntry_shifts (index : UInt32) :
    (tableEntry index).toBitVec = shifts polynomial 8 index.toBitVec := by
  simp only [tableEntry, shifts, ← bitStep_shift]
  rfl

theorem ofBits_byteBits (byte : UInt8) : ofBits (byteBits byte) = byte.toUInt32.toBitVec := by
  apply BitVec.eq_of_getLsbD_eq
  intro i hi
  rw [getLsbD_ofBits _ hi, UInt8.toBitVec_toUInt32, BitVec.getLsbD_setWidth]
  by_cases hlow : i < 8
  · rw [byteBits_getElem? _ hlow, Option.getD_some, decide_eq_true hi, Bool.true_and]
  · rw [List.getElem?_eq_none (by rw [length_byteBits]; omega), Option.getD_none,
      BitVec.getLsbD_of_ge _ _ (by omega), Bool.and_false]

theorem split_low (x : BitVec 32) : x = (x &&& 0xFF#32) ^^^ ((x >>> 8) <<< 8) := by
  apply BitVec.eq_of_getLsbD_eq
  intro i hi
  have hmask : (0xFF#32).getLsbD i = decide (i < 8) := by
    change (2 ^ 8 - 1).testBit i = _
    rw [Nat.testBit_two_pow_sub_one]
  rw [BitVec.getLsbD_xor, BitVec.getLsbD_and, hmask, BitVec.getLsbD_shiftLeft,
    BitVec.getLsbD_ushiftRight]
  by_cases hlow : i < 8
  · simp [hlow]
  · simp [hlow, hi, Nat.add_sub_cancel' (Nat.le_of_not_lt hlow)]

theorem update_feed (state : UInt32) (byte : UInt8) :
    (update state byte).toBitVec = feed polynomial state.toBitVec (byteBits byte) := by
  let x := state.toBitVec ^^^ byte.toUInt32.toBitVec
  have hhigh : x >>> 8 = state.toBitVec >>> 8 := by
    have hbyte : byte.toUInt32.toBitVec >>> 8 = 0#32 := by
      apply BitVec.eq_of_getLsbD_eq
      intro i _
      rw [BitVec.getLsbD_ushiftRight, UInt8.toBitVec_toUInt32, BitVec.getLsbD_setWidth,
        BitVec.getLsbD_of_ge _ _ (by omega), Bool.and_false, BitVec.getLsbD_zero]
    rw [BitVec.ushiftRight_xor_distrib, hbyte, BitVec.xor_zero]
  have hrest : shifts polynomial 8 ((x >>> 8) <<< 8) = x >>> 8 := by
    apply shifts_shiftLeft
    intro i hi
    rw [BitVec.getLsbD_ushiftRight]
    exact BitVec.getLsbD_of_ge _ _ (by omega)
  rw [feed_word polynomial (by rw [length_byteBits]; omega), length_byteBits, ofBits_byteBits]
  change _ = shifts polynomial 8 x
  rw [split_low x, shifts_xor, hrest, hhigh, update, UInt32.toBitVec_xor, tableEntry_shifts]
  rfl

theorem foldl_update (bytes : List UInt8) (state : UInt32) :
    (bytes.foldl update state).toBitVec = feed polynomial state.toBitVec (bitsOf bytes) := by
  induction bytes generalizing state with
  | nil => rfl
  | cons byte bytes ih => rw [List.foldl_cons, ih, update_feed, bitsOf_cons, feed_append]

abbrev ones : BitVec 32 :=
  BitVec.allOnes 32

theorem crc32c_feed (bytes : List UInt8) :
    (crc32c bytes).toBitVec = feed polynomial ones (bitsOf bytes) ^^^ ones := by
  rw [crc32c, UInt32.toBitVec_xor, foldl_update]
  rfl

theorem ofBits_littleEndian (value : UInt32) :
    ofBits (bitsOf (littleEndian 4 value.toNat)) = value.toBitVec := by
  apply BitVec.eq_of_getLsbD_eq
  intro i hi
  rw [getLsbD_ofBits _ hi, littleEndian_bits (by omega), Option.getD_some]
  rfl

theorem feed_codeword (message : List UInt8) :
    feed polynomial ones (bitsOf (message ++ littleEndian 4 (crc32c message).toNat)) =
      shifts polynomial 32 ones := by
  have hlen : (bitsOf (littleEndian 4 (crc32c message).toNat)).length = 32 := by
    rw [length_bitsOf, length_littleEndian]
  rw [bitsOf_append, feed_append, feed_word polynomial hlen.le, hlen, ofBits_littleEndian,
    crc32c_feed, ← BitVec.xor_assoc, BitVec.xor_self, BitVec.zero_xor]

theorem crc32c_eq_iff :
    crc32c bytes' = crc32c bytes ↔
      feed polynomial ones (bitsOf bytes') = feed polynomial ones (bitsOf bytes) := by
  rw [← UInt32.toBitVec_inj, crc32c_feed, crc32c_feed]
  constructor
  · intro h
    have hmask := congrArg (· ^^^ ones) h
    simpa only [BitVec.xor_assoc, BitVec.xor_self, BitVec.xor_zero] using hmask
  · intro h
    rw [h]

theorem burst_none (hlen : bytes'.length = bytes.length)
    (houtside : SameOutside 32 (bitsOf bytes') (bitsOf bytes))
    (h : feed polynomial ones (bitsOf bytes') = feed polynomial ones (bitsOf bytes)) :
    bytes' = bytes := by
  obtain ⟨k, hk⟩ := houtside
  have hbits : (bitsOf bytes').length = (bitsOf bytes).length := by
    rw [length_bitsOf, length_bitsOf, hlen]
  exact bitsOf_injective (burst_detected polynomial polynomial_msb hbits hk h)

/-- Ways a byte string can differ from an image. -/
inductive Damaged (bytes : List UInt8) : List UInt8 → Prop
  | burst {bytes' : List UInt8} (hlen : bytes'.length = bytes.length) (hne : bytes' ≠ bytes)
      (houtside : SameOutside 32 (bitsOf bytes') (bitsOf bytes)) : Damaged bytes bytes'
  | truncated {bytes' : List UInt8} (h : bytes' <+: bytes) (hne : bytes' ≠ bytes) :
      Damaged bytes bytes'
  | extended {bytes' : List UInt8} (h : bytes <+: bytes') (hne : bytes' ≠ bytes) :
      Damaged bytes bytes'

theorem front_layout (h : Layout bytes records digest payload) :
    bytes.take 40 = bytes.take 36 ++ littleEndian 4 (crc32c (bytes.take 36)).toNat := by
  have hlen := h.length
  rw [persistenceHeaderBytes] at hlen
  have hsplit := congrArg (List.take 40) (List.take_append_drop 36 bytes).symm
  rw [drop_field (by omega) h.headerCrc, ← List.append_assoc] at hsplit
  rw [hsplit]
  apply List.take_left'
  rw [List.length_append, List.length_take, length_littleEndian]
  omega

theorem fields_layout (h : Layout bytes records digest payload)
    (h' : Layout bytes' records' digest' payload') (hfront : bytes'.take 40 = bytes.take 40) :
    records' = records ∧ payload'.length = payload.length ∧ crc32c payload' = crc32c payload := by
  have hfield {width position : Nat} (hle : position + width ≤ 40) :
      numberAt width position bytes' = numberAt width position bytes := by
    rw [← numberAt_take hle, hfront, numberAt_take hle]
  refine ⟨UInt32.toNat_inj.mp ?_, ?_, UInt32.toNat_inj.mp ?_⟩
  · rw [← h'.records, ← h.records, hfield (by omega)]
  · rw [← h'.payloadBytes, ← h.payloadBytes, hfield (by omega)]
  · rw [← h'.payloadCrc, ← h.payloadCrc, hfield (by omega)]

theorem length_layout (h : Layout bytes records digest payload)
    (h' : Layout bytes' records' digest' payload') (hfront : bytes'.take 40 = bytes.take 40) :
    bytes'.length = bytes.length := by
  rw [h'.length, h.length, (fields_layout h h' hfront).2.1]

theorem forty_le_layout (h : Layout bytes records digest payload) : 40 ≤ bytes.length := by
  rw [h.length, persistenceHeaderBytes]
  omega

theorem burst_layout (h : Layout bytes records digest payload)
    (h' : Layout bytes' records' digest' payload') (hlen : bytes'.length = bytes.length)
    (houtside : SameOutside 32 (bitsOf bytes') (bitsOf bytes)) :
    records' = records ∧ payload' = payload := by
  have hfront : bytes'.take 40 = bytes.take 40 := by
    apply burst_none (by rw [List.length_take, List.length_take, hlen])
    · rw [bitsOf_take, bitsOf_take]
      exact houtside.take _
    · rw [front_layout h, front_layout h', feed_codeword, feed_codeword]
  obtain ⟨hrecords, hpayloadLen, hcrc⟩ := fields_layout h h' hfront
  refine ⟨hrecords, burst_none hpayloadLen ?_ (crc32c_eq_iff.mp hcrc)⟩
  rw [← h.payload, ← h'.payload, bitsOf_drop, bitsOf_drop]
  exact houtside.drop _

theorem accepted_digest {progress : Progress} {loaded : Loaded} (hordered : StateOrdered s)
    (hpayload : encodePayload limits s.canonicalize = .ok payload)
    (h : Accepted bytes limits' loaded progress)
    (hsame : bytes.drop persistenceHeaderBytes = payload) :
    (bytes.drop 40).take 32 = sha256 (canonicalTextBytes s.canonicalize) := by
  have hsize := h.payloadSize
  rw [hsame] at hsize
  have hsmall : payload.length < 2 ^ 32 :=
    Nat.lt_of_le_of_lt hsize limits'.maxPayloadBytes.toNat_lt
  have hread := h.read
  rw [hsame] at hread
  obtain ⟨-, rfl⟩ :=
    (payload_yields limits' (ordered_canonicalize hordered) hpayload hsmall).ok_iff.mp hread
  have hstate := h.state
  rw [reloaded_canonicalize] at hstate
  rw [← h.digest, hstate]
  rfl

/-- Damage to an image is noticed, whatever the limits of the reader. -/
theorem decode_damaged (hordered : StateOrdered s) (h : encode s limits = .ok image)
    (hdamaged : Damaged image.bytes bytes) (limits' : ResourceLimits) :
    ∃ refused, decode bytes limits' = .error refused := by
  cases hdecode : decode bytes limits' with
  | error refused => exact ⟨refused, rfl⟩
  | ok loaded =>
      exfalso
      obtain ⟨payload, hpayload, hlayout⟩ := encode_layout h
      obtain ⟨progress, haccepted⟩ := decode_ok hdecode
      cases hdamaged with
      | burst hlen hne houtside =>
          obtain ⟨hrecords, hsame⟩ := burst_layout hlayout haccepted.layout hlen houtside
          have hdigest := accepted_digest hordered hpayload haccepted hsame
          apply hne
          rw [layout_image haccepted.layout, layout_image hlayout, hrecords, hsame, hdigest]
      | truncated hpre hne =>
          have hfront : bytes.take 40 = image.bytes.take 40 := by
            obtain ⟨rest, hrest⟩ := hpre
            rw [← hrest, List.take_append_of_le_length (forty_le_layout haccepted.layout)]
          exact hne (hpre.eq_of_length (length_layout hlayout haccepted.layout hfront))
      | extended hpre hne =>
          have hfront : bytes.take 40 = image.bytes.take 40 := by
            obtain ⟨rest, hrest⟩ := hpre
            rw [← hrest, List.take_append_of_le_length (forty_le_layout hlayout)]
          exact hne (hpre.eq_of_length (length_layout hlayout haccepted.layout hfront).symm).symm

theorem smallState_damaged :
    ∃ image rest, encode (store smallState) {} = .ok image ∧ image.bytes = 0x4D :: rest ∧
      ∃ refused, decode (0x4C :: rest) {} = .error refused := by
  obtain ⟨image, hencode⟩ := smallState_encodes
  obtain ⟨rest, hrest⟩ : ∃ rest, image.bytes = 0x4D :: rest := by
    obtain ⟨-, payload, -, -, -, rfl⟩ := encode_ok.mp hencode
    exact ⟨_, rfl⟩
  refine ⟨image, rest, hencode, hrest, decode_damaged smallState_ordered hencode (.burst ?_ ?_ ?_) {}⟩
  · rw [hrest, List.length_cons, List.length_cons]
  · intro h
    rw [hrest] at h
    cases h
  · refine ⟨0, fun i hi => ?_⟩
    rw [hrest, bitsOf_cons, bitsOf_cons,
      List.getElem?_append_right (by rw [length_byteBits]; omega),
      List.getElem?_append_right (by rw [length_byteBits]; omega), length_byteBits,
      length_byteBits]

end ModelRouter.Corruption
