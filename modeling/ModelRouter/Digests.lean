import ModelRouter.Base.Fips180
import ModelRouter.Sha256

namespace ModelRouter.Digests

open Base Base.Fips180 Sha256

variable {block rest bytes : List UInt8} {state : Words}

/-- The bits of a byte string, the most significant one of every byte first. -/
def octets (bytes : List UInt8) : List Bool :=
  (bytes.map UInt8.toBitVec).flatMap bits

def hashOf (s : Words) : Hash where
  a := s.a.toBitVec
  b := s.b.toBitVec
  c := s.c.toBitVec
  d := s.d.toBitVec
  e := s.e.toBitVec
  f := s.f.toBitVec
  g := s.g.toBitVec
  h := s.h.toBitVec

section

theorem octets_append (xs ys : List UInt8) : octets (xs ++ ys) = octets xs ++ octets ys := by
  rw [octets, List.map_append, List.flatMap_append]
  rfl

theorem length_octets (bytes : List UInt8) : (octets bytes).length = 8 * bytes.length := by
  induction bytes with
  | nil => rfl
  | cons byte bytes ih =>
      have hcons : octets (byte :: bytes) = bits byte.toBitVec ++ octets bytes := rfl
      rw [hcons, List.length_append, length_bits, ih, List.length_cons]
      omega

theorem getD_octets (bytes : List UInt8) {j i : Nat} (hi : i < 8) :
    (octets bytes).getD (8 * j + i) false = (bytes.getD j 0).toBitVec.getMsbD i := by
  rw [octets, getD_flatMap_bits _ hi]
  have hbyte : (bytes.map UInt8.toBitVec).getD j 0#8 = (bytes.getD j 0).toBitVec :=
    List.getD_map bytes 0 UInt8.toBitVec
  rw [hbyte]

end

section

theorem toNat_literal {n : Nat} (hn : n < 32) : (OfNat.ofNat n : UInt32).toNat = n := by
  change n % 2 ^ 32 = n
  omega

theorem rotr_toBitVec (value : UInt32) {n : Nat} (hpos : 0 < n) (hn : n < 32) :
    (rotr value (OfNat.ofNat n)).toBitVec = value.toBitVec.rotateRight n := by
  have hn' := toNat_literal hn
  have hback : ((32 : UInt32) - OfNat.ofNat n).toNat = 32 - n := by
    rw [UInt32.toNat_sub_of_le _ _ (by rw [UInt32.le_iff_toNat_le, hn']; exact hn.le), hn']
    rfl
  rw [rotr, BitVec.rotateRight_def, UInt32.toBitVec_or, UInt32.toBitVec_shiftRight,
    UInt32.toBitVec_shiftLeft, BitVec.ushiftRight_eq', BitVec.shiftLeft_eq']
  simp only [BitVec.toNat_umod, UInt32.toNat_toBitVec, hn', hback]
  have hleft : (32 - n) % (32 : BitVec 32).toNat = 32 - n % 32 := by
    change (32 - n) % 32 = _
    omega
  rw [hleft]
  rfl

theorem shiftRight_toBitVec (value : UInt32) {n : Nat} (hn : n < 32) :
    (value >>> (OfNat.ofNat n : UInt32)).toBitVec = value.toBitVec >>> n := by
  have hn' := toNat_literal hn
  rw [UInt32.toBitVec_shiftRight, BitVec.ushiftRight_eq', BitVec.toNat_umod, UInt32.toNat_toBitVec,
    hn']
  change value.toBitVec >>> (n % 32) = _
  rw [Nat.mod_eq_of_lt hn]

theorem hashOf_round (s : Words) (constant word : UInt32) :
    hashOf (Sha256.round s (constant, word)) =
      Fips180.round (hashOf s) constant.toBitVec word.toBitVec := by
  have hs0 : (rotr s.a 2 ^^^ rotr s.a 13 ^^^ rotr s.a 22).toBitVec = upperSigma0 s.a.toBitVec := by
    rw [UInt32.toBitVec_xor, UInt32.toBitVec_xor, rotr_toBitVec s.a (by decide) (by decide),
      rotr_toBitVec s.a (by decide) (by decide), rotr_toBitVec s.a (by decide) (by decide)]
    rfl
  have hs1 : (rotr s.e 6 ^^^ rotr s.e 11 ^^^ rotr s.e 25).toBitVec = upperSigma1 s.e.toBitVec := by
    rw [UInt32.toBitVec_xor, UInt32.toBitVec_xor, rotr_toBitVec s.e (by decide) (by decide),
      rotr_toBitVec s.e (by decide) (by decide), rotr_toBitVec s.e (by decide) (by decide)]
    rfl
  simp only [hashOf, Sha256.round, Fips180.round, UInt32.toBitVec_add, hs0, hs1]
  rfl

theorem lowerSigma0_toBitVec (x : UInt32) :
    (rotr x 7 ^^^ rotr x 18 ^^^ (x >>> 3)).toBitVec = lowerSigma0 x.toBitVec := by
  rw [UInt32.toBitVec_xor, UInt32.toBitVec_xor, rotr_toBitVec x (by decide) (by decide),
    rotr_toBitVec x (by decide) (by decide), shiftRight_toBitVec x (by decide)]
  rfl

theorem lowerSigma1_toBitVec (x : UInt32) :
    (rotr x 17 ^^^ rotr x 19 ^^^ (x >>> 10)).toBitVec = lowerSigma1 x.toBitVec := by
  rw [UInt32.toBitVec_xor, UInt32.toBitVec_xor, rotr_toBitVec x (by decide) (by decide),
    rotr_toBitVec x (by decide) (by decide), shiftRight_toBitVec x (by decide)]
  rfl

theorem shiftLeft_toBitVec (value : UInt32) {n : Nat} (hn : n < 32) :
    (value <<< (OfNat.ofNat n : UInt32)).toBitVec = value.toBitVec <<< n := by
  have hn' := toNat_literal hn
  rw [UInt32.toBitVec_shiftLeft, BitVec.shiftLeft_eq', BitVec.toNat_umod, UInt32.toNat_toBitVec,
    hn']
  change value.toBitVec <<< (n % 32) = _
  rw [Nat.mod_eq_of_lt hn]

theorem getMsbD_placed (byte : UInt8) {m k r : Nat} (hm : m < 4) (hk : k < 4) (hr : r < 8) :
    (byte.toUInt32.toBitVec <<< (24 - 8 * m)).getMsbD (8 * k + r) =
      (decide (m = k) && byte.toBitVec.getMsbD r) := by
  rw [BitVec.getMsbD_shiftLeft, UInt8.toBitVec_toUInt32, BitVec.getMsbD_setWidth]
  rcases Nat.lt_trichotomy m k with hlt | rfl | hgt
  · have hne : m ≠ k := hlt.ne
    rw [BitVec.getMsbD_of_ge _ _ (by omega)]
    simp [hne]
  · have hindex : 8 * m + r + (24 - 8 * m) + 8 - 32 = r := by omega
    have hin : 32 - 8 ≤ 8 * m + r + (24 - 8 * m) := by omega
    rw [hindex, decide_eq_true hin, decide_eq_true rfl]
  · have hout : ¬32 - 8 ≤ 8 * k + r + (24 - 8 * m) := by omega
    have hne : m ≠ k := hgt.ne'
    simp [hout, hne]

theorem loadWord_toBitVec (block : List UInt8) (j : Nat) :
    (loadWord block j).toBitVec = wordAt (octets block) j := by
  apply BitVec.eq_of_getMsbD_eq
  intro i hi
  have hbit : (wordAt (octets block) j).getMsbD i =
      (block.getD (j * 4 + i / 8) 0).toBitVec.getMsbD (i % 8) := by
    rw [wordAt, BitVec.getMsbD_ofFnBE, dif_pos hi]
    have hindex : 32 * j + i = 8 * (j * 4 + i / 8) + i % 8 := by omega
    change (octets block).getD (32 * j + i) false = _
    rw [hindex, getD_octets _ (Nat.mod_lt i (by decide))]
  rw [hbit]
  have hk : i / 8 < 4 := by omega
  have hr : i % 8 < 8 := Nat.mod_lt i (by decide)
  have hplaced (m : Nat) (hm : m < 4) := getMsbD_placed (block.getD (j * 4 + m) 0) hm hk hr
  rw [Nat.div_add_mod] at hplaced
  have h0 := hplaced 0 (by decide)
  have h1 := hplaced 1 (by decide)
  have h2 := hplaced 2 (by decide)
  have h3 := hplaced 3 (by decide)
  rw [Nat.mul_one] at h1
  rw [BitVec.shiftLeft_zero] at h3
  rw [loadWord]
  simp only [UInt32.toBitVec_or, BitVec.getMsbD_or]
  rw [shiftLeft_toBitVec _ (by decide), shiftLeft_toBitVec _ (by decide),
    shiftLeft_toBitVec _ (by decide), h0, h1, h2, h3]
  have hcases : i / 8 = 0 ∨ i / 8 = 1 ∨ i / 8 = 2 ∨ i / 8 = 3 := by omega
  rcases hcases with hcase | hcase | hcase | hcase <;> simp [hcase]

def scheduled (block : List UInt8) (t : Nat) : UInt32 :=
  UInt32.ofBitVec (Fips180.schedule (octets block) t)

theorem extendSchedule_scheduled (block : List UInt8) {n : Nat} (hn : 16 ≤ n) :
    extendSchedule ((List.range n).map (scheduled block)) n =
      (List.range (n + 1)).map (scheduled block) := by
  have hword (back : Nat) (hpos : 0 < back) (hback : back ≤ 16) :
      ((List.range n).map (scheduled block)).getD (n - back) 0 = scheduled block (n - back) := by
    have hlt : n - back < n := by omega
    rw [List.getD_eq_getElem?_getD, List.getElem?_map, List.getElem?_range hlt]
    rfl
  rw [extendSchedule, List.range_succ, List.map_append, List.map_singleton]
  dsimp only
  rw [hword 15 (by decide) (by decide), hword 2 (by decide) (by decide),
    hword 16 (by decide) (by decide), hword 7 (by decide) (by decide)]
  congr 2
  apply UInt32.toBitVec_inj.mp
  rw [UInt32.toBitVec_add, UInt32.toBitVec_add, UInt32.toBitVec_add, lowerSigma0_toBitVec,
    lowerSigma1_toBitVec]
  simp only [scheduled]
  rw [schedule_of_ge _ hn]
  ac_rfl

theorem schedule_scheduled (block : List UInt8) :
    Sha256.schedule block = (List.range 64).map (scheduled block) := by
  have hgrow (n : Nat) : ((List.range n).map (· + 16)).foldl extendSchedule
      ((List.range 16).map (loadWord block)) = (List.range (16 + n)).map (scheduled block) := by
    induction n with
    | zero =>
        refine List.map_congr_left fun t ht => ?_
        rw [List.mem_range] at ht
        rw [← UInt32.toBitVec_inj, loadWord_toBitVec, scheduled, schedule_of_lt _ ht]
    | succ n ih =>
        rw [@List.range_succ n, List.map_append, List.foldl_append, ih, List.map_singleton,
          List.foldl_cons, List.foldl_nil, Nat.add_comm n 16,
          extendSchedule_scheduled block (Nat.le_add_right 16 n)]
        rfl
  exact hgrow 48

theorem roundConstants_eq : roundConstants.map UInt32.toBitVec = constants := by
  decide +kernel

theorem initialWords_eq : hashOf initialWords = initial := by
  decide +kernel

theorem rounds_eq (block : List UInt8) :
    roundConstants.zip (Sha256.schedule block) =
      (List.range 64).map fun t => (roundConstants.getD t 0, scheduled block t) := by
  have hconstants : roundConstants = (List.range 64).map fun t => roundConstants.getD t 0 := by
    decide +kernel
  rw [schedule_scheduled]
  conv_lhs => rw [hconstants]
  rw [List.zip_map']

theorem hashOf_transform (state : Words) (block : List UInt8) :
    hashOf (transform state block) = compress (hashOf state) (octets block) := by
  have hfold (ts : List Nat) (s : Words) :
      hashOf ((ts.map fun t => (roundConstants.getD t 0, scheduled block t)).foldl Sha256.round s) =
        ts.foldl (fun s t =>
          Fips180.round s (constants.getD t 0) (Fips180.schedule (octets block) t)) (hashOf s) := by
    induction ts generalizing s with
    | nil => rfl
    | cons t ts ih =>
        have hconstant : (roundConstants.getD t 0).toBitVec = constants.getD t 0 := by
          rw [← roundConstants_eq]
          exact (List.getD_map roundConstants 0 UInt32.toBitVec).symm
        rw [List.map_cons, List.foldl_cons, List.foldl_cons, ih, hashOf_round, hconstant]
        rfl
  rw [transform, rounds_eq, compress, ← hfold]
  rfl

end

section

def absorb (state : Words) (bytes : List UInt8) : Words × List UInt8 :=
  transformBlocks (bytes.length / 64) state bytes

theorem absorb_short (h : bytes.length < 64) : absorb state bytes = (state, bytes) := by
  rw [absorb, Nat.div_eq_of_lt h, transformBlocks]

theorem absorb_block (hblock : block.length = 64) :
    absorb state (block ++ rest) = absorb (transform state block) rest := by
  have hlen : (block ++ rest).length = rest.length + 64 := by
    rw [List.length_append, hblock, Nat.add_comm]
  rw [absorb, hlen, Nat.add_div_right _ (by decide), transformBlocks, hlen,
    if_neg (by omega), List.take_left' hblock, List.drop_left' hblock, absorb]

theorem short_or_block (bytes : List UInt8) :
    bytes.length < 64 ∨ ∃ block rest, bytes = block ++ rest ∧ block.length = 64 := by
  by_cases h : bytes.length < 64
  · exact .inl h
  · exact .inr ⟨bytes.take 64, bytes.drop 64, (List.take_append_drop 64 bytes).symm,
      List.length_take_of_le (Nat.le_of_not_lt h)⟩

theorem length_absorb (state : Words) (bytes : List UInt8) :
    (absorb state bytes).2.length = bytes.length % 64 := by
  induction hn : bytes.length / 64 generalizing state bytes with
  | zero =>
      have hshort : bytes.length < 64 := by omega
      rw [absorb_short hshort, Nat.mod_eq_of_lt hshort]
  | succ n ih =>
      obtain hshort | ⟨block, rest, rfl, hblock⟩ := short_or_block bytes
      · omega
      · rw [List.length_append, hblock] at hn ⊢
        rw [absorb_block hblock, ih _ rest (by omega)]
        omega

theorem absorb_append (state : Words) (xs ys : List UInt8) :
    absorb state (xs ++ ys) = absorb (absorb state xs).1 ((absorb state xs).2 ++ ys) := by
  induction hn : xs.length / 64 generalizing state xs with
  | zero =>
      have hshort : xs.length < 64 := by omega
      rw [absorb_short hshort]
  | succ n ih =>
      obtain hshort | ⟨block, rest, rfl, hblock⟩ := short_or_block xs
      · omega
      · rw [List.length_append, hblock] at hn
        rw [absorb_block hblock, List.append_assoc, absorb_block hblock, ih _ rest (by omega)]

theorem kept_eq {xs ys : List UInt8} (h : ys = []) : (if xs.isEmpty then ys else xs) = xs := by
  subst h
  cases xs with
  | nil => rfl
  | cons x xs => rfl

theorem update_absorb {h : Hasher} (hopen : h.buffer.length < 64) (bytes : List UInt8) :
    h.update bytes =
      { state := (absorb h.state (h.buffer ++ bytes)).1
        totalBytes := h.totalBytes + bytes.length.toUInt64
        buffer := (absorb h.state (h.buffer ++ bytes)).2 } := by
  obtain ⟨state, total, buffer⟩ := h
  dsimp only at hopen ⊢
  rw [Hasher.update]
  cases bytes with
  | nil =>
      rw [List.append_nil, absorb_short hopen]
      simp
  | cons byte bytes =>
      rw [List.isEmpty_cons, if_neg Bool.false_ne_true]
      generalize byte :: bytes = bytes
      by_cases hempty : buffer = []
      · subst hempty
        simp only [List.isEmpty_nil, if_true, List.take_zero, List.append_nil, List.length_nil,
          List.nil_append, List.drop_zero, Nat.sub_zero]
        rw [if_neg (by decide)]
        congr 1
        exact kept_eq rfl
      · have hisEmpty : buffer.isEmpty = false := List.isEmpty_eq_false_iff.mpr hempty
        have hroom := List.length_pos_iff.mpr hempty
        rw [hisEmpty, if_neg Bool.false_ne_true]
        dsimp only
        by_cases hfull : 64 - buffer.length ≤ bytes.length
        · have hblock : (buffer ++ bytes.take (64 - buffer.length)).length = 64 := by
            rw [List.length_append, List.length_take_of_le hfull]
            omega
          have hcut : buffer ++ bytes = (buffer ++ bytes.take (64 - buffer.length)) ++
              bytes.drop (64 - buffer.length) := by
            rw [List.append_assoc, List.take_append_drop]
          rw [Nat.min_eq_right hfull, if_pos hblock, hcut, absorb_block hblock, absorb,
            List.length_drop]
          congr 1
          exact kept_eq rfl
        · have hshort : (buffer ++ bytes).length < 64 := by
            rw [List.length_append]
            omega
          rw [Nat.min_eq_left (by omega), List.take_length, if_neg hshort.ne, List.drop_length,
            Nat.sub_self, absorb_short hshort]
          rfl

def absorbed (message : List UInt8) : Hasher where
  state := (absorb initialWords message).1
  totalBytes := message.length.toUInt64
  buffer := (absorb initialWords message).2

theorem absorbed_update (message bytes : List UInt8) :
    (absorbed message).update bytes = absorbed (message ++ bytes) := by
  have hopen : (absorbed message).buffer.length < 64 := by
    rw [absorbed, length_absorb]
    exact Nat.mod_lt _ (by decide)
  rw [update_absorb hopen]
  simp only [absorbed]
  rw [← absorb_append, List.length_append]
  congr 1
  simp

theorem absorbed_chunks (message : List UInt8) (chunks : List (List UInt8)) :
    chunks.foldl Hasher.update (absorbed message) = absorbed (message ++ chunks.flatten) := by
  induction chunks generalizing message with
  | nil => rw [List.foldl_nil, List.flatten_nil, List.append_nil]
  | cons chunk chunks ih =>
      rw [List.foldl_cons, absorbed_update, ih, List.flatten_cons, List.append_assoc]

theorem hashOf_absorb (state : Words) {bytes : List UInt8} (h : bytes.length % 64 = 0) :
    hashOf (absorb state bytes).1 = (blocks (octets bytes)).foldl compress (hashOf state) := by
  induction hn : bytes.length / 64 generalizing state bytes with
  | zero =>
      have hnil : bytes = [] := List.length_eq_zero_iff.mp (by omega)
      subst hnil
      rfl
  | succ n ih =>
      obtain hshort | ⟨block, rest, rfl, hblock⟩ := short_or_block bytes
      · omega
      · rw [List.length_append, hblock] at hn h
        have hbits : (octets block).length = 512 := by rw [length_octets, hblock]
        rw [absorb_block hblock, ih _ (by omega) (by omega), octets_append, blocks_append hbits,
          List.foldl_cons, hashOf_transform]

end

section

def padding (open_ : Nat) : List UInt8 :=
  0x80 :: List.replicate ((if open_ < 56 then 56 - open_ else 120 - open_) - 1) 0

theorem octets_zeros (n : Nat) : octets (List.replicate n 0) = List.replicate (8 * n) false := by
  induction n with
  | zero => rfl
  | succ n ih =>
      have hbyte : bits (0 : UInt8).toBitVec = List.replicate 8 false := by decide
      rw [List.replicate_succ]
      change bits (0 : UInt8).toBitVec ++ octets (List.replicate n 0) = _
      rw [ih, hbyte, ← List.replicate_add, Nat.mul_succ, Nat.add_comm]

theorem octets_padding (message : List UInt8) :
    octets (padding (message.length % 64)) =
      true :: List.replicate (zeros (octets message).length) false := by
  have hbyte : bits (0x80 : UInt8).toBitVec = true :: List.replicate 7 false := by decide
  have hcount : 7 + 8 * ((if message.length % 64 < 56 then 56 - message.length % 64
      else 120 - message.length % 64) - 1) = zeros (8 * message.length) := by
    obtain ⟨hsolves, hleast⟩ := zeros_spec (8 * message.length)
    have hle := hleast (7 + 8 * ((if message.length % 64 < 56 then 56 - message.length % 64
      else 120 - message.length % 64) - 1)) (by split <;> omega)
    split at hle
    · rename_i hroom
      rw [if_pos hroom]
      omega
    · rename_i hroom
      rw [if_neg hroom]
      omega
  change bits (0x80 : UInt8).toBitVec ++ octets (List.replicate _ 0) = _
  rw [octets_zeros, hbyte, List.cons_append, ← List.replicate_add, hcount, length_octets]

theorem getMsbD_byte {w n : Nat} (hw : w = 8 * n) (x : BitVec w) {k i : Nat} (hk : k < n)
    (hi : i < 8) : ((x >>> ((n - 1 - k) * 8)).setWidth 8).getMsbD i = x.getMsbD (8 * k + i) := by
  have hindex : i + w - 8 - (n - 1 - k) * 8 = 8 * k + i := by omega
  have hin : i + w - 8 < w := by omega
  have hout : ¬i + w - 8 < (n - 1 - k) * 8 := by omega
  rw [BitVec.getMsbD_setWidth, Nat.add_sub_assoc (by omega), BitVec.getMsbD_ushiftRight,
    ← Nat.add_sub_assoc (by omega), hindex, decide_eq_true hin, decide_eq_false hout,
    decide_eq_true (by omega)]
  rfl

theorem bits_bytes {w n : Nat} (hw : w = 8 * n) (x : BitVec w) :
    ((List.range n).flatMap fun k => bits ((x >>> ((n - 1 - k) * 8)).setWidth 8)) = bits x := by
  subst hw
  rw [bits, ← flatMap_range x.getMsbD 8 n]
  refine List.flatMap_congr fun k hk => List.map_congr_left fun i hi => ?_
  exact getMsbD_byte rfl x (List.mem_range.mp hk) (List.mem_range.mp hi)

theorem octets_bigEndian64 (value : UInt64) : octets (bigEndian64 value) = bits value.toBitVec := by
  rw [octets, bigEndian64, List.map_map, List.flatMap_map, ← @bits_bytes 64 8 rfl value.toBitVec]
  refine List.flatMap_congr fun k hk => ?_
  have hshift : ((7 - k) * 8).toUInt64.toNat % 64 = (8 - 1 - k) * 8 := by
    change (7 - k) * 8 % 2 ^ 64 % 64 = _
    omega
  rw [Function.comp_apply, UInt64.toBitVec_toUInt8, UInt64.toBitVec_shiftRight,
    BitVec.ushiftRight_eq', BitVec.toNat_umod, UInt64.toNat_toBitVec]
  change bits (BitVec.setWidth 8 (value.toBitVec >>> (((7 - k) * 8).toUInt64.toNat % 64))) = _
  rw [hshift]

theorem octets_bigEndian32 (value : UInt32) : octets (bigEndian32 value) = bits value.toBitVec := by
  rw [octets, bigEndian32, List.map_map, List.flatMap_map, ← @bits_bytes 32 4 rfl value.toBitVec]
  refine List.flatMap_congr fun k hk => ?_
  have hshift : ((3 - k) * 8).toUInt32.toNat % 32 = (4 - 1 - k) * 8 := by
    change (3 - k) * 8 % 2 ^ 32 % 32 = _
    omega
  rw [Function.comp_apply, UInt32.toBitVec_toUInt8, UInt32.toBitVec_shiftRight,
    BitVec.ushiftRight_eq', BitVec.toNat_umod, UInt32.toNat_toBitVec]
  change bits (BitVec.setWidth 8 (value.toBitVec >>> (((3 - k) * 8).toUInt32.toNat % 32))) = _
  rw [hshift]

theorem octets_words (s : Words) :
    octets (s.toList.flatMap bigEndian32) = (hashOf s).words.flatMap bits := by
  simp only [Words.toList, List.flatMap_cons, List.flatMap_nil, octets_append, octets_bigEndian32]
  rfl

/-- A message of bytes that the standard allows. -/
def message (bytes : List UInt8) (h : bytes.length < 2 ^ 61) : Message where
  bits := octets bytes
  short := by
    rw [length_octets]
    omega

theorem octets_padded (bytes : List UInt8) (h : bytes.length < 2 ^ 61) :
    octets (bytes ++ padding (bytes.length % 64) ++ bigEndian64 (bytes.length.toUInt64 * 8)) =
      pad (message bytes h) := by
  have hlength : (bytes.length.toUInt64 * 8).toBitVec = BitVec.ofNat 64 (octets bytes).length := by
    apply BitVec.eq_of_toNat_eq
    rw [UInt64.toNat_toBitVec, UInt64.toNat_mul, BitVec.toNat_ofNat, length_octets]
    change bytes.length % 2 ^ 64 * 8 % 2 ^ 64 = _
    omega
  rw [octets_append, octets_append, octets_padding, octets_bigEndian64, hlength]
  rfl

theorem length_padded (bytes : List UInt8) (value : UInt64) :
    (bytes ++ padding (bytes.length % 64) ++ bigEndian64 value).length % 64 = 0 := by
  simp only [List.length_append, padding, List.length_cons, List.length_replicate, bigEndian64,
    List.length_map, List.length_range]
  split <;> omega

/-- However a message is cut into updates, the digest is the one of the standard. -/
theorem finish_digest (chunks : List (List UInt8)) (h : chunks.flatten.length < 2 ^ 61) :
    octets (chunks.foldl Hasher.update {}).finish = Fips180.sha256 (message chunks.flatten h) := by
  have habsorbed : chunks.foldl Hasher.update {} = absorbed chunks.flatten :=
    absorbed_chunks [] chunks
  have hbuffer : (absorbed chunks.flatten).buffer.length = chunks.flatten.length % 64 :=
    length_absorb initialWords chunks.flatten
  rw [habsorbed, Hasher.finish, hbuffer]
  change octets ((((absorbed chunks.flatten).update (padding (chunks.flatten.length % 64))).update
    (bigEndian64 (chunks.flatten.length.toUInt64 * 8))).state.toList.flatMap bigEndian32) = _
  rw [absorbed_update, absorbed_update, octets_words]
  change (hashOf (absorb initialWords _).1).words.flatMap bits = _
  rw [hashOf_absorb _ (length_padded _ _), octets_padded _ h, initialWords_eq]
  rfl

/-- The digest of the three letters `abc`, given to the object in two parts. -/
theorem finish_digest_abc :
    octets ([[0x61], [0x62, 0x63]].foldl Hasher.update {}).finish =
      Fips180.sha256 (message [0x61, 0x62, 0x63] (by decide)) :=
  finish_digest [[0x61], [0x62, 0x63]] (by decide)

end

end ModelRouter.Digests
