import ModelRouter.Canonical
import ModelRouter.Images

namespace ModelRouter.RoundTrip

open Base Base.Parse Bytes Ids Limits Capability Evidence Catalog Candidate Authority Persistence
open Codec Stored RecordCodec StateStore Readback Sizes Sorting Canonical Images Crc32c Sha256

variable {limits limits' : ResourceLimits} {s : StoredState} {image : Image}
variable {payload digest : List UInt8} {records : UInt32}

theorem length_sha256 (bytes : List UInt8) : (sha256 bytes).length = 32 := by
  simp [sha256, Hasher.finish, Words.toList, bigEndian32]

theorem encode_ok :
    encode s limits = .ok image ↔ s.canonicalize.validate limits = none ∧
      ∃ payload, encodePayload limits s.canonicalize = .ok payload ∧
        recordCount s.canonicalize ≤ limits.maxPersistenceRecords ∧
        persistenceHeaderBytes + payload.length ≤ limits.maxPersistenceBytes.toNat ∧
        image = { bytes := imageBytes (recordCount s.canonicalize)
                    (sha256 (canonicalTextBytes s.canonicalize)) payload
                  records := recordCount s.canonicalize } := by
  simp only [encode, demand_bind_ok, Option.isNone_iff_eq_none]
  rw [bind_ok]
  simp only [demand_bind_ok, decide_eq_true_iff]
  refine and_congr_right fun _ => exists_congr fun payload => and_congr_right fun _ =>
    and_congr_right fun _ => and_congr_right fun _ => ?_
  constructor
  · intro h
    cases h
    rfl
  · rintro rfl
    rfl

@[simp] theorem length_coveredHeader : (coveredHeader records payload).length = 36 := by
  simp [coveredHeader, persistenceMagic]

/-- The fields of an image where the decoder looks for them. -/
structure Layout (bytes : List UInt8) (records : UInt32) (digest payload : List UInt8) : Prop where
  length : bytes.length = persistenceHeaderBytes + payload.length
  magic : bytes.take 8 = persistenceMagic
  version : numberAt 4 8 bytes = persistenceFormatVersion
  headerBytes : numberAt 4 12 bytes = persistenceHeaderBytes
  flags : numberAt 4 16 bytes = 0
  records : numberAt 4 20 bytes = records.toNat
  payloadBytes : numberAt 8 24 bytes = payload.length
  payloadCrc : numberAt 4 32 bytes = (crc32c payload).toNat
  headerCrc : numberAt 4 36 bytes = (crc32c (bytes.take 36)).toNat
  digest : (bytes.drop 40).take 32 = digest
  payload : bytes.drop persistenceHeaderBytes = payload

theorem imageBytes_layout (hdigest : digest.length = 32) (hpayload : payload.length < 2 ^ 64) :
    Layout (imageBytes records digest payload) records digest payload := by
  have hcrc (bytes : List UInt8) : (crc32c bytes).toNat < 256 ^ 4 := (crc32c bytes).toNat_lt
  have hcovered : (imageBytes records digest payload).take 36 = coveredHeader records payload := by
    simp only [imageBytes, List.append_assoc]
    exact List.take_left' length_coveredHeader
  have hsplit : imageBytes records digest payload = (coveredHeader records payload ++
      littleEndian 4 (crc32c (coveredHeader records payload)).toNat) ++ (digest ++ payload) := by
    simp only [imageBytes, List.append_assoc]
  have hfront : (coveredHeader records payload ++
      littleEndian 4 (crc32c (coveredHeader records payload)).toNat).length = 40 := by
    simp
  have hfields := hsplit
  simp only [coveredHeader, List.append_assoc] at hfields
  constructor
  · simp only [hsplit, List.length_append, hdigest, hfront, persistenceHeaderBytes]
    omega
  · rw [hfields]
    exact List.take_left' rfl
  · rw [hfields]
    rw [numberAt_append (by simp [persistenceMagic])]
    exact numberAt_zero (by decide)
  · rw [hfields]
    iterate 2 rw [numberAt_append (by simp [persistenceMagic])]
    simp only [length_littleEndian]
    exact numberAt_zero (by decide)
  · rw [hfields]
    iterate 3 rw [numberAt_append (by simp [persistenceMagic])]
    simp only [length_littleEndian]
    exact numberAt_zero (by decide)
  · rw [hfields]
    iterate 4 rw [numberAt_append (by simp [persistenceMagic])]
    simp only [length_littleEndian]
    exact numberAt_zero records.toNat_lt
  · rw [hfields]
    iterate 5 rw [numberAt_append (by simp [persistenceMagic])]
    simp only [length_littleEndian]
    exact numberAt_zero hpayload
  · rw [hfields]
    iterate 6 rw [numberAt_append (by simp [persistenceMagic])]
    simp only [length_littleEndian]
    exact numberAt_zero (hcrc payload)
  · rw [hcovered, hsplit, List.append_assoc, numberAt_append length_coveredHeader.le,
      length_coveredHeader]
    exact numberAt_zero (hcrc _)
  · rw [hsplit, List.drop_left' hfront, List.take_left' hdigest]
  · rw [hsplit, ← List.append_assoc]
    exact List.drop_left' (by rw [List.length_append, hfront, hdigest]; rfl)

theorem encode_layout (h : encode s limits = .ok image) :
    ∃ payload, encodePayload limits s.canonicalize = .ok payload ∧
      Layout image.bytes image.records (sha256 (canonicalTextBytes s.canonicalize)) payload := by
  obtain ⟨-, payload, hpayload, -, hsize, rfl⟩ := encode_ok.mp h
  have hbound := limits.maxPersistenceBytes.toNat_lt
  exact ⟨payload, hpayload, imageBytes_layout (length_sha256 _) (by omega)⟩

theorem encode_length (h : encode s limits = .ok image) :
    image.bytes.length = persistenceHeaderBytes + payloadBytes s.canonicalize := by
  obtain ⟨payload, hpayload, hlayout⟩ := encode_layout h
  rw [hlayout.length, payload_length hpayload]

theorem layout_image {bytes : List UInt8} (h : Layout bytes records digest payload) :
    bytes = imageBytes records digest payload := by
  have hlen : persistenceHeaderBytes ≤ bytes.length := by
    rw [h.length]
    omega
  rw [persistenceHeaderBytes] at hlen
  have hcovered : bytes.take 36 = coveredHeader records payload := by
    have hfields : bytes = coveredHeader records payload ++ bytes.drop 36 := by
      conv_lhs => rw [← List.take_append_drop 8 bytes, h.magic, drop_field (by omega) h.version,
        drop_field (by omega) h.headerBytes, drop_field (by omega) h.flags,
        drop_field (by omega) h.records, drop_field (by omega) h.payloadBytes,
        drop_field (by omega) h.payloadCrc]
      simp only [coveredHeader, List.append_assoc]
    rw [hfields]
    exact List.take_left' length_coveredHeader
  have hdigest : bytes.drop 40 = digest ++ payload := by
    rw [← List.take_append_drop 32 (bytes.drop 40), h.digest, List.drop_drop, ← h.payload,
      persistenceHeaderBytes]
  conv_lhs => rw [← List.take_append_drop 36 bytes, drop_field (by omega) h.headerCrc, hcovered,
    hdigest]
  simp only [imageBytes, List.append_assoc]

/-- What `decode` has found of bytes it accepts. -/
structure Accepted (bytes : List UInt8) (limits : ResourceLimits) (loaded : Loaded)
    (progress : Progress) : Prop where
  layout : Layout bytes loaded.recordCount ((bytes.drop 40).take 32)
    (bytes.drop persistenceHeaderBytes)
  size : bytes.length ≤ limits.maxPersistenceBytes.toNat
  payloadSize : (bytes.drop persistenceHeaderBytes).length ≤ limits.maxPayloadBytes.toNat
  read : readPayload limits {} (bytes.drop persistenceHeaderBytes) = .ok progress
  seen : progress.seen = loaded.recordCount
  state : loaded.state = progress.state.canonicalize
  valid : loaded.state.validate limits = none
  digest : sha256 (canonicalTextBytes loaded.state) = (bytes.drop 40).take 32

theorem decode_ok {bytes : List UInt8} {loaded : Loaded} (h : decode bytes limits = .ok loaded) :
    ∃ progress, Accepted bytes limits loaded progress := by
  simp only [decode, bind_ok, demand_ok, exists_const, decide_eq_true_iff, beq_iff_eq,
    Option.isNone_iff_eq_none] at h
  obtain ⟨hlength, hsize, hmagic, hversion, hheader, hflags, hheaderCrc, hpayloadSize, hpayload,
    hpayloadCrc, progress, hread, -, hseen, hvalid, hdigest, hloaded⟩ := h
  obtain rfl := Except.ok.inj hloaded
  have hdrop : (bytes.drop persistenceHeaderBytes).length = numberAt 8 24 bytes := by
    rw [List.length_drop]
    omega
  refine ⟨progress, ?_, hsize, by rw [hdrop]; exact hpayloadSize, hread, hseen, rfl, hvalid,
    hdigest⟩
  constructor
  · rw [hdrop, hpayload]
  · exact hmagic
  · exact hversion
  · exact hheader
  · exact hflags
  · have hlt := fromLittleEndian_lt ((bytes.drop 20).take 4)
    have hwidth : ((bytes.drop 20).take 4).length = 4 := by
      rw [List.length_take, List.length_drop]
      rw [persistenceHeaderBytes] at hlength
      omega
    rw [hwidth] at hlt
    exact (UInt32.toNat_ofNat_of_lt' hlt).symm
  · exact hdrop.symm
  · exact hpayloadCrc.symm
  · exact hheaderCrc
  · rfl
  · rfl

theorem decode_yields {bytes : List UInt8} {c : Prop} {progress : Progress}
    (h : Layout bytes records digest payload)
    (hread : payload.length ≤ limits.maxPayloadBytes.toNat →
      Yields c (readPayload limits {} payload) progress)
    (hmeta : progress.haveMeta = true) (hseen : progress.seen = records)
    (hdigest : sha256 (canonicalTextBytes progress.state.canonicalize) = digest) :
    Yields (bytes.length ≤ limits.maxPersistenceBytes.toNat ∧
        payload.length ≤ limits.maxPayloadBytes.toNat ∧ c ∧
        progress.state.canonicalize.validate limits = none)
      (decode bytes limits)
      { state := progress.state.canonicalize, recordCount := records } := by
  have hrecords : UInt32.ofNat (numberAt 4 20 bytes) = records := by
    rw [h.records, UInt32.ofNat_toNat]
  have hyields : Yields (decide (bytes.length ≤ limits.maxPersistenceBytes.toNat) = true ∧
      decide (payload.length ≤ limits.maxPayloadBytes.toNat) = true ∧ c ∧
      (progress.state.canonicalize.validate limits).isNone = true ∧ True) (decode bytes limits)
      { state := progress.state.canonicalize, recordCount := records } := by
    simp only [decode, h.payload, h.payloadBytes, hrecords]
    refine .pass (by simp [h.length]) (.demand fun _ => ?_)
    refine .pass (by simp [h.magic]) (.pass (by simp [h.version]) ?_)
    refine .pass (by simp [h.headerBytes]) (.pass (by simp [h.flags]) ?_)
    refine .pass (by simp [h.headerCrc]) (.demand fun hpayload => ?_)
    refine .pass (by simp [h.length]) (.pass (by simp [h.payloadCrc]) ?_)
    refine .bind (hread (of_decide_eq_true hpayload)) fun _ => ?_
    refine .pass hmeta (.pass (by simp [hseen]) (.demand fun _ => ?_))
    exact .pass (by simp [hdigest, h.digest]) .done
  exact hyields.congr (by simp)

theorem ordered_canonicalize (h : StateOrdered s) : StateOrdered s.canonicalize := by
  refine ⟨fun m hm => h.1 m (mem_stableSort.mp hm), fun b hb => ?_⟩
  obtain ⟨b', hb', rfl⟩ := List.mem_map.mp hb
  exact h.2 b' (mem_stableSort.mp hb')

theorem reloaded_canonicalize (s : StoredState) :
    (reloaded s.canonicalize).canonicalize = reloaded s.canonicalize := by
  have hcomm : (reloaded s.canonicalize).canonicalize = reloaded s.canonicalize.canonicalize := rfl
  rw [hcomm, canonicalize_canonicalize]

theorem decode_encoded (limits' : ResourceLimits) (hordered : StateOrdered s)
    (h : encode s limits = .ok image) :
    Yields (image.bytes.length ≤ limits'.maxPersistenceBytes.toNat ∧
        payloadBytes s.canonicalize ≤ limits'.maxPayloadBytes.toNat ∧
        (StateFits limits' s.canonicalize ∧
          recordTotal s.canonicalize ≤ limits'.maxPersistenceRecords.toNat) ∧
        (reloaded s.canonicalize).validate limits' = none)
      (decode image.bytes limits')
      { state := reloaded s.canonicalize, recordCount := image.records } := by
  obtain ⟨payload, hpayload, hlayout⟩ := encode_layout h
  have hsmall : payload.length ≤ limits'.maxPayloadBytes.toNat → payload.length < 2 ^ 32 :=
    fun hle => Nat.lt_of_le_of_lt hle limits'.maxPayloadBytes.toNat_lt
  have hrecords : recordCount s.canonicalize = image.records := by
    obtain ⟨-, -, -, -, -, rfl⟩ := encode_ok.mp h
    rfl
  have hread := payload_yields limits' (ordered_canonicalize hordered) hpayload
  have hdecode := decode_yields hlayout (fun hle => hread (hsmall hle)) rfl hrecords
    (by rw [reloaded_canonicalize]; rfl)
  rw [reloaded_canonicalize, payload_length hpayload] at hdecode
  exact hdecode

end ModelRouter.RoundTrip
