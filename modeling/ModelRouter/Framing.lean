import ModelRouter.Frames

namespace ModelRouter.Framing

open Base Bytes Limits Crc32c Frames

variable {limits : ResourceLimits} {bytes rest image : List UInt8} {header : FrameHeader}
variable {frame : Frame}

@[simp] theorem length_coveredBytes (header : FrameHeader) : (coveredBytes header).length = 16 := by
  simp [coveredBytes]

@[simp] theorem length_putHeader (header : FrameHeader) :
    (putHeader header).length = frameHeaderBytes := by
  simp [putHeader, frameHeaderBytes]

theorem take_putHeader (header : FrameHeader) (rest : List UInt8) :
    (putHeader header ++ rest).take 16 = coveredBytes header := by
  simp only [putHeader, List.append_assoc]
  exact List.take_left' (length_coveredBytes header)

theorem numberAt_word16 (position : Nat) (bytes : List UInt8) :
    (UInt16.ofNat (numberAt 2 position bytes)).toNat = numberAt 2 position bytes :=
  UInt16.toNat_ofNat_of_lt' (numberAt_lt 2 position bytes)

theorem numberAt_word32 (position : Nat) (bytes : List UInt8) :
    (UInt32.ofNat (numberAt 4 position bytes)).toNat = numberAt 4 position bytes :=
  UInt32.toNat_ofNat_of_lt' (numberAt_lt 4 position bytes)

theorem numberAt_first16 (value : UInt16) (rest : List UInt8) :
    numberAt 2 0 (littleEndian 2 value.toNat ++ rest) = value.toNat :=
  numberAt_zero value.toNat_lt

theorem numberAt_first32 (value : UInt32) (rest : List UInt8) :
    numberAt 4 0 (littleEndian 4 value.toNat ++ rest) = value.toNat :=
  numberAt_zero value.toNat_lt

theorem headerAt_putHeader (header : FrameHeader) (rest : List UInt8) :
    headerAt (putHeader header ++ rest) = header := by
  have hsplit : putHeader header ++ rest = littleEndian 4 header.magic.toNat ++
      (littleEndian 2 header.protocolVersion.toNat ++ (littleEndian 2 header.messageType.toNat ++
      (littleEndian 4 header.flags.toNat ++ (littleEndian 4 header.payloadBytes.toNat ++
      (littleEndian 4 header.headerCrc32c.toNat ++
      (littleEndian 4 header.payloadCrc32c.toNat ++ rest)))))) := by
    simp only [putHeader, coveredBytes, List.append_assoc]
  rw [hsplit]
  simp only [headerAt, numberAt_append, length_littleEndian, Nat.reduceLeDiff, Nat.reduceSub,
    numberAt_first16, numberAt_first32, UInt32.ofNat_toNat, UInt16.ofNat_toNat]

theorem putHeader_headerAt (h : frameHeaderBytes ≤ bytes.length) :
    putHeader (headerAt bytes) = bytes.take frameHeaderBytes := by
  rw [frameHeaderBytes] at h
  have hfields : bytes = putHeader (headerAt bytes) ++ bytes.drop 24 := by
    have hdrop {width : Nat} (position : Nat) (hle : position + width ≤ 24) :=
      @drop_field bytes width position _ (by omega) rfl
    conv_lhs => rw [← List.drop_zero (l := bytes), @hdrop 4 0 (by omega), @hdrop 2 4 (by omega),
      @hdrop 2 6 (by omega), @hdrop 4 8 (by omega), @hdrop 4 12 (by omega),
      @hdrop 4 16 (by omega), @hdrop 4 20 (by omega)]
    simp only [putHeader, coveredBytes, headerAt, numberAt_word16, numberAt_word32,
      List.append_assoc]
  conv_rhs => rw [hfields]
  exact (List.take_left' (length_putHeader _)).symm

theorem decodeHeader_ok :
    decodeHeader bytes limits = .ok header ↔
      frameHeaderBytes ≤ bytes.length ∧ headerAt bytes = header ∧ header.magic = frameMagic ∧
      header.protocolVersion.toUInt32 = protocolVersion ∧ knownType header.messageType = true ∧
      header.headerCrc32c = crc32c (bytes.take 16) ∧
      payloadFits limits header.payloadBytes.toNat = true := by
  simp only [decodeHeader, demand_bind_ok, decide_eq_true_iff, beq_iff_eq]
  constructor
  · rintro ⟨hlen, hmagic, hversion, htype, hcrc, hfits, h⟩
    obtain rfl := Except.ok.inj h
    exact ⟨hlen, rfl, hmagic, hversion, htype, hcrc, hfits⟩
  · rintro ⟨hlen, rfl, hmagic, hversion, htype, hcrc, hfits⟩
    exact ⟨hlen, hmagic, hversion, htype, hcrc, hfits, rfl⟩

theorem decodeHeader_take (bytes : List UInt8) {n : Nat} (h : frameHeaderBytes ≤ n) :
    decodeHeader (bytes.take n) limits = decodeHeader bytes limits := by
  rw [frameHeaderBytes] at h
  have hfield {width position : Nat} (hle : position + width ≤ n) :
      numberAt width position (bytes.take n) = numberAt width position bytes := numberAt_take hle
  have hheader : headerAt (bytes.take n) = headerAt bytes := by
    simp only [headerAt]
    rw [hfield (by omega), hfield (by omega), hfield (by omega), hfield (by omega),
      hfield (by omega), hfield (by omega), hfield (by omega)]
  have hlen : frameHeaderBytes ≤ (bytes.take n).length ↔ frameHeaderBytes ≤ bytes.length := by
    rw [List.length_take, frameHeaderBytes]
    omega
  have hcovered : (bytes.take n).take 16 = bytes.take 16 := by
    rw [List.take_take, Nat.min_eq_left (by omega)]
  simp only [decodeHeader, hheader, hcovered, hlen]

/-- The conditions both directions put on a frame. -/
structure Admitted (limits : ResourceLimits) (frame : Frame) : Prop where
  magic : frame.header.magic = frameMagic
  version : frame.header.protocolVersion.toUInt32 = protocolVersion
  known : knownType frame.header.messageType = true
  fits : payloadFits limits frame.payload.length = true

theorem payloadFits_iff {n : Nat} :
    payloadFits limits n = true ↔
      n ≤ min limits.maxFramePayloadBytes.toNat limits.maxPayloadBytes.toNat := by
  simp only [payloadFits, Bool.not_eq_true', Bool.or_eq_false_iff, decide_eq_false_iff_not,
    Nat.not_lt, Nat.le_min]

theorem length_frameBytes (frame : Frame) :
    (frameBytes frame).length = frameHeaderBytes + frame.payload.length := by
  rw [frameBytes, List.length_append, length_putHeader]

theorem encodeFrame_ok :
    encodeFrame frame limits = .ok image ↔ Admitted limits frame ∧
      frameBytes (withChecksums frame) = image ∧ image.length ≤ limits.maxFrameBytes.toNat := by
  simp only [encodeFrame, demand_bind_ok, decide_eq_true_iff, beq_iff_eq]
  constructor
  · rintro ⟨hmagic, hversion, htype, hfits, hsize, h⟩
    obtain rfl := Except.ok.inj h
    exact ⟨⟨hmagic, hversion, htype, hfits⟩, rfl, hsize⟩
  · rintro ⟨⟨hmagic, hversion, htype, hfits⟩, rfl, hsize⟩
    exact ⟨hmagic, hversion, htype, hfits, hsize, rfl⟩

theorem withChecksums_eq_iff :
    withChecksums frame = frame ↔
      frame.header.payloadBytes = UInt32.ofNat frame.payload.length ∧
      frame.header.payloadCrc32c = crc32c frame.payload ∧
      frame.header.headerCrc32c = crc32c (coveredBytes frame.header) := by
  obtain ⟨header, payload⟩ := frame
  have htake (header : FrameHeader) : (putHeader header).take 16 = coveredBytes header := by
    have h := take_putHeader header []
    rwa [List.append_nil] at h
  obtain ⟨magic, version, type, flags, payloadBytes, headerCrc, payloadCrc⟩ := header
  simp only [withChecksums, htake, Frame.mk.injEq, FrameHeader.mk.injEq, true_and, and_true]
  constructor
  · rintro ⟨rfl, hheader, rfl⟩
    exact ⟨rfl, rfl, hheader.symm⟩
  · rintro ⟨rfl, rfl, hheader⟩
    exact ⟨rfl, hheader.symm, rfl⟩

theorem withChecksums_idem (frame : Frame) :
    withChecksums (withChecksums frame) = withChecksums frame := by
  obtain ⟨header, payload⟩ := frame
  refine withChecksums_eq_iff.mpr ⟨rfl, rfl, ?_⟩
  have h := take_putHeader { header with
    payloadBytes := UInt32.ofNat payload.length, payloadCrc32c := crc32c payload } []
  rw [List.append_nil] at h
  exact congrArg crc32c h

theorem admitted_withChecksums (h : Admitted limits frame) :
    Admitted limits (withChecksums frame) :=
  ⟨h.magic, h.version, h.known, h.fits⟩

theorem decodeFrame_ok :
    decodeFrame bytes limits = .ok frame ↔
      Admitted limits frame ∧ withChecksums frame = frame ∧ frameBytes frame = bytes := by
  simp only [decodeFrame, bind_ok, demand_ok, exists_const, beq_iff_eq, decodeHeader_ok]
  constructor
  · rintro ⟨header, ⟨hlen, hheader, hmagic, hversion, htype, hcrc, hfits⟩, hlength, hpayload, h⟩
    obtain rfl := Except.ok.inj h
    have hpayloadLen : (bytes.drop frameHeaderBytes).length = header.payloadBytes.toNat := by
      rw [List.length_drop]
      omega
    have hbytes : frameBytes ⟨header, bytes.drop frameHeaderBytes⟩ = bytes := by
      rw [frameBytes, ← hheader, putHeader_headerAt hlen, List.take_append_drop]
    refine ⟨⟨hmagic, hversion, htype, by rw [hpayloadLen]; exact hfits⟩, ?_, hbytes⟩
    refine withChecksums_eq_iff.mpr ⟨?_, hpayload.symm, ?_⟩
    · rw [hpayloadLen, UInt32.ofNat_toNat]
    · rw [hcrc]
      conv_lhs => rw [← hbytes, frameBytes, take_putHeader]
  · rintro ⟨⟨hmagic, hversion, htype, hfits⟩, hsums, rfl⟩
    obtain ⟨hlength, hpayload, hcrc⟩ := withChecksums_eq_iff.mp hsums
    have hsmall : frame.payload.length < 2 ^ 32 := by
      have hle := payloadFits_iff.mp hfits
      have hbound := limits.maxPayloadBytes.toNat_lt
      omega
    have hpayloadBytes : frame.header.payloadBytes.toNat = frame.payload.length := by
      rw [hlength]
      exact UInt32.toNat_ofNat_of_lt' hsmall
    have hdrop : (frameBytes frame).drop frameHeaderBytes = frame.payload :=
      List.drop_left' (length_putHeader _)
    refine ⟨frame.header, ⟨?_, headerAt_putHeader _ _, hmagic, hversion, htype, ?_, ?_⟩, ?_, ?_, ?_⟩
    · rw [length_frameBytes]
      omega
    · rw [frameBytes, take_putHeader, hcrc]
    · rw [hpayloadBytes]
      exact hfits
    · rw [length_frameBytes, hpayloadBytes]
    · rw [hdrop, hpayload]
    · rw [hdrop]
      rfl

theorem payloadBytes_toNat (h : Admitted limits frame) (hsums : withChecksums frame = frame) :
    frame.header.payloadBytes.toNat = frame.payload.length := by
  rw [(withChecksums_eq_iff.mp hsums).1]
  have hle := payloadFits_iff.mp h.fits
  have hbound := limits.maxPayloadBytes.toNat_lt
  exact UInt32.toNat_ofNat_of_lt' (show frame.payload.length < 2 ^ 32 by omega)

theorem decodeFrame_length (h : decodeFrame bytes limits = .ok frame) :
    bytes.length = frameHeaderBytes + (headerAt bytes).payloadBytes.toNat := by
  obtain ⟨hadmitted, hsums, rfl⟩ := decodeFrame_ok.mp h
  rw [length_frameBytes, ← payloadBytes_toNat hadmitted hsums, frameBytes, headerAt_putHeader]

theorem headerAt_take (bytes : List UInt8) :
    headerAt (bytes.take frameHeaderBytes) = headerAt bytes := by
  simp only [headerAt, frameHeaderBytes, numberAt_take, Nat.reduceAdd, Nat.reduceLeDiff]

theorem decodeFrame_unique {bytes' : List UInt8} {frame' : Frame} {limits' : ResourceLimits}
    (h : decodeFrame bytes limits = .ok frame) (h' : decodeFrame bytes' limits' = .ok frame')
    (hpre : bytes <+: bytes') : bytes = bytes' := by
  have hlen := decodeFrame_length h
  have hfront : bytes'.take frameHeaderBytes = bytes.take frameHeaderBytes := by
    obtain ⟨rest, rfl⟩ := hpre
    exact List.take_append_of_le_length (by omega)
  apply hpre.eq_of_length
  rw [hlen, decodeFrame_length h', ← headerAt_take bytes', hfront, headerAt_take]

/-- Encoding and decoding under one set of limits, each the inverse of the other. -/
structure MutuallyInverse (limits : ResourceLimits) : Prop where
  decode_encode : ∀ frame image, encodeFrame frame limits = .ok image →
    decodeFrame image limits = .ok {
      header := {
        magic := frameMagic
        protocolVersion := 1
        messageType := frame.header.messageType
        flags := frame.header.flags
        payloadBytes := UInt32.ofNat frame.payload.length
        headerCrc32c := crc32c (image.take 16)
        payloadCrc32c := crc32c frame.payload }
      payload := frame.payload }
  encode_decode : ∀ bytes frame, decodeFrame bytes limits = .ok frame →
    encodeFrame frame limits = .ok bytes
  damaged : ∀ frame image bytes, encodeFrame frame limits = .ok image →
    bytes <+: image ∨ image <+: bytes → bytes ≠ image → ∃ e, decodeFrame bytes limits = .error e

theorem decode_encoded (h : encodeFrame frame limits = .ok image) :
    decodeFrame image limits = .ok (withChecksums frame) := by
  obtain ⟨hadmitted, himage, -⟩ := encodeFrame_ok.mp h
  exact decodeFrame_ok.mpr ⟨admitted_withChecksums hadmitted, withChecksums_idem frame, himage⟩

theorem encode_decoded (h : decodeFrame bytes limits = .ok frame) :
    encodeFrame frame limits = .ok bytes ↔ bytes.length ≤ limits.maxFrameBytes.toNat := by
  obtain ⟨hadmitted, hsums, rfl⟩ := decodeFrame_ok.mp h
  rw [encodeFrame_ok, hsums]
  exact ⟨fun h => h.2.2, fun hsize => ⟨hadmitted, rfl, hsize⟩⟩

/-- A frame that carries a payload and nothing else of note. -/
def helloFrame (payload : List UInt8) : Frame :=
  { header := { protocolVersion := 1, messageType := 1 }, payload := payload }

theorem helloFrame_decodes {payload : List UInt8}
    (h : payload.length ≤ min limits.maxFramePayloadBytes.toNat limits.maxPayloadBytes.toNat) :
    decodeFrame (frameBytes (withChecksums (helloFrame payload))) limits =
      .ok (withChecksums (helloFrame payload)) := by
  have hadmitted : Admitted limits (helloFrame payload) :=
    ⟨rfl, rfl, rfl, payloadFits_iff.mpr h⟩
  exact decodeFrame_ok.mpr ⟨admitted_withChecksums hadmitted, withChecksums_idem _, rfl⟩

/-- The two directions agree exactly when the largest payload leaves room for the header. -/
theorem mutuallyInverse_iff (limits : ResourceLimits) :
    MutuallyInverse limits ↔
      frameHeaderBytes + min limits.maxFramePayloadBytes.toNat limits.maxPayloadBytes.toNat ≤
        limits.maxFrameBytes.toNat := by
  constructor
  · intro h
    let largest := min limits.maxFramePayloadBytes.toNat limits.maxPayloadBytes.toNat
    have hlen : (List.replicate largest (0 : UInt8)).length = largest := List.length_replicate
    have hdecode := helloFrame_decodes hlen.le
    have hsize := (encode_decoded hdecode).mp (h.encode_decode _ _ hdecode)
    have hpayload : (withChecksums (helloFrame (List.replicate largest 0))).payload.length =
      largest := hlen
    rwa [length_frameBytes, hpayload] at hsize
  · intro hroom
    constructor
    · intro frame image h
      obtain ⟨hadmitted, himage, -⟩ := encodeFrame_ok.mp h
      obtain ⟨-, -, hcrc⟩ := withChecksums_eq_iff.mp (withChecksums_idem frame)
      have hversion : frame.header.protocolVersion = 1 := by
        have h := congrArg UInt32.toNat hadmitted.version
        exact UInt16.toNat_inj.mp h
      have htake : image.take 16 = coveredBytes (withChecksums frame).header := by
        rw [← himage, frameBytes, take_putHeader]
      rw [decode_encoded h, htake, ← hcrc, ← hadmitted.magic, ← hversion]
      rfl
    · intro bytes frame h
      obtain ⟨hadmitted, -, hbytes⟩ := decodeFrame_ok.mp h
      have hle := payloadFits_iff.mp hadmitted.fits
      refine (encode_decoded h).mpr ?_
      rw [← hbytes, length_frameBytes]
      omega
    · intro frame image bytes h hpre hne
      cases hdecode : decodeFrame bytes limits with
      | error e => exact ⟨e, rfl⟩
      | ok other =>
          exfalso
          have himage := decode_encoded h
          rcases hpre with hpre | hpre
          · exact hne (decodeFrame_unique hdecode himage hpre)
          · exact hne (decodeFrame_unique himage hdecode hpre).symm

/-- Limits that are accepted though the largest payload leaves no room for the header. -/
def narrowLimits : ResourceLimits :=
  { maxFramePayloadBytes := 1, maxFrameBytes := 24 }

theorem narrowLimits_disagree :
    narrowLimits.validate = none ∧
      decodeFrame (frameBytes (withChecksums (helloFrame [0]))) narrowLimits =
        .ok (withChecksums (helloFrame [0])) ∧
      encodeFrame (withChecksums (helloFrame [0])) narrowLimits =
        .error "encoded frame exceeds the configured byte limit" := by
  decide +kernel

end ModelRouter.Framing
