import Mathlib.Data.List.Induction
import ModelRouter.Framing
import ModelRouter.Transport

namespace ModelRouter.Delivery

open Base Bytes Limits Frames Framing Transport

variable {limits : ResourceLimits} {bytes stream rest rest' more : List UInt8}
variable {frame : Frame} {frames frames' : List Frame} {s : SessionState}

/-- The longest run of valid frames at the front of a stream, and what is left. -/
structure Longest (limits : ResourceLimits) (stream : List UInt8) (frames : List Frame)
    (rest : List UInt8) : Prop where
  split : frames.flatMap frameBytes ++ rest = stream
  valid : ∀ frame ∈ frames, decodeFrame (frameBytes frame) limits = .ok frame
  maximal : ∀ bytes frame, bytes <+: rest → decodeFrame bytes limits ≠ .ok frame

/-- A whole header that is refused, or a whole frame that is. -/
def Malformed (limits : ResourceLimits) (rest : List UInt8) : Prop :=
  frameHeaderBytes ≤ rest.length ∧
    ((∃ error, decodeHeader rest limits = .error error) ∨
      ∃ header error, decodeHeader rest limits = .ok header ∧
        frameHeaderBytes + header.payloadBytes.toNat ≤ rest.length ∧
        decodeFrame (rest.take (frameHeaderBytes + header.payloadBytes.toNat)) limits =
          .error error)

/-- The front of a frame that may still become valid. -/
def Waiting (limits : ResourceLimits) (rest : List UInt8) : Prop :=
  rest.length < frameHeaderBytes ∨
    ∃ header, decodeHeader rest limits = .ok header ∧
      rest.length < frameHeaderBytes + header.payloadBytes.toNat

theorem Waiting.not_malformed (h : Waiting limits rest) : ¬Malformed limits rest := by
  rintro ⟨hlen, hbad⟩
  rcases h with hshort | ⟨header, hheader, hshort⟩
  · omega
  · rcases hbad with ⟨error, herror⟩ | ⟨header', error, hheader', hlen', -⟩
    · rw [hheader] at herror
      cases herror
    · rw [hheader] at hheader'
      obtain rfl := Except.ok.inj hheader'
      omega

theorem decodeHeader_extend (h : frameHeaderBytes ≤ rest.length) (more : List UInt8) :
    decodeHeader (rest ++ more) limits = decodeHeader rest limits := by
  have htake := @decodeHeader_take limits (rest ++ more) rest.length h
  rwa [List.take_left', eq_comm] at htake
  rfl

theorem Malformed.extend (h : Malformed limits rest) (more : List UInt8) :
    Malformed limits (rest ++ more) := by
  obtain ⟨hlen, hbad⟩ := h
  have hle : rest.length ≤ (rest ++ more).length := by
    rw [List.length_append]
    omega
  refine ⟨by omega, ?_⟩
  rw [decodeHeader_extend hlen]
  refine hbad.imp id fun ⟨header, error, hheader, hlen', herror⟩ => ?_
  refine ⟨header, error, hheader, by omega, ?_⟩
  rw [List.take_append_of_le_length hlen']
  exact herror

theorem decodeFrame_front (hpre : bytes <+: rest) (h : decodeFrame bytes limits = .ok frame) :
    frameHeaderBytes ≤ rest.length ∧ ∃ header, decodeHeader rest limits = .ok header ∧
      bytes.length = frameHeaderBytes + header.payloadBytes.toNat := by
  have hlength := decodeFrame_length h
  simp only [decodeFrame, bind_ok] at h
  obtain ⟨header, hheader, -⟩ := h
  obtain ⟨hlen, hfields, -⟩ := decodeHeader_ok.mp hheader
  obtain ⟨more, rfl⟩ := hpre
  refine ⟨by rw [List.length_append]; omega, header, ?_, ?_⟩
  · rw [decodeHeader_extend hlen]
    exact hheader
  · rw [hlength, hfields]

theorem Waiting.maximal (h : Waiting limits rest) (bytes : List UInt8) (frame : Frame)
    (hpre : bytes <+: rest) : decodeFrame bytes limits ≠ .ok frame := by
  intro hdecode
  obtain ⟨hlen, header, hheader, hlength⟩ := decodeFrame_front hpre hdecode
  have hle := hpre.length_le
  rcases h with hshort | ⟨header', hheader', hshort⟩
  · omega
  · rw [hheader] at hheader'
    obtain rfl := Except.ok.inj hheader'
    omega

theorem Malformed.maximal (h : Malformed limits rest) (bytes : List UInt8) (frame : Frame)
    (hpre : bytes <+: rest) : decodeFrame bytes limits ≠ .ok frame := by
  intro hdecode
  obtain ⟨hlen, header, hheader, hlength⟩ := decodeFrame_front hpre hdecode
  rcases h.2 with ⟨error, herror⟩ | ⟨header', error, hheader', -, herror⟩
  · rw [hheader] at herror
    cases herror
  · rw [hheader] at hheader'
    obtain rfl := Except.ok.inj hheader'
    obtain ⟨more, rfl⟩ := hpre
    rw [← hlength, List.take_left' rfl, hdecode] at herror
    cases herror

theorem Longest.unique (h : Longest limits stream frames rest)
    (h' : Longest limits stream frames' rest') : frames = frames' ∧ rest = rest' := by
  have hclash {frame : Frame} {frames : List Frame} {rest rest' : List UInt8}
      (hsplit : (frame :: frames).flatMap frameBytes ++ rest = rest')
      (hvalid : decodeFrame (frameBytes frame) limits = .ok frame)
      (hmaximal : ∀ bytes frame, bytes <+: rest' → decodeFrame bytes limits ≠ .ok frame) :
      False := by
    refine hmaximal (frameBytes frame) frame ⟨frames.flatMap frameBytes ++ rest, ?_⟩ hvalid
    rw [← hsplit, List.flatMap_cons, List.append_assoc]
  induction frames generalizing stream frames' with
  | nil =>
      cases frames' with
      | nil => exact ⟨rfl, h.split.trans h'.split.symm⟩
      | cons frame' frames' =>
          exact (hclash (h'.split.trans h.split.symm) (h'.valid _ List.mem_cons_self)
            h.maximal).elim
  | cons frame frames ih =>
      cases frames' with
      | nil =>
          exact (hclash (h.split.trans h'.split.symm) (h.valid _ List.mem_cons_self)
            h'.maximal).elim
      | cons frame' frames' =>
          have hvalid := h.valid _ List.mem_cons_self
          have hvalid' := h'.valid _ List.mem_cons_self
          have hsplit := h.split.trans h'.split.symm
          simp only [List.flatMap_cons, List.append_assoc] at hsplit
          have hbytes : frameBytes frame = frameBytes frame' := by
            rcases List.prefix_or_prefix_of_prefix (List.prefix_append _ _)
              (hsplit ▸ List.prefix_append _ _) with hpre | hpre
            · exact (decodeFrame_unique hvalid' hvalid hpre).symm
            · exact decodeFrame_unique hvalid hvalid' hpre
          have hframe : frame = frame' := by
            rw [hbytes, hvalid'] at hvalid
            exact (Except.ok.inj hvalid).symm
          rw [hbytes, List.append_cancel_left_eq] at hsplit
          obtain ⟨hframes, hrest⟩ := ih
            ⟨hsplit, fun f hf => h.valid f (List.mem_cons_of_mem _ hf), h.maximal⟩
            ⟨rfl, fun f hf => h'.valid f (List.mem_cons_of_mem _ hf), h'.maximal⟩
          rw [hframe, hframes]
          exact ⟨rfl, hrest⟩

theorem acquire_of_free (h : s.mutex = .free) : s.acquire = { s with mutex := .held } := by
  rw [SessionState.acquire, if_pos h]

theorem closeMalformed_of_held (error : Text) (h : s.mutex = .held) :
    s.closeMalformed error = { s with mutex := .reacquired } := by
  simp [SessionState.closeMalformed, SessionState.setError, SessionState.acquire, h]

theorem decodeNext_cases (hfree : s.mutex = .free) :
    (Waiting s.options.limits s.receiveBuffer ∧ s.decodeNext = (s, false)) ∨
    (Malformed s.options.limits s.receiveBuffer ∧
      s.decodeNext = ({ s with mutex := .reacquired }, false)) ∨
    ∃ frame rest, decodeFrame (frameBytes frame) s.options.limits = .ok frame ∧
      frameBytes frame ++ rest = s.receiveBuffer ∧
      s.decodeNext = ({ s with
        receiveBuffer := rest
        inbound := s.inbound ++ [frame]
        framesReceived := s.framesReceived + 1 }, true) := by
  have hback : { s with mutex := .held }.release = s := by
    cases s
    cases hfree
    rfl
  have hstuck (error : Text) : { s with mutex := .held }.closeMalformed error =
      { s with mutex := .reacquired } := closeMalformed_of_held error rfl
  by_cases hlen : s.receiveBuffer.length < frameHeaderBytes
  · refine .inl ⟨.inl hlen, ?_⟩
    simp only [SessionState.decodeNext, acquire_of_free hfree, if_pos hlen, hback]
  have hlong := Nat.le_of_not_lt hlen
  have htake := @decodeHeader_take s.options.limits s.receiveBuffer _ le_rfl
  cases hheader : decodeHeader s.receiveBuffer s.options.limits with
  | error error =>
      refine .inr (.inl ⟨⟨hlong, .inl ⟨error, hheader⟩⟩, ?_⟩)
      simp only [SessionState.decodeNext, acquire_of_free hfree, if_neg hlen, htake, hheader,
        hstuck]
  | ok header =>
      by_cases htotal : s.receiveBuffer.length < frameHeaderBytes + header.payloadBytes.toNat
      · refine .inl ⟨.inr ⟨header, hheader, htotal⟩, ?_⟩
        simp only [SessionState.decodeNext, acquire_of_free hfree, if_neg hlen, htake, hheader,
          if_pos htotal, hback]
      have hwhole := Nat.le_of_not_lt htotal
      cases hframe : decodeFrame
          (s.receiveBuffer.take (frameHeaderBytes + header.payloadBytes.toNat)) s.options.limits with
      | error error =>
          refine .inr (.inl ⟨⟨hlong, .inr ⟨header, error, hheader, hwhole, hframe⟩⟩, ?_⟩)
          simp only [SessionState.decodeNext, acquire_of_free hfree, if_neg hlen, htake, hheader,
            if_neg htotal, hframe, hstuck]
      | ok frame =>
          have hbytes := (decodeFrame_ok.mp hframe).2.2
          refine .inr (.inr ⟨frame, _, by rw [hbytes]; exact hframe,
            by rw [hbytes]; exact List.take_append_drop _ _, ?_⟩)
          simp only [SessionState.decodeNext, acquire_of_free hfree, if_neg hlen, htake, hheader,
            if_neg htotal, hframe, SessionState.release]
          rw [← hfree]

theorem decodeFrames_spec {fuel : Nat} (hfuel : s.receiveBuffer.length < fuel)
    (hfree : s.mutex = .free) :
    ∃ frames rest received, frames.flatMap frameBytes ++ rest = s.receiveBuffer ∧
      (∀ frame ∈ frames, decodeFrame (frameBytes frame) s.options.limits = .ok frame) ∧
      ((Waiting s.options.limits rest ∧ s.decodeFrames fuel = { s with
          receiveBuffer := rest, inbound := s.inbound ++ frames, framesReceived := received }) ∨
        (Malformed s.options.limits rest ∧ s.decodeFrames fuel = { s with
          mutex := .reacquired, receiveBuffer := rest, inbound := s.inbound ++ frames
          framesReceived := received })) := by
  induction fuel generalizing s with
  | zero => omega
  | succ fuel ih =>
      rw [SessionState.decodeFrames]
      rcases decodeNext_cases hfree with ⟨hwaiting, hnext⟩ | ⟨hbad, hnext⟩ |
        ⟨frame, rest, hvalid, hsplit, hnext⟩
      · refine ⟨[], s.receiveBuffer, s.framesReceived, rfl, nofun, .inl ⟨hwaiting, ?_⟩⟩
        rw [hnext, List.append_nil]
      · refine ⟨[], s.receiveBuffer, s.framesReceived, rfl, nofun, .inr ⟨hbad, ?_⟩⟩
        rw [hnext, List.append_nil]
      · have hlen := congrArg List.length hsplit
        rw [List.length_append, length_frameBytes, frameHeaderBytes] at hlen
        rw [hnext]
        obtain ⟨frames, rest', received, hsplit', hvalid', hend⟩ :=
          @ih { s with receiveBuffer := rest, inbound := s.inbound ++ [frame],
                       framesReceived := s.framesReceived + 1 }
            (show rest.length < fuel by omega) hfree
        refine ⟨frame :: frames, rest', received, ?_, List.forall_mem_cons.mpr ⟨hvalid, hvalid'⟩, ?_⟩
        · rw [List.flatMap_cons, List.append_assoc, hsplit', hsplit]
        · simpa only [List.append_assoc, List.cons_append, List.nil_append] using hend

/-- The bytes that have come in. -/
def inboundBytes (events : List Event) : List UInt8 :=
  events.flatMap fun
    | .chunk bytes => bytes
    | .receive => []

/-- The frames the reader has taken. -/
def taken (events : List Event) : Nat :=
  events.count .receive

/-- Where a connection is between two turns of its loop. -/
structure Settled (options : TransportOptions) (stream : List UInt8) (c : Connection) : Prop where
  options_eq : c.session.options = options
  opened : c.session.closed = false
  valid : ∀ frame ∈ c.received ++ c.session.inbound,
    decodeFrame (frameBytes frame) options.limits = .ok frame
  left : ∃ rest, (c.received ++ c.session.inbound).flatMap frameBytes ++ rest = stream ∧
    ((Waiting options.limits rest ∧ c.session.mutex = .free ∧ c.session.receiveBuffer = rest) ∨
      (Malformed options.limits rest ∧ c.session.mutex = .reacquired))

variable {options : TransportOptions} {events : List Event} {c c' : Connection}

theorem Settled.longest (h : Settled options stream c) :
    ∃ rest, Longest options.limits stream (c.received ++ c.session.inbound) rest ∧
      ((Waiting options.limits rest ∧ c.session.mutex = .free) ∨
        (Malformed options.limits rest ∧ c.session.mutex = .reacquired)) := by
  obtain ⟨rest, hsplit, hend⟩ := h.left
  rcases hend with ⟨hwaiting, hfree, -⟩ | ⟨hbad, hstuck⟩
  · exact ⟨rest, ⟨hsplit, h.valid, hwaiting.maximal⟩, .inl ⟨hwaiting, hfree⟩⟩
  · exact ⟨rest, ⟨hsplit, h.valid, hbad.maximal⟩, .inr ⟨hbad, hstuck⟩⟩

theorem settled_chunk (h : Settled options stream c) (bytes : List UInt8) :
    Settled options (stream ++ bytes) { c with session := c.session.turn bytes } := by
  obtain ⟨session, received⟩ := c
  obtain ⟨hoptions, hopened, hvalid, rest, hsplit, hend⟩ := h
  rcases hend with ⟨hwaiting, hfree, hbuffer⟩ | ⟨hbad, hstuck⟩
  · dsimp only at hoptions hopened hvalid hsplit hfree hbuffer ⊢
    let s := session.receiveBytes bytes
    have hsession : s.options = session.options ∧ s.mutex = .free ∧ s.closed = session.closed ∧
        s.inbound = session.inbound ∧ s.receiveBuffer = session.receiveBuffer ++ bytes :=
      ⟨rfl, rfl, rfl, rfl, rfl⟩
    obtain ⟨hsOptions, hsFree, hsClosed, hsInbound, hsBuffer⟩ := hsession
    have hturn : session.turn bytes = s.decodeFrames (s.receiveBuffer.length + 1) := by
      simp only [SessionState.turn, hopened, hfree]
      rfl
    obtain ⟨frames, rest', count, hframes, hvalid', hloop⟩ :=
      decodeFrames_spec (Nat.lt_succ_self s.receiveBuffer.length) hsFree
    rw [hsOptions, hoptions] at hvalid' hloop
    have hstream : (received ++ (session.inbound ++ frames)).flatMap frameBytes ++ rest' =
        stream ++ bytes := by
      rw [← hsplit, ← List.append_assoc, List.flatMap_append, List.append_assoc, hframes, hsBuffer,
        hbuffer, List.append_assoc]
    have hall : ∀ frame ∈ received ++ (session.inbound ++ frames),
        decodeFrame (frameBytes frame) options.limits = .ok frame := by
      rw [← List.append_assoc]
      exact List.forall_mem_append.mpr ⟨hvalid, hvalid'⟩
    rw [hturn]
    rcases hloop with ⟨hwaiting', hloop⟩ | ⟨hbad', hloop⟩
    · rw [hloop]
      exact ⟨rfl, hopened, hall, rest', hstream, .inl ⟨hwaiting', hsFree, rfl⟩⟩
    · rw [hloop]
      exact ⟨rfl, hopened, hall, rest', hstream, .inr ⟨hbad', rfl⟩⟩
  · dsimp only at hoptions hopened hvalid hsplit hstuck ⊢
    have hturn : session.turn bytes = session := by
      simp only [SessionState.turn, hopened, hstuck]
      rfl
    rw [hturn]
    refine ⟨hoptions, hopened, hvalid, rest ++ bytes, ?_, .inr ⟨hbad.extend bytes, hstuck⟩⟩
    rw [← List.append_assoc, hsplit]

theorem settled_receive (h : Settled options stream c) (hstep : c.step .receive = some c') :
    Settled options stream c' ∧ c'.received.length = c.received.length + 1 := by
  obtain ⟨⟨frame, session⟩, htaken, rfl⟩ := Option.map_eq_some_iff.mp hstep
  rw [SessionState.receive.eq_def] at htaken
  split at htaken
  · rename_i frame' inbound hfree hinbound
    obtain ⟨rfl, rfl⟩ := Prod.mk.inj (Option.some.inj htaken)
    obtain ⟨hoptions, hopened, hvalid, hleft⟩ := h
    rw [hinbound] at hvalid hleft
    refine ⟨⟨hoptions, hopened, ?_, ?_⟩, List.length_append⟩
    · simpa only [List.append_assoc, List.cons_append, List.nil_append] using hvalid
    · simpa only [List.append_assoc, List.cons_append, List.nil_append] using hleft
  · cases htaken

theorem run_settled (h : run options events = some c) :
    Settled options (inboundBytes events) c ∧ c.received.length = taken events := by
  induction events using List.reverseRecOn generalizing c with
  | nil =>
      obtain rfl := Option.some.inj h
      exact ⟨⟨rfl, rfl, nofun, [], rfl, .inl ⟨.inl (by decide), rfl, rfl⟩⟩, rfl⟩
  | append_singleton events event ih =>
      rw [run, List.foldlM_append, Option.bind_eq_bind, Option.bind_eq_some_iff] at h
      obtain ⟨before, hbefore, hlast⟩ := h
      obtain ⟨hsettled, hcount⟩ := ih hbefore
      rw [List.foldlM_cons, Option.bind_eq_bind, Option.bind_eq_some_iff] at hlast
      obtain ⟨_, hstep, hlast⟩ := hlast
      obtain rfl := Option.some.inj hlast
      rw [inboundBytes, List.flatMap_append, taken, List.count_append]
      cases event with
      | chunk bytes =>
          obtain rfl := Option.some.inj hstep
          rw [List.flatMap_singleton]
          exact ⟨settled_chunk hsettled bytes, hcount⟩
      | receive =>
          obtain ⟨hnext, hone⟩ := settled_receive hsettled hstep
          rw [List.flatMap_singleton, List.append_nil]
          exact ⟨hnext, by rw [hone, hcount]; rfl⟩

/-- What a session owes its reader and its peer. -/
structure Sound (options : TransportOptions) (events : List Event) (c : Connection) : Prop where
  delivered : ∃ rest, Longest options.limits (inboundBytes events)
    (c.received ++ c.session.inbound) rest
  closes : ∀ frames rest, Longest options.limits (inboundBytes events) frames rest →
    Malformed options.limits rest →
    c.session.closed = true ∧ c.session.reason = .protocolError
  mutex : c.session.mutex ≠ .reacquired
  bounded : ∀ before u, before <+: events → run options before = some u →
    u.session.inbound.length ≤ options.maxReceiveQueueFrames.toNat

/-- A session is sound exactly where its stream holds no malformed frame and never more frames than
the reader and the bound of the queue account for. -/
theorem sound_iff (h : run options events = some c) :
    Sound options events c ↔
      (∃ frames rest, Longest options.limits (inboundBytes events) frames rest ∧
        ¬Malformed options.limits rest) ∧
      ∀ before frames rest, before <+: events →
        Longest options.limits (inboundBytes before) frames rest →
        frames.length ≤ options.maxReceiveQueueFrames.toNat + taken before := by
  obtain ⟨rest, hlongest, hend⟩ := (run_settled h).1.longest
  constructor
  · intro hsound
    constructor
    · rcases hend with ⟨hwaiting, -⟩ | ⟨-, hstuck⟩
      · exact ⟨_, rest, hlongest, hwaiting.not_malformed⟩
      · exact absurd hstuck hsound.mutex
    · intro before frames rest hpre hframes
      obtain ⟨u, hu⟩ : ∃ u, run options before = some u := by
        obtain ⟨after, rfl⟩ := hpre
        rw [run, List.foldlM_append, Option.bind_eq_bind, Option.bind_eq_some_iff] at h
        exact h.imp fun u hu => hu.1
      obtain ⟨hsettled, hcount⟩ := run_settled hu
      obtain ⟨rest', hlongest', -⟩ := hsettled.longest
      rw [(hframes.unique hlongest').1, List.length_append, hcount, Nat.add_comm]
      exact Nat.add_le_add_right (hsound.bounded before u hpre hu) _
  · rintro ⟨⟨frames, rest', hlongest', hfine⟩, hbound⟩
    obtain ⟨-, rfl⟩ := hlongest.unique hlongest'
    have hopen : c.session.mutex = .free := by
      rcases hend with ⟨-, hfree⟩ | ⟨hbad, -⟩
      · exact hfree
      · exact absurd hbad hfine
    constructor
    · exact ⟨rest, hlongest⟩
    · intro frames' rest' hother hbad
      rw [← (hlongest.unique hother).2] at hbad
      exact absurd hbad hfine
    · rw [hopen]
      exact nofun
    · intro before u hpre hu
      obtain ⟨hsettled, hcount⟩ := run_settled hu
      obtain ⟨rest', hbefore, -⟩ := hsettled.longest
      have hle := hbound before _ _ hpre hbefore
      rw [List.length_append, hcount] at hle
      omega

/-- A frame that comes in two pieces and is then taken. -/
def splitHello : List Event :=
  let bytes := frameBytes (withChecksums (helloFrame [1, 2, 3]))
  [.chunk (bytes.take 10), .chunk (bytes.drop 10), .receive]

theorem splitHello_sound_iff :
    ∃ c, run {} splitHello = some c ∧ c.received = [withChecksums (helloFrame [1, 2, 3])] ∧
      (Sound {} splitHello c ↔
        (∃ frames rest, Longest {} (inboundBytes splitHello) frames rest ∧ ¬Malformed {} rest) ∧
        ∀ before frames rest, before <+: splitHello →
          Longest {} (inboundBytes before) frames rest →
          frames.length ≤ (4096 : UInt32).toNat + taken before) := by
  have hrun : ((run {} splitHello).map Connection.received) =
      some [withChecksums (helloFrame [1, 2, 3])] := by
    decide +kernel
  obtain ⟨c, hc, hreceived⟩ := Option.map_eq_some_iff.mp hrun
  exact ⟨c, hc, hreceived, sound_iff hc⟩

/-- Bytes that are no frame make the loop wait for its own mutex, and two frames overfill a queue
bounded by one. -/
theorem malformed_stuck :
    (∃ c, run {} [.chunk (List.replicate 24 0)] = some c ∧ c.session.mutex = .reacquired ∧
      c.session.closed = false) ∧
    ∃ c, run { maxReceiveQueueFrames := 1 }
        [.chunk (frameBytes (withChecksums (helloFrame []))),
          .chunk (frameBytes (withChecksums (helloFrame [])))] = some c ∧
      c.session.inbound.length = 2 := by
  exact ⟨⟨_, rfl, by decide +kernel, by decide +kernel⟩, _, rfl, by decide +kernel⟩

end ModelRouter.Delivery
