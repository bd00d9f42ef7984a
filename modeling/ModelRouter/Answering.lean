import ModelRouter.Emission
import ModelRouter.Exchange
import ModelRouter.Numerals

namespace ModelRouter.Exchange

open Base Bytes Ids Limits Outcome Evidence Candidate Decision Frames Framing Messages Protocol
open Transport Coordinator Channel

/-- The limits leave room for every result of the worker. -/
structure Ample (setup : Setup) : Prop where
  texts : 35 ≤ setup.limits.maxStringBytes.toNat
  payloads : 62 ≤ min setup.limits.maxFramePayloadBytes.toNat setup.limits.maxPayloadBytes.toNat
  frames : 86 ≤ setup.limits.maxFrameBytes.toNat
  queue : 0 < (setup.maxSendQueueFrames .far).toNat

/-- Nobody has closed the connection, left its loop or displaced the link, and identities are
left. -/
structure InService (s : State) : Prop where
  opened : ∀ side, (s.channel.peer side).session.closed = false
  working : s.working = true
  registered : s.registered = true
  serving : s.serving = .receiving ∨ ∃ result, s.serving = .delivering result
  linked : s.link.closed = false
  issued : s.issued ≠ kCeiling

/-- The steps of threads that are in service, and of the connection. -/
def internal : Step → Bool
  | .collect _ | .serve | .work | .write _ _ | .read _ _ => true
  | _ => false

/-- A handoff that has returned with the answer of the worker. -/
def answered (latencyMicros : UInt32) (h : Handoff) : Handoff :=
  { h with stage := .returned (h.answer (execute latencyMicros h.message)) }

variable {setup : Setup} {s : State} {i : Nat} {h : Handoff}

theorem decimal_length {n : Nat} (hn : n < 10 ^ 20) : (decimal n).length ≤ 20 := by
  rw [Numerals.decimal_eq, List.length_map]
  exact (Nat.length_toDigits_le_iff (by omega) (by omega)).mpr hn

theorem detail_length (latencyMicros : UInt32) (message : DispatchMessage) :
    (execute latencyMicros message).detail.length ≤ 35 := by
  have hname : (text "synthetic-step=").length = 15 := by decide
  have hlt := (syntheticStep message.target message.attempt).toNat_lt
  have hnumber := decimal_length (Nat.lt_trans hlt (by decide))
  rw [execute, List.length_append, hname]
  omega

theorem result_sent (hample : Ample setup) {result : DispatchResultMessage}
    (hdetail : result.detail.length ≤ 35) :
    ∃ payload, encodeDispatchResult setup.limits result = .ok payload ∧
      Sendable setup.limits (makeFrame .dispatchResult payload) := by
  obtain ⟨htexts, hpayloads, hframes, -⟩ := hample
  have hfits : result.detail.length ≤ setup.limits.maxStringBytes.toNat := by omega
  have hsome : (putDispatchResult setup.limits result).isSome = true := by
    simp [putDispatchResult, Put.isSome_string.mpr hfits]
  obtain ⟨payload, hpayload⟩ := Option.isSome_iff_exists.mp hsome
  have hmeasures : Put.Measures (putDispatchResult setup.limits result)
      (27 + result.detail.length) := by
    apply Put.Measures.of_eq
    · iterate 5 apply Put.Measures.cons (.word _)
      exact .cons (.string _ _) .nil
    · simp only [Sizes.width_uint8, Sizes.width_uint16, Sizes.width_uint32, Sizes.width_entityId]
      omega
  have hlength := hmeasures payload hpayload
  refine ⟨payload, Carriage.encodeMessage_ok.mpr hpayload, ?_⟩
  rw [Sendable, Emission.makeFrame_encodes_iff setup.limits .dispatchResult (by decide)]
  rw [Nat.le_min] at hpayloads
  refine ⟨?_, ?_, ?_⟩
  · omega
  · omega
  · rw [hlength, frameHeaderBytes]
    omega

/-- A state that was reached and is in service. -/
structure Ready (setup : Setup) (s : State) : Prop where
  sane : s.Sane setup
  service : InService s

namespace Ready

theorem free (hr : Ready setup s) (side : Side) :
    (s.channel.peer side).session.mutex = .free :=
  hr.sane.traffic.free side

theorem advance (hr : Ready setup s) {more : List Step} {t : State}
    (ht : s.advance setup more = t) (hservice : InService t) : Ready setup t := by
  have hsane := hr.sane.advance more (ht ▸ hservice.issued)
  rw [ht] at hsane
  exact ⟨hsane, hservice⟩

end Ready

theorem receive_next {session : SessionState} {frame : Frame} {rest : List Frame}
    (hfree : session.mutex = .free) (hinbound : session.inbound = frame :: rest) :
    session.receive = some (frame, { session with inbound := rest }) := by
  cases session with
  | mk =>
      cases hfree
      cases hinbound
      rfl

theorem advance_append (s : State) (first second : List Step) :
    s.advance setup (first ++ second) = (s.advance setup first).advance setup second :=
  List.foldl_append ..

theorem advance_moves (setup : Setup) (s : State) {side : Side} {steps : List Channel.Step}
    (hsteps : ∀ st ∈ steps, Link.moves side st = true) :
    ∃ more, (∀ st ∈ more, internal st = true) ∧
      s.advance setup more = { s with channel := s.channel.advance steps } := by
  induction steps generalizing s with
  | nil => exact ⟨[], List.forall_mem_nil _, rfl⟩
  | cons st steps ih =>
      rw [List.forall_mem_cons] at hsteps
      obtain ⟨more, hmore, hadvance⟩ := ih (s.carry st) hsteps.2
      cases st with
      | send | receive | close => cases hsteps.1
      | write writer room =>
          exact ⟨.write writer room :: more, List.forall_mem_cons.mpr ⟨rfl, hmore⟩, hadvance⟩
      | read reader count =>
          exact ⟨.read reader count :: more, List.forall_mem_cons.mpr ⟨rfl, hmore⟩, hadvance⟩

namespace Ready

theorem drain (hr : Ready setup s) (side : Side) :
    ∃ more channel, (∀ st ∈ more, internal st = true) ∧
      s.advance setup more = { s with channel := channel } ∧
      Ready setup { s with channel := channel } ∧
      channel.accepted = s.channel.accepted ∧ channel.received = s.channel.received ∧
      (channel.peer side).session = (s.channel.peer side).session ∧
      (channel.peer side).pending = 0 ∧
      channel.delivered side.other = (s.channel.accepted side).map withChecksums := by
  obtain ⟨hopened, hworking, hregistered, hserving, hlinked, hissued⟩ := hr.service
  obtain ⟨steps, hsteps, haccepted, hreceived, hopened', hsession, hpending, hdelivered⟩ :=
    Link.drain (Traffic.room setup) hr.sane.traffic.sound hopened side
  obtain ⟨more, hmore, hadvance⟩ := advance_moves setup s hsteps
  exact ⟨more, s.channel.advance steps, hmore, hadvance,
    hr.advance hadvance ⟨hopened', hworking, hregistered, hserving, hlinked, hissued⟩,
    haccepted, hreceived, hsession, hpending, hdelivered⟩

theorem work (hr : Ready setup s) (hample : Ample setup)
    (hpending : (s.channel.peer .far).pending = 0) {frame : Frame} {rest : List Frame}
    (hinbound : (s.channel.peer .far).session.inbound = frame :: rest) :
    ∃ channel, s.advance setup [.work] = { s with channel := channel } ∧
      Ready setup { s with channel := channel } ∧
      channel.accepted .near = s.channel.accepted .near ∧
      channel.received .near = s.channel.received .near ∧
      (channel.peer .far).session.inbound = rest ∧
      channel.delivered .far = s.channel.delivered .far := by
  obtain ⟨hopened, hworking, hregistered, hserving, hlinked, hissued⟩ := hr.service
  have hreceive : (s.channel.peer .far).session.receive =
      some (frame, { (s.channel.peer .far).session with inbound := rest }) :=
    receive_next (hr.free .far) hinbound
  have hstep := Link.step_receive hreceive
  obtain ⟨message, htype, hdecode, hcome, -, -⟩ := hr.sane.traffic.come hreceive
  obtain ⟨payload, hpayload, hsendable⟩ :=
    result_sent hample (detail_length setup.latencyMicros message)
  let reader : Peer := { s.channel.peer .far with
    session := { (s.channel.peer .far).session with inbound := rest } }
  have hreader : (s.channel.step (.receive .far)).peer .far = reader := by
    rw [hstep]
    exact Function.update_self Side.far reader s.channel.peer
  have hlimits : reader.session.options.limits = setup.limits :=
    (hr.sane.traffic.sound.flows .far).sending
  have hbound : reader.maxSendQueueFrames = setup.maxSendQueueFrames .far :=
    hr.sane.traffic.sound.bound .far
  have hroom : reader.pending < reader.maxSendQueueFrames.toNat := by
    rw [hbound]
    exact hpending.trans_lt hample.queue
  have hsend := Peer.send_accepts (p := reader) (hlimits ▸ hsendable) (hopened .far) hroom
  rw [← hreader] at hsend
  have hwork : s.work setup =
      (s.carry (.receive .far)).carry (.send .far (makeFrame .dispatchResult payload)) := by
    rw [State.work, if_pos hworking, hreceive]
    dsimp only
    rw [State.workOn, htype, if_neg (by decide), if_neg (by decide), if_pos rfl, hdecode]
    dsimp only
    exact State.sendResult_ok hpayload hsend
  have hanswer := Link.step_send (hcome.free .far) hsend
  have hadvance : s.advance setup [.work] = { s with
      channel := (s.channel.step (.receive .far)).step
        (.send .far (makeFrame .dispatchResult payload)) } :=
    hwork
  refine ⟨_, hadvance, hr.advance hadvance
    ⟨?_, hworking, hregistered, hserving, hlinked, hissued⟩, ?_, ?_, ?_, ?_⟩
  · intro side
    dsimp only
    rw [hanswer, hreader]
    cases side with
    | near =>
        rw [hstep]
        exact hopened .near
    | far => exact hopened .far
  · rw [hanswer, hstep]
    rfl
  · rw [hanswer, hstep]
    rfl
  · rw [hanswer, hreader]
    rfl
  · rw [Link.delivered, Link.delivered, hinbound, hanswer, hreader, hstep]
    exact List.append_assoc ..

theorem work_all (hr : Ready setup s) (hample : Ample setup) :
    ∃ more channel, (∀ st ∈ more, internal st = true) ∧
      s.advance setup more = { s with channel := channel } ∧
      Ready setup { s with channel := channel } ∧
      channel.accepted .near = s.channel.accepted .near ∧
      channel.received .near = s.channel.received .near ∧
      (channel.peer .far).session.inbound = [] ∧
      channel.delivered .far = s.channel.delivered .far := by
  generalize hn : (s.channel.peer .far).session.inbound = inbound
  induction inbound generalizing s with
  | nil => exact ⟨[], s.channel, List.forall_mem_nil _, rfl, hr, rfl, rfl, hn, rfl⟩
  | cons frame rest ih =>
      obtain ⟨carries, channel, hcarries, hadvance, hr', haccepted, hreceived, hsession, hpending,
          -⟩ :=
        hr.drain .far
      have hinbound : (channel.peer .far).session.inbound = frame :: rest :=
        (congrArg SessionState.inbound hsession).trans hn
      obtain ⟨channel', hwork, hr'', haccepted', hreceived', hinbound', hdelivered'⟩ :=
        hr'.work hample hpending hinbound
      obtain ⟨more, last, hmore, hrest, hready, haccepted'', hreceived'', hnone, hdelivered''⟩ :=
        ih hr'' hinbound'
      have hsame : channel.delivered .far = s.channel.delivered .far := by
        rw [Link.delivered, Link.delivered, hreceived, hsession]
      refine ⟨carries ++ ([.work] ++ more), last, ?_, ?_, hready, ?_, ?_, hnone, ?_⟩
      · exact List.forall_mem_append.mpr ⟨hcarries, List.forall_mem_cons.mpr ⟨rfl, hmore⟩⟩
      · rw [advance_append, hadvance, advance_append, hwork]
        exact hrest
      · rw [haccepted'', haccepted', haccepted]
      · rw [hreceived'', hreceived', hreceived]
      · rw [hdelivered'', hdelivered', hsame]

theorem put_down (hr : Ready setup s) :
    ∃ more link, (∀ st ∈ more, internal st = true) ∧
      s.advance setup more = { s with link := link, serving := .receiving } ∧
      Ready setup { s with link := link, serving := .receiving } := by
  obtain ⟨hopened, hworking, hregistered, hserving, hlinked, hissued⟩ := hr.service
  rcases hserving with hreceiving | ⟨result, hdelivering⟩
  · have hsame : s = { s with link := s.link, serving := .receiving } := by rw [← hreceiving]
    exact ⟨[], s.link, List.forall_mem_nil _, hsame, hsame ▸ hr⟩
  · have hserve : s.advance setup [.serve] =
        { s with link := s.link.put result, serving := .receiving } := by
      change s.serve setup = _
      rw [State.serve, hdelivering]
    exact ⟨[.serve], s.link.put result, List.forall_mem_singleton.mpr rfl, hserve,
      hr.advance hserve ⟨hopened, hworking, hregistered, .inl rfl, hlinked, hissued⟩⟩

theorem pick_up (hr : Ready setup s) (hreceiving : s.serving = .receiving) {frame : Frame}
    {rest : List Frame} (hinbound : (s.channel.peer .near).session.inbound = frame :: rest) :
    ∃ channel result, s.advance setup [.serve] =
        { s with channel := channel, serving := .delivering result } ∧
      Ready setup { s with channel := channel, serving := .delivering result } ∧
      channel.accepted = s.channel.accepted ∧
      channel.received .far = s.channel.received .far ∧
      (channel.peer .near).session.inbound = rest ∧
      channel.delivered .near = s.channel.delivered .near := by
  obtain ⟨hopened, hworking, hregistered, -, hlinked, hissued⟩ := hr.service
  have hreceive := receive_next (hr.free .near) hinbound
  have hstep := Link.step_receive hreceive
  obtain ⟨result, -, hserve⟩ := State.serve_receive hr.sane hreceiving hreceive
  rw [if_pos hregistered] at hserve
  have hadvance : s.advance setup [.serve] =
      { s with channel := s.channel.step (.receive .near), serving := .delivering result } :=
    hserve
  refine ⟨_, result, hadvance, hr.advance hadvance
    ⟨?_, hworking, hregistered, .inr ⟨result, rfl⟩, hlinked, hissued⟩, ?_, ?_, ?_, ?_⟩
  · intro side
    dsimp only
    rw [hstep]
    cases side with
    | near => exact hopened .near
    | far => exact hopened .far
  · rw [hstep]
  · rw [hstep]
    rfl
  · rw [hstep]
    rfl
  · rw [Link.delivered, Link.delivered, hinbound, hstep]
    exact List.append_assoc ..

theorem serve_all (hr : Ready setup s) :
    ∃ more channel link, (∀ st ∈ more, internal st = true) ∧
      s.advance setup more =
        { s with channel := channel, link := link, serving := .receiving } ∧
      Ready setup { s with channel := channel, link := link, serving := .receiving } ∧
      channel.accepted = s.channel.accepted ∧
      channel.received .far = s.channel.received .far ∧
      (channel.peer .near).session.inbound = [] ∧
      channel.delivered .near = s.channel.delivered .near := by
  generalize hn : (s.channel.peer .near).session.inbound = inbound
  induction inbound generalizing s with
  | nil =>
      obtain ⟨more, link, hmore, hadvance, hready⟩ := hr.put_down
      exact ⟨more, s.channel, link, hmore, hadvance, hready, rfl, rfl, hn, rfl⟩
  | cons frame rest ih =>
      obtain ⟨first, link, hfirst, hadvance, hr'⟩ := hr.put_down
      obtain ⟨channel, result, hserve, hr'', haccepted, hreceived, hinbound, hdelivered⟩ :=
        hr'.pick_up rfl hn
      obtain ⟨more, last, link', hmore, hrest, hready, haccepted', hreceived', hnone,
          hdelivered'⟩ :=
        ih hr'' hinbound
      refine ⟨first ++ ([.serve] ++ more), last, link', ?_, ?_, hready, haccepted'.trans haccepted,
        hreceived'.trans hreceived, hnone, hdelivered'.trans hdelivered⟩
      · exact List.forall_mem_append.mpr ⟨hfirst, List.forall_mem_cons.mpr ⟨rfl, hmore⟩⟩
      · rw [advance_append, hadvance, advance_append, hserve]
        exact hrest

theorem collect (hr : Ready setup s) (hreceiving : s.serving = .receiving)
    (hdone : settled setup.limits s.channel =
      (asked setup.limits s.channel).map (execute setup.latencyMicros))
    (hi : s.handoffs[i]? = some h) (hwaiting : h.stage = .waiting) :
    ∃ link, s.advance setup [.collect i] =
        { s with link := link, handoffs := s.handoffs.set i (answered setup.latencyMicros h) } ∧
      Ready setup
        { s with link := link, handoffs := s.handoffs.set i (answered setup.latencyMicros h) } := by
  obtain ⟨hopened, hworking, hregistered, hserving, hlinked, hissued⟩ := hr.service
  have hh := List.mem_of_getElem? hi
  have hsettled : execute setup.latencyMicros h.message ∈ settled setup.limits s.channel := by
    rw [hdone]
    exact List.mem_map_of_mem (hr.sane.ledger.sent h hh hwaiting)
  have hheld := hr.sane.account.complete hregistered h hh hwaiting hsettled
  have hfound : s.link.results.find? h.id = some (execute setup.latencyMicros h.message) := by
    refine hheld.resolve_left fun hdelivering => ?_
    rw [hreceiving] at hdelivering
    cases hdelivering
  have hanswers : s.link.answers h.id = true := by
    rw [BackendLink.answers, OrderedMap.contains_iff.mpr ⟨_, hfound⟩, Bool.or_true]
  have hcollect : s.advance setup [.collect i] =
      { s with
        link := s.link.take h.id
        handoffs := s.handoffs.set i (answered setup.latencyMicros h) } := by
    change s.step setup (.collect i) = _
    rw [State.step.eq_def]
    dsimp only
    rw [hi]
    dsimp only
    rw [if_pos hwaiting, State.collect, if_pos hanswers, hfound]
    rfl
  exact ⟨s.link.take h.id, hcollect,
    hr.advance hcollect ⟨hopened, hworking, hregistered, hserving, hlinked, hissued⟩⟩

theorem collect_all (hr : Ready setup s) (hreceiving : s.serving = .receiving)
    (hdone : settled setup.limits s.channel =
      (asked setup.limits s.channel).map (execute setup.latencyMicros)) (n : Nat) :
    ∃ more link handoffs, (∀ st ∈ more, internal st = true) ∧
      s.advance setup more = { s with link := link, handoffs := handoffs } ∧
      Ready setup { s with link := link, handoffs := handoffs } ∧
      ∀ j, handoffs[j]? = (s.handoffs[j]?).map fun h =>
        if j < n ∧ h.stage = .waiting then answered setup.latencyMicros h else h := by
  induction n with
  | zero =>
      refine ⟨[], s.link, s.handoffs, List.forall_mem_nil _, rfl, hr, fun j => ?_⟩
      simp
  | succ n ih =>
      obtain ⟨more, link, handoffs, hmore, hadvance, hr', hhandoffs⟩ := ih
      have hnext (hnone : ∀ h, handoffs[n]? = some h → h.stage ≠ .waiting) (j : Nat) :
          handoffs[j]? = (s.handoffs[j]?).map fun h =>
            if j < n + 1 ∧ h.stage = .waiting then answered setup.latencyMicros h else h := by
        rw [hhandoffs j]
        refine Option.map_congr fun h hh => if_congr ?_ rfl rfl
        refine and_congr_left fun hwaiting => ⟨fun hlt => by omega, fun hlt => ?_⟩
        by_contra hge
        obtain rfl : j = n := by omega
        refine hnone h ?_ hwaiting
        rw [hhandoffs j, hh, Option.map_some, if_neg fun hboth => hge hboth.1]
      cases hn : handoffs[n]? with
      | none =>
          refine ⟨more, link, handoffs, hmore, hadvance, hr', hnext fun h hh => ?_⟩
          rw [hn] at hh
          cases hh
      | some h =>
          by_cases hwaiting : h.stage = .waiting
          · obtain ⟨link', hcollect, hready⟩ := hr'.collect hreceiving hdone hn hwaiting
            refine
              ⟨more ++ [.collect n], link', handoffs.set n (answered setup.latencyMicros h), ?_,
              ?_, hready, fun j => ?_⟩
            · exact List.forall_mem_append.mpr ⟨hmore, List.forall_mem_singleton.mpr rfl⟩
            · rw [advance_append, hadvance, hcollect]
            · have hself : s.handoffs[n]? = some h := by
                have hsame := hhandoffs n
                rw [hn] at hsame
                cases hold : s.handoffs[n]? with
                | none =>
                    rw [hold] at hsame
                    cases hsame
                | some k =>
                    rw [hold, Option.map_some, if_neg fun hboth => Nat.lt_irrefl n hboth.1] at hsame
                    exact hsame.symm
              obtain ⟨hlt, -⟩ := List.getElem?_eq_some_iff.mp hn
              rw [List.getElem?_set]
              split
              · rename_i hj
                subst hj
                rw [hself, Option.map_some, if_pos ⟨Nat.lt_succ_self _, hwaiting⟩]
              · rename_i hj
                rw [hhandoffs j]
                refine Option.map_congr fun k _ => if_congr ?_ rfl rfl
                exact and_congr_left fun _ => ⟨fun hlt => by omega, fun hlt => by omega⟩
          · refine ⟨more, link, handoffs, hmore, hadvance, hr', hnext fun k hk => ?_⟩
            rw [hn] at hk
            rw [← Option.some.inj hk]
            exact hwaiting

theorem answers (hr : Ready setup s) (hample : Ample setup) :
    ∃ more, (∀ st ∈ more, internal st = true) ∧
      ∀ j : Nat, (s.advance setup more).handoffs[j]? = (s.handoffs[j]?).map fun h =>
        if h.stage = .waiting then answered setup.latencyMicros h else h := by
  obtain ⟨carries, channel, hcarries, hadvance, hr', haccepted, -, -, -, hdelivered⟩ :=
    hr.drain .near
  obtain ⟨works, channel', hworks, hadvance', hr'', haccepted', -, hnone, hdelivered'⟩ :=
    hr'.work_all hample
  obtain ⟨returns, channel'', hreturns, hadvance'', hr₃, haccepted'', hreceived'', -, -,
    hdelivered''⟩ := hr''.drain .far
  obtain ⟨serves, last, link, hserves, hadvance₃, hr₄, haccepted₃, hreceived₃, hnone₃,
    hdelivered₃⟩ := hr₃.serve_all
  have hexecuted : executed setup.limits last = asked setup.limits last := by
    have hfar : channel'.received .far = (s.channel.accepted .near).map withChecksums := by
      rw [← List.append_nil (channel'.received .far), ← hnone]
      exact hdelivered'.trans hdelivered
    rw [executed, asked, hreceived₃, hreceived'', haccepted₃, haccepted'', haccepted', haccepted,
      hfar,
      List.filterMap_map]
    rfl
  have hsettled : settled setup.limits last = replied setup.limits last := by
    have hnear : last.received .near = (channel'.accepted .far).map withChecksums := by
      rw [← List.append_nil (last.received .near), ← hnone₃]
      exact hdelivered₃.trans hdelivered''
    rw [settled, replied, haccepted₃, haccepted'', hnear, List.filterMap_map]
    rfl
  have hdone : settled setup.limits last =
      (asked setup.limits last).map (execute setup.latencyMicros) := by
    rw [hsettled, ← hexecuted]
    exact hr₄.sane.traffic.busy hr₄.service.working
  obtain ⟨collects, link', handoffs, hcollects, hadvance₄, -, hhandoffs⟩ :=
    hr₄.collect_all rfl hdone s.handoffs.length
  refine ⟨carries ++ (works ++ (returns ++ (serves ++ collects))), ?_, fun j => ?_⟩
  · simp only [List.forall_mem_append]
    exact ⟨hcarries, hworks, hreturns, hserves, hcollects⟩
  · rw [advance_append, hadvance, advance_append, hadvance', advance_append, hadvance'',
      advance_append, hadvance₃, hadvance₄]
    refine (hhandoffs j).trans (Option.map_congr fun h hh => if_congr ?_ rfl rfl)
    exact and_iff_right (List.getElem?_eq_some_iff.mp hh).1

end Ready

namespace State

end State

end ModelRouter.Exchange
