import ModelRouter.Coordinator
import ModelRouter.Run

namespace ModelRouter.Sessions

open Base Bytes Ids Outcome Evidence Catalog State Commit Providers Section Coordinator

variable {options : ModelRouterOptions} {s : Coordinator.State}

/-- The coordinator `start` leaves behind, over whatever router it started. -/
def launched (router : World) : Coordinator.State where
  router := router

/-- The sessions that are being served. -/
def served (s : Coordinator.State) : Nat :=
  s.sessions.countP fun session => !session.stage.isEnded

def held (s : Coordinator.State) : Nat :=
  s.connections.countP Connection.counted

/-- A connection is closed for lack of capacity, by the listener or by the accept thread. -/
def Refuses (options : ModelRouterOptions) (s : Coordinator.State) : Move → Prop
  | .accept (some _) =>
    s.loop = .accepting ∧ (s.full options = true ∨
      options.limits.maxSessionThreads.toNat ≤ s.threads.length)
  | _ => False

/-- A connection arrives after the limit of sessions was accepted, and one of them has ended. -/
def ArrivesLate (options : ModelRouterOptions) (s : Coordinator.State) : Move → Prop
  | .accept (some _) =>
    s.loop = .accepting ∧ options.limits.maxSessionThreads.toNat ≤ s.sessions.length ∧
      ∃ session ∈ s.sessions, session.stage.isEnded = true
  | _ => False

/-- A connection arrives before the limit of sessions was accepted, while as many connections of
theirs are held as the listener counts up to. -/
def ArrivesCrowded (options : ModelRouterOptions) (s : Coordinator.State) : Move → Prop
  | .accept (some _) =>
    s.loop = .accepting ∧ s.sessions.length < options.limits.maxSessionThreads.toNat ∧
      options.limits.maxConnections.toNat ≤ held s
  | _ => False

/-- While connections are accepted `sessions_` counts every session that ever was, and the counter
of the listener, until `sessions_` is full, the connections that are held. -/
structure Counted (options : ModelRouterOptions) (s : Coordinator.State) : Prop where
  joined : ∀ l, s.stop = .waking l → s.loop = .ended
  threads : s.loop ≠ .ended → s.threads.length = s.sessions.length
  limit : s.sessions.length ≤ options.limits.maxSessionThreads.toNat
  active : s.sessions.length < options.limits.maxSessionThreads.toNat → s.active = held s

/-- What the accept thread and `stop` go by. -/
structure SameCount (s t : Coordinator.State) : Prop where
  stop : t.stop = s.stop
  loop : t.loop = s.loop
  threads : t.threads = s.threads
  sessions : t.sessions.length = s.sessions.length
  active : s.active = held s → t.active = held t

theorem SameCount.counted {t : Coordinator.State} (h : SameCount s t) (hs : Counted options s) :
    Counted options t where
  joined l hl := by
    rw [h.loop]
    exact hs.joined l (h.stop ▸ hl)
  threads hloop := by
    rw [h.threads, h.sessions]
    exact hs.threads (h.loop ▸ hloop)
  limit := by
    rw [h.sessions]
    exact hs.limit
  active hroom := h.active (hs.active (h.sessions ▸ hroom))

theorem sameCount_rfl (s : Coordinator.State) : SameCount s s :=
  ⟨rfl, rfl, rfl, rfl, id⟩

theorem sameCount_onSession {t : Coordinator.State} (h : SameCount s t) (c : SessionId)
    (f : Session → Session) : SameCount s (t.onSession c f) := by
  refine ⟨h.stop, h.loop, h.threads, ?_, h.active⟩
  rw [Coordinator.State.onSession, List.length_modify, h.sessions]

theorem sameCount_enter {t : Coordinator.State} (h : SameCount s t) (c : SessionId)
    (stage : Stage) : SameCount s (t.enter c stage) :=
  sameCount_onSession h c _

theorem sameCount_onRouter (s : Coordinator.State) (k : Act) : SameCount s (s.onRouter k) :=
  ⟨rfl, rfl, rfl, rfl, id⟩

theorem sameCount_edit (s : Coordinator.State) (l : LinkId) (f : BackendLink → BackendLink) :
    SameCount s (s.edit l f) :=
  ⟨rfl, rfl, rfl, rfl, id⟩

theorem sameCount_hangUp (s : Coordinator.State) (c : SessionId) : SameCount s (s.hangUp c) := by
  rw [Coordinator.State.hangUp]
  split
  · rename_i hopen
    refine ⟨rfl, rfl, rfl, rfl, fun hactive => ?_⟩
    obtain ⟨hc, hconnection⟩ := List.getElem?_eq_some_iff.mp hopen
    change s.active - 1 = (s.connections.set c .closed).countP Connection.counted
    rw [List.countP_set hc, hconnection, hactive, held]
    rfl
  · exact sameCount_rfl s

theorem sameCount_giveUp (s : Coordinator.State) (c : SessionId) : SameCount s (s.giveUp c) := by
  rw [Coordinator.State.giveUp]
  split
  · rename_i hopen
    refine ⟨rfl, rfl, rfl, rfl, fun hactive => ?_⟩
    obtain ⟨hc, hconnection⟩ := List.getElem?_eq_some_iff.mp hopen
    have hheld : 0 < s.connections.countP Connection.counted := by
      refine List.countP_pos_iff.mpr ⟨_, List.getElem_mem hc, ?_⟩
      rw [hconnection]
      rfl
    change s.active = (s.connections.set c .broken).countP Connection.counted
    rw [List.countP_set hc, hconnection, hactive]
    exact (Nat.sub_add_cancel hheld).symm
  · exact sameCount_rfl s

theorem sameCount_closeLink (s : Coordinator.State) (l : LinkId) : SameCount s (s.closeLink l) := by
  rw [Coordinator.State.closeLink]
  split
  · rename_i link _
    have h := sameCount_hangUp s link.connection
    exact ⟨h.stop, h.loop, h.threads, h.sessions, h.active⟩
  · exact sameCount_rfl s

theorem sameCount_install (s : Coordinator.State) (c : SessionId) (backend : BackendDescriptor) :
    SameCount s (s.install c backend) :=
  ⟨rfl, rfl, rfl, rfl, id⟩

theorem sameCount_eraseLink (s : Coordinator.State) (l : LinkId) : SameCount s (s.eraseLink l) := by
  rw [Coordinator.State.eraseLink]
  split
  · exact ⟨rfl, rfl, rfl, rfl, id⟩
  · exact sameCount_rfl s

theorem sameCount_fenceLink (s : Coordinator.State) (l : LinkId) (e : Env) :
    SameCount s (s.fenceLink l e) := by
  rw [Coordinator.State.fenceLink]
  split
  · exact sameCount_onRouter s _
  · exact sameCount_rfl s

theorem handleFrame_sameCount (c : SessionId) (inbound : Inbound) :
    SameCount s (s.handleFrame options c inbound) := by
  cases inbound with
  | dispatchResult message =>
      rw [Coordinator.State.handleFrame.eq_def]
      dsimp only
      cases s.resolve c with
      | none => exact sameCount_enter (sameCount_rfl s) c _
      | some l => exact sameCount_enter (sameCount_rfl s) c _
  | adminRequest request calls =>
      have hstopping (b : Bool) : SameCount s { s with stopping := b } := ⟨rfl, rfl, rfl, rfl, id⟩
      exact sameCount_enter (hstopping _) c _
  | _ => exact sameCount_enter (sameCount_rfl s) c _

theorem advance_sameCount (c : SessionId) (session : Session) (e : Env) :
    SameCount s (s.advance c session e) := by
  obtain ⟨link, stage⟩ := session
  cases stage with
  | registering backend => exact sameCount_enter (sameCount_onRouter s _) c _
  | installing backend => exact sameCount_enter (sameCount_install s c backend) c _
  | calling pending =>
      cases pending with
      | done _ => exact sameCount_enter (sameCount_rfl s) c _
      | act k next => exact sameCount_enter (sameCount_onRouter s k) c _
      | ask next => exact sameCount_enter (sameCount_rfl s) c _
  | awaiting l id pending =>
      simp only [Coordinator.State.advance]
      split
      · exact sameCount_enter (sameCount_edit s l _) c _
      · exact sameCount_rfl s
  | delivering l message => exact sameCount_enter (sameCount_edit s l _) c _
  | resolving keepGoing => exact sameCount_onSession (sameCount_rfl s) c _
  | closing =>
      cases link with
      | none => exact sameCount_enter (sameCount_hangUp s c) c _
      | some l => exact sameCount_enter (sameCount_hangUp s c) c _
  | waking l => exact sameCount_enter (sameCount_edit s l _) c _
  | erasing l => exact sameCount_enter (sameCount_eraseLink s l) c _
  | fencing l => exact sameCount_enter (sameCount_fenceLink s l e) c _
  | receiving => exact sameCount_rfl s
  | replying => exact sameCount_rfl s
  | ended => exact sameCount_rfl s

theorem handoff_sameCount (c : SessionId) (target : Candidate.CandidateKey) (sent : Bool)
    (pending : Operation Unit) : SameCount s (s.handoff c target sent pending) := by
  rw [Coordinator.State.handoff.eq_def]
  split
  · exact sameCount_rfl s
  · dsimp only
    split
    · split
      · exact sameCount_enter (sameCount_onRouter s _) c _
      · exact sameCount_onRouter s _
    · exact sameCount_rfl s

theorem advanceStop_counted (e : Env) (h : Counted options s) :
    Counted options (s.advanceStop options e) := by
  rw [Coordinator.State.advanceStop.eq_def]
  split
  · split
    · rename_i hloop
      exact ⟨fun _ _ => hloop, h.threads, h.limit, h.active⟩
    · exact h
  · rename_i l rest hstop
    have hclosed := (sameCount_closeLink s l).counted h
    exact ⟨fun _ _ => (sameCount_closeLink s l).loop.trans (h.joined _ hstop), hclosed.threads,
      hclosed.limit, hclosed.active⟩
  · rename_i hstop
    exact ⟨by simp, fun hloop => absurd (h.joined _ hstop) hloop, h.limit, h.active⟩
  · split
    · exact ⟨by simp, h.threads, h.limit, h.active⟩
    · exact h
  · exact ⟨by simp, h.threads, h.limit, h.active⟩
  · exact ⟨by simp, h.threads, h.limit, h.active⟩
  · exact ⟨by simp, h.threads, h.limit, h.active⟩
  · exact h
  · exact h

section

variable {l : Loop} {arrival : Connection}

theorem Counted.turn (h : Counted options s) (hloop : s.loop = .accepting) :
    Counted options { s with loop := l } where
  joined links hstop := by
    have hended := h.joined links hstop
    rw [hloop] at hended
    cases hended
  threads _ := h.threads (by simp [hloop])
  limit := h.limit
  active := h.active

theorem admitSession_counted (h : Counted options s) (hloop : s.loop = .accepting) :
    Counted options (s.admitSession options arrival) := by
  have hthreads := h.threads (by simp [hloop])
  rw [Coordinator.State.admitSession]
  split
  · rename_i hfull
    rw [hthreads] at hfull
    exact ⟨h.joined, h.threads, h.limit, fun hroom => absurd hroom (Nat.not_lt.mpr hfull)⟩
  · rename_i hroom
    rw [hthreads, ge_iff_le, Nat.not_le] at hroom
    refine ⟨h.joined, fun _ => by simp [hthreads], ?_, fun _ => ?_⟩
    · simp only [List.length_append, List.length_singleton]
      omega
    · change s.active + _ = (s.connections ++ [arrival]).countP Connection.counted
      rw [List.countP_append, h.active hroom, List.countP_singleton, held]
      cases arrival <;> rfl

end

theorem apply_counted (m : Move) (h : Counted options s) : Counted options (s.apply options m) := by
  cases m with
  | check =>
      simp only [Coordinator.State.apply]
      split
      · rename_i hloop
        refine ⟨fun l hl => ?_, fun _ => h.threads (by simp [hloop]), h.limit, h.active⟩
        have hended := h.joined l hl
        rw [hloop] at hended
        cases hended
      · exact h
  | accept arrival =>
      simp only [Coordinator.State.apply]
      split
      · rename_i hloop
        split
        · rename_i connection
          split
          · exact h.turn hloop
          · refine (admitSession_counted h hloop).turn ?_
            rw [Coordinator.State.admitSession]
            split
            · exact hloop
            · exact hloop
        · exact h.turn hloop
      · exact h
  | lose c broken =>
      cases broken with
      | true => exact (sameCount_giveUp s c).counted h
      | false => exact (sameCount_hangUp s c).counted h
  | receive c input =>
      rw [Coordinator.State.apply.eq_def]
      dsimp only
      split
      · cases input with
        | none => exact (sameCount_enter (sameCount_rfl s) c _).counted h
        | some inbound => exact (handleFrame_sameCount c inbound).counted h
      · exact h
  | advance c e =>
      rw [Coordinator.State.apply.eq_def]
      dsimp only
      split
      · exact (advance_sameCount c _ e).counted h
      · exact h
  | handoff c target sent =>
      rw [Coordinator.State.apply.eq_def]
      dsimp only
      split
      · exact (handoff_sameCount c target sent _).counted h
      · exact h
  | reply c sent =>
      rw [Coordinator.State.apply.eq_def]
      dsimp only
      split
      · exact (sameCount_enter (sameCount_rfl s) c _).counted h
      · exact h
  | stop =>
      simp only [Coordinator.State.apply]
      split
      · exact h
      · exact ⟨by simp, h.threads, h.limit, h.active⟩
  | advanceStop e => exact advanceStop_counted e h

theorem launched_counted (router : World) : Counted options (launched router) :=
  ⟨by simp [launched], fun _ => rfl, Nat.zero_le _, fun _ => rfl⟩

/-- A run of the coordinator from its start on. -/
abbrev Runs (options : ModelRouterOptions) (router : World)
    (es : List (Event Coordinator.State Move)) (t : Coordinator.State) : Prop :=
  Chained (Coordinator.State.apply options) (launched router) es t

theorem runs_counted {router : World} {es : List (Event Coordinator.State Move)}
    {t : Coordinator.State} (h : Runs options router es t) : ∀ e ∈ es, Counted options e.pre :=
  h.invariant_pre (launched_counted router) fun e _ => apply_counted e.act

theorem served_full_iff {limit : Nat} (hlimit : s.sessions.length ≤ limit) :
    limit ≤ served s ↔
      limit ≤ s.sessions.length ∧ ¬∃ session ∈ s.sessions, session.stage.isEnded = true := by
  have hserved : served s ≤ s.sessions.length := List.countP_le_length
  have hall : served s = s.sessions.length ↔
      ¬∃ session ∈ s.sessions, session.stage.isEnded = true := by
    rw [served, List.countP_eq_length]
    simp
  constructor
  · intro h
    exact ⟨by omega, hall.mp (by omega)⟩
  · rintro ⟨hlength, hnone⟩
    rw [hall.mpr hnone]
    exact hlength

theorem refuses_iff {m : Move} (h : Counted options s) :
    (Refuses options s m → options.limits.maxSessionThreads.toNat ≤ served s) ↔
      ¬ArrivesLate options s m ∧ ¬ArrivesCrowded options s m := by
  cases m with
  | accept arrival =>
      cases arrival with
      | none => exact iff_of_true False.elim ⟨id, id⟩
      | some connection =>
          simp only [Refuses, ArrivesLate, ArrivesCrowded]
          rw [served_full_iff h.limit]
          constructor
          · intro himp
            constructor
            · rintro ⟨hloop, hlength, hended⟩
              have hthreads := h.threads (by simp [hloop])
              exact (himp ⟨hloop, .inr (hthreads ▸ hlength)⟩).2 hended
            · rintro ⟨hloop, hroom, hheld⟩
              have hfull : s.full options = true := by
                rw [Coordinator.State.full, h.active hroom]
                exact decide_eq_true hheld
              exact absurd (himp ⟨hloop, .inl hfull⟩).1 (Nat.not_le.mpr hroom)
          · rintro ⟨hlate, hcrowded⟩ ⟨hloop, hrefused⟩
            have hlength : options.limits.maxSessionThreads.toNat ≤ s.sessions.length := by
              rcases hrefused with hfull | hlength
              · refine Nat.not_lt.mp fun hroom => hcrowded ⟨hloop, hroom, ?_⟩
                rw [Coordinator.State.full, h.active hroom] at hfull
                exact of_decide_eq_true hfull
              · exact h.threads (by simp [hloop]) ▸ hlength
            exact ⟨hlength, fun hended => hlate ⟨hloop, hlength, hended⟩⟩
  | _ => exact iff_of_true False.elim ⟨id, id⟩

/-- Every connection that is refused for lack of capacity finds the limit of sessions being served
exactly when no connection arrives late or crowded. -/
theorem refusal_at_capacity_iff {router : World} {es : List (Event Coordinator.State Move)}
    {t : Coordinator.State} (h : Runs options router es t) :
    (∀ e ∈ es, Refuses options e.pre e.act →
        options.limits.maxSessionThreads.toNat ≤ served e.pre) ↔
      ∀ e ∈ es, ¬ArrivesLate options e.pre e.act ∧ ¬ArrivesCrowded options e.pre e.act :=
  forall₂_congr fun e he => refuses_iff (runs_counted h e he)

def oneSession : ModelRouterOptions :=
  { Run.sampleOptions with limits := { maxSessionThreads := 1 } }

def started (options : ModelRouterOptions) : World :=
  (Run.play options Run.sampleEnv [.start]).2.2

def secondVisit : List Move :=
  [.check, .accept (some .open), .lose 0 false, .receive 0 none, .advance 0 Run.sampleEnv, .check,
    .accept (some .open)]

theorem second_visit_late_iff :
    let es := Chained.trace (Coordinator.State.apply oneSession) secondVisit
      (launched (started oneSession))
    (∀ e ∈ es, Refuses oneSession e.pre e.act → 1 ≤ served e.pre) ↔
      ∀ e ∈ es, ¬ArrivesLate oneSession e.pre e.act ∧ ¬ArrivesCrowded oneSession e.pre e.act :=
  refusal_at_capacity_iff (Chained.trace_chained _ secondVisit _)

theorem ended_session_counts :
    ¬∀ (options : ModelRouterOptions) (router : World) (es : List (Event Coordinator.State Move))
        (t : Coordinator.State), Runs options router es t →
      ∀ e ∈ es, Refuses options e.pre e.act →
        options.limits.maxSessionThreads.toNat ≤ served e.pre := by
  intro h
  have hrun := Chained.trace_chained (Coordinator.State.apply oneSession) secondVisit
    (launched (started oneSession))
  have hlast := h _ _ _ _ hrun ⟨.accept (some .open), _⟩ (List.mem_of_getElem? (i := 6) rfl)
  exact absurd (hlast ⟨by decide +kernel, .inr (by decide +kernel)⟩) (by decide +kernel)

end ModelRouter.Sessions
