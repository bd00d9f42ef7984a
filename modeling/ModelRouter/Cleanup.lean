import ModelRouter.Incarnations
import ModelRouter.Links
import ModelRouter.Repertoire

namespace ModelRouter.Cleanup

open Base Base.Refusal Bytes Ids Outcome Evidence Catalog State Mutations Commit Providers Section
open Router Coordinator Effects MutationFacts Acceptance Incarnations Fencing Repertoire Sessions
open Links Run

variable {options : ModelRouterOptions} {s t : Coordinator.State} {w : Watched}

def fenced (s : Coordinator.State) (key : FenceKey) : Prop :=
  s.router.state.fencedBoots.contains key = true

/-- Everything that was accepted over the session is fenced, and all its links are closed. -/
def Settled (w : Watched) (c : SessionId) : Prop :=
  (∀ r ∈ w.registrations, r.session = c → fenced w.state r.incarnation) ∧
    ∀ link ∈ w.state.made, link.connection = c → link.closed = true

/-- Every session that has ended is settled. -/
def AllSettled (w : Watched) : Prop :=
  ∀ (c : SessionId) (session : Session), w.state.sessions[c]? = some session →
    session.stage.isEnded = true → Settled w c

def HasRoom (s : Coordinator.State) : Prop :=
  s.router.state.fencedBoots.size < s.router.state.limits.maxBackendIncarnations.toNat

/-- What the cleanup of a session needs: its other links are closed and fenced without it, and
the incarnation of the link it resolved is fenced or can still be. -/
structure Suffices (s : Coordinator.State) (c : SessionId) (own : Option LinkId) : Prop where
  others : ∀ (l : LinkId) (link : BackendLink), s.made[l]? = some link → link.connection = c →
    own ≠ some l → link.closed = true ∧
      (fenced s link.incarnation ∨ ∃ (l' : LinkId) (link' : BackendLink), own = some l' ∧
        s.made[l']? = some link' ∧ link'.incarnation = link.incarnation)
  resolved : ∀ (l : LinkId) (link : BackendLink), own = some l → s.made[l]? = some link →
    fenced s link.incarnation ∨ HasRoom s

/-- A session is about to end: without a link, or with the fence of the link it resolved. -/
def Ends (s : Coordinator.State) (c : SessionId) (session : Session) : Move → Prop
  | .advance c' _ =>
    c' = c ∧ s.sessions[c]? = some session ∧
      (session.stage = .closing ∧ session.link = none ∨ ∃ l, session.stage = .fencing l)
  | _ => False

/-- A session ends whose cleanup does not suffice. -/
def EndsShort (s : Coordinator.State) (m : Move) : Prop :=
  ∃ c session, Ends s c session m ∧ ¬Suffices s c session.link

abbrev Running (w : World) : Prop :=
  w.state.running = true

/-- The sections that keep a running router running. -/
def Steady (k : Act) : Prop :=
  k ≠ .beginShutdown

theorem act_running {k : Act} {router : World} (hk : Steady k) (h : Running router) :
    Running (k.apply router) := by
  cases hs : keepsStanding k with
  | true => exact (congrArg Standing.running (apply_standing hs router)).trans h
  | false =>
      cases k with
      | admitStart =>
          change (admitStart router.state).running = true
          rw [admitStart, if_pos h]
          exact h
      | publish now =>
          change (publish router.state now).running = true
          rw [publish, if_pos h]
          exact h
      | importState canonical =>
          change Running (Recovery.importSection canonical router)
          rw [Recovery.importSection, if_pos h]
          exact h
      | beginShutdown => exact absurd rfl hk
      | recordDispatch id epoch coordinatorEpoch record =>
          change (Handoff.recordDispatch router id epoch coordinatorEpoch record).state.running = true
          rw [Handoff.recordDispatch]
          split
          · exact (congrArg Standing.running (editRoute_standing router.state id _)).trans h
          · exact h
      | recordCompletion completion =>
          change (Handoff.recordCompletion router.state completion).1.running = true
          rw [Handoff.recordCompletion]
          cases Handoff.completable router.state completion <;> exact h
      | _ => cases hs

theorem act_fences {k : Act} {router : World} (h : imports k = false ∨ Running router)
    {key : FenceKey} (hkey : router.state.fencedBoots.contains key = true) :
    (k.apply router).state.fencedBoots.contains key = true := by
  cases hkeep : keepsHoldings k with
  | true => rwa [fencedBoots_of_holdings (apply_holdings hkeep router)]
  | false =>
      cases k with
      | mutate m now => exact next_fences m now hkey
      | writeCapacityDetail detail =>
          have hsame : SameIncarnations router.state
              (EvidenceMutation.writeCapacityDetail router.state detail) :=
            editBackend_incarnations router.state detail.backendId fun _ => rfl
          change (EvidenceMutation.writeCapacityDetail router.state detail).fencedBoots.contains
            key = true
          rwa [hsame.1]
      | importState canonical =>
          rcases h with hload | hrunning
          · cases hload
          · change (Recovery.importSection canonical router).state.fencedBoots.contains key = true
            rwa [Recovery.importSection, if_pos hrunning]
      | _ => cases hkeep

section

variable {E : Env → Prop}

theorem mutation_steady (m : Mutation) : (Lifecycle.mutation m).Only Running E Steady :=
  ask_only fun _ _ => perform_only (by simp [Steady]) fun _ _ => done_only _

theorem load_steady (path : Text) : (Lifecycle.load path).Only Running E Steady := by
  refine perform_only (by simp [Steady]) fun w _ => ask_only fun e _ => ?_
  refine ite_only (done_only _) (bind_only ?_ fun imported => ite_only (done_only _) (done_only _))
  refine perform_only (by simp [Steady]) fun u _ => ?_
  split
  · exact done_only _
  · exact perform_only (by simp [Steady]) fun _ _ => done_only _

theorem call_steady (call : Call) : (call.op.program options).Only Running E Steady := by
  have hcalm : ∀ k, calm k = true → Steady k := by
    rintro k hk rfl
    cases hk
  cases call with
  | mutation m =>
      cases m with
      | updateCapacity evidence detail =>
          refine map_only _ (bind_only (mutation_steady _) fun result => ?_)
          exact ite_only (perform_only (by simp [Steady]) fun _ _ => done_only _) (done_only _)
      | _ => exact map_only _ (mutation_steady _)
  | route request => exact map_only _ (route_only hcalm options request fun _ _ _ => by simp [Steady])
  | revalidate id => exact map_only _ (revalidate_only hcalm _ _ _ fun _ _ _ => by simp [Steady])
  | dispatch id =>
      exact map_only _ (dispatch_only hcalm options _ _ _ (fun _ _ _ => by simp [Steady])
        fun _ _ _ => by simp [Steady])
  | reroute id failure request =>
      exact map_only _ (reroute_only hcalm options id failure request fun _ _ _ => by simp [Steady])
  | save path =>
      exact map_only _ (ask_only fun e _ => perform_only (by simp [Steady]) fun w _ =>
        perform_only (by simp [Steady]) fun _ _ => writeState_only _ (by simp [Steady]))
  | load path => exact map_only _ (load_steady path)

theorem calls_steady (calls : List Call) :
    (Coordinator.State.callAll options calls).Only Running E Steady := by
  induction calls with
  | nil => exact done_only _
  | cons call calls ih => exact bind_only (call_steady call) fun _ => ih

theorem shutdown_importless :
    (Lifecycle.shutdown options).Only (fun _ => True) E fun k => imports k = false := by
  refine ask_only fun e _ => perform_only rfl fun w _ => ite_only (done_only _) (ite_only ?_ ?_)
  · refine bind_only (writeState_only _ rfl) fun saved => ?_
    exact ite_only (done_only _) (perform_only rfl fun _ _ => done_only _)
  · exact perform_only rfl fun _ _ => done_only _

end

def cleans : Stage → Option LinkId
  | .waking l | .erasing l | .fencing l => some l
  | _ => none

def pendingOf : Stage → Option (Operation Unit)
  | .calling pending | .awaiting _ _ pending => some pending
  | _ => none

/-- The local state of a session fits the links. -/
structure Sound (s : Coordinator.State) (c : SessionId) (session : Session) : Prop where
  link : ∀ l, session.link = some l → ∃ link, s.made[l]? = some link ∧ link.connection = c
  cleaning : ∀ l, cleans session.stage = some l → session.link = some l
  woken : ∀ l link, session.stage = .erasing l ∨ session.stage = .fencing l →
    s.made[l]? = some link → link.closed = true
  calls : ∀ pending, pendingOf session.stage = some pending →
    pending.Only Running (fun _ => True) Steady

/-- No fence is lifted, and no link is lost or opened again. -/
structure Grows (s t : Coordinator.State) : Prop where
  fences : ∀ key, fenced s key → fenced t key
  made : ∀ (l : LinkId) (link : BackendLink), s.made[l]? = some link →
    ∃ link' : BackendLink, t.made[l]? = some link' ∧ origin link' = origin link ∧
      (link.closed = true → link'.closed = true)

/-- What one session does outside its own record; a new link is one of its own. -/
structure Works (c : SessionId) (s t : Coordinator.State) : Prop extends Grows s t where
  fresh : ∀ (l : LinkId) (link' : BackendLink), t.made[l]? = some link' →
    (∃ link, s.made[l]? = some link) ∨ link'.connection = c
  sessions : t.sessions = s.sessions
  stop : t.stop = s.stop
  loop : t.loop = s.loop
  stopping : s.stopping = true → t.stopping = true
  running : Running s.router → Running t.router

variable {c : SessionId} {session : Session}

theorem grows_rfl (s : Coordinator.State) : Grows s s :=
  ⟨fun _ h => h, fun _ link h => ⟨link, h, rfl, id⟩⟩

theorem works_rfl (c : SessionId) (s : Coordinator.State) : Works c s s :=
  ⟨grows_rfl s, fun _ link h => .inl ⟨link, h⟩, rfl, rfl, rfl, id, id⟩

theorem works_onRouter {k : Act} (hrun : Running s.router) (hk : Steady k) :
    Works c s (s.onRouter k) where
  fences _ h := act_fences (.inr hrun) h
  made _ link h := ⟨link, h, rfl, id⟩
  fresh _ link h := .inl ⟨link, h⟩
  sessions := rfl
  stop := rfl
  loop := rfl
  stopping := id
  running := act_running hk

theorem works_edit (l : LinkId) {f : BackendLink → BackendLink}
    (hf : ∀ link, origin (f link) = origin link)
    (hclosed : ∀ link, link.closed = true → (f link).closed = true) : Works c s (s.edit l f) where
  fences _ h := h
  made j link h := by
    rw [Coordinator.State.edit, List.getElem?_modify, h]
    by_cases hj : l = j
    · exact ⟨f link, by simp [hj], hf link, hclosed link⟩
    · exact ⟨link, by simp [hj], rfl, id⟩
  fresh j link h := by
    rw [Coordinator.State.edit, List.getElem?_modify, Option.map_eq_map, Option.map_eq_some_iff] at h
    obtain ⟨before, hbefore, -⟩ := h
    exact .inl ⟨before, hbefore⟩
  sessions := rfl
  stop := rfl
  loop := rfl
  stopping := id
  running := id

theorem works_hangUp (d : SessionId) : Works c s (s.hangUp d) := by
  obtain ⟨connections, active, h⟩ := hangUp_eq s d
  have hsame := works_rfl c s
  rw [h]
  exact ⟨⟨hsame.fences, hsame.made⟩, hsame.fresh, rfl, rfl, rfl, id, id⟩

theorem Works.trans {u : Coordinator.State} (h : Works c s t) (h' : Works c t u) : Works c s u where
  fences key hkey := h'.fences key (h.fences key hkey)
  made l link hl := by
    obtain ⟨link', hl', horigin, hclosed⟩ := h.made l link hl
    obtain ⟨link'', hl'', horigin', hclosed'⟩ := h'.made l link' hl'
    exact ⟨link'', hl'', horigin'.trans horigin, fun hc => hclosed' (hclosed hc)⟩
  fresh l link' hl' := by
    rcases h'.fresh l link' hl' with ⟨link, hl⟩ | hown
    · rcases h.fresh l link hl with hold | hown
      · exact .inl hold
      · obtain ⟨found, hfound, horigin, -⟩ := h'.made l link hl
        obtain rfl := Option.some.inj (hfound.symm.trans hl')
        exact .inr ((congrArg Prod.fst horigin).trans hown)
    · exact .inr hown
  sessions := h'.sessions.trans h.sessions
  stop := h'.stop.trans h.stop
  loop := h'.loop.trans h.loop
  stopping hs := h'.stopping (h.stopping hs)
  running hs := h'.running (h.running hs)

theorem works_closeLink (l : LinkId) : Works c s (s.closeLink l) := by
  rw [Coordinator.State.closeLink]
  split
  · exact (works_hangUp _).trans (works_edit l origin_close fun _ _ => rfl)
  · exact works_rfl c s

theorem works_install (backend : BackendDescriptor) : Works c s (s.install c backend) where
  fences _ h := h
  made l link h := by
    refine ⟨link, ?_, rfl, id⟩
    rw [Coordinator.State.install, List.getElem?_append_left (List.getElem?_eq_some_iff.mp h).1]
    exact h
  fresh l link h := by
    rw [Coordinator.State.install, List.getElem?_append] at h
    split at h
    · exact .inl ⟨link, h⟩
    · obtain rfl := List.mem_singleton.mp (List.mem_of_getElem? h)
      exact .inr rfl
  sessions := rfl
  stop := rfl
  loop := rfl
  stopping := id
  running := id

theorem works_eraseLink (l : LinkId) : Works c s (s.eraseLink l) := by
  have h := works_rfl c s
  rw [Coordinator.State.eraseLink]
  split
  · exact ⟨⟨h.fences, h.made⟩, h.fresh, rfl, rfl, rfl, id, id⟩
  · exact h

theorem works_fenceLink (hrun : Running s.router) (l : LinkId) (e : Env) :
    Works c s (s.fenceLink l e) := by
  rw [Coordinator.State.fenceLink]
  split
  · exact works_onRouter hrun (by simp [Steady])
  · exact works_rfl c s

theorem Sound.mono (h : Sound s c session) (hgrows : Grows s t) : Sound t c session where
  link l hl := by
    obtain ⟨link, hmade, hc⟩ := h.link l hl
    obtain ⟨link', hmade', horigin, -⟩ := hgrows.made l link hmade
    exact ⟨link', hmade', (congrArg Prod.fst horigin).trans hc⟩
  cleaning := h.cleaning
  woken l link' hstage hmade' := by
    have hcleans : cleans session.stage = some l := by
      rcases hstage with hstage | hstage <;> rw [hstage] <;> rfl
    obtain ⟨link, hmade, -⟩ := h.link l (h.cleaning l hcleans)
    obtain ⟨found, hfound, -, hclosed⟩ := hgrows.made l link hmade
    obtain rfl := Option.some.inj (hfound.symm.trans hmade')
    exact hclosed (h.woken l link hstage hmade)
  calls := h.calls

theorem Sound.quiet (h : Sound s c session) {stage : Stage} (hcleans : cleans stage = none)
    (hpending : pendingOf stage = none) : Sound s c { session with stage := stage } where
  link := h.link
  cleaning l hl := by
    rw [hcleans] at hl
    cases hl
  woken l link hstage := by
    rcases hstage with rfl | rfl <;> cases hcleans
  calls pending hp := by
    rw [hpending] at hp
    cases hp

theorem Sound.call (h : Sound s c session) {stage : Stage} {pending : Operation Unit}
    (hcleans : cleans stage = none) (hpending : pendingOf stage = some pending)
    (honly : pending.Only Running (fun _ => True) Steady) :
    Sound s c { session with stage := stage } where
  link := h.link
  cleaning l hl := by
    rw [hcleans] at hl
    cases hl
  woken l link hstage := by
    rcases hstage with rfl | rfl <;> cases hcleans
  calls found hfound := by
    rw [hpending] at hfound
    exact Option.some.inj hfound ▸ honly

theorem Sound.clean (h : Sound s c session) {stage : Stage} {l : LinkId}
    (hlink : session.link = some l) (hcleans : cleans stage = some l)
    (hpending : pendingOf stage = none)
    (hwoken : stage = .waking l ∨ ∀ link, s.made[l]? = some link → link.closed = true) :
    Sound s c { session with stage := stage } where
  link := h.link
  cleaning j hj := by
    rw [hcleans] at hj
    exact hlink.trans hj
  woken j link hstage hmade := by
    have hj : cleans stage = some j := by
      rcases hstage with rfl | rfl <;> rfl
    obtain rfl := Option.some.inj (hcleans.symm.trans hj)
    rcases hwoken with rfl | hclosed
    · rcases hstage with hstage | hstage <;> cases hstage
    · exact hclosed link hmade
  calls pending hp := by
    rw [hpending] at hp
    cases hp

/-- A step of a session: its work, then a local state that fits; it ends only where it may. -/
def Turns (s : Coordinator.State) (m : Move) (c : SessionId) (session : Session)
    (u : Coordinator.State) : Prop :=
  ∃ (t : Coordinator.State) (f : Session → Session), Works c s t ∧ u = t.onSession c f ∧
    Sound t c (f session) ∧ ((f session).stage.isEnded = true → Ends s c session m)

variable {m : Move}

theorem turns_enter (hworks : Works c s t) {stage : Stage}
    (hsound : Sound t c { session with stage := stage })
    (hended : stage.isEnded = true → Ends s c session m) :
    Turns s m c session (t.enter c stage) :=
  ⟨t, fun session => { session with stage := stage }, hworks, rfl, hsound, hended⟩

theorem turns_rest (hsound : Sound s c session) (hlive : session.stage.isEnded = false) :
    Turns s m c session s := by
  refine ⟨s, id, works_rfl c s, ?_, hsound, fun h => ?_⟩
  · rw [Coordinator.State.onSession, List.modify_id]
  · rw [id_eq, hlive] at h
    cases h

theorem turns_quiet (hsound : Sound s c session) (hworks : Works c s t) {stage : Stage}
    (hcleans : cleans stage = none) (hpending : pendingOf stage = none)
    (hlive : stage.isEnded = false) : Turns s m c session (t.enter c stage) := by
  refine turns_enter hworks ((hsound.mono hworks.toGrows).quiet hcleans hpending) fun h => ?_
  rw [hlive] at h
  cases h

theorem turns_call (hsound : Sound s c session) (hworks : Works c s t) {stage : Stage}
    {pending : Operation Unit} (hcleans : cleans stage = none)
    (hpending : pendingOf stage = some pending)
    (honly : pending.Only Running (fun _ => True) Steady) :
    Turns s m c session (t.enter c stage) := by
  refine turns_enter hworks ((hsound.mono hworks.toGrows).call hcleans hpending honly) fun h => ?_
  cases stage with
  | ended => cases hpending
  | _ => cases h

theorem handleFrame_turns (hsound : Sound s c session) (inbound : Inbound) :
    Turns s m c session (s.handleFrame options c inbound) := by
  have hcall {t : Coordinator.State} (hworks : Works c s t) (calls : List Call) :
      Turns s m c session (t.call options c calls) :=
    turns_call hsound hworks rfl rfl (calls_steady calls)
  have hquiet {stage : Stage} (hcleans : cleans stage = none) (hpending : pendingOf stage = none)
      (hlive : stage.isEnded = false) : Turns s m c session (s.enter c stage) :=
    turns_quiet hsound (works_rfl c s) hcleans hpending hlive
  cases inbound with
  | backendRegister message => exact hquiet rfl rfl rfl
  | dispatchResult message =>
      rw [Coordinator.State.handleFrame.eq_def]
      dsimp only
      cases s.resolve c with
      | none => exact hquiet rfl rfl rfl
      | some l => exact hquiet rfl rfl rfl
  | adminRequest request calls =>
      have hworks := works_rfl c s
      have hstopping (b : Bool) : Works c s { s with stopping := s.stopping || b } :=
        ⟨⟨hworks.fences, hworks.made⟩, hworks.fresh, rfl, rfl, rfl, by simp +contextual, id⟩
      exact hcall (hstopping _) calls
  | bye => exact hquiet rfl rfl rfl
  | hello => exact hquiet rfl rfl rfl
  | ping => exact hquiet rfl rfl rfl
  | snapshotRequest => exact hquiet rfl rfl rfl
  | unreadable => exact hquiet rfl rfl rfl
  | _ => exact hcall (works_rfl c s) _

theorem resolve_made {l : LinkId} (h : s.resolve c = some l) :
    ∃ link, s.made[l]? = some link ∧ link.connection = c := by
  have hfound := List.find?_some h
  rw [Option.any_eq_true] at hfound
  obtain ⟨link, hmade, hc⟩ := hfound
  exact ⟨link, hmade, by simpa using hc⟩

theorem advance_turns (hsound : Sound s c session) (hrun : Running s.router)
    (hc : s.sessions[c]? = some session) (hlive : session.stage.isEnded = false) (e : Env) :
    Turns s (.advance c e) c session (s.advance c session e) := by
  have hrest : Turns s (.advance c e) c session s := turns_rest hsound hlive
  obtain ⟨link, stage⟩ := session
  cases stage with
  | registering backend =>
      refine turns_quiet hsound (works_onRouter hrun (by simp [Steady])) ?_ ?_ ?_ <;>
        split <;> rfl
  | installing backend => exact turns_quiet hsound (works_install backend) rfl rfl rfl
  | calling pending =>
      have honly := hsound.calls pending rfl
      cases pending with
      | done _ => exact turns_quiet hsound (works_rfl c s) rfl rfl rfl
      | act k next =>
          exact turns_call hsound (works_onRouter hrun honly.1) rfl rfl (honly.2 s.router hrun)
      | ask next => exact turns_call hsound (works_rfl c s) rfl rfl (honly e trivial)
  | awaiting l id pending =>
      simp only [Coordinator.State.advance]
      split
      · exact turns_call hsound (works_edit l (origin_take id) fun _ h => h) rfl rfl
          (hsound.calls pending rfl)
      · exact hrest
  | delivering l message =>
      exact turns_quiet hsound (works_edit l (origin_put message) fun _ h => h) rfl rfl rfl
  | resolving keepGoing =>
      refine ⟨s, _, works_rfl c s, rfl, ⟨fun l hl => ?_, ?_, ?_, ?_⟩, ?_⟩
      · dsimp only at hl
        cases link with
        | none => exact resolve_made hl
        | some own => exact hsound.link l hl
      · cases keepGoing <;> simp [cleans]
      · cases keepGoing <;> simp
      · cases keepGoing <;> simp [pendingOf]
      · cases keepGoing <;> simp [Stage.isEnded]
  | closing =>
      have hworks : Works c s (s.hangUp c) := works_hangUp c
      have hsound' := hsound.mono hworks.toGrows
      cases link with
      | none =>
          exact turns_enter hworks (hsound'.quiet rfl rfl) fun _ => ⟨rfl, hc, .inl ⟨rfl, rfl⟩⟩
      | some l =>
          refine turns_enter hworks (hsound'.clean rfl rfl rfl (.inl rfl)) fun h => ?_
          cases h
  | waking l =>
      have hworks : Works c s (s.edit l BackendLink.close) :=
        works_edit l origin_close fun _ _ => rfl
      refine turns_enter hworks ((hsound.mono hworks.toGrows).clean (hsound.cleaning l rfl) rfl rfl
        (.inr fun link hmade => ?_)) fun h => ?_
      · rw [Coordinator.State.edit, List.getElem?_modify_eq, Option.map_eq_map,
          Option.map_eq_some_iff] at hmade
        obtain ⟨before, -, rfl⟩ := hmade
        rfl
      · cases h
  | erasing l =>
      have hworks : Works c s (s.eraseLink l) := works_eraseLink l
      have hsound' := hsound.mono hworks.toGrows
      refine turns_enter hworks (hsound'.clean (hsound.cleaning l rfl) rfl rfl
        (.inr fun link hmade => hsound'.woken l link (.inl rfl) hmade)) fun h => ?_
      cases h
  | fencing l =>
      have hworks : Works c s (s.fenceLink l e) := works_fenceLink hrun l e
      exact turns_enter hworks ((hsound.mono hworks.toGrows).quiet rfl rfl)
        fun _ => ⟨rfl, hc, .inr ⟨l, rfl⟩⟩
  | receiving => exact hrest
  | replying => exact hrest
  | ended => exact hrest

theorem handoff_turns {link : Option LinkId} {pending : Operation Unit}
    (hsound : Sound s c ⟨link, .calling pending⟩) (hrun : Running s.router)
    (target : Candidate.CandidateKey) (sent : Bool) :
    Turns s m c ⟨link, .calling pending⟩ (s.handoff c target sent pending) := by
  have honly := hsound.calls pending rfl
  have hworks : Works c s (s.onRouter .allocate) := works_onRouter hrun (by simp [Steady])
  rw [Coordinator.State.handoff.eq_def]
  split
  · exact turns_rest hsound rfl
  · dsimp only
    split
    · split
      · exact turns_call hsound hworks rfl rfl honly
      · refine ⟨_, id, hworks, ?_, hsound.mono hworks.toGrows, fun h => ?_⟩
        · rw [Coordinator.State.onSession, List.modify_id]
        · cases h
    · exact turns_rest hsound rfl

def acceptOver : Stop → Bool
  | .standing | .joining => false
  | _ => true

def servingOver : Stop → Bool
  | .shutting _ | .stopped => true
  | _ => false

theorem acceptOver_of_servingOver {stop : Stop} (h : servingOver stop = true) :
    acceptOver stop = true := by
  cases stop with
  | shutting pending => rfl
  | stopped => rfl
  | _ => cases h

/-- How far `stop` has come: the router runs until every session has ended. -/
structure Life (s : Coordinator.State) : Prop where
  joined : acceptOver s.stop = true → s.loop = .ended
  deserted : servingOver s.stop = true → ∀ session ∈ s.sessions, session.stage.isEnded = true
  shutting : ∀ pending, s.stop = .shutting pending →
    pending.Only (fun _ => True) (fun _ => True) fun k => imports k = false
  running : servingOver s.stop = false → Running s.router
  called : s.stop = .standing ∨ s.stopping = true

theorem Life.of_accepting {u : Coordinator.State} (h : Life s) (hover : acceptOver s.stop = false)
    (hstop : u.stop = s.stop) (hrouter : u.router = s.router) (hstopping : u.stopping = s.stopping) :
    Life u where
  joined hjoined := by
    rw [hstop, hover] at hjoined
    cases hjoined
  deserted hdeserted := by
    rw [hstop] at hdeserted
    rw [acceptOver_of_servingOver hdeserted] at hover
    cases hover
  shutting pending hpending := h.shutting pending (hstop ▸ hpending)
  running hrun := by
    rw [hrouter]
    exact h.running (hstop ▸ hrun)
  called := by
    rw [hstop, hstopping]
    exact h.called

/-- A step of the accept thread or of `stop`. -/
structure Idles (s t : Coordinator.State) : Prop extends Grows s t where
  fresh : t.made.length = s.made.length
  sessions : t.sessions = s.sessions ∨ t.sessions = s.sessions ++ [({} : Session)]
  life : Life t

theorem Idles.old_or_new (h : Idles s t) (hc : t.sessions[c]? = some session) :
    s.sessions[c]? = some session ∨ session = {} := by
  rcases h.sessions with hsame | hnew
  · exact .inl (hsame ▸ hc)
  · rw [hnew, List.getElem?_append] at hc
    split at hc
    · exact .inl hc
    · exact .inr (List.mem_singleton.mp (List.mem_of_getElem? hc))

theorem idles_still (h : Life t) (hrouter : t.router = s.router) (hmade : t.made = s.made)
    (hsessions : t.sessions = s.sessions) : Idles s t where
  fences key hkey := by
    rw [fenced, hrouter]
    exact hkey
  made l link hl := ⟨link, hmade ▸ hl, rfl, id⟩
  fresh := congrArg List.length hmade
  sessions := .inl hsessions
  life := h

theorem Life.live (h : Life s) (hc : s.sessions[c]? = some session)
    (hlive : session.stage.isEnded = false) : Running s.router ∧ servingOver s.stop = false := by
  have hstop : servingOver s.stop = false := by
    by_contra hdeserted
    have hended := h.deserted (by simpa using hdeserted) session (List.mem_of_getElem? hc)
    rw [hlive] at hended
    cases hended
  exact ⟨h.running hstop, hstop⟩

theorem closeLink_length (s : Coordinator.State) (l : LinkId) :
    (s.closeLink l).made.length = s.made.length := by
  rw [Coordinator.State.closeLink]
  split
  · rename_i link _
    obtain ⟨connections, active, h⟩ := hangUp_eq s link.connection
    rw [h]
    exact List.length_modify ..
  · rfl

theorem advanceStop_idles (h : Life s) (e : Env) : Idles s (s.advanceStop options e) := by
  have hcalled (hne : s.stop ≠ .standing) : s.stopping = true := h.called.resolve_left hne
  rw [Coordinator.State.advanceStop.eq_def]
  split
  · split
    · rename_i hstop hloop
      exact idles_still ⟨fun _ => hloop, by simp [servingOver], by simp,
        fun _ => h.running (by rw [hstop]; rfl), .inr (hcalled (by simp [hstop]))⟩ rfl rfl rfl
    · exact idles_still h rfl rfl rfl
  · rename_i l rest hstop
    have hworks : Works 0 s (s.closeLink l) := works_closeLink l
    refine ⟨⟨hworks.fences, hworks.made⟩, ?_, .inl hworks.sessions, ?_⟩
    · exact closeLink_length s l
    · exact ⟨fun _ => hworks.loop.trans (h.joined (by rw [hstop]; rfl)), by simp [servingOver],
        by simp, fun _ => hworks.running (h.running (by rw [hstop]; rfl)),
        .inr (hworks.stopping (hcalled (by simp [hstop])))⟩
  · rename_i hstop
    exact idles_still ⟨fun _ => h.joined (by rw [hstop]; rfl), by simp [servingOver], by simp,
      fun _ => h.running (by rw [hstop]; rfl), .inr (hcalled (by simp [hstop]))⟩ rfl rfl rfl
  · rename_i hstop
    split
    · rename_i hall
      refine idles_still ⟨fun _ => h.joined (by rw [hstop]; rfl), fun _ => ?_, ?_,
        by simp [servingOver], .inr (hcalled (by simp [hstop]))⟩ rfl rfl rfl
      · simpa using hall
      · rintro pending hpending
        obtain rfl := Stop.shutting.inj hpending
        exact shutdown_importless
    · exact idles_still h rfl rfl rfl
  · rename_i k next hstop
    have honly := h.shutting _ hstop
    refine ⟨⟨fun _ hkey => act_fences (.inl honly.1) hkey, fun _ link hl => ⟨link, hl, rfl, id⟩⟩,
      rfl, .inl rfl, ⟨fun _ => h.joined (by rw [hstop]; rfl),
        fun _ => h.deserted (by rw [hstop]; rfl), ?_, by simp [servingOver], .inr (hcalled (by simp [hstop]))⟩⟩
    rintro pending hpending
    obtain rfl := Stop.shutting.inj hpending
    exact honly.2 s.router trivial
  · rename_i next hstop
    have honly := h.shutting _ hstop
    refine idles_still ⟨fun _ => h.joined (by rw [hstop]; rfl),
      fun _ => h.deserted (by rw [hstop]; rfl), ?_, by simp [servingOver],
      .inr (hcalled (by simp [hstop]))⟩ rfl rfl rfl
    rintro pending hpending
    obtain rfl := Stop.shutting.inj hpending
    exact honly e trivial
  · rename_i hstop
    exact idles_still ⟨fun _ => h.joined (by rw [hstop]; rfl),
      fun _ => h.deserted (by rw [hstop]; rfl), by simp, by simp [servingOver],
      .inr (hcalled (by simp [hstop]))⟩ rfl rfl rfl
  · exact idles_still h rfl rfl rfl
  · exact idles_still h rfl rfl rfl

variable (options) in
theorem apply_cases (h : Life s)
    (hsound : ∀ (c : SessionId) (session : Session), s.sessions[c]? = some session →
      Sound s c session) (m : Move) :
    (∃ (c : SessionId) (session : Session), s.sessions[c]? = some session ∧
        session.stage.isEnded = false ∧ Turns s m c session (s.apply options m)) ∨
      Idles s (s.apply options m) := by
  have hstill : Idles s s := idles_still h rfl rfl rfl
  cases m with
  | check =>
      simp only [Coordinator.State.apply]
      split
      · rename_i hloop
        refine .inr (idles_still ⟨fun hover => ?_, h.deserted, h.shutting, h.running, h.called⟩
          rfl rfl rfl)
        have hended := h.joined hover
        rw [hloop] at hended
        cases hended
      · exact .inr hstill
  | accept arrival =>
      simp only [Coordinator.State.apply]
      split
      · rename_i hloop
        have hover : acceptOver s.stop = false := by
          by_contra hnot
          have hended := h.joined (by simpa using hnot)
          rw [hloop] at hended
          cases hended
        have hlife {u : Coordinator.State} := h.of_accepting (u := u) hover
        split
        · split
          · exact .inr (idles_still (hlife rfl rfl rfl) rfl rfl rfl)
          · rw [Coordinator.State.admitSession]
            split
            · exact .inr (idles_still (hlife rfl rfl rfl) rfl rfl rfl)
            · exact .inr ⟨⟨fun _ hkey => hkey, fun _ link hl => ⟨link, hl, rfl, id⟩⟩, rfl, .inr rfl,
                hlife rfl rfl rfl⟩
        · exact .inr (idles_still (hlife rfl rfl rfl) rfl rfl rfl)
      · exact .inr hstill
  | lose c broken =>
      cases broken with
      | true =>
          simp only [Coordinator.State.apply, Coordinator.State.giveUp, if_true]
          split
          · exact .inr (idles_still ⟨h.joined, h.deserted, h.shutting, h.running, h.called⟩ rfl rfl
              rfl)
          · exact .inr hstill
      | false =>
          obtain ⟨connections, active, hsame⟩ := hangUp_eq s c
          refine .inr ?_
          change Idles s (s.hangUp c)
          rw [hsame]
          exact idles_still ⟨h.joined, h.deserted, h.shutting, h.running, h.called⟩ rfl rfl rfl
  | receive c input =>
      rw [Coordinator.State.apply.eq_def]
      dsimp only
      split
      · rename_i link hc
        refine .inl ⟨c, _, hc, rfl, ?_⟩
        cases input with
        | none => exact turns_quiet (hsound c _ hc) (works_rfl c s) rfl rfl rfl
        | some inbound => exact handleFrame_turns (hsound c _ hc) inbound
      · exact .inr hstill
  | advance c e =>
      rw [Coordinator.State.apply.eq_def]
      dsimp only
      split
      · rename_i session hc
        cases hlive : session.stage.isEnded with
        | false =>
            exact .inl ⟨c, session, hc, hlive, advance_turns (hsound c _ hc) (h.live hc hlive).1 hc
              hlive e⟩
        | true =>
            obtain ⟨link, stage⟩ := session
            cases stage with
            | ended => exact .inr hstill
            | _ => cases hlive
      · exact .inr hstill
  | handoff c target sent =>
      rw [Coordinator.State.apply.eq_def]
      dsimp only
      split
      · rename_i link next hc
        exact .inl ⟨c, _, hc, rfl, handoff_turns (hsound c _ hc) (h.live hc rfl).1 target sent⟩
      · exact .inr hstill
  | reply c sent =>
      rw [Coordinator.State.apply.eq_def]
      dsimp only
      split
      · rename_i link hc
        refine .inl ⟨c, _, hc, rfl, turns_quiet (hsound c _ hc) (works_rfl c s) ?_ ?_ ?_⟩ <;>
          cases sent <;> rfl
      · exact .inr hstill
  | stop =>
      simp only [Coordinator.State.apply]
      split
      · exact .inr hstill
      · rename_i hstopping
        refine .inr (idles_still ⟨by simp [acceptOver], by simp [servingOver], by simp, fun _ => ?_,
          .inr rfl⟩ rfl rfl rfl)
        rcases h.called with hstop | hcalled
        · exact h.running (by rw [hstop]; rfl)
        · exact absurd hcalled hstopping
  | advanceStop e => exact .inr (advanceStop_idles h e)

/-- What holds of a coordinator all along. -/
structure Tidy (w : Watched) : Prop where
  life : Life w.state
  watches : Watches w
  sound : ∀ (c : SessionId) (session : Session), w.state.sessions[c]? = some session →
    Sound w.state c session
  named : ∀ r ∈ w.registrations,
    r.incarnation.backendId.valid = true ∧ r.incarnation.backendBoot.valid = true

theorem registration_valid {backend : BackendDescriptor} {e : Env}
    (h : (s.registration backend e).accepted = true) :
    backend.backendId.valid = true ∧ backend.backendBoot.valid = true := by
  have hregistrable := registrable_iff.mp (registerBackend_answers (answers_of_accepted h))
  have hvalidate := hregistrable.1
  simp only [BackendDescriptor.validate, chain_eq_none, violation, refuse_eq_none,
    Bool.not_eq_false'] at hvalidate
  exact ⟨hvalidate.1, hvalidate.2.2.1⟩

theorem mem_record {rs : List Registration} {r' : Registration} (h : r' ∈ record s rs m) :
    (∃ r ∈ rs, r'.session = r.session ∧ r'.incarnation = r.incarnation) ∨
      ∃ backend e, r'.incarnation = fenceKey backend ∧ (s.registration backend e).accepted = true ∧
        ∃ session, s.sessions[r'.session]? = some session ∧ session.stage = .registering backend := by
  have hold : r' ∈ rs → ∃ r ∈ rs, r'.session = r.session ∧ r'.incarnation = r.incarnation :=
    fun hr => ⟨r', hr, rfl, rfl⟩
  rw [record.eq_def] at h
  split at h
  · rename_i c e
    cases hc : s.sessions[c]? with
    | none =>
        rw [hc] at h
        exact .inl (hold h)
    | some session =>
        rw [hc, Option.map_some] at h
        split at h
        · rename_i backend hstage
          split at h
          · rename_i haccepted
            rcases List.mem_cons.mp h with rfl | hr
            · exact .inr ⟨backend, e, rfl, haccepted, session, hc, Option.some.inj hstage⟩
            · exact .inl (hold hr)
          · exact .inl (hold h)
        · obtain ⟨r, hr, rfl⟩ := List.mem_map.mp h
          obtain ⟨hsession, hkey⟩ := install_session c s.made.length r
          exact .inl ⟨r, hr, hsession, hkey⟩
        · exact .inl (hold h)
  · exact .inl (hold h)

theorem grows_onSession (t : Coordinator.State) (c : SessionId) (f : Session → Session) :
    Grows t (t.onSession c f) :=
  ⟨fun _ h => h, fun _ link h => ⟨link, h, rfl, id⟩⟩

theorem onSession_self {f : Session → Session} (hc : t.sessions[c]? = some session) :
    (t.onSession c f).sessions[c]? = some (f session) := by
  rw [onSession_sessions, if_pos rfl, hc]
  rfl

theorem Works.life {f : Session → Session} (hworks : Works c s t) (h : Life s)
    (hc : s.sessions[c]? = some session) (hlive : session.stage.isEnded = false) :
    Life (t.onSession c f) := by
  obtain ⟨hrun, hserving⟩ := h.live hc hlive
  have hstop : (t.onSession c f).stop = s.stop := hworks.stop
  refine ⟨fun hover => ?_, fun hdeserted => ?_, fun pending hpending => ?_, fun _ => ?_, ?_⟩
  · exact hworks.loop.trans (h.joined (hstop ▸ hover))
  · rw [hstop, hserving] at hdeserted
    cases hdeserted
  · exact h.shutting pending (hstop ▸ hpending)
  · exact hworks.running hrun
  · rw [hstop]
    exact h.called.imp_right hworks.stopping

theorem apply_tidy (m : Move) (h : Tidy w) : Tidy (w.apply options m) := by
  have hwatches := apply_watches options m h.watches
  have hnamed : ∀ r ∈ (w.apply options m).registrations,
      r.incarnation.backendId.valid = true ∧ r.incarnation.backendBoot.valid = true := by
    intro r' hr'
    rcases mem_record hr' with ⟨r, hr, -, hkey⟩ | ⟨backend, e, hkey, haccepted, -⟩
    · rw [hkey]
      exact h.named r hr
    · rw [hkey]
      exact registration_valid haccepted
  rcases apply_cases options h.life h.sound m with
    ⟨c, session, hc, hlive, t, f, hworks, hstate, hsound, -⟩ | hidle
  · refine ⟨?_, hwatches, fun j other hj => ?_, hnamed⟩
    · rw [Watched.apply, hstate]
      exact hworks.life h.life hc hlive
    · rw [Watched.apply, hstate] at hj ⊢
      by_cases hcj : c = j
      · subst hcj
        rw [onSession_self (hworks.sessions ▸ hc)] at hj
        obtain rfl := Option.some.inj hj
        exact hsound.mono (grows_onSession t c f)
      · rw [onSession_sessions, if_neg hcj, hworks.sessions] at hj
        exact ((h.sound j other hj).mono hworks.toGrows).mono (grows_onSession t c f)
  · refine ⟨hidle.life, hwatches, fun j other hj => ?_, hnamed⟩
    rcases hidle.old_or_new hj with hold | rfl
    · exact (h.sound j other hold).mono hidle.toGrows
    · exact ⟨by simp, by simp [cleans], by simp, by simp [pendingOf]⟩

theorem Settled.apply (hw : Tidy w) (hc : w.state.sessions[c]? = some session)
    (hended : session.stage.isEnded = true) (h : Settled w c) : Settled (w.apply options m) c := by
  have hgrows : Grows w.state (w.apply options m).state ∧
      ∀ (l : LinkId) (link' : BackendLink), (w.apply options m).state.made[l]? = some link' →
        link'.connection = c → ∃ link, w.state.made[l]? = some link := by
    rcases apply_cases options hw.life hw.sound m with
      ⟨j, other, hj, hlive, t, f, hworks, hstate, -, -⟩ | hidle
    · rw [Watched.apply, hstate]
      refine ⟨⟨hworks.fences, hworks.made⟩, fun l link' hl hconnection => ?_⟩
      rcases hworks.fresh l link' hl with hold | hnew
      · exact hold
      · obtain rfl : j = c := hnew.symm.trans hconnection
        obtain rfl := Option.some.inj (hj.symm.trans hc)
        rw [hended] at hlive
        cases hlive
    · refine ⟨hidle.toGrows, fun l link' hl _ => ?_⟩
      have hlt := (List.getElem?_eq_some_iff.mp hl).1
      rw [Watched.apply, hidle.fresh] at hlt
      exact ⟨_, List.getElem?_eq_getElem hlt⟩
  obtain ⟨hgrows, hfresh⟩ := hgrows
  constructor
  · rintro r' hr' hsession
    rcases mem_record hr' with ⟨r, hr, hold, hkey⟩ | ⟨backend, e, -, -, other, hother, hstage⟩
    · rw [hkey]
      exact hgrows.fences _ (h.1 r hr (hold.symm.trans hsession))
    · rw [hsession, hc] at hother
      obtain rfl := Option.some.inj hother
      rw [hstage] at hended
      cases hended
  · intro link' hlink' hconnection
    obtain ⟨l, hl⟩ := List.getElem?_of_mem hlink'
    obtain ⟨link, hmade⟩ := hfresh l link' hl hconnection
    obtain ⟨found, hfound, horigin, hclosed⟩ := hgrows.made l link hmade
    obtain rfl := Option.some.inj (hfound.symm.trans hl)
    exact hclosed (h.2 link (List.mem_of_getElem? hmade)
      ((congrArg Prod.fst horigin).symm.trans hconnection))

theorem ended_cases (hw : Tidy w) {session' : Session}
    (hc : (w.apply options m).state.sessions[c]? = some session')
    (hended : session'.stage.isEnded = true) :
    (∃ session : Session, w.state.sessions[c]? = some session ∧ session.stage.isEnded = true) ∨
      ∃ session, Ends w.state c session m := by
  rcases apply_cases options hw.life hw.sound m with
    ⟨j, other, hj, hlive, t, f, hworks, hstate, -, hends⟩ | hidle
  · rw [Watched.apply, hstate] at hc
    by_cases hcj : j = c
    · subst hcj
      rw [onSession_self (hworks.sessions ▸ hj)] at hc
      obtain rfl := Option.some.inj hc
      exact .inr ⟨other, hends hended⟩
    · rw [onSession_sessions, if_neg hcj, hworks.sessions] at hc
      exact .inl ⟨session', hc, hended⟩
  · rcases hidle.old_or_new hc with hold | rfl
    · exact .inl ⟨session', hold, hended⟩
    · cases hended


theorem settled_iff (hw : Watches w) (hc : w.state.sessions[c]? = some session)
    (hinstall : ∀ backend, session.stage ≠ .installing backend) :
    Settled w c ↔ ∀ (l : LinkId) (link : BackendLink), w.state.made[l]? = some link →
      link.connection = c → link.closed = true ∧ fenced w.state link.incarnation := by
  constructor
  · rintro ⟨hfenced, hclosed⟩ l link hl rfl
    obtain ⟨r, hr, horigin⟩ := hw.made l link hl
    obtain ⟨hsession, hkey⟩ := Prod.mk.inj horigin
    refine ⟨hclosed link (List.mem_of_getElem? hl) rfl, ?_⟩
    rw [hkey]
    exact hfenced r hr hsession.symm
  · intro h
    constructor
    · rintro r hr rfl
      cases hlink : r.link with
      | none =>
          obtain ⟨other, backend, hother, hstage, -⟩ := hw.pending r hr hlink
          obtain rfl := Option.some.inj (hother.symm.trans hc)
          exact absurd hstage (hinstall backend)
      | some l =>
          obtain ⟨link, hl, horigin⟩ := hw.linked r hr l hlink
          obtain ⟨hsession, hkey⟩ := Prod.mk.inj horigin
          rw [← hkey]
          exact (h l link hl hsession).2
    · intro link hmem hconnection
      obtain ⟨l, hl⟩ := List.getElem?_of_mem hmem
      exact (h l link hl hconnection).1

theorem fenceLink_fenced {l : LinkId} {link : BackendLink} (hl : s.made[l]? = some link)
    (hid : link.backendId.valid = true) (hboot : link.backendBoot.valid = true) (e : Env)
    (key : FenceKey) :
    fenced (s.fenceLink l e) key ↔ fenced s key ∨ key = link.incarnation ∧ HasRoom s := by
  have hstate : (s.fenceLink l e).router.state = (Mutation.fenceBackendBoot link.backendId
      link.backendGeneration link.backendBoot .fenced).next e.now s.router.state := by
    simp only [Coordinator.State.fenceLink, hl]
    rfl
  have hrefusal : (Mutation.attempt e.now s.router.state (.fenceBackendBoot link.backendId
      link.backendGeneration link.backendBoot .fenced)).refusal = none ↔ _ :=
    fenceBackendBoot_refusal link.backendId link.backendGeneration link.backendBoot .fenced
  rw [fenced, hstate]
  cases htaken : (Mutation.attempt e.now s.router.state
      (.fenceBackendBoot link.backendId link.backendGeneration link.backendBoot .fenced)).refusal with
  | none =>
      have hroom : HasRoom s := (hrefusal.mp htaken).2.2.2
      rw [(next_of_taken htaken).1, (written_incarnations _ _).1]
      have hfences : (Mutation.attempt e.now s.router.state (.fenceBackendBoot link.backendId
          link.backendGeneration link.backendBoot .fenced)).edited.fencedBoots.contains key = true ↔ _ :=
        (fenceBackendBoot_taken link.backendId link.backendGeneration link.backendBoot .fenced).1 key
      refine hfences.trans ⟨fun h => h.symm.imp_right fun hkey => ⟨hkey.symm, hroom⟩, ?_⟩
      exact fun h => h.symm.imp_left fun hkey => hkey.1.symm
  | some refusal =>
      rw [(next_of_refused htaken).1]
      refine ⟨.inl, fun h => h.elim id ?_⟩
      rintro ⟨rfl, hroom⟩
      by_contra hfree
      have hnone := hrefusal.mpr ⟨hid, hboot, Bool.eq_false_iff.mpr hfree, hroom⟩
      exact Option.some_ne_none _ (htaken.symm.trans hnone)

theorem suffices_none_iff :
    Suffices s c none ↔ ∀ (l : LinkId) (link : BackendLink), s.made[l]? = some link →
      link.connection = c → link.closed = true ∧ fenced s link.incarnation := by
  constructor
  · intro h l link hl hconnection
    obtain ⟨hclosed, hfenced | ⟨l', link', hown, -⟩⟩ := h.others l link hl hconnection (by simp)
    · exact ⟨hclosed, hfenced⟩
    · cases hown
  · intro h
    refine ⟨fun l link hl hconnection _ => ?_, fun l link hown => ?_⟩
    · obtain ⟨hclosed, hfenced⟩ := h l link hl hconnection
      exact ⟨hclosed, .inl hfenced⟩
    · cases hown

theorem suffices_own_iff {l : LinkId} {own : BackendLink} (hl : s.made[l]? = some own)
    (hclosed : own.closed = true) (hconnection : own.connection = c) :
    Suffices s c (some l) ↔ ∀ (j : LinkId) (link : BackendLink), s.made[j]? = some link →
      link.connection = c → link.closed = true ∧
        (fenced s link.incarnation ∨ link.incarnation = own.incarnation ∧ HasRoom s) := by
  constructor
  · intro h j link hj hc
    by_cases hjl : l = j
    · subst hjl
      obtain rfl := Option.some.inj (hl.symm.trans hj)
      exact ⟨hclosed, (h.resolved l own rfl hl).imp_right fun hroom => ⟨rfl, hroom⟩⟩
    · obtain ⟨hshut, hfenced | ⟨l', link', hown, hl', hkey⟩⟩ := h.others j link hj hc (by simpa)
      · exact ⟨hshut, .inl hfenced⟩
      · obtain rfl := Option.some.inj hown
        obtain rfl := Option.some.inj (hl.symm.trans hl')
        refine ⟨hshut, (h.resolved l own rfl hl).imp ?_ fun hroom => ⟨hkey.symm, hroom⟩⟩
        rw [hkey]
        exact id
  · intro h
    refine ⟨fun j link hj hc _ => ?_, fun j link hown hj => ?_⟩
    · obtain ⟨hshut, hfenced | ⟨hkey, -⟩⟩ := h j link hj hc
      · exact ⟨hshut, .inl hfenced⟩
      · exact ⟨hshut, .inr ⟨l, own, rfl, hl, hkey.symm⟩⟩
    · obtain rfl := Option.some.inj hown
      obtain rfl := Option.some.inj (hl.symm.trans hj)
      exact (h l own hl hconnection).2.imp_right And.right

variable (options) in
theorem apply_of_ends (h : Ends w.state c session m) :
    ∃ t : Coordinator.State, (w.apply options m).state = t.enter c .ended ∧
      t.sessions = w.state.sessions ∧ t.made = w.state.made ∧
      (session.link = none ∧ t.router = w.state.router ∨
        ∃ l e, session.stage = .fencing l ∧ t = w.state.fenceLink l e) := by
  cases m with
  | advance c' e =>
      obtain ⟨rfl, hc, hcase⟩ := h
      obtain ⟨link, stage⟩ := session
      rcases hcase with ⟨hstage, hlink⟩ | ⟨l, hstage⟩
      · cases hstage
        cases hlink
        obtain ⟨connections, active, hsame⟩ := hangUp_eq w.state c'
        refine ⟨w.state.hangUp c', ?_, ?_, ?_, .inl ⟨rfl, ?_⟩⟩
        · simp only [Watched.apply, Coordinator.State.apply, hc, Coordinator.State.advance]
        · rw [hsame]
        · rw [hsame]
        · rw [hsame]
      · cases hstage
        refine ⟨w.state.fenceLink l e, ?_, (keeps_fenceLink w.state l e).1, ?_, .inr ⟨l, e, rfl, rfl⟩⟩
        · simp only [Watched.apply, Coordinator.State.apply, hc, Coordinator.State.advance]
        · rw [Coordinator.State.fenceLink]
          split <;> rfl
  | _ => exact h.elim

theorem ends_session (h : Ends s c session m) : s.sessions[c]? = some session := by
  cases m with
  | advance c' e => exact h.2.1
  | _ => exact h.elim

variable (options) in
theorem ends_ended (h : Ends w.state c session m) :
    (w.apply options m).state.sessions[c]? = some { session with stage := .ended } := by
  obtain ⟨t, hstate, hsessions, -⟩ := apply_of_ends options h
  rw [hstate, enter_self (hsessions.symm ▸ ends_session h)]

theorem ends_settled_iff (hw : Tidy w) (h : Ends w.state c session m) :
    Settled (w.apply options m) c ↔ Suffices w.state c session.link := by
  have hself := ends_ended options h
  rw [settled_iff (apply_watches options m hw.watches) hself (by simp)]
  obtain ⟨t, hstate, -, hmade, ⟨hlink, hrouter⟩ | ⟨l, e, hstage, rfl⟩⟩ :=
    apply_of_ends options h
  · have hlinks : (t.enter c .ended).made = w.state.made := hmade
    have hfenced (key : FenceKey) : fenced (t.enter c .ended) key ↔ fenced w.state key := by
      rw [fenced, fenced, ← hrouter]
      exact Iff.rfl
    rw [hstate, hlink, suffices_none_iff, hlinks]
    simp only [hfenced]
  · have hsound := hw.sound c session (ends_session h)
    have hlink : session.link = some l := hsound.cleaning l (by rw [hstage]; rfl)
    obtain ⟨own, hl, hconnection⟩ := hsound.link l hlink
    obtain ⟨r, hr, horigin⟩ := hw.watches.made l own hl
    obtain ⟨hid, hboot⟩ := hw.named r hr
    obtain ⟨-, hkey⟩ := Prod.mk.inj horigin
    rw [← hkey] at hid hboot
    have hlinks : (w.apply options m).state.made = w.state.made := by
      rw [hstate]
      exact hmade
    have hfenced (key : FenceKey) : fenced (w.apply options m).state key ↔
        fenced w.state key ∨ key = own.incarnation ∧ HasRoom w.state := by
      rw [hstate]
      exact fenceLink_fenced hl hid hboot e key
    rw [hlink, hlinks, suffices_own_iff hl (hsound.woken l own (.inr hstage) hl) hconnection]
    simp only [hfenced]

theorem apply_settled_iff (hw : Tidy w) (hs : AllSettled w) :
    AllSettled (w.apply options m) ↔ ¬EndsShort w.state m := by
  constructor
  · rintro hall ⟨c, session, hends, hshort⟩
    have hself := ends_ended options hends
    exact hshort ((ends_settled_iff hw hends).mp (hall c _ hself rfl))
  · intro hnone c session' hc hended
    rcases ended_cases hw hc hended with ⟨session, hold, hbefore⟩ | ⟨session, hends⟩
    · exact Settled.apply hw hold hbefore (hs c session hold hbefore)
    · refine (ends_settled_iff hw hends).mpr ?_
      by_contra hshort
      exact hnone ⟨c, session, hends, hshort⟩

theorem launched_tidy {router : World} (hrun : Running router) :
    Tidy ⟨launched router, []⟩ ∧ AllSettled ⟨launched router, []⟩ := by
  have hlife : Life (launched router) :=
    ⟨by simp [launched, acceptOver], by simp [launched], by simp [launched], fun _ => hrun, .inl rfl⟩
  refine ⟨⟨hlife, (launched_watches router).1, ?_, by simp⟩, ?_⟩
  · intro c session hc
    cases hc
  · intro c session hc
    cases hc

/-- All along a run every session that has ended left its incarnations fenced and its links closed
exactly when no session ends short. -/
theorem ended_sessions_settled_iff {router : World} {es : List (Event Watched Move)} {t : Watched}
    (hrun : router.state.running = true) (h : Histories options router es t) :
    (∀ e ∈ es, AllSettled (e.pre.apply options e.act)) ↔ ∀ e ∈ es, ¬EndsShort e.pre.state e.act := by
  obtain ⟨htidy, hsettled⟩ := launched_tidy hrun
  exact h.forall_iff hsettled htidy fun e _ hI hJ =>
    ⟨apply_settled_iff hJ hI, apply_tidy e.act hJ⟩

theorem one_backend_settled :
    let es := watch (arrivals 1 ++ enrol 0 (sampleBackend ⟨1⟩ ⟨1⟩) ++ leave 0)
    (∀ e ∈ es, AllSettled (e.pre.apply sampleOptions e.act)) ↔
      ∀ e ∈ es, ¬EndsShort e.pre.state e.act :=
  ended_sessions_settled_iff (by decide +kernel) (Chained.trace_chained _ _ _)

def lostReply : List Move :=
  arrivals 1 ++
    [.receive 0 (some (.backendRegister ⟨sampleBackend ⟨1⟩ ⟨1⟩⟩)), .advance 0 sampleEnv,
      .advance 0 sampleEnv, .reply 0 false, .advance 0 sampleEnv]

theorem lost_reply_leaves_backend :
    ¬∀ (options : ModelRouterOptions) (router : World) (es : List (Event Watched Move))
        (t : Watched), router.state.running = true → Histories options router es t →
      ∀ e ∈ es, AllSettled (e.pre.apply options e.act) := by
  intro h
  have hlast := h _ _ (watch lostReply) _ (by decide +kernel) (Chained.trace_chained _ _ _)
    ⟨.advance 0 sampleEnv, _⟩ (List.mem_of_getElem? (i := 6) rfl)
  obtain ⟨hfenced, -⟩ := hlast 0 ⟨none, .ended⟩ rfl rfl
  have hkey := hfenced ⟨0, ⟨⟨7⟩, ⟨1⟩⟩, some 0⟩ (by decide +kernel) rfl
  exact absurd hkey (by rw [fenced]; decide +kernel)

end ModelRouter.Cleanup
