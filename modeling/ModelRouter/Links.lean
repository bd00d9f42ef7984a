import ModelRouter.Fencing
import ModelRouter.Sessions

namespace ModelRouter.Links

open Base Bytes Ids Outcome Evidence Catalog State Commit Providers Section Coordinator
open MutationFacts Sessions

/-- An accepted registration: the session it came over, the incarnation, and its link as soon as
that is installed. -/
structure Registration where
  session : SessionId
  incarnation : FenceKey
  link : Option LinkId := none
deriving DecidableEq

/-- The coordinator with the registrations it accepted, the latest one first. -/
structure Watched where
  state : Coordinator.State
  registrations : List Registration := []

def Registration.install (c : SessionId) (l : LinkId) (r : Registration) : Registration :=
  if r.session = c ∧ r.link = none then { r with link := some l } else r

/-- The registrations after a step. -/
def record (s : Coordinator.State) (rs : List Registration) : Move → List Registration
  | .advance c e =>
    match (s.sessions[c]?).map Session.stage with
    | some (.registering backend) =>
      if (s.registration backend e).accepted then
        { session := c, incarnation := fenceKey backend } :: rs
      else rs
    | some (.installing _) => rs.map (Registration.install c s.made.length)
    | _ => rs
  | _ => rs

namespace Watched

def apply (options : ModelRouterOptions) (m : Move) (w : Watched) : Watched where
  state := w.state.apply options m
  registrations := record w.state w.registrations m

def latest (w : Watched) (id : BackendId) : Option Registration :=
  w.registrations.find? fun r => r.incarnation.backendId = id

def serves (w : Watched) (c : SessionId) : Bool :=
  (w.state.sessions[c]?).any fun session => session.stage.open

/-- The latest registration of the backend has its link and came over an open session. -/
def Lives (w : Watched) (id : BackendId) (l : LinkId) : Prop :=
  ∃ r, w.latest id = some r ∧ r.link = some l ∧ w.serves r.session = true

end Watched

/-- A backend whose latest registration came over an open session is found under that link. -/
def Reachable (w : Watched) : Prop :=
  ∀ id l, w.Lives id l → w.state.links.find? id = some l

/-- The step replaces or removes the link of a backend that another registration lives on. -/
def Displaces (w : Watched) : Move → Prop
  | .advance c _ =>
    ∃ session, w.state.sessions[c]? = some session ∧
      ((∃ backend, session.stage = .installing backend ∧ ∃ l, w.Lives backend.backendId l) ∨
        ∃ l link, session.stage = .erasing l ∧ w.state.made[l]? = some link ∧
          ∃ l', w.Lives link.backendId l')
  | _ => False

def origin (link : BackendLink) : SessionId × FenceKey :=
  (link.connection, link.incarnation)

/-- The stage moved on without an installation and without opening again. -/
def Onward (a b : Stage) : Prop :=
  b = a ∨
    (∀ backend, a ≠ .installing backend) ∧ (∀ backend, b ≠ .installing backend) ∧
      (b.open = true → a.open = true)

/-- The links keep their origin, no session begins or ends an installation, and a session that is
new has received nothing. -/
structure Frames (s t : Coordinator.State) : Prop where
  made : ∀ l : LinkId, (t.made[l]?).map origin = (s.made[l]?).map origin
  sessions : ∀ (c : SessionId) (session : Session), s.sessions[c]? = some session →
    ∃ session' : Session, t.sessions[c]? = some session' ∧ Onward session.stage session'.stage
  newcomers : ∀ (c : SessionId) (session' : Session), t.sessions[c]? = some session' →
    (∃ session, s.sessions[c]? = some session) ∨ session' = {}

def Keeps (s t : Coordinator.State) : Prop :=
  t.sessions = s.sessions ∧ ∀ l : LinkId, (t.made[l]?).map origin = (s.made[l]?).map origin

variable {options : ModelRouterOptions} {s t : Coordinator.State} {w : Watched}

theorem keeps_rfl (s : Coordinator.State) : Keeps s s :=
  ⟨rfl, fun _ => rfl⟩

theorem keeps_onRouter (s : Coordinator.State) (k : Act) : Keeps s (s.onRouter k) :=
  ⟨rfl, fun _ => rfl⟩

theorem keeps_edit (s : Coordinator.State) (l : LinkId) {f : BackendLink → BackendLink}
    (hf : ∀ link, origin (f link) = origin link) : Keeps s (s.edit l f) := by
  refine ⟨rfl, fun j => ?_⟩
  rw [Coordinator.State.edit, List.getElem?_modify, Option.map_eq_map, Option.map_map]
  refine congrArg (Option.map · _) (funext fun link => ?_)
  by_cases hj : l = j
  · simp [hj, hf]
  · simp [hj]

theorem hangUp_eq (s : Coordinator.State) (c : SessionId) :
    ∃ connections active, s.hangUp c = { s with connections := connections, active := active } := by
  rw [Coordinator.State.hangUp]
  split
  · exact ⟨_, _, rfl⟩
  · exact ⟨_, _, rfl⟩

theorem keeps_hangUp (s : Coordinator.State) (c : SessionId) :
    Keeps s (s.hangUp c) ∧ (s.hangUp c).links = s.links := by
  obtain ⟨connections, active, h⟩ := hangUp_eq s c
  rw [h]
  exact ⟨⟨rfl, fun _ => rfl⟩, rfl⟩

theorem origin_close (link : BackendLink) : origin link.close = origin link := rfl

theorem origin_put (message : Messages.DispatchResultMessage) (link : BackendLink) :
    origin (link.put message) = origin link := rfl

theorem origin_take (id : DispatchId) (link : BackendLink) :
    origin (link.take id) = origin link := rfl

theorem keeps_eraseLink (s : Coordinator.State) (l : LinkId) : Keeps s (s.eraseLink l) := by
  rw [Coordinator.State.eraseLink]
  split
  · exact ⟨rfl, fun _ => rfl⟩
  · exact keeps_rfl s

theorem keeps_fenceLink (s : Coordinator.State) (l : LinkId) (e : Env) :
    Keeps s (s.fenceLink l e) := by
  rw [Coordinator.State.fenceLink]
  split
  · exact keeps_onRouter s _
  · exact keeps_rfl s

theorem keeps_closeLink (s : Coordinator.State) (l : LinkId) :
    Keeps s (s.closeLink l) ∧ (s.closeLink l).links = s.links := by
  rw [Coordinator.State.closeLink]
  split
  · rename_i link _
    obtain ⟨⟨hsessions, hmade⟩, hlinks⟩ := keeps_hangUp s link.connection
    have hclose := keeps_edit (s.hangUp link.connection) l origin_close
    exact ⟨⟨hclose.1.trans hsessions, fun j => (hclose.2 j).trans (hmade j)⟩, hlinks⟩
  · exact ⟨keeps_rfl s, rfl⟩

theorem Keeps.frames (h : Keeps s t) : Frames s t where
  made := h.2
  sessions _ session hc := ⟨session, h.1 ▸ hc, .inl rfl⟩
  newcomers _ session' hc := .inl ⟨session', h.1 ▸ hc⟩

theorem onSession_sessions (s : Coordinator.State) (c : SessionId) (f : Session → Session)
    (j : SessionId) :
    (s.onSession c f).sessions[j]? =
      if c = j then (s.sessions[j]?).map f else s.sessions[j]? := by
  rw [Coordinator.State.onSession, List.getElem?_modify]
  by_cases hj : c = j
  · simp [hj]
  · simp [hj]

theorem Keeps.onSession (h : Keeps s t) {c : SessionId} {session : Session}
    {f : Session → Session} (hc : s.sessions[c]? = some session)
    (honward : Onward session.stage (f session).stage) : Frames s (t.onSession c f) where
  made := h.2
  sessions j other hj := by
    rw [onSession_sessions, h.1]
    by_cases hcj : c = j
    · subst hcj
      obtain rfl : session = other := Option.some.inj (hc.symm.trans hj)
      exact ⟨f session, by simp [hc], honward⟩
    · exact ⟨other, by simp [hcj, hj], .inl rfl⟩
  newcomers j session' hj := by
    rw [onSession_sessions, h.1] at hj
    by_cases hcj : c = j
    · exact .inl ⟨session, hcj ▸ hc⟩
    · rw [if_neg hcj] at hj
      exact .inl ⟨session', hj⟩

theorem Keeps.enter (h : Keeps s t) {c : SessionId} {session : Session} {stage : Stage}
    (hc : s.sessions[c]? = some session) (honward : Onward session.stage stage) :
    Frames s (t.enter c stage) :=
  h.onSession hc honward

theorem onward_of_open {a b : Stage} (ha : a.open = true)
    (hinstall : ∀ backend, a ≠ .installing backend) (hb : ∀ backend, b ≠ .installing backend) :
    Onward a b :=
  .inr ⟨hinstall, hb, fun _ => ha⟩

theorem onward_of_closed {a b : Stage} (hinstall : ∀ backend, a ≠ .installing backend)
    (hb : b.open = false) : Onward a b := by
  refine .inr ⟨hinstall, ?_, fun h => ?_⟩
  · rintro backend rfl
    cases hb
  · rw [hb] at h
    cases h

theorem handleFrame_frames {c : SessionId} {link : Option LinkId}
    (hc : s.sessions[c]? = some ⟨link, .receiving⟩) (inbound : Inbound) :
    Frames s (s.handleFrame options c inbound) ∧
      (s.handleFrame options c inbound).links = s.links := by
  have henter {stage : Stage} (h : ∀ backend, stage ≠ .installing backend) :
      Frames s (s.enter c stage) := (keeps_rfl s).enter hc (onward_of_open rfl (by simp) h)
  cases inbound with
  | dispatchResult message =>
      rw [Coordinator.State.handleFrame.eq_def]
      dsimp only
      cases s.resolve c with
      | none => exact ⟨henter (by simp), rfl⟩
      | some l => exact ⟨henter (by simp), rfl⟩
  | adminRequest request calls =>
      have hstopping (b : Bool) : Keeps s { s with stopping := b } := ⟨rfl, fun _ => rfl⟩
      exact ⟨(hstopping _).enter hc (onward_of_open rfl (by simp) (by simp)), rfl⟩
  | _ => exact ⟨henter (by simp), rfl⟩

theorem handoff_frames {c : SessionId} {link : Option LinkId} {pending : Operation Unit}
    (hc : s.sessions[c]? = some ⟨link, .calling pending⟩) (target : Candidate.CandidateKey)
    (sent : Bool) :
    Frames s (s.handoff c target sent pending) ∧
      (s.handoff c target sent pending).links = s.links := by
  rw [Coordinator.State.handoff.eq_def]
  split
  · exact ⟨(keeps_rfl s).frames, rfl⟩
  · dsimp only
    split
    · split
      · exact ⟨(keeps_onRouter s _).enter hc (onward_of_open rfl (by simp) (by simp)), rfl⟩
      · exact ⟨(keeps_onRouter s _).frames, rfl⟩
    · exact ⟨(keeps_rfl s).frames, rfl⟩

theorem advance_frames {c : SessionId} {session : Session} (hc : s.sessions[c]? = some session)
    (e : Env)
    (hregister : ∀ backend, session.stage = .registering backend →
      (s.registration backend e).accepted = false)
    (hinstall : ∀ backend, session.stage ≠ .installing backend) :
    Frames s (s.advance c session e) ∧
      ((∀ l, session.stage ≠ .erasing l) → (s.advance c session e).links = s.links) := by
  obtain ⟨link, stage⟩ := session
  have hquiet {t : Coordinator.State} (h : Keeps s t) (hopen : stage.open = true) {b : Stage}
      (hb : ∀ backend, b ≠ .installing backend) : Frames s (t.enter c b) :=
    h.enter hc (onward_of_open hopen hinstall hb)
  have hclosed {t : Coordinator.State} (h : Keeps s t) {b : Stage} (hb : b.open = false) :
      Frames s (t.enter c b) := h.enter hc (onward_of_closed hinstall hb)
  cases stage with
  | registering backend =>
      have hnext : (if (s.registration backend e).accepted then Stage.installing backend
          else .replying) = .replying := by simp [hregister backend rfl]
      simp only [Coordinator.State.advance, hnext]
      exact ⟨hquiet (keeps_onRouter s _) rfl (by simp), fun _ => rfl⟩
  | installing backend => exact absurd rfl (hinstall backend)
  | calling pending =>
      cases pending with
      | done _ => exact ⟨hquiet (keeps_rfl s) rfl (by simp), fun _ => rfl⟩
      | act k next => exact ⟨hquiet (keeps_onRouter s k) rfl (by simp), fun _ => rfl⟩
      | ask next => exact ⟨hquiet (keeps_rfl s) rfl (by simp), fun _ => rfl⟩
  | awaiting l id pending =>
      simp only [Coordinator.State.advance]
      split
      · exact ⟨hquiet (keeps_edit s l (origin_take id)) rfl (by simp), fun _ => rfl⟩
      · exact ⟨(keeps_rfl s).frames, fun _ => rfl⟩
  | delivering l message =>
      exact ⟨hquiet (keeps_edit s l (origin_put message)) rfl (by simp), fun _ => rfl⟩
  | resolving keepGoing =>
      have hnext : ∀ backend, (if keepGoing then Stage.receiving else .closing) ≠
          .installing backend := by cases keepGoing <;> simp
      exact ⟨(keeps_rfl s).onSession hc (onward_of_open rfl hinstall hnext), fun _ => rfl⟩
  | closing =>
      obtain ⟨hkeeps, hlinks⟩ := keeps_hangUp s c
      cases link with
      | none => exact ⟨hclosed hkeeps rfl, fun _ => hlinks⟩
      | some l => exact ⟨hclosed hkeeps rfl, fun _ => hlinks⟩
  | waking l => exact ⟨hclosed (keeps_edit s l origin_close) rfl, fun _ => rfl⟩
  | erasing l => exact ⟨hclosed (keeps_eraseLink s l) rfl, fun h => absurd rfl (h l)⟩
  | fencing l =>
      refine ⟨hclosed (keeps_fenceLink s l e) rfl, fun _ => ?_⟩
      change (s.fenceLink l e).links = s.links
      rw [Coordinator.State.fenceLink]
      split <;> rfl
  | receiving => exact ⟨(keeps_rfl s).frames, fun _ => rfl⟩
  | replying => exact ⟨(keeps_rfl s).frames, fun _ => rfl⟩
  | ended => exact ⟨(keeps_rfl s).frames, fun _ => rfl⟩

def Registers (s : Coordinator.State) (c : SessionId) (backend : BackendDescriptor) : Move → Prop
  | .advance c' e =>
    c' = c ∧ ∃ session, s.sessions[c]? = some session ∧ session.stage = .registering backend ∧
      (s.registration backend e).accepted = true
  | _ => False

def Installs (s : Coordinator.State) (c : SessionId) (backend : BackendDescriptor) : Move → Prop
  | .advance c' _ =>
    c' = c ∧ ∃ session, s.sessions[c]? = some session ∧ session.stage = .installing backend
  | _ => False

def Erases (s : Coordinator.State) (c : SessionId) (l : LinkId) : Move → Prop
  | .advance c' _ =>
    c' = c ∧ ∃ session, s.sessions[c]? = some session ∧ session.stage = .erasing l
  | _ => False

variable (options) in
theorem advanceStop_frames (e : Env) :
    Frames s (s.advanceStop options e) ∧ (s.advanceStop options e).links = s.links := by
  have hstill {t : Coordinator.State} (hsessions : t.sessions = s.sessions)
      (hmade : t.made = s.made) : Frames s t := Keeps.frames ⟨hsessions, fun l => by rw [hmade]⟩
  rw [Coordinator.State.advanceStop.eq_def]
  split
  · split
    · exact ⟨hstill rfl rfl, rfl⟩
    · exact ⟨(keeps_rfl s).frames, rfl⟩
  · rename_i l rest _
    obtain ⟨hclose, hlinks⟩ := keeps_closeLink s l
    exact ⟨⟨hclose.2, hclose.frames.sessions, hclose.frames.newcomers⟩, hlinks⟩
  · exact ⟨hstill rfl rfl, rfl⟩
  · split
    · exact ⟨hstill rfl rfl, rfl⟩
    · exact ⟨(keeps_rfl s).frames, rfl⟩
  · exact ⟨hstill rfl rfl, rfl⟩
  · exact ⟨hstill rfl rfl, rfl⟩
  · exact ⟨hstill rfl rfl, rfl⟩
  · exact ⟨(keeps_rfl s).frames, rfl⟩
  · exact ⟨(keeps_rfl s).frames, rfl⟩

theorem newcomer_frames (hmade : t.made = s.made)
    (hsessions : t.sessions = s.sessions ++ [({} : Session)]) :
    Frames s t where
  made l := by rw [hmade]
  sessions c session hc := by
    refine ⟨session, ?_, .inl rfl⟩
    rw [hsessions, List.getElem?_append_left (List.getElem?_eq_some_iff.mp hc).1]
    exact hc
  newcomers c session' hc := by
    rw [hsessions, List.getElem?_append] at hc
    split at hc
    · exact .inl ⟨session', hc⟩
    · exact .inr (List.mem_singleton.mp (List.mem_of_getElem? hc))

variable (options) in
/-- A step that accepts no registration and installs no link frames the coordinator, and one that
erases none either leaves the map of the links as it is. -/
theorem apply_frames {m : Move} (hregister : ∀ c backend, ¬Registers s c backend m)
    (hinstall : ∀ c backend, ¬Installs s c backend m) :
    Frames s (s.apply options m) ∧
      ((∀ c l, ¬Erases s c l m) → (s.apply options m).links = s.links) := by
  have hstill {t : Coordinator.State} (hsessions : t.sessions = s.sessions)
      (hmade : t.made = s.made) : Frames s t := Keeps.frames ⟨hsessions, fun l => by rw [hmade]⟩
  cases m with
  | check =>
      simp only [Coordinator.State.apply]
      split
      · exact ⟨hstill rfl rfl, fun _ => rfl⟩
      · exact ⟨(keeps_rfl s).frames, fun _ => rfl⟩
  | accept arrival =>
      simp only [Coordinator.State.apply]
      split
      · split
        · split
          · exact ⟨hstill rfl rfl, fun _ => rfl⟩
          · rw [Coordinator.State.admitSession]
            split
            · exact ⟨hstill rfl rfl, fun _ => rfl⟩
            · exact ⟨newcomer_frames rfl rfl, fun _ => rfl⟩
        · exact ⟨hstill rfl rfl, fun _ => rfl⟩
      · exact ⟨(keeps_rfl s).frames, fun _ => rfl⟩
  | lose c broken =>
      cases broken with
      | true =>
          simp only [Coordinator.State.apply, Coordinator.State.giveUp, if_true]
          split
          · exact ⟨hstill rfl rfl, fun _ => rfl⟩
          · exact ⟨(keeps_rfl s).frames, fun _ => rfl⟩
      | false =>
          obtain ⟨hkeeps, hlinks⟩ := keeps_hangUp s c
          exact ⟨hkeeps.frames, fun _ => hlinks⟩
  | receive c input =>
      rw [Coordinator.State.apply.eq_def]
      dsimp only
      split
      · rename_i link hc
        cases input with
        | none =>
            exact ⟨(keeps_rfl s).enter hc (onward_of_open rfl (by simp) (by simp)), fun _ => rfl⟩
        | some inbound =>
            obtain ⟨hframes, hlinks⟩ := handleFrame_frames hc inbound
            exact ⟨hframes, fun _ => hlinks⟩
      · exact ⟨(keeps_rfl s).frames, fun _ => rfl⟩
  | advance c e =>
      rw [Coordinator.State.apply.eq_def]
      dsimp only
      split
      · rename_i session hc
        obtain ⟨hframes, hlinks⟩ :=
          advance_frames hc e
            (fun backend hb => by
              simpa using fun h => hregister c backend ⟨rfl, session, hc, hb, h⟩)
            fun backend hb => hinstall c backend ⟨rfl, session, hc, hb⟩
        exact ⟨hframes, fun h => hlinks fun l hl => h c l ⟨rfl, session, hc, hl⟩⟩
      · exact ⟨(keeps_rfl s).frames, fun _ => rfl⟩
  | handoff c target sent =>
      rw [Coordinator.State.apply.eq_def]
      dsimp only
      split
      · rename_i link next hc
        obtain ⟨hframes, hlinks⟩ := handoff_frames hc target sent
        exact ⟨hframes, fun _ => hlinks⟩
      · exact ⟨(keeps_rfl s).frames, fun _ => rfl⟩
  | reply c sent =>
      rw [Coordinator.State.apply.eq_def]
      dsimp only
      split
      · rename_i link hc
        refine ⟨(keeps_rfl s).enter hc (onward_of_open rfl (by simp) ?_), fun _ => rfl⟩
        cases sent <;> simp
      · exact ⟨(keeps_rfl s).frames, fun _ => rfl⟩
  | stop =>
      simp only [Coordinator.State.apply]
      split
      · exact ⟨(keeps_rfl s).frames, fun _ => rfl⟩
      · exact ⟨hstill rfl rfl, fun _ => rfl⟩
  | advanceStop e =>
      obtain ⟨hframes, hlinks⟩ := advanceStop_frames options (s := s) e
      exact ⟨hframes, fun _ => hlinks⟩

theorem record_of_neither {m : Move} (hregister : ∀ c backend, ¬Registers s c backend m)
    (hinstall : ∀ c backend, ¬Installs s c backend m) (rs : List Registration) :
    record s rs m = rs := by
  rw [record.eq_def]
  split
  · rename_i c e
    cases hc : s.sessions[c]? with
    | none => rfl
    | some session =>
        rw [Option.map_some]
        split
        · rename_i backend hstage
          refine if_neg fun haccepted => hregister c backend ⟨rfl, session, hc, ?_, haccepted⟩
          exact Option.some.inj hstage
        · rename_i backend hstage
          exact absurd ⟨rfl, session, hc, Option.some.inj hstage⟩ (hinstall c backend)
        · rfl
  · rfl

variable (options) in
theorem apply_of_registers {m : Move} {c : SessionId} {backend : BackendDescriptor}
    (h : Registers w.state c backend m) :
    (∃ k, (w.apply options m).state = (w.state.onRouter k).enter c (.installing backend)) ∧
      (w.apply options m).registrations =
        { session := c, incarnation := fenceKey backend } :: w.registrations := by
  cases m with
  | advance c' e =>
      obtain ⟨rfl, ⟨link, stage⟩, hc, hstage, haccepted⟩ := h
      cases hstage
      constructor
      · refine ⟨.mutate (.registerBackend backend) e.now, ?_⟩
        simp only [Watched.apply, Coordinator.State.apply, hc, Coordinator.State.advance, haccepted,
          if_true]
      · simp only [Watched.apply, record, hc, Option.map_some, haccepted, if_true]
  | _ => exact h.elim

variable (options) in
theorem apply_of_installs {m : Move} {c : SessionId} {backend : BackendDescriptor}
    (h : Installs w.state c backend m) :
    (w.apply options m).state = (w.state.install c backend).enter c .replying ∧
      (w.apply options m).registrations =
        w.registrations.map (Registration.install c w.state.made.length) := by
  cases m with
  | advance c' e =>
      obtain ⟨rfl, ⟨link, stage⟩, hc, hstage⟩ := h
      cases hstage
      constructor
      · simp only [Watched.apply, Coordinator.State.apply, hc, Coordinator.State.advance]
      · simp only [Watched.apply, record, hc, Option.map_some]
  | _ => exact h.elim

/-- The registrations tell where the links come from, and which sessions are about to install
one. -/
structure Watches (w : Watched) : Prop where
  pending : ∀ r ∈ w.registrations, r.link = none →
    ∃ (session : Session) (backend : BackendDescriptor),
      w.state.sessions[r.session]? = some session ∧ session.stage = .installing backend ∧
        fenceKey backend = r.incarnation
  expected : ∀ (c : SessionId) (session : Session) (backend : BackendDescriptor),
    w.state.sessions[c]? = some session → session.stage = .installing backend →
      ∃ r ∈ w.registrations, r.session = c ∧ r.incarnation = fenceKey backend
  linked : ∀ r ∈ w.registrations, ∀ l, r.link = some l →
    ∃ link, w.state.made[l]? = some link ∧ origin link = (r.session, r.incarnation)
  made : ∀ (l : LinkId) (link : BackendLink), w.state.made[l]? = some link →
    ∃ r ∈ w.registrations, origin link = (r.session, r.incarnation)
  known : ∀ r ∈ w.registrations, r.session < w.state.sessions.length

theorem Frames.watches {v : Watched} (h : Frames w.state v.state)
    (hregistrations : v.registrations = w.registrations) (hw : Watches w) : Watches v where
  pending r hr hlink := by
    obtain ⟨session, backend, hc, hstage, hkey⟩ := hw.pending r (hregistrations ▸ hr) hlink
    obtain ⟨session', hc', honward⟩ := h.sessions r.session session hc
    rcases honward with hsame | hmoved
    · exact ⟨session', backend, hc', hsame.trans hstage, hkey⟩
    · exact absurd hstage (hmoved.1 backend)
  expected c session' backend hc' hstage := by
    rw [hregistrations]
    rcases h.newcomers c session' hc' with ⟨session, hc⟩ | rfl
    · obtain ⟨found, hfound, honward⟩ := h.sessions c session hc
      obtain rfl : found = session' := Option.some.inj (hfound.symm.trans hc')
      rcases honward with hsame | hmoved
      · exact hw.expected c session backend hc (hsame.symm.trans hstage)
      · exact absurd hstage (hmoved.2.1 backend)
    · cases hstage
  linked r hr l hl := by
    obtain ⟨link, hmade, horigin⟩ := hw.linked r (hregistrations ▸ hr) l hl
    have hsame := h.made l
    rw [hmade, Option.map_some, Option.map_eq_some_iff] at hsame
    obtain ⟨link', hmade', horigin'⟩ := hsame
    exact ⟨link', hmade', horigin'.trans horigin⟩
  made l link' hmade' := by
    have hsame := h.made l
    rw [hmade', Option.map_some, eq_comm, Option.map_eq_some_iff] at hsame
    obtain ⟨link, hmade, horigin⟩ := hsame
    rw [hregistrations, ← horigin]
    exact hw.made l link hmade
  known r hr := by
    have hc := hw.known r (hregistrations ▸ hr)
    obtain ⟨session', hc', -⟩ := h.sessions r.session _ (List.getElem?_eq_getElem hc)
    exact (List.getElem?_eq_some_iff.mp hc').1

theorem registers_session {c : SessionId} {backend : BackendDescriptor} {m : Move}
    (h : Registers s c backend m) :
    ∃ session, s.sessions[c]? = some session ∧ session.stage = .registering backend := by
  cases m with
  | advance c' e =>
      obtain ⟨-, session, hc, hstage, -⟩ := h
      exact ⟨session, hc, hstage⟩
  | _ => exact h.elim

theorem installs_session {c : SessionId} {backend : BackendDescriptor} {m : Move}
    (h : Installs s c backend m) :
    ∃ session, s.sessions[c]? = some session ∧ session.stage = .installing backend := by
  cases m with
  | advance c' e => exact h.2
  | _ => exact h.elim

theorem enter_of_ne {c j : SessionId} (h : c ≠ j) (stage : Stage) :
    (s.enter c stage).sessions[j]? = s.sessions[j]? := by
  rw [Coordinator.State.enter, onSession_sessions, if_neg h]

theorem enter_self {c : SessionId} {session : Session} (hc : s.sessions[c]? = some session)
    (stage : Stage) :
    (s.enter c stage).sessions[c]? = some { session with stage := stage } := by
  rw [Coordinator.State.enter, onSession_sessions, if_pos rfl, hc]
  rfl

@[simp] theorem enter_length (s : Coordinator.State) (c : SessionId) (stage : Stage) :
    (s.enter c stage).sessions.length = s.sessions.length :=
  List.length_modify ..

theorem registers_watches {m : Move} {c : SessionId} {backend : BackendDescriptor}
    (h : Registers w.state c backend m) (hw : Watches w) : Watches (w.apply options m) := by
  obtain ⟨⟨k, hstate⟩, hregistrations⟩ := apply_of_registers options h
  obtain ⟨session, hc, hstage⟩ := registers_session h
  have hself := enter_self (s := w.state.onRouter k) hc (.installing backend)
  have hother {j : SessionId} (hj : c ≠ j) :
      (w.apply options m).state.sessions[j]? = w.state.sessions[j]? := by
    rw [hstate, enter_of_ne hj]
    rfl
  have hmade : (w.apply options m).state.made = w.state.made := by
    rw [hstate]
    rfl
  rw [← hstate] at hself
  refine ⟨?_, ?_, ?_, ?_, ?_⟩
  · rw [hregistrations, List.forall_mem_cons]
    refine ⟨fun _ => ⟨_, backend, hself, rfl, rfl⟩, fun r hr hlink => ?_⟩
    obtain ⟨other, backend', hr', hstage', hkey⟩ := hw.pending r hr hlink
    have hne : c ≠ r.session := by
      intro hcr
      rw [← hcr, hc] at hr'
      obtain rfl := Option.some.inj hr'
      rw [hstage] at hstage'
      cases hstage'
    exact ⟨other, backend', (hother hne).trans hr', hstage', hkey⟩
  · intro j other backend' hj hstage'
    rw [hregistrations]
    by_cases hcj : c = j
    · subst hcj
      obtain rfl := Option.some.inj (hself.symm.trans hj)
      obtain rfl := Stage.installing.inj hstage'
      exact ⟨_, List.mem_cons_self, rfl, rfl⟩
    · rw [hother hcj] at hj
      obtain ⟨r, hr, hfound⟩ := hw.expected j other backend' hj hstage'
      exact ⟨r, List.mem_cons_of_mem _ hr, hfound⟩
  · rw [hregistrations, hmade, List.forall_mem_cons]
    exact ⟨by simp, hw.linked⟩
  · intro l link hl
    rw [hmade] at hl
    obtain ⟨r, hr, horigin⟩ := hw.made l link hl
    exact ⟨r, hregistrations ▸ List.mem_cons_of_mem _ hr, horigin⟩
  · have hlength : (w.apply options m).state.sessions.length = w.state.sessions.length := by
      rw [hstate, enter_length]
      rfl
    rw [hregistrations, hlength, List.forall_mem_cons]
    exact ⟨(List.getElem?_eq_some_iff.mp hc).1, hw.known⟩

theorem install_session (c : SessionId) (l : LinkId) (r : Registration) :
    (r.install c l).session = r.session ∧ (r.install c l).incarnation = r.incarnation := by
  rw [Registration.install]
  split
  · exact ⟨rfl, rfl⟩
  · exact ⟨rfl, rfl⟩

theorem install_link {c : SessionId} {l j : LinkId} {r : Registration}
    (h : (r.install c l).link = some j) :
    r.link = some j ∨ r.session = c ∧ r.link = none ∧ j = l := by
  rw [Registration.install] at h
  split at h
  · rename_i hpending
    exact .inr ⟨hpending.1, hpending.2, (Option.some.inj h).symm⟩
  · exact .inl h

theorem install_unlinked {c : SessionId} {l : LinkId} {r : Registration}
    (h : (r.install c l).link = none) : r.link = none ∧ r.session ≠ c := by
  rw [Registration.install] at h
  split at h
  · cases h
  · rename_i hpending
    exact ⟨h, fun hc => hpending ⟨hc, h⟩⟩

theorem installs_watches {m : Move} {c : SessionId} {backend : BackendDescriptor}
    (h : Installs w.state c backend m) (hw : Watches w) : Watches (w.apply options m) := by
  obtain ⟨hstate, hregistrations⟩ := apply_of_installs options h
  obtain ⟨session, hc, hstage⟩ := installs_session h
  have hself := enter_self (s := w.state.install c backend) hc .replying
  have hother {j : SessionId} (hj : c ≠ j) :
      (w.apply options m).state.sessions[j]? = w.state.sessions[j]? := by
    rw [hstate, enter_of_ne hj]
    rfl
  have hmade : ∃ link, (w.apply options m).state.made = w.state.made ++ [link] ∧
      origin link = (c, fenceKey backend) := by
    rw [hstate]
    exact ⟨_, rfl, rfl⟩
  obtain ⟨link, hmade, horigin⟩ := hmade
  rw [← hstate] at hself
  refine ⟨?_, ?_, ?_, ?_, ?_⟩
  · rw [hregistrations, List.forall_mem_map]
    intro r hr hlink
    obtain ⟨hnone, hne⟩ := install_unlinked hlink
    rw [(install_session c _ r).1, (install_session c _ r).2, hother (Ne.symm hne)]
    exact hw.pending r hr hnone
  · intro j other backend' hj hstage'
    have hcj : c ≠ j := by
      rintro rfl
      obtain rfl := Option.some.inj (hself.symm.trans hj)
      cases hstage'
    rw [hother hcj] at hj
    obtain ⟨r, hr, hsession, hkey⟩ := hw.expected j other backend' hj hstage'
    rw [hregistrations]
    refine ⟨_, List.mem_map_of_mem hr, ?_⟩
    rw [(install_session c _ r).1, (install_session c _ r).2]
    exact ⟨hsession, hkey⟩
  · rw [hregistrations, hmade, List.forall_mem_map]
    intro r hr l hl
    rw [(install_session c _ r).1, (install_session c _ r).2]
    rcases install_link hl with hold | ⟨rfl, hnone, rfl⟩
    · obtain ⟨found, hfound, hsame⟩ := hw.linked r hr l hold
      refine ⟨found, ?_, hsame⟩
      rw [List.getElem?_append_left (List.getElem?_eq_some_iff.mp hfound).1]
      exact hfound
    · obtain ⟨other, backend', hr', hstage', hkey⟩ := hw.pending r hr hnone
      obtain rfl := Option.some.inj (hc.symm.trans hr')
      obtain rfl := Stage.installing.inj (hstage.symm.trans hstage')
      exact ⟨link, by simp, horigin.trans (by rw [hkey])⟩
  · intro l found hfound
    rw [hmade, List.getElem?_append] at hfound
    rw [hregistrations]
    split at hfound
    · obtain ⟨r, hr, hsame⟩ := hw.made l found hfound
      refine ⟨_, List.mem_map_of_mem hr, ?_⟩
      rw [(install_session c _ r).1, (install_session c _ r).2]
      exact hsame
    · obtain rfl := List.mem_singleton.mp (List.mem_of_getElem? hfound)
      obtain ⟨r, hr, hsession, hkey⟩ := hw.expected c session backend hc hstage
      refine ⟨_, List.mem_map_of_mem hr, ?_⟩
      rw [(install_session c _ r).1, (install_session c _ r).2, hsession, hkey]
      exact horigin
  · have hlength : (w.apply options m).state.sessions.length = w.state.sessions.length := by
      rw [hstate, enter_length]
      rfl
    rw [hregistrations, hlength, List.forall_mem_map]
    intro r hr
    rw [(install_session c _ r).1]
    exact hw.known r hr

variable (options) in
theorem apply_watches (m : Move) (hw : Watches w) : Watches (w.apply options m) := by
  by_cases hregister : ∃ c backend, Registers w.state c backend m
  · obtain ⟨c, backend, h⟩ := hregister
    exact registers_watches h hw
  · by_cases hinstall : ∃ c backend, Installs w.state c backend m
    · obtain ⟨c, backend, h⟩ := hinstall
      exact installs_watches h hw
    · simp only [not_exists] at hregister hinstall
      exact (apply_frames options hregister hinstall).1.watches
        (record_of_neither hregister hinstall _) hw

theorem serves_iff {c : SessionId} {session : Session} (hc : w.state.sessions[c]? = some session) :
    w.serves c = true ↔ session.stage.open = true := by
  rw [Watched.serves, hc, Option.any_some]

theorem serves_congr {v : Watched} {c : SessionId}
    (h : v.state.sessions[c]? = w.state.sessions[c]?) : v.serves c = w.serves c := by
  rw [Watched.serves, Watched.serves, h]

theorem Frames.serves {v : Watched} (h : Frames w.state v.state) {c : SessionId}
    (hknown : c < w.state.sessions.length) (hserves : v.serves c = true) : w.serves c = true := by
  have hc := List.getElem?_eq_getElem hknown
  obtain ⟨session', hc', honward⟩ := h.sessions c _ hc
  rw [serves_iff hc'] at hserves
  rw [serves_iff hc]
  rcases honward with hsame | hmoved
  · exact hsame ▸ hserves
  · exact hmoved.2.2 hserves

theorem mem_of_latest {id : BackendId} {r : Registration} (h : w.latest id = some r) :
    r ∈ w.registrations ∧ r.incarnation.backendId = id :=
  ⟨List.mem_of_find?_eq_some h, by simpa using List.find?_some h⟩

theorem Frames.lives {v : Watched} (h : Frames w.state v.state)
    (hregistrations : v.registrations = w.registrations) (hw : Watches w) {id : BackendId}
    {l : LinkId} (hlives : v.Lives id l) : w.Lives id l := by
  obtain ⟨r, hlatest, hlink, hserves⟩ := hlives
  rw [Watched.latest, hregistrations] at hlatest
  exact ⟨r, hlatest, hlink, h.serves (hw.known r (mem_of_latest hlatest).1) hserves⟩

theorem erases_session {c : SessionId} {l : LinkId} {m : Move} (h : Erases s c l m) :
    ∃ session, s.sessions[c]? = some session ∧ session.stage = .erasing l := by
  cases m with
  | advance c' e => exact h.2
  | _ => exact h.elim

variable (options) in
theorem apply_of_erases {m : Move} {c : SessionId} {l : LinkId} (h : Erases w.state c l m) :
    (w.apply options m).state = (w.state.eraseLink l).enter c (.fencing l) ∧
      (Displaces w m ↔ ∃ link, w.state.made[l]? = some link ∧ ∃ l', w.Lives link.backendId l') := by
  cases m with
  | advance c' e =>
      obtain ⟨rfl, ⟨link, stage⟩, hc, hstage⟩ := h
      cases hstage
      constructor
      · simp only [Watched.apply, Coordinator.State.apply, hc, Coordinator.State.advance]
      · simp [Displaces, hc]
  | _ => exact h.elim

theorem displaces_of_installs {m : Move} {c : SessionId} {backend : BackendDescriptor}
    (h : Installs w.state c backend m) :
    Displaces w m ↔ ∃ l, w.Lives backend.backendId l := by
  cases m with
  | advance c' e =>
      obtain ⟨rfl, ⟨link, stage⟩, hc, hstage⟩ := h
      cases hstage
      simp [Displaces, hc]
  | _ => exact h.elim

theorem not_displaces {m : Move} (hinstall : ∀ c backend, ¬Installs w.state c backend m)
    (herase : ∀ c l, ¬Erases w.state c l m) : ¬Displaces w m := by
  cases m with
  | advance c e =>
      rintro ⟨session, hc, ⟨backend, hstage, -⟩ | ⟨l, link, hstage, -⟩⟩
      · exact hinstall c backend ⟨rfl, session, hc, hstage⟩
      · exact herase c l ⟨rfl, session, hc, hstage⟩
  | _ => exact id

theorem not_displaces_of_registers {m : Move} {c : SessionId} {backend : BackendDescriptor}
    (h : Registers w.state c backend m) : ¬Displaces w m := by
  cases m with
  | advance c' e =>
      obtain ⟨rfl, ⟨link, stage⟩, hc, hstage, -⟩ := h
      cases hstage
      simp [Displaces, hc]
  | _ => exact h.elim

theorem registers_reachable {m : Move} {c : SessionId} {backend : BackendDescriptor}
    (h : Registers w.state c backend m) (hw : Reachable w) : Reachable (w.apply options m) := by
  obtain ⟨⟨k, hstate⟩, hregistrations⟩ := apply_of_registers options h
  obtain ⟨session, hc, hstage⟩ := registers_session h
  rintro id l ⟨r, hlatest, hlink, hserves⟩
  have hlinks : (w.apply options m).state.links = w.state.links := by
    rw [hstate]
    rfl
  rw [Watched.latest, hregistrations, List.find?_cons] at hlatest
  rw [hlinks]
  split at hlatest
  · obtain rfl := Option.some.inj hlatest
    cases hlink
  · refine hw id l ⟨r, hlatest, hlink, ?_⟩
    by_cases hcr : c = r.session
    · rw [← hcr, serves_iff hc, hstage]
      rfl
    · rw [← serves_congr (w := w) (v := w.apply options m)]
      · exact hserves
      · rw [hstate, enter_of_ne hcr]
        rfl

theorem installs_reachable_iff {m : Move} {c : SessionId} {backend : BackendDescriptor}
    (h : Installs w.state c backend m) (hwatches : Watches w) (hw : Reachable w) :
    Reachable (w.apply options m) ↔ ¬Displaces w m := by
  obtain ⟨hstate, hregistrations⟩ := apply_of_installs options h
  obtain ⟨session, hc, hstage⟩ := installs_session h
  have hlinks : (w.apply options m).state.links =
      w.state.links.insert backend.backendId w.state.made.length := by
    rw [hstate]
    rfl
  have hserves (j : SessionId) : (w.apply options m).serves j = w.serves j := by
    by_cases hcj : c = j
    · subst hcj
      have hself := enter_self (s := w.state.install c backend) hc .replying
      rw [← hstate] at hself
      rw [Bool.eq_iff_iff, serves_iff hself, serves_iff hc, hstage]
      exact Iff.rfl
    · refine serves_congr ?_
      rw [hstate, enter_of_ne hcj]
      rfl
  have hlatest (id : BackendId) :
      (w.apply options m).latest id =
        (w.latest id).map (Registration.install c w.state.made.length) := by
    rw [Watched.latest, Watched.latest, hregistrations, List.find?_map]
    refine congrArg (Option.map _) (congrArg (List.find? · _) (funext fun r => ?_))
    rw [Function.comp_apply, (install_session c _ r).2]
  rw [displaces_of_installs h]
  constructor
  · rintro hreach ⟨l, r, hfound, hlink, hopen⟩
    obtain ⟨link, hmade, -⟩ := hwatches.linked r (mem_of_latest hfound).1 l hlink
    have hsame : r.install c w.state.made.length = r := by simp [Registration.install, hlink]
    have hlives : (w.apply options m).Lives backend.backendId l := by
      refine ⟨r, ?_, hlink, (hserves _).trans hopen⟩
      rw [hlatest, hfound, Option.map_some, hsame]
    have hfind := hreach _ _ hlives
    rw [hlinks, OrderedMap.find?_insert_self] at hfind
    have hlt := (List.getElem?_eq_some_iff.mp hmade).1
    exact absurd (Option.some.inj hfind) (Nat.ne_of_gt hlt)
  · rintro hnone id l ⟨r', hlatest', hlink, hopen⟩
    rw [hlatest, Option.map_eq_some_iff] at hlatest'
    obtain ⟨r, hfound, rfl⟩ := hlatest'
    obtain ⟨hmem, hid⟩ := mem_of_latest hfound
    rw [(install_session c _ r).1, hserves] at hopen
    rw [hlinks]
    rcases install_link hlink with hold | ⟨rfl, hpending, rfl⟩
    · have hne : backend.backendId ≠ id := by
        rintro rfl
        exact hnone ⟨l, r, hfound, hold, hopen⟩
      rw [OrderedMap.find?_insert_ne _ _ hne]
      exact hw id l ⟨r, hfound, hold, hopen⟩
    · obtain ⟨other, backend', hr, hstage', hkey⟩ := hwatches.pending r hmem hpending
      obtain rfl := Option.some.inj (hc.symm.trans hr)
      obtain rfl := Stage.installing.inj (hstage.symm.trans hstage')
      have hbackend : backend.backendId = id := by
        rw [← hid, ← hkey]
        rfl
      rw [hbackend, OrderedMap.find?_insert_self]

theorem erases_reachable_iff {m : Move} {c : SessionId} {l : LinkId}
    (h : Erases w.state c l m) (hframes : Frames w.state (w.apply options m).state)
    (hregistrations : (w.apply options m).registrations = w.registrations)
    (hwatches : Watches w) (hw : Reachable w) :
    Reachable (w.apply options m) ↔ ¬Displaces w m := by
  obtain ⟨hstate, hdisplaces⟩ := apply_of_erases options h
  obtain ⟨session, hc, hstage⟩ := erases_session h
  have hback {id : BackendId} {l' : LinkId} (hlives : (w.apply options m).Lives id l') :
      w.Lives id l' := hframes.lives hregistrations hwatches hlives
  have hlinks : (w.apply options m).state.links = (w.state.eraseLink l).links := by
    rw [hstate]
    rfl
  rw [hdisplaces]
  cases hmade : w.state.made[l]? with
  | none =>
      simp only [Coordinator.State.eraseLink, hmade] at hlinks
      refine iff_of_true (fun id l' hlives => ?_) (by simp)
      rw [hlinks]
      exact hw id l' (hback hlives)
  | some link =>
      simp only [Coordinator.State.eraseLink, hmade] at hlinks
      constructor
      · rintro hreach ⟨found, hfound, l', r, hlatest, hlink, hserves⟩
        obtain rfl := Option.some.inj hfound
        have hcr : c ≠ r.session := by
          rintro rfl
          rw [serves_iff hc, hstage] at hserves
          cases hserves
        have hlives : (w.apply options m).Lives link.backendId l' := by
          refine ⟨r, ?_, hlink, ?_⟩
          · rw [Watched.latest, hregistrations]
            exact hlatest
          · rw [← hserves]
            refine serves_congr ?_
            rw [hstate, enter_of_ne hcr, (keeps_eraseLink w.state l).1]
        have hfind := hreach _ _ hlives
        rw [hlinks, OrderedMap.find?_erase, if_pos rfl] at hfind
        cases hfind
      · rintro hnone id l' hlives
        have hne : link.backendId ≠ id := by
          rintro rfl
          exact hnone ⟨link, rfl, l', hback hlives⟩
        rw [hlinks, OrderedMap.find?_erase, if_neg hne]
        exact hw id l' (hback hlives)

theorem apply_reachable_iff (m : Move) (hwatches : Watches w) (hw : Reachable w) :
    Reachable (w.apply options m) ↔ ¬Displaces w m := by
  by_cases hregister : ∃ c backend, Registers w.state c backend m
  · obtain ⟨c, backend, h⟩ := hregister
    exact iff_of_true (registers_reachable h hw) (not_displaces_of_registers h)
  · by_cases hinstall : ∃ c backend, Installs w.state c backend m
    · obtain ⟨c, backend, h⟩ := hinstall
      exact installs_reachable_iff h hwatches hw
    · simp only [not_exists] at hregister hinstall
      have hregistrations : (w.apply options m).registrations = w.registrations :=
        record_of_neither hregister hinstall _
      obtain ⟨hframes, hlinks⟩ := apply_frames options hregister hinstall
      by_cases herase : ∃ c l, Erases w.state c l m
      · obtain ⟨c, l, h⟩ := herase
        exact erases_reachable_iff h hframes hregistrations hwatches hw
      · simp only [not_exists] at herase
        refine iff_of_true (fun id l hlives => ?_) (not_displaces hinstall herase)
        rw [Watched.apply, hlinks herase]
        exact hw id l (hframes.lives hregistrations hwatches hlives)

theorem launched_watches (router : World) :
    Watches ⟨launched router, []⟩ ∧ Reachable ⟨launched router, []⟩ := by
  constructor
  · exact ⟨by simp, by simp [launched], by simp, by simp [launched], by simp⟩
  · rintro id l ⟨r, hlatest, -⟩
    cases hlatest

/-- A run of the coordinator with the registrations it accepted. -/
abbrev Histories (options : ModelRouterOptions) (router : World) (es : List (Event Watched Move))
    (t : Watched) : Prop :=
  Chained (Watched.apply options) ⟨launched router, []⟩ es t

/-- All along a run a backend whose latest registration came over an open session is found under
the link of that registration exactly when no step displaces such a link. -/
theorem latest_link_found_iff {router : World} {es : List (Event Watched Move)} {t : Watched}
    (h : Histories options router es t) :
    (∀ e ∈ es, Reachable (e.pre.apply options e.act)) ↔ ∀ e ∈ es, ¬Displaces e.pre e.act := by
  obtain ⟨hwatches, hreachable⟩ := launched_watches router
  exact h.forall_iff hreachable hwatches fun e _ hI hJ =>
    ⟨apply_reachable_iff e.act hJ hI, apply_watches options e.act hJ⟩

def enrol (c : SessionId) (backend : BackendDescriptor) : List Move :=
  [.receive c (some (.backendRegister ⟨backend⟩)), .advance c Run.sampleEnv,
    .advance c Run.sampleEnv, .reply c true, .advance c Run.sampleEnv]

def leave (c : SessionId) : List Move :=
  .lose c false :: .receive c none :: List.replicate 4 (.advance c Run.sampleEnv)

def arrivals (count : Nat) : List Move :=
  (List.replicate count [.check, .accept (some .open)]).flatten

def watch (moves : List Move) : List (Event Watched Move) :=
  Chained.trace (Watched.apply Run.sampleOptions) moves ⟨launched (started Run.sampleOptions), []⟩

theorem orderly_reconnect_found :
    let es := watch (arrivals 2 ++ enrol 0 (Run.sampleBackend ⟨1⟩ ⟨1⟩) ++ leave 0 ++
      enrol 1 (Run.sampleBackend ⟨2⟩ ⟨2⟩))
    (∀ e ∈ es, Reachable (e.pre.apply Run.sampleOptions e.act)) ↔
      ∀ e ∈ es, ¬Displaces e.pre e.act :=
  latest_link_found_iff (Chained.trace_chained _ _ _)

def overlappingReconnect : List Move :=
  arrivals 2 ++ enrol 0 (Run.sampleBackend ⟨1⟩ ⟨1⟩) ++ enrol 1 (Run.sampleBackend ⟨2⟩ ⟨2⟩) ++ leave 0

theorem older_cleanup_removes_link :
    ¬∀ (options : ModelRouterOptions) (router : World) (es : List (Event Watched Move))
        (t : Watched), Histories options router es t →
      ∀ e ∈ es, Reachable (e.pre.apply options e.act) := by
  intro h
  have hlast := h _ _ (watch overlappingReconnect) _ (Chained.trace_chained _ _ _)
    ⟨.advance 0 Run.sampleEnv, _⟩ (List.mem_of_getElem? (i := 18) rfl)
  have hlives := hlast ⟨7⟩ 1 ⟨⟨1, ⟨⟨7⟩, ⟨2⟩⟩, some 1⟩, by decide +kernel, by decide +kernel,
    by decide +kernel⟩
  exact absurd hlives (by decide +kernel)

end ModelRouter.Links
