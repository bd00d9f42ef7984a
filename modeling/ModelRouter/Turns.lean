import ModelRouter.Base.Ledger
import ModelRouter.Repertoire

namespace ModelRouter.Turns

open Base Base.Program Bytes Ids Outcome Capability Evidence Candidate Authority Request Policy
open Eligibility Decision State Commit Providers Section Pass Route Reroute Run Repertoire

/-- A commit whose decision is current when its section ends. -/
def commitsCurrent (e : Event World Act) : Bool :=
  match e.act with
  | .commit draft => (commitSection draft e.pre).2.committedCurrent
  | _ => false

def looks (e : Event World Act) : Bool :=
  match e.act with
  | .observe => true
  | _ => false
/-- Where a reroute stands: before it has looked its decision up, after that, between the commit of
a current decision and the section that supersedes the old one, and after that. -/
inductive Phase where
  | arriving | considering | committing | ended
deriving DecidableEq

def turn (id : RouteDecisionId) : Phase → Event World Act → Option Phase
  | .arriving, ⟨.allocate, _⟩ => some .arriving
  | .arriving, ⟨.observe, w⟩ =>
    some (if w.state.routes.contains id then .considering else .ended)
  | .considering, ⟨.observe, _⟩ => some .considering
  | .considering, ⟨.allocate, _⟩ => some .considering
  | .considering, ⟨.rejectRoute _ _, _⟩ => some .considering
  | .considering, ⟨.commit draft, w⟩ =>
    some (if (commitSection draft w).2.committedCurrent then .committing else .considering)
  | .considering, ⟨.supersede j _ _, _⟩ => if j = id then some .ended else none
  | .committing, ⟨.supersede j _ _, _⟩ => if j = id then some .ended else none
  | _, _ => none

/-- A result for which the last commit of a pass or of a fallback was current. -/
def Tells (m : Phase) (outcome : RouteOutcome) : Prop :=
  m = .considering ∨ m = .committing ∧ outcome.code = .routed

variable {id : RouteDecisionId} {m : Phase}

section

variable {α β : Type} {Q : Phase → α → Prop} {T : Phase → β → Prop}

theorem bind_tracks {p : Operation α} {f : α → Operation β} (hp : p.Tracks (turn id) Q m)
    (hf : ∀ n a, Q n a → (f a).Tracks (turn id) T n) : (p >>= f).Tracks (turn id) T m :=
  hp.bind hf

theorem perform_tracks {k : Act} {f : World → Operation α}
    (h : ∀ w, ∃ n, turn id m ⟨k, w⟩ = some n ∧ (f w).Tracks (turn id) Q n) :
    (perform k >>= f).Tracks (turn id) Q m :=
  h

theorem ask_tracks {f : Env → Operation α} (h : ∀ e, (f e).Tracks (turn id) Q m) :
    (ask >>= f).Tracks (turn id) Q m :=
  h

theorem done_tracks {a : α} (h : Q m a) : (pure a : Operation α).Tracks (turn id) Q m := h

theorem ite_tracks {condition : Prop} [Decidable condition] {p q : Operation α}
    (hp : p.Tracks (turn id) Q m) (hq : q.Tracks (turn id) Q m) :
    (if condition then p else q).Tracks (turn id) Q m := by
  split
  · exact hp
  · exact hq

theorem proceed_tracks {stop : Stop → α} {x : Except Stop β} {next : β → Operation α}
    (hstop : ∀ reason, Q m (stop reason)) (h : ∀ value, (next value).Tracks (turn id) Q m) :
    (proceed stop x next).Tracks (turn id) Q m := by
  cases x with
  | error reason => exact hstop reason
  | ok value => exact h value

theorem still_tracks {p : Operation α} {f : α → Operation β}
    (hp : p.Only (fun _ => True) (fun _ => True) fun _ => False)
    (hf : ∀ a, (f a).Tracks (turn id) T m) : (p >>= f).Tracks (turn id) T m :=
  (hp.tracks fun _ _ hk => hk.elim).bind fun _ a hn => hn ▸ hf a

end

theorem identify_tracks (hm : ∀ s, turn id m ⟨.allocate, s⟩ = some m) (raw : RouteRequest) :
    (identify raw).Tracks (turn id) (fun n _ => n = m) m := by
  rw [identify]
  dsimp only
  split
  · exact done_tracks rfl
  · exact perform_tracks fun w => ⟨m, hm w, done_tracks rfl⟩

theorem discover_tracks (options : ModelRouterOptions) (request : RouteRequest)
    (snapshot : Snapshot) :
    (discover options request snapshot).Tracks (turn id) (fun n _ => n = .considering)
      .considering := by
  rw [discover]
  exact ite_tracks (ask_tracks fun _ => done_tracks rfl)
    (perform_tracks fun _ => ⟨_, rfl, done_tracks rfl⟩)

theorem stopped_tells (reason : Stop) : Tells .considering (stopped reason).1 := .inl rfl

theorem refused_current {draft : CommitDraft} {w : World} {reason : Stop}
    (h : (commitSection draft w).2.refusal = some reason) :
    (commitSection draft w).2.committedCurrent = false := by
  unfold commitSection at h ⊢
  cases hr : commitRefusal draft w.state with
  | some refusal => rfl
  | none =>
      rw [hr] at h
      cases h

theorem commit_tracks {α : Type} {Q : Phase → α → Prop} {draft : CommitDraft} (stop : Stop → α)
    (outcome : CommitReply → α) (hstop : ∀ reason, Q .considering (stop reason))
    (hstale : ∀ reply : CommitReply, Q .considering (outcome reply))
    (hcurrent : ∀ reply, reply.committedCurrent = true → Q .committing (outcome reply)) :
    (perform (.commit draft) >>= fun w =>
      (match (commitSection draft w).2.refusal with
        | some reason => pure (stop reason)
        | none => pure (outcome (commitSection draft w).2) : Operation α)).Tracks (turn id) Q
          .considering := by
  refine perform_tracks fun w => ⟨_, rfl, ?_⟩
  cases hrefusal : (commitSection draft w).2.refusal with
  | some reason =>
      rw [refused_current hrefusal]
      exact done_tracks (hstop reason)
  | none =>
      cases hreply : (commitSection draft w).2.committedCurrent with
      | false => exact done_tracks (hstale _)
      | true => exact done_tracks (hcurrent _ hreply)

theorem finish_tracks (request : RouteRequest) (snapshot : Snapshot) (governing : Governing)
    (basis : Option Basis) (winner : RankedCandidate) (tail : List RankedCandidate)
    (authority : RouteAuthority) (explanation : RouteExplanation) :
    (commitWinner.finish request snapshot governing basis winner tail authority
      explanation).Tracks (turn id) (fun m result => Tells m result.1) .considering := by
  refine commit_tracks stopped (fun reply => (routedOutcome _ reply winner.score, basis))
    stopped_tells (fun _ => .inl rfl) fun reply hcurrent => .inr ⟨rfl, ?_⟩
  simp [routedOutcome, hcurrent]

theorem commitWinner_tracks (options : ModelRouterOptions) (request : RouteRequest)
    (snapshot : Snapshot) (governing : Governing) (basis : Option Basis)
    (candidates : List RouteCandidate) (explanation : RouteExplanation)
    (winner : RankedCandidate) (tail : List RankedCandidate) :
    (commitWinner options request snapshot governing basis candidates explanation winner
      tail).Tracks (turn id) (fun m result => Tells m result.1) .considering := by
  refine perform_tracks fun w => ⟨_, rfl, ?_⟩
  dsimp only
  split
  · exact finish_tracks _ _ _ _ _ _ _ _
  · exact still_tracks (resolve_only _ _ _ _) fun _ => finish_tracks _ _ _ _ _ _ _ _

theorem rankAndCommit_tracks (options : ModelRouterOptions) (request : RouteRequest)
    (snapshot : Snapshot) (governing : Governing) (candidates : List RouteCandidate) :
    (rankAndCommit options request snapshot governing candidates).Tracks (turn id)
      (fun m result => Tells m result.1) .considering := by
  refine still_tracks (assessAll_only _ _ _ _ _) fun assessed => ?_
  dsimp only
  split
  · exact stopped_tells _
  · split
    · exact perform_tracks fun _ => ⟨_, rfl, .inl rfl⟩
    · exact commitWinner_tracks _ _ _ _ _ _ _ _ _

theorem route_tracks (options : ModelRouterOptions) (raw : RouteRequest) :
    (route options raw).Tracks (turn id) Tells .considering := by
  have hpass : (routePass options raw).Tracks (turn id) (fun m result => Tells m result.1)
      .considering := by
    refine bind_tracks (identify_tracks (fun _ => rfl) raw) fun n named hn => ?_
    subst hn
    refine ask_tracks fun e => perform_tracks fun w => ⟨_, rfl, ?_⟩
    refine proceed_tracks stopped_tells fun _ => ?_
    refine still_tracks (validatePolicy_only _ _ _) fun _ =>
      proceed_tracks stopped_tells fun _ => ?_
    refine still_tracks (validateBudget_only _ _ _) fun _ =>
      proceed_tracks stopped_tells fun _ => ?_
    refine still_tracks (validateSlo_only _ _ _) fun _ =>
      proceed_tracks stopped_tells fun _ => ?_
    refine bind_tracks (discover_tracks _ _ _) fun n discovered hn => ?_
    subst hn
    exact ite_tracks (stopped_tells _) (rankAndCommit_tracks _ _ _ _ _)
  exact bind_tracks hpass fun _ _ htells => done_tracks htells

theorem commitSingleCandidate_tracks (request : RouteRequest) (snapshot : Snapshot)
    (governing : Governing) (candidate : RouteCandidate) (evidence : CandidateEvidence)
    (planned : List CandidateKey) (permitted : UInt32) :
    (commitSingleCandidate request snapshot governing candidate evidence planned
      permitted).Tracks (turn id) Tells .considering := by
  unfold commitSingleCandidate
  dsimp only
  split
  · exact done_tracks (.inl rfl)
  · refine perform_tracks fun w => ⟨_, rfl, ?_⟩
    refine commit_tracks rerouteStopped (fallbackOutcome _) (fun _ => .inl rfl)
      (fun _ => .inl rfl) fun reply hcurrent => .inr ⟨rfl, ?_⟩
    simp [fallbackOutcome, hcurrent]

theorem tryFallbacks_tracks (options : ModelRouterOptions) (request : RouteRequest)
    (snapshot : Snapshot) (governing : Governing) (planned : List CandidateKey)
    (permitted : UInt32) (keys : List CandidateKey) :
    (tryFallbacks options id request snapshot governing planned permitted keys).Tracks (turn id)
      (fun m found => m = if found.isSome then .ended else .considering) .considering := by
  induction keys with
  | nil => exact done_tracks rfl
  | cons key rest ih =>
      refine perform_tracks fun w => ⟨_, rfl, ?_⟩
      split
      · exact ih
      · refine still_tracks (resolve_only _ _ _ _) fun evidence => ?_
        refine bind_tracks (commitSingleCandidate_tracks _ _ _ _ _ _ _) fun n outcome htells => ?_
        by_cases hrouted : outcome.code = .routed
        · rw [if_pos hrouted]
          refine perform_tracks fun _ => ⟨.ended, ?_, done_tracks rfl⟩
          rcases htells with rfl | ⟨rfl, -⟩ <;> exact if_pos rfl
        · rw [if_neg hrouted]
          rcases htells with rfl | ⟨-, hcode⟩
          · exact ih
          · exact absurd hcode hrouted

theorem rerouteFresh_tracks (options : ModelRouterOptions) (request : RouteRequest)
    (now : UnixMillis) :
    (rerouteFresh options id request now).Tracks (turn id) (fun m _ => m ≠ .committing)
      .considering := by
  refine bind_tracks (route_tracks options request) fun n fresh htells => ?_
  by_cases hrouted : fresh.code = .routed
  · rw [if_pos hrouted]
    refine perform_tracks fun _ => ⟨.ended, ?_, done_tracks (by decide)⟩
    rcases htells with rfl | ⟨rfl, -⟩ <;> exact if_pos rfl
  · rw [if_neg hrouted]
    rcases htells with rfl | ⟨-, hcode⟩
    · exact done_tracks (by decide)
    · exact absurd hcode hrouted

/-- A reroute looks its decision up, commits at most one current decision, and ends only after
it has superseded the old one for that. -/
theorem reroute_tracks (options : ModelRouterOptions) (failure : FailureClass)
    (raw : RouteRequest) :
    (reroute options id failure raw).Tracks (turn id) (fun m _ => m ≠ .committing) .arriving := by
  refine bind_tracks (identify_tracks (fun _ => rfl) raw) fun n request hn => ?_
  subst hn
  refine ask_tracks fun e => perform_tracks fun w => ⟨_, rfl, ?_⟩
  cases hfound : w.state.routes.find? id with
  | none =>
      refine done_tracks ?_
      split <;> decide
  | some stored =>
      have hcontains : w.state.routes.contains id = true :=
        OrderedMap.contains_iff.mpr ⟨stored, hfound⟩
      rw [if_pos hcontains]
      have hstop (reason : Stop) : Phase.considering ≠ .committing := by decide
      refine proceed_tracks hstop fun _ => ?_
      refine still_tracks (consult_only _ _ _) fun answer => ?_
      refine proceed_tracks hstop fun fetched => proceed_tracks hstop fun _ => ?_
      refine bind_tracks (tryFallbacks_tracks _ _ _ _ _ _ _) fun n found hn => ?_
      subst hn
      cases found with
      | some outcome => exact done_tracks (by simp)
      | none => exact rerouteFresh_tracks options request e.now

section

variable {e : Event World Act} {n : Phase} {sections : List (Event World Act)}

/-- The turns of a reroute, each with what it found. -/
inductive Turn (id : RouteDecisionId) (e : Event World Act) : Phase → Phase → Prop where
  | named : e.act = .allocate → Turn id e .arriving .arriving
  | found : e.act = .observe → e.pre.state.routes.contains id = true →
    Turn id e .arriving .considering
  | missed : e.act = .observe → Turn id e .arriving .ended
  | lingered : commitsCurrent e = false → Turn id e .considering .considering
  | succeeded : commitsCurrent e = true → Turn id e .considering .committing
  | superseded {m : Phase} {now : UnixMillis} {fresh : Bool} : m ≠ .arriving →
    e.act = .supersede id now fresh → Turn id e m .ended

theorem turn_cases (h : turn id m e = some n) : Turn id e m n := by
  obtain ⟨k, w⟩ := e
  have hsupersede {j : RouteDecisionId} (hj : (if j = id then some Phase.ended else none) = some n) :
      j = id ∧ n = .ended := by
    split at hj
    · exact ⟨‹_›, (Option.some.inj hj).symm⟩
    · cases hj
  cases m with
  | arriving =>
      cases k with
      | allocate =>
          obtain rfl := Option.some.inj h
          exact .named rfl
      | observe =>
          obtain rfl := Option.some.inj h
          split
          · exact .found rfl ‹_›
          · exact .missed rfl
      | _ => cases h
  | considering =>
      cases k with
      | commit draft =>
          obtain rfl := Option.some.inj h
          split
          · exact .succeeded ‹_›
          · exact .lingered (Bool.not_eq_true _ ▸ ‹_›)
      | supersede j now fresh =>
          obtain ⟨rfl, rfl⟩ := hsupersede h
          exact .superseded (by decide) rfl
      | observe =>
          obtain rfl := Option.some.inj h
          exact .lingered rfl
      | allocate =>
          obtain rfl := Option.some.inj h
          exact .lingered rfl
      | rejectRoute tenant rejected =>
          obtain rfl := Option.some.inj h
          exact .lingered rfl
      | _ => cases h
  | committing =>
      cases k with
      | supersede j now fresh =>
          obtain ⟨rfl, rfl⟩ := hsupersede h
          exact .superseded (by decide) rfl
      | _ => cases h
  | ended => cases k <;> cases h

theorem arriving_sections (h : sections.foldlM (turn id) m = some .arriving) :
    m = .arriving ∧ ∀ e ∈ sections, e.act = .allocate := by
  induction sections generalizing m with
  | nil => exact ⟨Option.some.inj h, by simp⟩
  | cons e rest ih =>
      rw [List.foldlM_cons] at h
      obtain ⟨n, hn, hrest⟩ := Option.bind_eq_some_iff.mp h
      obtain ⟨rfl, hacts⟩ := ih hrest
      cases turn_cases hn with
      | named hact => exact ⟨rfl, List.forall_mem_cons.mpr ⟨hact, hacts⟩⟩

theorem looked_of_moved (h : sections.foldlM (turn id) .arriving = some m) (hm : m ≠ .arriving) :
    sections.any looks = true := by
  induction sections with
  | nil => exact absurd (Option.some.inj h).symm hm
  | cons e rest ih =>
      rw [List.foldlM_cons] at h
      obtain ⟨n, hn, hrest⟩ := Option.bind_eq_some_iff.mp h
      have hlooks (hact : e.act = .observe) : looks e = true := by rw [looks, hact]
      rw [List.any_cons, Bool.or_eq_true]
      cases turn_cases hn with
      | named hact => exact .inr (ih hrest)
      | found hact _ => exact .inl (hlooks hact)
      | missed hact => exact .inl (hlooks hact)
      | superseded hne _ => exact absurd rfl hne

end

end ModelRouter.Turns
