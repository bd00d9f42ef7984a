import ModelRouter.StatusChanges

namespace ModelRouter.Shutdown

open Base Bytes Ids Outcome Authority Decision State Commit Handoff Providers Section Router
open MutationFacts Run TerminalStatus Handoffs StatusChanges

variable {s : CanonicalState}

/-- A router that is shutting down retains no current decision. -/
def Quiet (s : CanonicalState) : Prop :=
  s.shuttingDown = true → ∀ id, statusOf s id ≠ some .current

/-- A section that leaves the router shutting down makes no decision newly dispatched. -/
def NoNewHandoff (e : Event World Act) : Prop :=
  (after e).state.shuttingDown = true → ∀ id, statusOf (after e).state id = some .dispatched →
    statusOf e.pre.state id = some .dispatched

/-- A last section of `revalidate` that writes CURRENT, or a recording section of `dispatch` for
a decision not dispatched so far, while the router is shutting down. -/
def publishesLate (e : Event World Act) : Prop :=
  e.pre.state.shuttingDown = true ∧
    match e.act with
    | .finishRevalidate id bound comparisonCurrent now =>
      e.pre.state.routes.contains id = true ∧ comparisonCurrent = true ∧
        dispatchabilityReason e.pre.state bound now = .accepted
    | .recordDispatch id epoch coordinatorEpoch _ =>
      recordsDispatch e.pre.state id epoch coordinatorEpoch = true ∧
        statusOf e.pre.state id ≠ some .dispatched
    | _ => False

theorem beginShutdown_quiet (s : CanonicalState) : Quiet (beginShutdown s) := by
  unfold beginShutdown
  split
  · rename_i hidle
    intro hdown
    simp only [Bool.and_eq_true, Bool.not_eq_true'] at hidle
    rw [hidle.2] at hdown
    cases hdown
  · intro _ id hcurrent
    change ((s.routes.map _).find? id).map _ = _ at hcurrent
    rw [OrderedMap.find?_map, Option.map_map] at hcurrent
    obtain ⟨record, -, hstatus⟩ := Option.map_eq_some_iff.mp hcurrent
    rw [Function.comp_apply] at hstatus
    unfold withdrawCurrent at hstatus
    split at hstatus
    · cases hstatus
    · contradiction

theorem shuttingDown_before {e : Event World Act} (h : (after e).state.shuttingDown = true) :
    e.pre.state.shuttingDown = true ∨ e.act = .beginShutdown := by
  obtain ⟨k, w⟩ := e
  cases hkeep : keepsShuttingDown k with
  | true => exact .inl ((apply_shuttingDown hkeep w).symm.trans h)
  | false =>
      cases k with
      | beginShutdown => exact .inr rfl
      | admitStart =>
          change (admitStart w.state).shuttingDown = true at h
          unfold admitStart at h
          split at h
          · exact .inl h
          · cases h
      | publish now =>
          change (publish w.state now).shuttingDown = true at h
          unfold publish at h
          split at h
          · exact .inl h
          · cases h
      | _ => cases hkeep

theorem not_committed {draft : CommitDraft} (hdown : s.shuttingDown = true) :
    commitRefusal draft s ≠ none := by
  simp [commitRefusal, hdown]

theorem completionStatus_settles (completion : CompletionRecord) :
    completionStatus completion ≠ .current ∧ completionStatus completion ≠ .dispatched := by
  unfold completionStatus
  split
  · exact ⟨nofun, nofun⟩
  · exact ⟨nofun, nofun⟩

theorem event_quiet {e : Event World Act} (hs : Quiet e.pre.state) (hlate : ¬publishesLate e) :
    Quiet (after e).state := by
  intro hdown id hcurrent
  rcases shuttingDown_before hdown with hpre | hbegin
  · cases event_source hcurrent with
    | kept hkept => exact hs hpre id hkept
    | committed hact htaken => exact not_committed hpre htaken
    | revalidated hact hretained hcomparison hreason =>
        refine hlate ⟨hpre, ?_⟩
        rw [hact]
        exact ⟨hretained, hcomparison, hreason⟩
    | completed hact hdispatched hstatus => exact (completionStatus_settles _).1 hstatus.symm
  · obtain ⟨k, w⟩ := e
    obtain rfl : k = .beginShutdown := hbegin
    exact beginShutdown_quiet w.state hdown id hcurrent

theorem event_noNewHandoff {e : Event World Act} (hlate : ¬publishesLate e) : NoNewHandoff e := by
  intro hdown id hdispatched
  rcases shuttingDown_before hdown with hpre | hbegin
  · by_contra hnew
    cases event_source hdispatched with
    | kept hkept => exact hnew hkept
    | committed hact htaken => exact not_committed hpre htaken
    | dispatched hoff =>
        obtain ⟨k, w⟩ := e
        cases k with
        | recordDispatch j epoch coordinatorEpoch record =>
            simp only [handsOff, Bool.and_eq_true, decide_eq_true_eq] at hoff
            obtain ⟨rfl, hrecords⟩ := hoff
            exact hlate ⟨hpre, hrecords, hnew⟩
        | _ => cases hoff
    | completed hact hbefore hstatus => exact (completionStatus_settles _).2 hstatus.symm
  · cases event_source hdispatched with
    | kept hkept => exact hkept
    | committed hact => cases hbegin.symm.trans hact
    | dispatched hoff =>
        rw [handsOff, hbegin] at hoff
        cases hoff
    | completed hact => cases hbegin.symm.trans hact

theorem publishesLate_bad {e : Event World Act} (hlate : publishesLate e) :
    ¬(Quiet (after e).state ∧ NoNewHandoff e) := by
  obtain ⟨k, w⟩ := e
  obtain ⟨hdown, hpublishes⟩ := hlate
  rintro ⟨hquiet, hnone⟩
  cases k with
  | finishRevalidate id bound comparisonCurrent now =>
      obtain ⟨hretained, hcomparison, hreason⟩ := hpublishes
      obtain ⟨record, hrecord⟩ := OrderedMap.contains_iff.mp hretained
      have hafter : (after ⟨.finishRevalidate id bound comparisonCurrent now, w⟩).state =
          editRoute w.state id markCurrent := if_pos ⟨hcomparison, hreason⟩
      have hstill : (editRoute w.state id markCurrent).shuttingDown = true :=
        (congrArg Standing.shuttingDown (editRoute_standing w.state id markCurrent)).trans hdown
      refine hquiet (hafter ▸ hstill) id ?_
      rw [hafter, statusOf_editRoute, if_pos rfl, hrecord]
      rfl
  | recordDispatch id epoch coordinatorEpoch record =>
      obtain ⟨hrecords, hnew⟩ := hpublishes
      have hstill : (after ⟨.recordDispatch id epoch coordinatorEpoch record, w⟩).state.shuttingDown =
          true := (apply_shuttingDown rfl w).trans hdown
      refine hnew (hnone hstill id ?_)
      have hoff : handsOff id ⟨.recordDispatch id epoch coordinatorEpoch record, w⟩ = true := by
        simp [handsOff, hrecords]
      exact (open_of_handsOff hoff).status
  | _ => cases hpublishes

/-- A schedule never publishes authority while the router is shutting down exactly when none of
its sections publishes late. -/
theorem interleaved_quiet_iff (options : ModelRouterOptions) (highest : UInt64)
    (schedule : List (Choice Op Env)) :
    (∀ e ∈ interleaved options highest schedule, Quiet (after e).state ∧ NoNewHandoff e) ↔
      ∀ e ∈ interleaved options highest schedule, ¬publishesLate e := by
  obtain ⟨t, hchained⟩ := interleaved_chained options highest schedule
  constructor
  · intro hgood e he hlate
    exact publishesLate_bad hlate (hgood e he)
  · intro hnone
    have hfresh : Quiet (World.fresh options highest).state := by
      intro hdown
      cases hdown
    have hpre := hchained.invariant_pre (I := fun w => Quiet w.state) hfresh
      fun e he hs => event_quiet hs (hnone e he)
    intro e he
    exact ⟨event_quiet (hpre e he) (hnone e he), event_noNewHandoff (hnone e he)⟩

section

def shutDownMeanwhile : List (Choice Op Env) :=
  inTurn 30 dispatchingEnv 0 (liveCatalog ++ [.route sampleRequest]) ++
    [.start (.revalidate ⟨101⟩ {} {}), .advance 8 dispatchingEnv, .advance 8 dispatchingEnv,
      .advance 8 dispatchingEnv] ++
    inTurn 5 dispatchingEnv 9 [.shutdown] ++ [.advance 8 dispatchingEnv]

theorem current_after_shutdown :
    ¬∀ (options : ModelRouterOptions) (highest : UInt64) (schedule : List (Choice Op Env)),
      ∀ e ∈ interleaved options highest schedule, Quiet (after e).state ∧ NoNewHandoff e := by
  intro h
  have hfound : (interleaved dispatchingOptions 100 shutDownMeanwhile).any (fun e =>
      (after e).state.shuttingDown && statusOf (after e).state ⟨101⟩ == some .current) = true := by
    decide +kernel
  obtain ⟨e, he, hbad⟩ := List.any_eq_true.mp hfound
  simp only [Bool.and_eq_true, beq_iff_eq] at hbad
  exact (h dispatchingOptions 100 shutDownMeanwhile e he).1 hbad.1 ⟨101⟩ hbad.2

end

end ModelRouter.Shutdown
