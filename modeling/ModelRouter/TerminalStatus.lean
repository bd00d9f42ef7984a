import Mathlib.Data.List.Infix
import ModelRouter.Run

namespace ModelRouter.TerminalStatus

open Base Bytes Ids Outcome Capability Evidence Request Authority Decision Persistence State
open EvidenceMutation Mutations Commit Handoff Providers Section Router Effects MutationFacts Run

variable {s t : CanonicalState} {id : RouteDecisionId}

/-- The status of a decision, if it is retained. -/
def statusOf (s : CanonicalState) (id : RouteDecisionId) : Option RouteStatus :=
  (s.routes.find? id).map fun record => record.decision.status

def terminal : RouteStatus → Bool
  | .completed | .failed | .superseded | .cancelled => true
  | _ => false

/-- The decision is retained with a terminal status. -/
def Settled (s : CanonicalState) (id : RouteDecisionId) : Prop :=
  ∃ record, s.routes.find? id = some record ∧ terminal record.decision.status = true

theorem settled_congr (h : t.routes.find? id = s.routes.find? id) :
    Settled t id ↔ Settled s id := by
  rw [Settled, Settled, h]

theorem not_executable {record : RouteRecord} (h : terminal record.decision.status = true) :
    record.executable = false := by
  unfold RouteRecord.executable
  cases hstatus : record.decision.status with
  | current => simp [hstatus, terminal] at h
  | dispatched => simp [hstatus, terminal] at h
  | _ => rfl

theorem noteTenant_settled (tenant : TenantId) (hs : Settled s id) :
    Settled (s.noteTenant tenant) id := by
  refine (settled_congr ?_).mpr hs
  unfold CanonicalState.noteTenant
  split <;> rfl

theorem RoutesRestaled.settled (h : RoutesRestaled s t) (hs : Settled s id) : Settled t id := by
  obtain ⟨f, hf, hfind⟩ := h
  obtain ⟨record, hrecord, hterminal⟩ := hs
  refine ⟨record, ?_, hterminal⟩
  rcases hf id record with hsame | ⟨hx, -⟩
  · rw [hfind, hrecord, Option.map_some, hsame]
  · rw [not_executable hterminal] at hx
    cases hx

theorem editRoute_settled {j : RouteDecisionId} {edit : RouteRecord → RouteRecord} {b : Bool}
    (hedit : ∀ record, terminal (edit record).decision.status = b) (hs : Settled s id) :
    Settled (editRoute s j edit) id ↔ (j = id → b = true) := by
  obtain ⟨record, hrecord, hterminal⟩ := hs
  rw [Settled, editRoute_find?]
  by_cases hj : j = id
  · rw [if_pos hj, hrecord]
    simp [hj, hedit]
  · rw [if_neg hj, hrecord]
    simp [hj, hterminal]

theorem withdrawCurrent_terminal {record : RouteRecord}
    (h : terminal record.decision.status = true) : withdrawCurrent record = record := by
  unfold withdrawCurrent
  split
  · rename_i hcurrent
    rw [hcurrent] at h
    cases h
  · rfl

theorem beginShutdown_settled (hs : Settled s id) : Settled (beginShutdown s) id := by
  unfold beginShutdown
  split
  · exact hs
  · obtain ⟨record, hrecord, hterminal⟩ := hs
    refine ⟨record, ?_, hterminal⟩
    change (s.routes.map _).find? id = _
    rw [OrderedMap.find?_map, hrecord, Option.map_some, withdrawCurrent_terminal hterminal]

/-- A commit that makes room by dropping the decision. -/
def evicts (id : RouteDecisionId) (e : Event World Act) : Prop :=
  match e.act with
  | .commit draft =>
    commitRefusal draft e.pre.state = none ∧ id ∈ evicted draft.kind e.pre.state
  | _ => False

/-- What a commit does to a retained record that it does not evict: `emplace` never replaces it,
and only under its own identity, handed out once more, is it checked again. -/
theorem commitSection_find? {draft : CommitDraft} {w : World} {record : RouteRecord}
    (hkeep : ¬evicts id ⟨.commit draft, w⟩) (hrecord : w.state.routes.find? id = some record) :
    (commitSection draft w).1.state.routes.find? id =
      some (if commitRefusal draft w.state = none ∧ id = ⟨w.nextId⟩ then
        staleDecisionIfNotDispatchable (evict draft.kind w.state) draft.now record else record) := by
  unfold commitSection
  cases hr : commitRefusal draft w.state with
  | some refusal => simpa using hrecord
  | none =>
      have hnot : id ∉ evicted draft.kind w.state := fun hmem => hkeep ⟨hr, hmem⟩
      have hkept : (evict draft.kind w.state).routes.find? id = some record := by
        change ((evicted draft.kind w.state).foldl OrderedMap.erase w.state.routes).find? id = _
        rw [OrderedMap.find?_foldl_erase, if_neg hnot, hrecord]
      have hinserted (fresh : RouteRecord) (hfresh : fresh.decision.decisionId = ⟨w.nextId⟩) :
          (insertRecord (evict draft.kind w.state) fresh draft.now).routes.find? id =
            some (if id = ⟨w.nextId⟩ then
              staleDecisionIfNotDispatchable (evict draft.kind w.state) draft.now record
              else record) := by
        change ((evict draft.kind w.state).routes.insert fresh.decision.decisionId _).find? id = _
        rw [OrderedMap.find?_insert, hfresh]
        by_cases hid : id = ⟨w.nextId⟩
        · rw [if_pos hid.symm, if_pos hid, ← hid, hkept, Option.getD_some]
        · rw [if_neg (Ne.symm hid), if_neg hid, hkept]
      have hroutes (u : CanonicalState) : (u.noteTenant draft.tenant).routes = u.routes := by
        unfold CanonicalState.noteTenant
        split <;> rfl
      dsimp only
      rw [hroutes]
      simpa using hinserted (committedRecord draft _ _) rfl

theorem commitSection_settled {draft : CommitDraft} {w : World}
    (hkeep : ¬evicts id ⟨.commit draft, w⟩) (hs : Settled w.state id) :
    Settled (commitSection draft w).1.state id := by
  obtain ⟨record, hrecord, hterminal⟩ := hs
  refine ⟨record, ?_, hterminal⟩
  rw [commitSection_find? hkeep hrecord]
  rcases staleDecisionIfNotDispatchable_cases (evict draft.kind w.state) draft.now record with
    h | ⟨hx, -⟩
  · rw [h, ite_self]
  · rw [not_executable hterminal] at hx
    cases hx

theorem completable_dispatched {completion : CompletionRecord}
    {target : RouteDecisionId × RouteRecord} (h : completable s completion = .ok target) :
    completionTarget s completion = some target.1 ∧ s.routes.find? target.1 = some target.2 ∧
      target.2.decision.status = .dispatched := by
  unfold completable at h
  split at h
  · cases h
  · rename_i j hj
    split at h
    · cases h
    · rename_i record hrecord
      split at h
      · cases h
      · rename_i hstatus
        obtain rfl := Except.ok.inj h
        exact ⟨hj, hrecord, not_not.mp hstatus⟩

theorem recordCompletion_settled (completion : CompletionRecord) (hs : Settled s id) :
    Settled (Handoff.recordCompletion s completion).1 id := by
  unfold Handoff.recordCompletion
  cases hc : completable s completion with
  | error result => exact hs
  | ok target =>
      obtain ⟨-, hfind, hdispatched⟩ := completable_dispatched hc
      obtain ⟨record, hrecord, hterminal⟩ := hs
      have hne : target.1 ≠ id := by
        intro heq
        rw [heq, hrecord] at hfind
        rw [Option.some.inj hfind, hdispatched] at hterminal
        cases hterminal
      refine ⟨record, ?_, hterminal⟩
      change (s.routes.insert target.1 _).find? id = _
      rw [OrderedMap.find?_insert, if_neg hne, hrecord]

/-- The sections that write a status decided before, whatever the record holds by then. -/
def overwrites (id : RouteDecisionId) (e : Event World Act) : Prop :=
  match e.act with
  | .markStale j => j = id
  | .finishRevalidate j _ _ _ => j = id
  | .recordDispatch j epoch coordinatorEpoch _ =>
    j = id ∧ recordsDispatch e.pre.state j epoch coordinatorEpoch = true
  | _ => False

theorem event_settled {e : Event World Act} (hload : imports e.act = false)
    (hkeep : ¬evicts id e) (hs : Settled e.pre.state id) :
    Settled (after e).state id ↔ ¬overwrites id e := by
  obtain ⟨k, w⟩ := e
  cases k with
  | observe => exact iff_of_true hs not_false
  | allocate => exact iff_of_true hs not_false
  | mutate m now =>
      exact iff_of_true (RoutesRestaled.settled (next_routes m now w.state) hs) not_false
  | writeCapacityDetail detail =>
      refine iff_of_true ((settled_congr ?_).mpr hs) not_false
      change (writeCapacityDetail w.state detail).routes.find? id = _
      rw [writeCapacityDetail, (editBackend_frame w.state _ _).2]
  | admitStart =>
      refine iff_of_true ((settled_congr ?_).mpr hs) not_false
      change (admitStart w.state).routes.find? id = _
      unfold admitStart
      split <;> rfl
  | publish now =>
      refine iff_of_true ((settled_congr ?_).mpr hs) not_false
      change (publish w.state now).routes.find? id = _
      unfold publish
      split <;> rfl
  | importState canonical => cases hload
  | beginShutdown => exact iff_of_true (beginShutdown_settled hs) not_false
  | rejectRoute tenant rejected =>
      exact iff_of_true (noteTenant_settled tenant hs) not_false
  | commit draft => exact iff_of_true (commitSection_settled hkeep hs) not_false
  | markStale j =>
      change Settled (Handoff.markStale w.state j) id ↔ ¬j = id
      have hedit : ∀ record : RouteRecord, terminal record.markStale.decision.status = false :=
        fun _ => rfl
      rw [Handoff.markStale, editRoute_settled hedit hs]
      simp
  | finishRevalidate j bound comparisonCurrent now =>
      change Settled (Handoff.finishRevalidate w.state j bound comparisonCurrent now) id ↔ ¬j = id
      unfold Handoff.finishRevalidate
      split
      · have hedit : ∀ record, terminal (markCurrent record).decision.status = false :=
          fun _ => rfl
        rw [editRoute_settled hedit hs]
        simp
      · have hedit : ∀ record : RouteRecord, terminal record.markStale.decision.status = false :=
          fun _ => rfl
        rw [Handoff.markStale, editRoute_settled hedit hs]
        simp
  | recordDispatch j epoch coordinatorEpoch record =>
      change Settled (Handoff.recordDispatch w j epoch coordinatorEpoch record).state id ↔
        ¬(j = id ∧ recordsDispatch w.state j epoch coordinatorEpoch = true)
      unfold Handoff.recordDispatch
      cases hr : recordsDispatch w.state j epoch coordinatorEpoch with
      | false => simpa using hs
      | true =>
          have hedit : ∀ kept,
              terminal (markDispatched (dispatchRecorded w j epoch coordinatorEpoch record)
                kept).decision.status = false := fun _ => rfl
          rw [if_pos rfl]
          exact (editRoute_settled (j := j) hedit hs).trans (by simp)
  | recordCompletion completion =>
      exact iff_of_true (recordCompletion_settled completion hs) not_false
  | supersede j now fresh =>
      refine iff_of_true ?_ not_false
      change Settled (Handoff.supersede w.state j now fresh) id
      unfold Handoff.supersede
      split
      · exact (editRoute_settled (b := true) (fun _ => rfl) hs).mpr fun _ => rfl
      · exact (editRoute_settled (b := true) (fun _ => rfl) hs).mpr fun _ => rfl
  | store path persisted => exact iff_of_true hs not_false

/-- Over any stretch of a run that does not evict a decision, a terminal status stays terminal. -/
def Absorbing (es : Trace) : Prop :=
  ∀ id stretch, stretch <:+: es → (∀ e ∈ stretch, ¬evicts id e) →
    ∀ first ∈ stretch.head?, Settled first.pre.state id →
      ∀ e ∈ stretch, Settled (after e).state id

theorem not_evicts_of_overwrites {e : Event World Act} (h : overwrites id e) : ¬evicts id e := by
  obtain ⟨k, w⟩ := e
  intro he
  cases k with
  | commit draft => cases h
  | _ => cases he

/-- The terminal statuses are absorbing in a schedule exactly when no section of it overwrites a
status that is terminal by then. -/
theorem interleaved_absorbing_iff (options : ModelRouterOptions) (highest : UInt64)
    (schedule : List (Choice Op Env)) (hload : LoadFree (interleaved options highest schedule)) :
    Absorbing (interleaved options highest schedule) ↔
      ∀ e ∈ interleaved options highest schedule, ∀ id, Settled e.pre.state id →
        ¬overwrites id e := by
  obtain ⟨t, hchained⟩ := interleaved_chained options highest schedule
  constructor
  · intro habsorbing e he id hs hover
    have hkeep := not_evicts_of_overwrites hover
    have hstretch := (List.singleton_infix_iff e _).mpr he
    have hafter := habsorbing id [e] hstretch (by simpa using hkeep) e rfl hs e (by simp)
    exact (event_settled (hload e he) hkeep hs).mp hafter hover
  · intro hnone id stretch hpart hkeep first hfirst hs
    obtain ⟨u, v, hstretch⟩ := hchained.of_infix hpart
    rw [hstretch.head_pre hfirst] at hs
    have hstep : ∀ e ∈ stretch, Settled e.pre.state id → Settled (after e).state id := by
      intro e he hpre
      have hmem := hpart.subset he
      exact (event_settled (hload e hmem) (hkeep e he) hpre).mpr (hnone e hmem id hpre)
    have hpre := hstretch.invariant_pre (I := fun w => Settled w.state id) hs hstep
    exact fun e he => hstep e he (hpre e he)

section

/-- A decision is dispatched; while it is revalidated once more, its completion is recorded. -/
def completedMeanwhile : List (Choice Op Env) :=
  inTurn 30 dispatchingEnv 0 (liveCatalog ++ [.route sampleRequest, .dispatch ⟨101⟩ {} {}]) ++
    [.start (.revalidate ⟨101⟩ {} {}), .advance 9 dispatchingEnv, .advance 9 dispatchingEnv,
      .advance 9 dispatchingEnv] ++
    inTurn 2 dispatchingEnv 10 [.recordCompletion { decisionId := ⟨101⟩, code := .completed }] ++
    [.advance 9 dispatchingEnv]

theorem completedMeanwhile_loadFree :
    LoadFree (interleaved dispatchingOptions 100 completedMeanwhile) := by
  decide +kernel

theorem completedMeanwhile_absorbing_iff :
    Absorbing (interleaved dispatchingOptions 100 completedMeanwhile) ↔
      ∀ e ∈ interleaved dispatchingOptions 100 completedMeanwhile, ∀ id,
        Settled e.pre.state id → ¬overwrites id e :=
  interleaved_absorbing_iff dispatchingOptions 100 completedMeanwhile completedMeanwhile_loadFree

theorem settled_iff_statusOf :
    Settled s id ↔ ∃ status, statusOf s id = some status ∧ terminal status = true := by
  rw [Settled, statusOf]
  cases s.routes.find? id <;> simp

def endsRevalidation (e : Event World Act) : Bool :=
  match e.act with
  | .finishRevalidate _ _ _ _ => true
  | _ => false

theorem completed_becomes_current :
    ¬∀ (options : ModelRouterOptions) (highest : UInt64) (schedule : List (Choice Op Env)),
      LoadFree (interleaved options highest schedule) →
        Absorbing (interleaved options highest schedule) := by
  intro h
  have hfound : (interleaved dispatchingOptions 100 completedMeanwhile).any (fun e =>
      endsRevalidation e && statusOf e.pre.state ⟨101⟩ == some .completed &&
        statusOf (after e).state ⟨101⟩ == some .current) = true := by
    decide +kernel
  obtain ⟨e, he, hbad⟩ := List.any_eq_true.mp hfound
  simp only [Bool.and_eq_true, beq_iff_eq] at hbad
  obtain ⟨⟨hends, hcompleted⟩, hcurrent⟩ := hbad
  have hkeep : ¬evicts ⟨101⟩ e := by
    obtain ⟨k, w⟩ := e
    intro hevicts
    cases k with
    | commit draft => cases hends
    | _ => cases hevicts
  have hsettled := h dispatchingOptions 100 completedMeanwhile completedMeanwhile_loadFree ⟨101⟩ [e]
    ((List.singleton_infix_iff e _).mpr he) (by simpa using hkeep) e rfl
    (settled_iff_statusOf.mpr ⟨_, hcompleted, rfl⟩) e List.mem_cons_self
  obtain ⟨status, hstatus, hterminal⟩ := settled_iff_statusOf.mp hsettled
  rw [hcurrent] at hstatus
  obtain rfl := Option.some.inj hstatus
  cases hterminal

end

end ModelRouter.TerminalStatus
