import ModelRouter.Currentness
import ModelRouter.Fencing
import ModelRouter.TerminalStatus

namespace ModelRouter.Handoffs

open Base Bytes Ids Outcome Capability Evidence Request Authority Decision Persistence State
open CatalogMutation EvidenceMutation Mutations Commit Handoff Recovery Providers Section Router
open Effects MutationFacts Dispatchability Run Fencing Currentness TerminalStatus

variable {s t : CanonicalState} {r : RouteDecisionId} {d : DispatchId}

/-- The recording section of a dispatch of the decision, taking effect: the call returns
DISPATCHED under the identity that is handed out next. -/
def handsOff (r : RouteDecisionId) (e : Event World Act) : Bool :=
  match e.act with
  | .recordDispatch j epoch coordinatorEpoch _ =>
    decide (j = r) && recordsDispatch e.pre.state j epoch coordinatorEpoch
  | _ => false

def completes (d : DispatchId) (e : Event World Act) : Bool :=
  match e.act with
  | .recordCompletion completion => decide (completion.dispatchId = d)
  | _ => false

/-- A section after which the decision is no longer the one that was dispatched: an eviction, or
a durable state imported over it. -/
def drops (r : RouteDecisionId) (e : Event World Act) : Prop :=
  evicts r e ∨ (imports e.act = true ∧ e.pre.state.running = false)

/-- Whatever completion names the dispatch next is taken: the decision and the record of the
dispatch get its outcome. -/
def Awaited (r : RouteDecisionId) (d : DispatchId) (s : CanonicalState) : Prop :=
  ∀ completion : CompletionRecord, completion.dispatchId = d →
    (Handoff.recordCompletion s completion).2.code = completionOutcome completion ∧
      statusOf (Handoff.recordCompletion s completion).1 r = some (completionStatus completion) ∧
      ∃ dispatch, (Handoff.recordCompletion s completion).1.dispatches.find? r = some dispatch ∧
        dispatch.dispatchId = d ∧ dispatch.code = completion.code ∧
        dispatch.failure = completion.failure

def Closed (r : RouteDecisionId) (s : CanonicalState) : Prop :=
  ∀ completion, completionTarget s completion = some r →
    (Handoff.recordCompletion s completion).2.code = .rejectConflict ∧
      (Handoff.recordCompletion s completion).1 = s

/-- What the state holds while a completion of the dispatch would be taken. -/
structure Open (r : RouteDecisionId) (d : DispatchId) (s : CanonicalState) : Prop where
  status : statusOf s r = some .dispatched
  filed : (s.dispatches.find? r).map DispatchRecord.dispatchId = some d
  indexed : s.dispatchIndex.find? d = some r

/-- The decision is retained and not dispatched. -/
def Shut (r : RouteDecisionId) (s : CanonicalState) : Prop :=
  ∃ status, statusOf s r = some status ∧ status ≠ .dispatched

theorem completionTarget_named {completion : CompletionRecord} (hd : d.valid = true)
    (h : completion.dispatchId = d) : completionTarget s completion = s.dispatchIndex.find? d := by
  rw [completionTarget, h, if_pos hd]

theorem statusOf_eq {record : RouteRecord} (h : s.routes.find? r = some record) :
    statusOf s r = some record.decision.status := by
  rw [statusOf, h, Option.map_some]

theorem completable_of_dispatched {completion : CompletionRecord} {record : RouteRecord}
    (htarget : completionTarget s completion = some r) (hrecord : s.routes.find? r = some record)
    (hstatus : record.decision.status = .dispatched) :
    completable s completion = .ok (r, record) := by
  simp only [completable, htarget, hrecord, hstatus, ne_eq, not_true_eq_false, if_false]

theorem recordCompletion_taken {completion : CompletionRecord} {record : RouteRecord}
    (h : completable s completion = .ok (r, record)) :
    (Handoff.recordCompletion s completion).2.code = completionOutcome completion ∧
      (∀ j, statusOf (Handoff.recordCompletion s completion).1 j =
        if r = j then some (completionStatus completion) else statusOf s j) ∧
      (∀ j, (Handoff.recordCompletion s completion).1.dispatches.find? j =
        if r = j then (s.dispatches.find? j).map fun dispatch =>
            { dispatch with code := completion.code, failure := completion.failure }
          else s.dispatches.find? j) ∧
      (Handoff.recordCompletion s completion).1.dispatchIndex = s.dispatchIndex := by
  unfold Handoff.recordCompletion
  rw [h]
  refine ⟨rfl, fun j => ?_, fun j => ?_, rfl⟩
  · change ((s.routes.insert r _).find? j).map _ = _
    rw [OrderedMap.find?_insert, statusOf]
    by_cases hj : r = j
    · simp [hj]
    · simp [hj]
  · dsimp only
    cases hr : s.dispatches.find? r with
    | none =>
        by_cases hj : r = j
        · rw [if_pos hj, ← hj, hr, Option.map_none]
        · rw [if_neg hj]
    | some dispatch =>
        dsimp only
        rw [OrderedMap.find?_insert]
        by_cases hj : r = j
        · rw [if_pos hj, if_pos hj, ← hj, hr, Option.map_some]
        · rw [if_neg hj, if_neg hj]

theorem recordCompletion_refused {completion : CompletionRecord} {result : MutationResult}
    (h : completable s completion = .error result) :
    Handoff.recordCompletion s completion = (s, result) := by
  simp only [Handoff.recordCompletion, h]

theorem Open.awaited (hd : d.valid = true) (h : Open r d s) : Awaited r d s := by
  intro completion hnamed
  obtain ⟨record, hrecord, hstatus⟩ := Option.map_eq_some_iff.mp h.status
  obtain ⟨dispatch, hdispatch, hid⟩ := Option.map_eq_some_iff.mp h.filed
  have htarget : completionTarget s completion = some r :=
    (completionTarget_named hd hnamed).trans h.indexed
  obtain ⟨hcode, hroutes, hdispatches, -⟩ :=
    recordCompletion_taken (completable_of_dispatched htarget hrecord hstatus)
  refine ⟨hcode, ?_, ?_⟩
  · rw [hroutes, if_pos rfl]
  · refine ⟨{ dispatch with code := completion.code, failure := completion.failure }, ?_, hid,
      rfl, rfl⟩
    rw [hdispatches, if_pos rfl, hdispatch, Option.map_some]

theorem awaited_iff (hd : d.valid = true) : Awaited r d s ↔ Open r d s := by
  refine ⟨fun h => ?_, fun h => h.awaited hd⟩
  let success : CompletionRecord := { dispatchId := d, code := .completed }
  let failure : CompletionRecord := { dispatchId := d, code := .failed }
  have htarget : completionTarget s failure = completionTarget s success := rfl
  obtain ⟨-, hcompleted, -⟩ := h success rfl
  obtain ⟨-, hfailed, dispatch, hdispatch, hid, -⟩ := h failure rfl
  cases hs : completable s success with
  | error result =>
      have hf : completable s failure = .error result := by
        rw [← hs, completable, completable, htarget]
      rw [recordCompletion_refused hs] at hcompleted
      rw [recordCompletion_refused hf] at hfailed
      cases hcompleted.symm.trans hfailed
  | ok target =>
      obtain ⟨j, record⟩ := target
      have hf : completable s failure = .ok (j, record) := by
        rw [← hs, completable, completable, htarget]
      obtain ⟨hindex, hrecord, hstatus⟩ := completable_dispatched hs
      obtain ⟨-, hroutes, -⟩ := recordCompletion_taken hs
      obtain ⟨-, hroutes', hdispatches, -⟩ := recordCompletion_taken hf
      rw [hroutes] at hcompleted
      rw [hroutes'] at hfailed
      by_cases hj : j = r
      · subst hj
        rw [hdispatches, if_pos rfl] at hdispatch
        obtain ⟨earlier, hearlier, rfl⟩ := Option.map_eq_some_iff.mp hdispatch
        refine ⟨?_, ?_, ?_⟩
        · rw [statusOf_eq hrecord, hstatus]
        · rw [hearlier, Option.map_some, ← hid]
        · have hnamed : completionTarget s success = s.dispatchIndex.find? d :=
            completionTarget_named hd rfl
          exact hnamed.symm.trans hindex
      · rw [if_neg hj] at hcompleted hfailed
        cases hcompleted.symm.trans hfailed

theorem closed_iff (hretained : ∃ status, statusOf s r = some status) : Closed r s ↔ Shut r s := by
  obtain ⟨status, hstatus⟩ := hretained
  obtain ⟨record, hrecord, rfl⟩ := Option.map_eq_some_iff.mp hstatus
  constructor
  · intro h
    refine ⟨_, hstatus, fun hdispatched => ?_⟩
    let success : CompletionRecord := { decisionId := r, code := .completed }
    have htarget : completionTarget s success = some r := rfl
    obtain ⟨hcode, -⟩ := h success htarget
    obtain ⟨htaken, -⟩ :=
      recordCompletion_taken (completable_of_dispatched htarget hrecord hdispatched)
    rw [hcode] at htaken
    cases htaken
  · rintro ⟨other, hother, hne⟩ completion htarget
    obtain rfl := Option.some.inj (hstatus.symm.trans hother)
    have hrefused : completable s completion =
        .error (.make .rejectConflict "record_completion" "route decision was not dispatched") := by
      simp only [completable, htarget, hrecord, ne_eq, hne, not_false_eq_true, if_true]
    rw [recordCompletion_refused hrefused]
    exact ⟨rfl, rfl⟩

def keepsFiling : Act → Bool
  | .recordDispatch _ _ _ _ | .recordCompletion _ | .importState _ => false
  | _ => true

theorem apply_filing {k : Act} (hk : keepsFiling k = true) (w : World) :
    (k.apply w).state.dispatches = w.state.dispatches ∧
      (k.apply w).state.dispatchIndex = w.state.dispatchIndex := by
  cases hs : keepsStanding k with
  | true =>
      have hstanding := apply_standing hs w
      exact ⟨congrArg Standing.dispatches hstanding, congrArg Standing.dispatchIndex hstanding⟩
  | false =>
      cases k with
      | admitStart =>
          change (admitStart w.state).dispatches = _ ∧ (admitStart w.state).dispatchIndex = _
          unfold admitStart
          split <;> exact ⟨rfl, rfl⟩
      | publish now =>
          change (publish w.state now).dispatches = _ ∧ (publish w.state now).dispatchIndex = _
          unfold publish
          split <;> exact ⟨rfl, rfl⟩
      | beginShutdown =>
          change (beginShutdown w.state).dispatches = _ ∧ (beginShutdown w.state).dispatchIndex = _
          unfold beginShutdown
          split <;> exact ⟨rfl, rfl⟩
      | recordDispatch j epoch coordinatorEpoch record => cases hk
      | recordCompletion completion => cases hk
      | importState canonical => cases hk
      | _ => cases hs

section

variable {m : Mutation} {now : UnixMillis} {record : RouteRecord}

theorem checked_status_iff (hstatus : record.decision.status = .dispatched) :
    (staleDecisionIfNotDispatchable s now record).decision.status = .dispatched ↔
      dispatchabilityReason s record.decision.authority now = .accepted := by
  have hx : record.executable = true := by simp [RouteRecord.executable, hstatus]
  unfold staleDecisionIfNotDispatchable
  simp only [hx, Bool.not_true, Bool.false_eq_true, if_false]
  cases hd : isAuthorityDispatchable s record.decision.authority now with
  | true =>
      have hreason : dispatchabilityReason s record.decision.authority now = .accepted := by
        simpa [isAuthorityDispatchable] using hd
      simp [hstatus, hreason]
  | false =>
      have hreason : dispatchabilityReason s record.decision.authority now ≠ .accepted := by
        simpa [isAuthorityDispatchable] using hd
      simp [RouteRecord.markStale, hreason]

theorem undispatchable_of_fenced {bound : RouteAuthority}
    (h : s.fencedBoots.contains ⟨bound.backendId, bound.backendBoot⟩ = true) :
    dispatchabilityReason s bound now ≠ .accepted := by
  intro haccepted
  obtain ⟨-, hfree, -⟩ := dispatchabilityReason_accepted.mp haccepted
  rw [CanonicalState.isFenced, h] at hfree
  cases hfree

theorem undispatchable_of_gone {bound : RouteAuthority}
    (h : incarnationOf s bound.backendId = none) :
    dispatchabilityReason s bound now ≠ .accepted := by
  intro haccepted
  obtain ⟨-, -, model, backend, -, hbackend, -⟩ := dispatchabilityReason_accepted.mp haccepted
  rw [incarnationOf, hbackend] at h
  cases h

theorem staleDecisionsForBackend_cases (id : BackendId) (boot : BackendBootId)
    (hrecord : s.routes.find? r = some record) :
    (s.staleDecisionsForBackend id boot).routes.find? r = some record ∨
      (record.decision.authority.backendId = id ∧
        (boot.valid = false ∨ record.decision.authority.backendBoot = boot)) := by
  change (s.routes.map _).find? r = some record ∨ _
  rw [OrderedMap.find?_map, hrecord, Option.map_some]
  split
  · rename_i h
    simp only [Bool.and_eq_true, Bool.or_eq_true, Bool.not_eq_true', beq_iff_eq] at h
    exact .inr ⟨h.1.2, h.2⟩
  · exact .inl rfl

theorem withdrawn_find? (hm : withdraws m = true) (htaken : (m.attempt now s).refusal = none)
    (hrecord : s.routes.find? r = some record) :
    (m.attempt now s).edited.routes.find? r = some record ∨
      ((m.attempt now s).restales = true ∧
        dispatchabilityReason (m.attempt now s).edited record.decision.authority now ≠
          .accepted) := by
  cases m with
  | unregisterBackend backendId generation =>
      obtain ⟨existing, hexisting, hfences⟩ := unregisterBackend_taken htaken
      change (unregisterBackend s backendId generation now).edited.routes.find? r = _ ∨ true = true ∧
        dispatchabilityReason (unregisterBackend s backendId generation now).edited _ now ≠ _
      by_cases hid : record.decision.authority.backendId = backendId
      · exact .inr ⟨rfl, undispatchable_of_gone (hid ▸ hfences.2.2.1 trivial)⟩
      · simp only [unregisterBackend, hexisting]
        refine (staleDecisionsForBackend_cases backendId existing.backendBoot hrecord).imp_right ?_
        exact fun h => absurd h.1 hid
  | fenceBackendBoot backendId generation backendBoot reason =>
      have hfences : Fences s (fenceBackendBoot s backendId generation backendBoot reason now).edited
          ⟨backendId, backendBoot⟩ _ :=
        fenceBackendBoot_taken backendId generation backendBoot reason
      have hvalid : backendBoot.valid = true := by
        simp only [Mutation.attempt, fenceBackendBoot, Base.Refusal.chain_eq_none,
          Base.Refusal.refuse_eq_none] at htaken
        simpa using (Bool.or_eq_false_iff.mp htaken.1).2
      change (fenceBackendBoot s backendId generation backendBoot reason now).edited.routes.find? r =
        _ ∨ true = true ∧ dispatchabilityReason
          (fenceBackendBoot s backendId generation backendBoot reason now).edited _ now ≠ _
      by_cases hkey : record.decision.authority.backendId = backendId ∧
          record.decision.authority.backendBoot = backendBoot
      · obtain ⟨rfl, rfl⟩ := hkey
        exact .inr ⟨rfl, undispatchable_of_fenced ((hfences.1 _).mpr (.inl rfl))⟩
      · refine .inl ?_
        have hkept : ∀ u : CanonicalState, u.routes = s.routes →
            (u.staleDecisionsForBackend backendId backendBoot).routes.find? r = some record := by
          intro u hu
          rcases staleDecisionsForBackend_cases backendId backendBoot (hu ▸ hrecord) with
            h | ⟨hid, hboot⟩
          · exact h
          · rcases hboot with hinvalid | hboot
            · rw [hvalid] at hinvalid
              cases hinvalid
            · exact absurd ⟨hid, hboot⟩ hkey
        refine hkept _ ?_
        cases (s.backends.find? backendId).filter _ <;> rfl
  | _ => cases hm

/-- A mutation that is taken edits a retained record only if it takes its incarnation away, and
then it also checks every decision once more. -/
theorem edited_find? (htaken : (m.attempt now s).refusal = none)
    (hrecord : s.routes.find? r = some record) :
    (m.attempt now s).edited.routes.find? r = some record ∨
      ((m.attempt now s).restales = true ∧
        dispatchabilityReason (m.attempt now s).edited record.decision.authority now ≠
          .accepted) := by
  cases hm : withdraws m with
  | false =>
      rw [edited_routes_eq hm]
      exact .inl hrecord
  | true => exact withdrawn_find? hm htaken hrecord
theorem next_status_iff (hrecord : s.routes.find? r = some record)
    (hstatus : record.decision.status = .dispatched) :
    statusOf (m.next now s) r = some .dispatched ↔
      ¬((m.attempt now s).refusal = none ∧ (m.attempt now s).restales = true ∧
        dispatchabilityReason (m.attempt now s).edited record.decision.authority now ≠
          .accepted) := by
  cases hrefusal : (m.attempt now s).refusal with
  | some result =>
      rw [(next_of_refused hrefusal).1, statusOf_eq hrecord, hstatus]
      simp
  | none =>
      rw [(next_of_taken hrefusal).1, CatalogMutation.Attempt.written]
      cases hrestales : (m.attempt now s).restales with
      | false =>
          rcases edited_find? hrefusal hrecord with hkept | ⟨htrue, -⟩
          · simp [statusOf_eq hkept, hstatus]
          · rw [hrestales] at htrue
            cases htrue
      | true =>
          have hchecked : statusOf
              ((m.attempt now s).edited.staleDecisionsForAuthorityChange now) r =
                ((m.attempt now s).edited.routes.find? r).map fun kept =>
                  (staleDecisionIfNotDispatchable (m.attempt now s).edited now
                    kept).decision.status := by
            change ((OrderedMap.map _ _).find? r).map _ = _
            rw [OrderedMap.find?_map, Option.map_map]
            rfl
          rw [if_pos rfl, hchecked]
          have hkept (h : (m.attempt now s).edited.routes.find? r = some record) :
              ((m.attempt now s).edited.routes.find? r).map (fun kept =>
                  (staleDecisionIfNotDispatchable (m.attempt now s).edited now
                    kept).decision.status) = some .dispatched ↔
                dispatchabilityReason (m.attempt now s).edited record.decision.authority now =
                  .accepted := by
            rw [h, Option.map_some, Option.some.injEq, checked_status_iff hstatus]
          obtain ⟨f, hf, hfind⟩ := edited_routes m now s
          rcases edited_find? hrefusal hrecord with h | ⟨-, hreason⟩
          · rw [hkept h]
            simp
          · rcases hf r record with hsame | ⟨-, hstale⟩
            · rw [hkept (by rw [hfind, hrecord, Option.map_some, hsame])]
              simp
            · rw [hfind, hrecord, Option.map_some, hstale]
              simp [staleDecisionIfNotDispatchable, RouteRecord.executable, RouteRecord.markStale,
                hreason]

end

/-- The sections that take a pending handoff of the decision out of the reach of its completion:
evidence that leaves the authority undispatchable, a revalidation, a reroute, another handoff, or a
completion that reaches the decision under another name. -/
def disturbs (r : RouteDecisionId) (d : DispatchId) (e : Event World Act) : Prop :=
  let s := e.pre.state
  match e.act with
  | .mutate m now =>
    ∃ record, s.routes.find? r = some record ∧
      (m.attempt now s).refusal = none ∧ (m.attempt now s).restales = true ∧
      dispatchabilityReason (m.attempt now s).edited record.decision.authority now ≠ .accepted
  | .commit draft =>
    ∃ record, s.routes.find? r = some record ∧
      commitRefusal draft s = none ∧ r = ⟨e.pre.nextId⟩ ∧
      dispatchabilityReason s record.decision.authority draft.now ≠ .accepted
  | .markStale j => j = r
  | .finishRevalidate j _ _ _ => j = r
  | .supersede j _ _ => j = r
  | .recordDispatch j epoch coordinatorEpoch _ =>
    recordsDispatch s j epoch coordinatorEpoch = true ∧ (j = r ∨ ⟨e.pre.nextId⟩ = d)
  | .recordCompletion completion =>
    completionTarget s completion = some r ∧ completion.dispatchId ≠ d
  | _ => False

theorem Open.kept_iff {k : Act} (hk : keepsFiling k = true) {w : World} (h : Open r d w.state) :
    Open r d (k.apply w).state ↔ statusOf (k.apply w).state r = some .dispatched := by
  obtain ⟨hd, hi⟩ := apply_filing hk w
  exact ⟨fun h' => h'.status, fun hstatus => ⟨hstatus, hd ▸ h.filed, hi ▸ h.indexed⟩⟩

theorem statusOf_editRoute (j : RouteDecisionId) (edit : RouteRecord → RouteRecord) :
    statusOf (editRoute s j edit) r =
      if j = r then (s.routes.find? r).map (fun record => (edit record).decision.status)
      else statusOf s r := by
  rw [statusOf, editRoute_find?]
  by_cases hj : j = r
  · rw [if_pos hj, if_pos hj, Option.map_map]
    rfl
  · rw [if_neg hj, if_neg hj, statusOf]

theorem editRoute_dispatched {j : RouteDecisionId} {edit : RouteRecord → RouteRecord}
    (hedit : ∀ record, (edit record).decision.status ≠ .dispatched)
    (h : statusOf s r = some .dispatched) :
    statusOf (editRoute s j edit) r = some .dispatched ↔ ¬j = r := by
  obtain ⟨record, hrecord, -⟩ := Option.map_eq_some_iff.mp h
  rw [statusOf_editRoute]
  by_cases hj : j = r
  · simp [hj, hrecord, hedit]
  · simp [hj, h]

theorem commitSection_dispatched {draft : CommitDraft} {w : World}
    (hkeep : ¬evicts r ⟨.commit draft, w⟩) {record : RouteRecord}
    (hrecord : w.state.routes.find? r = some record)
    (hstatus : record.decision.status = .dispatched) :
    statusOf (commitSection draft w).1.state r = some .dispatched ↔
      ¬(commitRefusal draft w.state = none ∧ r = ⟨w.nextId⟩ ∧
        dispatchabilityReason w.state record.decision.authority draft.now ≠ .accepted) := by
  have hgrounds : SameGrounds w.state (evict draft.kind w.state) := ⟨rfl, rfl⟩
  rw [statusOf_eq (commitSection_find? hkeep hrecord), Option.some.injEq]
  by_cases hcheck : commitRefusal draft w.state = none ∧ r = ⟨w.nextId⟩
  · rw [if_pos hcheck, checked_status_iff hstatus, hgrounds.reason]
    simp [hcheck.1, ← hcheck.2]
  · rw [if_neg hcheck]
    refine iff_of_true hstatus fun h => hcheck ⟨h.1, h.2.1⟩

theorem importSection_running {canonical : RouterPersistentState} {w : World}
    (hkeep : ¬drops r ⟨.importState canonical, w⟩) : importSection canonical w = w := by
  cases hrunning : w.state.running with
  | false => exact absurd (.inr ⟨rfl, hrunning⟩) hkeep
  | true => rw [importSection, if_pos hrunning]

theorem recordDispatch_status {w : World} {j : RouteDecisionId} {epoch : RouterEpoch}
    {coordinatorEpoch : CoordinatorEpoch} {record : DispatchRecord}
    (h : recordsDispatch w.state j epoch coordinatorEpoch = true) :
    statusOf (Handoff.recordDispatch w j epoch coordinatorEpoch record).state r =
      if j = r then (statusOf w.state r).map fun _ => .dispatched else statusOf w.state r := by
  unfold Handoff.recordDispatch
  rw [if_pos h]
  change statusOf (editRoute w.state j _) r = _
  rw [statusOf_editRoute, statusOf, Option.map_map]
  rfl

theorem dispatchRecorded_id {w : World} {j : RouteDecisionId} {epoch : RouterEpoch}
    {coordinatorEpoch : CoordinatorEpoch} {record : DispatchRecord}
    (h : recordsDispatch w.state j epoch coordinatorEpoch = true) :
    (dispatchRecorded w j epoch coordinatorEpoch record).dispatchId = ⟨w.nextId⟩ := by
  simp only [recordsDispatch, Bool.and_eq_true, beq_iff_eq] at h
  simp [dispatchRecorded, h]

theorem recordDispatch_other {w : World} {j : RouteDecisionId} {epoch : RouterEpoch}
    {coordinatorEpoch : CoordinatorEpoch} {record : DispatchRecord} (hj : j ≠ r)
    (hrecords : recordsDispatch w.state j epoch coordinatorEpoch = true)
    (h : Open r d w.state) :
    Open r d (Handoff.recordDispatch w j epoch coordinatorEpoch record).state ↔
      ⟨w.nextId⟩ ≠ d := by
  have hstatus : statusOf (Handoff.recordDispatch w j epoch coordinatorEpoch record).state r =
      some .dispatched := by
    rw [recordDispatch_status hrecords, if_neg hj, h.status]
  have hfiled : (Handoff.recordDispatch w j epoch coordinatorEpoch record).state.dispatches.find? r =
      w.state.dispatches.find? r := by
    have hfiled : (editRoute w.state j _).dispatches = w.state.dispatches :=
      congrArg Standing.dispatches (editRoute_standing w.state j
        (markDispatched (dispatchRecorded w j epoch coordinatorEpoch record)))
    unfold Handoff.recordDispatch
    rw [if_pos hrecords]
    change (OrderedMap.insert (editRoute w.state j _).dispatches j _).find? r = _
    rw [OrderedMap.find?_insert, if_neg hj, hfiled]
  have hindexed : (Handoff.recordDispatch w j epoch coordinatorEpoch
      record).state.dispatchIndex.find? d = if ⟨w.nextId⟩ = d then some j else some r := by
    have hindex : (editRoute w.state j _).dispatchIndex = w.state.dispatchIndex :=
      congrArg Standing.dispatchIndex (editRoute_standing w.state j
        (markDispatched (dispatchRecorded w j epoch coordinatorEpoch record)))
    unfold Handoff.recordDispatch
    rw [if_pos hrecords]
    change (OrderedMap.insert (editRoute w.state j _).dispatchIndex _ j).find? d = _
    rw [OrderedMap.find?_insert, hindex, dispatchRecorded_id hrecords, h.indexed]
    split_ifs <;> rfl
  constructor
  · intro h' hd
    have hindexed' := h'.indexed
    rw [hindexed, if_pos hd] at hindexed'
    exact hj (Option.some.inj hindexed')
  · intro hd
    refine ⟨hstatus, ?_, ?_⟩
    · rw [hfiled]
      exact h.filed
    · rw [hindexed, if_neg hd]

theorem recordCompletion_open {completion : CompletionRecord} (h : Open r d s) :
    Open r d (Handoff.recordCompletion s completion).1 ↔ completionTarget s completion ≠ some r := by
  obtain ⟨record, hrecord, hstatus⟩ := Option.map_eq_some_iff.mp h.status
  cases hc : completable s completion with
  | error result =>
      rw [recordCompletion_refused hc]
      refine iff_of_true h fun htarget => ?_
      rw [completable_of_dispatched htarget hrecord hstatus] at hc
      cases hc
  | ok target =>
      obtain ⟨j, found⟩ := target
      obtain ⟨htarget, -, -⟩ := completable_dispatched hc
      obtain ⟨-, hroutes, hdispatches, hindex⟩ := recordCompletion_taken hc
      rw [htarget, ne_eq, Option.some.injEq]
      by_cases hj : j = r
      · refine iff_of_false (fun h' => ?_) (not_not.mpr hj)
        have hdone := h'.status
        rw [hroutes, if_pos hj, completionStatus] at hdone
        split at hdone <;> cases hdone
      · refine iff_of_true ⟨?_, ?_, ?_⟩ hj
        · rw [hroutes, if_neg hj, h.status]
        · rw [hdispatches, if_neg hj, h.filed]
        · rw [hindex, h.indexed]

theorem event_open {e : Event World Act} (hkeep : ¬drops r e) (hname : completes d e = false)
    (h : Open r d e.pre.state) :
    (Open r d (after e).state ∧ handsOff r e = false) ↔ ¬disturbs r d e := by
  obtain ⟨record, hrecord, hstatus⟩ := Option.map_eq_some_iff.mp h.status
  obtain ⟨k, w⟩ := e
  cases hroutes : keepsRoutes k with
  | true =>
      have hopen : Open r d (k.apply w).state := by
        refine (h.kept_iff ?_).mpr ?_
        · cases k <;> first | rfl | cases hroutes
        · rw [statusOf, apply_routes hroutes]
          exact h.status
      cases k <;> first | exact iff_of_true ⟨hopen, rfl⟩ not_false | cases hroutes
  | false =>
      cases k with
      | mutate m now =>
          refine (and_iff_left (by rfl)).trans ((h.kept_iff rfl).trans ?_)
          refine (next_status_iff hrecord hstatus).trans (not_congr ?_)
          simp [disturbs, hrecord]
      | importState canonical =>
          change (Open r d (importSection canonical w).state ∧ _) ↔ _
          rw [importSection_running hkeep]
          exact iff_of_true ⟨h, rfl⟩ not_false
      | beginShutdown =>
          refine iff_of_true ⟨(h.kept_iff rfl).mpr ?_, rfl⟩ not_false
          change statusOf (beginShutdown w.state) r = _
          unfold beginShutdown
          split
          · exact h.status
          · change ((w.state.routes.map _).find? r).map _ = _
            rw [OrderedMap.find?_map, hrecord, Option.map_some, Option.map_some, withdrawCurrent,
              if_neg (by simp [hstatus]), hstatus]
      | commit draft =>
          have hnot : ¬evicts r ⟨.commit draft, w⟩ := fun hevicts => hkeep (.inl hevicts)
          refine (and_iff_left (by rfl)).trans ((h.kept_iff rfl).trans ?_)
          refine (commitSection_dispatched hnot hrecord hstatus).trans (not_congr ?_)
          simp [disturbs, hrecord]
      | markStale j =>
          refine (and_iff_left (by rfl)).trans ((h.kept_iff rfl).trans ?_)
          exact editRoute_dispatched (fun _ => by simp [RouteRecord.markStale]) h.status
      | finishRevalidate j bound comparisonCurrent now =>
          refine (and_iff_left (by rfl)).trans ((h.kept_iff rfl).trans ?_)
          change statusOf (finishRevalidate w.state j bound comparisonCurrent now) r = _ ↔ ¬j = r
          unfold finishRevalidate
          split
          · exact editRoute_dispatched (fun _ => by simp [markCurrent]) h.status
          · exact editRoute_dispatched (fun _ => by simp [RouteRecord.markStale]) h.status
      | supersede j now fresh =>
          refine (and_iff_left (by rfl)).trans ((h.kept_iff rfl).trans ?_)
          change statusOf (Handoff.supersede w.state j now fresh) r = _ ↔ ¬j = r
          unfold Handoff.supersede
          split
          · exact editRoute_dispatched (fun _ => by simp) h.status
          · exact editRoute_dispatched (fun _ => by simp) h.status
      | recordDispatch j epoch coordinatorEpoch dispatch =>
          change (Open r d (Handoff.recordDispatch w j epoch coordinatorEpoch dispatch).state ∧
            (decide (j = r) && recordsDispatch w.state j epoch coordinatorEpoch) = false) ↔
              ¬(recordsDispatch w.state j epoch coordinatorEpoch = true ∧ (j = r ∨ ⟨w.nextId⟩ = d))
          cases hrecords : recordsDispatch w.state j epoch coordinatorEpoch with
          | false =>
              rw [Handoff.recordDispatch, hrecords, if_neg Bool.false_ne_true]
              simpa using h
          | true =>
              by_cases hj : j = r
              · simp [hj]
              · rw [recordDispatch_other hj hrecords h]
                simp [hj]
      | recordCompletion completion =>
          have hother : completion.dispatchId ≠ d := by simpa [completes] using hname
          refine (and_iff_left (by rfl)).trans ((recordCompletion_open h).trans (not_congr ?_))
          simp [disturbs, hother]
      | _ => cases hroutes

theorem event_completed {e : Event World Act} (hd : d.valid = true) (hname : completes d e = true)
    (h : Open r d e.pre.state) : Shut r (after e).state := by
  obtain ⟨k, w⟩ := e
  cases k with
  | recordCompletion completion =>
      have hnamed : completion.dispatchId = d := by simpa [completes] using hname
      obtain ⟨-, hstatus, -⟩ := h.awaited hd completion hnamed
      refine ⟨_, hstatus, ?_⟩
      unfold completionStatus
      split <;> simp
  | _ => cases hname

theorem Shut.of_status {status : RouteStatus} (hstatus : statusOf s r = some status)
    (h : status ≠ .dispatched) : Shut r s :=
  ⟨status, hstatus, h⟩

theorem Shut.congr (h : t.routes = s.routes) (hs : Shut r s) : Shut r t := by
  obtain ⟨status, hstatus, hne⟩ := hs
  exact ⟨status, by rw [statusOf, h, ← statusOf, hstatus], hne⟩

theorem Shut.editRoute {j : RouteDecisionId} {edit : RouteRecord → RouteRecord}
    (hedit : ∀ record, (edit record).decision.status ≠ .dispatched) (h : Shut r s) :
    Shut r (Handoff.editRoute s j edit) := by
  obtain ⟨status, hstatus, hne⟩ := h
  obtain ⟨record, hrecord, -⟩ := Option.map_eq_some_iff.mp hstatus
  by_cases hj : j = r
  · refine ⟨(edit record).decision.status, ?_, hedit record⟩
    rw [statusOf_editRoute, if_pos hj, hrecord, Option.map_some]
  · refine ⟨status, ?_, hne⟩
    rw [statusOf_editRoute, if_neg hj, hstatus]

theorem Shut.restaled (h : RoutesRestaled s t) (hs : Shut r s) : Shut r t := by
  obtain ⟨f, hf, hfind⟩ := h
  obtain ⟨status, hstatus, hne⟩ := hs
  obtain ⟨record, hrecord, rfl⟩ := Option.map_eq_some_iff.mp hstatus
  have hafter : statusOf t r = some (f r record).decision.status := by
    rw [statusOf, hfind, hrecord, Option.map_some, Option.map_some]
  rcases hf r record with hsame | ⟨-, hstale⟩
  · exact ⟨_, hafter, by rwa [hsame]⟩
  · exact ⟨_, hafter, by simp [hstale, RouteRecord.markStale]⟩

theorem Shut.beginShutdown (h : Shut r s) : Shut r (Section.beginShutdown s) := by
  unfold Section.beginShutdown
  split
  · exact h
  · obtain ⟨status, hstatus, hne⟩ := h
    obtain ⟨record, hrecord, rfl⟩ := Option.map_eq_some_iff.mp hstatus
    refine ⟨(withdrawCurrent record).decision.status, ?_, ?_⟩
    · change ((s.routes.map _).find? r).map _ = _
      rw [OrderedMap.find?_map, hrecord, Option.map_some, Option.map_some]
    · unfold withdrawCurrent
      split
      · simp
      · exact hne

theorem Shut.commit {draft : CommitDraft} {w : World} (hkeep : ¬evicts r ⟨.commit draft, w⟩)
    (h : Shut r w.state) : Shut r (commitSection draft w).1.state := by
  obtain ⟨status, hstatus, hne⟩ := h
  obtain ⟨record, hrecord, rfl⟩ := Option.map_eq_some_iff.mp hstatus
  refine ⟨_, statusOf_eq (commitSection_find? hkeep hrecord), ?_⟩
  split
  · rcases staleDecisionIfNotDispatchable_cases (evict draft.kind w.state) draft.now record with
      hsame | ⟨-, hstale⟩
    · rwa [hsame]
    · simp [hstale, RouteRecord.markStale]
  · exact hne

theorem Shut.recordCompletion (completion : CompletionRecord) (h : Shut r s) :
    Shut r (Handoff.recordCompletion s completion).1 := by
  cases hc : completable s completion with
  | error result =>
      rw [recordCompletion_refused hc]
      exact h
  | ok target =>
      obtain ⟨j, found⟩ := target
      obtain ⟨-, hroutes, -⟩ := recordCompletion_taken hc
      by_cases hj : j = r
      · refine ⟨completionStatus completion, by rw [hroutes, if_pos hj], ?_⟩
        unfold completionStatus
        split <;> simp
      · obtain ⟨status, hstatus, hne⟩ := h
        exact ⟨status, by rw [hroutes, if_neg hj, hstatus], hne⟩

theorem event_shut {e : Event World Act} (hkeep : ¬drops r e) (h : Shut r e.pre.state) :
    if handsOff r e then statusOf (after e).state r = some .dispatched
    else Shut r (after e).state := by
  obtain ⟨k, w⟩ := e
  cases hroutes : keepsRoutes k with
  | true =>
      have hshut : Shut r (k.apply w).state := h.congr (apply_routes hroutes w)
      cases k <;> first | exact hshut | cases hroutes
  | false =>
      cases k with
      | mutate m now => exact Shut.restaled (next_routes m now w.state) h
      | importState canonical =>
          change Shut r (importSection canonical w).state
          rw [importSection_running hkeep]
          exact h
      | beginShutdown => exact Shut.beginShutdown h
      | commit draft => exact Shut.commit (fun hevicts => hkeep (.inl hevicts)) h
      | markStale j => exact Shut.editRoute (fun _ => by simp [RouteRecord.markStale]) h
      | finishRevalidate j bound comparisonCurrent now =>
          change Shut r (finishRevalidate w.state j bound comparisonCurrent now)
          unfold finishRevalidate
          split
          · exact Shut.editRoute (fun _ => by simp [markCurrent]) h
          · exact Shut.editRoute (fun _ => by simp [RouteRecord.markStale]) h
      | supersede j now fresh =>
          change Shut r (Handoff.supersede w.state j now fresh)
          unfold Handoff.supersede
          split
          · exact Shut.editRoute (fun _ => by simp) h
          · exact Shut.editRoute (fun _ => by simp) h
      | recordDispatch j epoch coordinatorEpoch dispatch =>
          change if (decide (j = r) && recordsDispatch w.state j epoch coordinatorEpoch) then
            statusOf (Handoff.recordDispatch w j epoch coordinatorEpoch dispatch).state r = _
            else Shut r (Handoff.recordDispatch w j epoch coordinatorEpoch dispatch).state
          cases hrecords : recordsDispatch w.state j epoch coordinatorEpoch with
          | false =>
              rw [Handoff.recordDispatch, hrecords, if_neg Bool.false_ne_true]
              simpa using h
          | true =>
              obtain ⟨status, hstatus, hne⟩ := h
              have hafter : statusOf
                  (Handoff.recordDispatch w j epoch coordinatorEpoch dispatch).state r = _ :=
                recordDispatch_status hrecords
              by_cases hj : j = r
              · rw [if_pos hj, hstatus] at hafter
                simpa [hj] using hafter
              · rw [if_neg hj, hstatus] at hafter
                simpa [hj] using Shut.of_status hafter hne
      | recordCompletion completion => exact Shut.recordCompletion completion h
      | _ => cases hroutes

/-- Over a stretch of a run after a handoff: until the dispatch is completed its completion is
awaited and no second handoff occurs, and from then on every completion for the decision is
refused. -/
def Kept (r : RouteDecisionId) (d : DispatchId) : Bool → Trace → Prop
  | _, [] => True
  | completed, e :: es =>
    (if completed || completes d e then Closed r (after e).state
      else Awaited r d (after e).state ∧ handsOff r e = false) ∧
    Kept r d (completed || completes d e) es

/-- A handoff is completed exactly once in the stretch of a run that follows it. -/
def CompletedOnce (r : RouteDecisionId) (handoff : Event World Act) (stretch : Trace) : Prop :=
  Awaited r ⟨handoff.pre.nextId⟩ (after handoff).state ∧ Kept r ⟨handoff.pre.nextId⟩ false stretch

/-- No section disturbs the handoff while it is pending, and none hands the decision off again
once it is completed. -/
def Undisturbed (r : RouteDecisionId) (d : DispatchId) : Bool → Trace → Prop
  | _, [] => True
  | completed, e :: es =>
    (if completed then handsOff r e = false else ¬disturbs r d e) ∧
    Undisturbed r d (completed || completes d e) es

def Phase (r : RouteDecisionId) (d : DispatchId) (completed : Bool) (s : CanonicalState) : Prop :=
  if completed then Shut r s else Open r d s

theorem Shut.closed (h : Shut r s) : Closed r s := by
  have hretained : ∃ status, statusOf s r = some status := h.imp fun _ => And.left
  exact (closed_iff hretained).mpr h

theorem not_closed (h : statusOf s r = some .dispatched) : ¬Closed r s := by
  rw [closed_iff ⟨_, h⟩]
  rintro ⟨status, hstatus, hne⟩
  exact hne (Option.some.inj (hstatus.symm.trans h))

theorem not_disturbs_of_completes {e : Event World Act} (h : completes d e = true) :
    ¬disturbs r d e := by
  obtain ⟨k, w⟩ := e
  cases k with
  | recordCompletion completion =>
      have hnamed : completion.dispatchId = d := by simpa [completes] using h
      exact fun hdisturbs => hdisturbs.2 hnamed
  | _ => cases h

theorem phase_step {e : Event World Act} {completed : Bool} (hd : d.valid = true)
    (hkeep : ¬drops r e) (h : Phase r d completed e.pre.state) :
    ((if completed || completes d e then Closed r (after e).state
        else Awaited r d (after e).state ∧ handsOff r e = false) ↔
      if completed then handsOff r e = false else ¬disturbs r d e) ∧
    ((if completed then handsOff r e = false else ¬disturbs r d e) →
      Phase r d (completed || completes d e) (after e).state) := by
  cases completed with
  | true =>
      have hshut := event_shut hkeep h
      cases hoff : handsOff r e with
      | true =>
          rw [hoff, if_pos rfl] at hshut
          exact ⟨iff_of_false (not_closed hshut) (by simp), by simp⟩
      | false =>
          rw [hoff, if_neg Bool.false_ne_true] at hshut
          exact ⟨iff_of_true hshut.closed (by simp), fun _ => hshut⟩
  | false =>
      cases hname : completes d e with
      | true =>
          have hshut := event_completed hd hname h
          have hcalm := not_disturbs_of_completes (r := r) hname
          exact ⟨iff_of_true hshut.closed hcalm, fun _ => hshut⟩
      | false =>
          have hopen := event_open hkeep hname h
          simp only [Bool.or_false, Bool.false_eq_true, if_false, awaited_iff hd, hopen, true_and]
          exact fun hcalm => (hopen.mpr hcalm).1

theorem kept_iff {s t : World} {es : Trace} {completed : Bool} (hd : d.valid = true)
    (hchained : Chained Act.apply s es t) (hkeep : ∀ e ∈ es, ¬drops r e)
    (h : Phase r d completed s.state) :
    Kept r d completed es ↔ Undisturbed r d completed es := by
  induction hchained generalizing completed with
  | nil s => exact Iff.rfl
  | @cons k s t es hchained ih =>
      rw [List.forall_mem_cons] at hkeep
      obtain ⟨hiff, hphase⟩ := phase_step (e := ⟨k, s⟩) hd hkeep.1 h
      constructor
      · rintro ⟨hhead, htail⟩
        have hcalm := hiff.mp hhead
        exact ⟨hcalm, (ih hkeep.2 (hphase hcalm)).mp htail⟩
      · rintro ⟨hcalm, htail⟩
        exact ⟨hiff.mpr hcalm, (ih hkeep.2 (hphase hcalm)).mpr htail⟩

theorem nextId_valid (w : World) : (⟨w.nextId⟩ : DispatchId).valid = true := by
  have hne : w.nextId ≠ 0 := by
    unfold World.nextId allocatorNext
    split
    · exact (by decide : kCeiling ≠ 0)
    · rename_i hlt
      have hceiling : kCeiling.toNat = 2 ^ 64 - 1 := by decide
      intro hzero
      have hsum := congrArg UInt64.toNat hzero
      rw [ge_iff_le, UInt64.le_iff_toNat_le, hceiling] at hlt
      simp only [UInt64.toNat_add, UInt64.toNat_one, UInt64.toNat_zero] at hsum
      omega
  simpa [EntityId.valid] using hne

theorem open_of_handsOff {e : Event World Act} (h : handsOff r e = true) :
    Open r ⟨e.pre.nextId⟩ (after e).state := by
  obtain ⟨k, w⟩ := e
  cases k with
  | recordDispatch j epoch coordinatorEpoch record =>
      simp only [handsOff, Bool.and_eq_true, decide_eq_true_eq] at h
      obtain ⟨rfl, hrecords⟩ := h
      have hretained : w.state.routes.contains j = true := by
        simp only [recordsDispatch, Bool.and_eq_true] at hrecords
        exact hrecords.1.1
      obtain ⟨kept, hkept⟩ := OrderedMap.contains_iff.mp hretained
      have hid : (dispatchRecorded w j epoch coordinatorEpoch record).dispatchId = ⟨w.nextId⟩ :=
        dispatchRecorded_id hrecords
      refine ⟨?_, ?_, ?_⟩
      · change statusOf (Handoff.recordDispatch w j epoch coordinatorEpoch record).state j = _
        rw [recordDispatch_status hrecords, if_pos rfl, statusOf_eq hkept, Option.map_some]
      · change ((Handoff.recordDispatch w j epoch coordinatorEpoch record).state.dispatches.find?
          j).map _ = _
        unfold Handoff.recordDispatch
        rw [if_pos hrecords]
        change ((OrderedMap.insert _ j _).find? j).map _ = _
        rw [OrderedMap.find?_insert_self, Option.map_some, hid]
      · change (Handoff.recordDispatch w j epoch coordinatorEpoch record).state.dispatchIndex.find? _ =
          _
        unfold Handoff.recordDispatch
        rw [if_pos hrecords]
        change (OrderedMap.insert _ _ j).find? _ = _
        rw [hid, OrderedMap.find?_insert_self]
  | _ => cases h

/-- A dispatched handoff of a schedule is completed exactly once, in any stretch that keeps the
decision, exactly when nothing disturbs it. -/
theorem interleaved_completedOnce_iff (options : ModelRouterOptions) (highest : UInt64)
    (schedule : List (Choice Op Env)) (r : RouteDecisionId) (handoff : Event World Act)
    (stretch : Trace) (hpart : handoff :: stretch <:+: interleaved options highest schedule)
    (hoff : handsOff r handoff = true) (hkeep : ∀ e ∈ stretch, ¬drops r e) :
    CompletedOnce r handoff stretch ↔ Undisturbed r ⟨handoff.pre.nextId⟩ false stretch := by
  obtain ⟨t, hchained⟩ := interleaved_chained options highest schedule
  obtain ⟨u, v, hstretch⟩ := hchained.of_infix hpart
  have hd := nextId_valid handoff.pre
  have hopen := open_of_handsOff hoff
  cases hstretch with
  | cons hrest =>
      exact (and_iff_right (hopen.awaited hd)).trans (kept_iff hd hrest hkeep hopen)

section

def restaledMeanwhile : List (Choice Op Env) :=
  inTurn 30 dispatchingEnv 0
    (liveCatalog ++ [.route sampleRequest, .dispatch ⟨101⟩ {} {},
      .mutation (.updateHealth (sampleEvidence .healthy ⟨2⟩))])

def mutates (e : Event World Act) : Bool :=
  match e.act with
  | .mutate _ _ => true
  | _ => false

theorem not_drops_of_mutates {e : Event World Act} (h : mutates e = true) : ¬drops r e := by
  obtain ⟨k, w⟩ := e
  cases k with
  | mutate m now =>
      rintro (hevicts | ⟨himports, -⟩)
      · exact hevicts
      · cases himports
  | _ => cases h

def restalesHandoff : Trace → Bool
  | [handoff, update] =>
    handsOff ⟨101⟩ handoff && mutates update && statusOf (after update).state ⟨101⟩ == some .stale
  | _ => false

theorem restaledMeanwhile_ends :
    ∃ handoff update, [handoff, update] <:+: interleaved dispatchingOptions 100 restaledMeanwhile ∧
      handsOff ⟨101⟩ handoff = true ∧ mutates update = true ∧
        statusOf (after update).state ⟨101⟩ = some .stale := by
  have hfound : restalesHandoff ((interleaved dispatchingOptions 100 restaledMeanwhile).dropWhile
      fun e => !handsOff ⟨101⟩ e) = true := by
    decide +kernel
  unfold restalesHandoff at hfound
  split at hfound
  · rename_i handoff update hends
    simp only [Bool.and_eq_true, beq_iff_eq] at hfound
    refine ⟨handoff, update, ?_, hfound.1.1, hfound.1.2, hfound.2⟩
    exact hends ▸ (List.dropWhile_suffix _).isInfix
  · cases hfound

theorem restaledMeanwhile_completedOnce_iff :
    ∃ handoff update, handsOff ⟨101⟩ handoff = true ∧
      (CompletedOnce ⟨101⟩ handoff [update] ↔
        Undisturbed ⟨101⟩ ⟨handoff.pre.nextId⟩ false [update]) := by
  obtain ⟨handoff, update, hpart, hoff, hmutates, -⟩ := restaledMeanwhile_ends
  refine ⟨handoff, update, hoff, ?_⟩
  exact interleaved_completedOnce_iff dispatchingOptions 100 restaledMeanwhile ⟨101⟩ handoff [update]
    hpart hoff (by simpa using not_drops_of_mutates hmutates)

theorem restaled_completion_refused :
    ¬∀ (options : ModelRouterOptions) (highest : UInt64) (schedule : List (Choice Op Env))
      (r : RouteDecisionId) (handoff : Event World Act) (stretch : Trace),
      handoff :: stretch <:+: interleaved options highest schedule →
        handsOff r handoff = true → (∀ e ∈ stretch, ¬drops r e) →
          CompletedOnce r handoff stretch := by
  intro h
  obtain ⟨handoff, update, hpart, hoff, hmutates, hstale⟩ := restaledMeanwhile_ends
  have honce := h dispatchingOptions 100 restaledMeanwhile ⟨101⟩ handoff [update] hpart hoff
    (by simpa using not_drops_of_mutates hmutates)
  have hname : completes ⟨handoff.pre.nextId⟩ update = false := by
    obtain ⟨k, w⟩ := update
    cases k with
    | mutate m now => rfl
    | _ => cases hmutates
  have hawaited : Awaited ⟨101⟩ ⟨handoff.pre.nextId⟩ (after update).state := by
    have hkept := honce.2.1
    simp only [hname, Bool.or_false, Bool.false_eq_true, if_false] at hkept
    exact hkept.1
  have hopen := (awaited_iff (nextId_valid _)).mp hawaited
  have hstatus := hopen.status
  rw [hstale] at hstatus
  cases hstatus

end

end ModelRouter.Handoffs
