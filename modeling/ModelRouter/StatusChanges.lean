import ModelRouter.Handoffs

namespace ModelRouter.StatusChanges

open Base Bytes Ids Outcome Capability Evidence Request Authority Decision Persistence State
open CatalogMutation EvidenceMutation Mutations Commit Handoff Recovery Providers Section Router
open Effects MutationFacts Currentness Run TerminalStatus Handoffs

variable {s t : CanonicalState} {id : RouteDecisionId} {status : RouteStatus}

/-- Where the status a section leaves on a decision comes from. -/
inductive Source (e : Event World Act) (id : RouteDecisionId) : RouteStatus → Prop where
  | kept {status : RouteStatus} : statusOf e.pre.state id = some status → Source e id status
  | withdrawn : Source e id .stale
  | committed {draft : CommitDraft} {status : RouteStatus} : e.act = .commit draft →
      commitRefusal draft e.pre.state = none → id = ⟨e.pre.nextId⟩ →
      e.pre.state.routes.find? id = none ∨ id ∈ evicted draft.kind e.pre.state →
      status = draft.decision.status → Source e id status
  | revalidated {bound : RouteAuthority} {comparisonCurrent : Bool} {now : UnixMillis} :
      e.act = .finishRevalidate id bound comparisonCurrent now →
      e.pre.state.routes.contains id = true → comparisonCurrent = true →
      dispatchabilityReason e.pre.state bound now = .accepted → Source e id .current
  | dispatched : handsOff id e = true → Source e id .dispatched
  | completed {completion : CompletionRecord} {status : RouteStatus} :
      e.act = .recordCompletion completion → statusOf e.pre.state id = some .dispatched →
      status = completionStatus completion → Source e id status
  | superseded : Source e id .superseded

theorem restaled_source {e : Event World Act} (h : RoutesRestaled e.pre.state t)
    (hstatus : statusOf t id = some status) : Source e id status := by
  obtain ⟨f, hf, hfind⟩ := h
  rw [statusOf, hfind, Option.map_map] at hstatus
  obtain ⟨record, hrecord, rfl⟩ := Option.map_eq_some_iff.mp hstatus
  rcases hf id record with hsame | ⟨-, hstale⟩
  · refine .kept ?_
    rw [Function.comp_apply, hsame, statusOf_eq hrecord]
  · rw [Function.comp_apply, hstale]
    exact .withdrawn

theorem editRoute_source {e : Event World Act} {j : RouteDecisionId}
    {edit : RouteRecord → RouteRecord}
    (hstatus : statusOf (editRoute e.pre.state j edit) id = some status)
    (hedit : ∀ record, e.pre.state.routes.find? id = some record → j = id →
      Source e id (edit record).decision.status) : Source e id status := by
  rw [statusOf_editRoute] at hstatus
  split at hstatus
  · rename_i hj
    obtain ⟨record, hrecord, rfl⟩ := Option.map_eq_some_iff.mp hstatus
    exact hedit record hrecord hj
  · exact .kept hstatus

theorem restore_routes (s : CanonicalState) (canonical : RouterPersistentState)
    (routes : OrderedMap RouteDecisionId RouteRecord) :
    (restore s canonical routes).routes = routes :=
  rebuildIndexes_keeps _ CanonicalState.routes (fun _ _ => rfl) rfl

theorem checked_status (s : CanonicalState) (now : UnixMillis) (record : RouteRecord) :
    (staleDecisionIfNotDispatchable s now record).decision.status = record.decision.status ∨
      (staleDecisionIfNotDispatchable s now record).decision.status = .stale := by
  rcases staleDecisionIfNotDispatchable_cases s now record with h | ⟨-, h⟩
  · exact .inl (by rw [h])
  · exact .inr (by rw [h, RouteRecord.markStale])

theorem boundDecision_status (s : CanonicalState) (draft : CommitDraft) (j : RouteDecisionId) :
    (boundDecision s draft j).status = draft.decision.status ∨
      (boundDecision s draft j).status = .stale := by
  unfold boundDecision
  dsimp only
  split
  · exact .inl rfl
  · exact .inr rfl

theorem commit_source {draft : CommitDraft} {w : World}
    (hstatus : statusOf (commitSection draft w).1.state id = some status) :
    Source ⟨.commit draft, w⟩ id status := by
  unfold commitSection at hstatus
  cases hr : commitRefusal draft w.state with
  | some refusal =>
      rw [hr] at hstatus
      exact .kept hstatus
  | none =>
      rw [hr] at hstatus
      have hkept : (evict draft.kind w.state).routes.find? id = _ :=
        OrderedMap.find?_foldl_erase _ _ _
      have hinserted (fresh : RouteRecord) (hfresh : fresh.decision.decisionId = ⟨w.nextId⟩) :
          statusOf (insertRecord (evict draft.kind w.state) fresh draft.now) id =
            if id = ⟨w.nextId⟩ then
              some (staleDecisionIfNotDispatchable (evict draft.kind w.state) draft.now
                (((evict draft.kind w.state).routes.find? id).getD fresh)).decision.status
            else statusOf (evict draft.kind w.state) id := by
        change (((evict draft.kind w.state).routes.insert fresh.decision.decisionId _).find?
          id).map _ = _
        rw [OrderedMap.find?_insert, hfresh]
        by_cases hid : id = ⟨w.nextId⟩
        · rw [if_pos hid.symm, if_pos hid, ← hid, Option.map_some]
        · rw [if_neg (Ne.symm hid), if_neg hid, statusOf]
      dsimp only at hstatus
      rw [statusOf, noteTenant_routes] at hstatus
      have hstatus' := (hinserted (committedRecord draft
        (boundDecision (evict draft.kind w.state) draft ⟨w.nextId⟩) ⟨w.allocate.nextId⟩)
          rfl).symm.trans hstatus
      by_cases hid : id = ⟨w.nextId⟩
      · rw [if_pos hid] at hstatus'
        obtain rfl := Option.some.inj hstatus'
        cases hheld : (evict draft.kind w.state).routes.find? id with
        | some record =>
            rw [hheld] at hkept
            rw [Option.getD_some]
            have hrecord : w.state.routes.find? id = some record := by
              split at hkept
              · cases hkept
              · exact hkept.symm
            rcases checked_status (evict draft.kind w.state) draft.now record with h | h
            · rw [h]
              exact .kept (statusOf_eq hrecord)
            · rw [h]
              exact .withdrawn
        | none =>
            have hfree : w.state.routes.find? id = none ∨ id ∈ evicted draft.kind w.state := by
              rw [hheld] at hkept
              split at hkept
              · rename_i hmem
                exact .inr hmem
              · exact .inl hkept.symm
            rw [Option.getD_none]
            rcases checked_status (evict draft.kind w.state) draft.now (committedRecord draft
              (boundDecision (evict draft.kind w.state) draft ⟨w.nextId⟩) ⟨w.allocate.nextId⟩) with
              h | h
            · rw [h]
              rcases boundDecision_status (evict draft.kind w.state) draft ⟨w.nextId⟩ with hb | hb
              · rw [committedRecord, hb]
                exact .committed rfl hr hid hfree rfl
              · rw [committedRecord, hb]
                exact .withdrawn
            · rw [h]
              exact .withdrawn
      · rw [if_neg hid, statusOf, hkept] at hstatus'
        split at hstatus'
        · cases hstatus'
        · exact .kept hstatus'

theorem event_source {e : Event World Act} (hstatus : statusOf (after e).state id = some status) :
    Source e id status := by
  obtain ⟨k, w⟩ := e
  cases hroutes : keepsRoutes k with
  | true =>
      refine .kept ?_
      change statusOf (k.apply w).state id = some status at hstatus
      rwa [statusOf, apply_routes hroutes] at hstatus
  | false =>
      cases k with
      | mutate m now => exact restaled_source (next_routes m now w.state) hstatus
      | importState canonical =>
          change statusOf (importSection canonical w).state id = _ at hstatus
          unfold importSection at hstatus
          split at hstatus
          · exact .kept hstatus
          · obtain ⟨record, hrecord, rfl⟩ := Option.map_eq_some_iff.mp hstatus
            dsimp only at hrecord
            rw [restore_routes] at hrecord
            rw [importRoutes_stale (fun id record h => by cases h) id record hrecord]
            exact .withdrawn
      | beginShutdown =>
          change statusOf (beginShutdown w.state) id = _ at hstatus
          unfold beginShutdown at hstatus
          split at hstatus
          · exact .kept hstatus
          · change ((w.state.routes.map _).find? id).map _ = _ at hstatus
            rw [OrderedMap.find?_map, Option.map_map] at hstatus
            obtain ⟨record, hrecord, rfl⟩ := Option.map_eq_some_iff.mp hstatus
            rw [Function.comp_apply]
            unfold withdrawCurrent
            split
            · exact .withdrawn
            · exact .kept (statusOf_eq hrecord)
      | commit draft => exact commit_source hstatus
      | markStale j => exact editRoute_source hstatus fun _ _ _ => .withdrawn
      | finishRevalidate j bound comparisonCurrent now =>
          change statusOf (finishRevalidate w.state j bound comparisonCurrent now) id = _ at hstatus
          unfold finishRevalidate at hstatus
          split at hstatus
          · rename_i hcurrent
            refine editRoute_source hstatus fun record hrecord hj => ?_
            subst hj
            exact .revalidated rfl (OrderedMap.contains_iff.mpr ⟨record, hrecord⟩) hcurrent.1
              hcurrent.2
          · exact editRoute_source hstatus fun _ _ _ => .withdrawn
      | recordDispatch j epoch coordinatorEpoch dispatch =>
          change statusOf (Handoff.recordDispatch w j epoch coordinatorEpoch dispatch).state id = _
            at hstatus
          cases hrecords : recordsDispatch w.state j epoch coordinatorEpoch with
          | false =>
              rw [Handoff.recordDispatch, hrecords, if_neg Bool.false_ne_true] at hstatus
              exact .kept hstatus
          | true =>
              rw [recordDispatch_status hrecords] at hstatus
              split at hstatus
              · rename_i hj
                obtain ⟨-, -, rfl⟩ := Option.map_eq_some_iff.mp hstatus
                exact .dispatched (by simp [handsOff, hj, hj ▸ hrecords])
              · exact .kept hstatus
      | recordCompletion completion =>
          change statusOf (Handoff.recordCompletion w.state completion).1 id = _ at hstatus
          cases hc : completable w.state completion with
          | error result =>
              rw [recordCompletion_refused hc] at hstatus
              exact .kept hstatus
          | ok target =>
              obtain ⟨j, record⟩ := target
              obtain ⟨-, hwritten, -⟩ := recordCompletion_taken hc
              obtain ⟨-, hrecord, hdispatched⟩ := completable_dispatched hc
              rw [hwritten] at hstatus
              split at hstatus
              · rename_i hj
                subst hj
                obtain rfl := Option.some.inj hstatus
                exact .completed rfl (by rw [statusOf_eq hrecord, hdispatched]) rfl
              · exact .kept hstatus
      | supersede j now fresh =>
          change statusOf (Handoff.supersede w.state j now fresh) id = _ at hstatus
          unfold Handoff.supersede at hstatus
          split at hstatus
          · exact editRoute_source hstatus fun _ _ _ => .superseded
          · exact editRoute_source hstatus fun _ _ _ => .superseded
      | _ => cases hroutes

end ModelRouter.StatusChanges
