import ModelRouter.Run

namespace ModelRouter.Records

open Base Bytes Ids Outcome Capability Evidence Authority Decision Persistence State CatalogMutation
open EvidenceMutation Mutations Commit Handoff Recovery Providers Section Effects MutationFacts Run

variable {s t : CanonicalState} {id : RouteDecisionId} {record earlier : RouteRecord}

/-- A record without what later operations on it change: its status, its dispatch and what the
explanation says of its currentness. -/
def frozen (record : RouteRecord) : RouteRecord :=
  { record with
    decision := { record.decision with
      status := .current
      dispatchId := {}
      dispatchGeneration := {}
      supersededAtUnixMillis := 0
      explanation := { record.decision.explanation with
        currentness := .current
        revalidationRequired := false } } }

theorem frozen_markStale (record : RouteRecord) : frozen record.markStale = frozen record := rfl

theorem frozen_markCurrent (record : RouteRecord) : frozen (markCurrent record) = frozen record := rfl

theorem frozen_markDispatched (dispatch : DispatchRecord) (record : RouteRecord) :
    frozen (markDispatched dispatch record) = frozen record := rfl

theorem frozen_supersede (now : UnixMillis) (record : RouteRecord) :
    frozen { record with
      decision := { record.decision with status := .superseded, supersededAtUnixMillis := now } } =
        frozen record := rfl

theorem frozen_withdrawCurrent (record : RouteRecord) :
    frozen (withdrawCurrent record) = frozen record := by
  rw [withdrawCurrent]
  split
  · rfl
  · rfl

theorem frozen_checked (s : CanonicalState) (now : UnixMillis) (record : RouteRecord) :
    frozen (staleDecisionIfNotDispatchable s now record) = frozen record := by
  rcases staleDecisionIfNotDispatchable_cases s now record with h | ⟨-, h⟩
  · rw [h]
  · rw [h, frozen_markStale]

/-- What a taken commit leaves under an identity: the new decision goes under the identity handed
out next, unless one that was not evicted is still there. -/
theorem commitSection_routes {draft : CommitDraft} {w : World}
    (h : commitRefusal draft w.state = none) (id : RouteDecisionId) :
    (commitSection draft w).1.state.routes.find? id =
      if id = ⟨w.nextId⟩ then
        some (staleDecisionIfNotDispatchable (evict draft.kind w.state) draft.now
          (((evict draft.kind w.state).routes.find? id).getD
            (committedRecord draft (boundDecision (evict draft.kind w.state) draft ⟨w.nextId⟩)
              ⟨w.allocate.nextId⟩)))
      else (evict draft.kind w.state).routes.find? id := by
  rw [commitSection, h]
  dsimp only
  rw [noteTenant_routes]
  change ((evict draft.kind w.state).routes.insert ⟨w.nextId⟩ _).find? id = _
  rw [OrderedMap.find?_insert]
  by_cases hid : id = ⟨w.nextId⟩
  · rw [if_pos hid.symm, if_pos hid, hid]
    rfl
  · rw [if_neg (Ne.symm hid), if_neg hid]

theorem evict_routes (kind : CommitKind) (s : CanonicalState) (id : RouteDecisionId) :
    (evict kind s).routes.find? id =
      if id ∈ evicted kind s then none else s.routes.find? id := by
  have hkept : (evict kind s).routes.find? id = _ := OrderedMap.find?_foldl_erase _ _ _
  by_cases hid : id ∈ evicted kind s
  · rw [hkept, if_pos hid, if_pos hid]
  · rw [hkept, if_neg hid, if_neg hid]

/-- A commit that writes a new decision under the identity. -/
def replaces (id : RouteDecisionId) (e : Event World Act) : Prop :=
  match e.act with
  | .commit draft =>
    commitRefusal draft e.pre.state = none ∧ id = ⟨e.pre.nextId⟩ ∧
      (e.pre.state.routes.find? id = none ∨ id ∈ evicted draft.kind e.pre.state)
  | _ => False

theorem replaced_record {e : Event World Act} (h : replaces id e)
    (hrecord : (after e).state.routes.find? id = some record) :
    ∃ draft, e.act = .commit draft ∧
      frozen record = frozen (committedRecord draft
        (boundDecision (evict draft.kind e.pre.state) draft id) ⟨e.pre.allocate.nextId⟩) := by
  obtain ⟨k, w⟩ := e
  cases k with
  | commit draft =>
      obtain ⟨htaken, hid, hfree⟩ := h
      change (commitSection draft w).1.state.routes.find? id = some record at hrecord
      have hkept : (evict draft.kind w.state).routes.find? id = none := by
        rw [evict_routes]
        rcases hfree with hnone | hevicted
        · rw [hnone, ite_self]
        · rw [if_pos hevicted]
      rw [commitSection_routes htaken, if_pos hid, hkept, Option.getD_none] at hrecord
      refine ⟨draft, rfl, ?_⟩
      rw [← Option.some.inj hrecord, frozen_checked, hid]
  | _ => exact h.elim

/-- An import that takes effect. -/
def restores (e : Event World Act) : Prop :=
  imports e.act = true ∧ e.pre.state.running = false

theorem not_restores {e : Event World Act} (h : imports e.act = false) : ¬restores e := by
  rintro ⟨himports, -⟩
  rw [h] at himports
  cases himports

/-- Where a record that a section leaves comes from, as far as no later operation changes it. -/
inductive Origin (e : Event World Act) (id : RouteDecisionId) (record : RouteRecord) : Prop where
  | retained {earlier : RouteRecord} : e.pre.state.routes.find? id = some earlier →
      frozen record = frozen earlier → ¬restores e → Origin e id record
  | committed {draft : CommitDraft} : e.act = .commit draft → replaces id e →
      frozen record = frozen (committedRecord draft
        (boundDecision (evict draft.kind e.pre.state) draft id) ⟨e.pre.allocate.nextId⟩) →
      Origin e id record
  | imported {canonical : RouterPersistentState} {route : PersistedRouteRecord}
      {planId : RoutePlanId} : e.act = .importState canonical → e.pre.state.running = false →
      route ∈ canonical.routes → route.decisionId = id → record = importRoute route planId →
      Origin e id record

theorem origin_of_restaled {e : Event World Act} (hkeep : imports e.act = false)
    (h : RoutesRestaled e.pre.state t) (hrecord : t.routes.find? id = some record) : Origin e id record := by
  obtain ⟨f, hf, hfind⟩ := h
  rw [hfind] at hrecord
  obtain ⟨earlier, hearlier, rfl⟩ := Option.map_eq_some_iff.mp hrecord
  refine .retained hearlier ?_ (not_restores hkeep)
  rcases hf id earlier with h | ⟨-, h⟩
  · rw [h]
  · rw [h, frozen_markStale]

theorem origin_of_edit {e : Event World Act} (hkeep : imports e.act = false) {j : RouteDecisionId}
    {edit : RouteRecord → RouteRecord} (hedit : ∀ record, frozen (edit record) = frozen record)
    (hrecord : (editRoute e.pre.state j edit).routes.find? id = some record) :
    Origin e id record := by
  rw [editRoute_find?] at hrecord
  split at hrecord
  · obtain ⟨earlier, hearlier, rfl⟩ := Option.map_eq_some_iff.mp hrecord
    exact .retained hearlier (hedit earlier) (not_restores hkeep)
  · exact .retained hrecord rfl (not_restores hkeep)

theorem commit_origin {draft : CommitDraft} {w : World}
    (hrecord : (commitSection draft w).1.state.routes.find? id = some record) :
    Origin ⟨.commit draft, w⟩ id record := by
  cases hrefusal : commitRefusal draft w.state with
  | some refusal =>
      rw [commitSection, hrefusal] at hrecord
      exact .retained hrecord rfl (not_restores rfl)
  | none =>
      rw [commitSection_routes hrefusal] at hrecord
      have hkept := evict_routes draft.kind w.state id
      split at hrecord
      · rename_i hid
        obtain rfl := Option.some.inj hrecord
        cases hheld : (evict draft.kind w.state).routes.find? id with
        | some earlier =>
            rw [hheld] at hkept
            split at hkept
            · cases hkept
            · exact .retained hkept.symm (frozen_checked _ _ _) (not_restores rfl)
        | none =>
            have hfree : w.state.routes.find? id = none ∨ id ∈ evicted draft.kind w.state := by
              rw [hheld] at hkept
              split at hkept
              · rename_i hmem
                exact .inr hmem
              · exact .inl hkept.symm
            refine .committed rfl ⟨hrefusal, hid, hfree⟩ ?_
            rw [frozen_checked, Option.getD_none, hid]
      · rw [hkept] at hrecord
        split at hrecord
        · cases hrecord
        · exact .retained hrecord rfl (not_restores rfl)

theorem importRoutes_find? {highest : UInt64} {routes : List PersistedRouteRecord}
    {kept : OrderedMap RouteDecisionId RouteRecord}
    (hrecord : (importRoutes highest kept routes).2.find? id = some record) :
    kept.find? id = some record ∨
      ∃ route ∈ routes, ∃ planId, route.decisionId = id ∧ record = importRoute route planId := by
  induction routes generalizing highest kept with
  | nil => exact .inl hrecord
  | cons route rest ih =>
      rcases ih hrecord with hkept | ⟨other, hother, hfound⟩
      · rw [OrderedMap.find?_insert] at hkept
        split at hkept
        · rename_i hid
          exact .inr ⟨route, List.mem_cons_self, _, hid, (Option.some.inj hkept).symm⟩
        · exact .inl hkept
      · exact .inr ⟨other, List.mem_cons_of_mem route hother, hfound⟩

theorem restored_routes (s : CanonicalState) (canonical : RouterPersistentState)
    (routes : OrderedMap RouteDecisionId RouteRecord) :
    (restore s canonical routes).routes = routes :=
  rebuildIndexes_keeps _ CanonicalState.routes (fun _ _ => rfl) rfl

theorem import_origin {canonical : RouterPersistentState} {w : World}
    (hrecord : (importSection canonical w).state.routes.find? id = some record) :
    Origin ⟨.importState canonical, w⟩ id record := by
  rw [importSection] at hrecord
  split at hrecord
  · rename_i hrunning
    refine .retained hrecord rfl fun hrestores => ?_
    exact Bool.false_ne_true (hrestores.2.symm.trans hrunning)
  · rename_i hrunning
    dsimp only at hrecord
    rw [restored_routes] at hrecord
    rcases importRoutes_find? hrecord with hkept | ⟨route, hroute, planId, hid, rfl⟩
    · cases hkept
    · exact .imported rfl (Bool.eq_false_iff.mpr hrunning) hroute hid rfl

theorem completable_find? {completion : CompletionRecord}
    (h : completable s completion = .ok (id, record)) : s.routes.find? id = some record := by
  rw [completable] at h
  split at h
  · cases h
  · split at h
    · cases h
    · rename_i found hfound
      split at h
      · cases h
      · obtain ⟨rfl, rfl⟩ := Prod.mk.inj (Except.ok.inj h)
        exact hfound

theorem event_origin {e : Event World Act} (hrecord : (after e).state.routes.find? id = some record) :
    Origin e id record := by
  obtain ⟨k, w⟩ := e
  change (k.apply w).state.routes.find? id = some record at hrecord
  cases hroutes : keepsRoutes k with
  | true =>
      rw [apply_routes hroutes] at hrecord
      refine .retained hrecord rfl (not_restores ?_)
      cases k with
      | importState canonical => cases hroutes
      | _ => rfl
  | false =>
      cases k with
      | mutate m now => exact origin_of_restaled rfl (next_routes m now w.state) hrecord
      | importState canonical => exact import_origin hrecord
      | beginShutdown =>
          change (beginShutdown w.state).routes.find? id = some record at hrecord
          rw [beginShutdown] at hrecord
          split at hrecord
          · exact .retained hrecord rfl (not_restores rfl)
          · change (w.state.routes.map _).find? id = some record at hrecord
            rw [OrderedMap.find?_map] at hrecord
            obtain ⟨earlier, hearlier, rfl⟩ := Option.map_eq_some_iff.mp hrecord
            exact .retained hearlier (frozen_withdrawCurrent earlier) (not_restores rfl)
      | commit draft => exact commit_origin hrecord
      | markStale j => exact origin_of_edit rfl frozen_markStale hrecord
      | finishRevalidate j bound comparisonCurrent now =>
          change (finishRevalidate w.state j bound comparisonCurrent now).routes.find? id = _
            at hrecord
          rw [finishRevalidate] at hrecord
          split at hrecord
          · exact origin_of_edit rfl frozen_markCurrent hrecord
          · exact origin_of_edit rfl frozen_markStale hrecord
      | recordDispatch j epoch coordinatorEpoch dispatch =>
          change (Handoff.recordDispatch w j epoch coordinatorEpoch dispatch).state.routes.find? id
            = _ at hrecord
          rw [Handoff.recordDispatch] at hrecord
          split at hrecord
          · exact origin_of_edit rfl (frozen_markDispatched _) hrecord
          · exact .retained hrecord rfl (not_restores rfl)
      | recordCompletion completion =>
          change (Handoff.recordCompletion w.state completion).1.routes.find? id = _ at hrecord
          rw [Handoff.recordCompletion] at hrecord
          cases hc : completable w.state completion with
          | error result =>
              rw [hc] at hrecord
              exact .retained hrecord rfl (not_restores rfl)
          | ok target =>
              obtain ⟨j, earlier⟩ := target
              rw [hc] at hrecord
              change (w.state.routes.insert j _).find? id = some record at hrecord
              rw [OrderedMap.find?_insert] at hrecord
              split at hrecord
              · rename_i hj
                obtain rfl := Option.some.inj hrecord
                subst hj
                exact .retained (completable_find? hc) rfl (not_restores rfl)
              · exact .retained hrecord rfl (not_restores rfl)
      | supersede j now fresh =>
          change (Handoff.supersede w.state j now fresh).routes.find? id = _ at hrecord
          rw [Handoff.supersede] at hrecord
          split at hrecord
          · exact origin_of_edit rfl (frozen_supersede now) hrecord
          · exact origin_of_edit rfl (frozen_supersede now) hrecord
      | _ => cases hroutes

theorem frozen_kept {w v : World} {es : List (Event World Act)} (h : Chained Act.apply w es v)
    (hkeeps : ∀ e ∈ es, ¬replaces id e ∧ ¬restores e)
    (hrecord : v.state.routes.find? id = some record) :
    ∃ earlier, w.state.routes.find? id = some earlier ∧ frozen record = frozen earlier := by
  induction h with
  | nil s => exact ⟨record, hrecord, rfl⟩
  | @cons k s t es h ih =>
      rw [List.forall_mem_cons] at hkeeps
      obtain ⟨later, hlater, hf⟩ := ih hkeeps.2 hrecord
      have horigin : Origin ⟨k, s⟩ id later := event_origin hlater
      cases horigin with
      | retained hearlier hf' _ => exact ⟨_, hearlier, hf.trans hf'⟩
      | committed _ hreplaces _ => exact absurd hreplaces hkeeps.1.1
      | imported hact hstopped _ _ _ =>
          refine absurd ⟨?_, hstopped⟩ hkeeps.1.2
          rw [hact]
          rfl

end ModelRouter.Records
