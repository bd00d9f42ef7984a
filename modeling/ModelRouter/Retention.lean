import ModelRouter.Fencing
import ModelRouter.StatusChanges

namespace ModelRouter.Retention

open Base Bytes Ids Outcome Capability Limits Authority Decision Persistence State CatalogMutation
open EvidenceMutation Mutations Commit Handoff Recovery Providers Section Router Effects
open MutationFacts Fencing Run TerminalStatus Handoffs StatusChanges

variable {s t : CanonicalState} {m : Mutation} {now : UnixMillis}

/-- Retained state is bounded and its containers are in step. -/
structure Bounded (s : CanonicalState) : Prop where
  nodup : s.routeOrder.Nodup
  order : ∀ id, id ∈ s.routeOrder ↔ s.routes.contains id = true
  history : s.routes.size ≤ s.limits.maxRouteHistory.toNat
  dispatches : ∀ id, s.dispatches.contains id = true → s.routes.contains id = true
  dispatchIndex : ∀ d id, s.dispatchIndex.find? d = some id → s.routes.contains id = true
  fences : s.fencedBoots.size ≤ s.limits.maxBackendIncarnations.toNat

/-- The parts of a state its bounds are about. -/
structure Footprint where
  order : List RouteDecisionId
  retained : RouteDecisionId → Bool
  dispatched : RouteDecisionId → Bool
  index : OrderedMap DispatchId RouteDecisionId
  fences : Nat
  limits : ResourceLimits

def footprint (s : CanonicalState) : Footprint where
  order := s.routeOrder
  retained := s.routes.contains
  dispatched := s.dispatches.contains
  index := s.dispatchIndex
  fences := s.fencedBoots.size
  limits := s.limits

theorem Bounded.congr (h : footprint t = footprint s) (hs : Bounded s) : Bounded t := by
  have horder : t.routeOrder = s.routeOrder := congrArg Footprint.order h
  have hretained : t.routes.contains = s.routes.contains := congrArg Footprint.retained h
  have hdispatched : t.dispatches.contains = s.dispatches.contains :=
    congrArg Footprint.dispatched h
  have hindex : t.dispatchIndex = s.dispatchIndex := congrArg Footprint.index h
  have hfences : t.fencedBoots.size = s.fencedBoots.size := congrArg Footprint.fences h
  have hlimits : t.limits = s.limits := congrArg Footprint.limits h
  have hsize : t.routes.size = s.routes.size := OrderedMap.size_congr (congrFun hretained)
  refine ⟨?_, ?_, ?_, ?_, ?_, ?_⟩
  · rw [horder]
    exact hs.nodup
  · rw [horder, hretained]
    exact hs.order
  · rw [hsize, hlimits]
    exact hs.history
  · rw [hdispatched, hretained]
    exact hs.dispatches
  · rw [hindex, hretained]
    exact hs.dispatchIndex
  · rw [hfences, hlimits]
    exact hs.fences

theorem Bounded.size (hs : Bounded s) : s.routes.size = s.routeOrder.length :=
  OrderedMap.size_eq_length hs.nodup hs.order

theorem RoutesRestaled.contains (h : RoutesRestaled s t) : t.routes.contains = s.routes.contains := by
  obtain ⟨f, -, hfind⟩ := h
  funext id
  simp only [OrderedMap.contains, hfind, Option.isSome_map]

theorem next_footprint (m : Mutation) (now : UnixMillis) (s : CanonicalState) :
    footprint (m.next now s) = { footprint s with fences := (m.next now s).fencedBoots.size } := by
  have hcontrol := next_control m now s
  have horder : (m.next now s).routeOrder = s.routeOrder := congrArg Control.routeOrder hcontrol
  have hdispatches : (m.next now s).dispatches = s.dispatches := congrArg Control.dispatches hcontrol
  have hindex : (m.next now s).dispatchIndex = s.dispatchIndex :=
    congrArg Control.dispatchIndex hcontrol
  have hlimits : (m.next now s).limits = s.limits := congrArg Control.limits hcontrol
  have hretained := RoutesRestaled.contains (next_routes m now s)
  simp only [footprint, horder, hdispatches, hindex, hlimits, hretained]

theorem next_fencedBoots (hm : withdraws m = false) :
    (m.next now s).fencedBoots = s.fencedBoots := by
  cases hmoves : movesIncarnation m with
  | false => exact (next_incarnations hmoves).1
  | true =>
      cases m with
      | registerBackend raw =>
          rcases next_cases (.registerBackend raw) now s with h | ⟨-, h⟩
          · rw [h]
          · rw [h, fencedBoots_of_holdings (written_holdings _ now)]
            change (installBackend _ raw.canonicalize).fencedBoots = _
            simp only [installBackend]
            cases s.backends.find? raw.canonicalize.backendId <;> rfl
      | unregisterBackend id generation => cases hm
      | fenceBackendBoot id generation boot reason => cases hm
      | _ => cases hmoves

theorem contains_insert_retained {V : Type} {routes : OrderedMap RouteDecisionId V}
    {id : RouteDecisionId} (h : routes.contains id = true) (v : V) :
    (routes.insert id v).contains = routes.contains := by
  funext j
  rw [OrderedMap.contains_insert]
  by_cases hj : id = j
  · rw [← hj, h, Bool.or_true]
  · simp [hj]

theorem contains_of_find? {V : Type} {routes : OrderedMap RouteDecisionId V}
    {id : RouteDecisionId} {v : V} (h : routes.find? id = some v) : routes.contains id = true :=
  OrderedMap.contains_iff.mpr ⟨v, h⟩

theorem editRoute_footprint (s : CanonicalState) (id : RouteDecisionId)
    (edit : RouteRecord → RouteRecord) : footprint (editRoute s id edit) = footprint s := by
  simp only [editRoute]
  cases hfind : s.routes.find? id with
  | none => rfl
  | some record =>
      simp only [footprint, contains_insert_retained (contains_of_find? hfind)]

theorem noteTenant_footprint (s : CanonicalState) (tenant : TenantId) :
    footprint (s.noteTenant tenant) = footprint s := by
  simp only [CanonicalState.noteTenant]
  split <;> rfl

theorem beginShutdown_footprint (s : CanonicalState) :
    footprint (beginShutdown s) = footprint s := by
  simp only [beginShutdown]
  split
  · rfl
  · have hretained :
        (s.routes.map fun _ record => withdrawCurrent record).contains = s.routes.contains :=
      funext fun id => OrderedMap.contains_map _ _ _
    simp only [footprint, hretained]

theorem recordCompletion_footprint (s : CanonicalState) (completion : CompletionRecord) :
    footprint (Handoff.recordCompletion s completion).1 = footprint s := by
  simp only [Handoff.recordCompletion]
  cases hcompletable : completable s completion with
  | error result => rfl
  | ok target =>
      obtain ⟨-, hfind, -⟩ := completable_dispatched hcompletable
      have hretained := contains_insert_retained (contains_of_find? hfind)
      cases hdispatch : s.dispatches.find? target.1 with
      | none => simp only [footprint, hdispatch, hretained]
      | some dispatch =>
          have hdispatched := contains_insert_retained (contains_of_find? hdispatch)
          simp only [footprint, hdispatch, hretained, hdispatched]

def keepsFootprint : Act → Bool
  | .mutate m _ => !withdraws m
  | .importState _ | .commit _ | .recordDispatch _ _ _ _ => false
  | _ => true

theorem apply_footprint {k : Act} (hk : keepsFootprint k = true) (w : World) :
    footprint (k.apply w).state = footprint w.state := by
  cases k with
  | observe => rfl
  | allocate => rfl
  | mutate m now =>
      have hm : withdraws m = false := by simpa [keepsFootprint] using hk
      change footprint (m.next now w.state) = _
      rw [next_footprint, next_fencedBoots hm]
      rfl
  | writeCapacityDetail detail =>
      change footprint (editBackend w.state detail.backendId _) = _
      simp only [editBackend]
      split <;> rfl
  | admitStart =>
      change footprint (admitStart w.state) = _
      simp only [admitStart]
      split <;> rfl
  | publish now =>
      change footprint (publish w.state now) = _
      simp only [publish]
      split <;> rfl
  | beginShutdown => exact beginShutdown_footprint w.state
  | rejectRoute tenant rejected => exact noteTenant_footprint _ _
  | markStale id => exact editRoute_footprint w.state id _
  | finishRevalidate id bound comparisonCurrent now =>
      change footprint (finishRevalidate w.state id bound comparisonCurrent now) = _
      simp only [finishRevalidate]
      split
      · exact editRoute_footprint w.state id _
      · exact editRoute_footprint w.state id _
  | recordCompletion completion => exact recordCompletion_footprint w.state completion
  | supersede id now fresh =>
      change footprint (Handoff.supersede w.state id now fresh) = _
      simp only [Handoff.supersede]
      cases fresh
      · exact editRoute_footprint w.state id _
      · exact editRoute_footprint w.state id _
  | store path persisted => rfl
  | _ => cases hk

theorem recordDispatch_bounded {w : World} {id : RouteDecisionId} {epoch : RouterEpoch}
    {coordinatorEpoch : CoordinatorEpoch} {record : DispatchRecord} (hs : Bounded w.state) :
    Bounded (Handoff.recordDispatch w id epoch coordinatorEpoch record).state := by
  simp only [Handoff.recordDispatch]
  cases hrecords : recordsDispatch w.state id epoch coordinatorEpoch with
  | false => exact hs
  | true =>
      have hretained : w.state.routes.contains id = true := by
        simp only [recordsDispatch, Bool.and_eq_true] at hrecords
        exact hrecords.1.1
      have hedited := Bounded.congr (editRoute_footprint w.state id
        (markDispatched (dispatchRecorded w id epoch coordinatorEpoch record))) hs
      have hstill : (editRoute w.state id
          (markDispatched (dispatchRecorded w id epoch coordinatorEpoch record))).routes.contains id =
            true := by
        have hcontains := congrArg Footprint.retained (editRoute_footprint w.state id
          (markDispatched (dispatchRecorded w id epoch coordinatorEpoch record)))
        exact (congrFun hcontains id).trans hretained
      refine ⟨hedited.nodup, hedited.order, hedited.history, fun j hj => ?_, fun d j hj => ?_,
        hedited.fences⟩
      · change ((editRoute w.state id _).dispatches.insert id _).contains j = true at hj
        rcases (OrderedMap.contains_insert_iff _ _ _ _).mp hj with rfl | hj
        · exact hstill
        · exact hedited.dispatches j hj
      · change ((editRoute w.state id _).dispatchIndex.insert _ id).find? d = some j at hj
        rw [OrderedMap.find?_insert] at hj
        split at hj
        · obtain rfl := Option.some.inj hj
          exact hstill
        · exact hedited.dispatchIndex d j hj

theorem victims_eq_take (bound : Nat) (order : List RouteDecisionId) :
    victims bound order = order.take (order.length + 1 - bound) := by
  induction order with
  | nil => rw [List.take_nil, victims]
  | cons id rest ih =>
      simp only [victims, List.length_cons]
      split
      · rename_i hfull
        have hsucc : rest.length + 1 + 1 - bound = (rest.length + 1 - bound) + 1 := by omega
        rw [hsucc, List.take_succ_cons, ih]
      · rename_i hroom
        have hzero : rest.length + 1 + 1 - bound = 0 := by omega
        rw [hzero, List.take_zero]

theorem evicted_eq_take (kind : CommitKind) (hs : Bounded s) :
    ∃ n, evicted kind s = s.routeOrder.take n ∧
      (0 < s.limits.maxRouteHistory.toNat →
        s.routeOrder.length - n < s.limits.maxRouteHistory.toNat) := by
  simp only [evicted]
  split
  · rename_i hroom
    refine ⟨0, List.take_zero.symm, fun _ => ?_⟩
    have hsize := hs.size
    omega
  · refine ⟨_, victims_eq_take _ _, fun hpositive => ?_⟩
    omega

theorem evict_kept (kind : CommitKind) (hs : Bounded s) :
    (evict kind s).routeOrder.Nodup ∧
      (∀ id, id ∈ (evict kind s).routeOrder ↔ (evict kind s).routes.contains id = true) ∧
      (0 < s.limits.maxRouteHistory.toNat →
        (evict kind s).routeOrder.length < s.limits.maxRouteHistory.toNat) ∧
      ∀ id, (evict kind s).routes.contains id = true ↔
        s.routes.contains id = true ∧ id ∉ evicted kind s := by
  obtain ⟨n, htake, hroom⟩ := evicted_eq_take kind hs
  have hdrop : (evict kind s).routeOrder = s.routeOrder.drop n := by
    change s.routeOrder.drop (evicted kind s).length = _
    rw [htake, List.length_take]
    rcases le_total n s.routeOrder.length with hn | hn
    · rw [min_eq_left hn]
    · rw [min_eq_right hn, List.drop_length, List.drop_eq_nil_of_le hn]
  have hcontains (id : RouteDecisionId) : (evict kind s).routes.contains id = true ↔
      s.routes.contains id = true ∧ id ∉ evicted kind s := by
    change ((evicted kind s).foldl OrderedMap.erase s.routes).contains id = true ↔ _
    rw [OrderedMap.contains, OrderedMap.find?_foldl_erase]
    split
    · rename_i hmem
      simp [hmem]
    · rename_i hmem
      simp [hmem, OrderedMap.contains]
  have hsplit : (s.routeOrder.take n ++ s.routeOrder.drop n).Nodup := by
    rw [List.take_append_drop]
    exact hs.nodup
  obtain ⟨-, hkept, hdisjoint⟩ := List.nodup_append.mp hsplit
  have hmem (id : RouteDecisionId) :
      id ∈ s.routeOrder.drop n ↔ id ∈ s.routeOrder ∧ id ∉ s.routeOrder.take n := by
    have hboth : id ∈ s.routeOrder ↔ id ∈ s.routeOrder.take n ∨ id ∈ s.routeOrder.drop n := by
      rw [← List.mem_append, List.take_append_drop]
    constructor
    · intro h
      exact ⟨hboth.mpr (.inr h), fun h' => hdisjoint id h' id h rfl⟩
    · rintro ⟨h, hnot⟩
      exact (hboth.mp h).resolve_left hnot
  refine ⟨hdrop ▸ hkept, fun id => ?_, fun hpositive => ?_, hcontains⟩
  · rw [hdrop, hmem, hcontains, hs.order, htake]
  · rw [hdrop, List.length_drop]
    exact hroom hpositive

/-- A commit under an identity that is still retained, a commit with no room for any decision,
and a commit that drops a decision some dispatch refers to. -/
def overfills (draft : CommitDraft) (w : World) : Prop :=
  commitRefusal draft w.state = none ∧
    ((evict draft.kind w.state).routes.contains ⟨w.nextId⟩ = true ∨
      w.state.limits.maxRouteHistory.toNat = 0 ∨
      ∃ id ∈ evicted draft.kind w.state, id ≠ ⟨w.nextId⟩ ∧
        (w.state.dispatches.contains id = true ∨
          ∃ d, w.state.dispatchIndex.find? d = some id))

theorem commitSection_footprint {draft : CommitDraft} {w : World}
    (hr : commitRefusal draft w.state = none) :
    footprint (commitSection draft w).1.state =
      { footprint w.state with
        order := (evict draft.kind w.state).routeOrder ++ [⟨w.nextId⟩]
        retained := fun id =>
          decide (⟨w.nextId⟩ = id) || (evict draft.kind w.state).routes.contains id } := by
  simp only [commitSection, hr]
  rw [noteTenant_footprint]
  simp only [footprint, insertRecord]
  congr 1
  funext id
  rw [OrderedMap.contains_insert]
  refine congrArg (· || (evict draft.kind w.state).routes.contains id) ?_
  exact decide_eq_decide.mpr Iff.rfl

theorem commit_bounded_iff {draft : CommitDraft} {w : World} (hs : Bounded w.state) :
    Bounded (commitSection draft w).1.state ↔ ¬overfills draft w := by
  cases hr : commitRefusal draft w.state with
  | some refusal =>
      have hsame : (commitSection draft w).1 = w := by simp only [commitSection, hr]
      rw [hsame]
      exact iff_of_true hs fun hbad => by rw [overfills, hr] at hbad; cases hbad.1
  | none =>
      obtain ⟨hnodup, horder, hroom, hcontains⟩ := evict_kept draft.kind hs
      have hfoot := commitSection_footprint hr
      have horder' : (commitSection draft w).1.state.routeOrder =
          (evict draft.kind w.state).routeOrder ++ [⟨w.nextId⟩] := congrArg Footprint.order hfoot
      have hretained (id : RouteDecisionId) :
          (commitSection draft w).1.state.routes.contains id = true ↔
            ⟨w.nextId⟩ = id ∨ (evict draft.kind w.state).routes.contains id = true := by
        have hafter : (commitSection draft w).1.state.routes.contains = _ :=
          congrArg Footprint.retained hfoot
        simp only [hafter, Bool.or_eq_true, decide_eq_true_iff]
      have hdispatched : (commitSection draft w).1.state.dispatches.contains =
          w.state.dispatches.contains := congrArg Footprint.dispatched hfoot
      have hindex : (commitSection draft w).1.state.dispatchIndex = w.state.dispatchIndex :=
        congrArg Footprint.index hfoot
      have hfences : (commitSection draft w).1.state.fencedBoots.size = w.state.fencedBoots.size :=
        congrArg Footprint.fences hfoot
      have hlimits : (commitSection draft w).1.state.limits = w.state.limits :=
        congrArg Footprint.limits hfoot
      constructor
      · rintro hafter ⟨-, hreissued | hzero | ⟨id, hevicted, hother, hreferred⟩⟩
        · have hdup := hafter.nodup
          rw [horder', List.nodup_append] at hdup
          exact hdup.2.2 _ ((horder _).mpr hreissued) _ List.mem_cons_self rfl
        · have hsize := hafter.history
          rw [hafter.size, horder', hlimits, hzero, List.length_append] at hsize
          simp at hsize
        · have hkept : (commitSection draft w).1.state.routes.contains id = true := by
            rcases hreferred with hdispatch | ⟨d, hd⟩
            · exact hafter.dispatches id (hdispatched ▸ hdispatch)
            · exact hafter.dispatchIndex d id (hindex ▸ hd)
          rcases (hretained id).mp hkept with rfl | hkept
          · exact hother rfl
          · exact ((hcontains id).mp hkept).2 hevicted
      · intro hgood
        have hfresh : ⟨w.nextId⟩ ∉ (evict draft.kind w.state).routeOrder := fun hmem =>
          hgood ⟨hr, .inl ((horder _).mp hmem)⟩
        have hpositive : 0 < w.state.limits.maxRouteHistory.toNat :=
          Nat.pos_of_ne_zero fun hzero => hgood ⟨hr, .inr (.inl hzero)⟩
        have hnodup' : (commitSection draft w).1.state.routeOrder.Nodup := by
          rw [horder', List.nodup_append]
          refine ⟨hnodup, List.nodup_singleton _, ?_⟩
          intro id hid j hj heq
          rw [List.mem_singleton] at hj
          exact hfresh (hj ▸ heq ▸ hid)
        have hmem (id : RouteDecisionId) : id ∈ (commitSection draft w).1.state.routeOrder ↔
            (commitSection draft w).1.state.routes.contains id = true := by
          rw [horder', hretained, List.mem_append, List.mem_singleton, horder, or_comm, eq_comm]
        have hstill (id : RouteDecisionId) (hold : w.state.routes.contains id = true)
            (hreferred : w.state.dispatches.contains id = true ∨
              ∃ d, w.state.dispatchIndex.find? d = some id) :
            (commitSection draft w).1.state.routes.contains id = true := by
          rw [hretained]
          by_cases hid : id = ⟨w.nextId⟩
          · exact .inl hid.symm
          · refine .inr ((hcontains id).mpr ⟨hold, fun hevicted => ?_⟩)
            exact hgood ⟨hr, .inr (.inr ⟨id, hevicted, hid, hreferred⟩)⟩
        refine ⟨hnodup', hmem, ?_, fun id hid => ?_, fun d id hd => ?_, ?_⟩
        · rw [OrderedMap.size_eq_length hnodup' hmem, horder', hlimits, List.length_append]
          exact hroom hpositive
        · rw [hdispatched] at hid
          exact hstill id (hs.dispatches id hid) (.inl hid)
        · rw [hindex] at hd
          exact hstill id (hs.dispatchIndex d id hd) (.inr ⟨d, hd⟩)
        · rw [hfences, hlimits]
          exact hs.fences

/-- An import of a state that retains more than its own limits allow, or that lists a decision
twice. -/
def importsTooMuch (canonical : RouterPersistentState) (w : World) : Prop :=
  w.state.running = false ∧
    (¬(canonical.routes.map PersistedRouteRecord.decisionId).Nodup ∨
      canonical.limits.maxRouteHistory.toNat < canonical.routes.length ∨
      canonical.limits.maxBackendIncarnations.toNat < (importFences canonical.fencedBoots).size)

theorem importRoutes_contains (highest : UInt64)
    (routes : OrderedMap RouteDecisionId RouteRecord) (records : List PersistedRouteRecord)
    (id : RouteDecisionId) : (importRoutes highest routes records).2.contains id = true ↔
      id ∈ records.map PersistedRouteRecord.decisionId ∨ routes.contains id = true := by
  induction records generalizing highest routes with
  | nil => simp [importRoutes]
  | cons record rest ih =>
      rw [importRoutes, ih, OrderedMap.contains_insert_iff, List.map_cons, List.mem_cons]
      tauto

theorem restore_footprint (s : CanonicalState) (canonical : RouterPersistentState)
    (routes : OrderedMap RouteDecisionId RouteRecord) :
    footprint (restore s canonical routes) =
      { order := canonical.routes.map PersistedRouteRecord.decisionId
        retained := routes.contains
        dispatched := fun _ => false
        index := {}
        fences := (importFences canonical.fencedBoots).size
        limits := canonical.limits } :=
  rebuildIndexes_keeps _ footprint (fun _ _ => rfl) rfl

theorem importSection_bounded_iff {canonical : RouterPersistentState} {w : World}
    (hs : Bounded w.state) :
    Bounded (importSection canonical w).state ↔ ¬importsTooMuch canonical w := by
  cases hrunning : w.state.running with
  | true =>
      have hsame : importSection canonical w = w := by rw [importSection, if_pos hrunning]
      rw [hsame]
      exact iff_of_true hs fun hbad => by rw [importsTooMuch, hrunning] at hbad; cases hbad.1
  | false =>
      have hfoot := restore_footprint w.state canonical
        (importRoutes w.highestIssued {} canonical.routes).2
      have hsection : (importSection canonical w).state =
          restore w.state canonical (importRoutes w.highestIssued {} canonical.routes).2 := by
        rw [importSection, if_neg (by simp [hrunning])]
      rw [hsection]
      generalize restore w.state canonical (importRoutes w.highestIssued {} canonical.routes).2 = t
        at hfoot
      have horder : t.routeOrder = canonical.routes.map PersistedRouteRecord.decisionId :=
        congrArg Footprint.order hfoot
      have hretained : t.routes.contains = _ := congrArg Footprint.retained hfoot
      have hdispatched : t.dispatches.contains = _ := congrArg Footprint.dispatched hfoot
      have hindex : t.dispatchIndex = {} := congrArg Footprint.index hfoot
      have hfences : t.fencedBoots.size = (importFences canonical.fencedBoots).size :=
        congrArg Footprint.fences hfoot
      have hlimits : t.limits = canonical.limits := congrArg Footprint.limits hfoot
      have hmem (id : RouteDecisionId) : id ∈ t.routeOrder ↔ t.routes.contains id = true := by
        rw [horder, hretained]
        have hempty : ¬({} : OrderedMap RouteDecisionId RouteRecord).contains id = true :=
          Bool.false_ne_true
        exact ((importRoutes_contains _ _ _ id).trans (or_iff_left hempty)).symm
      constructor
      · rintro hafter ⟨-, hdup | hlong | hmany⟩
        · exact hdup (horder ▸ hafter.nodup)
        · have hsize := hafter.history
          rw [hafter.size, horder, hlimits, List.length_map] at hsize
          omega
        · have hsize := hafter.fences
          rw [hfences, hlimits] at hsize
          omega
      · intro hgood
        have hnodup : (canonical.routes.map PersistedRouteRecord.decisionId).Nodup := by
          by_contra hdup
          exact hgood ⟨hrunning, .inl hdup⟩
        refine ⟨horder ▸ hnodup, hmem, ?_, fun id hid => ?_, fun d id hd => ?_, ?_⟩
        · rw [OrderedMap.size_eq_length (horder ▸ hnodup) hmem, horder, hlimits, List.length_map]
          exact Nat.le_of_not_lt fun hlong => hgood ⟨hrunning, .inr (.inl hlong)⟩
        · rw [hdispatched] at hid
          cases hid
        · rw [hindex] at hd
          cases hd
        · rw [hfences, hlimits]
          exact Nat.le_of_not_lt fun hmany => hgood ⟨hrunning, .inr (.inr hmany)⟩

/-- An unregistration that fences one incarnation more than the limit. -/
def overfences (s : CanonicalState) (m : Mutation) (now : UnixMillis) : Prop :=
  match m with
  | .unregisterBackend id _ =>
    (m.attempt now s).refusal = none ∧
      s.fencedBoots.size = s.limits.maxBackendIncarnations.toNat ∧
      ∃ backend, s.backends.find? id = some backend ∧
        s.isFenced id backend.backendBoot = false
  | _ => False

theorem fences_size {key : FenceKey} {gone : Prop} (h : Fences s t key gone) :
    t.fencedBoots.size =
      if s.fencedBoots.contains key then s.fencedBoots.size else s.fencedBoots.size + 1 := by
  rw [← OrderedMap.size_insert s.fencedBoots key {}]
  refine OrderedMap.size_congr fun k => ?_
  rw [Bool.eq_iff_iff, h.1, OrderedMap.contains_insert_iff]

theorem next_bounded_iff_fences (hs : Bounded s) : Bounded (m.next now s) ↔
    (m.next now s).fencedBoots.size ≤ s.limits.maxBackendIncarnations.toNat := by
  have hfoot := next_footprint m now s
  have hlimits : (m.next now s).limits = s.limits := congrArg Footprint.limits hfoot
  have hdispatched : (m.next now s).dispatches.contains = s.dispatches.contains :=
    congrArg Footprint.dispatched hfoot
  have hindex : (m.next now s).dispatchIndex = s.dispatchIndex := congrArg Footprint.index hfoot
  have hretained : (m.next now s).routes.contains = s.routes.contains :=
    congrArg Footprint.retained hfoot
  have horder : (m.next now s).routeOrder = s.routeOrder := congrArg Footprint.order hfoot
  constructor
  · intro h
    rw [← hlimits]
    exact h.fences
  · intro h
    refine ⟨horder ▸ hs.nodup, ?_, ?_, ?_, ?_, hlimits ▸ h⟩
    · rw [horder, hretained]
      exact hs.order
    · rw [OrderedMap.size_congr (congrFun hretained), hlimits]
      exact hs.history
    · rw [hdispatched, hretained]
      exact hs.dispatches
    · rw [hindex, hretained]
      exact hs.dispatchIndex

theorem next_bounded_iff (hs : Bounded s) :
    Bounded (m.next now s) ↔ ¬overfences s m now := by
  rw [next_bounded_iff_fences hs]
  cases hm : withdraws m with
  | false =>
      rw [next_fencedBoots hm]
      refine iff_of_true hs.fences fun hbad => ?_
      cases m with
      | unregisterBackend id generation => cases hm
      | _ => exact hbad
  | true =>
      cases htaken : (m.attempt now s).refusal with
      | some result =>
          rw [(next_of_refused htaken).1]
          refine iff_of_true hs.fences fun hbad => ?_
          cases m with
          | unregisterBackend id generation =>
              rw [overfences, htaken] at hbad
              cases hbad.1
          | _ => exact hbad
      | none =>
          rw [(next_of_taken htaken).1, fencedBoots_of_holdings (written_holdings _ now)]
          cases m with
          | unregisterBackend id generation =>
              obtain ⟨b, hb, hfences⟩ := unregisterBackend_taken htaken
              change (unregisterBackend s id generation now).edited.fencedBoots.size ≤ _ ↔ _
              rw [fences_size hfences]
              have hle := hs.fences
              cases hfenced : s.fencedBoots.contains ⟨id, b.backendBoot⟩ with
              | true =>
                  refine iff_of_true (by simpa using hle) ?_
                  rintro ⟨-, -, backend, hbackend, hfree⟩
                  obtain rfl := Option.some.inj (hb.symm.trans hbackend)
                  rw [CanonicalState.isFenced, hfenced] at hfree
                  cases hfree
              | false =>
                  rw [if_neg Bool.false_ne_true]
                  constructor
                  · rintro hroom ⟨-, hfull, -⟩
                    omega
                  · intro hgood
                    have hne : s.fencedBoots.size ≠ s.limits.maxBackendIncarnations.toNat :=
                      fun hfull => hgood ⟨htaken, hfull, b, hb, hfenced⟩
                    omega
          | fenceBackendBoot id generation boot reason =>
              obtain ⟨-, -, -, hroom⟩ := (fenceBackendBoot_refusal id generation boot reason).mp htaken
              have hfences : Fences s (fenceBackendBoot s id generation boot reason now).edited ⟨id, boot⟩ _ :=
                fenceBackendBoot_taken id generation boot reason
              change (fenceBackendBoot s id generation boot reason now).edited.fencedBoots.size ≤ _ ↔ _
              rw [fences_size hfences]
              refine iff_of_true ?_ not_false
              split <;> omega
          | _ => cases hm

/-- The sections that take what a router retains out of its bounds. -/
def overflows (e : Event World Act) : Prop :=
  match e.act with
  | .commit draft => overfills draft e.pre
  | .importState canonical => importsTooMuch canonical e.pre
  | .mutate m now => overfences e.pre.state m now
  | _ => False

theorem event_bounded_iff {e : Event World Act} (hs : Bounded e.pre.state) :
    Bounded (after e).state ↔ ¬overflows e := by
  obtain ⟨k, w⟩ := e
  cases k with
  | mutate m now => exact next_bounded_iff hs
  | importState canonical => exact importSection_bounded_iff hs
  | commit draft => exact commit_bounded_iff hs
  | recordDispatch id epoch coordinatorEpoch record =>
      exact iff_of_true (recordDispatch_bounded hs) not_false
  | _ => exact iff_of_true (hs.congr (apply_footprint rfl w)) not_false

theorem fresh_bounded (options : ModelRouterOptions) (highest : UInt64) :
    Bounded (World.fresh options highest).state := by
  refine ⟨List.nodup_nil, fun id => ⟨fun hid => ?_, fun hid => ?_⟩, Nat.zero_le _, fun id hid => ?_,
    fun d id hd => ?_, Nat.zero_le _⟩
  · cases hid
  · cases hid
  · cases hid
  · cases hd

/-- What a router retains stays within its bounds all along a schedule exactly when none of its
sections overflows them. -/
theorem interleaved_bounded_iff (options : ModelRouterOptions) (highest : UInt64)
    (schedule : List (Choice Op Env)) :
    (∀ e ∈ interleaved options highest schedule, Bounded (after e).state) ↔
      ∀ e ∈ interleaved options highest schedule, ¬overflows e := by
  obtain ⟨t, hchained⟩ := interleaved_chained options highest schedule
  exact hchained.forall_iff (I := fun w => Bounded w.state) (J := fun _ => True)
    (fresh_bounded options highest) trivial
    fun e _ hs _ => ⟨event_bounded_iff hs, trivial⟩

section

def forgetfulOptions : ModelRouterOptions :=
  { dispatchingOptions with limits := { maxRouteHistory := 1 } }

def dispatchedThenEvicted : List (Choice Op Env) :=
  inTurn 30 dispatchingEnv 0
    (liveCatalog ++ [.route sampleRequest, .dispatch ⟨101⟩ {} {}, .route sampleRequest])

theorem dispatch_of_evicted :
    ¬∀ (options : ModelRouterOptions) (highest : UInt64) (schedule : List (Choice Op Env)),
      ∀ e ∈ interleaved options highest schedule, Bounded (after e).state := by
  intro h
  have hfound : (interleaved forgetfulOptions 100 dispatchedThenEvicted).any (fun e =>
      (after e).state.dispatches.contains ⟨101⟩ && !(after e).state.routes.contains ⟨101⟩) = true := by
    decide +kernel
  obtain ⟨e, he, hbad⟩ := List.any_eq_true.mp hfound
  simp only [Bool.and_eq_true, Bool.not_eq_true'] at hbad
  have hretained := (h forgetfulOptions 100 dispatchedThenEvicted e he).dispatches ⟨101⟩ hbad.1
  rw [hbad.2] at hretained
  cases hretained

end

end ModelRouter.Retention
