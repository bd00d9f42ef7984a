import Mathlib.Algebra.Group.Nat.Defs
import ModelRouter.Revalidation
import ModelRouter.Saved
import ModelRouter.StatusChanges

namespace ModelRouter.Recovered

open Base Bytes Ids Outcome Capability Evidence Catalog Authority Request Decision Persistence State
open Mutations Commit Handoff Recovery Providers Section Router Effects MutationFacts Run Records
open Durability TerminalStatus Handoffs StatusChanges Revalidation Dispatchability Currentness Saved

variable {id : RouteDecisionId}

/-- A durable state a router saved before an epoch was two steps from its last value. -/
structure Recent (file : RouterPersistentState) : Prop where
  saved : SavedFile file
  routerEpoch : file.lastRouterEpoch.value.toNat < 2 ^ 64 - 2
  coordinatorEpoch : file.lastCoordinatorEpoch.value.toNat < 2 ^ 64 - 2

/-- Dynamic evidence of which nothing is known. -/
def Unobserved {σ : Type} {t : Tag} (evidence : BackendEvidence σ t) (unknown : σ) : Prop :=
  evidence.state = unknown ∧ evidence.generation.valid = false

/-- A backend none of whose dynamic evidence is known. -/
structure Silent (backend : BackendDescriptor) : Prop where
  health : Unobserved backend.health .unknown
  availability : Unobserved backend.availability .unknown
  readiness : Unobserved backend.readiness .unknown
  residency : Unobserved backend.residency .unknown
  capacity : Unobserved backend.capacity .unknown

/-- A retained decision that may be handed off or was. -/
def Executable (s : CanonicalState) (id : RouteDecisionId) : Prop :=
  statusOf s id = some .current ∨ statusOf s id = some .dispatched

/-- A section after which the record under the identity, if it is still there, was not committed
later, and after a further import comes from a file in `F`. -/
def Spares (F : RouterPersistentState → Prop) (id : RouteDecisionId) (e : Event World Act) : Prop :=
  ¬replaces id e ∧
    (restores e → ∃ file, F file ∧ e.act = .importState file.canonicalize)

/-- The decisions retained before a run are not executable in it while its sections spare them. -/
def StaysStale (F : RouterPersistentState → Prop) (id : RouteDecisionId) (es : Trace) : Prop :=
  ∀ stretch, stretch <+: es → (∀ e ∈ stretch, Spares F id e) →
    ∀ e ∈ stretch, ¬Executable (after e).state id

/-- Every decision retained under the identity was bound in an earlier epoch and is not
executable. -/
structure Outdated (id : RouteDecisionId) (s : CanonicalState) : Prop where
  epoch : ∀ record, s.routes.find? id = some record →
    record.decision.authority.routerEpoch < s.routerEpoch
  status : ¬Executable s id

theorem lt_next {t : Tag} {g : Generation t} (h : g.value.toNat < 2 ^ 64 - 1) : g < g.next := by
  have hne : g.value ≠ kMax := by
    rintro hmax
    rw [hmax] at h
    exact absurd h (by decide)
  rw [Generation.lt_iff, Generation.next, if_neg hne, UInt64.toNat_add]
  change g.value.toNat < (g.value.toNat + 1) % 2 ^ 64
  omega

theorem Outdated.unbound {s : CanonicalState} (h : Outdated id s) {record : RouteRecord}
    (hrecord : s.routes.find? id = some record) :
    (record.decision.authority.routerEpoch, record.decision.authority.coordinatorEpoch) ≠
      epochs s := by
  intro hepochs
  have hepoch : record.decision.authority.routerEpoch = s.routerEpoch := congrArg Prod.fst hepochs
  exact absurd hepoch (h.epoch record hrecord).ne

theorem Recent.epoch {file : RouterPersistentState} (h : Recent file)
    {route : PersistedRouteRecord} (hroute : route ∈ file.canonicalize.routes) :
    route.authority.routerEpoch < file.lastRouterEpoch.next := by
  have hdated := h.saved.sound.dated route (mem_canonicalize_routes.mp hroute)
  refine hdated.trans_lt (lt_next ?_)
  have hbound := h.routerEpoch
  omega

theorem spared_epoch {e : Event World Act} (hspares : Spares Recent id e)
    (h : ¬restores e → Outdated id e.pre.state) {record : RouteRecord}
    (hrecord : (after e).state.routes.find? id = some record) :
    record.decision.authority.routerEpoch < (after e).state.routerEpoch := by
  cases event_origin hrecord with
  | @retained earlier hearlier hf hkeep =>
      have hauthority := congrArg (fun r => r.decision.authority) hf
      simp only [frozen] at hauthority
      rw [hauthority]
      exact ((h hkeep).epoch earlier hearlier).trans_le (epoch_advances hkeep)
  | committed hact hreplaces hf => exact absurd hreplaces hspares.1
  | @imported canonical route planId hact hstopped hroute hid hbuilt =>
      obtain ⟨file, hfile, hloads⟩ := hspares.2 ⟨by rw [hact]; rfl, hstopped⟩
      obtain rfl : canonical = file.canonicalize := by
        rw [hact] at hloads
        exact Act.importState.inj hloads
      obtain ⟨k, w⟩ := e
      obtain rfl : k = .importState file.canonicalize := hact
      subst hbuilt
      change _ < (importSection file.canonicalize w).state.routerEpoch
      rw [restored_epoch hstopped]
      exact hfile.epoch hroute

theorem spared_status {E : Env → Prop} {e : Event World Act} (hconforms : Conforms E e)
    (hspares : Spares Recent id e) (h : Outdated id e.pre.state) :
    ¬Executable (after e).state id := by
  have hkept {status : RouteStatus} (hstatus : status = .current ∨ status = .dispatched)
      (hsource : Source e id status) : False := by
    cases hsource with
    | kept hbefore =>
        refine h.status ?_
        rw [Executable, hbefore]
        rcases hstatus with rfl | rfl
        · exact .inl rfl
        · exact .inr rfl
    | withdrawn => simp at hstatus
    | committed hact htaken hid hfree _ =>
        refine hspares.1 ?_
        rw [replaces, hact]
        exact ⟨htaken, hid, hfree⟩
    | @revalidated bound comparisonCurrent now hact _ _ hreason =>
        rw [Conforms, hact] at hconforms
        obtain ⟨j, record, env, observed, hreached, hfinishing⟩ := hconforms
        obtain ⟨rfl, rfl, -⟩ := Act.finishRevalidate.inj hfinishing
        exact h.unbound hreached.retained (dispatchable_epochs hreason)
    | dispatched hhands =>
        obtain ⟨k, w⟩ := e
        cases k with
        | recordDispatch j epoch coordinatorEpoch dispatch =>
            rw [handsOff, Bool.and_eq_true, decide_eq_true_eq] at hhands
            obtain ⟨rfl, -⟩ := hhands
            obtain ⟨record, hrecord, hepochs⟩ := hconforms
            exact h.unbound hrecord hepochs
        | _ => cases hhands
    | @completed completion _ _ hdispatched _ => exact h.status (.inr hdispatched)
    | superseded => simp at hstatus
  rintro (hcurrent | hdispatched)
  · exact hkept (.inl rfl) (event_source hcurrent)
  · exact hkept (.inr rfl) (event_source hdispatched)

theorem spared_outdated {E : Env → Prop} {e : Event World Act} (hconforms : Conforms E e)
    (hspares : Spares Recent id e) (h : Outdated id e.pre.state) : Outdated id (after e).state :=
  ⟨fun _ hrecord => spared_epoch hspares (fun _ => h) hrecord, spared_status hconforms hspares h⟩

theorem stays_outdated {E : Env → Prop} {s t : World} {es : Trace}
    (h : Chained Act.apply s es t) (hconforms : ∀ e ∈ es, Conforms E e)
    (hs : Outdated id s.state) : StaysStale Recent id es := by
  intro stretch hprefix hspares
  obtain ⟨rest, rfl⟩ := hprefix
  obtain ⟨u, hstretch, -⟩ := h.of_append
  have hstep : ∀ e ∈ stretch, Outdated id e.pre.state → Outdated id (after e).state :=
    fun e he => spared_outdated (hconforms e (List.mem_append_left _ he)) (hspares e he)
  intro e he
  have hpre := hstretch.invariant_pre (I := fun w => Outdated id w.state) hs hstep e he
  exact (hstep e he hpre).status

theorem import_outdated {file : RouterPersistentState} (hfile : Recent file) {w : World}
    (hstopped : w.state.running = false) (id : RouteDecisionId) :
    Outdated id (importSection file.canonicalize w).state := by
  let e : Event World Act := ⟨.importState file.canonicalize, w⟩
  have hrestores : restores e := ⟨rfl, hstopped⟩
  have hspares : Spares Recent id e := ⟨not_false, fun _ => ⟨file, hfile, rfl⟩⟩
  constructor
  · intro record hrecord
    exact spared_epoch (e := e) hspares (fun hkeep => absurd hrestores hkeep) hrecord
  · intro hexecutable
    have hstale (record : RouteRecord)
        (hrecord : (importSection file.canonicalize w).state.routes.find? id = some record) :
        record.decision.status = .stale := by
      rw [importSection, hstopped, if_neg Bool.false_ne_true] at hrecord
      dsimp only at hrecord
      rw [restored_routes] at hrecord
      exact importRoutes_stale (fun _ _ hheld => by cases hheld) id record hrecord
    rcases hexecutable with hstatus | hstatus
    · obtain ⟨record, hrecord, hcurrent⟩ := Option.map_eq_some_iff.mp hstatus
      cases (hstale record hrecord).symm.trans hcurrent
    · obtain ⟨record, hrecord, hdispatched⟩ := Option.map_eq_some_iff.mp hstatus
      cases (hstale record hrecord).symm.trans hdispatched

theorem importBackend_silent (record : PersistedBackendRecord) : Silent (importBackend record) :=
  ⟨⟨rfl, rfl⟩, ⟨rfl, rfl⟩, ⟨rfl, rfl⟩, ⟨rfl, rfl⟩, ⟨rfl, rfl⟩⟩

theorem import_silent {canonical : RouterPersistentState} {w : World}
    (hstopped : w.state.running = false) :
    ∀ backend ∈ (importSection canonical w).state.backends.values, Silent backend := by
  intro backend hbackend
  have hrestored : (importSection canonical w).state.backends = importBackends canonical.backends := by
    rw [importSection, hstopped, if_neg Bool.false_ne_true]
    exact rebuildIndexes_keeps _ CanonicalState.backends (fun _ _ => rfl) rfl
  rw [hrestored] at hbackend
  obtain ⟨backendId, hfound⟩ := OrderedMap.mem_values_iff.mp hbackend
  have hentry := OrderedMap.mem_of_find?_ofList hfound
  obtain ⟨record, -, heq⟩ := List.mem_map.mp hentry
  obtain ⟨-, rfl⟩ := Prod.mk.inj heq
  exact importBackend_silent record

/-- After a router imports a recent file no backend's dynamic evidence is known, and no decision
of the file is ever executable. -/
theorem imported_stays_stale {options : ModelRouterOptions} {E : Trace → Env → Prop}
    {highest : UInt64} {before rest : Trace} {calls : List (Op × Reply)} {w t : World}
    {file : RouterPersistentState} (hfile : Recent file) (hstopped : w.state.running = false)
    (h : History options E highest (before ++ ⟨.importState file.canonicalize, w⟩ :: rest) calls t) :
    (∀ backend ∈ (importSection file.canonicalize w).state.backends.values, Silent backend) ∧
      ∀ route ∈ file.routes, StaysStale Recent route.decisionId rest := by
  refine ⟨import_silent hstopped, fun route _ => ?_⟩
  have hconforms : ∀ e ∈ before ++ ⟨.importState file.canonicalize, w⟩ :: rest,
      Conforms (fun _ => True) e :=
    h.forall_mem fun hx => program_conforms (hx.weaken fun _ _ => trivial)
  obtain ⟨u, -, hlater⟩ := h.chained.of_append
  cases hlater with
  | cons hrest =>
      refine stays_outdated hrest (fun e he => hconforms e ?_) (import_outdated hfile hstopped _)
      exact List.mem_append_right _ (List.mem_cons_of_mem _ he)

section

def importsFrom (file : RouterPersistentState) (e : Event World Act) : Bool :=
  match e.act with
  | .importState canonical => decide (canonical = file.canonicalize) && !e.pre.state.running
  | _ => false

theorem split_import {file : RouterPersistentState} {es : Trace} {n : Nat}
    (h : es[n]?.any (importsFrom file) = true) :
    ∃ w, w.state.running = false ∧
      es = es.take n ++ ⟨.importState file.canonicalize, w⟩ :: es.drop (n + 1) := by
  obtain ⟨⟨k, w⟩, he, himports⟩ := (Option.any_eq_true _ _).mp h
  obtain ⟨hlt, hget⟩ := List.getElem?_eq_some_iff.mp he
  cases k with
  | importState canonical =>
      simp only [importsFrom, Bool.and_eq_true, decide_eq_true_eq, Bool.not_eq_true'] at himports
      obtain ⟨rfl, hstopped⟩ := himports
      refine ⟨w, hstopped, ?_⟩
      rw [← hget, List.cons_getElem_drop_succ, List.take_append_drop]
  | _ => cases himports

def routedOnce : List (Choice Op Env) :=
  inTurn 30 savingEnv 0 (sampleCatalog ++ [.route sampleRequest, .save "a"])

def routedFile : RouterPersistentState :=
  ((interleaved sampleOptions 100 routedOnce).findSome? storedState).getD {}

def loadingEnv (file : RouterPersistentState) : Env :=
  { savingEnv with
    load := fun _ _ => { code := .accepted, state := file, hasState := true } }

/-- A router loads a file, publishes the sample catalog and revalidates the decision of the file. -/
def revived (file : RouterPersistentState) : Trace × List (Op × Reply) × World :=
  play sampleOptions (loadingEnv file) ([.load "a"] ++ sampleCatalog ++ [.revalidate ⟨101⟩ {} {}])

theorem stored_of_findSome? {es : Trace} (h : (es.findSome? storedState).isSome = true) :
    ∃ e ∈ es, ∃ path, e.act = .store path ((es.findSome? storedState).getD {}) := by
  obtain ⟨persisted, hfound⟩ := Option.isSome_iff_exists.mp h
  obtain ⟨⟨k, w⟩, he, hstored⟩ := List.exists_of_findSome?_eq_some hfound
  rw [hfound]
  cases k with
  | store path persisted' =>
      obtain rfl := Option.some.inj hstored
      exact ⟨_, he, path, rfl⟩
  | _ => cases hstored

theorem inTurn_answered {steps : Nat} {env : Env} {i : Nat} {ops : List Op} {E : Env → Prop}
    (he : E env) : Pool.Answered E (inTurn steps env i ops) := by
  induction ops generalizing i with
  | nil => intro j e hmem; cases hmem
  | cons op ops ih =>
      intro j e hmem
      rw [inTurn, List.cons_append, List.mem_cons, List.mem_append, List.mem_replicate] at hmem
      rcases hmem with heq | ⟨-, heq⟩ | hrest
      · cases heq
      · obtain ⟨rfl, rfl⟩ := Choice.advance.inj heq
        exact he
      · exact ih j e hrest

theorem routedFile_recent : Recent (durableView routedFile) := by
  have hsome : ((interleaved sampleOptions 100 routedOnce).findSome? storedState).isSome = true := by
    decide +kernel
  obtain ⟨e, he, path, hact⟩ := stored_of_findSome? hsome
  refine ⟨.stored ?_ he hact, by decide +kernel, by decide +kernel⟩
  intro i env hc path limits hok
  have hanswer : env = savingEnv := inTurn_answered (E := (· = savingEnv)) rfl i env hc
  rw [hanswer] at hok
  cases hok

theorem routedFile_stays_stale :
    ∃ w, (revived (durableView routedFile)).1 = (revived (durableView routedFile)).1.take 2 ++
        ⟨.importState (durableView routedFile).canonicalize, w⟩ ::
          (revived (durableView routedFile)).1.drop 3 ∧
      (durableView routedFile).routes.map PersistedRouteRecord.decisionId = [⟨101⟩] ∧
      ∀ route ∈ (durableView routedFile).routes,
        StaysStale Recent route.decisionId ((revived (durableView routedFile)).1.drop 3) := by
  have himports : (revived (durableView routedFile)).1[2]?.any
      (importsFrom (durableView routedFile)) = true := by
    decide +kernel
  obtain ⟨w, hstopped, hsplit⟩ := split_import himports
  have hrun := play_history sampleOptions (loadingEnv (durableView routedFile))
    ([.load "a"] ++ sampleCatalog ++ [.revalidate ⟨101⟩ {} {}])
  change History sampleOptions _ 100 (revived (durableView routedFile)).1 _ _ at hrun
  rw [hsplit] at hrun
  exact ⟨w, hsplit, by decide +kernel, (imported_stays_stale routedFile_recent hstopped hrun).2⟩

def forgedFile : RouterPersistentState :=
  { durableView routedFile with
    routes := (durableView routedFile).routes.map fun route =>
      { route with
        authority := { route.authority with routerEpoch := ⟨4⟩, coordinatorEpoch := ⟨4⟩ } } }

def laundered : Trace × List (Op × Reply) × World :=
  play sampleOptions (loadingEnv forgedFile) [.load "a", .save "b"]

def launderedFile : RouterPersistentState :=
  (laundered.1.findSome? storedState).getD {}

def quiet (e : Event World Act) : Bool :=
  match e.act with
  | .commit _ | .importState _ => false
  | _ => true

theorem quiet_spares {e : Event World Act} (h : quiet e = true) :
    Spares (fun _ => False) id e := by
  obtain ⟨k, w⟩ := e
  cases k with
  | commit draft => cases h
  | importState canonical => cases h
  | _ => exact ⟨not_false, fun hrestores => by cases hrestores.1⟩

def leavesCurrent (id : RouteDecisionId) (e : Event World Act) : Bool :=
  statusOf (after e).state id == some .current

theorem laundered_route_is_current :
    ¬∀ (options options' : ModelRouterOptions) (E E' : Trace → Env → Prop)
        (highest highest' : UInt64) (earlier before rest : Trace) (calls calls' : List (Op × Reply))
        (w t t' : World) (path : Text) (persisted : RouterPersistentState),
      History options E highest earlier calls t →
      (∃ e ∈ earlier, e.act = .store path persisted) →
      persisted.lastRouterEpoch.value.toNat < 2 ^ 64 - 2 →
      persisted.lastCoordinatorEpoch.value.toNat < 2 ^ 64 - 2 →
      w.state.running = false →
      History options' E' highest'
        (before ++ ⟨.importState (durableView persisted).canonicalize, w⟩ :: rest) calls' t' →
      ∀ route ∈ persisted.routes, StaysStale (fun _ => False) route.decisionId rest := by
  intro h
  have hsome : (laundered.1.findSome? storedState).isSome = true := by decide +kernel
  obtain ⟨e, he, path, hact⟩ := stored_of_findSome? hsome
  have himports : (revived (durableView launderedFile)).1[2]?.any
      (importsFrom (durableView launderedFile)) = true := by
    decide +kernel
  obtain ⟨w, hstopped, hsplit⟩ := split_import himports
  have hrun := play_history sampleOptions (loadingEnv (durableView launderedFile))
    ([.load "a"] ++ sampleCatalog ++ [.revalidate ⟨101⟩ {} {}])
  change History sampleOptions _ 100 (revived (durableView launderedFile)).1 _ _ at hrun
  rw [hsplit] at hrun
  have hroute : (launderedFile.routes.map PersistedRouteRecord.decisionId).contains ⟨101⟩ = true := by
    decide +kernel
  obtain ⟨route, hmem, hid⟩ := List.mem_map.mp (List.contains_iff_mem.mp hroute)
  have hstays := h sampleOptions sampleOptions _ _ 100 100 laundered.1 _ _ _ _ w _ _ path
    launderedFile (play_history sampleOptions _ _) ⟨e, he, hact⟩ (by decide +kernel)
    (by decide +kernel) hstopped hrun route hmem
  have hquiet : ((revived (durableView launderedFile)).1.drop 3).all quiet = true := by
    decide +kernel
  have hcurrent : ((revived (durableView launderedFile)).1.drop 3).any (leavesCurrent ⟨101⟩) = true := by
    decide +kernel
  obtain ⟨last, hlast, hleaves⟩ := List.any_eq_true.mp hcurrent
  refine hstays _ List.prefix_rfl (fun e he => quiet_spares (List.all_eq_true.mp hquiet e he))
    last hlast (.inl ?_)
  rw [hid]
  exact eq_of_beq hleaves

end

end ModelRouter.Recovered
