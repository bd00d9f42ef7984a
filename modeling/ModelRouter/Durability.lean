import ModelRouter.Acceptance
import ModelRouter.Fencing

namespace ModelRouter.Durability

open Base Bytes Ids Outcome Capability Evidence Catalog Limits Persistence State
open EvidenceMutation Mutations Commit Recovery Providers Section Router Effects MutationFacts Acceptance Run

/-- What a file gives back of the durable state written to it: neither the weights nor most of the
limits are written. -/
def durableView (persisted : RouterPersistentState) : RouterPersistentState :=
  let written := persisted.canonicalize
  { written with
    weights := {}
    limits :=
      { maxModels := written.limits.maxModels
        maxBackends := written.limits.maxBackends
        maxRouteHistory := written.limits.maxRouteHistory
        maxFallbackCandidates := written.limits.maxFallbackCandidates
        maxExplanationFactors := written.limits.maxExplanationFactors
        maxStringBytes := written.limits.maxStringBytes
        maxCapabilityEntriesPerBackend := written.limits.maxCapabilityEntriesPerBackend
        maxModelBindingsPerBackend := written.limits.maxModelBindingsPerBackend } }

/-- Surroundings in which every file that loads is one this router saved before. -/
def SavedFiles (es : Trace) (env : Env) : Prop :=
  ∀ path limits, (env.load path limits).ok = true →
    ∃ e ∈ es, ∃ savedTo persisted, e.act = .store savedTo persisted ∧
      (env.load path limits).state = durableView persisted

/-- No epoch falls back and no fence is lifted. -/
structure Advances (w u : World) : Prop where
  routerEpoch : w.state.routerEpoch ≤ u.state.routerEpoch
  coordinatorEpoch : w.state.coordinatorEpoch ≤ u.state.coordinatorEpoch
  fences : ∀ key, w.state.fencedBoots.contains key = true → u.state.fencedBoots.contains key = true

instance : Std.Refl Advances where
  refl _ := { routerEpoch := le_rfl, coordinatorEpoch := le_rfl, fences := fun _ => id }

instance : IsTrans World Advances where
  trans _ _ _ h h' :=
    { routerEpoch := h.routerEpoch.trans h'.routerEpoch
      coordinatorEpoch := h.coordinatorEpoch.trans h'.coordinatorEpoch
      fences := fun key hkey => h'.fences key (h.fences key hkey) }

/-- The durable state covers what a router knows: its epochs come next after those of the router
at the earliest, and it lists every pair the router has fenced. -/
def Covers (canonical : RouterPersistentState) (s : CanonicalState) : Prop :=
  s.routerEpoch ≤ canonical.lastRouterEpoch.next ∧
    s.coordinatorEpoch ≤ canonical.lastCoordinatorEpoch.next ∧
    ∀ key, s.fencedBoots.contains key = true →
      ∃ record ∈ canonical.fencedBoots, ⟨record.backendId, record.backendBoot⟩ = key

/-- An import, into a stopped router, of a durable state that does not cover it. -/
def rewinds (w : World) : Act → Prop
  | .importState canonical => w.state.running = false ∧ ¬Covers canonical w.state
  | _ => False

theorem importFences_contains (fences : List FencedBootRecord) (key : FenceKey) :
    (importFences fences).contains key = true ↔
      ∃ record ∈ fences, ⟨record.backendId, record.backendBoot⟩ = key := by
  rw [importFences, OrderedMap.contains_ofList]
  simp

theorem restore_part (s : CanonicalState) (canonical : RouterPersistentState)
    (routes : OrderedMap RouteDecisionId RouteRecord) :
    epochs (restore s canonical routes) =
        (canonical.lastRouterEpoch.next, canonical.lastCoordinatorEpoch.next) ∧
      (restore s canonical routes).fencedBoots = importFences canonical.fencedBoots :=
  ⟨rebuildIndexes_keeps _ epochs (fun _ _ => rfl) rfl,
    rebuildIndexes_keeps _ CanonicalState.fencedBoots (fun _ _ => rfl) rfl⟩

theorem restore_advances {w : World} {canonical : RouterPersistentState}
    (hrunning : w.state.running = false) :
    Advances w (importSection canonical w) ↔ Covers canonical w.state := by
  have hsection : (importSection canonical w).state =
      restore w.state canonical (importRoutes w.highestIssued {} canonical.routes).2 := by
    simp only [importSection, hrunning, Bool.false_eq_true, if_false]
  obtain ⟨hepochs, hfences⟩ :=
    restore_part w.state canonical (importRoutes w.highestIssued {} canonical.routes).2
  obtain ⟨hrouter, hcoordinator⟩ := Prod.mk.inj hepochs
  constructor
  · rintro ⟨hr, hc, hf⟩
    rw [hsection, hrouter] at hr
    rw [hsection, hcoordinator] at hc
    rw [hsection, hfences] at hf
    exact ⟨hr, hc, fun key hkey => (importFences_contains _ key).mp (hf key hkey)⟩
  · rintro ⟨hr, hc, hf⟩
    constructor
    · rwa [hsection, hrouter]
    · rwa [hsection, hcoordinator]
    · intro key hkey
      rw [hsection, hfences]
      exact (importFences_contains _ key).mpr (hf key hkey)

theorem advances_of_epochs {w u : World} (h : epochs u.state = epochs w.state)
    (hf : ∀ key, w.state.fencedBoots.contains key = true →
      u.state.fencedBoots.contains key = true) : Advances w u := by
  obtain ⟨hr, hc⟩ := Prod.mk.inj h
  exact ⟨hr.ge, hc.ge, hf⟩

theorem publish_advances (w : World) (now : UnixMillis) :
    Advances w (onState w (publish · now)) := by
  cases hrunning : w.state.running with
  | true =>
      have hsame : publish w.state now = w.state := by simp [publish, hrunning]
      exact advances_of_epochs (by rw [onState, hsame]) fun key hkey => by
        rwa [onState, hsame]
  | false =>
      have hpublish : publish w.state now = _ := if_neg (by simp [hrunning])
      refine ⟨?_, ?_, fun key hkey => ?_⟩
      · rw [onState, hpublish]
        exact Generation.le_next _
      · rw [onState, hpublish]
        exact Generation.le_next _
      · rwa [onState, hpublish]

theorem event_advances (e : Event World Act) :
    Advances e.pre (after e) ↔ ¬rewinds e.pre e.act := by
  obtain ⟨k, w⟩ := e
  cases hkeep : keepsHoldings k with
  | true =>
      have hfences := fencedBoots_of_holdings (apply_holdings hkeep w)
      refine iff_of_true ?_ ?_
      · cases hepochs : keepsEpochs k with
        | true =>
            refine advances_of_epochs (apply_epochs hepochs w) fun key hkey => ?_
            change (k.apply w).state.fencedBoots.contains key = true
            rwa [hfences]
        | false =>
            cases k with
            | publish now => exact publish_advances w now
            | importState canonical => cases hkeep
            | _ => cases hepochs
      · cases k <;> first | exact not_false | cases hkeep
  | false =>
      cases k with
      | mutate m now =>
          refine iff_of_true ?_ not_false
          refine advances_of_epochs (epochs_of_control (next_control m now w.state)) ?_
          exact fun key hkey => Fencing.next_fences m now hkey
      | writeCapacityDetail detail =>
          refine iff_of_true ?_ not_false
          have hsame : SameIncarnations w.state (writeCapacityDetail w.state detail) :=
            editBackend_incarnations w.state detail.backendId fun _ => rfl
          refine advances_of_epochs (epochs_of_control (editBackend_frame w.state _ _).1) ?_
          intro key hkey
          change (writeCapacityDetail w.state detail).fencedBoots.contains key = true
          rwa [hsame.1]
      | importState canonical =>
          cases hrunning : w.state.running with
          | true =>
              have hsame : importSection canonical w = w := by simp [importSection, hrunning]
              refine iff_of_true ?_ ?_
              · change Advances w (importSection canonical w)
                rw [hsame]
                exact advances_of_epochs rfl fun _ => id
              · rintro ⟨hstopped, -⟩
                rw [hrunning] at hstopped
                cases hstopped
          | false =>
              change Advances w (importSection canonical w) ↔ _
              rw [restore_advances hrunning]
              constructor
              · exact fun hc hr => hr.2 hc
              · exact fun hn => by_contra fun hc => hn ⟨hrunning, hc⟩
      | _ => cases hkeep

/-- Over a run the epochs never fall back, the fences stay, and no registration, publication or
update that names a pair fenced before it is accepted. -/
def Durable (w : World) (es : Trace) : Prop :=
  (w :: es.map after).Pairwise Advances ∧
    es.Pairwise fun e e' => ∀ m now key, e'.act = .mutate m now → names m = some key →
      (after e).state.fencedBoots.contains key = true → ¬Accepts (m.result now e'.pre.state)

/-- A run is durable exactly when it never imports, into a stopped router, a durable state that
does not cover it. -/
theorem history_durable_iff {options : ModelRouterOptions} {E : Trace → Env → Prop}
    {highest : UInt64} {es : Trace} {calls : List (Op × Reply)} {t : World}
    (h : History options E highest es calls t) :
    Durable (World.fresh options highest) es ↔ ∀ e ∈ es, ¬rewinds e.pre e.act := by
  have hadvances : (∀ e ∈ es, Advances e.pre (after e)) ↔ ∀ e ∈ es, ¬rewinds e.pre e.act :=
    forall₂_congr fun e _ => event_advances e
  have hstates := h.chained.pairwise_iff (R := Advances)
  rw [← hadvances]
  constructor
  · exact fun hd => hstates.mp hd.1
  · intro hsteps
    refine ⟨hstates.mpr hsteps, (h.chained.pairwise_pre hsteps).imp ?_⟩
    intro e e' hrel m now key _ hnames hfenced haccepted
    have hstill := hrel.fences key hfenced
    rw [not_fenced_of_accepted hnames haccepted] at hstill
    cases hstill

theorem sampleCatalog_durable_iff :
    let run := play sampleOptions sampleEnv sampleCatalog
    Durable (World.fresh sampleOptions 100) run.1 ↔ ∀ e ∈ run.1, ¬rewinds e.pre e.act :=
  history_durable_iff (play_history sampleOptions sampleEnv sampleCatalog)

section

def savingEnv : Env :=
  { sampleEnv with save := fun _ _ _ => { code := .accepted } }

def savedThenFenced : Trace × List (Op × Reply) × World :=
  play sampleOptions savingEnv
    [.start, .save "a", .mutation (.fenceBackendBoot ⟨7⟩ ⟨1⟩ ⟨1⟩ .fenced), .shutdown, .start,
      .shutdown, .start, .shutdown]

def storedState (e : Event World Act) : Option RouterPersistentState :=
  match e.act with
  | .store _ persisted => some persisted
  | _ => none

def oldFile : RouterPersistentState :=
  (savedThenFenced.1.findSome? storedState).getD {}

def oldFileEnv : Env :=
  { savingEnv with
    load := fun _ _ => { code := .accepted, state := durableView oldFile, hasState := true } }

theorem savingEnv_savedFiles (es : Trace) : SavedFiles es savingEnv := by
  intro path limits hok
  cases hok

theorem oldFileEnv_savedFiles (es : Trace) : SavedFiles (savedThenFenced.1 ++ es) oldFileEnv := by
  intro path limits _
  have hsome : (savedThenFenced.1.findSome? storedState).isSome = true := by decide +kernel
  obtain ⟨persisted, hfound⟩ := Option.isSome_iff_exists.mp hsome
  obtain ⟨e, he, hstored⟩ := List.exists_of_findSome?_eq_some hfound
  obtain ⟨k, w⟩ := e
  cases k with
  | store path' persisted' =>
      obtain rfl := Option.some.inj hstored
      refine ⟨_, List.mem_append_left _ he, path', persisted', rfl, ?_⟩
      change durableView oldFile = _
      rw [oldFile, hfound, Option.getD_some]
  | _ => cases hstored

def resurrected : Trace × List (Op × Reply) × World :=
  Session.run (Op.program sampleOptions) Act.apply oldFileEnv
    [.load "a", .start, .mutation (.registerBackend (sampleBackend ⟨1⟩ ⟨1⟩))] savedThenFenced.2.2

theorem old_file_rewinds :
    ¬∀ (options : ModelRouterOptions) (highest : UInt64) (es : Trace)
        (calls : List (Op × Reply)) (t : World),
      History options SavedFiles highest es calls t → Durable (World.fresh options highest) es := by
  intro h
  have hsaved : History sampleOptions SavedFiles 100 savedThenFenced.1 savedThenFenced.2.1
      savedThenFenced.2.2 := Session.run_session savingEnv_savedFiles _ _
  have hrun : History sampleOptions SavedFiles 100 (savedThenFenced.1 ++ resurrected.1)
      (savedThenFenced.2.1 ++ resurrected.2.1) resurrected.2.2 :=
    hsaved.run_append oldFileEnv_savedFiles _
  have hadvances := hrun.chained.pairwise_iff.mp (h _ _ _ _ _ hrun).1
  have hback : (savedThenFenced.1 ++ resurrected.1).any
      (fun e => decide ((after e).state.routerEpoch < e.pre.state.routerEpoch)) = true := by
    decide +kernel
  obtain ⟨e, he, hlt⟩ := List.any_eq_true.mp hback
  exact absurd (hadvances e he).routerEpoch (not_le.mpr (of_decide_eq_true hlt))

end

end ModelRouter.Durability
