import ModelRouter.Base.Watermark
import ModelRouter.Durability
import ModelRouter.Transactions
import ModelRouter.Upheld

namespace ModelRouter.Restart

open Base Base.Refusal Bytes Ids Outcome Capability Evidence Catalog Persistence State
open CatalogMutation EvidenceMutation Mutations Commit Handoff Recovery Providers Section Router
open Effects MutationFacts Descriptors Generations Run Transactions Durability Indexing FullScan
open Upheld Sorting

variable {m : Mutation} {now : UnixMillis} {s t : CanonicalState}

/-- The mutation a section takes, if it takes one. -/
def taken (e : Event World Act) : Option Mutation :=
  match e.act with
  | .mutate m now => if (m.attempt now e.pre.state).refusal = none then some m else none
  | _ => none

def reloads (e : Event World Act) : Bool :=
  imports e.act && !e.pre.state.running

theorem taken_eq_some {e : Event World Act} :
    taken e = some m ↔
      ∃ now, e.act = .mutate m now ∧ (m.attempt now e.pre.state).refusal = none := by
  obtain ⟨k, w⟩ := e
  cases k with
  | mutate m' now => grind [taken]
  | _ => simp [taken]

theorem after_taken {e : Event World Act} (h : taken e = some m) :
    ∃ now, (m.attempt now e.pre.state).refusal = none ∧
      (after e).state = m.next now e.pre.state := by
  obtain ⟨now, hact, hnone⟩ := taken_eq_some.mp h
  refine ⟨now, hnone, ?_⟩
  rw [after, hact]
  rfl

theorem untaken_frame {e : Event World Act} (ht : taken e = none) (hr : reloads e = false) :
    settings (after e).state = settings e.pre.state ∧
      watermarks (after e).state = watermarks e.pre.state := by
  obtain ⟨k, w⟩ := e
  cases hkeep : keepsHoldings k with
  | true =>
      have hsame := apply_holdings hkeep w
      exact ⟨settings_of_holdings hsame, watermarks_of_holdings hsame⟩
  | false =>
      cases k with
      | mutate m now =>
          simp only [taken] at ht
          split at ht
          · cases ht
          · rename_i hrefused
            obtain ⟨result, hresult⟩ := Option.ne_none_iff_exists'.mp hrefused
            change settings (m.next now w.state) = _ ∧ watermarks (m.next now w.state) = _
            rw [(next_of_refused hresult).1]
            exact ⟨rfl, rfl⟩
      | writeCapacityDetail detail =>
          exact ⟨editBackend_settings w.state _ _, editBackend_watermarks w.state _ _⟩
      | importState canonical =>
          have hrunning : w.state.running = true := by simpa [reloads, imports] using hr
          change settings (importSection canonical w).state = _ ∧
            watermarks (importSection canonical w).state = _
          rw [importSection, if_pos hrunning]
          exact ⟨rfl, rfl⟩
      | _ => cases hkeep

/-- Nothing but the generation it brings can refuse a mutation: the checks of its operation, less
the one against the generation accepted before. -/
def Admissible (s : CanonicalState) : Mutation → Prop
  | .registerBackend raw =>
    let backend := raw.canonicalize
    backend.validate = none ∧ s.shuttingDown = false ∧
      s.isFenced backend.backendId backend.backendBoot = false ∧
      (s.backends.size ≥ s.limits.maxBackends.toNat &&
        !s.backends.contains backend.backendId) = false ∧
      ((s.backends.find? backend.backendId).any fun existing =>
        backend.backendRegistrationGeneration ≤ existing.backendRegistrationGeneration) = false
  | .registerModel model =>
    model.validate = none ∧ s.shuttingDown = false ∧
      (s.models.size ≥ s.limits.maxModels.toNat && !s.models.contains model.modelId) = false ∧
      ((s.models.find? model.modelId).any fun existing =>
        existing.modelGeneration == model.modelGeneration &&
        existing.artifactGeneration == model.artifactGeneration &&
        existing.lifecycle == model.lifecycle) = false
  | .setPolicy raw =>
    let policy := raw.canonicalize
    policy.validate = none ∧ s.shuttingDown = false ∧
      (s.policy.generation.valid && policy.generation == s.policy.generation &&
        s.policy.policyId != policy.policyId) = false
  | .setBudget budget => budget.generation.valid = true ∧ s.shuttingDown = false
  | .setSlo slo => slo.generation.valid = true ∧ s.shuttingDown = false
  | _ => False

section

variable {I G : Type} [DecidableEq I] [LinearOrder G]

def overwrite (held : I → Option G) : Option (I × G) → I → Option G
  | some (i, g) => Function.update held i (some g)
  | none => held

/-- The registers of a part of the state that only one kind of mutation writes, after it compared
what it writes with what is there. -/
def register (part : CanonicalState → I → Option G) (value : Mutation → Option (I × G))
    (hframe : ∀ {e}, taken e = none → reloads e = false →
      part (after e).state = part e.pre.state)
    (hstep : ∀ {m now s}, (m.attempt now s).refusal = none →
      part (m.next now s) = overwrite (part s) (value m))
    (hadmits : ∀ {m now s i g}, value m = some (i, g) →
      ((m.attempt now s).refusal = none ↔
        Admissible s m ∧ ∀ w, part s i = some w → w ≤ g)) :
    Watermark Act.apply I G where
  Offers e i g :=
    ∃ m now, e.act = .mutate m now ∧ value m = some (i, g) ∧ Admissible e.pre.state m
  accepts e := (taken e).bind value
  resets := reloads
  mark w := part w.state
  admits {e i g} := by
    rw [Option.bind_eq_some_iff]
    constructor
    · rintro ⟨m, htaken, hvalue⟩
      obtain ⟨now, hact, hnone⟩ := taken_eq_some.mp htaken
      obtain ⟨hadmissible, hmark⟩ := (hadmits hvalue).mp hnone
      exact ⟨⟨m, now, hact, hvalue, hadmissible⟩, hmark⟩
    · rintro ⟨⟨m, now, hact, hvalue, hadmissible⟩, hmark⟩
      exact ⟨m, taken_eq_some.mpr ⟨now, hact, (hadmits hvalue).mpr ⟨hadmissible, hmark⟩⟩, hvalue⟩
  written {e i g} h := by
    obtain ⟨m, htaken, hvalue⟩ := Option.bind_eq_some_iff.mp h
    obtain ⟨now, hnone, hafter⟩ := after_taken htaken
    change part (after e).state i = some g
    rw [hafter, hstep hnone, hvalue]
    simp only [overwrite, Function.update_self]
  kept {e i} hr hnever := by
    change part (after e).state i = part e.pre.state i
    cases htaken : taken e with
    | none => rw [hframe htaken hr]
    | some m =>
        obtain ⟨now, hnone, hafter⟩ := after_taken htaken
        rw [hafter, hstep hnone]
        cases hvalue : value m with
        | none => rfl
        | some entry =>
            obtain ⟨j, g⟩ := entry
            have hj : i ≠ j := by
              rintro rfl
              exact hnever g (by rw [htaken, Option.bind_some, hvalue])
            simp only [overwrite, Function.update_of_ne hj]

end

def registeredBackend : Mutation → Option (BackendId × BackendGeneration)
  | .registerBackend raw => some (raw.backendId, raw.backendGeneration)
  | _ => none

def registeredModel : Mutation → Option (ModelId × ModelGeneration)
  | .registerModel model => some (model.modelId, model.modelGeneration)
  | _ => none

def newPolicy : Mutation → Option (Unit × PolicyGeneration)
  | .setPolicy raw => some ((), raw.canonicalize.generation)
  | _ => none

def newBudget : Mutation → Option (Unit × BudgetGeneration)
  | .setBudget budget => some ((), budget.generation)
  | _ => none

def newSlo : Mutation → Option (Unit × SLOGeneration)
  | .setSlo slo => some ((), slo.generation)
  | _ => none

theorem find?_insert_overwrite {K V : Type} [LinearOrder K] [inst : DecidableEq K]
    (held : OrderedMap K V) (k : K) (v : V) :
    (held.insert k v).find? = @overwrite K V inst held.find? (some (k, v)) := by
  funext j
  simp only [overwrite, Function.update_apply]
  rw [OrderedMap.find?_insert]
  by_cases hj : k = j
  · rw [if_pos hj, if_pos hj.symm]
  · rw [if_neg hj, if_neg (Ne.symm hj)]

section

variable {tag : Tag} {g h : Generation tag}

theorem not_regressed_iff (hvalid : h.valid = true) :
    generationRegressed h g = false ↔ g ≤ h := by
  refine ⟨le_of_not_regressed hvalid, fun hle => ?_⟩
  rw [generationRegressed, decide_eq_false (not_lt.mpr hle), Bool.and_false]

theorem marked_not_regressed_iff (hvalid : h.valid = true) {mark : Option (Generation tag)} :
    mark.any (generationRegressed h) = false ↔ ∀ w, mark = some w → w ≤ h := by
  cases mark with
  | none => simp
  | some g => simpa using not_regressed_iff hvalid

/-- The generation a setting has, once it has one. -/
def issued (g : Generation tag) : Unit → Option (Generation tag) :=
  fun _ => if g.valid then some g else none

theorem issued_of_valid (h : g.valid = true) (old : Generation tag) :
    issued g = Function.update (issued old) () (some g) := by
  funext i
  rw [issued, if_pos h, Function.update_self]

theorem issued_not_regressed_iff (hvalid : h.valid = true) :
    generationRegressed h g = false ↔ ∀ w, issued g () = some w → w ≤ h := by
  by_cases hg : g.valid = true
  · simpa [issued, hg] using not_regressed_iff hvalid
  · simp [issued, hg, generationRegressed]

end

/-- The generations of the backends, guarded by `backend_generation_watermark`. -/
def backendWatermark : Watermark Act.apply BackendId BackendGeneration :=
  register (fun s => s.backendGenerationWatermark.find?) registeredBackend
    (by
      intro e ht hr
      have hmarks : (after e).state.backendGenerationWatermark =
          e.pre.state.backendGenerationWatermark := congrArg Prod.snd (untaken_frame ht hr).2
      rw [hmarks])
    (by
      intro m now s hnone
      have hmarks : (m.next now s).backendGenerationWatermark = (raise s m).2 :=
        congrArg Prod.snd (next_watermarks hnone)
      rw [hmarks]
      cases m with
      | registerBackend raw =>
          exact find?_insert_overwrite s.backendGenerationWatermark raw.backendId
            raw.backendGeneration
      | _ => rfl)
    (by
      intro m now s id g hvalue
      cases m with
      | registerBackend raw =>
          obtain ⟨rfl, rfl⟩ := Prod.mk.inj (Option.some.inj hvalue)
          have hissued (hvalid : raw.canonicalize.validate = none) :
              raw.canonicalize.backendGeneration.valid = true := by
            simp only [BackendDescriptor.validate, violation, chain_eq_none, refuse_eq_none]
              at hvalid
            simpa using hvalid.2.1
          simp only [Mutation.attempt, registerBackend, Admissible, shuttingDownRefusal,
            chain_eq_none, refuse_eq_none, Option.map_eq_none_iff]
          constructor
          · rintro ⟨hvalid, hup, hfence, hlimit, hmark, hregistration⟩
            exact ⟨⟨hvalid, hup, hfence, hlimit, hregistration⟩,
              (marked_not_regressed_iff (hissued hvalid)).mp hmark⟩
          · rintro ⟨⟨hvalid, hup, hfence, hlimit, hregistration⟩, hmark⟩
            exact ⟨hvalid, hup, hfence, hlimit,
              (marked_not_regressed_iff (hissued hvalid)).mpr hmark, hregistration⟩
      | _ => cases hvalue)

/-- The generations of the models, guarded by `model_generation_watermark`. -/
def modelWatermark : Watermark Act.apply ModelId ModelGeneration :=
  register (fun s => s.modelGenerationWatermark.find?) registeredModel
    (by
      intro e ht hr
      have hmarks : (after e).state.modelGenerationWatermark =
          e.pre.state.modelGenerationWatermark := congrArg Prod.fst (untaken_frame ht hr).2
      rw [hmarks])
    (by
      intro m now s hnone
      have hmarks : (m.next now s).modelGenerationWatermark = (raise s m).1 :=
        congrArg Prod.fst (next_watermarks hnone)
      rw [hmarks]
      cases m with
      | registerModel model =>
          exact find?_insert_overwrite s.modelGenerationWatermark model.modelId
            model.modelGeneration
      | _ => rfl)
    (by
      intro m now s id g hvalue
      cases m with
      | registerModel model =>
          obtain ⟨rfl, rfl⟩ := Prod.mk.inj (Option.some.inj hvalue)
          have hissued (hvalid : model.validate = none) : model.modelGeneration.valid = true := by
            simp only [ModelDescriptor.validate, violation, chain_eq_none, refuse_eq_none]
              at hvalid
            simpa using hvalid.2.1
          simp only [Mutation.attempt, registerModel, Admissible, shuttingDownRefusal,
            chain_eq_none, refuse_eq_none, Option.map_eq_none_iff]
          constructor
          · rintro ⟨hvalid, hup, hlimit, hmark, hchanged⟩
            exact ⟨⟨hvalid, hup, hlimit, hchanged⟩,
              (marked_not_regressed_iff (hissued hvalid)).mp hmark⟩
          · rintro ⟨⟨hvalid, hup, hlimit, hchanged⟩, hmark⟩
            exact ⟨hvalid, hup, hlimit,
              (marked_not_regressed_iff (hissued hvalid)).mpr hmark, hchanged⟩
      | _ => cases hvalue)

def policyWatermark : Watermark Act.apply Unit PolicyGeneration :=
  register (fun s => issued s.policy.generation) newPolicy
    (by
      intro e ht hr
      have hpolicy : (after e).state.policy = e.pre.state.policy :=
        congrArg Settings.policy (untaken_frame ht hr).1
      rw [hpolicy])
    (by
      intro m now s hnone
      have hpolicy : (m.next now s).policy = (revise s m).policy :=
        congrArg Settings.policy (next_settings hnone)
      rw [hpolicy]
      cases m with
      | setPolicy raw => exact issued_of_valid (setPolicy_issued hnone) _
      | _ => rfl)
    (by
      intro m now s i g hvalue
      cases m with
      | setPolicy raw =>
          obtain ⟨-, rfl⟩ := Prod.mk.inj (Option.some.inj hvalue)
          have hissued (hvalid : raw.canonicalize.validate = none) :
              raw.canonicalize.generation.valid = true := by
            simp only [PolicySnapshot.validate, violation, chain_eq_none, refuse_eq_none] at hvalid
            simpa using hvalid.1
          simp only [Mutation.attempt, setPolicy, Admissible, shuttingDownRefusal, chain_eq_none,
            refuse_eq_none, Option.map_eq_none_iff]
          constructor
          · rintro ⟨hvalid, hup, hmark, hsame⟩
            exact ⟨⟨hvalid, hup, hsame⟩, (issued_not_regressed_iff (hissued hvalid)).mp hmark⟩
          · rintro ⟨⟨hvalid, hup, hsame⟩, hmark⟩
            exact ⟨hvalid, hup, (issued_not_regressed_iff (hissued hvalid)).mpr hmark, hsame⟩
      | _ => cases hvalue)

def budgetWatermark : Watermark Act.apply Unit BudgetGeneration :=
  register (fun s => issued s.budget.generation) newBudget
    (by
      intro e ht hr
      have hbudget : (after e).state.budget = e.pre.state.budget :=
        congrArg Settings.budget (untaken_frame ht hr).1
      rw [hbudget])
    (by
      intro m now s hnone
      have hbudget : (m.next now s).budget = (revise s m).budget :=
        congrArg Settings.budget (next_settings hnone)
      rw [hbudget]
      cases m with
      | setBudget budget =>
          simp only [Mutation.attempt, setBudget, chain_eq_none, refuse_eq_none,
            Bool.not_eq_false'] at hnone
          exact issued_of_valid hnone.1 _
      | _ => rfl)
    (by
      intro m now s i g hvalue
      cases m with
      | setBudget budget =>
          obtain ⟨-, rfl⟩ := Prod.mk.inj (Option.some.inj hvalue)
          simp only [Mutation.attempt, setBudget, Admissible, shuttingDownRefusal, chain_eq_none,
            refuse_eq_none, Bool.not_eq_false']
          constructor
          · rintro ⟨hvalid, hup, hmark⟩
            exact ⟨⟨hvalid, hup⟩, (issued_not_regressed_iff hvalid).mp hmark⟩
          · rintro ⟨⟨hvalid, hup⟩, hmark⟩
            exact ⟨hvalid, hup, (issued_not_regressed_iff hvalid).mpr hmark⟩
      | _ => cases hvalue)

def sloWatermark : Watermark Act.apply Unit SLOGeneration :=
  register (fun s => issued s.slo.generation) newSlo
    (by
      intro e ht hr
      have hslo : (after e).state.slo = e.pre.state.slo :=
        congrArg Settings.slo (untaken_frame ht hr).1
      rw [hslo])
    (by
      intro m now s hnone
      have hslo : (m.next now s).slo = (revise s m).slo :=
        congrArg Settings.slo (next_settings hnone)
      rw [hslo]
      cases m with
      | setSlo slo =>
          simp only [Mutation.attempt, setSlo, chain_eq_none, refuse_eq_none,
            Bool.not_eq_false'] at hnone
          exact issued_of_valid hnone.1 _
      | _ => rfl)
    (by
      intro m now s i g hvalue
      cases m with
      | setSlo slo =>
          obtain ⟨-, rfl⟩ := Prod.mk.inj (Option.some.inj hvalue)
          simp only [Mutation.attempt, setSlo, Admissible, shuttingDownRefusal, chain_eq_none,
            refuse_eq_none, Bool.not_eq_false']
          constructor
          · rintro ⟨hvalid, hup, hmark⟩
            exact ⟨⟨hvalid, hup⟩, (issued_not_regressed_iff hvalid).mp hmark⟩
          · rintro ⟨⟨hvalid, hup⟩, hmark⟩
            exact ⟨hvalid, hup, (issued_not_regressed_iff hvalid).mpr hmark⟩
      | _ => cases hvalue)

/-- What a run before a save accepted, as the floor of the run after the load. -/
def accepted {I G : Type} [LinearOrder G] (W : Watermark Act.apply I G) (es : Trace) (i : I)
    (g : G) : Prop :=
  ∃ e ∈ es, W.accepts e = some (i, g)

def persistedAs {G : Type} (last : G) (_ : Unit) (g : G) : Prop :=
  g = last

/-- After the restart nothing is accepted below what was accepted before the save, or below the
generations the file was saved with. -/
structure NoRollback (earlier : Trace) (file : RouterPersistentState) (later : Trace) : Prop where
  backends : backendWatermark.NeverBelow (accepted backendWatermark earlier) later
  models : modelWatermark.NeverBelow (accepted modelWatermark earlier) later
  policy : policyWatermark.NeverBelow (persistedAs file.lastPolicyGeneration) later
  budget : budgetWatermark.NeverBelow (persistedAs file.lastBudgetGeneration) later
  slo : sloWatermark.NeverBelow (persistedAs file.lastSloGeneration) later

def retainedBackend (s : CanonicalState) (id : BackendId) : Option BackendGeneration :=
  (s.backends.find? id).map BackendDescriptor.backendGeneration

def retainedModel (s : CanonicalState) (id : ModelId) : Option ModelGeneration :=
  (s.models.find? id).map ModelDescriptor.modelGeneration

def listedBackend (file : RouterPersistentState) (id : BackendId) : Option BackendGeneration :=
  (file.backends.reverse.find? fun record => record.backendId = id).map
    PersistedBackendRecord.backendGeneration

def listedModel (file : RouterPersistentState) (id : ModelId) : Option ModelGeneration :=
  (file.models.reverse.find? fun record => record.model.modelId = id).map
    fun record => record.model.modelGeneration

def relisted {I G : Type} (listed : RouterPersistentState → I → Option G) (e : Event World Act) :
    I → Option G :=
  match e.act with
  | .importState file => listed file
  | _ => fun _ => none

/-- No admissible registration or setting that is the first of its register since the latest load
names a generation below the floor: of a backend or a model only one that is not below what the
saved state retained, or the latest file lists, can; a load leaves the policy, the budget and the
SLO without a generation. -/
structure NoFirstRollback (earlier : Trace) (s : CanonicalState) (file : RouterPersistentState)
    (later : Trace) : Prop where
  backends : backendWatermark.FirstNotBelow (retainedBackend s) (relisted listedBackend)
    (accepted backendWatermark earlier) later
  models : modelWatermark.FirstNotBelow (retainedModel s) (relisted listedModel)
    (accepted modelWatermark earlier) later
  policy : policyWatermark.FirstNotBelow (fun _ => none) (fun _ _ => none)
    (persistedAs file.lastPolicyGeneration) later
  budget : budgetWatermark.FirstNotBelow (fun _ => none) (fun _ _ => none)
    (persistedAs file.lastBudgetGeneration) later
  slo : sloWatermark.FirstNotBelow (fun _ => none) (fun _ _ => none)
    (persistedAs file.lastSloGeneration) later

/-- Nothing a run accepted for an id is above the generation retained for it. -/
structure Remembered (earlier : Trace) (s : CanonicalState) : Prop where
  backends : ∀ id w, retainedBackend s id = some w →
    ∀ g, accepted backendWatermark earlier id g → g ≤ w
  models : ∀ id w, retainedModel s id = some w → ∀ g, accepted modelWatermark earlier id g → g ≤ w

def continued (options : ModelRouterOptions) (schedule : List (Choice Op Env)) (w : World) :
    Trace × World :=
  let run := Pool.run (Op.program options) Act.apply schedule ⟨w, []⟩
  (run.1, run.2.state)

def restarted (options : ModelRouterOptions) (highest : UInt64) (file : RouterPersistentState) :
    World :=
  importSection file.canonicalize (World.fresh options highest)

theorem load_restarted {options : ModelRouterOptions} {highest : UInt64} {path : Text}
    {loaded : PersistenceLoad} {result : PersistenceResult} {es : Trace} {w : World}
    (hok : loaded.ok = true) (hvalid : loaded.state.canonicalize.validate options.limits = none)
    (h : Executes (fun e => e.load path options.limits = loaded) Eq (Lifecycle.load path)
      (World.fresh options highest) es result w) :
    w = restarted options highest loaded.state := by
  obtain ⟨u, es', rfl, -, h⟩ := executes_perform.mp h
  obtain ⟨e, he, h⟩ := executes_ask.mp h
  subst he
  have hfound : (e.load path (World.fresh options highest).state.limits).ok = true := hok
  dsimp only at h
  rw [if_neg (by simp [hfound])] at h
  obtain ⟨imported, v, es₁, es₂, rfl, himport, h⟩ := executes_bind.mp h
  have hv : v = restarted options highest (e.load path options.limits).state := by
    rcases importPersistentState_executes himport with ⟨error, herror, -, -⟩ | ⟨-, -, rfl⟩
    · have hnone := hvalid.symm.trans herror
      cases hnone
    · rfl
  rw [← hv]
  split at h
  · exact (executes_done.mp h).2.2
  · exact (executes_done.mp h).2.2

theorem restored_marks (s : CanonicalState) (canonical : RouterPersistentState)
    (routes : OrderedMap RouteDecisionId RouteRecord) :
    let t := restore s canonical routes
    t.backendGenerationWatermark.find? = listedBackend canonical ∧
      t.modelGenerationWatermark.find? = listedModel canonical ∧
      t.policy = {} ∧ t.budget = {} ∧ t.slo = {} := by
  intro t
  have hframe : t = _ := rebuildIndexes_frame _
  refine ⟨?_, ?_, by rw [hframe], by rw [hframe], by rw [hframe]⟩
  · funext id
    rw [hframe]
    refine (OrderedMap.find?_ofList _ id).trans ?_
    rw [← List.map_reverse, List.find?_map, Option.map_map]
    rfl
  · funext id
    rw [hframe]
    refine (OrderedMap.find?_ofList _ id).trans ?_
    rw [← List.map_reverse, List.find?_map, Option.map_map]
    rfl

theorem import_marks {canonical : RouterPersistentState} {w : World}
    (h : w.state.running = false) :
    let u := importSection canonical w
    backendWatermark.mark u = listedBackend canonical ∧
      modelWatermark.mark u = listedModel canonical ∧
      policyWatermark.mark u = (fun _ => none) ∧ budgetWatermark.mark u = (fun _ => none) ∧
      sloWatermark.mark u = fun _ => none := by
  intro u
  have hu : ∃ routes, u.state = restore w.state canonical routes := by
    change ∃ routes, (importSection canonical w).state = _
    rw [importSection, if_neg (by simp [h])]
    exact ⟨_, rfl⟩
  obtain ⟨routes, hu⟩ := hu
  obtain ⟨hbackends, hmodels, hpolicy, hbudget, hslo⟩ := restored_marks w.state canonical routes
  rw [← hu] at hbackends hmodels hpolicy hbudget hslo
  refine ⟨hbackends, hmodels, ?_, ?_, ?_⟩
  · change issued u.state.policy.generation = _
    rw [hpolicy]
    rfl
  · change issued u.state.budget.generation = _
    rw [hbudget]
    rfl
  · change issued u.state.slo.generation = _
    rw [hslo]
    rfl

theorem reload_marks {e : Event World Act} (h : reloads e = true) :
    backendWatermark.mark (after e) = relisted listedBackend e ∧
      modelWatermark.mark (after e) = relisted listedModel e ∧
      policyWatermark.mark (after e) = (fun _ => none) ∧
      budgetWatermark.mark (after e) = (fun _ => none) ∧
      sloWatermark.mark (after e) = fun _ => none := by
  obtain ⟨k, w⟩ := e
  cases k with
  | importState canonical =>
      refine import_marks ?_
      simpa [reloads, imports] using h
  | _ => simp [reloads, imports] at h

section

variable {R I G : Type} [DecidableEq I] {records : List R} {key : R → I} {value : R → G}
variable {retained : I → Option G}

theorem listed_eq
    (h : ∀ i g, (∃ record ∈ records, key record = i ∧ value record = g) ↔ retained i = some g)
    (i : I) :
    (records.reverse.find? fun record => key record = i).map value = retained i := by
  cases hfind : records.reverse.find? fun record => key record = i with
  | none =>
      rw [List.find?_eq_none] at hfind
      cases hretained : retained i with
      | none => rfl
      | some g =>
          obtain ⟨record, hmem, hkey, -⟩ := (h i g).mpr hretained
          exact absurd (decide_eq_true hkey) (hfind record (List.mem_reverse.mpr hmem))
  | some record =>
      have hkey : key record = i := by simpa using List.find?_some hfind
      have hmem := List.mem_reverse.mp (List.mem_of_find?_eq_some hfind)
      exact ((h i _).mp ⟨record, hmem, hkey, rfl⟩).symm

end

def ListsBackend (file : RouterPersistentState) (id : BackendId) (g : BackendGeneration) : Prop :=
  ∃ record ∈ file.backends, record.backendId = id ∧ record.backendGeneration = g

def ListsModel (file : RouterPersistentState) (id : ModelId) (g : ModelGeneration) : Prop :=
  ∃ record ∈ file.models, record.model.modelId = id ∧ record.model.modelGeneration = g

theorem canonicalize_lists (file : RouterPersistentState) :
    (∀ id g, ListsBackend file.canonicalize id g ↔ ListsBackend file id g) ∧
      ∀ id g, ListsModel file.canonicalize id g ↔ ListsModel file id g := by
  constructor
  · intro id g
    simp only [ListsBackend, RouterPersistentState.canonicalize, List.mem_map, mem_stableSort]
    constructor
    · rintro ⟨-, ⟨record, hmem, rfl⟩, hid, hg⟩
      exact ⟨record, hmem, hid, hg⟩
    · rintro ⟨record, hmem, hid, hg⟩
      exact ⟨_, ⟨record, hmem, rfl⟩, hid, hg⟩
  · intro id g
    simp only [ListsModel, RouterPersistentState.canonicalize, mem_stableSort]

theorem saved_lists {w : World} (hbackends : Indexed w.state) (hmodels : ModelsKeyed w.state)
    (now : UnixMillis) :
    let file := (durableView (exportPersistentState w now)).canonicalize
    listedBackend file = retainedBackend w.state ∧ listedModel file = retainedModel w.state := by
  have hlists := canonicalize_lists (durableView (exportPersistentState w now))
  have hview := canonicalize_lists (exportPersistentState w now)
  constructor
  · refine funext fun id => listed_eq (fun id g => ?_) id
    refine ((hlists.1 id g).trans (hview.1 id g)).trans (((canonicalize_lists _).1 id g).trans ?_)
    simp only [ListsBackend, List.mem_map, retainedBackend, Option.map_eq_some_iff]
    constructor
    · rintro ⟨-, ⟨backend, hmem, rfl⟩, rfl, rfl⟩
      obtain ⟨key, hfound⟩ := OrderedMap.mem_values_iff.mp hmem
      have hkey : backend.backendId = key := hbackends.keyed key backend hfound
      exact ⟨backend, (congrArg _ hkey).trans hfound, rfl⟩
    · rintro ⟨backend, hfound, rfl⟩
      exact ⟨_, ⟨backend, OrderedMap.mem_values_iff.mpr ⟨id, hfound⟩, rfl⟩,
        hbackends.keyed id backend hfound, rfl⟩
  · refine funext fun id => listed_eq (fun id g => ?_) id
    refine ((hlists.2 id g).trans (hview.2 id g)).trans (((canonicalize_lists _).2 id g).trans ?_)
    simp only [ListsModel, List.mem_map, retainedModel, Option.map_eq_some_iff]
    constructor
    · rintro ⟨-, ⟨model, hmem, rfl⟩, rfl, rfl⟩
      obtain ⟨key, hfound⟩ := OrderedMap.mem_values_iff.mp hmem
      have hkey : model.modelId = key := hmodels key model hfound
      exact ⟨model, hkey ▸ hfound, rfl⟩
    · rintro ⟨model, hfound, rfl⟩
      exact ⟨_, ⟨model, OrderedMap.mem_values_iff.mpr ⟨id, hfound⟩, rfl⟩,
        hmodels id model hfound, rfl⟩

theorem restarted_marks {options : ModelRouterOptions} {highest : UInt64} {w : World}
    (hbackends : Indexed w.state) (hmodels : ModelsKeyed w.state) (now : UnixMillis) :
    let u := restarted options highest (durableView (exportPersistentState w now))
    backendWatermark.mark u = retainedBackend w.state ∧
      modelWatermark.mark u = retainedModel w.state ∧
      policyWatermark.mark u = (fun _ => none) ∧ budgetWatermark.mark u = (fun _ => none) ∧
      sloWatermark.mark u = fun _ => none := by
  obtain ⟨hlistedBackends, hlistedModels⟩ := saved_lists hbackends hmodels now
  have hmarks := @import_marks (durableView (exportPersistentState w now)).canonicalize
    (World.fresh options highest) rfl
  rw [hlistedBackends, hlistedModels] at hmarks
  exact hmarks

theorem unloaded_remembers {options : ModelRouterOptions} {highest : UInt64}
    {schedule : List (Choice Op Env)}
    (h : ∀ e ∈ (continued options schedule (World.fresh options highest)).1, reloads e = false) :
    let before := continued options schedule (World.fresh options highest)
    Remembered before.1 before.2.state := by
  intro before
  have hchained : Chained Act.apply (World.fresh options highest) before.1 before.2 :=
    Pool.run_chained schedule ⟨World.fresh options highest, []⟩
  constructor
  · rintro id w hretained g ⟨e, he, hg⟩
    obtain ⟨backend, hfound, rfl⟩ := Option.map_eq_some_iff.mp hretained
    obtain ⟨mark, hmark, hle⟩ := backendWatermark.reaches hchained h he hg
    have hmarked : Watermarked before.2.state := reached_keeps (I := fun w => Watermarked w.state)
      (fresh_upkeep options highest).backends (fun _ hw => event_backendsWatermarked hw) schedule
    have heq := hmark.symm.trans (hmarked id backend hfound)
    exact (Option.some.inj heq) ▸ hle
  · rintro id w hretained g ⟨e, he, hg⟩
    obtain ⟨model, hfound, rfl⟩ := Option.map_eq_some_iff.mp hretained
    obtain ⟨mark, hmark, hle⟩ := modelWatermark.reaches hchained h he hg
    have hmarked : ModelsWatermarked before.2.state :=
      reached_keeps (I := fun w => ModelsWatermarked w.state)
        (fresh_upkeep options highest).models (fun _ hw => event_modelsWatermarked hw) schedule
    have heq := hmark.symm.trans (hmarked id model hfound)
    exact (Option.some.inj heq) ▸ hle

/-- After a save and a load into a fresh router no registration and no new policy, budget or SLO
rolls a generation back exactly when no admissible one that is the first since the load does; for
an id whose descriptor was saved none can, unless the saved router had loaded a file itself. -/
theorem restart_rollback_iff (options options' : ModelRouterOptions) (highest highest' : UInt64)
    (schedule schedule' : List (Choice Op Env)) (now : UnixMillis) :
    let before := continued options schedule (World.fresh options highest)
    let file := durableView (exportPersistentState before.2 now)
    let later := (continued options' schedule' (restarted options' highest' file)).1
    (NoRollback before.1 file later ↔ NoFirstRollback before.1 before.2.state file later) ∧
      ((∀ e ∈ before.1, reloads e = false) → Remembered before.1 before.2.state) := by
  intro before file later
  refine ⟨?_, unloaded_remembers⟩
  have hchained : Chained Act.apply (restarted options' highest' file) later _ :=
    Pool.run_chained schedule' ⟨restarted options' highest' file, []⟩
  have hindexed : Indexed before.2.state := reached_keeps (I := fun w => Indexed w.state)
    (fresh_indexed options highest) (fun _ hw => event_indexed hw) schedule
  have hkeyed : ModelsKeyed before.2.state := reached_keeps (I := fun w => ModelsKeyed w.state)
    (fresh_keyed options highest) (fun _ hw => event_keyed hw) schedule
  obtain ⟨hbackends, hmodels, hpolicy, hbudget, hslo⟩ :=
    @restarted_marks options' highest' before.2 hindexed hkeyed now
  have hb : backendWatermark.NeverBelow (accepted backendWatermark before.1) later ↔ _ :=
    backendWatermark.neverBelow_iff hchained hbackends fun _ _ h => (reload_marks h).1
  have hm : modelWatermark.NeverBelow (accepted modelWatermark before.1) later ↔ _ :=
    modelWatermark.neverBelow_iff hchained hmodels fun _ _ h => (reload_marks h).2.1
  have hp : policyWatermark.NeverBelow (persistedAs file.lastPolicyGeneration) later ↔ _ :=
    policyWatermark.neverBelow_iff hchained hpolicy fun _ _ h => (reload_marks h).2.2.1
  have hu : budgetWatermark.NeverBelow (persistedAs file.lastBudgetGeneration) later ↔ _ :=
    budgetWatermark.neverBelow_iff hchained hbudget fun _ _ h => (reload_marks h).2.2.2.1
  have hl : sloWatermark.NeverBelow (persistedAs file.lastSloGeneration) later ↔ _ :=
    sloWatermark.neverBelow_iff hchained hslo fun _ _ h => (reload_marks h).2.2.2.2
  constructor
  · intro h
    exact ⟨hb.mp h.backends, hm.mp h.models, hp.mp h.policy, hu.mp h.budget, hl.mp h.slo⟩
  · intro h
    exact ⟨hb.mpr h.backends, hm.mpr h.models, hp.mpr h.policy, hu.mpr h.budget, hl.mpr h.slo⟩

section

def fifthPolicy : List (Choice Op Env) :=
  inTurn 5 sampleEnv 0
    (sampleCatalog ++ [.mutation (.setPolicy { samplePolicy with generation := ⟨5⟩ })])

def firstPolicy : List (Choice Op Env) :=
  inTurn 5 sampleEnv 0 [.start, .mutation (.setPolicy samplePolicy)]

def setsFirstPolicy (e : Event World Act) : Bool :=
  policyWatermark.accepts e == some ((), ⟨1⟩)

theorem policy_rolls_back :
    ¬∀ (options options' : ModelRouterOptions) (highest highest' : UInt64)
        (schedule schedule' : List (Choice Op Env)) (now : UnixMillis),
      let before := continued options schedule (World.fresh options highest)
      let file := durableView (exportPersistentState before.2 now)
      let later := (continued options' schedule' (restarted options' highest' file)).1
      NoRollback before.1 file later := by
  intro h
  have hlast : (durableView (exportPersistentState (continued sampleOptions fifthPolicy
      (World.fresh sampleOptions 100)).2 0)).lastPolicyGeneration = ⟨5⟩ := by
    decide +kernel
  have hfound : (continued sampleOptions firstPolicy (restarted sampleOptions 100
      (durableView (exportPersistentState (continued sampleOptions fifthPolicy
        (World.fresh sampleOptions 100)).2 0)))).1.any setsFirstPolicy = true := by
    decide +kernel
  obtain ⟨e, he, hset⟩ := List.any_eq_true.mp hfound
  have hnever := (h sampleOptions sampleOptions 100 100 fifthPolicy firstPolicy 0).policy
  have hle := hnever e he () ⟨1⟩ (beq_iff_eq.mp hset) ⟨5⟩ hlast.symm
  revert hle
  decide

end

end ModelRouter.Restart
