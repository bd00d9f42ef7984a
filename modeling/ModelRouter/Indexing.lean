import Mathlib.Logic.Function.Basic
import ModelRouter.Base.SecondaryIndex
import ModelRouter.Run

namespace ModelRouter.Indexing

open Base Base.Refusal Base.SecondaryIndex Bytes Ids Outcome Capability Evidence Catalog Persistence
open State CatalogMutation EvidenceMutation Mutations Commit Recovery Providers Section Router
open Effects MutationFacts Run

variable {s t : CanonicalState} {now : UnixMillis}

/-- What a descriptor is indexed by. -/
structure IndexKeys where
  provider : ProviderId
  rank : Nat
  models : List ModelId

def indexKeys (b : BackendDescriptor) : IndexKeys where
  provider := b.providerId
  rank := b.trustDomain.trustRank
  models := b.modelBindings.map ModelBinding.modelId

abbrev Listing := BackendId → Option IndexKeys

def scan (s : CanonicalState) : Listing :=
  fun id => (s.backends.find? id).map indexKeys

/-- The three indexes hold exactly a listing. -/
structure Holds (s : CanonicalState) (l : Listing) : Prop where
  byModel : Indexes s.indexBackendsByModel fun model id => ∃ keys, l id = some keys ∧ model ∈ keys.models
  byProvider : Indexes s.indexBackendsByProvider fun provider id =>
    ∃ keys, l id = some keys ∧ keys.provider = provider
  byTrust : Indexes s.indexBackendsByTrust fun rank id => ∃ keys, l id = some keys ∧ keys.rank = rank

theorem indexErase_eq {A : Type} [LinearOrder A] (index : SecondaryIndex A BackendId) (a : A)
    (id : BackendId) : indexErase index a id = remove index a id := by
  unfold indexErase remove
  cases index.find? a <;> rfl

theorem indexModels_add (index : SecondaryIndex ModelId BackendId) (b : BackendDescriptor) :
    b.modelBindings.foldl (fun index binding => indexInsert index binding.modelId b.backendId) index =
      (indexKeys b).models.foldl (fun index model => add index model b.backendId) index := by
  rw [indexKeys, List.foldl_map]
  rfl

theorem indexModels_remove (index : SecondaryIndex ModelId BackendId) (b : BackendDescriptor) :
    b.modelBindings.foldl (fun index binding => indexErase index binding.modelId b.backendId) index =
      (indexKeys b).models.foldl (fun index model => remove index model b.backendId) index := by
  rw [indexKeys, List.foldl_map]
  simp only [indexErase_eq]

section

variable {l : Listing} {b : BackendDescriptor}

theorem Holds.add (h : Holds s l) (hb : l b.backendId = none) :
    Holds (s.indexAddBackend b) (Function.update l b.backendId (some (indexKeys b))) := by
  have hmem (p : IndexKeys → Prop) (id : BackendId) :
      (∃ keys, Function.update l b.backendId (some (indexKeys b)) id = some keys ∧ p keys) ↔
        (p (indexKeys b) ∧ b.backendId = id) ∨ ∃ keys, l id = some keys ∧ p keys := by
    by_cases hid : id = b.backendId
    · subst hid
      simp [hb]
    · simp [Function.update_of_ne hid, Ne.symm hid]
  constructor
  · change Indexes (b.modelBindings.foldl _ _) _
    rw [indexModels_add]
    refine (h.byModel.foldl_add _ _).congr fun model id => ?_
    rw [hmem]
  · refine (h.byProvider.add _ _).congr fun provider id => ?_
    rw [hmem fun keys => keys.provider = provider]
    rfl
  · refine (h.byTrust.add _ _).congr fun rank id => ?_
    rw [hmem fun keys => keys.rank = rank]
    rfl

theorem Holds.remove (h : Holds s l) (hb : l b.backendId = some (indexKeys b)) :
    Holds (s.indexRemoveBackend b) (Function.update l b.backendId none) := by
  have hmem (p : IndexKeys → Prop) (id : BackendId) :
      (∃ keys, Function.update l b.backendId none id = some keys ∧ p keys) ↔
        (∃ keys, l id = some keys ∧ p keys) ∧ ¬(p (indexKeys b) ∧ b.backendId = id) := by
    by_cases hid : id = b.backendId
    · subst hid
      simp [hb]
    · simp [Function.update_of_ne hid, Ne.symm hid]
  constructor
  · change Indexes (b.modelBindings.foldl _ _) _
    rw [indexModels_remove]
    refine (h.byModel.foldl_remove _ _).congr fun model id => ?_
    rw [hmem]
  · change Indexes (indexErase _ _ _) _
    rw [indexErase_eq]
    refine (h.byProvider.remove _ _).congr fun provider id => ?_
    rw [hmem fun keys => keys.provider = provider]
    rfl
  · change Indexes (indexErase _ _ _) _
    rw [indexErase_eq]
    refine (h.byTrust.remove _ _).congr fun rank id => ?_
    rw [hmem fun keys => keys.rank = rank]
    rfl

end

/-- The backends the catalog holds, each under its own identity, are what the indexes hold. -/
structure Indexed (s : CanonicalState) : Prop where
  keyed : ∀ id b, s.backends.find? id = some b → b.backendId = id
  holds : Holds s (scan s)

theorem Holds.congr {l : Listing} (h : Holds s l)
    (hm : t.indexBackendsByModel = s.indexBackendsByModel)
    (hp : t.indexBackendsByProvider = s.indexBackendsByProvider)
    (ht : t.indexBackendsByTrust = s.indexBackendsByTrust) : Holds t l := by
  constructor
  · rw [hm]
    exact h.byModel
  · rw [hp]
    exact h.byProvider
  · rw [ht]
    exact h.byTrust

theorem Indexed.congr (hs : Indexed s) (hb : t.backends = s.backends)
    (hmodel : t.indexBackendsByModel = s.indexBackendsByModel)
    (hprovider : t.indexBackendsByProvider = s.indexBackendsByProvider)
    (htrust : t.indexBackendsByTrust = s.indexBackendsByTrust) : Indexed t := by
  have hscan : scan t = scan s := by
    funext id
    rw [scan, hb, scan]
  exact ⟨hb ▸ hs.keyed, hscan ▸ hs.holds.congr hmodel hprovider htrust⟩

theorem Indexed.of_holdings (hs : Indexed s) (h : holdings t = holdings s) : Indexed t :=
  hs.congr (backends_of_holdings h) (congrArg Holdings.indexBackendsByModel h)
    (congrArg Holdings.indexBackendsByProvider h) (congrArg Holdings.indexBackendsByTrust h)

theorem Indexed.editBackend {id : BackendId} {edit : BackendDescriptor → BackendDescriptor}
    (hedit : ∀ b, indexKeys (edit b) = indexKeys b ∧ (edit b).backendId = b.backendId)
    (hs : Indexed s) : Indexed (editBackend s id edit) := by
  unfold CatalogMutation.editBackend
  cases hid : s.backends.find? id with
  | none => exact hs
  | some existing =>
      have hscan : scan { s with backends := s.backends.insert id (edit existing) } = scan s := by
        funext j
        change ((s.backends.insert id (edit existing)).find? j).map indexKeys = _
        rw [OrderedMap.find?_insert]
        by_cases hj : id = j
        · rw [if_pos hj, scan, ← hj, hid, Option.map_some, Option.map_some, (hedit existing).1]
        · rw [if_neg hj, scan]
      refine ⟨fun j b hb => ?_, hscan ▸ hs.holds.congr rfl rfl rfl⟩
      change (s.backends.insert id (edit existing)).find? j = some b at hb
      rw [OrderedMap.find?_insert] at hb
      split at hb
      · rename_i hj
        obtain rfl := Option.some.inj hb
        rw [(hedit existing).2, hs.keyed id existing hid, hj]
      · exact hs.keyed j b hb

theorem scan_insert (id : BackendId) (b : BackendDescriptor) (s : CanonicalState) :
    scan { s with backends := s.backends.insert id b } =
      Function.update (scan s) id (some (indexKeys b)) := by
  funext j
  change ((s.backends.insert id b).find? j).map indexKeys = _
  rw [OrderedMap.find?_insert]
  by_cases hj : id = j
  · subst hj
    rw [if_pos rfl, Option.map_some, Function.update_self]
  · rw [if_neg hj, Function.update_of_ne (Ne.symm hj), scan]

theorem keyed_insert {b : BackendDescriptor}
    (hs : ∀ id b, s.backends.find? id = some b → b.backendId = id) :
    ∀ id found, (s.backends.insert b.backendId b).find? id = some found → found.backendId = id := by
  intro id found hfound
  rw [OrderedMap.find?_insert] at hfound
  split at hfound
  · rename_i hid
    exact (Option.some.inj hfound) ▸ hid
  · exact hs id found hfound

theorem Indexed.replace {old b : BackendDescriptor} (hs : Indexed s)
    (hold : s.backends.find? b.backendId = some old) :
    Indexed (CanonicalState.indexAddBackend
      { s.indexRemoveBackend old with backends := s.backends.insert b.backendId b } b) := by
  have hid : old.backendId = b.backendId := hs.keyed _ _ hold
  have hremoved : Holds (s.indexRemoveBackend old) (Function.update (scan s) b.backendId none) := by
    rw [← hid]
    refine hs.holds.remove ?_
    rw [scan, hid, hold, Option.map_some]
  have hadded := Holds.add (s := { s.indexRemoveBackend old with
    backends := s.backends.insert b.backendId b }) (b := b) (hremoved.congr rfl rfl rfl)
    (Function.update_self ..)
  rw [Function.update_idem] at hadded
  refine ⟨keyed_insert hs.keyed, ?_⟩
  have hscan : scan (CanonicalState.indexAddBackend
      { s.indexRemoveBackend old with backends := s.backends.insert b.backendId b } b) = _ :=
    scan_insert b.backendId b s
  rw [hscan]
  exact hadded

theorem Indexed.install {b : BackendDescriptor} (hs : Indexed s) : Indexed (installBackend s b) := by
  unfold installBackend
  cases hold : s.backends.find? b.backendId with
  | some old => exact hs.replace hold
  | none =>
      refine ⟨keyed_insert hs.keyed, ?_⟩
      have hscan : scan (CanonicalState.indexAddBackend
          { s with backends := s.backends.insert b.backendId b } b) = _ :=
        scan_insert b.backendId b s
      rw [hscan]
      refine Holds.add (hs.holds.congr rfl rfl rfl) ?_
      rw [scan, hold, Option.map_none]

theorem Indexed.removed {b : BackendDescriptor} {id : BackendId} (hs : Indexed s)
    (hb : s.backends.find? id = some b) : Indexed (removeBackend s b id) := by
  have hid : b.backendId = id := hs.keyed id b hb
  have hscan : scan (removeBackend s b id) = Function.update (scan s) id none := by
    funext j
    change ((s.backends.erase id).find? j).map indexKeys = _
    rw [OrderedMap.find?_erase]
    by_cases hj : id = j
    · subst hj
      rw [if_pos rfl, Option.map_none, Function.update_self]
    · rw [if_neg hj, Function.update_of_ne (Ne.symm hj), scan]
  constructor
  · intro j found hfound
    change (s.backends.erase id).find? j = some found at hfound
    rw [OrderedMap.find?_erase] at hfound
    split at hfound
    · cases hfound
    · exact hs.keyed j found hfound
  · rw [hscan, ← hid]
    have hremoved : Holds (s.indexRemoveBackend b) _ :=
      hs.holds.remove (by rw [scan, hid, hb, Option.map_some])
    exact hremoved.congr rfl rfl rfl

theorem setBindingCost_keys (b : BackendDescriptor) (modelId : ModelId) (cost : CostEvidence) :
    indexKeys (b.setBindingCost modelId cost) = indexKeys b ∧
      (b.setBindingCost modelId cost).backendId = b.backendId := by
  have hsplit := List.takeWhile_append_dropWhile (p := fun binding : ModelBinding =>
    decide (binding.modelId < modelId)) (l := b.modelBindings)
  unfold BackendDescriptor.setBindingCost
  split
  · rename_i binding above habove
    rw [habove] at hsplit
    have hmodels := congrArg (List.map ModelBinding.modelId) hsplit
    refine ⟨?_, rfl⟩
    simpa [indexKeys] using hmodels
  · exact ⟨rfl, rfl⟩

theorem Indexed.rebindTrust {evidence : TrustEvidence} (hs : Indexed s) :
    Indexed (rebindTrust s evidence) := by
  unfold EvidenceMutation.rebindTrust
  cases hb : s.backends.find? evidence.backendId with
  | none => exact hs
  | some backend =>
      have hid : backend.backendId = evidence.backendId := hs.keyed _ _ hb
      rw [← hid] at hb ⊢
      exact Indexed.replace (b := { backend with
        trustProfileId := evidence.profileId
        trustGeneration := evidence.generation
        trustDomain := evidence.domain }) hs hb

theorem edited_indexed (m : Mutation) (now : UnixMillis) (hs : Indexed s) :
    Indexed (m.attempt now s).edited := by
  cases m with
  | registerModel model => exact hs.congr rfl rfl rfl rfl
  | registerProvider provider => exact hs.congr rfl rfl rfl rfl
  | registerBackend backend => exact Indexed.install (hs.congr rfl rfl rfl rfl)
  | unregisterBackend backendId generation =>
      change Indexed (unregisterBackend s backendId generation now).edited
      dsimp only [unregisterBackend]
      cases hb : s.backends.find? backendId with
      | none => exact hs
      | some existing =>
          refine Indexed.of_holdings ?_ (staleDecisionsForBackend_holdings _ _ _)
          exact Indexed.removed (hs.congr rfl rfl rfl rfl) hb
  | fenceBackendBoot backendId generation backendBoot reason =>
      refine Indexed.of_holdings ?_ (staleDecisionsForBackend_holdings _ _ _)
      cases hb : (s.backends.find? backendId).filter _ with
      | none => exact hs.congr rfl rfl rfl rfl
      | some existing =>
          obtain ⟨hfound, -⟩ := Option.filter_eq_some_iff.mp hb
          exact (hs.removed hfound).congr rfl rfl rfl rfl
  | publishCapabilities publication =>
      refine hs.editBackend fun b => ?_
      split <;> exact ⟨rfl, rfl⟩
  | retireModel modelId generation =>
      change Indexed (retireModel s modelId generation).edited
      dsimp only [retireModel]
      cases s.models.find? modelId with
      | none => exact hs
      | some existing => exact hs.congr rfl rfl rfl rfl
  | updateHealth evidence => exact hs.editBackend fun _ => ⟨rfl, rfl⟩
  | updateAvailability evidence => exact hs.editBackend fun _ => ⟨rfl, rfl⟩
  | updateReadiness evidence => exact hs.editBackend fun _ => ⟨rfl, rfl⟩
  | updateResidency evidence => exact hs.editBackend fun _ => ⟨rfl, rfl⟩
  | updateCapacity evidence detail => exact hs.editBackend fun _ => ⟨rfl, rfl⟩
  | updateLatency evidence => exact hs.editBackend fun _ => ⟨rfl, rfl⟩
  | setPolicy policy => exact hs.congr rfl rfl rfl rfl
  | setBudget budget => exact hs.congr rfl rfl rfl rfl
  | setSlo slo => exact hs.congr rfl rfl rfl rfl
  | setCompatibility evidence => exact hs.congr rfl rfl rfl rfl
  | setTrust evidence => exact Indexed.rebindTrust (hs.congr rfl rfl rfl rfl)
  | setCost evidence =>
      exact (hs.editBackend fun b => setBindingCost_keys b _ _).congr rfl rfl rfl rfl

theorem next_indexed (m : Mutation) (now : UnixMillis) (hs : Indexed s) :
    Indexed (m.next now s) := by
  rcases next_cases m now s with h | ⟨-, h⟩
  · rwa [h]
  · rw [h]
    exact (edited_indexed m now hs).of_holdings (written_holdings _ now)

theorem rebuild_loop {l : Listing} {entries : List (BackendId × BackendDescriptor)}
    (hsorted : entries.Pairwise (fun a b => a.1 < b.1)) (h : Holds s l)
    (hfresh : ∀ e ∈ entries, l e.1 = none) :
    Holds (entries.foldl
        (fun state entry => state.indexAddBackend { entry.2 with backendId := entry.1 }) s)
      fun id => ((OrderedMap.lookup id entries).map indexKeys) <|> l id := by
  induction entries generalizing s l with
  | nil => exact h
  | cons e entries ih =>
      obtain ⟨hhead, htail⟩ := List.pairwise_cons.mp hsorted
      have hadded : Holds (s.indexAddBackend { e.2 with backendId := e.1 })
          (Function.update l e.1 (some (indexKeys e.2))) :=
        Holds.add (b := { e.2 with backendId := e.1 }) h (hfresh e List.mem_cons_self)
      have hrest := ih htail hadded fun d hd => by
        rw [Function.update_of_ne (hhead d hd).ne']
        exact hfresh d (List.mem_cons_of_mem _ hd)
      rw [List.foldl_cons]
      convert hrest using 1
      funext id
      by_cases hid : e.1 = id
      · subst hid
        have hnone : OrderedMap.lookup e.1 entries = none := OrderedMap.lookup_eq_none hhead
        simp [OrderedMap.lookup, hnone]
      · simp [OrderedMap.lookup, hid, Function.update_of_ne (Ne.symm hid)]

theorem rebuildIndexes_holds (s : CanonicalState) : Holds s.rebuildIndexes (scan s) := by
  have hempty : Holds { s with
      indexBackendsByModel := {}
      indexBackendsByProvider := {}
      indexBackendsByTrust := {} } fun _ => none := by
    constructor <;> exact indexes_empty.congr fun a k => by simp
  have hscan : scan s = fun id =>
      ((OrderedMap.lookup id s.backends.entries).map indexKeys) <|> none := by
    funext id
    change (OrderedMap.lookup id s.backends.entries).map indexKeys = _
    cases OrderedMap.lookup id s.backends.entries <;> rfl
  rw [hscan]
  exact rebuild_loop s.backends.sorted hempty fun _ _ => rfl

theorem rebuildIndexes_frame (s : CanonicalState) :
    s.rebuildIndexes = { s with
      indexBackendsByModel := s.rebuildIndexes.indexBackendsByModel
      indexBackendsByProvider := s.rebuildIndexes.indexBackendsByProvider
      indexBackendsByTrust := s.rebuildIndexes.indexBackendsByTrust } := by
  have hloop (entries : List (BackendId × BackendDescriptor)) (u : CanonicalState) :
      let rebuilt := entries.foldl
        (fun state entry => state.indexAddBackend { entry.2 with backendId := entry.1 }) u
      rebuilt = { u with
        indexBackendsByModel := rebuilt.indexBackendsByModel
        indexBackendsByProvider := rebuilt.indexBackendsByProvider
        indexBackendsByTrust := rebuilt.indexBackendsByTrust } := by
    induction entries generalizing u with
    | nil => rfl
    | cons entry entries ih => exact ih _
  exact hloop s.backends.entries _

theorem Indexed.rebuilt (hs : Indexed s) : s.rebuildIndexes = s := by
  have hscan := rebuildIndexes_holds s
  rw [rebuildIndexes_frame, hscan.byModel.unique hs.holds.byModel,
    hscan.byProvider.unique hs.holds.byProvider, hscan.byTrust.unique hs.holds.byTrust]

theorem importBackends_keyed (records : List PersistedBackendRecord) :
    ∀ id b, (importBackends records).find? id = some b → b.backendId = id := by
  intro id b h
  obtain ⟨record, -, hrecord⟩ := List.mem_map.mp (OrderedMap.mem_of_find?_ofList h)
  obtain ⟨rfl, rfl⟩ := Prod.mk.inj hrecord
  rfl

theorem rebuilt_indexed (hs : ∀ id b, s.backends.find? id = some b → b.backendId = id) :
    Indexed s.rebuildIndexes := by
  have hbackends : s.rebuildIndexes.backends = s.backends := by rw [rebuildIndexes_frame]
  have hscan : scan s.rebuildIndexes = scan s := by
    funext id
    rw [scan, hbackends, scan]
  refine ⟨hbackends ▸ hs, ?_⟩
  rw [hscan]
  exact rebuildIndexes_holds s

theorem event_indexed {e : Event World Act} (hs : Indexed e.pre.state) :
    Indexed (after e).state := by
  obtain ⟨k, w⟩ := e
  cases hkeep : keepsHoldings k with
  | true => exact hs.of_holdings (apply_holdings hkeep w)
  | false =>
      cases k with
      | mutate m now => exact next_indexed m now hs
      | writeCapacityDetail detail => exact hs.editBackend fun _ => ⟨rfl, rfl⟩
      | importState canonical =>
          change Indexed (importSection canonical w).state
          unfold importSection
          split
          · exact hs
          · exact rebuilt_indexed (importBackends_keyed canonical.backends)
      | _ => cases hkeep

theorem fresh_indexed (options : ModelRouterOptions) (highest : UInt64) :
    Indexed (World.fresh options highest).state := by
  have hnone {p : IndexKeys → Prop} {id : BackendId} :
      ¬∃ keys, scan (World.fresh options highest).state id = some keys ∧ p keys := by
    rintro ⟨keys, h, -⟩
    cases h
  constructor
  · intro id b h
    cases h
  · constructor <;> exact indexes_empty.congr fun a k => iff_of_false not_false hnone

/-- In every state of every schedule the three indexes are exactly what a scan of the canonical
backend map finds. -/
theorem interleaved_indexed (options : ModelRouterOptions) (highest : UInt64)
    (schedule : List (Choice Op Env)) :
    ∀ e ∈ interleaved options highest schedule,
      Indexed (after e).state ∧ (after e).state.rebuildIndexes = (after e).state := by
  obtain ⟨t, hchained⟩ := interleaved_chained options highest schedule
  have hfresh := fresh_indexed options highest
  have hpre := hchained.invariant_pre (I := fun w => Indexed w.state) hfresh
    fun e _ hs => event_indexed hs
  intro e he
  have hafter := event_indexed (hpre e he)
  exact ⟨hafter, hafter.rebuilt⟩

/-- The sample catalog, one operation after another. -/
def sampleSchedule : List (Choice Op Env) :=
  inTurn 2 sampleEnv 0 sampleCatalog

theorem sampleSchedule_indexed : ∃ e ∈ interleaved sampleOptions 100 sampleSchedule,
    (after e).state.backends.find? ⟨7⟩ ≠ none ∧ Indexed (after e).state ∧
      (after e).state.rebuildIndexes = (after e).state := by
  have hregisters : (interleaved sampleOptions 100 sampleSchedule).any
      (fun e => ((after e).state.backends.find? ⟨7⟩).isSome) = true := by decide +kernel
  obtain ⟨e, he, hheld⟩ := List.any_eq_true.mp hregisters
  exact ⟨e, he, Option.isSome_iff_ne_none.mp hheld,
    interleaved_indexed sampleOptions 100 sampleSchedule e he⟩

end ModelRouter.Indexing
