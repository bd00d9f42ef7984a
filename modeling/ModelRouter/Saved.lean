import ModelRouter.Durability
import ModelRouter.Rankings
import ModelRouter.Records

namespace ModelRouter.Saved

open Base Bytes Ids Outcome Capability Evidence Candidate Authority Request Policy Decision
open Persistence State Mutations Commit Recovery Providers Section Pass Route Reroute Lifecycle
open Router Effects MutationFacts Run Records Durability Repertoire Rankings Sorting

/-- Surroundings in which every state that loads is in `F`. -/
def Reads (F : RouterPersistentState → Prop) (env : Env) : Prop :=
  ∀ path limits, (env.load path limits).ok = true → F (env.load path limits).state

/-- What the files give back that a router saved in any run, where the runs load such files
only. -/
inductive SavedFile : RouterPersistentState → Prop where
  | stored {options : ModelRouterOptions} {highest : UInt64} {schedule : List (Choice Op Env)}
      {e : Event World Act} {path : Text} {persisted : RouterPersistentState} :
      (∀ i env, Choice.advance i env ∈ schedule → ∀ path limits, (env.load path limits).ok = true →
        SavedFile (env.load path limits).state) →
      e ∈ interleaved options highest schedule → e.act = .store path persisted →
      SavedFile (durableView persisted)

/-- A retained decision as the operations of a router leave it: bound in an epoch the router has
reached, and with the same fallbacks, each once, in the decision and in its plan. -/
structure SoundRecord (epoch : RouterEpoch) (record : RouteRecord) : Prop where
  dated : record.decision.authority.routerEpoch ≤ epoch
  planned : record.plan.fallbacks = record.decision.fallbacks
  distinct : record.decision.fallbacks.Nodup

def Sound (w : World) : Prop :=
  ∀ id record, w.state.routes.find? id = some record → SoundRecord w.state.routerEpoch record

/-- A durable state as a sound router exports it. -/
structure SoundFile (file : RouterPersistentState) : Prop where
  dated : ∀ route ∈ file.routes, route.authority.routerEpoch ≤ file.lastRouterEpoch
  distinct : ∀ route ∈ file.routes, route.fallbacks.Nodup

/-- What a draft has to bring for its commit to leave a sound router. -/
structure SoundDraft (draft : CommitDraft) : Prop where
  dated : draft.decision.authority.routerEpoch = draft.epoch
  planned : draft.plan.fallbacks = draft.decision.fallbacks
  distinct : draft.decision.fallbacks.Nodup

def SoundAct : Act → Prop
  | .commit draft => SoundDraft draft
  | .importState canonical => SoundFile canonical
  | .store _ persisted => SoundFile persisted
  | _ => True

section

variable {epoch : RouterEpoch} {record earlier : RouteRecord}

theorem SoundRecord.of_frozen (h : SoundRecord epoch earlier) (hf : frozen record = frozen earlier) :
    SoundRecord epoch record := by
  have hauthority := congrArg (fun r => r.decision.authority) hf
  have hplanned := congrArg (fun r => r.plan.fallbacks) hf
  have hfallbacks := congrArg (fun r => r.decision.fallbacks) hf
  simp only [frozen] at hauthority hplanned hfallbacks
  constructor
  · rw [hauthority]
    exact h.dated
  · rw [hplanned, hfallbacks]
    exact h.planned
  · rw [hfallbacks]
    exact h.distinct

theorem SoundRecord.mono {later : RouterEpoch} (h : SoundRecord epoch record)
    (hle : epoch ≤ later) : SoundRecord later record :=
  ⟨h.dated.trans hle, h.planned, h.distinct⟩

theorem importRoute_sound {route : PersistedRouteRecord} {planId : RoutePlanId}
    (hdated : route.authority.routerEpoch ≤ epoch) (hdistinct : route.fallbacks.Nodup) :
    SoundRecord epoch (importRoute route planId) :=
  ⟨hdated, rfl, hdistinct⟩

end

theorem epoch_advances {e : Event World Act} (hkeep : ¬restores e) :
    e.pre.state.routerEpoch ≤ (after e).state.routerEpoch := by
  refine ((event_advances e).mpr ?_).routerEpoch
  obtain ⟨k, w⟩ := e
  cases k with
  | importState canonical => exact fun hrewinds => hkeep ⟨rfl, hrewinds.1⟩
  | _ => exact not_false

theorem restored_epoch {canonical : RouterPersistentState} {w : World}
    (hstopped : w.state.running = false) :
    (importSection canonical w).state.routerEpoch = canonical.lastRouterEpoch.next := by
  rw [importSection, hstopped, if_neg Bool.false_ne_true]
  exact congrArg Prod.fst (restore_part w.state canonical _).1

theorem sound_step {e : Event World Act} (hact : SoundAct e.act) (hs : Sound e.pre) :
    Sound (after e) := by
  intro id record hrecord
  cases event_origin hrecord with
  | @retained earlier hearlier hf hkeep =>
      exact ((hs id earlier hearlier).of_frozen hf).mono (epoch_advances hkeep)
  | @committed draft hdraft hreplaces hf =>
      rw [hdraft] at hact
      have hepoch : (after e).state.routerEpoch = e.pre.state.routerEpoch := by
        have hkeeps : keepsEpochs e.act = true := by rw [hdraft]; rfl
        exact congrArg Prod.fst (apply_epochs hkeeps e.pre)
      have htaken : commitRefusal draft e.pre.state = none := by
        rw [replaces, hdraft] at hreplaces
        exact hreplaces.1
      simp only [commitRefusal, Refusal.chain_eq_none, Refusal.refuse_eq_none, Bool.or_eq_false_iff,
        bne_eq_false_iff_eq] at htaken
      refine SoundRecord.of_frozen ⟨?_, hact.planned, hact.distinct⟩ hf
      rw [hepoch, htaken.2.1]
      exact hact.dated.le
  | @imported canonical route planId himport hstopped hroute hid hbuilt =>
      obtain ⟨k, w⟩ := e
      obtain rfl : k = .importState canonical := himport
      subst hbuilt
      refine importRoute_sound ?_ (hact.distinct route hroute)
      change _ ≤ (importSection canonical w).state.routerEpoch
      rw [restored_epoch hstopped]
      exact (hact.dated route hroute).trans (Generation.le_next _)

theorem mem_canonicalize_routes {file : RouterPersistentState} {route : PersistedRouteRecord} :
    route ∈ file.canonicalize.routes ↔ route ∈ file.routes :=
  mem_stableSort

theorem SoundFile.canonicalize {file : RouterPersistentState} (h : SoundFile file) :
    SoundFile file.canonicalize :=
  ⟨fun route hroute => h.dated route (mem_canonicalize_routes.mp hroute),
    fun route hroute => h.distinct route (mem_canonicalize_routes.mp hroute)⟩

theorem SoundFile.durable {file : RouterPersistentState} (h : SoundFile file) :
    SoundFile (durableView file) :=
  ⟨h.canonicalize.dated, h.canonicalize.distinct⟩

theorem export_sound {w : World} (hs : Sound w) (now : UnixMillis) :
    SoundFile (exportPersistentState w now) := by
  refine SoundFile.canonicalize ?_
  have hrecords (route : PersistedRouteRecord) (hroute : route ∈ w.state.routes.values.map exportRoute) :
      ∃ id record, w.state.routes.find? id = some record ∧ exportRoute record = route := by
    obtain ⟨record, hrecord, rfl⟩ := List.mem_map.mp hroute
    obtain ⟨id, hid⟩ := OrderedMap.mem_values_iff.mp hrecord
    exact ⟨id, record, hid, rfl⟩
  constructor
  · intro route hroute
    obtain ⟨id, record, hid, rfl⟩ := hrecords route hroute
    exact (hs id record hid).dated
  · intro route hroute
    obtain ⟨id, record, hid, rfl⟩ := hrecords route hroute
    exact (hs id record hid).distinct

section

variable {E : Env → Prop} {draft : CommitDraft}

theorem fallbackOrder_distinct {winner : RankedCandidate} {tail : List RankedCandidate}
    (hranks : Ranks (winner :: tail)) (permitted : UInt32) :
    (fallbackOrder winner tail permitted).Nodup := by
  have htail : (tail.map RankedCandidate.key).Nodup := (List.nodup_cons.mp (ranks_distinct hranks)).2
  rw [fallbackOrder]
  refine List.Nodup.sublist ((List.take_sublist _ _).map _) ?_
  exact ((stableSort_perm _ tail).map RankedCandidate.key).nodup_iff.mpr htail

theorem routeDraft_sound {raw : RouteRequest} (h : RouteDraft Sound E raw draft) :
    SoundDraft draft := by
  obtain ⟨-, -, -, -, hranks, hbound⟩ := h
  exact ⟨hbound.routerEpoch, rfl, fallbackOrder_distinct hranks _⟩

theorem fallbackDraft_sound {id : RouteDecisionId} {raw : RouteRequest}
    (h : FallbackDraft Sound E id raw draft) : SoundDraft draft := by
  obtain ⟨hw, -, -, hstored, -, hbound⟩ := h
  have hrecord := hw _ _ hstored
  have hplanned : _ = _ := hrecord.planned
  refine ⟨hbound.routerEpoch, rfl, ?_⟩
  refine ((List.filter_sublist).nodup ?_).sublist (List.take_sublist _ _)
  rw [hplanned]
  exact hrecord.distinct

end

theorem fresh_sound (options : ModelRouterOptions) (highest : UInt64) :
    Sound (World.fresh options highest) :=
  fun _ _ hrecord => nomatch hrecord

theorem sound_allows : Allows Sound (Reads SoundFile) SoundAct where
  plain k hk := by
    cases k with
    | commit draft => cases hk
    | importState canonical => cases hk
    | store path persisted => cases hk
    | _ => trivial
  mutate _ _ _ := trivial
  publish _ _ := trivial
  importState _ path limits he hok := (he path limits hok).canonicalize
  commitRoute _ _ hdraft := routeDraft_sound hdraft
  commitFallback _ _ _ hdraft := fallbackDraft_sound hdraft
  store _ _ now hw := export_sound hw now
  storeShut _ w now hw := by
    have hshut : Sound (onState w beginShutdown) :=
      sound_step (e := ⟨.beginShutdown, w⟩) trivial hw
    exact export_sound hshut now

theorem program_sound (options : ModelRouterOptions) (op : Op) :
    (op.program options).Only Sound (Reads SoundFile) SoundAct :=
  program_only sound_allows options op (fun _ _ _ _ => trivial) fun _ _ _ _ => trivial

theorem run_sound {options : ModelRouterOptions} {highest : UInt64} {schedule : List (Choice Op Env)}
    (hloads : Pool.Answered (Reads SoundFile) schedule) :
    (∀ e ∈ interleaved options highest schedule, Sound e.pre ∧ SoundAct e.act) ∧
      Sound (Pool.run (Op.program options) Act.apply schedule
        ⟨World.fresh options highest, []⟩).2.state := by
  have hkeep (k : Act) (w : World) (hk : SoundAct k) (hw : Sound w) : Sound (k.apply w) :=
    sound_step (e := ⟨k, w⟩) hk hw
  exact Pool.run_only hkeep (program_sound options) hloads (fresh_sound options highest)
    (by simp [Pool.Only])

theorem SavedFile.sound {file : RouterPersistentState} (h : SavedFile file) : SoundFile file := by
  induction h with
  | @stored options highest schedule e path persisted hloads he hact ih =>
      have hsound :=
        ((run_sound fun i env hc path limits hok => ih i env hc path limits hok).1 e he).2
      rw [hact] at hsound
      exact SoundFile.durable hsound

/-- The worlds of a router that loads only files a router saved. -/
def Reachable (options : ModelRouterOptions) (w : World) : Prop :=
  ∃ highest threads, Pool.Reaches (Op.program options) Act.apply (Reads SavedFile)
    ⟨World.fresh options highest, []⟩ ⟨w, threads⟩

theorem Reachable.sound {options : ModelRouterOptions} {w : World} (h : Reachable options w) :
    Sound w := by
  obtain ⟨highest, threads, schedule, hloads, hend⟩ := h
  have hsound : Sound (Pool.run (Op.program options) Act.apply schedule
      ⟨World.fresh options highest, []⟩).2.state :=
    (run_sound fun i env hc path limits hok => (hloads i env hc path limits hok).sound).2
  rwa [hend] at hsound

theorem history_reachable {options : ModelRouterOptions} {E : Trace → Env → Prop} {highest : UInt64}
    {es : Trace} {calls : List (Op × Reply)} {t : World} {answer : Env}
    (hanswer : Reads SavedFile answer) (hE : ∀ es e, E es e → Reads SavedFile e)
    (h : History options E highest es calls t) :
    Reachable options t ∧ ∀ e ∈ es, Reachable options e.pre := by
  obtain ⟨⟨threads, hend⟩, hevents⟩ := Pool.session_reaches hanswer hE h
  refine ⟨⟨highest, threads, hend⟩, fun e he => ?_⟩
  obtain ⟨others, hpre⟩ := hevents e he
  exact ⟨highest, others, hpre⟩

end ModelRouter.Saved
