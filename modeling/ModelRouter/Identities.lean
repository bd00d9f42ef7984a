import ModelRouter.Base.Counter
import ModelRouter.Readmission
import ModelRouter.Recovered
import ModelRouter.Sealing

namespace ModelRouter.Identities

open Base Bytes Ids Request Decision Persistence State Commit Recovery Handoff Providers Section
open Router Run Records Sealing Recovered Stored StateStore Images Readmission

/-- A call of the process-wide identity source. -/
inductive Call where
  | next
  | observe (highestSeen : UInt64)
deriving DecidableEq, Repr

def Call.counter (highestIssued : UInt64) : Call → UInt64
  | .next => (allocatorNext highestIssued).2
  | .observe highestSeen => allocatorObserve highestIssued highestSeen

/-- The identities that a sequence of calls returns. -/
def returned : UInt64 → List Call → List UInt64
  | _, [] => []
  | highestIssued, .next :: calls =>
    (allocatorNext highestIssued).1 :: returned (allocatorNext highestIssued).2 calls
  | highestIssued, .observe highestSeen :: calls =>
    returned (allocatorObserve highestIssued highestSeen) calls

/-- The calls of the source that a section makes. -/
def calls (e : Event World Act) : List Call :=
  match e.act with
  | .allocate => [.next]
  | .commit draft => if commitRefusal draft e.pre.state = none then [.next, .next] else []
  | .recordDispatch id epoch coordinatorEpoch _ =>
    if recordsDispatch e.pre.state id epoch coordinatorEpoch then [.next] else []
  | .importState canonical =>
    if e.pre.state.running then []
    else
      canonical.routes.map (fun _ => .next) ++ [.observe canonical.counters.highestIdentityIssued]
  | _ => []

def opening (options : ModelRouterOptions) : List Call :=
  if options.routerId.valid then [] else [.next]

/-- All calls of a run, in their order. -/
def runCalls (options : ModelRouterOptions) (es : Trace) : List Call :=
  opening options ++ es.flatMap calls

def Call.toCounter : Call → Counter.Call
  | .next => .next
  | .observe highestSeen => .observe highestSeen.toNat

/-- At most one of the calls of `next` finds the source exhausted or with one identity left. -/
def Roomy (highestIssued : UInt64) (cs : List Call) : Prop :=
  Counter.Roomy kCeiling.toNat highestIssued.toNat (cs.map Call.toCounter)

/-- The file that a section restores. -/
def restored (e : Event World Act) : Option RouterPersistentState :=
  match e.act with
  | .importState canonical => if e.pre.state.running then none else some canonical
  | _ => none

/-- A file restored by a section holds no decision above both the highest identity it reports and
the identities that are in use once its plans have theirs. -/
def Covers (e : Event World Act) : Prop :=
  ∀ canonical ∈ restored e, ∀ route ∈ canonical.routes, route.decisionId.value.toNat ≤
    max (e.pre.highestIssued.toNat + canonical.routes.length)
      canonical.counters.highestIdentityIssued.toNat

instance (highestIssued : UInt64) (cs : List Call) : Decidable (Roomy highestIssued cs) :=
  inferInstanceAs (Decidable (_ ≤ 1))

instance (e : Event World Act) : Decidable (Covers e) :=
  inferInstanceAs (Decidable (∀ canonical ∈ restored e, _))

/-- A commit finds no record under the identity its decision takes. -/
def TakesFree (e : Event World Act) : Prop :=
  ∀ draft, e.act = .commit draft → commitRefusal draft e.pre.state = none →
    (evict draft.kind e.pre.state).routes.find? (commitSection draft e.pre).2.decision.decisionId =
      none

section

variable {highest : UInt64} {cs : List Call} {options : ModelRouterOptions}

theorem toNat_kCeiling : kCeiling.toNat = 2 ^ 64 - 1 := rfl

theorem toNat_next (highest : UInt64) :
    (allocatorNext highest).1.toNat = Counter.number kCeiling.toNat highest.toNat ∧
      (allocatorNext highest).2.toNat = Counter.step kCeiling.toNat highest.toNat .next := by
  rw [allocatorNext, Counter.number, Counter.step]
  have hlt := highest.toNat_lt
  split
  · rename_i hfull
    have hge : ¬highest.toNat < kCeiling.toNat := Nat.not_lt.mpr (UInt64.le_iff_toNat_le.mp hfull)
    rw [if_neg hge, if_neg hge]
    exact ⟨rfl, rfl⟩
  · rename_i hroom
    have hroom' : highest.toNat < kCeiling.toNat :=
      Nat.lt_of_not_le fun hle => hroom (UInt64.le_iff_toNat_le.mpr hle)
    have hsucc : (highest + 1).toNat = highest.toNat + 1 := by
      rw [UInt64.toNat_add]
      change (highest.toNat + 1) % 2 ^ 64 = _
      rw [toNat_kCeiling] at hroom'
      omega
    rw [if_pos hroom', if_pos hroom']
    exact ⟨hsucc, hsucc⟩

theorem toNat_observe (highest seen : UInt64) :
    (allocatorObserve highest seen).toNat =
      Counter.step kCeiling.toNat highest.toNat (.observe seen.toNat) := by
  rw [allocatorObserve, Counter.step]
  split
  · rename_i hlt
    exact (Nat.max_eq_right (UInt64.lt_iff_toNat_lt.mp hlt).le).symm
  · rename_i hge
    exact (Nat.max_eq_left (UInt64.le_iff_toNat_le.mp (UInt64.not_lt.mp hge))).symm

theorem toNat_counter (highest : UInt64) (c : Call) :
    (c.counter highest).toNat = Counter.step kCeiling.toNat highest.toNat c.toCounter := by
  cases c with
  | next => exact (toNat_next highest).2
  | observe seen => exact toNat_observe highest seen

theorem toNat_foldl (highest : UInt64) (cs : List Call) :
    (cs.foldl Call.counter highest).toNat =
      (cs.map Call.toCounter).foldl (Counter.step kCeiling.toNat) highest.toNat := by
  induction cs generalizing highest with
  | nil => rfl
  | cons c cs ih => rw [List.foldl_cons, ih, List.map_cons, List.foldl_cons, toNat_counter]

theorem toNat_returned (highest : UInt64) (cs : List Call) :
    (returned highest cs).map UInt64.toNat =
      Counter.returned kCeiling.toNat highest.toNat (cs.map Call.toCounter) := by
  induction cs generalizing highest with
  | nil => rfl
  | cons c cs ih =>
      cases c with
      | next =>
          rw [returned, List.map_cons, ih, (toNat_next highest).1, (toNat_next highest).2]
          rfl
      | observe seen =>
          rw [returned, ih, toNat_observe]
          rfl

theorem returned_nodup_iff : (returned highest cs).Nodup ↔ Roomy highest cs := by
  have hinj : Function.Injective UInt64.toNat := fun a b => UInt64.toNat_inj.mp
  rw [← List.nodup_map_iff hinj, toNat_returned, Counter.returned_nodup_iff]
  rfl

end

section

variable {e : Event World Act} {w : World} {options : ModelRouterOptions} {highest : UInt64}

theorem importRoutes_counter (routes : OrderedMap RouteDecisionId RouteRecord)
    (records : List PersistedRouteRecord) (highest : UInt64) :
    (importRoutes highest routes records).1 =
      (records.map fun _ => Call.next).foldl Call.counter highest := by
  induction records generalizing highest routes with
  | nil => rfl
  | cons record rest ih =>
      rw [importRoutes, ih]
      rfl

theorem after_counter (e : Event World Act) :
    (after e).highestIssued = (calls e).foldl Call.counter e.pre.highestIssued := by
  obtain ⟨k, w⟩ := e
  cases k with
  | commit draft =>
      change (commitSection draft w).1.highestIssued = (calls ⟨.commit draft, w⟩).foldl _ _
      rw [commitSection, calls]
      dsimp only
      cases commitRefusal draft w.state with
      | some refusal => rfl
      | none => rfl
  | recordDispatch id epoch coordinatorEpoch dispatch =>
      change (Handoff.recordDispatch w id epoch coordinatorEpoch dispatch).highestIssued =
        (calls ⟨.recordDispatch id epoch coordinatorEpoch dispatch, w⟩).foldl _ _
      rw [Handoff.recordDispatch, calls]
      dsimp only
      split
      · rfl
      · rfl
  | importState canonical =>
      change (importSection canonical w).highestIssued = (calls ⟨.importState canonical, w⟩).foldl _ _
      rw [importSection, calls]
      dsimp only
      split
      · rfl
      · rw [List.foldl_append, ← importRoutes_counter .empty]
        rfl
  | _ => rfl

theorem fresh_counter (options : ModelRouterOptions) (highest : UInt64) :
    (World.fresh options highest).highestIssued = (opening options).foldl Call.counter highest := by
  rw [World.fresh, opening]
  dsimp only
  split
  · rfl
  · rfl

theorem chained_counter {s t : World} {es : Trace} (h : Chained Act.apply s es t) :
    t.highestIssued = (es.flatMap calls).foldl Call.counter s.highestIssued := by
  induction h with
  | nil s => rfl
  | @cons k s t es h ih =>
      have hfirst : (k.apply s).highestIssued = (calls ⟨k, s⟩).foldl Call.counter s.highestIssued :=
        after_counter ⟨k, s⟩
      rw [ih, List.flatMap_cons, List.foldl_append, hfirst]

theorem le_after_import {canonical : RouterPersistentState} (hact : e.act = .importState canonical)
    (hstopped : e.pre.state.running = false) {n : Nat} (hn : n ≤ kCeiling.toNat)
    (hle : n ≤ max (e.pre.highestIssued.toNat + canonical.routes.length)
      canonical.counters.highestIdentityIssued.toNat) : n ≤ (after e).highestIssued.toNat := by
  have hgrow (records : List PersistedRouteRecord) (c : Nat) (hc : n ≤ c + records.length) :
      n ≤ ((records.map fun _ => Call.next).map Call.toCounter).foldl
        (Counter.step kCeiling.toNat) c := by
    induction records generalizing c with
    | nil => exact hc
    | cons record records ih =>
        refine ih _ ?_
        rw [List.length_cons] at hc
        change n ≤ Counter.step kCeiling.toNat c .next + records.length
        rw [Counter.step]
        split <;> omega
  rw [after_counter, calls, hact]
  dsimp only
  rw [hstopped, if_neg Bool.false_ne_true, List.foldl_append, List.foldl_cons, List.foldl_nil,
    toNat_counter]
  change n ≤ max _ canonical.counters.highestIdentityIssued.toNat
  rw [toNat_foldl]
  rcases le_max_iff.mp hle with hdrawn | hreported
  · exact Nat.le_trans (hgrow canonical.routes _ hdrawn) (Nat.le_max_left _ _)
  · exact Nat.le_trans hreported (Nat.le_max_right _ _)

def AllIssued (w : World) : Prop :=
  ∀ id : RouteDecisionId, w.state.routes.contains id = true → id.value ≤ w.highestIssued

theorem highest_le_after (e : Event World Act) : e.pre.highestIssued ≤ (after e).highestIssued := by
  have hfold (cs : List Call) (highest : UInt64) :
      highest ≤ cs.foldl Call.counter highest := by
    induction cs generalizing highest with
    | nil => exact UInt64.le_refl _
    | cons c cs ih =>
        refine UInt64.le_trans (UInt64.le_iff_toNat_le.mpr ?_) (ih _)
        rw [toNat_counter]
        exact Counter.le_step _
  rw [after_counter]
  exact hfold _ _

theorem allIssued_after (h : AllIssued e.pre) (hcovers : Covers e) : AllIssued (after e) := by
  intro id hcontains
  obtain ⟨record, hrecord⟩ := OrderedMap.contains_iff.mp hcontains
  cases event_origin hrecord with
  | retained hearlier _ _ =>
      exact UInt64.le_trans (h id (OrderedMap.contains_iff.mpr ⟨_, hearlier⟩)) (highest_le_after e)
  | committed _ hreplaces _ => exact replaces_issued hreplaces
  | @imported canonical route planId hact hstopped hroute hid _ =>
      subst hid
      have hrestored : canonical ∈ restored e := by
        rw [restored, hact]
        dsimp only
        rw [hstopped]
        rfl
      have hle := hcovers canonical hrestored route hroute
      have hceiling : route.decisionId.value.toNat ≤ kCeiling.toNat := by
        have hlt := route.decisionId.value.toNat_lt
        rw [toNat_kCeiling]
        omega
      exact UInt64.le_iff_toNat_le.mpr (le_after_import hact hstopped hceiling hle)

theorem takesFree_of_room (h : AllIssued e.pre)
    (hroom : ∀ draft, e.act = .commit draft → commitRefusal draft e.pre.state = none →
      e.pre.highestIssued.toNat + 1 < kCeiling.toNat) : TakesFree e := by
  intro draft hact htaken
  have hlt := hroom draft hact htaken
  have hid : (commitSection draft e.pre).2.decision.decisionId = ⟨e.pre.nextId⟩ := by
    rw [commitSection, htaken]
    rfl
  rw [hid, evict_routes]
  split
  · rfl
  · cases hfound : e.pre.state.routes.find? ⟨e.pre.nextId⟩ with
    | none => rfl
    | some record =>
        have hle := UInt64.le_iff_toNat_le.mp
          (h ⟨e.pre.nextId⟩ (OrderedMap.contains_iff.mpr ⟨record, hfound⟩))
        change (allocatorNext e.pre.highestIssued).1.toNat ≤ _ at hle
        rw [(toNat_next _).1, Counter.number, if_pos (by omega)] at hle
        omega

end

section

variable {e : Event World Act} {highest : UInt64} {options : ModelRouterOptions}

theorem room_of_commit {es : Trace} {t : World}
    (hchained : Chained Act.apply (World.fresh options highest) es t)
    (hroomy : Roomy highest (runCalls options es)) (he : e ∈ es) {draft : CommitDraft}
    (hact : e.act = .commit draft) (htaken : commitRefusal draft e.pre.state = none) :
    e.pre.highestIssued.toNat + 1 < kCeiling.toNat := by
  obtain ⟨front, back, rfl⟩ := List.append_of_mem he
  obtain ⟨w, hfront, hback⟩ := hchained.of_append
  have hw : e.pre = w := hback.head_pre rfl
  have hcalls : calls e = [.next, .next] := by
    rw [calls, hact]
    dsimp only
    rw [if_pos htaken]
  have hcounter : w.highestIssued =
      (opening options ++ front.flatMap calls).foldl Call.counter highest := by
    rw [chained_counter hfront, fresh_counter, List.foldl_append]
  have hsplit : runCalls options (front ++ e :: back) =
      (opening options ++ front.flatMap calls) ++ .next :: .next :: back.flatMap calls := by
    rw [runCalls, List.flatMap_append, List.flatMap_cons, hcalls, List.append_assoc]
    rfl
  rw [hsplit, Roomy, List.map_append, List.map_cons, List.map_cons] at hroomy
  rw [hw, hcounter, toNat_foldl]
  exact Counter.room_of_two hroomy

/-- No identity is returned twice exactly when the calls leave the source room; in a run that
leaves it room and restores covering files only, no commit takes the key of a retained decision. -/
theorem identities_distinct_iff (highest : UInt64) (cs : List Call) (options : ModelRouterOptions)
    (schedule : List (Choice Op Env)) :
    ((returned highest cs).Nodup ↔ Roomy highest cs) ∧
      ((returned highest (runCalls options (interleaved options highest schedule))).Nodup ↔
        Roomy highest (runCalls options (interleaved options highest schedule))) ∧
      (Roomy highest (runCalls options (interleaved options highest schedule)) →
        (∀ e ∈ interleaved options highest schedule, Covers e) →
          ∀ e ∈ interleaved options highest schedule, TakesFree e) := by
  refine ⟨returned_nodup_iff, returned_nodup_iff, ?_⟩
  intro hroomy hcovers
  obtain ⟨t, hchained⟩ := interleaved_chained options highest schedule
  generalize interleaved options highest schedule = es at hchained hroomy hcovers ⊢
  have hstart : AllIssued (World.fresh options highest) := fun id hcontains => by cases hcontains
  have hissued := hchained.invariant_pre hstart fun e he h => allIssued_after h (hcovers e he)
  exact fun e he => takesFree_of_room (hissued e he) fun draft => room_of_commit hchained hroomy he

/-- A file with one decision that reports no identity at all. -/
def lowFile : RouterPersistentState where
  routerId := ⟨1⟩
  routerGeneration := ⟨1⟩
  routes := [{ decisionId := ⟨9⟩, decisionGeneration := ⟨1⟩ }]

/-- The same file with the highest identity that was in use when it was saved. -/
def coveringFile : RouterPersistentState :=
  { lowFile with counters := { highestIdentityIssued := 9 } }

/-- A router loads a file and routes once. -/
def loadedThenRouted (file : RouterPersistentState) : List (Choice Op Env) :=
  inTurn 30 (loadingEnv file) 0 ([.load "a"] ++ sampleCatalog ++ [.route sampleRequest])

def takesHeld (e : Event World Act) : Bool :=
  match e.act with
  | .commit draft =>
    (commitRefusal draft e.pre.state).isNone &&
      (evict draft.kind e.pre.state).routes.contains (commitSection draft e.pre).2.decision.decisionId
  | _ => false

theorem not_takesFree {e : Event World Act} (h : takesHeld e = true) : ¬TakesFree e := by
  obtain ⟨k, w⟩ := e
  cases k with
  | commit draft =>
      simp only [takesHeld, Bool.and_eq_true, Option.isNone_iff_eq_none] at h
      intro hfree
      obtain ⟨record, hrecord⟩ := OrderedMap.contains_iff.mp h.2
      rw [hfree draft rfl h.1] at hrecord
      cases hrecord
  | _ => cases h

/-- An exhausted source repeats its ceiling, and a decision takes the key of one that was loaded
from a file whose image the decoder accepts. -/
theorem identities_reissued :
    returned 0 [.observe kCeiling, .next, .next] = [kCeiling, kCeiling] ∧
      (∃ image loaded, encode (store lowFile) {} = .ok image ∧ decode image.bytes {} = .ok loaded ∧
        loaded.state = { store lowFile.canonicalize with
          limits := loaded.state.limits, weights := loaded.state.weights }) ∧
      ¬∀ (options : ModelRouterOptions) (highest : UInt64) (schedule : List (Choice Op Env)),
        (returned highest (runCalls options (interleaved options highest schedule))).Nodup ∧
          ∀ e ∈ interleaved options highest schedule, TakesFree e := by
  refine ⟨by decide, ?_, fun h => ?_⟩
  · obtain ⟨image, hencode⟩ : ∃ image, encode (store lowFile) {} = .ok image :=
      encode_accepts.mpr (by decide +kernel)
    have hordered : StateOrdered (store lowFile) := by decide +kernel
    obtain ⟨loaded, hdecode⟩ := (decode_accepts_iff hordered hencode).mpr (by decide +kernel)
    exact ⟨image, loaded, hencode, hdecode, decode_encode hordered hencode hdecode⟩
  · have hfound : (interleaved sampleOptions 7 (loadedThenRouted lowFile)).any takesHeld = true := by
      decide +kernel
    obtain ⟨e, he, hheld⟩ := List.any_eq_true.mp hfound
    exact not_takesFree hheld ((h sampleOptions 7 (loadedThenRouted lowFile)).2 e he)

/-- A run that loads a covering file and commits a decision. -/
theorem coveringFile_distinct :
    (returned 7 (runCalls sampleOptions
        (interleaved sampleOptions 7 (loadedThenRouted coveringFile)))).Nodup ∧
      (∃ e ∈ interleaved sampleOptions 7 (loadedThenRouted coveringFile), (restored e).isSome) ∧
      ∀ e ∈ interleaved sampleOptions 7 (loadedThenRouted coveringFile), TakesFree e := by
  have hroomy : Roomy 7 (runCalls sampleOptions
      (interleaved sampleOptions 7 (loadedThenRouted coveringFile))) := by
    decide +kernel
  have hcovers : ∀ e ∈ interleaved sampleOptions 7 (loadedThenRouted coveringFile), Covers e := by
    decide +kernel
  have hrestored : (interleaved sampleOptions 7 (loadedThenRouted coveringFile)).any
      (fun e => (restored e).isSome) = true := by
    decide +kernel
  have hrun := (identities_distinct_iff 7 [] sampleOptions (loadedThenRouted coveringFile)).2
  exact ⟨hrun.1.mpr hroomy, List.any_eq_true.mp hrestored, hrun.2 hroomy hcovers⟩

end

end ModelRouter.Identities
