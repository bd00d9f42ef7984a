import ModelRouter.Records
import ModelRouter.StatusChanges

namespace ModelRouter.Sealing

open Base Bytes Ids Outcome Capability Request Decision State Commit Handoff Providers Section Run
open TerminalStatus Handoffs StatusChanges Records

variable {id : RouteDecisionId}

variable {e : Event World Act} {w : World}

/-- A section that leaves a superseded decision superseded: no durable state is restored, and no
revalidation or dispatch writes the status it has decided on before. -/
structure Spares (id : RouteDecisionId) (e : Event World Act) : Prop where
  unrestored : ¬restores e
  unwritten : statusOf e.pre.state id = some .superseded → ¬overwrites id e

def Issued (id : RouteDecisionId) (w : World) : Prop :=
  w.state.routes.contains id = true → id.value ≤ w.highestIssued

/-- The decision is superseded for good: it is retained as such, or it is gone. -/
structure Sealed (id : RouteDecisionId) (w : World) : Prop where
  known : id.value ≤ w.highestIssued
  status : ∀ status, statusOf w.state id = some status → status = .superseded

theorem lt_succ_highest {highest : UInt64} (h : ¬highest ≥ kCeiling) : highest < highest + 1 := by
  unfold kCeiling at h
  grind

theorem allocate_mono (w : World) : w.highestIssued ≤ w.allocate.highestIssued := by
  unfold World.allocate allocatorNext
  dsimp only
  split
  · exact UInt64.le_refl _
  · rename_i hroom
    exact UInt64.le_of_lt (lt_succ_highest hroom)

theorem nextId_le (w : World) : w.nextId ≤ w.allocate.highestIssued := by
  unfold World.nextId World.allocate allocatorNext
  dsimp only
  split
  · assumption
  · exact UInt64.le_refl _

theorem nextId_ne (hid : id.value < kCeiling) (h : id.value ≤ w.highestIssued) :
    id ≠ ⟨w.nextId⟩ := by
  rintro rfl
  unfold World.nextId allocatorNext at hid h
  split at hid
  · exact UInt64.lt_irrefl _ hid
  · rename_i hroom
    rw [if_neg hroom] at h
    exact UInt64.not_lt.mpr h (lt_succ_highest hroom)

theorem after_unrestored (h : ¬restores e) (himports : imports e.act = true) : after e = e.pre := by
  obtain ⟨k, w⟩ := e
  cases k with
  | importState canonical =>
      have hrunning : w.state.running = true := by
        rw [← Bool.not_eq_false]
        exact fun hstopped => h ⟨rfl, hstopped⟩
      exact if_pos hrunning
  | _ => cases himports

theorem highestIssued_mono (h : ¬restores e) : e.pre.highestIssued ≤ (after e).highestIssued := by
  by_cases himports : imports e.act = true
  · rw [after_unrestored h himports]
    exact UInt64.le_refl _
  · obtain ⟨k, w⟩ := e
    cases k with
    | allocate => exact allocate_mono w
    | commit draft =>
        change w.highestIssued ≤ (commitSection draft w).1.highestIssued
        unfold commitSection
        cases commitRefusal draft w.state with
        | some refusal => exact UInt64.le_refl _
        | none => exact UInt64.le_trans (allocate_mono w) (allocate_mono w.allocate)
    | recordDispatch j epoch coordinatorEpoch dispatch =>
        change w.highestIssued ≤
          (Handoff.recordDispatch w j epoch coordinatorEpoch dispatch).highestIssued
        unfold Handoff.recordDispatch
        split
        · exact allocate_mono w
        · exact UInt64.le_refl _
    | importState canonical => exact absurd rfl himports
    | _ => exact UInt64.le_refl _

theorem replaces_issued (h : replaces id e) : id.value ≤ (after e).highestIssued := by
  obtain ⟨k, w⟩ := e
  cases k with
  | commit draft =>
      obtain ⟨htaken, rfl, -⟩ := h
      change w.nextId ≤ (commitSection draft w).1.highestIssued
      rw [commitSection, htaken]
      exact UInt64.le_trans (nextId_le w) (allocate_mono w.allocate)
  | _ => exact h.elim

theorem replaces_fresh (hid : id.value < kCeiling) (hknown : id.value ≤ e.pre.highestIssued) :
    ¬replaces id e := by
  obtain ⟨k, w⟩ := e
  cases k with
  | commit draft => exact fun h => nextId_ne hid hknown h.2.1
  | _ => exact not_false

theorem issued_after (h : Issued id e.pre) (hspares : Spares id e) : Issued id (after e) := by
  intro hcontains
  obtain ⟨record, hrecord⟩ := OrderedMap.contains_iff.mp hcontains
  cases event_origin hrecord with
  | retained hearlier _ _ =>
      exact UInt64.le_trans (h (OrderedMap.contains_iff.mpr ⟨_, hearlier⟩))
        (highestIssued_mono hspares.unrestored)
  | committed _ hreplaces _ => exact replaces_issued hreplaces
  | imported hact hrunning _ _ _ =>
      exact absurd ⟨by rw [hact]; rfl, hrunning⟩ hspares.unrestored

theorem evicted_gone (hid : id ≠ ⟨e.pre.nextId⟩) (h : evicts id e) :
    (after e).state.routes.find? id = none := by
  obtain ⟨k, w⟩ := e
  cases k with
  | commit draft =>
      obtain ⟨htaken, hevicted⟩ := h
      change (commitSection draft w).1.state.routes.find? id = none
      rw [commitSection_routes htaken, if_neg hid, evict_routes, if_pos hevicted]
  | _ => exact h.elim

theorem sealed_after (hid : id.value < kCeiling) (h : Sealed id e.pre) (hspares : Spares id e) :
    Sealed id (after e) := by
  refine ⟨UInt64.le_trans h.known (highestIssued_mono hspares.unrestored), fun status hstatus => ?_⟩
  by_cases himports : imports e.act = true
  · rw [after_unrestored hspares.unrestored himports] at hstatus
    exact h.status status hstatus
  obtain ⟨record, hrecord, rfl⟩ := Option.map_eq_some_iff.mp hstatus
  have hne : id ≠ ⟨e.pre.nextId⟩ := nextId_ne hid h.known
  have hkeep : ¬evicts id e := fun hevicts => by
    rw [evicted_gone hne hevicts] at hrecord
    cases hrecord
  -- the decision was superseded before, so what it becomes is terminal as well
  have hterminal : terminal record.decision.status = true := by
    cases event_origin hrecord with
    | retained hearlier _ _ =>
        have hsuperseded := h.status _ (statusOf_eq hearlier)
        have hsettled : Settled e.pre.state id := ⟨_, hearlier, by rw [hsuperseded]; rfl⟩
        have hspared := hspares.unwritten (by rw [statusOf_eq hearlier, hsuperseded])
        obtain ⟨found, hfound, hterminal⟩ :=
          (event_settled (Bool.not_eq_true _ ▸ himports) hkeep hsettled).mpr hspared
        rwa [Option.some.inj (hrecord.symm.trans hfound)]
    | committed _ hreplaces _ => exact absurd hreplaces (replaces_fresh hid h.known)
    | imported hact _ _ _ _ => exact absurd (by rw [hact]; rfl) himports
  have hsource := event_source hstatus
  generalize record.decision.status = status at hsource hterminal ⊢
  cases hsource with
  | kept hbefore => exact h.status _ hbefore
  | committed _ _ hnamed _ _ => exact absurd hnamed hne
  | completed _ hdispatched _ => cases h.status _ hdispatched
  | superseded => rfl
  | withdrawn => cases hterminal
  | revalidated _ _ _ _ => cases hterminal
  | dispatched _ => cases hterminal

theorem supersede_sealed {now : UnixMillis} {fresh : Bool} (hknown : id.value ≤ w.highestIssued) :
    Sealed id ((Act.supersede id now fresh).apply w) := by
  refine ⟨hknown, fun status hstatus => ?_⟩
  have hedited : statusOf (editRoute w.state id fun record =>
      { record with
        decision :=
          { record.decision with status := .superseded, supersededAtUnixMillis := now } }) id =
        some status := by
    change statusOf (Handoff.supersede w.state id now fresh) id = some status at hstatus
    rw [Handoff.supersede] at hstatus
    split at hstatus
    · exact hstatus
    · exact hstatus
  rw [statusOf_editRoute, if_pos rfl] at hedited
  obtain ⟨record, -, rfl⟩ := Option.map_eq_some_iff.mp hedited
  rfl

/-- A section under which the identities that were handed out stay so, and what is superseded for
good stays so. -/
structure Harmless (id : RouteDecisionId) (k : Act) (w : World) : Prop where
  mono : w.highestIssued ≤ (k.apply w).highestIssued
  remains : Sealed id w → Sealed id (k.apply w)

theorem Spares.harmless {k : Act} (hid : id.value < kCeiling) (h : Spares id ⟨k, w⟩) :
    Harmless id k w :=
  ⟨highestIssued_mono h.unrestored, fun hgone => sealed_after hid hgone h⟩

end ModelRouter.Sealing
