import ModelRouter.Acceptance
import ModelRouter.Run

namespace ModelRouter.Transactions

open Base Base.Refusal Bytes Ids Outcome Capability Evidence Catalog Persistence State
open Decision CatalogMutation EvidenceMutation Mutations Commit Handoff Recovery Providers Section Router
open Effects MutationFacts Acceptance Run

/-- `REJECT_*`, `NO_CHANGE` and `SHUTTING_DOWN`: the codes of a call that was turned away. -/
def turnedAway : OutcomeCode → Bool
  | .accepted | .routed | .deferred | .revalidationRequired | .rerouteRequired
  | .noEligibleCandidate | .fenced | .superseded | .dispatched | .completed | .failed | .cancelled
  | .internalError => false
  | _ => true

theorem not_acceptance {code : OutcomeCode} (h : turnedAway code = true)
    (hne : code ≠ .noChange) : code.isAcceptance = false := by
  cases code with
  | noChange => exact absurd rfl hne
  | _ => first | rfl | cases h

def replyCode : Reply → OutcomeCode
  | .mutation result => result.code
  | .persistence result => result.code
  | .route outcome => outcome.code
  | .dispatch record => record.code

/-- The operations that change the catalog, the evidence, the fences or the life cycle, and the
completions: a call of one of these either takes effect or is turned away. -/
def transactional : Op → Bool
  | .mutation _ | .recordCompletion _ | .start | .load _ => true
  | _ => false

variable {E : Env → Prop} {s t : World} {es : Trace} {now : UnixMillis}

section

variable {α β : Type} {R : World → World → Prop} {p : Operation α} {f : α → β} {b : β}

theorem executes_map (h : Executes E R (f <$> p) s es b t) :
    ∃ a, b = f a ∧ Executes E R p s es a t := by
  obtain ⟨a, u, es₁, es₂, rfl, hp, hf⟩ := executes_bind.mp h
  obtain ⟨rfl, rfl, rfl⟩ := executes_done.mp hf
  rw [List.append_nil]
  exact ⟨a, rfl, hp⟩

end

theorem mutation_executes {m : Mutation} {result : MutationResult}
    (h : Executes E Eq (Lifecycle.mutation m) s es result t) :
    ∃ now, result = m.result now s.state ∧ t = onState s (m.next now) := by
  obtain ⟨e, -, h⟩ := executes_ask.mp h
  obtain ⟨u, es', rfl, -, h⟩ := executes_perform.mp h
  obtain ⟨-, rfl, rfl⟩ := executes_done.mp h
  exact ⟨e.now, rfl, rfl⟩

theorem answer_code (m : Mutation) (now : UnixMillis) (s : CanonicalState) :
    (m.attempt now s).answer.code = .accepted := by
  cases m <;> rfl

theorem refused_of_turnedAway {m : Mutation} {s : CanonicalState}
    (h : turnedAway (m.result now s).code = true) : m.next now s = s := by
  cases hr : (m.attempt now s).refusal with
  | some result => exact (next_of_refused hr).1
  | none =>
      rw [(next_of_taken hr).2, answer_code] at h
      cases h

section

variable {evidence : CapacityEvidence} {detail : CapacityDetail} {c : CanonicalState}

/-- The capacity evidence is the one the registered descriptor already holds. -/
structure AlreadyCurrent (c : CanonicalState) (evidence : CapacityEvidence)
    (detail : CapacityDetail) (backend : BackendDescriptor) : Prop where
  detailBackend : detail.backendId.valid = true → detail.backendId = evidence.backendId
  detailBoot : detail.backendBoot.valid = true → detail.backendBoot = evidence.backendBoot
  backendId : evidence.backendId.valid = true
  backendBoot : evidence.backendBoot.valid = true
  dated : evidence.generation.valid = true
  running : c.shuttingDown = false
  unfenced : c.isFenced evidence.backendId evidence.backendBoot = false
  registered : c.backends.find? evidence.backendId = some backend
  sameBoot : backend.backendBoot = evidence.backendBoot
  sameBackend : evidence.backendGeneration.valid = true →
    evidence.backendGeneration = backend.backendGeneration
  sameGeneration : evidence.generation = backend.capacity.generation
  sameState : backend.capacity.state = evidence.state
  sameExpiry : backend.capacity.expiresAtUnixMillis = evidence.expiresAtUnixMillis

def answersNoChange (refusal : Option MutationResult) : Bool :=
  refusal.any fun result => result.code == .noChange

theorem evidenceRefusal_noChange {backend : BackendDescriptor} :
    answersNoChange (evidenceRefusal capacitySlot evidence backend) = true ↔
      backend.backendBoot = evidence.backendBoot ∧
      (evidence.backendGeneration.valid = true →
        evidence.backendGeneration = backend.backendGeneration) ∧
      backend.capacity.generation.valid = true ∧
      evidence.generation = backend.capacity.generation ∧
      backend.capacity.state = evidence.state ∧
      backend.capacity.expiresAtUnixMillis = evidence.expiresAtUnixMillis := by
  have hlast (condition : Bool) :
      (refuse condition (MutationResult.make .rejectConflict capacitySlot.subject
        "evidence state changed without advancing its generation")).any
          (fun result => result.code == .noChange) = false := by
    cases condition <;> rfl
  simp only [answersNoChange, evidenceRefusal]
  rw [any_guard rfl, any_guard rfl, any_guard rfl, any_pass rfl, hlast]
  simp only [capacitySlot, generationRegressed, Bool.and_eq_true, Bool.not_eq_true',
    bne_eq_false_iff_eq, Bool.or_false, beq_iff_eq, and_assoc]
  constructor
  · rintro ⟨hboot, hbackend, -, hvalid, hgeneration, hstate, hexpiry⟩
    refine ⟨hboot, fun hset => ?_, hvalid, hgeneration, hstate, hexpiry⟩
    simpa [hset] using hbackend
  · rintro ⟨hboot, hbackend, hvalid, hgeneration, hstate, hexpiry⟩
    refine ⟨hboot, ?_, ?_, hvalid, hgeneration, hstate, hexpiry⟩
    · by_cases hset : evidence.backendGeneration.valid = true
      · simp [hbackend hset]
      · simp [hset]
    · simp [hgeneration]

theorem updateCapacity_noChange :
    answersNoChange (updateCapacity c evidence detail).refusal = true ↔
      ∃ backend, AlreadyCurrent c evidence detail backend := by
  simp only [answersNoChange, updateCapacity, applyEvidence, shuttingDownRefusal]
  rw [any_guard rfl, any_guard rfl, any_guard rfl, any_guard rfl, any_guard rfl, any_guard rfl]
  constructor
  · intro h
    simp only [Bool.and_eq_true, Bool.not_eq_true', Bool.or_eq_false_iff] at h
    obtain ⟨hbackend, hboot, ⟨hid, hvalid⟩, hdated, hrunning, hfenced, h⟩ := h
    cases hb : c.backends.find? evidence.backendId with
    | none =>
        rw [hb] at h
        cases h
    | some backend =>
        rw [hb] at h
        obtain ⟨h₁, h₂, -, h₄, h₅, h₆⟩ := evidenceRefusal_noChange.mp h
        refine ⟨backend, ?_, ?_, by simpa using hid, by simpa using hvalid, by simpa using hdated,
          hrunning, hfenced, hb, h₁, h₂, h₄, h₅, h₆⟩
        · intro hset
          simpa [hset] using hbackend
        · intro hset
          simpa [hset] using hboot
  · rintro ⟨backend, h⟩
    have hvalid : backend.capacity.generation.valid = true := h.sameGeneration ▸ h.dated
    have hinner : answersNoChange (evidenceRefusal capacitySlot evidence backend) = true :=
      evidenceRefusal_noChange.mpr
        ⟨h.sameBoot, h.sameBackend, hvalid, h.sameGeneration, h.sameState, h.sameExpiry⟩
    have hbackend := h.detailBackend
    have hboot := h.detailBoot
    rw [h.registered]
    simp only [Bool.and_eq_true, Bool.not_eq_true', Bool.or_eq_false_iff]
    refine ⟨?_, ?_, ⟨by simpa using h.backendId, by simpa using h.backendBoot⟩,
      by simpa using h.dated, h.running, h.unfenced, hinner⟩
    · cases hset : detail.backendId.valid with
      | false => rfl
      | true => simp [hbackend hset]
    · cases hset : detail.backendBoot.valid with
      | false => rfl
      | true => simp [hboot hset]

/-- The second section of `update_capacity` would change the detail of a registered descriptor. -/
def RewritesDetail (c : CanonicalState) (detail : CapacityDetail) : Prop :=
  ∃ existing, c.backends.find? detail.backendId = some existing ∧
    existing.capacityDetail ≠ { detail with generation := existing.capacity.generation }

theorem writeCapacityDetail_eq_iff : writeCapacityDetail c detail = c ↔ ¬RewritesDetail c detail := by
  unfold writeCapacityDetail editBackend RewritesDetail
  cases hb : c.backends.find? detail.backendId with
  | none => simp
  | some existing =>
      simp only [Option.some.injEq, exists_eq_left', not_not]
      constructor
      · intro h
        have hbackends := congrArg (fun u => u.backends.find? detail.backendId) h
        simp only [OrderedMap.find?_insert_self, hb, Option.some.injEq] at hbackends
        exact (congrArg BackendDescriptor.capacityDetail hbackends).symm
      · intro h
        rw [← h, OrderedMap.insert_of_find? hb]

theorem updateCapacity_executes {result : MutationResult}
    (h : Executes E Eq (Lifecycle.updateCapacity evidence detail) s es result t) :
    ∃ now, result = (Mutation.updateCapacity evidence detail).result now s.state ∧
      t = if result.accepted then
          onState s fun c => writeCapacityDetail ((Mutation.updateCapacity evidence detail).next now c) detail
        else onState s ((Mutation.updateCapacity evidence detail).next now) := by
  obtain ⟨r, u, es₁, es₂, rfl, hfirst, h⟩ := executes_bind.mp h
  obtain ⟨now, rfl, rfl⟩ := mutation_executes hfirst
  refine ⟨now, ?_⟩
  split at h
  · rename_i haccepted
    obtain ⟨v, es', rfl, -, h⟩ := executes_perform.mp h
    obtain ⟨-, rfl, rfl⟩ := executes_done.mp h
    refine ⟨rfl, ?_⟩
    rw [if_pos haccepted]
    rfl
  · rename_i hrefused
    obtain ⟨-, rfl, rfl⟩ := executes_done.mp h
    exact ⟨rfl, by rw [if_neg hrefused]⟩

theorem updateCapacity_state_iff {result : MutationResult}
    (h : Executes E Eq (Lifecycle.updateCapacity evidence detail) s es result t) :
    (turnedAway result.code = true → t.state = s.state) ↔
      ¬((∃ backend, AlreadyCurrent s.state evidence detail backend) ∧
        RewritesDetail s.state detail) := by
  obtain ⟨now, rfl, rfl⟩ := updateCapacity_executes h
  rw [← updateCapacity_noChange]
  cases hr : ((Mutation.updateCapacity evidence detail).attempt now s.state).refusal with
  | none =>
      have hnone : (updateCapacity s.state evidence detail).refusal = none := hr
      rw [(next_of_taken hr).2, answer_code, hnone]
      simp [turnedAway, answersNoChange]
  | some r =>
      have hsome : (updateCapacity s.state evidence detail).refusal = some r := hr
      obtain ⟨hnext, hresult⟩ := next_of_refused hr
      have hcode : answersNoChange (some r) = (r.code == .noChange) := rfl
      rw [hresult, hsome, hcode, beq_iff_eq]
      by_cases hsame : r.code = .noChange
      · have haccepted : r.accepted = true := by rw [MutationResult.accepted, hsame]; rfl
        have haway : turnedAway r.code = true := by rw [hsame]; rfl
        rw [if_pos haccepted]
        change (_ → writeCapacityDetail _ detail = s.state) ↔ _
        rw [hnext, writeCapacityDetail_eq_iff]
        simp [← hsame, haway]
      · refine iff_of_true (fun haway => ?_) fun hbad => hsame hbad.1
        rw [MutationResult.accepted, not_acceptance haway hsame]
        exact hnext

end

theorem importPersistentState_executes {persisted : RouterPersistentState} {result : MutationResult}
    (h : Executes E Eq (Lifecycle.importPersistentState persisted) s es result t) :
    (∃ error, persisted.canonicalize.validate s.state.limits = some error ∧
        result = reject .rejectInvalid "load" error ∧ t = s) ∨
      (persisted.canonicalize.validate s.state.limits = none ∧
        result = importResult persisted.canonicalize s ∧
        t = importSection persisted.canonicalize s) := by
  obtain ⟨u, es', rfl, -, h⟩ := executes_perform.mp h
  split at h
  · rename_i error herror
    obtain ⟨-, rfl, rfl⟩ := executes_done.mp h
    exact .inl ⟨error, herror, rfl, rfl⟩
  · rename_i hnone
    obtain ⟨v, es'', rfl, -, h⟩ := executes_perform.mp h
    obtain ⟨-, rfl, rfl⟩ := executes_done.mp h
    exact .inr ⟨hnone, rfl, rfl⟩

theorem importResult_accepted {canonical : RouterPersistentState} {w : World} :
    (importResult canonical w).accepted = !w.state.running := by
  unfold importResult
  cases w.state.running <;> rfl

theorem importPersistentState_rejected {persisted : RouterPersistentState}
    {result : MutationResult}
    (h : Executes E Eq (Lifecycle.importPersistentState persisted) s es result t)
    (hrejected : result.accepted = false) : t = s := by
  rcases importPersistentState_executes h with ⟨-, -, -, rfl⟩ | ⟨-, rfl, rfl⟩
  · rfl
  · rw [importResult_accepted, Bool.not_eq_false'] at hrejected
    rw [importSection, if_pos hrejected]

section

variable {options : ModelRouterOptions} {load : Text → Limits.ResourceLimits → PersistenceLoad}

/-- Surroundings in which the durable store answers with `load`. -/
def Stores (load : Text → Limits.ResourceLimits → PersistenceLoad) (e : Env) : Prop :=
  e.load = load

def foundOnStart (options : ModelRouterOptions)
    (load : Text → Limits.ResourceLimits → PersistenceLoad) (limits : Limits.ResourceLimits) :
    Option PersistenceLoad :=
  if options.loadOnStart && !options.persistencePath.isEmpty then
    some (load options.persistencePath limits)
  else none

/-- A durable state that stops a `start` with a code of a call that was turned away. -/
def stopsStart (limits : Limits.ResourceLimits) (loaded : PersistenceLoad) : Bool :=
  if loaded.ok then (loaded.state.canonicalize.validate limits).isSome
  else !loaded.detail.isEmpty && turnedAway loaded.code

theorem loadOnStart_executes {loaded : Option PersistenceLoad}
    (h : Executes (Stores load) Eq (Lifecycle.loadOnStart options) s es loaded t) :
    t = s ∧ loaded = foundOnStart options load s.state.limits := by
  unfold Lifecycle.loadOnStart at h
  split at h
  · rename_i htold
    obtain ⟨u, es', rfl, -, h⟩ := executes_perform.mp h
    obtain ⟨e, rfl, h⟩ := executes_ask.mp h
    obtain ⟨-, rfl, rfl⟩ := executes_done.mp h
    exact ⟨rfl, (if_pos htold).symm⟩
  · rename_i htold
    obtain ⟨-, rfl, rfl⟩ := executes_done.mp h
    exact ⟨rfl, (if_neg htold).symm⟩

theorem publishRouter_executes {result : MutationResult}
    (h : Executes E Eq Lifecycle.publishRouter s es result t) (hs : s.state.running = false) :
    result.code = .accepted := by
  obtain ⟨e, -, h⟩ := executes_ask.mp h
  obtain ⟨u, es', rfl, -, h⟩ := executes_perform.mp h
  rw [if_neg (by simp [hs])] at h
  obtain ⟨-, rfl, -⟩ := executes_done.mp h
  rfl

theorem importSection_stopped {canonical : RouterPersistentState} (hs : s.state.running = false) :
    (importSection canonical s).state.running = false := by
  rw [importSection, if_neg (by simp [hs])]
  exact (rebuildIndexes_keeps _ CanonicalState.running (fun _ _ => rfl) rfl).trans hs

theorem admitted_executes {loaded : Option PersistenceLoad} {result : MutationResult}
    (h : Executes E Eq (Lifecycle.admitted loaded) s es result t) (hs : s.state.running = false) :
    turnedAway result.code = loaded.any (stopsStart s.state.limits) ∧
      (turnedAway result.code = true → t = s) := by
  cases loaded with
  | none =>
      rw [publishRouter_executes h hs]
      exact ⟨rfl, fun haway => by cases haway⟩
  | some loaded =>
      rw [Option.any_some, stopsStart]
      change Executes E Eq (if loaded.ok then _ else _) s es result t at h
      split at h
      · rename_i hok
        rw [if_pos hok]
        obtain ⟨imported, u, es₁, es₂, rfl, himport, hrest⟩ := executes_bind.mp h
        rcases importPersistentState_executes himport with
          ⟨error, herror, rfl, rfl⟩ | ⟨hnone, rfl, rfl⟩
        · obtain ⟨-, rfl, rfl⟩ := executes_done.mp hrest
          rw [herror]
          exact ⟨rfl, fun _ => rfl⟩
        · rw [importResult_accepted, hs] at hrest
          rw [hnone, publishRouter_executes hrest (importSection_stopped hs)]
          exact ⟨rfl, fun haway => by cases haway⟩
      · rename_i hok
        rw [if_neg hok]
        split at h
        · rename_i hempty
          rw [publishRouter_executes h hs, hempty]
          exact ⟨rfl, fun haway => by cases haway⟩
        · rename_i hdetail
          obtain ⟨-, rfl, rfl⟩ := executes_done.mp h
          refine ⟨?_, fun _ => rfl⟩
          simp [hdetail]

theorem admitStart_eq_iff {c : CanonicalState} :
    admitStart c = c ↔ ¬(c.running = false ∧ c.shuttingDown = true) := by
  by_cases hrunning : c.running = true
  · rw [admitStart, if_pos hrunning]
    simp [hrunning]
  · rw [admitStart, if_neg hrunning]
    constructor
    · rintro h ⟨-, hdown⟩
      have hcleared : false = c.shuttingDown := congrArg CanonicalState.shuttingDown h
      rw [hdown] at hcleared
      cases hcleared
    · intro h
      have hdown : c.shuttingDown = false := by simpa [hrunning] using h
      cases c
      simp only at hdown
      rw [hdown]

theorem start_state_iff {result : MutationResult}
    (h : Executes (Stores load) Eq (Lifecycle.start options) s es result t) :
    (turnedAway result.code = true → t.state = s.state) ↔
      ¬(options.validate = none ∧ s.state.running = false ∧ s.state.shuttingDown = true ∧
        (foundOnStart options load s.state.limits).any (stopsStart s.state.limits) = true) := by
  unfold Lifecycle.start at h
  cases hvalid : options.validate with
  | some error =>
      rw [hvalid] at h
      obtain ⟨-, rfl, rfl⟩ := executes_done.mp h
      simp
  | none =>
      rw [hvalid] at h
      obtain ⟨loaded, u, es₁, es₂, rfl, hload, h⟩ := executes_bind.mp h
      obtain ⟨rfl, rfl⟩ := loadOnStart_executes hload
      obtain ⟨v, es', rfl, -, h⟩ := executes_perform.mp h
      split at h
      · rename_i hrunning
        obtain ⟨-, rfl, rfl⟩ := executes_done.mp h
        have hsame : admitStart u.state = u.state := admitStart_eq_iff.mpr (by simp [hrunning])
        change (_ → admitStart u.state = u.state) ↔ _
        simp [hsame, hrunning]
      · rename_i hrunning
        have hstopped : u.state.running = false := by simpa using hrunning
        have hlimits : (admitStart u.state).limits = u.state.limits := by
          rw [admitStart, if_neg hrunning]
        have hadmitted : (admitStart u.state).running = false := by
          rw [admitStart, if_neg hrunning, hstopped]
        obtain ⟨hcode, hkeep⟩ := admitted_executes h hadmitted
        change turnedAway result.code =
          (foundOnStart options load u.state.limits).any (stopsStart (admitStart u.state).limits) at hcode
        rw [hlimits] at hcode
        rw [← hcode]
        constructor
        · rintro hsame ⟨-, -, hdown, haway⟩
          have hstate : admitStart u.state = u.state := (congrArg World.state (hkeep haway)).symm.trans (hsame haway)
          exact admitStart_eq_iff.mp hstate ⟨hstopped, hdown⟩
        · intro hgood haway
          rw [hkeep haway]
          refine admitStart_eq_iff.mpr fun hbad => hgood ⟨rfl, hstopped, hbad.2, haway⟩

theorem recordCompletion_state {completion : CompletionRecord} {result : MutationResult}
    (h : Executes E Eq (Router.recordCompletion completion) s es result t)
    (haway : turnedAway result.code = true) : t.state = s.state := by
  obtain ⟨u, es', rfl, -, h⟩ := executes_perform.mp h
  obtain ⟨-, rfl, rfl⟩ := executes_done.mp h
  change (Handoff.recordCompletion s.state completion).1 = s.state
  unfold Handoff.recordCompletion at haway ⊢
  cases hcompletable : completable s.state completion with
  | error result => rfl
  | ok entry =>
      rw [hcompletable] at haway
      change turnedAway (completionOutcome completion) = true at haway
      unfold completionOutcome at haway
      split at haway
      · cases haway
      · cases haway

theorem load_state {path : Text} {result : PersistenceResult}
    (h : Executes E Eq (Lifecycle.load path) s es result t)
    (haway : turnedAway result.code = true) : t = s := by
  obtain ⟨u, es', rfl, -, h⟩ := executes_perform.mp h
  obtain ⟨e, -, h⟩ := executes_ask.mp h
  dsimp only at h
  split at h
  · obtain ⟨-, -, rfl⟩ := executes_done.mp h
    rfl
  · rename_i hok
    obtain ⟨imported, v, es₁, es₂, rfl, himport, h⟩ := executes_bind.mp h
    split at h
    · rename_i hrejected
      obtain ⟨-, -, rfl⟩ := executes_done.mp h
      exact importPersistentState_rejected himport (by simpa using hrejected)
    · obtain ⟨-, rfl, rfl⟩ := executes_done.mp h
      have hcode : (e.load path s.state.limits).code = .accepted := by
        simp only [PersistenceLoad.ok, Bool.not_eq_true', Bool.not_eq_false, Bool.and_eq_true,
          beq_iff_eq] at hok
        exact hok.2
      rw [show _ = OutcomeCode.accepted from hcode] at haway
      cases haway

/-- A call that would leave half of its effect behind although it is turned away: an
`update_capacity` with the evidence already held but another detail, and a `start` after a
shutdown that the durable state stops. -/
def leavesTrace (options : ModelRouterOptions)
    (load : Text → Limits.ResourceLimits → PersistenceLoad) (c : CanonicalState) : Op → Prop
  | .mutation (.updateCapacity evidence detail) =>
    (∃ backend, AlreadyCurrent c evidence detail backend) ∧ RewritesDetail c detail
  | .start =>
    options.validate = none ∧ c.running = false ∧ c.shuttingDown = true ∧
      (foundOnStart options load c.limits).any (stopsStart c.limits) = true
  | _ => False

/-- A call that is turned away leaves the whole canonical state as it was exactly when it is not
one of those that leave a trace. -/
theorem turned_away_state_iff {op : Op} {reply : Reply} (hop : transactional op = true)
    (h : Executes (Stores load) Eq (Op.program options op) s es reply t) :
    (turnedAway (replyCode reply) = true → t.state = s.state) ↔
      ¬leavesTrace options load s.state op := by
  cases op with
  | mutation m =>
      cases m with
      | updateCapacity evidence detail =>
          obtain ⟨result, rfl, hrun⟩ := executes_map h
          exact updateCapacity_state_iff hrun
      | _ =>
          obtain ⟨result, rfl, hrun⟩ := executes_map h
          obtain ⟨now, rfl, rfl⟩ := mutation_executes hrun
          exact iff_of_true refused_of_turnedAway not_false
  | start =>
      obtain ⟨result, rfl, hrun⟩ := executes_map h
      exact start_state_iff hrun
  | load path =>
      obtain ⟨result, rfl, hrun⟩ := executes_map h
      exact iff_of_true (fun haway => congrArg World.state (load_state hrun haway)) not_false
  | recordCompletion completion =>
      obtain ⟨result, rfl, hrun⟩ := executes_map h
      exact iff_of_true (recordCompletion_state hrun) not_false
  | _ => cases hop

end

section

def noStore : Text → Limits.ResourceLimits → PersistenceLoad :=
  fun _ _ => {}

def sampleCapacity : CapacityEvidence :=
  sampleEvidence .available ⟨1⟩

def sampleDetail (slots : UInt32) : CapacityDetail where
  backendId := ⟨7⟩
  backendBoot := ⟨1⟩
  availableSlots := slots

def sizedCatalog : List Op :=
  liveCatalog ++ [.mutation (.updateCapacity sampleCapacity (sampleDetail 4))]

def sizedWorld : World :=
  (play sampleOptions sampleEnv sizedCatalog).2.2

/-- What a call of an operation does next. -/
def called (op : Op) : Trace × Reply × World :=
  Program.run Act.apply sampleEnv [] (Op.program sampleOptions op) sizedWorld

theorem called_executes (op : Op) :
    Executes (Stores noStore) Eq (Op.program sampleOptions op) sizedWorld (called op).1
      (called op).2.1 (called op).2.2 := by
  have hexec := Program.run_exec Act.apply sampleEnv (Op.program sampleOptions op) sizedWorld
    (fun _ => rfl) fun g hg => absurd hg (List.not_mem_nil (a := g))
  exact hexec.weaken fun e he => he ▸ rfl

/-- The capacity evidence already held, with no slots left. -/
def exhausted : Op :=
  .mutation (.updateCapacity sampleCapacity (sampleDetail 0))

theorem exhausted_state_iff :
    (turnedAway (replyCode (called exhausted).2.1) = true →
        (called exhausted).2.2.state = sizedWorld.state) ↔
      ¬leavesTrace sampleOptions noStore sizedWorld.state exhausted :=
  turned_away_state_iff rfl (called_executes exhausted)

/-- The same evidence with no slots left is answered `NO_CHANGE` and rewrites the detail. -/
theorem no_change_rewrites_detail :
    ¬∀ (options : ModelRouterOptions) (E : Trace → Env → Prop) (highest : UInt64) (es : Trace)
        (calls : List (Op × Reply)) (s : World), History options E highest es calls s →
      ∀ (load : Text → Limits.ResourceLimits → PersistenceLoad) (op : Op) (ds : Trace)
        (reply : Reply) (t : World), transactional op = true →
        Executes (Stores load) Eq (Op.program options op) s ds reply t →
        turnedAway (replyCode reply) = true → t.state = s.state := by
  intro h
  have hsame := h sampleOptions (constantly sampleEnv) 100 _ _ sizedWorld
    (play_history sampleOptions sampleEnv sizedCatalog) noStore exhausted _ _ _ rfl
    (called_executes exhausted) (by decide +kernel)
  have hslots := congrArg
    (fun c => (c.backends.find? ⟨7⟩).map fun b => b.capacityDetail.availableSlots) hsame
  revert hslots
  decide +kernel

end

end ModelRouter.Transactions
