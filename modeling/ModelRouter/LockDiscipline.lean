import ModelRouter.Base.Monitor
import ModelRouter.Locks
import ModelRouter.Repertoire

namespace ModelRouter.LockDiscipline

open Base Base.Program Base.Refusal Bytes Ids Outcome Capability Evidence Candidate Request Policy
open Decision Persistence State CatalogMutation EvidenceMutation Mutations Commit Handoff Recovery
open Providers Section Pass Route Dispatch Reroute Lifecycle Router MutationFacts Run Repertoire Locks

variable {α β : Type}

def sectionOf : LockStep → Option Act
  | .inside k => some k
  | _ => none

theorem applyEvidence_identified {σ : Type} [DecidableEq σ] {t : Tag} {slot : EvidenceSlot σ t}
    {s : CanonicalState} {evidence : BackendEvidence σ t}
    (h : (applyEvidence slot s evidence).refusal = none) : identified evidence = true := by
  simp only [applyEvidence, chain_eq_none, refuse_eq_none, Bool.or_eq_false_iff,
    Bool.not_eq_false'] at h
  obtain ⟨⟨hid, hboot⟩, hgeneration, -⟩ := h
  simp only [identified, hid, hboot, hgeneration, Bool.and_self]

theorem checked_of_taken {m : Mutation} {now : UnixMillis} {s : CanonicalState}
    (h : (m.attempt now s).refusal = none) : checked m = true := by
  cases m with
  | unregisterBackend backendId generation => rfl
  | retireModel modelId generation => rfl
  | updateHealth evidence => exact applyEvidence_identified h
  | updateAvailability evidence => exact applyEvidence_identified h
  | updateReadiness evidence => exact applyEvidence_identified h
  | updateResidency evidence => exact applyEvidence_identified h
  | updateCapacity evidence detail =>
      simp only [Mutation.attempt, EvidenceMutation.updateCapacity, chain_eq_none,
        refuse_eq_none] at h
      obtain ⟨hid, hboot, hfirst⟩ := h
      simp only [checked, hid, hboot, applyEvidence_identified hfirst, Bool.not_false,
        Bool.and_self]
  | registerBackend backend =>
      simp only [Mutation.attempt, CatalogMutation.registerBackend, chain_eq_none] at h
      simpa [checked] using h.1
  | setPolicy policy =>
      simp only [Mutation.attempt, EvidenceMutation.setPolicy, chain_eq_none] at h
      simpa [checked] using h.1
  | registerModel model =>
      simp only [Mutation.attempt, CatalogMutation.registerModel, chain_eq_none] at h
      simpa [checked] using h.1
  | registerProvider provider =>
      simp only [Mutation.attempt, CatalogMutation.registerProvider, chain_eq_none] at h
      simpa [checked] using And.intro h.1 h.2.1
  | fenceBackendBoot backendId generation backendBoot reason =>
      simp only [Mutation.attempt, CatalogMutation.fenceBackendBoot, chain_eq_none] at h
      simpa [checked] using h.1
  | publishCapabilities publication =>
      simp only [Mutation.attempt, CatalogMutation.publishCapabilities, chain_eq_none] at h
      simpa [checked] using And.intro h.1 h.2.1
  | updateLatency evidence =>
      simp only [Mutation.attempt, EvidenceMutation.updateLatency, chain_eq_none] at h
      simpa [checked] using h.1
  | setBudget budget =>
      simp only [Mutation.attempt, EvidenceMutation.setBudget, chain_eq_none] at h
      simpa [checked] using h.1
  | setSlo slo =>
      simp only [Mutation.attempt, EvidenceMutation.setSlo, chain_eq_none] at h
      simpa [checked] using h.1
  | setCompatibility evidence =>
      simp only [Mutation.attempt, EvidenceMutation.setCompatibility, chain_eq_none] at h
      simpa [checked] using h.1
  | setTrust evidence =>
      simp only [Mutation.attempt, EvidenceMutation.setTrust, chain_eq_none] at h
      simpa [checked] using h.1
  | setCost evidence =>
      simp only [Mutation.attempt, EvidenceMutation.setCost, chain_eq_none] at h
      have hunit : evidence.knownness = .unknown ∨ evidence.unit.valid = true :=
        or_iff_not_imp_left.mpr fun hknown => by simpa [hknown] using h.2.1
      simpa [checked, hunit, and_assoc] using And.intro h.1 h.2.2.1

theorem unchecked_next {m : Mutation} (h : checked m = false) (now : UnixMillis)
    (s : CanonicalState) : m.next now s = s := by
  cases hrefusal : (m.attempt now s).refusal with
  | some r => exact (next_of_refused hrefusal).1
  | none =>
      rw [checked_of_taken hrefusal] at h
      cases h

def Mutex.guard (m : Mutex) (step : LockStep) : Option Mutex :=
  match step with
  | .inside k => if usual k = some .exclusive → m = .exclusive then m.step step else none
  | _ => m.step step

theorem guard_step (m : Mutex) (step : LockStep) (n : Mutex) (h : Mutex.guard m step = some n) :
    m.step step = some n := by
  cases step with
  | inside k =>
      simp only [Mutex.guard] at h
      split at h
      · exact h
      · cases h
  | _ => exact h

/-- A program that gives the mutex back however it ends, and writes only while it holds it. -/
abbrev Balanced (p : Locked α) : Prop :=
  p.Follows Mutex.guard (fun m _ => m = .free) .free

section

variable {scope : Act → Option Mode} {p : Operation α} {mode : Mode}

theorem bind_balanced {p : Locked α} {f : α → Locked β} (hp : Balanced p)
    (hf : ∀ a, Balanced (f a)) : Balanced (p >>= f) := by
  refine hp.bind fun m a hm => ?_
  subst hm
  exact hf a

theorem map_balanced {p : Locked α} (f : α → β) (hp : Balanced p) : Balanced (f <$> p) :=
  bind_balanced hp fun _ => rfl

theorem ask_balanced {f : Env → Locked α} (h : ∀ e, Balanced (f e)) :
    Balanced (askSurroundings >>= f) :=
  h

theorem goOn_balanced {stop : Stop → α} {x : Except Stop β} {f : β → Locked α}
    (h : ∀ value, Balanced (f value)) : Balanced (goOn stop x f) := by
  cases x with
  | error reason => rfl
  | ok value => exact h value

theorem holding_balanced {mode : Mode} {body : Locked α}
    (h : body.Follows Mutex.guard (fun m _ => m = mode.held) mode.held) :
    Balanced (holding mode body) := by
  refine ⟨mode.held, rfl, fun s => h.bind fun m a hm => ?_⟩
  subst hm
  exact ⟨.free, by cases mode <;> rfl, fun _ => rfl⟩

/-- The scopes a section may have where it is one of its own. -/
def Fits (scope : Act → Option Mode) : Prop :=
  ∀ k, usual k = some .exclusive → scope k = some .exclusive

theorem usual_fits : Fits usual := fun _ h => h

theorem unguarded_fits : Fits unguarded := by
  intro k h
  cases k with
  | observe => cases h
  | _ => exact h

theorem inside_follows {m : Mutex} {k : Act} (h : usual k = some .exclusive → m = .exclusive) :
    (lockStep (.inside k)).Follows Mutex.guard (fun n _ => n = m) m := by
  refine ⟨m, ?_, fun _ => rfl⟩
  rw [Mutex.guard, if_pos h]
  cases m <;> rfl

theorem inScopes_balanced (hfits : Fits scope) (p : Operation α) : Balanced (inScopes scope p) := by
  induction p with
  | done a => rfl
  | act k next ih =>
      rw [inScopes]
      split
      · rename_i mode hscope
        refine bind_balanced (holding_balanced (inside_follows fun hk => ?_)) ih
        obtain rfl := Option.some.inj (hscope.symm.trans (hfits k hk))
        rfl
      · rename_i hscope
        refine (inside_follows (m := .free) fun hk => ?_).bind fun n w hn => ?_
        · cases hscope.symm.trans (hfits k hk)
        · subst hn
          exact ih w
  | ask next ih => exact fun e => ih e

end

section

variable {p : Locked α} {q : Operation α}

theorem bind_erases {f : α → Locked β} {g : α → Operation β} (hp : p.Erases sectionOf q)
    (hf : ∀ a, (f a).Erases sectionOf (g a)) : (p >>= f).Erases sectionOf (q >>= g) :=
  hp.bind hf

theorem map_erases (f : α → β) (hp : p.Erases sectionOf q) :
    (f <$> p).Erases sectionOf (f <$> q) :=
  hp.bind fun _ => rfl

theorem holding_erases (mode : Mode) (hp : p.Erases sectionOf q) :
    (holding mode p).Erases sectionOf q := by
  intro s
  have hbody : (p.bind fun a => (lockStep .release).bind fun _ => .done a).Erases sectionOf
      (q.bind .done) := hp.bind fun a _ => rfl
  rwa [bind_done] at hbody

theorem inside_erases (k : Act) : (lockStep (.inside k)).Erases sectionOf (perform k) :=
  ⟨.done, rfl, fun _ => rfl⟩

theorem inScopes_erases (scope : Act → Option Mode) (p : Operation α) :
    (inScopes scope p).Erases sectionOf p := by
  induction p with
  | done a => rfl
  | act k next ih =>
      rw [inScopes]
      split
      · exact (holding_erases _ (inside_erases k)).bind ih
      · exact ⟨next, rfl, ih⟩
  | ask next ih => exact ⟨next, rfl, ih⟩

end

section

variable (options : ModelRouterOptions)

theorem export_balanced {read : Locked World} {now : UnixMillis}
    (h : read.Follows Mutex.guard (fun m _ => m = .shared) .shared) :
    Balanced (Locks.exportPersistentState read now) :=
  holding_balanced (h.bind fun _ _ hm => hm)

theorem observe_balanced : Balanced (holding .shared (lockStep (.inside .observe))) :=
  holding_balanced (inside_follows fun h => by cases h)

theorem shutDown_balanced (persisted : Bool) : Balanced (shutDown persisted) :=
  holding_balanced ((inside_follows fun _ => rfl).bind fun _ _ hm => hm)

theorem save_balanced (path : Text) : Balanced (Locks.save path) :=
  ask_balanced fun _ => bind_balanced (export_balanced (inside_follows fun h => by cases h))
    fun _ => bind_balanced observe_balanced fun _ => inScopes_balanced usual_fits _

theorem load_balanced (path : Text) : Balanced (Locks.load path) := by
  refine bind_balanced observe_balanced fun w => ask_balanced fun e => ?_
  dsimp only
  split
  · rfl
  · refine bind_balanced (inScopes_balanced unguarded_fits _) fun imported => ?_
    split
    · rfl
    · rfl

theorem tryFallbacks_balanced (id : RouteDecisionId) (request : RouteRequest) (snapshot : Snapshot)
    (governing : Governing) (planned : List CandidateKey) (permitted : UInt32)
    (keys : List CandidateKey) :
    Balanced (Locks.tryFallbacks options id request snapshot governing planned permitted keys) := by
  induction keys with
  | nil => rfl
  | cons key rest ih =>
      refine bind_balanced observe_balanced fun w => ?_
      split
      · exact ih
      · refine bind_balanced (inScopes_balanced usual_fits _) fun evidence => ?_
        refine bind_balanced (inScopes_balanced unguarded_fits _) fun outcome => ?_
        split
        · exact bind_balanced (holding_balanced (inside_follows fun _ => rfl)) fun _ => rfl
        · exact ih

theorem reroute_balanced (id : RouteDecisionId) (failure : FailureClass) (raw : RouteRequest) :
    Balanced (Locks.reroute options id failure raw) := by
  refine bind_balanced (inScopes_balanced usual_fits _) fun request => ask_balanced fun e => ?_
  refine bind_balanced observe_balanced fun w => ?_
  split
  · rfl
  · refine goOn_balanced fun _ => bind_balanced (inScopes_balanced usual_fits _) fun answer => ?_
    refine goOn_balanced fun fetched => goOn_balanced fun _ => ?_
    refine bind_balanced (tryFallbacks_balanced options _ _ _ _ _ _ _) fun fallback => ?_
    split
    · rfl
    · exact inScopes_balanced usual_fits _

theorem call_balanced {call : Call} (h : call ≠ .operation .shutdown) :
    Balanced (call.locked options) := by
  cases call with
  | operation op =>
      refine map_balanced _ ?_
      cases op with
      | start => exact map_balanced _ (inScopes_balanced unguarded_fits _)
      | shutdown => exact absurd rfl h
      | save path => exact map_balanced _ (save_balanced path)
      | load path => exact map_balanced _ (load_balanced path)
      | reroute id failure request => exact map_balanced _ (reroute_balanced options id failure request)
      | _ => exact inScopes_balanced usual_fits _
  | inspection read =>
      refine map_balanced _ ?_
      cases read with
      | snapshot => exact ask_balanced fun _ => observe_balanced
      | checkInvariants => exact ask_balanced fun _ => observe_balanced
      | _ => exact observe_balanced

end

section

variable (options : ModelRouterOptions)

theorem goOn_erases {γ : Type} (stop : Stop → α) (x : Except Stop γ) {f : γ → Locked α}
    {g : γ → Operation α} (h : ∀ value, (f value).Erases sectionOf (g value)) :
    (goOn stop x f).Erases sectionOf (proceed stop x g) := by
  cases x with
  | error reason => rfl
  | ok value => exact h value

theorem ite_erases {condition : Prop} [Decidable condition] {p p' : Locked α} {q q' : Operation α}
    (h : p.Erases sectionOf q) (h' : p'.Erases sectionOf q') :
    (if condition then p else p').Erases sectionOf (if condition then q else q') := by
  split
  · exact h
  · exact h'

theorem ask_erases {f : Env → Locked α} {g : Env → Operation α}
    (h : ∀ e, (f e).Erases sectionOf (g e)) :
    (askSurroundings >>= f).Erases sectionOf (ask >>= g) :=
  ⟨g, rfl, h⟩

theorem perform_erases (mode : Mode) (k : Act) {f : World → Locked α} {g : World → Operation α}
    (h : ∀ w, (f w).Erases sectionOf (g w)) :
    (holding mode (lockStep (.inside k)) >>= f).Erases sectionOf (perform k >>= g) :=
  bind_erases (holding_erases mode (inside_erases k)) h

theorem save_erases (path : Text) : (Locks.save path).Erases sectionOf (Lifecycle.save path) := by
  refine ask_erases fun e => ?_
  have hexport : (Locks.exportPersistentState (lockStep (.inside .observe)) e.now).Erases sectionOf
      (perform .observe >>= fun w => pure (Recovery.exportPersistentState w e.now)) :=
    holding_erases .shared (bind_erases (inside_erases .observe) fun _ => rfl)
  exact bind_erases hexport fun persisted => perform_erases .shared .observe fun u =>
    inScopes_erases usual _

theorem load_erases (path : Text) : (Locks.load path).Erases sectionOf (Lifecycle.load path) :=
  perform_erases .shared .observe fun _ => ask_erases fun _ => ite_erases rfl
    (bind_erases (inScopes_erases unguarded _) fun _ => ite_erases rfl rfl)

theorem shutDown_erases (persisted : Bool) : (shutDown persisted).Erases sectionOf
    (perform .observe >>= fun u => pure (shutdownResult u.state persisted)) :=
  holding_erases .exclusive (bind_erases (inside_erases .observe) fun _ => rfl)

/-- What the first scope of `shutdown` leaves to do, from the state it found. -/
def stopped (now : UnixMillis) (w : World) : Option (World × Option RouterPersistentState) :=
  if !w.state.running && !w.state.shuttingDown then none
  else if options.saveOnShutdown && !options.persistencePath.isEmpty then
    some (w, some (shutdownImage w now))
  else some (w, none)

theorem stopRouting_erases (now : UnixMillis) : (stopRouting options now).Erases sectionOf
    (perform .beginShutdown >>= fun w => pure (stopped options now w)) := by
  refine holding_erases .exclusive (bind_erases (inside_erases .beginShutdown) fun w => ?_)
  rw [stopped]
  split
  · rfl
  · split
    · exact fun _ _ => rfl
    · rfl

def finishShutdown : Option (World × Option RouterPersistentState) → Operation MutationResult
  | none => return .make .noChange "shutdown" "router is not running"
  | some (_, none) => do
    let u ← perform .observe
    return shutdownResult u.state false
  | some (w, some persisted) => do
    let saved ← writeState persisted options.persistencePath w.state.limits
    if !saved.ok then
      return reject .internalError "shutdown"
        (text "durable state could not be saved: " ++ saved.detail)
    else do
      let u ← perform .observe
      return shutdownResult u.state true

theorem shutdown_eq : Lifecycle.shutdown options = ask >>= fun e =>
    (perform .beginShutdown >>= fun w => pure (stopped options e.now w)) >>= finishShutdown options := by
  refine congrArg Program.ask (funext fun e => congrArg (Program.act Act.beginShutdown) ?_)
  funext w
  change (if _ then _ else _) = finishShutdown options (stopped options e.now w)
  rw [stopped]
  split
  · rfl
  · split
    · rfl
    · rfl

theorem shutdown_erases : (Locks.shutdown options).Erases sectionOf (Lifecycle.shutdown options) := by
  rw [shutdown_eq]
  refine ask_erases fun e => bind_erases (stopRouting_erases options e.now) fun found => ?_
  match found with
  | none => rfl
  | some (_, none) => exact shutDown_erases false
  | some (w, some persisted) =>
      exact bind_erases (inScopes_erases usual _) fun saved => ite_erases rfl (shutDown_erases true)

theorem tryFallbacks_erases (id : RouteDecisionId) (request : RouteRequest) (snapshot : Snapshot)
    (governing : Governing) (planned : List CandidateKey) (permitted : UInt32)
    (keys : List CandidateKey) :
    (Locks.tryFallbacks options id request snapshot governing planned permitted keys).Erases sectionOf
      (Reroute.tryFallbacks options id request snapshot governing planned permitted keys) := by
  induction keys with
  | nil => rfl
  | cons key rest ih =>
      refine perform_erases .shared .observe fun w => ?_
      cases (catalogCandidate w.state key.modelId key.backendId).filter (·.key = key) with
      | none => exact ih
      | some candidate =>
          refine bind_erases (inScopes_erases usual _) fun evidence => ?_
          refine bind_erases (inScopes_erases unguarded _) fun outcome => ?_
          exact ite_erases (perform_erases .exclusive _ fun _ => rfl) ih

theorem reroute_erases (id : RouteDecisionId) (failure : FailureClass) (raw : RouteRequest) :
    (Locks.reroute options id failure raw).Erases sectionOf
      (Reroute.reroute options id failure raw) := by
  refine bind_erases (inScopes_erases usual _) fun request => ask_erases fun e => ?_
  refine perform_erases .shared .observe fun w => ?_
  cases w.state.routes.find? id with
  | none => rfl
  | some stored =>
      refine goOn_erases _ _ fun _ => bind_erases (inScopes_erases usual _) fun answer => ?_
      refine goOn_erases _ _ fun fetched => goOn_erases _ _ fun _ => ?_
      refine bind_erases (tryFallbacks_erases options _ _ _ _ _ _ _) fun fallback => ?_
      cases fallback with
      | some outcome => rfl
      | none => exact inScopes_erases usual _

theorem operation_erases (op : Op) :
    (Locks.operation options op).Erases sectionOf (op.program options) := by
  cases op with
  | start => exact map_erases _ (inScopes_erases unguarded _)
  | shutdown => exact map_erases _ (shutdown_erases options)
  | save path => exact map_erases _ (save_erases path)
  | load path => exact map_erases _ (load_erases path)
  | reroute id failure request => exact map_erases _ (reroute_erases options id failure request)
  | _ => exact inScopes_erases usual _

end

theorem operation_sections {options : ModelRouterOptions} {E : Env → Prop}
    {R : World → World → Prop} [IsTrans World R] [Std.Refl R] {op : Op} {s t : World}
    {es : List (Event World LockStep)} {reply : Reply}
    (h : Exec LockStep.apply E R (Locks.operation options op) s es reply t) :
    ∃ ds u, Executes E R (op.program options) s ds reply u ∧ R u t ∧
      ds.map Event.act = es.filterMap fun e => sectionOf e.act := by
  refine Erases.exec (fun step hstep w => ?_) (fun step k hstep w => ?_) h
    (operation_erases options op)
  · cases step with
    | inside k => cases hstep
    | _ => rfl
  · cases step with
    | inside j =>
        obtain rfl := Option.some.inj hstep
        rfl
    | _ => cases hstep

section

variable {options : ModelRouterOptions} {E : Env → Prop} {R : World → World → Prop} {s t : World}

/-- A state in which `shutdown` exports before it leaves its first scope. -/
def saves (options : ModelRouterOptions) (w : World) : Prop :=
  options.saveOnShutdown = true ∧ options.persistencePath ≠ [] ∧
    (w.state.running = true ∨ w.state.shuttingDown = true)

/-- What a call does with the mutex, but for the first section of `shutdown`. -/
def Later (step : LockStep) : Prop :=
  step ≠ .inside .beginShutdown

theorem inScopes_later (scope : Act → Option Mode) {I : World → Prop} {p : Operation α}
    (hp : p.Only I E fun k => k ≠ .beginShutdown) : (inScopes scope p).Only I E Later := by
  have hinside {k : Act} (hk : k ≠ .beginShutdown) : Later (.inside k) :=
    fun heq => hk (LockStep.inside.inj heq)
  induction p with
  | done a => trivial
  | act k next ih =>
      rw [inScopes]
      split
      · refine ⟨nofun, fun _ _ => ⟨hinside hp.1, fun w hw => ⟨nofun, fun _ _ => ?_⟩⟩⟩
        exact ih w (hp.2 w hw)
      · exact ⟨hinside hp.1, fun w hw => ih w (hp.2 w hw)⟩
  | ask next ih => exact fun e he => ih e (hp e he)

theorem shutDown_later (persisted : Bool) {I : World → Prop} :
    (shutDown persisted).Only I E Later :=
  ⟨nofun, fun _ _ => ⟨nofun, fun _ _ => ⟨nofun, fun _ _ => trivial⟩⟩⟩

def leaveShutdown (options : ModelRouterOptions) :
    Option (World × Option RouterPersistentState) → Locked MutationResult
  | none => return .make .noChange "shutdown" "router is not running"
  | some (_, none) => shutDown false
  | some (w, some persisted) => do
    let saved ← inScopes usual (writeState persisted options.persistencePath w.state.limits)
    if !saved.ok then
      return reject .internalError "shutdown"
        (text "durable state could not be saved: " ++ saved.detail)
    else shutDown true

theorem shutdown_scopes (options : ModelRouterOptions) : Locks.shutdown options =
    askSurroundings >>= fun e => stopRouting options e.now >>= leaveShutdown options := by
  refine congrArg Program.ask (funext fun e => ?_)
  refine congrArg (Program.bind (stopRouting options e.now)) (funext fun found => ?_)
  match found with
  | none => rfl
  | some (_, none) => rfl
  | some (_, some _) => rfl

theorem leaveShutdown_balanced (found : Option (World × Option RouterPersistentState)) :
    Balanced (leaveShutdown options found) := by
  match found with
  | none => rfl
  | some (_, none) => exact shutDown_balanced false
  | some (w, some persisted) =>
      refine bind_balanced (inScopes_balanced usual_fits _) fun saved => ?_
      split
      · rfl
      · exact shutDown_balanced true

theorem leaveShutdown_later (found : Option (World × Option RouterPersistentState))
    {I : World → Prop} : (leaveShutdown options found).Only I E Later := by
  match found with
  | none => trivial
  | some (_, none) => exact shutDown_later false
  | some (w, some persisted) =>
      have hwrite : (writeState persisted options.persistencePath w.state.limits).Only I E
          fun k => k ≠ .beginShutdown := writeState_only _ nofun
      refine (inScopes_later usual hwrite).bind fun saved => ?_
      split
      · trivial
      · exact shutDown_later true

/-- What a call does with the mutex. -/
abbrev LockTrace := List (Event World LockStep)

theorem stopRouting_executes {now : UnixMillis} {es : LockTrace}
    {a : Option (World × Option RouterPersistentState)}
    (h : Exec LockStep.apply E R (stopRouting options now) s es a t) :
    ∃ u w rest, es = ⟨.acquire .exclusive, u⟩ :: ⟨.inside .beginShutdown, w⟩ :: rest ∧
      (∀ e ∈ rest, Later e.act) ∧
      ((saves options w ∧ ∃ ks, rest.map Event.act = .acquire .shared :: ks) ∨
        (¬saves options w ∧ rest.map Event.act = [.release])) := by
  obtain ⟨u, es₁, -, rfl, hbody⟩ := exec_act.mp h
  obtain ⟨w, es₂, -, rfl, hinside⟩ := exec_act.mp hbody
  refine ⟨u, w, es₂, rfl, ?_⟩
  have hleaves {found a : Option (World × Option RouterPersistentState)} {v x : World}
      {ds : LockTrace}
      (hend : Exec LockStep.apply E R
        (lockStep .release >>= fun _ => (pure found : Locked _)) v ds a x) :
      ds.map Event.act = [.release] := by
    obtain ⟨y, ds', -, rfl, hdone⟩ := exec_act.mp hend
    obtain ⟨rfl, -, -⟩ := exec_done.mp hdone
    rfl
  have hlater {ds : LockTrace} {ks : List LockStep} (hks : ds.map Event.act = ks)
      (h : ∀ k ∈ ks, Later k) : ∀ e ∈ ds, Later e.act :=
    fun e he => h e.act (hks ▸ List.mem_map_of_mem he)
  change Exec LockStep.apply E R (Program.bind (if _ then _ else _) _) _ es₂ a t at hinside
  by_cases hidle : (!w.state.running && !w.state.shuttingDown) = true
  · rw [if_pos hidle] at hinside
    have hacts := hleaves hinside
    refine ⟨hlater hacts (by simp [Later]), .inr ⟨?_, hacts⟩⟩
    rintro ⟨-, -, hrunning⟩
    simp only [Bool.and_eq_true, Bool.not_eq_true'] at hidle
    rcases hrunning with hrunning | hshut
    · exact Bool.false_ne_true (hidle.1.symm.trans hrunning)
    · exact Bool.false_ne_true (hidle.2.symm.trans hshut)
  · rw [if_neg hidle] at hinside
    by_cases hsave : (options.saveOnShutdown && !options.persistencePath.isEmpty) = true
    · rw [if_pos hsave] at hinside
      obtain ⟨v, ds, -, rfl, hexport⟩ := exec_act.mp hinside
      obtain ⟨x, ds', -, rfl, hrelease⟩ := exec_act.mp hexport
      have hacts : ds'.map Event.act = [.release] := hleaves hrelease
      refine ⟨hlater (?_ : _ = [.acquire .shared, .release, .release]) (by simp [Later]),
        .inl ⟨?_, [.release, .release], ?_⟩⟩
      · rw [List.map_cons, List.map_cons, hacts]
      · simp only [Bool.and_eq_true, Bool.not_eq_true', List.isEmpty_eq_false_iff] at hsave
        simp only [Bool.and_eq_true, Bool.not_eq_true', not_and_or, Bool.not_eq_false] at hidle
        exact ⟨hsave.1, hsave.2, hidle⟩
      · rw [List.map_cons, List.map_cons, hacts]
    · rw [if_neg hsave] at hinside
      have hacts := hleaves hinside
      refine ⟨hlater hacts (by simp [Later]), .inr ⟨?_, hacts⟩⟩
      rintro ⟨hflag, hpath, -⟩
      refine hsave ?_
      simp [hflag, hpath]

theorem map_exec {p : Locked α} {f : α → β} {es : LockTrace} {b : β}
    (h : Exec LockStep.apply E R (f <$> p) s es b t) :
    ∃ a, Exec LockStep.apply E R p s es a t := by
  obtain ⟨a, u, es₁, es₂, rfl, hrun, hdone⟩ := exec_bind.mp h
  obtain ⟨rfl, -, rfl⟩ := exec_done.mp hdone
  rw [List.append_nil]
  exact ⟨a, hrun⟩

theorem Balanced.disciplined {p : Locked α} {es : LockTrace} {a : α} (hp : Balanced p)
    (h : Exec LockStep.apply E R p s es a t) :
    follow Mutex.step .free (es.map Event.act) = some .free := by
  obtain ⟨m, hm, rfl⟩ := hp.exec h
  exact follow_coarser guard_step hm

theorem shutdown_disciplined_iff {es : LockTrace} {a : MutationResult}
    (h : Exec LockStep.apply E R (Locks.shutdown options) s es a t) :
    follow Mutex.step .free (es.map Event.act) = some .free ↔
      ∀ e ∈ es, e.act = .inside .beginShutdown → ¬saves options e.pre := by
  rw [shutdown_scopes] at h
  obtain ⟨env, -, hasked⟩ := exec_ask.mp h
  change Exec LockStep.apply E R (stopRouting options env.now >>= leaveShutdown options) s es a t
    at hasked
  obtain ⟨found, v, es₁, es₂, rfl, hfirst, hrest⟩ := exec_bind.mp hasked
  obtain ⟨u, w, rest, rfl, hlater, hcases⟩ := stopRouting_executes hfirst
  have hleave : follow Mutex.step .free (es₂.map Event.act) = some .free :=
    (leaveShutdown_balanced found).disciplined hrest
  have honly : ∀ e ∈ es₂, Later e.act :=
    hrest.only (leaveShutdown_later (I := fun _ => True) found) fun _ _ => trivial
  rw [List.map_append, follow_append]
  rcases hcases with ⟨hsaves, ks, hks⟩ | ⟨hidle, hks⟩
  · rw [List.map_cons, List.map_cons, hks]
    constructor
    · exact nofun
    · intro hnone
      exact absurd hsaves (hnone ⟨.inside .beginShutdown, w⟩ (by simp) rfl)
  · rw [List.map_cons, List.map_cons, hks]
    refine ⟨fun _ e he hact => ?_, fun _ => hleave⟩
    simp only [List.cons_append, List.mem_cons, List.mem_append] at he
    rcases he with rfl | rfl | he | he
    · cases hact
    · exact hidle
    · exact absurd hact (hlater e he)
    · exact absurd hact (honly e he)

/-- A call never waits for a mutex it holds and gives it back on every path, except that a
`shutdown` that has something to save waits for itself. -/
theorem call_disciplined_iff {call : Call} {es : LockTrace} {answer : Answer}
    (h : Exec LockStep.apply E R (call.locked options) s es answer t) :
    follow Mutex.step .free (es.map Event.act) = some .free ↔
      (call = .operation .shutdown →
        ∀ e ∈ es, e.act = .inside .beginShutdown → ¬saves options e.pre) := by
  by_cases hcall : call = .operation .shutdown
  · subst hcall
    obtain ⟨reply, hreply⟩ := map_exec h
    obtain ⟨result, hshutdown⟩ := map_exec hreply
    rw [shutdown_disciplined_iff hshutdown]
    exact ⟨fun hnone _ => hnone, fun hnone => hnone rfl⟩
  · exact ⟨fun _ heq => absurd heq hcall, fun _ => (call_balanced options hcall).disciplined h⟩

section

def savingOptions : ModelRouterOptions :=
  { sampleOptions with persistencePath := "a", saveOnShutdown := true }

/-- A call run alone, after a start of the router. -/
def callStarted (options : ModelRouterOptions) (call : Call) : LockTrace × Answer × World :=
  Program.run LockStep.apply sampleEnv [] (call.locked options)
    (play options sampleEnv [.start]).2.2

theorem callStarted_exec (options : ModelRouterOptions) (call : Call) :
    Exec LockStep.apply (· = sampleEnv) Eq (call.locked options)
      (play options sampleEnv [.start]).2.2 (callStarted options call).1
        (callStarted options call).2.1 (callStarted options call).2.2 :=
  Program.run_exec LockStep.apply sampleEnv _ _ (fun _ => rfl) (by simp)

theorem sampleShutdown_disciplined_iff :
    follow Mutex.step .free ((callStarted sampleOptions (.operation .shutdown)).1.map Event.act) =
        some .free ↔
      (Call.operation .shutdown = .operation .shutdown →
        ∀ e ∈ (callStarted sampleOptions (.operation .shutdown)).1,
          e.act = .inside .beginShutdown → ¬saves sampleOptions e.pre) :=
  call_disciplined_iff (callStarted_exec sampleOptions (.operation .shutdown))

theorem shutdown_waits_for_itself :
    ¬∀ (options : ModelRouterOptions) (call : Call) (E : Env → Prop) (F : Trace → Env → Prop)
        (highest : UInt64) (es : Trace) (calls : List (Op × Reply)) (ls : LockTrace)
        (answer : Answer) (s t : World),
      options.validate = none → History options F highest es calls s →
      Exec LockStep.apply E Eq (call.locked options) s ls answer t →
      follow Mutex.step .free (ls.map Event.act) = some .free := by
  intro h
  have hfollow := h savingOptions (.operation .shutdown) _ _ 100 _ _ _ _ _ _
    (by decide +kernel) (play_history savingOptions sampleEnv [.start])
    (callStarted_exec savingOptions (.operation .shutdown))
  have hblocks : follow Mutex.step .free
      ((callStarted savingOptions (.operation .shutdown)).1.map Event.act) = none := by
    rfl
  rw [hblocks] at hfollow
  cases hfollow

end

end

end ModelRouter.LockDiscipline
