import ModelRouter.Base.Interleaving
import ModelRouter.MutationFacts

namespace ModelRouter.Run

open Base Bytes Ids Outcome Evidence Catalog Request Mutations Commit Providers Section Router

abbrev Trace := List (Event World Act)

/-- A run of an operation among others that move the world along `R`. -/
abbrev Executes (E : Env → Prop) (R : World → World → Prop) {α : Type} (p : Operation α)
    (s : World) (es : Trace) (a : α) (t : World) : Prop :=
  Program.Exec Act.apply E R p s es a t

section

variable {α β : Type} {E : Env → Prop} {R : World → World → Prop} {s t : World} {es : Trace} {a : α}

theorem executes_done {b : α} : Executes E R (pure b) s es a t ↔ es = [] ∧ a = b ∧ t = s :=
  Program.exec_done

theorem executes_perform {k : Act} {f : World → Operation α} :
    Executes E R (perform k >>= f) s es a t ↔
      ∃ u es', R s u ∧ es = ⟨k, u⟩ :: es' ∧ Executes E R (f u) (k.apply u) es' a t :=
  Program.exec_act

theorem executes_ask {f : Env → Operation α} :
    Executes E R (ask >>= f) s es a t ↔ ∃ e, E e ∧ Executes E R (f e) s es a t :=
  Program.exec_ask

theorem executes_bind {p : Operation β} {f : β → Operation α} :
    Executes E R (p >>= f) s es a t ↔
      ∃ b u es₁ es₂, es = es₁ ++ es₂ ∧ Executes E R p s es₁ b u ∧ Executes E R (f b) u es₂ a t :=
  Program.exec_bind

end

/-- The completed operations of one router, one after another. -/
abbrev History (options : ModelRouterOptions) (E : Trace → Env → Prop) (highest : UInt64)
    (es : Trace) (calls : List (Op × Reply)) (t : World) : Prop :=
  Session (Op.program options) Act.apply E (World.fresh options highest) es calls t

def imports : Act → Bool
  | .importState _ => true
  | _ => false

/-- A run in which no durable state is imported. -/
def LoadFree (es : Trace) : Prop :=
  ∀ e ∈ es, imports e.act = false

instance (es : Trace) : Decidable (LoadFree es) :=
  inferInstanceAs (Decidable (∀ e ∈ es, imports e.act = false))

/-- The world an event leaves. -/
def after (e : Event World Act) : World :=
  e.act.apply e.pre

/-- The sections of a schedule of operations over a fresh router, in the order they ran. -/
def interleaved (options : ModelRouterOptions) (highest : UInt64)
    (schedule : List (Choice Op Env)) : Trace :=
  (Pool.run (Op.program options) Act.apply schedule ⟨World.fresh options highest, []⟩).1

theorem interleaved_chained (options : ModelRouterOptions) (highest : UInt64)
    (schedule : List (Choice Op Env)) :
    ∃ t, Chained Act.apply (World.fresh options highest) (interleaved options highest schedule) t :=
  ⟨_, Pool.run_chained schedule ⟨World.fresh options highest, []⟩⟩

def play (options : ModelRouterOptions) (env : Env) (ops : List Op) :
    Trace × List (Op × Reply) × World :=
  Session.run (Op.program options) Act.apply env ops (World.fresh options 100)

/-- Surroundings that always give the same answers. -/
def constantly (env : Env) : Trace → Env → Prop :=
  fun _ e => e = env

theorem play_history (options : ModelRouterOptions) (env : Env) (ops : List Op) :
    History options (constantly env) 100 (play options env ops).1 (play options env ops).2.1
      (play options env ops).2.2 := by
  have hE : ∀ es, constantly env es env := fun _ => rfl
  exact Session.run_session hE ops _

section

/-! A small catalog: one model, one backend that serves it, one policy and one request. -/

def sampleOptions : ModelRouterOptions where
  routerId := ⟨1⟩

def sampleEnv : Env where
  now := 100

def sampleModel (generation : ModelGeneration) : ModelDescriptor where
  modelId := ⟨1⟩
  modelGeneration := generation
  artifactGeneration := ⟨1⟩
  contextLimitTokens := 8
  maxOutputTokens := 8
  inputModalities := ⟨1⟩
  outputModalities := ⟨1⟩
  lifecycle := .current

def sampleBackend (boot : BackendBootId) (registration : BackendRegistrationGeneration) :
    BackendDescriptor where
  backendId := ⟨7⟩
  backendGeneration := ⟨1⟩
  backendBoot := boot
  backendRegistrationGeneration := registration
  providerId := ⟨3⟩
  providerGeneration := ⟨1⟩
  endpoint :=
    { endpointId := ⟨4⟩
      endpointGeneration := ⟨1⟩
      backendId := ⟨7⟩
      backendBoot := boot
      reference := "local" }
  modelBindings :=
    [{ modelId := ⟨1⟩, modelGeneration := ⟨1⟩, artifactGeneration := ⟨1⟩ }]

def samplePolicy : PolicySnapshot where
  policyId := ⟨5⟩
  generation := ⟨1⟩

def sampleRequest : RouteRequest where
  requestId := ⟨9⟩
  requestGeneration := ⟨1⟩
  tenant := ⟨2⟩
  policyId := ⟨5⟩
  policyGeneration := ⟨1⟩
  requirements :=
    { requiredInputModalities := ⟨1⟩
      requireAvailable := false
      requireHealthy := false
      requireReady := false }

def sampleCatalog : List Op :=
  [.start, .mutation (.registerModel (sampleModel ⟨1⟩)),
    .mutation (.registerBackend (sampleBackend ⟨1⟩ ⟨1⟩)), .mutation (.setPolicy samplePolicy)]

def otherBackend (backendId : BackendId) (modelId : ModelId) (providerId : ProviderId) :
    BackendDescriptor :=
  { sampleBackend ⟨1⟩ ⟨1⟩ with
    backendId := backendId
    providerId := providerId
    endpoint :=
      { endpointId := ⟨4⟩
        endpointGeneration := ⟨1⟩
        backendId := backendId
        backendBoot := ⟨1⟩
        reference := "local" }
    modelBindings :=
      [{ modelId := modelId, modelGeneration := ⟨1⟩, artifactGeneration := ⟨1⟩ }] }

def pairCatalog : List Op :=
  [.start, .mutation (.registerModel (sampleModel ⟨1⟩)),
    .mutation (.registerModel { sampleModel ⟨1⟩ with modelId := ⟨2⟩ }),
    .mutation (.registerBackend (otherBackend ⟨7⟩ ⟨1⟩ ⟨3⟩)),
    .mutation (.registerBackend (otherBackend ⟨8⟩ ⟨2⟩ ⟨4⟩)),
    .mutation (.setPolicy
      { samplePolicy with fallbackPolicy := .permitted, maxFallbackDepth := 2 })]

def sampleEvidence {σ : Type} {t : Tag} (state : σ) (generation : Generation t) :
    BackendEvidence σ t where
  state := state
  generation := generation
  backendId := ⟨7⟩
  backendBoot := ⟨1⟩

def liveCatalog : List Op :=
  sampleCatalog ++
    [.mutation (.updateAvailability (sampleEvidence .available ⟨1⟩)),
      .mutation (.updateHealth (sampleEvidence .healthy ⟨1⟩)),
      .mutation (.updateReadiness (sampleEvidence .ready ⟨1⟩))]

def dispatchingOptions : ModelRouterOptions :=
  { sampleOptions with providers := { dispatcher := true } }

/-- Surroundings whose dispatcher takes every handoff. -/
def dispatchingEnv : Env :=
  { sampleEnv with adapters := { handoff := fun _ _ _ => { code := .dispatched } } }

/-- Whole operations of a schedule, one after another; the first is the `i`-th to begin, and
each takes at most `steps` steps. -/
def inTurn (steps : Nat) (env : Env) (i : Nat) : List Op → List (Choice Op Env)
  | [] => []
  | op :: ops =>
    .start op :: List.replicate steps (.advance i env) ++ inTurn steps env (i + 1) ops

end

end ModelRouter.Run
