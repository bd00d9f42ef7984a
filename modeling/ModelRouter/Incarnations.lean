import ModelRouter.Acceptance
import ModelRouter.Fencing

namespace ModelRouter.Incarnations

open Base Base.Refusal Bytes Ids Outcome Capability Evidence Catalog Persistence State
open CatalogMutation EvidenceMutation Mutations Commit Providers Section Router Effects
open MutationFacts Acceptance Run

variable {s t : CanonicalState} {m : Mutation} {now : UnixMillis} {key : FenceKey}

theorem bootOf_eq (s : CanonicalState) (id : BackendId) :
    bootOf s id = (incarnationOf s id).map FenceKey.backendBoot := by
  rw [bootOf, incarnationOf, Option.map_map]
  rfl

/-- A registration that the checks of `register_backend` let through: a valid descriptor, not
fenced, within the limit and the watermark, with a registration generation that advanced. -/
def Registrable (s : CanonicalState) (raw : BackendDescriptor) : Prop :=
  raw.canonicalize.validate = none ∧ s.shuttingDown = false ∧
    s.isFenced raw.backendId raw.backendBoot = false ∧
    (s.backends.size < s.limits.maxBackends.toNat ∨ s.backends.contains raw.backendId = true) ∧
    (∀ seen, s.backendGenerationWatermark.find? raw.backendId = some seen →
      generationRegressed raw.backendGeneration seen = false) ∧
    ∀ existing, s.backends.find? raw.backendId = some existing →
      existing.backendRegistrationGeneration < raw.backendRegistrationGeneration

theorem registrable_iff {raw : BackendDescriptor} :
    (registerBackend s raw).refusal = none ↔ Registrable s raw := by
  have hid : raw.canonicalize.backendId = raw.backendId := rfl
  have hboot : raw.canonicalize.backendBoot = raw.backendBoot := rfl
  have hgeneration : raw.canonicalize.backendGeneration = raw.backendGeneration := rfl
  have hregistration :
    raw.canonicalize.backendRegistrationGeneration = raw.backendRegistrationGeneration := rfl
  simp only [registerBackend, chain_eq_none, refuse_eq_none, shuttingDownRefusal, Registrable,
    Option.map_eq_none_iff, hid, hboot, hgeneration, hregistration, Option.any_eq_false,
    Bool.and_eq_false_iff, decide_eq_false_iff_not, not_le, Bool.not_eq_false', ge_iff_le]

/-- An accepted registration that took the place of the registered incarnation `key`. -/
def replaces (key : FenceKey) (e : Event World Act) : Prop :=
  bootOf e.pre.state key.backendId = some key.backendBoot ∧
    ∃ raw now, e.act = .mutate (.registerBackend raw) now ∧ raw.backendId = key.backendId ∧
      raw.backendBoot ≠ key.backendBoot ∧
      Accepts ((Mutation.registerBackend raw).result now e.pre.state)

/-- Nothing that names the incarnation is accepted. -/
def Silenced (key : FenceKey) (es : Trace) : Prop :=
  ∀ e ∈ es, ∀ m now, e.act = .mutate m now → names m = some key →
    ¬Accepts (m.result now e.pre.state)

/-- A registration under the incarnation that every check lets through. -/
def reenters (key : FenceKey) (e : Event World Act) : Prop :=
  ∃ raw now, e.act = .mutate (.registerBackend raw) now ∧ fenceKey raw = key ∧
    Registrable e.pre.state raw

theorem registerBackend_bootOf {raw : BackendDescriptor}
    (h : (registerBackend s raw).refusal = none) (id : BackendId) :
    bootOf ((Mutation.registerBackend raw).next now s) id =
      if raw.backendId = id then some raw.backendBoot else bootOf s id := by
  have hnext : (Mutation.registerBackend raw).next now s =
      ((Mutation.registerBackend raw).attempt now s).written now :=
    (next_of_taken (m := .registerBackend raw) h).1
  rw [hnext, bootOf_eq, (Fencing.written_incarnations _ now).2 id]
  rw [Mutation.attempt, (Fencing.registerBackend_taken h).2.2 id, bootOf_eq]
  split <;> rfl

theorem next_bootOf (hm : registers m = false) (id : BackendId) :
    bootOf (m.next now s) id = bootOf s id ∨ bootOf (m.next now s) id = none := by
  rw [bootOf_eq, bootOf_eq]
  cases hmoves : movesIncarnation m with
  | false => exact .inl (by rw [(next_incarnations hmoves).2 id])
  | true =>
      rcases next_cases m now s with h | ⟨htaken, h⟩
      · exact .inl (by rw [h])
      · rw [h, (Fencing.written_incarnations _ now).2 id]
        have hgone : incarnationOf (m.attempt now s).edited id = incarnationOf s id ∨
            incarnationOf (m.attempt now s).edited id = none := by
          cases m with
          | registerBackend raw => cases hm
          | unregisterBackend j generation =>
              obtain ⟨b, -, hf⟩ := Fencing.unregisterBackend_taken htaken
              exact hf.incarnations id
          | fenceBackendBoot j generation boot reason =>
              exact (Fencing.fenceBackendBoot_taken j generation boot reason).incarnations id
          | _ => cases hmoves
        rcases hgone with h | h
        · exact .inl (by rw [h])
        · exact .inr (by rw [h]; rfl)

theorem event_bootOf {e : Event World Act} (hload : imports e.act = false)
    (hs : bootOf e.pre.state key.backendId ≠ some key.backendBoot) (hn : ¬reenters key e) :
    bootOf (after e).state key.backendId ≠ some key.backendBoot := by
  obtain ⟨k, w⟩ := e
  cases hkeep : keepsHoldings k with
  | true =>
      have hsame := SameIncarnations.of_holdings (apply_holdings hkeep w)
      rw [bootOf_eq] at hs ⊢
      rwa [after, hsame.2]
  | false =>
      cases k with
      | mutate m now =>
          cases hm : registers m with
          | false =>
              change bootOf (m.next now w.state) _ ≠ _
              rcases next_bootOf hm key.backendId with h | h
              · rwa [h]
              · rw [h]
                simp
          | true =>
              cases m with
              | registerBackend raw =>
                  cases hr : (registerBackend w.state raw).refusal with
                  | some r =>
                      have hnext : (Mutation.registerBackend raw).next now w.state = w.state :=
                        (next_of_refused (m := .registerBackend raw) hr).1
                      change bootOf ((Mutation.registerBackend raw).next now w.state) _ ≠ _
                      rwa [hnext]
                  | none =>
                      change bootOf ((Mutation.registerBackend raw).next now w.state) _ ≠ _
                      rw [registerBackend_bootOf hr]
                      split
                      · rename_i hid
                        intro hboot
                        refine hn ⟨raw, now, rfl, ?_, registrable_iff.mp hr⟩
                        rw [fenceKey, hid, Option.some.inj hboot]
                      · exact hs
              | _ => cases hm
      | writeCapacityDetail detail =>
          have hsame : SameIncarnations w.state (writeCapacityDetail w.state detail) :=
            editBackend_incarnations w.state detail.backendId fun _ => rfl
          rw [bootOf_eq] at hs ⊢
          change (incarnationOf (writeCapacityDetail w.state detail) _).map _ ≠ _
          rwa [hsame.2]
      | importState canonical => cases hload
      | _ => cases hkeep

theorem replaces_bootOf {e : Event World Act} (h : replaces key e) :
    bootOf (after e).state key.backendId ≠ some key.backendBoot := by
  obtain ⟨k, w⟩ := e
  obtain ⟨-, raw, now, rfl, hid, hboot, haccepted⟩ := h
  have htaken := registerBackend_answers (answers_of_accepted haccepted)
  change bootOf ((Mutation.registerBackend raw).next now w.state) _ ≠ _
  rw [registerBackend_bootOf htaken, if_pos hid]
  exact fun heq => hboot (Option.some.inj heq)

/-- A replaced incarnation stays silenced exactly as long as no registration under it passes the
checks of `register_backend`. -/
theorem history_silenced_iff {options : ModelRouterOptions} {E : Trace → Env → Prop}
    {highest : UInt64} {before later : Trace} {e : Event World Act} {calls : List (Op × Reply)}
    {t : World} (h : History options E highest (before ++ e :: later) calls t)
    (hreplaced : replaces key e) (hload : LoadFree later) :
    Silenced key later ↔ ∀ e' ∈ later, ¬reenters key e' := by
  constructor
  · rintro hs e' he' ⟨raw, now, hact, hkey, hregistrable⟩
    refine hs e' he' (.registerBackend raw) now hact (congrArg some hkey) ?_
    have htaken : ((Mutation.registerBackend raw).attempt now e'.pre.state).refusal = none :=
      registrable_iff.mpr hregistrable
    rw [(next_of_taken htaken).2]
    rfl
  · intro hn e' he' m now hact hnames haccepted
    obtain ⟨u, -, hafter⟩ := h.chained.of_append
    have hlater : Chained Act.apply (after e) later t := by
      cases hafter with
      | cons hlater => exact hlater
    have hboot : ∀ e' ∈ later, bootOf e'.pre.state key.backendId ≠ some key.backendBoot :=
      hlater.invariant_pre (I := fun w => bootOf w.state key.backendId ≠ some key.backendBoot)
        (replaces_bootOf hreplaced) fun e' he' hpre =>
          event_bootOf (hload e' he') hpre (hn e' he')
    have hfound := accepted_names hnames haccepted
    cases hm : registers m with
    | false =>
        rw [hm] at hfound
        exact hboot e' he' hfound.2
    | true =>
        rw [hm] at hfound
        cases m with
        | registerBackend raw =>
            exact hn e' he' ⟨raw, now, hact, Option.some.inj hnames, registrable_iff.mp hfound.2⟩
        | _ => cases hm

section

def firstIncarnation : Trace × List (Op × Reply) × World :=
  play sampleOptions sampleEnv
    [.start, .mutation (.registerBackend (sampleBackend ⟨1⟩ ⟨1⟩))]

def replacement : Event World Act :=
  ⟨.mutate (.registerBackend (sampleBackend ⟨2⟩ ⟨2⟩)) 100, firstIncarnation.2.2⟩

/-- The first incarnation registers again under a higher registration generation. -/
def comeback : Event World Act :=
  ⟨.mutate (.registerBackend (sampleBackend ⟨1⟩ ⟨3⟩)) 100, after replacement⟩

theorem firstIncarnation_history : History sampleOptions (constantly sampleEnv) 100
    firstIncarnation.1 firstIncarnation.2.1 firstIncarnation.2.2 :=
  play_history _ _ _

theorem replacement_replaces : replaces ⟨⟨7⟩, ⟨1⟩⟩ replacement := by
  refine ⟨by decide +kernel, sampleBackend ⟨2⟩ ⟨2⟩, 100, rfl, rfl, by decide, by decide +kernel⟩

theorem comeback_history : ∃ calls, History sampleOptions (constantly sampleEnv) 100
    (firstIncarnation.1 ++ replacement :: [comeback]) calls (after comeback) :=
  ⟨_, firstIncarnation_history.run_append (fun _ => rfl)
    [.mutation (.registerBackend (sampleBackend ⟨2⟩ ⟨2⟩)),
      .mutation (.registerBackend (sampleBackend ⟨1⟩ ⟨3⟩))]⟩

theorem comeback_silenced_iff :
    Silenced ⟨⟨7⟩, ⟨1⟩⟩ [comeback] ↔ ∀ e' ∈ [comeback], ¬reenters ⟨⟨7⟩, ⟨1⟩⟩ e' :=
  history_silenced_iff comeback_history.choose_spec replacement_replaces (by decide)

theorem replaced_incarnation_returns :
    ¬∀ (options : ModelRouterOptions) (E : Trace → Env → Prop) (highest : UInt64)
        (before later : Trace) (e : Event World Act) (calls : List (Op × Reply)) (t : World)
        (key : FenceKey),
      History options E highest (before ++ e :: later) calls t → replaces key e →
        LoadFree later → Silenced key later := by
  intro h
  have hsilenced := h _ _ _ _ _ _ _ _ ⟨⟨7⟩, ⟨1⟩⟩ comeback_history.choose_spec replacement_replaces
    (by decide)
  refine hsilenced comeback (by simp) _ _ rfl rfl ?_
  decide +kernel

end

end ModelRouter.Incarnations
