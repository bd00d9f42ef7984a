import ModelRouter.Dispatchability
import ModelRouter.Repertoire

namespace ModelRouter.Revalidation

open Base Base.Refusal Bytes Ids Outcome Capability Evidence Candidate Authority Request Decision
open State Commit Handoff Providers Section Pass Route Dispatch Router Run Repertoire Dispatchability

variable {s t : World} {es : Trace} {E : Env → Prop} {id : RouteDecisionId}

section

variable {u : CanonicalState} {bound observed : RouteAuthority} {now : UnixMillis}

theorem staleCode_rejects (c : AuthorityComponent) : c.staleCode.isAcceptance = false := by
  cases c <;> rfl

theorem comparison_rejects {a b : RouteAuthority} {mask : AuthorityMask}
    (h : (compareAuthority a b mask).current = false) :
    (compareAuthority a b mask).code.isAcceptance = false := by
  cases hd : (compareAuthority a b mask).differences with
  | nil =>
      rw [AuthorityComparison.current, hd] at h
      cases h
  | cons d ds =>
      have hcode : (compareAuthority a b mask).code = d.code := by
        change ((compareAuthority a b mask).differences.head?.map
          AuthorityDifference.code).getD .accepted = d.code
        rw [hd]
        rfl
      have hmem : d ∈ (compareAuthority a b mask).differences := by simp [hd]
      obtain ⟨pair, -, hrecord⟩ := mem_differences.mp hmem
      rw [recordDifference] at hrecord
      split at hrecord
      · rw [hcode, ← Option.some.inj hrecord]
        exact staleCode_rejects _
      · cases hrecord

theorem lifecycleReason_rejects {model : Catalog.ModelDescriptor}
    {backend : Catalog.BackendDescriptor} (h : lifecycleReason model backend bound ≠ .accepted) :
    (lifecycleReason model backend bound).isAcceptance = false := by
  revert h
  rw [lifecycleReason]
  split_ifs <;> simp [OutcomeCode.isAcceptance]

theorem reason_rejects (h : dispatchabilityReason u bound now ≠ .accepted) :
    (dispatchabilityReason u bound now).isAcceptance = false := by
  revert h
  rw [dispatchabilityReason]
  split
  · simp [OutcomeCode.isAcceptance]
  · split
    · simp [OutcomeCode.isAcceptance]
    · split
      · simp [OutcomeCode.isAcceptance]
      · dsimp only
        split
        · rename_i hcurrent
          intro _
          exact comparison_rejects (by simpa using hcurrent)
        · split
          · simp [OutcomeCode.isAcceptance]
          · simp [OutcomeCode.isAcceptance]
          · exact lifecycleReason_rejects

theorem current_of_reason (hobserved : buildCurrentAuthority u bound = some observed)
    (h : dispatchabilityReason u bound now = .accepted) :
    (compareAuthority bound observed bound.requiredMask).current = true := by
  obtain ⟨-, -, model, backend, hmodel, hbackend, hagrees, -⟩ :=
    dispatchabilityReason_accepted.mp h
  have hfound : buildCurrentAuthority u bound = some (observedAuthority u bound model backend) := by
    simp only [buildCurrentAuthority, hmodel, hbackend]
  obtain rfl := Option.some.inj (hobserved.symm.trans hfound)
  exact current_iff_accepted.mpr (compareAuthority_agrees.mpr hagrees)

theorem finishResult_code (hretained : u.routes.contains id = true)
    (hobserved : buildCurrentAuthority u bound = some observed) (now : UnixMillis) :
    let result := finishResult u id bound observed
      (compareAuthority bound observed bound.requiredMask) now
    if dispatchabilityReason u bound now = .accepted then result.code = .accepted
    else result.code.isAcceptance = false := by
  dsimp only
  by_cases hreason : dispatchabilityReason u bound now = .accepted
  · rw [if_pos hreason, finishResult]
    simp [hretained, current_of_reason hobserved hreason, hreason]
  · rw [if_neg hreason, finishResult]
    cases hcurrent : (compareAuthority bound observed bound.requiredMask).current with
    | false => simpa [hretained, hcurrent, failedResult] using comparison_rejects hcurrent
    | true => simpa [hretained, hcurrent, hreason, failedResult] using reason_rejects hreason

end

/-- The moment a revalidation of a retained decision gets to its last section. -/
structure Reached (E : Env → Prop) (s : World) (id : RouteDecisionId) (record : RouteRecord)
    (e : Env) (observed : RouteAuthority) : Prop where
  answered : E e
  admitted : s.state.shuttingDown = false
  retained : s.state.routes.find? id = some record
  status : statusRefusal record.decision.status = none
  expiry : record.decision.authority.expired e.now = false
  unfenced : s.state.isFenced record.decision.authority.backendId
    record.decision.authority.backendBoot = false
  observed : buildCurrentAuthority s.state record.decision.authority = some observed

def comparisonOf (record : RouteRecord) (observed : RouteAuthority) : AuthorityComparison :=
  compareAuthority record.decision.authority observed record.decision.authority.requiredMask

def finishing (id : RouteDecisionId) (record : RouteRecord) (observed : RouteAuthority)
    (now : UnixMillis) : Act :=
  .finishRevalidate id record.decision.authority (comparisonOf record observed).current now

def Early (id : RouteDecisionId) (k : Act) : Prop :=
  k = .observe ∨ k = .markStale id

theorem Early.plain {k : Act} (h : Early id k) : plain k = true := by
  rcases h with rfl | rfl
  · rfl
  · rfl

/-- How a revalidation that is the only operation running ends: early and with a rejection, or
with the section that compares the retained authority. -/
inductive Ending (E : Env → Prop) (s : World) (id : RouteDecisionId) :
    Trace → MutationResult → World → Prop where
  | early {es : Trace} {result : MutationResult} {t : World} : (∀ e ∈ es, Early id e.act) →
      result.code.isAcceptance = false → Ending E s id es result t
  | finished {record : RouteRecord} {e : Env} {observed : RouteAuthority} :
      Reached E s id record e observed →
      Ending E s id [⟨.observe, s⟩, ⟨.observe, s⟩, ⟨finishing id record observed e.now, s⟩]
        (finishResult s.state id record.decision.authority observed (comparisonOf record observed)
          e.now)
        ((finishing id record observed e.now).apply s)

theorem failStale_ending {u : World} {result a : MutationResult} {es' : Trace}
    (hearly : ∀ e ∈ es', Early id e.act) (hcode : result.code.isAcceptance = false)
    (h : Executes E Eq (failStale id result) u es a t) : Ending E s id (es' ++ es) a t := by
  obtain ⟨v, ds, rfl, rfl, hdone⟩ := executes_perform.mp h
  obtain ⟨rfl, rfl, rfl⟩ := executes_done.mp hdone
  refine .early (fun e he => ?_) hcode
  rcases List.mem_append.mp he with he | he
  · exact hearly e he
  · obtain rfl := List.mem_singleton.mp he
    exact .inr rfl

theorem callerRefusal_rejects {tenant callerTenant : TenantId}
    {nameSpace callerNamespace : NamespaceId} {reason : Stop}
    (h : callerRefusal tenant callerTenant nameSpace callerNamespace = some reason) :
    reason.1 = .rejectConflict := by
  rw [callerRefusal, chain_eq_some] at h
  rcases h with h | ⟨-, h⟩
  · exact congrArg Prod.fst (refuse_eq_some.mp h).2.symm
  · exact congrArg Prod.fst (refuse_eq_some.mp h).2.symm

theorem statusRefusal_rejects {status : RouteStatus} {reason : Stop}
    (h : statusRefusal status = some reason) : reason.1.isAcceptance = false := by
  cases status with
  | current => cases h
  | stale => cases h
  | dispatched => cases h
  | _ =>
      obtain rfl := Option.some.inj h
      rfl

theorem revalidate_ending {callerTenant : TenantId} {callerNamespace : NamespaceId}
    {result : MutationResult}
    (h : Executes E Eq (revalidate id callerTenant callerNamespace) s es result t) :
    Ending E s id es result t := by
  obtain ⟨u, ds, rfl, rfl, hfound⟩ := executes_perform.mp h
  have hfirst : ∀ e ∈ [(⟨.observe, s⟩ : Event World Act)], Early id e.act := by
    intro e he
    obtain rfl := List.mem_singleton.mp he
    exact .inl rfl
  have hstop {message : Stop} {ds : Trace} (hcode : message.1.isAcceptance = false)
      (hdone : Executes E Eq (pure (rejected message)) s ds result t) :
      Ending E s id (⟨.observe, s⟩ :: ds) result t := by
    obtain ⟨rfl, rfl, rfl⟩ := executes_done.mp hdone
    exact .early hfirst hcode
  split at hfound
  · exact hstop rfl hfound
  · rename_i hopen
    split at hfound
    · exact hstop rfl hfound
    · rename_i record hrecord
      dsimp only at hfound
      cases hrefusal : (callerRefusal record.tenant callerTenant record.nameSpace callerNamespace <|>
          statusRefusal record.decision.status) with
      | some reason =>
          rw [hrefusal] at hfound
          refine hstop ?_ hfound
          rcases chain_eq_some.mp hrefusal with hcaller | ⟨-, hstatus⟩
          · rw [callerRefusal_rejects hcaller]
            rfl
          · exact statusRefusal_rejects hstatus
      | none =>
          rw [hrefusal] at hfound
          obtain ⟨e, he, hasked⟩ := executes_ask.mp hfound
          split at hasked
          · exact failStale_ending hfirst rfl hasked
          · rename_i hexpired
            split at hasked
            · exact failStale_ending hfirst rfl hasked
            · rename_i hfenced
              obtain ⟨v, ds', rfl, rfl, hobserves⟩ := executes_perform.mp hasked
              have hboth : ∀ e ∈ [(⟨.observe, s⟩ : Event World Act), ⟨.observe, s⟩],
                  Early id e.act := by
                simpa using hfirst
              split at hobserves
              · exact failStale_ending hboth rfl hobserves
              · rename_i observed hobserved
                obtain ⟨v, ds'', rfl, rfl, hfinishes⟩ := executes_perform.mp hobserves
                obtain ⟨rfl, rfl, rfl⟩ := executes_done.mp hfinishes
                exact .finished ⟨he, by simpa using hopen, hrecord, (chain_eq_none.mp hrefusal).2,
                  by simpa using hexpired, by simpa using hfenced, hobserved⟩

theorem Ending.accepted {result : MutationResult} (h : Ending E s id es result t)
    (haccepted : result.code.isAcceptance = true) :
    ∃ record e observed, Reached E s id record e observed ∧
      es = [⟨.observe, s⟩, ⟨.observe, s⟩, ⟨finishing id record observed e.now, s⟩] ∧
      dispatchabilityReason s.state record.decision.authority e.now = .accepted ∧
      result.code = .accepted ∧ t = onState s (editRoute · id markCurrent) := by
  cases h with
  | early _ hcode =>
      rw [hcode] at haccepted
      cases haccepted
  | @finished record e observed hreached =>
      have hretained : s.state.routes.contains id = true :=
        OrderedMap.contains_iff.mpr ⟨record, hreached.retained⟩
      have hcode := finishResult_code hretained hreached.observed e.now
      dsimp only at hcode
      by_cases hreason :
          dispatchabilityReason s.state record.decision.authority e.now = .accepted
      · rw [if_pos hreason] at hcode
        refine ⟨record, e, observed, hreached, rfl, hreason, hcode, ?_⟩
        have hcurrent := current_of_reason hreached.observed hreason
        change onState s (finishRevalidate · id record.decision.authority
          (comparisonOf record observed).current e.now) = _
        rw [onState, finishRevalidate, if_pos ⟨hcurrent, hreason⟩]
        rfl
      · rw [if_neg hreason] at hcode
        exact absurd haccepted (by rw [comparisonOf, hcode]; exact Bool.false_ne_true)

section

variable {options : ModelRouterOptions} {stored : RouteRecord} {a : DispatchRecord}

theorem reevaluate_events {base : DispatchRecord}
    (h : Executes E Eq (reevaluate options id stored base) s es a t) :
    ∀ e ∈ es, e.pre = s ∧
      (e.act = .observe ∨ ∃ epoch coordinatorEpoch dispatch,
        e.act = .recordDispatch id epoch coordinatorEpoch dispatch) := by
  obtain ⟨env, -, hasked⟩ := executes_ask.mp h
  obtain ⟨u, ds, rfl, rfl, hfirst⟩ := executes_perform.mp hasked
  obtain ⟨v, ds', rfl, rfl, hsecond⟩ := executes_perform.mp hfirst
  rw [List.forall_mem_cons, List.forall_mem_cons]
  refine ⟨⟨rfl, .inl rfl⟩, ⟨rfl, .inl rfl⟩, ?_⟩
  split at hsecond
  · obtain ⟨rfl, -, -⟩ := executes_done.mp hsecond
    simp
  · split at hsecond
    · obtain ⟨rfl, -, -⟩ := executes_done.mp hsecond
      simp
    · obtain ⟨answer, -, hresolved⟩ := executes_ask.mp hsecond
      obtain ⟨late, -, hlate⟩ := executes_ask.mp hresolved
      split at hlate
      · obtain ⟨rfl, -, -⟩ := executes_done.mp hlate
        simp
      · split at hlate
        · obtain ⟨rfl, -, -⟩ := executes_done.mp hlate
          simp
        · obtain ⟨handed, -, hhanded⟩ := executes_ask.mp hlate
          obtain ⟨clock, -, hclock⟩ := executes_ask.mp hhanded
          dsimp only at hclock
          split at hclock
          · obtain ⟨rfl, -, -⟩ := executes_done.mp hclock
            simp
          · obtain ⟨x, ds'', rfl, rfl, hrecorded⟩ := executes_perform.mp hclock
            obtain ⟨rfl, -, -⟩ := executes_done.mp hrecorded
            rw [List.forall_mem_singleton]
            exact ⟨rfl, .inr ⟨_, _, _, rfl⟩⟩

end

/-- What a section of an operation that is the only one running relies on: a revalidation ends on
the retained authority, and a handoff is recorded in the epochs of the retained authority. -/
def Conforms (E : Env → Prop) (e : Event World Act) : Prop :=
  match e.act with
  | .finishRevalidate _ _ _ _ => ∃ id record env observed,
      Reached E e.pre id record env observed ∧ e.act = finishing id record observed env.now
  | .recordDispatch id _ _ _ => ∃ record, e.pre.state.routes.find? id = some record ∧
      (record.decision.authority.routerEpoch, record.decision.authority.coordinatorEpoch) =
        MutationFacts.epochs e.pre.state
  | _ => True

def Unbound : Act → Prop
  | .finishRevalidate _ _ _ _ | .recordDispatch _ _ _ _ => False
  | _ => True

theorem conforms_of_unbound {e : Event World Act} (h : Unbound e.act) : Conforms E e := by
  obtain ⟨k, w⟩ := e
  cases k with
  | finishRevalidate j bound comparisonCurrent now => exact h.elim
  | recordDispatch j epoch coordinatorEpoch dispatch => exact h.elim
  | _ => trivial

theorem conforms_of_only {α : Type} {p : Operation α} {a : α}
    (hp : p.Only (fun _ => True) E Unbound) (h : Executes E Eq p s es a t) :
    ∀ e ∈ es, Conforms E e :=
  fun e he => conforms_of_unbound (h.only hp (fun _ _ => trivial) e he)

theorem unbound_allows : Allows (fun _ => True) E Unbound where
  plain k hk := by
    cases k with
    | finishRevalidate j bound comparisonCurrent now => cases hk
    | recordDispatch j epoch coordinatorEpoch dispatch => cases hk
    | _ => trivial
  mutate _ _ _ := trivial
  publish _ _ := trivial
  importState _ _ _ _ _ := trivial
  commitRoute _ _ _ := trivial
  commitFallback _ _ _ _ := trivial
  store _ _ _ _ := trivial
  storeShut _ _ _ _ := trivial

theorem Early.conforms {e : Event World Act} (h : Early id e.act) : Conforms E e := by
  refine conforms_of_unbound ?_
  rcases h with h | h
  · rw [h]
    trivial
  · rw [h]
    trivial

theorem Ending.conforms {result : MutationResult} (h : Ending E s id es result t) :
    ∀ e ∈ es, Conforms E e := by
  cases h with
  | early hearly _ => exact fun e he => (hearly e he).conforms
  | finished hreached =>
      simp only [List.forall_mem_cons, List.not_mem_nil, false_imp_iff, implies_true, and_true]
      exact ⟨trivial, trivial, _, _, _, _, hreached, rfl⟩

theorem dispatch_conforms {options : ModelRouterOptions} {callerTenant : TenantId}
    {callerNamespace : NamespaceId} {a : DispatchRecord}
    (h : Executes E Eq (dispatch options id callerTenant callerNamespace) s es a t) :
    ∀ e ∈ es, Conforms E e := by
  obtain ⟨u, ds, rfl, rfl, hfound⟩ := executes_perform.mp h
  rw [List.forall_mem_cons]
  refine ⟨trivial, ?_⟩
  have hdone {b : DispatchRecord} (hend : Executes E Eq (pure b) s ds a t) :
      ∀ e ∈ ds, Conforms E e := by
    obtain ⟨rfl, -, -⟩ := executes_done.mp hend
    simp
  split at hfound
  · exact hdone hfound
  · split at hfound
    · exact hdone hfound
    · rename_i stored hstored
      unfold proceed at hfound
      split at hfound
      · exact hdone hfound
      · obtain ⟨result, v, es₁, es₂, rfl, hrevalidated, hrest⟩ := executes_bind.mp hfound
        have hending : Ending E s id es₁ result v := revalidate_ending hrevalidated
        have hlate : ∀ e ∈ es₂, Conforms E e := by
          split at hrest
          · obtain ⟨env, -, hasked⟩ := executes_ask.mp hrest
            obtain ⟨rfl, -, -⟩ := executes_done.mp hasked
            simp
          · rename_i hgoes
            have haccepted : result.code.isAcceptance = true := by
              simpa [MutationResult.accepted] using hgoes
            obtain ⟨record, env, observed, hreached, -, hreason, -, rfl⟩ :=
              hending.accepted haccepted
            intro e he
            obtain ⟨hpre, hact⟩ := reevaluate_events hrest e he
            obtain ⟨k, w⟩ := e
            obtain rfl : w = _ := hpre
            rcases hact with hobserve | ⟨epoch, coordinatorEpoch, dispatch, hrecords⟩
            · obtain rfl : k = _ := hobserve
              trivial
            · obtain rfl : k = _ := hrecords
              refine ⟨markCurrent record, ?_, ?_⟩
              · change (editRoute s.state id markCurrent).routes.find? id = _
                rw [Effects.editRoute_find?, if_pos rfl, hreached.retained, Option.map_some]
              · change _ = MutationFacts.epochs (editRoute s.state id markCurrent)
                rw [MutationFacts.editRoute_epochs]
                obtain ⟨-, -, model, backend, -, -, hagrees, -⟩ :=
                  dispatchabilityReason_accepted.mp hreason
                exact hagrees.epochs
        intro e he
        rcases List.mem_append.mp he with he | he
        · exact hending.conforms e he
        · exact hlate e he

theorem program_conforms {options : ModelRouterOptions} {op : Op} {a : Reply}
    (h : Executes E Eq (op.program options) s es a t) : ∀ e ∈ es, Conforms E e := by
  cases op with
  | revalidate id callerTenant callerNamespace =>
      obtain ⟨result, u, ds, none, rfl, hrun, hend⟩ := executes_bind.mp h
      obtain ⟨rfl, -, -⟩ := executes_done.mp hend
      rw [List.append_nil]
      exact (revalidate_ending hrun).conforms
  | dispatch id callerTenant callerNamespace =>
      obtain ⟨result, u, ds, none, rfl, hrun, hend⟩ := executes_bind.mp h
      obtain ⟨rfl, -, -⟩ := executes_done.mp hend
      rw [List.append_nil]
      exact dispatch_conforms hrun
  | _ =>
      exact conforms_of_only (program_only_of_not_revalidates unbound_allows options rfl) h

end ModelRouter.Revalidation
