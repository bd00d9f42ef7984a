import ModelRouter.Revalidation

namespace ModelRouter.Timing

open Base Base.Program Bytes Ids Outcome Capability Evidence Catalog Candidate Authority Request
open Policy Eligibility Decision Persistence State CatalogMutation Mutations Commit Providers Section Pass
open Route Dispatch Reroute Lifecycle Router Run Repertoire Revalidation

variable {now : UnixMillis}

/-- Surroundings whose clock stands still. -/
def AtTime (now : UnixMillis) (e : Env) : Prop :=
  e.now = now

/-- A section that carries the time it was asked for, and no comparison taken before. -/
def Timely (now : UnixMillis) : Act → Prop
  | .mutate _ time => time = now
  | .commit draft => draft.now = now
  | .finishRevalidate _ _ _ _ => False
  | _ => True

abbrev Punctual (now : UnixMillis) {α : Type} (p : Operation α) : Prop :=
  p.Only (fun _ => True) (AtTime now) (Timely now)

theorem timely_of_plain {k : Act} (hk : plain k = true) : Timely now k := by
  cases k with
  | mutate m time => cases hk
  | commit draft => cases hk
  | finishRevalidate id bound comparisonCurrent time => cases hk
  | _ => trivial

theorem timely_allows : Allows (fun _ => True) (AtTime now) (Timely now) where
  plain _ := timely_of_plain
  mutate _ _ he := he
  publish _ _ := trivial
  importState _ _ _ _ _ := trivial
  commitRoute _ draft h := by
    obtain ⟨-, he, -⟩ := h
    exact he
  commitFallback _ _ draft h := by
    obtain ⟨-, he, -⟩ := h
    exact he
  store _ _ _ _ := trivial
  storeShut _ _ _ _ := trivial

/-- A timely section, or the end of a revalidation of the authority retained at that moment. -/
def Faithful (now : UnixMillis) (e : Event World Act) : Prop :=
  Timely now e.act ∨
    ∃ id record comparisonCurrent, e.pre.state.routes.find? id = some record ∧
      e.act = .finishRevalidate id record.decision.authority comparisonCurrent now

section

variable {s t : World} {es : Trace}

theorem faithful_of_punctual {α : Type} {p : Operation α} {a : α} (hp : Punctual now p)
    (h : Executes (AtTime now) Eq p s es a t) : ∀ e ∈ es, Faithful now e :=
  fun e he => .inl (h.only hp (fun _ _ => trivial) e he)

theorem Ending.faithful {id : RouteDecisionId} {result : MutationResult}
    (h : Ending (AtTime now) s id es result t) : ∀ e ∈ es, Faithful now e := by
  cases h with
  | early hearly _ => exact fun e he => .inl (timely_of_plain (hearly e he).plain)
  | @finished record env observed hreached =>
      have htime : env.now = now := hreached.answered
      simp only [List.forall_mem_cons, List.not_mem_nil, false_imp_iff, implies_true, and_true]
      refine ⟨.inl trivial, .inl trivial, .inr ⟨id, record, (comparisonOf record observed).current,
        hreached.retained, ?_⟩⟩
      rw [finishing, htime]

theorem revalidate_faithful {id : RouteDecisionId} {callerTenant : TenantId}
    {callerNamespace : NamespaceId} {a : MutationResult}
    (h : Executes (AtTime now) Eq (revalidate id callerTenant callerNamespace) s es a t) :
    ∀ e ∈ es, Faithful now e :=
  Ending.faithful (revalidate_ending h)

theorem dispatch_faithful {options : ModelRouterOptions} {id : RouteDecisionId}
    {callerTenant : TenantId} {callerNamespace : NamespaceId} {a : DispatchRecord}
    (h : Executes (AtTime now) Eq (dispatch options id callerTenant callerNamespace) s es a t) :
    ∀ e ∈ es, Faithful now e := by
  obtain ⟨u, ds, rfl, rfl, hfound⟩ := executes_perform.mp h
  rw [List.forall_mem_cons]
  refine ⟨.inl trivial, ?_⟩
  split at hfound
  · exact faithful_of_punctual (done_only _) hfound
  · split at hfound
    · exact faithful_of_punctual (done_only _) hfound
    · unfold proceed at hfound
      split at hfound
      · exact faithful_of_punctual (done_only _) hfound
      · obtain ⟨b, v, es₁, es₂, rfl, hrevalidated, hrest⟩ := executes_bind.mp hfound
        have hlate : ∀ e ∈ es₂, Faithful now e := by
          split at hrest
          · exact faithful_of_punctual (ask_only fun _ _ => done_only _) hrest
          · exact faithful_of_punctual
              (reevaluate_only (fun _ hk => timely_of_plain (plain_of_idle (idle_of_calm hk)))
                options (fun _ _ _ => trivial) _ _) hrest
        intro e he
        rcases List.mem_append.mp he with he | he
        · exact revalidate_faithful hrevalidated e he
        · exact hlate e he

theorem program_faithful {options : ModelRouterOptions} {op : Op} {a : Reply}
    (h : Executes (AtTime now) Eq (op.program options) s es a t) : ∀ e ∈ es, Faithful now e := by
  cases op with
  | revalidate id callerTenant callerNamespace =>
      obtain ⟨result, u, ds, none, rfl, hrun, hend⟩ := executes_bind.mp h
      obtain ⟨rfl, -, -⟩ := executes_done.mp hend
      rw [List.append_nil]
      exact revalidate_faithful hrun
  | dispatch id callerTenant callerNamespace =>
      obtain ⟨result, u, ds, none, rfl, hrun, hend⟩ := executes_bind.mp h
      obtain ⟨rfl, -, -⟩ := executes_done.mp hend
      rw [List.append_nil]
      exact dispatch_faithful hrun
  | _ =>
      exact faithful_of_punctual (program_only_of_not_revalidates timely_allows options rfl) h

end

end ModelRouter.Timing
