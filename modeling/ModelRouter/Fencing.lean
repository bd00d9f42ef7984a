import ModelRouter.Run

namespace ModelRouter.Fencing

open Base Base.Refusal Bytes Ids Outcome Capability Evidence Catalog Persistence State
open CatalogMutation EvidenceMutation Mutations Commit Providers Section Router Effects
open MutationFacts Run

variable {s : CanonicalState} {now : UnixMillis}

/-- No registered incarnation is fenced. -/
def Coherent (s : CanonicalState) : Prop :=
  ∀ entry ∈ s.backends.entries, s.fencedBoots.contains (fenceKey entry.2) = false

instance (s : CanonicalState) : Decidable (Coherent s) :=
  inferInstanceAs (Decidable (∀ entry ∈ s.backends.entries,
    s.fencedBoots.contains (fenceKey entry.2) = false))

def Keyed (s : CanonicalState) : Prop :=
  ∀ id key, incarnationOf s id = some key → key.backendId = id

theorem coherent_iff : Coherent s ↔
    ∀ id key, incarnationOf s id = some key → s.fencedBoots.contains key = false := by
  constructor
  · intro h id key hkey
    obtain ⟨b, hb, rfl⟩ := Option.map_eq_some_iff.mp hkey
    exact h (id, b) (OrderedMap.mem_entries_iff.mpr hb)
  · rintro h ⟨id, b⟩ hentry
    refine h id _ ?_
    rw [incarnationOf, OrderedMap.mem_entries_iff.mp hentry]
    rfl

theorem registerBackend_taken {raw : BackendDescriptor}
    (h : (registerBackend s raw).refusal = none) :
    s.isFenced raw.backendId raw.backendBoot = false ∧
      ((registerBackend s raw).edited.fencedBoots = s.fencedBoots) ∧
      ∀ id, incarnationOf (registerBackend s raw).edited id =
        if raw.backendId = id then some ⟨raw.backendId, raw.backendBoot⟩
        else incarnationOf s id := by
  have hfenced : s.isFenced raw.backendId raw.backendBoot = false := by
    simp only [registerBackend, chain_eq_none, refuse_eq_none] at h
    exact h.2.2.1
  have hbackends : (registerBackend s raw).edited.backends =
      s.backends.insert raw.backendId raw.canonicalize := by
    simp only [registerBackend, installBackend]
    cases s.backends.find? raw.canonicalize.backendId <;> rfl
  refine ⟨hfenced, ?_, fun id => ?_⟩
  · simp only [registerBackend, installBackend]
    cases s.backends.find? raw.canonicalize.backendId <;> rfl
  · rw [incarnationOf, hbackends, OrderedMap.find?_insert]
    by_cases hid : raw.backendId = id
    · rw [if_pos hid, if_pos hid]
      rfl
    · rw [if_neg hid, if_neg hid, incarnationOf]

/-- Fencing an incarnation and, where `gone` holds, removing the descriptor of the backend. -/
def Fences (s t : CanonicalState) (key : FenceKey) (gone : Prop) : Prop :=
  (∀ k, t.fencedBoots.contains k = true ↔ key = k ∨ s.fencedBoots.contains k = true) ∧
    (∀ id, id ≠ key.backendId → incarnationOf t id = incarnationOf s id) ∧
    (gone → incarnationOf t key.backendId = none) ∧
    (¬gone → incarnationOf t key.backendId = incarnationOf s key.backendId)

theorem unregisterBackend_taken {id : BackendId} {generation : BackendGeneration}
    (h : (unregisterBackend s id generation now).refusal = none) :
    ∃ b, s.backends.find? id = some b ∧
      Fences s (unregisterBackend s id generation now).edited ⟨id, b.backendBoot⟩ True := by
  have hcontains : s.backends.contains id = true := by
    simp only [unregisterBackend, chain_eq_none, refuse_eq_none] at h
    simpa using h.2.1
  obtain ⟨b, hb⟩ := OrderedMap.contains_iff.mp hcontains
  refine ⟨b, hb, ?_⟩
  simp only [unregisterBackend, hb]
  refine ⟨fun k => OrderedMap.contains_insert_iff _ _ _ _, fun j hj => ?_, fun _ => ?_, fun hn => (hn trivial).elim⟩
  · change ((s.backends.erase id).find? j).map fenceKey = _
    rw [OrderedMap.find?_erase, if_neg (Ne.symm hj)]
    rfl
  · change ((s.backends.erase id).find? id).map fenceKey = _
    simp

theorem fenceBackendBoot_taken (id : BackendId) (generation : BackendGeneration)
    (boot : BackendBootId) (reason : OutcomeCode) :
    Fences s (fenceBackendBoot s id generation boot reason now).edited ⟨id, boot⟩
      (∃ b, s.backends.find? id = some b ∧ retiresCurrent b generation boot = true) := by
  cases hr : (s.backends.find? id).filter fun b => retiresCurrent b generation boot with
  | some b =>
      obtain ⟨hb, hret⟩ := Option.filter_eq_some_iff.mp hr
      simp only [fenceBackendBoot, hr]
      refine ⟨fun k => OrderedMap.contains_insert_iff _ _ _ _, fun j hj => ?_, fun _ => ?_,
        fun hn => absurd ⟨b, hb, hret⟩ hn⟩
      · change ((s.backends.erase id).find? j).map fenceKey = _
        rw [OrderedMap.find?_erase, if_neg (Ne.symm hj)]
        rfl
      · change ((s.backends.erase id).find? id).map fenceKey = _
        simp
  | none =>
      simp only [fenceBackendBoot, hr]
      refine ⟨fun k => OrderedMap.contains_insert_iff _ _ _ _, fun j hj => rfl, ?_, fun _ => rfl⟩
      rintro ⟨b, hb, hret⟩
      rw [hb, Option.filter_eq_none_iff] at hr
      exact absurd hret (hr b rfl)

theorem keyed_of_incarnations {t : CanonicalState} (hs : Keyed s)
    (h : ∀ id, incarnationOf t id = incarnationOf s id ∨ incarnationOf t id = none ∨
      ∃ boot, incarnationOf t id = some ⟨id, boot⟩) : Keyed t := by
  intro id key hkey
  rcases h id with heq | hnone | ⟨boot, hsome⟩
  · exact hs id key (heq ▸ hkey)
  · rw [hnone] at hkey
    cases hkey
  · rw [hsome] at hkey
    exact (Option.some.inj hkey) ▸ rfl

theorem Fences.incarnations {t : CanonicalState} {key : FenceKey} {gone : Prop}
    (h : Fences s t key gone) (id : BackendId) :
    incarnationOf t id = incarnationOf s id ∨ incarnationOf t id = none := by
  by_cases hid : id = key.backendId
  · by_cases hg : gone
    · exact .inr (hid ▸ h.2.2.1 hg)
    · exact .inl (hid ▸ h.2.2.2 hg)
  · exact .inl (h.2.1 id hid)

theorem Fences.coherent_iff {t : CanonicalState} {key : FenceKey} {gone : Prop}
    (h : Fences s t key gone) (hs : Coherent s) (hk : Keyed s) :
    Coherent t ↔ ¬(¬gone ∧ incarnationOf s key.backendId = some key) := by
  have hs := Fencing.coherent_iff.mp hs
  rw [Fencing.coherent_iff]
  constructor
  · rintro ht ⟨hg, hkey⟩
    have hfree := ht key.backendId key ((h.2.2.2 hg).trans hkey)
    rw [(h.1 key).mpr (.inl rfl)] at hfree
    cases hfree
  · intro hn id j hj
    have hsj : incarnationOf s id = some j := by
      rcases h.incarnations id with heq | hnone
      · exact heq ▸ hj
      · rw [hnone] at hj
        cases hj
    by_contra hc
    rcases (h.1 j).mp (by simpa using hc) with rfl | hold
    · have hid := hk id key hsj
      subst hid
      refine hn ⟨fun hg => ?_, hsj⟩
      rw [h.2.2.1 hg] at hj
      cases hj
    · rw [hs id j hsj] at hold
      cases hold

/-- A fence call that names the registered incarnation under another, valid generation, and that
none of the checks of `fence_backend_boot` turns away. -/
def fencesOtherGeneration (s : CanonicalState) : Act → Prop
  | .mutate (.fenceBackendBoot id generation boot _) _ =>
    id.valid = true ∧ boot.valid = true ∧ s.isFenced id boot = false ∧
      s.fencedBoots.size < s.limits.maxBackendIncarnations.toNat ∧ generation.valid = true ∧
      ∃ b, s.backends.find? id = some b ∧ b.backendBoot = boot ∧ b.backendGeneration ≠ generation
  | _ => False

theorem coherent_congr {t : CanonicalState} (h : SameIncarnations s t) :
    Coherent t ↔ Coherent s := by
  simp only [coherent_iff, h.1, h.2]

theorem keyed_congr {t : CanonicalState} (h : SameIncarnations s t) (hs : Keyed s) : Keyed t :=
  keyed_of_incarnations hs fun id => .inl (h.2 id)

theorem fenceBackendBoot_refusal (id : BackendId) (generation : BackendGeneration)
    (boot : BackendBootId) (reason : OutcomeCode) :
    (fenceBackendBoot s id generation boot reason now).refusal = none ↔
      id.valid = true ∧ boot.valid = true ∧ s.isFenced id boot = false ∧
        s.fencedBoots.size < s.limits.maxBackendIncarnations.toNat := by
  simp [fenceBackendBoot, and_assoc]

theorem written_incarnations (a : Attempt) (now : UnixMillis) :
    SameIncarnations a.edited (a.written now) :=
  .of_holdings (written_holdings a now)

theorem registerBackend_coherent {raw : BackendDescriptor}
    (h : (registerBackend s raw).refusal = none) (hs : Coherent s) (hk : Keyed s) :
    Coherent (registerBackend s raw).edited ∧ Keyed (registerBackend s raw).edited := by
  obtain ⟨hfree, hfenced, hinc⟩ := registerBackend_taken h
  constructor
  · rw [coherent_iff] at hs ⊢
    intro id key hkey
    rw [hfenced]
    rw [hinc] at hkey
    by_cases hid : raw.backendId = id
    · rw [if_pos hid] at hkey
      exact (Option.some.inj hkey) ▸ hfree
    · rw [if_neg hid] at hkey
      exact hs id key hkey
  · refine keyed_of_incarnations hk fun id => ?_
    rw [hinc]
    by_cases hid : raw.backendId = id
    · rw [if_pos hid]
      exact .inr (.inr ⟨raw.backendBoot, hid ▸ rfl⟩)
    · rw [if_neg hid]
      exact .inl rfl

theorem unregisterBackend_coherent {id : BackendId} {generation : BackendGeneration}
    (h : (unregisterBackend s id generation now).refusal = none) (hs : Coherent s) (hk : Keyed s) :
    Coherent (unregisterBackend s id generation now).edited ∧
      Keyed (unregisterBackend s id generation now).edited := by
  obtain ⟨b, -, hf⟩ := unregisterBackend_taken h
  refine ⟨(hf.coherent_iff hs hk).mpr fun hn => hn.1 trivial, ?_⟩
  exact keyed_of_incarnations hk fun j => (hf.incarnations j).imp_right .inl

theorem fenceBackendBoot_coherent (now : UnixMillis) (id : BackendId)
    (generation : BackendGeneration) (boot : BackendBootId) (reason : OutcomeCode)
    (hs : Coherent s) (hk : Keyed s) :
    (Coherent (fenceBackendBoot s id generation boot reason now).edited ↔
      ¬(generation.valid = true ∧ ∃ b, s.backends.find? id = some b ∧ b.backendBoot = boot ∧
        b.backendGeneration ≠ generation)) ∧
      Keyed (fenceBackendBoot s id generation boot reason now).edited := by
  have hf : Fences s (fenceBackendBoot s id generation boot reason now).edited ⟨id, boot⟩ _ :=
    fenceBackendBoot_taken id generation boot reason
  refine ⟨(hf.coherent_iff hs hk).trans (not_congr ?_), ?_⟩
  · constructor
    · rintro ⟨hkept, hinc⟩
      obtain ⟨b, hb, hkey⟩ := Option.map_eq_some_iff.mp hinc
      have hboot : b.backendBoot = boot := congrArg FenceKey.backendBoot hkey
      have hret : retiresCurrent b generation boot = false := by
        by_contra hne
        exact hkept ⟨b, hb, by simpa using hne⟩
      simp only [retiresCurrent, hboot, beq_self_eq_true, Bool.true_and, Bool.or_eq_false_iff,
        Bool.not_eq_false', beq_eq_false_iff_ne] at hret
      exact ⟨hret.1, b, hb, hboot, hret.2⟩
    · rintro ⟨hvalid, b, hb, rfl, hgen⟩
      constructor
      · rintro ⟨c, hc, hret⟩
        obtain rfl : b = c := Option.some.inj (hb.symm.trans hc)
        simp [retiresCurrent, hvalid, hgen] at hret
      · have hid : b.backendId = id := hk id (fenceKey b) (by rw [incarnationOf, hb]; rfl)
        rw [incarnationOf, hb, ← hid]
        rfl
  · exact keyed_of_incarnations hk fun j => (hf.incarnations j).imp_right .inl

theorem next_fences (m : Mutation) (now : UnixMillis) {key : FenceKey}
    (h : s.fencedBoots.contains key = true) : (m.next now s).fencedBoots.contains key = true := by
  cases hm : movesIncarnation m with
  | false => rwa [(next_incarnations hm).1]
  | true =>
      rcases next_cases m now s with hnext | ⟨htaken, hnext⟩
      · rwa [hnext]
      · rw [hnext, (written_incarnations _ now).1]
        cases m with
        | registerBackend raw => rwa [Mutation.attempt, (registerBackend_taken htaken).2.1]
        | unregisterBackend id generation =>
            obtain ⟨b, -, hf⟩ := unregisterBackend_taken htaken
            exact (hf.1 key).mpr (.inr h)
        | fenceBackendBoot id generation boot reason =>
            exact ((fenceBackendBoot_taken id generation boot reason).1 key).mpr (.inr h)
        | _ => cases hm

theorem next_coherent (m : Mutation) (hs : Coherent s) (hk : Keyed s) :
    (Coherent (m.next now s) ↔ ¬fencesOtherGeneration s (.mutate m now)) ∧
      Keyed (m.next now s) := by
  cases hm : movesIncarnation m with
  | false =>
      have hsame : SameIncarnations s (m.next now s) := next_incarnations hm
      refine ⟨iff_of_true ((coherent_congr hsame).mpr hs) ?_, keyed_congr hsame hk⟩
      cases m <;> first | exact not_false | cases hm
  | true =>
      cases htaken : (m.attempt now s).refusal with
      | some r =>
          rw [(next_of_refused htaken).1]
          refine ⟨iff_of_true hs ?_, hk⟩
          cases m with
          | fenceBackendBoot id generation boot reason =>
              rintro ⟨hid, hboot, hfree, hsize, -⟩
              have hnone : (fenceBackendBoot s id generation boot reason now).refusal = none :=
                (fenceBackendBoot_refusal _ _ _ _).mpr ⟨hid, hboot, hfree, hsize⟩
              cases htaken.symm.trans hnone
          | _ => exact not_false
      | none =>
          have hw := written_incarnations (m.attempt now s) now
          rw [(next_of_taken htaken).1, coherent_congr hw]
          cases m with
          | registerBackend raw =>
              obtain ⟨hc, hk'⟩ := registerBackend_coherent htaken hs hk
              exact ⟨iff_of_true hc not_false, keyed_congr hw hk'⟩
          | unregisterBackend id generation =>
              obtain ⟨hc, hk'⟩ := unregisterBackend_coherent htaken hs hk
              exact ⟨iff_of_true hc not_false, keyed_congr hw hk'⟩
          | fenceBackendBoot id generation boot reason =>
              obtain ⟨hid, hboot, hfree, hsize⟩ :=
                (fenceBackendBoot_refusal id generation boot reason).mp htaken
              obtain ⟨hc, hk'⟩ := fenceBackendBoot_coherent now id generation boot reason hs hk
              refine ⟨hc.trans (not_congr ?_), keyed_congr hw hk'⟩
              exact ⟨fun hb => ⟨hid, hboot, hfree, hsize, hb⟩, fun hb => hb.2.2.2.2⟩
          | _ => cases hm

theorem event_coherent {e : Event World Act} (hload : imports e.act = false)
    (hs : Coherent e.pre.state) (hk : Keyed e.pre.state) :
    (Coherent (after e).state ↔ ¬fencesOtherGeneration e.pre.state e.act) ∧
      Keyed (after e).state := by
  obtain ⟨k, w⟩ := e
  cases hkeep : keepsHoldings k with
  | true =>
      have hsame := SameIncarnations.of_holdings (apply_holdings hkeep w)
      refine ⟨iff_of_true ((coherent_congr hsame).mpr hs) ?_, keyed_congr hsame hk⟩
      cases k <;> first | exact not_false | cases hkeep
  | false =>
      cases k with
      | mutate m now => exact next_coherent m hs hk
      | writeCapacityDetail detail =>
          have hsame : SameIncarnations w.state (writeCapacityDetail w.state detail) :=
            editBackend_incarnations w.state detail.backendId fun _ => rfl
          exact ⟨iff_of_true ((coherent_congr hsame).mpr hs) not_false, keyed_congr hsame hk⟩
      | importState canonical => cases hload
      | _ => cases hkeep

theorem fresh_coherent (options : ModelRouterOptions) (highest : UInt64) :
    Coherent (World.fresh options highest).state ∧ Keyed (World.fresh options highest).state := by
  constructor
  · intro entry hentry
    cases hentry
  · intro id key hkey
    cases hkey

/-- No registered incarnation is fenced at any point of a run exactly when the run never fences
a registered incarnation under another generation. -/
theorem history_coherent_iff {options : ModelRouterOptions} {E : Trace → Env → Prop}
    {highest : UInt64} {es : Trace} {calls : List (Op × Reply)} {t : World}
    (h : History options E highest es calls t) (hload : LoadFree es) :
    (∀ e ∈ es, Coherent (after e).state) ↔
      ∀ e ∈ es, ¬fencesOtherGeneration e.pre.state e.act := by
  obtain ⟨hs, hk⟩ := fresh_coherent options highest
  have hstep : ∀ e ∈ es, Coherent e.pre.state → Keyed e.pre.state →
      (Coherent (after e).state ↔ ¬fencesOtherGeneration e.pre.state e.act) ∧
        Keyed (after e).state :=
    fun e he hI hJ => event_coherent (hload e he) hI hJ
  exact h.chained.forall_iff (I := fun w => Coherent w.state) (J := fun w => Keyed w.state) hs hk
    hstep

theorem sampleCatalog_coherent_iff :
    let run := play sampleOptions sampleEnv sampleCatalog
    (∀ e ∈ run.1, Coherent (after e).state) ↔
      ∀ e ∈ run.1, ¬fencesOtherGeneration e.pre.state e.act :=
  history_coherent_iff (play_history sampleOptions sampleEnv sampleCatalog) (by decide +kernel)

def fencedUnderOtherGeneration : List Op :=
  sampleCatalog ++ [.mutation (.fenceBackendBoot ⟨7⟩ ⟨2⟩ ⟨1⟩ .fenced)]

theorem registered_and_fenced :
    ¬∀ (options : ModelRouterOptions) (E : Trace → Env → Prop) (highest : UInt64) (es : Trace)
        (calls : List (Op × Reply)) (t : World),
      History options E highest es calls t → LoadFree es → Coherent t.state := by
  intro h
  have hload : LoadFree (play sampleOptions sampleEnv fencedUnderOtherGeneration).1 := by
    decide +kernel
  have hbad : ¬Coherent (play sampleOptions sampleEnv fencedUnderOtherGeneration).2.2.state := by
    decide +kernel
  exact hbad (h _ _ _ _ _ _ (play_history _ _ _) hload)

end ModelRouter.Fencing
