import ModelRouter.Scores

namespace ModelRouter.Lapses

open Bytes Ids Capability Evidence Catalog Request Candidate Policy Eligibility Decision Ranking
  Scores

/-- What one piece of evidence is replaced by. -/
inductive Lapse where
  | cost (e : CostEvidence)
  | latency (e : LatencyEvidence)
  | readiness (e : ReadinessEvidence)
  | residency (e : ResidencyEvidence)
  | availability (e : AvailabilityEvidence)
  | health (e : HealthEvidence)
  | capacityDetail (d : CapacityDetail)
  | reservation (present : Bool) (e : ReservationEvidence)
  | trustDomain
  | slo (e : SloEvidence)

namespace Lapse

def candidate (c : RouteCandidate) : Lapse → RouteCandidate
  | latency e => { c with backend.latency := e }
  | readiness e => { c with backend.readiness := e }
  | residency e => { c with backend.residency := e }
  | availability e => { c with backend.availability := e }
  | health e => { c with backend.health := e }
  | capacityDetail d => { c with backend.capacityDetail := d }
  | trustDomain => { c with backend.trustDomain := .unknown }
  | _ => c

def context (x : RankingContext) : Lapse → RankingContext
  | cost e => { x with evidence.cost := e }
  | reservation present e =>
    { x with evidence.reservationPresent := present, evidence.reservation := e }
  | slo e => { x with evidence.slo := e }
  | _ => x

/-- The replacement is the unknown or the expired form of that evidence. -/
def Vacant (c : RouteCandidate) (x : RankingContext) : Lapse → Prop
  | cost e => e.known = false ∨ expiredAt x.now e.expiresAtUnixMillis = true
  | latency e =>
    e.expired x.now = true ∨
      e.dispatchMicros = kUnknownLatencyMicros ∧ e.tailMicros = kUnknownLatencyMicros ∧
        e.queueMicros = kUnknownLatencyMicros ∧ e.coldStartPenaltyMicros = kUnknownLatencyMicros
  | readiness e => e.state = .unknown ∨ e.expired x.now = true
  | residency e => e.state = .unknown ∨ e.expired x.now = true
  | availability e => e.state = .unknown ∨ e.expired x.now = true
  | health e => e.state = .unknown ∨ e.expired x.now = true
  | capacityDetail d =>
    d.known = false ∨
      expiredAt x.now d.expiresAtUnixMillis = true ∧
        d = { c.backend.capacityDetail with expiresAtUnixMillis := d.expiresAtUnixMillis }
  | reservation present e => present = false ∨ expiredAt x.now e.expiresAtUnixMillis = true
  | trustDomain => True
  | slo e =>
    e.latencyTargetMicros = kUnspecified ∨ (e.verdict = .unknown ∨ e.expired x.now = true) ∧
      e.latencyTargetMicros = x.evidence.slo.latencyTargetMicros

end Lapse

section

variable (candidate : RouteCandidate) (context : RankingContext)

/-- The value of one latency observation is known and has not expired. -/
def observed (micros : UInt32) : Bool :=
  !candidate.backend.latency.expired context.now && micros != kUnknownLatencyMicros

def readinessKnown : Bool :=
  let readiness := candidate.backend.readiness
  readiness.generation.valid && !readiness.expired context.now && readiness.state != .unknown

def worth (factor : RankingFactor) (present : Bool) (normalized : Int) : Int :=
  if present then points (context.weights.weight factor) normalized else 0

def headroomWorth (target : UInt32) : Int :=
  let dispatch := candidate.backend.latency.dispatchMicros
  worth context .sloHeadroom
    (target != kUnspecified && target > 0 && observed candidate context dispatch)
    (normalizeLowerBetter dispatch.toNat target.toNat)

def sloTarget (slo : SloEvidence) : UInt32 :=
  if slo.latencyTargetMicros != kUnspecified then slo.latencyTargetMicros
  else context.request.requirements.maxLatencyMicros

def observationsWorth : Int :=
  let latency := candidate.backend.latency
  let seen := observed candidate context
  worth context .latency (seen latency.dispatchMicros)
      (normalizeLowerBetter latency.dispatchMicros.toNat context.scales.latencyReferenceMicros) +
    worth context .tailLatency (seen latency.tailMicros)
      (normalizeLowerBetter latency.tailMicros.toNat context.scales.tailLatencyReferenceMicros) +
    worth context .queueDelay (seen latency.queueMicros)
      (normalizeLowerBetter latency.queueMicros.toNat context.scales.queueReferenceMicros) +
    headroomWorth candidate context (sloTarget context context.evidence.slo) +
    worth context .backendStartupCost (seen latency.coldStartPenaltyMicros)
      (normalizeLowerBetter latency.coldStartPenaltyMicros.toNat
        context.scales.startupCostReferenceMicros)

def coldStartCost : Int :=
  let warmth := readinessValue candidate.backend.readiness.state
  let coldStart := candidate.backend.latency.coldStartPenaltyMicros
  worth context .warmth
      (readinessKnown candidate context && observed candidate context coldStart) warmth -
    worth context .warmth
      (readinessKnown candidate context && observed candidate context coldStart)
      (warmth - mulDiv coldStart.toNat kFactorScale
        (reference context.scales.startupCostReferenceMicros))

/-- When the replacement cannot raise the score. -/
def Lapse.Harmless : Lapse → Prop
  | .latency _ => coldStartCost candidate context ≤ observationsWorth candidate context
  | .slo e =>
    e.latencyTargetMicros = kUnspecified →
      headroomWorth candidate context context.request.requirements.maxLatencyMicros ≤
        headroomWorth candidate context (sloTarget context context.evidence.slo)
  | _ => True

end

variable {candidate : RouteCandidate} {context : RankingContext}

theorem worth_absent {factor : RankingFactor} {normalized : Int} :
    worth context factor false normalized = 0 :=
  rfl

theorem worth_eq {factor : RankingFactor} {present : Bool} {raw normalized : Int}
    {generation : UInt64} {source : Text} :
    (factorWhen context.weights present factor raw normalized generation source).contribution =
      worth context factor present normalized :=
  factorWhen_contribution

theorem worth_penalized {factor : RankingFactor} (known seen : Bool) (value penalty : Int) :
    worth context factor known value -
        worth context factor known (if seen then value - penalty else value) =
      worth context factor (known && seen) value -
        worth context factor (known && seen) (value - penalty) := by
  cases known <;> cases seen <;> simp [worth]

theorem latency_lapse (hweights : context.weights.validate = none) {e : LatencyEvidence}
    (hvacant : (Lapse.latency e).Vacant candidate context) :
    (buildFactors { candidate with backend.latency := e } context).2 -
        (buildFactors candidate context).2 =
      coldStartCost candidate context - observationsWorth candidate context := by
  have hunseen : (!e.expired context.now && e.dispatchMicros != kUnknownLatencyMicros) = false ∧
      (!e.expired context.now && e.tailMicros != kUnknownLatencyMicros) = false ∧
      (!e.expired context.now && e.queueMicros != kUnknownLatencyMicros) = false ∧
      (!e.expired context.now && e.coldStartPenaltyMicros != kUnknownLatencyMicros) = false := by
    obtain hexpired | ⟨hdispatch, htail, hqueue, hcold⟩ := hvacant
    · simp only [hexpired, Bool.not_true, Bool.false_and, and_self]
    · simp only [hdispatch, htail, hqueue, hcold, bne_self_eq_false, Bool.and_false, and_self]
  have hseen (micros : UInt32) : (!candidate.backend.latency.expired context.now &&
      micros != kUnknownLatencyMicros) = observed candidate context micros := rfl
  rw [score_sub hweights hweights]
  simp only [pushedFactors, stickinessPreferences, callerPreferences, ↓decide_pos,
    List.zipWith_cons_cons, List.zipWith_nil_left, List.sum_cons, List.sum_nil, sub_self, zero_add,
    add_zero, hunseen, hseen, worth_eq, worth_absent, Bool.and_false, Bool.false_eq_true,
    ite_false, worth_penalized]
  have hregroup (dispatch tail queue warm cold headroom startup : Int) :
      0 - dispatch + (0 - tail + (0 - queue + (warm - cold + (0 - headroom + (0 - startup))))) =
        warm - cold - (dispatch + tail + queue + headroom + startup) := by
    omega
  exact hregroup _ _ _ _ _ _ _

theorem slo_lapse (hweights : context.weights.validate = none) (e : SloEvidence) :
    (buildFactors candidate { context with evidence.slo := e }).2 -
        (buildFactors candidate context).2 =
      headroomWorth candidate context (sloTarget context e) -
        headroomWorth candidate context (sloTarget context context.evidence.slo) := by
  have hweights' : { context with evidence.slo := e : RankingContext }.weights.validate = none :=
    hweights
  refine (score_sub hweights hweights').trans ?_
  simp only [pushedFactors, List.zipWith_cons_cons, List.zipWith_nil_left, List.sum_cons,
    List.sum_nil, sub_self, zero_add, add_zero, factorWhen_contribution]
  rfl

theorem countPreferences_mono {wishes wishes' : List (Bool × Bool)}
    (h : List.Forall₂ (fun p p' => p.1 = p'.1 ∧ (p.2 = true → p'.2 = true)) wishes wishes') :
    (countPreferences wishes).1 = (countPreferences wishes').1 ∧
      (countPreferences wishes).2 ≤ (countPreferences wishes').2 := by
  induction h with
  | nil => exact ⟨rfl, le_rfl⟩
  | @cons p p' rest rest' hhead _ ih =>
      obtain ⟨asked, holds⟩ := p
      obtain ⟨asked', holds'⟩ := p'
      obtain ⟨rfl, himp⟩ := hhead
      cases asked <;> cases holds <;> cases holds' <;> simp_all [countPreferences]
      omega

variable (hweights : context.weights.validate = none)

include hweights

theorem absent_le {factor : RankingFactor} {present present' : Bool} {raw raw' normalized
    normalized' : Int} {generation generation' : UInt64} {source source' : Text}
    (h : present = false) :
    (factorWhen context.weights present factor raw normalized generation source).contribution ≤
      (factorWhen context.weights present' factor raw' normalized' generation'
        source').contribution := by
  refine factorWhen_mono hweights fun hpresent => ?_
  rw [h] at hpresent
  cases hpresent

theorem trust_lapse :
    (buildFactors { candidate with backend.trustDomain := .unknown } context).2 ≤
      (buildFactors candidate context).2 := by
  have hwishes : List.Forall₂ (fun p p' : Bool × Bool => p.1 = p'.1 ∧ (p.2 = true → p'.2 = true))
      (stickinessPreferences { candidate with backend.trustDomain := .unknown }
        context.request.requirements.stickiness)
      (stickinessPreferences candidate context.request.requirements.stickiness) := by
    simp only [stickinessPreferences, List.forall₂_cons, List.Forall₂.nil, and_true, imp_self,
      true_and]
    intro hlocal
    cases hlocal
  have hsticky := countPreferences_mono hwishes
  refine score_mono hweights hweights ?_
  simp only [pushedFactors, callerPreferences, ↓decide_pos, List.forall₂_cons, List.Forall₂.nil,
    le_refl, true_and, and_true]
  refine ⟨absent_le hweights rfl, absent_le hweights rfl,
    factorWhen_mono hweights fun hfar => ⟨?_, normalizeLowerBetter_anti ?_⟩,
    factorWhen_mono hweights fun hasked => ⟨?_, ?_⟩⟩
  · have hdistance : (candidate.backend.networkDistance != 0) = true := hfar
    rw [hdistance, Bool.or_true]
  · split
    · exact Int.natCast_nonneg _
    · exact le_rfl
  · rw [← hsticky.1]
    exact hasked
  · rw [← hsticky.1]
    exact mulDiv_mono (Int.natCast_nonneg _) kFactorScale_nonneg (Int.ofNat_le.mpr hsticky.2)

omit hweights in
theorem vacant_absent {σ : Type} {t : Tag} [DecidableEq σ] {e : BackendEvidence σ t} {unknown : σ}
    {now : UnixMillis} (h : e.state = unknown ∨ e.expired now = true) :
    (e.generation.valid && !e.expired now && e.state != unknown) = false := by
  obtain hstate | hexpired := h
  · rw [hstate, bne_self_eq_false, Bool.and_false]
  · rw [hexpired, Bool.not_true, Bool.and_false, Bool.false_and]

omit hweights in
theorem le_iff_of_sub {a b c d : Int} (h : a - b = c - d) : a ≤ b ↔ c ≤ d := by
  omega

/-- Losing a piece of evidence raises a score exactly where an observed cold start costs more
warmth than the latency observations earn, or where the request is laxer than the lost SLO. -/
theorem lapse_score_le_iff {lapse : Lapse} (hvacant : lapse.Vacant candidate context) :
    (buildFactors (lapse.candidate candidate) (lapse.context context)).2 ≤
        (buildFactors candidate context).2 ↔
      lapse.Harmless candidate context := by
  cases lapse
  case latency e => exact le_iff_of_sub (latency_lapse hweights hvacant)
  case slo e =>
    refine (le_iff_of_sub (slo_lapse hweights e)).trans ?_
    rw [Lapse.Harmless]
    by_cases hdropped : e.latencyTargetMicros = kUnspecified
    · have htarget : sloTarget context e = context.request.requirements.maxLatencyMicros := by
        rw [sloTarget, hdropped, bne_self_eq_false]
        rfl
      rw [htarget]
      exact ⟨fun h _ => h, fun h => h hdropped⟩
    · obtain hdropped' | ⟨-, hsame⟩ := hvacant
      · exact absurd hdropped' hdropped
      · have htarget : sloTarget context e = sloTarget context context.evidence.slo := by
          rw [sloTarget, hsame]
          rfl
        rw [htarget]
        exact ⟨fun _ h => absurd h hdropped, fun _ => le_rfl⟩
  case trustDomain => exact iff_of_true (trust_lapse hweights) trivial
  -- the factors of every other evidence are its own, and it can only take them away
  all_goals
    refine iff_of_true (score_mono hweights hweights ?_) trivial
    dsimp only [Lapse.candidate, Lapse.context]
    simp only [pushedFactors, stickinessPreferences, callerPreferences, ↓decide_pos,
      List.forall₂_cons, List.Forall₂.nil, le_refl, true_and, and_true]
  case cost e =>
    refine absent_le hweights ?_
    obtain hunknown | hexpired := hvacant
    · rw [hunknown, Bool.false_and, Bool.false_and]
    · rw [CostEvidence.current, hexpired, Bool.not_true, Bool.and_false, Bool.and_false,
        Bool.false_and]
  case readiness e =>
    have habsent := vacant_absent hvacant
    exact ⟨absent_le hweights habsent, absent_le hweights habsent⟩
  case residency e => exact absent_le hweights (vacant_absent hvacant)
  case availability e => exact absent_le hweights (vacant_absent hvacant)
  case health e => exact absent_le hweights (vacant_absent hvacant)
  case capacityDetail d =>
    obtain hunknown | ⟨-, hsame⟩ := hvacant
    · exact absent_le hweights (by rw [hunknown, Bool.false_and, Bool.false_and])
    · rw [hsame]
      exact le_rfl
  case reservation present e =>
    refine absent_le hweights ?_
    obtain hnone | hexpired := hvacant
    · rw [hnone, Bool.false_and]
    · rw [ReservationEvidence.current, hexpired, Bool.not_true, Bool.and_false, Bool.and_false]

omit hweights

/-- A ready backend that answers slowly and starts slowly. -/
def slowCandidate : RouteCandidate where
  backend :=
    { readiness := { state := .ready, generation := ⟨1⟩ }
      latency :=
        { dispatchMicros := 5000000
          tailMicros := 20000000
          coldStartPenaltyMicros := 10000000 } }

def plainContext : RankingContext where
  request := {}
  evidence := {}
  policyVerdict := none
  weights := {}
  scales := {}
  now := 0

theorem lapse_score_le_iff_slow :
    (buildFactors (Lapse.candidate slowCandidate (.latency {})) plainContext).2 ≤
        (buildFactors slowCandidate plainContext).2 ↔
      Lapse.Harmless slowCandidate plainContext (.latency {}) :=
  @lapse_score_le_iff slowCandidate plainContext (by decide +kernel) (.latency {})
    (.inr ⟨rfl, rfl, rfl, rfl⟩)

/-- The slow backend ranks higher once nothing is known about its latency. -/
theorem latency_lapse_favorable :
    plainContext.weights.validate = none ∧ plainContext.scales.validate = none ∧
      (Lapse.latency {}).Vacant slowCandidate plainContext ∧
      ¬(buildFactors (Lapse.candidate slowCandidate (.latency {})) plainContext).2 ≤
          (buildFactors slowCandidate plainContext).2 :=
  ⟨by decide +kernel, by decide +kernel, .inr ⟨rfl, rfl, rfl, rfl⟩, by decide +kernel⟩

end ModelRouter.Lapses
