import ModelRouter.Sealing
import ModelRouter.Switching
import ModelRouter.Turns

namespace ModelRouter.Successors

open Base Base.Program Bytes Ids Outcome Request Decision State Mutations Commit Handoff Providers
open Section Route Reroute Router Run Repertoire TerminalStatus Handoffs Records Sealing Turns
open Switching

abbrev RouterCall := Begun World Act Env Op Reply

abbrev RouterLedger := Ledger World Act Env Op Reply

def reroutes (id : RouteDecisionId) : Op → Bool
  | .reroute j _ _ => decide (j = id)
  | _ => false

/-- The sections that commit, as current, a decision made by a reroute of the given one. -/
def successors (id : RouteDecisionId) (l : RouterLedger) : List (Event World Act) :=
  l.calls.flatMap fun call =>
    if reroutes id call.op = true then call.sections.filter commitsCurrent else []

variable {id : RouteDecisionId} {m : Phase}

def phase (id : RouteDecisionId) (call : RouterCall) : Option Phase :=
  call.sections.foldlM (turn id) .arriving

def underway (id : RouteDecisionId) (call : RouterCall) : Bool :=
  reroutes id call.op && call.sections.any looks && !call.rest.finished

def enters (id : RouteDecisionId) (w : World) (call : RouterCall) : Bool :=
  reroutes id call.op && !call.sections.any looks &&
    match call.rest with
    | .act .observe next => !(next w).finished
    | _ => false

/-- A step that lets no reroute of the decision past its checks while the decision is superseded or
another reroute of it is under way. -/
def Apart (id : RouteDecisionId) (l : RouterLedger) : Choice Op Env → Prop
  | .start _ => True
  | .advance i _ => ∀ call ∈ l.calls[i]?, enters id l.state call = true →
    statusOf l.state.state id ≠ some .superseded ∧ ∀ other ∈ l.calls, underway id other = false

/-- A step whose section spares the status of a superseded decision. -/
def Sparing (id : RouteDecisionId) (l : RouterLedger) : Choice Op Env → Prop
  | .start _ => True
  | .advance i _ => ∀ call ∈ l.calls[i]?, ∀ k ∈ call.rest.upcoming, Spares id ⟨k, l.state⟩

def Orderly (id : RouteDecisionId) (l : RouterLedger) (c : Choice Op Env) : Prop :=
  Apart id l c ∧ Sparing id l c

/-- A reroute of the decision that stands in a phase and has not ended. -/
structure Stands (id : RouteDecisionId) (m : Phase) (call : RouterCall) : Prop where
  reroute : reroutes id call.op = true
  stage : phase id call = some m
  unfinished : call.rest.finished = false

theorem Stands.underway {call : RouterCall} (h : Stands id m call) (hm : m ≠ .arriving) :
    underway id call = true := by
  simp [Successors.underway, h.reroute, looked_of_moved h.stage hm, h.unfinished]

/-- The reroutes of the decision are accounted for. -/
structure Tally (id : RouteDecisionId) (l : RouterLedger) : Prop where
  /-- One of them at most is under way. -/
  alone : ∀ (i j : Nat) (call other : RouterCall), l.calls[i]? = some call →
    l.calls[j]? = some other →
    underway id call = true → underway id other = true → i = j
  /-- The decision one of them has found has an identity that was handed out. -/
  known : ∀ call ∈ l.calls, Stands id .considering call ∨ Stands id .committing call →
    id.value ≤ l.state.highestIssued
  /-- While one of them considers, none has committed a current decision. -/
  first : ∀ call ∈ l.calls, Stands id .considering call → (successors id l).length = 0
  /-- Once one has, it is about to supersede the old one, or has. -/
  closed : (successors id l).length = 0 ∨ (∃ call ∈ l.calls, Stands id .committing call) ∨
    Sealed id l.state
  sole : (successors id l).length ≤ 1

/-- A reroute that found its decision superseded has ended and has committed nothing. -/
def Cautious (id : RouteDecisionId) (call : RouterCall) : Prop :=
  ∀ e ∈ call.sections.find? looks, statusOf e.pre.state id = some .superseded →
    call.rest.finished = true ∧ call.sections.any commitsCurrent = false

section

variable {l : RouterLedger} {call call' : RouterCall} {i : Nat} {s : World} {n : Phase}

theorem successors_set {added : List (Event World Act)} (call' : RouterCall)
    (hi : l.calls[i]? = some call) (hop : call'.op = call.op)
    (hsections : call'.sections = call.sections ++ added) :
    (successors id ⟨s, l.calls.set i call'⟩).length = (successors id l).length +
      (if reroutes id call.op = true then added.filter commitsCurrent else []).length := by
  refine (Ledger.flatMap_set_perm hi ?_).length_eq.trans List.length_append
  rw [hop, hsections]
  split
  · exact List.filter_append _ _
  · rfl

theorem Tally.amend (h : Tally id l) (hi : l.calls[i]? = some call)
    (hcount : (successors id ⟨s, l.calls.set i call'⟩).length = (successors id l).length)
    (hmono : l.state.highestIssued ≤ s.highestIssued)
    (hsealed : Sealed id l.state → Sealed id s)
    (hunder : underway id call' = true →
      underway id call = true ∨ ∀ other ∈ l.calls, underway id other = false)
    (hconsider : Stands id .considering call' → Stands id .considering call ∨
      id.value ≤ s.highestIssued ∧ (successors id l).length = 0)
    (hcommit : Stands id .committing call' → Stands id .committing call)
    (hclosed : Stands id .committing call → Stands id .committing call' ∨ Sealed id s) :
    Tally id ⟨s, l.calls.set i call'⟩ where
  alone a b c d ha hb hc hd := by
    have hidle {j : Nat} {other : RouterCall} (hj : l.calls[j]? = some other) (hne : j ≠ i)
        (hother : underway id other = true) : ¬underway id call' = true := by
      intro hcall
      rcases hunder hcall with hunderway | hnone
      · exact hne (h.alone j i other call hj hi hother hunderway)
      · rw [hnone other (List.mem_of_getElem? hj)] at hother
        cases hother
    rcases Ledger.set_cases ha with ⟨rfl, rfl⟩ | ⟨hai, hac⟩
    · rcases Ledger.set_cases hb with ⟨rfl, -⟩ | ⟨hbi, hbd⟩
      · rfl
      · exact absurd hc (hidle hbd hbi hd)
    · rcases Ledger.set_cases hb with ⟨rfl, rfl⟩ | ⟨-, hbd⟩
      · exact absurd hd (hidle hac hai hc)
      · exact h.alone a b c d hac hbd hc hd
  known other hother hstands := by
    rcases Ledger.mem_set hother with rfl | ⟨j, -, hj⟩
    · rcases hstands with hstands | hstands
      · rcases hconsider hstands with hbefore | ⟨hissued, -⟩
        · exact UInt64.le_trans (h.known call (List.mem_of_getElem? hi) (.inl hbefore)) hmono
        · exact hissued
      · exact UInt64.le_trans
          (h.known call (List.mem_of_getElem? hi) (.inr (hcommit hstands))) hmono
    · exact UInt64.le_trans (h.known other (List.mem_of_getElem? hj) hstands) hmono
  first other hother hstands := by
    rw [hcount]
    rcases Ledger.mem_set hother with rfl | ⟨j, -, hj⟩
    · rcases hconsider hstands with hbefore | ⟨-, hnone⟩
      · exact h.first call (List.mem_of_getElem? hi) hbefore
      · exact hnone
    · exact h.first other (List.mem_of_getElem? hj) hstands
  closed := by
    rw [hcount]
    rcases h.closed with hnone | ⟨other, hother, hstands⟩ | hgone
    · exact .inl hnone
    · obtain ⟨j, hj⟩ := List.mem_iff_getElem?.mp hother
      by_cases hij : i = j
      · subst hij
        obtain rfl := Option.some.inj (hi.symm.trans hj)
        have hlength : i < l.calls.length := (List.getElem?_eq_some_iff.mp hi).1
        rcases hclosed hstands with hafter | hgone
        · exact .inr (.inl ⟨call', List.mem_set hlength _, hafter⟩)
        · exact .inr (.inr hgone)
      · refine .inr (.inl ⟨other, List.mem_of_getElem? (i := j) ?_, hstands⟩)
        rw [List.getElem?_set_ne hij, hj]
    · exact .inr (.inr (hsealed hgone))
  sole := hcount ▸ h.sole

theorem arriving_idle (h : phase id call = some .arriving) :
    call.sections.any looks = false ∧ call.sections.any commitsCurrent = false := by
  obtain ⟨-, hacts⟩ := arriving_sections h
  constructor
  · refine List.any_eq_false.mpr fun e he => ?_
    simp [looks, hacts e he]
  · refine List.any_eq_false.mpr fun e he => ?_
    simp [commitsCurrent, hacts e he]

abbrev Followed (id : RouteDecisionId) (call : RouterCall) : Prop :=
  reroutes id call.op = true → call.Tracks (turn id) (fun m _ => m ≠ .committing) .arriving

theorem Tally.began (h : Tally id l) (op : Op) (p : Operation Reply) :
    Tally id { l with calls := l.calls ++ [{ op := op, rest := p }] } := by
  have hcount : successors id { l with calls := l.calls ++ [{ op := op, rest := p }] } =
      successors id l := by
    simp [successors]
  have hstands {m : Phase} {other : RouterCall} (hm : m ≠ .arriving)
      (hother : other ∈ l.calls ++ [{ op := op, rest := p }]) (hstands : Stands id m other) :
      other ∈ l.calls := by
    rcases List.mem_append.mp hother with hold | hnew
    · exact hold
    · obtain rfl := List.mem_singleton.mp hnew
      exact absurd (Option.some.inj hstands.stage).symm hm
  have hold {j : Nat} {other : RouterCall}
      (hj : (l.calls ++ [{ op := op, rest := p }])[j]? = some other)
      (hunderway : underway id other = true) : l.calls[j]? = some other := by
    rw [List.getElem?_append] at hj
    split at hj
    · exact hj
    · obtain rfl := List.mem_singleton.mp (List.mem_of_getElem? hj)
      simp [underway] at hunderway
  refine ⟨fun a b c d ha hb hc hd => h.alone a b c d (hold ha hc) (hold hb hd) hc hd,
    fun other hother hother' => ?_, fun other hother hconsider => ?_, ?_, hcount ▸ h.sole⟩
  · refine h.known other ?_ hother'
    rcases hother' with hconsider | hcommit
    · exact hstands (by decide) hother hconsider
    · exact hstands (by decide) hother hcommit
  · rw [hcount]
    exact h.first other (hstands (by decide) hother hconsider) hconsider
  · rw [hcount]
    rcases h.closed with hnone | ⟨other, hother, hcommit⟩ | hgone
    · exact .inl hnone
    · exact .inr (.inl ⟨other, List.mem_append_left _ hother, hcommit⟩)
    · exact .inr (.inr hgone)

theorem Tally.answered (h : Tally id l) (hfollowed : Followed id call)
    (hi : l.calls[i]? = some call) {next : Env → Operation Reply} (hrest : call.rest = .ask next)
    (e : Env) :
    Tally id { l with calls := l.calls.set i { call with rest := next e } } := by
  have hunfinished : call.rest.finished = false := by rw [hrest]; rfl
  have hbefore {m : Phase} (hstands : Stands id m { call with rest := next e }) :
      Stands id m call := ⟨hstands.reroute, hstands.stage, hunfinished⟩
  refine h.amend hi ?_ (UInt64.le_refl _) (fun hgone => hgone) (fun hunderway => .inl ?_)
    (fun hstands => .inl (hbefore hstands)) hbefore fun hstands => .inl ?_
  · rw [successors_set { call with rest := next e } hi rfl (List.append_nil _).symm]
    simp
  · simp only [underway, Bool.and_eq_true] at hunderway
    simp [underway, hunderway.1, hunfinished]
  · refine ⟨hstands.reroute, hstands.stage, ?_⟩
    obtain ⟨m, hm, htracks⟩ := hfollowed hstands.reroute
    obtain rfl := Option.some.inj (hstands.stage.symm.trans hm)
    rw [hrest] at htracks
    exact (htracks e).unfinished fun _ hne => hne rfl

theorem enters_of_look {w : World} {next : World → Operation Reply}
    (hreroute : reroutes id call.op = true) (hstage : phase id call = some .arriving)
    (hrest : call.rest = .act .observe next) (hnext : (next w).finished = false) :
    enters id w call = true := by
  simp [enters, hreroute, (arriving_idle hstage).1, hrest, hnext]

/-- The call after it has taken a section. -/
abbrev taken (call : RouterCall) (next : World → Operation Reply) (e : Event World Act) :
    RouterCall :=
  { call with rest := next e.pre, sections := call.sections ++ [e] }

variable {k : Act} {next : World → Operation Reply}

theorem taken_stage {n : Phase} {e : Event World Act} (hm : phase id call = some m)
    (hn : turn id m e = some n) : phase id (taken call next e) = some n := by
  have hsections : call.sections.foldlM (turn id) .arriving = some m := hm
  simp [phase, List.foldlM_append, hsections, hn]

theorem successors_taken (hi : l.calls[i]? = some call) (e : Event World Act) :
    (successors id ⟨s, l.calls.set i (taken call next e)⟩).length =
      (successors id l).length +
        if reroutes id call.op = true ∧ commitsCurrent e = true then 1 else 0 := by
  refine (successors_set (taken call next e) hi rfl rfl).trans (congrArg _ ?_)
  by_cases hreroute : reroutes id call.op = true
  · cases hcurrent : commitsCurrent e <;> simp [hreroute, hcurrent]
  · simp [hreroute]

theorem successors_kept (hi : l.calls[i]? = some call) {e : Event World Act}
    (h : reroutes id call.op = false ∨ commitsCurrent e = false) :
    (successors id ⟨s, l.calls.set i (taken call next e)⟩).length =
      (successors id l).length := by
  rw [successors_taken hi]
  rcases h with h | h <;> simp [h]

theorem unfinished_of_act (hrest : call.rest = .act k next) : call.rest.finished = false := by
  rw [hrest]
  rfl

theorem Tally.foreign (h : Tally id l) (hi : l.calls[i]? = some call)
    (hother : reroutes id call.op = false) (hk : Harmless id k l.state) :
    Tally id ⟨k.apply l.state, l.calls.set i (taken call next ⟨k, l.state⟩)⟩ := by
  have hnot {m : Phase} {changed : RouterCall} (hop : changed.op = call.op) :
      ¬Stands id m changed := fun hstands => by
    rw [← hop, hstands.reroute] at hother
    cases hother
  refine h.amend hi (successors_kept hi (.inl hother)) hk.mono hk.remains (fun hunderway => ?_)
    (fun hstands => absurd hstands (hnot rfl)) (fun hstands => absurd hstands (hnot rfl))
    fun hstands => absurd hstands (hnot rfl)
  simp only [underway, hother, Bool.false_and, Bool.false_eq_true] at hunderway

theorem Tally.looked (h : Tally id l) (hissued : Issued id l.state)
    (hi : l.calls[i]? = some call) (hreroute : reroutes id call.op = true)
    (hm : phase id call = some .arriving) (hrest : call.rest = .act .observe next)
    (hn : turn id .arriving ⟨.observe, l.state⟩ = some n)
    (henter : enters id l.state call = true → statusOf l.state.state id ≠ some .superseded ∧
      ∀ other ∈ l.calls, underway id other = false) :
    Tally id ⟨l.state, l.calls.set i (taken call next ⟨.observe, l.state⟩)⟩ := by
  have hlooks (hgoes : (next l.state).finished = false) :=
    henter (enters_of_look hreroute hm hrest hgoes)
  have hafter {n' : Phase} (hstands : Stands id n' (taken call next ⟨.observe, l.state⟩)) :
      n' = n := Option.some.inj (hstands.stage.symm.trans (taken_stage hm hn))
  refine h.amend hi (successors_kept hi (.inr rfl)) (UInt64.le_refl _) (fun hgone => hgone)
    (fun hunderway => .inr (hlooks ?_).2) (fun hstands => .inr ?_) (fun hstands => ?_)
    fun hstands => ?_
  · simp only [underway, Bool.and_eq_true, Bool.not_eq_true'] at hunderway
    exact hunderway.2
  · obtain rfl := hafter hstands
    obtain ⟨hstatus, hnone⟩ := hlooks hstands.unfinished
    cases turn_cases hn with
    | found hact hcontains =>
        obtain ⟨stored, hstored⟩ := OrderedMap.contains_iff.mp hcontains
        refine ⟨hissued hcontains, ?_⟩
        rcases h.closed with hzero | ⟨other, hother, hcommits⟩ | hgone
        · exact hzero
        · have hunderway := hcommits.underway (by decide)
          rw [hnone other hother] at hunderway
          cases hunderway
        · have hsuperseded := statusOf_eq hstored
          rw [hgone.status _ hsuperseded] at hsuperseded
          exact absurd hsuperseded hstatus
  · obtain rfl := hafter hstands
    cases turn_cases hn
  · cases hm.symm.trans hstands.stage

/-- The reroute that commits a current decision is the first one to do so, and the only one under
way. -/
theorem Tally.succeeded (h : Tally id l) (hi : l.calls[i]? = some call)
    (hstands : Stands id .considering call) (hk : Harmless id k l.state)
    (hcurrent : commitsCurrent ⟨k, l.state⟩ = true)
    (hafter : Stands id .committing (taken call next ⟨k, l.state⟩)) :
    Tally id ⟨k.apply l.state, l.calls.set i (taken call next ⟨k, l.state⟩)⟩ := by
  have hmem : call ∈ l.calls := List.mem_of_getElem? hi
  have hcount : (successors id ⟨k.apply l.state, l.calls.set i
      (taken call next ⟨k, l.state⟩)⟩).length = 1 := by
    rw [successors_taken hi, h.first call hmem hstands, if_pos ⟨hstands.reroute, hcurrent⟩]
  have hothers {j : Nat} {other : RouterCall} (hj : l.calls[j]? = some other) (hne : j ≠ i) :
      underway id other ≠ true := fun hunderway =>
    hne (h.alone j i other call hj hi hunderway (hstands.underway (by decide)))
  refine ⟨fun a b c d ha hb hc hd => ?_, fun other hother hmoves => ?_,
    fun other hother hconsiders => ?_, .inr (.inl ?_), hcount.le⟩
  · rcases Ledger.set_cases ha with ⟨rfl, rfl⟩ | ⟨hai, hac⟩
    · rcases Ledger.set_cases hb with ⟨rfl, -⟩ | ⟨hbi, hbd⟩
      · rfl
      · exact absurd hd (hothers hbd hbi)
    · exact absurd hc (hothers hac hai)
  · rcases Ledger.mem_set hother with rfl | ⟨j, hne, hj⟩
    · exact UInt64.le_trans (h.known call hmem (.inl hstands)) hk.mono
    · exact UInt64.le_trans (h.known other (List.mem_of_getElem? hj) hmoves) hk.mono
  · rcases Ledger.mem_set hother with rfl | ⟨j, hne, hj⟩
    · cases hconsiders.stage.symm.trans hafter.stage
    · exact absurd (hconsiders.underway (by decide)) (hothers hj hne)
  · exact ⟨_, List.mem_set (List.getElem?_eq_some_iff.mp hi).1 _, hafter⟩

theorem Tally.acted (h : Tally id l) (hid : id.value < kCeiling) (hfollowed : Followed id call)
    (hissued : Issued id l.state) (hi : l.calls[i]? = some call) (hrest : call.rest = .act k next)
    (hspares : Spares id ⟨k, l.state⟩)
    (henter : enters id l.state call = true → statusOf l.state.state id ≠ some .superseded ∧
      ∀ other ∈ l.calls, underway id other = false) :
    Tally id ⟨k.apply l.state, l.calls.set i (taken call next ⟨k, l.state⟩)⟩ := by
  have hk := hspares.harmless hid
  cases hreroute : reroutes id call.op with
  | false => exact h.foreign hi hreroute hk
  | true =>
      obtain ⟨m, hm, htracks⟩ := hfollowed hreroute
      rw [hrest] at htracks
      obtain ⟨n, hn, hnext⟩ := htracks l.state
      have hstands : Stands id m call := ⟨hreroute, hm, unfinished_of_act hrest⟩
      have hbefore {m' : Phase} (hstands' : Stands id m' call) : m' = m :=
        Option.some.inj (hstands'.stage.symm.trans hm)
      have hafter {n' : Phase} (hstands' : Stands id n' (taken call next ⟨k, l.state⟩)) :
          n' = n := Option.some.inj (hstands'.stage.symm.trans (taken_stage hm hn))
      cases turn_cases hn with
      | named hact =>
          obtain rfl : k = .allocate := hact
          refine h.amend hi (successors_kept hi (.inr rfl)) hk.mono hk.remains
            (fun hunderway => ?_) (fun hstands' => absurd (hafter hstands') (by decide))
            (fun hstands' => absurd (hafter hstands') (by decide))
            fun hstands' => absurd (hbefore hstands') (by decide)
          have hidle : (taken call next ⟨.allocate, l.state⟩).sections.any looks = false :=
            (arriving_idle (taken_stage hm hn)).1
          simp only [underway, hidle, Bool.and_false, Bool.false_and,
            Bool.false_eq_true] at hunderway
      | found hact hcontains =>
          obtain rfl : k = .observe := hact
          exact h.looked hissued hi hreroute hm hrest hn henter
      | missed hact =>
          obtain rfl : k = .observe := hact
          exact h.looked hissued hi hreroute hm hrest hn henter
      | lingered hstale =>
          exact h.amend hi (successors_kept hi (.inr hstale)) hk.mono hk.remains
            (fun _ => .inl (hstands.underway (by decide))) (fun _ => .inl hstands)
            (fun hstands' => absurd (hafter hstands') (by decide))
            fun hstands' => absurd (hbefore hstands') (by decide)
      | succeeded hcurrent =>
          exact h.succeeded hi hstands hk hcurrent
            ⟨hreroute, taken_stage hm hn, hnext.unfinished fun _ hne => hne rfl⟩
      | superseded hne hact =>
          obtain rfl := hact
          refine h.amend hi (successors_kept hi (.inr rfl)) hk.mono hk.remains
            (fun _ => .inl (hstands.underway hne))
            (fun hstands' => absurd (hafter hstands') (by decide))
            (fun hstands' => absurd (hafter hstands') (by decide)) fun hstands' => .inr ?_
          exact supersede_sealed (h.known call (List.mem_of_getElem? hi) (.inr hstands'))

end

section

variable {options : ModelRouterOptions} {highest : UInt64} {schedule : List (Choice Op Env)}
variable {l l' : RouterLedger} {call : RouterCall} {k : Act} {next : World → Operation Reply}

theorem Cautious.acted (h : Cautious id call) (hfollowed : Followed id call) {w : World}
    (hreroute : reroutes id call.op = true) (hrest : call.rest = .act k next)
    (henter : enters id w call = true → statusOf w.state id ≠ some .superseded) :
    Cautious id (taken call next ⟨k, w⟩) := by
  intro e he hsuperseded
  have hunfinished := unfinished_of_act hrest
  rw [List.find?_append, Option.mem_def, Option.or_eq_some_iff] at he
  rcases he with hbefore | ⟨hnone, hnow⟩
  · rw [(h e hbefore hsuperseded).1] at hunfinished
    cases hunfinished
  · obtain ⟨hlooks, rfl⟩ : looks ⟨k, w⟩ = true ∧ ⟨k, w⟩ = e := by
      simpa [List.find?_singleton] using hnow
    obtain ⟨m, hm, -⟩ := hfollowed hreroute
    obtain rfl : m = .arriving := by
      by_contra hmoved
      obtain ⟨found, hfound, hlooked⟩ := List.any_eq_true.mp (looked_of_moved hm hmoved)
      exact absurd hlooked (List.find?_eq_none.mp hnone found hfound)
    have hk : k = .observe := by
      cases k with
      | observe => rfl
      | _ => cases hlooks
    subst hk
    constructor
    · by_contra hgoes
      exact henter (enters_of_look hreroute hm hrest (Bool.not_eq_true _ ▸ hgoes)) hsuperseded
    · simp [(arriving_idle hm).2, commitsCurrent]

/-- What holds of the reroutes of a decision in a run whose steps are orderly. -/
structure Kept (id : RouteDecisionId) (l : RouterLedger) : Prop where
  followed : ∀ call ∈ l.calls, Followed id call
  issued : Issued id l.state
  tally : Tally id l
  cautious : ∀ call ∈ l.calls, reroutes id call.op = true → Cautious id call

theorem program_followed (op : Op) (h : reroutes id op = true) :
    (op.program options).Tracks (turn id) (fun m _ => m ≠ .committing) .arriving := by
  cases op with
  | reroute j failure request =>
      obtain rfl : j = id := of_decide_eq_true h
      exact bind_tracks (reroute_tracks options failure request) fun _ _ hm => done_tracks hm
  | _ => cases h

theorem Kept.step (hid : id.value < kCeiling) (h : Kept id l) {c : Choice Op Env}
    (horderly : Orderly id l c) (hstep : Ledger.Step (Op.program options) Act.apply l c l') :
    Kept id l' := by
  have hfollowed : ∀ call ∈ l'.calls, Followed id call :=
    fun call hcall hreroute => hstep.tracks program_followed h.followed call hcall hreroute
  cases hstep with
  | began op =>
      refine ⟨hfollowed, h.issued, h.tally.began op _, fun call hcall hreroute => ?_⟩
      rcases List.mem_append.mp hcall with hold | hnew
      · exact h.cautious call hold hreroute
      · obtain rfl := List.mem_singleton.mp hnew
        intro e he
        cases he
  | idled => exact h
  | @answered i e call next hi hrest =>
      have hmem : call ∈ l.calls := List.mem_of_getElem? hi
      refine ⟨hfollowed, h.issued, h.tally.answered (h.followed call hmem) hi hrest e,
        fun other hother hreroute => ?_⟩
      rcases Ledger.mem_set hother with rfl | ⟨j, -, hj⟩
      · intro found hfound hsuperseded
        have hfinished := (h.cautious call hmem hreroute found hfound hsuperseded).1
        rw [hrest] at hfinished
        cases hfinished
      · exact h.cautious other (List.mem_of_getElem? hj) hreroute
  | @acted i e call k next hi hrest =>
      have hmem : call ∈ l.calls := List.mem_of_getElem? hi
      have henter := horderly.1 call hi
      have hspared : Spares id ⟨k, l.state⟩ := horderly.2 call hi k (by rw [hrest]; rfl)
      refine ⟨hfollowed, issued_after h.issued hspared,
        h.tally.acted hid (h.followed call hmem) h.issued hi hrest hspared henter,
        fun other hother hreroute => ?_⟩
      rcases Ledger.mem_set hother with rfl | ⟨j, -, hj⟩
      · exact (h.cautious call hmem hreroute).acted (h.followed call hmem) hreroute hrest
          fun hgoes => (henter hgoes).1
      · exact h.cautious other (List.mem_of_getElem? hj) hreroute

/-- A fresh router to which no call has been made. -/
def opened (options : ModelRouterOptions) (highest : UInt64) : RouterLedger where
  state := World.fresh options highest

/-- The calls of a schedule over a fresh router. -/
def recorded (options : ModelRouterOptions) (highest : UInt64)
    (schedule : List (Choice Op Env)) : RouterLedger :=
  Ledger.run (Op.program options) Act.apply schedule (opened options highest)

theorem recorded_sections : (recorded options highest schedule).sections.Perm
    (interleaved options highest schedule) :=
  Ledger.run_refines.2

theorem opened_kept : Kept id (opened options highest) where
  followed _ hcall := absurd hcall List.not_mem_nil
  issued hcontains := by cases hcontains
  tally :=
    { alone := fun _ _ _ _ hi => by cases hi
      known := fun _ hcall => absurd hcall List.not_mem_nil
      first := fun _ hcall => absurd hcall List.not_mem_nil
      closed := .inl rfl
      sole := Nat.zero_le 1 }
  cautious _ hcall := absurd hcall List.not_mem_nil

/-- In a run whose steps are orderly a decision has at most one current successor, and no reroute
that found it superseded commits any. -/
theorem one_successor (hid : id.value < kCeiling)
    (h : Ledger.Throughout (Op.program options) Act.apply (Orderly id) (opened options highest)
      schedule) :
    (successors id (recorded options highest schedule)).length ≤ 1 ∧
      ∀ call ∈ (recorded options highest schedule).calls, reroutes id call.op = true →
        ∀ e ∈ call.sections.find? looks, statusOf e.pre.state id = some .superseded →
          call.sections.any commitsCurrent = false := by
  have hkept : Kept id (recorded options highest schedule) :=
    h.invariant opened_kept fun _ _ _ hl horderly hstep => hl.step hid horderly hstep
  exact ⟨hkept.tally.sole, fun call hcall hreroute e he hsuperseded =>
    (hkept.cautious call hcall hreroute e he hsuperseded).2⟩

def deciding : Op → Bool
  | .mutation _ | .route _ | .reroute _ _ _ => true
  | _ => false

def mild : Act → Bool
  | .importState _ | .markStale _ | .finishRevalidate _ _ _ _ | .recordDispatch _ _ _ _ => false
  | _ => true

theorem mild_spares (hk : mild k = true) (w : World) : Spares id ⟨k, w⟩ := by
  cases k with
  | importState canonical => cases hk
  | markStale j => cases hk
  | finishRevalidate j bound comparisonCurrent now => cases hk
  | recordDispatch j epoch coordinatorEpoch record => cases hk
  | _ => exact ⟨not_restores rfl, fun _ => not_false⟩

theorem turn_mild {m n : Phase} {e : Event World Act} (h : turn id m e = some n) :
    mild e.act = true := by
  obtain ⟨k, w⟩ := e
  cases k with
  | importState canonical => cases m <;> cases h
  | markStale j => cases m <;> cases h
  | finishRevalidate j bound comparisonCurrent now => cases m <;> cases h
  | recordDispatch j epoch coordinatorEpoch record => cases m <;> cases h
  | _ => rfl

abbrev Mild {α : Type} (p : Operation α) : Prop :=
  p.Only (fun _ => True) (fun _ => True) fun k => mild k = true

theorem deciding_mild {op : Op} (h : deciding op = true) : Mild (op.program options) := by
  have : Nonempty World := ⟨{}⟩
  have hmutation (m : Mutation) : Mild (Lifecycle.mutation m) :=
    ask_only fun _ _ => perform_only rfl fun _ _ => done_only _
  cases op with
  | mutation m =>
      cases m with
      | updateCapacity evidence detail =>
          refine map_only _ (bind_only (hmutation _) fun result => ?_)
          exact ite_only (perform_only rfl fun _ _ => done_only _) (done_only _)
      | _ => exact map_only _ (hmutation _)
  | route request =>
      have htracks : (route options request).Tracks (turn {}) Tells .considering :=
        route_tracks options request
      exact map_only _ (htracks.only fun _ _ _ => turn_mild)
  | reroute j failure request =>
      exact map_only _ ((reroute_tracks options failure request).only fun _ _ _ => turn_mild)
  | _ => cases h

theorem apart_orderly (hl : ∀ call ∈ l.calls, Mild call.rest)
    (hschedule : ∀ op, .start op ∈ schedule → deciding op = true)
    (h : Ledger.Throughout (Op.program options) Act.apply (Apart id) l schedule) :
    Ledger.Throughout (Op.program options) Act.apply (Orderly id) l schedule := by
  induction schedule generalizing l with
  | nil => trivial
  | cons c cs ih =>
      have hsparing : Sparing id l c := by
        cases c with
        | start op => trivial
        | advance i e =>
            exact fun call hi k hk =>
              mild_spares ((hl call (List.mem_of_getElem? hi)).upcoming hk) l.state
      have hrest : ∀ call ∈ (Ledger.step (Op.program options) Act.apply l c).calls,
          Mild call.rest :=
        (Ledger.step_cases l c).only (fun op hop => deciding_mild
          (hschedule op (hop ▸ List.mem_cons_self))) (fun _ => trivial) (fun _ => trivial) hl
      exact ⟨⟨h.1, hsparing⟩, ih hrest
        (fun op hop => hschedule op (List.mem_cons_of_mem _ hop)) h.2⟩

end

section

instance (id : RouteDecisionId) (e : Event World Act) : Decidable (overwrites id e) :=
  match e with
  | ⟨.markStale j, _⟩ => inferInstanceAs (Decidable (j = id))
  | ⟨.finishRevalidate j _ _ _, _⟩ => inferInstanceAs (Decidable (j = id))
  | ⟨.recordDispatch j epoch coordinatorEpoch _, w⟩ =>
    inferInstanceAs
      (Decidable (j = id ∧ recordsDispatch w.state j epoch coordinatorEpoch = true))
  | ⟨.observe, _⟩ | ⟨.allocate, _⟩ | ⟨.mutate _ _, _⟩ | ⟨.writeCapacityDetail _, _⟩
  | ⟨.admitStart, _⟩ | ⟨.publish _, _⟩ | ⟨.importState _, _⟩ | ⟨.beginShutdown, _⟩
  | ⟨.rejectRoute _ _, _⟩ | ⟨.commit _, _⟩ | ⟨.recordCompletion _, _⟩ | ⟨.supersede _ _ _, _⟩
  | ⟨.store _ _, _⟩ => inferInstanceAs (Decidable False)

instance (id : RouteDecisionId) (e : Event World Act) : Decidable (Spares id e) :=
  decidable_of_iff
    (¬(imports e.act = true ∧ e.pre.state.running = false) ∧
      (statusOf e.pre.state id = some .superseded → ¬overwrites id e))
    ⟨fun h => ⟨h.1, h.2⟩, fun h => ⟨h.unrestored, h.unwritten⟩⟩

instance (id : RouteDecisionId) (l : RouterLedger) :
    (c : Choice Op Env) → Decidable (Apart id l c)
  | .start _ => .isTrue trivial
  | .advance i _ => inferInstanceAs (Decidable (∀ call ∈ l.calls[i]?, _))

instance (id : RouteDecisionId) (l : RouterLedger) :
    (c : Choice Op Env) → Decidable (Sparing id l c)
  | .start _ => .isTrue trivial
  | .advance i _ => inferInstanceAs (Decidable (∀ call ∈ l.calls[i]?, _))

instance (id : RouteDecisionId) (l : RouterLedger) (c : Choice Op Env) :
    Decidable (Orderly id l c) :=
  inferInstanceAs (Decidable (_ ∧ _))

def rerouted (requests : List RouteRequest) : List (Choice Op Env) :=
  inTurn 12 sampleEnv 0
    (pairCatalog ++ [.route sampleRequest] ++ requests.map fun request =>
      .reroute ⟨101⟩ .unknown request)

def longRequest : RouteRequest :=
  { sampleRequest with
    requirements := { sampleRequest.requirements with minContextTokens := 9 } }

theorem sample_one_successor :
    let run := recorded sampleOptions 100 (rerouted [longRequest, sampleRequest])
    (successors ⟨101⟩ run).length ≤ 1 ∧
      ∀ call ∈ run.calls, reroutes ⟨101⟩ call.op = true →
        ∀ e ∈ call.sections.find? looks, statusOf e.pre.state ⟨101⟩ = some .superseded →
          call.sections.any commitsCurrent = false :=
  one_successor (by decide) (by decide +kernel)

/-- A decision that was superseded is rerouted once more, and gets another current successor. -/
theorem second_successor :
    ¬∀ (options : ModelRouterOptions) (highest : UInt64) (schedule : List (Choice Op Env))
        (id : RouteDecisionId), id.value < kCeiling →
      (successors id (recorded options highest schedule)).length ≤ 1 ∧
        ∀ call ∈ (recorded options highest schedule).calls, reroutes id call.op = true →
          ∀ e ∈ call.sections.find? looks, statusOf e.pre.state id = some .superseded →
            call.sections.any commitsCurrent = false := by
  intro h
  have hone := (h sampleOptions 100 (rerouted [sampleRequest, sampleRequest]) ⟨101⟩ (by decide)).1
  have htwo : (successors ⟨101⟩ (recorded sampleOptions 100 (rerouted [sampleRequest, sampleRequest]))).length = 2 := by
    decide +kernel
  rw [htwo] at hone
  exact absurd hone (by decide)

end

end ModelRouter.Successors
