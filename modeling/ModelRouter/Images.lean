import ModelRouter.Sizes

namespace ModelRouter.Images

open Base Base.Parse Bytes Ids Limits Capability Evidence Catalog Candidate Authority Persistence
open Codec Stored RecordCodec StateStore Readback Sizes
open Base.Put (puts)

variable {α : Type} {c : Prop} {w : Put} {a : α} {limits limits' : ResourceLimits}

theorem readBody_yields {p : Parse Refused α} (h : Reads c w p a) {body : List UInt8}
    (hbody : w = some body) (hlen : body.length < 2 ^ 32) (detail : Text) :
    Yields c (readBody p detail body) a := by
  have hread := h body hbody hlen []
  rw [List.append_nil] at hread
  constructor
  · intro hc
    rw [readBody, run_bind (hread.1 hc)]
    rfl
  · intro hc
    exact failed_settle (hread.2 hc)

def framed (kind : UInt16) (body : List UInt8) : List UInt8 :=
  littleEndian 2 kind.toNat ++ (littleEndian 4 body.length ++ body)

theorem writeRecord_some {kind : UInt16} {body bytes : List UInt8} (hbody : w = some body)
    (hbytes : writeRecord kind w = some bytes) (hlen : bytes.length < 2 ^ 32) :
    bytes = framed kind body := by
  have hwritten : writeRecord kind w = some (littleEndian 2 kind.toNat ++
      (littleEndian 4 (UInt32.ofNat body.length).toNat ++ body)) := by
    rw [writeRecord, hbody]
    simp [Put.seq, Put.word, Word.width, Word.toNat]
  rw [hbytes, Option.some.injEq] at hwritten
  rw [hwritten, toNat_count, framed]
  rw [hwritten] at hlen
  simp only [List.length_append, length_littleEndian] at hlen
  omega

theorem framed_length {kind : UInt16} {body : List UInt8} :
    (framed kind body).length = 6 + body.length := by
  simp only [framed, List.length_append, length_littleEndian]
  omega

theorem readRecords_fuel {fuel fuel' : Nat} {progress : Progress} {payload : List UInt8}
    (h : payload.length ≤ fuel) (h' : payload.length ≤ fuel') :
    readRecords limits fuel progress payload = readRecords limits fuel' progress payload := by
  induction fuel generalizing fuel' progress payload with
  | zero =>
      obtain rfl : payload = [] := List.length_eq_zero_iff.mp (by omega)
      cases fuel' <;> rfl
  | succ fuel ih =>
      match payload, fuel' with
      | [], 0 => rfl
      | [], _ + 1 => rfl
      | x :: xs, 0 => simp at h'
      | x :: xs, fuel' + 1 =>
          have hrest (progress : Progress) (length : Nat) :
              readRecords limits fuel progress (((x :: xs).drop 6).drop length) =
                readRecords limits fuel' progress (((x :: xs).drop 6).drop length) := by
            apply ih <;> simp only [List.length_drop, List.length_cons] at * <;> omega
          simp only [readRecords, hrest]

def readPayload (limits : ResourceLimits) (progress : Progress) (payload : List UInt8) :
    Except Refused Progress :=
  readRecords limits payload.length progress payload

theorem readPayload_framed {kind : UInt16} {body rest : List UInt8} {progress : Progress}
    (hlen : body.length < 2 ^ 32) :
    readPayload limits progress (framed kind body ++ rest) = (do
      demand (progress.seen + 1 ≤ limits.maxPersistenceRecords)
        (overLimit "persistence record count exceeds the configured limit")
      let progress ← readRecord limits { progress with seen := progress.seen + 1 } kind body
      readPayload limits progress rest) := by
  have hkind : numberAt 2 0 (framed kind body ++ rest) = kind.toNat := by
    rw [framed, List.append_assoc]
    exact numberAt_field [] rfl kind.toNat_lt
  have hlength : numberAt 4 2 (framed kind body ++ rest) = body.length := by
    rw [framed, List.append_assoc, List.append_assoc]
    exact numberAt_field _ (length_littleEndian 2 _) hlen
  have hdrop : (framed kind body ++ rest).drop 6 = body ++ rest := by
    rw [framed, ← List.append_assoc, List.append_assoc]
    exact List.drop_left' (by simp)
  have hsize : (framed kind body ++ rest).length = 6 + body.length + rest.length := by
    rw [List.length_append, framed_length]
  have hfuel (progress : Progress) : readRecords limits (5 + body.length + rest.length) progress
      rest = readPayload limits progress rest :=
    readRecords_fuel (by omega) le_rfl
  rw [readPayload, hsize, show 6 + body.length + rest.length =
    (5 + body.length + rest.length) + 1 by omega]
  obtain ⟨x, xs, hx⟩ : ∃ x xs, framed kind body ++ rest = x :: xs := ⟨_, _, rfl⟩
  rw [hx, readRecords, ← hx, hkind, hlength, hdrop, hsize]
  simp only [List.take_left, List.drop_left, UInt16.ofNat_toNat, hfuel]
  have hsix : demand (decide (6 ≤ 6 + body.length + rest.length))
      (malformed "persistence payload ends inside a record header") = .ok () :=
    demand_ok.mpr (by simp; omega)
  have hfits : demand (decide (body.length ≤ (body ++ rest).length))
      (malformed "persistence record length exceeds the remaining payload") = .ok () :=
    demand_ok.mpr (by simp)
  rw [hsix, hfits]
  rfl

theorem seen_next {m : Nat} {bound : UInt32} (h : m + 1 < 2 ^ 32) :
    decide (UInt32.ofNat m + 1 ≤ bound) = true ↔ m + 1 ≤ bound.toNat := by
  have hsucc : UInt32.ofNat m + 1 = UInt32.ofNat (m + 1) := by
    rw [UInt32.ofNat_add]
    rfl
  rw [decide_eq_true_iff, hsucc, UInt32.le_iff_toNat_le, toNat_count h]

theorem readRecord_ok {progress progress' : Progress} {kind : UInt16} {body : List UInt8}
    (h : readRecord limits progress kind body = .ok progress') :
    (progress.haveMeta = false ∧ ∃ state r',
      (readMeta progress.state : Parse Refused _).run ⟨body, none⟩ = (.ok state, r') ∧
        progress' = { progress with state := state, haveMeta := true }) ∨
    (∃ detail record,
      readBody (readModel limits (readProfile limits)) detail body = .ok record ∧
        progress' = { progress with
          state := { progress.state with models := progress.state.models ++ [record] } }) ∨
    (∃ detail record,
      readBody (readBackend limits (readProfile limits) getBool) detail body = .ok record ∧
        progress' = { progress with
          state := { progress.state with backends := progress.state.backends ++ [record] } }) ∨
    (∃ record : StoredFence, progress' = { progress with
      state := { progress.state with fencedBoots := progress.state.fencedBoots ++ [record] } }) ∨
    (∃ record : StoredRoute, progress' = { progress with
      state := { progress.state with routes := progress.state.routes ++ [record] } }) := by
  simp only [readRecord] at h
  split_ifs at h with hmeta hmodel hbackend hfenced hroute
  · obtain ⟨hfirst, h⟩ := demand_bind_ok.mp h
    obtain ⟨state, hstate, h⟩ := bind_ok.mp h
    exact .inl ⟨by simpa using hfirst, state, _, Prod.ext hstate rfl, (Except.ok.inj h).symm⟩
  · obtain ⟨record, hrecord, h⟩ := bind_ok.mp h
    exact .inr (.inl ⟨_, record, hrecord, (Except.ok.inj h).symm⟩)
  · obtain ⟨record, hrecord, h⟩ := bind_ok.mp h
    exact .inr (.inr (.inl ⟨_, record, hrecord, (Except.ok.inj h).symm⟩))
  · obtain ⟨record, hrecord, h⟩ := bind_ok.mp h
    exact .inr (.inr (.inr (.inl ⟨record, (Except.ok.inj h).symm⟩)))
  · obtain ⟨record, hrecord, h⟩ := bind_ok.mp h
    exact .inr (.inr (.inr (.inr ⟨record, (Except.ok.inj h).symm⟩)))

theorem readPayload_invariant {I : Progress → Prop} {progress final : Progress}
    {payload : List UInt8} (hseen : ∀ p n, I p → I { p with seen := n })
    (hstep : ∀ p kind body p', I p → readRecord limits p kind body = .ok p' → I p')
    (h : readPayload limits progress payload = .ok final) (hI : I progress) : I final := by
  have hloop : ∀ fuel progress payload, readRecords limits fuel progress payload = .ok final →
      I progress → I final := by
    intro fuel
    induction fuel with
    | zero =>
        intro progress payload h hI
        cases payload with
        | nil =>
            obtain rfl := Except.ok.inj h
            exact hI
        | cons x xs => cases h
    | succ fuel ih =>
        intro progress payload h hI
        cases payload with
        | nil =>
            obtain rfl := Except.ok.inj h
            exact hI
        | cons x xs =>
            simp only [readRecords, bind_ok, demand_ok, exists_const] at h
            obtain ⟨-, -, -, progress', hrecord, h⟩ := h
            exact ih _ _ h (hstep _ _ _ _ (hseen progress _ hI) hrecord)
  exact hloop _ _ _ h hI

section Records

variable {kind : UInt16} {write : α → Put} {e : α → Prop}
variable (app : StoredState → List α → StoredState)

theorem readPayload_records (hnil : ∀ s, app s [] = s)
    (happ : ∀ s x xs, app (app s [x]) xs = app s (x :: xs)) {xs : List α}
    (hrecord : ∀ x ∈ xs, ∀ body, write x = some body → body.length < 2 ^ 32 → ∀ p : Progress,
      Yields (e x) (readRecord limits p kind body) { p with state := app p.state [x] })
    {bytes rest : List UInt8} {m : Nat} {progress final : Progress} {d : Prop}
    (hbytes : recordsOf kind write xs = some bytes) (hlen : bytes.length < 2 ^ 32)
    (hseen : progress.seen = UInt32.ofNat m) (hm : m + xs.length < 2 ^ 32)
    (hrest : Yields d (readPayload limits
      { progress with state := app progress.state xs, seen := UInt32.ofNat (m + xs.length) }
      rest) final) :
    Yields ((∀ x ∈ xs, e x) ∧ (xs ≠ [] → m + xs.length ≤ limits.maxPersistenceRecords.toNat) ∧ d)
      (readPayload limits progress (bytes ++ rest)) final := by
  induction xs generalizing progress m bytes with
  | nil =>
      rw [recordsOf, List.map_nil, Put.puts_nil, Option.some.injEq] at hbytes
      subst hbytes
      rw [hnil, List.length_nil, Nat.add_zero, ← hseen] at hrest
      exact hrest.congr (by simp)
  | cons x xs ih =>
      obtain ⟨bs, cs, hbs, hcs, rfl⟩ := Put.seq_eq_some.mp hbytes
      rw [List.length_append] at hlen
      rw [List.length_cons] at hm
      obtain ⟨body, hbody, -⟩ := Option.bind_eq_some_iff.mp hbs
      have hframed := writeRecord_some hbody hbs (by omega)
      have hsmall : body.length < 2 ^ 32 := by
        rw [hframed, framed_length] at hlen
        omega
      rw [hframed, List.append_assoc, readPayload_framed hsmall]
      have hnext : progress.seen + 1 = UInt32.ofNat (m + 1) := by
        rw [hseen, UInt32.ofNat_add]
        rfl
      obtain ⟨next, hdef⟩ : ∃ next : Progress, next =
          { progress with state := app progress.state [x], seen := progress.seen + 1 } := ⟨_, rfl⟩
      have htail := ih (fun y hy => hrecord y (List.mem_cons_of_mem x hy)) (m := m + 1)
        hcs (by omega) (show next.seen = _ by rw [hdef]; exact hnext) (by omega)
        (by simpa only [hdef, happ, List.length_cons, Nat.add_assoc, Nat.add_comm 1] using hrest)
      rw [hdef] at htail
      refine Yields.congr (.demand fun _ => .bind
        (hrecord x List.mem_cons_self body hbody hsmall _) fun _ => htail) ?_
      rw [hseen, seen_next (by omega), List.forall_mem_cons]
      rcases xs with _ | ⟨y, ys⟩
      · simp only [List.length_nil, List.length_cons]
        tauto
      · simp only [List.length_cons, ne_eq, reduceCtorEq, not_false_eq_true, forall_const]
        constructor
        · rintro ⟨h1, hx, hxs, h2, hd⟩
          exact ⟨⟨hx, hxs⟩, by omega, hd⟩
        · rintro ⟨⟨hx, hxs⟩, h2, hd⟩
          exact ⟨by omega, hx, hxs, by omega, hd⟩

end Records

theorem meta_read {s : StoredState} {body : List UInt8} {p : Progress}
    (hbody : writeMeta s = some body) (hlen : body.length < 2 ^ 32) (hfirst : p.haveMeta = false)
    (extra : List UInt8) : readRecord limits p kRecordMeta (body ++ extra) =
      .ok { p with state := withMeta s p.state, haveMeta := true } := by
  have hread := (meta_reads (ε := Refused) s p.state body hbody hlen extra).1 trivial
  simp only [readRecord, if_pos, hread, hfirst]
  rfl

theorem meta_yields {s : StoredState} {body : List UInt8} {p : Progress}
    (hbody : writeMeta s = some body) (hlen : body.length < 2 ^ 32) (hfirst : p.haveMeta = false) :
    readRecord limits p kRecordMeta body =
      .ok { p with state := withMeta s p.state, haveMeta := true } := by
  have hread := @meta_read limits s body p hbody hlen hfirst []
  rwa [List.append_nil] at hread

theorem model_yields {m : StoredModel} {body : List UInt8} (hordered : Ordered m.capabilities)
    (hbody : writeModel limits m = some body) (hlen : body.length < 2 ^ 32) (p : Progress) :
    Yields (ModelFits limits' m) (readRecord limits' p kRecordModel body)
      { p with state := { p.state with models := p.state.models ++ [m] } } := by
  rw [readRecord, if_neg (by decide), if_pos rfl]
  exact (readBody_yields (model_reads (profile_reads limits limits' hordered)) hbody hlen _).map _

theorem backend_yields {b : StoredBackend} {body : List UInt8} (hordered : Ordered b.capabilities)
    (hbody : writeBackend limits b = some body) (hlen : body.length < 2 ^ 32) (p : Progress) :
    Yields (BackendFits limits' b) (readRecord limits' p kRecordBackend body)
      { p with state := { p.state with backends := p.state.backends ++ [b] } } := by
  rw [readRecord, if_neg (by decide), if_neg (by decide), if_pos rfl]
  exact (readBody_yields (backend_reads (profile_reads limits limits' hordered) (.ofBool _))
    hbody hlen _).map _

theorem fence_yields {f : StoredFence} {body : List UInt8}
    (hbody : writeFence f = some body) (hlen : body.length < 2 ^ 32) (p : Progress) :
    Yields True (readRecord limits' p kRecordFenced body)
      { p with state := { p.state with fencedBoots := p.state.fencedBoots ++ [f] } } := by
  rw [readRecord, if_neg (by decide), if_neg (by decide), if_neg (by decide), if_pos rfl]
  exact (readBody_yields (fence_reads f) hbody hlen _).map _

theorem route_yields {r : StoredRoute} {body : List UInt8}
    (hbody : writeRoute limits r = some body) (hlen : body.length < 2 ^ 32) (p : Progress) :
    Yields (RouteFits limits' r) (readRecord limits' p kRecordRoute body)
      { p with state := { p.state with routes := p.state.routes ++ [r] } } := by
  rw [readRecord, if_neg (by decide), if_neg (by decide), if_neg (by decide), if_neg (by decide),
    if_pos rfl]
  exact (readBody_yields (route_reads limits limits' r) hbody hlen _).map _

/-- The records the limits of a reader admit. -/
def StateFits (limits : ResourceLimits) (s : StoredState) : Prop :=
  (∀ m ∈ s.models, ModelFits limits m) ∧ (∀ b ∈ s.backends, BackendFits limits b) ∧
    ∀ r ∈ s.routes, RouteFits limits r

/-- Every profile of the state is as its class keeps it. -/
def StateOrdered (s : StoredState) : Prop :=
  (∀ m ∈ s.models, Ordered m.capabilities) ∧ ∀ b ∈ s.backends, Ordered b.capabilities

instance {s : StoredState} : Decidable (StateOrdered s) :=
  inferInstanceAs (Decidable (_ ∧ _))

def reloaded (s : StoredState) : StoredState :=
  { withMeta s {} with
    models := s.models, backends := s.backends, fencedBoots := s.fencedBoots, routes := s.routes }

def recordTotal (s : StoredState) : Nat :=
  1 + s.models.length + s.backends.length + s.fencedBoots.length + s.routes.length

theorem length_le_of_recordsOf {kind : UInt16} {write : α → Put} {xs : List α}
    {bytes : List UInt8} (h : recordsOf kind write xs = some bytes) : xs.length ≤ bytes.length := by
  refine Put.length_le_of_puts (fun x _ hx => ?_) h
  obtain ⟨body, -, hbody⟩ := Option.bind_eq_some_iff.mp hx
  exact Put.seq_ne (Put.word_ne (by decide)) hbody

theorem payload_yields (limits' : ResourceLimits) {s : StoredState} {payload : List UInt8}
    (hordered : StateOrdered s) (hpayload : encodePayload limits s = .ok payload)
    (hlen : payload.length < 2 ^ 32) :
    Yields (StateFits limits' s ∧ recordTotal s ≤ limits'.maxPersistenceRecords.toNat)
      (readPayload limits' {} payload)
      { state := reloaded s, seen := recordCount s, haveMeta := true } := by
  obtain ⟨router, models, backends, fencedBoots, routes, hrouter, hmodels, hbackends, hfences,
    hroutes, rfl⟩ := encodePayload_ok.mp hpayload
  simp only [List.length_append] at hlen
  have hmodelCount := length_le_of_recordsOf hmodels
  have hbackendCount := length_le_of_recordsOf hbackends
  have hfenceCount := length_le_of_recordsOf hfences
  have hrouteCount := length_le_of_recordsOf hroutes
  obtain ⟨body, hbody, -⟩ := Option.bind_eq_some_iff.mp hrouter
  have hframed := writeRecord_some hbody hrouter (by omega)
  have hbodyLen : body.length + 6 = router.length := by
    rw [hframed, framed_length, Nat.add_comm]
  rw [hframed]
  simp only [List.append_assoc]
  rw [readPayload_framed (by omega)]
  rw [← List.append_nil routes]
  have hdone (p : Progress) : Yields True (readPayload limits' p []) p := .done
  have hroute := fun (p : Progress) (m : Nat) (hp : p.seen = UInt32.ofNat m)
      (hm : m + s.routes.length < 2 ^ 32) =>
    readPayload_records (fun state xs => { state with routes := state.routes ++ xs })
      (fun _ => by simp) (fun _ _ _ => by simp)
      (fun r _ body hbody hlen p => route_yields hbody hlen p)
      hroutes (by omega) hp hm (hdone _)
  have hfence := fun (p : Progress) (m : Nat) (hp : p.seen = UInt32.ofNat m)
      (hm : m + s.fencedBoots.length + s.routes.length < 2 ^ 32) =>
    readPayload_records (fun state xs => { state with fencedBoots := state.fencedBoots ++ xs })
      (fun _ => by simp) (fun _ _ _ => by simp)
      (fun f _ body hbody hlen p => fence_yields hbody hlen p)
      hfences (by omega) hp (by omega) (hroute _ _ rfl (by omega))
  have hbackend := fun (p : Progress) (m : Nat) (hp : p.seen = UInt32.ofNat m)
      (hm : m + s.backends.length + s.fencedBoots.length + s.routes.length < 2 ^ 32) =>
    readPayload_records (fun state xs => { state with backends := state.backends ++ xs })
      (fun _ => by simp) (fun _ _ _ => by simp)
      (fun b hb body hbody hlen p => backend_yields (hordered.2 b hb) hbody hlen p)
      hbackends (by omega) hp (by omega) (hfence _ _ rfl (by omega))
  have hmodel := fun (p : Progress) (m : Nat) (hp : p.seen = UInt32.ofNat m)
      (hm : m + s.models.length + s.backends.length + s.fencedBoots.length + s.routes.length <
        2 ^ 32) =>
    readPayload_records (fun state xs => { state with models := state.models ++ xs })
      (fun _ => by simp) (fun _ _ _ => by simp)
      (fun m hm body hbody hlen p => model_yields (hordered.1 m hm) hbody hlen p)
      hmodels (by omega) hp (by omega) (hbackend _ _ rfl (by omega))
  refine Yields.congr (.demand fun _ => .next (meta_yields hbody (by omega) rfl)
    (hmodel _ 1 rfl (by omega))) ?_
  have hfirst : decide (({} : Progress).seen + 1 ≤ limits'.maxPersistenceRecords) = true ↔
      0 + 1 ≤ limits'.maxPersistenceRecords.toNat := seen_next (m := 0) (by omega)
  simp only [hfirst, ne_eq, ← List.length_eq_zero_iff, StateFits, recordTotal]
  constructor
  · rintro ⟨h0, hm, hmc, hb, hbc, -, hfc, hr, hrc, -⟩
    exact ⟨⟨hm, hb, hr⟩, by omega⟩
  · rintro ⟨⟨hm, hb, hr⟩, htotal⟩
    exact ⟨by omega, hm, by omega, hb, by omega, fun _ _ => trivial, by omega, hr, by omega, trivial⟩

end ModelRouter.Images
