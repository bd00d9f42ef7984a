import ModelRouter.Base.Disk
import ModelRouter.Settings

namespace ModelRouter.FileStore

open Base Bytes Ids Outcome Limits Persistence Stored RecordCodec StateStore Canonical Images
open RoundTrip Readmission Sizes Durability Settings
open Disk (Op Linked Holds Spares)
open Register (Update Run)

/-- Which of its calls to the system a save gets through, and how much of the image is in the file
before it is flushed. -/
structure SaveCalls where
  opens : Bool := true
  writes : Bool := true
  flushes : Bool := true
  syncs : Bool := true
  closes : Bool := true
  renames : Bool := true
  removes : Bool := true
  early : Nat := 0
deriving DecidableEq, Repr

/-- Which of its calls to the system a load gets through. -/
structure LoadCalls where
  opens : Bool := true
  seeks : Bool := true
  tells : Bool := true
  reads : Bool := true
deriving DecidableEq, Repr

def temporary (path : Text) : Text :=
  path ++ text ".tmp"

def staged (path : Text) (image : List UInt8) (early : Nat) : List (Op Text) :=
  [.create (temporary path), .write (temporary path) (image.take early),
    .write (temporary path) image, .sync (temporary path)]

def cleared (path : Text) (calls : SaveCalls) : List (Op Text) :=
  if calls.removes then [.remove (temporary path)] else []

def writeImageAtomic (path : Text) (image : List UInt8) (calls : SaveCalls) :
    List (Op Text) × Option Text :=
  let ops := staged path image calls.early
  let cleared := cleared path calls
  if !calls.opens then ([], some "cannot open the temporary state file for writing")
  else if !calls.writes then
    (ops.take 2 ++ cleared, some "short write while writing the state image")
  else if !calls.flushes then
    (ops.take 2 ++ cleared, some "flush failed while writing the state image")
  else if !calls.syncs then
    (ops.take 3 ++ cleared, some "durable flush failed while writing the state image")
  else if !calls.closes then
    (ops ++ cleared, some "close failed while writing the state image")
  else if !calls.renames then
    (ops ++ cleared, some "atomic replacement of the state file failed")
  else (ops ++ [.rename (temporary path) path], none)

def readImage (d : Disk Text) (path : Text) (limits : ResourceLimits) (calls : LoadCalls) :
    Except Text (List UInt8) := do
  demand calls.opens "cannot open the state file for reading"
  let some bytes := d.read path | .error "cannot open the state file for reading"
  demand (calls.seeks && calls.tells) "cannot determine the state file size"
  demand (bytes.length ≤ limits.maxPersistenceBytes.toNat)
    "state file exceeds the configured byte limit"
  demand (bytes.isEmpty || calls.reads) "short read while reading the state image"
  return bytes

def save (state : RouterPersistentState) (path : Text) (limits : ResourceLimits)
    (calls : SaveCalls) : List (Op Text) × PersistenceResult :=
  if path.isEmpty then ([], { code := .rejectInvalid, detail := "persistence path is empty" })
  else
    match encode (store state.canonicalize) limits with
    | .error result => ([], result)
    | .ok image =>
      match writeImageAtomic path image.bytes calls with
      | (ops, some error) => (ops, { code := .internalError, detail := error })
      | (ops, none) =>
        (ops,
          { code := .accepted
            detail := text "records=" ++ decimal image.records.toNat ++ text " bytes=" ++
              decimal image.bytes.length })

def load (d : Disk Text) (path : Text) (limits : ResourceLimits) (calls : LoadCalls) :
    Except Refused Loaded := do
  demand (!path.isEmpty) { code := .rejectInvalid, detail := "persistence path is empty" }
  match readImage d path limits calls with
  | .error error => .error { code := .rejectInvalid, detail := error }
  | .ok image => decode image limits

def validateFile (d : Disk Text) (path : Text) (limits : ResourceLimits) (calls : LoadCalls) :
    PersistenceResult :=
  match load d path limits calls with
  | .error refused => { code := refused.code, detail := refused.detail }
  | .ok _ => { code := .accepted }

/-- What happens to a disk: a save, a save that is cut off before its next step, a crash. -/
inductive Event where
  | save (state : RouterPersistentState) (path : Text) (limits : ResourceLimits)
      (calls : SaveCalls)
  | cut (state : RouterPersistentState) (path : Text) (limits : ResourceLimits)
      (calls : SaveCalls) (done : Nat)
  | crash (pick : Nat) (garbage : Nat → List UInt8)

namespace Event

def after (d : Disk Text) : Event → Disk Text
  | save state path limits calls => d.steps (FileStore.save state path limits calls).1
  | cut state path limits calls done =>
    d.steps ((FileStore.save state path limits calls).1.take done)
  | crash pick garbage => d.crash pick garbage

/-- What becomes of the file under a path: an accepted save writes its state to it, and one that is
cut off once the temporary file is renamed; no other save does. -/
def updates (path : Text) : Event → List (Update (RouterPersistentState × ResourceLimits))
  | save state other limits calls =>
    if other = path ∧ (FileStore.save state other limits calls).2.ok = true then
      [.write (state, limits)]
    else []
  | cut state other limits calls done =>
    if other = path ∧
        Op.rename (temporary path) path ∈ (FileStore.save state other limits calls).1.take done then
      [.write (state, limits)]
    else []
  | crash _ _ => [.crash]

/-- No save uses the path for its temporary file. -/
def Spares (path : Text) : Event → Prop
  | save _ other _ _ | cut _ other _ _ _ => temporary other ≠ path
  | crash _ _ => True

end Event

/-- The bytes a state is saved as. -/
def imageOf (saved : RouterPersistentState × ResourceLimits) : List UInt8 :=
  match encode (store saved.1.canonicalize) saved.2 with
  | .ok image => image.bytes
  | .error _ => []

def run (events : List Event) (d : Disk Text) : Disk Text :=
  events.foldl Event.after d

section

variable {state : RouterPersistentState} {path name : Text} {limits : ResourceLimits}
  {calls : SaveCalls} {d : Disk Text} {op : Op Text}
  {r : Register (RouterPersistentState × ResourceLimits)}
  {image : List UInt8} {ops : List (Op Text)} {early : Nat}

theorem temporary_ne (path : Text) : temporary path ≠ path := by
  intro h
  have hlength := congrArg List.length h
  rw [temporary, List.length_append] at hlength
  have htmp : (text ".tmp").length = 4 := by decide +kernel
  omega

theorem staged_spares (hname : temporary path ≠ name) (hop : op ∈ staged path image early) :
    Disk.Spares name op := by
  simp only [staged, List.mem_cons, List.not_mem_nil, or_false] at hop
  rcases hop with rfl | rfl | rfl | rfl <;> exact hname

theorem writeImageAtomic_cases (path : Text) (image : List UInt8) (calls : SaveCalls) :
    (∃ ops error, writeImageAtomic path image calls = (ops, some error) ∧
        ∀ name ≠ temporary path, ∀ op ∈ ops, Disk.Spares name op) ∨
      writeImageAtomic path image calls =
        (staged path image calls.early ++ [.rename (temporary path) path], none) := by
  have hstaged (n : Nat) (name : Text) (hname : name ≠ temporary path) :
      ∀ op ∈ (staged path image calls.early).take n ++ cleared path calls, Disk.Spares name op := by
    intro op hop
    rcases List.mem_append.mp hop with hop | hop
    · exact staged_spares hname.symm (List.mem_of_mem_take hop)
    · rw [cleared] at hop
      split at hop
      · obtain rfl := List.mem_singleton.mp hop
        exact hname.symm
      · cases hop
  have hwhole := hstaged (staged path image calls.early).length
  rw [List.take_length] at hwhole
  unfold writeImageAtomic
  split_ifs
  · exact .inl ⟨_, _, rfl, fun _ _ op hop => absurd hop List.not_mem_nil⟩
  · exact .inl ⟨_, _, rfl, hstaged 2⟩
  · exact .inl ⟨_, _, rfl, hstaged 2⟩
  · exact .inl ⟨_, _, rfl, hstaged 3⟩
  · exact .inl ⟨_, _, rfl, hwhole⟩
  · exact .inl ⟨_, _, rfl, hwhole⟩
  · exact .inr rfl

theorem encode_refuses (s : StoredState) (limits : ResourceLimits) :
    Fails (fun result => result.ok = false) (encode s limits) := by
  have hbounded {w : Put} {detail : Text} :
      Fails (fun result => result.ok = false) (bounded w detail) := by
    intro result h
    cases w with
    | none =>
        cases h
        rfl
    | some bytes => cases h
  have hpayload : Fails (fun result => result.ok = false) (encodePayload limits s.canonicalize) :=
    .bind hbounded fun _ => .bind hbounded fun _ => .bind hbounded fun _ => .bind hbounded fun _ =>
      .bind hbounded fun _ => .done
  exact .bind (.demand rfl) fun _ => .bind hpayload fun _ => .bind (.demand rfl) fun _ =>
    .bind (.demand rfl) fun _ => .done

/-- A save either leaves every file but its temporary one alone and is not accepted, or it writes
the image of its state. -/
theorem save_cases (state : RouterPersistentState) (path : Text) (limits : ResourceLimits)
    (calls : SaveCalls) :
    (∀ name ≠ temporary path, ∀ op ∈ (save state path limits calls).1, Disk.Spares name op) ∧
        (save state path limits calls).2.ok = false ∨
      (save state path limits calls).1 = staged path (imageOf (state, limits)) calls.early ++
          [.rename (temporary path) path] ∧
        (save state path limits calls).2.ok = true ∧ path ≠ [] ∧
        ∃ image, encode (store state.canonicalize) limits = .ok image := by
  unfold save imageOf
  split_ifs with hpath
  · exact .inl ⟨fun _ _ op hop => absurd hop List.not_mem_nil, rfl⟩
  · cases hencode : encode (store state.canonicalize) limits with
    | error result =>
        exact .inl ⟨fun _ _ op hop => absurd hop List.not_mem_nil,
          encode_refuses _ limits result hencode⟩
    | ok image =>
        rcases writeImageAtomic_cases path image.bytes calls with ⟨ops, error, hfailed, hspares⟩ |
          hdone
        · simp only [hfailed]
          exact .inl ⟨hspares, rfl⟩
        · simp only [hdone]
          exact .inr ⟨trivial, rfl, fun hnil => hpath (List.isEmpty_iff.mpr hnil), image, rfl⟩

theorem staged_flushed (d : Disk Text) (path : Text) (image : List UInt8) (early : Nat) :
    ∃ i, (d.steps (staged path image early)).dir (temporary path) = some i ∧
      (d.steps (staged path image early)).flushed i = true ∧
      (d.steps (staged path image early)).content i = image := by
  obtain ⟨i, hi⟩ := Disk.dir_create d (temporary path)
  have hsteps : d.steps (staged path image early) =
      (((d.step (.create (temporary path))).fill i (image.take early)).fill i image).step
        (.sync (temporary path)) := by
    simp only [staged, Disk.steps, List.foldl_cons, List.foldl_nil, Disk.step_write hi]
    rw [Disk.step_write]
    exact hi
  have hfilled : (((d.step (.create (temporary path))).fill i (image.take early)).fill i image).dir
      (temporary path) = some i := hi
  rw [hsteps, Disk.step_sync hfilled]
  exact ⟨i, hi, Function.update_self i true (_ : Nat → Bool), Disk.content_fill _ i image⟩

theorem staged_renamed {held : Register (List UInt8)} (h : Holds path d held)
    (hlinked : Linked d) (image : List UInt8) (early : Nat) :
    Holds path (d.steps (staged path image early ++ [.rename (temporary path) path]))
      ⟨some image, held.current :: held.earlier⟩ := by
  obtain ⟨i, hdir, hflushed, hcontent⟩ := staged_flushed d path image early
  have hbefore : Holds path (d.steps (staged path image early)) held :=
    h.steps hlinked fun op hop => staged_spares (temporary_ne path) hop
  have hafter := hbefore.rename (hlinked.steps _) (temporary_ne path) hdir hflushed
  rw [hcontent] at hafter
  rw [Disk.steps, List.foldl_append]
  exact hafter

theorem take_staged (path : Text) (image : List UInt8) (early done : Nat) :
    (staged path image early ++ [Op.rename (temporary path) path]).take done =
        (staged path image early).take done ∨
      (staged path image early ++ [Op.rename (temporary path) path]).take done =
        staged path image early ++ [Op.rename (temporary path) path] := by
  by_cases hdone : done ≤ (staged path image early).length
  · exact .inl (List.take_append_of_le_length hdone)
  · refine .inr (List.take_of_length_le ?_)
    rw [List.length_append, List.length_singleton]
    omega

theorem save_refines {other : Text} (hother : temporary other ≠ path)
    (h : Holds path d (r.map imageOf)) (hlinked : Linked d) (done : Nat)
    (hops : ops = (save state other limits calls).1.take done) :
    ∃ r', Run r (if other = path ∧ Op.rename (temporary path) path ∈ ops then
        [.write (state, limits)] else []) r' ∧ Holds path (d.steps ops) (r'.map imageOf) := by
  have hbeside (hspares : ∀ op ∈ ops, Disk.Spares path op) :
      ∃ r', Run r (if other = path ∧ Op.rename (temporary path) path ∈ ops then
        [.write (state, limits)] else []) r' ∧ Holds path (d.steps ops) (r'.map imageOf) := by
    have hnot : ¬(other = path ∧ Op.rename (temporary path) path ∈ ops) :=
      fun hboth => (hspares _ hboth.2).2 rfl
    rw [if_neg hnot]
    exact ⟨r, .nil r, h.steps hlinked hspares⟩
  rcases save_cases state other limits calls with ⟨hspares, -⟩ | ⟨hsteps, -⟩
  · refine hbeside fun op hop => hspares path hother.symm op ?_
    exact List.mem_of_mem_take (hops ▸ hop)
  · rw [hsteps] at hops
    rcases take_staged other (imageOf (state, limits)) calls.early done with htake | htake
    · refine hbeside fun op hop => ?_
      rw [hops, htake] at hop
      exact staged_spares hother (List.mem_of_mem_take hop)
    · rw [htake] at hops
      by_cases hpath : other = path
      · subst hpath hops
        rw [if_pos ⟨rfl, by simp⟩]
        exact ⟨_, .single (.write r (state, limits)), staged_renamed h hlinked _ calls.early⟩
      · refine hbeside fun op hop => ?_
        rw [hops] at hop
        rcases List.mem_append.mp hop with hop | hop
        · exact staged_spares hother hop
        · obtain rfl := List.mem_singleton.mp hop
          exact ⟨hother, hpath⟩

theorem accepted_iff_renames (state : RouterPersistentState) (path : Text)
    (limits : ResourceLimits) (calls : SaveCalls) :
    (save state path limits calls).2.ok = true ↔
      Op.rename (temporary path) path ∈ (save state path limits calls).1 := by
  rcases save_cases state path limits calls with ⟨hspares, hrefused⟩ | ⟨hsteps, haccepted, -⟩
  · refine iff_of_false (hrefused ▸ Bool.false_ne_true) fun hmem => ?_
    exact (hspares path (temporary_ne path).symm _ hmem).2 rfl
  · exact iff_of_true haccepted (by simp [hsteps])

theorem Event.refines (e : Event) (hspares : e.Spares path) (h : Holds path d (r.map imageOf))
    (hlinked : Linked d) :
    ∃ r', Run r (e.updates path) r' ∧ Holds path (e.after d) (r'.map imageOf) ∧
      Linked (e.after d) := by
  cases e with
  | save state other limits calls =>
      have hwhole := (List.take_length (l := (FileStore.save state other limits calls).1)).symm
      obtain ⟨r', hrun, hholds⟩ := save_refines hspares h hlinked _ hwhole
      refine ⟨r', ?_, hholds, hlinked.steps _⟩
      have hiff : other = path ∧ (FileStore.save state other limits calls).2.ok = true ↔
          other = path ∧
            Op.rename (temporary path) path ∈ (FileStore.save state other limits calls).1 :=
        and_congr_right fun hpath => hpath ▸ accepted_iff_renames state other limits calls
      simp only [Event.updates, hiff]
      exact hrun
  | cut state other limits calls done =>
      obtain ⟨r', hrun, hholds⟩ := save_refines hspares h hlinked done rfl
      exact ⟨r', hrun, hholds, hlinked.steps _⟩
  | crash pick garbage =>
      obtain ⟨value, hvalue, hholds⟩ := h.crash hlinked pick garbage
      obtain ⟨v, hv, rfl⟩ := Register.mem_map.mp hvalue
      exact ⟨_, .single (.crash r v hv), hholds, hlinked.crash pick garbage⟩

theorem run_refines {events : List Event} (hspares : ∀ e ∈ events, e.Spares path)
    (h : Holds path d (r.map imageOf)) (hlinked : Linked d) :
    ∃ r', Run r (events.flatMap (·.updates path)) r' ∧
      Holds path (run events d) (r'.map imageOf) := by
  induction events generalizing d r with
  | nil => exact ⟨r, .nil r, h⟩
  | cons e events ih =>
      obtain ⟨hfirst, hrest⟩ := List.forall_mem_cons.mp hspares
      obtain ⟨r', hrun, hholds, hlinked'⟩ := e.refines hfirst h hlinked
      obtain ⟨r'', hruns, hend⟩ := ih hrest hholds hlinked'
      exact ⟨r'', hrun.append hruns, hend⟩

end

/-- The canonical states whose images can be loaded under the limits. -/
def Readable (limits : ResourceLimits) (s : StoredState) : Prop :=
  persistenceHeaderBytes + payloadBytes s ≤ limits.maxPersistenceBytes.toNat ∧
    payloadBytes s ≤ limits.maxPayloadBytes.toNat ∧
    (StateFits limits s ∧ recordTotal s ≤ limits.maxPersistenceRecords.toNat) ∧
    (reloaded s).validate limits = none

section

variable {state : RouterPersistentState} {path : Text} {limits limits' : ResourceLimits}
  {calls : LoadCalls} {d : Disk Text} {image : List UInt8} {loaded : Loaded} {e : Event}

end

section

end

end ModelRouter.FileStore
