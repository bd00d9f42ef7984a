import Mathlib.Data.List.Basic
import Mathlib.Logic.Function.Basic

namespace ModelRouter.Base

/-- A file system that a crash sets back: the directory as it is seen, the earlier ones a crash may
bring back, and what the files hold, flushed to the device or not. -/
structure Disk (α : Type) where
  dir : α → Option Nat
  earlier : List (α → Option Nat) := []
  content : Nat → List UInt8
  flushed : Nat → Bool
  next : Nat

namespace Disk

inductive Op (α : Type) where
  | create (name : α)
  | write (name : α) (bytes : List UInt8)
  | sync (name : α)
  | rename (old new : α)
  | remove (name : α)
deriving DecidableEq, Repr

open Function (update)

variable {α : Type} [DecidableEq α]

def blank : Disk α where
  dir _ := none
  content _ := []
  flushed _ := true
  next := 0

def read (d : Disk α) (name : α) : Option (List UInt8) :=
  (d.dir name).map d.content

def dirs (d : Disk α) : List (α → Option Nat) :=
  d.dir :: d.earlier

def enter (d : Disk α) (dir : α → Option Nat) : Disk α :=
  { d with dir := dir, earlier := d.dirs }

def fill (d : Disk α) (i : Nat) (bytes : List UInt8) : Disk α :=
  { d with content := update d.content i bytes, flushed := update d.flushed i false }

def step (d : Disk α) : Op α → Disk α
  | .create name =>
    match d.dir name with
    | some i => d.fill i []
    | none =>
      { (d.enter (update d.dir name (some d.next))).fill d.next [] with next := d.next + 1 }
  | .write name bytes =>
    match d.dir name with
    | some i => d.fill i bytes
    | none => d
  | .sync name =>
    match d.dir name with
    | some i => { d with flushed := update d.flushed i true }
    | none => d
  | .rename old new =>
    match d.dir old with
    | some i => d.enter (update (update d.dir new (some i)) old none)
    | none => d
  | .remove name => d.enter (update d.dir name none)

def steps (d : Disk α) (ops : List (Op α)) : Disk α :=
  ops.foldl step d

/-- A crash leaves one of the directories, and anything in files that were not flushed. -/
def crash (d : Disk α) (pick : Nat) (garbage : Nat → List UInt8) : Disk α where
  dir := d.dirs.getD pick d.dir
  content i := if d.flushed i then d.content i else garbage i
  flushed _ := true
  next := d.next

end Disk

/-- A value that is replaced as a whole, with the earlier ones a crash may bring back. -/
structure Register (β : Type) where
  current : Option β := none
  earlier : List (Option β) := []

namespace Register

inductive Update (β : Type) where
  | write (value : β)
  | crash
deriving DecidableEq, Repr

variable {β : Type}

inductive Step : Register β → Update β → Register β → Prop
  | write (r : Register β) (value : β) :
      Step r (.write value) ⟨some value, r.current :: r.earlier⟩
  | crash (r : Register β) (value : Option β) (h : value ∈ r.current :: r.earlier) :
      Step r .crash ⟨value, []⟩

inductive Run : Register β → List (Update β) → Register β → Prop
  | nil (r : Register β) : Run r [] r
  | cons {r s t : Register β} {u : Update β} {us : List (Update β)} (hstep : Step r u s)
      (hrun : Run s us t) : Run r (u :: us) t

variable {r s t : Register β} {u : Update β} {us vs : List (Update β)}

theorem Run.single (h : Step r u s) : Run r [u] s :=
  .cons h (.nil s)

theorem Run.append (h : Run r us s) (h' : Run s vs t) : Run r (us ++ vs) t := by
  induction h with
  | nil r => exact h'
  | cons hstep hrun ih => exact .cons hstep (ih h')

theorem Run.written (h : Run r us s) {value : β}
    (hvalue : some value ∈ s.current :: s.earlier) :
    some value ∈ r.current :: r.earlier ∨ .write value ∈ us := by
  induction h with
  | nil r => exact .inl hvalue
  | cons hstep hrun ih =>
      rcases ih hvalue with hbefore | hlater
      · cases hstep with
        | write written =>
            rcases List.mem_cons.mp hbefore with hnew | hold
            · obtain rfl := Option.some.inj hnew
              exact .inr List.mem_cons_self
            · exact .inl hold
        | crash kept hkept =>
            rw [List.mem_singleton] at hbefore
            exact .inl (hbefore ▸ hkept)
      · exact .inr (List.mem_cons_of_mem _ hlater)

/-- A register of values seen through a function of them. -/
def map {γ : Type} (f : β → γ) (r : Register β) : Register γ :=
  ⟨r.current.map f, r.earlier.map (Option.map f)⟩

theorem mem_map {γ : Type} {f : β → γ} {value : Option γ} :
    value ∈ (r.map f).current :: (r.map f).earlier ↔
      ∃ v ∈ r.current :: r.earlier, v.map f = value :=
  List.mem_map (l := r.current :: r.earlier) (f := Option.map f)

end Register

namespace Disk

open Function (update)

variable {α : Type} {name : α} {d : Disk α} {r : Register (List UInt8)}

/-- No file has two names, and the files that come are new. -/
structure Linked (d : Disk α) : Prop where
  injective : ∀ dir ∈ d.dirs, ∀ a b i, dir a = some i → dir b = some i → a = b
  used : ∀ dir ∈ d.dirs, ∀ a i, dir a = some i → i < d.next

/-- The file under a name is what a register holds, whatever a crash brings back. -/
structure Holds (name : α) (d : Disk α) (r : Register (List UInt8)) : Prop where
  current : d.read name = r.current
  earlier : ∀ dir ∈ d.earlier, (dir name).map d.content ∈ r.current :: r.earlier
  flushed : ∀ dir ∈ d.dirs, ∀ i, dir name = some i → d.flushed i = true
  beside : ∀ dir ∈ d.dirs, ∀ i, dir name = some i → ∀ other ≠ name, d.dir other ≠ some i

/-- The steps that leave the file under a name alone. -/
def Spares (name : α) : Op α → Prop
  | .create other | .write other _ | .sync other | .remove other => other ≠ name
  | .rename old new => old ≠ name ∧ new ≠ name

theorem picked_mem (d : Disk α) (pick : Nat) : d.dirs.getD pick d.dir ∈ d.dirs := by
  rw [List.getD_eq_getElem?_getD]
  cases hpick : d.dirs[pick]? with
  | none => exact List.mem_cons_self
  | some dir => exact List.mem_of_getElem? hpick

theorem mem_dirs_crash {dir : α → Option Nat} {pick : Nat} {garbage : Nat → List UInt8}
    (hmem : dir ∈ (d.crash pick garbage).dirs) : dir ∈ d.dirs := by
  rw [dirs, crash, List.mem_singleton] at hmem
  exact hmem ▸ picked_mem d pick

theorem Linked.crash (h : Linked d) (pick : Nat) (garbage : Nat → List UInt8) :
    Linked (d.crash pick garbage) :=
  ⟨fun dir hmem => h.injective dir (mem_dirs_crash hmem),
    fun dir hmem => h.used dir (mem_dirs_crash hmem)⟩

theorem Holds.crash (h : Holds name d r) (hlinked : Linked d) (pick : Nat)
    (garbage : Nat → List UInt8) :
    ∃ value ∈ r.current :: r.earlier, Holds name (d.crash pick garbage) ⟨value, []⟩ := by
  have hread : (d.crash pick garbage).read name =
      (d.dirs.getD pick d.dir name).map d.content := by
    refine Option.map_congr fun i hi => ?_
    exact if_pos (h.flushed _ (picked_mem d pick) i hi)
  refine ⟨(d.crash pick garbage).read name, ?_, rfl, List.forall_mem_nil _,
    fun _ _ _ _ => rfl, ?_⟩
  · rw [hread]
    rcases List.mem_cons.mp (picked_mem d pick) with hdir | hmem
    · rw [hdir]
      exact List.mem_cons.mpr (.inl h.current)
    · exact h.earlier _ hmem
  · intro dir hmem i hi other hne hsame
    obtain rfl := List.mem_singleton.mp hmem
    exact hne (hlinked.injective _ (picked_mem d pick) other name i hsame hi)

theorem Linked.grow (h : Linked d) : Linked { d with next := d.next + 1 } :=
  ⟨h.injective, fun dir hmem a i hi => Nat.lt_succ_of_lt (h.used dir hmem a i hi)⟩

theorem Linked.enter (h : Linked d) {dir : α → Option Nat}
    (hinjective : ∀ a b i, dir a = some i → dir b = some i → a = b)
    (hused : ∀ a i, dir a = some i → i < d.next) : Linked (d.enter dir) := by
  refine ⟨fun dir' hmem => ?_, fun dir' hmem => ?_⟩
  · rcases List.mem_cons.mp hmem with rfl | hmem
    · exact hinjective
    · exact h.injective dir' hmem
  · rcases List.mem_cons.mp hmem with rfl | hmem
    · exact hused
    · exact h.used dir' hmem

theorem content_fill (d : Disk α) (i : Nat) (bytes : List UInt8) :
    (d.fill i bytes).content i = bytes :=
  (Function.update_self i bytes d.content :)

theorem Holds.fill (h : Holds name d r) {i : Nat} (hi : ∀ dir ∈ d.dirs, dir name ≠ some i)
    (bytes : List UInt8) : Holds name (d.fill i bytes) r := by
  have hcontent (dir : α → Option Nat) (hdir : dir ∈ d.dirs) :
      (dir name).map (d.fill i bytes).content = (dir name).map d.content := by
    cases hname : dir name with
    | none => rfl
    | some j =>
        have hne : j ≠ i := fun hji => hi dir hdir (hji ▸ hname)
        exact congrArg some (Function.update_of_ne hne bytes d.content :)
  refine ⟨?_, ?_, ?_, h.beside⟩
  · exact (hcontent d.dir List.mem_cons_self).trans h.current
  · intro dir hdir
    rw [hcontent dir (List.mem_cons_of_mem _ hdir)]
    exact h.earlier dir hdir
  · intro dir hdir j hj
    have hne : j ≠ i := fun hji => hi dir hdir (hji ▸ hj)
    exact (Function.update_of_ne hne false d.flushed).trans (h.flushed dir hdir j hj)

theorem Holds.enter (h : Holds name d r) {dir : α → Option Nat} (hname : dir name = d.dir name)
    (hothers : ∀ other ≠ name, ∀ i, dir other = some i → ∀ dir' ∈ d.dirs, dir' name ≠ some i) :
    Holds name (d.enter dir) r := by
  refine ⟨(congrArg (Option.map d.content) hname).trans h.current, ?_, ?_, ?_⟩
  · intro dir' hdir'
    rcases List.mem_cons.mp hdir' with rfl | hdir'
    · exact h.current ▸ List.mem_cons_self
    · exact h.earlier dir' hdir'
  · intro dir' hdir' i hi
    rcases List.mem_cons.mp hdir' with rfl | hdir'
    · exact h.flushed d.dir List.mem_cons_self i (hname ▸ hi)
    · exact h.flushed dir' hdir' i hi
  · intro dir' hdir' i hi other hne hsame
    rcases List.mem_cons.mp hdir' with rfl | hdir'
    · exact hothers other hne i hsame d.dir List.mem_cons_self (hname ▸ hi)
    · exact hothers other hne i hsame dir' hdir' hi

variable [DecidableEq α]

def renamed (dir : α → Option Nat) (old new : α) (i : Nat) : α → Option Nat :=
  update (update dir new (some i)) old none

/-- After a rename every file stands under one of the names it had, the renamed one under its new
name. -/
theorem renamed_some {dir : α → Option Nat} {old new a : α} {i j : Nat}
    (h : renamed dir old new i a = some j) : a = new ∧ j = i ∨ a ≠ old ∧ dir a = some j := by
  by_cases hold : a = old
  · rw [hold, renamed, Function.update_self] at h
    cases h
  · rw [renamed, Function.update_of_ne hold] at h
    by_cases hnew : a = new
    · rw [hnew, Function.update_self] at h
      exact .inl ⟨hnew, (Option.some.inj h).symm⟩
    · rw [Function.update_of_ne hnew] at h
      exact .inr ⟨hold, h⟩

theorem created_some {dir : α → Option Nat} {new a : α} {i j : Nat}
    (h : update dir new (some i) a = some j) : a = new ∧ j = i ∨ dir a = some j := by
  by_cases hnew : a = new
  · rw [hnew, Function.update_self] at h
    exact .inl ⟨hnew, (Option.some.inj h).symm⟩
  · rw [Function.update_of_ne hnew] at h
    exact .inr h

theorem removed_some {dir : α → Option Nat} {old a : α} {j : Nat}
    (h : update dir old none a = some j) : dir a = some j := by
  by_cases hold : a = old
  · rw [hold, Function.update_self] at h
    cases h
  · rwa [Function.update_of_ne hold] at h

theorem Linked.step (h : Linked d) (op : Op α) : Linked (d.step op) := by
  have hinjective := h.injective d.dir List.mem_cons_self
  have hused := h.used d.dir List.mem_cons_self
  cases op with
  | create name =>
      simp only [Disk.step]
      cases hdir : d.dir name with
      | some i => exact ⟨h.injective, h.used⟩
      | none =>
          have hentered : Linked ({ d with next := d.next + 1 }.enter
              (update d.dir name (some d.next))) := by
            refine h.grow.enter ?_ ?_
            · intro a b i ha hb
              rcases created_some ha with ⟨haname, hai⟩ | hadir
              · rcases created_some hb with ⟨hbname, -⟩ | hbdir
                · exact haname.trans hbname.symm
                · exact absurd (hused b i hbdir) (hai ▸ Nat.lt_irrefl _)
              · rcases created_some hb with ⟨-, hbi⟩ | hbdir
                · exact absurd (hused a i hadir) (hbi ▸ Nat.lt_irrefl _)
                · exact hinjective a b i hadir hbdir
            · intro a i ha
              rcases created_some ha with ⟨rfl, rfl⟩ | ha
              · exact Nat.lt_succ_self d.next
              · exact Nat.lt_succ_of_lt (hused a i ha)
          exact ⟨hentered.injective, hentered.used⟩
  | write name bytes =>
      simp only [Disk.step]
      cases hdir : d.dir name with
      | some i => exact ⟨h.injective, h.used⟩
      | none => exact h
  | sync name =>
      simp only [Disk.step]
      cases hdir : d.dir name with
      | some i => exact ⟨h.injective, h.used⟩
      | none => exact h
  | rename old new =>
      simp only [Disk.step]
      cases hdir : d.dir old with
      | none => exact h
      | some i =>
          refine h.enter (fun a b j ha hb => ?_) (fun a j ha => ?_)
          · rcases renamed_some ha with ⟨haname, hai⟩ | ⟨haold, hadir⟩
            · rcases renamed_some hb with ⟨hbname, -⟩ | ⟨hbold, hbdir⟩
              · exact haname.trans hbname.symm
              · exact absurd (hinjective b old j hbdir (hai ▸ hdir)) hbold
            · rcases renamed_some hb with ⟨-, hbi⟩ | ⟨hbold, hbdir⟩
              · exact absurd (hinjective a old j hadir (hbi ▸ hdir)) haold
              · exact hinjective a b j hadir hbdir
          · rcases renamed_some ha with ⟨-, rfl⟩ | ⟨-, ha⟩
            · exact hused old j hdir
            · exact hused a j ha
  | remove name =>
      exact h.enter
        (fun a b i ha hb => hinjective a b i (removed_some ha) (removed_some hb))
        (fun a i ha => hused a i (removed_some ha))

theorem Linked.steps (h : Linked d) (ops : List (Op α)) : Linked (d.steps ops) := by
  induction ops generalizing d with
  | nil => exact h
  | cons op ops ih => exact ih (h.step op)

theorem dir_create (d : Disk α) (name : α) : ∃ i, (d.step (.create name)).dir name = some i := by
  simp only [Disk.step]
  cases hdir : d.dir name with
  | some i => exact ⟨i, hdir⟩
  | none => exact ⟨d.next, Function.update_self name _ d.dir⟩

theorem step_write {i : Nat} (h : d.dir name = some i) (bytes : List UInt8) :
    d.step (.write name bytes) = d.fill i bytes := by
  simp only [Disk.step, h]

theorem step_sync {i : Nat} (h : d.dir name = some i) :
    d.step (.sync name) = { d with flushed := update d.flushed i true } := by
  simp only [Disk.step, h]

theorem Holds.step (h : Holds name d r) (hlinked : Linked d) {op : Op α}
    (hop : Spares name op) : Holds name (d.step op) r := by
  have hothers {other : α} (hne : other ≠ name) {i : Nat} (hi : d.dir other = some i) :
      ∀ dir ∈ d.dirs, dir name ≠ some i :=
    fun dir hmem hname => h.beside dir hmem i hname other hne hi
  cases op with
  | create other =>
      have hne : other ≠ name := hop
      simp only [Disk.step]
      cases hdir : d.dir other with
      | some i => exact h.fill (hothers hne hdir) []
      | none =>
          have hfresh : ∀ dir ∈ d.dirs, dir name ≠ some d.next := fun dir hmem hi =>
            Nat.lt_irrefl d.next (hlinked.used dir hmem name d.next hi)
          have hname : update d.dir other (some d.next) name = d.dir name :=
            Function.update_of_ne hne.symm _ d.dir
          have hgrown : Holds name { d with next := d.next + 1 } r :=
            ⟨h.current, h.earlier, h.flushed, h.beside⟩
          refine (hgrown.enter hname ?_).fill ?_ []
          · intro a ha i hi
            rcases created_some hi with ⟨-, rfl⟩ | hi
            · exact hfresh
            · exact hothers ha hi
          · intro dir hmem
            rcases List.mem_cons.mp hmem with rfl | hmem
            · exact fun hi => hfresh d.dir List.mem_cons_self (hname.symm.trans hi)
            · exact hfresh dir hmem
  | write other bytes =>
      simp only [Disk.step]
      cases hdir : d.dir other with
      | some i => exact h.fill (hothers hop hdir) bytes
      | none => exact h
  | sync other =>
      simp only [Disk.step]
      cases hdir : d.dir other with
      | some i =>
          refine ⟨h.current, h.earlier, ?_, h.beside⟩
          intro dir hmem j hj
          by_cases hji : j = i
          · rw [hji]
            exact Function.update_self i true d.flushed
          · exact (Function.update_of_ne hji true d.flushed).trans (h.flushed dir hmem j hj)
      | none => exact h
  | rename old new =>
      obtain ⟨hold, hnew⟩ := hop
      simp only [Disk.step]
      cases hdir : d.dir old with
      | none => exact h
      | some i =>
          refine h.enter ?_ fun a ha j hj => ?_
          · rw [Function.update_of_ne hold.symm, Function.update_of_ne hnew.symm]
          · rcases renamed_some hj with ⟨-, rfl⟩ | ⟨-, hj⟩
            · exact hothers hold hdir
            · exact hothers ha hj
  | remove other =>
      exact h.enter (Function.update_of_ne (Ne.symm hop) none d.dir)
        fun a ha i hi => hothers ha (removed_some hi)

theorem Holds.steps (h : Holds name d r) (hlinked : Linked d) {ops : List (Op α)}
    (hops : ∀ op ∈ ops, Spares name op) : Holds name (d.steps ops) r := by
  induction ops generalizing d with
  | nil => exact h
  | cons op ops ih =>
      obtain ⟨hop, hops⟩ := List.forall_mem_cons.mp hops
      exact ih (h.step hlinked hop) (hlinked.step op) hops

theorem Holds.rename (h : Holds name d r) (hlinked : Linked d) {old : α} (hne : old ≠ name)
    {i : Nat} (hold : d.dir old = some i) (hflushed : d.flushed i = true) :
    Holds name (d.step (.rename old name)) ⟨some (d.content i), r.current :: r.earlier⟩ := by
  have hstep : d.step (.rename old name) = d.enter (renamed d.dir old name i) := by
    simp only [Disk.step, hold, renamed]
  have hname : renamed d.dir old name i name = some i := by
    rw [renamed, Function.update_of_ne hne.symm, Function.update_self]
  have hothers {other : α} {j : Nat} (hother : other ≠ name)
      (hj : renamed d.dir old name i other = some j) : other ≠ old ∧ d.dir other = some j := by
    rcases renamed_some hj with ⟨rfl, -⟩ | hj
    · exact absurd rfl hother
    · exact hj
  rw [hstep]
  refine ⟨congrArg (Option.map d.content) hname, ?_, ?_, ?_⟩
  · intro dir hmem
    refine List.mem_cons_of_mem _ ?_
    rcases List.mem_cons.mp hmem with rfl | hmem
    · exact List.mem_cons.mpr (.inl h.current)
    · exact h.earlier dir hmem
  · intro dir hmem j hj
    rcases List.mem_cons.mp hmem with rfl | hmem
    · exact Option.some.inj (hname.symm.trans hj) ▸ hflushed
    · exact h.flushed dir hmem j hj
  · intro dir hmem j hj other hother hsame
    obtain ⟨hnold, hbefore⟩ := hothers hother hsame
    rcases List.mem_cons.mp hmem with rfl | hmem
    · obtain rfl : i = j := Option.some.inj (hname.symm.trans hj)
      exact hnold (hlinked.injective d.dir List.mem_cons_self other old i hbefore hold)
    · exact h.beside dir hmem j hj other hother hbefore

end Disk

end ModelRouter.Base
