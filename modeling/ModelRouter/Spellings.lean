import ModelRouter.Base.Spelling
import ModelRouter.Images

namespace ModelRouter.Spellings

open Base Base.Parse Bytes Ids Limits Capability Evidence Catalog Candidate Authority
open Codec Stored RecordCodec Readback
open Base.Put (puts seq)

variable {ε : Type}

/-! What stands in the bytes a reader takes. The two readers of this section admit one spelling
only, where the loader's own readers admit several. -/

def readOrderedProfile (limits : ResourceLimits) : Parse Unit CapabilityProfile := do
  let id ← getId
  let generation ← getGeneration
  let count ← getU32
  settle ()
  refuse (count > limits.maxCapabilityEntries) ()
  let entries ← many (getCapability limits) count.toNat
  refuse (!decide (Ordered { entries := entries })) ()
  return { id := id, generation := generation, entries := entries }

def readFlag : Parse Refused Bool := do
  let byte ← getU8
  refuse (byte > 1) (malformed [])
  return byte != 0

theorem readBody_run {α : Type} {p : Parse Refused α} {a : α} {detail : Text}
    {body : List UInt8} (h : readBody p detail body = .ok a) :
    p.run ⟨body, none⟩ = (.ok a, ⟨[], none⟩) := by
  obtain ⟨r', hrun⟩ : ∃ r', (p >>= fun record => settle (malformed detail) >>= fun _ =>
      exhaust (malformed detail) >>= fun _ => pure record).run ⟨body, none⟩ = (.ok a, r') :=
    ⟨_, Prod.ext h rfl⟩
  obtain ⟨a', r₁, hread, hrun⟩ := run_bind_ok hrun
  obtain ⟨u, r₂, hsettle, hrun⟩ := run_bind_ok hrun
  obtain ⟨v, r₃, hexhaust, hrun⟩ := run_bind_ok hrun
  obtain rfl := Except.ok.inj (Prod.mk.inj hrun).1
  obtain ⟨hfault, rfl⟩ := Prod.mk.inj hsettle
  obtain ⟨hempty, -⟩ := Prod.mk.inj hexhaust
  have hnone : r₁.fault = none := by
    by_contra hne
    rw [if_neg hne] at hfault
    cases hfault
  have hnil : r₁.rest = [] := by
    by_contra hne
    rw [if_neg (by simpa using hne)] at hempty
    cases hempty
  rw [hread, ← hnone, ← hnil]

theorem readMeta_returns (state : StoredState) :
    Returns (fun s => s = withMeta s state) (readMeta state : Parse ε _) := by
  iterate 29 refine .next fun _ => ?_
  exact .done rfl

end ModelRouter.Spellings
