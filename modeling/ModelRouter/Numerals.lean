import ModelRouter.Bytes

namespace ModelRouter.Numerals

open Bytes

def IsDigit (b : UInt8) : Prop :=
  48 ≤ b.toNat ∧ b.toNat ≤ 57

instance (b : UInt8) : Decidable (IsDigit b) :=
  inferInstanceAs (Decidable (_ ∧ _))

theorem text_injective {s t : String} (h : text s = text t) : s = t := by
  have hdata : s.toUTF8.data = t.toUTF8.data := Array.toList_inj.mp h
  exact String.toByteArray_inj.mp (ByteArray.ext hdata)

theorem text_append (s t : String) : text (s ++ t) = text s ++ text t := by
  simp only [text, String.toUTF8_eq_toByteArray, String.toByteArray_append, ByteArray.data_append,
    Array.toList_append]

theorem text_singleton {c : Char} (hsize : c.utf8Size = 1) : text (String.ofList [c]) = [c.toUInt8] := by
  simp [text, List.utf8Encode_singleton, String.utf8EncodeChar_eq_singleton hsize]

theorem ascii_digit {c : Char} (h : c.isDigit = true) : c.utf8Size = 1 ∧ IsDigit c.toUInt8 := by
  have hbounds : 48 ≤ c.toNat ∧ c.toNat ≤ 57 := Char.isDigit_iff_toNat.mp h
  have hval : c.val.toNat = c.toNat := rfl
  constructor
  · rw [Char.utf8Size_eq_one_iff]
    change c.val.toNat ≤ 127
    omega
  · have hbyte : c.toUInt8.toNat = c.toNat := by
      simp only [Char.toUInt8, UInt32.toNat_toUInt8]
      omega
    rwa [IsDigit, hbyte]

theorem text_digits {cs : List Char} (h : ∀ c ∈ cs, c.isDigit = true) :
    text (String.ofList cs) = cs.map Char.toUInt8 := by
  induction cs with
  | nil => rfl
  | cons c cs ih =>
      rw [List.forall_mem_cons] at h
      have hcons : String.ofList (c :: cs) = String.ofList [c] ++ String.ofList cs := by
        rw [← String.ofList_append]
        rfl
      rw [hcons, text_append, text_singleton (ascii_digit h.1).1, ih h.2]
      rfl

theorem decimal_eq (n : Nat) : decimal n = (Nat.toDigits 10 n).map Char.toUInt8 := by
  rw [decimal, Nat.toString_eq_ofList_toDigits]
  exact text_digits fun c hc => Nat.isDigit_of_mem_toDigits (by omega) (by omega) hc

theorem decimal_digit {n : Nat} {b : UInt8} (h : b ∈ decimal n) : IsDigit b := by
  rw [decimal_eq] at h
  obtain ⟨c, hc, rfl⟩ := List.mem_map.mp h
  exact (ascii_digit (Nat.isDigit_of_mem_toDigits (by omega) (by omega) hc)).2

theorem not_mem_decimal {b : UInt8} (h : ¬IsDigit b) (n : Nat) : b ∉ decimal n :=
  fun hmem => h (decimal_digit hmem)

theorem decimal_injective {n m : Nat} (h : decimal n = decimal m) : n = m := by
  have hdigits := text_injective h
  rw [Nat.toString_eq_ofList_toDigits, Nat.toString_eq_ofList_toDigits, String.ofList_inj] at hdigits
  have hvalue := congrArg (fun ds => Nat.ofDigitChars 10 ds 0) hdigits
  simpa only [Nat.ofDigitChars_ten_toDigits] using hvalue

theorem signedDecimal_neg (n : Nat) : signedDecimal (Int.negSucc n) = 45 :: decimal (n + 1) := by
  have hrepr : toString (Int.negSucc n) = "-" ++ toString (n + 1) := rfl
  rw [signedDecimal, hrepr, text_append]
  rfl

theorem signedDecimal_byte {n : Int} {b : UInt8} (h : b ∈ signedDecimal n) : b = 45 ∨ IsDigit b := by
  cases n with
  | ofNat n => exact .inr (decimal_digit h)
  | negSucc n =>
      rw [signedDecimal_neg] at h
      exact (List.mem_cons.mp h).imp id decimal_digit

theorem not_mem_signedDecimal {b : UInt8} (hsign : b ≠ 45) (h : ¬IsDigit b) (n : Int) :
    b ∉ signedDecimal n :=
  fun hmem => (signedDecimal_byte hmem).elim hsign h

theorem signedDecimal_injective {n m : Int} (h : signedDecimal n = signedDecimal m) : n = m := by
  have hsigned (k l : Nat) : decimal k ≠ 45 :: decimal l := by
    intro hsame
    have hdigit := decimal_digit (hsame ▸ List.mem_cons_self : (45 : UInt8) ∈ decimal k)
    exact absurd hdigit.1 (by decide)
  cases n with
  | ofNat n =>
      cases m with
      | ofNat m => exact congrArg Int.ofNat (decimal_injective h)
      | negSucc m => exact absurd (h.trans (signedDecimal_neg m)) (hsigned _ _)
  | negSucc n =>
      cases m with
      | ofNat m => exact absurd (h.symm.trans (signedDecimal_neg n)) (hsigned _ _)
      | negSucc m =>
          rw [signedDecimal_neg, signedDecimal_neg] at h
          have hvalue := decimal_injective (List.cons.inj h).2
          rw [Nat.succ.inj hvalue]

theorem boolDigit_eq (b : Bool) : boolDigit b = [if b then 49 else 48] := by
  cases b with
  | true => decide
  | false => decide

theorem not_mem_boolDigit {c : UInt8} (h : ¬IsDigit c) (b : Bool) : c ∉ boolDigit b := by
  rw [boolDigit_eq, List.mem_singleton]
  rintro rfl
  cases b with
  | true => exact h (by decide)
  | false => exact h (by decide)

theorem boolDigit_split {b b' : Bool} {x y : Text} (h : boolDigit b ++ x = boolDigit b' ++ y) :
    b = b' ∧ x = y := by
  rw [boolDigit_eq, boolDigit_eq] at h
  obtain ⟨hdigit, hrest⟩ := List.cons.inj h
  refine ⟨?_, hrest⟩
  cases b with
  | true =>
      cases b' with
      | true => rfl
      | false => exact absurd hdigit (by decide)
  | false =>
      cases b' with
      | true => exact absurd hdigit (by decide)
      | false => rfl

theorem boolDigit_injective {b b' : Bool} (h : boolDigit b = boolDigit b') : b = b' :=
  (boolDigit_split (congrArg (· ++ []) h)).1

end ModelRouter.Numerals
