import Mathlib.Data.List.Basic
import Mathlib.Data.Nat.Basic

namespace ModelRouter.Base.Json

abbrev Octets := List UInt8

/-- A document with integer numbers; the members of an object keep their order. -/
inductive Value where
  | null
  | flag (value : Bool)
  | number (value : Int)
  | string (value : Octets)
  | array (items : List Value)
  | object (members : List (Octets × Value))
deriving Repr

mutual

/-- No object of the document repeats a key. -/
def Value.Distinct : Value → Prop
  | .array items => DistinctItems items
  | .object members => (members.map Prod.fst).Nodup ∧ DistinctMembers members
  | _ => True

def DistinctItems : List Value → Prop
  | [] => True
  | item :: more => item.Distinct ∧ DistinctItems more

def DistinctMembers : List (Octets × Value) → Prop
  | [] => True
  | (_, item) :: more => item.Distinct ∧ DistinctMembers more

end

def isSpace (b : UInt8) : Bool :=
  b == 32 || b == 9 || b == 10 || b == 13

def skip (input : Octets) : Octets :=
  input.dropWhile isSpace

def isDigit (b : UInt8) : Bool :=
  48 ≤ b && b ≤ 57

def hexValue (b : UInt8) : Option UInt8 :=
  if 48 ≤ b ∧ b ≤ 57 then some (b - 48)
  else if 97 ≤ b ∧ b ≤ 102 then some (b - 87)
  else if 65 ≤ b ∧ b ≤ 70 then some (b - 55)
  else none

def readByte : Octets → Option (UInt8 × Octets)
  | 92 :: 34 :: rest => some (34, rest)
  | 92 :: 92 :: rest => some (92, rest)
  | 92 :: 47 :: rest => some (47, rest)
  | 92 :: 98 :: rest => some (8, rest)
  | 92 :: 102 :: rest => some (12, rest)
  | 92 :: 110 :: rest => some (10, rest)
  | 92 :: 114 :: rest => some (13, rest)
  | 92 :: 116 :: rest => some (9, rest)
  | 92 :: 117 :: 48 :: 48 :: high :: low :: rest =>
    (hexValue high).bind fun h => (hexValue low).bind fun l =>
      if h < 8 then some (16 * h + l, rest) else none
  | b :: rest => if b = 34 ∨ b = 92 ∨ b < 32 then none else some (b, rest)
  | [] => none

def readString : Nat → Octets → Option (Octets × Octets)
  | 0, _ => none
  | fuel + 1, input =>
    if input.head? = some 34 then some ([], input.tail)
    else (readByte input).bind fun r =>
      (readString fuel r.2).map fun s => (r.1 :: s.1, s.2)

def value (digits : Octets) : Nat :=
  digits.foldl (fun n b => 10 * n + (b.toNat - 48)) 0

def readNatural (input : Octets) : Option (Nat × Octets) :=
  let digits := input.takeWhile isDigit
  if digits = [] ∨ (digits.head? = some 48 ∧ digits ≠ [48]) then none
  else some (value digits, input.dropWhile isDigit)

def readNumber : Octets → Option (Value × Octets)
  | [] => none
  | b :: rest =>
    if b = 45 then (readNatural rest).map fun r => (.number (-r.1), r.2)
    else (readNatural (b :: rest)).map fun r => (.number r.1, r.2)

def readWord (word : Octets) (v : Value) (input : Octets) : Option (Value × Octets) :=
  if input.take word.length = word then some (v, input.drop word.length) else none

def readKey (input : Octets) : Option (Octets × Octets) :=
  if input.head? = some 34 then
    (readString input.length input.tail).bind fun r =>
      if (skip r.2).head? = some 58 then some (r.1, (skip r.2).tail) else none
  else none

mutual

def readValue : Nat → Octets → Option (Value × Octets)
  | 0, _ => none
  | fuel + 1, input =>
    match skip input with
    | [] => none
    | b :: rest =>
      if b = 34 then (readString (rest.length + 1) rest).map fun r => (.string r.1, r.2)
      else if b = 91 then
        if (skip rest).head? = some 93 then some (.array [], (skip rest).tail)
        else (readValue fuel rest).bind fun first =>
          (readItems fuel first.2).map fun more => (.array (first.1 :: more.1), more.2)
      else if b = 123 then
        if (skip rest).head? = some 125 then some (.object [], (skip rest).tail)
        else (readKey (skip rest)).bind fun key => (readValue fuel key.2).bind fun first =>
          (readMembers fuel first.2).map fun more =>
            (.object ((key.1, first.1) :: more.1), more.2)
      else if b = 116 then readWord [114, 117, 101] (.flag true) rest
      else if b = 102 then readWord [97, 108, 115, 101] (.flag false) rest
      else if b = 110 then readWord [117, 108, 108] .null rest
      else readNumber (b :: rest)

def readItems : Nat → Octets → Option (List Value × Octets)
  | 0, _ => none
  | fuel + 1, input =>
    match skip input with
    | [] => none
    | b :: rest =>
      if b = 93 then some ([], rest)
      else if b = 44 then (readValue fuel rest).bind fun item =>
        (readItems fuel item.2).map fun more => (item.1 :: more.1, more.2)
      else none

def readMembers : Nat → Octets → Option (List (Octets × Value) × Octets)
  | 0, _ => none
  | fuel + 1, input =>
    match skip input with
    | [] => none
    | b :: rest =>
      if b = 125 then some ([], rest)
      else if b = 44 then
        (readKey (skip rest)).bind fun key => (readValue fuel key.2).bind fun item =>
          (readMembers fuel item.2).map fun more => ((key.1, item.1) :: more.1, more.2)
      else none

end

/-- A whole text that is one document. -/
def read (input : Octets) : Option Value :=
  (readValue input.length input).bind fun r => if skip r.2 = [] then some r.1 else none

/-- What follows a number: nothing that would continue it. -/
def Clear (rest : Octets) : Prop :=
  ∀ b ∈ rest.head?, isDigit b = false

theorem Clear.cons {b : UInt8} (h : isDigit b = false) (rest : Octets) : Clear (b :: rest) := by
  intro c hc
  rw [← Option.some.inj hc]
  exact h

theorem skip_cons {b : UInt8} (h : isSpace b = false) (rest : Octets) :
    skip (b :: rest) = b :: rest := by
  simp [skip, h]

def naturalText (n : Nat) : Octets :=
  (Nat.toDigits 10 n).map Char.toUInt8

def numberText : Int → Octets
  | .ofNat n => naturalText n
  | .negSucc n => 45 :: naturalText (n + 1)

theorem digit_byte {d : Nat} (h : d < 10) :
    isDigit (Nat.digitChar d).toUInt8 = true ∧ (Nat.digitChar d).toUInt8.toNat = 48 + d := by
  have hall : ∀ d : Fin 10, isDigit (Nat.digitChar d).toUInt8 = true ∧
      (Nat.digitChar d).toUInt8.toNat = 48 + d := by decide
  exact hall ⟨d, h⟩

theorem naturalText_small {n : Nat} (h : n < 10) :
    naturalText n = [(Nat.digitChar n).toUInt8] := by
  rw [naturalText, Nat.toDigits_of_lt_base h]
  rfl

theorem naturalText_large {n : Nat} (h : 10 ≤ n) :
    naturalText n = naturalText (n / 10) ++ [(Nat.digitChar (n % 10)).toUInt8] := by
  rw [naturalText, Nat.toDigits_of_base_le (by omega) h, List.map_append]
  rfl

theorem value_concat (digits : Octets) (b : UInt8) :
    value (digits ++ [b]) = 10 * value digits + (b.toNat - 48) := by
  simp [value]

theorem naturalText_spec (n : Nat) : (∀ b ∈ naturalText n, isDigit b = true) ∧
    value (naturalText n) = n ∧ naturalText n ≠ [] ∧
    ((naturalText n).head? = some 48 → naturalText n = [48]) := by
  induction n using Nat.strongRecOn with
  | ind n ih =>
      by_cases hsmall : n < 10
      · obtain ⟨hdigit, hvalue⟩ := digit_byte hsmall
        rw [naturalText_small hsmall]
        refine ⟨by simpa using hdigit, ?_, List.cons_ne_nil _ _, ?_⟩
        · simp [value, hvalue]
        · intro hzero
          rw [Option.some.inj hzero]
      · have hlarge : 10 ≤ n := by omega
        obtain ⟨hdigits, hvalue, hne, hzero⟩ := ih (n / 10) (by omega)
        obtain ⟨hdigit, hlast⟩ := digit_byte (Nat.mod_lt n (show 0 < 10 by omega))
        rw [naturalText_large hlarge]
        refine ⟨?_, ?_, by simp, ?_⟩
        · intro b hb
          rcases List.mem_append.mp hb with hb | hb
          · exact hdigits b hb
          · rw [List.mem_singleton.mp hb]
            exact hdigit
        · rw [value_concat, hvalue, hlast]
          omega
        · intro hhead
          rw [List.head?_append_of_ne_nil _ hne] at hhead
          have hvanish := hvalue
          rw [hzero hhead] at hvanish
          change 0 = n / 10 at hvanish
          omega

theorem takeWhile_digits {digits rest : Octets} (hdigits : ∀ b ∈ digits, isDigit b = true)
    (hrest : Clear rest) :
    (digits ++ rest).takeWhile isDigit = digits ∧ (digits ++ rest).dropWhile isDigit = rest := by
  rw [List.takeWhile_append_of_pos hdigits, List.dropWhile_append_of_pos hdigits]
  cases rest with
  | nil => simp
  | cons b rest =>
      have hb := hrest b rfl
      simp [hb]

theorem readNatural_text (n : Nat) {rest : Octets} (hrest : Clear rest) :
    readNatural (naturalText n ++ rest) = some (n, rest) := by
  obtain ⟨hdigits, hvalue, hne, hzero⟩ := naturalText_spec n
  obtain ⟨htake, hdrop⟩ := takeWhile_digits hdigits hrest
  rw [readNatural, htake, hdrop, hvalue, if_neg]
  rintro (hnil | ⟨hhead, hlong⟩)
  · exact hne hnil
  · exact hlong (hzero hhead)

theorem naturalText_head (n : Nat) : ∃ b t, naturalText n = b :: t ∧ isDigit b = true := by
  obtain ⟨hdigits, -, hne, -⟩ := naturalText_spec n
  obtain ⟨b, t, hcons⟩ := List.exists_cons_of_ne_nil hne
  exact ⟨b, t, hcons, hdigits b (by rw [hcons]; exact List.mem_cons_self)⟩

theorem readNumber_text (n : Int) {rest : Octets} (hrest : Clear rest) :
    readNumber (numberText n ++ rest) = some (.number n, rest) := by
  cases n with
  | ofNat n =>
      obtain ⟨b, t, hcons, hb⟩ := naturalText_head n
      have hread := readNatural_text n hrest
      rw [hcons] at hread
      have hsign : b ≠ 45 := by
        rintro rfl
        cases hb
      rw [numberText, hcons, List.cons_append, readNumber, if_neg hsign, ← List.cons_append,
        hread]
      rfl
  | negSucc n =>
      rw [numberText, List.cons_append, readNumber, if_pos rfl, readNatural_text _ hrest]
      rfl

theorem numberText_head (n : Int) :
    ∃ b t, numberText n = b :: t ∧ (b = 45 ∨ isDigit b = true) := by
  cases n with
  | ofNat n =>
      obtain ⟨b, t, hcons, hb⟩ := naturalText_head n
      exact ⟨b, t, hcons, .inr hb⟩
  | negSucc n => exact ⟨45, _, rfl, .inl rfl⟩

theorem isSpace_of_head {b : UInt8} (h : b = 45 ∨ isDigit b = true) : isSpace b = false := by
  cases hs : isSpace b with
  | false => rfl
  | true =>
      simp only [isSpace, Bool.or_eq_true, beq_iff_eq] at hs
      rcases h with rfl | h
      · simp at hs
      · rcases hs with ((rfl | rfl) | rfl) | rfl <;> cases h

/-- A way to write the bytes of a string that the reader undoes. -/
structure Escaping where
  write : UInt8 → Octets
  taken (b : UInt8) (rest : Octets) : readByte (write b ++ rest) = some (b, rest)

namespace Escaping

variable (e : Escaping)

def string (s : Octets) : Octets :=
  s.flatMap e.write

mutual

def print : Value → Octets
  | .null => [110, 117, 108, 108]
  | .flag true => [116, 114, 117, 101]
  | .flag false => [102, 97, 108, 115, 101]
  | .number n => numberText n
  | .string s => 34 :: e.string s ++ [34]
  | .array [] => [91, 93]
  | .array (first :: more) => 91 :: print first ++ printItems more
  | .object [] => [123, 125]
  | .object ((key, first) :: more) =>
    123 :: 34 :: e.string key ++ 34 :: 58 :: print first ++ printMembers more

def printItems : List Value → Octets
  | [] => [93]
  | item :: more => 44 :: print item ++ printItems more

def printMembers : List (Octets × Value) → Octets
  | [] => [125]
  | (key, item) :: more =>
    44 :: 34 :: e.string key ++ 34 :: 58 :: print item ++ printMembers more

end

theorem write_ne_nil (b : UInt8) : e.write b ≠ [] := by
  intro h
  have htaken := e.taken b []
  rw [h] at htaken
  cases htaken

theorem write_head (b : UInt8) (rest : Octets) : (e.write b ++ rest).head? ≠ some 34 := by
  intro h
  have htaken := e.taken b rest
  obtain ⟨tail, ht⟩ := List.head?_eq_some_iff.mp h
  rw [ht] at htaken
  simp [readByte] at htaken

theorem length_le_string (s : Octets) : s.length ≤ (e.string s).length := by
  induction s with
  | nil => exact Nat.le_refl _
  | cons b s ih =>
      have hpos := List.length_pos_iff.mpr (e.write_ne_nil b)
      simp only [string, List.flatMap_cons, List.length_append, List.length_cons] at ih ⊢
      omega

theorem readString_string (s rest : Octets) {fuel : Nat} (hfuel : s.length < fuel) :
    readString fuel (e.string s ++ 34 :: rest) = some (s, rest) := by
  induction s generalizing fuel with
  | nil =>
      obtain ⟨fuel, rfl⟩ := Nat.exists_eq_add_of_lt hfuel
      simp [string, readString]
  | cons b s ih =>
      cases fuel with
      | zero => omega
      | succ fuel =>
          have htail := ih (Nat.lt_of_succ_lt_succ hfuel)
          rw [string] at htail
          rw [string, List.flatMap_cons, List.append_assoc, readString, if_neg (e.write_head _ _),
            e.taken, Option.bind_some, htail]
          rfl

theorem print_head (v : Value) :
    ∃ b t, e.print v = b :: t ∧ isSpace b = false ∧ b ≠ 93 ∧ b ≠ 125 := by
  cases v with
  | null => exact ⟨_, _, rfl, rfl, by decide, by decide⟩
  | flag value =>
      cases value with
      | true => exact ⟨_, _, rfl, rfl, by decide, by decide⟩
      | false => exact ⟨_, _, rfl, rfl, by decide, by decide⟩
  | number n =>
      obtain ⟨b, t, hcons, hb⟩ := numberText_head n
      refine ⟨b, t, hcons, isSpace_of_head hb, ?_, ?_⟩ <;>
      · rintro rfl
        rcases hb with hb | hb <;> cases hb
  | string s => exact ⟨_, _, rfl, rfl, by decide, by decide⟩
  | array items =>
      cases items with
      | nil => exact ⟨_, _, rfl, rfl, by decide, by decide⟩
      | cons first more => exact ⟨_, _, rfl, rfl, by decide, by decide⟩
  | object members =>
      cases members with
      | nil => exact ⟨_, _, rfl, rfl, by decide, by decide⟩
      | cons first more => exact ⟨_, _, rfl, rfl, by decide, by decide⟩

theorem skip_print (v : Value) (rest : Octets) :
    skip (e.print v ++ rest) = e.print v ++ rest ∧ (e.print v ++ rest).head? ≠ some 93 := by
  obtain ⟨b, t, hcons, hspace, hclose, -⟩ := e.print_head v
  rw [hcons, List.cons_append, skip_cons hspace]
  exact ⟨rfl, fun h => hclose (Option.some.inj h)⟩

theorem printItems_clear (items : List Value) (rest : Octets) :
    Clear (e.printItems items ++ rest) := by
  cases items with
  | nil => exact Clear.cons rfl _
  | cons item more => exact Clear.cons rfl _

theorem printMembers_clear (members : List (Octets × Value)) (rest : Octets) :
    Clear (e.printMembers members ++ rest) := by
  cases members with
  | nil => exact Clear.cons rfl _
  | cons item more => exact Clear.cons rfl _

theorem readKey_print (key rest : Octets) :
    readKey (34 :: e.string key ++ 34 :: 58 :: rest) = some (key, rest) := by
  have hlen := e.length_le_string key
  have hstring : readString (34 :: (e.string key ++ 34 :: 58 :: rest)).length
      (e.string key ++ 34 :: 58 :: rest) = some (key, 58 :: rest) :=
    e.readString_string key _ (by simp; omega)
  rw [List.cons_append, readKey, List.head?_cons, if_pos rfl, List.tail_cons, hstring]
  simp [skip, isSpace]

theorem readValue_number (n : Int) (fuel : Nat) {rest : Octets} (hrest : Clear rest) :
    readValue (fuel + 1) (numberText n ++ rest) = some (.number n, rest) := by
  have hread := readNumber_text n hrest
  obtain ⟨b, t, hcons, hb⟩ := numberText_head n
  rw [hcons, List.cons_append] at hread ⊢
  have hother : b ≠ 34 ∧ b ≠ 91 ∧ b ≠ 123 ∧ b ≠ 116 ∧ b ≠ 102 ∧ b ≠ 110 := by
    refine ⟨?_, ?_, ?_, ?_, ?_, ?_⟩ <;>
    · rintro rfl
      rcases hb with hb | hb <;> cases hb
  rw [readValue, skip_cons (isSpace_of_head hb)]
  simp only [hother, if_false, hread]

theorem readValue_string (s : Octets) (fuel : Nat) (rest : Octets) :
    readValue (fuel + 1) (34 :: e.string s ++ [34] ++ rest) = some (.string s, rest) := by
  have hlen := e.length_le_string s
  have hstring : readString ((e.string s ++ 34 :: rest).length + 1) (e.string s ++ 34 :: rest) =
      some (s, rest) :=
    e.readString_string s rest (by simp; omega)
  rw [List.append_assoc, List.cons_append, readValue, skip_cons rfl]
  simp only [if_true, List.cons_append, List.nil_append, hstring, Option.map_some]

mutual

theorem readValue_print : ∀ (v : Value) (fuel : Nat) (rest : Octets),
    (e.print v).length ≤ fuel → Clear rest → readValue fuel (e.print v ++ rest) = some (v, rest)
  | v, 0, _, hfuel, _ => by
      obtain ⟨b, t, hcons, -⟩ := e.print_head v
      rw [hcons] at hfuel
      exact absurd hfuel (Nat.not_succ_le_zero _)
  | .null, _ + 1, _, _, _ => rfl
  | .flag true, _ + 1, _, _, _ => rfl
  | .flag false, _ + 1, _, _, _ => rfl
  | .number n, fuel + 1, _, _, hrest => readValue_number n fuel hrest
  | .string s, fuel + 1, rest, _, _ => e.readValue_string s fuel rest
  | .array [], _ + 1, _, _, _ => rfl
  | .array (first :: more), fuel + 1, rest, hfuel, _ => by
      rw [print, List.length_append, List.length_cons] at hfuel
      obtain ⟨hskip, hopen⟩ := e.skip_print first (e.printItems more ++ rest)
      have hfirst := readValue_print first fuel (e.printItems more ++ rest) (by omega)
        (e.printItems_clear more rest)
      have hmore := readItems_print more fuel rest (by omega)
      rw [print, List.append_assoc, List.cons_append, readValue, skip_cons rfl]
      simp [-List.head?_append, hskip, hopen, hfirst, hmore]
  | .object [], _ + 1, _, _, _ => rfl
  | .object ((key, first) :: more), fuel + 1, rest, hfuel, _ => by
      simp only [print, List.length_append, List.length_cons] at hfuel
      have hfirst := readValue_print first fuel (e.printMembers more ++ rest) (by omega)
        (e.printMembers_clear more rest)
      have hmore := readMembers_print more fuel rest (by omega)
      have hkey := e.readKey_print key (e.print first ++ (e.printMembers more ++ rest))
      rw [List.cons_append] at hkey
      have hshape : e.print (.object ((key, first) :: more)) ++ rest = 123 :: 34 ::
          (e.string key ++ 34 :: 58 :: (e.print first ++ (e.printMembers more ++ rest))) := by
        simp [print]
      rw [hshape, readValue, skip_cons rfl]
      simp [skip_cons, isSpace, hkey, hfirst, hmore]

theorem readItems_print : ∀ (items : List Value) (fuel : Nat) (rest : Octets),
    (e.printItems items).length ≤ fuel →
    readItems fuel (e.printItems items ++ rest) = some (items, rest)
  | [], 0, _, hfuel => absurd hfuel (by simp [printItems])
  | _ :: _, 0, _, hfuel => absurd hfuel (by simp [printItems])
  | [], _ + 1, _, _ => rfl
  | item :: more, fuel + 1, rest, hfuel => by
      rw [printItems, List.length_append, List.length_cons] at hfuel
      have hitem := readValue_print item fuel (e.printItems more ++ rest) (by omega)
        (e.printItems_clear more rest)
      have hmore := readItems_print more fuel rest (by omega)
      rw [printItems, List.append_assoc, List.cons_append, readItems, skip_cons rfl]
      simp [hitem, hmore]

theorem readMembers_print : ∀ (members : List (Octets × Value)) (fuel : Nat) (rest : Octets),
    (e.printMembers members).length ≤ fuel →
    readMembers fuel (e.printMembers members ++ rest) = some (members, rest)
  | [], 0, _, hfuel => absurd hfuel (by simp [printMembers])
  | _ :: _, 0, _, hfuel => absurd hfuel (by simp [printMembers])
  | [], _ + 1, _, _ => rfl
  | (key, item) :: more, fuel + 1, rest, hfuel => by
      simp only [printMembers, List.length_append, List.length_cons] at hfuel
      have hitem := readValue_print item fuel (e.printMembers more ++ rest) (by omega)
        (e.printMembers_clear more rest)
      have hmore := readMembers_print more fuel rest (by omega)
      have hkey := e.readKey_print key (e.print item ++ (e.printMembers more ++ rest))
      rw [List.cons_append] at hkey
      have hshape : e.printMembers ((key, item) :: more) ++ rest = 44 :: 34 ::
          (e.string key ++ 34 :: 58 :: (e.print item ++ (e.printMembers more ++ rest))) := by
        simp [printMembers]
      rw [hshape, readMembers, skip_cons rfl]
      simp [skip_cons, isSpace, hkey, hitem, hmore]

end

theorem read_print (v : Value) : read (e.print v) = some v := by
  have hread := e.readValue_print v (e.print v).length [] (Nat.le_refl _) (by simp [Clear])
  rw [List.append_nil] at hread
  rw [read, hread]
  rfl

theorem print_injective : Function.Injective e.print := by
  intro v w h
  have hread := e.read_print v
  rw [h, e.read_print w] at hread
  exact (Option.some.inj hread).symm

/-- A text the escaping leaves alone. -/
def Plain (s : Octets) : Prop :=
  ∀ b ∈ s, e.write b = [b]

theorem string_plain {s : Octets} (h : e.Plain s) : e.string s = s := by
  induction s with
  | nil => rfl
  | cons b s ih =>
      have htail := ih fun c hc => h c (List.mem_cons_of_mem _ hc)
      rw [Escaping.string] at htail
      rw [Escaping.string, List.flatMap_cons, h b List.mem_cons_self, htail]
      rfl

def printMember (m : Octets × Value) : Octets :=
  34 :: e.string m.1 ++ 34 :: 58 :: e.print m.2

theorem print_array (items : List Value) :
    e.print (.array items) = 91 :: ([44].intercalate (items.map e.print) ++ [93]) := by
  cases items with
  | nil => rfl
  | cons first more =>
      induction more generalizing first with
      | nil => simp [print, printItems]
      | cons second more ih =>
          have hmore := ih second
          simp only [print, List.map_cons, List.cons_append, List.cons.injEq, true_and] at hmore
          simp [print, printItems, hmore]

theorem print_object (members : List (Octets × Value)) :
    e.print (.object members) = 123 :: ([44].intercalate (members.map e.printMember) ++ [125]) := by
  cases members with
  | nil => rfl
  | cons first more =>
      induction more generalizing first with
      | nil => simp [print, printMembers, printMember]
      | cons second more ih =>
          have hmore := ih second
          have hopen (first : Octets × Value) (more : List (Octets × Value)) :
              e.print (.object (first :: more)) =
                123 :: (e.printMember first ++ e.printMembers more) := by
            simp [print, printMember]
          rw [hopen, List.cons.injEq] at hmore
          rw [hopen, List.map_cons, List.map_cons, List.intercalate_cons_cons, List.append_assoc,
            List.append_assoc, ← List.map_cons, ← hmore.2]
          simp [printMembers, printMember]

end Escaping

end ModelRouter.Base.Json
