import Mathlib.Order.Basic
import ModelRouter.Base.Refusal
import Mathlib.Data.List.Sort

namespace ModelRouter.Bytes

open Base.Refusal

abbrev Text := List UInt8

def text (s : String) : Text :=
  s.toUTF8.data.toList

instance : Coe String Text := ⟨text⟩

abbrev violation (condition : Bool) (message : Text) : Option Text :=
  refuse condition message

variable {α : Type}

/-- A stable ascending sort. -/
def stableSort (before : α → α → Bool) (xs : List α) : List α :=
  xs.insertionSort (fun a b => !before b a)

def uniqueFrom (same : α → α → Bool) (x : α) : List α → List α
  | [] => [x]
  | y :: rest => if same x y then uniqueFrom same x rest else x :: uniqueFrom same y rest

def unique (same : α → α → Bool) : List α → List α
  | [] => []
  | x :: rest => uniqueFrom same x rest

/-- `std::binary_search`: the first element not below the value is equivalent to it. -/
def binarySearch [LT α] [DecidableLT α] (xs : List α) (value : α) : Bool :=
  match xs.dropWhile (fun x => (x < value)) with
  | x :: _ => !(value < x)
  | [] => false

def decimal (n : Nat) : Text :=
  text (toString n)

def signedDecimal (n : Int) : Text :=
  text (toString n)

def firstNonempty (a b : Text) : Text :=
  if a.isEmpty then b else a

def boolDigit (b : Bool) : Text :=
  if b then "1" else "0"

end ModelRouter.Bytes
