import Registrar.Text.Hex
import Registrar.Text.Pieces

/-!
# Ranges and runs of characters

The tables of characters are rows of numbers in base sixteen with white space
between them.  A range has a first number and a length, and may carry a class; a
run has as well the distance between its characters.
-/

namespace Registrar.Idna

open Text

def isGap (c : Char) : Bool :=
  c == ' ' || c == '\n'

def numbers (table : String) : List Nat :=
  let s := table.toList.map fun c => if isGap c then ' ' else c
  ((splitAt ' ' s).filter (· ≠ [])).map fun ds =>
    ds.foldl (fun n c => 16 * n + (hexValue? c).getD 0) 0

structure Range where
  first : Nat
  count : Nat
  kind : Nat := 0

def Range.has (r : Range) (n : Nat) : Bool :=
  r.first ≤ n && n < r.first + r.count

/-- A run of characters, each of which stands for one other. -/
structure Run where
  first : Nat
  count : Nat
  step : Nat
  target : Nat

def Run.image? (r : Run) (n : Nat) : Option Nat :=
  if r.first ≤ n ∧ (n - r.first) % r.step = 0 ∧ (n - r.first) / r.step < r.count then
    some (r.target + (n - r.first))
  else none

/-- Ranges by their distance from the end of the one before. -/
def rangesAfter (stop : Nat) : List Nat → List Range
  | gap :: count :: rest =>
    ⟨stop + gap, count, 0⟩ :: rangesAfter (stop + gap + count) rest
  | _ => []

def kindsAfter (stop : Nat) : List Nat → List Range
  | gap :: count :: kind :: rest =>
    ⟨stop + gap, count, kind⟩ :: kindsAfter (stop + gap + count) rest
  | _ => []

def ranges (table : String) : List Range :=
  rangesAfter 0 (numbers table)

def kinds (table : String) : List Range :=
  kindsAfter 0 (numbers table)

def contains (rs : List Range) (n : Nat) : Bool :=
  rs.any (·.has n)

def kind? (rs : List Range) (n : Nat) : Option Nat :=
  (rs.find? (·.has n)).map Range.kind

end Registrar.Idna
