/-!
# Decimal digits

Whole numbers are read and written in base ten with ASCII digits only.
-/

namespace Registrar.Text

def isDigit (c : Char) : Bool :=
  '0' ≤ c && c ≤ '9'

def digitValue (c : Char) : Nat :=
  c.toNat - 48

def digitChar (d : Nat) : Char :=
  Char.ofNat (48 + d % 10)

/-- The digits of a number, most significant first; zero is one digit. -/
def digits (n : Nat) : List Char :=
  if n < 10 then [digitChar n] else digits (n / 10) ++ [digitChar n]
termination_by n

def digitsOfInt : Int → List Char
  | .ofNat n => digits n
  | .negSucc n => '-' :: digits (n + 1)

/-- The number written at least `width` digits wide, with zeros in front. -/
def digitsPadded (width n : Nat) : List Char :=
  List.replicate (width - (digits n).length) '0' ++ digits n

/-- The value of a run of digits. -/
def valueOf (s : List Char) : Nat :=
  s.foldl (fun n c => 10 * n + digitValue c) 0

/-- Reads a non-empty run of digits. -/
def readNat? (s : List Char) : Option Nat :=
  if s ≠ [] ∧ s.all isDigit then some (valueOf s) else none

/-- Reads digits after at most one sign. -/
def readInt? : List Char → Option Int
  | '-' :: s => (readNat? s).map fun n => -(n : Int)
  | '+' :: s => (readNat? s).map Int.ofNat
  | s => (readNat? s).map Int.ofNat

end Registrar.Text
