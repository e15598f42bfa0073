import Registrar.Number.Binary64
import Registrar.Text.Digits
import Registrar.Text.Fold

/-!
# Reading numbers

A number is digits with at most one decimal point among them, then perhaps an
exponent; or it is one of the words for infinity and for no number.  A sign may
stand before each of them.
-/

namespace Registrar.Number

open Text

/-- The sign before a number, and the rest. -/
def takeSign : List Char → Bool × List Char
  | '-' :: s => (true, s)
  | '+' :: s => (false, s)
  | s => (false, s)

def words : List (List Char × (Bool → Binary64)) :=
  [("inf".toList, .infinite), ("infinity".toList, .infinite),
    ("nan".toList, fun _ => .nan)]

/-- An exponent that is written out, zero if there is none. -/
def readExponent? : List Char → Option Int
  | [] => some 0
  | c :: s => if c = 'e' ∨ c = 'E' then readInt? s else none

/-- The digits before and after the decimal point, with the exponent. -/
def readDecimal? (negative : Bool) (s : List Char) : Option Binary64 :=
  let whole := s.takeWhile isDigit
  let (fraction, rest) :=
    match s.dropWhile isDigit with
    | '.' :: rest => (rest.takeWhile isDigit, rest.dropWhile isDigit)
    | rest => ([], rest)
  let ds := whole ++ fraction
  if ds = [] then none
  else
    (readExponent? rest).map fun e =>
      Binary64.ofDecimal negative (valueOf ds) (digits (valueOf ds)).length
        (e - fraction.length)

def readReal? (s : List Char) : Option Binary64 :=
  let (negative, s) := takeSign s
  match words.lookup (fold s) with
  | some word => some (word negative)
  | none => readDecimal? negative s

end Registrar.Number
