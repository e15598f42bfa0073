import Registrar.Number.Binary64
import Registrar.Text.Digits

/-!
# Shortest decimal form

A number is written with the fewest decimal digits that read back as the same
number, and of those the ones nearest to it.  There is no exponent, however long
the text becomes, and a whole number has no decimal point.
-/

namespace Registrar

namespace Binary64

open Text

/-- Seventeen digits are always enough. -/
def maxDigits : Nat := 17

/-- The number of digits before the decimal point of `num / den`, zero or less
for a number below one: the least `k` with `num / den < 10 ^ k`. -/
def magnitude (num den : Nat) : Int :=
  if den ≤ num then (digits (num / den)).length
  else 1 - (digits ((den - 1) / num)).length

/-- A decimal `coefficient · 10 ^ exponent`. -/
structure Decimal where
  coefficient : Nat
  exponent : Int

/-- The two decimals with the given exponent around `num / den`, the nearer one
first; of two that are equally near the larger one is. -/
def neighbours (num den : Nat) (exponent : Int) : List Decimal :=
  let (n, d) :=
    if 0 ≤ exponent then (num, den * Nat.pow 10 exponent.toNat)
    else (num * Nat.pow 10 (-exponent).toNat, den)
  let low : Decimal := ⟨n / d, exponent⟩
  let high : Decimal := ⟨n / d + 1, exponent⟩
  if 2 * (n % d) < d then [low, high] else [high, low]

def readsBack (m : Nat) (e : Int) (x : Decimal) : Bool :=
  ofDecimal false x.coefficient (digits x.coefficient).length x.exponent == .finite false m e

/-- Tries one digit more until a decimal reads back. -/
def shortestFrom (m : Nat) (e : Int) (num den : Nat) (top : Int) :
    (tries : Nat) → (count : Nat) → Decimal
  | 0, _ => ⟨0, 0⟩
  | tries + 1, count =>
    match (neighbours num den (top - count)).find? (readsBack m e) with
    | some x => x
    | none => shortestFrom m e num den top tries (count + 1)

def shortest (m : Nat) (e : Int) : Decimal :=
  let (num, den) := quotient m e
  shortestFrom m e num den (magnitude num den) maxDigits 1

/-- A decimal without an exponent; zeros at the end of a fraction are not
written. -/
def Decimal.toText (x : Decimal) : List Char :=
  let ds := digits x.coefficient
  if 0 ≤ x.exponent then ds ++ List.replicate x.exponent.toNat '0'
  else
    let places := (-x.exponent).toNat
    let ds := List.replicate (places + 1 - ds.length) '0' ++ ds
    let whole := ds.take (ds.length - places)
    let fraction := ds.drop (ds.length - places)
    match (fraction.reverse.dropWhile (· == '0')).reverse with
    | [] => whole
    | fraction => whole ++ '.' :: fraction

def signed (negative : Bool) (s : List Char) : List Char :=
  if negative then '-' :: s else s

def toText : Binary64 → List Char
  | .nan => ['N', 'a', 'N']
  | .infinite negative => signed negative ['i', 'n', 'f']
  | .finite negative m e =>
    signed negative (if m = 0 then ['0'] else (shortest m e).toText)

end Binary64

end Registrar
