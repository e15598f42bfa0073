/-!
# Binary floating-point numbers

A number of a configuration that is not whole is kept with 53 binary digits.
It is held exactly, as a whole significand times a power of two, so that what is
read from a decimal text is the nearest such number, a tie going to the even
significand.
-/

namespace Registrar

/-- A finite number is `± significand · 2 ^ exponent`, with a significand below
`2 ^ 53`; it has the smallest exponent that its size allows. -/
inductive Binary64 where
  | nan
  | infinite (negative : Bool)
  | finite (negative : Bool) (significand : Nat) (exponent : Int)
  deriving DecidableEq, Inhabited

namespace Binary64

/-- The number of binary digits of a significand. -/
def precision : Nat := 53

def minExponent : Int := -1074
def maxExponent : Int := 971

/-- The whole number nearest to a quotient, the even one of two. -/
def nearestEven (num den : Nat) : Nat :=
  let q := num / den
  let r := num % den
  if 2 * r < den then q
  else if den < 2 * r then q + 1
  else if q % 2 = 0 then q
  else q + 1

/-- The quotient `num / (den · 2 ^ e)` with a whole numerator and denominator. -/
def scaled (num den : Nat) (e : Int) : Nat × Nat :=
  if 0 ≤ e then (num, den <<< e.toNat) else (num <<< (-e).toNat, den)

/-- The exponent at which a positive quotient has all its binary digits. -/
def exponentOf (num den : Nat) : Int :=
  let e : Int := max minExponent ((num.log2 : Int) - den.log2 - precision)
  let (n, d) := scaled num den e
  if n / d < 1 <<< precision then e else e + 1

/-- A rounded significand may have reached the next power of two. -/
def pack (negative : Bool) (m : Nat) (e : Int) : Binary64 :=
  let (m, e) := if m = 1 <<< precision then (m / 2, e + 1) else (m, e)
  if maxExponent < e then .infinite negative else .finite negative m e

/-- The number nearest to a quotient; the denominator is not zero. -/
def ofQuotient (negative : Bool) (num den : Nat) : Binary64 :=
  if num = 0 then .finite negative 0 minExponent
  else
    let e := exponentOf num den
    let (n, d) := scaled num den e
    pack negative (nearestEven n d) e

/-- Beyond these decimal exponents all numbers are infinite or zero. -/
def decimalLimit : Int := 400

/-- The number nearest to `digits · 10 ^ exponent`, where `width` says how many
digits there are. -/
def ofDecimal (negative : Bool) (digits : Nat) (width : Nat) (exponent : Int) :
    Binary64 :=
  if digits = 0 then .finite negative 0 minExponent
  else if decimalLimit < exponent + width then .infinite negative
  else if exponent + width < -decimalLimit then .finite negative 0 minExponent
  else if 0 ≤ exponent then ofQuotient negative (digits * Nat.pow 10 exponent.toNat) 1
  else ofQuotient negative digits (Nat.pow 10 (-exponent).toNat)

def isZero : Binary64 → Bool
  | .finite _ m _ => m == 0
  | _ => false

/-- The size of a finite number as a quotient of whole numbers. -/
def quotient (m : Nat) (e : Int) : Nat × Nat :=
  if 0 ≤ e then (m <<< e.toNat, 1) else (m, 1 <<< (-e).toNat)

/-- The nearest whole number from zero to `bound`, where a half goes up; what is
no number counts as zero. -/
def toNatWithin (bound : Nat) : Binary64 → Nat
  | .nan => 0
  | .infinite true => 0
  | .infinite false => bound
  | .finite true _ _ => 0
  | .finite false m e =>
    let (num, den) := quotient m e
    min bound ((2 * num + den) / (2 * den))

end Binary64

end Registrar
