/-!
# Letters and digits for any text

A label with characters outside ASCII is written with ASCII letters and digits:
first its ASCII characters, then after a hyphen where the others stand, in the
order of their numbers.  Each step is a whole number with digits in base 36; the
weight of a digit adapts to the steps before.
-/

namespace Registrar.Idna.Punycode

def digitChar (d : Nat) : Char :=
  if d < 26 then Char.ofNat (97 + d) else Char.ofNat (22 + d)

def digitValue? (c : Char) : Option Nat :=
  if 'a' ≤ c ∧ c ≤ 'z' then some (c.toNat - 97)
  else if 'A' ≤ c ∧ c ≤ 'Z' then some (c.toNat - 65)
  else if '0' ≤ c ∧ c ≤ '9' then some (c.toNat - 22)
  else none

/-- The least value of a digit that is not the last one. -/
def threshold (place bias : Nat) : Nat :=
  min 26 (max 1 (place - bias))

theorem threshold_pos (place bias : Nat) : 1 ≤ threshold place bias := by
  unfold threshold
  omega

def adaptLoop (delta place : Nat) : Nat :=
  if 455 < delta then adaptLoop (delta / 35) (place + 36)
  else place + 36 * delta / (delta + 38)
termination_by delta

/-- The bias after a step, when so many characters are in their place. -/
def adapt (delta count : Nat) (isFirst : Bool) : Nat :=
  let delta := if isFirst then delta / 700 else delta / 2
  adaptLoop (delta + delta / count) 0

def firstBias : Nat := 72
def firstNumber : Nat := 128

/-! ## Writing -/

def writeStep (n place bias : Nat) : List Char :=
  let t := threshold place bias
  if n < t then [digitChar n]
  else
    digitChar (t + (n - t) % (36 - t)) ::
      writeStep ((n - t) / (36 - t)) (place + 36) bias
termination_by n
decreasing_by
  have ht := threshold_pos place bias
  exact Nat.lt_of_le_of_lt (Nat.div_le_self _ _) (by omega)

/-- What is known while a label is written: how many characters are written, how
far the last one is back, the bias and the digits in reverse. -/
structure Writing where
  count : Nat
  delta : Nat := 0
  bias : Nat := firstBias
  isFirst : Bool := true
  done : List Char := []

/-- Passes one character on the way to the places of the number `m`. -/
def Writing.pass (m : Nat) (w : Writing) (n : Nat) : Writing :=
  if n < m then { w with delta := w.delta + 1 }
  else if n = m then
    { count := w.count + 1
      bias := adapt w.delta (w.count + 1) w.isFirst
      isFirst := false
      done := (writeStep w.delta 36 w.bias).reverse ++ w.done }
  else w

/-- Writes the places of the given numbers, in rising order. -/
def writeAll (label : List Nat) (least : Nat) (w : Writing) : List Nat → Writing
  | [] => w
  | m :: rest =>
    let w := { w with delta := w.delta + (m - least) * (w.count + 1) }
    let w := label.foldl (Writing.pass m) w
    writeAll label (m + 1) { w with delta := w.delta + 1 } rest

def isBasic (n : Nat) : Bool := n < firstNumber

def encode (label : List Nat) : List Char :=
  let basic := label.filter isBasic
  let others := ((label.filter fun n => !isBasic n).mergeSort (· ≤ ·)).eraseDups
  let w := writeAll label firstNumber { count := basic.length } others
  let front := basic.map Char.ofNat
  (if front = [] then [] else front ++ ['-']) ++ w.done.reverse

/-! ## Reading -/

/-- Takes one whole number, and gives the rest. -/
def takeStep? (bias place weight n : Nat) : List Char → Option (Nat × List Char)
  | [] => none
  | c :: rest => do
    let d ← digitValue? c
    let t := threshold place bias
    let n := n + d * weight
    if d < t then some (n, rest)
    else takeStep? bias (place + 36) (weight * (36 - t)) n rest

def isScalar (n : Nat) : Bool :=
  n < 0xD800 || (0xDFFF < n && n < 0x110000)

/-- Puts the other characters in their places. -/
def readAll? : (fuel : Nat) → (bias number index : Nat) → (isFirst : Bool) →
    (label : List Nat) → List Char → Option (List Nat)
  | _, _, _, _, _, label, [] => some label
  | 0, _, _, _, _, _, _ => none
  | fuel + 1, bias, number, index, isFirst, label, s => do
    let (step, rest) ← takeStep? bias 36 1 0 s
    let count := label.length + 1
    let number := number + (index + step) / count
    let place := (index + step) % count
    if isScalar number then
      readAll? fuel (adapt step count isFirst) number (place + 1) false
        (label.take place ++ number :: label.drop place) rest
    else none

def decode? (s : List Char) : Option (List Nat) :=
  let back := s.reverse
  let digits := (back.takeWhile (· ≠ '-')).reverse
  let front := ((back.dropWhile (· ≠ '-')).drop 1).reverse
  if front.all fun c => isBasic c.toNat then
    readAll? digits.length firstBias firstNumber 0 true (front.map Char.toNat) digits
  else none

end Registrar.Idna.Punycode
