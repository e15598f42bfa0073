import Registrar.Number.Reading
import Registrar.Settings.Value
import Registrar.Timestamp

/-!
# Numbers, truth values and times in a document

The digits of a number may be grouped by single underscores.  A time is kept as
its text, with `T` before the time of day and no zeros at the end of a fraction.
-/

namespace Registrar.Toml

open Text

/-- Removes the underscores that stand between two digits; no other may be
there. -/
def ungroup? (isDigit : Char → Bool) : List Char → Option (List Char)
  | [] => some []
  | [c] => if isDigit c then some [c] else none
  | c :: '_' :: rest => if isDigit c ∧ rest ≠ [] then (ungroup? isDigit rest).map (c :: ·) else none
  | c :: rest => if isDigit c then (ungroup? isDigit rest).map (c :: ·) else none

/-- A non-empty run of decimal digits. -/
def decimalDigits? (s : List Char) : Option (List Char) :=
  if s = [] then none else ungroup? isDigit s

/-- Whole numbers have no zero in front. -/
def wholeDigits? (s : List Char) : Option (List Char) :=
  (decimalDigits? s).filter fun ds => ds.head? ≠ some '0' || ds.length == 1

def digitOfBase? (base : Nat) (c : Char) : Option Nat :=
  let value :=
    if isDigit c then some (c.toNat - 48)
    else if 'a' ≤ c ∧ c ≤ 'f' then some (c.toNat - 87)
    else if 'A' ≤ c ∧ c ≤ 'F' then some (c.toNat - 55)
    else none
  value.filter (· < base)

/-- A number written in one of the other bases. -/
def inBase? (base : Nat) (s : List Char) : Option Nat :=
  if s = [] then none
  else
    (ungroup? (fun c => (digitOfBase? base c).isSome) s).map fun ds =>
      ds.foldl (fun n c => base * n + (digitOfBase? base c).getD 0) 0

def minInteger : Int := -9223372036854775808
def maxInteger : Int := 9223372036854775807

def isInteger (i : Int) : Bool :=
  minInteger ≤ i && i ≤ maxInteger

def readWhole? (s : List Char) : Option Int :=
  let found : Option Int :=
    match s with
    | '0' :: 'x' :: ds => (inBase? 16 ds).map Int.ofNat
    | '0' :: 'o' :: ds => (inBase? 8 ds).map Int.ofNat
    | '0' :: 'b' :: ds => (inBase? 2 ds).map Int.ofNat
    | s =>
      let (negative, unsigned) := Number.takeSign s
      (wholeDigits? unsigned).map fun ds =>
        if negative then -(Text.valueOf ds : Int) else Text.valueOf ds
  found.filter isInteger

/-- The exponent of a number with the letter before it. -/
def exponent? : List Char → Option Int
  | c :: s =>
    if c = 'e' ∨ c = 'E' then
      let (negative, unsigned) := Number.takeSign s
      (decimalDigits? unsigned).map fun ds =>
        if negative then -(Text.valueOf ds : Int) else Text.valueOf ds
    else none
  | [] => none

def isGroupedDigit (c : Char) : Bool :=
  isDigit c || c == '_'

/-- A number with a fraction, an exponent or both; it must not be too large. -/
def readFraction? (s : List Char) : Option Binary64 := do
  let (negative, unsigned) := Number.takeSign s
  let whole ← wholeDigits? (unsigned.takeWhile isGroupedDigit)
  let (fraction, e) ←
    match unsigned.dropWhile isGroupedDigit with
    | '.' :: rest => do
      let fraction ← decimalDigits? (rest.takeWhile isGroupedDigit)
      match rest.dropWhile isGroupedDigit with
      | [] => some (fraction, 0)
      | rest => (exponent? rest).map fun e => (fraction, e)
    | rest => (exponent? rest).map fun e => ([], e)
  let n := Text.valueOf (whole ++ fraction)
  match Binary64.ofDecimal negative n (digits n).length (e - fraction.length) with
  | .infinite _ => none
  | x => some x

/-- The words for infinity and for no number. -/
def readSpecial? (s : List Char) : Option Binary64 :=
  let (negative, unsigned) := Number.takeSign s
  if unsigned = ['i', 'n', 'f'] then some (.infinite negative)
  else if unsigned = ['n', 'a', 'n'] then some .nan
  else none

/-! ## Dates and times -/

open Timestamp

def takeDate? (s : List Char) : Option (List Char × List Char) := do
  let (year, s) ← takeNat? 4 s
  let s ← takeChar? ['-'] s
  let (month, s) ← takeNat? 2 s
  let s ← takeChar? ['-'] s
  let (day, s) ← takeNat? 2 s
  let date : Date := ⟨year, month, day⟩
  if date.isValid then some (date.toChars, s) else none

/-- The nanoseconds after a point; digits beyond the ninth are dropped. -/
def takeNanos? : List Char → Option (Nat × List Char)
  | '.' :: s =>
    let front := (s.takeWhile isDigit).take 9
    if front = [] then none
    else some (Text.valueOf (front ++ List.replicate (9 - front.length) '0'),
      s.dropWhile isDigit)
  | s => some (0, s)

def takeTime? (s : List Char) : Option (List Char × List Char) := do
  let (hour, s) ← takeNat? 2 s
  let s ← takeChar? [':'] s
  let (minute, s) ← takeNat? 2 s
  let s ← takeChar? [':'] s
  let (second, s) ← takeNat? 2 s
  let (nanos, s) ← takeNanos? s
  if hour ≤ 23 ∧ minute ≤ 59 ∧ second ≤ 60 then
    some (digitsPadded 2 hour ++ ':' :: digitsPadded 2 minute ++
      ':' :: digitsPadded 2 second ++ fractionChars nanos, s)
  else none

/-- An offset from universal time, or nothing. -/
def readZone? : List Char → Option (List Char)
  | [] => some []
  | ['Z'] | ['z'] => some ['Z']
  | sign :: s => do
    let (hours, s) ← takeNat? 2 s
    let s ← takeChar? [':'] s
    let (minutes, s) ← takeNat? 2 s
    let east := sign = '+' ∨ (hours = 0 ∧ minutes = 0)
    if (sign = '+' ∨ sign = '-') ∧ hours ≤ 23 ∧ minutes ≤ 59 ∧ s = [] then
      some ((if east then '+' else '-') :: digitsPadded 2 hours ++
        ':' :: digitsPadded 2 minutes)
    else none

/-- A date, a time of day, or both with or without an offset. -/
def readTime? (s : List Char) : Option (List Char) :=
  match takeDate? s with
  | some (date, []) => some date
  | some (date, c :: rest) =>
    if c = 'T' ∨ c = 't' ∨ c = ' ' then do
      let (time, rest) ← takeTime? rest
      let zone ← readZone? rest
      some (date ++ 'T' :: time ++ zone)
    else none
  | none =>
    match takeTime? s with
    | some (time, []) => some time
    | _ => none

/-- The value of a word that stands for itself. -/
def readScalar? (s : List Char) : Option ConfigValue :=
  if s = "true".toList then some (.bool true)
  else if s = "false".toList then some (.bool false)
  else
    ((readSpecial? s).map .real)
      <|> ((readWhole? s).map .int)
      <|> ((readFraction? s).map .real)
      <|> ((readTime? s).map fun t => .text (String.ofList t))

end Registrar.Toml
