import Registrar.Text.Digits

/-!
# Instants and civil days

An instant is a count of nanoseconds from the start of 1970 in UTC.  Days are
the blocks of 86400 seconds counted from the same point, before it too, and
have names in the Gregorian calendar extended to all years.

An instant is *representable* between the first and the last one of the range
below; a day may be nameable although its midnight lies outside that range.
-/

namespace Registrar

structure Timestamp where
  nanos : Int
  deriving DecidableEq, Inhabited

structure Date where
  year : Int
  month : Nat
  day : Nat
  deriving DecidableEq, Inhabited

namespace Timestamp

open Text

def nanosPerSecond : Int := 1000000000
def secondsPerDay : Int := 86400
def nanosPerDay : Int := secondsPerDay * nanosPerSecond

instance : LT Timestamp where
  lt a b := a.nanos < b.nanos

instance : LE Timestamp where
  le a b := a.nanos ≤ b.nanos

instance (a b : Timestamp) : Decidable (a < b) :=
  inferInstanceAs (Decidable (a.nanos < b.nanos))

instance (a b : Timestamp) : Decidable (a ≤ b) :=
  inferInstanceAs (Decidable (a.nanos ≤ b.nanos))

/-- `-009999-01-02T01:59:59Z` -/
def least : Timestamp := ⟨-377705023201 * 1000000000⟩

/-- `9999-12-30T22:00:00.999999999Z` -/
def greatest : Timestamp := ⟨253402207200 * 1000000000 + 999999999⟩

/-- The instant, if it is representable. -/
def ofNanos? (n : Int) : Option Timestamp :=
  if least.nanos ≤ n ∧ n ≤ greatest.nanos then some ⟨n⟩ else none

/-- The number of the UTC day an instant lies in. -/
def dayNumber (instant : Timestamp) : Int :=
  instant.nanos / nanosPerDay

/-- The midnight that starts a day. -/
def midnight? (day : Int) : Option Timestamp :=
  ofNanos? (day * nanosPerDay)

end Timestamp

namespace Date

/-- The number of days from 1970-01-01 to a civil date.  Years are counted from
March, so that a leap day ends its year. -/
def toDays (d : Date) : Int :=
  let year := if d.month ≤ 2 then d.year - 1 else d.year
  let month : Int := (d.month + 9) % 12
  let era := year / 400
  let yearOfEra := year % 400
  let dayOfYear := (153 * month + 2) / 5 + d.day - 1
  let dayOfEra := yearOfEra * 365 + yearOfEra / 4 - yearOfEra / 100 + dayOfYear
  era * 146097 + dayOfEra - 719468

/-- The civil date of a day number. -/
def ofDays (days : Int) : Date :=
  let z := days + 719468
  let era := z / 146097
  let dayOfEra := z % 146097
  let yearOfEra :=
    (dayOfEra - dayOfEra / 1460 + dayOfEra / 36524 - dayOfEra / 146096) / 365
  let dayOfYear := dayOfEra - (365 * yearOfEra + yearOfEra / 4 - yearOfEra / 100)
  let shifted := (5 * dayOfYear + 2) / 153
  let day := dayOfYear - (153 * shifted + 2) / 5 + 1
  let month := (shifted + 2) % 12 + 1
  let year := yearOfEra + era * 400 + if month ≤ 2 then 1 else 0
  ⟨year, month.toNat, day.toNat⟩

def isLeap (year : Int) : Bool :=
  year % 4 == 0 && (year % 100 != 0 || year % 400 == 0)

def daysInMonth (year : Int) (month : Nat) : Nat :=
  if month = 2 then (if isLeap year then 29 else 28)
  else if month = 4 ∨ month = 6 ∨ month = 9 ∨ month = 11 then 30
  else 31

/-- The last day that has a name. -/
def last : Date := ⟨9999, 12, 31⟩

def isValid (d : Date) : Bool :=
  -9999 ≤ d.year && d.year ≤ 9999 && 1 ≤ d.month && d.month ≤ 12 &&
    1 ≤ d.day && d.day ≤ daysInMonth d.year d.month

/-- Years from 0 to 9999 have four digits, the others a sign and six. -/
def yearChars (year : Int) : List Char :=
  if 0 ≤ year ∧ year ≤ 9999 then Text.digitsPadded 4 year.toNat
  else (if year < 0 then '-' else '+') :: Text.digitsPadded 6 year.natAbs

def toChars (d : Date) : List Char :=
  yearChars d.year ++ '-' :: Text.digitsPadded 2 d.month ++
    '-' :: Text.digitsPadded 2 d.day

def toText (d : Date) : String :=
  String.ofList d.toChars

end Date

namespace Timestamp

open Text

def date (instant : Timestamp) : Date :=
  Date.ofDays instant.dayNumber

/-- A fraction of a second without trailing zeros, empty if it is zero. -/
def fractionChars (nanos : Nat) : List Char :=
  if nanos = 0 then []
  else '.' :: ((digitsPadded 9 nanos).reverse.dropWhile (· = '0')).reverse

def toChars (instant : Timestamp) : List Char :=
  let inDay := (instant.nanos % nanosPerDay).toNat
  let second := inDay / 1000000000
  instant.date.toChars ++ 'T' :: digitsPadded 2 (second / 3600) ++
    ':' :: digitsPadded 2 (second / 60 % 60) ++
    ':' :: digitsPadded 2 (second % 60) ++
    fractionChars (inDay % 1000000000) ++ ['Z']

def toText (instant : Timestamp) : String :=
  String.ofList instant.toChars

/-- Takes a number of exactly `count` digits off the front. -/
def takeNat? (count : Nat) (s : List Char) : Option (Nat × List Char) :=
  let front := s.take count
  if front.length = count then
    (readNat? front).map fun n => (n, s.drop count)
  else none

def takeChar? (allowed : List Char) : List Char → Option (List Char)
  | c :: rest => if c ∈ allowed then some rest else none
  | [] => none

def takeYear? : List Char → Option (Int × List Char)
  | '-' :: s => (takeNat? 6 s).bind fun (n, rest) =>
      if n = 0 then none else some (-(n : Int), rest)
  | '+' :: s => (takeNat? 6 s).map fun (n, rest) => ((n : Int), rest)
  | s => (takeNat? 4 s).map fun (n, rest) => ((n : Int), rest)

/-- The nanoseconds written after a decimal mark, at most nine digits. -/
def takeFraction? : List Char → Option (Nat × List Char)
  | c :: s =>
    if c = '.' ∨ c = ',' then
      let front := s.takeWhile isDigit
      if front ≠ [] ∧ front.length ≤ 9 then
        some (valueOf (front ++ List.replicate (9 - front.length) '0'),
          s.dropWhile isDigit)
      else none
    else some (0, c :: s)
  | [] => some (0, [])

/-- Seconds east of UTC: `Z`, or a sign, hours and minutes. -/
def readOffset? : List Char → Option Int
  | ['Z'] | ['z'] => some 0
  | sign :: s => do
    let negative ← if sign = '-' then some true else if sign = '+' then some false else none
    let (hours, s) ← takeNat? 2 s
    let s := (takeChar? [':'] s).getD s
    let (minutes, s) ← if s = [] then some (0, []) else takeNat? 2 s
    if s ≠ [] ∨ hours > 25 ∨ minutes > 59 then none
    else
      let seconds : Int := hours * 3600 + minutes * 60
      some (if negative then -seconds else seconds)
  | [] => none

/-- Reads a date, a time of day with an optional fraction, and an offset from
UTC.  A leap second is read as the second before it. -/
def ofChars? (s : List Char) : Option Timestamp := do
  let (year, s) ← takeYear? s
  let s ← takeChar? ['-'] s
  let (month, s) ← takeNat? 2 s
  let s ← takeChar? ['-'] s
  let (day, s) ← takeNat? 2 s
  let s ← takeChar? ['T', 't', ' '] s
  let (hour, s) ← takeNat? 2 s
  let s ← takeChar? [':'] s
  let (minute, s) ← takeNat? 2 s
  let s ← takeChar? [':'] s
  let (second, s) ← takeNat? 2 s
  let (nanos, s) ← takeFraction? s
  let offset ← readOffset? s
  let date : Date := ⟨year, month, day⟩
  if ¬ date.isValid ∨ hour > 23 ∨ minute > 59 ∨ second > 60 then none
  else
    let second := min second 59
    let total := date.toDays * secondsPerDay + hour * 3600 + minute * 60 + second - offset
    ofNanos? (total * nanosPerSecond + nanos)

def ofText? (s : String) : Option Timestamp :=
  ofChars? s.toList

end Timestamp

end Registrar
