import Registrar.Json
import Registrar.Text.Hex

/-!
# Reading JSON

A reader takes characters off the front of a text and returns what is left.
Every step takes a character, so the length of the whole text bounds their number:
it is the fuel of the readers.
-/

namespace Registrar.Json

open Text

abbrev Reader (α : Type) := List Char → Option (α × List Char)

def isSpace (c : Char) : Bool :=
  c == ' ' || c == '\n' || c == '\r' || c == '\t'

def skipSpace (s : List Char) : List Char :=
  s.dropWhile isSpace

def takeHex4? : Reader Nat
  | a :: b :: c :: d :: rest => do
    let a ← hexValue? a
    let b ← hexValue? b
    let c ← hexValue? c
    let d ← hexValue? d
    some (((a * 16 + b) * 16 + c) * 16 + d, rest)
  | _ => none

def simpleEscape? : Char → Option Char
  | '"' => some '"'
  | '\\' => some '\\'
  | '/' => some '/'
  | 'b' => some '\x08'
  | 'f' => some '\x0c'
  | 'n' => some '\n'
  | 'r' => some '\r'
  | 't' => some '\t'
  | _ => none

/-- A code unit written in hexadecimal; two surrogates in a row make one
character, a surrogate alone makes none. -/
def takeUnicode? (s : List Char) : Option (Char × List Char) := do
  let (high, rest) ← takeHex4? s
  if 0xD800 ≤ high ∧ high ≤ 0xDBFF then
    match rest with
    | '\\' :: 'u' :: rest =>
      let (low, rest) ← takeHex4? rest
      if 0xDC00 ≤ low ∧ low ≤ 0xDFFF then
        some (Char.ofNat (0x10000 + (high - 0xD800) * 0x400 + (low - 0xDC00)), rest)
      else none
    | _ => none
  else if 0xDC00 ≤ high ∧ high ≤ 0xDFFF then none
  else some (Char.ofNat high, rest)

/-- The characters of a string up to its closing quote, in reverse. -/
def takeChars? (fuel : Nat) (done : List Char) (s : List Char) :
    Option (List Char × List Char) :=
  match fuel with
  | 0 => none
  | fuel + 1 =>
    match s with
    | [] => none
    | '"' :: rest => some (done, rest)
    | '\\' :: 'u' :: rest =>
      match takeUnicode? rest with
      | some (c, rest) => takeChars? fuel (c :: done) rest
      | none => none
    | '\\' :: c :: rest =>
      match simpleEscape? c with
      | some c => takeChars? fuel (c :: done) rest
      | none => none
    | c :: rest => if c.toNat < 32 then none else takeChars? fuel (c :: done) rest

/-- The rest of a string whose opening quote has been taken. -/
def takeString? (fuel : Nat) (s : List Char) : Option (String × List Char) :=
  (takeChars? fuel [] s).map fun (done, rest) => (String.ofList done.reverse, rest)

def isNumberChar (c : Char) : Bool :=
  isDigit c || c == '-' || c == '+' || c == '.' || c == 'e' || c == 'E'

/-- The whole part of a number: one zero, or digits that do not start with
zero. -/
def wholePart (s : List Char) : Option (List Char × List Char) :=
  let front := s.takeWhile isDigit
  match front with
  | [] => none
  | '0' :: _ :: _ => none
  | _ => some (front, s.dropWhile isDigit)

def isFraction : List Char → Bool
  | '.' :: rest =>
    let front := rest.takeWhile isDigit
    front ≠ [] && isExponent (rest.dropWhile isDigit)
  | s => isExponent s
where
  isExponent : List Char → Bool
    | [] => true
    | c :: rest =>
      (c == 'e' || c == 'E') &&
        match rest with
        | '+' :: digits => digits ≠ [] && digits.all isDigit
        | '-' :: digits => digits ≠ [] && digits.all isDigit
        | digits => digits ≠ [] && digits.all isDigit

def takeNumber? (s : List Char) : Option (Json × List Char) := do
  let text := s.takeWhile isNumberChar
  let rest := s.dropWhile isNumberChar
  let (negative, unsigned) :=
    match text with
    | '-' :: t => (true, t)
    | t => (false, t)
  let (whole, fraction) ← wholePart unsigned
  let n := valueOf whole
  let fits := if negative then n ≤ 9223372036854775808 && n ≠ 0 else n < 18446744073709551616
  if fraction = [] && fits then
    some (.int (if negative then -(n : Int) else n), rest)
  else if isFraction fraction then some (.real (String.ofList text), rest)
  else none

mutual

def takeValue? (fuel : Nat) (s : List Char) : Option (Json × List Char) :=
  match fuel with
  | 0 => none
  | fuel + 1 =>
    match skipSpace s with
    | 'n' :: 'u' :: 'l' :: 'l' :: rest => some (.null, rest)
    | 't' :: 'r' :: 'u' :: 'e' :: rest => some (.bool true, rest)
    | 'f' :: 'a' :: 'l' :: 's' :: 'e' :: rest => some (.bool false, rest)
    | '"' :: rest => (takeString? fuel rest).map fun (text, rest) => (.str text, rest)
    | '[' :: rest =>
      match skipSpace rest with
      | ']' :: rest => some (.arr [], rest)
      | rest => takeItems? fuel [] rest
    | '\x7b' :: rest =>
      match skipSpace rest with
      | '\x7d' :: rest => some (.obj [], rest)
      | rest => takeMembers? fuel [] rest
    | rest => takeNumber? rest

def takeItems? (fuel : Nat) (done : List Json) (s : List Char) :
    Option (Json × List Char) :=
  match fuel with
  | 0 => none
  | fuel + 1 =>
    match takeValue? fuel s with
    | none => none
    | some (v, rest) =>
      match skipSpace rest with
      | ',' :: rest => takeItems? fuel (v :: done) rest
      | ']' :: rest => some (.arr (v :: done).reverse, rest)
      | _ => none

def takeMembers? (fuel : Nat) (done : List (String × Json)) (s : List Char) :
    Option (Json × List Char) :=
  match fuel with
  | 0 => none
  | fuel + 1 =>
    match skipSpace s with
    | '"' :: rest =>
      match takeString? fuel rest with
      | none => none
      | some (name, rest) =>
        match skipSpace rest with
        | ':' :: rest =>
          match takeValue? fuel rest with
          | none => none
          | some (v, rest) =>
            let done := setMember name v done
            match skipSpace rest with
            | ',' :: rest => takeMembers? fuel done rest
            | '\x7d' :: rest => some (.obj done, rest)
            | _ => none
        | _ => none
    | _ => none

end

/-- The value that a whole text holds. -/
def parse? (text : String) : Option Json :=
  let s := text.toList
  match takeValue? (2 * s.length + 2) s with
  | some (v, rest) => if skipSpace rest = [] then some v else none
  | none => none

end Registrar.Json
