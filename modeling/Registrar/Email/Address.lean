import Registrar.Text.Digits
import Registrar.Text.Pieces

/-!
# Addresses of hosts

The domain of an e-mail address is a name made of labels, or ends with an
Internet address in brackets, of version 4 or 6.
-/

namespace Registrar.Email

open Text

def isLetter (c : Char) : Bool :=
  ('a' ≤ c && c ≤ 'z') || ('A' ≤ c && c ≤ 'Z')

def isAlphanumeric (c : Char) : Bool :=
  isLetter c || isDigit c

/-- One to 63 letters, digits and inner hyphens. -/
def isLabel (s : List Char) : Bool :=
  1 ≤ s.length && s.length ≤ 63 &&
    s.all (fun c => isAlphanumeric c || c == '-') &&
    s.head? != some '-' && s.getLast? != some '-'

def isDomainName (s : List Char) : Bool :=
  (splitAt '.' s).all isLabel

/-- A number from 0 to 255 without a zero in front. -/
def isOctet (s : List Char) : Bool :=
  s ≠ [] && s.length ≤ 3 && s.all isDigit &&
    (s.length == 1 || s.head? != some '0') && valueOf s ≤ 255

def isAddress4 (s : List Char) : Bool :=
  let octets := splitAt '.' s
  octets.length == 4 && octets.all isOctet

def isHexDigit (c : Char) : Bool :=
  isDigit c || ('a' ≤ c && c ≤ 'f') || ('A' ≤ c && c ≤ 'F')

def isHextet (s : List Char) : Bool :=
  1 ≤ s.length && s.length ≤ 4 && s.all isHexDigit

/-- How many 16-bit groups the colon-separated pieces hold; the last piece may
be an address of version 4, which counts as two.  `none` if a piece is
neither. -/
def groupCount? (mayEndIn4 : Bool) : List (List Char) → Option Nat
  | [] => some 0
  | [last] =>
    if isHextet last then some 1
    else if mayEndIn4 && isAddress4 last then some 2
    else none
  | piece :: rest =>
    if isHextet piece then (groupCount? mayEndIn4 rest).map (· + 1) else none

/-- Groups on one side of a double colon; an empty side holds none. -/
def sideCount? (mayEndIn4 : Bool) (s : List Char) : Option Nat :=
  if s = [] then some 0 else groupCount? mayEndIn4 (splitAt ':' s)

/-- The text before and after the first double colon. -/
def splitDouble? : List Char → Option (List Char × List Char)
  | ':' :: ':' :: rest => some ([], rest)
  | c :: rest => (splitDouble? rest).map fun (front, back) => (c :: front, back)
  | [] => none

/-- Eight groups, or fewer of them with one double colon for at least one. -/
def isAddress6 (s : List Char) : Bool :=
  match splitDouble? s with
  | none => groupCount? true (splitAt ':' s) == some 8
  | some (front, back) =>
    match sideCount? false front, sideCount? true back with
    | some m, some n => m + n ≤ 7
    | _, _ => false

def isBracketChar (c : Char) : Bool :=
  isHexDigit c || c == ':' || c == '.'

/-- What stands in the brackets at the very end of a text. -/
def finalBrackets? (s : List Char) : Option (List Char) :=
  match s.reverse with
  | ']' :: rest =>
    match rest.dropWhile isBracketChar with
    | '[' :: _ =>
      let inner := (rest.takeWhile isBracketChar).reverse
      if inner = [] then none else some inner
    | _ => none
  | _ => none

def isHost (s : List Char) : Bool :=
  isDomainName s ||
    match finalBrackets? s with
    | some inner => isAddress4 inner || isAddress6 inner
    | none => false

end Registrar.Email
