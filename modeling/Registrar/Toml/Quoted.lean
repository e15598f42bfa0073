import Registrar.Json.Parser

/-!
# Strings in a document

A string stands between quotation marks, where a backslash makes other
characters, or between apostrophes, where it does not.  Three marks at each end
let a string run over several lines; a line break just after the opening marks
does not belong to it, and one after a backslash is skipped with all blanks that
follow.
-/

namespace Registrar.Toml

open Json

/-- The characters that may stand in a string or a comment as they are. -/
def isPlain (c : Char) : Bool :=
  c == '\t' || (32 ≤ c.toNat && c.toNat != 127)

/-- A line break and what follows it. -/
def lineBreak? : List Char → Option (List Char)
  | '\n' :: rest => some rest
  | '\r' :: '\n' :: rest => some rest
  | _ => none

def isLineBlank (c : Char) : Bool :=
  c == ' ' || c == '\t'

/-- A character by its number, unless there is none. -/
def charOf? (n : Nat) : Option Char :=
  if n.isValidChar then some (Char.ofNat n) else none

/-- The character that is written after a backslash. -/
def takeEscape? : List Char → Option (Char × List Char)
  | 'u' :: rest => do
    let (n, rest) ← takeHex4? rest
    let c ← charOf? n
    some (c, rest)
  | 'U' :: rest => do
    let (high, rest) ← takeHex4? rest
    let (low, rest) ← takeHex4? rest
    let c ← charOf? (high * 65536 + low)
    some (c, rest)
  | '/' :: _ => none
  | c :: rest => (simpleEscape? c).map fun c => (c, rest)
  | [] => none

/-- The characters of a string in one line up to its closing mark, in reverse. -/
def takeShort? (mark : Char) (escapes : Bool) :
    (fuel : Nat) → (done s : List Char) → Option (List Char × List Char)
  | 0, _, _ => none
  | _, _, [] => none
  | fuel + 1, done, c :: rest =>
    if c = mark then some (done, rest)
    else if c = '\\' ∧ escapes then
      match takeEscape? rest with
      | some (c, rest) => takeShort? mark escapes fuel (c :: done) rest
      | none => none
    else if isPlain c then takeShort? mark escapes fuel (c :: done) rest
    else none

/-- What follows a backslash at the end of a line: all blanks and line breaks are
skipped. -/
def skipBreaks (s : List Char) : List Char :=
  s.dropWhile fun c => isLineBlank c || c == '\n' || c == '\r'

def endsLine (s : List Char) : Bool :=
  (lineBreak? (s.dropWhile isLineBlank)).isSome

/-- The characters of a string of several lines, in reverse.  Up to two marks
may stand before the three that close it. -/
def takeLong? (mark : Char) (escapes : Bool) :
    (fuel : Nat) → (done s : List Char) → Option (List Char × List Char)
  | 0, _, _ => none
  | _, _, [] => none
  | fuel + 1, done, c :: rest =>
    if c = mark then
      let marks := (c :: rest).takeWhile (· = mark)
      let after := (c :: rest).dropWhile (· = mark)
      if marks.length < 3 then takeLong? mark escapes fuel (marks ++ done) after
      else if marks.length ≤ 5 then some (marks.drop 3 ++ done, after)
      else none
    else if c = '\\' ∧ escapes then
      if endsLine rest then takeLong? mark escapes fuel done (skipBreaks rest)
      else
        match takeEscape? rest with
        | some (c, rest) => takeLong? mark escapes fuel (c :: done) rest
        | none => none
    else
      match lineBreak? (c :: rest) with
      | some rest => takeLong? mark escapes fuel ('\n' :: done) rest
      | none =>
        if isPlain c then takeLong? mark escapes fuel (c :: done) rest else none

def finish (taken : Option (List Char × List Char)) : Option (String × List Char) :=
  taken.map fun (done, rest) => (String.ofList done.reverse, rest)

/-- A string in one line, as keys may be. -/
def takeQuoted? : List Char → Option (String × List Char)
  | '"' :: rest => finish (takeShort? '"' true (rest.length + 1) [] rest)
  | '\'' :: rest => finish (takeShort? '\'' false (rest.length + 1) [] rest)
  | _ => none

/-- A string of either length. -/
def takeText? (s : List Char) : Option (String × List Char) :=
  let long (mark : Char) (escapes : Bool) (rest : List Char) :=
    let rest := (lineBreak? rest).getD rest
    finish (takeLong? mark escapes (rest.length + 1) [] rest)
  match s with
  | '"' :: '"' :: '"' :: rest => long '"' true rest
  | '\'' :: '\'' :: '\'' :: rest => long '\'' false rest
  | s => takeQuoted? s

end Registrar.Toml
