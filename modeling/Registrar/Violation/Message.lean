import Registrar.Text.Blank
import Registrar.Text.Pieces

/-!
# Reading a violation message

A database says in prose which constraint was violated.  Three phrases carry
the facts: `Key (columns)=(values)`, `column "name"` and `table "name"` or
`relation "name"`.  The first complete occurrence of a phrase counts.
-/

namespace Registrar.Violation

open Text

/-- The first suffix of a text at which a reading succeeds. -/
def firstMatch {α : Type} (read : List Char → Option α) : List Char → Option α
  | [] => read []
  | c :: rest =>
    match read (c :: rest) with
    | some a => some a
    | none => firstMatch read rest

/-- The characters before the first `stop`, and those after it. -/
def upTo? (stop : Char) : List Char → Option (List Char × List Char)
  | [] => none
  | c :: rest =>
    if c = stop then some ([], rest)
    else (upTo? stop rest).map fun (front, rest) => (c :: front, rest)

/-- A non-empty run before the first `stop`. -/
def someUpTo? (stop : Char) (s : List Char) : Option (List Char × List Char) :=
  (upTo? stop s).filter fun (front, _) => front ≠ []

/-- Columns and values, at the very front of a text.  Neither can hold a closing
parenthesis. -/
def keyHere? (s : List Char) : Option (List Char × List Char) := do
  let s ← afterPrefix? "Key (".toList s
  let (columns, s) ← someUpTo? ')' s
  let s ← afterPrefix? "=(".toList s
  let (values, _) ← upTo? ')' s
  some (columns, values)

def quotedAfterHere? (phrase s : List Char) : Option (List Char) := do
  let s ← afterPrefix? phrase s
  let (name, _) ← someUpTo? '"' s
  some name

def tableHere? (s : List Char) : Option (List Char) :=
  quotedAfterHere? "table \"".toList s <|> quotedAfterHere? "relation \"".toList s

/-- The columns and the values of the violated key. -/
def key? (message : List Char) : Option (List Char × List Char) :=
  firstMatch keyHere? message

def column? (message : List Char) : Option (List Char) :=
  firstMatch (quotedAfterHere? "column \"".toList) message

def table? (message : List Char) : Option (List Char) :=
  firstMatch tableHere? message

/-- The parts of a rendering of several columns or values. -/
def parts (rendered : List Char) : List (List Char) :=
  (splitAt ',' rendered).map trim

end Registrar.Violation
