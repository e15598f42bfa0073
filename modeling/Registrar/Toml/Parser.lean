import Registrar.Settings.Path
import Registrar.Toml.Document
import Registrar.Toml.Quoted
import Registrar.Toml.Scalar

/-!
# Reading documents

A document is read line by line: a header opens a table, any other line that is
not blank defines an entry.  A comment runs to the end of its line.  Nesting is
bounded by the length of the text, which is the fuel of the readers.
-/

namespace Registrar.Toml

abbrev Reader (α : Type) := List Char → Option (α × List Char)

def skipBlanks (s : List Char) : List Char :=
  s.dropWhile isLineBlank

/-- What follows a comment, if one starts here; no other control character than
a tab may stand in it. -/
def skipComment : List Char → List Char
  | '#' :: rest => rest.dropWhile isPlain
  | s => s

/-- The end of a line, or of the text. -/
def endLine? (s : List Char) : Option (List Char) :=
  match skipComment (skipBlanks s) with
  | [] => some []
  | s => lineBreak? s

/-- Skips blanks, comments and line breaks. -/
def skipLines : (fuel : Nat) → List Char → List Char
  | 0, s => s
  | fuel + 1, s =>
    match lineBreak? (skipComment (skipBlanks s)) with
    | some rest => skipLines fuel rest
    | none => skipBlanks s

def skipAll (s : List Char) : List Char :=
  skipLines s.length s

/-! ## Keys -/

def takeName? : Reader String
  | '"' :: rest => takeQuoted? ('"' :: rest)
  | '\'' :: rest => takeQuoted? ('\'' :: rest)
  | s =>
    let name := s.takeWhile KeyPath.isNameChar
    if name = [] then none
    else some (String.ofList name, s.dropWhile KeyPath.isNameChar)

/-- Names joined by points, which may have blanks around them. -/
def takePath? : (fuel : Nat) → Reader (List String)
  | 0, _ => none
  | fuel + 1, s => do
    let (name, rest) ← takeName? s
    match skipBlanks rest with
    | '.' :: more =>
      let (path, rest) ← takePath? fuel (skipBlanks more)
      some (name :: path, rest)
    | rest => some ([name], rest)

def takeKey? (s : List Char) : Option (List String × List Char) :=
  takePath? (s.length + 1) s

/-! ## Values -/

def isWordChar (c : Char) : Bool :=
  KeyPath.isNameChar c || c == '+' || c == '.' || c == ':'

/-- A word that stands for itself.  The time of day may follow its date after
one blank. -/
def takeWord? (s : List Char) : Option (ConfigValue × List Char) :=
  let word := s.takeWhile isWordChar
  let rest := s.dropWhile isWordChar
  match takeDate? word, rest with
  | some (_, []), ' ' :: c :: more =>
    if Text.isDigit c then
      let time := (c :: more).takeWhile isWordChar
      (readScalar? (word ++ ' ' :: time)).map fun v =>
        (v, (c :: more).dropWhile isWordChar)
    else (readScalar? word).map fun v => (v, rest)
  | _, _ => (readScalar? word).map fun v => (v, rest)

mutual

def takeValue? (fuel : Nat) (s : List Char) : Option (ConfigValue × List Char) :=
  match fuel with
  | 0 => none
  | fuel + 1 =>
    match s with
    | '"' :: _ => (takeText? s).map fun (t, rest) => (.text t, rest)
    | '\'' :: _ => (takeText? s).map fun (t, rest) => (.text t, rest)
    | '[' :: rest => takeItems? fuel [] rest
    | '\x7b' :: rest =>
      match skipBlanks rest with
      | '\x7d' :: rest => some (.table [], rest)
      | rest => takeMembers? fuel [] rest
    | s => takeWord? s

/-- The items of an array, over any number of lines; a comma may follow the
last one. -/
def takeItems? (fuel : Nat) (done : List ConfigValue) (s : List Char) :
    Option (ConfigValue × List Char) :=
  match fuel with
  | 0 => none
  | fuel + 1 =>
    match skipAll s with
    | ']' :: rest => some (.array done.reverse, rest)
    | s =>
      match takeValue? fuel s with
      | none => none
      | some (v, rest) =>
        match skipAll rest with
        | ',' :: rest => takeItems? fuel (v :: done) rest
        | ']' :: rest => some (.array (v :: done).reverse, rest)
        | _ => none

/-- The members of a table in one line. -/
def takeMembers? (fuel : Nat) (done : List (List String × ConfigValue))
    (s : List Char) : Option (ConfigValue × List Char) :=
  match fuel with
  | 0 => none
  | fuel + 1 =>
    match takeKey? (skipBlanks s) with
    | some (path, '=' :: rest) =>
      match takeValue? fuel (skipBlanks rest) with
      | none => none
      | some (v, rest) =>
        match skipBlanks rest with
        | ',' :: rest => takeMembers? fuel ((path, v) :: done) rest
        | '\x7d' :: rest =>
          (Document.inline? ((path, v) :: done).reverse).map fun table => (table, rest)
        | _ => none
    | _ => none

end

/-! ## Statements -/

def takeEntry? (s : List Char) : Option (Statement × List Char) :=
  match takeKey? s with
  | some (path, '=' :: rest) =>
    (takeValue? (s.length + 1) (skipBlanks rest)).map fun (v, rest) =>
      (.entry path v, rest)
  | _ => none

def takeStatement? : Reader Statement
  | '[' :: '[' :: rest =>
    match takeKey? (skipBlanks rest) with
    | some (path, ']' :: ']' :: rest) => some (.item path, rest)
    | _ => none
  | '[' :: rest =>
    match takeKey? (skipBlanks rest) with
    | some (path, ']' :: rest) => some (.table path, rest)
    | _ => none
  | s => takeEntry? s

/-- The statements of a text, each at the start of a line. -/
def statements? : (fuel : Nat) → List Char → Option (List Statement)
  | 0, _ => none
  | fuel + 1, s =>
    match skipAll s with
    | [] => some []
    | '#' :: rest => if skipComment ('#' :: rest) = [] then some [] else none
    | s => do
      let (statement, rest) ← takeStatement? s
      let rest ← endLine? rest
      let more ← statements? fuel rest
      some (statement :: more)

/-- A mark of the byte order may stand before the text. -/
def withoutMark : List Char → List Char
  | '\uFEFF' :: rest => rest
  | s => s

/-- The entries of a document. -/
def parse? (text : String) : Option ConfigValue.Entries :=
  let s := withoutMark text.toList
  (statements? (s.length + 1) s).bind Document.build?

end Registrar.Toml
