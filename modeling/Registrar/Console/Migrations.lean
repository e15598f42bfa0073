import Registrar.Console.Fields
import Registrar.Store.Migration
import Registrar.Text.Blank
import Registrar.Text.Fold
import Registrar.Text.Pieces

/-!
# Migrating a database

A request runs the migrations a number of times on a new database, in which some
names may have been taken before by statements of its own.
-/

namespace Registrar.Console

open Text

/-- The words of a statement; brackets are words of their own. -/
def wordsOf (s : List Char) : List String :=
  let spaced := s.flatMap fun c =>
    if c = '(' ∨ c = ')' ∨ c = ',' then [' ', c, ' '] else if isBlank c then [' '] else [c]
  ((splitAt ' ' spaced).filter (· ≠ [])).map String.ofList

/-- A name in quotation marks stands as it is; any other is in lowercase. -/
def nameOf (word : String) : String :=
  match word.toList with
  | '"' :: rest => String.ofList (rest.takeWhile (· ≠ '"'))
  | s => String.ofList (fold s)

def everySecond : List (List Char) → List String
  | _ :: text :: rest => String.ofList text :: everySecond rest
  | _ => []

/-- The texts in apostrophes. -/
def literals (s : List Char) : List String :=
  everySecond (splitAt '\'' s)

/-- What a statement takes in the names of a database. -/
def execute (c : Catalogue) (statement : List Char) : Catalogue :=
  let words := wordsOf statement
  match words.map fun w => String.ofList (fold w.toList), words with
  | "create" :: "table" :: "if" :: "not" :: "exists" :: _, _ :: _ :: _ :: _ :: _ :: name :: _ =>
    c.addTable (nameOf name)
  | "create" :: "table" :: _, _ :: _ :: name :: _ => c.addTable (nameOf name)
  | "create" :: "view" :: _, _ :: _ :: name :: _ => c.addTable (nameOf name)
  | "create" :: "type" :: _ :: "as" :: "(" :: _, _ :: _ :: name :: _ =>
    c.addTable (nameOf name)
  | "create" :: "type" :: _, _ :: _ :: name :: _ => c.addType (nameOf name)
  | "create" :: "domain" :: _, _ :: _ :: name :: _ => c.addType (nameOf name)
  | "insert" :: _, _ => (literals statement).foldl Catalogue.addVersion c
  | _, _ => c

/-- The state of a new database after some statements. -/
def prepared (sql : String) : Catalogue :=
  (splitAt ';' sql.toList).foldl execute {}

/-- The answers of so many runs. -/
def runs (c : Catalogue) : (count : Nat) → List (Result Nat)
  | 0 => []
  | count + 1 =>
    let (answer, c) := Migration.runPending c
    answer :: runs c count

def ofRun : Result Nat → Json
  | .ok n => .int n
  | .error e => e.toJson

/-- No database answers at any address that a request gives. -/
def migrate (v : Json) : Answering Json := do
  let count := (nat64? v "runs").getD 1
  let answers :=
    match string? v "url" with
    | some _ => List.replicate count (Except.error Migration.unreachable)
    | none => runs (prepared (stringOr v "sql" "")) count
  return .obj [("applied", .arr (answers.map ofRun))]

end Registrar.Console
