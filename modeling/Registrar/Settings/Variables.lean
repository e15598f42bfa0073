import Registrar.Number.Reading
import Registrar.Settings.Path
import Registrar.Text.Fold

/-!
# Settings in the environment

The environment variables with the prefix of the register form the last source
of a configuration.  The rest of the name in lowercase is the key, where two
underscores stand for a point.  A value that looks like a truth value or a number
is one; an empty value counts as unset.

The keys are collected in a map and then laid on each other in the order that the
map yields them, which nobody chooses.  An environment is a list for that reason:
a list stands for one order, and a statement about loading is made for all lists.
-/

namespace Registrar.Variables

open Text

/-- The variables of a process by name, in the order in which they are laid on each
other. -/
abbrev Env := List (String × String)

def namePrefix : List Char := "campus_".toList

/-- Replaces every two underscores by a point, from the front. -/
def withPoints : List Char → List Char
  | '_' :: '_' :: rest => '.' :: withPoints rest
  | c :: rest => c :: withPoints rest
  | [] => []

def key? (name : String) : Option String :=
  (afterPrefix? namePrefix (name.toList.map lower)).map fun rest =>
    String.ofList (withPoints rest)

def minInt64 : Int := -9223372036854775808
def maxInt64 : Int := 9223372036854775807

def readInt64? (s : List Char) : Option Int :=
  (readInt? s).filter fun i => minInt64 ≤ i && i ≤ maxInt64

/-- The value that a text looks like. -/
def valueOf (s : String) : ConfigValue :=
  let word := s.toList.map lower
  if word = "true".toList then .bool true
  else if word = "false".toList then .bool false
  else
    match readInt64? s.toList with
    | some i => .int i
    | none =>
      match Number.readReal? s.toList with
      | some x => .real x
      | none => .text s

/-- The source that the variables form. -/
def source (env : Env) : ConfigValue.Entries :=
  env.filterMap fun (name, value) =>
    if value = "" then none else (key? name).map fun key => (key, valueOf value)

end Registrar.Variables
