import Registrar.Violation.Message

/-!
# Names of constraints

A constraint is named after its table, its columns joined by underscores, and
its sort: `_key` for a unique one, `_fkey` for a reference, `_check` for a
condition.  With the columns known, the table is what remains of the name; with
only the name, the table is the longest known one that begins it.
-/

namespace Registrar.Violation

open Text

def knownTables : List String :=
  ["edu_organizations", "schools", "grades", "groups", "users", "user_roles",
    "directors", "headmasters", "teachers", "students", "owners",
    "student_guardians"]

/-- The table of a constraint on the given columns. -/
def tableOfName? (suffix columns name : List Char) : Option (List Char) := do
  let body ← beforeSuffix? suffix name
  let body ← beforeSuffix? (joinWith ['_'] (parts columns)) body
  let table ← beforeSuffix? ['_'] body
  if table = [] then none else some table

/-- The columns that follow a table in the body of a constraint name. -/
def columnsAfter? (table : String) (body : List Char) : Option (String × List Char) := do
  let rest ← afterPrefix? table.toList body
  let columns ← afterPrefix? ['_'] rest
  if columns = [] then none else some (table, columns)

/-- The longer of two readings, the later one if they are equally long. -/
def longer (a : String × List Char) : Option (String × List Char) → String × List Char
  | none => a
  | some b => if a.1.length ≤ b.1.length then b else a

def longest : List (String × List Char) → Option (String × List Char)
  | [] => none
  | a :: rest => some (longer a (longest rest))

/-- Table and columns of a unique constraint, from its name alone. -/
def splitUnique? (name : List Char) : Option (String × List Char) := do
  let body ← beforeSuffix? "_key".toList name
  longest (knownTables.filterMap fun table => columnsAfter? table body)

end Registrar.Violation
