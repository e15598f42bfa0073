import Registrar.Error

/-!
# The migration of the schema

The tables of the register are created by one migration, in one transaction.  The
database remembers by its version that it was run.  It fails if a name that it
needs is taken, at the first such name in the order of creation, and then nothing
of it remains.
-/

namespace Registrar

/-- What the migration creates.  A table is also a type. -/
inductive SchemaObject where
  | table (name : String)
  | index (name : String)
  deriving DecidableEq

/-- The names that are taken in a database, and the versions of the migrations
that were run on it. -/
structure Catalogue where
  relations : List String := []
  types : List String := []
  applied : List String := []
  deriving DecidableEq

namespace Catalogue

def addTable (c : Catalogue) (name : String) : Catalogue :=
  { c with relations := name :: c.relations, types := name :: c.types }

def addType (c : Catalogue) (name : String) : Catalogue :=
  { c with types := name :: c.types }

def addVersion (c : Catalogue) (version : String) : Catalogue :=
  { c with applied := version :: c.applied }

def add (c : Catalogue) : SchemaObject → Catalogue
  | .table name => c.addTable name
  | .index name => { c with relations := name :: c.relations }

def taken (what name : String) : String :=
  what ++ " \"" ++ name ++ "\" already exists"

/-- Why something cannot be created. -/
def obstacle? (c : Catalogue) : SchemaObject → Option String
  | .table name =>
    if c.relations.contains name then some (taken "relation" name)
    else if c.types.contains name then some (taken "type" name)
    else none
  | .index name => if c.relations.contains name then some (taken "relation" name) else none

/-- Creates objects one after the other, up to the first obstacle. -/
def createAll (c : Catalogue) : List SchemaObject → Except String Catalogue
  | [] => .ok c
  | object :: rest =>
    match c.obstacle? object with
    | some message => .error message
    | none => (c.add object).createAll rest

end Catalogue

namespace Migration

open SchemaObject

def name : String := "2025-01-01-000000_create_campus"
def version : String := "20250101000000"

/-- A table of profiles, with the indexes on its contacts. -/
def profiles (name : String) : List SchemaObject :=
  [table name, index (name ++ "_phone_key"), index (name ++ "_email_key")]

/-- Everything that the migration creates, in order. -/
def objects : List SchemaObject :=
  [table "edu_organizations", table "schools", index "schools_organization_id_idx",
    table "grades", index "grades_school_id_level_key", table "users",
    index "users_email_key", table "user_roles",
    index "user_roles_user_id_role_scope_id_key", index "user_roles_user_id_idx"] ++
  profiles "teachers" ++ [table "groups"] ++ profiles "directors" ++
  profiles "headmasters" ++ profiles "students" ++ profiles "owners" ++
  [table "student_guardians", index "student_guardians_user_id_student_id_key",
    index "directors_school_id_created_at_idx",
    index "headmasters_school_id_created_at_idx",
    index "teachers_school_id_created_at_idx", index "students_school_id_created_at_idx",
    index "owners_organization_id_created_at_idx",
    index "student_guardians_student_id_idx"]

def failure (message : String) : AppError :=
  .database "run pending migrations"
    ["Migration error: Failed to run " ++ name ++ " with: " ++ message]

/-- There is no database to migrate. -/
def unreachable : AppError :=
  .database "establish connection for migrations" []

/-- Runs the migration if it is pending, and tells how many were run. -/
def runPending (c : Catalogue) : Result Nat × Catalogue :=
  if c.applied.contains version then (.ok 0, c)
  else
    match c.createAll objects with
    | .ok created => (.ok 1, created.addVersion version)
    | .error message => (.error (failure message), c)

end Migration

end Registrar
