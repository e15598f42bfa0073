import Registrar.Program
import Registrar.Relations

/-!
# Looking up relations

The rows that a list of values refers to are fetched with at most one call for
each sort of row, whatever the number of values.  A school brings the key of its
organization and a group the keys of its grade and class teacher, so schools and
groups are fetched first.  For a single value a lone school or user is fetched
by its identifier.
-/

namespace Registrar.Service

/-- Whether the relations of one value or of a whole page are wanted. -/
inductive FetchMode where
  | single | batch
  deriving DecidableEq

def fetchSchools (ctx : Ctx) (mode : FetchMode) : List Uuid →
    Program (List SchoolShort)
  | [] => return []
  | [id] =>
    match mode with
    | .single => return (← Program.ask ctx (.schoolById id)).toList
    | .batch => Program.ask ctx (.schoolsByIds [id])
  | ids => Program.ask ctx (.schoolsByIds ids)

def fetchUsers (ctx : Ctx) (mode : FetchMode) : List Uuid → Program (List User)
  | [] => return []
  | [id] =>
    match mode with
    | .single => return (← Program.ask ctx (.userById id)).toList
    | .batch => Program.ask ctx (.usersByIds [id])
  | ids => Program.ask ctx (.usersByIds ids)

/-- One batch call, or none without keys. -/
def fetchBatch {α : Type} (ids : List Uuid) (call : Program (List α)) :
    Program (List α) :=
  if ids = [] then return [] else call

/-- The keys of the values and those of the schools and groups fetched for
them. -/
def cascade (keys : RelationKeys) (schools : List SchoolShort)
    (groups : List GroupShort) : RelationKeys :=
  ((keys.append (RelationKeys.ofAll schools)).append
    (RelationKeys.ofAll groups)).normalize

def countsOf (r : Related) : RelationCounts :=
  { users := r.users.length
    schools := r.schools.length
    organizations := r.organizations.length
    groups := r.groups.length
    students := r.students.length }

/-- Fetches the related rows. -/
def resolve (ctx : Ctx) (mode : FetchMode) (keys : RelationKeys) :
    Program Related := do
  let schools ← fetchSchools ctx mode keys.schools
  let groups ← fetchBatch keys.groups (Program.ask ctx (.groupsByIds keys.groups))
  let schools := indexById SchoolShort.id schools
  let groups := indexById GroupShort.id groups
  let keys := cascade keys schools groups
  let organizations ← fetchBatch keys.organizations
    (Program.ask ctx (.organizationsByIds keys.organizations))
  let grades ← fetchBatch keys.grades (Program.ask ctx (.gradesByIds keys.grades))
  let teachers ← fetchBatch keys.teachers
    (Program.ask ctx (.teachersByIds keys.teachers))
  let students ← fetchBatch keys.students
    (Program.ask ctx (.studentsByIds keys.students))
  let users ← fetchUsers ctx mode keys.users
  let found : Related :=
    { users := indexById User.id users
      organizations := indexById OrganizationShort.id organizations
      grades := indexById Grade.id grades
      teachers := indexById TeacherShort.id teachers
      students := indexById StudentShort.id students }
  let related : Related :=
    { found with
      schools := hydrateAll found schools
      groups := hydrateAll found groups }
  Program.report (.relationsResolved (countsOf related))
  return related

/-- One value with its relations. -/
def hydrateOne {α : Type} [Hydratable α] (ctx : Ctx) (item : α) : Program α := do
  let related ← resolve ctx .single (RelationKeys.ofAll [item])
  return Hydratable.hydrate related item

/-- A page of values with their relations; an empty page needs no call. -/
def hydrateMany {α : Type} [Hydratable α] (ctx : Ctx) : List α → Program (List α)
  | [] => return []
  | items => do
    let related ← resolve ctx .batch (RelationKeys.ofAll items)
    return hydrateAll related items

end Registrar.Service
