import Registrar.Console.Fields
import Registrar.Relations

/-!
# Rows written out in a request

A request may bring rows of its own instead of storing them.  A row has the
fields of its table; `at` is the time of its creation, the epoch if absent.
-/

namespace Registrar.Console

def epoch : Timestamp := ⟨0⟩

def createdAt (v : Json) : Answering Timestamp := do
  return (← time? v "at").getD epoch

def profileRow (kind : ProfileKind) (v : Json) : Answering Profile := do
  let id ← uuid v "id"
  let roleId ← uuid v "role_id"
  let userId ← uuid v "user_id"
  let scopeId ← uuid v kind.scopeField
  let groupId ← if kind = .student then uuid? v "group_id" else pure none
  let createdAt ← createdAt v
  let row : ProfileRow :=
    { kind, id, roleId, userId, scopeId, groupId, phone := string? v "phone"
      email := string? v "email", createdAt }
  return row.bare

def guardianRow (v : Json) : Answering GuardianLink := do
  let id ← uuid v "id"
  let roleId ← uuid v "role_id"
  let userId ← uuid v "user_id"
  let studentId ← uuid v "student_id"
  let relation ← word Relation v "relation"
  let createdAt ← createdAt v
  let row : GuardianRow := { id, roleId, userId, studentId, relation, createdAt }
  return row.bare

def grantRow (v : Json) : Answering RoleGrant := do
  let id ← uuid v "id"
  let userId ← uuid v "user_id"
  let role ← word Role v "role"
  let scope ← scope v
  let createdAt ← createdAt v
  let row : RoleGrantRow := { id, userId, role, scope, createdAt }
  return row.bare

def schoolShort (v : Json) : Answering SchoolShort := do
  let id ← uuid v "id"
  let organizationId ← uuid v "organization_id"
  return { id, organizationId, name := stringOr v "name" "" }

def organizationShort (v : Json) : Answering OrganizationShort := do
  let id ← uuid v "id"
  return { id, name := stringOr v "name" "" }

def groupShort (v : Json) : Answering GroupShort := do
  let id ← uuid v "id"
  let gradeId ← uuid v "grade_id"
  let classTeacherId ← uuid? v "class_teacher_id"
  return { id, gradeId, classTeacherId, name := stringOr v "name" "" }

def gradeRow (v : Json) : Answering Grade := do
  let id ← uuid v "id"
  let schoolId ← uuid v "school_id"
  let level := ((v.present? "level").bind Json.int?).getD 0
  return { id, schoolId, level, name := stringOr v "name" "" }

def teacherShort (v : Json) : Answering TeacherShort := do
  let id ← uuid v "id"
  let userId ← uuid v "user_id"
  return { id, userId, firstName := stringOr v "first_name" ""
           lastName := stringOr v "last_name" "" }

def studentShort (v : Json) : Answering StudentShort := do
  let id ← uuid v "id"
  let userId ← uuid v "user_id"
  let groupId ← uuid? v "group_id"
  return { id, userId, groupId, firstName := stringOr v "first_name" ""
           lastName := stringOr v "last_name" "" }

/-- Users come without gender and password. -/
def userRow (v : Json) : Answering User := do
  let id ← uuid v "id"
  let createdAt ← createdAt v
  return { id, firstName := stringOr v "first_name" ""
           lastName := stringOr v "last_name" "", middleName := string? v "middle_name"
           gender := .female, phone := string? v "phone", email := stringOr v "email" ""
           passwordHash := "hash", createdAt }

def related (v : Json) : Answering Related := do
  let users ← (items v "users").mapM userRow
  let schools ← (items v "schools").mapM schoolShort
  let organizations ← (items v "organizations").mapM organizationShort
  let groups ← (items v "groups").mapM groupShort
  let grades ← (items v "grades").mapM gradeRow
  let teachers ← (items v "teachers").mapM teacherShort
  let students ← (items v "students").mapM studentShort
  return {
    users := indexById User.id users
    schools := indexById SchoolShort.id schools
    organizations := indexById OrganizationShort.id organizations
    groups := indexById GroupShort.id groups
    grades := indexById Grade.id grades
    teachers := indexById TeacherShort.id teachers
    students := indexById StudentShort.id students }

def RelationKeys.toJson (k : RelationKeys) : Json :=
  let ids (us : List Uuid) : Json := .arr (us.map Json.ofUuid)
  .obj
    [("users", ids k.users), ("schools", ids k.schools),
      ("organizations", ids k.organizations), ("groups", ids k.groups),
      ("grades", ids k.grades), ("teachers", ids k.teachers),
      ("students", ids k.students)]

end Registrar.Console
