import Registrar.Guardianship
import Registrar.Json.Form

/-!
# New records read from JSON

A record that lacks a field, or holds a value of another type, is not read at
all; the rules of its fields are a separate question.
-/

namespace Registrar

open Json

def NewOrganization.ofJson? (v : Json) : Option NewOrganization := do
  let form ← Form.read? ["name"] v
  let name ← form.required "name" Json.str?
  some { name }

def NewSchool.ofJson? (v : Json) : Option NewSchool := do
  let form ← Form.read? ["organization_id", "name"] v
  let organizationId ← form.required "organization_id" Json.uuid?
  let name ← form.required "name" Json.str?
  some { organizationId, name }

/-- The level of a grade is received in 16 bits. -/
def NewGrade.ofJson? (v : Json) : Option NewGrade := do
  let form ← Form.read? ["school_id", "level", "name"] v
  let schoolId ← form.required "school_id" Json.uuid?
  let level ← form.required "level" (Json.intWithin? (-32768) 32767)
  let name ← form.required "name" Json.str?
  some { schoolId, level, name }

def NewGroup.ofJson? (v : Json) : Option NewGroup := do
  let form ← Form.read? ["school_id", "grade_id", "class_teacher_id", "name"] v
  let schoolId ← form.required "school_id" Json.uuid?
  let gradeId ← form.required "grade_id" Json.uuid?
  let classTeacherId ← form.optional "class_teacher_id" Json.uuid?
  let name ← form.required "name" Json.str?
  some { schoolId, gradeId, classTeacherId, name }

def NewUser.ofJson? (v : Json) : Option NewUser := do
  let form ← Form.read?
    ["first_name", "last_name", "middle_name", "gender", "phone", "email",
      "password_hash"] v
  let firstName ← form.required "first_name" Json.str?
  let lastName ← form.required "last_name" Json.str?
  let middleName ← form.optional "middle_name" Json.str?
  let gender ← form.required "gender" (Json.vocabulary? Gender)
  let phone ← form.optional "phone" Json.str?
  let email ← form.required "email" Json.str?
  let passwordHash ← form.required "password_hash" Json.str?
  some { firstName, lastName, middleName, gender, phone, email, passwordHash }

/-- Only a student has a group. -/
def NewProfile.ofJson? (kind : ProfileKind) (v : Json) : Option NewProfile := do
  let group := if kind = .student then ["group_id"] else []
  let form ← Form.read?
    (["user_id", kind.scopeField] ++ group ++ ["phone", "email"]) v
  let userId ← form.required "user_id" Json.uuid?
  let scopeId ← form.required kind.scopeField Json.uuid?
  let groupId ←
    if kind = .student then form.optional "group_id" Json.uuid? else some none
  let phone ← form.optional "phone" Json.str?
  let email ← form.optional "email" Json.str?
  some { kind, userId, scopeId, groupId, phone, email }

def NewGuardian.ofJson? (v : Json) : Option NewGuardian := do
  let form ← Form.read? ["user_id", "student_id", "relation"] v
  let userId ← form.required "user_id" Json.uuid?
  let studentId ← form.required "student_id" Json.uuid?
  let relation ← form.required "relation" (Json.vocabulary? Relation)
  some { userId, studentId, relation }

end Registrar
