import Registrar.Guardianship
import Registrar.Json.Form

/-!
# Records written as JSON

The fields of a record in their declared order, its relations last.  A user is
written without the password hash.
-/

namespace Registrar

open Json

def Json.ofText? : Option String → Json :=
  Json.ofOption Json.str

def Json.ofUuid? : Option Uuid → Json :=
  Json.ofOption Json.ofUuid

def Json.times (createdAt : Timestamp) : List (String × Json) :=
  [("created_at", .str createdAt.toText), ("updated_at", .str createdAt.toText)]

def Organization.toJson (o : Organization) : Json :=
  .obj ([("id", ofUuid o.id), ("name", .str o.name)] ++ times o.createdAt)

def School.toJson (s : School) : Json :=
  .obj ([("id", ofUuid s.id), ("organization_id", ofUuid s.organizationId),
    ("name", .str s.name)] ++ times s.createdAt)

def Grade.toJson (g : Grade) : Json :=
  .obj [("id", ofUuid g.id), ("school_id", ofUuid g.schoolId),
    ("level", .int g.level), ("name", .str g.name)]

def Group.toJson (g : Group) : Json :=
  .obj ([("id", ofUuid g.id), ("school_id", ofUuid g.schoolId),
    ("grade_id", ofUuid g.gradeId),
    ("class_teacher_id", ofUuid? g.classTeacherId), ("name", .str g.name)] ++
    times g.createdAt)

def OrganizationShort.toJson (o : OrganizationShort) : Json :=
  .obj [("id", ofUuid o.id), ("name", .str o.name)]

def SchoolShort.toJson (s : SchoolShort) : Json :=
  .obj [("id", ofUuid s.id), ("organization_id", ofUuid s.organizationId),
    ("name", .str s.name),
    ("organization", Json.ofOption OrganizationShort.toJson s.organization)]

def TeacherShort.toJson (t : TeacherShort) : Json :=
  .obj [("id", ofUuid t.id), ("user_id", ofUuid t.userId),
    ("first_name", .str t.firstName), ("last_name", .str t.lastName)]

def StudentShort.toJson (s : StudentShort) : Json :=
  .obj [("id", ofUuid s.id), ("user_id", ofUuid s.userId),
    ("group_id", ofUuid? s.groupId), ("first_name", .str s.firstName),
    ("last_name", .str s.lastName)]

def GroupShort.toJson (g : GroupShort) : Json :=
  .obj [("id", ofUuid g.id), ("grade_id", ofUuid g.gradeId),
    ("class_teacher_id", ofUuid? g.classTeacherId), ("name", .str g.name),
    ("grade", Json.ofOption Grade.toJson g.grade),
    ("class_teacher", Json.ofOption TeacherShort.toJson g.classTeacher)]

def User.toJson (u : User) : Json :=
  .obj ([("id", ofUuid u.id), ("first_name", .str u.firstName),
    ("last_name", .str u.lastName), ("middle_name", ofText? u.middleName),
    ("gender", ofWord u.gender), ("phone", ofText? u.phone),
    ("email", .str u.email)] ++ times u.createdAt)

def RoleGrant.toJson (g : RoleGrant) : Json :=
  .obj ([("id", ofUuid g.id), ("user_id", ofUuid g.userId),
    ("role", ofWord g.role), ("school_id", ofUuid? g.scope.schoolId),
    ("organization_id", ofUuid? g.scope.organizationId),
    ("group_id", ofUuid? g.scope.groupId)] ++ times g.createdAt ++
    [("school", Json.ofOption SchoolShort.toJson g.school),
      ("organization", Json.ofOption OrganizationShort.toJson g.organization),
      ("group", Json.ofOption GroupShort.toJson g.group)])

/-- An owner shows its organization, everybody else the school; a student shows
the group too. -/
def Profile.toJson (p : Profile) : Json :=
  let group := fun (shown : List (String × Json)) =>
    if p.kind = .student then shown else []
  let place :=
    if p.kind = .owner then
      ("organization", Json.ofOption OrganizationShort.toJson p.organization)
    else ("school", Json.ofOption SchoolShort.toJson p.school)
  .obj ([("id", ofUuid p.id), ("role_id", ofUuid p.roleId),
    ("user_id", ofUuid p.userId), (p.kind.scopeField, ofUuid p.scopeId)] ++
    group [("group_id", ofUuid? p.groupId)] ++
    [("phone", ofText? p.phone), ("email", ofText? p.email)] ++
    times p.createdAt ++
    [("user", Json.ofOption User.toJson p.user), place] ++
    group [("group", Json.ofOption GroupShort.toJson p.group)])

def GuardianLink.toJson (l : GuardianLink) : Json :=
  .obj ([("id", ofUuid l.id), ("role_id", ofUuid l.roleId),
    ("user_id", ofUuid l.userId), ("student_id", ofUuid l.studentId),
    ("relation", ofWord l.relation)] ++ times l.createdAt ++
    [("user", Json.ofOption User.toJson l.user),
      ("student", Json.ofOption StudentShort.toJson l.student)])

end Registrar
