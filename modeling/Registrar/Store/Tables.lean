import Registrar.Guardianship
import Registrar.Store.Order

/-!
# The tables of the register

Twelve tables hold the rows: organizations, schools, grades, groups, users,
role grants, the five kinds of profile, and guardian links.  A table is the list
of its rows in the order of their insertion; rows are only ever added.  It is not
in this order that it yields them, where somebody goes through them one by one.
The five tables of profiles are kept in one list, whose rows name their kind.
-/

namespace Registrar

structure Tables where
  organizations : List Organization := []
  schools : List School := []
  grades : List Grade := []
  groups : List Group := []
  users : List User := []
  grants : List RoleGrantRow := []
  profiles : List ProfileRow := []
  guardians : List GuardianRow := []
  deriving DecidableEq

namespace Tables

def empty : Tables := {}

/-- The table of one kind of profile. -/
def profilesOf (t : Tables) (kind : ProfileKind) : List ProfileRow :=
  t.profiles.filter (·.kind == kind)

/-! ## Rows by their identifiers -/

def organization? (t : Tables) (id : Uuid) : Option Organization :=
  t.organizations.find? (·.id == id)

def school? (t : Tables) (id : Uuid) : Option School :=
  t.schools.find? (·.id == id)

def grade? (t : Tables) (id : Uuid) : Option Grade :=
  t.grades.find? (·.id == id)

def group? (t : Tables) (id : Uuid) : Option Group :=
  t.groups.find? (·.id == id)

def user? (t : Tables) (id : Uuid) : Option User :=
  t.users.find? (·.id == id)

def grant? (t : Tables) (id : Uuid) : Option RoleGrantRow :=
  t.grants.find? (·.id == id)

def profile? (t : Tables) (kind : ProfileKind) (id : Uuid) : Option ProfileRow :=
  (t.profilesOf kind).find? (·.id == id)

def guardian? (t : Tables) (id : Uuid) : Option GuardianRow :=
  t.guardians.find? (·.id == id)

/-- A teacher is shown by the names of the user. -/
def teacherShort? (t : Tables) (id : Uuid) : Option TeacherShort := do
  let teacher ← t.profile? .teacher id
  let user ← t.user? teacher.userId
  some
    { id := teacher.id
      userId := teacher.userId
      firstName := user.firstName
      lastName := user.lastName }

def studentShort? (t : Tables) (id : Uuid) : Option StudentShort := do
  let student ← t.profile? .student id
  let user ← t.user? student.userId
  some
    { id := student.id
      userId := student.userId
      groupId := student.groupId
      firstName := user.firstName
      lastName := user.lastName }

/-- Whether the scope of a profile of a kind exists. -/
def scopeExists (t : Tables) (kind : ProfileKind) (id : Uuid) : Bool :=
  match kind.role.scopeKind with
  | .school => (t.school? id).isSome
  | .organization => (t.organization? id).isSome

/-- The same user holds the same role in the same place.  A grant that is held
nowhere in particular never collides, nor does one of a role that may be held
any number of times. -/
def grantTaken (t : Tables) (row : RoleGrantRow) : Bool :=
  row.role.isScopeUnique && row.scope.key.isSome &&
    t.grants.any fun other =>
      other.userId == row.userId && other.role == row.role &&
        other.scope.key == row.scope.key

/-! ## Insertion -/

def addOrganization (t : Tables) (row : Organization) : Tables :=
  { t with organizations := t.organizations ++ [row] }

def addSchool (t : Tables) (row : School) : Tables :=
  { t with schools := t.schools ++ [row] }

def addGrade (t : Tables) (row : Grade) : Tables :=
  { t with grades := t.grades ++ [row] }

def addGroup (t : Tables) (row : Group) : Tables :=
  { t with groups := t.groups ++ [row] }

def addUser (t : Tables) (row : User) : Tables :=
  { t with users := t.users ++ [row] }

def addGrant (t : Tables) (row : RoleGrantRow) : Tables :=
  { t with grants := t.grants ++ [row] }

def addProfile (t : Tables) (row : ProfileRow) : Tables :=
  { t with profiles := t.profiles ++ [row] }

def addGuardian (t : Tables) (row : GuardianRow) : Tables :=
  { t with guardians := t.guardians ++ [row] }

@[simp] theorem profilesOf_addProfile (t : Tables) (row : ProfileRow)
    (kind : ProfileKind) :
    (t.addProfile row).profilesOf kind =
      t.profilesOf kind ++ if row.kind = kind then [row] else [] := by
  by_cases h : row.kind = kind <;> simp [profilesOf, addProfile, h]

end Tables

/-! ## New rows

A row is made of the new record and of a stamp, the identifier and the time
that the store gives it.  These are up to the store, and so is the order in which
the tables yield their rows at this moment. -/

structure Stamp where
  id : Uuid
  time : Timestamp
  order : RowOrder := {}
  deriving DecidableEq, Inhabited

def NewOrganization.row (new : NewOrganization) (stamp : Stamp) : Organization :=
  { id := stamp.id, name := new.name, createdAt := stamp.time }

def NewSchool.row (new : NewSchool) (stamp : Stamp) : School :=
  { id := stamp.id, organizationId := new.organizationId, name := new.name,
    createdAt := stamp.time }

def NewGrade.row (new : NewGrade) (stamp : Stamp) : Grade :=
  { id := stamp.id, schoolId := new.schoolId, level := new.level, name := new.name }

def NewGroup.row (new : NewGroup) (stamp : Stamp) : Group :=
  { id := stamp.id, schoolId := new.schoolId, gradeId := new.gradeId,
    classTeacherId := new.classTeacherId, name := new.name,
    createdAt := stamp.time }

def NewUser.row (new : NewUser) (stamp : Stamp) : User :=
  { id := stamp.id, firstName := new.firstName, lastName := new.lastName,
    middleName := new.middleName, gender := new.gender, phone := new.phone,
    email := new.email, passwordHash := new.passwordHash,
    createdAt := stamp.time }

def NewRoleGrant.row (new : NewRoleGrant) (stamp : Stamp) : RoleGrantRow :=
  { id := stamp.id, userId := new.userId, role := new.role, scope := new.scope,
    createdAt := stamp.time }

def NewProfile.row (new : NewProfile) (roleId : Uuid) (stamp : Stamp) :
    ProfileRow :=
  { kind := new.kind, id := stamp.id, roleId, userId := new.userId,
    scopeId := new.scopeId, groupId := new.placedIn, phone := new.phone,
    email := new.email, createdAt := stamp.time }

def NewGuardian.row (new : NewGuardian) (roleId : Uuid) (stamp : Stamp) :
    GuardianRow :=
  { id := stamp.id, roleId, userId := new.userId, studentId := new.studentId,
    relation := new.relation, createdAt := stamp.time }

end Registrar
