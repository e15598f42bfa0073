import Registrar.Store.Policy
import Registrar.Violation.Decode

/-!
# The schema of the database

In the database the tables have typed columns and named constraints.  An
insertion is checked in this order: its texts must not hold the character NUL;
each text must fit the width of its column; the condition on the level of a
grade must hold; the unique keys must be free; and the referenced rows must
exist.  A violation is reported as the database words it.

A text wider than its column is cut if only spaces are lost.
-/

namespace Registrar

namespace Schema

open Text

abbrev Checked := Except StatementError

/-- A failure that is no violation of a constraint. -/
def failure (message : String) : StatementError :=
  .reported { kind := .other "Unknown", message }

def nulFailure : StatementError :=
  failure "invalid byte sequence for encoding \"UTF8\": 0x00"

def tooLong (width : Nat) : StatementError :=
  failure ("value too long for type character varying(" ++
    String.ofList (digits width) ++ ")")

def aborted : StatementError :=
  failure
    "current transaction is aborted, commands ignored until end of transaction block"

def timeOutOfRange : StatementError :=
  failure "timestamp out of range"

/-! ## Columns -/

/-- None of the texts holds the character NUL. -/
def checkNul (texts : List String) : Checked Unit :=
  if texts.any fun s => s.toList.any (· == '\x00') then .error nulFailure else .ok ()

/-- The text as a column of a width stores it. -/
def fit (width : Nat) (s : String) : Checked String :=
  let chars := s.toList
  if chars.length ≤ width then .ok s
  else if (chars.drop width).all (· == ' ') then .ok (String.ofList (chars.take width))
  else .error (tooLong width)

def fitOptional (width : Nat) : Option String → Checked (Option String)
  | none => .ok none
  | some s => (fit width s).map some

/-- The first instant that the database can store. -/
def firstInstant : Timestamp :=
  ⟨-210866803200 * 1000000000⟩

def checkWindow (window : Option DateWindow) : Checked Unit :=
  let bounds := window.elim [] fun w => w.start.toList ++ w.stop.toList
  if bounds.any (· < firstInstant) then .error timeOutOfRange else .ok ()

/-- What can be wrong with the parameters of a look-up. -/
def checkLookup : Request → Checked Unit
  | .userByEmail email => checkNul [email]
  | .listProfiles _ query _ | .countProfiles _ query => checkWindow query.created
  | .listGuardians query _ | .countGuardians query => checkWindow query.created
  | _ => .ok ()

/-! ## Constraints -/

/-- A key that is taken already. -/
def uniqueViolation (constraint columns values : String) : StatementError :=
  .reported
    { kind := .unique
      message := "duplicate key value violates unique constraint \"" ++ constraint ++
        "\""
      detail := "Key (" ++ columns ++ ")=(" ++ values ++ ") already exists."
      constraint }

def unique (constraint columns values : String) (taken : Bool) : Checked Unit :=
  if taken then .error (uniqueViolation constraint columns values) else .ok ()

/-- A reference from a column of a table to a row of another that is not
there. -/
def referenceViolation (table column : String) (value : Uuid) (target : String) :
    StatementError :=
  let constraint := table ++ "_" ++ column ++ "_fkey"
  .reported
    { kind := .reference
      message := "insert or update on table \"" ++ table ++
        "\" violates foreign key constraint \"" ++ constraint ++ "\""
      detail := "Key (" ++ column ++ ")=(" ++ value.toText ++
        ") is not present in table \"" ++ target ++ "\"."
      constraint }

def refers (table column : String) (value : Uuid) (target : String) (known : Bool) :
    Checked Unit :=
  if known then .ok () else .error (referenceViolation table column value target)

def refersOptional (table column : String) (value : Option Uuid) (target : String)
    (known : Uuid → Bool) : Checked Unit :=
  match value with
  | some id => refers table column id target (known id)
  | none => .ok ()

def storeName (width : Nat) (name : String) : Checked String := do
  checkNul [name]
  fit width name

def storeOrganization (_ : Tables) (row : Organization) : Checked Organization := do
  let name ← storeName 200 row.name
  return { row with name }

def storeSchool (t : Tables) (row : School) : Checked School := do
  let name ← storeName 200 row.name
  refers "schools" "organization_id" row.organizationId "edu_organizations"
    (t.organization? row.organizationId).isSome
  return { row with name }

def levelViolation (row : Grade) : StatementError :=
  .reported
    { kind := .check
      message :=
        "new row for relation \"grades\" violates check constraint \"grades_level_check\""
      detail := "Failing row contains (" ++ row.id.toText ++ ")."
      constraint := "grades_level_check" }

def storeGrade (t : Tables) (row : Grade) : Checked Grade := do
  let name ← storeName 100 row.name
  if row.level < 1 ∨ 12 < row.level then .error (levelViolation row)
  unique "grades_school_id_level_key" "school_id, level"
    (row.schoolId.toText ++ ", " ++ String.ofList (digitsOfInt row.level))
    (t.grades.any fun other => other.schoolId == row.schoolId && other.level == row.level)
  refers "grades" "school_id" row.schoolId "schools" (t.school? row.schoolId).isSome
  return { row with name }

def storeGroup (t : Tables) (row : Group) : Checked Group := do
  let name ← storeName 100 row.name
  refers "groups" "school_id" row.schoolId "schools" (t.school? row.schoolId).isSome
  refers "groups" "grade_id" row.gradeId "grades" (t.grade? row.gradeId).isSome
  refersOptional "groups" "class_teacher_id" row.classTeacherId "teachers"
    fun id => (t.profile? .teacher id).isSome
  return { row with name }

def storeUser (t : Tables) (row : User) : Checked User := do
  checkNul ([row.firstName, row.lastName, row.email, row.passwordHash] ++
    row.middleName.toList ++ row.phone.toList)
  let firstName ← fit 100 row.firstName
  let lastName ← fit 100 row.lastName
  let middleName ← fitOptional 100 row.middleName
  let phone ← fitOptional 32 row.phone
  let email ← fit 255 row.email
  let passwordHash ← fit 255 row.passwordHash
  unique "users_email_key" "email" email
    (t.users.any fun other => other.email == email)
  return { row with firstName, lastName, middleName, phone, email, passwordHash }

def scopeText (scope : Scope) : String :=
  scope.key.elim "" Uuid.toText

def storeGrant (t : Tables) (row : RoleGrantRow) : Checked RoleGrantRow := do
  unique ViolationReport.roleScopeIndex "user_id, role, scope_id"
    (row.userId.toText ++ ", " ++ row.role.word ++ ", " ++ scopeText row.scope)
    (t.grantTaken row)
  refers "user_roles" "user_id" row.userId "users" (t.user? row.userId).isSome
  refersOptional "user_roles" "school_id" row.scope.schoolId "schools"
    fun id => (t.school? id).isSome
  refersOptional "user_roles" "organization_id" row.scope.organizationId
    "edu_organizations" fun id => (t.organization? id).isSome
  refersOptional "user_roles" "group_id" row.scope.groupId "groups"
    fun id => (t.group? id).isSome
  return row

def uniqueContact (table column : String) (value : Option String)
    (others : List (Option String)) : Checked Unit :=
  match value with
  | some s => unique (table ++ "_" ++ column ++ "_key") column s (others.contains (some s))
  | none => .ok ()

def scopeTable (kind : ProfileKind) : String :=
  match kind.role.scopeKind with
  | .school => "schools"
  | .organization => "edu_organizations"

def storeProfile (t : Tables) (row : ProfileRow) : Checked ProfileRow := do
  let table := row.kind.entity
  let others := t.profilesOf row.kind
  checkNul (row.phone.toList ++ row.email.toList)
  let phone ← fitOptional 32 row.phone
  let email ← fitOptional 255 row.email
  uniqueContact table "phone" phone (others.map ProfileRow.phone)
  uniqueContact table "email" email (others.map ProfileRow.email)
  refers table "role_id" row.roleId "user_roles" (t.grant? row.roleId).isSome
  refers table "user_id" row.userId "users" (t.user? row.userId).isSome
  refers table row.kind.scopeField row.scopeId (scopeTable row.kind)
    (t.scopeExists row.kind row.scopeId)
  refersOptional table "group_id" row.placedIn "groups"
    fun id => (t.group? id).isSome
  return { row with phone, email }

def storeGuardian (t : Tables) (row : GuardianRow) : Checked GuardianRow := do
  unique "student_guardians_user_id_student_id_key" "user_id, student_id"
    (row.userId.toText ++ ", " ++ row.studentId.toText)
    (t.guardians.any fun other =>
      other.userId == row.userId && other.studentId == row.studentId)
  refers "student_guardians" "role_id" row.roleId "user_roles"
    (t.grant? row.roleId).isSome
  refers "student_guardians" "user_id" row.userId "users"
    (t.user? row.userId).isSome
  refers "student_guardians" "student_id" row.studentId "students"
    (t.profile? .student row.studentId).isSome
  return row

/-- An identifier that is asked for twice names one row. -/
def policy : Policy StatementError where
  organization := storeOrganization
  school := storeSchool
  grade := storeGrade
  group := storeGroup
  user := storeUser
  grant := storeGrant
  profile _ := storeProfile
  guardian := storeGuardian
  wanted := List.eraseDups

/-- What a request is called in errors. -/
def operation : Request → String
  | .createUser _ => "insert users"
  | .userById _ => "select users by id"
  | .usersByIds _ => "select users by ids"
  | .userByEmail _ => "select users by email"
  | .createGrant _ => "insert user_roles"
  | .grantById _ => "select user_roles by id"
  | .grantsOfUser _ => "select user_roles by user"
  | .createOrganization _ => "insert edu_organizations"
  | .createSchool _ => "insert schools"
  | .createGrade _ => "insert grades"
  | .createGroup _ => "insert groups"
  | .organizationsByIds _ => "select edu_organizations by ids"
  | .schoolById _ => "select schools by id"
  | .schoolsByIds _ => "select schools by ids"
  | .gradesByIds _ => "select grades by ids"
  | .groupsByIds _ => "select groups by ids"
  | .teachersByIds _ => "select teachers by ids"
  | .studentsByIds _ => "select students by ids"
  | .createProfile _ new => "insert " ++ new.kind.entity
  | .profileById kind _ => "select " ++ kind.entity ++ " by id"
  | .listProfiles kind _ _ => "list " ++ kind.entity
  | .countProfiles kind _ => "count " ++ kind.entity
  | .createGuardian _ _ => "insert student_guardians"
  | .guardianById _ => "select student_guardians by id"
  | .listGuardians _ _ => "list student_guardians"
  | .countGuardians _ => "count student_guardians"

def beginOperation : String := "begin transaction"

end Schema

end Registrar
