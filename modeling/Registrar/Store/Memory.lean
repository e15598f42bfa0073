import Registrar.Store.Policy
import Registrar.Store.Serving

/-!
# The store in memory

One lock guards all the tables.  A unit of work holds it from its beginning to
its end and works on the tables themselves; the tables as they were when it
began are put back when it is rolled back or dropped.  A call outside the unit
waits until the unit is closed.

A row is checked first for dangling references, in the order of its columns, and
then for a duplicate.
-/

namespace Registrar

namespace Memory

def invalidReference (entity field : String) (value : Uuid) : AppError :=
  .validation field
    ("Invalid reference from " ++ entity ++ " with value '" ++ value.toText ++ "'")

/-- Refuses a reference to a row that is not there. -/
def refer (entity field : String) (value : Uuid) (known : Bool) : Result Unit :=
  if known then .ok () else .error (invalidReference entity field value)

/-- An absent reference is never refused. -/
def referOptional (entity field : String) (value : Option Uuid)
    (known : Uuid → Bool) : Result Unit :=
  match value with
  | some id => refer entity field id (known id)
  | none => .ok ()

def refuseIf (taken : Bool) (e : AppError) : Result Unit :=
  if taken then .error e else .ok ()

def checkSchool (t : Tables) (row : School) : Result Unit :=
  refer "schools" "organization_id" row.organizationId
    (t.organization? row.organizationId).isSome

def checkGrade (t : Tables) (row : Grade) : Result Unit := do
  refer "grades" "school_id" row.schoolId (t.school? row.schoolId).isSome
  refuseIf
    (t.grades.any fun other => other.schoolId == row.schoolId && other.level == row.level)
    (.duplicate "grades" "school_id, level"
      (row.schoolId.toText ++ ", " ++ String.ofList (Text.digitsOfInt row.level)))

def checkGroup (t : Tables) (row : Group) : Result Unit := do
  refer "groups" "school_id" row.schoolId (t.school? row.schoolId).isSome
  refer "groups" "grade_id" row.gradeId (t.grade? row.gradeId).isSome
  referOptional "groups" "class_teacher_id" row.classTeacherId
    fun id => (t.profile? .teacher id).isSome

def checkUser (t : Tables) (row : User) : Result Unit :=
  refuseIf (t.users.any fun other => other.email == row.email)
    (.duplicate "users" "email" row.email)

def checkGrant (t : Tables) (row : RoleGrantRow) : Result Unit := do
  refer "user_roles" "user_id" row.userId (t.user? row.userId).isSome
  referOptional "user_roles" "school_id" row.scope.schoolId
    fun id => (t.school? id).isSome
  referOptional "user_roles" "organization_id" row.scope.organizationId
    fun id => (t.organization? id).isSome
  referOptional "user_roles" "group_id" row.scope.groupId
    fun id => (t.group? id).isSome
  refuseIf (t.grantTaken row)
    (.roleAlreadyAssigned row.userId row.role row.scope.key)

/-- What a profile shares with a stored one; the phone is looked at first. -/
def contactTaken? (entity : String) (row other : ProfileRow) : Option AppError :=
  if row.phone.isSome && other.phone == row.phone then
    some (.duplicate entity "phone" (row.phone.getD ""))
  else if row.email.isSome && other.email == row.email then
    some (.duplicate entity "email" (row.email.getD ""))
  else none

def checkContacts (entity : String) (row : ProfileRow) :
    List ProfileRow → Result Unit
  | [] => .ok ()
  | other :: rest =>
    match contactTaken? entity row other with
    | some e => .error e
    | none => checkContacts entity row rest

/-- The stored profiles are gone through as they are yielded, and the first one that
shares a contact decides which of the two is reported. -/
def checkProfile (order : RowOrder) (t : Tables) (row : ProfileRow) : Result Unit := do
  let entity := row.kind.entity
  refer entity "role_id" row.roleId (t.grant? row.roleId).isSome
  refer entity "user_id" row.userId (t.user? row.userId).isSome
  refer entity "scope_id" row.scopeId (t.scopeExists row.kind row.scopeId)
  checkContacts entity row (order.arrange (t.profilesOf row.kind))

def checkGuardian (t : Tables) (row : GuardianRow) : Result Unit := do
  refer "student_guardians" "role_id" row.roleId (t.grant? row.roleId).isSome
  refer "student_guardians" "user_id" row.userId (t.user? row.userId).isSome
  refer "student_guardians" "student_id" row.studentId
    (t.profile? .student row.studentId).isSome
  refuseIf
    (t.guardians.any fun other =>
      other.userId == row.userId && other.studentId == row.studentId)
    (.duplicate "student_guardians" "user_id, student_id"
      (row.userId.toText ++ ", " ++ row.studentId.toText))

/-- The row itself, once it has been checked. -/
def accept {α : Type} (check : Tables → α → Result Unit) (t : Tables) (row : α) :
    Result α :=
  match check t row with
  | .ok () => .ok row
  | .error e => .error e

def policy : Policy AppError where
  organization _ row := .ok row
  school := accept checkSchool
  grade := accept checkGrade
  group := accept checkGroup
  user := accept checkUser
  grant := accept checkGrant
  profile order := accept (checkProfile order)
  guardian := accept checkGuardian
  wanted ids := ids

/-- What a request is called when its deadline has passed. -/
def operation : Request → String
  | .createUser _ => "insert users"
  | .userById _ => "select users by id"
  | .usersByIds _ => "select users by ids"
  | .userByEmail _ => "select users by email"
  | .createGrant _ => "insert user_roles"
  | .grantById _ => "select user_roles by id"
  | .grantsOfUser _ => "select user_roles by user"
  | .createOrganization _ => "insert edu_organizations"
  | .createSchool _ => "insert schools"
  | .createGrade _ => "insert grades"
  | .createGroup _ => "insert groups"
  | .organizationsByIds _ => "select edu_organizations by ids"
  | .schoolById _ => "select schools by id"
  | .schoolsByIds _ => "select schools by ids"
  | .gradesByIds _ => "select grades by ids"
  | .groupsByIds _ => "select groups by ids"
  | .teachersByIds _ => "select teachers by ids"
  | .studentsByIds _ => "select students by ids"
  | .createProfile _ new => new.kind.entity
  | .profileById kind _ | .listProfiles kind _ _ | .countProfiles kind _ =>
    kind.entity
  | .createGuardian _ _ => "insert student_guardians"
  | .guardianById _ => "select student_guardians by id"
  | .listGuardians _ _ => "list student_guardians"
  | .countGuardians _ => "count student_guardians"

def beginOperation : String := "begin unit of work"

end Memory

/-- An open unit of work, with the tables as they were when it began. -/
structure OpenUnit where
  id : Uuid
  snapshot : Tables
  deriving DecidableEq

/-- The tables, and the unit that holds the lock. -/
structure Store where
  tables : Tables := {}
  opened : Option OpenUnit := none
  deriving DecidableEq

namespace Store

def empty : Store := {}

/-- The open unit that a handle names.  The handle of any store in memory is
taken as one of this store; among several stores it leads to the right one
first. -/
def unitOf (s : Store) (h : Handle) : Result OpenUnit :=
  match h.home with
  | .memory _ =>
    match s.opened with
    | some opened =>
      if opened.id = h.id then .ok opened else .error (.transactionClosed h.id)
    | none => .error (.transactionClosed h.id)
  | _ => .error (.internal [h.foreignMessage])

/-- Serves a request on the tables. -/
def perform (s : Store) (stamp : Stamp) (request : Request) :
    Result request.Answer × Store :=
  let (answer, tables) := s.tables.serve Memory.policy stamp request
  (answer, { s with tables })

def ask (s : Store) (tick : Tick) (ctx : Ctx) (request : Request) :
    Served Store request.Answer :=
  if ctx.isOver tick.now then
    .answered (.error (.deadlineExceeded (Memory.operation request))) s
  else
    match ctx.handle with
    | some h =>
      match s.unitOf h with
      | .ok _ => let (answer, s) := s.perform tick.stamp request; .answered answer s
      | .error e => .answered (.error e) s
    | none =>
      match s.opened with
      | some _ => .waiting
      | none => let (answer, s) := s.perform tick.stamp request; .answered answer s

/-- Takes the lock; `here` is the number of this store. -/
def begin (here : Nat) (s : Store) (tick : Tick) (ctx : Ctx) : Served Store Handle :=
  if ctx.isOver tick.now then
    .answered (.error (.deadlineExceeded Memory.beginOperation)) s
  else
    match s.opened with
    | some _ => .waiting
    | none =>
      .answered (.ok { id := tick.stamp.id, home := .memory here })
        { s with opened := some { id := tick.stamp.id, snapshot := s.tables } }

def commit (s : Store) (h : Handle) : Result Unit × Store :=
  match s.unitOf h with
  | .ok _ => (.ok (), { s with opened := none })
  | .error e => (.error e, s)

def rollback (s : Store) (h : Handle) : Result Unit × Store :=
  match s.unitOf h with
  | .ok opened => (.ok (), { tables := opened.snapshot })
  | .error e => (.error e, s)

/-- The last copy of a handle is gone: its unit, if still open, is rolled
back. -/
def drop (s : Store) (h : Handle) : Store :=
  (s.rollback h).2

/-- One call on the store. -/
def serve (here : Nat) (s : Store) (tick : Tick) : (call : Call) →
    Served Store call.Answer
  | .ask ctx request => s.ask tick ctx request
  | .begin ctx => s.begin here tick ctx
  | .commit h => let (answer, s) := s.commit h; .answered answer s
  | .rollback h => let (answer, s) := s.rollback h; .answered answer s

end Store

end Registrar
