import Registrar.Context
import Registrar.Store.Tables

/-!
# Requests to a store

What can be asked of the tables: eight sorts of insertion and the look-ups, each
with the type of its answer.  Short forms and rows are returned without their
relations.
-/

namespace Registrar

inductive Request where
  | createUser (new : NewUser)
  | userById (id : Uuid)
  | usersByIds (ids : List Uuid)
  | userByEmail (email : String)
  | createGrant (new : NewRoleGrant)
  | grantById (id : Uuid)
  | grantsOfUser (userId : Uuid)
  | createOrganization (new : NewOrganization)
  | createSchool (new : NewSchool)
  | createGrade (new : NewGrade)
  | createGroup (new : NewGroup)
  | organizationsByIds (ids : List Uuid)
  | schoolById (id : Uuid)
  | schoolsByIds (ids : List Uuid)
  | gradesByIds (ids : List Uuid)
  | groupsByIds (ids : List Uuid)
  | teachersByIds (ids : List Uuid)
  | studentsByIds (ids : List Uuid)
  | createProfile (roleId : Uuid) (new : NewProfile)
  | profileById (kind : ProfileKind) (id : Uuid)
  | listProfiles (kind : ProfileKind) (query : ProfileQuery) (listing : Listing)
  | countProfiles (kind : ProfileKind) (query : ProfileQuery)
  | createGuardian (roleId : Uuid) (new : NewGuardian)
  | guardianById (id : Uuid)
  | listGuardians (query : GuardianQuery) (listing : Listing)
  | countGuardians (query : GuardianQuery)
  deriving DecidableEq

namespace Request

@[reducible] def Answer : Request → Type
  | .createUser _ => User
  | .userById _ => Option User
  | .usersByIds _ => List User
  | .userByEmail _ => Option User
  | .createGrant _ => RoleGrantRow
  | .grantById _ => Option RoleGrantRow
  | .grantsOfUser _ => List RoleGrantRow
  | .createOrganization _ => Organization
  | .createSchool _ => School
  | .createGrade _ => Grade
  | .createGroup _ => Group
  | .organizationsByIds _ => List OrganizationShort
  | .schoolById _ => Option SchoolShort
  | .schoolsByIds _ => List SchoolShort
  | .gradesByIds _ => List Grade
  | .groupsByIds _ => List GroupShort
  | .teachersByIds _ => List TeacherShort
  | .studentsByIds _ => List StudentShort
  | .createProfile _ _ => ProfileRow
  | .profileById _ _ => Option ProfileRow
  | .listProfiles _ _ _ => List ProfileRow
  | .countProfiles _ _ => Nat
  | .createGuardian _ _ => GuardianRow
  | .guardianById _ => Option GuardianRow
  | .listGuardians _ _ => List GuardianRow
  | .countGuardians _ => Nat

def counted (what : String) (ids : List Uuid) : String :=
  what ++ "(" ++ String.ofList (Text.digits ids.length) ++ ")"

/-- The name of a request in a record of calls. -/
def label : Request → String
  | .createUser _ => "users.create"
  | .userById _ => "users.find_by_id"
  | .usersByIds ids => counted "users.find_by_ids" ids
  | .userByEmail _ => "users.find_by_email"
  | .createGrant _ => "user_roles.create"
  | .grantById _ => "user_roles.find_by_id"
  | .grantsOfUser _ => "user_roles.find_by_user"
  | .createOrganization _ => "catalog.create_organization"
  | .createSchool _ => "catalog.create_school"
  | .createGrade _ => "catalog.create_grade"
  | .createGroup _ => "catalog.create_group"
  | .organizationsByIds ids => counted "catalog.organizations_short_by_ids" ids
  | .schoolById _ => "catalog.school_short_by_id"
  | .schoolsByIds ids => counted "catalog.schools_short_by_ids" ids
  | .gradesByIds ids => counted "catalog.grades_by_ids" ids
  | .groupsByIds ids => counted "catalog.groups_by_ids" ids
  | .teachersByIds ids => counted "roster.teachers_by_ids" ids
  | .studentsByIds ids => counted "roster.students_by_ids" ids
  | .createProfile _ new => new.kind.entity ++ ".create"
  | .profileById kind _ => kind.entity ++ ".find_by_id"
  | .listProfiles kind _ _ => kind.entity ++ ".list"
  | .countProfiles kind _ => kind.entity ++ ".count"
  | .createGuardian _ _ => "student_guardians.create"
  | .guardianById _ => "student_guardians.find_by_id"
  | .listGuardians _ _ => "student_guardians.list"
  | .countGuardians _ => "student_guardians.count"

end Request

/-- A call on a storage: a request in a context, or one of the three that open
and close units of work. -/
inductive Call where
  | ask (ctx : Ctx) (request : Request)
  | begin (ctx : Ctx)
  | commit (handle : Handle)
  | rollback (handle : Handle)
  deriving DecidableEq

namespace Call

@[reducible] def Answer : Call → Type
  | .ask _ request => request.Answer
  | .begin _ => Handle
  | .commit _ => Unit
  | .rollback _ => Unit

def label : Call → String
  | .ask _ request => request.label
  | .begin _ => "uow.begin"
  | .commit _ => "uow.commit"
  | .rollback _ => "uow.rollback"

end Call

end Registrar
