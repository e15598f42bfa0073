import Registrar.DateWindow
import Registrar.Identity
import Registrar.Paging

/-!
# Profiles

A user takes part in the register as director, headmaster, teacher, student or
owner.  Each such profile rests on a grant of the role of its kind, in a school
or, for an owner, in an organization; a student may be placed in a group of the
school.  The five kinds share one form of row: the scope is the school or the
organization, and only students have a group.
-/

namespace Registrar

inductive ProfileKind where
  | director | headmaster | teacher | student | owner
  deriving DecidableEq, Inhabited

namespace ProfileKind

def all : List ProfileKind :=
  [.director, .headmaster, .teacher, .student, .owner]

/-- The role that a profile of the kind rests on. -/
def role : ProfileKind → Role
  | .director => .director
  | .headmaster => .headmaster
  | .teacher => .teacher
  | .student => .student
  | .owner => .owner

/-- The table of the kind, which also names it in errors and events. -/
def entity : ProfileKind → String
  | .director => "directors"
  | .headmaster => "headmasters"
  | .teacher => "teachers"
  | .student => "students"
  | .owner => "owners"

/-- The name of the scope column. -/
def scopeField : ProfileKind → String
  | .owner => "organization_id"
  | _ => "school_id"

end ProfileKind

structure NewProfile where
  kind : ProfileKind
  userId : Uuid
  scopeId : Uuid
  groupId : Option Uuid := none
  phone : Option String
  email : Option String
  deriving DecidableEq

/-- Only a student is placed in a group. -/
def NewProfile.placedIn (new : NewProfile) : Option Uuid :=
  if new.kind = .student then new.groupId else none

/-- The scope in which the role is granted; a student's grant records the group
too, so that a list of roles can show the class. -/
def NewProfile.scope (new : NewProfile) : Scope :=
  match new.kind.role.scopeKind with
  | .organization => Scope.organization new.scopeId
  | .school => (Scope.school new.scopeId).withGroup new.placedIn

/-- The stored columns of a profile. -/
structure ProfileRow where
  kind : ProfileKind
  id : Uuid
  roleId : Uuid
  userId : Uuid
  scopeId : Uuid
  groupId : Option Uuid
  phone : Option String
  email : Option String
  createdAt : Timestamp
  deriving DecidableEq

/-- A profile with what its keys refer to. -/
structure Profile extends ProfileRow where
  user : Option User := none
  school : Option SchoolShort := none
  organization : Option OrganizationShort := none
  group : Option GroupShort := none
  deriving DecidableEq

def ProfileRow.bare (row : ProfileRow) : Profile :=
  { toProfileRow := row }

/-- The group of a student; other profiles have none. -/
def ProfileRow.placedIn (row : ProfileRow) : Option Uuid :=
  if row.kind = .student then row.groupId else none

def ProfileRow.sortKey (row : ProfileRow) : SortKey :=
  ⟨row.createdAt, row.id⟩

/-- The condition shared by a list of profiles and its count. -/
structure ProfileQuery where
  scopeId : Option Uuid := none
  userId : Option Uuid := none
  created : Option DateWindow := none
  deriving DecidableEq

def ProfileQuery.accepts (q : ProfileQuery) (row : ProfileRow) : Bool :=
  q.scopeId.all (· == row.scopeId) && q.userId.all (· == row.userId) &&
    q.created.all (·.contains row.createdAt)

end Registrar
