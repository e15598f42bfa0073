import Registrar.Uuid

/-!
# Where a role is held

A role is held in a school, in an organization, or, by users of the whole
register, nowhere in particular; in a school it may be narrowed to a group.
The *key* of a scope is what must not repeat for one user and role.
-/

namespace Registrar

structure Scope where
  schoolId : Option Uuid := none
  organizationId : Option Uuid := none
  groupId : Option Uuid := none
  deriving DecidableEq, Inhabited

namespace Scope

def school (id : Uuid) : Scope :=
  { schoolId := some id }

def organization (id : Uuid) : Scope :=
  { organizationId := some id }

def withGroup (s : Scope) (groupId : Option Uuid) : Scope :=
  { s with groupId }

/-- The school, or else the organization. -/
def key (s : Scope) : Option Uuid :=
  s.schoolId <|> s.organizationId

def describeId : Option Uuid → String
  | none => "None"
  | some id => "Some(" ++ id.toText ++ ")"

/-- The scope as refusals show it. -/
def describe (s : Scope) : String :=
  "RoleScope \x7b school_id: " ++ describeId s.schoolId ++
    ", organization_id: " ++ describeId s.organizationId ++
    ", group_id: " ++ describeId s.groupId ++ " \x7d"

end Scope

end Registrar
