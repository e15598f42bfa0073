import Registrar.Catalog
import Registrar.Role
import Registrar.Scope

/-!
# Users and their roles

A user is the person behind every profile.  A role grant says which role the
user holds and where.  The password arrives hashed and is never shown.
-/

namespace Registrar

structure User where
  id : Uuid
  firstName : String
  lastName : String
  middleName : Option String
  gender : Gender
  phone : Option String
  email : String
  passwordHash : String
  createdAt : Timestamp
  deriving DecidableEq

structure NewUser where
  firstName : String
  lastName : String
  middleName : Option String
  gender : Gender
  phone : Option String
  email : String
  passwordHash : String
  deriving DecidableEq

/-- The stored columns of a role grant. -/
structure RoleGrantRow where
  id : Uuid
  userId : Uuid
  role : Role
  scope : Scope
  createdAt : Timestamp
  deriving DecidableEq

structure NewRoleGrant where
  userId : Uuid
  role : Role
  scope : Scope
  deriving DecidableEq

/-- A role granted to a user, with the place where it is held. -/
structure RoleGrant extends RoleGrantRow where
  school : Option SchoolShort := none
  organization : Option OrganizationShort := none
  group : Option GroupShort := none
  deriving DecidableEq

/-- A grant whose relations have not been looked up. -/
def RoleGrantRow.bare (row : RoleGrantRow) : RoleGrant :=
  { toRoleGrantRow := row }

end Registrar
