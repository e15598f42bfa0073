import Registrar.Service.Catalog

/-!
# Users and their roles as services

A role is held in a school or in an organization, never in both; a group needs
its school.
-/

namespace Registrar.Service

def addUser (ctx : Ctx) (new : NewUser) : Program User := do
  Program.ofResult (Ruled.check new)
  let row ← Program.ask ctx (.createUser new)
  Program.report (.userCreated row.id)
  return row

def userById (ctx : Ctx) (id : Uuid) : Program User := do
  found "user" id (← Program.ask ctx (.userById id))

/-- Whether a role may be held in a scope. -/
def scopeFits (role : Role) (scope : Scope) : Bool :=
  match role.scopeKind with
  | .school => scope.organizationId.isNone
  | .organization => scope.schoolId.isNone && scope.groupId.isNone

def checkScope (role : Role) (scope : Scope) : Result Unit :=
  if !scopeFits role scope then
    .error (.badRequest
      ("Role '" ++ role.word ++ "' cannot be scoped to " ++ scope.describe))
  else if scope.groupId.isSome && scope.schoolId.isNone then
    .error (.badRequest "A group scope requires a school")
  else .ok ()

/-- Grants a role, inside the unit of work of the context if it carries one. -/
def grantRole (ctx : Ctx) (userId : Uuid) (role : Role) (scope : Scope) :
    Program RoleGrantRow := do
  Program.ofResult (checkScope role scope)
  let row ← Program.ask ctx (.createGrant { userId, role, scope })
  Program.report (.roleAssigned userId role row.id)
  return row

/-- The roles of a user with the places where they are held. -/
def rolesOfUser (ctx : Ctx) (userId : Uuid) : Program (List RoleGrant) := do
  let grants ← Program.ask ctx (.grantsOfUser userId)
  hydrateMany ctx (grants.map RoleGrantRow.bare)

end Registrar.Service
