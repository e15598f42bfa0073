import Registrar.Service.Identity
import Registrar.Service.Unit

/-!
# Profiles as services

A profile and the grant of its role are stored together or not at all.  The new
profile is returned as it is read back after the unit of work has committed.
-/

namespace Registrar.Service

/-- The two steps of provisioning, inside a unit of work of somebody else. -/
def provisionIn (inside : Ctx) (new : NewProfile) : Program ProfileRow := do
  let role := new.kind.role
  let grant ← (grantRole inside new.userId role new.scope).annotate
    ("assign " ++ role.word ++ " role")
  (Program.ask inside (.createProfile grant.id new)).annotate
    ("create " ++ new.kind.entity)

/-- Provisions a profile in a unit of work of its own. -/
def provision (ctx : Ctx) (new : NewProfile) : Program ProfileRow := do
  Program.ofResult (Ruled.check new)
  let row ← inUnit ctx fun inside => provisionIn inside new
  Program.report (.profileProvisioned row.kind row.id row.userId row.roleId)
  return row

def profileById (ctx : Ctx) (kind : ProfileKind) (id : Uuid) : Program Profile := do
  let row ← found kind.entity id (← Program.ask ctx (.profileById kind id))
  hydrateOne ctx row.bare

def addProfile (ctx : Ctx) (new : NewProfile) : Program Profile := do
  let row ← provision ctx new
  profileById ctx new.kind row.id

/-- A page of profiles and the number of all that match. -/
def listProfiles (ctx : Ctx) (kind : ProfileKind) (query : ProfileQuery)
    (listing : Listing) : Program (List Profile × Nat) := do
  let rows ← Program.ask ctx (.listProfiles kind query listing)
  let total ← Program.ask ctx (.countProfiles kind query)
  let profiles ← hydrateMany ctx (rows.map ProfileRow.bare)
  return (profiles, total)

def countProfiles (ctx : Ctx) (kind : ProfileKind) (query : ProfileQuery) :
    Program Nat :=
  Program.ask ctx (.countProfiles kind query)

end Registrar.Service
