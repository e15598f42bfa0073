import Registrar.Rules
import Registrar.Service.Lookup

/-!
# Organizations, schools, grades and groups as services
-/

namespace Registrar.Service

def addOrganization (ctx : Ctx) (new : NewOrganization) : Program Organization := do
  Program.ofResult (Ruled.check new)
  let row ← Program.ask ctx (.createOrganization new)
  Program.report (.organizationCreated row.id)
  return row

def addSchool (ctx : Ctx) (new : NewSchool) : Program School := do
  Program.ofResult (Ruled.check new)
  let row ← Program.ask ctx (.createSchool new)
  Program.report (.schoolCreated row.id row.organizationId)
  return row

def addGrade (ctx : Ctx) (new : NewGrade) : Program Grade := do
  Program.ofResult (Ruled.check new)
  Program.ask ctx (.createGrade new)

def addGroup (ctx : Ctx) (new : NewGroup) : Program Group := do
  Program.ofResult (Ruled.check new)
  let row ← Program.ask ctx (.createGroup new)
  Program.report (.groupCreated row.id row.schoolId)
  return row

/-- The value that was found, or an error that names the missing row. -/
def found {α : Type} (entity : String) (id : Uuid) : Option α → Program α
  | some a => .done a
  | none => .fail (.notFound entity "id" id.toText)

/-- A school with its organization. -/
def schoolById (ctx : Ctx) (id : Uuid) : Program SchoolShort := do
  let school ← found "schools" id (← Program.ask ctx (.schoolById id))
  hydrateOne ctx school

/-- Groups with their grades and class teachers; unknown ones are skipped. -/
def groupsByIds (ctx : Ctx) (ids : List Uuid) : Program (List GroupShort) := do
  let groups ← Program.ask ctx (.groupsByIds ids)
  hydrateMany ctx groups

end Registrar.Service
