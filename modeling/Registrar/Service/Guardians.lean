import Registrar.Service.Profiles

/-!
# Guardians as services

A guardian holds one grant of the guardian's role for each student, in the
student's school.
-/

namespace Registrar.Service

/-- The steps of assigning a guardian, inside a unit of work. -/
def assignIn (inside : Ctx) (new : NewGuardian) : Program GuardianRow := do
  let student ← found "students" new.studentId
    (← Program.ask inside (.profileById .student new.studentId))
  let grant ← (grantRole inside new.userId .guardian
    (Scope.school student.scopeId)).annotate "assign guardian role"
  (Program.ask inside (.createGuardian grant.id new)).annotate
    "create student_guardians"

def guardianById (ctx : Ctx) (id : Uuid) : Program GuardianLink := do
  let row ← found "student_guardians" id (← Program.ask ctx (.guardianById id))
  hydrateOne ctx row.bare

/-- Makes a user a guardian of a student, and reads the link back. -/
def assignGuardian (ctx : Ctx) (new : NewGuardian) : Program GuardianLink := do
  Program.ofResult (Ruled.check new)
  let row ← inUnit ctx fun inside => assignIn inside new
  Program.report (.guardianAssigned row.id row.userId row.studentId)
  guardianById ctx row.id

def listGuardians (ctx : Ctx) (query : GuardianQuery) (listing : Listing) :
    Program (List GuardianLink × Nat) := do
  let rows ← Program.ask ctx (.listGuardians query listing)
  let total ← Program.ask ctx (.countGuardians query)
  let links ← hydrateMany ctx (rows.map GuardianRow.bare)
  return (links, total)

end Registrar.Service
