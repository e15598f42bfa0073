import Registrar.Console.Control
import Registrar.Record.Reading
import Registrar.Record.Writing
import Registrar.Service.Guardians

/-!
# Steps of a session

A step names what it does and brings what that needs.  It is answered by a
value, or by the reason why there is none; what it makes gets the name of the
step.
-/

namespace Registrar.Console.Session

open Refusal

/-- The steps on one kind of profile. -/
def profileStep (s : Session) (name what : String) (step : Json)
    (kind : ProfileKind) : Answering Outcome := do
  let ctx ← s.context step
  let query ← profileQuery step
  let list ← listing step
  let new := ofRead (NewProfile.ofJson? kind (value step "new"))
  let named (s : Session) (row : ProfileRow) : Session :=
    s.bindRow name row.id (some row.roleId)
  match what with
  | "add" =>
    return s.perform (Service.addProfile ctx (← new)) fun s p =>
      (named s p.toProfileRow, p.toJson)
  | "provision_in" =>
    return s.perform (Service.provisionIn ctx (← new)) fun s row =>
      (named s row, row.bare.toJson)
  | "create" =>
    let role ← uuid step "role_id"
    return s.perform (Program.ask ctx (.createProfile role (← new))) fun s row =>
      (named s row, row.bare.toJson)
  | "by_id" =>
    let id ← uuid step "id"
    return s.perform (Service.profileById ctx kind id) fun s p =>
      (named s p.toProfileRow, p.toJson)
  | "find" =>
    let id ← uuid step "id"
    return s.perform (Program.ask ctx (.profileById kind id)) fun s found =>
      (found.elim s (named s), Json.ofOption (fun row => row.bare.toJson) found)
  | "list" =>
    return s.perform (Service.listProfiles ctx kind query list)
      (page (fun p => p.toProfileRow.sortKey) Profile.toJson)
  | "list_ids" =>
    return s.perform (Program.ask ctx (.listProfiles kind query list))
      (listed ProfileRow.sortKey fun row => Json.ofUuid row.id)
  | "count" =>
    return s.perform (Service.countProfiles ctx kind query) (shown fun n => .int n)
  | other => .error (.notUnderstood ("unknown step " ++ other))

/-- The steps on organizations, schools, grades and groups. -/
def catalogStep? (s : Session) (name what : String) (step : Json) (ctx : Ctx) :
    Option (Answering Outcome) :=
  let new := value step "new"
  match what with
  | "add_organization" => some do
    let new ← ofRead (NewOrganization.ofJson? new)
    return s.perform (Service.addOrganization ctx new)
      (made name Organization.id Organization.toJson)
  | "create_organization" => some do
    let new ← ofRead (NewOrganization.ofJson? new)
    return s.perform (Program.ask ctx (.createOrganization new))
      (made name Organization.id Organization.toJson)
  | "add_school" => some do
    let new ← ofRead (NewSchool.ofJson? new)
    return s.perform (Service.addSchool ctx new) (made name School.id School.toJson)
  | "create_school" => some do
    let new ← ofRead (NewSchool.ofJson? new)
    return s.perform (Program.ask ctx (.createSchool new))
      (made name School.id School.toJson)
  | "add_grade" => some do
    let new ← ofRead (NewGrade.ofJson? new)
    return s.perform (Service.addGrade ctx new) (made name Grade.id Grade.toJson)
  | "create_grade" => some do
    let new ← ofRead (NewGrade.ofJson? new)
    return s.perform (Program.ask ctx (.createGrade new))
      (made name Grade.id Grade.toJson)
  | "add_group" => some do
    let new ← ofRead (NewGroup.ofJson? new)
    return s.perform (Service.addGroup ctx new) (made name Group.id Group.toJson)
  | "create_group" => some do
    let new ← ofRead (NewGroup.ofJson? new)
    return s.perform (Program.ask ctx (.createGroup new))
      (made name Group.id Group.toJson)
  | "school_by_id" => some do
    let id ← uuid step "id"
    return s.perform (Service.schoolById ctx id) (shown SchoolShort.toJson)
  | "groups_by_ids" => some do
    let ids ← uuids step "ids"
    return s.perform (Service.groupsByIds ctx ids) (batch GroupShort.id GroupShort.toJson)
  | "school_short" => some do
    let id ← uuid step "id"
    return s.perform (Program.ask ctx (.schoolById id))
      (shown (Json.ofOption SchoolShort.toJson))
  | "organizations_short" => some do
    let ids ← uuids step "ids"
    return s.perform (Program.ask ctx (.organizationsByIds ids))
      (batch OrganizationShort.id OrganizationShort.toJson)
  | "schools_short" => some do
    let ids ← uuids step "ids"
    return s.perform (Program.ask ctx (.schoolsByIds ids))
      (batch SchoolShort.id SchoolShort.toJson)
  | "grades" => some do
    let ids ← uuids step "ids"
    return s.perform (Program.ask ctx (.gradesByIds ids)) (batch Grade.id Grade.toJson)
  | "groups_short" => some do
    let ids ← uuids step "ids"
    return s.perform (Program.ask ctx (.groupsByIds ids))
      (batch GroupShort.id GroupShort.toJson)
  | "teachers_short" => some do
    let ids ← uuids step "ids"
    return s.perform (Program.ask ctx (.teachersByIds ids))
      (batch TeacherShort.id TeacherShort.toJson)
  | "students_short" => some do
    let ids ← uuids step "ids"
    return s.perform (Program.ask ctx (.studentsByIds ids))
      (batch StudentShort.id StudentShort.toJson)
  | _ => none

/-- The steps on users, their roles and guardians. -/
def identityStep (s : Session) (name what : String) (step : Json) (ctx : Ctx) :
    Answering Outcome := do
  let new := value step "new"
  let grant (s : Session) (row : RoleGrantRow) : Session × Json :=
    made name RoleGrantRow.id (fun row => row.bare.toJson) s row
  match what with
  | "add_user" =>
    let new ← ofRead (NewUser.ofJson? new)
    return s.perform (Service.addUser ctx new) (made name User.id User.toJson)
  | "create_user" =>
    let new ← ofRead (NewUser.ofJson? new)
    return s.perform (Program.ask ctx (.createUser new)) (made name User.id User.toJson)
  | "user_by_id" =>
    let id ← uuid step "id"
    return s.perform (Service.userById ctx id) (shown User.toJson)
  | "find_user" =>
    let id ← uuid step "id"
    return s.perform (Program.ask ctx (.userById id)) (shown (Json.ofOption User.toJson))
  | "find_users" =>
    let ids ← uuids step "ids"
    return s.perform (Program.ask ctx (.usersByIds ids)) (batch User.id User.toJson)
  | "find_user_by_email" =>
    return s.perform (Program.ask ctx (.userByEmail (stringOr step "email" "")))
      (shown (Json.ofOption User.toJson))
  | "add_role" =>
    let userId ← uuid step "user_id"
    let role ← word Role step "role"
    let scope ← scope step
    return s.perform (Service.grantRole ctx userId role scope) grant
  | "create_role" =>
    let userId ← uuid step "user_id"
    let role ← word Role step "role"
    let scope ← scope step
    return s.perform (Program.ask ctx (.createGrant { userId, role, scope })) grant
  | "find_role" =>
    let id ← uuid step "id"
    return s.perform (Program.ask ctx (.grantById id))
      (shown (Json.ofOption fun row => row.bare.toJson))
  | "roles_of_user" =>
    let userId ← uuid step "user_id"
    return s.perform (Service.rolesOfUser ctx userId)
      (listed (fun g => ⟨g.createdAt, g.id⟩) RoleGrant.toJson)
  | "assign_guardian" =>
    let new ← ofRead (NewGuardian.ofJson? new)
    return s.perform (Service.assignGuardian ctx new) fun s link =>
      (s.bindRow name link.id (some link.roleId), link.toJson)
  | "create_guardian" =>
    let roleId ← uuid step "role_id"
    let userId ← uuid step "user_id"
    let studentId ← uuid step "student_id"
    let relation ← word Relation step "relation"
    return s.perform
      (Program.ask ctx (.createGuardian roleId { userId, studentId, relation }))
      fun s row => (s.bindRow name row.id (some row.roleId), row.bare.toJson)
  | "guardian_by_id" =>
    let id ← uuid step "id"
    return s.perform (Service.guardianById ctx id) (shown GuardianLink.toJson)
  | "find_guardian" =>
    let id ← uuid step "id"
    return s.perform (Program.ask ctx (.guardianById id))
      (shown (Json.ofOption fun row => row.bare.toJson))
  | "list_guardians" =>
    let query ← guardianQuery step
    let list ← listing step
    return s.perform (Service.listGuardians ctx query list)
      (page (fun l => l.toGuardianRow.sortKey) GuardianLink.toJson)
  | "count_guardians" =>
    let query ← guardianQuery step
    return s.perform (Program.ask ctx (.countGuardians query)) (shown fun n => .int n)
  | other => .error (.notUnderstood ("unknown step " ++ other))

def dispatch (s : Session) (name : String) (step : Json) : Answering Outcome := do
  let step ← s.names.resolveRequest step
  let what ← string step "do"
  match s.control? name what step with
  | some outcome => outcome
  | none =>
    match string? step "profile" with
    | some profile =>
      match profileKind? profile with
      | some kind => s.profileStep name what step kind
      | none => .error (.notUnderstood ("unknown profile " ++ profile))
    | none =>
      let ctx ← s.context step
      match s.catalogStep? name what step ctx with
      | some outcome => outcome
      | none => s.identityStep name what step ctx

/-- Times of creation and change are not told in a session. -/
def untold : List String := ["created_at", "updated_at"]

/-- One step and its answer; `trace` asks for the calls made. -/
def step (s : Session) (trace : Bool) (index : Nat) (request : Json) : Session × Json :=
  let name := stringOr request "as" ("s" ++ String.ofList (Text.digits index))
  let s := { s with world := { s.world with calls := [] } }
  let (s, answer) : Outcome :=
    match s.dispatch name request with
    | .ok outcome => outcome
    | .error refusal => (s, .error refusal)
  let members : Json :=
    match answer with
    | .ok v => .obj [("ok", v.without untold)]
    | .error refusal => refusal.toJson
  let (names, members) := s.names.renameAnswer members
  let calls := if trace then [("calls", Json.arr (s.world.calls.map text))] else []
  let answer :=
    match members with
    | .obj ms => .obj (ms ++ calls)
    | v => v
  ({ s with names }, answer)

/-- The steps in order, each with its index in the session. -/
def stepsFrom (s : Session) (trace : Bool) (index : Nat) :
    List Json → Session × List Json
  | [] => (s, [])
  | request :: rest =>
    let (s, answer) := s.step trace index request
    let (s, answers) := s.stepsFrom trace (index + 1) rest
    (s, answer :: answers)

def steps (s : Session) (trace : Bool) (requests : List Json) : Session × List Json :=
  s.stepsFrom trace 0 requests

end Registrar.Console.Session
