import Registrar.Proofs.Reading
import Registrar.Proofs.UnitOfWork

/-!
# What services write

`ServiceCall` lists what can be asked of the register.  Whatever becomes of a
call, it leaves the tables as they are or stores what it was given
(`Service.stores_program`).  This is one `Write`, which carries all that was
checked before (`Service.moved_program`).
-/

namespace Registrar

open Program Service

/-- The services, with what they are given. -/
inductive ServiceCall where
  | addUser (new : NewUser)
  | userById (id : Uuid)
  | addRoleToUser (userId : Uuid) (role : Role) (scope : Scope)
  | rolesOfUser (userId : Uuid)
  | addOrganization (new : NewOrganization)
  | addSchool (new : NewSchool)
  | addGrade (new : NewGrade)
  | addGroup (new : NewGroup)
  | schoolById (id : Uuid)
  | groupsByIds (ids : List Uuid)
  | addProfile (new : NewProfile)
  | profileById (kind : ProfileKind) (id : Uuid)
  | listProfiles (kind : ProfileKind) (query : ProfileQuery) (listing : Listing)
  | countProfiles (kind : ProfileKind) (query : ProfileQuery)
  | assignGuardian (new : NewGuardian)
  | guardianById (id : Uuid)
  | listGuardians (query : GuardianQuery) (listing : Listing)

namespace ServiceCall

@[reducible] def Answer : ServiceCall → Type
  | addUser _ | userById _ => User
  | addRoleToUser _ _ _ => RoleGrantRow
  | rolesOfUser _ => List RoleGrant
  | addOrganization _ => Organization
  | addSchool _ => School
  | addGrade _ => Grade
  | addGroup _ => Group
  | schoolById _ => SchoolShort
  | groupsByIds _ => List GroupShort
  | addProfile _ | profileById _ _ => Profile
  | listProfiles _ _ _ => List Profile × Nat
  | countProfiles _ _ => Nat
  | assignGuardian _ | guardianById _ => GuardianLink
  | listGuardians _ _ => List GuardianLink × Nat

def program (ctx : Ctx) : (call : ServiceCall) → Program call.Answer
  | addUser new => Service.addUser ctx new
  | userById id => Service.userById ctx id
  | addRoleToUser userId role scope => Service.grantRole ctx userId role scope
  | rolesOfUser userId => Service.rolesOfUser ctx userId
  | addOrganization new => Service.addOrganization ctx new
  | addSchool new => Service.addSchool ctx new
  | addGrade new => Service.addGrade ctx new
  | addGroup new => Service.addGroup ctx new
  | schoolById id => Service.schoolById ctx id
  | groupsByIds ids => Service.groupsByIds ctx ids
  | addProfile new => Service.addProfile ctx new
  | profileById kind id => Service.profileById ctx kind id
  | listProfiles kind query listing => Service.listProfiles ctx kind query listing
  | countProfiles kind query => Service.countProfiles ctx kind query
  | assignGuardian new => Service.assignGuardian ctx new
  | guardianById id => Service.guardianById ctx id
  | listGuardians query listing => Service.listGuardians ctx query listing

end ServiceCall

/-! ## What one service writes -/

/-- The tables after one successful service, with everything that was checked
on the way. -/
inductive Write (t : Tables) : Tables → Prop
  | organization (new : NewOrganization) (stamp : Stamp)
      (hvalid : Ruled.check new = .ok ()) :
    Write t (t.addOrganization (new.row stamp))
  | school (new : NewSchool) (stamp : Stamp) (hvalid : Ruled.check new = .ok ())
      (hcheck : Memory.checkSchool t (new.row stamp) = .ok ()) :
    Write t (t.addSchool (new.row stamp))
  | grade (new : NewGrade) (stamp : Stamp) (hvalid : Ruled.check new = .ok ())
      (hcheck : Memory.checkGrade t (new.row stamp) = .ok ()) :
    Write t (t.addGrade (new.row stamp))
  | group (new : NewGroup) (stamp : Stamp) (hvalid : Ruled.check new = .ok ())
      (hcheck : Memory.checkGroup t (new.row stamp) = .ok ()) :
    Write t (t.addGroup (new.row stamp))
  | user (new : NewUser) (stamp : Stamp) (hvalid : Ruled.check new = .ok ())
      (hcheck : Memory.checkUser t (new.row stamp) = .ok ()) :
    Write t (t.addUser (new.row stamp))
  | grant (new : NewRoleGrant) (stamp : Stamp)
      (hscope : checkScope new.role new.scope = .ok ())
      (hcheck : Memory.checkGrant t (new.row stamp) = .ok ()) :
    Write t (t.addGrant (new.row stamp))
  | profile (new : NewProfile) (first second : Stamp)
      (hvalid : Ruled.check new = .ok ())
      (hgrant : Memory.checkGrant t (new.grant first) = .ok ())
      (hprofile : Memory.checkProfile second.order (t.addGrant (new.grant first))
        (new.row first.id second) = .ok ()) :
    Write t ((t.addGrant (new.grant first)).addProfile (new.row first.id second))
  | guardian (new : NewGuardian) (student : ProfileRow) (first second : Stamp)
      (hstudent : t.profile? .student new.studentId = some student)
      (hgrant : Memory.checkGrant t (new.grant student first) = .ok ())
      (hlink : Memory.checkGuardian (t.addGrant (new.grant student first))
        (new.row first.id second) = .ok ()) :
    Write t ((t.addGrant (new.grant student first)).addGuardian (new.row first.id second))

/-- The tables after a call that has stored what it was given. -/
inductive ServiceCall.Stores (t : Tables) : ServiceCall → Tables → Prop
  | organization (new : NewOrganization) (stamp : Stamp)
      (hvalid : Ruled.check new = .ok ()) :
    Stores t (.addOrganization new) (t.addOrganization (new.row stamp))
  | school (new : NewSchool) (stamp : Stamp) (hvalid : Ruled.check new = .ok ())
      (hcheck : Memory.checkSchool t (new.row stamp) = .ok ()) :
    Stores t (.addSchool new) (t.addSchool (new.row stamp))
  | grade (new : NewGrade) (stamp : Stamp) (hvalid : Ruled.check new = .ok ())
      (hcheck : Memory.checkGrade t (new.row stamp) = .ok ()) :
    Stores t (.addGrade new) (t.addGrade (new.row stamp))
  | group (new : NewGroup) (stamp : Stamp) (hvalid : Ruled.check new = .ok ())
      (hcheck : Memory.checkGroup t (new.row stamp) = .ok ()) :
    Stores t (.addGroup new) (t.addGroup (new.row stamp))
  | user (new : NewUser) (stamp : Stamp) (hvalid : Ruled.check new = .ok ())
      (hcheck : Memory.checkUser t (new.row stamp) = .ok ()) :
    Stores t (.addUser new) (t.addUser (new.row stamp))
  | grant (new : NewRoleGrant) (stamp : Stamp)
      (hscope : checkScope new.role new.scope = .ok ())
      (hcheck : Memory.checkGrant t (new.row stamp) = .ok ()) :
    Stores t (.addRoleToUser new.userId new.role new.scope) (t.addGrant (new.row stamp))
  | profile (new : NewProfile) (first second : Stamp)
      (hvalid : Ruled.check new = .ok ())
      (hgrant : Memory.checkGrant t (new.grant first) = .ok ())
      (hprofile : Memory.checkProfile second.order (t.addGrant (new.grant first))
        (new.row first.id second) = .ok ()) :
    Stores t (.addProfile new)
      ((t.addGrant (new.grant first)).addProfile (new.row first.id second))
  | guardian (new : NewGuardian) (student : ProfileRow) (first second : Stamp)
      (hstudent : t.profile? .student new.studentId = some student)
      (hgrant : Memory.checkGrant t (new.grant student first) = .ok ())
      (hlink : Memory.checkGuardian (t.addGrant (new.grant student first))
        (new.row first.id second) = .ok ()) :
    Stores t (.assignGuardian new)
      ((t.addGrant (new.grant student first)).addGuardian (new.row first.id second))

theorem ServiceCall.Stores.write {t t' : Tables} {call : ServiceCall}
    (h : call.Stores t t') : Write t t' := by
  cases h with
  | organization new stamp hvalid => exact .organization new stamp hvalid
  | school new stamp hvalid hcheck => exact .school new stamp hvalid hcheck
  | grade new stamp hvalid hcheck => exact .grade new stamp hvalid hcheck
  | group new stamp hvalid hcheck => exact .group new stamp hvalid hcheck
  | user new stamp hvalid hcheck => exact .user new stamp hvalid hcheck
  | grant new stamp hscope hcheck => exact .grant new stamp hscope hcheck
  | profile new first second hvalid hgrant hprofile =>
    exact .profile new first second hvalid hgrant hprofile
  | guardian new student first second hstudent hgrant hlink =>
    exact .guardian new student first second hstudent hgrant hlink

/-- A store after a service: the same units are open, and the tables are the
same or have one write more. -/
def Store.Moved (s after : Store) : Prop :=
  after.opened = s.opened ∧ (after.tables = s.tables ∨ Write s.tables after.tables)

/-- A store after a call: the same units are open, and the tables are the same or
hold what the call was given to store. -/
def Store.MovedBy (call : ServiceCall) (s after : Store) : Prop :=
  after.opened = s.opened ∧ (after.tables = s.tables ∨ call.Stores s.tables after.tables)

theorem Store.movedBy_refl (call : ServiceCall) (s : Store) : s.MovedBy call s :=
  ⟨rfl, .inl rfl⟩

theorem Store.MovedBy.moved {call : ServiceCall} {s after : Store}
    (h : s.MovedBy call after) : s.Moved after :=
  ⟨h.1, h.2.imp_right ServiceCall.Stores.write⟩

/-! ## One lemma for each service -/

namespace Service

variable {s : Store} {ctx : Ctx} {call : ServiceCall}

private theorem stores_insert {α : Type} {check : Tables → α → Result Unit} {row : α}
    {add : α → Tables}
    (hstores : check s.tables row = .ok () → call.Stores s.tables (add row)) :
    s.MovedBy call
      ⟨(s.tables.insertRow (Memory.accept check s.tables row) add).2, s.opened⟩ := by
  rcases s.tables.insertRow_cases check row add with ⟨hcheck, hrow⟩ | ⟨e, hcheck, hrow⟩
  · rw [hrow]
    exact ⟨rfl, .inr (hstores hcheck)⟩
  · rw [hrow]
    exact s.movedBy_refl call

/-- Whatever becomes of a request, the store has moved if it has after the request
was served. -/
private theorem stores_answer {request : Request} (tick : Tick)
    (hperform : s.MovedBy call (s.perform tick.stamp request).2) :
    s.MovedBy call (s.answer tick (.ask ctx request)).state := by
  rcases s.answer_ask tick ctx request with ⟨e, he⟩ | ⟨hstuck, _⟩ | hserved
  · rw [he]
    exact s.movedBy_refl call
  · rw [hstuck]
    exact s.movedBy_refl call
  · rw [hserved]
    exact hperform

private theorem stores_checked {check : Result Unit} (request : Request)
    {event : request.Answer → Event}
    (hperform : check = .ok () → ∀ stamp, s.MovedBy call (s.perform stamp request).2) :
    (do
      ofResult check
      let row ← ask ctx request
      report (event row)
      return row : Program request.Answer).Always
        (fun reply => s.MovedBy call reply.state) s := by
  rw [always_checked request]
  cases check with
  | error e => exact s.movedBy_refl call
  | ok u =>
    intro tick
    exact stores_answer tick (hperform rfl tick.stamp)

theorem stores_addUser (new : NewUser) :
    (addUser ctx new).Always (fun reply => s.MovedBy (.addUser new) reply.state) s := by
  apply stores_checked (.createUser new)
  intro hvalid stamp
  exact stores_insert fun hcheck => .user new stamp hvalid hcheck

theorem stores_addOrganization (new : NewOrganization) :
    (addOrganization ctx new).Always
      (fun reply => s.MovedBy (.addOrganization new) reply.state) s := by
  apply stores_checked (.createOrganization new)
  intro hvalid stamp
  exact ⟨rfl, .inr (.organization new stamp hvalid)⟩

theorem stores_addSchool (new : NewSchool) :
    (addSchool ctx new).Always (fun reply => s.MovedBy (.addSchool new) reply.state) s := by
  apply stores_checked (.createSchool new)
  intro hvalid stamp
  exact stores_insert fun hcheck => .school new stamp hvalid hcheck

theorem stores_addGroup (new : NewGroup) :
    (addGroup ctx new).Always (fun reply => s.MovedBy (.addGroup new) reply.state) s := by
  apply stores_checked (.createGroup new)
  intro hvalid stamp
  exact stores_insert fun hcheck => .group new stamp hvalid hcheck

theorem stores_grantRole (userId : Uuid) (role : Role) (scope : Scope) :
    (grantRole ctx userId role scope).Always
      (fun reply => s.MovedBy (.addRoleToUser userId role scope) reply.state) s := by
  apply stores_checked (.createGrant { userId, role, scope })
  intro hscope stamp
  exact stores_insert fun hcheck => .grant { userId, role, scope } stamp hscope hcheck

/-- No event is reported of a new grade. -/
theorem stores_addGrade (new : NewGrade) :
    (addGrade ctx new).Always (fun reply => s.MovedBy (.addGrade new) reply.state) s := by
  unfold addGrade
  rw [always_bind, always_ofResult]
  cases hvalid : Ruled.check new with
  | error e => exact s.movedBy_refl _
  | ok u =>
    apply always_ask.mpr
    intro tick
    exact stores_answer tick
      (stores_insert fun hcheck => .grade new tick.stamp hvalid hcheck)

private theorem stores_bind {α β : Type} {p : Program α} {f : α → Program β}
    (hp : p.Always (fun reply => s.MovedBy call reply.state) s)
    (hf : ∀ a, (f a).ReadsOnly ctx) :
    (p >>= f).Always (fun reply => s.MovedBy call reply.state) s := by
  rw [always_bind]
  apply hp.mono
  intro reply hmoved
  cases reply with
  | stuck after => exact hmoved
  | ended result after =>
    cases result with
    | error e => exact hmoved
    | ok a =>
      apply ((hf a).always after).mono
      rintro reply ⟨hstate, _⟩
      rw [hstate]
      exact hmoved

private theorem stores_reading {α : Type} {p : Program α} (hp : p.ReadsOnly ctx) :
    p.Always (fun reply => s.MovedBy call reply.state) s := by
  apply (hp.always s).mono
  rintro reply ⟨hstate, _⟩
  rw [hstate]
  exact s.movedBy_refl call

private theorem stores_inUnit {α : Type} {work : Ctx → Program α}
    (hwork : s.opened = none → ∀ id,
      (work (ctx.withHandle ⟨id, .memory 0⟩)).Always
        (OnceClosed (fun reply => s.MovedBy call reply.state) ⟨id, s.tables⟩)
        ⟨s.tables, some ⟨id, s.tables⟩⟩) :
    (inUnit ctx work).Always (fun reply => s.MovedBy call reply.state) s :=
  always_inUnit (fun _ _ => s.movedBy_refl call) (fun _ => s.movedBy_refl call)
    (fun _ _ => s.movedBy_refl call) hwork

theorem stores_addProfile (new : NewProfile) :
    (addProfile ctx new).Always
      (fun reply => s.MovedBy (.addProfile new) reply.state) s := by
  refine stores_bind ?_ fun row => readsOnly_profileById ctx new.kind row.id
  unfold provision
  rw [always_bind, always_ofResult]
  cases hvalid : Ruled.check new with
  | error e => exact s.movedBy_refl _
  | ok u =>
    have htells (row : ProfileRow) :
        (report (.profileProvisioned row.kind row.id row.userId row.roleId) >>= fun _ =>
          pure row : Program ProfileRow).ReadsOnly ctx := trivial
    refine stores_bind (stores_inUnit fun hopened id => ?_) htells
    apply always_provisionIn rfl (Store.unitOf_own rfl rfl)
    intro result tables hends
    cases hends with
    | stored first second hgrant hprofile =>
      exact ⟨rfl, hopened.symm, .inr (.profile new first second hvalid hgrant hprofile)⟩
    | grantLate | grantRefused | profileLate | profileRefused =>
      exact ⟨rfl, hopened.symm, .inl rfl⟩

theorem stores_assignGuardian (new : NewGuardian) :
    (assignGuardian ctx new).Always
      (fun reply => s.MovedBy (.assignGuardian new) reply.state) s := by
  unfold assignGuardian
  rw [always_bind, always_ofResult]
  refine stores_bind (stores_inUnit fun hopened id => ?_)
    fun row => readsOnly_guardianById ctx row.id
  apply always_assignIn rfl (Store.unitOf_own rfl rfl)
  intro result tables hends
  cases hends with
  | stored student first second hstudent hgrant hlink =>
    exact ⟨rfl, hopened.symm,
      .inr (.guardian new student first second hstudent hgrant hlink)⟩
  | studentLate | studentUnknown | grantLate | grantRefused | linkLate | linkRefused =>
    exact ⟨rfl, hopened.symm, .inl rfl⟩

/-- Every service leaves the tables as they are or stores what it was given. -/
theorem stores_program (call : ServiceCall) :
    (call.program ctx).Always (fun reply => s.MovedBy call reply.state) s := by
  cases call with
  | addUser new => exact stores_addUser new
  | addRoleToUser userId role scope => exact stores_grantRole userId role scope
  | addOrganization new => exact stores_addOrganization new
  | addSchool new => exact stores_addSchool new
  | addGrade new => exact stores_addGrade new
  | addGroup new => exact stores_addGroup new
  | addProfile new => exact stores_addProfile new
  | assignGuardian new => exact stores_assignGuardian new
  | userById id => exact stores_reading (readsOnly_userById ctx id)
  | rolesOfUser userId => exact stores_reading (readsOnly_rolesOfUser ctx userId)
  | schoolById id => exact stores_reading (readsOnly_schoolById ctx id)
  | groupsByIds ids => exact stores_reading (readsOnly_groupsByIds ctx ids)
  | profileById kind id => exact stores_reading (readsOnly_profileById ctx kind id)
  | listProfiles kind query listing =>
    exact stores_reading (readsOnly_listProfiles ctx kind query listing)
  | countProfiles kind query => exact stores_reading (readsOnly_countProfiles ctx kind query)
  | guardianById id => exact stores_reading (readsOnly_guardianById ctx id)
  | listGuardians query listing =>
    exact stores_reading (readsOnly_listGuardians ctx query listing)

/-- Every service leaves the tables as they are or makes one write. -/
theorem moved_program (call : ServiceCall) :
    (call.program ctx).Always (fun reply => s.Moved reply.state) s :=
  (stores_program call).mono fun _ hmoved => hmoved.moved

end Service

end Registrar
