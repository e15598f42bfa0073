import Registrar.Proofs.Course
import Registrar.Service.Guardians

/-!
# Work inside a unit of work

A unit opened by a service is closed by the same service, after a value with
what was written in it and after an error without.  The two services that open
one are followed step by step: provisioning writes a grant and a profile,
assigning a guardian reads the student and writes a grant and a link.  The
possible ends of these steps are listed in `Provisioning` and `Assigning`.
-/

namespace Registrar

open Program Service

/-! ## Opening and closing -/

namespace Store

variable {s : Store} {ctx : Ctx} {h : Handle} {u : OpenUnit}

theorem answer_commit (hunit : s.unitOf h = .ok u) (tick : Tick) :
    s.answer tick (.commit h) = .ended (.ok ()) ⟨s.tables, none⟩ :=
  answer_of_answered (by simp [serve, commit, hunit])

theorem answer_rollback (hunit : s.unitOf h = .ok u) (tick : Tick) :
    s.answer tick (.rollback h) = .ended (.ok ()) ⟨u.snapshot, none⟩ :=
  answer_of_answered (by simp [serve, rollback, hunit])

theorem unitOf_own {id : Uuid} (hopened : s.opened = some u) (hid : u.id = id) :
    s.unitOf ⟨id, .memory 0⟩ = .ok u :=
  unitOf_eq_ok_iff.mpr ⟨⟨0, rfl⟩, hopened, hid⟩

end Store

namespace Program

variable {α : Type}

/-- A reply of the work inside a unit is wanted if the unit is still open and
the reply is wanted of the unit once it is closed: with the tables as they are
after a value, and with the tables of its beginning after an error. -/
def OnceClosed (wanted : Reply Store α → Prop) (u : OpenUnit) : Reply Store α → Prop
  | .ended (.ok a) s => s.opened = some u ∧ wanted (.ended (.ok a) ⟨s.tables, none⟩)
  | .ended (.error e) s => s.opened = some u ∧ wanted (.ended (.error e) ⟨u.snapshot, none⟩)
  | .stuck _ => False

theorem always_endUnit {wanted : Reply Store α → Prop} {s : Store} {u : OpenUnit}
    {outcome : Result α} (hreply : OnceClosed wanted u (.ended outcome s)) :
    (endUnit ⟨u.id, .memory 0⟩ outcome).Always wanted s := by
  cases outcome with
  | ok a =>
    obtain ⟨hopened, hwanted⟩ := hreply
    intro tick
    rw [Store.answer_commit (Store.unitOf_own hopened rfl)]
    exact hwanted
  | error e =>
    obtain ⟨hopened, hwanted⟩ := hreply
    intro tick
    rw [Store.answer_rollback (Store.unitOf_own hopened rfl)]
    exact hwanted

theorem always_inUnit {wanted : Reply Store α → Prop} {s : Store} {ctx : Ctx}
    {work : Ctx → Program α}
    (hnested : ∀ outer, ctx.handle = some outer →
      wanted (.ended (.error (.nestedUnitOfWork outer.id)) s))
    (hlate : ctx.deadline.isSome →
      wanted (.ended (.error (.deadlineExceeded Memory.beginOperation)) s))
    (hbusy : s.opened.isSome → ctx.deadline = none → wanted (.stuck s))
    (hwork : s.opened = none → ∀ id,
      (work (ctx.withHandle ⟨id, .memory 0⟩)).Always
        (OnceClosed wanted ⟨id, s.tables⟩) ⟨s.tables, some ⟨id, s.tables⟩⟩) :
    (inUnit ctx work).Always wanted s := by
  unfold inUnit beginUnit
  cases hhandle : ctx.handle with
  | some outer => exact hnested outer hhandle
  | none =>
    simp only
    rw [always_bind, always_bind, always_request]
    intro tick
    cases hopened : s.opened with
    | some u =>
      rcases Store.answer_begin_busy hopened tick ctx with
        ⟨hdeadline, hanswer⟩ | ⟨hdeadline, hanswer⟩
      · rw [hanswer]
        exact hlate hdeadline
      · rw [hanswer]
        exact hbusy (by simp [hopened]) hdeadline
    | none =>
      rcases Store.answer_begin_free hopened tick ctx with ⟨hdeadline, hanswer⟩ | hanswer
      · rw [hanswer]
        exact hlate hdeadline
      · rw [hanswer]
        simp only [Onward, always_bind, always_report, always_pure, always_attempt]
        apply (hwork hopened tick.stamp.id).mono
        intro reply hreply
        cases reply with
        | stuck after => exact hreply.elim
        | ended outcome after => exact always_endUnit hreply

end Program

/-! ## Checked insertions -/

namespace Program

/-- An insertion that follows a check and is reported: its reply is the refusal
of the check or that of the insertion. -/
theorem always_checked {s : Store} {ctx : Ctx} {check : Result Unit} (request : Request)
    {event : request.Answer → Event} {wanted : Reply Store request.Answer → Prop} :
    (do
      ofResult check
      let row ← ask ctx request
      report (event row)
      return row : Program request.Answer).Always wanted s ↔
      match check with
      | .ok () => ∀ tick, wanted (s.answer tick (.ask ctx request))
      | .error e => wanted (.ended (.error e) s) := by
  cases check with
  | error e => rfl
  | ok u =>
    rw [always_bind, always_ofResult]
    simp only [Onward]
    rw [always_bind, always_ask]
    apply forall_congr'
    intro tick
    cases s.answer tick (.ask ctx request) with
    | stuck after => rfl
    | ended answer after => cases answer <;> rfl

theorem always_grantRole {s : Store} {ctx : Ctx} {userId : Uuid} {role : Role}
    {scope : Scope} {wanted : Reply Store RoleGrantRow → Prop} :
    (grantRole ctx userId role scope).Always wanted s ↔
      match checkScope role scope with
      | .ok () => ∀ tick,
        wanted (s.answer tick (.ask ctx (.createGrant { userId, role, scope })))
      | .error e => wanted (.ended (.error e) s) :=
  always_checked (.createGrant { userId, role, scope })

end Program

/-! ## Steps inside a unit -/

section Inside

variable {α : Type} {s : Store} {inside : Ctx} {h : Handle} {u : OpenUnit}

theorem always_ask_inside {request : Request} {wanted : Reply Store request.Answer → Prop}
    (hinside : inside.handle = some h) (hunit : s.unitOf h = .ok u)
    (hlate : inside.deadline.isSome →
      wanted (.ended (.error (.deadlineExceeded (Memory.operation request))) s))
    (hserved : ∀ stamp,
      wanted (.ended (s.perform stamp request).1 (s.perform stamp request).2)) :
    (ask inside request).Always wanted s := by
  apply always_ask.mpr
  intro tick
  rcases Store.answer_ask_inside hinside hunit tick request with
    ⟨hdeadline, hanswer⟩ | hanswer
  · exact hanswer ▸ hlate hdeadline
  · exact hanswer ▸ hserved tick.stamp

theorem always_grantThen {userId : Uuid} {role : Role} {scope : Scope} {step : String}
    {next : RoleGrantRow → Program α} {wanted : Reply Store α → Prop}
    (hinside : inside.handle = some h) (hunit : s.unitOf h = .ok u)
    (hscope : checkScope role scope = .ok ())
    (hlate : inside.deadline.isSome →
      wanted (.ended (.error (.context step (.deadlineExceeded "insert user_roles"))) s))
    (hrefused : ∀ stamp e,
      Memory.checkGrant s.tables (NewRoleGrant.row { userId, role, scope } stamp) = .error e →
        wanted (.ended (.error (.context step e)) s))
    (hgranted : ∀ stamp,
      Memory.checkGrant s.tables (NewRoleGrant.row { userId, role, scope } stamp) = .ok () →
        (next (NewRoleGrant.row { userId, role, scope } stamp)).Always wanted
          ⟨s.tables.addGrant (NewRoleGrant.row { userId, role, scope } stamp), s.opened⟩) :
    ((grantRole inside userId role scope).annotate step >>= next).Always wanted s := by
  rw [always_bind, always_annotate, always_grantRole, hscope]
  intro tick
  rcases Store.answer_ask_inside hinside hunit tick
    (.createGrant { userId, role, scope }) with ⟨hdeadline, hanswer⟩ | hanswer
  · rw [hanswer]
    exact hlate hdeadline
  rcases s.perform_createGrant tick.stamp { userId, role, scope } with
    ⟨hgrant, hperform⟩ | ⟨e, hgrant, hperform⟩
  · rw [hanswer, hperform]
    exact hgranted tick.stamp hgrant
  · rw [hanswer, hperform]
    exact hrefused tick.stamp e hgrant

end Inside

/-! ## Provisioning -/

/-- The grant that a new profile rests on. -/
def NewProfile.grant (new : NewProfile) (stamp : Stamp) : RoleGrantRow :=
  NewRoleGrant.row { userId := new.userId, role := new.kind.role, scope := new.scope } stamp

theorem ProfileKind.isScopeUnique_role (kind : ProfileKind) : kind.role.isScopeUnique := by
  cases kind <;> rfl

theorem NewProfile.scope_cases (new : NewProfile) :
    (new.kind.role.scopeKind = .school ∧ new.scope = ⟨some new.scopeId, none, new.placedIn⟩) ∨
      (new.kind.role.scopeKind = .organization ∧ new.scope = ⟨none, some new.scopeId, none⟩) := by
  unfold scope
  cases new.kind.role.scopeKind with
  | school => exact .inl ⟨rfl, rfl⟩
  | organization => exact .inr ⟨rfl, rfl⟩

theorem NewProfile.key_scope (new : NewProfile) : new.scope.key = some new.scopeId := by
  rcases new.scope_cases with ⟨_, hscope⟩ | ⟨_, hscope⟩ <;> rw [hscope] <;> rfl

theorem checkScope_scope (new : NewProfile) :
    checkScope new.kind.role new.scope = .ok () := by
  unfold checkScope scopeFits NewProfile.scope
  cases new.kind <;>
    simp [ProfileKind.role, Role.scopeKind, Scope.school, Scope.organization, Scope.withGroup]

/-- How the two steps of provisioning can end, and with what tables. -/
inductive Provisioning (inside : Ctx) (t : Tables) (new : NewProfile) :
    Result ProfileRow → Tables → Prop
  | grantLate (hdeadline : inside.deadline.isSome) :
    Provisioning inside t new
      (.error (.context ("assign " ++ new.kind.role.word ++ " role")
        (.deadlineExceeded "insert user_roles"))) t
  | grantRefused (first : Stamp) (e : AppError)
      (hgrant : Memory.checkGrant t (new.grant first) = .error e) :
    Provisioning inside t new
      (.error (.context ("assign " ++ new.kind.role.word ++ " role") e)) t
  | profileLate (first : Stamp)
      (hgrant : Memory.checkGrant t (new.grant first) = .ok ())
      (hdeadline : inside.deadline.isSome) :
    Provisioning inside t new
      (.error (.context ("create " ++ new.kind.entity) (.deadlineExceeded new.kind.entity)))
      (t.addGrant (new.grant first))
  | profileRefused (first second : Stamp) (e : AppError)
      (hgrant : Memory.checkGrant t (new.grant first) = .ok ())
      (hprofile : Memory.checkProfile second.order (t.addGrant (new.grant first))
        (new.row first.id second) = .error e) :
    Provisioning inside t new (.error (.context ("create " ++ new.kind.entity) e))
      (t.addGrant (new.grant first))
  | stored (first second : Stamp)
      (hgrant : Memory.checkGrant t (new.grant first) = .ok ())
      (hprofile : Memory.checkProfile second.order (t.addGrant (new.grant first))
        (new.row first.id second) = .ok ()) :
    Provisioning inside t new (.ok (new.row first.id second))
      ((t.addGrant (new.grant first)).addProfile (new.row first.id second))

theorem always_provisionIn {s : Store} {inside : Ctx} {h : Handle} {u : OpenUnit}
    {new : NewProfile} {wanted : Reply Store ProfileRow → Prop}
    (hinside : inside.handle = some h) (hunit : s.unitOf h = .ok u)
    (hends : ∀ result tables, Provisioning inside s.tables new result tables →
      wanted (.ended result ⟨tables, s.opened⟩)) :
    (provisionIn inside new).Always wanted s := by
  unfold provisionIn
  refine always_grantThen hinside hunit (checkScope_scope new)
    (fun hdeadline => hends _ _ (.grantLate hdeadline))
    (fun first e hgrant => hends _ _ (.grantRefused first e hgrant))
    fun first hgrant => ?_
  have hstill : Store.unitOf ⟨s.tables.addGrant (new.grant first), s.opened⟩ h = .ok u := by
    rw [← hunit]
    exact Store.unitOf_congr rfl h
  rw [always_annotate]
  refine always_ask_inside hinside hstill
    (fun hdeadline => hends _ _ (.profileLate first hgrant hdeadline)) fun second => ?_
  rcases Store.perform_createProfile ⟨s.tables.addGrant (new.grant first), s.opened⟩
    second (new.grant first).id new with ⟨hprofile, hperform⟩ | ⟨e, hprofile, hperform⟩
  · exact hperform ▸ hends _ _ (.stored first second hgrant hprofile)
  · exact hperform ▸ hends _ _ (.profileRefused first second e hgrant hprofile)

/-! ## Assigning a guardian -/

/-- The grant that a new guardian link rests on, in the school of the student. -/
def NewGuardian.grant (new : NewGuardian) (student : ProfileRow) (stamp : Stamp) :
    RoleGrantRow :=
  NewRoleGrant.row
    { userId := new.userId, role := .guardian, scope := .school student.scopeId } stamp

/-- How the three steps of assigning a guardian can end, and with what tables. -/
inductive Assigning (inside : Ctx) (t : Tables) (new : NewGuardian) :
    Result GuardianRow → Tables → Prop
  | studentLate (hdeadline : inside.deadline.isSome) :
    Assigning inside t new (.error (.deadlineExceeded ProfileKind.student.entity)) t
  | studentUnknown (hstudent : t.profile? .student new.studentId = none) :
    Assigning inside t new
      (.error (.notFound "students" "id" new.studentId.toText)) t
  | grantLate (student : ProfileRow)
      (hstudent : t.profile? .student new.studentId = some student)
      (hdeadline : inside.deadline.isSome) :
    Assigning inside t new
      (.error (.context "assign guardian role" (.deadlineExceeded "insert user_roles"))) t
  | grantRefused (student : ProfileRow) (first : Stamp) (e : AppError)
      (hstudent : t.profile? .student new.studentId = some student)
      (hgrant : Memory.checkGrant t (new.grant student first) = .error e) :
    Assigning inside t new (.error (.context "assign guardian role" e)) t
  | linkLate (student : ProfileRow) (first : Stamp)
      (hstudent : t.profile? .student new.studentId = some student)
      (hgrant : Memory.checkGrant t (new.grant student first) = .ok ())
      (hdeadline : inside.deadline.isSome) :
    Assigning inside t new
      (.error (.context "create student_guardians"
        (.deadlineExceeded "insert student_guardians")))
      (t.addGrant (new.grant student first))
  | linkRefused (student : ProfileRow) (first second : Stamp) (e : AppError)
      (hstudent : t.profile? .student new.studentId = some student)
      (hgrant : Memory.checkGrant t (new.grant student first) = .ok ())
      (hlink : Memory.checkGuardian (t.addGrant (new.grant student first))
        (new.row first.id second) = .error e) :
    Assigning inside t new (.error (.context "create student_guardians" e))
      (t.addGrant (new.grant student first))
  | stored (student : ProfileRow) (first second : Stamp)
      (hstudent : t.profile? .student new.studentId = some student)
      (hgrant : Memory.checkGrant t (new.grant student first) = .ok ())
      (hlink : Memory.checkGuardian (t.addGrant (new.grant student first))
        (new.row first.id second) = .ok ()) :
    Assigning inside t new (.ok (new.row first.id second))
      ((t.addGrant (new.grant student first)).addGuardian (new.row first.id second))

theorem always_assignIn {s : Store} {inside : Ctx} {h : Handle} {u : OpenUnit}
    {new : NewGuardian} {wanted : Reply Store GuardianRow → Prop}
    (hinside : inside.handle = some h) (hunit : s.unitOf h = .ok u)
    (hends : ∀ result tables, Assigning inside s.tables new result tables →
      wanted (.ended result ⟨tables, s.opened⟩)) :
    (assignIn inside new).Always wanted s := by
  unfold assignIn
  rw [always_bind]
  refine always_ask_inside hinside hunit
    (fun hdeadline => hends _ _ (.studentLate hdeadline)) fun stamp => ?_
  rw [Store.perform_lookup s stamp rfl, Store.perform_answer]
  cases hstudent : s.tables.profile? .student new.studentId with
  | none =>
    simp only [Tables.serve, hstudent, Onward]
    exact hends _ _ (.studentUnknown hstudent)
  | some student =>
    simp only [Tables.serve, hstudent, Onward]
    refine always_grantThen hinside hunit rfl
      (fun hdeadline => hends _ _ (.grantLate student hstudent hdeadline))
      (fun first e hgrant => hends _ _ (.grantRefused student first e hstudent hgrant))
      fun first hgrant => ?_
    have hstill :
        Store.unitOf ⟨s.tables.addGrant (new.grant student first), s.opened⟩ h = .ok u := by
      rw [← hunit]
      exact Store.unitOf_congr rfl h
    rw [always_annotate]
    refine always_ask_inside hinside hstill
      (fun hdeadline => hends _ _ (.linkLate student first hstudent hgrant hdeadline))
      fun second => ?_
    rcases Store.perform_createGuardian
      ⟨s.tables.addGrant (new.grant student first), s.opened⟩
      second (new.grant student first).id new with ⟨hlink, hperform⟩ | ⟨e, hlink, hperform⟩
    · exact hperform ▸ hends _ _ (.stored student first second hstudent hgrant hlink)
    · exact hperform ▸ hends _ _ (.linkRefused student first second e hstudent hgrant hlink)

end Registrar
