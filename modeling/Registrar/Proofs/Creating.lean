import Registrar.Proofs.Ending
import Registrar.Proofs.Hydration
import Registrar.Proofs.Rows

/-!
# What creating services add

A service that creates something ends with a value if the new rows pass their checks one after
another; it then has added these rows and nothing else, and what it returns depends only on
them and on the tables with them (`ServiceCall.creates_of_run`, `ServiceCall.run_of_creates`).
The rows themselves depend on what the service is given, on the identifiers and times of its
calls and, for a guardian, on the school of the student.
-/

namespace Registrar

open Program Service

/-! ## Insertions -/

/-- The request adds the row to any tables that admit it. -/
def Request.Inserts (request : Request) (stamp : Stamp) (row : Row) (a : request.Answer) :
    Prop :=
  ∀ (s : Store) b s', s.perform stamp request = (.ok b, s') ↔
    s.tables.Admits row ∧ b = a ∧ s' = ⟨row.addTo s.tables, s.opened⟩

section Inserts

variable (stamp : Stamp)

private theorem inserted_iff {α : Type} {s s' : Store} {check : Tables → α → Result Unit}
    {row b : α} {add : α → Tables} {admitted : Prop}
    (hcheck : check s.tables row = .ok () ↔ admitted) :
    ((s.tables.insertRow (Memory.accept check s.tables row) add).1,
      (⟨(s.tables.insertRow (Memory.accept check s.tables row) add).2, s.opened⟩ : Store)) =
        (.ok b, s') ↔
      admitted ∧ b = row ∧ s' = ⟨add row, s.opened⟩ := by
  rw [← hcheck]
  rcases s.insert_cases check row add with ⟨hcheck, hinsert⟩ | ⟨e, hcheck, hinsert⟩
  · rw [hinsert, hcheck]
    simp [eq_comm]
  · rw [hinsert, hcheck]
    simp

theorem inserts_organization (new : NewOrganization) :
    (Request.createOrganization new).Inserts stamp (.organization (new.row stamp))
      (new.row stamp) := by
  intro s b s'
  change ((.ok (new.row stamp), ⟨s.tables.addOrganization (new.row stamp), s.opened⟩) :
    Result Organization × Store) = (.ok b, s') ↔ _
  rw [← @Row.check_eq_ok_iff stamp.order]
  simp [Row.check, Row.addTo, eq_comm]

theorem inserts_school (new : NewSchool) :
    (Request.createSchool new).Inserts stamp (.school (new.row stamp)) (new.row stamp) :=
  fun s _ _ => inserted_iff (@Row.check_eq_ok_iff stamp.order s.tables (.school _))

theorem inserts_grade (new : NewGrade) :
    (Request.createGrade new).Inserts stamp (.grade (new.row stamp)) (new.row stamp) :=
  fun s _ _ => inserted_iff (@Row.check_eq_ok_iff stamp.order s.tables (.grade _))

theorem inserts_group (new : NewGroup) :
    (Request.createGroup new).Inserts stamp (.group (new.row stamp)) (new.row stamp) :=
  fun s _ _ => inserted_iff (@Row.check_eq_ok_iff stamp.order s.tables (.group _))

theorem inserts_user (new : NewUser) :
    (Request.createUser new).Inserts stamp (.user (new.row stamp)) (new.row stamp) :=
  fun s _ _ => inserted_iff (@Row.check_eq_ok_iff stamp.order s.tables (.user _))

theorem inserts_grant (new : NewRoleGrant) :
    (Request.createGrant new).Inserts stamp (.grant (new.row stamp)) (new.row stamp) :=
  fun s _ _ => inserted_iff (@Row.check_eq_ok_iff stamp.order s.tables (.grant _))

theorem inserts_profile (roleId : Uuid) (new : NewProfile) :
    (Request.createProfile roleId new).Inserts stamp (.profile (new.row roleId stamp))
      (new.row roleId stamp) :=
  fun s _ _ => inserted_iff (@Row.check_eq_ok_iff stamp.order s.tables (.profile _))

theorem inserts_guardian (roleId : Uuid) (new : NewGuardian) :
    (Request.createGuardian roleId new).Inserts stamp (.guardian (new.row roleId stamp))
      (new.row roleId stamp) :=
  fun s _ _ => inserted_iff (@Row.check_eq_ok_iff stamp.order s.tables (.guardian _))

end Inserts

section Ends

variable {c c' : Course} {request : Request} {row : Row} {a b : request.Answer}

theorem ends_insert_plain (hinserts : request.Inserts (c.moments 0).stamp row a) :
    (ask .background request).Ends c b c' ↔ c.store.opened = none ∧
      c.store.tables.Admits row ∧ b = a ∧
        c' = c.after ⟨row.addTo c.store.tables, none⟩ := by
  refine ends_request.trans ⟨?_, ?_⟩
  · rintro ⟨s, hanswer, rfl⟩
    obtain ⟨hopened, hperform⟩ := Store.answer_plain_iff.mp hanswer
    obtain ⟨hcheck, rfl, rfl⟩ := (hinserts _ _ _).mp hperform
    rw [hopened]
    exact ⟨rfl, hcheck, rfl, rfl⟩
  · rintro ⟨hopened, hcheck, rfl, rfl⟩
    have hperform := (hinserts c.store b _).mpr ⟨hcheck, rfl, rfl⟩
    rw [hopened] at hperform
    exact ⟨_, Store.answer_plain_iff.mpr ⟨hopened, hperform⟩, rfl⟩

theorem ends_insert_inside {h : Handle} {u : OpenUnit} (hunit : c.store.unitOf h = .ok u)
    (hinserts : request.Inserts (c.moments 0).stamp row a) :
    (ask (Ctx.background.withHandle h) request).Ends c b c' ↔
      c.store.tables.Admits row ∧ b = a ∧
        c' = c.after ⟨row.addTo c.store.tables, c.store.opened⟩ := by
  refine ends_request.trans ⟨?_, ?_⟩
  · rintro ⟨s, hanswer, rfl⟩
    have hperform := (Store.answer_inside_iff hunit).mp hanswer
    obtain ⟨hcheck, rfl, rfl⟩ := (hinserts _ _ _).mp hperform
    exact ⟨hcheck, rfl, rfl⟩
  · rintro ⟨hcheck, rfl, rfl⟩
    have hperform := (hinserts c.store b _).mpr ⟨hcheck, rfl, rfl⟩
    exact ⟨_, (Store.answer_inside_iff hunit).mpr hperform, rfl⟩

theorem Course.run_bind_iff {α β : Type} {p : Program α} {f : α → Program β} {v : β} {s : Store} :
    c.run (p >>= f) = .ended (.ok v) s ↔
      ∃ a mid, p.Ends c a mid ∧ mid.run (f a) = .ended (.ok v) s := by
  simp only [Course.run_eq_ok_iff, ends_bind]
  constructor
  · rintro ⟨c', ⟨a, mid, hp, hf⟩, hstore⟩
    exact ⟨a, mid, hp, c', hf, hstore⟩
  · rintro ⟨a, mid, hp, c', hf, hstore⟩
    exact ⟨c', ⟨a, mid, hp, hf⟩, hstore⟩

/-- A service that checks what it is given, inserts one row and reports it. -/
theorem run_checked {check : Result Unit} {event : request.Answer → Event} {s : Store}
    (hinserts : request.Inserts (c.moments 0).stamp row a) :
    c.run (do
      ofResult check
      let row ← ask .background request
      report (event row)
      return row) = .ended (.ok b) s ↔
      check = .ok () ∧ c.store.opened = none ∧ c.store.tables.Admits row ∧ b = a ∧
        s = ⟨row.addTo c.store.tables, none⟩ := by
  rw [Course.run_eq_ok_iff]
  simp only [ends_checked, ends_insert_plain hinserts]
  constructor
  · rintro ⟨_, ⟨hvalid, hopened, hrow, hb, rfl⟩, rfl⟩
    exact ⟨hvalid, hopened, hrow, hb, rfl⟩
  · rintro ⟨hvalid, hopened, hrow, hb, rfl⟩
    exact ⟨_, ⟨hvalid, hopened, hrow, hb, rfl⟩, rfl⟩

theorem run_addGrade {new : NewGrade} {v : Grade} {s : Store} :
    c.run (addGrade .background new) = .ended (.ok v) s ↔
      Ruled.check new = .ok () ∧ c.store.opened = none ∧
        c.store.tables.Admits (.grade (new.row (c.moments 0).stamp)) ∧
        v = new.row (c.moments 0).stamp ∧
          s = ⟨(Row.grade (new.row (c.moments 0).stamp)).addTo c.store.tables, none⟩ := by
  have hinserts := inserts_grade (c.moments 0).stamp new
  refine Course.run_bind_iff.trans ⟨?_, ?_⟩
  · rintro ⟨_, _, hcheck, hrest⟩
    obtain ⟨hvalid, rfl⟩ := ends_ofResult.mp hcheck
    obtain ⟨c', hask, rfl⟩ := Course.run_eq_ok_iff.mp hrest
    obtain ⟨hopened, hrow, rfl, rfl⟩ := (ends_insert_plain hinserts).mp hask
    exact ⟨hvalid, hopened, hrow, rfl, rfl⟩
  · rintro ⟨hvalid, hopened, hrow, rfl, rfl⟩
    have hask := (ends_insert_plain hinserts).mpr ⟨hopened, hrow, rfl, rfl⟩
    exact ⟨(), c, ends_ofResult.mpr ⟨hvalid, rfl⟩, Course.run_eq_ok_iff.mpr ⟨_, hask, rfl⟩⟩

end Ends

/-! ## A grant and what rests on it -/

/-- The course after some calls, with these tables. -/
def Course.later (c : Course) (n : Nat) (s : Store) : Course :=
  { store := s, moments := fun k => c.moments (k + n) }

theorem Course.after_inside_later (c : Course) (n : Nat) (s s' : Store) :
    (c.inside.later n s).after s' = c.later (n + 2) s' := by
  have hmoments : ∀ k, k + 1 + n + 1 = k + (n + 2) := by omega
  simp only [Course.after, Course.later, Course.inside, hmoments]

section Granting

variable {α : Type} {c c' : Course} {h : Handle} {u : OpenUnit}

theorem ends_grantRole_inside {userId : Uuid} {role : Role} {scope : Scope} {v : RoleGrantRow}
    (hunit : c.store.unitOf h = .ok u) (hscope : checkScope role scope = .ok ()) :
    (grantRole (Ctx.background.withHandle h) userId role scope).Ends c v c' ↔
      c.store.tables.Admits
          (.grant (NewRoleGrant.row ⟨userId, role, scope⟩ (c.moments 0).stamp)) ∧
        v = NewRoleGrant.row ⟨userId, role, scope⟩ (c.moments 0).stamp ∧
        c' = c.after ⟨c.store.tables.addGrant
          (NewRoleGrant.row ⟨userId, role, scope⟩ (c.moments 0).stamp), c.store.opened⟩ := by
  have hinserts := inserts_grant (c.moments 0).stamp ⟨userId, role, scope⟩
  refine ends_checked.trans ?_
  rw [and_iff_right hscope]
  exact ends_insert_inside hunit hinserts

/-- Inside a unit, a role is granted and one more row is inserted that rests on the grant. -/
theorem ends_grantThen {userId : Uuid} {role : Role} {scope : Scope} {step : String}
    {next : RoleGrantRow → Program α} {row : Uuid → Stamp → Row} {value : Uuid → Stamp → α} {v : α}
    (hunit : c.store.unitOf h = .ok u) (hscope : checkScope role scope = .ok ())
    (hnext : ∀ {mid mid' : Course} {grant v}, mid.store.unitOf h = .ok u →
      ((next grant).Ends mid v mid' ↔
        mid.store.tables.Admits (row grant.id (mid.moments 0).stamp) ∧
          v = value grant.id (mid.moments 0).stamp ∧
          mid' = mid.after
            ⟨(row grant.id (mid.moments 0).stamp).addTo mid.store.tables, mid.store.opened⟩)) :
    ((grantRole (Ctx.background.withHandle h) userId role scope).annotate step >>= next).Ends
        c v c' ↔
      ∃ rows, rows = [.grant (NewRoleGrant.row ⟨userId, role, scope⟩ (c.moments 0).stamp),
          row (c.moments 0).stamp.id (c.moments 1).stamp] ∧
        c.store.tables.AdmitsAll rows ∧
        v = value (c.moments 0).stamp.id (c.moments 1).stamp ∧
        c' = c.later 2 ⟨c.store.tables.addAll rows, c.store.opened⟩ := by
  have hstill : ∀ t, (c.after ⟨t, c.store.opened⟩).store.unitOf h = .ok u := by
    intro t
    rw [← hunit]
    exact Store.unitOf_congr rfl h
  refine ends_bind.trans ⟨?_, ?_⟩
  · rintro ⟨grant, mid, hgrant, hrest⟩
    obtain ⟨hcheck, rfl, rfl⟩ := (ends_grantRole_inside hunit hscope).mp (ends_annotate.mp hgrant)
    obtain ⟨hrow, rfl, rfl⟩ := (hnext (hstill _)).mp hrest
    exact ⟨_, rfl, ⟨hcheck, hrow, trivial⟩, rfl, rfl⟩
  · rintro ⟨_, rfl, ⟨hcheck, hrow, _⟩, rfl, rfl⟩
    have hgrant := (ends_grantRole_inside hunit hscope).mpr ⟨hcheck, rfl, rfl⟩
    exact ⟨_, _, ends_annotate.mpr hgrant, (hnext (hstill _)).mpr ⟨hrow, rfl, rfl⟩⟩

/-- A unit of work adds what its steps add. -/
theorem ends_inUnit_adding {work : Ctx → Program α} {adds : List Row → α → Prop} {v : α}
    {calls : Nat}
    (hwork : ∀ {u v mid}, c.inside.store.unitOf (c.moments 0).handle = .ok u →
      ((work (Ctx.background.withHandle (c.moments 0).handle)).Ends c.inside v mid ↔
        ∃ rows, adds rows v ∧ c.store.tables.AdmitsAll rows ∧
          mid = c.inside.later calls ⟨c.store.tables.addAll rows, c.inside.store.opened⟩)) :
    (inUnit .background work).Ends c v c' ↔ c.store.opened = none ∧
      ∃ rows, adds rows v ∧ c.store.tables.AdmitsAll rows ∧
        c' = c.later (calls + 2) ⟨c.store.tables.addAll rows, none⟩ := by
  have hown : c.inside.store.unitOf (c.moments 0).handle =
      .ok ⟨(c.moments 0).stamp.id, c.store.tables⟩ := Store.unitOf_own rfl rfl
  have hcommit : ∀ rows tick,
      Store.answer ⟨c.store.tables.addAll rows, c.inside.store.opened⟩ tick
        (.commit (c.moments 0).handle) = .ended (.ok ()) ⟨c.store.tables.addAll rows, none⟩ :=
    fun rows tick => Store.answer_commit (s := ⟨_, c.inside.store.opened⟩)
      (h := (c.moments 0).handle) (Store.unitOf_own rfl rfl) tick
  refine ends_inUnit.trans ⟨?_, ?_⟩
  · rintro ⟨hopened, mid, s, hsteps, hclosed, rfl⟩
    obtain ⟨rows, hadds, hadmits, rfl⟩ := (hwork hown).mp hsteps
    cases (hcommit rows _).symm.trans hclosed
    exact ⟨hopened, rows, hadds, hadmits, c.after_inside_later calls _ _⟩
  · rintro ⟨hopened, rows, hadds, hadmits, rfl⟩
    exact ⟨hopened, _, _, (hwork hown).mpr ⟨rows, hadds, hadmits, rfl⟩, hcommit rows _,
      (c.after_inside_later calls _ _).symm⟩

end Granting

/-! ## The services -/

/-- The rows of a new profile. -/
def NewProfile.rows (new : NewProfile) (first second : Stamp) : List Row :=
  [.grant (new.grant first), .profile (new.row first.id second)]

/-- The rows of a new guardian of a student. -/
def NewGuardian.rows (new : NewGuardian) (student : ProfileRow) (first second : Stamp) :
    List Row :=
  [.grant (new.grant student first), .guardian (new.row first.id second)]

section Services

variable {c c' : Course} {s : Store} {h : Handle} {u : OpenUnit}

theorem ends_provisionIn {new : NewProfile} {v : ProfileRow} (hunit : c.store.unitOf h = .ok u) :
    (provisionIn (Ctx.background.withHandle h) new).Ends c v c' ↔
      ∃ rows, (rows = new.rows (c.moments 0).stamp (c.moments 1).stamp ∧
          v = new.row (c.moments 0).stamp.id (c.moments 1).stamp) ∧
        c.store.tables.AdmitsAll rows ∧
        c' = c.later 2 ⟨c.store.tables.addAll rows, c.store.opened⟩ := by
  let row : Uuid → Stamp → Row := fun id stamp => .profile (new.row id stamp)
  have hnext : ∀ {mid mid' : Course} {grant : RoleGrantRow} {v : ProfileRow},
      mid.store.unitOf h = .ok u →
      (((ask (Ctx.background.withHandle h) (.createProfile grant.id new)).annotate
          ("create " ++ new.kind.entity)).Ends mid v mid' ↔
        mid.store.tables.Admits (row grant.id (mid.moments 0).stamp) ∧
          v = new.row grant.id (mid.moments 0).stamp ∧
          mid' = mid.after
            ⟨(row grant.id (mid.moments 0).stamp).addTo mid.store.tables, mid.store.opened⟩) :=
    fun hunit => ends_annotate.trans (ends_insert_inside hunit (inserts_profile _ _ new))
  refine (ends_grantThen hunit (checkScope_scope new) hnext).trans ⟨?_, ?_⟩
  · rintro ⟨rows, hrows, hadmits, hv, hrest⟩
    exact ⟨rows, ⟨hrows, hv⟩, hadmits, hrest⟩
  · rintro ⟨rows, ⟨hrows, hv⟩, hadmits, hrest⟩
    exact ⟨rows, hrows, hadmits, hv, hrest⟩

/-- The steps of assigning a guardian once the student has been found. -/
theorem ends_grantGuardian {new : NewGuardian} {student : ProfileRow} {v : GuardianRow}
    (hunit : c.store.unitOf h = .ok u) :
    ((grantRole (Ctx.background.withHandle h) new.userId .guardian
        (Scope.school student.scopeId)).annotate "assign guardian role" >>= fun grant =>
      (ask (Ctx.background.withHandle h) (.createGuardian grant.id new)).annotate
        "create student_guardians").Ends c v c' ↔
      c.store.tables.AdmitsAll (new.rows student (c.moments 0).stamp (c.moments 1).stamp) ∧
        v = new.row (c.moments 0).stamp.id (c.moments 1).stamp ∧
        c' = c.later 2 ⟨c.store.tables.addAll
          (new.rows student (c.moments 0).stamp (c.moments 1).stamp), c.store.opened⟩ := by
  let row : Uuid → Stamp → Row := fun id stamp => .guardian (new.row id stamp)
  have hnext : ∀ {mid mid' : Course} {grant : RoleGrantRow} {v : GuardianRow},
      mid.store.unitOf h = .ok u →
      (((ask (Ctx.background.withHandle h) (.createGuardian grant.id new)).annotate
          "create student_guardians").Ends mid v mid' ↔
        mid.store.tables.Admits (row grant.id (mid.moments 0).stamp) ∧
          v = new.row grant.id (mid.moments 0).stamp ∧
          mid' = mid.after
            ⟨(row grant.id (mid.moments 0).stamp).addTo mid.store.tables, mid.store.opened⟩) :=
    fun hunit => ends_annotate.trans (ends_insert_inside hunit (inserts_guardian _ _ new))
  refine (ends_grantThen hunit rfl hnext).trans ⟨?_, ?_⟩
  · rintro ⟨_, rfl, hadmits, rfl, rfl⟩
    exact ⟨hadmits, rfl, rfl⟩
  · rintro ⟨hadmits, rfl, rfl⟩
    exact ⟨_, rfl, hadmits, rfl, rfl⟩

theorem ends_assignIn {new : NewGuardian} {v : GuardianRow} (hunit : c.store.unitOf h = .ok u) :
    (assignIn (Ctx.background.withHandle h) new).Ends c v c' ↔
      ∃ rows, (∃ student, c.store.tables.profile? .student new.studentId = some student ∧
          rows = new.rows student (c.moments 1).stamp (c.moments 2).stamp ∧
          v = new.row (c.moments 1).stamp.id (c.moments 2).stamp) ∧
        c.store.tables.AdmitsAll rows ∧
        c' = c.later 3 ⟨c.store.tables.addAll rows, c.store.opened⟩ := by
  have hlookup : ∀ {student? : Option ProfileRow} {mid : Course},
      (ask (Ctx.background.withHandle h)
          (.profileById .student new.studentId)).Ends c student? mid ↔
        student? = c.store.tables.profile? .student new.studentId ∧ mid = c.after c.store := by
    intro student? mid
    have hperform : c.store.perform (c.moments 0).stamp (.profileById .student new.studentId) =
        (.ok (c.store.tables.profile? .student new.studentId), c.store) := rfl
    refine ends_request.trans ⟨?_, ?_⟩
    · rintro ⟨s, hanswer, rfl⟩
      cases hperform.symm.trans ((Store.answer_inside_iff hunit).mp hanswer)
      exact ⟨rfl, rfl⟩
    · rintro ⟨rfl, rfl⟩
      exact ⟨_, (Store.answer_inside_iff hunit).mpr hperform, rfl⟩
  have hstill : (c.after c.store).store.unitOf h = .ok u := hunit
  refine ends_bind.trans ⟨?_, ?_⟩
  · rintro ⟨student?, mid, hask, hrest⟩
    obtain ⟨rfl, rfl⟩ := hlookup.mp hask
    obtain ⟨student, mid, hfound, hrest⟩ := ends_bind.mp hrest
    cases hstudent : c.store.tables.profile? .student new.studentId with
    | none =>
      rw [hstudent] at hfound
      cases hfound
    | some row =>
      rw [hstudent] at hfound
      cases hfound
      obtain ⟨hadmits, rfl, rfl⟩ := (ends_grantGuardian hstill).mp hrest
      exact ⟨_, ⟨_, rfl, rfl, rfl⟩, hadmits, rfl⟩
  · rintro ⟨_, ⟨student, hstudent, rfl, rfl⟩, hadmits, rfl⟩
    have hrest := (ends_grantGuardian hstill).mpr ⟨hadmits, rfl, rfl⟩
    refine ⟨_, _, hlookup.mpr ⟨rfl, rfl⟩, ends_bind.mpr ⟨student, c.after c.store, ?_, hrest⟩⟩
    rw [hstudent]
    rfl

theorem ends_provision {new : NewProfile} {v : ProfileRow} :
    (provision .background new).Ends c v c' ↔ Ruled.check new = .ok () ∧ c.store.opened = none ∧
      c.store.tables.AdmitsAll (new.rows (c.moments 1).stamp (c.moments 2).stamp) ∧
      v = new.row (c.moments 1).stamp.id (c.moments 2).stamp ∧
      c' = c.later 4
        ⟨c.store.tables.addAll (new.rows (c.moments 1).stamp (c.moments 2).stamp), none⟩ := by
  refine ends_checked.trans (and_congr_right fun _ => ?_)
  refine (ends_inUnit_adding ends_provisionIn).trans (and_congr_right fun _ => ?_)
  constructor
  · rintro ⟨_, ⟨rfl, hv⟩, hadmits, hrest⟩
    exact ⟨hadmits, hv, hrest⟩
  · rintro ⟨hadmits, hv, hrest⟩
    exact ⟨_, ⟨rfl, hv⟩, hadmits, hrest⟩

theorem ends_assigning {new : NewGuardian} {v : GuardianRow} :
    (inUnit .background fun inside => assignIn inside new).Ends c v c' ↔ c.store.opened = none ∧
      ∃ student, c.store.tables.profile? .student new.studentId = some student ∧
        c.store.tables.AdmitsAll (new.rows student (c.moments 2).stamp (c.moments 3).stamp) ∧
        v = new.row (c.moments 2).stamp.id (c.moments 3).stamp ∧
        c' = c.later 5 ⟨c.store.tables.addAll
          (new.rows student (c.moments 2).stamp (c.moments 3).stamp), none⟩ := by
  refine (ends_inUnit_adding ends_assignIn).trans (and_congr_right fun _ => ?_)
  constructor
  · rintro ⟨_, ⟨student, hstudent, rfl, hv⟩, hadmits, hrest⟩
    exact ⟨student, hstudent, hadmits, hv, hrest⟩
  · rintro ⟨student, hstudent, hadmits, hv, hrest⟩
    exact ⟨_, ⟨student, hstudent, rfl, hv⟩, hadmits, hrest⟩

end Services

/-! ## What is read back -/

section ReadBack

variable {t : Tables} {ctx : Ctx} {id : Uuid}

theorem reads_profileById_found {kind : ProfileKind} {row : ProfileRow}
    (hrow : t.profile? kind id = some row) :
    (profileById ctx kind id).Reads ctx (· = t) (· = t.joinProfile row.bare) := by
  unfold profileById
  refine reads_bind (· = some row) (reads_ask rfl fun t' ht' _ => ⟨_, rfl, ht' ▸ hrow⟩) ?_
  rintro _ rfl
  apply reads_hydrateOne hydrate_profile
  rintro _ rfl
  constructor <;> exact fun _ _ => rfl

theorem reads_guardianById_found {row : GuardianRow} (hrow : t.guardian? id = some row) :
    (guardianById ctx id).Reads ctx (· = t) (· = t.joinLink row.bare) := by
  unfold guardianById
  refine reads_bind (· = some row) (reads_ask rfl fun t' ht' _ => ⟨_, rfl, ht' ▸ hrow⟩) ?_
  rintro _ rfl
  apply reads_hydrateOne hydrate_link
  rintro _ rfl
  constructor <;> exact fun _ _ => rfl

/-- On a store without an open unit, a value is read without fail. -/
theorem Program.Reads.run_iff {α : Type} {p : Program α} {c : Course} {value v : α} {s : Store}
    (hreads : p.Reads .background (· = c.store.tables) (· = value))
    (hopened : c.store.opened = none) :
    c.run p = .ended (.ok v) s ↔ v = value ∧ s = c.store := by
  have hcomes := hreads.comesTo
  constructor
  · exact hcomes.only v s
  · rintro ⟨rfl, rfl⟩
    exact hcomes.ends hopened fun _ => rfl

theorem Program.ReadsOnly.store_eq {α : Type} {p : Program α} {c : Course} {v : α} {s : Store}
    (h : p.ReadsOnly ctx) (hrun : c.run p = .ended (.ok v) s) : s = c.store := by
  have hstate := ((h.always c.store).run c.moments).1
  have hsame : (c.run p).state = c.store := hstate
  rw [hrun] at hsame
  exact hsame

theorem profile?_added {rows : List Row} (hdistinct : (t.addAll rows).Distinct) {row : ProfileRow}
    (hrow : .profile row ∈ rows) : (t.addAll rows).profile? row.kind row.id = some row := by
  have hmem : .profile row ∈ (t.addAll rows).rows := Tables.mem_rows_addAll.mpr (.inl hrow)
  exact (hdistinct.keyed.profiles row.kind row.id row).mpr ⟨Tables.mem_rows.mp hmem, rfl, rfl⟩

theorem guardian?_added {rows : List Row} (hdistinct : (t.addAll rows).Distinct)
    {row : GuardianRow} (hrow : .guardian row ∈ rows) :
    (t.addAll rows).guardian? row.id = some row := by
  have hmem : .guardian row ∈ (t.addAll rows).rows := Tables.mem_rows_addAll.mpr (.inl hrow)
  exact (hdistinct.keyed.guardians row.id row).mpr ⟨Tables.mem_rows.mp hmem, rfl⟩

end ReadBack

namespace ServiceCall

/-- The services that add rows. -/
def isCreating : ServiceCall → Bool
  | addUser _ | addRoleToUser _ _ _ | addOrganization _ | addSchool _ | addGrade _ | addGroup _
  | addProfile _ | assignGuardian _ => true
  | _ => false

/-- A creating service that is valid adds these rows, if they are admitted, and returns a
value that depends on the tables with them. -/
inductive Creates (moments : Nat → Tick) (t : Tables) :
    (call : ServiceCall) → List Row → (Tables → call.Answer) → Prop
  | user (new : NewUser) (hvalid : Ruled.check new = .ok ()) :
    Creates moments t (.addUser new) [.user (new.row (moments 0).stamp)]
      fun _ => new.row (moments 0).stamp
  | grant (userId : Uuid) (role : Role) (scope : Scope)
      (hscope : checkScope role scope = .ok ()) :
    Creates moments t (.addRoleToUser userId role scope)
      [.grant (NewRoleGrant.row ⟨userId, role, scope⟩ (moments 0).stamp)]
      fun _ => NewRoleGrant.row ⟨userId, role, scope⟩ (moments 0).stamp
  | organization (new : NewOrganization) (hvalid : Ruled.check new = .ok ()) :
    Creates moments t (.addOrganization new) [.organization (new.row (moments 0).stamp)]
      fun _ => new.row (moments 0).stamp
  | school (new : NewSchool) (hvalid : Ruled.check new = .ok ()) :
    Creates moments t (.addSchool new) [.school (new.row (moments 0).stamp)]
      fun _ => new.row (moments 0).stamp
  | grade (new : NewGrade) (hvalid : Ruled.check new = .ok ()) :
    Creates moments t (.addGrade new) [.grade (new.row (moments 0).stamp)]
      fun _ => new.row (moments 0).stamp
  | group (new : NewGroup) (hvalid : Ruled.check new = .ok ()) :
    Creates moments t (.addGroup new) [.group (new.row (moments 0).stamp)]
      fun _ => new.row (moments 0).stamp
  | profile (new : NewProfile) (hvalid : Ruled.check new = .ok ()) :
    Creates moments t (.addProfile new) (new.rows (moments 1).stamp (moments 2).stamp)
      fun t' => t'.joinProfile (new.row (moments 1).stamp.id (moments 2).stamp).bare
  | guardian (new : NewGuardian) (student : ProfileRow) (hvalid : Ruled.check new = .ok ())
      (hstudent : t.profile? .student new.studentId = some student) :
    Creates moments t (.assignGuardian new)
      (new.rows student (moments 2).stamp (moments 3).stamp)
      fun t' => t'.joinLink (new.row (moments 2).stamp.id (moments 3).stamp).bare

variable {call : ServiceCall} {moments : Nat → Tick} {s s' : Store} {v : call.Answer}

/-- A creating service that ends with a value has added its rows and nothing else. -/
theorem creates_of_run (hcreating : call.isCreating)
    (hrun : Course.run ⟨s, moments⟩ (call.program .background) = .ended (.ok v) s')
    (hdistinct : s'.tables.Distinct) :
    ∃ rows shown, call.Creates moments s.tables rows shown ∧ s.opened = none ∧
      s.tables.AdmitsAll rows ∧ s' = ⟨s.tables.addAll rows, none⟩ ∧ v = shown s'.tables := by
  cases call with
  | addUser new =>
    obtain ⟨hvalid, hopened, hcheck, rfl, rfl⟩ := (run_checked (inserts_user _ new)).mp hrun
    exact ⟨_, _, .user new hvalid, hopened, ⟨hcheck, trivial⟩, rfl, rfl⟩
  | addRoleToUser userId role scope =>
    obtain ⟨hscope, hopened, hcheck, rfl, rfl⟩ :=
      (run_checked (inserts_grant _ ⟨userId, role, scope⟩)).mp hrun
    exact ⟨_, _, .grant userId role scope hscope, hopened, ⟨hcheck, trivial⟩, rfl, rfl⟩
  | addOrganization new =>
    obtain ⟨hvalid, hopened, hcheck, rfl, rfl⟩ :=
      (run_checked (inserts_organization _ new)).mp hrun
    exact ⟨_, _, .organization new hvalid, hopened, ⟨hcheck, trivial⟩, rfl, rfl⟩
  | addSchool new =>
    obtain ⟨hvalid, hopened, hcheck, rfl, rfl⟩ := (run_checked (inserts_school _ new)).mp hrun
    exact ⟨_, _, .school new hvalid, hopened, ⟨hcheck, trivial⟩, rfl, rfl⟩
  | addGrade new =>
    obtain ⟨hvalid, hopened, hcheck, rfl, rfl⟩ := run_addGrade.mp hrun
    exact ⟨_, _, .grade new hvalid, hopened, ⟨hcheck, trivial⟩, rfl, rfl⟩
  | addGroup new =>
    obtain ⟨hvalid, hopened, hcheck, rfl, rfl⟩ := (run_checked (inserts_group _ new)).mp hrun
    exact ⟨_, _, .group new hvalid, hopened, ⟨hcheck, trivial⟩, rfl, rfl⟩
  | addProfile new =>
    obtain ⟨row, mid, hprovision, hread⟩ := Course.run_bind_iff.mp hrun
    obtain ⟨hvalid, hopened, hadmits, rfl, rfl⟩ := ends_provision.mp hprovision
    obtain rfl := (readsOnly_profileById .background _ _).store_eq hread
    have hrow := profile?_added hdistinct (List.mem_cons_of_mem _ List.mem_cons_self)
    obtain ⟨hv, _⟩ := ((reads_profileById_found hrow).run_iff rfl).mp hread
    exact ⟨_, _, .profile new hvalid, hopened, hadmits, rfl, hv⟩
  | assignGuardian new =>
    obtain ⟨_, _, hcheck, hrest⟩ := Course.run_bind_iff.mp hrun
    obtain ⟨hvalid, rfl⟩ := ends_ofResult.mp hcheck
    obtain ⟨row, mid, hunit, hrest⟩ := Course.run_bind_iff.mp hrest
    obtain ⟨hopened, student, hstudent, hadmits, rfl, rfl⟩ := ends_assigning.mp hunit
    obtain ⟨_, _, hreport, hread⟩ := Course.run_bind_iff.mp hrest
    obtain rfl := ends_report.mp hreport
    obtain rfl := (readsOnly_guardianById .background _).store_eq hread
    have hrow := guardian?_added hdistinct (List.mem_cons_of_mem _ List.mem_cons_self)
    obtain ⟨hv, _⟩ := ((reads_guardianById_found hrow).run_iff rfl).mp hread
    exact ⟨_, _, .guardian new student hvalid hstudent, hopened, hadmits, rfl, hv⟩
  | _ => cases hcreating

/-- A creating service whose rows are admitted ends with its value. -/
theorem run_of_creates {rows : List Row} {shown : Tables → call.Answer}
    (hcreates : call.Creates moments s.tables rows shown) (hopened : s.opened = none)
    (hadmits : s.tables.AdmitsAll rows) (hdistinct : (s.tables.addAll rows).Distinct) :
    Course.run ⟨s, moments⟩ (call.program .background) =
      .ended (.ok (shown (s.tables.addAll rows))) ⟨s.tables.addAll rows, none⟩ := by
  cases hcreates with
  | user new hvalid =>
    exact (run_checked (inserts_user _ new)).mpr ⟨hvalid, hopened, hadmits.1, rfl, rfl⟩
  | grant userId role scope hscope =>
    exact (run_checked (inserts_grant _ ⟨userId, role, scope⟩)).mpr
      ⟨hscope, hopened, hadmits.1, rfl, rfl⟩
  | organization new hvalid =>
    exact (run_checked (inserts_organization _ new)).mpr ⟨hvalid, hopened, hadmits.1, rfl, rfl⟩
  | school new hvalid =>
    exact (run_checked (inserts_school _ new)).mpr ⟨hvalid, hopened, hadmits.1, rfl, rfl⟩
  | grade new hvalid => exact run_addGrade.mpr ⟨hvalid, hopened, hadmits.1, rfl, rfl⟩
  | group new hvalid =>
    exact (run_checked (inserts_group _ new)).mpr ⟨hvalid, hopened, hadmits.1, rfl, rfl⟩
  | profile new hvalid =>
    have hprovision := (ends_provision (c := ⟨s, moments⟩)).mpr
      ⟨hvalid, hopened, hadmits, rfl, rfl⟩
    have hrow := profile?_added hdistinct (List.mem_cons_of_mem _ List.mem_cons_self)
    exact Course.run_bind_iff.mpr
      ⟨_, _, hprovision, ((reads_profileById_found hrow).run_iff rfl).mpr ⟨rfl, rfl⟩⟩
  | guardian new student hvalid hstudent =>
    have hunit := (ends_assigning (c := ⟨s, moments⟩)).mpr
      ⟨hopened, student, hstudent, hadmits, rfl, rfl⟩
    have hrow := guardian?_added hdistinct (List.mem_cons_of_mem _ List.mem_cons_self)
    refine Course.run_bind_iff.mpr ⟨(), _, ends_ofResult.mpr ⟨hvalid, rfl⟩, ?_⟩
    refine Course.run_bind_iff.mpr ⟨_, _, hunit, ?_⟩
    refine Course.run_bind_iff.mpr ⟨(), _, ends_report.mpr rfl, ?_⟩
    exact ((reads_guardianById_found hrow).run_iff rfl).mpr ⟨rfl, rfl⟩

end ServiceCall

end Registrar
