import Mathlib.Data.List.Nodup
import Registrar.Proofs.Calls
import Registrar.Proofs.RoleGrounding

/-!
# Every reference resolves

The rows of every table refer to other rows by their identifiers.  Whatever sequence of
services a store has been through, all these references name rows that are there
(`references_resolve`).  Every insertion checks its own references, save one: the group of a
student is not looked at when the profile is inserted.  It is named by the grant too, which
is inserted and checked before the profile in the same unit of work.
-/

namespace Registrar

/-! ## References -/

/-- What a row refers to. -/
inductive Reference where
  | organization (id : Uuid)
  | school (id : Uuid)
  | grade (id : Uuid)
  | group (id : Uuid)
  | user (id : Uuid)
  | grant (id : Uuid)
  | profile (kind : ProfileKind) (id : Uuid)
  deriving DecidableEq

def Tables.knows (t : Tables) : Reference → Bool
  | .organization id => (t.organization? id).isSome
  | .school id => (t.school? id).isSome
  | .grade id => (t.grade? id).isSome
  | .group id => (t.group? id).isSome
  | .user id => (t.user? id).isSome
  | .grant id => (t.grant? id).isSome
  | .profile kind id => (t.profile? kind id).isSome

def School.references (row : School) : List Reference :=
  [.organization row.organizationId]

def Grade.references (row : Grade) : List Reference :=
  [.school row.schoolId]

def Group.references (row : Group) : List Reference :=
  [.school row.schoolId, .grade row.gradeId] ++
    row.classTeacherId.toList.map (.profile .teacher)

def RoleGrantRow.references (row : RoleGrantRow) : List Reference :=
  .user row.userId ::
    (row.scope.schoolId.toList.map .school ++
      row.scope.organizationId.toList.map .organization ++
      row.scope.groupId.toList.map .group)

/-- The place where a profile of a kind is held. -/
def ProfileKind.scopeReference (kind : ProfileKind) (id : Uuid) : Reference :=
  match kind.role.scopeKind with
  | .school => .school id
  | .organization => .organization id

/-- What the insertion of a profile checks. -/
def ProfileRow.anchors (row : ProfileRow) : List Reference :=
  [.grant row.roleId, .user row.userId, row.kind.scopeReference row.scopeId]

def ProfileRow.placement (row : ProfileRow) : List Reference :=
  row.groupId.toList.map .group

def GuardianRow.references (row : GuardianRow) : List Reference :=
  [.grant row.roleId, .user row.userId, .profile .student row.studentId]

namespace Tables

/-- The references that are checked when their rows are inserted. -/
def anchors (t : Tables) : List Reference :=
  t.schools.flatMap School.references ++ t.grades.flatMap Grade.references ++
    t.groups.flatMap Group.references ++ t.grants.flatMap RoleGrantRow.references ++
    t.profiles.flatMap ProfileRow.anchors ++ t.guardians.flatMap GuardianRow.references

def placements (t : Tables) : List Reference :=
  t.profiles.flatMap ProfileRow.placement

def references (t : Tables) : List Reference :=
  t.anchors ++ t.placements

/-! ## Rows that stay -/

variable {t t' : Tables}

private theorem isSome_of_kept {α : Type} {before after : Option α}
    (hkept : ∀ {row}, before = some row → after = some row) (hrow : before.isSome) :
    after.isSome := by
  obtain ⟨row, hrow⟩ := Option.isSome_iff_exists.mp hrow
  exact Option.isSome_of_eq_some (hkept hrow)

theorem GrowsTo.knows (h : t.GrowsTo t') {r : Reference} (hr : t.knows r) : t'.knows r := by
  cases r with
  | organization id => exact isSome_of_kept h.organization? hr
  | school id => exact isSome_of_kept h.school? hr
  | grade id => exact isSome_of_kept h.grade? hr
  | group id => exact isSome_of_kept h.group? hr
  | user id => exact isSome_of_kept h.user? hr
  | grant id => exact isSome_of_kept h.grant? hr
  | profile kind id => exact isSome_of_kept h.profile? hr

/-! ## What the checks look at -/

theorem knows_scopeReference {kind : ProfileKind} {id : Uuid} :
    t.knows (kind.scopeReference id) = t.scopeExists kind id := by
  unfold ProfileKind.scopeReference scopeExists
  cases kind.role.scopeKind <;> rfl

theorem knows_of_checkGroup {row : Group} (h : Memory.checkGroup t row = .ok ()) :
    ∀ r ∈ row.references, t.knows r := by
  obtain ⟨hschool, hgrade, hteacher⟩ := Memory.checkGroup_eq_ok_iff.mp h
  simpa [Group.references, knows, hschool, hgrade] using hteacher

theorem knows_of_checkGrant {row : RoleGrantRow} (h : Memory.checkGrant t row = .ok ()) :
    ∀ r ∈ row.references, t.knows r := by
  obtain ⟨huser, hschool, horganization, hgroup, _⟩ := Memory.checkGrant_eq_ok_iff.mp h
  intro r hr
  simp only [RoleGrantRow.references, List.mem_cons, List.mem_append, List.mem_map,
    Option.mem_toList] at hr
  rcases hr with rfl | (⟨id, hid, rfl⟩ | ⟨id, hid, rfl⟩) | ⟨id, hid, rfl⟩
  · exact huser
  · exact hschool id hid
  · exact horganization id hid
  · exact hgroup id hid

theorem knows_of_checkProfile {order : RowOrder} {row : ProfileRow}
    (h : Memory.checkProfile order t row = .ok ()) : ∀ r ∈ row.anchors, t.knows r := by
  obtain ⟨hgrant, huser, hscope, _⟩ := Memory.checkProfile_eq_ok_iff.mp h
  rw [← knows_scopeReference] at hscope
  simp only [ProfileRow.anchors, List.forall_mem_cons]
  exact ⟨hgrant, huser, hscope, fun _ hr => nomatch hr⟩

theorem knows_of_checkGuardian {row : GuardianRow}
    (h : Memory.checkGuardian t row = .ok ()) : ∀ r ∈ row.references, t.knows r := by
  obtain ⟨hgrant, huser, hstudent, _⟩ := Memory.checkGuardian_eq_ok_iff.mp h
  simp only [GuardianRow.references, List.forall_mem_cons]
  exact ⟨hgrant, huser, hstudent, fun _ hr => nomatch hr⟩

/-! ## Insertions -/

def Anchored (t : Tables) : Prop :=
  ∀ r ∈ t.anchors, t.knows r

theorem Anchored.extend {references : List Reference} (h : t.Anchored)
    (hgrows : t.GrowsTo t') (hrow : ∀ r ∈ references, t.knows r)
    (hmem : ∀ r ∈ t'.anchors, r ∈ t.anchors ∨ r ∈ references) : t'.Anchored := by
  intro r hr
  rcases hmem r hr with hold | hnew
  · exact hgrows.knows (h r hold)
  · exact hgrows.knows (hrow r hnew)

theorem Anchored.insertion (h : t.Anchored) (hinsertion : t.Insertion t') :
    t'.Anchored := by
  have hgrows := hinsertion.grows
  cases hinsertion with
  | organization row => exact fun r hr => hgrows.knows (h r hr)
  | user row hcheck => exact fun r hr => hgrows.knows (h r hr)
  | school row hcheck =>
    have hrow : ∀ r ∈ row.references, t.knows r := by
      simpa [School.references, knows] using Memory.checkSchool_eq_ok_iff.mp hcheck
    apply h.extend hgrows hrow
    simp [anchors, addSchool, or_assoc, or_comm]
  | grade row hcheck =>
    have hrow : ∀ r ∈ row.references, t.knows r := by
      simpa [Grade.references, knows] using (Memory.checkGrade_eq_ok_iff.mp hcheck).1
    apply h.extend hgrows hrow
    simp [anchors, addGrade, or_assoc, or_comm, or_left_comm]
  | group row hcheck =>
    apply h.extend hgrows (knows_of_checkGroup hcheck)
    simp [anchors, addGroup, or_assoc, or_comm, or_left_comm]
  | grant row hcheck =>
    apply h.extend hgrows (knows_of_checkGrant hcheck)
    simp [anchors, addGrant, or_assoc, or_comm, or_left_comm]
  | profile row hcheck =>
    apply h.extend hgrows (knows_of_checkProfile hcheck)
    simp [anchors, addProfile, or_assoc, or_comm, or_left_comm]
  | guardian row hcheck =>
    apply h.extend hgrows (knows_of_checkGuardian hcheck)
    simp [anchors, addGuardian, or_assoc, or_comm, or_left_comm]

/-! ## The groups of students -/

/-- All students are placed in groups that are there. -/
def Placed (t : Tables) : Prop :=
  ∀ r ∈ t.placements, t.knows r

end Tables

theorem NewProfile.groupId_scope (new : NewProfile) : new.scope.groupId = new.placedIn := by
  unfold scope placedIn
  cases new.kind <;> rfl

/-- The grant of a new student names the group, which has been found there. -/
theorem Write.placed {t t' : Tables} (h : t.Placed) (hwrite : Write t t') : t'.Placed := by
  have hgrows : t.GrowsTo t' := .of_insertions hwrite.insertions
  cases hwrite with
  | organization | school | grade | group | user | grant | guardian =>
    exact fun r hr => hgrows.knows (h r hr)
  | profile new first second hvalid hgrant hprofile =>
    intro r hr
    simp only [Tables.placements, Tables.addProfile, List.flatMap_append,
      List.flatMap_singleton, List.mem_append] at hr
    rcases hr with hold | hnew
    · exact hgrows.knows (h r hold)
    · apply hgrows.knows
      apply Tables.knows_of_checkGrant hgrant
      rw [ProfileRow.placement, NewProfile.row, ← new.groupId_scope] at hnew
      exact List.mem_cons_of_mem _ (List.mem_append_right _ hnew)

/-! ## Rows under their identifiers -/

namespace Tables

/-- The row that is found under an identifier is the row of the table that has it. -/
structure Keyed (t : Tables) : Prop where
  organizations : ∀ id row, t.organization? id = some row ↔ row ∈ t.organizations ∧ row.id = id
  schools : ∀ id row, t.school? id = some row ↔ row ∈ t.schools ∧ row.id = id
  grades : ∀ id row, t.grade? id = some row ↔ row ∈ t.grades ∧ row.id = id
  groups : ∀ id row, t.group? id = some row ↔ row ∈ t.groups ∧ row.id = id
  users : ∀ id row, t.user? id = some row ↔ row ∈ t.users ∧ row.id = id
  grants : ∀ id row, t.grant? id = some row ↔ row ∈ t.grants ∧ row.id = id
  profiles : ∀ kind id row, t.profile? kind id = some row ↔
    row ∈ t.profiles ∧ row.kind = kind ∧ row.id = id
  guardians : ∀ id row, t.guardian? id = some row ↔ row ∈ t.guardians ∧ row.id = id

theorem find?_eq_some_iff_of_nodup {α : Type} {rows : List α} {key : α → Uuid}
    (hnodup : (rows.map key).Nodup) (id : Uuid) (row : α) :
    rows.find? (key · == id) = some row ↔ row ∈ rows ∧ key row = id := by
  constructor
  · intro hfound
    have hkey : key row = id := by simpa using List.find?_some hfound
    exact ⟨List.mem_of_find?_eq_some hfound, hkey⟩
  · rintro ⟨hmem, rfl⟩
    cases hfound : rows.find? (key · == key row) with
    | none => simpa using List.find?_eq_none.mp hfound row hmem
    | some other =>
      have hkey : key other = key row := by simpa using List.find?_some hfound
      rw [List.inj_on_of_nodup_map hnodup (List.mem_of_find?_eq_some hfound) hmem hkey]

theorem Distinct.keyed {t : Tables} (h : t.Distinct) : t.Keyed := by
  simp only [Distinct, ids, List.nodup_append] at h
  obtain ⟨⟨⟨⟨⟨⟨⟨horganizations, hschools, _⟩, hgrades, _⟩, hgroups, _⟩, husers, _⟩,
    hgrants, _⟩, hprofiles, _⟩, hguardians, _⟩ := h
  refine ⟨find?_eq_some_iff_of_nodup horganizations, find?_eq_some_iff_of_nodup hschools,
    find?_eq_some_iff_of_nodup hgrades, find?_eq_some_iff_of_nodup hgroups,
    find?_eq_some_iff_of_nodup husers, find?_eq_some_iff_of_nodup hgrants, ?_,
    find?_eq_some_iff_of_nodup hguardians⟩
  intro kind id row
  have hkind : ((t.profilesOf kind).map (·.id)).Nodup :=
    hprofiles.sublist (List.filter_sublist.map _)
  refine (find?_eq_some_iff_of_nodup hkind id row).trans ?_
  simp only [profilesOf, List.mem_filter, beq_iff_eq, and_assoc]

end Tables

/-! ## Services, one after another -/

/-- The stores that are reached by services, one call after the other, and by opening and
closing units of work around them, whatever identifiers are generated. -/
inductive Reached : Store → Prop
  | empty : Reached .empty
  | service {s : Store} (moments : Nat → Tick) (ctx : Ctx) (call : ServiceCall)
      (hreach : Reached s) : Reached (Course.run ⟨s, moments⟩ (call.program ctx)).state
  | begin {s : Store} (tick : Tick) (ctx : Ctx) (hreach : Reached s) :
    Reached (s.answer tick (.begin ctx)).state
  | commit {s : Store} (h : Handle) (hreach : Reached s) : Reached (s.commit h).2
  | rollback {s : Store} (h : Handle) (hreach : Reached s) : Reached (s.rollback h).2
  | drop {s : Store} (h : Handle) (hreach : Reached s) : Reached (s.drop h)

namespace Reached

variable {s : Store}

theorem called (h : Reached s) : Called s := by
  induction h with
  | empty => exact .refl
  | service moments ctx call hreach ih => exact ih.later (Course.later_run _ ⟨_, moments⟩)
  | begin tick ctx hreach ih => exact ih.later (Store.later_answer _ tick (.begin ctx))
  | commit h hreach ih => exact ih.later (Store.later_answer _ default (.commit h))
  | rollback h hreach ih => exact ih.later (Store.later_answer _ default (.rollback h))
  | drop h hreach ih => exact ih.later (Store.later_answer _ default (.rollback h))

theorem holds {P : Tables → Prop} (hempty : P .empty)
    (hwrite : ∀ t t', P t → Write t t' → P t') (h : Reached s) : s.Holds P := by
  induction h with
  | empty => exact ⟨hempty, fun _ hu => nomatch hu⟩
  | begin tick ctx hreach ih => exact (Store.turn_begin _ tick ctx).holds ih
  | commit h hreach ih => exact (Store.turn_commit _ h).holds ih
  | rollback h hreach ih => exact (Store.turn_rollback _ h).holds ih
  | drop h hreach ih => exact (Store.turn_rollback _ h).holds ih
  | service moments ctx call hreach ih =>
    obtain ⟨hopened, htables⟩ := (Service.moved_program call).run moments
    refine ⟨?_, fun u hu => ih.before u (hopened ▸ hu)⟩
    rcases htables with hsame | hone
    · rw [hsame]
      exact ih.now
    · exact hwrite _ _ ih.now hone

end Reached

theorem Reachable.reached {s : Store} (h : Reachable s) : Reached s := by
  induction h with
  | empty => exact .empty
  | service moments ctx call hreach hfresh ih => exact .service moments ctx call ih
  | begin tick ctx hreach ih => exact .begin tick ctx ih
  | commit h hreach ih => exact .commit h ih
  | rollback h hreach ih => exact .rollback h ih
  | drop h hreach ih => exact .drop h ih

theorem Called.anchored {s : Store} (h : Called s) : s.Holds Tables.Anchored :=
  h.holds (fun _ hr => nomatch hr) fun _ _ hanchored hinsertion => hanchored.insertion hinsertion

/-- Whatever services a store has been through, all references name rows that are there; and
if identifiers are generated anew, every row is the one that is found under its own. -/
theorem references_resolve {s : Store} (hreach : Reached s) :
    (∀ r ∈ s.tables.references, s.tables.knows r) ∧ (Reachable s → s.tables.Keyed) := by
  refine ⟨fun r hr => ?_, fun hreachable => hreachable.distinct.now.keyed⟩
  rcases List.mem_append.mp hr with hanchor | hplacement
  · exact hreach.called.anchored.now r hanchor
  · have hplaced : s.Holds Tables.Placed :=
      hreach.holds (fun _ hr => nomatch hr) fun _ _ hplaced hwrite => hwrite.placed hplaced
    exact hplaced.now r hplacement

/-- A class of the first school: the teacher is also the owner of the organization and the
guardian of the student. -/
def firstClass : Store :=
  firstUsers
    |>.afterService 50 (.addProfile ⟨.teacher, .ofNat 40, .ofNat 20, none, none, none⟩)
    |>.afterService 60 (.addGrade ⟨.ofNat 20, 5, "Fifth grade"⟩)
    |>.afterService 70 (.addGroup ⟨.ofNat 20, .ofNat 60, some (.ofNat 52), "5A"⟩)
    |>.afterService 80 (.addProfile ⟨.student, .ofNat 30, .ofNat 20, some (.ofNat 70), none, none⟩)
    |>.afterService 90 (.assignGuardian ⟨.ofNat 40, .ofNat 82, .mother⟩)
    |>.afterService 100 (.addProfile ⟨.owner, .ofNat 40, .ofNat 10, none, none, none⟩)

theorem reachable_firstClass : Reachable firstClass := by
  unfold firstClass
  refine ((((((reachable_firstUsers.afterService ?_).afterService ?_).afterService
    ?_).afterService ?_).afterService ?_).afterService ?_)
  all_goals decide +kernel

theorem references_resolve_firstClass :
    (Reached firstClass ∧ firstClass.tables.references.length = 27) ∧
      (∀ r ∈ firstClass.tables.references, firstClass.tables.knows r) ∧
      firstClass.tables.Keyed := by
  have hresolve := references_resolve reachable_firstClass.reached
  exact ⟨⟨reachable_firstClass.reached, by decide +kernel⟩, hresolve.1,
    hresolve.2 reachable_firstClass⟩

end Registrar
