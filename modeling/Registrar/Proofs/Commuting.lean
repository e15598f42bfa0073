import Registrar.Proofs.Completeness
import Registrar.Proofs.Creating
import Registrar.Proofs.Listing

/-!
# Creating services that do not depend on each other

Two creating services that end with values one after the other do so the other way round, with
the same values and the same rows, unless the second is given an identifier that the first has
generated (`creations_commute`).  Each adds its rows wherever they are admitted, and rows that
do not refer to each other are admitted in either order; and what is shown of a row is the same
in all tables that have the rows it refers to.
-/

namespace Registrar

open Program Service

/-! ## Tables with the same rows -/

namespace Tables

variable {t t' : Tables} {rows rows' : List Row}

theorem Shuffled.symm (h : t.Shuffled t') : t'.Shuffled t where
  organizations := h.organizations.symm
  schools := h.schools.symm
  grades := h.grades.symm
  groups := h.groups.symm
  users := h.users.symm
  grants := h.grants.symm
  profiles := h.profiles.symm
  guardians := h.guardians.symm

theorem Shuffled.trans {t'' : Tables} (h : t.Shuffled t') (h' : t'.Shuffled t'') :
    t.Shuffled t'' where
  organizations := h.organizations.trans h'.organizations
  schools := h.schools.trans h'.schools
  grades := h.grades.trans h'.grades
  groups := h.groups.trans h'.groups
  users := h.users.trans h'.users
  grants := h.grants.trans h'.grants
  profiles := h.profiles.trans h'.profiles
  guardians := h.guardians.trans h'.guardians

theorem Shuffled.addTo (h : t.Shuffled t') (row : Row) : (row.addTo t).Shuffled (row.addTo t') := by
  cases row with
  | organization row => exact { h with organizations := h.organizations.append_right [row] }
  | school row => exact { h with schools := h.schools.append_right [row] }
  | grade row => exact { h with grades := h.grades.append_right [row] }
  | group row => exact { h with groups := h.groups.append_right [row] }
  | user row => exact { h with users := h.users.append_right [row] }
  | grant row => exact { h with grants := h.grants.append_right [row] }
  | profile row => exact { h with profiles := h.profiles.append_right [row] }
  | guardian row => exact { h with guardians := h.guardians.append_right [row] }

theorem shuffled_addTo_addTo (t : Tables) (a b : Row) :
    (b.addTo (a.addTo t)).Shuffled (a.addTo (b.addTo t)) := by
  have hlast : ∀ {α : Type} (rows : List α) (a b : α),
      (rows ++ [a] ++ [b]).Perm (rows ++ [b] ++ [a]) := by
    intro α rows a b
    simp only [List.append_assoc]
    exact List.perm_append_comm.append_left rows
  have hsame := Shuffled.refl t
  cases a <;> cases b <;> first | exact Shuffled.refl _ | skip
  case organization.organization a b => exact { hsame with organizations := hlast _ a b }
  case school.school a b => exact { hsame with schools := hlast _ a b }
  case grade.grade a b => exact { hsame with grades := hlast _ a b }
  case group.group a b => exact { hsame with groups := hlast _ a b }
  case user.user a b => exact { hsame with users := hlast _ a b }
  case grant.grant a b => exact { hsame with grants := hlast _ a b }
  case profile.profile a b => exact { hsame with profiles := hlast _ a b }
  case guardian.guardian a b => exact { hsame with guardians := hlast _ a b }

theorem Shuffled.addAll (h : t.Shuffled t') (rows : List Row) :
    (t.addAll rows).Shuffled (t'.addAll rows) := by
  induction rows generalizing t t' with
  | nil => exact h
  | cons row rest ih => exact ih (h.addTo row)

theorem shuffled_addAll_of_perm (hperm : rows.Perm rows') :
    (t.addAll rows).Shuffled (t.addAll rows') := by
  induction hperm generalizing t with
  | nil => exact .refl _
  | cons row _ ih => exact ih
  | swap a b rest => exact (t.shuffled_addTo_addTo b a).addAll rest
  | trans _ _ ih ih' => exact ih.trans ih'

theorem addAll_append (t : Tables) (rows rows' : List Row) :
    t.addAll (rows ++ rows') = (t.addAll rows).addAll rows' :=
  List.foldl_append

theorem Shuffled.ids (h : t.Shuffled t') : t.ids.Perm t'.ids := by
  unfold Tables.ids
  exact ((((((((h.organizations.map _).append (h.schools.map _)).append
    (h.grades.map _)).append (h.groups.map _)).append (h.users.map _)).append
    (h.grants.map _)).append (h.profiles.map _)).append (h.guardians.map _))

theorem Shuffled.distinct (h : t.Shuffled t') (hdistinct : t.Distinct) : t'.Distinct :=
  h.ids.nodup_iff.mp hdistinct

theorem grows_addAll (t : Tables) (rows : List Row) : t.GrowsTo (t.addAll rows) := by
  induction rows generalizing t with
  | nil => exact .refl t
  | cons row rest ih =>
    have hrow : t.GrowsTo (row.addTo t) := by
      cases row <;> constructor <;> first | exact List.prefix_rfl | exact List.prefix_append _ _
    exact hrow.trans (ih _)

/-! ## Look-ups in tables with the same rows -/

/-- What is found does not depend on the order if there is one such thing at most. -/
theorem findSome?_eq_of_perm {α β : Type} {f : α → Option β} {table table' : List α}
    (hperm : table.Perm table') (hone : ∀ a ∈ table, ∀ b ∈ table, ∀ x ∈ f a, ∀ y ∈ f b, x = y) :
    table'.findSome? f = table.findSome? f := by
  have hiff : ∀ {rows : List α}, rows.Perm table → ∀ x,
      rows.findSome? f = some x ↔ ∃ a ∈ table, f a = some x := by
    intro rows hrows x
    constructor
    · intro hfound
      obtain ⟨a, ha, hx⟩ := List.exists_of_findSome?_eq_some hfound
      exact ⟨a, hrows.mem_iff.mp ha, hx⟩
    · rintro ⟨a, ha, hx⟩
      cases hfound : rows.findSome? f with
      | none =>
        have hnone := List.findSome?_eq_none_iff.mp hfound a (hrows.mem_iff.mpr ha)
        cases hx.symm.trans hnone
      | some y =>
        obtain ⟨b, hb, hy⟩ := List.exists_of_findSome?_eq_some hfound
        rw [hone a ha b (hrows.mem_iff.mp hb) x hx y hy]
  apply Option.ext
  intro x
  rw [hiff hperm.symm, hiff (.refl _)]

theorem find?_eq_of_perm {α : Type} {p : α → Bool} {table table' : List α}
    (hperm : table.Perm table') (hone : ∀ a ∈ table, ∀ b ∈ table, p a → p b → a = b) :
    table'.find? p = table.find? p := by
  rw [List.find?_eq_findSome?_guard, List.find?_eq_findSome?_guard]
  refine findSome?_eq_of_perm hperm fun a ha b hb x hx y hy => ?_
  obtain ⟨rfl, hpa⟩ := Option.guard_eq_some_iff.mp hx
  obtain ⟨rfl, hpb⟩ := Option.guard_eq_some_iff.mp hy
  exact hone _ ha _ hb hpa hpb

theorem eq_of_lookup {α : Type} {id : α → Uuid} {table : List α} {look : Uuid → Option α}
    (hlook : ∀ key row, look key = some row ↔ row ∈ table ∧ id row = key) {a b : α}
    (ha : a ∈ table) (hb : b ∈ table) (hid : id a = id b) : a = b :=
  Option.some.inj (((hlook _ a).mpr ⟨ha, hid⟩).symm.trans ((hlook _ b).mpr ⟨hb, rfl⟩))

private theorem lookup_eq {α : Type} {id : α → Uuid} {table table' : List α}
    (hperm : table.Perm table')
    (hlook : ∀ key row, table.find? (id · == key) = some row ↔ row ∈ table ∧ id row = key)
    (key : Uuid) : table'.find? (id · == key) = table.find? (id · == key) := by
  refine find?_eq_of_perm hperm fun a ha b hb hida hidb => eq_of_lookup hlook ha hb ?_
  exact (beq_iff_eq.mp hida).trans (beq_iff_eq.mp hidb).symm

section Lookups

variable (h : t.Shuffled t') (hkeyed : t.Keyed)
include h hkeyed

theorem Shuffled.organization?_eq : t'.organization? = t.organization? :=
  funext (lookup_eq h.organizations hkeyed.organizations)

theorem Shuffled.school?_eq : t'.school? = t.school? :=
  funext (lookup_eq h.schools hkeyed.schools)

theorem Shuffled.grade?_eq : t'.grade? = t.grade? :=
  funext (lookup_eq h.grades hkeyed.grades)

theorem Shuffled.group?_eq : t'.group? = t.group? :=
  funext (lookup_eq h.groups hkeyed.groups)

theorem Shuffled.user?_eq : t'.user? = t.user? :=
  funext (lookup_eq h.users hkeyed.users)

theorem Shuffled.grant?_eq : t'.grant? = t.grant? :=
  funext (lookup_eq h.grants hkeyed.grants)

theorem Shuffled.guardian?_eq : t'.guardian? = t.guardian? :=
  funext (lookup_eq h.guardians hkeyed.guardians)

theorem Shuffled.profile?_eq : t'.profile? = t.profile? := by
  funext kind
  have hlook : ∀ id row, t.profile? kind id = some row ↔
      row ∈ t.profilesOf kind ∧ row.id = id := fun id row => by
    rw [hkeyed.profiles, profilesOf, List.mem_filter, beq_iff_eq, and_assoc]
  exact funext (lookup_eq (h.profiles.filter _) hlook)

theorem Shuffled.teacherShort?_eq : t'.teacherShort? = t.teacherShort? := by
  funext id
  simp only [teacherShort?, h.profile?_eq hkeyed, h.user?_eq hkeyed]

theorem Shuffled.studentShort?_eq : t'.studentShort? = t.studentShort? := by
  funext id
  simp only [studentShort?, h.profile?_eq hkeyed, h.user?_eq hkeyed]

/-- Whatever order the rows are in, the same are shown. -/
theorem Shuffled.joins_eq : t'.joinProfile = t.joinProfile ∧ t'.joinLink = t.joinLink := by
  have husers := h.user?_eq hkeyed
  have hstudent := h.studentShort?_eq hkeyed
  have horganizationShort : t'.organizationShort? = t.organizationShort? := by
    funext id
    simp only [organizationShort?, h.organization?_eq hkeyed]
  have hjoinSchool : t'.joinSchool = t.joinSchool := by
    funext school
    simp only [joinSchool, horganizationShort]
  have hjoinGroup : t'.joinGroup = t.joinGroup := by
    funext group
    simp only [joinGroup, h.grade?_eq hkeyed, h.teacherShort?_eq hkeyed]
  have hschool : t'.joinedSchool? = t.joinedSchool? := by
    funext id
    simp only [joinedSchool?, schoolShort?, h.school?_eq hkeyed, hjoinSchool]
  have hgroup : t'.joinedGroup? = t.joinedGroup? := by
    funext id
    simp only [joinedGroup?, groupShort?, h.group?_eq hkeyed, hjoinGroup]
  constructor
  · funext p
    simp only [joinProfile, husers, hschool, hgroup, horganizationShort]
  · funext l
    simp only [joinLink, husers, hstudent]

end Lookups

/-! ## Joins in tables that grow -/

section Growing

variable (h : t.GrowsTo t') (hanchored : t.Anchored) {id : Uuid}
include h

theorem GrowsTo.user?_eq (huser : t.knows (.user id)) : t'.user? id = t.user? id := by
  obtain ⟨row, hrow⟩ := Option.isSome_iff_exists.mp huser
  rw [hrow, h.user? hrow]

theorem GrowsTo.organizationShort?_eq (horganization : t.knows (.organization id)) :
    t'.organizationShort? id = t.organizationShort? id := by
  obtain ⟨row, hrow, _⟩ := isOrganization_of_knows horganization
  rw [hrow, h.organizationShort? hrow]

include hanchored

theorem GrowsTo.studentShort?_eq (hstudent : t.knows (.profile .student id)) :
    t'.studentShort? id = t.studentShort? id := by
  obtain ⟨row, hrow, _⟩ := hanchored.isStudent_of_knows hstudent
  rw [hrow, h.studentShort? hrow]

theorem GrowsTo.joinedSchool?_eq (hschool : t.knows (.school id)) :
    t'.joinedSchool? id = t.joinedSchool? id := by
  have hsome : (t.schoolShort? id).isSome := Option.isSome_map.trans hschool
  obtain ⟨school, hrow⟩ := Option.isSome_iff_exists.mp hsome
  obtain ⟨organization, horganization⟩ :=
    Option.isSome_iff_exists.mp (hanchored.organization_of_school hrow)
  simp only [joinedSchool?, hrow, h.schoolShort? hrow, Option.map_some, joinSchool,
    horganization, h.organizationShort? horganization]

theorem GrowsTo.joinedGroup?_eq (hgroup : t.knows (.group id)) :
    t'.joinedGroup? id = t.joinedGroup? id := by
  have hsome : (t.groupShort? id).isSome := Option.isSome_map.trans hgroup
  obtain ⟨group, hrow⟩ := Option.isSome_iff_exists.mp hsome
  obtain ⟨hgrade, hteacher⟩ := hanchored.references_of_group hrow
  obtain ⟨grade, hgrade⟩ := Option.isSome_iff_exists.mp hgrade
  have hclass : group.classTeacherId.bind t'.teacherShort? =
      group.classTeacherId.bind t.teacherShort? := by
    cases hkey : group.classTeacherId with
    | none => rfl
    | some teacher =>
      obtain ⟨row, hfound, _⟩ := hanchored.isTeacher_of_knows (hteacher teacher hkey)
      exact (h.teacherShort? hfound).trans hfound.symm
  simp only [joinedGroup?, hrow, h.groupShort? hrow, Option.map_some, joinGroup,
    hgrade, h.grade? hgrade, hclass]

end Growing

section Shown

variable (h : t.GrowsTo t') (hresolve : ∀ r ∈ t.references, t.knows r)
include h hresolve

theorem GrowsTo.joinProfile_eq {row : ProfileRow} (hrow : row ∈ t.profiles) :
    t'.joinProfile row.bare = t.joinProfile row.bare := by
  have hanchored := anchored_of_resolve hresolve
  obtain ⟨huser, hscope, hgroup⟩ := knows_of_mem_profiles hresolve hrow
  have huserEq := h.user?_eq huser
  have hgroupEq : row.placedIn.bind t'.joinedGroup? = row.placedIn.bind t.joinedGroup? := by
    cases hkey : row.placedIn with
    | none => rfl
    | some id => exact h.joinedGroup?_eq hanchored (hgroup id hkey)
  unfold ProfileKind.scopeReference at hscope
  unfold joinProfile
  have hbare : row.bare.kind = row.kind := rfl
  rw [hbare]
  cases hkind : row.kind.role.scopeKind with
  | school =>
    rw [hkind] at hscope
    have hschoolEq := h.joinedSchool?_eq hanchored hscope
    simp only [ProfileRow.bare, huserEq, hschoolEq, hgroupEq]
  | organization =>
    rw [hkind] at hscope
    have horganizationEq := h.organizationShort?_eq hscope
    simp only [ProfileRow.bare, huserEq, horganizationEq]

theorem GrowsTo.joinLink_eq {row : GuardianRow} (hrow : row ∈ t.guardians) :
    t'.joinLink row.bare = t.joinLink row.bare := by
  have hanchored := anchored_of_resolve hresolve
  obtain ⟨huser, hstudent⟩ := knows_of_mem_guardians hresolve hrow
  simp only [joinLink, GuardianRow.bare, h.user?_eq huser, h.studentShort?_eq hanchored hstudent]

end Shown

end Tables

/-! ## What the rows of a service depend on -/

theorem RoleGrantRow.map_id_references (row : RoleGrantRow) :
    row.references.map Reference.id = row.userId ::
      (row.scope.schoolId.toList ++ row.scope.organizationId.toList ++
        row.scope.groupId.toList) := by
  simp [references, Reference.id, Function.comp_def]

theorem ProfileKind.id_scopeReference (kind : ProfileKind) (id : Uuid) :
    (kind.scopeReference id).id = id := by
  unfold scopeReference
  cases kind.role.scopeKind <;> rfl

/-- The grant of a new profile refers to nothing but what the profile is given. -/
theorem NewProfile.id_mem_of_grant {new : NewProfile} {stamp : Stamp} {r : Reference}
    (hr : r ∈ (new.grant stamp).references) :
    r.id ∈ new.userId :: new.scopeId :: new.groupId.toList := by
  have hid : r.id ∈ (new.grant stamp).references.map Reference.id := List.mem_map_of_mem hr
  have hscope : (new.grant stamp).scope = new.scope := rfl
  rw [RoleGrantRow.map_id_references, hscope] at hid
  rcases new.scope_cases with ⟨_, hcase⟩ | ⟨_, hcase⟩
  · rw [hcase] at hid
    have hplaced : ∀ id ∈ new.placedIn.toList, id ∈ new.groupId.toList := by
      unfold placedIn
      split <;> simp
    simp only [Option.toList_some, Option.toList_none, List.append_nil, List.mem_cons,
      List.mem_append, List.not_mem_nil, or_false] at hid ⊢
    exact hid.imp_right fun h => h.imp_right (hplaced _)
  · rw [hcase] at hid
    simp only [Option.toList_some, Option.toList_none, List.append_nil, List.nil_append,
      List.mem_cons, List.not_mem_nil, or_false] at hid ⊢
    exact hid.imp_right .inl

theorem Tables.Anchored.school_of_student {t : Tables} (h : t.Anchored) {id : Uuid}
    {student : ProfileRow} (hstudent : t.profile? .student id = some student) :
    t.knows (.school student.scopeId) := by
  obtain ⟨hmem, hkind⟩ := List.mem_filter.mp (List.mem_of_find?_eq_some hstudent)
  have hscope := h.of_mem_profiles hmem (student.kind.scopeReference student.scopeId)
    (by simp [ProfileRow.anchors])
  rwa [eq_of_beq hkind] at hscope

namespace ServiceCall

/-- The identifiers that a service is given. -/
def arguments : ServiceCall → List Uuid
  | addUser _ | addOrganization _ => []
  | userById id | rolesOfUser id | schoolById id | profileById _ id | guardianById id => [id]
  | addRoleToUser userId _ scope =>
    userId :: (scope.schoolId.toList ++ scope.organizationId.toList ++ scope.groupId.toList)
  | addSchool new => [new.organizationId]
  | addGrade new => [new.schoolId]
  | addGroup new => new.schoolId :: new.gradeId :: new.classTeacherId.toList
  | groupsByIds ids => ids
  | addProfile new => new.userId :: new.scopeId :: new.groupId.toList
  | listProfiles _ query _ | countProfiles _ query => query.scopeId.toList ++ query.userId.toList
  | assignGuardian new => [new.userId, new.studentId]
  | listGuardians query _ => query.studentId.toList ++ query.userId.toList

variable {call : ServiceCall} {moments : Nat → Tick} {t t' : Tables} {rows : List Row}
  {shown : Tables → call.Answer}

/-- In later tables, a service adds the same rows. -/
theorem Creates.grow (h : call.Creates moments t rows shown) (hgrows : t.GrowsTo t') :
    call.Creates moments t' rows shown := by
  cases h with
  | user new hvalid => exact .user new hvalid
  | grant userId role scope hscope => exact .grant userId role scope hscope
  | organization new hvalid => exact .organization new hvalid
  | school new hvalid => exact .school new hvalid
  | grade new hvalid => exact .grade new hvalid
  | group new hvalid => exact .group new hvalid
  | profile new hvalid => exact .profile new hvalid
  | guardian new student hvalid hstudent =>
    exact .guardian new student hvalid (hgrows.profile? hstudent)

/-- In earlier tables too, if these have the rows that the service is given. -/
theorem Creates.shrink (h : call.Creates moments t' rows shown) (hgrows : t.GrowsTo t')
    (hknown : ∀ r : Reference, r.id ∈ call.arguments → t'.knows r → t.knows r) :
    call.Creates moments t rows shown := by
  cases h with
  | user new hvalid => exact .user new hvalid
  | grant userId role scope hscope => exact .grant userId role scope hscope
  | organization new hvalid => exact .organization new hvalid
  | school new hvalid => exact .school new hvalid
  | grade new hvalid => exact .grade new hvalid
  | group new hvalid => exact .group new hvalid
  | profile new hvalid => exact .profile new hvalid
  | guardian new student hvalid hstudent =>
    have hthere : t'.knows (.profile .student new.studentId) := Option.isSome_of_eq_some hstudent
    have hargument : new.studentId ∈ arguments (.assignGuardian new) := by simp [arguments]
    have hhere := hknown (.profile .student new.studentId) hargument hthere
    obtain ⟨row, hrow⟩ := Option.isSome_iff_exists.mp hhere
    have hsame : row = student := Option.some.inj ((hgrows.profile? hrow).symm.trans hstudent)
    exact .guardian new student hvalid (hsame ▸ hrow)

/-- The rows refer to what the service is given, to each other and to the school of a student. -/
theorem Creates.references (h : call.Creates moments t rows shown) (hanchored : t.Anchored) :
    ∀ row ∈ rows, ∀ r ∈ row.references,
      r.id ∈ call.arguments ∨ r.id ∈ rows.map Row.id ∨ t.knows r := by
  cases h with
  | user new hvalid => simp [Row.references]
  | organization new hvalid => simp [Row.references]
  | school new hvalid =>
    simp [Row.references, School.references, NewSchool.row, arguments, Reference.id]
  | grade new hvalid =>
    simp [Row.references, Grade.references, NewGrade.row, arguments, Reference.id]
  | grant userId role scope hscope =>
    intro row hrow r hr
    rw [List.mem_singleton.mp hrow] at hr
    have hid := List.mem_map_of_mem (f := Reference.id) hr
    rw [Row.references, RoleGrantRow.map_id_references] at hid
    exact .inl hid
  | group new hvalid =>
    intro row hrow r hr
    rw [List.mem_singleton.mp hrow] at hr
    simp only [Row.references, Group.references, List.mem_append, List.mem_cons, List.mem_map,
      Option.mem_toList, List.not_mem_nil, or_false] at hr
    rcases hr with (rfl | rfl) | ⟨teacher, hteacher, rfl⟩
    · exact .inl List.mem_cons_self
    · exact .inl (List.mem_cons_of_mem _ List.mem_cons_self)
    · have hkey : new.classTeacherId = some teacher := hteacher
      exact .inl (by simp [arguments, Reference.id, hkey])
  | profile new hvalid =>
    intro row hrow r hr
    rcases List.mem_cons.mp hrow with rfl | hrow
    · exact .inl (NewProfile.id_mem_of_grant hr)
    · rw [List.mem_singleton.mp hrow] at hr
      simp only [Row.references, ProfileRow.anchors, List.mem_cons, List.not_mem_nil,
        or_false] at hr
      rcases hr with rfl | rfl | rfl
      · exact .inr (.inl List.mem_cons_self)
      · exact .inl List.mem_cons_self
      · rw [ProfileKind.id_scopeReference]
        exact .inl (List.mem_cons_of_mem _ List.mem_cons_self)
  | guardian new student hvalid hstudent =>
    intro row hrow r hr
    rcases List.mem_cons.mp hrow with rfl | hrow
    · -- The grant is for the school of the student, which is in the tables with the student.
      have hreferences : (new.grant student (moments 2).stamp).references =
          [.user new.userId, .school student.scopeId] := rfl
      rw [Row.references, hreferences] at hr
      rcases List.mem_pair.mp hr with rfl | rfl
      · exact .inl List.mem_cons_self
      · exact .inr (.inr (hanchored.school_of_student hstudent))
    · rw [List.mem_singleton.mp hrow] at hr
      simp only [Row.references, GuardianRow.references, List.mem_cons, List.not_mem_nil,
        or_false] at hr
      rcases hr with rfl | rfl | rfl
      · exact .inr (.inl List.mem_cons_self)
      · exact .inl List.mem_cons_self
      · exact .inl (List.mem_cons_of_mem _ List.mem_cons_self)

/-- What is returned is the same in all tables with the rows that are shown in it. -/
theorem Creates.shown_eq (h : call.Creates moments t rows shown) {u u' u'' : Tables}
    (hrows : ∀ row ∈ rows, row ∈ u.rows) (hresolve : ∀ r ∈ u.references, u.knows r)
    (hgrows : u.GrowsTo u') (hshuffled : u'.Shuffled u'') (hdistinct : u'.Distinct) :
    shown u'' = shown u := by
  obtain ⟨hprofiles, hlinks⟩ := hshuffled.joins_eq hdistinct.keyed
  cases h with
  | profile new hvalid =>
    have hrow := hrows _ (List.mem_cons_of_mem _ List.mem_cons_self)
    simp only [hprofiles]
    exact hgrows.joinProfile_eq hresolve (Tables.mem_rows.mp hrow)
  | guardian new student hvalid hstudent =>
    have hrow := hrows _ (List.mem_cons_of_mem _ List.mem_cons_self)
    simp only [hlinks]
    exact hgrows.joinLink_eq hresolve (Tables.mem_rows.mp hrow)
  | _ => rfl

end ServiceCall

theorem Tables.mem_ids_of_knows {t : Tables} {r : Reference} (h : t.knows r) : r.id ∈ t.ids := by
  obtain ⟨row, hrow, hname⟩ := knows_iff.mp h
  rw [ids_eq_map_rows, ← Row.id_of_name? hname]
  exact List.mem_map_of_mem hrow

theorem Reached.of_run {s s' : Store} {call : ServiceCall} {moments : Nat → Tick} {ctx : Ctx}
    {result : Result call.Answer} (h : Reached s)
    (hrun : Course.run ⟨s, moments⟩ (call.program ctx) = .ended result s') : Reached s' := by
  have hreach := Reached.service moments ctx call h
  rw [hrun] at hreach
  exact hreach

/-- Two creating services that end with values one after the other, the second of which is
given no identifier that the first has generated, end with the same values the other way round,
and leave the same rows.  No identifier is generated twice. -/
theorem creations_commute {s sA sAB : Store} {a b : ServiceCall} {momentsA momentsB : Nat → Tick}
    {va : a.Answer} {vb : b.Answer} (hreach : Reached s) (ha : a.isCreating) (hb : b.isCreating)
    (hrunA : Course.run ⟨s, momentsA⟩ (a.program .background) = .ended (.ok va) sA)
    (hrunB : Course.run ⟨sA, momentsB⟩ (b.program .background) = .ended (.ok vb) sAB)
    (hnew : sAB.tables.Distinct)
    (harguments : ∀ id ∈ b.arguments, id ∈ sA.tables.ids → id ∈ s.tables.ids) :
    ∃ sB sBA, Course.run ⟨s, momentsB⟩ (b.program .background) = .ended (.ok vb) sB ∧
      Course.run ⟨sB, momentsA⟩ (a.program .background) = .ended (.ok va) sBA ∧
      sAB.tables.Shuffled sBA.tables ∧ sAB.opened = sBA.opened := by
  have hreachA := hreach.of_run hrunA
  obtain ⟨rowsB, shownB, hcreatesB, _, hadmitsB, rfl, rfl⟩ :=
    ServiceCall.creates_of_run hb hrunB hnew
  obtain ⟨hdistinctA, hunused⟩ := hnew.addAll
  obtain ⟨rowsA, shownA, hcreatesA, hopened, hadmitsA, rfl, rfl⟩ :=
    ServiceCall.creates_of_run ha hrunA hdistinctA
  have hgrowsA : s.tables.GrowsTo (s.tables.addAll rowsA) := s.tables.grows_addAll rowsA
  -- What the second service looks up was there before the first.
  have hknown : ∀ r : Reference, r.id ∈ b.arguments →
      (s.tables.addAll rowsA).knows r → s.tables.knows r := by
    intro r hid hr
    have hold := harguments r.id hid (Tables.mem_ids_of_knows hr)
    exact hdistinctA.knows_of_mem_ids (fun row hrow => Tables.mem_rows_addAll.mpr (.inr hrow))
      hr hold
  have hcreatesB' := hcreatesB.shrink hgrowsA hknown
  -- So the rows of the second service rest on nothing that the first has added.
  have hreferences : ∀ row ∈ rowsB, ∀ r ∈ row.references,
      (s.tables.addAll rowsA).knows r → s.tables.knows r := by
    intro row hrow r hr hthere
    rcases hcreatesB'.references hreach.called.anchored.now row hrow r hr with
      hargument | hown | hhere
    · exact hknown r hargument hthere
    · obtain ⟨new, hnewRow, hid⟩ := List.mem_map.mp hown
      exact absurd (hid ▸ Tables.mem_ids_of_knows hthere) (hunused new hnewRow)
    · exact hhere
  obtain ⟨hadmitsB', hadmitsA'⟩ := Tables.admitsAll_swap hadmitsA hadmitsB hreferences
  have hshuffled : ((s.tables.addAll rowsA).addAll rowsB).Shuffled
      ((s.tables.addAll rowsB).addAll rowsA) := by
    rw [← Tables.addAll_append, ← Tables.addAll_append]
    exact Tables.shuffled_addAll_of_perm List.perm_append_comm
  have hdistinctBA := hshuffled.distinct hnew
  have hrunB' := ServiceCall.run_of_creates hcreatesB' hopened hadmitsB' hdistinctBA.addAll.1
  have hrunA' := ServiceCall.run_of_creates
    (s := ⟨s.tables.addAll rowsB, none⟩) (hcreatesA.grow (s.tables.grows_addAll rowsB)) rfl
    hadmitsA' hdistinctBA
  have hadded : ∀ {t : Tables} {rows : List Row}, ∀ row ∈ rows, row ∈ (t.addAll rows).rows :=
    fun row hrow => Tables.mem_rows_addAll.mpr (.inl hrow)
  have hvb := hcreatesB'.shown_eq hadded (references_resolve (hreach.of_run hrunB')).1
    (Tables.grows_addAll _ rowsA) hshuffled.symm hdistinctBA
  have hva := hcreatesA.shown_eq hadded (references_resolve hreachA).1
    (Tables.grows_addAll _ rowsB) hshuffled hnew
  refine ⟨⟨s.tables.addAll rowsB, none⟩, ⟨(s.tables.addAll rowsB).addAll rowsA, none⟩, ?_, ?_,
    hshuffled, rfl⟩
  · rw [hrunB', hvb]
  · rw [hrunA', hva]

/-- One of the first users is a student. -/
def firstPupil : Store :=
  firstUsers.afterService 50 (.addProfile ⟨.student, .ofNat 30, .ofNat 20, none, none, none⟩)

def toHeadmaster : ServiceCall :=
  .addProfile ⟨.headmaster, .ofNat 40, .ofNat 20, none, none, none⟩

def toFather : ServiceCall :=
  .assignGuardian ⟨.ofNat 40, .ofNat 52, .father⟩

/-- The moments of calls that get the identifiers from `first` on. -/
def momentsFrom (first : Nat) : Nat → Tick :=
  fun n => ⟨⟨0⟩, ⟨.ofNat (first + n), ⟨0⟩, default⟩⟩

theorem creations_commute_firstPupil :
    (Reached firstPupil ∧ toHeadmaster.isCreating ∧ toFather.isCreating) ∧
    ∃ va vb sA sAB,
      (Course.run ⟨firstPupil, momentsFrom 60⟩ (toHeadmaster.program .background) =
          .ended (.ok va) sA ∧
        Course.run ⟨sA, momentsFrom 70⟩ (toFather.program .background) = .ended (.ok vb) sAB ∧
        sAB.tables.Distinct ∧
        ∀ id ∈ toFather.arguments, id ∈ sA.tables.ids → id ∈ firstPupil.tables.ids) ∧
      ∃ sB sBA,
        Course.run ⟨firstPupil, momentsFrom 70⟩ (toFather.program .background) =
          .ended (.ok vb) sB ∧
        Course.run ⟨sB, momentsFrom 60⟩ (toHeadmaster.program .background) =
          .ended (.ok va) sBA ∧
        sAB.tables.Shuffled sBA.tables ∧ sAB.opened = sBA.opened := by
  have hreach : Reached firstPupil := by
    have hfirst : Reachable firstPupil := reachable_firstUsers.afterService (by decide)
    exact hfirst.reached
  let runA := Course.run ⟨firstPupil, momentsFrom 60⟩ (toHeadmaster.program .background)
  let runB := Course.run ⟨runA.state, momentsFrom 70⟩ (toFather.program .background)
  have hendsA : runA.value?.isSome := by decide +kernel
  have hendsB : runB.value?.isSome := by decide +kernel
  obtain ⟨va, hva⟩ := Option.isSome_iff_exists.mp hendsA
  obtain ⟨vb, hvb⟩ := Option.isSome_iff_exists.mp hendsB
  have hrunA := Program.Reply.ended_of_value? hva
  have hrunB := Program.Reply.ended_of_value? hvb
  have hnew : runB.state.tables.Distinct := by
    unfold Tables.Distinct
    decide +kernel
  have harguments : ∀ id ∈ toFather.arguments,
      id ∈ runA.state.tables.ids → id ∈ firstPupil.tables.ids := by decide +kernel
  exact ⟨⟨hreach, rfl, rfl⟩, va, vb, _, _, ⟨hrunA, hrunB, hnew, harguments⟩,
    creations_commute hreach rfl rfl hrunA hrunB hnew harguments⟩

end Registrar
