import Registrar.Proofs.Hydration
import Registrar.Proofs.ReferentialIntegrity

/-!
# Keys whose rows stay

A key that names a row gives the same answer in all later tables, since rows are only added.
If the references of the tables resolve, then so do the keys that schools and groups bring
along; so a value whose own keys resolve is joined with the same rows for ever
(`reads_profileById`), and no relation of it is missing (`complete_joinProfile`).
-/

namespace Registrar

open Program Service

namespace Tables

variable {t t' : Tables} {keys : RelationKeys}

/-- Every key names a row that is there. -/
structure Resolves (t : Tables) (keys : RelationKeys) : Prop where
  users : ∀ id ∈ keys.users, (t.user? id).isSome
  schools : ∀ id ∈ keys.schools, (t.schoolShort? id).isSome
  organizations : ∀ id ∈ keys.organizations, (t.organizationShort? id).isSome
  groups : ∀ id ∈ keys.groups, (t.groupShort? id).isSome
  grades : ∀ id ∈ keys.grades, (t.grade? id).isSome
  teachers : ∀ id ∈ keys.teachers, (t.teacherShort? id).isSome
  students : ∀ id ∈ keys.students, (t.studentShort? id).isSome

/-! ## Short forms that stay -/

private theorem map_of_kept {α β : Type} {before after : Option α} {short : α → β} {b : β}
    (hkept : ∀ {row}, before = some row → after = some row) (h : before.map short = some b) :
    after.map short = some b := by
  obtain ⟨row, hrow, hshort⟩ := Option.map_eq_some_iff.mp h
  exact Option.map_eq_some_iff.mpr ⟨row, hkept hrow, hshort⟩

namespace GrowsTo

variable (h : t.GrowsTo t') {id : Uuid}
include h

theorem organizationShort? {row : OrganizationShort}
    (hrow : t.organizationShort? id = some row) : t'.organizationShort? id = some row :=
  map_of_kept h.organization? hrow

theorem schoolShort? {row : SchoolShort} (hrow : t.schoolShort? id = some row) :
    t'.schoolShort? id = some row :=
  map_of_kept h.school? hrow

theorem groupShort? {row : GroupShort} (hrow : t.groupShort? id = some row) :
    t'.groupShort? id = some row :=
  map_of_kept h.group? hrow

theorem teacherShort? {row : TeacherShort} (hrow : t.teacherShort? id = some row) :
    t'.teacherShort? id = some row := by
  obtain ⟨teacher, user, hteacher, huser, rfl⟩ := teacherShort?_eq_some_iff.mp hrow
  exact teacherShort?_eq_some_iff.mpr ⟨teacher, user, h.profile? hteacher, h.user? huser, rfl⟩

theorem studentShort? {row : StudentShort} (hrow : t.studentShort? id = some row) :
    t'.studentShort? id = some row := by
  obtain ⟨student, user, hstudent, huser, rfl⟩ := studentShort?_eq_some_iff.mp hrow
  exact studentShort?_eq_some_iff.mpr ⟨student, user, h.profile? hstudent, h.user? huser, rfl⟩

end GrowsTo

private theorem eq_of_kept {α : Type} {before after : Option α}
    (hkept : ∀ {row}, before = some row → after = some row) (hrow : before.isSome) :
    after = before := by
  obtain ⟨row, hrow⟩ := Option.isSome_iff_exists.mp hrow
  rw [hrow, hkept hrow]

theorem GrowsTo.agrees (h : t.GrowsTo t') (hkeys : t.Resolves keys) : t.Agrees t' keys where
  users id hid := eq_of_kept h.user? (hkeys.users id hid)
  schools id hid := eq_of_kept h.schoolShort? (hkeys.schools id hid)
  organizations id hid := eq_of_kept h.organizationShort? (hkeys.organizations id hid)
  groups id hid := eq_of_kept h.groupShort? (hkeys.groups id hid)
  grades id hid := eq_of_kept h.grade? (hkeys.grades id hid)
  teachers id hid := eq_of_kept h.teacherShort? (hkeys.teachers id hid)
  students id hid := eq_of_kept h.studentShort? (hkeys.students id hid)

/-! ## What schools and groups refer to -/

namespace Anchored

variable (h : t.Anchored) {id : Uuid}
include h

theorem organization_of_school {school : SchoolShort}
    (hschool : t.schoolShort? id = some school) :
    (t.organizationShort? school.organizationId).isSome := by
  obtain ⟨row, hfound, rfl⟩ := Option.map_eq_some_iff.mp hschool
  have hknown : t.knows (.organization row.organizationId) := by
    apply h
    have hrow := List.mem_of_find?_eq_some hfound
    simp only [anchors, List.mem_append, List.mem_flatMap]
    exact .inl (.inl (.inl (.inl (.inl ⟨row, hrow, List.mem_singleton_self _⟩))))
  exact Option.isSome_map.trans hknown

theorem references_of_group {group : GroupShort} (hgroup : t.groupShort? id = some group) :
    (t.grade? group.gradeId).isSome ∧
      ∀ teacher, group.classTeacherId = some teacher → (t.profile? .teacher teacher).isSome := by
  obtain ⟨row, hfound, rfl⟩ := Option.map_eq_some_iff.mp hgroup
  have hknown : ∀ r ∈ row.references, t.knows r := by
    intro r hr
    apply h
    have hrow := List.mem_of_find?_eq_some hfound
    simp only [anchors, List.mem_append, List.mem_flatMap]
    exact .inl (.inl (.inl (.inr ⟨row, hrow, hr⟩)))
  have hgrade : .grade row.gradeId ∈ row.references := by simp [Group.references]
  refine ⟨hknown _ hgrade, fun teacher hteacher => ?_⟩
  have hplaced : row.classTeacherId = some teacher := hteacher
  have hnamed : .profile .teacher teacher ∈ row.references := by
    simp [Group.references, hplaced]
  exact hknown _ hnamed

theorem of_mem_profiles {row : ProfileRow} (hrow : row ∈ t.profiles) :
    ∀ r ∈ row.anchors, t.knows r := by
  intro r hr
  apply h
  simp only [anchors, List.mem_append, List.mem_flatMap]
  exact .inl (.inr ⟨row, hrow, hr⟩)

theorem user_of_profile? {kind : ProfileKind} {row : ProfileRow}
    (hrow : t.profile? kind id = some row) : (t.user? row.userId).isSome := by
  have hmem : row ∈ t.profiles := List.mem_of_mem_filter (List.mem_of_find?_eq_some hrow)
  exact h.of_mem_profiles hmem (.user row.userId) (by simp [ProfileRow.anchors])

theorem teacherShort?_of_profile? (hteacher : (t.profile? .teacher id).isSome) :
    (t.teacherShort? id).isSome := by
  obtain ⟨row, hfound⟩ := Option.isSome_iff_exists.mp hteacher
  obtain ⟨user, huser⟩ := Option.isSome_iff_exists.mp (h.user_of_profile? hfound)
  exact Option.isSome_of_eq_some (teacherShort?_eq_some_iff.mpr ⟨row, user, hfound, huser, rfl⟩)

open RelationKeys in
/-- The keys that schools and groups bring along resolve as well. -/
theorem resolves_cascaded (hkeys : t.Resolves keys) : t.Resolves (t.cascaded keys) := by
  have hfetchedSchool : ∀ school ∈ t.fetchedSchools keys,
      ∃ id, t.schoolShort? id = some school := by
    intro school hschool
    obtain ⟨id, _, hid⟩ := List.mem_filterMap.mp (mem_of_mem_indexById hschool)
    exact ⟨id, hid⟩
  have hfetchedGroup : ∀ group ∈ t.fetchedGroups keys, ∃ id, t.groupShort? id = some group := by
    intro group hgroup
    obtain ⟨id, _, hid⟩ := List.mem_filterMap.mp (mem_of_mem_indexById hgroup)
    exact ⟨id, hid⟩
  -- A school brings its organization, a group its grade and its class teacher.
  constructor
  case organizations =>
    intro id hid
    rcases column_organizations.mem_cascade.mp hid with
      hown | ⟨school, hschool, hid⟩ | ⟨_, _, hnone⟩
    · exact hkeys.organizations id hown
    · obtain ⟨_, hfound⟩ := hfetchedSchool school hschool
      rw [List.mem_singleton.mp hid]
      exact h.organization_of_school hfound
    · cases hnone
  case grades =>
    intro id hid
    rcases column_grades.mem_cascade.mp hid with hown | ⟨_, _, hnone⟩ | ⟨group, hgroup, hid⟩
    · exact hkeys.grades id hown
    · cases hnone
    · obtain ⟨_, hfound⟩ := hfetchedGroup group hgroup
      rw [List.mem_singleton.mp hid]
      exact (h.references_of_group hfound).1
  case teachers =>
    intro id hid
    rcases column_teachers.mem_cascade.mp hid with hown | ⟨_, _, hnone⟩ | ⟨group, hgroup, hid⟩
    · exact hkeys.teachers id hown
    · cases hnone
    · obtain ⟨_, hfound⟩ := hfetchedGroup group hgroup
      apply h.teacherShort?_of_profile?
      exact (h.references_of_group hfound).2 id (Option.mem_toList.mp hid)
  case users => exact fun id hid => hkeys.users id (column_users.mem_of_cascade rfl rfl hid)
  case schools => exact fun id hid => hkeys.schools id (column_schools.mem_of_cascade rfl rfl hid)
  case groups => exact fun id hid => hkeys.groups id (column_groups.mem_of_cascade rfl rfl hid)
  case students =>
    exact fun id hid => hkeys.students id (column_students.mem_of_cascade rfl rfl hid)

end Anchored

end Tables

/-! ## Profiles that stay as they are -/

/-- No relation of the profile is missing, and each is the row its key names. -/
structure Profile.Complete (p : Profile) : Prop where
  user : ∃ user, p.user = some user ∧ user.id = p.userId
  school : p.kind.role.scopeKind = .school →
    ∃ school, p.school = some school ∧ school.id = p.scopeId
  organization : p.kind.role.scopeKind = .organization →
    ∃ organization, p.organization = some organization ∧ organization.id = p.scopeId
  group : ∀ id, p.placedIn = some id → ∃ group, p.group = some group ∧ group.id = id

theorem kind_of_placedIn {row : ProfileRow} {id : Uuid} (h : row.placedIn = some id) :
    row.kind = .student := by
  unfold ProfileRow.placedIn at h
  split at h
  next hkind => exact hkind
  next => cases h

section

variable {t : Tables}

theorem toProfileRow_joinProfile (p : Profile) :
    (t.joinProfile p).toProfileRow = p.toProfileRow := by
  unfold Tables.joinProfile
  cases p.kind.role.scopeKind <;> rfl

theorem joinedSchool?_of_isSome {id : Uuid} (h : (t.schoolShort? id).isSome) :
    ∃ school, t.joinedSchool? id = some school ∧ school.id = id := by
  obtain ⟨school, hfound⟩ := Option.isSome_iff_exists.mp h
  have hid : school.id = id := Tables.id_of_schoolShort? hfound
  exact ⟨t.joinSchool school, congrArg (Option.map _) hfound, hid⟩

theorem joinedGroup?_of_isSome {id : Uuid} (h : (t.groupShort? id).isSome) :
    ∃ group, t.joinedGroup? id = some group ∧ group.id = id := by
  obtain ⟨group, hfound⟩ := Option.isSome_iff_exists.mp h
  have hid : group.id = id := Tables.id_of_groupShort? hfound
  exact ⟨t.joinGroup group, congrArg (Option.map _) hfound, hid⟩

theorem complete_joinProfile {p : Profile} (h : t.Resolves (Hydratable.keys p)) :
    (t.joinProfile p).Complete := by
  simp only [Hydratable.keys] at h
  unfold Tables.joinProfile
  cases hkind : p.kind.role.scopeKind with
  | school =>
    rw [hkind] at h
    obtain ⟨user, huser⟩ := Option.isSome_iff_exists.mp (h.users p.userId List.mem_cons_self)
    refine ⟨⟨user, huser, Tables.id_of_user? huser⟩, fun _ => ?_, ?_, fun id hid => ?_⟩
    · exact joinedSchool?_of_isSome (h.schools p.scopeId List.mem_cons_self)
    · intro horganization
      cases hkind.symm.trans horganization
    · have hplaced : p.placedIn = some id := hid
      simp only [hplaced, Option.bind_some]
      exact joinedGroup?_of_isSome (h.groups id (Option.mem_toList.mpr hplaced))
  | organization =>
    rw [hkind] at h
    obtain ⟨user, huser⟩ := Option.isSome_iff_exists.mp (h.users p.userId List.mem_cons_self)
    obtain ⟨organization, hfound⟩ :=
      Option.isSome_iff_exists.mp (h.organizations p.scopeId List.mem_cons_self)
    refine ⟨⟨user, huser, Tables.id_of_user? huser⟩, ?_, fun _ => ?_, fun id hid => ?_⟩
    · intro hschool
      cases hkind.symm.trans hschool
    · exact ⟨organization, hfound, Tables.id_of_organizationShort? hfound⟩
    · have hstudent : p.kind = .student := kind_of_placedIn hid
      rw [hstudent] at hkind
      cases hkind

theorem Tables.Resolves.ofAll {α : Type} [Hydratable α] {item : α}
    (h : t.Resolves (Hydratable.keys item)) : t.Resolves (RelationKeys.ofAll [item]) := by
  have hown : ∀ {column : RelationKeys → List Uuid}, RelationKeys.Column column →
      ∀ id ∈ column (RelationKeys.ofAll [item]), id ∈ column (Hydratable.keys item) := by
    intro column hcolumn id hid
    obtain ⟨other, hother, hid⟩ := hcolumn.mem_ofAll.mp hid
    rw [← List.mem_singleton.mp hother]
    exact hid
  constructor
  · exact fun id hid => h.users id (hown RelationKeys.column_users id hid)
  · exact fun id hid => h.schools id (hown RelationKeys.column_schools id hid)
  · exact fun id hid => h.organizations id (hown RelationKeys.column_organizations id hid)
  · exact fun id hid => h.groups id (hown RelationKeys.column_groups id hid)
  · exact fun id hid => h.grades id (hown RelationKeys.column_grades id hid)
  · exact fun id hid => h.teachers id (hown RelationKeys.column_teachers id hid)
  · exact fun id hid => h.students id (hown RelationKeys.column_students id hid)

/-- A profile whose keys resolve is found and joined in the same way in all later tables. -/
theorem reads_profileById {ctx : Ctx} {kind : ProfileKind} {id : Uuid} {row : ProfileRow}
    (hanchored : t.Anchored) (hrow : t.profile? kind id = some row)
    (hkeys : t.Resolves (Hydratable.keys row.bare)) :
    (profileById ctx kind id).Reads ctx t.GrowsTo (· = t.joinProfile row.bare) := by
  unfold profileById
  refine reads_bind (· = some row) (reads_ask rfl fun t' ht' _ => ⟨_, rfl, ht'.profile? hrow⟩) ?_
  rintro _ rfl
  exact reads_hydrateOne hydrate_profile fun t' ht' =>
    ht'.agrees (hanchored.resolves_cascaded hkeys.ofAll)

end

end Registrar
