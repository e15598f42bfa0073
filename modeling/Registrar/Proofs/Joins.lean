import Registrar.Service.Lookup
import Registrar.Store.Tables

/-!
# Relations as joins

What the relation fields of a value should be is said here without any index: each key is
looked up in the tables by itself.  Rows that were fetched for a set of keys and indexed give
the same answer for every key of the set (`find?_indexById_filterMap`), and a value that is
rebuilt from an index that shows its keys is the joined value (`hydrate_profile` and its
like).
-/

namespace Registrar

open Service

namespace Tables

variable (t : Tables)

/-! ## Looking up one key at a time -/

def organizationShort? (id : Uuid) : Option OrganizationShort :=
  (t.organization? id).map Organization.short

/-- A school is shown with its organization. -/
def joinSchool (s : SchoolShort) : SchoolShort :=
  { s with organization := t.organizationShort? s.organizationId }

def schoolShort? (id : Uuid) : Option SchoolShort :=
  (t.school? id).map School.short

/-- A group is shown with its grade and its class teacher. -/
def joinGroup (g : GroupShort) : GroupShort :=
  { g with
    grade := t.grade? g.gradeId
    classTeacher := g.classTeacherId.bind t.teacherShort? }

def groupShort? (id : Uuid) : Option GroupShort :=
  (t.group? id).map Group.short

def joinedSchool? (id : Uuid) : Option SchoolShort :=
  (t.schoolShort? id).map t.joinSchool

def joinedGroup? (id : Uuid) : Option GroupShort :=
  (t.groupShort? id).map t.joinGroup

def joinGrant (g : RoleGrant) : RoleGrant :=
  { g with
    school := g.scope.schoolId.bind t.joinedSchool?
    organization := g.scope.organizationId.bind t.organizationShort?
    group := g.scope.groupId.bind t.joinedGroup? }

def joinLink (l : GuardianLink) : GuardianLink :=
  { l with user := t.user? l.userId, student := t.studentShort? l.studentId }

/-- A profile is shown with its user and with its school or organization, a student also
with the group. -/
def joinProfile (p : Profile) : Profile :=
  match p.kind.role.scopeKind with
  | .school =>
    { p with
      user := t.user? p.userId
      school := t.joinedSchool? p.scopeId
      group := p.placedIn.bind t.joinedGroup? }
  | .organization =>
    { p with
      user := t.user? p.userId
      organization := t.organizationShort? p.scopeId }

/-! ## Rows have the identifiers they are found under -/

variable {t} {id : Uuid}

theorem id_of_user? {row : User} (h : t.user? id = some row) : row.id = id := by
  simpa using List.find?_some h

theorem id_of_grade? {row : Grade} (h : t.grade? id = some row) : row.id = id := by
  simpa using List.find?_some h

theorem id_of_profile? {kind : ProfileKind} {row : ProfileRow}
    (h : t.profile? kind id = some row) : row.id = id := by
  simpa using List.find?_some h

private theorem id_of_short {α β : Type} {rows : List α} {key : α → Uuid} {short : α → β}
    {row : β} (keyOf : β → Uuid) (hshort : ∀ a, keyOf (short a) = key a)
    (h : (rows.find? (key · == id)).map short = some row) : keyOf row = id := by
  obtain ⟨a, hfound, rfl⟩ := Option.map_eq_some_iff.mp h
  rw [hshort]
  simpa using List.find?_some hfound

theorem id_of_organizationShort? {row : OrganizationShort}
    (h : t.organizationShort? id = some row) : row.id = id :=
  id_of_short OrganizationShort.id (fun _ => rfl) h

theorem id_of_schoolShort? {row : SchoolShort} (h : t.schoolShort? id = some row) :
    row.id = id :=
  id_of_short SchoolShort.id (fun _ => rfl) h

theorem id_of_groupShort? {row : GroupShort} (h : t.groupShort? id = some row) :
    row.id = id :=
  id_of_short GroupShort.id (fun _ => rfl) h

/-- A teacher is shown only if both the profile and the user are there. -/
theorem teacherShort?_eq_some_iff {row : TeacherShort} :
    t.teacherShort? id = some row ↔
      ∃ teacher user, t.profile? .teacher id = some teacher ∧
        t.user? teacher.userId = some user ∧
        ⟨teacher.id, teacher.userId, user.firstName, user.lastName⟩ = row := by
  simp [teacherShort?, Option.bind_eq_some_iff]

theorem studentShort?_eq_some_iff {row : StudentShort} :
    t.studentShort? id = some row ↔
      ∃ student user, t.profile? .student id = some student ∧
        t.user? student.userId = some user ∧
        ⟨student.id, student.userId, student.groupId, user.firstName, user.lastName⟩ = row := by
  simp [studentShort?, Option.bind_eq_some_iff]

theorem id_of_teacherShort? {row : TeacherShort} (h : t.teacherShort? id = some row) :
    row.id = id := by
  obtain ⟨teacher, user, hteacher, _, rfl⟩ := teacherShort?_eq_some_iff.mp h
  exact id_of_profile? hteacher

theorem id_of_studentShort? {row : StudentShort} (h : t.studentShort? id = some row) :
    row.id = id := by
  obtain ⟨student, user, hstudent, _, rfl⟩ := studentShort?_eq_some_iff.mp h
  exact id_of_profile? hstudent

end Tables

/-! ## Indexed rows -/

section Index

variable {α : Type} {id : α → Uuid} {rows : List α}

theorem mem_of_mem_indexById {row : α} (h : row ∈ indexById id rows) : row ∈ rows := by
  induction rows with
  | nil => exact h
  | cons first rest ih =>
    rw [indexById] at h
    split at h
    · exact List.mem_cons_of_mem _ (ih h)
    · rcases List.mem_cons.mp h with rfl | hrest
      · exact List.mem_cons_self
      · exact List.mem_cons_of_mem _ (ih hrest)

theorem exists_mem_indexById {row : α} (h : row ∈ rows) :
    ∃ other ∈ indexById id rows, id other = id row := by
  induction rows generalizing row with
  | nil => cases h
  | cons first rest ih =>
    rw [indexById]
    split
    next hlater =>
      rcases List.mem_cons.mp h with rfl | hrest
      · obtain ⟨other, hother, hsame⟩ := List.any_eq_true.mp hlater
        obtain ⟨kept, hkept, hid⟩ := ih hother
        exact ⟨kept, hkept, hid.trans (beq_iff_eq.mp hsame)⟩
      · exact ih hrest
    next =>
      rcases List.mem_cons.mp h with rfl | hrest
      · exact ⟨row, List.mem_cons_self, rfl⟩
      · obtain ⟨kept, hkept, hid⟩ := ih hrest
        exact ⟨kept, List.mem_cons_of_mem _ hkept, hid⟩

/-- Under a key that was asked for, the index of the rows that were found has what the look-up
of that key gives. -/
theorem find?_indexById_filterMap {lookup : Uuid → Option α} {ids : List Uuid} {key : Uuid}
    (hid : ∀ {k row}, lookup k = some row → id row = k) (hkey : key ∈ ids) :
    (indexById id (ids.filterMap lookup)).find? (id · == key) = lookup key := by
  have hfound : ∀ row ∈ indexById id (ids.filterMap lookup), lookup (id row) = some row := by
    intro row hrow
    obtain ⟨k, _, hlookup⟩ := List.mem_filterMap.mp (mem_of_mem_indexById hrow)
    rw [hid hlookup, hlookup]
  cases hlookup : lookup key with
  | none =>
    apply List.find?_eq_none.mpr
    intro row hrow hrowKey
    rw [← beq_iff_eq.mp hrowKey, hfound row hrow] at hlookup
    cases hlookup
  | some row =>
    obtain ⟨other, hother, hsame⟩ :
        ∃ other ∈ indexById id (ids.filterMap lookup), id other = id row :=
      exists_mem_indexById (List.mem_filterMap.mpr ⟨key, hkey, hlookup⟩)
    have hotherKey : id other = key := hsame.trans (hid hlookup)
    have hsome : ((indexById id (ids.filterMap lookup)).find? (id · == key)).isSome :=
      List.find?_isSome.mpr ⟨other, hother, beq_iff_eq.mpr hotherKey⟩
    obtain ⟨first, hfirst⟩ := Option.isSome_iff_exists.mp hsome
    have hfirstKey : id first = key := by simpa using List.find?_some hfirst
    have hkeyed := hfound first (List.mem_of_find?_eq_some hfirst)
    rw [hfirstKey, hlookup] at hkeyed
    rw [hfirst, hkeyed]

end Index

/-! ## Sets of keys -/

theorem mem_insertKey {id other : Uuid} {ids : List Uuid} :
    id ∈ insertKey other ids ↔ id = other ∨ id ∈ ids := by
  induction ids with
  | nil => simp [insertKey]
  | cons first rest ih =>
    rw [insertKey]
    split
    next => rw [List.mem_cons]
    next =>
      split
      next hsame => rw [Uuid.toNat_inj.mp hsame, List.mem_cons, or_self_left]
      next => rw [List.mem_cons, List.mem_cons, ih, or_left_comm]

theorem mem_keySet {id : Uuid} {ids : List Uuid} : id ∈ keySet ids ↔ id ∈ ids := by
  induction ids with
  | nil => rfl
  | cons first rest ih =>
    change id ∈ insertKey first (keySet rest) ↔ _
    rw [mem_insertKey, ih, List.mem_cons]

namespace RelationKeys

/-- The keys of one sort of related row. -/
structure Column (column : RelationKeys → List Uuid) : Prop where
  empty : column {} = []
  append (a b : RelationKeys) : column (a.append b) = column a ++ column b
  normalize (k : RelationKeys) : column k.normalize = keySet (column k)

theorem column_users : Column users := ⟨rfl, fun _ _ => rfl, fun _ => rfl⟩
theorem column_schools : Column schools := ⟨rfl, fun _ _ => rfl, fun _ => rfl⟩
theorem column_organizations : Column organizations := ⟨rfl, fun _ _ => rfl, fun _ => rfl⟩
theorem column_groups : Column groups := ⟨rfl, fun _ _ => rfl, fun _ => rfl⟩
theorem column_grades : Column grades := ⟨rfl, fun _ _ => rfl, fun _ => rfl⟩
theorem column_teachers : Column teachers := ⟨rfl, fun _ _ => rfl, fun _ => rfl⟩
theorem column_students : Column students := ⟨rfl, fun _ _ => rfl, fun _ => rfl⟩

variable {column : RelationKeys → List Uuid} {α : Type} [Hydratable α]

theorem Column.mem_ofAll (h : Column column) {items : List α} {id : Uuid} :
    id ∈ column (ofAll items) ↔ ∃ item ∈ items, id ∈ column (Hydratable.keys item) := by
  rw [ofAll, h.normalize, mem_keySet]
  induction items with
  | nil => simp [h.empty]
  | cons first rest ih => simp [h.append, ih]

theorem Column.mem_cascade (h : Column column) {keys : RelationKeys}
    {schools : List SchoolShort} {groups : List GroupShort} {id : Uuid} :
    id ∈ column (cascade keys schools groups) ↔
      id ∈ column keys ∨ (∃ school ∈ schools, id ∈ column (Hydratable.keys school)) ∨
        ∃ group ∈ groups, id ∈ column (Hydratable.keys group) := by
  rw [cascade, h.normalize, mem_keySet, h.append, h.append, List.mem_append, List.mem_append,
    h.mem_ofAll, h.mem_ofAll, or_assoc]

theorem Column.mem_of_cascade (h : Column column) {keys : RelationKeys}
    {schools : List SchoolShort} {groups : List GroupShort} {id : Uuid}
    (hschool : ∀ {school : SchoolShort}, column (Hydratable.keys school) = [])
    (hgroup : ∀ {group : GroupShort}, column (Hydratable.keys group) = [])
    (hid : id ∈ column (cascade keys schools groups)) : id ∈ column keys := by
  rcases h.mem_cascade.mp hid with hown | ⟨school, _, hnone⟩ | ⟨group, _, hnone⟩
  · exact hown
  · rw [hschool] at hnone
    cases hnone
  · rw [hgroup] at hnone
    cases hnone

end RelationKeys

/-! ## Values rebuilt -/

/-- Under each of the keys, the related rows have what the tables have. -/
structure Related.Shows (r : Related) (t : Tables) (keys : RelationKeys) : Prop where
  users : ∀ id ∈ keys.users, r.user? id = t.user? id
  schools : ∀ id ∈ keys.schools, r.school? id = t.joinedSchool? id
  organizations : ∀ id ∈ keys.organizations, r.organization? id = t.organizationShort? id
  groups : ∀ id ∈ keys.groups, r.group? id = t.joinedGroup? id
  grades : ∀ id ∈ keys.grades, r.grade? id = t.grade? id
  teachers : ∀ id ∈ keys.teachers, r.teacher? id = t.teacherShort? id
  students : ∀ id ∈ keys.students, r.student? id = t.studentShort? id

namespace Related.Shows

variable {r : Related} {t : Tables}

open RelationKeys

theorem item {α : Type} [Hydratable α] {items : List α} {item : α}
    (h : r.Shows t (ofAll items)) (hitem : item ∈ items) :
    r.Shows t (Hydratable.keys item) where
  users id hid := h.users id (column_users.mem_ofAll.mpr ⟨item, hitem, hid⟩)
  schools id hid := h.schools id (column_schools.mem_ofAll.mpr ⟨item, hitem, hid⟩)
  organizations id hid :=
    h.organizations id (column_organizations.mem_ofAll.mpr ⟨item, hitem, hid⟩)
  groups id hid := h.groups id (column_groups.mem_ofAll.mpr ⟨item, hitem, hid⟩)
  grades id hid := h.grades id (column_grades.mem_ofAll.mpr ⟨item, hitem, hid⟩)
  teachers id hid := h.teachers id (column_teachers.mem_ofAll.mpr ⟨item, hitem, hid⟩)
  students id hid := h.students id (column_students.mem_ofAll.mpr ⟨item, hitem, hid⟩)

end Related.Shows

section Hydrate

variable {r : Related} {t : Tables}

theorem bind_congr_of_mem {α : Type} {key : Option Uuid} {shown looked : Uuid → Option α}
    (h : ∀ id ∈ key.toList, shown id = looked id) : key.bind shown = key.bind looked := by
  cases key with
  | none => rfl
  | some id => exact h id (by simp)

theorem hydrate_school {school : SchoolShort} (h : r.Shows t (Hydratable.keys school)) :
    Hydratable.hydrate r school = t.joinSchool school := by
  simp only [Hydratable.hydrate, Tables.joinSchool]
  rw [h.organizations school.organizationId (List.mem_singleton_self _)]

theorem hydrate_group {group : GroupShort} (h : r.Shows t (Hydratable.keys group)) :
    Hydratable.hydrate r group = t.joinGroup group := by
  simp only [Hydratable.hydrate, Tables.joinGroup]
  rw [h.grades group.gradeId (List.mem_singleton_self _), bind_congr_of_mem h.teachers]

theorem hydrate_grant {grant : RoleGrant} (h : r.Shows t (Hydratable.keys grant)) :
    Hydratable.hydrate r grant = t.joinGrant grant := by
  simp only [Hydratable.hydrate, Tables.joinGrant]
  rw [bind_congr_of_mem h.schools, bind_congr_of_mem h.organizations, bind_congr_of_mem h.groups]

theorem hydrate_link {link : GuardianLink} (h : r.Shows t (Hydratable.keys link)) :
    Hydratable.hydrate r link = t.joinLink link := by
  simp only [Hydratable.hydrate, Tables.joinLink]
  rw [h.users link.userId (List.mem_singleton_self _),
    h.students link.studentId (List.mem_singleton_self _)]

theorem hydrate_profile {profile : Profile} (h : r.Shows t (Hydratable.keys profile)) :
    Hydratable.hydrate r profile = t.joinProfile profile := by
  simp only [Hydratable.hydrate, Tables.joinProfile]
  simp only [Hydratable.keys] at h
  cases hkind : profile.kind.role.scopeKind with
  | school =>
    rw [hkind] at h
    simp only
    rw [h.users profile.userId (List.mem_singleton_self _),
      h.schools profile.scopeId (List.mem_singleton_self _), bind_congr_of_mem h.groups]
  | organization =>
    rw [hkind] at h
    simp only
    rw [h.users profile.userId (List.mem_singleton_self _),
      h.organizations profile.scopeId (List.mem_singleton_self _)]

end Hydrate

/-! ## The rows fetched for a set of keys -/

namespace Tables

variable (t : Tables) (keys : RelationKeys)

def fetchedSchools : List SchoolShort :=
  indexById SchoolShort.id (keys.schools.filterMap t.schoolShort?)

def fetchedGroups : List GroupShort :=
  indexById GroupShort.id (keys.groups.filterMap t.groupShort?)

/-- The keys with those of their schools and groups. -/
def cascaded : RelationKeys :=
  cascade keys (t.fetchedSchools keys) (t.fetchedGroups keys)

/-- The related rows that refer to no others. -/
def fetchedLeaves : Related :=
  { users := indexById User.id (keys.users.filterMap t.user?)
    organizations :=
      indexById OrganizationShort.id (keys.organizations.filterMap t.organizationShort?)
    grades := indexById Grade.id (keys.grades.filterMap t.grade?)
    teachers := indexById TeacherShort.id (keys.teachers.filterMap t.teacherShort?)
    students := indexById StudentShort.id (keys.students.filterMap t.studentShort?) }

/-- All the rows related to the keys, schools and groups with their own relations. -/
def fetched : Related :=
  let leaves := t.fetchedLeaves (t.cascaded keys)
  { leaves with
    schools := hydrateAll leaves (t.fetchedSchools keys)
    groups := hydrateAll leaves (t.fetchedGroups keys) }

variable {t keys} {id : Uuid}

theorem user?_fetchedLeaves (h : id ∈ keys.users) :
    (t.fetchedLeaves keys).user? id = t.user? id :=
  find?_indexById_filterMap id_of_user? h

theorem organization?_fetchedLeaves (h : id ∈ keys.organizations) :
    (t.fetchedLeaves keys).organization? id = t.organizationShort? id :=
  find?_indexById_filterMap id_of_organizationShort? h

theorem grade?_fetchedLeaves (h : id ∈ keys.grades) :
    (t.fetchedLeaves keys).grade? id = t.grade? id :=
  find?_indexById_filterMap id_of_grade? h

theorem teacher?_fetchedLeaves (h : id ∈ keys.teachers) :
    (t.fetchedLeaves keys).teacher? id = t.teacherShort? id :=
  find?_indexById_filterMap id_of_teacherShort? h

theorem student?_fetchedLeaves (h : id ∈ keys.students) :
    (t.fetchedLeaves keys).student? id = t.studentShort? id :=
  find?_indexById_filterMap id_of_studentShort? h

open RelationKeys in
theorem hydrate_fetchedSchools :
    hydrateAll (t.fetchedLeaves (t.cascaded keys)) (t.fetchedSchools keys) =
      (t.fetchedSchools keys).map t.joinSchool := by
  apply List.map_congr_left
  intro school hschool
  apply hydrate_school
  constructor
  case organizations =>
    intro id hid
    exact organization?_fetchedLeaves
      (column_organizations.mem_cascade.mpr (.inr (.inl ⟨school, hschool, hid⟩)))
  all_goals exact fun _ hnone => (List.not_mem_nil hnone).elim

open RelationKeys in
theorem hydrate_fetchedGroups :
    hydrateAll (t.fetchedLeaves (t.cascaded keys)) (t.fetchedGroups keys) =
      (t.fetchedGroups keys).map t.joinGroup := by
  apply List.map_congr_left
  intro group hgroup
  apply hydrate_group
  constructor
  case grades =>
    intro id hid
    exact grade?_fetchedLeaves
      (column_grades.mem_cascade.mpr (.inr (.inr ⟨group, hgroup, hid⟩)))
  case teachers =>
    intro id hid
    exact teacher?_fetchedLeaves
      (column_teachers.mem_cascade.mpr (.inr (.inr ⟨group, hgroup, hid⟩)))
  all_goals exact fun _ hnone => (List.not_mem_nil hnone).elim

open RelationKeys in
/-- The rows fetched for the keys show what the tables have under each of them. -/
theorem shows_fetched : (t.fetched keys).Shows t keys where
  users id hid := user?_fetchedLeaves (column_users.mem_cascade.mpr (.inl hid))
  organizations id hid :=
    organization?_fetchedLeaves (column_organizations.mem_cascade.mpr (.inl hid))
  grades id hid := grade?_fetchedLeaves (column_grades.mem_cascade.mpr (.inl hid))
  teachers id hid := teacher?_fetchedLeaves (column_teachers.mem_cascade.mpr (.inl hid))
  students id hid := student?_fetchedLeaves (column_students.mem_cascade.mpr (.inl hid))
  schools id hid := by
    change (hydrateAll _ (t.fetchedSchools keys)).find? (·.id == id) = _
    rw [hydrate_fetchedSchools, List.find?_map]
    exact congrArg (Option.map _) (find?_indexById_filterMap id_of_schoolShort? hid)
  groups id hid := by
    change (hydrateAll _ (t.fetchedGroups keys)).find? (·.id == id) = _
    rw [hydrate_fetchedGroups, List.find?_map]
    exact congrArg (Option.map _) (find?_indexById_filterMap id_of_groupShort? hid)

end Tables

end Registrar
