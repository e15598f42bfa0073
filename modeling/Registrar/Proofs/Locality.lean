import Registrar.Proofs.Client
import Registrar.Proofs.FetchBound

/-!
# What a value is rebuilt from

A value is rebuilt from the rows that its own keys find, and from nothing else.  Its keys stay as
they are, so it can be rebuilt any number of times; and the keys of many values are the union of
the keys of each, whatever order the values come in (`hydration_local`).
-/

namespace Registrar

/-! ## Keys of many values -/

namespace RelationKeys

variable {α : Type} [Hydratable α]

theorem eq_of_columns {a b : RelationKeys} (h : ∀ sort : Batch, sort.column a = sort.column b) :
    a = b := by
  have husers := h .users
  have hschools := h .schools
  have horganizations := h .organizations
  have hgroups := h .groups
  have hgrades := h .grades
  have hteachers := h .teachers
  have hstudents := h .students
  cases a
  cases b
  simp_all only [Batch.column]

theorem mem_column_ofAll {sort : Batch} {items : List α} {id : Uuid} :
    id ∈ sort.column (ofAll items) ↔ ∃ item ∈ items, id ∈ sort.column (Hydratable.keys item) :=
  sort.isColumn.mem_ofAll

theorem increasing_column_ofAll (sort : Batch) (items : List α) :
    (sort.column (ofAll items)).Pairwise (·.toNat < ·.toNat) := by
  rw [ofAll, sort.isColumn.normalize]
  exact pairwise_keySet _

/-- Increasing lists with the same members are the same. -/
theorem eq_of_increasing {ids ids' : List Uuid} (h : ids.Pairwise (·.toNat < ·.toNat))
    (h' : ids'.Pairwise (·.toNat < ·.toNat)) (hmem : ∀ id, id ∈ ids ↔ id ∈ ids') : ids = ids' := by
  have hnodup : ∀ {l : List Uuid}, l.Pairwise (·.toNat < ·.toNat) → l.Nodup := by
    intro l hl
    refine hl.imp ?_
    rintro id _ hlt rfl
    exact Nat.lt_irrefl _ hlt
  have hperm : ids.Perm ids' := (List.perm_ext_iff_of_nodup (hnodup h) (hnodup h')).mpr hmem
  exact hperm.eq_of_pairwise (fun a b _ _ hab hba => absurd hba (Nat.lt_asymm hab)) h h'

theorem ofAll_eq_of_perm {items items' : List α} (h : items.Perm items') :
    ofAll items = ofAll items' := by
  refine eq_of_columns fun sort => ?_
  refine eq_of_increasing (increasing_column_ofAll sort items)
    (increasing_column_ofAll sort items') fun id => ?_
  simp only [mem_column_ofAll, h.mem_iff]

end RelationKeys

/-! ## Indexes that agree -/

/-- Under each of the keys, both indexes have the same row, or none. -/
structure Related.AgreesOn (r s : Related) (keys : RelationKeys) : Prop where
  users : ∀ id ∈ keys.users, r.user? id = s.user? id
  schools : ∀ id ∈ keys.schools, r.school? id = s.school? id
  organizations : ∀ id ∈ keys.organizations, r.organization? id = s.organization? id
  groups : ∀ id ∈ keys.groups, r.group? id = s.group? id
  grades : ∀ id ∈ keys.grades, r.grade? id = s.grade? id
  teachers : ∀ id ∈ keys.teachers, r.teacher? id = s.teacher? id
  students : ∀ id ∈ keys.students, r.student? id = s.student? id

theorem Related.AgreesOn.item {α : Type} [Hydratable α] {r s : Related} {items : List α}
    {item : α} (h : r.AgreesOn s (RelationKeys.ofAll items)) (hitem : item ∈ items) :
    r.AgreesOn s (Hydratable.keys item) := by
  have hmem : ∀ (sort : Batch) id, id ∈ sort.column (Hydratable.keys item) →
      id ∈ sort.column (RelationKeys.ofAll items) :=
    fun sort id hid => RelationKeys.mem_column_ofAll.mpr ⟨item, hitem, hid⟩
  exact
    { users := fun id hid => h.users id (hmem .users id hid)
      schools := fun id hid => h.schools id (hmem .schools id hid)
      organizations := fun id hid => h.organizations id (hmem .organizations id hid)
      groups := fun id hid => h.groups id (hmem .groups id hid)
      grades := fun id hid => h.grades id (hmem .grades id hid)
      teachers := fun id hid => h.teachers id (hmem .teachers id hid)
      students := fun id hid => h.students id (hmem .students id hid) }

/-! ## One value -/

/-- A sort of values whose keys are in step with its relations: a value is rebuilt from what its
keys find, and the columns, among them the keys, stay as they are. -/
structure RebuiltByKeys (α : Type) [Hydratable α] {ρ : Type} (columns : α → ρ) : Prop where
  congr : ∀ {r s : Related} {item : α}, r.AgreesOn s (Hydratable.keys item) →
    Hydratable.hydrate r item = Hydratable.hydrate s item
  again : ∀ (r s : Related) (item : α),
    Hydratable.hydrate r (Hydratable.hydrate s item) = Hydratable.hydrate r item
  keys : ∀ (r : Related) (item : α), Hydratable.keys (Hydratable.hydrate r item) =
    Hydratable.keys item
  columns : ∀ (r : Related) (item : α), columns (Hydratable.hydrate r item) = columns item

/-- The school as it is stored. -/
def SchoolShort.bare (s : SchoolShort) : SchoolShort :=
  { s with organization := none }

/-- The group as it is stored. -/
def GroupShort.bare (g : GroupShort) : GroupShort :=
  { g with grade := none, classTeacher := none }

theorem rebuilt_school : RebuiltByKeys SchoolShort SchoolShort.bare where
  congr {r s school} h := by
    simp only [Hydratable.hydrate]
    rw [h.organizations school.organizationId (List.mem_singleton_self _)]
  again _ _ _ := rfl
  keys _ _ := rfl
  columns _ _ := rfl

theorem rebuilt_group : RebuiltByKeys GroupShort GroupShort.bare where
  congr {r s group} h := by
    simp only [Hydratable.hydrate]
    rw [h.grades group.gradeId (List.mem_singleton_self _), bind_congr_of_mem h.teachers]
  again _ _ _ := rfl
  keys _ _ := rfl
  columns _ _ := rfl

theorem rebuilt_grant : RebuiltByKeys RoleGrant RoleGrant.toRoleGrantRow where
  congr {r s grant} h := by
    simp only [Hydratable.hydrate]
    rw [bind_congr_of_mem h.schools, bind_congr_of_mem h.organizations,
      bind_congr_of_mem h.groups]
  again _ _ _ := rfl
  keys _ _ := rfl
  columns _ _ := rfl

theorem rebuilt_link : RebuiltByKeys GuardianLink GuardianLink.toGuardianRow where
  congr {r s link} h := by
    simp only [Hydratable.hydrate]
    rw [h.users link.userId (List.mem_singleton_self _),
      h.students link.studentId (List.mem_singleton_self _)]
  again _ _ _ := rfl
  keys _ _ := rfl
  columns _ _ := rfl

/-- What is looked up for a profile depends on its kind. -/
theorem rebuilt_profile : RebuiltByKeys Profile Profile.toProfileRow where
  congr {r s profile} h := by
    simp only [Hydratable.keys] at h
    simp only [Hydratable.hydrate]
    cases hkind : profile.kind.role.scopeKind with
    | school =>
      rw [hkind] at h
      simp only
      rw [h.users profile.userId (List.mem_singleton_self _),
        h.schools profile.scopeId (List.mem_singleton_self _), bind_congr_of_mem h.groups]
    | organization =>
      rw [hkind] at h
      simp only
      rw [h.users profile.userId (List.mem_singleton_self _),
        h.organizations profile.scopeId (List.mem_singleton_self _)]
  again r s profile := by
    simp only [Hydratable.hydrate]
    cases hkind : profile.kind.role.scopeKind <;> simp only [hkind]
  keys r profile := by
    simp only [Hydratable.hydrate, Hydratable.keys]
    cases hkind : profile.kind.role.scopeKind <;> simp only [hkind]
  columns := toProfileRow_hydrate

/-! ## Many values -/

/-- Lists of values are rebuilt from what their keys find.  The keys are the union of those of
the values, without repetition and in one order; they and all columns but the relations stay as
they are. -/
structure HydratesByKeys (α : Type) [Hydratable α] {ρ : Type} (columns : α → ρ) : Prop where
  congr : ∀ (items : List α) (r s : Related), r.AgreesOn s (RelationKeys.ofAll items) →
    hydrateAll r items = hydrateAll s items
  again : ∀ (items : List α) (r : Related),
    hydrateAll r (hydrateAll r items) = hydrateAll r items
  keys : ∀ (items : List α) (r : Related),
    RelationKeys.ofAll (hydrateAll r items) = RelationKeys.ofAll items
  order : ∀ items items' : List α, items.Perm items' →
    RelationKeys.ofAll items = RelationKeys.ofAll items'
  union : ∀ (items : List α) (sort : Batch),
    (sort.column (RelationKeys.ofAll items)).Pairwise (·.toNat < ·.toNat) ∧
      ∀ id, id ∈ sort.column (RelationKeys.ofAll items) ↔
        ∃ item ∈ items, id ∈ sort.column (Hydratable.keys item)
  columns : ∀ (items : List α) (r : Related),
    (hydrateAll r items).map columns = items.map columns

theorem RebuiltByKeys.lists {α ρ : Type} [Hydratable α] {columns : α → ρ}
    (h : RebuiltByKeys α columns) : HydratesByKeys α columns where
  congr items r s hagree := List.map_congr_left fun item hitem => h.congr (hagree.item hitem)
  again items r := by
    unfold hydrateAll
    rw [List.map_map]
    exact List.map_congr_left fun item _ => h.again r r item
  keys items r := by
    unfold RelationKeys.ofAll hydrateAll
    rw [List.foldr_map]
    simp only [h.keys]
  order _ _ := RelationKeys.ofAll_eq_of_perm
  union items sort :=
    ⟨RelationKeys.increasing_column_ofAll sort items, fun _ => RelationKeys.mem_column_ofAll⟩
  columns items r := by
    unfold hydrateAll
    rw [List.map_map]
    exact List.map_congr_left fun item _ => h.columns r item

/-- Profiles, guardian links, role grants, schools and groups are all rebuilt from what their keys
find, and keep their keys and their columns. -/
theorem hydration_local :
    HydratesByKeys Profile Profile.toProfileRow ∧
      HydratesByKeys GuardianLink GuardianLink.toGuardianRow ∧
      HydratesByKeys RoleGrant RoleGrant.toRoleGrantRow ∧
      HydratesByKeys SchoolShort SchoolShort.bare ∧ HydratesByKeys GroupShort GroupShort.bare :=
  ⟨rebuilt_profile.lists, rebuilt_link.lists, rebuilt_grant.lists, rebuilt_school.lists,
    rebuilt_group.lists⟩

end Registrar
