import Registrar.Proofs.Uniqueness

/-!
# The rows of all tables

Rows of all sorts are values of one type here.  Whether a row passes its check depends on what
rows are there and not on their order: all that it refers to must be among them, and none of
them may clash with it (`Row.check_eq_ok_iff`).  Therefore two lists of rows that are admitted
one after the other are admitted the other way round, unless the second list refers to the
first (`Tables.admitsAll_swap`).
-/

namespace Registrar

def Reference.id : Reference → Uuid
  | .organization id | .school id | .grade id | .group id | .user id | .grant id => id
  | .profile _ id => id

inductive Row where
  | organization (row : Organization)
  | school (row : School)
  | grade (row : Grade)
  | group (row : Group)
  | user (row : User)
  | grant (row : RoleGrantRow)
  | profile (row : ProfileRow)
  | guardian (row : GuardianRow)

namespace Row

def id : Row → Uuid
  | organization row => row.id
  | school row => row.id
  | grade row => row.id
  | group row => row.id
  | user row => row.id
  | grant row => row.id
  | profile row => row.id
  | guardian row => row.id

/-- How others refer to the row; nothing refers to guardian links. -/
def name? : Row → Option Reference
  | organization row => some (.organization row.id)
  | school row => some (.school row.id)
  | grade row => some (.grade row.id)
  | group row => some (.group row.id)
  | user row => some (.user row.id)
  | grant row => some (.grant row.id)
  | profile row => some (.profile row.kind row.id)
  | guardian _ => none

/-- What is looked for when the row is inserted. -/
def references : Row → List Reference
  | organization _ | user _ => []
  | school row => row.references
  | grade row => row.references
  | group row => row.references
  | grant row => row.references
  | profile row => row.anchors
  | guardian row => row.references

/-- The rows share a key that may not repeat. -/
def Clashes : Row → Row → Prop
  | grade a, grade b => a.schoolId = b.schoolId ∧ a.level = b.level
  | user a, user b => a.email = b.email
  | grant a, grant b =>
    a.role ≠ .guardian ∧ a.scope.key.isSome ∧
      a.userId = b.userId ∧ a.role = b.role ∧ a.scope.key = b.scope.key
  | profile a, profile b =>
    a.kind = b.kind ∧
      (a.phone.isSome ∧ a.phone = b.phone ∨ a.email.isSome ∧ a.email = b.email)
  | guardian a, guardian b => a.userId = b.userId ∧ a.studentId = b.studentId
  | _, _ => False

def addTo (t : Tables) : Row → Tables
  | organization row => t.addOrganization row
  | school row => t.addSchool row
  | grade row => t.addGrade row
  | group row => t.addGroup row
  | user row => t.addUser row
  | grant row => t.addGrant row
  | profile row => t.addProfile row
  | guardian row => t.addGuardian row

/-- The check of the store in memory. -/
def check (order : RowOrder) (t : Tables) : Row → Result Unit
  | organization _ => .ok ()
  | school row => Memory.checkSchool t row
  | grade row => Memory.checkGrade t row
  | group row => Memory.checkGroup t row
  | user row => Memory.checkUser t row
  | grant row => Memory.checkGrant t row
  | profile row => Memory.checkProfile order t row
  | guardian row => Memory.checkGuardian t row

theorem id_of_name? {row : Row} {r : Reference} (h : row.name? = some r) : row.id = r.id := by
  cases row <;> cases h <;> rfl

theorem Clashes.symm {a b : Row} (h : a.Clashes b) : b.Clashes a := by
  cases a <;> cases b <;> try exact h.elim
  case grade.grade => exact ⟨h.1.symm, h.2.symm⟩
  case user.user => exact Eq.symm h
  case guardian.guardian => exact ⟨h.1.symm, h.2.symm⟩
  case grant.grant a b =>
    obtain ⟨hrole, hkey, huser, hsame, hscope⟩ := h
    exact ⟨hsame ▸ hrole, hscope ▸ hkey, huser.symm, hsame.symm, hscope.symm⟩
  case profile.profile a b =>
    obtain ⟨hkind, ⟨hphone, hsame⟩ | ⟨hemail, hsame⟩⟩ := h
    · exact ⟨hkind.symm, .inl ⟨hsame ▸ hphone, hsame.symm⟩⟩
    · exact ⟨hkind.symm, .inr ⟨hsame ▸ hemail, hsame.symm⟩⟩

end Row

namespace Tables

variable {t t' : Tables}

def rows (t : Tables) : List Row :=
  t.organizations.map .organization ++ t.schools.map .school ++ t.grades.map .grade ++
    t.groups.map .group ++ t.users.map .user ++ t.grants.map .grant ++
    t.profiles.map .profile ++ t.guardians.map .guardian

theorem ids_eq_map_rows (t : Tables) : t.ids = t.rows.map Row.id := by
  simp [ids, rows, Function.comp_def, Row.id]

/-- A row is in the table of its sort. -/
theorem mem_rows {row : Row} : row ∈ t.rows ↔
    match row with
    | .organization row => row ∈ t.organizations
    | .school row => row ∈ t.schools
    | .grade row => row ∈ t.grades
    | .group row => row ∈ t.groups
    | .user row => row ∈ t.users
    | .grant row => row ∈ t.grants
    | .profile row => row ∈ t.profiles
    | .guardian row => row ∈ t.guardians := by
  cases row <;> simp [rows]

theorem mem_rows_addTo {row other : Row} :
    other ∈ (row.addTo t).rows ↔ other = row ∨ other ∈ t.rows := by
  rw [mem_rows, mem_rows]
  cases row <;> cases other <;>
    simp [Row.addTo, addOrganization, addSchool, addGrade, addGroup, addUser, addGrant,
      addProfile, addGuardian, or_comm]

theorem ids_addTo (row : Row) : (row.addTo t).ids.Perm (row.id :: t.ids) := by
  cases row with
  | organization row => exact t.ids_addOrganization row
  | school row => exact t.ids_addSchool row
  | grade row => exact t.ids_addGrade row
  | group row => exact t.ids_addGroup row
  | user row => exact t.ids_addUser row
  | grant row => exact t.ids_addGrant row
  | profile row => exact t.ids_addProfile row
  | guardian row => exact t.ids_addGuardian row

theorem knows_iff {r : Reference} : t.knows r ↔ ∃ row ∈ t.rows, row.name? = some r := by
  cases r <;>
    simp [knows, rows, Row.name?, organization?, school?, grade?, group?, user?, grant?, profile?,
      profilesOf, List.find?_isSome, or_and_right, exists_or]

theorem knows_addTo {row : Row} {r : Reference} :
    (row.addTo t).knows r ↔ row.name? = some r ∨ t.knows r := by
  simp only [knows_iff, mem_rows_addTo, or_and_right, exists_or, exists_eq_left]

theorem forall_rows {holds : Row → Prop} : (∀ row ∈ t.rows, holds row) ↔
    (∀ row ∈ t.organizations, holds (.organization row)) ∧
    (∀ row ∈ t.schools, holds (.school row)) ∧ (∀ row ∈ t.grades, holds (.grade row)) ∧
    (∀ row ∈ t.groups, holds (.group row)) ∧ (∀ row ∈ t.users, holds (.user row)) ∧
    (∀ row ∈ t.grants, holds (.grant row)) ∧ (∀ row ∈ t.profiles, holds (.profile row)) ∧
    ∀ row ∈ t.guardians, holds (.guardian row) := by
  simp only [rows, List.forall_mem_append, List.forall_mem_map, and_assoc]

theorem grantTaken_eq_false_iff_clashes {row : RoleGrantRow} : t.grantTaken row = false ↔
    ∀ other ∈ t.grants, ¬(Row.grant other).Clashes (.grant row) := by
  rw [grantTaken_eq_false_iff]
  constructor
  · rintro hfree other hother ⟨hrole, hkey, huser, hsame, hscope⟩
    exact hfree (hsame ▸ hrole) (hscope ▸ hkey) other hother ⟨huser, hsame, hscope⟩
  · rintro hfree hrole hkey other hother ⟨huser, hsame, hscope⟩
    exact hfree other hother ⟨hsame ▸ hrole, hscope ▸ hkey, huser, hsame, hscope⟩

theorem checkContacts_eq_ok_iff_clashes {entity : String} {row : ProfileRow} :
    Memory.checkContacts entity row (t.profilesOf row.kind) = .ok () ↔
      ∀ other ∈ t.profiles, ¬(Row.profile other).Clashes (.profile row) := by
  rw [Memory.checkContacts_eq_ok_iff]
  simp only [Memory.contactTaken?_eq_none_iff, profilesOf, List.mem_filter, beq_iff_eq]
  constructor
  · rintro hfree other hother ⟨hkind, ⟨hphone, hsame⟩ | ⟨hemail, hsame⟩⟩
    · exact (hfree other ⟨hother, hkind⟩).1 (hsame ▸ hphone) hsame
    · exact (hfree other ⟨hother, hkind⟩).2 (hsame ▸ hemail) hsame
  · rintro hfree other ⟨hother, hkind⟩
    constructor
    · intro hphone hsame
      exact hfree other hother ⟨hkind, .inl ⟨hsame ▸ hphone, hsame⟩⟩
    · intro hemail hsame
      exact hfree other hother ⟨hkind, .inr ⟨hsame ▸ hemail, hsame⟩⟩

end Tables

/-- What the row refers to is there, and no row clashes with it. -/
def Tables.Admits (t : Tables) (row : Row) : Prop :=
  (∀ r ∈ row.references, t.knows r) ∧ ∀ other ∈ t.rows, ¬other.Clashes row

open Memory in
/-- In whatever order the rows are yielded, the rows that are admitted pass their check. -/
theorem Row.check_eq_ok_iff {order : RowOrder} {t : Tables} {row : Row} :
    row.check order t = .ok () ↔ t.Admits row := by
  rw [Tables.Admits, Tables.forall_rows]
  cases row with
  | organization row => simp [check, references, Clashes]
  | school row =>
    simp [check, references, Clashes, checkSchool_eq_ok_iff, School.references, Tables.knows]
  | grade row =>
    simp [check, references, Clashes, checkGrade_eq_ok_iff, Grade.references, Tables.knows]
  | group row =>
    simp [check, references, Clashes, checkGroup_eq_ok_iff, Group.references, Tables.knows]
  | user row =>
    simp [check, references, Clashes, checkUser_eq_ok_iff]
  | grant row =>
    have hclashes : t.grantTaken row = false ↔
        ∀ other ∈ t.grants, ¬(Row.grant other).Clashes (.grant row) :=
      Tables.grantTaken_eq_false_iff_clashes
    have hreferences : (∀ r ∈ row.references, t.knows r) ↔
        (t.user? row.userId).isSome ∧
          (∀ id, row.scope.schoolId = some id → (t.school? id).isSome) ∧
          (∀ id, row.scope.organizationId = some id → (t.organization? id).isSome) ∧
          ∀ id, row.scope.groupId = some id → (t.group? id).isSome := by
      simp only [RoleGrantRow.references, List.forall_mem_cons, List.forall_mem_append,
        List.forall_mem_map, Option.mem_toList, Tables.knows, and_assoc]
    simp only [check, checkGrant_eq_ok_iff, references, hreferences, hclashes]
    simp [Clashes, and_assoc]
  | profile row =>
    have hscope : t.knows (row.kind.scopeReference row.scopeId) =
        t.scopeExists row.kind row.scopeId := Tables.knows_scopeReference
    simp only [check, checkProfile_eq_ok_iff, references,
      Tables.checkContacts_eq_ok_iff_clashes, ← hscope]
    simp [Clashes, ProfileRow.anchors, Tables.knows, and_assoc]
  | guardian row =>
    simp [check, references, Clashes, checkGuardian_eq_ok_iff, GuardianRow.references,
      Tables.knows, and_assoc]

/-! ## Several rows -/

namespace Tables

variable {t t' : Tables} {rows first second : List Row}

def addAll (t : Tables) (rows : List Row) : Tables :=
  rows.foldl (fun t row => row.addTo t) t

/-- Every row is admitted when its turn comes. -/
def AdmitsAll (t : Tables) : List Row → Prop
  | [] => True
  | row :: rest => t.Admits row ∧ (row.addTo t).AdmitsAll rest

theorem mem_rows_addAll {other : Row} :
    other ∈ (t.addAll rows).rows ↔ other ∈ rows ∨ other ∈ t.rows := by
  induction rows generalizing t with
  | nil => simp [addAll]
  | cons row rest ih =>
    have hrest : other ∈ (t.addAll (row :: rest)).rows ↔
        other ∈ rest ∨ other ∈ (row.addTo t).rows := ih
    rw [hrest, mem_rows_addTo, List.mem_cons, or_left_comm, or_assoc]

theorem ids_addAll (t : Tables) (rows : List Row) :
    (t.addAll rows).ids.Perm (rows.map Row.id ++ t.ids) := by
  induction rows generalizing t with
  | nil => exact .refl _
  | cons row rest ih =>
    have hrest : (t.addAll (row :: rest)).ids.Perm (rest.map Row.id ++ (row.addTo t).ids) := ih _
    exact hrest.trans (((ids_addTo row).append_left _).trans List.perm_middle)

theorem Distinct.addAll (h : (t.addAll rows).Distinct) :
    t.Distinct ∧ ∀ row ∈ rows, row.id ∉ t.ids := by
  have hnodup := (t.ids_addAll rows).nodup_iff.mp h
  obtain ⟨_, hold, hapart⟩ := List.nodup_append.mp hnodup
  exact ⟨hold, fun row hrow hid => hapart _ (List.mem_map_of_mem hrow) _ hid rfl⟩

/-- None of the admitted rows clashes with a row that was there before. -/
theorem AdmitsAll.apart (h : t.AdmitsAll rows) {row other : Row} (hrow : row ∈ rows)
    (hother : other ∈ t.rows) : ¬other.Clashes row := by
  induction rows generalizing t with
  | nil => cases hrow
  | cons head rest ih =>
    rcases List.mem_cons.mp hrow with rfl | hrest
    · exact h.1.2 other hother
    · exact ih h.2 hrest (mem_rows_addTo.mpr (.inr hother))

/-- The rows are admitted also where there are more rows, if none of these clashes. -/
theorem AdmitsAll.more (h : t.AdmitsAll rows) (hsub : ∀ row ∈ t.rows, row ∈ t'.rows)
    (hapart : ∀ row ∈ rows, ∀ other ∈ t'.rows, other ∈ t.rows ∨ ¬other.Clashes row) :
    t'.AdmitsAll rows := by
  induction rows generalizing t t' with
  | nil => trivial
  | cons row rest ih =>
    obtain ⟨⟨hknown, hfree⟩, hadmits⟩ := h
    refine ⟨⟨fun r hr => ?_, fun other hother => ?_⟩, ih hadmits ?_ ?_⟩
    · obtain ⟨named, hnamed, hname⟩ := knows_iff.mp (hknown r hr)
      exact knows_iff.mpr ⟨named, hsub named hnamed, hname⟩
    · rcases hapart row List.mem_cons_self other hother with hold | hclash
      · exact hfree other hold
      · exact hclash
    · intro other hother
      exact mem_rows_addTo.mpr ((mem_rows_addTo.mp hother).imp_right (hsub other))
    · intro later hlater other hother
      rcases mem_rows_addTo.mp hother with hsame | hold
      · exact .inl (mem_rows_addTo.mpr (.inl hsame))
      · have hold := hapart later (List.mem_cons_of_mem _ hlater) other hold
        exact hold.imp_left fun hmem => mem_rows_addTo.mpr (.inr hmem)

/-- The rows are admitted also where there are fewer rows, if they refer to none that is
missing. -/
theorem AdmitsAll.fewer (h : t'.AdmitsAll rows) (hsub : ∀ row ∈ t.rows, row ∈ t'.rows)
    (hknown : ∀ row ∈ rows, ∀ r ∈ row.references, t'.knows r → t.knows r) :
    t.AdmitsAll rows := by
  induction rows generalizing t t' with
  | nil => trivial
  | cons row rest ih =>
    obtain ⟨⟨hreferences, hfree⟩, hadmits⟩ := h
    refine ⟨⟨fun r hr => ?_, fun other hother => ?_⟩, ih hadmits ?_ ?_⟩
    · exact hknown row List.mem_cons_self r hr (hreferences r hr)
    · exact hfree other (hsub other hother)
    · intro other hother
      exact mem_rows_addTo.mpr ((mem_rows_addTo.mp hother).imp_right (hsub other))
    · intro later hlater r hr hthere
      rw [knows_addTo] at hthere ⊢
      exact hthere.imp_right (hknown later (List.mem_cons_of_mem _ hlater) r hr)

/-- Rows that do not refer to those before them are admitted in either order. -/
theorem admitsAll_swap (hfirst : t.AdmitsAll first) (hsecond : (t.addAll first).AdmitsAll second)
    (hknown : ∀ row ∈ second, ∀ r ∈ row.references, (t.addAll first).knows r → t.knows r) :
    t.AdmitsAll second ∧ (t.addAll second).AdmitsAll first := by
  have hgrows : ∀ {rows : List Row}, ∀ row ∈ t.rows, row ∈ (t.addAll rows).rows :=
    fun row hrow => mem_rows_addAll.mpr (.inr hrow)
  refine ⟨hsecond.fewer hgrows hknown, hfirst.more hgrows fun row hrow other hother => ?_⟩
  rcases mem_rows_addAll.mp hother with hnew | hold
  · have hthere : row ∈ (t.addAll first).rows := mem_rows_addAll.mpr (.inl hrow)
    exact .inr fun hclash => hsecond.apart hnew hthere hclash.symm
  · exact .inl hold

/-- If no two rows have the same identifier, a row that is referred to is the one that has the
identifier. -/
theorem Distinct.knows_of_mem_ids (h : t'.Distinct) (hsub : ∀ row ∈ t.rows, row ∈ t'.rows)
    {r : Reference} (hr : t'.knows r) (hid : r.id ∈ t.ids) : t.knows r := by
  have hnodup : (t'.rows.map Row.id).Nodup := t'.ids_eq_map_rows ▸ h
  rw [ids_eq_map_rows] at hid
  obtain ⟨row, hrow, hrowId⟩ := List.mem_map.mp hid
  obtain ⟨named, hnamed, hname⟩ := knows_iff.mp hr
  have hids : row.id = named.id := hrowId.trans (Row.id_of_name? hname).symm
  have hsame : row = named := List.inj_on_of_nodup_map hnodup (hsub row hrow) hnamed hids
  exact knows_iff.mpr ⟨row, hrow, hsame ▸ hname⟩

end Tables

end Registrar
