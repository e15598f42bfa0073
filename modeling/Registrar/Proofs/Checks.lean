import Registrar.Store.Memory

/-!
# What the checks of rows say

A row passes its check if what it refers to is there and nothing collides with
it.  A row that does not pass is refused for what the caller wrote, never for a
failure of the store.
-/

namespace Registrar

namespace Memory

/-! ## Rows that pass -/

theorem bind_eq_ok_iff {first : Result Unit} {second : Unit → Result Unit} :
    (first >>= second) = .ok () ↔ first = .ok () ∧ second () = .ok () := by
  cases first with
  | ok u => exact ⟨fun h => ⟨rfl, h⟩, fun h => h.2⟩
  | error e =>
    constructor
    · intro h
      cases h
    · rintro ⟨h, _⟩
      cases h

@[simp] theorem refer_eq_ok_iff {entity field : String} {value : Uuid} {known : Bool} :
    refer entity field value known = .ok () ↔ known = true := by
  cases known <;> simp [refer]

@[simp] theorem referOptional_eq_ok_iff {entity field : String} {value : Option Uuid}
    {known : Uuid → Bool} :
    referOptional entity field value known = .ok () ↔
      ∀ id, value = some id → known id = true := by
  cases value <;> simp [referOptional]

@[simp] theorem refuseIf_eq_ok_iff {taken : Bool} {cause : AppError} :
    refuseIf taken cause = .ok () ↔ taken = false := by
  cases taken <;> simp [refuseIf]

theorem checkSchool_eq_ok_iff {t : Tables} {row : School} :
    checkSchool t row = .ok () ↔ (t.organization? row.organizationId).isSome :=
  refer_eq_ok_iff

theorem checkGrade_eq_ok_iff {t : Tables} {row : Grade} :
    checkGrade t row = .ok () ↔
      (t.school? row.schoolId).isSome ∧
        ∀ other ∈ t.grades, ¬(other.schoolId = row.schoolId ∧ other.level = row.level) := by
  unfold checkGrade
  rw [bind_eq_ok_iff, refer_eq_ok_iff, refuseIf_eq_ok_iff, List.any_eq_false]
  simp only [Bool.and_eq_true, beq_iff_eq]

theorem checkGroup_eq_ok_iff {t : Tables} {row : Group} :
    checkGroup t row = .ok () ↔
      (t.school? row.schoolId).isSome ∧ (t.grade? row.gradeId).isSome ∧
        ∀ id, row.classTeacherId = some id → (t.profile? .teacher id).isSome := by
  unfold checkGroup
  rw [bind_eq_ok_iff, bind_eq_ok_iff]
  simp only [refer_eq_ok_iff, referOptional_eq_ok_iff]

theorem checkUser_eq_ok_iff {t : Tables} {row : User} :
    checkUser t row = .ok () ↔ ∀ other ∈ t.users, other.email ≠ row.email := by
  unfold checkUser
  rw [refuseIf_eq_ok_iff, List.any_eq_false]
  simp only [beq_iff_eq, ne_eq]

theorem checkGrant_eq_ok_iff {t : Tables} {row : RoleGrantRow} :
    checkGrant t row = .ok () ↔
      (t.user? row.userId).isSome ∧
        (∀ id, row.scope.schoolId = some id → (t.school? id).isSome) ∧
        (∀ id, row.scope.organizationId = some id → (t.organization? id).isSome) ∧
        (∀ id, row.scope.groupId = some id → (t.group? id).isSome) ∧
        t.grantTaken row = false := by
  unfold checkGrant
  rw [bind_eq_ok_iff, bind_eq_ok_iff, bind_eq_ok_iff, bind_eq_ok_iff]
  simp only [refer_eq_ok_iff, referOptional_eq_ok_iff, refuseIf_eq_ok_iff]

theorem checkGrant_eq_refuseIf {t : Tables} {row : RoleGrantRow}
    (huser : (t.user? row.userId).isSome)
    (hschool : ∀ id, row.scope.schoolId = some id → (t.school? id).isSome)
    (horganization : ∀ id, row.scope.organizationId = some id → (t.organization? id).isSome)
    (hgroup : ∀ id, row.scope.groupId = some id → (t.group? id).isSome) :
    checkGrant t row =
      refuseIf (t.grantTaken row) (.roleAlreadyAssigned row.userId row.role row.scope.key) := by
  unfold checkGrant
  rw [refer_eq_ok_iff.mpr huser, referOptional_eq_ok_iff.mpr hschool,
    referOptional_eq_ok_iff.mpr horganization, referOptional_eq_ok_iff.mpr hgroup]
  rfl

theorem checkContacts_eq_ok_iff {entity : String} {row : ProfileRow}
    {others : List ProfileRow} :
    checkContacts entity row others = .ok () ↔
      ∀ other ∈ others, contactTaken? entity row other = none := by
  induction others with
  | nil => simp [checkContacts]
  | cons other rest ih =>
    unfold checkContacts
    cases hother : contactTaken? entity row other with
    | none => simp [ih, hother]
    | some e => simp [hother]

theorem contactTaken?_eq_none_iff {entity : String} {row other : ProfileRow} :
    contactTaken? entity row other = none ↔
      (row.phone.isSome → other.phone ≠ row.phone) ∧
        (row.email.isSome → other.email ≠ row.email) := by
  unfold contactTaken?
  by_cases hphone : (row.phone.isSome && other.phone == row.phone) = true
  · rw [if_pos hphone]
    simp only [Bool.and_eq_true, beq_iff_eq] at hphone
    simp [hphone.1, hphone.2]
  · rw [if_neg hphone]
    simp only [Bool.and_eq_true, beq_iff_eq, not_and] at hphone
    by_cases hemail : (row.email.isSome && other.email == row.email) = true
    · rw [if_pos hemail]
      simp only [Bool.and_eq_true, beq_iff_eq] at hemail
      simp [hemail.1, hemail.2]
    · rw [if_neg hemail]
      simp only [Bool.and_eq_true, beq_iff_eq, not_and] at hemail
      exact ⟨fun _ => ⟨hphone, hemail⟩, fun _ => rfl⟩

/-- In every order the same profiles are accepted. -/
theorem checkContacts_arrange_eq_ok_iff {order : RowOrder} {entity : String} {row : ProfileRow}
    {others : List ProfileRow} :
    checkContacts entity row (order.arrange others) = .ok () ↔
      checkContacts entity row others = .ok () := by
  simp only [checkContacts_eq_ok_iff, RowOrder.mem_arrange]

theorem checkProfile_eq_ok_iff {order : RowOrder} {t : Tables} {row : ProfileRow} :
    checkProfile order t row = .ok () ↔
      (t.grant? row.roleId).isSome ∧ (t.user? row.userId).isSome ∧
        t.scopeExists row.kind row.scopeId ∧
        checkContacts row.kind.entity row (t.profilesOf row.kind) = .ok () := by
  unfold checkProfile
  rw [bind_eq_ok_iff, bind_eq_ok_iff, bind_eq_ok_iff]
  simp only [refer_eq_ok_iff, checkContacts_arrange_eq_ok_iff]

theorem checkGuardian_eq_ok_iff {t : Tables} {row : GuardianRow} :
    checkGuardian t row = .ok () ↔
      (t.grant? row.roleId).isSome ∧ (t.user? row.userId).isSome ∧
        (t.profile? .student row.studentId).isSome ∧
        ∀ other ∈ t.guardians,
          ¬(other.userId = row.userId ∧ other.studentId = row.studentId) := by
  unfold checkGuardian
  rw [bind_eq_ok_iff, bind_eq_ok_iff, bind_eq_ok_iff, refuseIf_eq_ok_iff, List.any_eq_false]
  simp only [refer_eq_ok_iff, Bool.and_eq_true, beq_iff_eq]

/-! ## Rows that are refused -/

theorem bind_refer_eq_error {entity field : String} {value : Uuid} {known : Bool}
    {next : Unit → Result Unit} {e : AppError}
    (h : (refer entity field value known >>= next) = .error e) :
    (known = false ∧ e = invalidReference entity field value) ∨
      (known = true ∧ next () = .error e) := by
  cases known with
  | false =>
    cases h
    exact .inl ⟨rfl, rfl⟩
  | true => exact .inr ⟨rfl, h⟩

theorem bind_referOptional_eq_error {entity field : String} {value : Option Uuid}
    {known : Uuid → Bool} {next : Unit → Result Unit} {e : AppError}
    (h : (referOptional entity field value known >>= next) = .error e) :
    (∃ id, value = some id ∧ known id = false ∧ e = invalidReference entity field id) ∨
      ((∀ id, value = some id → known id = true) ∧ next () = .error e) := by
  cases value with
  | none => exact .inr ⟨nofun, h⟩
  | some id =>
    rcases bind_refer_eq_error h with ⟨hunknown, he⟩ | ⟨hknown, hnext⟩
    · exact .inl ⟨id, rfl, hunknown, he⟩
    · refine .inr ⟨?_, hnext⟩
      rintro other ⟨⟩
      exact hknown

/-- A check refuses a row for what the caller wrote, never for a failure of the
store. -/
def Refuses (check : Result Unit) : Prop :=
  ∀ e, check = .error e → e.kind ≠ .internal

theorem refuses_ok : Refuses (.ok ()) := by
  intro e he
  cases he

theorem refuses_bind {first : Result Unit} {second : Unit → Result Unit}
    (hfirst : Refuses first) (hsecond : Refuses (second ())) :
    Refuses (first >>= second) := by
  intro e he
  cases first with
  | ok u => exact hsecond e he
  | error cause =>
    cases he
    exact hfirst e rfl

theorem refuses_refer {entity field : String} {value : Uuid} {known : Bool} :
    Refuses (refer entity field value known) := by
  intro e he
  cases known with
  | true => cases he
  | false =>
    cases he
    intro hkind
    cases hkind

theorem refuses_referOptional {entity field : String} {value : Option Uuid}
    {known : Uuid → Bool} : Refuses (referOptional entity field value known) := by
  cases value with
  | none => exact refuses_ok
  | some id => exact refuses_refer

theorem refuses_refuseIf {taken : Bool} {cause : AppError}
    (hcause : cause.kind ≠ .internal) : Refuses (refuseIf taken cause) := by
  intro e he
  cases taken with
  | false => cases he
  | true =>
    cases he
    exact hcause

theorem refuses_checkContacts {entity : String} {row : ProfileRow}
    {others : List ProfileRow} : Refuses (checkContacts entity row others) := by
  induction others with
  | nil => exact refuses_ok
  | cons other rest ih =>
    unfold checkContacts contactTaken?
    intro e he
    split at he
    next cause hcause =>
      cases he
      split at hcause
      · cases hcause
        intro hkind
        cases hkind
      · split at hcause
        · cases hcause
          intro hkind
          cases hkind
        · cases hcause
    next => exact ih e he

theorem refuses_checkGrant {t : Tables} {row : RoleGrantRow} :
    Refuses (checkGrant t row) := by
  apply refuses_bind refuses_refer
  apply refuses_bind refuses_referOptional
  apply refuses_bind refuses_referOptional
  apply refuses_bind refuses_referOptional
  apply refuses_refuseIf
  intro hkind
  cases hkind

theorem refuses_checkProfile {order : RowOrder} {t : Tables} {row : ProfileRow} :
    Refuses (checkProfile order t row) := by
  apply refuses_bind refuses_refer
  apply refuses_bind refuses_refer
  apply refuses_bind refuses_refer
  exact refuses_checkContacts

theorem refuses_checkGuardian {t : Tables} {row : GuardianRow} :
    Refuses (checkGuardian t row) := by
  apply refuses_bind refuses_refer
  apply refuses_bind refuses_refer
  apply refuses_bind refuses_refer
  apply refuses_refuseIf
  intro hkind
  cases hkind

theorem refuses_checkGroup {t : Tables} {row : Group} : Refuses (checkGroup t row) := by
  apply refuses_bind refuses_refer
  apply refuses_bind refuses_refer
  exact refuses_referOptional

theorem refuses_checkGrade {t : Tables} {row : Grade} : Refuses (checkGrade t row) := by
  apply refuses_bind refuses_refer
  apply refuses_refuseIf
  intro hkind
  cases hkind

theorem refuses_checkSchool {t : Tables} {row : School} : Refuses (checkSchool t row) :=
  refuses_refer

theorem refuses_checkUser {t : Tables} {row : User} : Refuses (checkUser t row) := by
  apply refuses_refuseIf
  intro hkind
  cases hkind

end Memory

end Registrar
