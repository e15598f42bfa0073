import Registrar.Proofs.Decoding
import Registrar.Proofs.Identifiers
import Registrar.Proofs.ReadBack

/-!
# Insertion of a profile

A profile rests on a grant, a user and a school or an organization, and shares neither its phone
nor its e-mail address with another of its kind.  The store in memory asks for this much and
names what is missing or taken; the database asks for the group of a student as well
(`profile_insertion`).
-/

namespace Registrar

/-! ## What a profile needs -/

namespace NewProfile

variable (t : Tables) (roleId : Uuid) (new : NewProfile)

/-- The school of the profile, or the organization of an owner, is stored. -/
def ScopeStored : Prop :=
  if new.kind = .owner then ∃ row ∈ t.organizations, row.id = new.scopeId
  else ∃ row ∈ t.schools, row.id = new.scopeId

/-- What the profile refers to is stored. -/
structure Resolved : Prop where
  grant : ∃ row ∈ t.grants, row.id = roleId
  user : ∃ row ∈ t.users, row.id = new.userId
  scope : new.ScopeStored t

structure Admitted : Prop extends new.Resolved t roleId where
  phone : ∀ phone ∈ new.phone, ∀ other ∈ t.profilesOf new.kind, other.phone ≠ some phone
  email : ∀ email ∈ new.email, ∀ other ∈ t.profilesOf new.kind, other.email ≠ some email

/-- The group is stored, if the profile is that of a student in one. -/
def GroupStored : Prop :=
  ∀ id ∈ new.placedIn, ∃ row ∈ t.groups, row.id = id

/-- What a profile is refused for: the first reference to a row that is not stored or, with all
of them stored, a contact that is taken. -/
inductive RefusedFor : AppError → Prop
  | grant (hunknown : ¬∃ row ∈ t.grants, row.id = roleId) :
    RefusedFor (Memory.invalidReference new.kind.entity "role_id" roleId)
  | user (hgrant : ∃ row ∈ t.grants, row.id = roleId)
      (hunknown : ¬∃ row ∈ t.users, row.id = new.userId) :
    RefusedFor (Memory.invalidReference new.kind.entity "user_id" new.userId)
  | scope (hgrant : ∃ row ∈ t.grants, row.id = roleId)
      (huser : ∃ row ∈ t.users, row.id = new.userId) (hunknown : ¬new.ScopeStored t) :
    RefusedFor (Memory.invalidReference new.kind.entity "scope_id" new.scopeId)
  | phone (hresolved : new.Resolved t roleId) (phone : String) (hphone : phone ∈ new.phone)
      (htaken : ∃ other ∈ t.profilesOf new.kind, other.phone = some phone) :
    RefusedFor (.duplicate new.kind.entity "phone" phone)
  | email (hresolved : new.Resolved t roleId) (email : String) (hemail : email ∈ new.email)
      (htaken : ∃ other ∈ t.profilesOf new.kind, other.email = some email) :
    RefusedFor (.duplicate new.kind.entity "email" email)

/-- The contacts fit their columns as they are. -/
structure Fits : Prop where
  phone : ∀ phone ∈ new.phone, '\x00' ∉ phone.toList ∧ phone.toList.length ≤ 32
  email : ∀ email ∈ new.email, '\x00' ∉ email.toList ∧ email.toList.length ≤ 255

end NewProfile

/-! ## Rows by their identifiers -/

namespace Tables

variable {t : Tables} {id : Uuid}

theorem grant?_isSome_iff : (t.grant? id).isSome ↔ ∃ row ∈ t.grants, row.id = id := by
  simp [grant?, List.find?_isSome]

theorem user?_isSome_iff : (t.user? id).isSome ↔ ∃ row ∈ t.users, row.id = id := by
  simp [user?, List.find?_isSome]

theorem group?_isSome_iff : (t.group? id).isSome ↔ ∃ row ∈ t.groups, row.id = id := by
  simp [group?, List.find?_isSome]

theorem scopeExists_iff {new : NewProfile} :
    t.scopeExists new.kind new.scopeId ↔ new.ScopeStored t := by
  unfold scopeExists NewProfile.ScopeStored
  cases new.kind <;>
    simp [ProfileKind.role, Role.scopeKind, school?, organization?, List.find?_isSome]

end Tables

/-! ## The store in memory -/

section Memory

open Memory

variable {order : RowOrder} {t : Tables} {stamp : Stamp} {roleId : Uuid} {new : NewProfile}

theorem isSome_contact_iff {contact : Option String} {others : List ProfileRow}
    {field : ProfileRow → Option String} :
    (∀ other ∈ others, contact.isSome → field other ≠ contact) ↔
      ∀ text ∈ contact, ∀ other ∈ others, field other ≠ some text := by
  cases contact <;> simp

theorem checkProfile_row_eq_ok_iff :
    checkProfile order t (new.row roleId stamp) = .ok () ↔ new.Admitted t roleId := by
  have hcontacts : checkContacts new.kind.entity (new.row roleId stamp) (t.profilesOf new.kind) =
        .ok () ↔
      (∀ phone ∈ new.phone, ∀ other ∈ t.profilesOf new.kind, other.phone ≠ some phone) ∧
        ∀ email ∈ new.email, ∀ other ∈ t.profilesOf new.kind, other.email ≠ some email := by
    rw [checkContacts_eq_ok_iff, ← isSome_contact_iff, ← isSome_contact_iff]
    simp only [contactTaken?_eq_none_iff, NewProfile.row, forall_and]
  have hcheck := @checkProfile_eq_ok_iff order t (new.row roleId stamp)
  simp only [NewProfile.row] at hcheck hcontacts ⊢
  rw [hcheck, hcontacts, Tables.grant?_isSome_iff, Tables.user?_isSome_iff,
    Tables.scopeExists_iff]
  constructor
  · rintro ⟨hgrant, huser, hscope, hphone, hemail⟩
    exact ⟨⟨hgrant, huser, hscope⟩, hphone, hemail⟩
  · intro h
    exact ⟨h.grant, h.user, h.scope, h.phone, h.email⟩

theorem contactTaken?_eq_some {other : ProfileRow} {e : AppError}
    (h : contactTaken? new.kind.entity (new.row roleId stamp) other = some e) :
    (∃ phone ∈ new.phone, other.phone = some phone ∧
        e = .duplicate new.kind.entity "phone" phone) ∨
      ∃ email ∈ new.email, other.email = some email ∧
        e = .duplicate new.kind.entity "email" email := by
  unfold contactTaken? at h
  simp only [NewProfile.row, Bool.and_eq_true, beq_iff_eq] at h
  split at h
  · rename_i hphone
    obtain ⟨phone, hsome⟩ := Option.isSome_iff_exists.mp hphone.1
    rw [hsome] at h
    cases h
    exact .inl ⟨phone, hsome, hphone.2.trans hsome, rfl⟩
  · split at h
    · rename_i hemail
      obtain ⟨email, hsome⟩ := Option.isSome_iff_exists.mp hemail.1
      rw [hsome] at h
      cases h
      exact .inr ⟨email, hsome, hemail.2.trans hsome, rfl⟩
    · cases h

theorem checkContacts_eq_error {entity : String} {row : ProfileRow} {others : List ProfileRow}
    {e : AppError} (h : checkContacts entity row others = .error e) :
    ∃ other ∈ others, contactTaken? entity row other = some e := by
  induction others with
  | nil => cases h
  | cons other rest ih =>
    unfold checkContacts at h
    split at h
    · rename_i cause htaken
      cases h
      exact ⟨other, List.mem_cons_self, htaken⟩
    · obtain ⟨later, hlater, htaken⟩ := ih h
      exact ⟨later, List.mem_cons_of_mem other hlater, htaken⟩

theorem refusedFor_of_checkProfile {e : AppError}
    (h : checkProfile order t (new.row roleId stamp) = .error e) : new.RefusedFor t roleId e := by
  unfold checkProfile at h
  simp only [NewProfile.row] at h
  rcases bind_refer_eq_error h with ⟨hunknown, rfl⟩ | ⟨hgrant, h⟩
  · exact .grant (by simp [← Tables.grant?_isSome_iff, hunknown])
  rw [Tables.grant?_isSome_iff] at hgrant
  rcases bind_refer_eq_error h with ⟨hunknown, rfl⟩ | ⟨huser, h⟩
  · exact .user hgrant (by simp [← Tables.user?_isSome_iff, hunknown])
  rw [Tables.user?_isSome_iff] at huser
  rcases bind_refer_eq_error h with ⟨hunknown, rfl⟩ | ⟨hscope, h⟩
  · exact .scope hgrant huser (by simp [← Tables.scopeExists_iff, hunknown])
  rw [Tables.scopeExists_iff] at hscope
  obtain ⟨other, hyielded, htaken⟩ := checkContacts_eq_error h
  have hother := RowOrder.mem_arrange.mp hyielded
  rcases contactTaken?_eq_some htaken with ⟨phone, hphone, hsame, rfl⟩ | ⟨email, hemail, hsame, rfl⟩
  · exact .phone ⟨hgrant, huser, hscope⟩ phone hphone ⟨other, hother, hsame⟩
  · exact .email ⟨hgrant, huser, hscope⟩ email hemail ⟨other, hother, hsame⟩

theorem createProfile_memory (t : Tables) (stamp : Stamp) (roleId : Uuid) (new : NewProfile) :
    t.serve policy stamp (.createProfile roleId new) =
      match checkProfile stamp.order t (new.row roleId stamp) with
      | .ok () => (.ok (new.row roleId stamp), t.addProfile (new.row roleId stamp))
      | .error e => (.error e, t) :=
  Tables.insertRow_accept t (checkProfile stamp.order) (new.row roleId stamp) t.addProfile

end Memory

/-! ## The database -/

namespace Schema

section

variable {α : Type}

theorem bind_eq_ok_iff {first : Checked Unit} {next : Unit → Checked α} {a : α} :
    (first >>= next) = .ok a ↔ first = .ok () ∧ next () = .ok a := by
  cases first with
  | ok u => exact ⟨fun h => ⟨rfl, h⟩, fun h => h.2⟩
  | error e =>
    constructor
    · intro h
      cases h
    · rintro ⟨h, _⟩
      cases h

end

theorem checkNul_eq_ok_iff {texts : List String} :
    checkNul texts = .ok () ↔ ∀ s ∈ texts, '\x00' ∉ s.toList := by
  unfold checkNul
  split <;> simp_all

theorem fitOptional_of_length_le {width : Nat} {text : Option String}
    (h : ∀ s ∈ text, s.toList.length ≤ width) : fitOptional width text = .ok text := by
  cases text with
  | none => rfl
  | some s =>
    have hlength : s.toList.length ≤ width := h s rfl
    simp [fitOptional, fit, hlength, Except.map]

@[simp] theorem refers_eq_ok_iff {table column : String} {value : Uuid} {target : String}
    {known : Bool} : refers table column value target known = .ok () ↔ known = true := by
  cases known <;> simp [refers]

@[simp] theorem refersOptional_eq_ok_iff {table column : String} {value : Option Uuid}
    {target : String} {known : Uuid → Bool} :
    refersOptional table column value target known = .ok () ↔ ∀ id ∈ value, known id := by
  cases value <;> simp [refersOptional]

theorem uniqueContact_eq_ok_iff {table column : String} {value : Option String}
    {others : List ProfileRow} {field : ProfileRow → Option String} :
    uniqueContact table column value (others.map field) = .ok () ↔
      ∀ text ∈ value, ∀ other ∈ others, field other ≠ some text := by
  cases value with
  | none => simp [uniqueContact]
  | some text => simp [uniqueContact, unique]

variable {t : Tables} {stamp : Stamp} {roleId : Uuid} {new : NewProfile}

/-- Contacts that fit are stored as they are. -/
theorem storeProfile_of_fits (hfits : new.Fits) :
    storeProfile t (new.row roleId stamp) = do
      uniqueContact new.kind.entity "phone" new.phone
        ((t.profilesOf new.kind).map ProfileRow.phone)
      uniqueContact new.kind.entity "email" new.email
        ((t.profilesOf new.kind).map ProfileRow.email)
      refers new.kind.entity "role_id" roleId "user_roles" (t.grant? roleId).isSome
      refers new.kind.entity "user_id" new.userId "users" (t.user? new.userId).isSome
      refers new.kind.entity new.kind.scopeField new.scopeId (scopeTable new.kind)
        (t.scopeExists new.kind new.scopeId)
      refersOptional new.kind.entity "group_id" new.placedIn "groups"
        fun id => (t.group? id).isSome
      return new.row roleId stamp := by
  have hnul : checkNul (new.phone.toList ++ new.email.toList) = .ok () := by
    rw [checkNul_eq_ok_iff]
    intro s hs
    rcases List.mem_append.mp hs with hphone | hemail
    · exact (hfits.phone s (Option.mem_toList.mp hphone)).1
    · exact (hfits.email s (Option.mem_toList.mp hemail)).1
  have hphone := fitOptional_of_length_le fun s hs => (hfits.phone s hs).2
  have hemail := fitOptional_of_length_le fun s hs => (hfits.email s hs).2
  unfold storeProfile
  rw [new.placedIn_row]
  simp only [NewProfile.row, hnul, hphone, hemail]
  rfl

theorem storeProfile_eq_ok_iff (hfits : new.Fits) :
    storeProfile t (new.row roleId stamp) = .ok (new.row roleId stamp) ↔
      new.Admitted t roleId ∧ new.GroupStored t := by
  rw [storeProfile_of_fits hfits]
  simp only [bind_eq_ok_iff, uniqueContact_eq_ok_iff, refers_eq_ok_iff, refersOptional_eq_ok_iff,
    Tables.grant?_isSome_iff, Tables.user?_isSome_iff, Tables.scopeExists_iff,
    Tables.group?_isSome_iff]
  constructor
  · rintro ⟨hphone, hemail, hgrant, huser, hscope, hgroup, -⟩
    exact ⟨⟨⟨hgrant, huser, hscope⟩, hphone, hemail⟩, hgroup⟩
  · rintro ⟨h, hgroup⟩
    exact ⟨h.phone, h.email, h.grant, h.user, h.scope, hgroup, rfl⟩

theorem storeProfile_of_admitted (hfits : new.Fits) (h : new.Admitted t roleId) {group : Uuid}
    (hgroup : group ∈ new.placedIn) (hunknown : ¬∃ row ∈ t.groups, row.id = group) :
    storeProfile t (new.row roleId stamp) =
      .error (referenceViolation "students" "group_id" group "groups") := by
  have hphone : uniqueContact new.kind.entity "phone" new.phone
      ((t.profilesOf new.kind).map ProfileRow.phone) = .ok () :=
    uniqueContact_eq_ok_iff.mpr h.phone
  have hemail : uniqueContact new.kind.entity "email" new.email
      ((t.profilesOf new.kind).map ProfileRow.email) = .ok () :=
    uniqueContact_eq_ok_iff.mpr h.email
  have hplaced : new.placedIn = some group := hgroup
  have hstudent : new.kind = .student := by
    have hrow := (new.placedIn_row roleId stamp).trans hplaced
    exact kind_of_placedIn hrow
  have hmissing : (t.group? group).isSome = false := by
    rw [Bool.eq_false_iff, ne_eq, Tables.group?_isSome_iff]
    exact hunknown
  rw [storeProfile_of_fits hfits, hphone, hemail, hplaced,
    Tables.grant?_isSome_iff.mpr h.grant, Tables.user?_isSome_iff.mpr h.user,
    Tables.scopeExists_iff.mpr h.scope]
  simp only [refersOptional, refers, hmissing, hstudent, ProfileKind.entity]
  rfl

end Schema

/-! ## Errors of the database -/

/-- The error is that of the store in memory. -/
theorem Schema.referenceViolation_decodes (table column : SchemaName) (id : Uuid)
    (target operation : String) :
    (referenceViolation table.text column.text id target).toAppError operation =
      Memory.invalidReference table.text column.text id := by
  have hdangling : referenceViolation table.text column.text id target =
      dangling (.single table column) id.toText target := by
    rw [dangling, ColumnKey.constraint_single, ColumnKey.listed_single]
    rfl
  have hshown := shownValues_eq_self_iff.mpr id.closing_notMem_toText
  rw [hdangling, dangling_decodes, hshown, ColumnKey.listed_single]
  rfl

def groupIdName : SchemaName :=
  ⟨"group_id", by decide, by decide⟩

/-- The store in memory takes a profile exactly if what it needs is there, and names what is
not; the database takes it if the group is there too, and names the group if only that is not. -/
theorem profile_insertion (t : Tables) (stamp : Stamp) (roleId : Uuid) (new : NewProfile) :
    (new.Admitted t roleId →
      t.serve Memory.policy stamp (.createProfile roleId new) =
        (.ok (new.row roleId stamp), t.addProfile (new.row roleId stamp))) ∧
    (¬new.Admitted t roleId →
      ∃ e, t.serve Memory.policy stamp (.createProfile roleId new) = (.error e, t) ∧
        new.RefusedFor t roleId e) ∧
    (new.Fits →
      (t.serve Schema.policy stamp (.createProfile roleId new) =
          (.ok (new.row roleId stamp), t.addProfile (new.row roleId stamp)) ↔
        new.Admitted t roleId ∧ new.GroupStored t) ∧
      (new.Admitted t roleId → ∀ group ∈ new.placedIn, (¬∃ row ∈ t.groups, row.id = group) →
        ∃ e, t.serve Schema.policy stamp (.createProfile roleId new) = (.error e, t) ∧
          ∀ operation, e.toAppError operation =
            Memory.invalidReference "students" "group_id" group)) := by
  rw [createProfile_memory]
  refine ⟨fun hadmitted => ?_, fun hrefused => ?_, fun hfits => ⟨?_, ?_⟩⟩
  · rw [checkProfile_row_eq_ok_iff.mpr hadmitted]
  · cases hcheck : Memory.checkProfile stamp.order t (new.row roleId stamp) with
    | ok u => exact absurd (checkProfile_row_eq_ok_iff.mp hcheck) hrefused
    | error e => exact ⟨e, rfl, refusedFor_of_checkProfile hcheck⟩
  · rw [← @Schema.storeProfile_eq_ok_iff t stamp roleId new hfits]
    change t.insertRow (Schema.storeProfile t (new.row roleId stamp)) t.addProfile = _ ↔ _
    cases hstore : Schema.storeProfile t (new.row roleId stamp) with
    | ok row => simp +contextual [Tables.insertRow]
    | error e => simp [Tables.insertRow]
  · intro hadmitted group hgroup hunknown
    have hstore : Schema.storeProfile t (new.row roleId stamp) = _ :=
      Schema.storeProfile_of_admitted hfits hadmitted hgroup hunknown
    refine ⟨_, congrArg (t.insertRow · t.addProfile) hstore, fun operation => ?_⟩
    exact Schema.referenceViolation_decodes ProfileKind.student.table groupIdName group "groups"
      operation

/-- Another profile of the pupil of the first class, on the grant of the first. -/
def enrolment (userId groupId : Uuid) : NewProfile :=
  ⟨.student, userId, .ofNat 20, some groupId, some "+992900000002", none⟩

/-- There is no such group, and no such user. -/
def unknownId : Uuid :=
  .ofNat 999

theorem fits_enrolment (userId groupId : Uuid) : (enrolment userId groupId).Fits where
  phone := by
    rintro phone ⟨rfl⟩
    decide
  email := nofun

theorem admitted_enrolment (groupId : Uuid) :
    (enrolment (.ofNat 30) groupId).Admitted firstClass.tables (.ofNat 81) := by
  have hgrant : ∃ row ∈ firstClass.tables.grants, row.id = .ofNat 81 := by decide +kernel
  have huser : ∃ row ∈ firstClass.tables.users, row.id = .ofNat 30 := by decide +kernel
  have hschool : ∃ row ∈ firstClass.tables.schools, row.id = .ofNat 20 := by decide +kernel
  have hphone : ∀ other ∈ firstClass.tables.profilesOf .student,
      other.phone ≠ some "+992900000002" := by decide +kernel
  refine ⟨⟨hgrant, huser, hschool⟩, ?_, nofun⟩
  rintro phone ⟨rfl⟩
  exact hphone

theorem profile_insertion_firstClass :
    ((enrolment (.ofNat 30) (.ofNat 70)).Admitted firstClass.tables (.ofNat 81) ∧
      (firstClass.tables.serve Memory.policy default
        (.createProfile (.ofNat 81) (enrolment (.ofNat 30) (.ofNat 70)))).1 =
          .ok ((enrolment (.ofNat 30) (.ofNat 70)).row (.ofNat 81) default)) ∧
    (¬(enrolment unknownId (.ofNat 70)).Admitted firstClass.tables (.ofNat 81) ∧
      ∃ e, (enrolment unknownId (.ofNat 70)).RefusedFor firstClass.tables (.ofNat 81) e) ∧
    ((enrolment (.ofNat 30) unknownId).Fits ∧
      (¬∃ row ∈ firstClass.tables.groups, row.id = unknownId) ∧
      ∃ e, (firstClass.tables.serve Schema.policy default
          (.createProfile (.ofNat 81) (enrolment (.ofNat 30) unknownId))).1 = .error e ∧
        e.toAppError "insert students" =
          Memory.invalidReference "students" "group_id" unknownId) := by
  have hstranger : ¬(enrolment unknownId (.ofNat 70)).Admitted firstClass.tables (.ofNat 81) := by
    intro h
    have huser := h.user
    revert huser
    decide +kernel
  have hgroup : ¬∃ row ∈ firstClass.tables.groups, row.id = unknownId := by decide +kernel
  obtain ⟨haccepted, -, -⟩ := profile_insertion firstClass.tables default (.ofNat 81)
    (enrolment (.ofNat 30) (.ofNat 70))
  obtain ⟨-, hrefused, -⟩ := profile_insertion firstClass.tables default (.ofNat 81)
    (enrolment unknownId (.ofNat 70))
  obtain ⟨-, -, hdatabase⟩ := profile_insertion firstClass.tables default (.ofNat 81)
    (enrolment (.ofNat 30) unknownId)
  obtain ⟨e, -, he⟩ := hrefused hstranger
  obtain ⟨failure, hserve, hfailure⟩ := (hdatabase (fits_enrolment _ _)).2
    (admitted_enrolment unknownId) unknownId rfl hgroup
  refine ⟨⟨admitted_enrolment _, ?_⟩, ⟨hstranger, e, he⟩, fits_enrolment _ _, hgroup, failure, ?_,
    hfailure _⟩
  · rw [haccepted (admitted_enrolment _)]
  · rw [hserve]

/-- The store in memory takes a student of a group that it does not have. -/
theorem strayGroup_accepted :
    Reachable firstClass ∧
      ¬(enrolment (.ofNat 30) unknownId).GroupStored firstClass.tables ∧
      (firstClass.tables.serve Memory.policy default
        (.createProfile (.ofNat 81) (enrolment (.ofNat 30) unknownId))).1 =
          .ok ((enrolment (.ofNat 30) unknownId).row (.ofNat 81) default) := by
  have hcheck := (@checkProfile_row_eq_ok_iff (default : Stamp).order firstClass.tables default
    (.ofNat 81) _).mpr (admitted_enrolment unknownId)
  refine ⟨reachable_firstClass, ?_, ?_⟩
  · intro hstored
    have hgroup := hstored unknownId rfl
    revert hgroup
    decide +kernel
  · rw [createProfile_memory, hcheck]

end Registrar
