import Registrar.Proofs.Commuting
import Registrar.Proofs.ProfileInsertion
import Registrar.Proofs.RoleConflicts
import Registrar.Proofs.ValidRows

/-!
# How provisioning ends

Several things may stand in the way of a new profile or a new guardian at once, and the caller is
told of the first of them only.  `NewProfile.Outcome` and `NewGuardian.Outcome` list what can
stand in the way, each with all that comes before it out of the way; without a deadline and with
the store to itself, each of the services ends as listed (`provisioning_ends`).
-/

namespace Registrar

open Program Service

/-! ## What stands in the way -/

namespace NewProfile

/-- The contacts are well-formed. -/
structure KeepsRules (new : NewProfile) : Prop where
  phone : ∀ phone ∈ new.phone, IsInternational phone
  email : ∀ email ∈ new.email, isEmail email

/-- The first of user, scope and group that is not stored, by the column that refers to it. -/
inductive FirstMissing (t : Tables) (new : NewProfile) : String → Uuid → Prop
  | user (hunknown : ¬∃ row ∈ t.users, row.id = new.userId) :
    FirstMissing t new "user_id" new.userId
  | scope (huser : ∃ row ∈ t.users, row.id = new.userId) (hunknown : ¬new.ScopeStored t) :
    FirstMissing t new new.kind.scopeField new.scopeId
  | group (huser : ∃ row ∈ t.users, row.id = new.userId) (hscope : new.ScopeStored t) {id : Uuid}
      (hplaced : id ∈ new.placedIn) (hunknown : ¬∃ row ∈ t.groups, row.id = id) :
    FirstMissing t new "group_id" id

/-- A contact of a stored profile of the kind. -/
inductive SharesContact (t : Tables) (new : NewProfile) : String → String → Prop
  | phone {phone : String} (hphone : phone ∈ new.phone)
      (htaken : ∃ other ∈ t.profilesOf new.kind, other.phone = some phone) :
    SharesContact t new "phone" phone
  | email {email : String} (hemail : email ∈ new.email)
      (htaken : ∃ other ∈ t.profilesOf new.kind, other.email = some email) :
    SharesContact t new "email" email

/-- How adding a profile ends: refused for the first thing that stands in its way, or with the
profile if nothing does. -/
inductive Outcome (t : Tables) (new : NewProfile) : Result Profile → Prop
  | invalid {e : AppError} (hrules : ¬new.KeepsRules) (hkind : e.kind = .badRequest)
      (hname : e.root.name = "Validation") : Outcome t new (.error e)
  | missing {e : AppError} {field : String} {id : Uuid} (hrules : new.KeepsRules)
      (hmissing : new.FirstMissing t field id) (hkind : e.kind = .badRequest)
      (hroot : e.root = Memory.invalidReference "user_roles" field id) : Outcome t new (.error e)
  | roleHeld {e : AppError} (hrules : new.KeepsRules)
      (hstored : ∀ field id, ¬new.FirstMissing t field id)
      (hheld : t.HoldsRole new.userId new.kind.role new.scopeId) (hkind : e.kind = .conflict)
      (hroot : e.root = .roleAlreadyAssigned new.userId new.kind.role (some new.scopeId)) :
    Outcome t new (.error e)
  | contactTaken {e : AppError} {field value : String} (hrules : new.KeepsRules)
      (hstored : ∀ field id, ¬new.FirstMissing t field id)
      (hfree : ¬t.HoldsRole new.userId new.kind.role new.scopeId)
      (htaken : new.SharesContact t field value) (hkind : e.kind = .conflict)
      (hroot : e.root = .duplicate new.kind.entity field value) : Outcome t new (.error e)
  | added (profile : Profile) (hrules : new.KeepsRules)
      (hstored : ∀ field id, ¬new.FirstMissing t field id)
      (hfree : ¬t.HoldsRole new.userId new.kind.role new.scopeId)
      (hunique : ∀ field value, ¬new.SharesContact t field value) : Outcome t new (.ok profile)

end NewProfile

namespace NewGuardian

def StudentStored (t : Tables) (new : NewGuardian) : Prop :=
  ∃ row ∈ t.profilesOf .student, row.id = new.studentId

/-- The user is a guardian of the student already. -/
def Guards (t : Tables) (new : NewGuardian) : Prop :=
  ∃ link ∈ t.guardians, link.userId = new.userId ∧ link.studentId = new.studentId

/-- How assigning a guardian ends.  What other students the user is a guardian of, and where,
plays no part in it. -/
inductive Outcome (t : Tables) (new : NewGuardian) : Result GuardianLink → Prop
  | studentMissing {e : AppError} (hstudent : ¬new.StudentStored t) (hkind : e.kind = .notFound)
      (hroot : e.root = .notFound "students" "id" new.studentId.toText) : Outcome t new (.error e)
  | userMissing {e : AppError} (hstudent : new.StudentStored t)
      (huser : ¬∃ row ∈ t.users, row.id = new.userId) (hkind : e.kind = .badRequest)
      (hroot : e.root = Memory.invalidReference "user_roles" "user_id" new.userId) :
    Outcome t new (.error e)
  | guardsAlready {e : AppError} (hstudent : new.StudentStored t)
      (huser : ∃ row ∈ t.users, row.id = new.userId) (hguards : new.Guards t)
      (hkind : e.kind = .conflict)
      (hroot : e.root = .duplicate "student_guardians" "user_id, student_id"
        (new.userId.toText ++ ", " ++ new.studentId.toText)) : Outcome t new (.error e)
  | assigned (link : GuardianLink) (hstudent : new.StudentStored t)
      (huser : ∃ row ∈ t.users, row.id = new.userId) (hfree : ¬new.Guards t) :
    Outcome t new (.ok link)

end NewGuardian

/-! ## The rules -/

section Profile

variable {t : Tables} {new : NewProfile} {stamp first second : Stamp} {e : AppError}

theorem NewProfile.check_eq_ok_iff_keepsRules : Ruled.check new = .ok () ↔ new.KeepsRules := by
  refine (@NewProfile.check_eq_ok_iff new default default).trans ?_
  exact ⟨fun h => ⟨h.phone, h.email⟩, fun h => ⟨h.phone, h.email⟩⟩

theorem Ruled.eq_invalid_of_check {α : Type} [Ruled α] {new : α}
    (h : Ruled.check new = .error e) : ∃ first others, e = .invalid first others := by
  unfold Ruled.check at h
  split at h
  · cases h
  · cases h
    exact ⟨_, _, rfl⟩

theorem NewProfile.outcome_of_check (h : Ruled.check new = .error e) :
    new.Outcome t (.error e) := by
  have hrules : ¬new.KeepsRules := by
    rw [← NewProfile.check_eq_ok_iff_keepsRules, h]
    exact nofun
  obtain ⟨_, _, rfl⟩ := Ruled.eq_invalid_of_check h
  exact .invalid hrules rfl rfl

/-! ## The grant of a profile -/

/-- The check of the grant looks at the user, at the place of the profile and at its group. -/
theorem NewProfile.checkGrant_eq :
    Memory.checkGrant t (new.grant stamp) = (do
      Memory.refer "user_roles" "user_id" new.userId (t.user? new.userId).isSome
      Memory.refer "user_roles" new.kind.scopeField new.scopeId
        (t.scopeExists new.kind new.scopeId)
      Memory.referOptional "user_roles" "group_id" new.placedIn fun id => (t.group? id).isSome
      Memory.refuseIf (t.grantTaken (new.grant stamp))
        (.roleAlreadyAssigned new.userId new.kind.role (some new.scopeId))) := by
  obtain ⟨kind, userId, scopeId, groupId, phone, email⟩ := new
  cases kind <;> rfl

theorem NewProfile.grantTaken_iff :
    t.grantTaken (new.grant stamp) = true ↔
      t.HoldsRole new.userId new.kind.role new.scopeId :=
  grantTaken_eq_true_iff new.kind.isScopeUnique_role new.key_scope

theorem NewProfile.not_firstMissing_iff :
    (∀ field id, ¬new.FirstMissing t field id) ↔
      (∃ row ∈ t.users, row.id = new.userId) ∧ new.ScopeStored t ∧ new.GroupStored t := by
  constructor
  · intro h
    have huser : ∃ row ∈ t.users, row.id = new.userId :=
      by_contra fun hunknown => h _ _ (.user hunknown)
    have hscope : new.ScopeStored t := by_contra fun hunknown => h _ _ (.scope huser hunknown)
    exact ⟨huser, hscope, fun id hid =>
      by_contra fun hunknown => h _ _ (.group huser hscope hid hunknown)⟩
  · rintro ⟨huser, hscope, hgroup⟩ field id (hunknown | ⟨-, hunknown⟩ | ⟨-, -, hid, hunknown⟩)
    · exact hunknown huser
    · exact hunknown hscope
    · exact hunknown (hgroup _ hid)

theorem NewProfile.checkGrant_eq_ok_iff :
    Memory.checkGrant t (new.grant stamp) = .ok () ↔
      (∀ field id, ¬new.FirstMissing t field id) ∧
        ¬t.HoldsRole new.userId new.kind.role new.scopeId := by
  rw [NewProfile.checkGrant_eq, NewProfile.not_firstMissing_iff,
    ← @NewProfile.grantTaken_iff t new stamp, Bool.not_eq_true]
  simp only [Memory.bind_eq_ok_iff, Memory.refer_eq_ok_iff, Memory.referOptional_eq_ok_iff,
    Memory.refuseIf_eq_ok_iff, Tables.user?_isSome_iff, Tables.scopeExists_iff,
    Tables.group?_isSome_iff, NewProfile.GroupStored, Option.mem_def, and_assoc]

theorem NewProfile.outcome_of_checkGrant {step : String} (hrules : new.KeepsRules)
    (h : Memory.checkGrant t (new.grant stamp) = .error e) :
    new.Outcome t (.error (.context step e)) := by
  rw [NewProfile.checkGrant_eq] at h
  rcases Memory.bind_refer_eq_error h with ⟨hunknown, rfl⟩ | ⟨huser, h⟩
  · refine .missing hrules (.user ?_) rfl rfl
    rw [← Tables.user?_isSome_iff, hunknown]
    exact Bool.false_ne_true
  rw [Tables.user?_isSome_iff] at huser
  rcases Memory.bind_refer_eq_error h with ⟨hunknown, rfl⟩ | ⟨hscope, h⟩
  · refine .missing hrules (.scope huser ?_) rfl rfl
    rw [← Tables.scopeExists_iff, hunknown]
    exact Bool.false_ne_true
  rw [Tables.scopeExists_iff] at hscope
  rcases Memory.bind_referOptional_eq_error h with ⟨id, hid, hunknown, rfl⟩ | ⟨hgroup, h⟩
  · refine .missing hrules (.group huser hscope hid ?_) rfl rfl
    rw [← Tables.group?_isSome_iff, hunknown]
    exact Bool.false_ne_true
  have hstored : ∀ field id, ¬new.FirstMissing t field id :=
    NewProfile.not_firstMissing_iff.mpr
      ⟨huser, hscope, fun id hid => Tables.group?_isSome_iff.mp (hgroup id hid)⟩
  unfold Memory.refuseIf at h
  split at h
  case isTrue htaken =>
    cases h
    exact .roleHeld hrules hstored (NewProfile.grantTaken_iff.mp htaken) rfl rfl
  case isFalse => cases h

/-! ## The profile itself -/

/-- The grant just stored is there, and the rest of the tables is as before. -/
theorem NewProfile.resolved_addGrant (hstored : ∀ field id, ¬new.FirstMissing t field id) :
    new.Resolved (t.addGrant (new.grant first)) first.id := by
  obtain ⟨huser, hscope, -⟩ := NewProfile.not_firstMissing_iff.mp hstored
  exact ⟨⟨new.grant first, List.mem_append_right _ (List.mem_singleton_self _), rfl⟩, huser, hscope⟩

theorem NewProfile.outcome_of_checkProfile {step : String} (hrules : new.KeepsRules)
    (hgrant : Memory.checkGrant t (new.grant first) = .ok ())
    (h : Memory.checkProfile second.order (t.addGrant (new.grant first))
      (new.row first.id second) = .error e) :
    new.Outcome t (.error (.context step e)) := by
  obtain ⟨hstored, hfree⟩ := NewProfile.checkGrant_eq_ok_iff.mp hgrant
  have hresolved : new.Resolved (t.addGrant (new.grant first)) first.id :=
    NewProfile.resolved_addGrant hstored
  cases refusedFor_of_checkProfile h with
  | grant hunknown => exact absurd hresolved.grant hunknown
  | user _ hunknown => exact absurd hresolved.user hunknown
  | scope _ _ hunknown => exact absurd hresolved.scope hunknown
  | phone _ phone hphone htaken =>
    exact .contactTaken hrules hstored hfree (.phone hphone htaken) rfl rfl
  | email _ email hemail htaken =>
    exact .contactTaken hrules hstored hfree (.email hemail htaken) rfl rfl

theorem NewProfile.outcome_of_stored (profile : Profile) (hrules : new.KeepsRules)
    (hgrant : Memory.checkGrant t (new.grant first) = .ok ())
    (h : Memory.checkProfile second.order (t.addGrant (new.grant first))
      (new.row first.id second) = .ok ()) :
    new.Outcome t (.ok profile) := by
  obtain ⟨hstored, hfree⟩ := NewProfile.checkGrant_eq_ok_iff.mp hgrant
  have hadmitted := checkProfile_row_eq_ok_iff.mp h
  refine .added profile hrules hstored hfree ?_
  rintro _ _ (⟨hphone, other, hother, hsame⟩ | ⟨hemail, other, hother, hsame⟩)
  · exact hadmitted.phone _ hphone other hother hsame
  · exact hadmitted.email _ hemail other hother hsame

end Profile

/-! ## The guardian of a student -/

section Guardian

variable {t : Tables} {new : NewGuardian} {student : ProfileRow} {stamp first second : Stamp}
  {e : AppError}

theorem NewGuardian.studentStored_iff :
    new.StudentStored t ↔ (t.profile? .student new.studentId).isSome := by
  simp [NewGuardian.StudentStored, Tables.profile?, List.find?_isSome]

theorem NewGuardian.studentStored_of_found
    (hstudent : t.profile? .student new.studentId = some student) : new.StudentStored t :=
  NewGuardian.studentStored_iff.mpr (Option.isSome_iff_exists.mpr ⟨student, hstudent⟩)

theorem NewGuardian.userStored_of_checkGrant
    (hgrant : Memory.checkGrant t (new.grant student stamp) = .ok ()) :
    ∃ row ∈ t.users, row.id = new.userId :=
  Tables.user?_isSome_iff.mp (Memory.checkGrant_eq_ok_iff.mp hgrant).1

/-- The guardian's role may be held any number of times, so its grant is only refused for want
of the user: the school of a stored student is stored. -/
theorem NewGuardian.checkGrant_eq (hanchored : t.Anchored)
    (hstudent : t.profile? .student new.studentId = some student) :
    Memory.checkGrant t (new.grant student stamp) =
      Memory.refer "user_roles" "user_id" new.userId (t.user? new.userId).isSome := by
  have hschool : (t.school? student.scopeId).isSome := hanchored.school_of_student hstudent
  cases huser : (t.user? new.userId).isSome with
  | false =>
    have hunknown : (t.user? (new.grant student stamp).userId).isSome = false := huser
    rw [Memory.checkGrant, hunknown]
    rfl
  | true =>
    refine Memory.checkGrant_eq_ok_iff.mpr ⟨huser, ?_, nofun, nofun, rfl⟩
    rintro _ ⟨⟩
    exact hschool

theorem NewGuardian.outcome_of_checkGrant {step : String} (hanchored : t.Anchored)
    (hstudent : t.profile? .student new.studentId = some student)
    (h : Memory.checkGrant t (new.grant student stamp) = .error e) :
    new.Outcome t (.error (.context step e)) := by
  have hstored := NewGuardian.studentStored_of_found hstudent
  rw [NewGuardian.checkGrant_eq hanchored hstudent] at h
  unfold Memory.refer at h
  split at h
  case isTrue => cases h
  case isFalse hunknown =>
    cases h
    rw [Tables.user?_isSome_iff] at hunknown
    exact .userMissing hstored hunknown rfl rfl

/-- With the grant just stored, a link is only refused if there is one already. -/
theorem NewGuardian.checkGuardian_eq
    (hstudent : t.profile? .student new.studentId = some student)
    (hgrant : Memory.checkGrant t (new.grant student first) = .ok ()) :
    Memory.checkGuardian (t.addGrant (new.grant student first)) (new.row first.id second) =
      Memory.refuseIf
        (t.guardians.any fun other =>
          other.userId == new.userId && other.studentId == new.studentId)
        (.duplicate "student_guardians" "user_id, student_id"
          (new.userId.toText ++ ", " ++ new.studentId.toText)) := by
  have hrole : ((t.addGrant (new.grant student first)).grant? first.id).isSome = true :=
    Tables.grant?_isSome_iff.mpr
      ⟨_, List.mem_append_right _ (List.mem_singleton_self _), rfl⟩
  have huser : ((t.addGrant (new.grant student first)).user? new.userId).isSome = true :=
    (Memory.checkGrant_eq_ok_iff.mp hgrant).1
  have hknown : ((t.addGrant (new.grant student first)).profile? .student
      new.studentId).isSome = true :=
    Option.isSome_iff_exists.mpr ⟨student, hstudent⟩
  simp only [Memory.checkGuardian, NewGuardian.row, hrole, huser, hknown, Memory.refer, if_true]
  rfl

theorem NewGuardian.guards_iff :
    new.Guards t ↔ (t.guardians.any fun other =>
      other.userId == new.userId && other.studentId == new.studentId) = true := by
  simp [NewGuardian.Guards]

theorem NewGuardian.outcome_of_checkGuardian {step : String}
    (hstudent : t.profile? .student new.studentId = some student)
    (hgrant : Memory.checkGrant t (new.grant student first) = .ok ())
    (h : Memory.checkGuardian (t.addGrant (new.grant student first))
      (new.row first.id second) = .error e) : new.Outcome t (.error (.context step e)) := by
  have hstored := NewGuardian.studentStored_of_found hstudent
  have huser := NewGuardian.userStored_of_checkGrant hgrant
  rw [NewGuardian.checkGuardian_eq hstudent hgrant] at h
  unfold Memory.refuseIf at h
  split at h
  case isTrue htaken =>
    cases h
    exact .guardsAlready hstored huser (NewGuardian.guards_iff.mpr htaken) rfl rfl
  case isFalse => cases h

theorem NewGuardian.outcome_of_stored (link : GuardianLink)
    (hstudent : t.profile? .student new.studentId = some student)
    (hgrant : Memory.checkGrant t (new.grant student first) = .ok ())
    (h : Memory.checkGuardian (t.addGrant (new.grant student first))
      (new.row first.id second) = .ok ()) : new.Outcome t (.ok link) := by
  have hstored := NewGuardian.studentStored_of_found hstudent
  have huser := NewGuardian.userStored_of_checkGrant hgrant
  rw [NewGuardian.checkGuardian_eq hstudent hgrant, Memory.refuseIf_eq_ok_iff] at h
  refine .assigned link hstored huser fun hguards => ?_
  rw [NewGuardian.guards_iff, h] at hguards
  cases hguards

end Guardian

/-! ## Reading back -/

/-- On a store without an open unit, a program that reads without a deadline ends with a value. -/
theorem Program.Reads.always {α : Type} {p : Program α} {s : Store} {wanted : α → Prop}
    (h : p.Reads .background (· = s.tables) wanted) (hopened : s.opened = none) :
    p.Always (fun reply => ∃ a, reply = .ended (.ok a) s ∧ wanted a) s := by
  induction p with
  | done a => exact ⟨a, rfl, h⟩
  | fail e => exact h.elim
  | note event next ih => exact ih h
  | call made next ih =>
    cases made with
    | begin _ | commit _ | rollback _ => exact h.elim
    | ask ctx request =>
      obtain ⟨rfl, hlookup, -, hserved⟩ := h
      have hadmits : s.Admits .background := hopened
      intro tick
      rw [Store.answer_lookup hlookup hadmits rfl]
      exact ih _ (hserved _ rfl tick.stamp)

theorem profile?_addProfile_isSome (t : Tables) (row : ProfileRow) :
    ((t.addProfile row).profile? row.kind row.id).isSome := by
  simp [Tables.profile?]

theorem guardian?_addGuardian_isSome (t : Tables) (row : GuardianRow) :
    ((t.addGuardian row).guardian? row.id).isSome := by
  simp [Tables.guardian?, Tables.addGuardian]

/-! ## The services -/

section Services

variable {t : Tables}

/-- The service ends, and as listed. -/
def EndsAs {α : Type} (outcome : Result α → Prop) : Reply Store α → Prop
  | .ended result _ => outcome result
  | .stuck _ => False

theorem EndsAs.ended {α : Type} {outcome : Result α → Prop} {reply : Reply Store α}
    (h : EndsAs outcome reply) : ∃ result after, reply = .ended result after ∧ outcome result := by
  cases reply with
  | stuck after => exact h.elim
  | ended result after => exact ⟨result, after, rfl, h⟩

/-- The reading back of a row that is stored keeps the outcome. -/
theorem always_readBack {α : Type} {p : Program α} {s : Store} {wanted : α → Prop}
    {outcome : Result α → Prop} (h : p.Reads .background (· = s.tables) wanted)
    (hopened : s.opened = none) (houtcome : ∀ a, outcome (.ok a)) :
    p.Always (EndsAs outcome) s := by
  apply (h.always hopened).mono
  rintro _ ⟨a, rfl, -⟩
  exact houtcome a

/-- Without a deadline, a unit of work on a free store opens at once. -/
theorem always_inUnit_free {α : Type} {work : Ctx → Program α} {wanted : Reply Store α → Prop}
    (hwork : ∀ id, (work (Ctx.background.withHandle ⟨id, .memory 0⟩)).Always
      (OnceClosed wanted ⟨id, t⟩) ⟨t, some ⟨id, t⟩⟩) :
    (inUnit .background work).Always wanted ⟨t, none⟩ := by
  refine always_inUnit (fun outer houter => ?_) (fun hdeadline => ?_) (fun hbusy _ => ?_)
    fun _ id => hwork id
  · cases houter
  · cases hdeadline
  · cases hbusy

theorem always_addProfile_outcome (t : Tables) (new : NewProfile) :
    (addProfile .background new).Always (EndsAs (new.Outcome t)) ⟨t, none⟩ := by
  unfold addProfile provision
  rw [always_bind, always_bind, always_ofResult]
  cases hcheck : Ruled.check new with
  | error e => exact NewProfile.outcome_of_check hcheck
  | ok u =>
    have hrules := NewProfile.check_eq_ok_iff_keepsRules.mp hcheck
    simp only [Onward]
    rw [always_bind]
    refine always_inUnit_free fun id => ?_
    refine always_provisionIn rfl (Store.unitOf_own rfl rfl) fun result after hends => ?_
    cases hends with
    | grantLate hdeadline => cases hdeadline
    | profileLate _ _ hdeadline => cases hdeadline
    | grantRefused first e hgrant => exact ⟨rfl, NewProfile.outcome_of_checkGrant hrules hgrant⟩
    | profileRefused first second e hgrant hprofile =>
      exact ⟨rfl, NewProfile.outcome_of_checkProfile hrules hgrant hprofile⟩
    | stored first second hgrant hprofile =>
      refine ⟨rfl, ?_⟩
      obtain ⟨row, hrow⟩ := Option.isSome_iff_exists.mp (profile?_addProfile_isSome
        (t.addGrant (new.grant first)) (new.row first.id second))
      exact always_readBack (reads_profileById_found hrow) rfl fun profile =>
        NewProfile.outcome_of_stored profile hrules hgrant hprofile

theorem always_assignGuardian_outcome (hanchored : t.Anchored) (new : NewGuardian) :
    (assignGuardian .background new).Always (EndsAs (new.Outcome t)) ⟨t, none⟩ := by
  have hvalid : Ruled.check new = .ok () := rfl
  unfold assignGuardian
  rw [always_bind, always_ofResult]
  simp only [Onward, hvalid]
  rw [always_bind]
  refine always_inUnit_free fun id => ?_
  refine always_assignIn rfl (Store.unitOf_own rfl rfl) fun result after hends => ?_
  cases hends with
  | studentLate hdeadline => cases hdeadline
  | grantLate _ _ hdeadline => cases hdeadline
  | linkLate _ _ _ _ hdeadline => cases hdeadline
  | studentUnknown hstudent =>
    refine ⟨rfl, .studentMissing ?_ rfl rfl⟩
    rw [NewGuardian.studentStored_iff, hstudent]
    exact Bool.false_ne_true
  | grantRefused student first e hstudent hgrant =>
    exact ⟨rfl, NewGuardian.outcome_of_checkGrant hanchored hstudent hgrant⟩
  | linkRefused student first second e hstudent hgrant hlink =>
    exact ⟨rfl, NewGuardian.outcome_of_checkGuardian hstudent hgrant hlink⟩
  | stored student first second hstudent hgrant hlink =>
    refine ⟨rfl, ?_⟩
    obtain ⟨row, hrow⟩ := Option.isSome_iff_exists.mp (guardian?_addGuardian_isSome
      (t.addGrant (new.grant student first)) (new.row first.id second))
    exact always_readBack (reads_guardianById_found hrow) rfl fun link =>
      NewGuardian.outcome_of_stored link hstudent hgrant hlink

theorem NewProfile.Outcome.kind_ne_internal {new : NewProfile} {e : AppError}
    (h : new.Outcome t (.error e)) : e.kind ≠ .internal := by
  cases h with
  | invalid _ hkind | missing _ _ hkind | roleHeld _ _ _ hkind | contactTaken _ _ _ _ hkind =>
    rw [hkind]
    decide

theorem NewGuardian.Outcome.kind_ne_internal {new : NewGuardian} {e : AppError}
    (h : new.Outcome t (.error e)) : e.kind ≠ .internal := by
  cases h with
  | studentMissing _ hkind | userMissing _ _ hkind | guardsAlready _ _ _ hkind =>
    rw [hkind]
    decide

/-- With the store to itself and without a deadline, the adding of a profile and the assigning of
a guardian end, and tell the caller of the first thing that stood in the way; it never is a
failure of the store. -/
theorem provisioning_ends {s : Store} (hreach : Reached s) (hopened : s.opened = none)
    (moments : Nat → Tick) :
    (∀ new : NewProfile, ∃ result after,
      Course.run ⟨s, moments⟩ (addProfile .background new) = .ended result after ∧
        new.Outcome s.tables result ∧ ∀ e, result = .error e → e.kind ≠ .internal) ∧
    ∀ new : NewGuardian, ∃ result after,
      Course.run ⟨s, moments⟩ (assignGuardian .background new) = .ended result after ∧
        new.Outcome s.tables result ∧ ∀ e, result = .error e → e.kind ≠ .internal := by
  obtain ⟨t, _⟩ := s
  obtain rfl : _ = none := hopened
  have hanchored : t.Anchored := hreach.called.anchored.now
  refine ⟨fun new => ?_, fun new => ?_⟩
  · obtain ⟨result, after, hrun, houtcome⟩ := ((always_addProfile_outcome t new).run moments).ended
    exact ⟨result, after, hrun, houtcome, fun e he => (he ▸ houtcome).kind_ne_internal⟩
  · obtain ⟨result, after, hrun, houtcome⟩ :=
      ((always_assignGuardian_outcome hanchored new).run moments).ended
    exact ⟨result, after, hrun, houtcome, fun e he => (he ▸ houtcome).kind_ne_internal⟩

end Services

/-! In the first class the pupil is a student of the school already, and the teacher is a guardian
of the pupil; the pupil is a guardian of nobody. -/

theorem storedFor_firstClass :
    ∀ field id, ¬(enrolment (.ofNat 30) (.ofNat 70)).FirstMissing firstClass.tables field id := by
  have hadmitted := admitted_enrolment (.ofNat 70)
  refine NewProfile.not_firstMissing_iff.mpr ⟨hadmitted.user, hadmitted.scope, ?_⟩
  rintro _ ⟨⟩
  decide +kernel

theorem provisioning_ends_firstClass :
    (Reached firstClass ∧ firstClass.opened = none) ∧
    (∃ e after, Course.run ⟨firstClass, fun _ => default⟩
        (addProfile .background (enrolment (.ofNat 30) (.ofNat 70))) = .ended (.error e) after ∧
      e.root = .roleAlreadyAssigned (.ofNat 30) .student (some (.ofNat 20))) ∧
    (∃ e after, Course.run ⟨firstClass, fun _ => default⟩
        (assignGuardian .background ⟨.ofNat 40, .ofNat 82, .mother⟩) = .ended (.error e) after ∧
      e.kind = .conflict) ∧
    ∃ link after, Course.run ⟨firstClass, fun _ => default⟩
        (assignGuardian .background ⟨.ofNat 30, .ofNat 82, .mother⟩) = .ended (.ok link) after := by
  have hreach := reachable_firstClass.reached
  have hopened : firstClass.opened = none := by decide +kernel
  obtain ⟨hprofiles, hguardians⟩ := provisioning_ends hreach hopened fun _ => default
  have hstudent : ∃ row ∈ firstClass.tables.profilesOf .student, row.id = .ofNat 82 := by
    decide +kernel
  refine ⟨⟨hreach, hopened⟩, ?_, ?_, ?_⟩
  · obtain ⟨result, after, hrun, houtcome, -⟩ := hprofiles (enrolment (.ofNat 30) (.ofNat 70))
    cases houtcome with
    | invalid hrules =>
      exact absurd (NewProfile.check_eq_ok_iff_keepsRules.mp (by decide +kernel)) hrules
    | missing _ hmissing => exact absurd hmissing (storedFor_firstClass _ _)
    | roleHeld _ _ _ _ hroot => exact ⟨_, after, hrun, hroot⟩
    | contactTaken _ _ hfree => exact absurd holdsRole_firstClass hfree
    | added _ _ _ hfree => exact absurd holdsRole_firstClass hfree
  · obtain ⟨result, after, hrun, houtcome, -⟩ := hguardians ⟨.ofNat 40, .ofNat 82, .mother⟩
    have hguards : ∃ link ∈ firstClass.tables.guardians,
        link.userId = .ofNat 40 ∧ link.studentId = .ofNat 82 := by
      decide +kernel
    cases houtcome with
    | studentMissing hnone => exact absurd hstudent hnone
    | userMissing _ hnone => exact absurd (by decide +kernel) hnone
    | guardsAlready _ _ _ hkind => exact ⟨_, after, hrun, hkind⟩
    | assigned _ _ _ hfree => exact absurd hguards hfree
  · obtain ⟨result, after, hrun, houtcome, -⟩ := hguardians ⟨.ofNat 30, .ofNat 82, .mother⟩
    have hfree : ¬∃ link ∈ firstClass.tables.guardians,
        link.userId = .ofNat 30 ∧ link.studentId = .ofNat 82 := by
      decide +kernel
    cases houtcome with
    | studentMissing hnone => exact absurd hstudent hnone
    | userMissing _ hnone => exact absurd (by decide +kernel) hnone
    | guardsAlready _ _ hguards => exact absurd hguards hfree
    | assigned link => exact ⟨link, after, hrun⟩

end Registrar
