import Registrar.Proofs.Decoding
import Registrar.Proofs.ErrorKinds
import Registrar.Proofs.Identifiers
import Registrar.Proofs.ReferentialIntegrity
import Registrar.Proofs.Seat

/-!
# A role granted twice

The store in memory finds a role granted twice among its rows; the database finds it by an
index and reports it as text.  What is read from the text is the error of the store in memory
(`role_conflicts_agree`), but that store looks at what the grant refers to first: if something of
this is missing, it refuses the first such reference (`NewRoleGrant.FirstDangling`), and only the
database finds the role granted.  Whatever else a violation of that index says it is a conflict,
and no other failure is ever taken for a role granted twice.
-/

namespace Registrar

open Text Violation

/-! ## Who holds a role -/

/-- The user holds the role in the place with the key. -/
def Tables.HoldsRole (t : Tables) (user : Uuid) (role : Role) (scope : Uuid) : Prop :=
  ∃ grant ∈ t.grants, grant.userId = user ∧ grant.role = role ∧ grant.scope.key = some scope

/-- What a grant refers to is stored. -/
structure NewRoleGrant.Resolved (t : Tables) (new : NewRoleGrant) : Prop where
  user : (t.user? new.userId).isSome
  school : ∀ id, new.scope.schoolId = some id → (t.school? id).isSome
  organization : ∀ id, new.scope.organizationId = some id → (t.organization? id).isSome
  group : ∀ id, new.scope.groupId = some id → (t.group? id).isSome

/-- The first reference of a grant, in the order of its columns, that leads to no row. -/
inductive NewRoleGrant.FirstDangling (t : Tables) (new : NewRoleGrant) : String → Uuid → Prop
  | user (hunknown : t.user? new.userId = none) : FirstDangling t new "user_id" new.userId
  | school (huser : (t.user? new.userId).isSome)
      (id : Uuid) (hid : new.scope.schoolId = some id) (hunknown : t.school? id = none) :
    FirstDangling t new "school_id" id
  | organization (huser : (t.user? new.userId).isSome)
      (hschool : ∀ id, new.scope.schoolId = some id → (t.school? id).isSome)
      (id : Uuid) (hid : new.scope.organizationId = some id)
      (hunknown : t.organization? id = none) :
    FirstDangling t new "organization_id" id
  | group (huser : (t.user? new.userId).isSome)
      (hschool : ∀ id, new.scope.schoolId = some id → (t.school? id).isSome)
      (horganization : ∀ id, new.scope.organizationId = some id → (t.organization? id).isSome)
      (id : Uuid) (hid : new.scope.groupId = some id) (hunknown : t.group? id = none) :
    FirstDangling t new "group_id" id

theorem NewRoleGrant.FirstDangling.not_resolved {t : Tables} {new : NewRoleGrant} {field : String}
    {id : Uuid} (h : new.FirstDangling t field id) : ¬new.Resolved t := by
  intro hresolved
  cases h with
  | user hunknown => simpa [hunknown] using hresolved.user
  | school _ id hid hunknown => simpa [hunknown] using hresolved.school id hid
  | organization _ _ id hid hunknown => simpa [hunknown] using hresolved.organization id hid
  | group _ _ _ id hid hunknown => simpa [hunknown] using hresolved.group id hid

theorem Role.isScopeUnique_of_ne {role : Role} (h : role ≠ .guardian) : role.isScopeUnique := by
  cases role <;> first | rfl | exact absurd rfl h

/-! ## Reading the report -/

theorem Role.read?_word (role : Role) : Vocabulary.read? role.word = some role := by
  cases role <;> decide

/-- The word of a role is made of the same characters as the names of the schema. -/
def Role.schemaName (role : Role) : SchemaName where
  text := role.word
  ne_empty := by cases role <;> decide
  allowed := by cases role <;> decide

theorem Role.closing_notMem_word (role : Role) : ')' ∉ role.word.toList :=
  role.schemaName.notMem rfl

theorem Role.comma_notMem_word (role : Role) : ',' ∉ role.word.toList :=
  role.schemaName.notMem rfl

theorem Role.isBlank_of_mem_word (role : Role) : ∀ c ∈ role.word.toList, isBlank c = false :=
  fun _ hc => isBlank_of_isNameChar (role.schemaName.isNameChar_of_mem hc)

/-- The database finds the role granted already. -/
def Schema.grantedTwice (user : Uuid) (role : Role) (scope : Uuid) : StatementError :=
  uniqueViolation ViolationReport.roleScopeIndex "user_id, role, scope_id"
    (user.toText ++ ", " ++ role.word ++ ", " ++ scope.toText)

theorem roleConflict?_of_key? {text : String} {columns : List Char} (user : Uuid) (role : Role)
    (scope : Uuid)
    (hkey : key? text.toList = some (columns, [',', ' '].intercalate
      [user.toText.toList, role.word.toList, scope.toText.toList])) :
    ViolationReport.roleConflict? text = some (.roleAlreadyAssigned user role (some scope)) := by
  have hparts : parts ([',', ' '].intercalate
      [user.toText.toList, role.word.toList, scope.toText.toList]) =
        [user.toText.toList, role.word.toList, scope.toText.toList] := by
    apply parts_intercalate
    · simp [user.comma_notMem_toText, role.comma_notMem_word, scope.comma_notMem_toText]
    · simpa using ⟨user.isBlank_of_mem_toText, role.isBlank_of_mem_word,
        scope.isBlank_of_mem_toText⟩
  have hread : ∀ id : Uuid, Uuid.ofChars? id.toText.toList = some id := by
    intro id
    rw [Uuid.toText, String.toList_ofList, id.ofChars?_toChars]
  simp only [ViolationReport.roleConflict?, hkey, Option.bind_eq_bind, Option.bind_some, hparts,
    hread, String.ofList_toList, role.read?_word]

theorem toAppError_roleScopeIndex {message detail : String} {e : AppError}
    (hread : ViolationReport.roleConflict? (message ++ "\nDETAIL: " ++ detail) = some e)
    (operation : String) :
    (StatementError.reported
        { kind := .unique, message, detail,
          constraint := ViolationReport.roleScopeIndex }).toAppError operation = e := by
  apply toAppError_of_decode?
  simp only [ViolationReport.decode?, ViolationReport.uniqueError, ViolationReport.fullText,
    Option.getD_some, if_true, hread]

theorem grantedTwice_decodes (user : Uuid) (role : Role) (scope : Uuid) (operation : String) :
    (Schema.grantedTwice user role scope).toAppError operation =
      .roleAlreadyAssigned user role (some scope) := by
  have hmessage : 'K' ∉ ("duplicate key value violates unique constraint \"" ++
      ViolationReport.roleScopeIndex ++ "\"").toList := by decide
  have hvalues : (user.toText ++ ", " ++ role.word ++ ", " ++ scope.toText).toList =
      [',', ' '].intercalate [user.toText.toList, role.word.toList, scope.toText.toList] := by
    simp
  have hclosing : ')' ∉ (user.toText ++ ", " ++ role.word ++ ", " ++ scope.toText).toList := by
    simp [user.closing_notMem_toText, role.closing_notMem_word, scope.closing_notMem_toText]
  have hdetail : ("Key (user_id, role, scope_id)=(" ++
        (user.toText ++ ", " ++ role.word ++ ", " ++ scope.toText) ++ ") already exists.").toList =
      "Key (".toList ++ ("user_id, role, scope_id".toList ++ (")=(".toList ++
        ((user.toText ++ ", " ++ role.word ++ ", " ++ scope.toText).toList ++
          ')' :: " already exists.".toList))) := by
    simp
  have hkey := key?_detail hmessage (by decide) (by decide) hdetail
  rw [cutAt_eq_self_iff.mpr hclosing, hvalues] at hkey
  exact toAppError_roleScopeIndex (roleConflict?_of_key? user role scope hkey) operation

/-! ## What the stores find -/

theorem NewRoleGrant.checkGrant_cases {t : Tables} {new : NewRoleGrant} {stamp : Stamp}
    {e : AppError} (h : Memory.checkGrant t (new.row stamp) = .error e) :
    (∃ field id, new.FirstDangling t field id ∧
        e = Memory.invalidReference "user_roles" field id) ∨
      (new.Resolved t ∧ e = .roleAlreadyAssigned new.userId new.role new.scope.key) := by
  unfold Memory.checkGrant at h
  simp only [NewRoleGrant.row] at h
  rcases Memory.bind_refer_eq_error h with ⟨hunknown, rfl⟩ | ⟨huser, h⟩
  · rw [Option.isSome_eq_false_iff, Option.isNone_iff_eq_none] at hunknown
    exact .inl ⟨_, _, .user hunknown, rfl⟩
  rcases Memory.bind_referOptional_eq_error h with ⟨id, hid, hunknown, rfl⟩ | ⟨hschool, h⟩
  · rw [Option.isSome_eq_false_iff, Option.isNone_iff_eq_none] at hunknown
    exact .inl ⟨_, _, .school huser id hid hunknown, rfl⟩
  rcases Memory.bind_referOptional_eq_error h with ⟨id, hid, hunknown, rfl⟩ | ⟨horganization, h⟩
  · rw [Option.isSome_eq_false_iff, Option.isNone_iff_eq_none] at hunknown
    exact .inl ⟨_, _, .organization huser hschool id hid hunknown, rfl⟩
  rcases Memory.bind_referOptional_eq_error h with ⟨id, hid, hunknown, rfl⟩ | ⟨hgroup, h⟩
  · rw [Option.isSome_eq_false_iff, Option.isNone_iff_eq_none] at hunknown
    exact .inl ⟨_, _, .group huser hschool horganization id hid hunknown, rfl⟩
  refine .inr ⟨⟨huser, hschool, horganization, hgroup⟩, ?_⟩
  unfold Memory.refuseIf at h
  split at h
  · cases h
    rfl
  · cases h

section Held

variable {t : Tables} {user : Uuid} {role : Role} {scope : Uuid} {place : Scope}

theorem grantTaken_of_holdsRole (hrole : role ≠ .guardian) (hkey : place.key = some scope)
    (hholds : t.HoldsRole user role scope) (stamp : Stamp) :
    t.grantTaken (NewRoleGrant.row ⟨user, role, place⟩ stamp) = true := by
  have hunique : (NewRoleGrant.row ⟨user, role, place⟩ stamp).role.isScopeUnique :=
    Role.isScopeUnique_of_ne hrole
  exact (grantTaken_eq_true_iff hunique hkey).mpr hholds

/-- The database finds the role granted before it looks at the references. -/
theorem createGrant_database (hrole : role ≠ .guardian) (hkey : place.key = some scope)
    (hholds : t.HoldsRole user role scope) (stamp : Stamp) :
    t.serve Schema.policy stamp (.createGrant ⟨user, role, place⟩) =
      (.error (Schema.grantedTwice user role scope), t) := by
  have htaken := grantTaken_of_holdsRole hrole hkey hholds stamp
  have hstore : Schema.storeGrant t (NewRoleGrant.row ⟨user, role, place⟩ stamp) =
      .error (Schema.grantedTwice user role scope) := by
    unfold Schema.storeGrant
    rw [htaken]
    simp only [NewRoleGrant.row, Schema.scopeText, hkey]
    rfl
  exact congrArg (t.insertRow · t.addGrant) hstore

/-- The store in memory looks at the references first, and refuses the first one that dangles. -/
theorem createGrant_memory (hrole : role ≠ .guardian) (hkey : place.key = some scope)
    (hholds : t.HoldsRole user role scope) (stamp : Stamp) :
    (NewRoleGrant.Resolved t ⟨user, role, place⟩ →
        t.serve Memory.policy stamp (.createGrant ⟨user, role, place⟩) =
          (.error (.roleAlreadyAssigned user role (some scope)), t)) ∧
      (¬NewRoleGrant.Resolved t ⟨user, role, place⟩ → ∃ field id,
        NewRoleGrant.FirstDangling t ⟨user, role, place⟩ field id ∧
          t.serve Memory.policy stamp (.createGrant ⟨user, role, place⟩) =
            (.error (Memory.invalidReference "user_roles" field id), t)) := by
  have htaken := grantTaken_of_holdsRole hrole hkey hholds stamp
  have hserve : t.serve Memory.policy stamp (.createGrant ⟨user, role, place⟩) = _ :=
    Tables.insertRow_accept t Memory.checkGrant (NewRoleGrant.row ⟨user, role, place⟩ stamp)
      t.addGrant
  cases hcheck : Memory.checkGrant t (NewRoleGrant.row ⟨user, role, place⟩ stamp) with
  | ok u =>
    obtain ⟨_, _, _, _, hfree⟩ := Memory.checkGrant_eq_ok_iff.mp hcheck
    rw [htaken] at hfree
    cases hfree
  | error e =>
    rw [hcheck] at hserve
    rcases NewRoleGrant.checkGrant_cases hcheck with ⟨field, id, hfirst, rfl⟩ | ⟨hresolved, rfl⟩
    · exact ⟨fun hresolved => absurd hresolved hfirst.not_resolved,
        fun _ => ⟨field, id, hfirst, hserve⟩⟩
    · refine ⟨fun _ => ?_, fun hdangling => absurd hresolved hdangling⟩
      rw [hserve, hkey]

end Held

/-! ## The error of a role granted twice -/

theorem StatementError.report_of_roleAlreadyAssigned {e : StatementError} {operation : String}
    {user : Uuid} {role : Role} {scope : Option Uuid}
    (h : e.toAppError operation = .roleAlreadyAssigned user role scope) :
    ∃ r, e = .reported r ∧ r.kind = .unique ∧
      r.constraint = some ViolationReport.roleScopeIndex := by
  rcases e.toAppError_cases operation with ⟨r, rfl, hkind, herror⟩ | ⟨_, _, _, _, _, herror⟩ |
    ⟨_, herror⟩ | ⟨_, _, herror⟩ <;> rw [herror] at h
  · rcases r.uniqueError_cases with ⟨hindex, _⟩ | ⟨entity, field, value, hduplicate⟩
    · exact ⟨r, rfl, hkind, hindex⟩
    · rw [hduplicate] at h
      cases h
  all_goals cases h

/-- What the database reports for a role granted twice is read as the error that the store in
memory gives if all that the grant refers to is stored; if not, that store refuses the first
reference that dangles.  Any other violation of the index is a conflict too, and no other failure
is read so. -/
theorem role_conflicts_agree (operation : String) :
    (∀ (user : Uuid) (role : Role) (scope : Uuid), role ≠ .guardian →
      (Schema.grantedTwice user role scope).toAppError operation =
          .roleAlreadyAssigned user role (some scope) ∧
        ∀ (t : Tables) (stamp : Stamp) (place : Scope), place.key = some scope →
          t.HoldsRole user role scope →
            t.serve Schema.policy stamp (.createGrant ⟨user, role, place⟩) =
                (.error (Schema.grantedTwice user role scope), t) ∧
              (NewRoleGrant.Resolved t ⟨user, role, place⟩ →
                t.serve Memory.policy stamp (.createGrant ⟨user, role, place⟩) =
                  (.error ((Schema.grantedTwice user role scope).toAppError operation), t)) ∧
              (¬NewRoleGrant.Resolved t ⟨user, role, place⟩ → ∃ field id,
                NewRoleGrant.FirstDangling t ⟨user, role, place⟩ field id ∧
                  t.serve Memory.policy stamp (.createGrant ⟨user, role, place⟩) =
                    (.error (Memory.invalidReference "user_roles" field id), t))) ∧
    (∀ r : ViolationReport, r.kind = .unique →
      r.constraint = some ViolationReport.roleScopeIndex →
        ((StatementError.reported r).toAppError operation).kind = .conflict) ∧
    ∀ (e : StatementError) (user : Uuid) (role : Role) (scope : Option Uuid),
      e.toAppError operation = .roleAlreadyAssigned user role scope →
        ∃ r, e = .reported r ∧ r.kind = .unique ∧
          r.constraint = some ViolationReport.roleScopeIndex := by
  refine ⟨fun user role scope hrole => ?_, fun r hkind _ => ?_, fun e user role scope h => ?_⟩
  · have hread := grantedTwice_decodes user role scope operation
    refine ⟨hread, fun t stamp place hkey hholds => ?_⟩
    rw [hread]
    exact ⟨createGrant_database hrole hkey hholds stamp,
      createGrant_memory hrole hkey hholds stamp⟩
  · have hread : r.decode? = some r.uniqueError := by rw [ViolationReport.decode?, hkind]
    rw [toAppError_of_decode? hread operation]
    exact r.kind_uniqueError
  · exact StatementError.report_of_roleAlreadyAssigned h

theorem holdsRole_firstClass :
    firstClass.tables.HoldsRole (.ofNat 30) .student (.ofNat 20) := by
  unfold Tables.HoldsRole
  decide +kernel

theorem resolved_firstClass :
    NewRoleGrant.Resolved firstClass.tables ⟨.ofNat 30, .student, .school (.ofNat 20)⟩ where
  user := by decide +kernel
  school := by
    rintro id ⟨rfl⟩
    decide +kernel
  organization := nofun
  group := nofun

/-- The place of a student in a group that does not exist. -/
def strayPlace : Scope :=
  (Scope.school (.ofNat 20)).withGroup (some (.ofNat 99))

theorem firstDangling_strayPlace :
    NewRoleGrant.FirstDangling firstClass.tables ⟨.ofNat 30, .student, strayPlace⟩ "group_id"
      (.ofNat 99) := by
  refine .group ?_ ?_ ?_ _ rfl ?_
  · exact resolved_firstClass.user
  · exact resolved_firstClass.school
  · exact resolved_firstClass.organization
  · decide +kernel

theorem firstDangling_strayPlace_unique {field : String} {id : Uuid}
    (h : NewRoleGrant.FirstDangling firstClass.tables ⟨.ofNat 30, .student, strayPlace⟩ field id) :
    field = "group_id" ∧ id = .ofNat 99 := by
  cases h with
  | user hunknown => simpa [hunknown] using resolved_firstClass.user
  | school _ id hid hunknown => simpa [hunknown] using resolved_firstClass.school id hid
  | organization _ _ _ hid _ => cases hid
  | group _ _ _ id hid _ => exact ⟨rfl, (Option.some.inj hid).symm⟩

/-- The report of a violation of the index that tells nothing else. -/
def bareConflict : ViolationReport where
  kind := .unique
  message := "duplicate key value"
  constraint := ViolationReport.roleScopeIndex

theorem role_conflicts_agree_firstClass :
    (Role.student ≠ .guardian ∧ (Scope.school (.ofNat 20)).key = some (.ofNat 20) ∧
      firstClass.tables.HoldsRole (.ofNat 30) .student (.ofNat 20) ∧
      (firstClass.tables.serve Memory.policy default
          (.createGrant ⟨.ofNat 30, .student, .school (.ofNat 20)⟩)).1 =
        .error (.roleAlreadyAssigned (.ofNat 30) .student (some (.ofNat 20))) ∧
      (firstClass.tables.serve Memory.policy default
          (.createGrant ⟨.ofNat 30, .student, strayPlace⟩)).1 =
        .error (Memory.invalidReference "user_roles" "group_id" (.ofNat 99)) ∧
      (Schema.grantedTwice (.ofNat 30) .student (.ofNat 20)).toAppError "insert user_roles" =
        .roleAlreadyAssigned (.ofNat 30) .student (some (.ofNat 20))) ∧
    (bareConflict.kind = .unique ∧
      bareConflict.constraint = some ViolationReport.roleScopeIndex ∧
      ((StatementError.reported bareConflict).toAppError "insert user_roles").kind = .conflict) ∧
    ∃ r, Schema.grantedTwice (.ofNat 30) .student (.ofNat 20) = .reported r ∧ r.kind = .unique ∧
      r.constraint = some ViolationReport.roleScopeIndex := by
  obtain ⟨hagree, hconflict, honly⟩ := role_conflicts_agree "insert user_roles"
  have hrole : Role.student ≠ .guardian := by decide
  obtain ⟨hread, hstores⟩ := hagree (.ofNat 30) .student (.ofNat 20) hrole
  obtain ⟨-, htwice, -⟩ := hstores firstClass.tables default (.school (.ofNat 20)) rfl
    holdsRole_firstClass
  obtain ⟨-, -, hstray⟩ := hstores firstClass.tables default strayPlace rfl holdsRole_firstClass
  obtain ⟨field, id, hfirst, hrefused⟩ := hstray firstDangling_strayPlace.not_resolved
  obtain ⟨rfl, rfl⟩ := firstDangling_strayPlace_unique hfirst
  refine ⟨⟨hrole, rfl, holdsRole_firstClass, ?_, ?_, hread⟩, ⟨rfl, rfl, hconflict _ rfl rfl⟩,
    honly _ _ _ _ hread⟩
  · rw [htwice resolved_firstClass, hread]
  · rw [hrefused]

/-- The student is enrolled a second time, now in a group that does not exist: the store in
memory finds the group missing, and the database the role granted. -/
theorem strayGroup_hides_conflict :
    Reachable firstClass ∧ firstClass.tables.HoldsRole (.ofNat 30) .student (.ofNat 20) ∧
      strayPlace.key = some (.ofNat 20) ∧
      firstClass.tables.serve Memory.policy default
          (.createGrant ⟨.ofNat 30, .student, strayPlace⟩) =
        (.error (Memory.invalidReference "user_roles" "group_id" (.ofNat 99)),
          firstClass.tables) ∧
      (Schema.grantedTwice (.ofNat 30) .student (.ofNat 20)).toAppError "insert user_roles" =
        .roleAlreadyAssigned (.ofNat 30) .student (some (.ofNat 20)) ∧
      Memory.invalidReference "user_roles" "group_id" (.ofNat 99) ≠
        .roleAlreadyAssigned (.ofNat 30) .student (some (.ofNat 20)) := by
  have hcheck : Memory.checkGrant firstClass.tables
      (NewRoleGrant.row ⟨.ofNat 30, .student, strayPlace⟩ default) =
        .error (Memory.invalidReference "user_roles" "group_id" (.ofNat 99)) := by
    rfl
  have hserve := Tables.insertRow_accept firstClass.tables Memory.checkGrant
    (NewRoleGrant.row ⟨.ofNat 30, .student, strayPlace⟩ default) firstClass.tables.addGrant
  rw [hcheck] at hserve
  exact ⟨reachable_firstClass, holdsRole_firstClass, rfl, hserve,
    grantedTwice_decodes _ _ _ _, nofun⟩

end Registrar
