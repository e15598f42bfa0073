import Registrar.Proofs.Reachable

/-!
# Every profile rests on a grant

In every reachable store each profile and each guardian link has its own grant
of the role it stands for, in its own scope, and every grant fits its role.  The
grant is written by one service and the row that rests on it by another, inside
a unit of work that may be rolled back between the two.
-/

namespace Registrar

open Service

/-! ## Where a role may be held -/

/-- An owner holds the role in no school, and nobody else in an organization; and a group is
never without its school. -/
structure RoleGrantRow.Fits (grant : RoleGrantRow) : Prop where
  owner : grant.role = .owner → grant.scope.schoolId = none ∧ grant.scope.groupId = none
  others : grant.role ≠ .owner → grant.scope.organizationId = none
  group : ∀ group, grant.scope.groupId = some group → ∃ school, grant.scope.schoolId = some school

theorem Role.scopeKind_of_ne_owner {role : Role} (h : role ≠ .owner) :
    role.scopeKind = .school := by
  cases role <;> first | rfl | exact absurd rfl h

/-- Just what the service checks. -/
theorem RoleGrantRow.checkScope_eq_ok_iff {grant : RoleGrantRow} :
    checkScope grant.role grant.scope = .ok () ↔ grant.Fits := by
  have hcheck : checkScope grant.role grant.scope = .ok () ↔
      scopeFits grant.role grant.scope = true ∧
        ∀ group, grant.scope.groupId = some group →
          ∃ school, grant.scope.schoolId = some school := by
    unfold checkScope
    cases scopeFits grant.role grant.scope <;> cases grant.scope.groupId <;>
      cases grant.scope.schoolId <;> simp
  rw [hcheck]
  by_cases howner : grant.role = .owner
  case pos =>
    have hfits : scopeFits grant.role grant.scope = true ↔
        grant.scope.schoolId = none ∧ grant.scope.groupId = none := by
      simp [scopeFits, howner, Role.scopeKind]
    rw [hfits]
    exact ⟨fun h => ⟨fun _ => h.1, fun hother => absurd howner hother, h.2⟩,
      fun h => ⟨h.owner howner, h.group⟩⟩
  case neg =>
    have hfits : scopeFits grant.role grant.scope = true ↔ grant.scope.organizationId = none := by
      simp [scopeFits, Role.scopeKind_of_ne_owner howner]
    rw [hfits]
    exact ⟨fun h => ⟨fun hrole => absurd hrole howner, fun _ => h.1, h.2⟩,
      fun h => ⟨h.others howner, h.group⟩⟩

/-! ## Resting on a grant -/

/-- The grant is of the user, the role and the scope of the profile; the grant
of a student names the group too. -/
structure ProfileRow.RestsOn (row : ProfileRow) (grant : RoleGrantRow) : Prop where
  user : grant.userId = row.userId
  role : grant.role = row.kind.role
  scope : grant.scope.key = some row.scopeId
  group : row.kind = .student → grant.scope.groupId = row.groupId

/-- The grant makes the user of the link a guardian in the school of the
student. -/
structure GuardianRow.RestsOn (link : GuardianRow) (student : ProfileRow)
    (grant : RoleGrantRow) : Prop where
  user : grant.userId = link.userId
  role : grant.role = .guardian
  school : grant.scope.schoolId = some student.scopeId

theorem NewProfile.restsOn_grant (new : NewProfile) (first second : Stamp) :
    (new.row first.id second).RestsOn (new.grant first) where
  user := rfl
  role := rfl
  scope := new.key_scope
  group hstudent := by
    have hkind : new.kind = .student := hstudent
    simp [grant, NewRoleGrant.row, scope, hkind, ProfileKind.role, Role.scopeKind,
      Scope.withGroup, row]

namespace Tables

/-- The grants that rows rest on, by their identifiers. -/
def roleIds (t : Tables) : List Uuid :=
  t.profiles.map (·.roleId) ++ t.guardians.map (·.roleId)

/-- The same user has a profile of the same kind in the same scope. -/
def SameSeat (row other : ProfileRow) : Prop :=
  row.kind = other.kind ∧ row.userId = other.userId ∧ row.scopeId = other.scopeId

/-- All profiles and guardian links rest on grants, no two of them on the same;
no user has two profiles of one kind in one scope; and every grant is of a role
that may be held where it is held. -/
structure RolesGrounded (t : Tables) : Prop where
  profiles : ∀ row ∈ t.profiles, ∃ grant,
    t.grant? row.roleId = some grant ∧ row.RestsOn grant
  guardians : ∀ link ∈ t.guardians, ∃ student grant,
    t.profile? .student link.studentId = some student ∧
      t.grant? link.roleId = some grant ∧ link.RestsOn student grant
  once : t.roleIds.Nodup
  seats : t.profiles.Pairwise fun row other => ¬SameSeat row other
  fitting : ∀ grant ∈ t.grants, grant.Fits

/-! ## Looking rows up in longer tables -/

variable {t : Tables}

theorem grant?_addGrant {row grant : RoleGrantRow} {id : Uuid}
    (hgrant : t.grant? id = some grant) : (t.addGrant row).grant? id = some grant := by
  unfold grant? at hgrant ⊢
  rw [addGrant, List.find?_append, hgrant, Option.some_or]

theorem profile?_addProfile {row profile : ProfileRow} {kind : ProfileKind} {id : Uuid}
    (hprofile : t.profile? kind id = some profile) :
    (t.addProfile row).profile? kind id = some profile := by
  unfold profile? at hprofile ⊢
  rw [profilesOf_addProfile, List.find?_append, hprofile, Option.some_or]

theorem mem_ids_of_grant? {grant : RoleGrantRow} {id : Uuid}
    (hgrant : t.grant? id = some grant) : id ∈ t.ids := by
  have hmem : grant ∈ t.grants := List.mem_of_find?_eq_some hgrant
  have hid : grant.id = id := by
    have hfound := List.find?_some hgrant
    simpa using hfound
  have hids : grant.id ∈ t.grants.map (·.id) := List.mem_map_of_mem hmem
  rw [hid] at hids
  simp [ids, hids]

theorem grant?_addGrant_self {row : RoleGrantRow} (hnew : row.id ∉ t.ids) :
    (t.addGrant row).grant? row.id = some row := by
  have hnone : t.grant? row.id = none := by
    cases hgrant : t.grant? row.id with
    | none => rfl
    | some grant => exact absurd (mem_ids_of_grant? hgrant) hnew
  unfold grant? at hnone ⊢
  rw [addGrant, List.find?_append, hnone]
  simp

/-! ## Writing -/

theorem RolesGrounded.addGrant {row : RoleGrantRow} (hgrounded : t.RolesGrounded)
    (hfits : row.Fits) : (t.addGrant row).RolesGrounded where
  profiles profile hprofile := by
    obtain ⟨grant, hgrant, hrests⟩ := hgrounded.profiles profile hprofile
    exact ⟨grant, grant?_addGrant hgrant, hrests⟩
  guardians link hlink := by
    obtain ⟨student, grant, hstudent, hgrant, hrests⟩ := hgrounded.guardians link hlink
    exact ⟨student, grant, hstudent, grant?_addGrant hgrant, hrests⟩
  once := hgrounded.once
  seats := hgrounded.seats
  fitting grant hgrant := by
    rcases List.mem_append.mp hgrant with hold | hnew
    · exact hgrounded.fitting grant hold
    · rw [List.mem_singleton.mp hnew]
      exact hfits

theorem RolesGrounded.addProfile {row : ProfileRow} {grant : RoleGrantRow}
    (hgrounded : t.RolesGrounded) (hgrant : t.grant? row.roleId = some grant)
    (hrests : row.RestsOn grant) (hunused : row.roleId ∉ t.roleIds)
    (hseat : ∀ other ∈ t.profiles, ¬SameSeat other row) :
    (t.addProfile row).RolesGrounded where
  profiles profile hprofile := by
    rcases List.mem_append.mp hprofile with hold | hnew
    · exact hgrounded.profiles profile hold
    · rw [List.mem_singleton.mp hnew]
      exact ⟨grant, hgrant, hrests⟩
  guardians link hlink := by
    obtain ⟨student, grant, hstudent, hgrant, hrests⟩ := hgrounded.guardians link hlink
    exact ⟨student, grant, profile?_addProfile hstudent, hgrant, hrests⟩
  once := by
    have hperm : (t.addProfile row).roleIds.Perm (row.roleId :: t.roleIds) := by
      simp only [roleIds, Tables.addProfile, List.map_append, List.map_singleton,
        List.append_assoc, List.singleton_append]
      exact List.perm_middle
    exact hperm.nodup_iff.mpr (List.nodup_cons.mpr ⟨hunused, hgrounded.once⟩)
  seats := by
    refine List.pairwise_append.mpr ⟨hgrounded.seats, List.pairwise_singleton _ _, ?_⟩
    intro other hother profile hprofile
    rw [List.mem_singleton.mp hprofile]
    exact hseat other hother
  fitting := hgrounded.fitting

theorem RolesGrounded.addGuardian {link : GuardianRow} {student : ProfileRow}
    {grant : RoleGrantRow} (hgrounded : t.RolesGrounded)
    (hstudent : t.profile? .student link.studentId = some student)
    (hgrant : t.grant? link.roleId = some grant) (hrests : link.RestsOn student grant)
    (hunused : link.roleId ∉ t.roleIds) : (t.addGuardian link).RolesGrounded where
  profiles := hgrounded.profiles
  guardians other hother := by
    rcases List.mem_append.mp hother with hold | hnew
    · exact hgrounded.guardians other hold
    · rw [List.mem_singleton.mp hnew]
      exact ⟨student, grant, hstudent, hgrant, hrests⟩
  once := by
    have hlast : (t.addGuardian link).roleIds = t.roleIds ++ [link.roleId] := by
      simp [roleIds, Tables.addGuardian]
    rw [hlast]
    exact (List.perm_append_singleton _ _).nodup_iff.mpr
      (List.nodup_cons.mpr ⟨hunused, hgrounded.once⟩)
  seats := hgrounded.seats
  fitting := hgrounded.fitting

theorem RolesGrounded.roleIds_subset (hgrounded : t.RolesGrounded) : t.roleIds ⊆ t.ids := by
  intro id hid
  rcases List.mem_append.mp hid with hprofile | hlink
  · obtain ⟨row, hrow, rfl⟩ := List.mem_map.mp hprofile
    obtain ⟨grant, hgrant, _⟩ := hgrounded.profiles row hrow
    exact mem_ids_of_grant? hgrant
  · obtain ⟨row, hrow, rfl⟩ := List.mem_map.mp hlink
    obtain ⟨student, grant, _, hgrant, _⟩ := hgrounded.guardians row hrow
    exact mem_ids_of_grant? hgrant

/-- A grant that may be written is of no seat that is taken: a profile in it would
rest on a grant of the same user, role and scope. -/
theorem RolesGrounded.seat_free {new : NewProfile} {first second : Stamp}
    (hgrounded : t.RolesGrounded) (hgrant : Memory.checkGrant t (new.grant first) = .ok ()) :
    ∀ other ∈ t.profiles, ¬SameSeat other (new.row first.id second) := by
  rintro other hother ⟨hkind, huser, hscope⟩
  obtain ⟨_, _, _, _, hfree⟩ := Memory.checkGrant_eq_ok_iff.mp hgrant
  obtain ⟨grant, hlookup, hrests⟩ := hgrounded.profiles other hother
  have hnew := new.restsOn_grant first second
  have htaken : t.grantTaken (new.grant first) = true := by
    unfold grantTaken
    rw [Bool.and_eq_true, Bool.and_eq_true, List.any_eq_true]
    refine ⟨⟨?_, ?_⟩, grant, List.mem_of_find?_eq_some hlookup, ?_⟩
    · rw [hnew.role]
      exact ProfileKind.isScopeUnique_role _
    · rw [hnew.scope]
      rfl
    · simp only [hrests.user, hrests.role, hrests.scope, hnew.user, hnew.role, hnew.scope,
        hkind, huser, hscope, BEq.rfl, Bool.and_self]
  rw [hfree] at htaken
  cases htaken

theorem Distinct.of_perm {t t' : Tables} {id : Uuid} (hdistinct : t'.Distinct)
    (hperm : t'.ids.Perm (id :: t.ids)) : id ∉ t.ids ∧ t.Distinct :=
  List.nodup_cons.mp (hperm.nodup_iff.mp hdistinct)

/-- The identifier of the grant is new in the tables that the grant is written
to, if the identifiers are distinct once the row that rests on it is written. -/
theorem Distinct.new_grant {t after : Tables} {grant : RoleGrantRow} {id : Uuid}
    (hdistinct : after.Distinct) (hperm : after.ids.Perm (id :: (t.addGrant grant).ids)) :
    grant.id ∉ t.ids :=
  ((hdistinct.of_perm hperm).2.of_perm (t.ids_addGrant grant)).1

theorem RolesGrounded.write {t t' : Tables} (hgrounded : t.RolesGrounded)
    (hwrite : Write t t') (hdistinct : t'.Distinct) : t'.RolesGrounded := by
  cases hwrite with
  | organization | school | grade | group | user =>
    exact ⟨hgrounded.profiles, hgrounded.guardians, hgrounded.once, hgrounded.seats,
      hgrounded.fitting⟩
  | grant new stamp hscope hcheck =>
    have hfits : (new.row stamp).Fits := RoleGrantRow.checkScope_eq_ok_iff.mp hscope
    exact hgrounded.addGrant hfits
  | profile new first second hvalid hgrant hprofile =>
    have hnew : (new.grant first).id ∉ t.ids := hdistinct.new_grant (ids_addProfile _ _)
    have hfits : (new.grant first).Fits :=
      RoleGrantRow.checkScope_eq_ok_iff.mp (checkScope_scope new)
    have hunused : (new.grant first).id ∉ t.roleIds :=
      fun hid => hnew (hgrounded.roleIds_subset hid)
    exact (hgrounded.addGrant hfits).addProfile (grant?_addGrant_self hnew)
      (new.restsOn_grant first second) hunused (hgrounded.seat_free hgrant)
  | guardian new student first second hstudent hgrant hlink =>
    have hnew : (new.grant student first).id ∉ t.ids :=
      hdistinct.new_grant (ids_addGuardian _ _)
    have hfits : (new.grant student first).Fits := RoleGrantRow.checkScope_eq_ok_iff.mp rfl
    have hrests : (new.row first.id second).RestsOn student (new.grant student first) :=
      ⟨rfl, rfl, rfl⟩
    have hunused : (new.grant student first).id ∉ t.roleIds :=
      fun hid => hnew (hgrounded.roleIds_subset hid)
    exact (hgrounded.addGrant hfits).addGuardian hstudent (grant?_addGrant_self hnew) hrests
      hunused

theorem rolesGrounded_empty : Tables.empty.RolesGrounded where
  profiles _ hrow := nomatch hrow
  guardians _ hlink := nomatch hlink
  once := List.nodup_nil
  seats := List.Pairwise.nil
  fitting _ hgrant := nomatch hgrant

end Tables

/-- In every reachable store, profiles and guardian links rest on grants of their
own, and the grants fit their roles. -/
theorem roles_grounded {s : Store} (hreach : Reachable s) : s.tables.RolesGrounded :=
  hreach.induction Tables.rolesGrounded_empty
    fun _ _ hgrounded hwrite hdistinct => hgrounded.write hwrite hdistinct

/-- The store after a service whose calls get the identifiers from `first` on. -/
def Store.afterService (s : Store) (first : Nat) (call : ServiceCall) : Store :=
  (Course.run ⟨s, fun n => ⟨⟨0⟩, ⟨.ofNat (first + n), ⟨0⟩, default⟩⟩⟩
    (call.program .background)).state

theorem Reachable.afterService {s : Store} {first : Nat} {call : ServiceCall}
    (hreach : Reachable s)
    (hfresh : Course.Fresh (call.program .background)
      ⟨s, fun n => ⟨⟨0⟩, ⟨.ofNat (first + n), ⟨0⟩, default⟩⟩⟩) :
    Reachable (s.afterService first call) :=
  .service _ _ _ hreach hfresh

/-- A school with two users. -/
def firstUsers : Store :=
  Store.empty
    |>.afterService 10 (.addOrganization ⟨"Northern Schools"⟩)
    |>.afterService 20 (.addSchool ⟨.ofNat 10, "First School"⟩)
    |>.afterService 30 (.addUser ⟨"Ann", "Grey", none, .female, none, "ann@a.org", "hash"⟩)
    |>.afterService 40 (.addUser ⟨"Tom", "Grey", none, .male, none, "tom@a.org", "hash"⟩)

/-- One of the users is a student, and the other a guardian of the student. -/
def firstFamily : Store :=
  firstUsers
    |>.afterService 50 (.addProfile ⟨.student, .ofNat 30, .ofNat 20, none, none, none⟩)
    |>.afterService 70 (.assignGuardian ⟨.ofNat 40, .ofNat 52, .father⟩)

theorem reachable_firstUsers : Reachable firstUsers := by
  unfold firstUsers
  refine (((Reachable.empty.afterService ?_).afterService ?_).afterService ?_).afterService ?_
  all_goals decide

theorem roles_grounded_firstFamily :
    (firstFamily.tables.profiles.length = 1 ∧ firstFamily.tables.guardians.length = 1 ∧
      firstFamily.tables.grants.length = 2) ∧ firstFamily.tables.RolesGrounded := by
  have hreach : Reachable firstFamily := by
    unfold firstFamily
    refine (reachable_firstUsers.afterService ?_).afterService ?_
    all_goals decide
  exact ⟨by decide, roles_grounded hreach⟩

end Registrar
