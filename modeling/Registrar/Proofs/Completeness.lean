import Registrar.Proofs.Resolution
import Registrar.Proofs.Listing
import Registrar.Proofs.SchoolBounds

/-!
# Nothing is missing from what is read

A key without a row would leave its field empty, and a teacher or a student without a user
would not be shown at all.  On a store that services have been through, neither occurs: every
read that ends with a value shows the rows of all keys, those of a school or a group inside it
included (`reads_complete`).
-/

namespace Registrar

open Program Service

/-- The field shows the row of the key, if there is a key. -/
def Filled {α : Type} (key : Option Uuid) (field : Option α) (isRow : Uuid → α → Prop) :
    Prop :=
  ∀ id, key = some id → ∃ row, field = some row ∧ isRow id row

namespace Tables

variable (t : Tables)

/-! ## Rows with their own relations -/

def IsUser (id : Uuid) (user : User) : Prop :=
  user.id = id ∧ t.user? id = some user

def IsOrganization (id : Uuid) (organization : OrganizationShort) : Prop :=
  organization.id = id ∧ t.organizationShort? id = some organization

def IsGrade (id : Uuid) (grade : Grade) : Prop :=
  grade.id = id ∧ t.grade? id = some grade

/-- A profile is shown with the names of its user. -/
def Names (kind : ProfileKind) (id userId : Uuid) (firstName lastName : String) : Prop :=
  ∃ row user, t.profile? kind id = some row ∧ userId = row.userId ∧ t.IsUser userId user ∧
    firstName = user.firstName ∧ lastName = user.lastName

def IsTeacher (id : Uuid) (teacher : TeacherShort) : Prop :=
  teacher.id = id ∧ t.Names .teacher id teacher.userId teacher.firstName teacher.lastName

def IsStudent (id : Uuid) (student : StudentShort) : Prop :=
  student.id = id ∧ t.Names .student id student.userId student.firstName student.lastName

def IsSchool (id : Uuid) (school : SchoolShort) : Prop :=
  school.id = id ∧ t.schoolShort? id = some { school with organization := none } ∧
    Filled (some school.organizationId) school.organization t.IsOrganization

def IsGroup (id : Uuid) (group : GroupShort) : Prop :=
  group.id = id ∧ t.groupShort? id = some { group with grade := none, classTeacher := none } ∧
    Filled (some group.gradeId) group.grade t.IsGrade ∧
    Filled group.classTeacherId group.classTeacher t.IsTeacher

structure ShowsProfile (p : Profile) : Prop where
  user : Filled (some p.userId) p.user t.IsUser
  school : p.kind.role.scopeKind = .school → Filled (some p.scopeId) p.school t.IsSchool
  organization : p.kind.role.scopeKind = .organization →
    Filled (some p.scopeId) p.organization t.IsOrganization
  group : Filled p.placedIn p.group t.IsGroup

structure ShowsGrant (grant : RoleGrant) : Prop where
  school : Filled grant.scope.schoolId grant.school t.IsSchool
  organization : Filled grant.scope.organizationId grant.organization t.IsOrganization
  group : Filled grant.scope.groupId grant.group t.IsGroup

structure ShowsLink (link : GuardianLink) : Prop where
  user : Filled (some link.userId) link.user t.IsUser
  student : Filled (some link.studentId) link.student t.IsStudent

/-! ## Joins -/

variable {t} {id : Uuid}

theorem isUser_of_knows (h : t.knows (.user id)) :
    ∃ user, t.user? id = some user ∧ t.IsUser id user := by
  obtain ⟨user, huser⟩ := Option.isSome_iff_exists.mp h
  exact ⟨user, huser, id_of_user? huser, huser⟩

theorem isOrganization_of_knows (h : t.knows (.organization id)) :
    ∃ row, t.organizationShort? id = some row ∧ t.IsOrganization id row := by
  have hsome : (t.organizationShort? id).isSome := Option.isSome_map.trans h
  obtain ⟨row, hrow⟩ := Option.isSome_iff_exists.mp hsome
  exact ⟨row, hrow, id_of_organizationShort? hrow, hrow⟩

theorem Anchored.isTeacher_of_knows (h : t.Anchored) (hteacher : t.knows (.profile .teacher id)) :
    ∃ row, t.teacherShort? id = some row ∧ t.IsTeacher id row := by
  obtain ⟨teacher, hfound⟩ := Option.isSome_iff_exists.mp hteacher
  obtain ⟨user, huser⟩ := Option.isSome_iff_exists.mp (h.user_of_profile? hfound)
  exact ⟨_, teacherShort?_eq_some_iff.mpr ⟨teacher, user, hfound, huser, rfl⟩,
    id_of_profile? hfound, teacher, user, hfound, rfl, ⟨id_of_user? huser, huser⟩, rfl, rfl⟩

theorem Anchored.isStudent_of_knows (h : t.Anchored) (hstudent : t.knows (.profile .student id)) :
    ∃ row, t.studentShort? id = some row ∧ t.IsStudent id row := by
  obtain ⟨student, hfound⟩ := Option.isSome_iff_exists.mp hstudent
  obtain ⟨user, huser⟩ := Option.isSome_iff_exists.mp (h.user_of_profile? hfound)
  exact ⟨_, studentShort?_eq_some_iff.mpr ⟨student, user, hfound, huser, rfl⟩,
    id_of_profile? hfound, student, user, hfound, rfl, ⟨id_of_user? huser, huser⟩, rfl, rfl⟩

theorem isSchool_joinSchool (h : t.Anchored) {school : SchoolShort}
    (hschool : t.schoolShort? id = some school) : t.IsSchool id (t.joinSchool school) := by
  obtain ⟨row, hrow, rfl⟩ := Option.map_eq_some_iff.mp hschool
  have hid : row.short.id = id := id_of_schoolShort? hschool
  refine ⟨hid, hschool, ?_⟩
  rintro _ ⟨⟩
  have horganization := h.organization_of_school hschool
  exact isOrganization_of_knows (Option.isSome_map.symm.trans horganization)

theorem isGroup_joinGroup (h : t.Anchored) {group : GroupShort}
    (hgroup : t.groupShort? id = some group) : t.IsGroup id (t.joinGroup group) := by
  obtain ⟨hgrade, hteacher⟩ := h.references_of_group hgroup
  obtain ⟨row, hrow, rfl⟩ := Option.map_eq_some_iff.mp hgroup
  have hid : row.short.id = id := id_of_groupShort? hgroup
  refine ⟨hid, hgroup, ?_, fun teacher hkey => ?_⟩
  · rintro _ ⟨⟩
    obtain ⟨grade, hfound⟩ := Option.isSome_iff_exists.mp hgrade
    exact ⟨grade, hfound, id_of_grade? hfound, hfound⟩
  · have hclass : row.short.classTeacherId = some teacher := hkey
    simp only [joinGroup, hclass, Option.bind_some]
    exact h.isTeacher_of_knows (hteacher teacher hclass)

theorem isSchool_of_knows (h : t.Anchored) (hschool : t.knows (.school id)) :
    ∃ row, t.joinedSchool? id = some row ∧ t.IsSchool id row := by
  have hsome : (t.schoolShort? id).isSome := Option.isSome_map.trans hschool
  obtain ⟨school, hfound⟩ := Option.isSome_iff_exists.mp hsome
  exact ⟨_, congrArg (Option.map _) hfound, isSchool_joinSchool h hfound⟩

theorem isGroup_of_knows (h : t.Anchored) (hgroup : t.knows (.group id)) :
    ∃ row, t.joinedGroup? id = some row ∧ t.IsGroup id row := by
  have hsome : (t.groupShort? id).isSome := Option.isSome_map.trans hgroup
  obtain ⟨group, hfound⟩ := Option.isSome_iff_exists.mp hsome
  exact ⟨_, congrArg (Option.map _) hfound, isGroup_joinGroup h hfound⟩

/-- A key whose row is known is shown by looking it up. -/
theorem filled_bind {α : Type} {key : Option Uuid} {look : Uuid → Option α}
    {isRow : Uuid → α → Prop} (h : ∀ id, key = some id → ∃ row, look id = some row ∧ isRow id row) :
    Filled key (key.bind look) isRow := by
  rintro id rfl
  exact h id rfl

section Stored

variable (hresolve : ∀ r ∈ t.references, t.knows r)
include hresolve

theorem anchored_of_resolve : t.Anchored :=
  fun r hr => hresolve r (List.mem_append_left _ hr)

theorem knows_of_mem_profiles {row : ProfileRow} (hrow : row ∈ t.profiles) :
    t.knows (.user row.userId) ∧ t.knows (row.kind.scopeReference row.scopeId) ∧
      ∀ id, row.placedIn = some id → t.knows (.group id) := by
  have hknown := (anchored_of_resolve hresolve).of_mem_profiles hrow
  have huser : .user row.userId ∈ row.anchors := by simp [ProfileRow.anchors]
  have hscope : row.kind.scopeReference row.scopeId ∈ row.anchors := by simp [ProfileRow.anchors]
  refine ⟨hknown _ huser, hknown _ hscope, ?_⟩
  intro id hid
  apply hresolve
  have hplacement : .group id ∈ row.placement := by
    unfold ProfileRow.placedIn at hid
    split at hid
    · simp [ProfileRow.placement, hid]
    · cases hid
  exact List.mem_append_right _ (List.mem_flatMap.mpr ⟨row, hrow, hplacement⟩)

theorem knows_of_mem_guardians {row : GuardianRow} (hrow : row ∈ t.guardians) :
    t.knows (.user row.userId) ∧ t.knows (.profile .student row.studentId) := by
  have hknown : ∀ r ∈ row.references, t.knows r := by
    intro r hr
    apply anchored_of_resolve hresolve
    simp only [anchors, List.mem_append, List.mem_flatMap]
    exact .inr ⟨row, hrow, hr⟩
  have huser : .user row.userId ∈ row.references := by simp [GuardianRow.references]
  have hstudent : .profile .student row.studentId ∈ row.references := by
    simp [GuardianRow.references]
  exact ⟨hknown _ huser, hknown _ hstudent⟩

theorem showsProfile_joinProfile {row : ProfileRow} (hrow : row ∈ t.profiles) :
    t.ShowsProfile (t.joinProfile row.bare) := by
  have hanchored := anchored_of_resolve hresolve
  obtain ⟨huser, hscope, hgroup⟩ := knows_of_mem_profiles hresolve hrow
  unfold ProfileKind.scopeReference at hscope
  unfold joinProfile
  cases hkind : row.kind.role.scopeKind with
  | school =>
    rw [hkind] at hscope
    have hbare : row.bare.kind.role.scopeKind = .school := hkind
    simp only [hbare]
    refine ⟨?_, ?_, ?_, ?_⟩
    · rintro _ ⟨⟩
      exact isUser_of_knows huser
    · rintro - _ ⟨⟩
      exact isSchool_of_knows hanchored hscope
    · intro horganization
      cases hkind.symm.trans horganization
    · exact filled_bind fun id hid => isGroup_of_knows hanchored (hgroup id hid)
  | organization =>
    rw [hkind] at hscope
    have hbare : row.bare.kind.role.scopeKind = .organization := hkind
    simp only [hbare]
    refine ⟨?_, ?_, ?_, ?_⟩
    · rintro _ ⟨⟩
      exact isUser_of_knows huser
    · intro hschool
      cases hkind.symm.trans hschool
    · rintro - _ ⟨⟩
      exact isOrganization_of_knows hscope
    · intro id hid
      have hstudent : row.kind = .student := kind_of_placedIn hid
      rw [hstudent] at hkind
      cases hkind

theorem showsGrant_joinGrant {row : RoleGrantRow} (hrow : row ∈ t.grants) :
    t.ShowsGrant (t.joinGrant row.bare) := by
  have hanchored := anchored_of_resolve hresolve
  have hknown : ∀ r ∈ row.references, t.knows r := by
    intro r hr
    apply hanchored
    simp only [anchors, List.mem_append, List.mem_flatMap]
    exact .inl (.inl (.inr ⟨row, hrow, hr⟩))
  refine ⟨filled_bind fun id hid => ?school, filled_bind fun id hid => ?organization,
    filled_bind fun id hid => ?group⟩
  case school =>
    have hid : row.scope.schoolId = some id := hid
    exact isSchool_of_knows hanchored (hknown _ (by simp [RoleGrantRow.references, hid]))
  case organization =>
    have hid : row.scope.organizationId = some id := hid
    exact isOrganization_of_knows (hknown _ (by simp [RoleGrantRow.references, hid]))
  case group =>
    have hid : row.scope.groupId = some id := hid
    exact isGroup_of_knows hanchored (hknown _ (by simp [RoleGrantRow.references, hid]))

theorem showsLink_joinLink {row : GuardianRow} (hrow : row ∈ t.guardians) :
    t.ShowsLink (t.joinLink row.bare) := by
  obtain ⟨huser, hstudent⟩ := knows_of_mem_guardians hresolve hrow
  refine ⟨?_, ?_⟩
  · rintro _ ⟨⟩
    exact isUser_of_knows huser
  · rintro _ ⟨⟩
    exact (anchored_of_resolve hresolve).isStudent_of_knows hstudent

end Stored

end Tables

/-! ## Reads that end with a value -/

section Giving

variable {α : Type} {s : Store} {ctx : Ctx} {wanted : α → Prop}

/-- Whenever the calls are made, a value that the program ends with is wanted. -/
def Program.GivesOnly (p : Program α) (s : Store) (wanted : α → Prop) : Prop :=
  ∀ moments a s', Course.run ⟨s, moments⟩ p = .ended (.ok a) s' → wanted a

theorem givesOnly_of_reads {p : Program α} {value : α}
    (hreads : p.Reads ctx (· = s.tables) (· = value)) (hvalue : wanted value) :
    p.GivesOnly s wanted := by
  intro moments a s' hrun
  have hcomes : Course.ComesTo ⟨s, moments⟩ ctx p value := hreads.comesTo
  rw [(hcomes.only a s' hrun).1]
  exact hvalue

theorem givesOnly_ask {request : Request} {f : request.Answer → Program α}
    (hlookup : request.isLookup)
    (hserved : ∀ stamp answer, (s.tables.serve Memory.policy stamp request).1 = .ok answer →
      (f answer).GivesOnly s wanted) :
    (ask ctx request >>= f).GivesOnly s wanted := by
  intro moments a s' hrun
  obtain ⟨next, hcall, hstopped, hgoesOn⟩ : ∃ next : Result request.Answer → Program α,
      (ask ctx request >>= f) = .call (.ask ctx request) next ∧
        (∀ e, next (.error e) = .fail e) ∧ ∀ answer, next (.ok answer) = f answer :=
    ⟨_, rfl, fun _ => rfl, fun _ => rfl⟩
  rw [hcall] at hrun
  rcases Course.run_lookup_cases ⟨s, moments⟩ ctx hlookup hstopped with
    ⟨e, _, hended⟩ | hstuck | hgoes
  · cases hended.symm.trans hrun
  · cases hstuck.symm.trans hrun
  · rw [hgoes] at hrun
    cases hanswer : (s.tables.serve Memory.policy (moments 0).stamp request).1 with
    | error e =>
      simp only [hanswer, hstopped] at hrun
      cases hrun
    | ok answer =>
      simp only [hanswer, hgoesOn] at hrun
      exact hserved _ answer hanswer _ a s' hrun

theorem givesOnly_found {ρ : Type} {entity : String} {id : Uuid} {row? : Option ρ}
    {f : ρ → Program α} (hrow : ∀ row, row? = some row → (f row).GivesOnly s wanted) :
    (found entity id row? >>= f).GivesOnly s wanted := by
  cases row? with
  | none =>
    intro moments a s' hrun
    cases hrun
  | some row => exact hrow row rfl

theorem givesOnly_hydrateOne [Hydratable α] {join : α → α} {item : α}
    (hjoin : ∀ {r : Related} {item : α}, r.Shows s.tables (Hydratable.keys item) →
      Hydratable.hydrate r item = join item) (hitem : wanted (join item)) :
    (hydrateOne ctx item).GivesOnly s wanted := by
  have hreads : (hydrateOne ctx item).Reads ctx (· = s.tables) (· = join item) := by
    apply reads_hydrateOne hjoin
    rintro _ rfl
    constructor <;> exact fun _ _ => rfl
  exact givesOnly_of_reads hreads hitem

theorem givesOnly_hydrateMany [Hydratable α] {join : α → α} {items : List α}
    (hjoin : ∀ {r : Related} {item : α}, r.Shows s.tables (Hydratable.keys item) →
      Hydratable.hydrate r item = join item) (hitems : ∀ item ∈ items, wanted (join item)) :
    (hydrateMany ctx items).GivesOnly s fun shown => ∀ a ∈ shown, wanted a := by
  have hreads : (hydrateMany ctx items).Reads ctx (· = s.tables) (· = items.map join) := by
    apply reads_hydrateMany hjoin
    rintro _ rfl
    constructor <;> exact fun _ _ => rfl
  exact givesOnly_of_reads hreads (by simpa using hitems)

theorem givesOnly_page [Hydratable α] {ρ : Type} {bare : ρ → α} {join : α → α} {rows : List ρ}
    {total : Nat}
    (hjoin : ∀ {r : Related} {item : α}, r.Shows s.tables (Hydratable.keys item) →
      Hydratable.hydrate r item = join item) (hrows : ∀ row ∈ rows, wanted (join (bare row))) :
    (do
      let items ← hydrateMany ctx (rows.map bare)
      return (items, total) : Program (List α × Nat)).GivesOnly s
        fun page => ∀ a ∈ page.1, wanted a := by
  have hreads : (do
      let items ← hydrateMany ctx (rows.map bare)
      return (items, total) : Program (List α × Nat)).Reads ctx (· = s.tables)
        (· = (rows.map fun row => join (bare row), total)) := by
    refine reads_bind _ (reads_shown hjoin) ?_
    rintro _ rfl
    rfl
  exact givesOnly_of_reads hreads (by simpa using hrows)

end Giving

/-! ## The reads -/

section Services

variable {s : Store} (hresolve : ∀ r ∈ s.tables.references, s.tables.knows r) (ctx : Ctx)
include hresolve

theorem givesOnly_profileById (kind : ProfileKind) (id : Uuid) :
    (profileById ctx kind id).GivesOnly s s.tables.ShowsProfile := by
  refine givesOnly_ask rfl fun stamp row? hserved => givesOnly_found fun row hrow => ?_
  have hfound : s.tables.profile? kind id = some row := (Except.ok.inj hserved).trans hrow
  have hmem := List.mem_of_mem_filter (List.mem_of_find?_eq_some hfound)
  exact givesOnly_hydrateOne hydrate_profile (Tables.showsProfile_joinProfile hresolve hmem)

theorem givesOnly_listProfiles (kind : ProfileKind) (query : ProfileQuery) (listing : Listing) :
    (listProfiles ctx kind query listing).GivesOnly s fun page =>
      ∀ p ∈ page.1, s.tables.ShowsProfile p := by
  refine givesOnly_ask rfl fun stamp rows hserved => givesOnly_ask rfl fun _ total _ => ?_
  cases hserved
  refine givesOnly_page hydrate_profile fun row hrow => ?_
  have hmatch := Tables.mem_profilesMatching.mp (listing.mem_of_mem_apply hrow)
  exact Tables.showsProfile_joinProfile hresolve hmatch.1

theorem givesOnly_rolesOfUser (userId : Uuid) :
    (rolesOfUser ctx userId).GivesOnly s fun grants =>
      ∀ grant ∈ grants, s.tables.ShowsGrant grant := by
  refine givesOnly_ask rfl fun stamp rows hserved => givesOnly_hydrateMany hydrate_grant ?_
  cases hserved
  intro grant hgrant
  obtain ⟨row, hrow, rfl⟩ := List.mem_map.mp hgrant
  have hmem := List.mem_of_mem_filter (Listing.mem_of_mem_apply {} hrow)
  exact Tables.showsGrant_joinGrant hresolve hmem

theorem givesOnly_schoolById (id : Uuid) :
    (schoolById ctx id).GivesOnly s (s.tables.IsSchool id) := by
  refine givesOnly_ask rfl fun stamp row? hserved => givesOnly_found fun row hrow => ?_
  have hfound : s.tables.schoolShort? id = some row := (Except.ok.inj hserved).trans hrow
  have hanchored := Tables.anchored_of_resolve hresolve
  exact givesOnly_hydrateOne hydrate_school (Tables.isSchool_joinSchool hanchored hfound)

theorem givesOnly_groupsByIds (ids : List Uuid) :
    (groupsByIds ctx ids).GivesOnly s fun groups =>
      ∀ group ∈ groups, s.tables.IsGroup group.id group := by
  refine givesOnly_ask rfl fun stamp groups hserved => givesOnly_hydrateMany hydrate_group ?_
  cases hserved
  intro group hgroup
  obtain ⟨id, _, hfound⟩ := List.mem_filterMap.mp hgroup
  have hid : group.id = id := Tables.id_of_groupShort? hfound
  exact Tables.isGroup_joinGroup (Tables.anchored_of_resolve hresolve) (hid ▸ hfound)

theorem givesOnly_guardianById (id : Uuid) :
    (guardianById ctx id).GivesOnly s s.tables.ShowsLink := by
  refine givesOnly_ask rfl fun stamp row? hserved => givesOnly_found fun row hrow => ?_
  have hfound : s.tables.guardian? id = some row := (Except.ok.inj hserved).trans hrow
  have hmem := List.mem_of_find?_eq_some hfound
  exact givesOnly_hydrateOne hydrate_link (Tables.showsLink_joinLink hresolve hmem)

theorem givesOnly_listGuardians (query : GuardianQuery) (listing : Listing) :
    (listGuardians ctx query listing).GivesOnly s fun page =>
      ∀ link ∈ page.1, s.tables.ShowsLink link := by
  refine givesOnly_ask rfl fun stamp rows hserved => givesOnly_ask rfl fun _ total _ => ?_
  cases hserved
  refine givesOnly_page hydrate_link fun row hrow => ?_
  have hmem := List.mem_of_mem_filter (listing.mem_of_mem_apply hrow)
  exact Tables.showsLink_joinLink hresolve hmem

end Services

/-- On a store that services have been through, every read that ends with a value shows the
rows of all keys, at every level. -/
theorem reads_complete {s : Store} (hreach : Reached s) (ctx : Ctx) :
    (∀ kind id, (profileById ctx kind id).GivesOnly s s.tables.ShowsProfile) ∧
    (∀ kind query listing, (listProfiles ctx kind query listing).GivesOnly s fun page =>
      ∀ p ∈ page.1, s.tables.ShowsProfile p) ∧
    (∀ userId, (rolesOfUser ctx userId).GivesOnly s fun grants =>
      ∀ grant ∈ grants, s.tables.ShowsGrant grant) ∧
    (∀ id, (schoolById ctx id).GivesOnly s (s.tables.IsSchool id)) ∧
    (∀ ids, (groupsByIds ctx ids).GivesOnly s fun groups =>
      ∀ group ∈ groups, s.tables.IsGroup group.id group) ∧
    (∀ id, (guardianById ctx id).GivesOnly s s.tables.ShowsLink) ∧
    ∀ query listing, (listGuardians ctx query listing).GivesOnly s fun page =>
      ∀ link ∈ page.1, s.tables.ShowsLink link := by
  have hresolve := (references_resolve hreach).1
  exact ⟨givesOnly_profileById hresolve ctx, givesOnly_listProfiles hresolve ctx,
    givesOnly_rolesOfUser hresolve ctx, givesOnly_schoolById hresolve ctx,
    givesOnly_groupsByIds hresolve ctx, givesOnly_guardianById hresolve ctx,
    givesOnly_listGuardians hresolve ctx⟩

/-- The value that a run has ended with. -/
def Program.Reply.value? {α : Type} : Reply Store α → Option α
  | .ended (.ok a) _ => some a
  | _ => none

theorem Program.Reply.ended_of_value? {α : Type} {reply : Reply Store α} {a : α}
    (h : reply.value? = some a) : reply = .ended (.ok a) reply.state := by
  unfold value? at h
  split at h
  next s =>
    cases h
    rfl
  next => cases h

theorem reads_complete_firstClass :
    Reached firstClass ∧ ∃ p s',
      Course.run ⟨firstClass, default⟩ (profileById .background .student (.ofNat 82)) =
        .ended (.ok p) s' ∧
      p.groupId = some (.ofNat 70) ∧ firstClass.tables.ShowsProfile p := by
  have hreach : Reached firstClass := reachable_firstClass.reached
  have hgroup : (Course.run ⟨firstClass, default⟩
      (profileById .background .student (.ofNat 82))).value?.bind (·.groupId) =
        some (.ofNat 70) := by decide +kernel
  obtain ⟨p, hvalue, hplaced⟩ := Option.bind_eq_some_iff.mp hgroup
  have hrun := Program.Reply.ended_of_value? hvalue
  exact ⟨hreach, p, _, hrun, hplaced,
    (reads_complete hreach .background).1 .student (.ofNat 82) default p _ hrun⟩

end Registrar
