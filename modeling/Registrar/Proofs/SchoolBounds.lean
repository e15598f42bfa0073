import Registrar.Proofs.ReferentialIntegrity

/-!
# Rows of one school

Groups, students and grants name members of a school: a grade, a class teacher, a group.
Services look whether the member is there, never whether it is one of the same school.  So
the rows stay within their schools as long as the callers see to it, and the first call that
names a member of another school ends this (`school_bounds`, `acrossSchools_crosses`).
-/

namespace Registrar

/-! ## Members of schools -/

/-- What a row names as a member of its school. -/
structure Belonging where
  school : Option Uuid
  member : Reference
  deriving DecidableEq

def Scope.belongings (scope : Scope) : List Belonging :=
  scope.groupId.toList.map fun id => ⟨scope.schoolId, .group id⟩

def Group.belongings (row : Group) : List Belonging :=
  ⟨row.schoolId, .grade row.gradeId⟩ ::
    row.classTeacherId.toList.map fun id => ⟨row.schoolId, .profile .teacher id⟩

def ProfileRow.belongings (row : ProfileRow) : List Belonging :=
  row.placedIn.toList.map fun id => ⟨row.scopeId, .group id⟩

/-- What a call asks to be stored as members of schools. -/
def ServiceCall.belongings : ServiceCall → List Belonging
  | .addRoleToUser _ _ scope => scope.belongings
  | .addGroup new => (new.row default).belongings
  | .addProfile new => new.scope.belongings
  | _ => []

namespace Tables

/-- The school that a grade, a group or the profile of somebody in a school belongs to. -/
def schoolOf? (t : Tables) : Reference → Option Uuid
  | .grade id => (t.grade? id).map (·.schoolId)
  | .group id => (t.group? id).map (·.schoolId)
  | .profile .owner _ => none
  | .profile kind id => (t.profile? kind id).map (·.scopeId)
  | .organization _ | .school _ | .user _ | .grant _ => none

def belongings (t : Tables) : List Belonging :=
  t.groups.flatMap Group.belongings ++ t.grants.flatMap (·.scope.belongings) ++
    t.profiles.flatMap ProfileRow.belongings

/-- The member is one of the school. -/
def Bounds (t : Tables) (b : Belonging) : Prop :=
  t.schoolOf? b.member = b.school

instance (t : Tables) (b : Belonging) : Decidable (t.Bounds b) :=
  inferInstanceAs (Decidable (_ = _))

/-- Nothing crosses schools. -/
def WithinSchools (t : Tables) : Prop :=
  ∀ b ∈ t.belongings, t.Bounds b

instance (t : Tables) : Decidable t.WithinSchools :=
  inferInstanceAs (Decidable (∀ b ∈ t.belongings, t.Bounds b))

variable {t t' : Tables}

/-! ## Members that are there -/

theorem GrowsTo.schoolOf? (h : t.GrowsTo t') {r : Reference} (hr : t.knows r) :
    t'.schoolOf? r = t.schoolOf? r := by
  cases r with
  | organization id | school id | user id | grant id => rfl
  | grade id =>
    obtain ⟨row, hrow⟩ := Option.isSome_iff_exists.mp hr
    simp only [Tables.schoolOf?, hrow, h.grade? hrow]
  | group id =>
    obtain ⟨row, hrow⟩ := Option.isSome_iff_exists.mp hr
    simp only [Tables.schoolOf?, hrow, h.group? hrow]
  | profile kind id =>
    obtain ⟨row, hrow⟩ := Option.isSome_iff_exists.mp hr
    cases kind <;> simp only [Tables.schoolOf?, hrow, h.profile? hrow]

theorem GrowsTo.bounds_iff (h : t.GrowsTo t') {b : Belonging} (hb : t.knows b.member) :
    t'.Bounds b ↔ t.Bounds b := by
  unfold Bounds
  rw [h.schoolOf? hb]

theorem knows_of_scope {row : RoleGrantRow} (hrow : ∀ r ∈ row.references, t.knows r) :
    ∀ b ∈ row.scope.belongings, t.knows b.member := by
  intro b hb
  obtain ⟨id, hid, rfl⟩ := List.mem_map.mp hb
  exact hrow _ (List.mem_cons_of_mem _ (List.mem_append_right _ (List.mem_map_of_mem hid)))

theorem knows_of_group {row : Group} (hrow : ∀ r ∈ row.references, t.knows r) :
    ∀ b ∈ row.belongings, t.knows b.member := by
  intro b hb
  rcases List.mem_cons.mp hb with rfl | hteacher
  · exact hrow _ (by simp [Group.references])
  · obtain ⟨id, hid, rfl⟩ := List.mem_map.mp hteacher
    exact hrow _ (List.mem_append_right _ (List.mem_map_of_mem hid))

theorem knows_of_profile {row : ProfileRow} (hrow : ∀ r ∈ row.placement, t.knows r) :
    ∀ b ∈ row.belongings, t.knows b.member := by
  intro b hb
  obtain ⟨id, hid, rfl⟩ := List.mem_map.mp hb
  have hplaced : id ∈ row.groupId.toList := by
    unfold ProfileRow.placedIn at hid
    split at hid
    · exact hid
    · exact nomatch hid
  exact hrow _ (List.mem_map_of_mem hplaced)

theorem knows_belongings (hanchored : t.Anchored) (hplaced : t.Placed) :
    ∀ b ∈ t.belongings, t.knows b.member := by
  intro b hb
  simp only [belongings, List.mem_append, List.mem_flatMap] at hb
  rcases hb with (⟨row, hrow, hb⟩ | ⟨row, hrow, hb⟩) | ⟨row, hrow, hb⟩
  · refine knows_of_group (fun r hr => hanchored r ?_) b hb
    simp only [anchors, List.mem_append, List.mem_flatMap]
    exact .inl (.inl (.inl (.inr ⟨row, hrow, hr⟩)))
  · refine knows_of_scope (fun r hr => hanchored r ?_) b hb
    simp only [anchors, List.mem_append, List.mem_flatMap]
    exact .inl (.inl (.inr ⟨row, hrow, hr⟩))
  · exact knows_of_profile
      (fun r hr => hplaced r (List.mem_flatMap.mpr ⟨row, hrow, hr⟩)) b hb

/-! ## What one call adds -/

theorem withinSchools_grown {new : List Belonging} (hgrows : t.GrowsTo t')
    (hold : ∀ b ∈ t.belongings, t.knows b.member) (hnew : ∀ b ∈ new, t.knows b.member)
    (hmem : ∀ b, b ∈ t'.belongings ↔ b ∈ t.belongings ∨ b ∈ new) :
    t'.WithinSchools ↔ t.WithinSchools ∧ ∀ b ∈ new, t.Bounds b := by
  constructor
  · intro hwithin
    refine ⟨fun b hb => ?_, fun b hb => ?_⟩
    · exact (hgrows.bounds_iff (hold b hb)).mp (hwithin b ((hmem b).mpr (.inl hb)))
    · exact (hgrows.bounds_iff (hnew b hb)).mp (hwithin b ((hmem b).mpr (.inr hb)))
  · rintro ⟨hwithin, hbounds⟩ b hb
    rcases (hmem b).mp hb with hb | hb
    · exact (hgrows.bounds_iff (hold b hb)).mpr (hwithin b hb)
    · exact (hgrows.bounds_iff (hnew b hb)).mpr (hbounds b hb)

end Tables

/-- A student names the group that the grant names; other profiles name none. -/
theorem NewProfile.belongings_row (new : NewProfile) (roleId : Uuid) (stamp : Stamp) :
    (new.row roleId stamp).belongings = new.scope.belongings := by
  unfold ProfileRow.belongings ProfileRow.placedIn Scope.belongings NewProfile.scope row placedIn
  cases new.kind <;> rfl

theorem ServiceCall.Stores.mem_belongings {t t' : Tables} {call : ServiceCall}
    (h : call.Stores t t') (b : Belonging) :
    b ∈ t'.belongings ↔ b ∈ t.belongings ∨ b ∈ call.belongings := by
  cases h with
  | organization | school | grade | user => exact (or_iff_left List.not_mem_nil).symm
  | group new stamp hvalid hcheck =>
    have hrow : (new.row stamp).belongings = (new.row default).belongings := rfl
    simp only [Tables.belongings, ServiceCall.belongings, Tables.addGroup,
      List.flatMap_append, List.flatMap_singleton, List.mem_append, hrow]
    tauto
  | grant new stamp hscope hcheck =>
    have hscope : (new.row stamp).scope = new.scope := rfl
    simp only [Tables.belongings, ServiceCall.belongings, Tables.addGrant,
      List.flatMap_append, List.flatMap_singleton, List.mem_append, hscope]
    tauto
  | profile new first second hvalid hgrant hprofile =>
    have hscope : (new.grant first).scope = new.scope := rfl
    simp only [Tables.belongings, ServiceCall.belongings, Tables.addProfile, Tables.addGrant,
      List.flatMap_append, List.flatMap_singleton, List.mem_append, hscope, new.belongings_row]
    tauto
  | guardian new student first second hstudent hgrant hlink =>
    have hscope : (new.grant student first).scope.belongings = [] := rfl
    simp [Tables.belongings, ServiceCall.belongings, Tables.addGuardian, Tables.addGrant, hscope]

theorem ServiceCall.Stores.knows_belongings {t t' : Tables} {call : ServiceCall}
    (h : call.Stores t t') : ∀ b ∈ call.belongings, t.knows b.member := by
  cases h with
  | organization | school | grade | user | guardian => exact fun _ hb => nomatch hb
  | group new stamp hvalid hcheck =>
    exact Tables.knows_of_group (Tables.knows_of_checkGroup hcheck)
  | grant new stamp hscope hcheck =>
    exact Tables.knows_of_scope (Tables.knows_of_checkGrant hcheck)
  | profile new first second hvalid hgrant hprofile =>
    exact Tables.knows_of_scope (Tables.knows_of_checkGrant hgrant)

/-! ## Calls that keep to one school -/

/-- All that a call names belongs to the school that it is named for. -/
def ServiceCall.WithinSchool (call : ServiceCall) (t : Tables) : Prop :=
  ∀ b ∈ call.belongings, t.Bounds b

instance (call : ServiceCall) (t : Tables) : Decidable (call.WithinSchool t) :=
  inferInstanceAs (Decidable (∀ b ∈ call.belongings, t.Bounds b))

theorem Reached.placed {s : Store} (h : Reached s) : s.Holds Tables.Placed :=
  h.holds (fun _ hr => nomatch hr) fun _ _ hplaced hwrite => hwrite.placed hplaced

/-- Stores that are reached by calls all of which keep to one school. -/
inductive ReachedWithin : Store → Prop
  | empty : ReachedWithin .empty
  | service {s : Store} (moments : Nat → Tick) (ctx : Ctx) (call : ServiceCall)
      (hreach : ReachedWithin s) (hcall : call.WithinSchool s.tables) :
    ReachedWithin (Course.run ⟨s, moments⟩ (call.program ctx)).state
  | begin {s : Store} (tick : Tick) (ctx : Ctx) (hreach : ReachedWithin s) :
    ReachedWithin (s.answer tick (.begin ctx)).state
  | commit {s : Store} (h : Handle) (hreach : ReachedWithin s) : ReachedWithin (s.commit h).2
  | rollback {s : Store} (h : Handle) (hreach : ReachedWithin s) :
    ReachedWithin (s.rollback h).2
  | drop {s : Store} (h : Handle) (hreach : ReachedWithin s) : ReachedWithin (s.drop h)

theorem ReachedWithin.reached {s : Store} (h : ReachedWithin s) : Reached s := by
  induction h with
  | empty => exact .empty
  | service moments ctx call hreach hcall ih => exact .service moments ctx call ih
  | begin tick ctx hreach ih => exact .begin tick ctx ih
  | commit h hreach ih => exact .commit h ih
  | rollback h hreach ih => exact .rollback h ih
  | drop h hreach ih => exact .drop h ih

/-- A call that writes leaves the rows within their schools exactly if they were and the call
keeps to one school. -/
theorem Reached.withinSchools_iff {s : Store} (hreach : Reached s) (moments : Nat → Tick)
    (ctx : Ctx) (call : ServiceCall) :
    let after := (Course.run ⟨s, moments⟩ (call.program ctx)).state
    after.opened = s.opened ∧
      (after.tables = s.tables ∨
        (after.tables.WithinSchools ↔
          s.tables.WithinSchools ∧ call.WithinSchool s.tables)) := by
  intro after
  obtain ⟨hopened, hsame | hstores⟩ := (Service.stores_program call).run moments
  · exact ⟨hopened, .inl hsame⟩
  · have hold : ∀ b ∈ s.tables.belongings, s.tables.knows b.member :=
      Tables.knows_belongings hreach.called.anchored.now hreach.placed.now
    exact ⟨hopened, .inr (Tables.withinSchools_grown (.of_insertions hstores.write.insertions)
      hold hstores.knows_belongings hstores.mem_belongings)⟩

theorem ReachedWithin.holds {s : Store} (h : ReachedWithin s) :
    s.Holds Tables.WithinSchools := by
  induction h with
  | empty => exact ⟨fun _ hb => (nomatch hb), fun _ hu => nomatch hu⟩
  | begin tick ctx hreach ih => exact (Store.turn_begin _ tick ctx).holds ih
  | commit h hreach ih => exact (Store.turn_commit _ h).holds ih
  | rollback h hreach ih => exact (Store.turn_rollback _ h).holds ih
  | drop h hreach ih => exact (Store.turn_rollback _ h).holds ih
  | service moments ctx call hreach hcall ih =>
    obtain ⟨hopened, htables⟩ := hreach.reached.withinSchools_iff moments ctx call
    refine ⟨?_, fun u hu => ih.before u (hopened ▸ hu)⟩
    rcases htables with hsame | hwithin
    · exact hsame ▸ ih.now
    · exact hwithin.mpr ⟨ih.now, hcall⟩

/-- Calls that keep to one school each lead only to stores in which nothing crosses schools.
In every other store, too, a call that writes leaves nothing that crosses schools exactly if
there was nothing before and the call keeps to one school: no service sees to it. -/
theorem school_bounds {s : Store} (hreach : Reached s) :
    (ReachedWithin s → s.tables.WithinSchools) ∧
      ∀ (moments : Nat → Tick) (ctx : Ctx) (call : ServiceCall),
        let after := (Course.run ⟨s, moments⟩ (call.program ctx)).state
        after.tables = s.tables ∨
          (after.tables.WithinSchools ↔
            s.tables.WithinSchools ∧ call.WithinSchool s.tables) :=
  ⟨fun hwithin => hwithin.holds.now,
    fun moments ctx call => (hreach.withinSchools_iff moments ctx call).2⟩

theorem ReachedWithin.afterService {s : Store} {first : Nat} {call : ServiceCall}
    (hreach : ReachedWithin s) (hcall : call.WithinSchool s.tables) :
    ReachedWithin (s.afterService first call) :=
  .service _ _ _ hreach hcall

/-- The first class, and a second school in the same organization. -/
def secondSchool : Store :=
  firstClass.afterService 110 (.addSchool ⟨.ofNat 10, "Second School"⟩)

/-- A group of the second school with a grade and a teacher of the first, a student of the
second school in the group of the first, and a headmaster of the second for that group. -/
def acrossSchools : Store :=
  secondSchool
    |>.afterService 120 (.addGroup ⟨.ofNat 110, .ofNat 60, some (.ofNat 52), "5B"⟩)
    |>.afterService 130
      (.addProfile ⟨.student, .ofNat 40, .ofNat 110, some (.ofNat 70), none, none⟩)
    |>.afterService 140
      (.addRoleToUser (.ofNat 40) .headmaster ⟨some (.ofNat 110), none, some (.ofNat 70)⟩)

theorem reachedWithin_secondSchool : ReachedWithin secondSchool := by
  have husers : ReachedWithin firstUsers := by
    unfold firstUsers
    refine (((ReachedWithin.empty.afterService ?_).afterService ?_).afterService
      ?_).afterService ?_
    all_goals decide
  unfold secondSchool firstClass
  refine ((((((husers.afterService ?_).afterService ?_).afterService ?_).afterService
    ?_).afterService ?_).afterService ?_).afterService ?_
  all_goals decide +kernel

/-- Nothing crosses schools before a group of the second school is made in the grade of the
first, and this group does. -/
theorem school_bounds_secondSchool :
    (Reached secondSchool ∧ ReachedWithin secondSchool) ∧ secondSchool.tables.WithinSchools ∧
      ¬ (secondSchool.afterService 120
        (.addGroup ⟨.ofNat 110, .ofNat 60, none, "5B"⟩)).tables.WithinSchools := by
  have hreach := reachedWithin_secondSchool
  have hbounds := school_bounds hreach.reached
  refine ⟨⟨hreach.reached, hreach⟩, hbounds.1 hreach, ?_⟩
  have hchanged : (secondSchool.afterService 120
      (.addGroup ⟨.ofNat 110, .ofNat 60, none, "5B"⟩)).tables ≠ secondSchool.tables := by
    decide +kernel
  have hcrosses : ¬ (ServiceCall.addGroup ⟨.ofNat 110, .ofNat 60, none, "5B"⟩).WithinSchool
      secondSchool.tables := by
    decide +kernel
  have hwithin := (hbounds.2 _ _ _).resolve_left hchanged
  exact fun hafter => hcrosses (hwithin.mp hafter).2

/-- All four kinds of belonging are crossed in a store that services have reached: a grade
and a class teacher of a group, the group of a student, and the groups of two grants. -/
theorem acrossSchools_crosses :
    Reachable acrossSchools ∧ ¬ acrossSchools.tables.WithinSchools ∧
      acrossSchools.tables.belongings.filter (fun b => ¬ acrossSchools.tables.Bounds b) =
        [⟨some (.ofNat 110), .grade (.ofNat 60)⟩,
          ⟨some (.ofNat 110), .profile .teacher (.ofNat 52)⟩,
          ⟨some (.ofNat 110), .group (.ofNat 70)⟩,
          ⟨some (.ofNat 110), .group (.ofNat 70)⟩,
          ⟨some (.ofNat 110), .group (.ofNat 70)⟩] := by
  have hreach : Reachable acrossSchools := by
    unfold acrossSchools secondSchool
    refine (((reachable_firstClass.afterService ?_).afterService ?_).afterService
      ?_).afterService ?_
    all_goals decide +kernel
  exact ⟨hreach, by decide +kernel, by decide +kernel⟩

end Registrar
