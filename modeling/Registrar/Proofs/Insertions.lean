import Registrar.Proofs.Hydration
import Registrar.Proofs.Rows
import Registrar.Proofs.Uniqueness

/-!
# Insertion of one row

An insertion adds exactly one row, with the columns that it was given, or changes nothing.  It is
accepted if it gets to the tables, what the row refers to is there, and no row clashes with it
(`Store.insertion_answered_iff`).
The new row is then found by its identifier: in a unit of work for as long as the unit is open,
and by everybody from the moment when the unit is committed (`insertion_exact`).
-/

namespace Registrar

/-! ## Insertions and their rows -/

namespace Request

/-- The row that an insertion makes at a moment. -/
def newRow? (stamp : Stamp) : Request → Option Row
  | .createOrganization new => some (.organization (new.row stamp))
  | .createSchool new => some (.school (new.row stamp))
  | .createGrade new => some (.grade (new.row stamp))
  | .createGroup new => some (.group (new.row stamp))
  | .createUser new => some (.user (new.row stamp))
  | .createGrant new => some (.grant (new.row stamp))
  | .createProfile roleId new => some (.profile (new.row roleId stamp))
  | .createGuardian roleId new => some (.guardian (new.row roleId stamp))
  | _ => none

/-- The row that an insertion is answered with. -/
def rowOf? : (request : Request) → request.Answer → Option Row
  | .createOrganization _, row => some (.organization row)
  | .createSchool _, row => some (.school row)
  | .createGrade _, row => some (.grade row)
  | .createGroup _, row => some (.group row)
  | .createUser _, row => some (.user row)
  | .createGrant _, row => some (.grant row)
  | .createProfile _ _, row => some (.profile row)
  | .createGuardian _ _, row => some (.guardian row)
  | _, _ => none

/-- The insertion with what is stored of it: only a student is placed in a group. -/
def placed : Request → Request
  | .createProfile roleId new => .createProfile roleId { new with groupId := new.placedIn }
  | request => request

variable {request : Request} {stamp : Stamp} {row : Row}

theorem exists_newRow? (stamp : Stamp) (h : request.isLookup = false) :
    ∃ row, request.newRow? stamp = some row := by
  cases request <;> first | exact ⟨_, rfl⟩ | cases h

end Request

namespace Row

/-- The insertion that has the columns of the row. -/
def origin : Row → Request
  | .organization row => .createOrganization ⟨row.name⟩
  | .school row => .createSchool ⟨row.organizationId, row.name⟩
  | .grade row => .createGrade ⟨row.schoolId, row.level, row.name⟩
  | .group row => .createGroup ⟨row.schoolId, row.gradeId, row.classTeacherId, row.name⟩
  | .user row =>
    .createUser ⟨row.firstName, row.lastName, row.middleName, row.gender, row.phone, row.email,
      row.passwordHash⟩
  | .grant row => .createGrant ⟨row.userId, row.role, row.scope⟩
  | .profile row =>
    .createProfile row.roleId
      ⟨row.kind, row.userId, row.scopeId, row.groupId, row.phone, row.email⟩
  | .guardian row => .createGuardian row.roleId ⟨row.userId, row.studentId, row.relation⟩

/-- The look-up of the row by its identifier. -/
def sought : Row → Request
  | .organization row => .organizationsByIds [row.id]
  | .school row => .schoolById row.id
  | .grade row => .gradesByIds [row.id]
  | .group row => .groupsByIds [row.id]
  | .user row => .userById row.id
  | .grant row => .grantById row.id
  | .profile row => .profileById row.kind row.id
  | .guardian row => .guardianById row.id

/-- What that look-up is answered with if it finds the row. -/
def found : (row : Row) → row.sought.Answer
  | .organization row => [row.short]
  | .school row => some row.short
  | .grade row => [row]
  | .group row => [row.short]
  | .user row => some row
  | .grant row => some row
  | .profile row => some row
  | .guardian row => some row

theorem isLookup_sought (row : Row) : row.sought.isLookup := by
  cases row <;> rfl

variable {request : Request} {stamp : Stamp} {row : Row}

theorem id_of_newRow? (h : request.newRow? stamp = some row) : row.id = stamp.id := by
  cases request <;> cases h <;> rfl

theorem origin_of_newRow? (h : request.newRow? stamp = some row) :
    row.origin = request.placed := by
  cases request <;> cases h <;> rfl

theorem rows_addTo (t : Tables) (row : Row) : (row.addTo t).rows.Perm (row :: t.rows) := by
  classical
  refine List.perm_iff_count.mpr fun other => ?_
  cases row <;>
    simp [Tables.rows, addTo, Tables.addOrganization, Tables.addSchool, Tables.addGrade,
      Tables.addGroup, Tables.addUser, Tables.addGrant, Tables.addProfile, Tables.addGuardian,
      List.count_cons] <;>
    omega

end Row

/-! ## Accepted or refused -/

namespace Store

variable {s : Store} {request : Request} {stamp : Stamp} {row : Row}

private theorem accept_row {α : Type} (s : Store) (check : Tables → α → Result Unit) (row : α)
    (add : α → Tables) :
    ((s.tables.insertRow (Memory.accept check s.tables row) add).1,
      (⟨(s.tables.insertRow (Memory.accept check s.tables row) add).2, s.opened⟩ : Store)) =
      match check s.tables row with
      | .ok () => (.ok row, ⟨add row, s.opened⟩)
      | .error e => (.error e, s) := by
  rw [Tables.insertRow_accept]
  cases check s.tables row <;> rfl

/-- An insertion answers with its row and adds it, if the row passes its check; otherwise it
fails as the check does, and nothing changes. -/
theorem exists_perform (h : request.newRow? stamp = some row) :
    ∃ a, request.rowOf? a = some row ∧ ∀ s : Store,
      s.perform stamp request =
        match row.check stamp.order s.tables with
        | .ok () => (.ok a, ⟨row.addTo s.tables, s.opened⟩)
        | .error e => (.error e, s) := by
  cases request with
  | createOrganization new =>
    cases h
    exact ⟨new.row stamp, rfl, fun s => rfl⟩
  | createSchool new =>
    cases h
    exact ⟨new.row stamp, rfl, fun s => s.accept_row Memory.checkSchool _ s.tables.addSchool⟩
  | createGrade new =>
    cases h
    exact ⟨new.row stamp, rfl, fun s => s.accept_row Memory.checkGrade _ s.tables.addGrade⟩
  | createGroup new =>
    cases h
    exact ⟨new.row stamp, rfl, fun s => s.accept_row Memory.checkGroup _ s.tables.addGroup⟩
  | createUser new =>
    cases h
    exact ⟨new.row stamp, rfl, fun s => s.accept_row Memory.checkUser _ s.tables.addUser⟩
  | createGrant new =>
    cases h
    exact ⟨new.row stamp, rfl, fun s => s.accept_row Memory.checkGrant _ s.tables.addGrant⟩
  | createProfile roleId new =>
    cases h
    exact ⟨new.row roleId stamp, rfl,
      fun s => s.accept_row (Memory.checkProfile stamp.order) _ s.tables.addProfile⟩
  | createGuardian roleId new =>
    cases h
    exact ⟨new.row roleId stamp, rfl,
      fun s => s.accept_row Memory.checkGuardian _ s.tables.addGuardian⟩
  | _ => cases h

end Store

/-! ## The row by its identifier -/

namespace Tables

variable {t t' : Tables} {row : Row}

/-- The look-up of the row by its identifier finds it. -/
def Keeps (t : Tables) : Row → Prop
  | .organization row => t.organization? row.id = some row
  | .school row => t.school? row.id = some row
  | .grade row => t.grade? row.id = some row
  | .group row => t.group? row.id = some row
  | .user row => t.user? row.id = some row
  | .grant row => t.grant? row.id = some row
  | .profile row => t.profile? row.kind row.id = some row
  | .guardian row => t.guardian? row.id = some row

private theorem find?_concat {α : Type} {rows : List α} {row : α} (id : α → Uuid)
    (hrows : ∀ other ∈ rows, id other ≠ id row) :
    (rows ++ [row]).find? (fun other => id other == id row) = some row := by
  have hnone : rows.find? (fun other => id other == id row) = none :=
    List.find?_eq_none.mpr fun other hother => by simpa using hrows other hother
  rw [List.find?_append, hnone]
  simp

theorem keeps_addTo (hfresh : row.id ∉ t.ids) : (row.addTo t).Keeps row := by
  have hother : ∀ other ∈ t.rows, other.id ≠ row.id := fun other hmem hid =>
    hfresh (t.ids_eq_map_rows ▸ hid ▸ List.mem_map_of_mem hmem)
  rw [forall_rows] at hother
  obtain ⟨horganizations, hschools, hgrades, hgroups, husers, hgrants, hprofiles, hguardians⟩ :=
    hother
  cases row with
  | organization row => exact find?_concat Organization.id horganizations
  | school row => exact find?_concat School.id hschools
  | grade row => exact find?_concat Grade.id hgrades
  | group row => exact find?_concat Group.id hgroups
  | user row => exact find?_concat User.id husers
  | grant row => exact find?_concat RoleGrantRow.id hgrants
  | profile row =>
    change ((t.addProfile row).profilesOf row.kind).find? _ = _
    rw [profilesOf_addProfile, if_pos rfl]
    exact find?_concat ProfileRow.id fun other hmem =>
      hprofiles other (List.mem_of_mem_filter hmem)
  | guardian row => exact find?_concat GuardianRow.id hguardians

theorem GrowsTo.keeps (h : t.GrowsTo t') (hrow : t.Keeps row) : t'.Keeps row := by
  cases row with
  | organization row => exact h.organization? hrow
  | school row => exact h.school? hrow
  | grade row => exact h.grade? hrow
  | group row => exact h.group? hrow
  | user row => exact h.user? hrow
  | grant row => exact h.grant? hrow
  | profile row => exact h.profile? hrow
  | guardian row => exact h.guardians.find?_eq_some hrow

theorem Keeps.serve (h : t.Keeps row) (stamp : Stamp) :
    (t.serve Memory.policy stamp row.sought).1 = .ok row.found := by
  cases row <;> simp_all [Keeps, Row.sought, Row.found, Tables.serve, Memory.policy]

end Tables

namespace Store

variable {s s' : Store} {ctx : Ctx} {row : Row} {tick : Tick}

theorem answer_sought (hkeeps : s.tables.Keeps row) (hadmits : s.Admits ctx)
    (htime : ctx.isOver tick.now = false) :
    s.answer tick (.ask ctx row.sought) = .ended (.ok row.found) s := by
  rw [answer_lookup row.isLookup_sought hadmits htime, hkeeps.serve]

/-- The store is called while the unit that is open, if any, stays open. -/
def LaterWithin (s s' : Store) : Prop :=
  Relation.ReflTransGen (fun a b => a.Step none b ∧ b.opened = a.opened) s s'

theorem LaterWithin.opened (h : s.LaterWithin s') : s'.opened = s.opened := by
  induction h with
  | refl => rfl
  | tail _ hstep ih => exact hstep.2.trans ih

/-- A step that leaves the open unit as it is only adds rows. -/
theorem Step.grows {spared : Option Uuid} (h : s.Step spared s') (hopened : s'.opened = s.opened) :
    s.tables.GrowsTo s'.tables := by
  rcases h.turn_or_perform with hturn | ⟨stamp, request, rfl⟩
  · cases hturn with
    | nothing => exact .refl _
    | begun id hnone => exact .refl _
    | committed u hsome => exact .refl _
    | rolledBack u hsome => cases hsome.symm.trans hopened.symm
  · exact s.tables.grows_serve stamp request

theorem LaterWithin.grows (h : s.LaterWithin s') : s.tables.GrowsTo s'.tables := by
  induction h with
  | refl => exact .refl _
  | tail _ hstep ih => exact ih.trans (hstep.1.grows hstep.2)

/-- From now on, whenever no unit is open, the row is found by its identifier in every context
without a unit. -/
def Stands (s : Store) (row : Row) : Prop :=
  ∀ s', s.Later s' → s'.opened = none → ∀ (tick : Tick) (ctx : Ctx), ctx.handle = none →
    ctx.isOver tick.now = false →
    s'.answer tick (.ask ctx row.sought) = .ended (.ok row.found) s'

theorem stands_of_keeps (hopened : s.opened = none) (hkeeps : s.tables.Keeps row) :
    s.Stands row := by
  intro s' hlater hfree tick ctx hctx htime
  have hahead : s.Ahead := by
    unfold Ahead standing
    rw [hopened]
    exact .refl _
  have hstanding : s.standing.GrowsTo s'.standing := (hahead.later hlater).1
  unfold standing at hstanding
  rw [hopened, hfree] at hstanding
  refine answer_sought (hstanding.keeps hkeeps) ?_ htime
  unfold Admits
  rw [hctx]
  exact hfree

end Store

/-! ## The whole effect -/

namespace Store

variable {s s' : Store} {tick : Tick} {ctx : Ctx} {request : Request}

/-- A request in time, in a context that the store admits, is answered from the tables; any
other fails or waits for ever, and changes nothing. -/
theorem answer_ask_admitted (s : Store) (tick : Tick) (ctx : Ctx) (request : Request) :
    (s.Admits ctx ∧ ctx.isOver tick.now = false ∧ s.answer tick (.ask ctx request) =
        .ended (s.perform tick.stamp request).1 (s.perform tick.stamp request).2) ∨
      (¬(s.Admits ctx ∧ ctx.isOver tick.now = false) ∧
        ((∃ e, s.answer tick (.ask ctx request) = .ended (.error e) s) ∨
          s.answer tick (.ask ctx request) = .stuck s)) := by
  by_cases hlet : s.Admits ctx ∧ ctx.isOver tick.now = false
  · exact .inl ⟨hlet.1, hlet.2, answer_of_answered (ask_admitted hlet.1 hlet.2)⟩
  · refine .inr ⟨hlet, ?_⟩
    cases htime : ctx.isOver tick.now with
    | true =>
      exact .inl ⟨.deadlineExceeded (Memory.operation request),
        answer_of_answered (by simp [serve, ask, htime])⟩
    | false =>
      rcases s.ask_cases tick ctx request with ⟨e, _, hask⟩ | ⟨hask, _⟩ | ⟨_, hadmits⟩
      · exact .inl ⟨e, answer_of_answered hask⟩
      · cases hdeadline : ctx.deadline with
        | none => exact .inr (by simp [answer, serve, hask, World.deadlineOf, hdeadline])
        | some deadline =>
          exact .inl ⟨.deadlineExceeded (Memory.operation request), by
            simp [answer, serve, hask, World.deadlineOf, hdeadline, Backing.operation]⟩
      · exact absurd ⟨hadmits, htime⟩ hlet

/-- What an insertion in a context has done to a store. -/
structure Inserted (s : Store) (ctx : Ctx) (stamp : Stamp) (request : Request) (row : Row)
    (s' : Store) : Prop where
  id : row.id = stamp.id
  columns : row.origin = request.placed
  rows : s'.tables.rows.Perm (row :: s.tables.rows)
  opened : s'.opened = s.opened
  /-- Outside units of work the row is there at once, and for ever. -/
  outside : ctx.handle = none → s'.Stands row
  /-- In a unit of work the row is found for as long as the unit stays open, and for ever if
  it is committed. -/
  inside : ∀ h, ctx.handle = some h → ∀ later, s'.LaterWithin later →
    (∀ tick, ctx.isOver tick.now = false →
      later.answer tick (.ask ctx row.sought) = .ended (.ok row.found) later) ∧
    (later.commit h).1 = .ok () ∧ (later.commit h).2.Stands row

theorem inserted_of_newRow? {stamp : Stamp} {row : Row} (hadmits : s.Admits ctx)
    (hrow : request.newRow? stamp = some row) (hfresh : stamp.id ∉ s.tables.ids) :
    s.Inserted ctx stamp request row ⟨row.addTo s.tables, s.opened⟩ := by
  have hkeeps : (row.addTo s.tables).Keeps row :=
    Tables.keeps_addTo (Row.id_of_newRow? hrow ▸ hfresh)
  constructor
  case id => exact Row.id_of_newRow? hrow
  case columns => exact Row.origin_of_newRow? hrow
  case rows => exact Row.rows_addTo s.tables row
  case opened => rfl
  case outside =>
    intro hctx
    unfold Admits at hadmits
    rw [hctx] at hadmits
    exact stands_of_keeps hadmits hkeeps
  case inside =>
    intro h hctx later hlater
    unfold Admits at hadmits
    rw [hctx] at hadmits
    obtain ⟨u, hunit⟩ := hadmits
    have hlaterUnit : later.unitOf h = .ok u := (unitOf_congr hlater.opened h).trans hunit
    have hlaterKeeps : later.tables.Keeps row := hlater.grows.keeps hkeeps
    have hlaterAdmits : later.Admits ctx := by
      unfold Admits
      rw [hctx]
      exact ⟨u, hlaterUnit⟩
    have hcommit : later.commit h = (.ok (), ⟨later.tables, none⟩) := by
      simp [commit, hlaterUnit]
    rw [hcommit]
    exact ⟨fun _ htime => answer_sought hlaterKeeps hlaterAdmits htime, rfl,
      stands_of_keeps rfl hlaterKeeps⟩

/-- An insertion is answered with a row if it is in time, its context is admitted, and the row
refers to nothing that is missing and clashes with no other. -/
theorem insertion_answered_iff {row : Row} (hrow : request.newRow? tick.stamp = some row) :
    (∃ a s', s.answer tick (.ask ctx request) = .ended (.ok a) s') ↔
      (s.Admits ctx ∧ ctx.isOver tick.now = false) ∧
        (∀ r ∈ row.references, s.tables.knows r) ∧ ∀ other ∈ s.tables.rows, ¬other.Clashes row := by
  obtain ⟨a, _, hperform⟩ := exists_perform hrow
  rw [← Tables.Admits, ← @Row.check_eq_ok_iff tick.stamp.order]
  rcases s.answer_ask_admitted tick ctx request with
    ⟨hadmits, htime, hanswer⟩ | ⟨hnot, ⟨e, hanswer⟩ | hanswer⟩
  · rw [hanswer, hperform s]
    cases hcheck : row.check tick.stamp.order s.tables <;> simp [hadmits, htime]
  · simp [hanswer, hnot]
  · simp [hanswer, hnot]

end Store

/-- An insertion that fails, or waits for ever, changes nothing.  One that is answered with a
row has added exactly this row, with the columns that it was given: in its unit of work the
row is found by its identifier while the unit is open, and outside from the commit on. -/
theorem insertion_exact (s : Store) (tick : Tick) (ctx : Ctx) (request : Request)
    (hinsertion : request.isLookup = false) :
    (∀ s', s.answer tick (.ask ctx request) = .stuck s' → s' = s) ∧
      (∀ e s', s.answer tick (.ask ctx request) = .ended (.error e) s' → s' = s) ∧
      ∀ a s', s.answer tick (.ask ctx request) = .ended (.ok a) s' →
        tick.stamp.id ∉ s.tables.ids →
        ∃ row, request.rowOf? a = some row ∧ s.Inserted ctx tick.stamp request row s' := by
  obtain ⟨row, hrow⟩ := Request.exists_newRow? tick.stamp hinsertion
  obtain ⟨a, ha, hperform⟩ := Store.exists_perform hrow
  rcases s.answer_ask_admitted tick ctx request with
    ⟨hadmits, _, hanswer⟩ | ⟨_, ⟨e, hanswer⟩ | hanswer⟩
  · rw [hanswer, hperform s]
    cases row.check tick.stamp.order s.tables with
    | error e => simp
    | ok u =>
      refine ⟨fun _ h => (nomatch h), fun _ _ h => (nomatch h), fun _ _ h hfresh => ?_⟩
      cases h
      exact ⟨row, ha, Store.inserted_of_newRow? hadmits hrow hfresh⟩
  · simp [hanswer]
  · simp [hanswer]

/-- In the unit of work that is open on the first class, a grade is added. -/
theorem insertion_exact_firstClassAtWork :
    let ctx := Ctx.background.withHandle ⟨.ofNat 110, .memory 0⟩
    let tick : Tick := ⟨⟨0⟩, ⟨.ofNat 112, default, default⟩⟩
    let request : Request := .createGrade ⟨.ofNat 20, 11, "Last"⟩
    let row : Grade := ⟨.ofNat 112, .ofNat 20, 11, "Last"⟩
    request.isLookup = false ∧ tick.stamp.id ∉ firstClassAtWork.tables.ids ∧
      firstClassAtWork.Inserted ctx tick.stamp request (.grade row)
        ⟨firstClassAtWork.tables.addGrade row, firstClassAtWork.opened⟩ := by
  intro ctx tick request row
  have hanswer : firstClassAtWork.answer tick (.ask ctx request) =
      .ended (.ok row) ⟨firstClassAtWork.tables.addGrade row, firstClassAtWork.opened⟩ := by
    rfl
  have hfresh : tick.stamp.id ∉ firstClassAtWork.tables.ids := by decide +kernel
  obtain ⟨_, hrow, hinserted⟩ := (insertion_exact _ _ _ request rfl).2.2 _ _ hanswer hfresh
  cases hrow
  exact ⟨rfl, hfresh, hinserted⟩

/-- The row is not found any more in the same context when its deadline has come, nor when its
unit has been committed. -/
theorem insertion_sought_too_late :
    let h : Handle := ⟨.ofNat 1, .memory 0⟩
    let ctx := (Ctx.background.withDeadline ⟨1⟩).withHandle h
    let row : Organization := ⟨.ofNat 2, "North", default⟩
    let opened := Store.empty.afterCall 1 (.begin .background)
    let written : Store := ⟨Tables.empty.addOrganization row, opened.opened⟩
    let committed : Store := ⟨Tables.empty.addOrganization row, none⟩
    opened.answer ⟨⟨0⟩, ⟨.ofNat 2, default, default⟩⟩ (.ask ctx (.createOrganization ⟨"North"⟩)) =
        .ended (.ok row) written ∧
      written.answer ⟨⟨1⟩, default⟩ (.ask ctx (Row.organization row).sought) =
        .ended (.error (.deadlineExceeded "select edu_organizations by ids")) written ∧
      written.commit h = (.ok (), committed) ∧
      committed.answer ⟨⟨0⟩, default⟩ (.ask ctx (Row.organization row).sought) =
        .ended (.error (.transactionClosed h.id)) committed := by
  refine ⟨?_, ?_, ?_, ?_⟩ <;> rfl

end Registrar
