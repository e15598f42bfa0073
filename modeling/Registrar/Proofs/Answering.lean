import Registrar.Proofs.Checks

/-!
# How the store in memory answers

A request that is let through to the tables looks rows up or adds one; a call
that is stopped before them changes nothing and fails with an error that no check
of a row ever gives.
-/

namespace Registrar

namespace Request

/-- The requests that add no row. -/
def isLookup : Request → Bool
  | .createUser _ | .createGrant _ | .createOrganization _ | .createSchool _
  | .createGrade _ | .createGroup _ | .createProfile _ _ | .createGuardian _ _ => false
  | _ => true

end Request

/-- The errors of a call that was stopped before the tables: its deadline had
come, or its handle names no open unit of this store. -/
def AppError.isStop : AppError → Bool
  | .deadlineExceeded _ | .transactionClosed _ | .internal _ => true
  | _ => false

namespace Tables

variable {α : Type}

theorem insertRow_accept (t : Tables) (check : Tables → α → Result Unit) (row : α)
    (add : α → Tables) :
    t.insertRow (Memory.accept check t row) add =
      match check t row with
      | .ok () => (.ok row, add row)
      | .error e => (.error e, t) := by
  unfold Memory.accept
  cases check t row <;> rfl

theorem insertRow_cases (t : Tables) (check : Tables → α → Result Unit) (row : α)
    (add : α → Tables) :
    (check t row = .ok () ∧
        t.insertRow (Memory.accept check t row) add = (.ok row, add row)) ∨
      ∃ e, check t row = .error e ∧
        t.insertRow (Memory.accept check t row) add = (.error e, t) := by
  rw [insertRow_accept]
  cases check t row with
  | ok u => exact .inl ⟨rfl, rfl⟩
  | error e => exact .inr ⟨e, rfl, rfl⟩

theorem serve_lookup (t : Tables) (stamp : Stamp) {request : Request}
    (h : request.isLookup) :
    (t.serve Memory.policy stamp request).2 = t := by
  cases request <;> first | rfl | simp [Request.isLookup] at h

theorem serve_lookup_ok (t : Tables) {request : Request} (h : request.isLookup) :
    ∃ value, ∀ stamp, t.serve Memory.policy stamp request = (.ok value, t) := by
  cases request <;>
    first
    | exact ⟨_, fun _ => rfl⟩
    | simp [Request.isLookup] at h

end Tables

namespace Memory

private theorem kind_of_insertRow_accept {α : Type} {t : Tables}
    {check : Tables → α → Result Unit} {row : α} {add : α → Tables} {e : AppError}
    (hrefuses : Refuses (check t row))
    (h : (t.insertRow (accept check t row) add).1 = .error e) : e.kind ≠ .internal := by
  rw [Tables.insertRow_accept] at h
  cases hcheck : check t row with
  | ok u => simp [hcheck] at h
  | error cause =>
    have hcause : cause = e := by simpa [hcheck] using h
    subst hcause
    exact hrefuses cause hcheck

private theorem kind_of_serve {t : Tables} {stamp : Stamp} {request : Request}
    {e : AppError} (h : (t.serve policy stamp request).1 = .error e) :
    e.kind ≠ .internal := by
  cases request with
  | createUser new => exact kind_of_insertRow_accept refuses_checkUser h
  | createGrant new => exact kind_of_insertRow_accept refuses_checkGrant h
  | createOrganization new => cases h
  | createSchool new => exact kind_of_insertRow_accept refuses_checkSchool h
  | createGrade new => exact kind_of_insertRow_accept refuses_checkGrade h
  | createGroup new => exact kind_of_insertRow_accept refuses_checkGroup h
  | createProfile roleId new => exact kind_of_insertRow_accept refuses_checkProfile h
  | createGuardian roleId new => exact kind_of_insertRow_accept refuses_checkGuardian h
  | _ => cases h

/-- Whatever a request that reached the tables fails with, it does not look as if
it had been stopped. -/
theorem isStop_of_serve {t : Tables} {stamp : Stamp} {request : Request} {e : AppError}
    (h : (t.serve policy stamp request).1 = .error e) : e.isStop = false := by
  have hkind := kind_of_serve h
  unfold AppError.isStop
  split
  · exact absurd rfl hkind
  · exact absurd rfl hkind
  · exact absurd rfl hkind
  · rfl

end Memory

/-! ## Calls on the store -/

namespace Store

@[simp] theorem perform_opened (s : Store) (stamp : Stamp) (request : Request) :
    (s.perform stamp request).2.opened = s.opened := rfl

@[simp] theorem perform_tables (s : Store) (stamp : Stamp) (request : Request) :
    (s.perform stamp request).2.tables =
      (s.tables.serve Memory.policy stamp request).2 := rfl

@[simp] theorem perform_answer (s : Store) (stamp : Stamp) (request : Request) :
    (s.perform stamp request).1 = (s.tables.serve Memory.policy stamp request).1 := rfl

theorem perform_lookup (s : Store) (stamp : Stamp) {request : Request}
    (h : request.isLookup) : (s.perform stamp request).2 = s := by
  have htables := Tables.serve_lookup s.tables stamp h
  simp [perform, htables]

/-- A request that adds a row if a check lets it. -/
theorem insert_cases {α : Type} (s : Store) (check : Tables → α → Result Unit) (row : α)
    (add : α → Tables) :
    (check s.tables row = .ok () ∧
        ((s.tables.insertRow (Memory.accept check s.tables row) add).1,
          (⟨(s.tables.insertRow (Memory.accept check s.tables row) add).2, s.opened⟩ : Store)) =
          (.ok row, ⟨add row, s.opened⟩)) ∨
      ∃ e, check s.tables row = .error e ∧
        ((s.tables.insertRow (Memory.accept check s.tables row) add).1,
          (⟨(s.tables.insertRow (Memory.accept check s.tables row) add).2, s.opened⟩ : Store)) =
          (.error e, s) := by
  rcases s.tables.insertRow_cases check row add with ⟨hcheck, hrow⟩ | ⟨e, hcheck, hrow⟩
  · left
    rw [hrow]
    exact ⟨hcheck, rfl⟩
  · right
    rw [hrow]
    exact ⟨e, hcheck, rfl⟩

theorem perform_createGrant (s : Store) (stamp : Stamp) (new : NewRoleGrant) :
    (Memory.checkGrant s.tables (new.row stamp) = .ok () ∧
        s.perform stamp (.createGrant new) =
          (.ok (new.row stamp), ⟨s.tables.addGrant (new.row stamp), s.opened⟩)) ∨
      ∃ e, Memory.checkGrant s.tables (new.row stamp) = .error e ∧
        s.perform stamp (.createGrant new) = (.error e, s) :=
  s.insert_cases Memory.checkGrant (new.row stamp) s.tables.addGrant

theorem perform_createProfile (s : Store) (stamp : Stamp) (roleId : Uuid)
    (new : NewProfile) :
    (Memory.checkProfile stamp.order s.tables (new.row roleId stamp) = .ok () ∧
        s.perform stamp (.createProfile roleId new) =
          (.ok (new.row roleId stamp),
            ⟨s.tables.addProfile (new.row roleId stamp), s.opened⟩)) ∨
      ∃ e, Memory.checkProfile stamp.order s.tables (new.row roleId stamp) = .error e ∧
        s.perform stamp (.createProfile roleId new) = (.error e, s) :=
  s.insert_cases (Memory.checkProfile stamp.order) (new.row roleId stamp) s.tables.addProfile

theorem perform_createGuardian (s : Store) (stamp : Stamp) (roleId : Uuid)
    (new : NewGuardian) :
    (Memory.checkGuardian s.tables (new.row roleId stamp) = .ok () ∧
        s.perform stamp (.createGuardian roleId new) =
          (.ok (new.row roleId stamp),
            ⟨s.tables.addGuardian (new.row roleId stamp), s.opened⟩)) ∨
      ∃ e, Memory.checkGuardian s.tables (new.row roleId stamp) = .error e ∧
        s.perform stamp (.createGuardian roleId new) = (.error e, s) :=
  s.insert_cases Memory.checkGuardian (new.row roleId stamp) s.tables.addGuardian

theorem unitOf_eq_ok_iff {s : Store} {h : Handle} {u : OpenUnit} :
    s.unitOf h = .ok u ↔
      (∃ there, h.home = .memory there) ∧ s.opened = some u ∧ u.id = h.id := by
  unfold unitOf
  cases hhome : h.home with
  | memory there =>
    cases hopened : s.opened with
    | none => simp
    | some opened =>
      by_cases hid : opened.id = h.id
      · simp only [hid, if_true, Except.ok.injEq, Option.some.injEq]
        constructor
        · rintro rfl
          exact ⟨⟨there, rfl⟩, rfl, hid⟩
        · rintro ⟨_, rfl, _⟩
          rfl
      · simp only [hid, if_false, reduceCtorEq, Option.some.injEq, false_iff]
        rintro ⟨_, rfl, hid'⟩
        exact hid hid'
  | database => simp
  | elsewhere => simp

theorem unitOf_congr {s s' : Store} (hopened : s'.opened = s.opened) (h : Handle) :
    s'.unitOf h = s.unitOf h := by
  simp [unitOf, hopened]

theorem isStop_of_unitOf {s : Store} {h : Handle} {e : AppError}
    (herror : s.unitOf h = .error e) : e.isStop := by
  unfold unitOf at herror
  split at herror
  · split at herror
    · split at herror
      · cases herror
      · cases herror
        rfl
    · cases herror
      rfl
  · cases herror
    rfl

/-- A request is answered from the tables, or stopped before them. -/
theorem ask_cases (s : Store) (tick : Tick) (ctx : Ctx) (request : Request) :
    (∃ e, e.isStop ∧ s.ask tick ctx request = .answered (.error e) s) ∨
      (s.ask tick ctx request = .waiting ∧ ctx.handle = none ∧ s.opened.isSome) ∨
      (s.ask tick ctx request =
          .answered (s.perform tick.stamp request).1 (s.perform tick.stamp request).2 ∧
        match ctx.handle with
        | none => s.opened = none
        | some h => ∃ u, s.unitOf h = .ok u) := by
  unfold ask
  by_cases hover : ctx.isOver tick.now
  · left
    rw [if_pos hover]
    exact ⟨.deadlineExceeded (Memory.operation request), rfl, rfl⟩
  · rw [if_neg hover]
    cases hhandle : ctx.handle with
    | some h =>
      simp only
      cases hunit : s.unitOf h with
      | ok u =>
        right
        right
        exact ⟨rfl, u, rfl⟩
      | error e =>
        left
        exact ⟨e, isStop_of_unitOf hunit, rfl⟩
    | none =>
      cases hopened : s.opened with
      | some u =>
        right
        left
        simp
      | none =>
        right
        right
        exact ⟨rfl, rfl⟩

theorem ask_inside {s : Store} {tick : Tick} {ctx : Ctx} {request : Request}
    {h : Handle} {u : OpenUnit} (hctx : ctx.handle = some h)
    (hunit : s.unitOf h = .ok u) (htime : ctx.isOver tick.now = false) :
    s.ask tick ctx request =
      .answered (s.perform tick.stamp request).1 (s.perform tick.stamp request).2 := by
  simp [ask, htime, hctx, hunit]

theorem ask_plain {s : Store} {tick : Tick} {ctx : Ctx} {request : Request}
    (hctx : ctx.handle = none) (hopened : s.opened = none)
    (htime : ctx.isOver tick.now = false) :
    s.ask tick ctx request =
      .answered (s.perform tick.stamp request).1 (s.perform tick.stamp request).2 := by
  simp [ask, htime, hctx, hopened]

end Store

end Registrar
