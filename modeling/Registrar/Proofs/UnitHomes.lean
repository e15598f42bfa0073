import Registrar.Proofs.Insertions
import Registrar.Store.Stores

/-!
# The home of a unit of work

Several stores in memory live side by side.  A handle does not ask on which of them it is used: a
call that is made with it works on the tables that its unit holds, and does what the store where
the unit was opened does with it (`Stores.serve_home`, `unit_leads_home`).  So the store that the
call is made on is never touched, however many such calls there are (`Stores.afterAll_moved`).
Only a handle of some other kind of storage is refused by all of them (`Stores.foreign_refused`).
-/

namespace Registrar

/-- The call is a request, a commit or a rollback that is made with the handle. -/
def Call.MadeWith (h : Handle) : Call → Prop
  | .ask ctx _ => ctx.handle = some h
  | .begin _ => False
  | .commit h' | .rollback h' => h' = h

/-- What a call leaves; nothing is changed while it waits. -/
def Served.left {σ α : Type} (served : Served σ α) (before : σ) : σ :=
  match served with
  | .answered _ after => after
  | .waiting => before

namespace Store

variable {s s' : Store} {h : Handle} {tick : Tick} {made : Call}

theorem perform_error {stamp : Stamp} {request : Request} {e : AppError}
    (herror : (s.perform stamp request).1 = .error e) : (s.perform stamp request).2 = s := by
  cases hlookup : request.isLookup with
  | true => exact s.perform_lookup stamp hlookup
  | false =>
    obtain ⟨row, hrow⟩ := Request.exists_newRow? stamp hlookup
    obtain ⟨a, _, hperform⟩ := exists_perform hrow
    rw [hperform s] at herror ⊢
    cases hcheck : row.check stamp.order s.tables with
    | ok u =>
      rw [hcheck] at herror
      cases herror
    | error cause => rfl

/-- A call with a handle never waits, and changes nothing if it fails. -/
theorem serve_madeWith (s : Store) (here : Nat) (tick : Tick) (hmade : made.MadeWith h) :
    ∃ answer s', s.serve here tick made = .answered answer s' ∧
      ∀ e, answer = .error e → s' = s := by
  cases made with
  | begin ctx => exact hmade.elim
  | ask ctx request =>
    rcases s.ask_cases tick ctx request with ⟨e, _, hask⟩ | ⟨_, hnone, _⟩ | ⟨hask, _⟩
    · exact ⟨_, s, hask, fun _ _ => rfl⟩
    · cases hnone.symm.trans hmade
    · exact ⟨_, _, hask, fun _ => perform_error⟩
  | commit h' | rollback h' =>
    simp only [Store.serve, Store.commit, Store.rollback]
    cases s.unitOf h' with
    | ok u =>
      refine ⟨.ok (), _, rfl, fun e he => ?_⟩
      cases he
    | error e => exact ⟨.error e, s, rfl, fun _ _ => rfl⟩

/-- A call with a handle that names no open unit of the store is stopped. -/
theorem serve_stopped (hmade : made.MadeWith h) (hclosed : ∀ u, s.unitOf h ≠ .ok u) (here : Nat) :
    ∃ e, e.isStop ∧ s.serve here tick made = .answered (.error e) s := by
  have herror : ∃ e, e.isStop ∧ s.unitOf h = .error e := by
    cases hunit : s.unitOf h with
    | ok u => exact absurd hunit (hclosed u)
    | error e => exact ⟨e, isStop_of_unitOf hunit, rfl⟩
  cases made with
  | begin ctx => exact hmade.elim
  | ask ctx request =>
    have hhandle : ctx.handle = some h := hmade
    rcases s.ask_cases tick ctx request with ⟨e, hstop, hask⟩ | ⟨_, hnone, _⟩ | ⟨_, hopen⟩
    · exact ⟨e, hstop, hask⟩
    · cases hnone.symm.trans hhandle
    · rw [hhandle] at hopen
      obtain ⟨u, hunit⟩ := hopen
      exact absurd hunit (hclosed u)
  | commit h' | rollback h' =>
    obtain ⟨e, hstop, hunit⟩ := herror
    cases hmade
    refine ⟨e, hstop, ?_⟩
    simp only [Store.serve, Store.commit, Store.rollback, hunit]

end Store

namespace Stores

variable {stores : Stores} {here there : Nat} {h : Handle} {tick : Tick} {made : Call}

theorem set_eq_self (stores : Stores) (there : Nat) : stores.set there (stores there) = stores := by
  funext n
  unfold set
  split
  next hn => rw [hn]
  next => rfl

theorem unitOf_home (stores : Stores) (hhome : h.home = .memory there) :
    stores.unitOf h = ((stores there).unitOf h).map fun opened => (there, opened) := by
  simp only [unitOf, hhome]
  cases (stores there).unitOf h with
  | ok opened => rfl
  | error e => rfl

/-- A call with a handle, made on any store, does what the store of the handle does with it. -/
theorem serve_home (here : Nat) (hmade : made.MadeWith h) (hhome : h.home = .memory there)
    {answer : Result made.Answer} {s' : Store}
    (hserved : (stores there).serve there tick made = .answered answer s') :
    stores.serve here tick made = .answered answer (stores.set there s') := by
  have hunit := stores.unitOf_home hhome
  cases made with
  | begin ctx => exact hmade.elim
  | ask ctx request =>
    have hhandle : ctx.handle = some h := hmade
    simp only [Store.serve, Store.ask, hhandle] at hserved
    simp only [serve, ask, hhandle, hunit]
    by_cases hover : ctx.isOver tick.now
    · rw [if_pos hover] at hserved ⊢
      cases hserved
      rw [set_eq_self]
    · rw [if_neg hover] at hserved ⊢
      cases hopen : (stores there).unitOf h with
      | ok opened =>
        rw [hopen] at hserved
        cases hserved
        rfl
      | error e =>
        rw [hopen] at hserved
        cases hserved
        simp [Except.map, set_eq_self]
  | commit h' | rollback h' =>
    cases hmade
    simp only [Store.serve, Store.commit, Store.rollback] at hserved
    simp only [serve, commit, rollback, hunit]
    cases hopen : (stores there).unitOf h with
    | ok opened =>
      rw [hopen] at hserved
      cases hserved
      rfl
    | error e =>
      rw [hopen] at hserved
      cases hserved
      simp [Except.map, set_eq_self]

/-- The handle that opening a unit is answered with leads to the store of the unit. -/
theorem home_of_begin {ctx : Ctx} {after : Stores}
    (hserved : stores.serve there tick (.begin ctx) = .answered (.ok h) after) :
    h.home = .memory there := by
  simp only [serve, begin, Store.begin] at hserved
  split at hserved
  next hanswered =>
    split at hanswered
    · cases hanswered
      cases hserved
    · split at hanswered
      · cases hanswered
      · cases hanswered
        cases hserved
        rfl
  next => cases hserved

/-- What the store of the handle does decides the call, on whichever store it is made. -/
theorem serve_answered (stores : Stores) (here : Nat) (tick : Tick) (hmade : made.MadeWith h)
    (hhome : h.home = .memory there) :
    ∃ answer s', (stores there).serve there tick made = .answered answer s' ∧
      stores.serve here tick made = .answered answer (stores.set there s') ∧
      ∀ e, answer = .error e → s' = stores there := by
  obtain ⟨answer, s', hserved, hfailed⟩ := (stores there).serve_madeWith there tick hmade
  exact ⟨answer, s', hserved, serve_home here hmade hhome hserved, hfailed⟩

/-- A call with a handle does what it would do on the store of the handle. -/
theorem serve_eq_home (stores : Stores) (here : Nat) (tick : Tick) (hmade : made.MadeWith h)
    (hhome : h.home = .memory there) :
    stores.serve here tick made = stores.serve there tick made := by
  obtain ⟨answer, s', hserved, _, _⟩ := stores.serve_answered here tick hmade hhome
  calc
    stores.serve here tick made = .answered answer (stores.set there s') :=
      serve_home here hmade hhome hserved
    _ = stores.serve there tick made := (serve_home there hmade hhome hserved).symm

/-- It is answered, leaves all other stores as they are, and all stores if it fails. -/
theorem serve_elsewhere (stores : Stores) (here : Nat) (tick : Tick) (hmade : made.MadeWith h)
    (hhome : h.home = .memory there) :
    ∃ answer after, stores.serve here tick made = .answered answer after ∧
      (∀ n, n ≠ there → after n = stores n) ∧ ∀ e, answer = .error e → after = stores := by
  obtain ⟨answer, s', _, hserved, hfailed⟩ := stores.serve_answered here tick hmade hhome
  refine ⟨answer, stores.set there s', hserved, fun n hn => set_of_ne hn stores s', fun e he => ?_⟩
  rw [hfailed e he, set_eq_self]

/-- A handle of no store in memory is refused by all of them. -/
theorem foreign_refused (hmade : made.MadeWith h) (hhome : ∀ there, h.home ≠ .memory there) :
    ∃ e, e.isStop ∧ stores.serve here tick made = .answered (.error e) stores := by
  have hunit : stores.unitOf h = .error (.internal [h.foreignMessage]) := by
    cases hforeign : h.home with
    | memory there => exact absurd hforeign (hhome there)
    | _ => simp only [unitOf, hforeign]
  cases made with
  | begin ctx => exact hmade.elim
  | ask ctx request =>
    have hhandle : ctx.handle = some h := hmade
    simp only [serve, ask, hhandle, hunit]
    by_cases hover : ctx.isOver tick.now
    · exact ⟨.deadlineExceeded (Memory.operation request), rfl, if_pos hover⟩
    · exact ⟨.internal [h.foreignMessage], rfl, if_neg hover⟩
  | commit h' | rollback h' =>
    cases hmade
    refine ⟨.internal [h.foreignMessage], rfl, ?_⟩
    simp only [serve, commit, rollback, hunit]

/-- A call whose handle names no open unit of its store is stopped. -/
theorem closed_refused (hmade : made.MadeWith h) (hhome : h.home = .memory there)
    (hclosed : ∀ u, (stores there).opened = some u → u.id ≠ h.id) :
    ∃ e, e.isStop ∧ stores.serve here tick made = .answered (.error e) stores := by
  have hunit : ∀ u, (stores there).unitOf h ≠ .ok u := by
    intro u hunit
    obtain ⟨_, hopened, hid⟩ := Store.unitOf_eq_ok_iff.mp hunit
    exact hclosed u hopened hid
  obtain ⟨e, hstop, hserved⟩ := Store.serve_stopped hmade hunit there
  refine ⟨e, hstop, ?_⟩
  rw [serve_home here hmade hhome hserved, set_eq_self]

/-! ## Many calls -/

/-- A call, and the store that it is made on. -/
structure Visit where
  here : Nat
  tick : Tick
  made : Call

def after (stores : Stores) (visit : Visit) : Stores :=
  (stores.serve visit.here visit.tick visit.made).left stores

/-- The stores after one call after another. -/
def afterAll (stores : Stores) (visits : List Visit) : Stores :=
  visits.foldl after stores

/-- Calls with handles of one store leave what they would leave if they were all made there, and
leave every other store as it is. -/
theorem afterAll_moved (stores : Stores) {there : Nat} {visits : List Visit}
    (hvisits : ∀ visit ∈ visits, ∃ h : Handle, h.home = .memory there ∧ visit.made.MadeWith h) :
    stores.afterAll visits =
        stores.afterAll (visits.map fun visit => { visit with here := there }) ∧
      ∀ n, n ≠ there → stores.afterAll visits n = stores n := by
  induction visits generalizing stores with
  | nil => exact ⟨rfl, fun _ _ => rfl⟩
  | cons visit rest ih =>
    obtain ⟨here, tick, made⟩ := visit
    obtain ⟨h, hhome, hmade⟩ : ∃ h : Handle, h.home = .memory there ∧ made.MadeWith h :=
      hvisits _ List.mem_cons_self
    have hsame : stores.after ⟨here, tick, made⟩ = stores.after ⟨there, tick, made⟩ := by
      simp only [after, stores.serve_eq_home here tick hmade hhome]
    have hothers : ∀ n, n ≠ there → stores.after ⟨here, tick, made⟩ n = stores n := by
      obtain ⟨answer, later, hserved, hothers, _⟩ :=
        stores.serve_elsewhere here tick hmade hhome
      unfold after
      rw [hserved]
      exact hothers
    obtain ⟨hmoved, hkept⟩ := ih (stores.after ⟨here, tick, made⟩) fun visit hvisit =>
      hvisits visit (List.mem_cons_of_mem _ hvisit)
    refine ⟨?_, fun n hn => (hkept n hn).trans (hothers n hn)⟩
    change (stores.after ⟨here, tick, made⟩).afterAll rest =
      (stores.after ⟨there, tick, made⟩).afterAll (rest.map _)
    rw [hmoved, hsame]

end Stores

/-- What becomes of a call on the store `here` with a handle of the store `there`. -/
structure Stores.LeadsHome (stores : Stores) (here there : Nat) (h : Handle) (tick : Tick)
    (made : Call) : Prop where
  same : stores.serve here tick made = stores.serve there tick made
  home : ∃ answer s', (stores there).serve there tick made = .answered answer s' ∧
    stores.serve here tick made = .answered answer (stores.set there s')
  answered : ∃ answer after, stores.serve here tick made = .answered answer after ∧
    (∀ n, n ≠ there → after n = stores n) ∧ ∀ e, answer = .error e → after = stores
  closed : (∀ u, (stores there).opened = some u → u.id ≠ h.id) →
    ∃ e, e.isStop ∧ stores.serve here tick made = .answered (.error e) stores

/-- A request, a commit or a rollback with the handle of a unit takes effect in the store where the
unit was opened, whichever store it is made on, and in no other; it takes none if it fails, as it
does when the unit is closed. -/
theorem unit_leads_home (stores : Stores) (here there : Nat) {h : Handle}
    (hhome : h.home = .memory there) (tick : Tick) {made : Call} (hmade : made.MadeWith h) :
    stores.LeadsHome here there h tick made where
  same := stores.serve_eq_home here tick hmade hhome
  home := by
    obtain ⟨answer, s', hserved, hmoved, _⟩ := stores.serve_answered here tick hmade hhome
    exact ⟨answer, s', hserved, hmoved⟩
  answered := stores.serve_elsewhere here tick hmade hhome
  closed := Stores.closed_refused hmade hhome

/-- Two stores; a unit of work is open on the second one. -/
def secondAtWork : Stores :=
  Stores.empty.set 1 ⟨.empty, some ⟨.ofNat 1, .empty⟩⟩

theorem unit_leads_home_secondAtWork :
    let h : Handle := ⟨.ofNat 1, .memory 1⟩
    (Stores.empty.serve 1 ⟨⟨0⟩, ⟨.ofNat 1, default, default⟩⟩ (.begin .background) =
        .answered (.ok h) secondAtWork ∧
      h.home = .memory 1 ∧ (Call.rollback h).MadeWith h) ∧
      secondAtWork.LeadsHome 0 1 h default (.rollback h) := by
  intro h
  have hbegun : Stores.empty.serve 1 ⟨⟨0⟩, ⟨.ofNat 1, default, default⟩⟩ (.begin .background) =
      .answered (.ok h) secondAtWork := rfl
  have hhome : h.home = .memory 1 := Stores.home_of_begin hbegun
  exact ⟨⟨hbegun, hhome, rfl⟩, unit_leads_home secondAtWork 0 1 hhome default rfl⟩

/-- On the first store a row is added to the second one, and its unit committed. -/
theorem handle_taken_elsewhere :
    let h : Handle := ⟨.ofNat 1, .memory 1⟩
    let row : Organization := ⟨.ofNat 2, "North", default⟩
    let written : Store := ⟨Tables.empty.addOrganization row, some ⟨.ofNat 1, .empty⟩⟩
    let committed : Store := ⟨Tables.empty.addOrganization row, none⟩
    secondAtWork.serve 0 ⟨⟨0⟩, ⟨.ofNat 2, default, default⟩⟩
        (.ask (Ctx.background.withHandle h) (.createOrganization ⟨"North"⟩)) =
      .answered (.ok row) (secondAtWork.set 1 written) ∧
    (secondAtWork.set 1 written).serve 0 default (.commit h) =
      .answered (.ok ()) ((secondAtWork.set 1 written).set 1 committed) :=
  ⟨rfl, rfl⟩

end Registrar
