import Registrar.Proofs.Writes

/-!
# The stores that are reached

`Reachable` holds of every store that calls of services lead to from the empty
one, one after another, also inside units of work of the caller that are closed
or dropped later.  Identifiers are assumed to be generated anew.  A property of
the tables that every write keeps holds in every reachable store
(`Reachable.induction`).
-/

namespace Registrar

open Program

/-! ## The identifiers of rows -/

namespace Tables

/-- The identifiers of all rows. -/
def ids (t : Tables) : List Uuid :=
  t.organizations.map (·.id) ++ t.schools.map (·.id) ++ t.grades.map (·.id) ++
    t.groups.map (·.id) ++ t.users.map (·.id) ++ t.grants.map (·.id) ++
    t.profiles.map (·.id) ++ t.guardians.map (·.id)

variable (t : Tables)

theorem ids_addOrganization (row : Organization) :
    (t.addOrganization row).ids.Perm (row.id :: t.ids) :=
  List.perm_iff_count.mpr fun id => by simp [ids, addOrganization, List.count_cons]; omega

theorem ids_addSchool (row : School) : (t.addSchool row).ids.Perm (row.id :: t.ids) :=
  List.perm_iff_count.mpr fun id => by simp [ids, addSchool, List.count_cons]; omega

theorem ids_addGrade (row : Grade) : (t.addGrade row).ids.Perm (row.id :: t.ids) :=
  List.perm_iff_count.mpr fun id => by simp [ids, addGrade, List.count_cons]; omega

theorem ids_addGroup (row : Group) : (t.addGroup row).ids.Perm (row.id :: t.ids) :=
  List.perm_iff_count.mpr fun id => by simp [ids, addGroup, List.count_cons]; omega

theorem ids_addUser (row : User) : (t.addUser row).ids.Perm (row.id :: t.ids) :=
  List.perm_iff_count.mpr fun id => by simp [ids, addUser, List.count_cons]; omega

theorem ids_addGrant (row : RoleGrantRow) : (t.addGrant row).ids.Perm (row.id :: t.ids) :=
  List.perm_iff_count.mpr fun id => by simp [ids, addGrant, List.count_cons]; omega

theorem ids_addProfile (row : ProfileRow) :
    (t.addProfile row).ids.Perm (row.id :: t.ids) :=
  List.perm_iff_count.mpr fun id => by simp [ids, addProfile, List.count_cons]; omega

theorem ids_addGuardian (row : GuardianRow) :
    (t.addGuardian row).ids.Perm (row.id :: t.ids) := by
  have hlast : (t.addGuardian row).ids = t.ids ++ [row.id] := by
    simp [ids, addGuardian]
  rw [hlast]
  exact List.perm_append_singleton row.id t.ids

private theorem ids_insertRow {α : Type} {check : Tables → α → Result Unit} {row : α}
    {add : α → Tables} {id : Uuid} (hadd : (add row).ids.Perm (id :: t.ids)) :
    (t.insertRow (Memory.accept check t row) add).2 = t ∨
      (t.insertRow (Memory.accept check t row) add).2.ids.Perm (id :: t.ids) := by
  rcases t.insertRow_cases check row add with ⟨_, hrow⟩ | ⟨e, _, hrow⟩
  · rw [hrow]
    exact .inr hadd
  · rw [hrow]
    exact .inl rfl

theorem ids_serve (stamp : Stamp) (request : Request) :
    (t.serve Memory.policy stamp request).2 = t ∨
      (t.serve Memory.policy stamp request).2.ids.Perm (stamp.id :: t.ids) := by
  cases hlookup : request.isLookup with
  | true => exact .inl (t.serve_lookup stamp hlookup)
  | false =>
    cases request with
    | createUser new => exact t.ids_insertRow (t.ids_addUser (new.row stamp))
    | createGrant new => exact t.ids_insertRow (t.ids_addGrant (new.row stamp))
    | createOrganization new => exact .inr (t.ids_addOrganization (new.row stamp))
    | createSchool new => exact t.ids_insertRow (t.ids_addSchool (new.row stamp))
    | createGrade new => exact t.ids_insertRow (t.ids_addGrade (new.row stamp))
    | createGroup new => exact t.ids_insertRow (t.ids_addGroup (new.row stamp))
    | createProfile roleId new =>
      exact t.ids_insertRow (t.ids_addProfile (new.row roleId stamp))
    | createGuardian roleId new =>
      exact t.ids_insertRow (t.ids_addGuardian (new.row roleId stamp))
    | _ => exact nomatch hlookup

end Tables

/-! ## What holds through units of work -/

namespace Store

/-- A property of the tables now, and of those that would be put back. -/
structure Holds (P : Tables → Prop) (s : Store) : Prop where
  now : P s.tables
  before : ∀ u, s.opened = some u → P u.snapshot

theorem Turn.holds {P : Tables → Prop} {s after : Store} (h : s.Turn after)
    (hholds : s.Holds P) : after.Holds P := by
  cases h with
  | nothing => exact hholds
  | begun id hopened =>
    refine ⟨hholds.now, fun u hu => ?_⟩
    cases hu
    exact hholds.now
  | committed u hopened => exact ⟨hholds.now, fun _ hu => nomatch hu⟩
  | rolledBack u hopened => exact ⟨hholds.before u hopened, fun _ hu => nomatch hu⟩

/-- The identifiers of the rows that are in the tables, or would be put back. -/
def ids (s : Store) : List Uuid :=
  match s.opened with
  | some u => s.tables.ids ++ u.snapshot.ids
  | none => s.tables.ids

theorem mem_ids {s : Store} {id : Uuid} :
    id ∈ s.ids ↔ id ∈ s.tables.ids ∨ ∃ u, s.opened = some u ∧ id ∈ u.snapshot.ids := by
  unfold ids
  cases s.opened <;> simp

end Store

/-! ## Generated identifiers -/

/-- No two rows have the same identifier. -/
def Tables.Distinct (t : Tables) : Prop :=
  t.ids.Nodup

/-- The identifiers that are generated in the course of a program are new: the one
that comes with a call is at that moment the identifier of no row. -/
def Course.Fresh {α : Type} : Program α → Course → Prop
  | .done _, _ | .fail _, _ => True
  | .note _ next, c => Fresh next c
  | .call made next, c =>
    (c.moments 0).stamp.id ∉ c.store.ids ∧
      match c.store.answer (c.moments 0) made with
      | .ended answer s => Fresh (next answer) (c.after s)
      | .stuck _ => True

theorem Course.fresh_call {α : Type} {made : Call} {next : Result made.Answer → Program α}
    {c : Course} :
    c.Fresh (.call made next) ↔
      (c.moments 0).stamp.id ∉ c.store.ids ∧
        match c.store.answer (c.moments 0) made with
        | .ended answer s => (c.after s).Fresh (next answer)
        | .stuck _ => True := by
  rw [Fresh]

instance Course.decidableFresh {α : Type} :
    (p : Program α) → (c : Course) → Decidable (c.Fresh p)
  | .done _, _ | .fail _, _ => .isTrue trivial
  | .note _ next, c => decidableFresh next c
  | .call made next, c =>
    have : Decidable (match c.store.answer (c.moments 0) made with
        | .ended answer s => (c.after s).Fresh (next answer)
        | .stuck _ => True) :=
      match c.store.answer (c.moments 0) made with
      | .ended answer s => decidableFresh (next answer) (c.after s)
      | .stuck _ => .isTrue trivial
    decidable_of_iff _ fresh_call.symm

theorem Store.distinct_answer {s : Store} {tick : Tick} (call : Call)
    (hdistinct : s.Holds Tables.Distinct) (hunused : tick.stamp.id ∉ s.ids) :
    (s.answer tick call).state.Holds Tables.Distinct := by
  rcases s.turn_answer tick call with hturn | ⟨request, hserved⟩
  · exact hturn.holds hdistinct
  · rw [hserved]
    refine ⟨?_, hdistinct.before⟩
    rcases s.tables.ids_serve tick.stamp request with hsame | hperm
    · rw [perform_tables, hsame]
      exact hdistinct.now
    · have hnew : tick.stamp.id ∉ s.tables.ids :=
        fun hid => hunused (mem_ids.mpr (.inl hid))
      exact hperm.nodup_iff.mpr (List.nodup_cons.mpr ⟨hnew, hdistinct.now⟩)

theorem Course.distinct_run {α : Type} (p : Program α) {c : Course} (hfresh : c.Fresh p)
    (hdistinct : c.store.Holds Tables.Distinct) :
    (c.run p).state.Holds Tables.Distinct := by
  induction p generalizing c with
  | done a => exact hdistinct
  | fail e => exact hdistinct
  | note event next ih => exact ih hfresh hdistinct
  | call call next ih =>
    obtain ⟨hunused, hrest⟩ := fresh_call.mp hfresh
    have hafter := Store.distinct_answer call hdistinct hunused
    rw [run_call]
    cases hanswer : c.store.answer (c.moments 0) call with
    | stuck after =>
      rw [hanswer] at hafter
      exact hafter
    | ended answer after =>
      rw [hanswer] at hafter hrest
      exact ih answer hrest hafter

/-! ## Reaching a store -/

/-- The stores that are reached by services, one call after the other, and by
opening and closing units of work around them.  Any call may be given any
context: so a service takes part in the open unit if it is given its handle, and
may come too late. -/
inductive Reachable : Store → Prop
  | empty : Reachable .empty
  | service {s : Store} (moments : Nat → Tick) (ctx : Ctx) (call : ServiceCall)
      (hreach : Reachable s) (hfresh : Course.Fresh (call.program ctx) ⟨s, moments⟩) :
    Reachable (Course.run ⟨s, moments⟩ (call.program ctx)).state
  | begin {s : Store} (tick : Tick) (ctx : Ctx) (hreach : Reachable s) :
    Reachable (s.answer tick (.begin ctx)).state
  | commit {s : Store} (h : Handle) (hreach : Reachable s) : Reachable (s.commit h).2
  | rollback {s : Store} (h : Handle) (hreach : Reachable s) : Reachable (s.rollback h).2
  | drop {s : Store} (h : Handle) (hreach : Reachable s) : Reachable (s.drop h)

namespace Reachable

variable {s : Store}

theorem distinct (h : Reachable s) : s.Holds Tables.Distinct := by
  induction h with
  | empty => exact ⟨List.nodup_nil, fun _ hu => nomatch hu⟩
  | service moments ctx call hreach hfresh ih => exact Course.distinct_run _ hfresh ih
  | begin tick ctx hreach ih => exact (Store.turn_begin _ tick ctx).holds ih
  | commit h hreach ih => exact (Store.turn_commit _ h).holds ih
  | rollback h hreach ih => exact (Store.turn_rollback _ h).holds ih
  | drop h hreach ih => exact (Store.turn_rollback _ h).holds ih

/-- What every write keeps holds in every reachable store. -/
theorem induction {P : Tables → Prop} (hempty : P .empty)
    (hwrite : ∀ t t', P t → Write t t' → t'.Distinct → P t') (h : Reachable s) :
    P s.tables := by
  suffices hholds : s.Holds P from hholds.now
  induction h with
  | empty => exact ⟨hempty, fun _ hu => nomatch hu⟩
  | begin tick ctx hreach ih => exact (Store.turn_begin _ tick ctx).holds ih
  | commit h hreach ih => exact (Store.turn_commit _ h).holds ih
  | rollback h hreach ih => exact (Store.turn_rollback _ h).holds ih
  | drop h hreach ih => exact (Store.turn_rollback _ h).holds ih
  | service moments ctx call hreach hfresh ih =>
    have hdistinct := Course.distinct_run (call.program ctx) hfresh hreach.distinct
    obtain ⟨hopened, htables⟩ := (Service.moved_program call).run moments
    refine ⟨?_, fun u hu => ih.before u (hopened ▸ hu)⟩
    rcases htables with hsame | hone
    · rw [hsame]
      exact ih.now
    · exact hwrite _ _ ih.now hone hdistinct.now

end Reachable

end Registrar
