import Mathlib.Logic.Relation
import Registrar.Proofs.Reachable

/-!
# Whatever is called

Any number of clients call a store in memory, with whatever requests, contexts and handles
they have.  A request leaves the tables as they are or makes one `Insertion`, so a property
that insertions keep holds in every store that calls lead to (`Called.holds`).  Since rows
are only ever added, the tables that *stand*, those that would be left if the open unit were
dropped, only grow (`Store.Step.stands`).
-/

namespace Registrar

open Program

namespace Tables

/-! ## Insertions -/

/-- The tables with one more row, which has passed its check. -/
inductive Insertion (t : Tables) : Tables → Prop
  | organization (row : Organization) : Insertion t (t.addOrganization row)
  | school (row : School) (hcheck : Memory.checkSchool t row = .ok ()) :
    Insertion t (t.addSchool row)
  | grade (row : Grade) (hcheck : Memory.checkGrade t row = .ok ()) :
    Insertion t (t.addGrade row)
  | group (row : Group) (hcheck : Memory.checkGroup t row = .ok ()) :
    Insertion t (t.addGroup row)
  | user (row : User) (hcheck : Memory.checkUser t row = .ok ()) :
    Insertion t (t.addUser row)
  | grant (row : RoleGrantRow) (hcheck : Memory.checkGrant t row = .ok ()) :
    Insertion t (t.addGrant row)
  | profile {order : RowOrder} (row : ProfileRow)
      (hcheck : Memory.checkProfile order t row = .ok ()) :
    Insertion t (t.addProfile row)
  | guardian (row : GuardianRow) (hcheck : Memory.checkGuardian t row = .ok ()) :
    Insertion t (t.addGuardian row)

private theorem insertion_insertRow {α : Type} {t : Tables}
    {check : Tables → α → Result Unit} {row : α} {add : α → Tables}
    (hadd : check t row = .ok () → t.Insertion (add row)) :
    (t.insertRow (Memory.accept check t row) add).2 = t ∨
      t.Insertion (t.insertRow (Memory.accept check t row) add).2 := by
  rcases t.insertRow_cases check row add with ⟨hcheck, hrow⟩ | ⟨e, _, hrow⟩
  · rw [hrow]
    exact .inr (hadd hcheck)
  · rw [hrow]
    exact .inl rfl

theorem serve_insertion (t : Tables) (stamp : Stamp) (request : Request) :
    (t.serve Memory.policy stamp request).2 = t ∨
      t.Insertion (t.serve Memory.policy stamp request).2 := by
  cases hlookup : request.isLookup with
  | true => exact .inl (t.serve_lookup stamp hlookup)
  | false =>
    cases request with
    | createUser new => exact insertion_insertRow (.user _)
    | createGrant new => exact insertion_insertRow (.grant _)
    | createOrganization new => exact .inr (.organization (new.row stamp))
    | createSchool new => exact insertion_insertRow (.school _)
    | createGrade new => exact insertion_insertRow (.grade _)
    | createGroup new => exact insertion_insertRow (.group _)
    | createProfile roleId new => exact insertion_insertRow (.profile _)
    | createGuardian roleId new => exact insertion_insertRow (.guardian _)
    | _ => exact nomatch hlookup

/-! ## Tables that grow -/

/-- Every table is the beginning of the same table in `t'`. -/
structure GrowsTo (t t' : Tables) : Prop where
  organizations : t.organizations <+: t'.organizations
  schools : t.schools <+: t'.schools
  grades : t.grades <+: t'.grades
  groups : t.groups <+: t'.groups
  users : t.users <+: t'.users
  grants : t.grants <+: t'.grants
  profiles : t.profiles <+: t'.profiles
  guardians : t.guardians <+: t'.guardians

variable {t t' : Tables}

theorem GrowsTo.refl (t : Tables) : t.GrowsTo t := by
  constructor <;> exact List.prefix_rfl

theorem GrowsTo.trans {t'' : Tables} (h : t.GrowsTo t') (h' : t'.GrowsTo t'') :
    t.GrowsTo t'' where
  organizations := h.organizations.trans h'.organizations
  schools := h.schools.trans h'.schools
  grades := h.grades.trans h'.grades
  groups := h.groups.trans h'.groups
  users := h.users.trans h'.users
  grants := h.grants.trans h'.grants
  profiles := h.profiles.trans h'.profiles
  guardians := h.guardians.trans h'.guardians

theorem Insertion.grows (h : t.Insertion t') : t.GrowsTo t' := by
  cases h <;> constructor <;> first | exact List.prefix_rfl | exact List.prefix_append _ _

theorem GrowsTo.of_insertions (h : Relation.ReflTransGen Insertion t t') : t.GrowsTo t' := by
  induction h with
  | refl => exact .refl t
  | tail _ hinsertion ih => exact ih.trans hinsertion.grows

theorem grows_serve (t : Tables) (stamp : Stamp) (request : Request) :
    t.GrowsTo (t.serve Memory.policy stamp request).2 := by
  rcases t.serve_insertion stamp request with hsame | hinsertion
  · rw [hsame]
    exact .refl t
  · exact hinsertion.grows

namespace GrowsTo

variable (h : t.GrowsTo t') {id : Uuid}
include h

theorem organization? {row : Organization} (hrow : t.organization? id = some row) :
    t'.organization? id = some row :=
  h.organizations.find?_eq_some hrow

theorem school? {row : School} (hrow : t.school? id = some row) : t'.school? id = some row :=
  h.schools.find?_eq_some hrow

theorem grade? {row : Grade} (hrow : t.grade? id = some row) : t'.grade? id = some row :=
  h.grades.find?_eq_some hrow

theorem group? {row : Group} (hrow : t.group? id = some row) : t'.group? id = some row :=
  h.groups.find?_eq_some hrow

theorem user? {row : User} (hrow : t.user? id = some row) : t'.user? id = some row :=
  h.users.find?_eq_some hrow

theorem grant? {row : RoleGrantRow} (hrow : t.grant? id = some row) :
    t'.grant? id = some row :=
  h.grants.find?_eq_some hrow

theorem profile? {kind : ProfileKind} {row : ProfileRow}
    (hrow : t.profile? kind id = some row) : t'.profile? kind id = some row :=
  (h.profiles.filter _).find?_eq_some hrow

end GrowsTo

end Tables

/-- A service makes its write by one insertion or by two. -/
theorem Write.insertions {t t' : Tables} (h : Write t t') :
    Relation.ReflTransGen Tables.Insertion t t' := by
  cases h with
  | organization new stamp => exact .single (.organization _)
  | school new stamp hvalid hcheck => exact .single (.school _ hcheck)
  | grade new stamp hvalid hcheck => exact .single (.grade _ hcheck)
  | group new stamp hvalid hcheck => exact .single (.group _ hcheck)
  | user new stamp hvalid hcheck => exact .single (.user _ hcheck)
  | grant new stamp hscope hcheck => exact .single (.grant _ hcheck)
  | profile new first second hvalid hgrant hprofile =>
    exact .tail (.single (.grant _ hgrant)) (.profile _ hprofile)
  | guardian new student first second hstudent hgrant hlink =>
    exact .tail (.single (.grant _ hgrant)) (.guardian _ hlink)

/-! ## Steps of a store -/

def Call.handle? : Call → Option Handle
  | .ask ctx _ | .begin ctx => ctx.handle
  | .commit h | .rollback h => some h

namespace Store

/-- Somebody who has no handle of the unit `spared` has a call answered, or lets go of the
last copy of a handle. -/
inductive Step (spared : Option Uuid) (s : Store) : Store → Prop
  | call {made : Call} {answer : Result made.Answer} {after : Store} (tick : Tick)
      (hother : ∀ h, made.handle? = some h → spared ≠ some h.id)
      (hserved : s.serve 0 tick made = .answered answer after) : Step spared s after
  | drop (h : Handle) (hother : spared ≠ some h.id) : Step spared s (s.drop h)

variable {spared : Option Uuid} {s s' : Store}

def Later (s s' : Store) : Prop :=
  Relation.ReflTransGen (Step none) s s'

theorem Step.any (h : s.Step spared s') : s.Step none s' := by
  cases h with
  | call tick hother hserved => exact .call tick (fun _ _ hnone => nomatch hnone) hserved
  | drop h hother => exact .drop h fun hnone => nomatch hnone

theorem Step.turn_or_perform (h : s.Step spared s') :
    s.Turn s' ∨ ∃ stamp request, s' = (s.perform stamp request).2 := by
  cases h with
  | drop h hother => exact .inl (s.turn_rollback h)
  | @call made answer after tick hother hserved =>
    have hafter := s.turn_answer tick made
    rw [answer_of_answered hserved] at hafter
    rcases hafter with hturn | ⟨request, hperform⟩
    · exact .inl hturn
    · exact .inr ⟨tick.stamp, request, hperform⟩

theorem Step.holds {P : Tables → Prop} (hinsertion : ∀ t t', P t → t.Insertion t' → P t')
    (h : s.Step spared s') (hs : s.Holds P) : s'.Holds P := by
  rcases h.turn_or_perform with hturn | ⟨stamp, request, rfl⟩
  · exact hturn.holds hs
  · refine ⟨?_, hs.before⟩
    rcases s.tables.serve_insertion stamp request with hsame | hone
    · rw [perform_tables, hsame]
      exact hs.now
    · exact hinsertion _ _ hs.now hone

/-! ## What stands -/

/-- The tables that would be left if the open unit were dropped. -/
def standing (s : Store) : Tables :=
  match s.opened with
  | some u => u.snapshot
  | none => s.tables

/-- The open unit has only added rows to the tables that stand. -/
def Ahead (s : Store) : Prop :=
  s.standing.GrowsTo s.tables

theorem Step.stands (h : s.Step spared s') (hs : s.Ahead) :
    s.standing.GrowsTo s'.standing ∧ s'.Ahead := by
  rcases h.turn_or_perform with hturn | ⟨stamp, request, rfl⟩
  · cases hturn with
    | nothing => exact ⟨.refl _, hs⟩
    | begun id hopened =>
      simp only [Ahead, standing, hopened]
      exact ⟨.refl _, .refl _⟩
    | committed u hopened => exact ⟨hs, .refl _⟩
    | rolledBack u hopened =>
      simp only [Ahead, standing, hopened]
      exact ⟨.refl _, .refl _⟩
  · have hgrows := s.tables.grows_serve stamp request
    cases hopened : s.opened with
    | none =>
      simp only [Ahead, standing, perform_opened, hopened]
      exact ⟨hgrows, .refl _⟩
    | some u =>
      simp only [Ahead, standing, hopened] at hs
      simp only [Ahead, standing, perform_opened, hopened]
      exact ⟨.refl _, hs.trans hgrows⟩

theorem Ahead.later (hs : s.Ahead) (hlater : s.Later s') :
    s.standing.GrowsTo s'.standing ∧ s'.Ahead := by
  induction hlater with
  | refl => exact ⟨.refl _, hs⟩
  | tail _ hstep ih =>
    have hstands := hstep.stands ih.2
    exact ⟨ih.1.trans hstands.1, hstands.2⟩

/-- While a unit is open, nobody without its handle can do anything. -/
theorem Step.of_opened {u : OpenUnit} (hopened : s.opened = some u)
    (h : s.Step (some u.id) s') : s' = s := by
  -- The handles of others name no open unit, and calls without a handle have to wait.
  have hnamed : ∀ h : Handle, some u.id ≠ some h.id → ∀ u', s.unitOf h ≠ .ok u' := by
    intro h hother u' hunit
    obtain ⟨_, hu', hid⟩ := unitOf_eq_ok_iff.mp hunit
    cases hopened.symm.trans hu'
    exact hother (congrArg some hid)
  cases h with
  | drop h hother =>
    unfold Store.drop Store.rollback
    cases hunit : s.unitOf h with
    | ok u' => exact absurd hunit (hnamed h hother u')
    | error e => rfl
  | @call made answer after tick hother hserved =>
    cases made with
    | ask ctx request =>
      rcases s.ask_cases tick ctx request with ⟨e, _, hask⟩ | ⟨hask, _⟩ | ⟨hask, hhandle⟩
      · cases hask.symm.trans hserved
        rfl
      · cases hask.symm.trans hserved
      · cases hctx : ctx.handle with
        | none =>
          rw [hctx] at hhandle
          cases hopened.symm.trans hhandle
        | some h =>
          rw [hctx] at hhandle
          obtain ⟨u', hunit⟩ := hhandle
          exact absurd hunit (hnamed h (hother h hctx) u')
    | begin ctx =>
      simp only [serve, begin, hopened] at hserved
      split at hserved
      · cases hserved
        rfl
      · cases hserved
    | commit h =>
      simp only [serve, commit] at hserved
      cases hunit : s.unitOf h with
      | ok u' => exact absurd hunit (hnamed h (hother h rfl) u')
      | error e =>
        rw [hunit] at hserved
        cases hserved
        rfl
    | rollback h =>
      simp only [serve, rollback] at hserved
      cases hunit : s.unitOf h with
      | ok u' => exact absurd hunit (hnamed h (hother h rfl) u')
      | error e =>
        rw [hunit] at hserved
        cases hserved
        rfl

end Store

/-! ## Stores that are called -/

/-- The stores that calls of whatever clients lead to, one after another. -/
def Called (s : Store) : Prop :=
  Store.empty.Later s

namespace Called

variable {s s' : Store}

theorem later (h : Called s) (hlater : s.Later s') : Called s' :=
  Relation.ReflTransGen.trans h hlater

/-- What every insertion keeps holds in every store that is called. -/
theorem holds {P : Tables → Prop} (hempty : P .empty)
    (hinsertion : ∀ t t', P t → t.Insertion t' → P t') (h : Called s) : s.Holds P := by
  induction h with
  | refl => exact ⟨hempty, fun _ hu => nomatch hu⟩
  | tail _ hstep ih => exact hstep.holds hinsertion ih

theorem ahead (h : Called s) : s.Ahead := by
  have hempty : Store.empty.Ahead := .refl _
  exact (hempty.later h).2

theorem stands (h : Called s) (hlater : s.Later s') : s.standing.GrowsTo s'.standing :=
  (h.ahead.later hlater).1

end Called

theorem Store.later_answer (s : Store) (tick : Tick) (made : Call) :
    s.Later (s.answer tick made).state := by
  cases hserved : s.serve 0 tick made with
  | answered answer after =>
    rw [answer_of_answered hserved]
    exact .single (.call tick (fun _ _ hnone => nomatch hnone) hserved)
  | waiting =>
    unfold Store.answer
    rw [hserved]
    cases World.deadlineOf made <;> exact .refl

theorem Course.later_run {α : Type} (p : Program α) (c : Course) :
    c.store.Later (c.run p).state := by
  induction p generalizing c with
  | done a => exact .refl
  | fail e => exact .refl
  | note event next ih => exact ih c
  | call made next ih =>
    have hlater := c.store.later_answer (c.moments 0) made
    rw [run_call]
    cases hanswer : c.store.answer (c.moments 0) made with
    | ended answer after =>
      rw [hanswer] at hlater
      exact hlater.trans (ih answer (c.after after))
    | stuck after =>
      rw [hanswer] at hlater
      exact hlater

/-! ## Stores whose identifiers are generated anew -/

/-- The stores that calls of whatever clients lead to, when each request is given an
identifier that no row has. -/
inductive CalledAnew : Store → Prop
  | empty : CalledAnew .empty
  | call {s : Store} (tick : Tick) (made : Call) (hcalled : CalledAnew s)
      (hnew : ∀ ctx request, made = .ask ctx request → tick.stamp.id ∉ s.ids) :
    CalledAnew (s.answer tick made).state
  | drop {s : Store} (h : Handle) (hcalled : CalledAnew s) : CalledAnew (s.drop h)

namespace CalledAnew

variable {s : Store}

theorem distinct (h : CalledAnew s) : s.Holds Tables.Distinct := by
  induction h with
  | empty => exact ⟨List.nodup_nil, fun _ hu => nomatch hu⟩
  | drop h hcalled ih => exact (Store.turn_rollback _ h).holds ih
  | @call s tick made hcalled hnew ih =>
    cases made with
    | ask ctx request => exact Store.distinct_answer _ ih (hnew ctx request rfl)
    | begin ctx => exact (s.turn_begin tick ctx).holds ih
    | commit h => exact (s.turn_commit h).holds ih
    | rollback h => exact (s.turn_rollback h).holds ih

theorem run {α : Type} (p : Program α) {c : Course} (hcalled : CalledAnew c.store)
    (hfresh : c.Fresh p) : CalledAnew (c.run p).state := by
  induction p generalizing c with
  | done a => exact hcalled
  | fail e => exact hcalled
  | note event next ih => exact ih hcalled hfresh
  | call made next ih =>
    obtain ⟨hunused, hrest⟩ := Course.fresh_call.mp hfresh
    have hafter := hcalled.call (c.moments 0) made fun _ _ _ => hunused
    rw [Course.run_call]
    cases hanswer : c.store.answer (c.moments 0) made with
    | stuck after =>
      rw [hanswer] at hafter
      exact hafter
    | ended answer after =>
      rw [hanswer] at hafter hrest
      exact ih answer hafter hrest

end CalledAnew

theorem Reachable.calledAnew {s : Store} (h : Reachable s) : CalledAnew s := by
  induction h with
  | empty => exact .empty
  | service moments ctx call hreach hfresh ih => exact ih.run _ hfresh
  | begin tick ctx hreach ih => exact ih.call tick (.begin ctx) fun _ _ hask => nomatch hask
  | commit h hreach ih => exact ih.call default (.commit h) fun _ _ hask => nomatch hask
  | rollback h hreach ih => exact ih.call default (.rollback h) fun _ _ hask => nomatch hask
  | drop h hreach ih => exact .drop h ih

end Registrar
