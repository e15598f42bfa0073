import Registrar.Proofs.RoleGrounding
import Registrar.Proofs.UnitDiscipline

/-!
# No service waits for itself

The lock of the store cannot be taken twice.  A request that carries no unit of work and the
opening of a unit need the lock, which an open unit holds until it is closed; so a service that
made such a call while its own unit is open would wait for ever.

Any call may fail, and a deadline may pass at any call.  It is enough that a program makes its
calls in an orderly way (`Orderly`): then the unit that is open, if any, is always the one whose
handle the program carries (`Orderly.step`, `Orderly.carries`), and no service ever waits for
itself (`never_blocks_itself`).
-/

namespace Registrar

open Program Service

/-! ## Exchanges with a store where calls may fail -/

/-- The unit of work that a call takes part in; a call without one takes the lock itself. -/
def Call.joins? : Call → Option Handle
  | .ask ctx _ => ctx.handle
  | .begin _ => none
  | .commit h | .rollback h => some h

/-- The handle that is given out when a unit is opened. -/
def Answered.opened? : Answered → Option Handle
  | ⟨.begin _, .ok h⟩ => some h
  | _ => none

namespace Store

/-- What may come of a call.  It is served at some moment; or it fails before it reaches the
tables, because its deadline has passed or for any other reason; or it fails although it has
been served, which for an opening means that the new unit is given up at once.  A unit that
fails to commit may also have been rolled back. -/
inductive Comes (s : Store) : Answered → Store → Prop
  | served {x : Answered} {after : Store} (tick : Tick)
      (hserved : s.serve 0 tick x.call = .answered x.answer after) : Comes s x after
  | failed (call : Call) (e : AppError) : Comes s ⟨call, .error e⟩ s
  | failedLate {call : Call} {answer : Result call.Answer} {after : Store} (tick : Tick)
      (e : AppError) (hserved : s.serve 0 tick call = .answered answer after)
      (hcall : ∀ ctx, call ≠ .begin ctx) : Comes s ⟨call, .error e⟩ after
  | commitUndone (h : Handle) (e : AppError) : Comes s ⟨.commit h, .error e⟩ (s.drop h)

inductive Exchanges : Store → List Answered → Store → Prop
  | nil (s : Store) : Exchanges s [] s
  | cons {s mid after : Store} {x : Answered} {rest : List Answered}
      (hcomes : s.Comes x mid) (hrest : Exchanges mid rest after) :
    Exchanges s (x :: rest) after

/-- The store once the caller has returned and dropped all the handles it was given. -/
def letGo (s : Store) (trace : List Answered) : Store :=
  (trace.filterMap Answered.opened?).foldl drop s

variable {s after : Store}

theorem serve_begin_cases (s : Store) (tick : Tick) (ctx : Ctx) :
    (∃ e, s.serve 0 tick (.begin ctx) = .answered (.error e) s) ∨
      (s.serve 0 tick (.begin ctx) = .waiting ∧ s.opened.isSome) ∨
      ∃ h u, s.serve 0 tick (.begin ctx) = .answered (.ok h) ⟨s.tables, some u⟩ ∧
        (⟨s.tables, some u⟩ : Store).unitOf h = .ok u := by
  simp only [serve, begin]
  by_cases hover : ctx.isOver tick.now
  · rw [if_pos hover]
    exact .inl ⟨.deadlineExceeded Memory.beginOperation, rfl⟩
  · rw [if_neg hover]
    cases s.opened with
    | some u => exact .inr (.inl ⟨rfl, rfl⟩)
    | none => exact .inr (.inr ⟨_, _, rfl, unitOf_own rfl rfl⟩)

theorem serve_close_cases (s : Store) (tick : Tick) {call : Call} {h : Handle}
    (hcall : call = .commit h ∨ call = .rollback h) :
    (∃ e, s.serve 0 tick call = .answered (.error e) s) ∨
      ∃ a after, s.serve 0 tick call = .answered (.ok a) after ∧ after.opened = none := by
  rcases hcall with rfl | rfl
  all_goals
    simp only [serve, commit, rollback]
    cases s.unitOf h with
    | ok u => exact .inr ⟨_, _, rfl, rfl⟩
    | error e => exact .inl ⟨e, rfl⟩

/-- A call that opens no unit leaves the open unit alone or closes it. -/
theorem opened_of_served {tick : Tick} {call : Call} {answer : Result call.Answer}
    (hserved : s.serve 0 tick call = .answered answer after) (hcall : ∀ ctx, call ≠ .begin ctx) :
    after.opened = s.opened ∨ after.opened = none := by
  have hclose : ∀ h, call = .commit h ∨ call = .rollback h →
      after.opened = s.opened ∨ after.opened = none := by
    intro h hclosing
    rcases s.serve_close_cases tick hclosing with ⟨e, hfailed⟩ | ⟨_, _, hclosed, hnone⟩
    · cases hserved.symm.trans hfailed
      exact .inl rfl
    · cases hserved.symm.trans hclosed
      exact .inr hnone
  cases call with
  | begin ctx => exact absurd rfl (hcall ctx)
  | commit h => exact hclose h (.inl rfl)
  | rollback h => exact hclose h (.inr rfl)
  | ask ctx request =>
    left
    rcases s.ask_cases tick ctx request with ⟨e, _, hask⟩ | ⟨hask, _⟩ | ⟨hask, _⟩
    · cases hserved.symm.trans hask
      rfl
    · cases hserved.symm.trans hask
    · cases hserved.symm.trans hask
      rfl

theorem drop_cases (s : Store) (h : Handle) :
    (s.drop h = s ∧ ∀ u, s.unitOf h ≠ .ok u) ∨ (s.drop h).opened = none := by
  unfold drop rollback
  cases s.unitOf h with
  | ok u => exact .inr rfl
  | error e => exact .inl ⟨rfl, fun _ hunit => nomatch hunit⟩

namespace Comes

theorem opened {x : Answered} (h : s.Comes x after) (hx : x.opened? = none) :
    after.opened = s.opened ∨ after.opened = none := by
  cases h with
  | failed call e => exact .inl rfl
  | failedLate tick e hserved hcall => exact opened_of_served hserved hcall
  | commitUndone h e =>
    rcases s.drop_cases h with ⟨hsame, _⟩ | hnone
    · exact .inl (congrArg Store.opened hsame)
    · exact .inr hnone
  | served tick hserved =>
    obtain ⟨call, answer⟩ := x
    cases call with
    | ask ctx request => exact opened_of_served hserved fun _ hcall => nomatch hcall
    | commit h => exact opened_of_served hserved fun _ hcall => nomatch hcall
    | rollback h => exact opened_of_served hserved fun _ hcall => nomatch hcall
    | begin ctx =>
      rcases s.serve_begin_cases tick ctx with ⟨_, hfailed⟩ | ⟨hwaiting, _⟩ | ⟨_, _, hbegun, _⟩
      · cases hserved.symm.trans hfailed
        exact .inl rfl
      · cases hserved.symm.trans hwaiting
      · cases hserved.symm.trans hbegun
        cases hx

theorem begun {ctx : Ctx} {h : Handle} (hcomes : s.Comes ⟨.begin ctx, .ok h⟩ after) :
    ∃ u, after.opened = some u ∧ after.unitOf h = .ok u := by
  cases hcomes with
  | served tick hserved =>
    rcases s.serve_begin_cases tick ctx with ⟨_, hfailed⟩ | ⟨hwaiting, _⟩ | ⟨_, u, hbegun, hunit⟩
    · cases hserved.symm.trans hfailed
    · cases hserved.symm.trans hwaiting
    · cases hserved.symm.trans hbegun
      exact ⟨u, rfl, hunit⟩

theorem closed {call : Call} {h : Handle} (hcall : call = .commit h ∨ call = .rollback h)
    {answer : call.Answer} (hcomes : s.Comes ⟨call, .ok answer⟩ after) : after.opened = none := by
  cases hcomes with
  | served tick hserved =>
    rcases s.serve_close_cases tick hcall with ⟨e, hfailed⟩ | ⟨_, _, hclosed, hnone⟩
    · cases hserved.symm.trans hfailed
    · cases hserved.symm.trans hclosed
      exact hnone

end Comes

/-- Dropping the handle of the open unit rolls the unit back. -/
theorem opened_dropAll {handles : List Handle}
    (h : ∀ u, s.opened = some u → ∃ h ∈ handles, s.unitOf h = .ok u) :
    (handles.foldl drop s).opened = none := by
  induction handles generalizing s with
  | nil =>
    cases hopened : s.opened with
    | none => exact hopened
    | some u =>
      obtain ⟨_, hmem, _⟩ := h u hopened
      cases hmem
  | cons first others ih =>
    apply ih
    intro u hopened
    rcases s.drop_cases first with ⟨hsame, hforeign⟩ | hnone
    · rw [hsame] at hopened
      obtain ⟨other, hmem, hunit⟩ := h u hopened
      rcases List.mem_cons.mp hmem with rfl | hothers
      · exact absurd hunit (hforeign u)
      · rw [hsame]
        exact ⟨other, hothers, hunit⟩
    · cases hnone.symm.trans hopened

end Store

/-! ## Orderly calls -/

/-- The exchanges of a program that carries the handle of its open unit, if it has one.  While it
carries a handle, all its requests are made with it, and it closes this unit and opens no other;
otherwise they are made without any.  A unit that could not be closed stays in its care. -/
inductive Orderly : Option Handle → List Answered → Prop
  | done (carried : Option Handle) : Orderly carried []
  | ask (ctx : Ctx) (request : Request) (answer : Result request.Answer) {rest : List Answered}
      (hrest : Orderly ctx.handle rest) : Orderly ctx.handle (⟨.ask ctx request, answer⟩ :: rest)
  | opened (ctx : Ctx) (h : Handle) {rest : List Answered} (hrest : Orderly (some h) rest) :
    Orderly none (⟨.begin ctx, .ok h⟩ :: rest)
  | unopened (ctx : Ctx) (e : AppError) {rest : List Answered} (hrest : Orderly none rest) :
    Orderly none (⟨.begin ctx, .error e⟩ :: rest)
  | committed (h : Handle) {rest : List Answered} (hrest : Orderly none rest) :
    Orderly (some h) (⟨.commit h, .ok ()⟩ :: rest)
  | notCommitted (h : Handle) (e : AppError) {rest : List Answered}
      (hrest : Orderly (some h) rest) : Orderly (some h) (⟨.commit h, .error e⟩ :: rest)
  | rolledBack (h : Handle) {rest : List Answered} (hrest : Orderly none rest) :
    Orderly (some h) (⟨.rollback h, .ok ()⟩ :: rest)
  | notRolledBack (h : Handle) (e : AppError) {rest : List Answered}
      (hrest : Orderly (some h) rest) : Orderly (some h) (⟨.rollback h, .error e⟩ :: rest)

/-- The unit that is open, if any, is the one whose handle is carried. -/
def Store.Carried (s : Store) (carried : Option Handle) : Prop :=
  ∀ u, s.opened = some u → ∃ h ∈ carried, s.unitOf h = .ok u

namespace Orderly

variable {carried : Option Handle} {x : Answered} {rest trace : List Answered}
  {s mid after : Store}

private theorem carried_of_opened (hcarried : s.Carried carried)
    (hopened : mid.opened = s.opened ∨ mid.opened = none) : mid.Carried carried := by
  intro u hu
  rcases hopened with hsame | hnone
  · obtain ⟨h, hmem, hunit⟩ := hcarried u (hsame.symm.trans hu)
    exact ⟨h, hmem, (Store.unitOf_congr hsame h).trans hunit⟩
  · cases hnone.symm.trans hu

private theorem carried_of_none (hnone : s.opened = none) : s.Carried carried := by
  intro u hu
  cases hnone.symm.trans hu

/-- The next call is made with the handle of the open unit. -/
theorem fits (h : Orderly carried (x :: rest)) (hcarried : s.Carried carried) :
    s.Carried x.call.joins? := by
  cases h <;> exact hcarried

/-- An exchange keeps the program and the store in step. -/
theorem step (h : Orderly carried (x :: rest)) (hcarried : s.Carried carried)
    (hcomes : s.Comes x mid) :
    ∃ carried', Orderly carried' rest ∧ mid.Carried carried' ∧
      ∀ h ∈ carried', h ∈ carried ∨ x.opened? = some h := by
  cases h with
  | ask ctx request answer hrest =>
    exact ⟨_, hrest, carried_of_opened hcarried (hcomes.opened rfl), fun _ => .inl⟩
  | unopened ctx e hrest =>
    exact ⟨none, hrest, carried_of_opened hcarried (hcomes.opened rfl), fun _ => .inl⟩
  | notCommitted h e hrest =>
    exact ⟨some h, hrest, carried_of_opened hcarried (hcomes.opened rfl), fun _ => .inl⟩
  | notRolledBack h e hrest =>
    exact ⟨some h, hrest, carried_of_opened hcarried (hcomes.opened rfl), fun _ => .inl⟩
  | committed h hrest =>
    exact ⟨none, hrest, carried_of_none (hcomes.closed (.inl rfl)), fun _ hnone => nomatch hnone⟩
  | rolledBack h hrest =>
    exact ⟨none, hrest, carried_of_none (hcomes.closed (.inr rfl)), fun _ hnone => nomatch hnone⟩
  | opened ctx h hrest =>
    obtain ⟨u, hopened, hunit⟩ := hcomes.begun
    refine ⟨some h, hrest, fun u' hu' => ?_, fun h' hh' => .inr hh'⟩
    cases hopened.symm.trans hu'
    exact ⟨h, rfl, hunit⟩

theorem carries {before : List Answered} (h : Orderly carried (before ++ x :: rest))
    (hcarried : s.Carried carried) (hexchanges : s.Exchanges before mid) :
    mid.Carried x.call.joins? := by
  induction before generalizing carried s with
  | nil =>
    cases hexchanges
    exact h.fits hcarried
  | cons y before ih =>
    cases hexchanges with
    | cons hcomes hrest =>
      obtain ⟨carried', horderly, hcarried', _⟩ := h.step hcarried hcomes
      exact ih horderly hcarried' hrest

theorem returns (h : Orderly carried trace) (hcarried : s.Carried carried)
    (hexchanges : s.Exchanges trace after) (u : OpenUnit) (hu : after.opened = some u) :
    ∃ h, (h ∈ carried ∨ h ∈ trace.filterMap Answered.opened?) ∧ after.unitOf h = .ok u := by
  induction trace generalizing carried s with
  | nil =>
    cases hexchanges
    obtain ⟨h, hmem, hunit⟩ := hcarried u hu
    exact ⟨h, .inl hmem, hunit⟩
  | cons x rest ih =>
    cases hexchanges with
    | cons hcomes hrest =>
      obtain ⟨carried', horderly, hcarried', hnew⟩ := h.step hcarried hcomes
      obtain ⟨h', hmem, hunit⟩ := ih horderly hcarried' hrest
      refine ⟨h', ?_, hunit⟩
      rw [List.filterMap_cons]
      rcases hmem with hmem | hmem
      · rcases hnew h' hmem with hold | hopened
        · exact .inl hold
        · rw [hopened]
          exact .inr (.head _)
      · right
        cases x.opened? with
        | none => exact hmem
        | some h => exact .tail h hmem

end Orderly

/-! ## The services are orderly -/

section Services

variable {α β : Type} {ctx : Ctx} {p : Program α} {trace rest : List Answered}

theorem orderly_append (h : ∀ x ∈ trace, AsksIn ctx x.call) (hrest : Orderly ctx.handle rest) :
    Orderly ctx.handle (trace ++ rest) := by
  induction trace with
  | nil => exact hrest
  | cons x later ih =>
    obtain ⟨⟨request, hcall⟩, hlater⟩ := List.forall_mem_cons.mp h
    obtain ⟨call, answer⟩ := x
    cases hcall
    exact .ask ctx request answer (ih hlater)

/-- The program is orderly, and has no unit left to care for when it ends with a value. -/
def Program.KeepsOrder (p : Program α) : Prop :=
  ∀ trace result, p.Converses trace result →
    Orderly none trace ∧
      ∀ a, result = .ok a → ∀ rest, Orderly none rest → Orderly none (trace ++ rest)

theorem keepsOrder_bind {f : α → Program β} (hp : p.KeepsOrder) (hf : ∀ a, (f a).KeepsOrder) :
    (p >>= f).KeepsOrder := by
  intro trace result hconverses
  rcases converses_bind.mp hconverses with ⟨e, rfl, hfirst⟩ | ⟨a, first, later, rfl, hfirst, hlater⟩
  · exact ⟨(hp trace _ hfirst).1, fun _ hok => nomatch hok⟩
  · have hgoOn := (hp first _ hfirst).2 a rfl
    obtain ⟨horderly, honward⟩ := hf a later result hlater
    refine ⟨hgoOn later horderly, fun b hb rest hrest => ?_⟩
    rw [List.append_assoc]
    exact hgoOn _ (honward b hb rest hrest)

theorem keepsOrder_asks (hplain : ctx.handle = none) (hp : p.Makes (AsksIn ctx)) :
    p.KeepsOrder := by
  intro trace result hconverses
  have hasks := hp.converses hconverses
  have happend : ∀ rest, Orderly none rest → Orderly none (trace ++ rest) := by
    rw [← hplain]
    exact fun rest => orderly_append hasks
  refine ⟨?_, fun _ _ => happend⟩
  simpa using happend [] (.done none)

theorem keepsOrder_ofResult (r : Result α) : (ofResult r).KeepsOrder := by
  have hnone : (ofResult r).Makes (AsksIn .background) := makes_ofResult r
  exact keepsOrder_asks rfl hnone

theorem keepsOrder_reads (hplain : ctx.handle = none) (hp : p.ReadsOnly ctx) : p.KeepsOrder := by
  have hasks : p.Makes (AsksIn ctx) :=
    hp.makes.mono fun _ ⟨request, _, hcall⟩ => ⟨request, hcall⟩
  exact keepsOrder_asks hplain hasks

/-- The steps inside a unit are made with its handle, and then it is closed. -/
theorem keepsOrder_inUnit {work : Ctx → Program α} (hplain : ctx.handle = none)
    (hwork : ∀ inside, (work inside).Makes (AsksIn inside)) : (inUnit ctx work).KeepsOrder := by
  intro trace result hconverses
  rcases converses_inUnit hplain hconverses with
    ⟨e, rfl, rfl⟩ | ⟨h, steps, last, outcome, rfl, hsteps, hend⟩
  · exact ⟨.unopened ctx e (.done none), fun _ hok => nomatch hok⟩
  · have hasks := (hwork { handle := some h, deadline := ctx.deadline }).converses hsteps
    have hunit : ∀ later, Orderly (some h) later →
        Orderly none (⟨.begin ctx, .ok h⟩ :: (steps ++ later)) :=
      fun later hlater => .opened ctx h (orderly_append hasks hlater)
    cases outcome with
    | ok a =>
      rcases converses_endUnit hend with ⟨rfl, rfl⟩ | ⟨failure, rfl, rfl⟩
      · refine ⟨hunit _ (.committed h (.done none)), fun _ _ rest hrest => ?_⟩
        simpa using hunit _ (.committed h hrest)
      · exact ⟨hunit _ (.notCommitted h failure (.done _)), fun _ hok => nomatch hok⟩
    | error cause =>
      rcases converses_endUnit hend with ⟨rfl, rfl⟩ | ⟨failure, rfl, rfl⟩
      · exact ⟨hunit _ (.rolledBack h (.done none)), fun _ hok => nomatch hok⟩
      · exact ⟨hunit _ (.notRolledBack h failure (.done _)), fun _ hok => nomatch hok⟩

theorem keepsOrder_provision (hplain : ctx.handle = none) (new : NewProfile) :
    (provision ctx new).KeepsOrder := by
  unfold provision
  refine keepsOrder_bind (keepsOrder_ofResult _) fun _ => keepsOrder_bind ?_ fun row => ?_
  · exact keepsOrder_inUnit hplain fun inside => asksIn_provisionIn inside new
  · exact keepsOrder_asks hplain trivial

theorem keepsOrder_assignGuardian (hplain : ctx.handle = none) (new : NewGuardian) :
    (assignGuardian ctx new).KeepsOrder := by
  unfold assignGuardian
  refine keepsOrder_bind (keepsOrder_ofResult _) fun _ => keepsOrder_bind ?_ fun row => ?_
  · exact keepsOrder_inUnit hplain fun inside => asksIn_assignIn inside new
  · exact keepsOrder_reads hplain (readsOnly_guardianById ctx row.id)

theorem keepsOrder_program (hplain : ctx.handle = none) (call : ServiceCall) :
    (call.program ctx).KeepsOrder := by
  cases call with
  | addUser new => exact keepsOrder_asks hplain (makes_checked (.createUser new) ⟨_, rfl⟩)
  | addRoleToUser userId role scope =>
    exact keepsOrder_asks hplain (asksIn_grantRole ctx userId role scope)
  | addOrganization new =>
    exact keepsOrder_asks hplain (makes_checked (.createOrganization new) ⟨_, rfl⟩)
  | addSchool new => exact keepsOrder_asks hplain (makes_checked (.createSchool new) ⟨_, rfl⟩)
  | addGroup new => exact keepsOrder_asks hplain (makes_checked (.createGroup new) ⟨_, rfl⟩)
  | addGrade new =>
    have hasks : (ask ctx (.createGrade new)).Makes (AsksIn ctx) := makes_request ⟨_, rfl⟩
    exact keepsOrder_bind (keepsOrder_ofResult _) fun _ => keepsOrder_asks hplain hasks
  | addProfile new =>
    exact keepsOrder_bind (keepsOrder_provision hplain new) fun row =>
      keepsOrder_reads hplain (readsOnly_profileById ctx new.kind row.id)
  | assignGuardian new => exact keepsOrder_assignGuardian hplain new
  | userById id => exact keepsOrder_reads hplain (readsOnly_userById ctx id)
  | rolesOfUser userId => exact keepsOrder_reads hplain (readsOnly_rolesOfUser ctx userId)
  | schoolById id => exact keepsOrder_reads hplain (readsOnly_schoolById ctx id)
  | groupsByIds ids => exact keepsOrder_reads hplain (readsOnly_groupsByIds ctx ids)
  | profileById kind id => exact keepsOrder_reads hplain (readsOnly_profileById ctx kind id)
  | listProfiles kind query listing =>
    exact keepsOrder_reads hplain (readsOnly_listProfiles ctx kind query listing)
  | countProfiles kind query =>
    exact keepsOrder_reads hplain (readsOnly_countProfiles ctx kind query)
  | guardianById id => exact keepsOrder_reads hplain (readsOnly_guardianById ctx id)
  | listGuardians query listing =>
    exact keepsOrder_reads hplain (readsOnly_listGuardians ctx query listing)

end Services

/-! ## Runs -/

section Runs

variable {α : Type} {s after : Store} {tick : Tick} {call : Call}

theorem comes_of_answer {answer : Result call.Answer}
    (h : s.answer tick call = .ended answer after) : s.Comes ⟨call, answer⟩ after := by
  unfold Store.answer at h
  cases hserved : s.serve 0 tick call with
  | answered answer' after' =>
    rw [hserved] at h
    cases h
    exact .served tick hserved
  | waiting =>
    rw [hserved] at h
    cases hdeadline : World.deadlineOf call with
    | none =>
      rw [hdeadline] at h
      cases h
    | some deadline =>
      rw [hdeadline] at h
      cases h
      exact .failed call _

/-- Only a call that needs the lock can wait for it. -/
theorem needs_lock_of_waiting (h : s.serve 0 tick call = .waiting) :
    call.joins? = none ∧ s.opened.isSome := by
  cases call with
  | ask ctx request =>
    rcases s.ask_cases tick ctx request with ⟨_, _, hask⟩ | ⟨_, hplain, hopened⟩ | ⟨hask, _⟩
    · cases h.symm.trans hask
    · exact ⟨hplain, hopened⟩
    · cases h.symm.trans hask
  | begin ctx =>
    rcases s.serve_begin_cases tick ctx with ⟨_, hfailed⟩ | ⟨_, hopened⟩ | ⟨_, _, hbegun, _⟩
    · cases h.symm.trans hfailed
    · exact ⟨rfl, hopened⟩
    · cases h.symm.trans hbegun
  | commit h' => cases h
  | rollback h' => cases h

theorem waiting_of_stuck (h : s.answer tick call = .stuck after) :
    s.serve 0 tick call = .waiting ∧ after = s := by
  unfold Store.answer at h
  cases hserved : s.serve 0 tick call with
  | answered answer after' =>
    rw [hserved] at h
    cases h
  | waiting =>
    rw [hserved] at h
    cases hdeadline : World.deadlineOf call with
    | some deadline =>
      rw [hdeadline] at h
      cases h
    | none =>
      rw [hdeadline] at h
      cases h
      exact ⟨rfl, rfl⟩

/-- What a run has exchanged, and the call that it waits for if it does. -/
theorem exists_exchanges (p : Program α) (s : Store) (moments : Nat → Tick) :
    match Course.run ⟨s, moments⟩ p with
    | .ended result after => ∃ trace, p.Converses trace result ∧ s.Exchanges trace after
    | .stuck mid => ∃ before call, s.Exchanges before mid ∧
      call.joins? = none ∧ mid.opened.isSome ∧
      ∀ answer, ∃ rest result, p.Converses (before ++ ⟨call, answer⟩ :: rest) result := by
  induction p generalizing s moments with
  | done a => exact ⟨[], ⟨rfl, rfl⟩, .nil s⟩
  | fail e => exact ⟨[], ⟨rfl, rfl⟩, .nil s⟩
  | note event next ih => exact ih s moments
  | call call next ih =>
    rw [Course.run_call]
    cases hanswer : s.answer (moments 0) call with
    | stuck mid =>
      obtain ⟨hwaiting, rfl⟩ := waiting_of_stuck hanswer
      obtain ⟨hlock, hopened⟩ := needs_lock_of_waiting hwaiting
      refine ⟨[], call, .nil mid, hlock, hopened, fun answer => ?_⟩
      obtain ⟨rest, result, hrest⟩ := exists_converses (next answer)
      exact ⟨rest, result, answer, rest, rfl, hrest⟩
    | ended answer mid =>
      have hcomes := comes_of_answer hanswer
      have hnext := ih answer mid fun n => moments (n + 1)
      change match Course.run ⟨mid, fun n => moments (n + 1)⟩ (next answer) with
        | .ended result after => _
        | .stuck mid => _
      cases hrun : Course.run ⟨mid, fun n => moments (n + 1)⟩ (next answer) with
      | ended result after =>
        rw [hrun] at hnext
        obtain ⟨trace, hconverses, hexchanges⟩ := hnext
        exact ⟨⟨call, answer⟩ :: trace, ⟨answer, trace, rfl, hconverses⟩, .cons hcomes hexchanges⟩
      | stuck last =>
        rw [hrun] at hnext
        obtain ⟨before, blocked, hexchanges, hlock, hopened, hconverses⟩ := hnext
        refine ⟨⟨call, answer⟩ :: before, blocked, .cons hcomes hexchanges, hlock, hopened,
          fun answer' => ?_⟩
        obtain ⟨rest, result, hrest⟩ := hconverses answer'
        exact ⟨rest, result, answer, _, rfl, hrest⟩

end Runs

/-- Whatever becomes of its calls, the program makes none that needs the lock while a unit is
open; the calls made meanwhile carry the handle of that unit; and no unit is left open once it
has returned.  So it is never stuck on the store itself. -/
structure Program.NeverBlocksItself {α : Type} (p : Program α) (s : Store) : Prop where
  locks : ∀ before x rest result mid, p.Converses (before ++ x :: rest) result →
    s.Exchanges before mid → x.call.joins? = none → mid.opened = none
  carries : ∀ before x rest result mid, p.Converses (before ++ x :: rest) result →
    s.Exchanges before mid → ∀ u, mid.opened = some u →
      ∃ h, x.call.joins? = some h ∧ mid.unitOf h = .ok u
  returns : ∀ trace result after, p.Converses trace result → s.Exchanges trace after →
    (after.letGo trace).opened = none
  ends : ∀ moments, ∃ result after,
    Course.run ⟨s, moments⟩ p = .ended result after ∧ after.opened = none

/-- A service call without a unit of its caller, on a store whose lock is free, never waits for
a lock that it holds itself.  It takes the lock only while it has no unit open, uses its unit for
every call in between, leaves no unit open, and ends. -/
theorem never_blocks_itself {s : Store} {ctx : Ctx} (hopened : s.opened = none)
    (hplain : ctx.handle = none) (call : ServiceCall) :
    (call.program ctx).NeverBlocksItself s := by
  have hnone : s.Carried none := fun u hu => nomatch hopened.symm.trans hu
  have hcarries : ∀ before x rest result mid,
      (call.program ctx).Converses (before ++ x :: rest) result → s.Exchanges before mid →
        mid.Carried x.call.joins? := fun before x rest result mid hconverses hexchanges =>
    (keepsOrder_program hplain call _ result hconverses).1.carries hnone hexchanges
  have hlocks : ∀ before x rest result mid,
      (call.program ctx).Converses (before ++ x :: rest) result → s.Exchanges before mid →
        x.call.joins? = none → mid.opened = none := by
    intro before x rest result mid hconverses hexchanges hlock
    have hcarried := hcarries before x rest result mid hconverses hexchanges
    cases hmid : mid.opened with
    | none => rfl
    | some u =>
      obtain ⟨h, hmem, _⟩ := hcarried u hmid
      cases hlock.symm.trans hmem
  refine ⟨hlocks, hcarries, ?_, ?_⟩
  · intro trace result after hconverses hexchanges
    have horderly := (keepsOrder_program hplain call trace result hconverses).1
    apply Store.opened_dropAll
    intro u hu
    obtain ⟨h, hmem, hunit⟩ := horderly.returns hnone hexchanges u hu
    rcases hmem with hmem | hmem
    · cases hmem
    · exact ⟨h, hmem, hunit⟩
  · intro moments
    have hmoved : s.Moved (Course.run ⟨s, moments⟩ (call.program ctx)).state :=
      (moved_program call).run moments
    have hrun := exists_exchanges (call.program ctx) s moments
    cases hreply : Course.run ⟨s, moments⟩ (call.program ctx) with
    | ended result after =>
      rw [hreply] at hmoved
      exact ⟨result, after, rfl, hmoved.1.trans hopened⟩
    | stuck mid =>
      rw [hreply] at hrun
      obtain ⟨before, blocked, hexchanges, hlock, hopened, hconverses⟩ := hrun
      obtain ⟨rest, result, hrest⟩ := hconverses (.error default)
      have hfree := hlocks before ⟨blocked, .error default⟩ rest result mid hrest hexchanges hlock
      rw [hfree] at hopened
      cases hopened

theorem never_blocks_itself_firstUsers :
    (firstUsers.opened = none ∧ (Ctx.background.withDeadline ⟨1000⟩).handle = none) ∧
      (ServiceCall.program (Ctx.background.withDeadline ⟨1000⟩)
        (.addProfile ⟨.teacher, .ofNat 40, .ofNat 20, none, none, none⟩)).NeverBlocksItself
          firstUsers := by
  have hopened : firstUsers.opened = none := by decide +kernel
  exact ⟨⟨hopened, rfl⟩, never_blocks_itself hopened rfl _⟩

end Registrar
