import Mathlib.Data.List.Basic
import Registrar.Proofs.UnitOfWork

/-!
# Programs that end with a value

`Ends` says that a program, run on a course, gives a value and leaves the rest of the course.
Every way of putting programs together says when the whole ends in terms of its parts, and a
unit of work says it in terms of the work inside it (`ends_inUnit`).
-/

namespace Registrar

open Program Service

namespace Program

variable {α β : Type} {c c' : Course}

/-- Run on a course, the program ends with a value and leaves the rest of the course. -/
def Ends (p : Program α) (c : Course) (a : α) (c' : Course) : Prop :=
  p.run Course.handler c = .ended (.ok a) c'

theorem ends_bind {p : Program α} {f : α → Program β} {b : β} :
    (p >>= f).Ends c b c' ↔ ∃ a mid, p.Ends c a mid ∧ (f a).Ends mid b c' := by
  have hrun := run_bind Course.handler p f c
  change (p.bind f).run Course.handler c = _ ↔ _
  rw [hrun]
  unfold Ends
  cases p.run Course.handler c with
  | stuck c => simp
  | ended result c =>
    cases result with
    | error e => simp
    | ok a => simp

@[simp] theorem ends_pure {a b : α} : (pure a : Program α).Ends c b c' ↔ b = a ∧ c' = c := by
  change Reply.ended (.ok a) c = .ended (.ok b) c' ↔ _
  simp [eq_comm]

@[simp] theorem ends_report {event : Event} {u : Unit} :
    (report event).Ends c u c' ↔ c' = c := by
  change Reply.ended (.ok ()) c = .ended (.ok u) c' ↔ _
  simp [eq_comm]

@[simp] theorem ends_ofResult {r : Result α} {a : α} :
    (ofResult r).Ends c a c' ↔ r = .ok a ∧ c' = c := by
  cases r with
  | ok b =>
    change Reply.ended (.ok b) c = .ended (.ok a) c' ↔ _
    simp [eq_comm]
  | error e =>
    change Reply.ended (.error e) c = .ended (.ok a) c' ↔ _
    simp

theorem ends_request {call : Call} {a : call.Answer} :
    (request call).Ends c a c' ↔
      ∃ s, c.store.answer (c.moments 0) call = .ended (.ok a) s ∧ c' = c.after s := by
  unfold Ends request
  simp only [run, Course.handler, Course.serve]
  cases c.store.answer (c.moments 0) call with
  | stuck s => simp [Reply.mapState]
  | ended answer s =>
    cases answer with
    | error e => simp [Reply.mapState, run]
    | ok b => simp [Reply.mapState, run, eq_comm]

@[simp] theorem ends_annotate {p : Program α} {step : String} {a : α} :
    (p.annotate step).Ends c a c' ↔ p.Ends c a c' := by
  unfold Ends
  induction p generalizing c with
  | done b => rfl
  | fail e => simp [annotate, run]
  | note event next ih => exact ih
  | call call next ih =>
    simp only [annotate, run]
    cases Course.handler.serve c call with
    | stuck c => rfl
    | ended answer c => exact ih answer

theorem run_attempt (p : Program α) (c : Course) :
    p.attempt.run Course.handler c =
      match p.run Course.handler c with
      | .ended result c => .ended (.ok result) c
      | .stuck c => .stuck c := by
  induction p generalizing c with
  | done b => rfl
  | fail e => rfl
  | note event next ih => exact ih c
  | call call next ih =>
    simp only [attempt, run]
    cases Course.handler.serve c call with
    | stuck c => rfl
    | ended answer c => exact ih answer c

theorem ends_attempt_ok {p : Program α} {a : α} :
    p.attempt.Ends c (.ok a) c' ↔ p.Ends c a c' := by
  unfold Ends
  rw [run_attempt]
  cases p.run Course.handler c with
  | stuck c => simp
  | ended result c => simp

/-- Something is checked, done and reported. -/
theorem ends_checked {check : Result Unit} {p : Program α} {event : α → Event} {a : α} :
    (do
      ofResult check
      let row ← p
      report (event row)
      return row : Program α).Ends c a c' ↔ check = .ok () ∧ p.Ends c a c' := by
  refine ends_bind.trans ⟨?_, ?_⟩
  · rintro ⟨_, _, hcheck, hrest⟩
    obtain ⟨hvalid, rfl⟩ := ends_ofResult.mp hcheck
    obtain ⟨_, _, hp, hrest⟩ := ends_bind.mp hrest
    obtain ⟨_, _, hreport, hreturn⟩ := ends_bind.mp hrest
    obtain rfl := ends_report.mp hreport
    obtain ⟨rfl, rfl⟩ := ends_pure.mp hreturn
    exact ⟨hvalid, hp⟩
  · rintro ⟨hvalid, hp⟩
    exact ⟨(), c, ends_ofResult.mpr ⟨hvalid, rfl⟩, ends_bind.mpr ⟨_, _, hp,
      ends_bind.mpr ⟨(), _, ends_report.mpr rfl, ends_pure.mpr ⟨rfl, rfl⟩⟩⟩⟩

end Program

theorem Course.run_eq_ok_iff {α : Type} {c : Course} {p : Program α} {a : α} {s : Store} :
    c.run p = .ended (.ok a) s ↔ ∃ c', p.Ends c a c' ∧ c'.store = s := by
  unfold Course.run Program.Ends
  cases p.run Course.handler c with
  | stuck c => simp [Reply.mapState]
  | ended result c => simp [Reply.mapState, and_assoc]

/-! ## Calls that succeed -/

namespace Store

variable {s s' : Store} {tick : Tick} {request : Request} {a : request.Answer} {h : Handle}
  {u : OpenUnit}

theorem answer_plain_iff :
    s.answer tick (.ask .background request) = .ended (.ok a) s' ↔
      s.opened = none ∧ s.perform tick.stamp request = (.ok a, s') := by
  cases hopened : s.opened with
  | none =>
    rw [answer_ask_plain rfl rfl hopened]
    simp [Prod.ext_iff]
  | some u =>
    have hwaits : s.ask tick .background request = .waiting := by
      simp [ask, Ctx.isOver, Ctx.background, hopened]
    have hanswer : s.answer tick (.ask .background request) = .stuck s := by
      simp only [answer, serve, hwaits]
      rfl
    simp [hanswer]

theorem answer_inside_iff (hunit : s.unitOf h = .ok u) :
    s.answer tick (.ask (Ctx.background.withHandle h) request) = .ended (.ok a) s' ↔
      s.perform tick.stamp request = (.ok a, s') := by
  have hhandle : (Ctx.background.withHandle h).handle = some h := rfl
  rcases answer_ask_inside hhandle hunit tick request with ⟨hlate, _⟩ | hanswer
  · cases hlate
  · rw [hanswer]
    simp [Prod.ext_iff]

theorem answer_begin_iff {h : Handle} :
    s.answer tick (.begin .background) = .ended (.ok h) s' ↔
      s.opened = none ∧ h = ⟨tick.stamp.id, .memory 0⟩ ∧
        s' = ⟨s.tables, some ⟨tick.stamp.id, s.tables⟩⟩ := by
  cases hopened : s.opened with
  | none =>
    rcases answer_begin_free hopened tick .background with ⟨hlate, _⟩ | hanswer
    · cases hlate
    · rw [hanswer]
      simp [eq_comm]
  | some u =>
    rcases answer_begin_busy hopened tick .background with ⟨hlate, _⟩ | ⟨_, hanswer⟩
    · cases hlate
    · rw [hanswer]
      simp

end Store

/-! ## Units of work -/

section Unit

variable {α : Type} {c c' : Course} {a : α}

theorem ends_endUnit {h : Handle} {outcome : Result α} :
    (endUnit h outcome).Ends c a c' ↔ outcome = .ok a ∧
      ∃ s, c.store.answer (c.moments 0) (.commit h) = .ended (.ok ()) s ∧ c' = c.after s := by
  unfold Program.Ends
  cases outcome with
  | ok b =>
    simp only [endUnit, commitUnit, Program.run, Course.handler, Course.serve]
    cases c.store.answer (c.moments 0) (.commit h) with
    | stuck s => simp [Reply.mapState]
    | ended answer s =>
      cases answer with
      | error e => simp [Reply.mapState, Program.run]
      | ok u => simp [Reply.mapState, Program.run, eq_comm]
  | error e =>
    simp only [endUnit, rollbackUnit, Program.run, Course.handler, Course.serve]
    cases c.store.answer (c.moments 0) (.rollback h) with
    | stuck s => simp [Reply.mapState]
    | ended answer s => cases answer <;> simp [Reply.mapState, Program.run]

/-- The handle of a unit that is opened at a moment. -/
def Tick.handle (tick : Tick) : Handle :=
  ⟨tick.stamp.id, .memory 0⟩

/-- The course inside a unit that has been opened on it. -/
def Course.inside (c : Course) : Course :=
  c.after ⟨c.store.tables, some ⟨(c.moments 0).stamp.id, c.store.tables⟩⟩

theorem ends_begin {h : Handle} :
    (request (.begin .background)).Ends c h c' ↔
      c.store.opened = none ∧ h = (c.moments 0).handle ∧ c' = c.inside := by
  refine ends_request.trans ⟨?_, ?_⟩
  · rintro ⟨s, hanswer, rfl⟩
    obtain ⟨hopened, rfl, rfl⟩ := Store.answer_begin_iff.mp hanswer
    exact ⟨hopened, rfl, rfl⟩
  · rintro ⟨hopened, rfl, rfl⟩
    exact ⟨_, Store.answer_begin_iff.mpr ⟨hopened, rfl, rfl⟩, rfl⟩

theorem ends_beginUnit {opened : Ctx × Handle} :
    (beginUnit .background).Ends c opened c' ↔ c.store.opened = none ∧
      opened = (Ctx.background.withHandle (c.moments 0).handle, (c.moments 0).handle) ∧
        c' = c.inside := by
  refine ends_bind.trans ⟨?_, ?_⟩
  · rintro ⟨h, mid, hbegin, hrest⟩
    obtain ⟨hopened, rfl, rfl⟩ := ends_begin.mp hbegin
    obtain ⟨_, _, hreport, hpair⟩ := ends_bind.mp hrest
    obtain rfl := ends_report.mp hreport
    obtain ⟨rfl, rfl⟩ := ends_pure.mp hpair
    exact ⟨hopened, rfl, rfl⟩
  · rintro ⟨hopened, rfl, rfl⟩
    exact ⟨_, _, ends_begin.mpr ⟨hopened, rfl, rfl⟩,
      ends_bind.mpr ⟨(), c.inside, ends_report.mpr rfl, ends_pure.mpr ⟨rfl, rfl⟩⟩⟩

theorem ends_inUnit {work : Ctx → Program α} :
    (inUnit .background work).Ends c a c' ↔ c.store.opened = none ∧
      ∃ mid s, (work (Ctx.background.withHandle (c.moments 0).handle)).Ends c.inside a mid ∧
        mid.store.answer (mid.moments 0) (.commit (c.moments 0).handle) = .ended (.ok ()) s ∧
        c' = mid.after s := by
  refine ends_bind.trans ⟨?_, ?_⟩
  · rintro ⟨_, _, hbegin, hrest⟩
    obtain ⟨hopened, rfl, rfl⟩ := ends_beginUnit.mp hbegin
    obtain ⟨_, mid, hwork, hend⟩ := ends_bind.mp hrest
    obtain ⟨rfl, s, hcommit, rfl⟩ := ends_endUnit.mp hend
    exact ⟨hopened, mid, s, ends_attempt_ok.mp hwork, hcommit, rfl⟩
  · rintro ⟨hopened, mid, s, hwork, hcommit, rfl⟩
    exact ⟨_, _, ends_beginUnit.mpr ⟨hopened, rfl, rfl⟩, ends_bind.mpr
      ⟨_, mid, ends_attempt_ok.mpr hwork, ends_endUnit.mpr ⟨rfl, s, hcommit, rfl⟩⟩⟩

end Unit

end Registrar
