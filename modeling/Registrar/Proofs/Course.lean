import Registrar.Proofs.Answering
import Registrar.World

/-!
# The course of a program on the store in memory

A program is run on a store at moments that nobody chooses: each of its calls
comes at some time of the clock, and is given some identifier and time for what
it may create.  `Program.Always` says that a program ends as wanted whatever the
moments are; `Program.Always.run` turns this into a statement about runs.
-/

namespace Registrar

open Program

namespace Program.Reply

variable {σ τ α : Type}

/-- The state in which a run ended, or in which it waits. -/
def state : Reply σ α → σ
  | .ended _ s => s
  | .stuck s => s

def mapState (f : σ → τ) : Reply σ α → Reply τ α
  | .ended result s => .ended result (f s)
  | .stuck s => .stuck (f s)

end Program.Reply

namespace Store

/-- What becomes of a call that is made at a moment.  If it has to wait, it
gives up at its deadline; without one it waits for ever. -/
def answer (s : Store) (tick : Tick) (call : Call) : Reply Store call.Answer :=
  match s.serve 0 tick call with
  | .answered answer after => .ended answer after
  | .waiting =>
    match World.deadlineOf call with
    | some _ => .ended (.error (.deadlineExceeded ((Backing.memory s).operation call))) s
    | none => .stuck s

/-- What opening and closing units can do to a store. -/
inductive Turn (s : Store) : Store → Prop
  | nothing : Turn s s
  | begun (id : Uuid) (hopened : s.opened = none) :
    Turn s ⟨s.tables, some ⟨id, s.tables⟩⟩
  | committed (u : OpenUnit) (hopened : s.opened = some u) : Turn s ⟨s.tables, none⟩
  | rolledBack (u : OpenUnit) (hopened : s.opened = some u) : Turn s ⟨u.snapshot, none⟩

theorem answer_of_answered {s after : Store} {tick : Tick} {call : Call}
    {answer : Result call.Answer}
    (hserved : s.serve 0 tick call = .answered answer after) :
    s.answer tick call = .ended answer after := by
  simp [Store.answer, hserved]

end Store

/-- A store, and the moments of the calls that will be made on it. -/
structure Course where
  store : Store
  moments : Nat → Tick

namespace Course

def after (c : Course) (s : Store) : Course :=
  { store := s, moments := fun n => c.moments (n + 1) }

def serve (c : Course) (call : Call) : Reply Course call.Answer :=
  (c.store.answer (c.moments 0) call).mapState c.after

/-- Events leave no trace in a store. -/
def handler : Handler Course where
  serve := serve
  note c _ := c

/-- Runs a program; what it leaves behind is the store. -/
def run {α : Type} (c : Course) (p : Program α) : Reply Store α :=
  (p.run handler c).mapState Course.store

theorem run_call {α : Type} (c : Course) (call : Call)
    (next : Result call.Answer → Program α) :
    c.run (.call call next) =
      match c.store.answer (c.moments 0) call with
      | .ended answer s => (c.after s).run (next answer)
      | .stuck s => .stuck s := by
  simp only [run, Program.run, handler, serve]
  cases c.store.answer (c.moments 0) call <;> rfl

end Course

namespace Program

variable {α β : Type}

/-- Whatever the moments of its calls are, the program leads from a store to a
reply that is wanted. -/
def Always (wanted : Reply Store α → Prop) : Program α → Store → Prop
  | .done a, s => wanted (.ended (.ok a) s)
  | .fail e, s => wanted (.ended (.error e) s)
  | .call c next, s => ∀ tick : Tick,
    match s.answer tick c with
    | .ended answer s => (next answer).Always wanted s
    | .stuck s => wanted (.stuck s)
  | .note _ next, s => next.Always wanted s

theorem Always.run {wanted : Reply Store α → Prop} {p : Program α} {s : Store}
    (h : p.Always wanted s) (moments : Nat → Tick) :
    wanted (Course.run ⟨s, moments⟩ p) := by
  induction p generalizing s moments with
  | done a => exact h
  | fail e => exact h
  | note event next ih => exact ih h moments
  | call c next ih =>
    have htick := h (moments 0)
    rw [Course.run_call]
    cases hanswer : s.answer (moments 0) c with
    | ended answer after =>
      rw [hanswer] at htick
      exact ih answer htick fun n => moments (n + 1)
    | stuck after =>
      rw [hanswer] at htick
      exact htick

theorem Always.mono {wanted wanted' : Reply Store α → Prop} {p : Program α}
    {s : Store} (h : p.Always wanted s)
    (himp : ∀ reply, wanted reply → wanted' reply) : p.Always wanted' s := by
  induction p generalizing s with
  | done a => exact himp _ h
  | fail e => exact himp _ h
  | note event next ih => exact ih h
  | call c next ih =>
    intro tick
    have htick := h tick
    cases hanswer : s.answer tick c with
    | ended answer after =>
      rw [hanswer] at htick
      exact ih answer htick
    | stuck after =>
      rw [hanswer] at htick
      exact himp _ htick

/-! ## The combinators -/

/-- A reply is wanted of the first of two programs if it ends the first early as
wanted, or lets the second go on as wanted. -/
def Onward (wanted : Reply Store β → Prop) (f : α → Program β) :
    Reply Store α → Prop
  | .ended (.ok a) s => (f a).Always wanted s
  | .ended (.error e) s => wanted (.ended (.error e) s)
  | .stuck s => wanted (.stuck s)

theorem always_bind {wanted : Reply Store β → Prop} {p : Program α}
    {f : α → Program β} {s : Store} :
    (p >>= f).Always wanted s ↔ p.Always (Onward wanted f) s := by
  change (p.bind f).Always wanted s ↔ _
  induction p generalizing s with
  | done a => rfl
  | fail e => rfl
  | note event next ih => exact ih
  | call c next ih =>
    apply forall_congr'
    intro tick
    cases s.answer tick c with
    | ended answer after => exact ih answer
    | stuck after => rfl

@[simp] theorem always_pure {wanted : Reply Store α → Prop} {a : α} {s : Store} :
    (pure a : Program α).Always wanted s ↔ wanted (.ended (.ok a) s) :=
  Iff.rfl

@[simp] theorem always_report {wanted : Reply Store Unit → Prop} {event : Event}
    {s : Store} :
    (report event).Always wanted s ↔ wanted (.ended (.ok ()) s) :=
  Iff.rfl

@[simp] theorem always_ofResult {wanted : Reply Store α → Prop} {r : Result α}
    {s : Store} : (ofResult r).Always wanted s ↔ wanted (.ended r s) := by
  cases r <;> rfl

/-- The reply with the error annotated. -/
def Reply.annotate (step : String) : Reply Store α → Reply Store α
  | .ended result s => .ended (Except.annotate step result) s
  | .stuck s => .stuck s

theorem always_annotate {wanted : Reply Store α → Prop} {p : Program α}
    {step : String} {s : Store} :
    (p.annotate step).Always wanted s ↔
      p.Always (fun reply => wanted (reply.annotate step)) s := by
  induction p generalizing s with
  | done a => rfl
  | fail e => rfl
  | note event next ih => exact ih
  | call c next ih =>
    apply forall_congr'
    intro tick
    cases s.answer tick c with
    | ended answer after => exact ih answer
    | stuck after => rfl

/-- The reply with its result taken as a value. -/
def Reply.attempt : Reply Store α → Reply Store (Result α)
  | .ended result s => .ended (.ok result) s
  | .stuck s => .stuck s

theorem always_attempt {wanted : Reply Store (Result α) → Prop} {p : Program α}
    {s : Store} :
    p.attempt.Always wanted s ↔ p.Always (fun reply => wanted reply.attempt) s := by
  induction p generalizing s with
  | done a => rfl
  | fail e => rfl
  | note event next ih => exact ih
  | call c next ih =>
    apply forall_congr'
    intro tick
    cases s.answer tick c with
    | ended answer after => exact ih answer
    | stuck after => rfl

theorem always_request {c : Call} {wanted : Reply Store c.Answer → Prop}
    {s : Store} :
    (request c).Always wanted s ↔ ∀ tick, wanted (s.answer tick c) := by
  apply forall_congr'
  intro tick
  cases s.answer tick c with
  | ended answer after => cases answer <;> rfl
  | stuck after => rfl

theorem always_ask {ctx : Ctx} {request : Request}
    {wanted : Reply Store request.Answer → Prop} {s : Store} :
    (ask ctx request).Always wanted s ↔
      ∀ tick, wanted (s.answer tick (.ask ctx request)) :=
  always_request

end Program

/-! ## Requests -/

namespace Store

/-- A request in any context is answered from the tables, fails before them, or
waits for ever because a unit is open. -/
theorem answer_ask (s : Store) (tick : Tick) (ctx : Ctx) (request : Request) :
    (∃ e, s.answer tick (.ask ctx request) = .ended (.error e) s) ∨
      (s.answer tick (.ask ctx request) = .stuck s ∧ s.opened.isSome) ∨
      s.answer tick (.ask ctx request) =
        .ended (s.perform tick.stamp request).1 (s.perform tick.stamp request).2 := by
  rcases s.ask_cases tick ctx request with
    ⟨e, _, hask⟩ | ⟨hask, _, hopened⟩ | ⟨hask, _⟩
  · left
    exact ⟨e, answer_of_answered hask⟩
  · cases hdeadline : ctx.deadline with
    | none =>
      right
      left
      exact ⟨by simp [answer, serve, hask, World.deadlineOf, hdeadline], hopened⟩
    | some deadline =>
      left
      refine ⟨.deadlineExceeded ((Backing.memory s).operation (.ask ctx request)), ?_⟩
      simp [answer, serve, hask, World.deadlineOf, hdeadline]
  · right
    right
    exact answer_of_answered hask

theorem answer_ask_inside {s : Store} {ctx : Ctx} {h : Handle} {u : OpenUnit}
    (hctx : ctx.handle = some h) (hunit : s.unitOf h = .ok u) (tick : Tick)
    (request : Request) :
    (ctx.deadline.isSome ∧ s.answer tick (.ask ctx request) =
        .ended (.error (.deadlineExceeded (Memory.operation request))) s) ∨
      s.answer tick (.ask ctx request) =
        .ended (s.perform tick.stamp request).1 (s.perform tick.stamp request).2 := by
  cases htime : ctx.isOver tick.now with
  | false =>
    right
    exact answer_of_answered (ask_inside hctx hunit htime)
  | true =>
    left
    constructor
    · cases hdeadline : ctx.deadline with
      | none => simp [Ctx.isOver, hdeadline] at htime
      | some deadline => rfl
    · exact answer_of_answered (by simp [serve, ask, htime])

theorem answer_ask_plain {s : Store} {ctx : Ctx} (hctx : ctx.handle = none)
    (hdeadline : ctx.deadline = none) (hopened : s.opened = none) (tick : Tick)
    (request : Request) :
    s.answer tick (.ask ctx request) =
      .ended (s.perform tick.stamp request).1 (s.perform tick.stamp request).2 :=
  answer_of_answered (ask_plain hctx hopened (by simp [Ctx.isOver, hdeadline]))

/-! ## Opening a unit -/

theorem answer_begin_free {s : Store} (hopened : s.opened = none) (tick : Tick) (ctx : Ctx) :
    (ctx.deadline.isSome ∧ s.answer tick (.begin ctx) =
        .ended (.error (.deadlineExceeded Memory.beginOperation)) s) ∨
      s.answer tick (.begin ctx) =
        .ended (.ok ⟨tick.stamp.id, .memory 0⟩)
          ⟨s.tables, some ⟨tick.stamp.id, s.tables⟩⟩ := by
  cases htime : ctx.isOver tick.now with
  | false =>
    right
    exact answer_of_answered (by simp [serve, begin, htime, hopened])
  | true =>
    left
    constructor
    · cases hdeadline : ctx.deadline with
      | none => simp [Ctx.isOver, hdeadline] at htime
      | some deadline => rfl
    · exact answer_of_answered (by simp [serve, begin, htime])

theorem answer_begin_busy {s : Store} {u : OpenUnit} (hopened : s.opened = some u) (tick : Tick)
    (ctx : Ctx) :
    (ctx.deadline.isSome ∧ s.answer tick (.begin ctx) =
        .ended (.error (.deadlineExceeded Memory.beginOperation)) s) ∨
      (ctx.deadline = none ∧ s.answer tick (.begin ctx) = .stuck s) := by
  cases hdeadline : ctx.deadline with
  | none =>
    right
    exact ⟨rfl, by
      simp [answer, serve, begin, Ctx.isOver, hdeadline, hopened, World.deadlineOf]⟩
  | some deadline =>
    left
    refine ⟨rfl, ?_⟩
    cases htime : ctx.isOver tick.now with
    | true => exact answer_of_answered (by simp [serve, begin, htime])
    | false =>
      simp [answer, serve, begin, htime, hdeadline, hopened, World.deadlineOf,
        Backing.operation]

theorem turn_begin (s : Store) (tick : Tick) (ctx : Ctx) :
    s.Turn (s.answer tick (.begin ctx)).state := by
  cases hopened : s.opened with
  | none =>
    rcases answer_begin_free hopened tick ctx with ⟨_, hanswer⟩ | hanswer
    · rw [hanswer]
      exact .nothing
    · rw [hanswer]
      exact .begun tick.stamp.id hopened
  | some u =>
    rcases answer_begin_busy hopened tick ctx with ⟨_, hanswer⟩ | ⟨_, hanswer⟩
    · rw [hanswer]
      exact .nothing
    · rw [hanswer]
      exact .nothing

/-! ## Closing a unit -/

theorem turn_commit (s : Store) (h : Handle) : s.Turn (s.commit h).2 := by
  unfold commit
  cases hunit : s.unitOf h with
  | error e => exact .nothing
  | ok u => exact .committed u (unitOf_eq_ok_iff.mp hunit).2.1

theorem turn_rollback (s : Store) (h : Handle) : s.Turn (s.rollback h).2 := by
  unfold rollback
  cases hunit : s.unitOf h with
  | error e => exact .nothing
  | ok u => exact .rolledBack u (unitOf_eq_ok_iff.mp hunit).2.1

theorem turn_answer (s : Store) (tick : Tick) (call : Call) :
    s.Turn (s.answer tick call).state ∨
      ∃ request, (s.answer tick call).state = (s.perform tick.stamp request).2 := by
  cases call with
  | begin ctx => exact .inl (s.turn_begin tick ctx)
  | commit h => exact .inl (s.turn_commit h)
  | rollback h => exact .inl (s.turn_rollback h)
  | ask ctx request =>
    rcases s.answer_ask tick ctx request with ⟨e, hanswer⟩ | ⟨hanswer, _⟩ | hanswer
    · rw [hanswer]
      exact .inl .nothing
    · rw [hanswer]
      exact .inl .nothing
    · rw [hanswer]
      exact .inr ⟨request, rfl⟩

end Store

end Registrar
