import Registrar.Proofs.Calls
import Registrar.Proofs.Hydration

/-!
# A client among others

A client runs its program on a store that others use at the same time.  Between any two of
its calls they have whatever they like answered, with any handle but that of the unit of work
the client has open.  A log of the client's own calls keeps what each of them did to the
tables that stand.

A client that only reads what is there comes to the value it would come to alone, however much
the others add meanwhile (`Client.Rereads.runs`).
-/

namespace Registrar

open Program Service

/-- An answered call of a client: its time, and the tables that stood before it and after. -/
structure Passage where
  now : Instant
  before : Tables
  after : Tables

/-- None of the calls has changed what stands. -/
def Unchanged (log : List Passage) : Prop :=
  ∀ m ∈ log, m.after = m.before

theorem unchanged_nil : Unchanged [] := by
  intro m hm
  cases hm

theorem Unchanged.snoc {log : List Passage} {m : Passage} (h : Unchanged log)
    (hm : m.after = m.before) : Unchanged (log ++ [m]) := by
  intro m' hm'
  rcases List.mem_append.mp hm' with hold | hnew
  · exact h m' hold
  · rw [List.mem_singleton.mp hnew]
    exact hm

/-- A client at work on a store: what it has still to do, and the handle of the unit of work
that it has open. -/
structure Client (α : Type) where
  store : Store
  rest : Program α
  held : Option Handle := none

namespace Client

variable {α : Type}

def heldAfter (held : Option Handle) : (made : Call) → Result made.Answer → Option Handle
  | .begin _, .ok h => some h
  | .commit _, .ok () | .rollback _, .ok () => none
  | _, _ => held

def Waits (c : Client α) : Prop :=
  ∃ tick made next, c.rest = .call made next ∧ c.store.serve 0 tick made = .waiting

/-- How a client gets on while others use the store, and the log of its own calls. -/
inductive Runs (c : Client α) : List Passage → Client α → Prop
  | refl : Runs c [] c
  | others {log : List Passage} {s s' : Store} {p : Program α} {held : Option Handle}
      (hruns : Runs c log ⟨s, p, held⟩) (hstep : s.Step (held.map Handle.id) s') :
    Runs c log ⟨s', p, held⟩
  | note {log : List Passage} {s : Store} {event : Event} {next : Program α}
      {held : Option Handle} (hruns : Runs c log ⟨s, .note event next, held⟩) :
    Runs c log ⟨s, next, held⟩
  | call {log : List Passage} {s after : Store} {made : Call}
      {next : Result made.Answer → Program α} {held : Option Handle}
      {answer : Result made.Answer} (tick : Tick)
      (hruns : Runs c log ⟨s, .call made next, held⟩)
      (hserved : s.serve 0 tick made = .answered answer after) :
    Runs c (log ++ [⟨tick.now, s.standing, after.standing⟩])
      ⟨after, next answer, heldAfter held made answer⟩

/-- Of a client whose program gives a value if it may finish: it ends with no other value,
fails only if the deadline of its context has come at one of its calls, and waits only while
somebody else has a unit open. -/
structure Returns (ctx : Ctx) (value : α) (log : List Passage) (c : Client α) : Prop where
  value : ∀ a, c.rest = .done a → a = value
  error : ∀ e, c.rest = .fail e →
    (∃ request : Request, e = .deadlineExceeded (Memory.operation request)) ∧
      ∃ m ∈ log, ctx.isOver m.now
  waits : c.Waits → c.held = none ∧ c.store.opened.isSome

end Client

namespace Store

variable {s after : Store} {tick : Tick}

theorem opened_of_waiting {made : Call} (h : s.serve 0 tick made = .waiting) :
    s.opened.isSome := by
  cases made with
  | commit _ | rollback _ => cases h
  | begin ctx =>
    cases hopened : s.opened with
    | some u => rfl
    | none =>
      simp only [serve, begin, hopened] at h
      split at h <;> cases h
  | ask ctx request =>
    rcases s.ask_cases tick ctx request with ⟨e, _, hask⟩ | ⟨_, _, hopened⟩ | ⟨hask, _⟩
    · cases hask.symm.trans h
    · exact hopened
    · cases hask.symm.trans h

theorem opened_of_ask {ctx : Ctx} {request : Request} {answer : Result request.Answer}
    (hserved : s.serve 0 tick (.ask ctx request) = .answered answer after) :
    after.opened = s.opened := by
  rcases s.ask_cases tick ctx request with ⟨e, _, hask⟩ | ⟨hask, _⟩ | ⟨hask, _⟩
  · cases hask.symm.trans hserved
    rfl
  · cases hask.symm.trans hserved
  · cases hask.symm.trans hserved
    rfl

theorem serve_begin {ctx : Ctx} {answer : Result Handle}
    (hserved : s.serve 0 tick (.begin ctx) = .answered answer after) :
    (after = s ∧ ∃ e, answer = .error e) ∨
      s.opened = none ∧ answer = .ok ⟨tick.stamp.id, .memory 0⟩ ∧
        after = ⟨s.tables, some ⟨tick.stamp.id, s.tables⟩⟩ := by
  simp only [serve, begin] at hserved
  split at hserved
  next =>
    cases hserved
    exact .inl ⟨rfl, _, rfl⟩
  next =>
    split at hserved
    next => cases hserved
    next hopened =>
      cases hserved
      exact .inr ⟨hopened, rfl, rfl⟩

theorem serve_plain_lookup {ctx : Ctx} {request : Request} {answer : Result request.Answer}
    (hplain : ctx.handle = none) (hlookup : request.isLookup)
    (hserved : s.serve 0 tick (.ask ctx request) = .answered answer after) :
    after = s ∧
      ((ctx.isOver tick.now ∧ answer = .error (.deadlineExceeded (Memory.operation request))) ∨
        answer = (s.standing.serve Memory.policy tick.stamp request).1) := by
  simp only [serve, ask, hplain] at hserved
  split at hserved
  next hover =>
    cases hserved
    exact ⟨rfl, .inl ⟨hover, rfl⟩⟩
  next =>
    split at hserved
    next => cases hserved
    next hopened =>
      cases hserved
      refine ⟨s.perform_lookup tick.stamp hlookup, .inr ?_⟩
      simp only [standing, hopened, perform_answer]

end Store

/-! ## Reading what is there -/

namespace Client

variable {α : Type} {ctx : Ctx} {t : Tables} {value : α} {log : List Passage}

/-- The client reads tables of which at least `t` stands, and comes to the value, or has been
stopped by its deadline. -/
structure Rereads (ctx : Ctx) (t : Tables) (value : α) (log : List Passage) (c : Client α) :
    Prop where
  called : Called c.store
  grown : t.GrowsTo c.store.standing
  held : c.held = none
  unchanged : Unchanged log
  rest : c.rest.Reads ctx t.GrowsTo (· = value) ∨
    (∃ request : Request, c.rest = .fail (.deadlineExceeded (Memory.operation request))) ∧
      ∃ m ∈ log, ctx.isOver m.now

theorem Rereads.others {s s' : Store} {p : Program α} {held : Option Handle}
    (h : Rereads ctx t value log ⟨s, p, held⟩) (hstep : s.Step (held.map Handle.id) s') :
    Rereads ctx t value log ⟨s', p, held⟩ where
  called := h.called.later (.single hstep.any)
  grown := h.grown.trans (hstep.stands h.called.ahead).1
  held := h.held
  unchanged := h.unchanged
  rest := h.rest

theorem Rereads.note {s : Store} {event : Event} {next : Program α} {held : Option Handle}
    (h : Rereads ctx t value log ⟨s, .note event next, held⟩) :
    Rereads ctx t value log ⟨s, next, held⟩ := by
  refine ⟨h.called, h.grown, h.held, h.unchanged, .inl ?_⟩
  rcases h.rest with hreads | ⟨⟨_, hfail⟩, _⟩
  · exact hreads
  · cases hfail

theorem Rereads.call {s after : Store} {made : Call} {next : Result made.Answer → Program α}
    {held : Option Handle} {answer : Result made.Answer} {tick : Tick}
    (hplain : ctx.handle = none) (h : Rereads ctx t value log ⟨s, .call made next, held⟩)
    (hserved : s.serve 0 tick made = .answered answer after) :
    Rereads ctx t value (log ++ [⟨tick.now, s.standing, after.standing⟩])
      ⟨after, next answer, heldAfter held made answer⟩ := by
  rcases h.rest with hreads | ⟨⟨_, hfail⟩, _⟩
  case inr => cases hfail
  cases made with
  | begin _ | commit _ | rollback _ => exact hreads.elim
  | ask ctx' request =>
    obtain ⟨rfl, hlookup, hstopped, hnext⟩ := hreads
    -- The look-up sees what stands now, which is at least `t`.
    obtain ⟨rfl, hanswer⟩ := Store.serve_plain_lookup hplain hlookup hserved
    refine ⟨h.called, h.grown, h.held, h.unchanged.snoc rfl, ?_⟩
    rcases hanswer with ⟨hover, rfl⟩ | rfl
    · exact .inr ⟨⟨request, hstopped _⟩, _, List.mem_append_right _ List.mem_cons_self, hover⟩
    · exact .inl (hnext _ h.grown _)

theorem Rereads.runs {c c' : Client α} {log' : List Passage} (hplain : ctx.handle = none)
    (h : Rereads ctx t value log c) (hruns : c.Runs log' c') :
    Rereads ctx t value (log ++ log') c' := by
  induction hruns with
  | refl =>
    rw [List.append_nil]
    exact h
  | others hruns hstep ih => exact ih.others hstep
  | note hruns ih => exact ih.note
  | call tick hruns hserved ih =>
    rw [← List.append_assoc]
    exact ih.call hplain hserved

theorem Rereads.returns {c : Client α} (h : Rereads ctx t value log c) :
    Returns ctx value log c where
  value a hdone := by
    rcases h.rest with hreads | ⟨⟨_, hfail⟩, _⟩
    · rw [hdone] at hreads
      exact hreads
    · cases hdone.symm.trans hfail
  error e hfailed := by
    rcases h.rest with hreads | ⟨⟨request, hfail⟩, hlate⟩
    · rw [hfailed] at hreads
      exact hreads.elim
    · cases hfailed.symm.trans hfail
      exact ⟨⟨request, rfl⟩, hlate⟩
  waits := by
    rintro ⟨tick, made, next, _, hwaiting⟩
    exact ⟨h.held, Store.opened_of_waiting hwaiting⟩

end Client

/-! ## Steps of its own -/

namespace Client

variable {α : Type}

/-- The client reports its event or makes its call, if it does not have to wait. -/
def advance (c : Client α) (tick : Tick) : List Passage × Client α :=
  match c.rest with
  | .done _ | .fail _ => ([], c)
  | .note _ next => ([], { c with rest := next })
  | .call made next =>
    match c.store.serve 0 tick made with
    | .answered answer after =>
      ([⟨tick.now, c.store.standing, after.standing⟩],
        ⟨after, next answer, heldAfter c.held made answer⟩)
    | .waiting => ([], c)

def advances (c : Client α) : List Tick → List Passage × Client α
  | [] => ([], c)
  | tick :: ticks =>
    let (log, next) := c.advance tick
    let (rest, last) := next.advances ticks
    (log ++ rest, last)

theorem runs_advance {c₀ c : Client α} {log : List Passage} (h : c₀.Runs log c) (tick : Tick) :
    c₀.Runs (log ++ (c.advance tick).1) (c.advance tick).2 := by
  obtain ⟨s, p, held⟩ := c
  cases p with
  | done a =>
    simp only [advance, List.append_nil]
    exact h
  | fail e =>
    simp only [advance, List.append_nil]
    exact h
  | note event next =>
    simp only [advance, List.append_nil]
    exact h.note
  | call made next =>
    cases hserved : s.serve 0 tick made with
    | answered answer after =>
      simp only [advance, hserved]
      exact h.call tick hserved
    | waiting =>
      simp only [advance, hserved, List.append_nil]
      exact h

theorem runs_advances {c₀ c : Client α} {log : List Passage} (h : c₀.Runs log c)
    (ticks : List Tick) : c₀.Runs (log ++ (c.advances ticks).1) (c.advances ticks).2 := by
  induction ticks generalizing c log with
  | nil =>
    rw [advances, List.append_nil]
    exact h
  | cons tick ticks ih =>
    rw [advances, ← List.append_assoc]
    exact ih (runs_advance h tick)

/-- Somebody else makes a request while no unit is open. -/
def disturb (c : Client α) (stamp : Stamp) (request : Request) : Client α :=
  { c with store := (c.store.perform stamp request).2 }

theorem runs_disturb {c₀ c : Client α} {log : List Passage} (h : c₀.Runs log c)
    (hopened : c.store.opened = none) (stamp : Stamp) (request : Request) :
    c₀.Runs log (c.disturb stamp request) := by
  have hplain : Ctx.background.handle = none := rfl
  have hserved : c.store.serve 0 ⟨default, stamp⟩ (.ask .background request) =
      .answered (c.store.perform stamp request).1 (c.store.perform stamp request).2 :=
    Store.ask_plain hplain hopened rfl
  refine h.others (.call ⟨default, stamp⟩ ?_ hserved)
  intro handle hsome
  cases hplain.symm.trans hsome

end Client

end Registrar
