import Registrar.Event
import Registrar.Store.Request

/-!
# Programs over a storage

A service is a program that calls the storage, reports events and ends with a
value or an error.  It does not know the storage: a handler gives the calls
their meaning.  So one program can be run on the store in memory, on the
database, on a storage that fails at will, or step by step between the calls of
others.
-/

namespace Registrar

inductive Program (α : Type) : Type where
  | done (a : α)
  | fail (e : AppError)
  | call (c : Call) (next : Result c.Answer → Program α)
  | note (event : Event) (next : Program α)

namespace Program

variable {α β : Type}

def bind (p : Program α) (f : α → Program β) : Program β :=
  match p with
  | done a => f a
  | fail e => fail e
  | call c next => call c fun answer => (next answer).bind f
  | note event next => note event (next.bind f)

instance : Monad Program where
  pure := done
  bind := bind

/-- Ends with the error of a failed call. -/
def request (c : Call) : Program c.Answer :=
  call c fun
    | .ok a => done a
    | .error e => fail e

def ask (ctx : Ctx) (r : Request) : Program r.Answer :=
  request (.ask ctx r)

def report (event : Event) : Program Unit :=
  note event (done ())

def ofResult : Result α → Program α
  | .ok a => done a
  | .error e => fail e

/-- Ends with the outcome of a program as a value. -/
def attempt : Program α → Program (Result α)
  | done a => done (.ok a)
  | fail e => done (.error e)
  | call c next => call c fun answer => (next answer).attempt
  | note event next => note event next.attempt

/-- Annotates the error that a program ends with. -/
def annotate (step : String) : Program α → Program α
  | done a => done a
  | fail e => fail (.context step e)
  | call c next => call c fun answer => (next answer).annotate step
  | note event next => note event (next.annotate step)

/-! ## Running a program -/

/-- What becomes of a run: it ends, or it waits for a call that is never
answered. -/
inductive Reply (σ α : Type) where
  | ended (result : Result α) (state : σ)
  | stuck (state : σ)

/-- The meaning of calls and events on a state. -/
structure Handler (σ : Type) where
  serve : σ → (c : Call) → Reply σ c.Answer
  note : σ → Event → σ

def run {σ : Type} (h : Handler σ) : Program α → σ → Reply σ α
  | done a, s => .ended (.ok a) s
  | fail e, s => .ended (.error e) s
  | call c next, s =>
    match h.serve s c with
    | .ended answer s => (next answer).run h s
    | .stuck s => .stuck s
  | note event next, s => next.run h (h.note s event)

theorem bind_assoc {γ : Type} (p : Program α) (f : α → Program β)
    (g : β → Program γ) : (p.bind f).bind g = p.bind fun a => (f a).bind g := by
  induction p with
  | done a => rfl
  | fail e => rfl
  | call c next ih =>
    simp only [bind]
    congr
    funext answer
    exact ih answer
  | note event next ih => simp only [bind, ih]

/-- Running one program after another. -/
theorem run_bind {σ : Type} (h : Handler σ) (p : Program α) (f : α → Program β)
    (s : σ) :
    (p.bind f).run h s =
      match p.run h s with
      | .ended (.ok a) s => (f a).run h s
      | .ended (.error e) s => .ended (.error e) s
      | .stuck s => .stuck s := by
  induction p generalizing s with
  | done a => rfl
  | fail e => rfl
  | call c next ih =>
    simp only [bind, run]
    cases h.serve s c with
    | ended answer s => exact ih answer s
    | stuck s => rfl
  | note event next ih => exact ih (h.note s event)

end Program

end Registrar
