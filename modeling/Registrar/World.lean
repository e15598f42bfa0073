import Registrar.Program
import Registrar.Store.Database
import Registrar.Store.Memory

/-!
# A register at work

A register at work has its storage, a clock, a supply of identifiers and times
for what it creates, and a record of the calls made and the events reported.
The clock moves only when somebody waits: for a deadline, or for an injected
delay.  Faults can be injected into the opening and closing of units of work.
-/

namespace Registrar

/-- The storage behind a register. -/
inductive Backing where
  | memory (s : Store)
  | database (d : Database)

namespace Backing

def serve (b : Backing) (tick : Tick) (call : Call) : Served Backing call.Answer :=
  match b with
  | .memory s =>
    match s.serve 0 tick call with
    | .answered answer s => .answered answer (.memory s)
    | .waiting => .waiting
  | .database d =>
    match d.serve tick call with
    | .answered answer d => .answered answer (.database d)
    | .waiting => .waiting

def drop (b : Backing) (h : Handle) : Backing :=
  match b with
  | .memory s => .memory (s.drop h)
  | .database d => .database (d.drop h)

/-- What a call is named in the error of a passed deadline. -/
def operation (b : Backing) : Call → String
  | .ask _ request =>
    match b with
    | .memory _ => Memory.operation request
    | .database _ => Schema.operation request
  | .begin _ =>
    match b with
    | .memory _ => Memory.beginOperation
    | .database _ => Schema.beginOperation
  | .commit _ => "commit"
  | .rollback _ => "rollback"

end Backing

/-- What is made to go wrong. -/
structure Faults where
  begin : Bool := false
  commit : Bool := false
  rollback : Bool := false
  insertDelay : Option Nat := none
  deriving DecidableEq

structure World where
  backing : Backing
  clock : Instant := ⟨0⟩
  faults : Faults := {}
  supply : Nat → Stamp
  used : Nat := 0
  calls : List String := []
  events : List Event := []

namespace World

open Program

def deadlineOf : Call → Option Instant
  | .ask ctx _ | .begin ctx => ctx.deadline
  | _ => none

def record (w : World) (call : Call) : World :=
  { w with calls := w.calls ++ [call.label] }

def noteEvent (w : World) (event : Event) : World :=
  { w with events := w.events ++ [event] }

/-- A call that waits reaches its deadline, or waits for ever. -/
def await {α : Type} (w : World) (call : Call) : Reply World α :=
  match deadlineOf call with
  | some deadline =>
    .ended (.error (.deadlineExceeded (w.backing.operation call)))
      { w with clock := deadline }
  | none => .stuck w

/-- The storage answers the call at the time of the clock. -/
def pass (w : World) (call : Call) : Reply World call.Answer :=
  let tick : Tick := { now := w.clock, stamp := w.supply w.used }
  match w.backing.serve tick call with
  | .answered answer backing => .ended answer { w with backing, used := w.used + 1 }
  | .waiting => w.await call

/-- The delay put before the insertion of a profile, under the deadline of its
context. -/
def delay (w : World) (ctx : Ctx) (entity : String) (nanos : Nat) :
    Result Unit × World :=
  let slow : AppError := .deadlineExceeded ("slow insert " ++ entity)
  let done : Instant := ⟨w.clock.nanos + nanos⟩
  if ctx.isOver w.clock then (.error slow, w)
  else
    match ctx.deadline with
    | some deadline =>
      if deadline < done then (.error slow, { w with clock := deadline })
      else (.ok (), { w with clock := done })
    | none => (.ok (), { w with clock := done })

/-- A unit that fails to commit has been rolled back; one whose rollback is
reported as failed has been rolled back all the same. -/
def failClosing (w : World) (h : Handle) (message : String) : Reply World Unit :=
  match w.pass (.rollback h) with
  | .ended (.ok ()) w => .ended (.error (.internal [message])) w
  | .ended (.error e) w => .ended (.error e) w
  | .stuck w => .stuck w

/-- Serves a call, with the faults in force. -/
def serve (w : World) (call : Call) : Reply World call.Answer :=
  let w := w.record call
  match call with
  | .begin ctx =>
    if w.faults.begin then .ended (.error (.internal ["pool exhausted"])) w
    else w.pass (.begin ctx)
  | .commit h =>
    if w.faults.commit then w.failClosing h "serialization failure"
    else w.pass (.commit h)
  | .rollback h =>
    if w.faults.rollback then w.failClosing h "connection lost"
    else w.pass (.rollback h)
  | .ask ctx (.createProfile roleId new) =>
    match w.faults.insertDelay with
    | none => w.pass (.ask ctx (.createProfile roleId new))
    | some nanos =>
      match w.delay ctx new.kind.entity nanos with
      | (.ok (), w) => w.pass (.ask ctx (.createProfile roleId new))
      | (.error e, w) => .ended (.error e) w
  | .ask ctx request => w.pass (.ask ctx request)

def handler : Handler World where
  serve := serve
  note := noteEvent

/-- Runs a program in the world. -/
def run {α : Type} (w : World) (p : Program α) : Reply World α :=
  p.run handler w

def advance (w : World) (nanos : Nat) : World :=
  { w with clock := ⟨w.clock.nanos + nanos⟩ }

def drop (w : World) (h : Handle) : World :=
  { w with backing := w.backing.drop h }

end World

end Registrar
