import Registrar.Console.Fields
import Registrar.Console.Names
import Registrar.World

/-!
# Sessions

A session is a conversation with one register.  It keeps the contexts and the
handles that were made in it under their names, and the names of the rows.
-/

namespace Registrar.Console

/-- What a session starts from: the storage, how long requests may take, in
seconds, and where identifiers and times come from. -/
structure Setup where
  inDatabase : Bool := false
  requestTimeout : Nat := 30
  supply : Nat → Stamp
  made : Uuid → Bool

structure Session where
  world : World
  inDatabase : Bool
  requestTimeout : Nat
  names : Names
  contexts : List (String × Ctx) := []
  handles : List (String × Handle) := []

def nanosPerMilli : Nat := 1000000

/-- Puts a value under a name in place of the one before. -/
def put {α : Type} (name : String) (a : α) (l : List (String × α)) :
    List (String × α) :=
  (name, a) :: l.filter fun (other, _) => other != name

namespace Session

def start (setup : Setup) : Session :=
  { world :=
      { backing := if setup.inDatabase then .database {} else .memory {}
        supply := setup.supply }
    inDatabase := setup.inDatabase
    requestTimeout := setup.requestTimeout
    names := { made := setup.made } }

def setContext (s : Session) (name : String) (ctx : Ctx) : Session :=
  { s with contexts := put name ctx s.contexts }

def setHandle (s : Session) (name : String) (h : Handle) : Session :=
  { s with handles := put name h s.handles, names := s.names.bind name h.id }

def bindRow (s : Session) (name : String) (id : Uuid) (roleId : Option Uuid) : Session :=
  { s with names := s.names.bindRow name id roleId }

/-- The context that a step names; without a name, the background. -/
def context (s : Session) (step : Json) : Answering Ctx :=
  match string? step "ctx" with
  | none => .ok Ctx.background
  | some name =>
    match s.contexts.lookup name with
    | some ctx => .ok ctx
    | none => .error (.unbound ("no ctx " ++ name))

def handle (s : Session) (step : Json) : Answering Handle :=
  let name := stringOr step "tx" ""
  match s.handles.lookup name with
  | some h => .ok h
  | none => .error (.unbound ("no tx " ++ name))

/-- What is told of a context: time is shown only where the clock of the session
is all there is. -/
def describe (s : Session) (ctx : Ctx) : Json :=
  let inUnit := ("in_transaction", Json.bool ctx.handle.isSome)
  if s.inDatabase then .obj [inUnit, ("deadline", .bool ctx.deadline.isSome)]
  else
    let left := ctx.deadline.map fun d =>
      max 0 ((d.nanos - s.world.clock.nanos) / nanosPerMilli)
    .obj [inUnit, ("ms_left", Json.ofOption Json.int left)]

/-- Where a step leads: a session, and a value or a refusal. -/
abbrev Outcome := Session × Answering Json

/-- Runs a program; `finish` names what it made and writes its value. -/
def perform {α : Type} (s : Session) (p : Program α)
    (finish : Session → α → Session × Json) : Outcome :=
  match s.world.run p with
  | .ended (.ok a) world =>
    let (s, v) := finish { s with world } a
    (s, .ok v)
  | .ended (.error e) world => ({ s with world }, .error (.failed e))
  | .stuck world => ({ s with world }, .error .blocked)

/-- Writes a value that names nothing. -/
def shown {α : Type} (write : α → Json) (s : Session) (a : α) : Session × Json :=
  (s, write a)

/-- Names the new row and writes it. -/
def made {α : Type} (name : String) (id : α → Uuid) (write : α → Json)
    (s : Session) (a : α) : Session × Json :=
  (s.bindRow name (id a) none, write a)

/-- A row with what orders it. -/
structure Shown where
  time : Timestamp
  id : Uuid
  row : Json

/-- Rows of one time have no order of their own in a database: they are shown in
the order of their written identifiers. -/
def arrange (s : Session) (rows : List Shown) : Json :=
  let rows :=
    if s.inDatabase then
      let written (r : Shown) : String :=
        if s.names.made r.id then s.names.written "$?" r.id else r.id.toText
      (rows.splitBy fun a b => a.time == b.time).flatMap fun run =>
        run.mergeSort fun a b => written a ≤ written b
    else rows
  .arr (rows.map Shown.row)

/-- Writes rows that were asked for by their identifiers. -/
def batch {α : Type} (id : α → Uuid) (write : α → Json) (s : Session)
    (rows : List α) : Session × Json :=
  (s, s.arrange (rows.map fun r => ⟨⟨0⟩, id r, write r⟩))

/-- Writes rows that are ordered by a key. -/
def listed {α : Type} (key : α → SortKey) (write : α → Json) (s : Session)
    (rows : List α) : Session × Json :=
  (s, s.arrange (rows.map fun r => ⟨(key r).createdAt, (key r).id, write r⟩))

/-- Writes a page and the number of all rows. -/
def page {α : Type} (key : α → SortKey) (write : α → Json) (s : Session)
    (found : List α × Nat) : Session × Json :=
  let (s, rows) := listed key write s found.1
  (s, .obj [("rows", rows), ("total", .int found.2)])

end Session

end Registrar.Console
