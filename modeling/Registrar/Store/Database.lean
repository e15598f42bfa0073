import Registrar.Store.Schema
import Registrar.Store.Serving

/-!
# The store in the database

There is one connection.  A unit of work keeps it inside a transaction until the
unit is closed; a call outside the unit waits for it.  Rows created in one
transaction have the time at which it began.  A statement that fails ends the
transaction: the statements after it are refused, and the unit writes nothing
whichever way it is closed.
-/

namespace Registrar

/-- An open transaction.  `aborted` says that a statement in it has failed. -/
structure Transaction where
  id : Uuid
  tables : Tables
  began : Timestamp
  aborted : Bool := false
  deriving DecidableEq

structure Database where
  tables : Tables := {}
  opened : Option Transaction := none
  deriving DecidableEq

namespace Database

def empty : Database := {}

/-- Runs one statement on the tables. -/
def statement (t : Tables) (stamp : Stamp) (request : Request) :
    Result request.Answer × Tables :=
  let (outcome, tables) : Except StatementError request.Answer × Tables :=
    match Schema.checkLookup request with
    | .ok () => t.serve Schema.policy stamp request
    | .error e => (.error e, t)
  (outcome.mapError (·.toAppError (Schema.operation request)), tables)

/-- Runs one statement in a transaction. -/
def statementIn (tx : Transaction) (stamp : Stamp) (request : Request) :
    Result request.Answer × Transaction :=
  if tx.aborted then
    (.error (Schema.aborted.toAppError (Schema.operation request)), tx)
  else
    let (answer, tables) :=
      Database.statement tx.tables { stamp with time := tx.began } request
    match answer with
    | .ok a => (.ok a, { tx with tables })
    | .error e => (.error e, { tx with aborted := true })

/-- The open transaction that a handle names. -/
def transactionOf (d : Database) (h : Handle) : Result Transaction :=
  match h.home with
  | .database =>
    match d.opened with
    | some tx => if tx.id = h.id then .ok tx else .error (.transactionClosed h.id)
    | none => .error (.transactionClosed h.id)
  | _ => .error (.internal [h.foreignMessage])

def ask (d : Database) (tick : Tick) (ctx : Ctx) (request : Request) :
    Served Database request.Answer :=
  if ctx.isOver tick.now then
    .answered (.error (.deadlineExceeded (Schema.operation request))) d
  else
    match ctx.handle with
    | some h =>
      match d.transactionOf h with
      | .ok tx =>
        let (answer, tx) := statementIn tx tick.stamp request
        .answered answer { d with opened := some tx }
      | .error e => .answered (.error e) d
    | none =>
      match d.opened with
      | some _ => .waiting
      | none =>
        let (answer, tables) := statement d.tables tick.stamp request
        .answered answer { d with tables }

def begin (d : Database) (tick : Tick) (ctx : Ctx) : Served Database Handle :=
  if ctx.isOver tick.now then
    .answered (.error (.deadlineExceeded Schema.beginOperation)) d
  else
    match d.opened with
    | some _ => .waiting
    | none =>
      let tx : Transaction :=
        { id := tick.stamp.id, tables := d.tables, began := tick.stamp.time }
      .answered (.ok { id := tick.stamp.id, home := .database })
        { d with opened := some tx }

/-- An aborted transaction can be committed, but then writes nothing. -/
def commit (d : Database) (h : Handle) : Result Unit × Database :=
  match d.transactionOf h with
  | .ok tx => (.ok (), { tables := if tx.aborted then d.tables else tx.tables })
  | .error e => (.error e, d)

def rollback (d : Database) (h : Handle) : Result Unit × Database :=
  match d.transactionOf h with
  | .ok _ => (.ok (), { d with opened := none })
  | .error e => (.error e, d)

/-- The last copy of a handle is gone: its transaction, if still open, ends with
the connection. -/
def drop (d : Database) (h : Handle) : Database :=
  (d.rollback h).2

def serve (d : Database) (tick : Tick) : (call : Call) → Served Database call.Answer
  | .ask ctx request => d.ask tick ctx request
  | .begin ctx => d.begin tick ctx
  | .commit h => let (answer, d) := d.commit h; .answered answer d
  | .rollback h => let (answer, d) := d.rollback h; .answered answer d

end Database

end Registrar
