import Registrar.Store.Memory

/-!
# Several stores in memory

Stores may live side by side, each with its own tables and its own lock.  The
handle of a unit holds the lock of the store that opened it: whichever store a
call with the handle is made on, it works on the tables that the unit holds.  A
call without a handle waits for the tables of the store that it is made on.
-/

namespace Registrar

/-- The stores by their numbers. -/
abbrev Stores := Nat → Store

namespace Stores

def empty : Stores := fun _ => .empty

def set (stores : Stores) (there : Nat) (s : Store) : Stores :=
  fun n => if n = there then s else stores n

/-- The open unit that a handle names, and the store whose lock it holds. -/
def unitOf (stores : Stores) (h : Handle) : Result (Nat × OpenUnit) :=
  match h.home with
  | .memory there =>
    match (stores there).unitOf h with
    | .ok opened => .ok (there, opened)
    | .error e => .error e
  | _ => .error (.internal [h.foreignMessage])

/-- Serves a request on the tables of the store `there`. -/
def perform (stores : Stores) (there : Nat) (stamp : Stamp) (request : Request) :
    Result request.Answer × Stores :=
  let (answer, s) := (stores there).perform stamp request
  (answer, stores.set there s)

/-- A request made on the store `here`. -/
def ask (stores : Stores) (here : Nat) (tick : Tick) (ctx : Ctx) (request : Request) :
    Served Stores request.Answer :=
  if ctx.isOver tick.now then
    .answered (.error (.deadlineExceeded (Memory.operation request))) stores
  else
    match ctx.handle with
    | some h =>
      match stores.unitOf h with
      | .ok (there, _) =>
        let (answer, stores) := stores.perform there tick.stamp request
        .answered answer stores
      | .error e => .answered (.error e) stores
    | none =>
      match (stores here).opened with
      | some _ => .waiting
      | none =>
        let (answer, stores) := stores.perform here tick.stamp request
        .answered answer stores

/-- Takes the lock of the store `here`. -/
def begin (stores : Stores) (here : Nat) (tick : Tick) (ctx : Ctx) : Served Stores Handle :=
  match (stores here).begin here tick ctx with
  | .answered answer s => .answered answer (stores.set here s)
  | .waiting => .waiting

def commit (stores : Stores) (h : Handle) : Result Unit × Stores :=
  match stores.unitOf h with
  | .ok (there, _) =>
    (.ok (), stores.set there { stores there with opened := none })
  | .error e => (.error e, stores)

def rollback (stores : Stores) (h : Handle) : Result Unit × Stores :=
  match stores.unitOf h with
  | .ok (there, opened) => (.ok (), stores.set there { tables := opened.snapshot })
  | .error e => (.error e, stores)

/-- The last copy of a handle is gone. -/
def drop (stores : Stores) (h : Handle) : Stores :=
  (stores.rollback h).2

/-- One call, made on the store `here`. -/
def serve (stores : Stores) (here : Nat) (tick : Tick) : (call : Call) →
    Served Stores call.Answer
  | .ask ctx request => stores.ask here tick ctx request
  | .begin ctx => stores.begin here tick ctx
  | .commit h => let (answer, stores) := stores.commit h; .answered answer stores
  | .rollback h => let (answer, stores) := stores.rollback h; .answered answer stores

theorem set_of_ne {n there : Nat} (h : n ≠ there) (stores : Stores) (s : Store) :
    stores.set there s n = stores n := by
  simp [set, h]

end Stores

end Registrar
