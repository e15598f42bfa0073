import Registrar.Console.Session
import Registrar.Service.Unit
import Registrar.Startup

/-!
# Steps that control a session

Units of work are opened and closed, contexts derived, the clock moved and
faults injected.
-/

namespace Registrar.Console.Session

def begin (s : Session) (name : String) (step : Json) : Answering Outcome := do
  let ctx ← s.context step
  return s.perform (Service.beginUnit ctx) fun s (inside, h) =>
    ((s.setContext name inside).setHandle name h,
      .obj [("id", Json.ofUuid h.id), ("in_transaction", .bool inside.handle.isSome),
        ("debug", text h.describe)])

/-- Ends a unit after a value, or after an error that the step brings. -/
def finish (s : Session) (step : Json) : Answering Outcome := do
  let h ← s.handle step
  let outcome : Result String :=
    match string? step "fail" with
    | some message => .error (.badRequest message)
    | none => .ok "done"
  return s.perform (Service.endUnit h outcome) (shown text)

def close (s : Session) (call : Handle → Call) (step : Json) : Answering Outcome := do
  let h ← s.handle step
  return s.perform (Program.request (call h)) (shown fun _ => .null)

/-- Forgets a handle and every context that carries it. -/
def forget (s : Session) (step : Json) : Answering Outcome := do
  let h ← s.handle step
  let s :=
    { s with
      world := s.world.drop h
      handles := s.handles.filter fun (_, other) => other ≠ h
      contexts := s.contexts.filter fun (_, ctx) => ctx.handle ≠ some h }
  return (s, .ok .null)

/-- A context, unless the clock cannot show its deadline. -/
def dated : Option Ctx → Answering Ctx
  | some ctx => .ok ctx
  | none => .error .clockOverflow

/-- The context of one request, with the deadline of the settings. -/
def newContext (s : Session) : Answering Ctx :=
  let core : CoreSettings := { requestTimeout := s.requestTimeout }
  dated (core.requestContext? s.world.clock)

def derive (s : Session) (name : String) (step : Json) : Answering Outcome := do
  let base ← s.context step
  let ctx ←
    match nat64? step "timeout_ms" with
    | some ms => dated (base.withTimeout? s.world.clock (ms * nanosPerMilli))
    | none => pure base
  let ctx ←
    match string? step "tx" with
    | some _ => (s.handle step).map ctx.withHandle
    | none => pure ctx
  return (s.setContext name ctx, .ok (s.describe ctx))

def requestContext (s : Session) (name : String) : Answering Outcome := do
  let ctx ← s.newContext
  return (s.setContext name ctx, .ok (s.describe ctx))

/-- A handle of a storage that this register does not know. -/
def foreignHandle (s : Session) (name : String) : Outcome :=
  let stamp := s.world.supply s.world.used
  let h : Handle := { id := stamp.id, home := .elsewhere }
  let s := { s with world := { s.world with used := s.world.used + 1 } }
  ((s.setContext name (Ctx.background.withHandle h)).setHandle name h, .ok .null)

def advance (s : Session) (step : Json) : Outcome :=
  let ms := (nat64? step "ms").getD 0
  ({ s with world := s.world.advance (ms * nanosPerMilli) }, .ok .null)

def injectFaults (s : Session) (step : Json) : Outcome :=
  let faults : Faults :=
    { begin := flag step "begin", commit := flag step "commit"
      rollback := flag step "rollback"
      insertDelay := (nat64? step "delay_ms").map (· * nanosPerMilli) }
  ({ s with world := { s.world with faults } }, .ok .null)

/-- The outcome of a controlling step; other steps have none. -/
def control? (s : Session) (name what : String) (step : Json) :
    Option (Answering Outcome) :=
  match what with
  | "begin" => some (s.begin name step)
  | "end" => some (s.finish step)
  | "commit" => some (s.close .commit step)
  | "rollback" => some (s.close .rollback step)
  | "drop_tx" => some (s.forget step)
  | "ctx" => some (s.derive name step)
  | "request_ctx" => some (s.requestContext name)
  | "foreign_tx" => some (.ok (s.foreignHandle name))
  | "advance" => some (.ok (s.advance step))
  | "fault" => some (.ok (s.injectFaults step))
  | _ => none

end Registrar.Console.Session
