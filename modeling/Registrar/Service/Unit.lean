import Registrar.Program

/-!
# Opening and closing units of work

A unit is opened on a context that does not carry one, and is closed by the
outcome of the work inside it: committed after a value, rolled back after an
error.  A failure to close is reported together with the error that was being
handled.
-/

namespace Registrar.Service

/-- Opens a unit and gives the context that takes part in it. -/
def beginUnit (ctx : Ctx) : Program (Ctx × Handle) :=
  match ctx.handle with
  | some opened => .fail (.nestedUnitOfWork opened.id)
  | none => do
    let handle ← Program.request (.begin ctx)
    Program.report (.unitOpened handle.id)
    return (ctx.withHandle handle, handle)

def commitUnit {α : Type} (handle : Handle) (value : α) : Program α :=
  .call (.commit handle) fun
    | .ok () => .note (.unitCommitted handle.id) (.done value)
    | .error failure =>
      .note (.commitFailed handle.id failure) (.fail (.unitOfWork .commit failure))

def rollbackUnit {α : Type} (handle : Handle) (cause : AppError) : Program α :=
  .call (.rollback handle) fun
    | .ok () => .note (.unitRolledBack handle.id cause) (.fail cause)
    | .error failure =>
      .note (.rollbackFailed handle.id failure cause)
        (.fail (.unitOfWorkAfter .rollback failure cause))

/-- Closes a unit according to the outcome of the work inside it. -/
def endUnit {α : Type} (handle : Handle) : Result α → Program α
  | .ok value => commitUnit handle value
  | .error cause => rollbackUnit handle cause

/-- Does some work in a unit of its own. -/
def inUnit {α : Type} (ctx : Ctx) (work : Ctx → Program α) : Program α := do
  let (inside, handle) ← beginUnit ctx
  let outcome ← (work inside).attempt
  endUnit handle outcome

end Registrar.Service
