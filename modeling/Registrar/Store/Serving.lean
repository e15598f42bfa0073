import Registrar.Store.Request

/-!
# The moment of a call

A storage answers a call at a moment, or lets it wait until the open unit of
work is closed.
-/

namespace Registrar

/-- What becomes of a call: it is answered, or it has to wait. -/
inductive Served (σ α : Type) where
  | answered (result : Result α) (store : σ)
  | waiting

/-- The moment of a call: the time of the clock, and the stamp for what the
call may create. -/
structure Tick where
  now : Instant
  stamp : Stamp
  deriving DecidableEq, Inhabited

def Handle.foreignMessage (h : Handle) : String :=
  "unit of work " ++ h.id.toText ++ " was opened by a different storage backend"

end Registrar
