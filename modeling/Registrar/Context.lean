import Registrar.Uuid

/-!
# The context of a call

A call may carry the handle of an open unit of work, inside which it then
takes part, and a deadline.  Deadlines are instants of a clock that only moves
forward; its seconds are signed numbers of 64 bits, so a deadline too far ahead
does not exist.
-/

namespace Registrar

/-- An instant of the clock, in nanoseconds. -/
structure Instant where
  nanos : Int
  deriving DecidableEq, Inhabited

namespace Instant

def nanosPerSecond : Int := 1000000000

/-- The clock counts seconds in 64 bits with a sign. -/
def InRange (t : Instant) : Prop :=
  -9223372036854775808 ≤ t.nanos / nanosPerSecond ∧
    t.nanos / nanosPerSecond < 9223372036854775808

instance (t : Instant) : Decidable t.InRange :=
  inferInstanceAs (Decidable (_ ∧ _))

/-- The instant so many nanoseconds later, if the clock can show it. -/
def add? (t : Instant) (nanos : Nat) : Option Instant :=
  let later : Instant := ⟨t.nanos + nanos⟩
  if later.InRange then some later else none

instance : LT Instant where
  lt a b := a.nanos < b.nanos

instance : LE Instant where
  le a b := a.nanos ≤ b.nanos

instance (a b : Instant) : Decidable (a < b) :=
  inferInstanceAs (Decidable (a.nanos < b.nanos))

instance (a b : Instant) : Decidable (a ≤ b) :=
  inferInstanceAs (Decidable (a.nanos ≤ b.nanos))

end Instant

/-- Where a unit of work was opened: in one of the stores in memory, in the
database, or in some storage that is neither. -/
inductive Home where
  | memory (store : Nat)
  | database
  | elsewhere
  deriving DecidableEq, Inhabited

/-- A handle names a unit of work; all copies of it name the same unit. -/
structure Handle where
  id : Uuid
  home : Home
  deriving DecidableEq, Inhabited

/-- The handle as it is shown. -/
def Handle.describe (h : Handle) : String :=
  "TxHandle \x7b id: " ++ h.id.toText ++ " \x7d"

structure Ctx where
  handle : Option Handle := none
  deadline : Option Instant := none
  deriving DecidableEq, Inhabited

namespace Ctx

/-- No deadline and no unit of work. -/
def background : Ctx := {}

/-- Keeps the earlier of the two deadlines. -/
def withDeadline (ctx : Ctx) (deadline : Instant) : Ctx :=
  match ctx.deadline with
  | some current =>
    if current < deadline then ctx else { ctx with deadline := some deadline }
  | none => { ctx with deadline := some deadline }

/-- Adds a deadline so many nanoseconds from `now`. -/
def withTimeout? (ctx : Ctx) (now : Instant) (nanos : Nat) : Option Ctx :=
  (now.add? nanos).map ctx.withDeadline

def withHandle (ctx : Ctx) (handle : Handle) : Ctx :=
  { ctx with handle := some handle }

/-- The deadline has come. -/
def isOver (ctx : Ctx) (now : Instant) : Bool :=
  ctx.deadline.any (· ≤ now)

end Ctx

end Registrar
