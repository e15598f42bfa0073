import Registrar.Error
import Registrar.Timestamp

/-!
# Windows of days

A window is made of two instants, either of which may be absent.  The first is
moved back to the midnight that starts its UTC day, the second forward to the
midnight that ends its day; the window holds what lies from the one to the
other, without the other.
-/

namespace Registrar

structure DateWindow where
  start : Option Timestamp := none
  stop : Option Timestamp := none
  deriving DecidableEq, Inhabited

namespace DateWindow

def startOfDay (instant : Timestamp) : Result Timestamp :=
  match Timestamp.midnight? instant.dayNumber with
  | some midnight => .ok midnight
  | none => .error (.badRequest ("invalid date " ++ instant.date.toText))

def endOfDay (instant : Timestamp) : Result Timestamp :=
  if instant.date = Date.last then
    .error (.badRequest
      ("date " ++ instant.date.toText ++ " has no following day"))
  else
    let next := instant.dayNumber + 1
    match Timestamp.midnight? next with
    | some midnight => .ok midnight
    | none => .error (.badRequest ("invalid date " ++ (Date.ofDays next).toText))

def moveEach (move : Timestamp → Result Timestamp) :
    Option Timestamp → Result (Option Timestamp)
  | none => .ok none
  | some instant => (move instant).map some

def isReversed : Option Timestamp → Option Timestamp → Bool
  | some start, some stop => stop < start
  | _, _ => false

/-- The window of whole days from the day of `start` to the day of `stop`. -/
def make (start stop : Option Timestamp) : Result DateWindow :=
  if isReversed start stop then
    .error (.badRequest "date filter 'from' is after 'till'")
  else do
    let start ← moveEach startOfDay start
    let stop ← moveEach endOfDay stop
    .ok { start, stop }

def contains (w : DateWindow) (instant : Timestamp) : Bool :=
  w.start.all (fun start => start ≤ instant) &&
    w.stop.all (fun stop => instant < stop)

end DateWindow

end Registrar
