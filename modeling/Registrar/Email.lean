import Registrar.Email.Address
import Registrar.Idna

/-!
# E-mail addresses

An address is split at its last at sign.  The user part is a run of letters,
digits and a few marks; the domain is a host, whose name may be written in any
script.
-/

namespace Registrar

namespace Email

open Text

def isUserMark (c : Char) : Bool :=
  c ∈ ".!#$%&'*+/=?^_\x60\x7b|\x7d~-".toList

/-- At most 64 characters, at least one, all of them letters, digits or marks. -/
def isUser (s : List Char) : Bool :=
  s ≠ [] && s.length ≤ 64 && s.all fun c => isAlphanumeric c || isUserMark c

/-- A host as it is written, or in its ASCII form. -/
def isDomain (s : List Char) : Bool :=
  s.length ≤ 255 && (isHost s || (Idna.toAscii? s).any isHost)

/-- The parts before and after the last at sign. -/
def splitLast? (s : List Char) : Option (List Char × List Char) :=
  match s.reverse.dropWhile (· != '@') with
  | [] => none
  | _ :: user => some (user.reverse, (s.reverse.takeWhile (· != '@')).reverse)

end Email

def isEmail (s : String) : Bool :=
  match Email.splitLast? s.toList with
  | some (user, domain) => Email.isUser user && Email.isDomain domain
  | none => false

end Registrar
