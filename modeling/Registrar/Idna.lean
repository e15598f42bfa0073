import Registrar.Idna.Label
import Registrar.Idna.Punycode
import Registrar.Text.Pieces

/-!
# Domain names in ASCII

A domain name may be written with the characters of any script.  It has an ASCII
form, in which each label with other characters is written with letters and
digits behind `xn--`.  Lengths and hyphens are not looked at here.
-/

namespace Registrar.Idna

open Text

/-- What stands before the letters and digits of a label. -/
def mark : List Char := "xn--".toList

def isAscii (label : List Nat) : Bool :=
  label.all (· < 128)

/-- A label in both forms. -/
structure Label where
  ascii : List Char
  unicode : List Nat

/-- Reads a label; one that is in ASCII form already must be the form of a label
with other characters. -/
def readLabel? (label : List Nat) : Option Label :=
  if isAscii label then
    let ascii := label.map Char.ofNat
    match afterPrefix? mark ascii with
    | none => some { ascii, unicode := label }
    | some digits => do
      let unicode ← Punycode.decode? digits
      if !isAscii unicode && isSettled unicode && isLabel unicode then
        some { ascii, unicode }
      else none
  else if isLabel label && !(mark.map Char.toNat).isPrefixOf label then
    some { ascii := mark ++ Punycode.encode label, unicode := label }
  else none

/-- The labels of a name, if they are in order together. -/
def labels? (name : List Char) : Option (List Label) := do
  let mapped ← map? (name.map Char.toNat)
  let pieces := splitAt '.' ((compose mapped).map Char.ofNat)
  let labels ← pieces.mapM fun piece => readLabel? (piece.map Char.toNat)
  if labels.any (fun l => l.unicode.any isRightward) &&
      !labels.all (fun l => directionFits l.unicode) then none
  else some labels

/-- The ASCII form of a name. -/
def toAscii? (name : List Char) : Option (List Char) :=
  (labels? name).map fun labels => joinWith ['.'] (labels.map Label.ascii)

end Registrar.Idna
