import Registrar.Number.Shortest
import Registrar.Settings
import Registrar.Settings.Value

/-!
# Settings read from a configuration

A configuration is read loosely: a value of another type is taken for one of the
wanted type if there is a natural way.  Numbers and words of consent are taken
for each other, and everything that is no table or array has a text.
-/

namespace Registrar.ConfigValue

open Text

def yes : List (List Char) := ["true".toList, "on".toList, "yes".toList]
def no : List (List Char) := ["false".toList, "off".toList, "no".toList]

def toText? : ConfigValue → Option String
  | .bool b => some (if b then "true" else "false")
  | .int i => some (String.ofList (digitsOfInt i))
  | .real x => some (String.ofList x.toText)
  | .text s => some s
  | _ => none

/-- The word one for consent and zero for its opposite are words too. -/
def toFlag? : ConfigValue → Option Bool
  | .bool b => some b
  | .int i => some (i != 0)
  | .real x => some (!x.isZero)
  | .text s =>
    let word := s.toList.map lower
    if (['1'] :: yes).contains word then some true
    else if (['0'] :: no).contains word then some false
    else none
  | _ => none

/-- Digits with a plus sign or none before them. -/
def readUnsigned? : List Char → Option Nat
  | '+' :: s => readNat? s
  | s => readNat? s

/-- Fractions are rounded, a half goes up. -/
def toNat? : ConfigValue → Option Nat
  | .bool b => some (if b then 1 else 0)
  | .int i => if 0 ≤ i then some i.toNat else none
  | .real x => some (x.toNatWithin ValueReader.maxNat64)
  | .text s =>
    let word := s.toList.map lower
    if yes.contains word then some 1
    else if no.contains word then some 0
    else readUnsigned? s.toList
  | _ => none

/-- The fields of a record: a table has them by name, an array in order. -/
def fields? (names : List String) : ConfigValue → Option (String → Option ConfigValue)
  | .table es => some fun name => es.lookup name
  | .array vs => some fun name => vs[names.idxOf name]?
  | _ => none

def reader : ValueReader ConfigValue where
  record := fields?
  text := toText?
  nat bound v := v.toNat?.filter (· ≤ bound)
  flag := toFlag?

end Registrar.ConfigValue
