import Registrar.Idna.Ranges
import Registrar.Idna.Table.Mapping

/-!
# Mapping the characters of a name

Before a name is looked at, each character is kept, left out or replaced, so that
names that differ only in case or in width become the same.  Some characters no
name may have.
-/

namespace Registrar.Idna

def runsAfter (first : Nat) : List Nat → List Run
  | gap :: count :: step :: target :: rest =>
    ⟨first + gap, count, step, target⟩ :: runsAfter (first + gap) rest
  | _ => []

/-- Characters with the several others that they stand for. -/
def expansionsAfter (fuel : Nat) (first : Nat) (ns : List Nat) :
    List (Nat × List Nat) :=
  match fuel, ns with
  | fuel + 1, gap :: count :: rest =>
    (first + gap, rest.take count) ::
      expansionsAfter fuel (first + gap) (rest.drop count)
  | _, _ => []

def validRanges : List Range := ranges Table.valid
def ignoredRanges : List Range := ranges Table.ignored
def singleRuns : List Run := runsAfter 0 (numbers Table.single)

def expansions : List (Nat × List Nat) :=
  let ns := numbers Table.several
  expansionsAfter ns.length 0 ns

/-- What a character becomes; `none` if no name may have it. -/
def mapChar? (n : Nat) : Option (List Nat) :=
  if contains validRanges n then some [n]
  else if contains ignoredRanges n then some []
  else
    match singleRuns.findSome? (·.image? n) with
    | some target => some [target]
    | none => expansions.lookup n

def map? (ns : List Nat) : Option (List Nat) :=
  (ns.mapM mapChar?).map List.flatten

end Registrar.Idna
