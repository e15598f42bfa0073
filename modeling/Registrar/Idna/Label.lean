import Registrar.Idna.Composition
import Registrar.Idna.Mapping
import Registrar.Idna.Table.Class

/-!
# Labels of a name

A label does not begin with a mark, and has the invisible joiners only where they
change how the characters around them look.  If any label of a name has
characters that are written from right to left, all its labels keep the rules
that make them look the same in every surrounding.
-/

namespace Registrar.Idna

def markRanges : List Range := ranges Table.marks
def directionRanges : List Range := kinds Table.directions
def joiningRanges : List Range := kinds Table.joining

/-! ## Joiners -/

inductive Joining where
  | left | right | both | transparent | none
  deriving DecidableEq

def joiningOf (n : Nat) : Joining :=
  match kind? joiningRanges n with
  | some 0 => .left
  | some 1 => .right
  | some 2 => .both
  | some 3 => .transparent
  | _ => .none

def nonJoiner : Nat := 0x200C
def joiner : Nat := 0x200D

/-- The combining class of the marks that take away a vowel. -/
def viramaClass : Nat := 9

def firstJoining (ns : List Nat) : Joining :=
  ((ns.map joiningOf).find? (· ≠ .transparent)).getD .none

/-- The characters before one are given in reverse. -/
def joinerFits (before : List Nat) (n : Nat) (after : List Nat) : Bool :=
  if n ≠ nonJoiner ∧ n ≠ joiner then true
  else if (before.head?.map combiningClass) = some viramaClass then true
  else if n = joiner then false
  else
    (firstJoining before == .left || firstJoining before == .both) &&
      (firstJoining after == .right || firstJoining after == .both)

def joinersFit (before : List Nat) : List Nat → Bool
  | [] => true
  | n :: after => joinerFits before n after && joinersFit (n :: before) after

/-! ## Directions -/

inductive Direction where
  | left | right | arabic | arabicNumber | number | numberSign | numberMark
  | numberEnd | neutral | boundary | mark | other
  deriving DecidableEq

def directionOf (n : Nat) : Direction :=
  match kind? directionRanges n with
  | none => .left
  | some 0 => .right
  | some 1 => .arabic
  | some 2 => .arabicNumber
  | some 3 => .number
  | some 4 => .numberSign
  | some 5 => .numberMark
  | some 6 => .numberEnd
  | some 7 => .neutral
  | some 8 => .boundary
  | some 9 => .mark
  | some _ => .other

def isRightward (n : Nat) : Bool :=
  [Direction.right, .arabic, .arabicNumber].contains (directionOf n)

/-- What a label of either direction may have. -/
def common : List Direction :=
  [.number, .numberSign, .numberMark, .numberEnd, .neutral, .boundary, .mark]

/-- The last character that is not a mark is one of the given. -/
def endsWith (allowed ds : List Direction) : Bool :=
  match ds.reverse.dropWhile (· = .mark) with
  | d :: _ => allowed.contains d
  | [] => false

def directionFits (label : List Nat) : Bool :=
  let ds := label.map directionOf
  match ds with
  | [] => true
  | .left :: _ =>
    ds.all (fun d => (Direction.left :: common).contains d) &&
      endsWith [.left, .number] ds
  | d :: _ =>
    (d == .right || d == .arabic) &&
      ds.all (fun d => ([Direction.right, .arabic, .arabicNumber] ++ common).contains d) &&
      endsWith [.right, .arabic, .number, .arabicNumber] ds &&
      !(ds.contains .number && ds.contains .arabicNumber)

/-! ## Validity -/

/-- A label as it stands after mapping and composition. -/
def isLabel (label : List Nat) : Bool :=
  label.head?.all (fun n => !contains markRanges n) && joinersFit [] label

/-- A label that mapping and composition leave as it is. -/
def isSettled (label : List Nat) : Bool :=
  label.all (fun n => mapChar? n == some [n]) && compose label == label &&
    !label.contains '.'.toNat

end Registrar.Idna
