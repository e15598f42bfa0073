import Registrar.Idna.Ranges
import Registrar.Idna.Table.Composition

/-!
# The composed form of a text

A text is taken apart into base characters and the marks on them, the marks are
put in order, and then as much as possible is composed again.  Two texts that look
the same have one composed form.
-/

namespace Registrar.Idna

structure Composite where
  whole : Nat
  first : Nat
  second : Nat

def compositesAfter (whole : Nat) : List Nat → List Composite
  | gap :: first :: second :: rest =>
    ⟨whole + gap, first, second⟩ :: compositesAfter (whole + gap) rest
  | _ => []

def composites : List Composite :=
  compositesAfter 0 (numbers Table.composites)

def combiningRanges : List Range := kinds Table.combining

/-- Zero for a base character. -/
def combiningClass (n : Nat) : Nat :=
  (kind? combiningRanges n).getD 0

/-! ## Syllables

The syllables of Hangul are composed of two or three letters by a rule. -/

def leadFirst : Nat := 0x1100
def vowelFirst : Nat := 0x1161
def tailFirst : Nat := 0x11A7
def syllableFirst : Nat := 0xAC00
def leadCount : Nat := 19
def vowelCount : Nat := 21
def tailCount : Nat := 28

def isSyllable (n : Nat) : Bool :=
  syllableFirst ≤ n && n < syllableFirst + leadCount * vowelCount * tailCount

def lettersOf (n : Nat) : List Nat :=
  let index := n - syllableFirst
  let lead := leadFirst + index / (vowelCount * tailCount)
  let vowel := vowelFirst + index / tailCount % vowelCount
  if index % tailCount = 0 then [lead, vowel]
  else [lead, vowel, tailFirst + index % tailCount]

def syllable? (a b : Nat) : Option Nat :=
  if leadFirst ≤ a ∧ a < leadFirst + leadCount ∧
      vowelFirst ≤ b ∧ b < vowelFirst + vowelCount then
    some (syllableFirst +
      ((a - leadFirst) * vowelCount + (b - vowelFirst)) * tailCount)
  else if isSyllable a ∧ (a - syllableFirst) % tailCount = 0 ∧
      tailFirst < b ∧ b < tailFirst + tailCount then
    some (a + (b - tailFirst))
  else none

def compose? (a b : Nat) : Option Nat :=
  match syllable? a b with
  | some n => some n
  | none => (composites.find? fun c => c.first = a && c.second = b).map Composite.whole

/-! ## Decomposition -/

/-- Composites are at most so deep. -/
def compositeDepth : Nat := 4

def decomposeWithin : (depth : Nat) → Nat → List Nat
  | 0, n => [n]
  | depth + 1, n =>
    if isSyllable n then lettersOf n
    else
      match composites.find? fun c => c.whole = n with
      | some c => decomposeWithin depth c.first ++ [c.second]
      | none => [n]

/-- Puts a mark before the marks of a higher class that precede it; the text is
in reverse. -/
def insertMark (n : Nat) : List Nat → List Nat
  | [] => [n]
  | m :: before =>
    if combiningClass n < combiningClass m then m :: insertMark n before
    else n :: m :: before

def orderMarks (ns : List Nat) : List Nat :=
  (ns.foldl (fun before n =>
    if combiningClass n = 0 then n :: before else insertMark n before) []).reverse

def decompose (ns : List Nat) : List Nat :=
  orderMarks (ns.flatMap (decomposeWithin compositeDepth))

/-! ## Composition -/

/-- A text as far as it is composed: what is finished, in reverse; the base
character at hand; and the marks on it, in reverse. -/
structure Composing where
  finished : List Nat := []
  base : Option Nat := none
  marks : List Nat := []

namespace Composing

def all (s : Composing) : List Nat :=
  s.marks ++ s.base.toList ++ s.finished

/-- A mark of no lower class, or anything at all before a base character, comes
between a character and its base. -/
def blocks (s : Composing) (n : Nat) : Bool :=
  match s.marks with
  | [] => false
  | m :: _ => combiningClass n ≤ combiningClass m

def add (s : Composing) (n : Nat) : Composing :=
  let whole := if s.blocks n then none else s.base.bind fun b => compose? b n
  match whole with
  | some whole => { s with base := some whole }
  | none =>
    if combiningClass n = 0 then { finished := s.all, base := some n }
    else if s.base.isNone then { s with finished := n :: s.finished }
    else { s with marks := n :: s.marks }

end Composing

/-- The composed form. -/
def compose (ns : List Nat) : List Nat :=
  ((decompose ns).foldl Composing.add {}).all.reverse

end Registrar.Idna
