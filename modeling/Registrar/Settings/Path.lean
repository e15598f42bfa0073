import Registrar.Settings.Value
import Registrar.Text.Digits
import Registrar.Text.Pieces

/-!
# Key paths

The key of an outermost entry is a path into the configuration: names joined by
points, and numbers in brackets that count the items of an array.  A key that is
no path stands for itself.
-/

namespace Registrar

/-- A step of a path below its first name. -/
inductive PathStep where
  | name (s : String)
  | item (i : Int)
  deriving DecidableEq

structure KeyPath where
  first : String
  rest : List PathStep
  deriving DecidableEq

namespace KeyPath

open Text

def isNameChar (c : Char) : Bool :=
  ('a' ≤ c && c ≤ 'z') || ('A' ≤ c && c ≤ 'Z') || isDigit c || c == '_' || c == '-'

def readName? (s : List Char) : Option String :=
  if s ≠ [] ∧ s.all isNameChar then some (String.ofList s) else none

/-- The number of an item; a negative one counts from the end. -/
def readItem? : List Char → Option PathStep
  | '-' :: s => (readNat? s).map fun n => .item (-(n : Int))
  | s => (readNat? s).map fun n => .item n

/-- The numbers in brackets at the end of a name. -/
def readItems? : List (List Char) → Option (List PathStep)
  | [] => some []
  | piece :: rest => do
    let inside ← beforeSuffix? [']'] piece
    let item ← readItem? inside
    let items ← readItems? rest
    return item :: items

/-- A name with numbers in brackets behind it. -/
def readPiece? (s : List Char) : Option (String × List PathStep) :=
  match splitAt '[' s with
  | [] => none
  | front :: brackets => do
    let name ← readName? front
    let items ← readItems? brackets
    return (name, items)

def read? (key : String) : Option KeyPath := do
  let pieces ← (splitAt '.' key.toList).mapM readPiece?
  match pieces with
  | [] => none
  | (first, items) :: more =>
    return ⟨first, items ++ more.flatMap fun (name, items) => .name name :: items⟩

def ofKey (key : String) : KeyPath :=
  (read? key).getD ⟨key, []⟩

end KeyPath

namespace ConfigValue

/-- The items of a value, none unless it is an array. -/
def items : ConfigValue → List ConfigValue
  | .array vs => vs
  | _ => []

/-- Changes one item; the array grows on either side until it has the item. -/
def alterItem (i : Int) (f : Option ConfigValue → ConfigValue)
    (vs : List ConfigValue) : List ConfigValue :=
  if 0 ≤ i then
    let n := i.toNat
    let vs := vs ++ List.replicate (n + 1 - vs.length) .nil
    vs.take n ++ f vs[n]? :: vs.drop (n + 1)
  else
    let back := (-i).toNat
    let vs := List.replicate (back - vs.length) .nil ++ vs
    let n := vs.length - back
    vs.take n ++ f vs[n]? :: vs.drop (n + 1)

/-- Changes what is at the end of a path; on the way there tables and arrays take
the place of other values. -/
def alterAt (f : Option ConfigValue → ConfigValue) :
    List PathStep → Option ConfigValue → ConfigValue
  | [], old => f old
  | .name s :: rest, old => .table (alter s (alterAt f rest) (old.elim [] entries))
  | .item i :: rest, old => .array (alterItem i (alterAt f rest) (old.elim [] items))

/-- Lays a value over what is at a path. -/
def setAt (path : KeyPath) (v : ConfigValue) (es : Entries) : Entries :=
  alter path.first (alterAt v.laidOn path.rest) es

/-- Lays a source over a configuration: the keys of its entries are paths. -/
def addSource (source : Entries) (es : Entries) : Entries :=
  source.foldl (fun es (key, v) => setAt (.ofKey key) v es) es

end ConfigValue

end Registrar
