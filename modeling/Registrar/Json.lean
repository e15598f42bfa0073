import Registrar.Text.Digits

/-!
# JSON values

Requests and records arrive as JSON.  A number is kept as a whole number when
its text is one that fits 64 bits, signed or unsigned; any other number keeps
its text, because no field of a record accepts it as a whole number: `1.0`,
`1e2` and `-0` are not whole numbers here.

An object lists its members in order of first appearance, each name once; a
name that is repeated keeps the last value.
-/

namespace Registrar

inductive Json where
  | null
  | bool (b : Bool)
  | int (i : Int)
  | real (text : String)
  | str (s : String)
  | arr (items : List Json)
  | obj (members : List (String × Json))
  deriving Inhabited

namespace Json

/-- Sets one member, in place if the name is there already. -/
def setMember (name : String) (value : Json) :
    List (String × Json) → List (String × Json)
  | [] => [(name, value)]
  | (n, v) :: rest =>
    if n = name then (n, value) :: rest else (n, v) :: setMember name value rest

/-- The member of an object; other values have none. -/
def get? (v : Json) (name : String) : Option Json :=
  match v with
  | .obj members => members.lookup name
  | _ => none

/-- The member of an object, where `null` counts as absent. -/
def present? (v : Json) (name : String) : Option Json :=
  match v.get? name with
  | some .null => none
  | found => found

def str? : Json → Option String
  | .str s => some s
  | _ => none

def bool? : Json → Option Bool
  | .bool b => some b
  | _ => none

def int? : Json → Option Int
  | .int i => some i
  | _ => none

/-- A whole number between the bounds, both included. -/
def intWithin? (low high : Int) (v : Json) : Option Int :=
  v.int?.filter fun i => low ≤ i && i ≤ high

def nat32? (v : Json) : Option Nat :=
  (v.intWithin? 0 4294967295).map Int.toNat

def nat64? (v : Json) : Option Nat :=
  (v.intWithin? 0 18446744073709551615).map Int.toNat

def items? : Json → Option (List Json)
  | .arr items => some items
  | _ => none

/-- Every item read, if every item can be. -/
def list? {α : Type} (read : Json → Option α) (v : Json) : Option (List α) :=
  v.items?.bind fun items => items.mapM read

def ofOption {α : Type} (write : α → Json) : Option α → Json
  | none => .null
  | some a => write a

end Json

end Registrar
