import Registrar.Console.Refusal

/-!
# Names for identifiers

In a session nobody knows beforehand which identifiers the register will make.
So they have names: a request writes `$name` for an identifier in the fields
that hold one, and the answers write `$name` for it, inside messages too.  An
identifier that the session made without naming it is a stranger; strangers are
numbered in the order in which answers first show them.
-/

namespace Registrar

namespace Json

def sortMembers (members : List (String × Json)) : List (String × Json) :=
  members.mergeSort fun a b => a.1 ≤ b.1

mutual

/-- The value with the members of every object sorted by name. -/
def sorted : Json → Json
  | .arr vs => .arr (sortedItems vs)
  | .obj ms => .obj (sortMembers (sortedMembers ms))
  | v => v

def sortedItems : List Json → List Json
  | [] => []
  | v :: rest => v.sorted :: sortedItems rest

def sortedMembers : List (String × Json) → List (String × Json)
  | [] => []
  | (name, v) :: rest => (name, v.sorted) :: sortedMembers rest

end

mutual

/-- The strings in a value, in order. -/
def strings : Json → List String
  | .str s => [s]
  | .arr vs => stringsOfItems vs
  | .obj ms => stringsOfMembers ms
  | _ => []

def stringsOfItems : List Json → List String
  | [] => []
  | v :: rest => v.strings ++ stringsOfItems rest

def stringsOfMembers : List (String × Json) → List String
  | [] => []
  | (_, v) :: rest => v.strings ++ stringsOfMembers rest

end

mutual

/-- Changes every string of a value. -/
def mapStrings (f : String → String) : Json → Json
  | .str s => .str (f s)
  | .arr vs => .arr (mapItems f vs)
  | .obj ms => .obj (mapMembers f ms)
  | v => v

def mapItems (f : String → String) : List Json → List Json
  | [] => []
  | v :: rest => v.mapStrings f :: mapItems f rest

def mapMembers (f : String → String) : List (String × Json) → List (String × Json)
  | [] => []
  | (name, v) :: rest => (name, v.mapStrings f) :: mapMembers f rest

end

mutual

/-- Removes the members with the given names, at any depth. -/
def without (names : List String) : Json → Json
  | .arr vs => .arr (itemsWithout names vs)
  | .obj ms => .obj (membersWithout names ms)
  | v => v

def itemsWithout (names : List String) : List Json → List Json
  | [] => []
  | v :: rest => v.without names :: itemsWithout names rest

def membersWithout (names : List String) :
    List (String × Json) → List (String × Json)
  | [] => []
  | (name, v) :: rest =>
    if names.contains name then membersWithout names rest
    else (name, v.without names) :: membersWithout names rest

end

end Json

namespace Console

/-- The length of a written identifier. -/
def writtenLength : Nat := 36

/-- The names of a session.  `made` tells the identifiers that the session
makes from those that requests bring. -/
structure Names where
  made : Uuid → Bool
  bound : List (String × Uuid) := []
  strangers : List Uuid := []

namespace Names

/-- The name that was last given to an identifier. -/
def nameOf? (n : Names) (id : Uuid) : Option String :=
  (n.bound.reverse.find? fun (_, u) => u = id).map Prod.fst

/-- The identifier that was last given a name. -/
def idOf? (n : Names) (name : String) : Option Uuid :=
  n.bound.reverse.lookup name

def bind (n : Names) (name : String) (id : Uuid) : Names :=
  { n with bound := n.bound ++ [(name, id)] }

/-- Names a row, and its role row unless that has a name. -/
def bindRow (n : Names) (name : String) (id : Uuid) (roleId : Option Uuid) : Names :=
  let n := n.bind name id
  match roleId with
  | some role =>
    match n.nameOf? role with
    | some _ => n
    | none => n.bind (name ++ ".role") role
  | none => n

/-- The identifier written at the very front of a text, if the session made
it. -/
def madeHere? (n : Names) (s : List Char) : Option Uuid :=
  let front := s.take writtenLength
  if front.length = writtenLength ∧ front.contains '-' then
    (Uuid.ofChars? front).filter n.made
  else none

/-- The identifiers of the session in a text, in order. -/
def found (n : Names) (s : List Char) : List Uuid :=
  match s with
  | [] => []
  | c :: rest =>
    match n.madeHere? (c :: rest) with
    | some id => id :: n.found (rest.drop (writtenLength - 1))
    | none => n.found rest
termination_by s.length

/-- Replaces the identifiers of the session in a text. -/
def replace (n : Names) (write : Uuid → String) (s : List Char) : List Char :=
  match s with
  | [] => []
  | c :: rest =>
    match n.madeHere? (c :: rest) with
    | some id => (write id).toList ++ n.replace write (rest.drop (writtenLength - 1))
    | none => c :: n.replace write rest
termination_by s.length

/-- Meets an identifier: a stranger gets the next number. -/
def meet (n : Names) (id : Uuid) : Names :=
  if (n.nameOf? id).isSome || n.strangers.contains id then n
  else { n with strangers := n.strangers ++ [id] }

/-- A name with a dollar sign, or the number of a stranger after a mark. -/
def written (n : Names) (mark : String) (id : Uuid) : String :=
  match n.nameOf? id with
  | some name => "$" ++ name
  | none => mark ++ String.ofList (Text.digits (n.strangers.idxOf id + 1))

def meetAll (n : Names) (texts : List String) : Names :=
  (texts.flatMap fun s => n.found s.toList).foldl meet n

def rename (n : Names) (mark : String) (s : String) : String :=
  String.ofList (n.replace (n.written mark) s.toList)

/-- Writes the identifiers of an answer by their names. -/
def renameAnswer (n : Names) (answer : Json) : Names × Json :=
  let answer := answer.sorted
  let n := n.meetAll answer.strings
  (n, answer.mapStrings (n.rename "$?"))

/-! ## Names in a request -/

def holdsId (key : String) : Bool :=
  key == "id" || key == "ids" || key.endsWith "_id"

def resolveText (n : Names) (s : String) : Answering String :=
  match s.toList with
  | '$' :: name =>
    match n.idOf? (String.ofList name) with
    | some id => .ok id.toText
    | none => .error (.unbound s)
  | _ => .ok s

mutual

/-- Replaces the names in a value; `here` says whether its strings are
identifiers. -/
def resolve (n : Names) (here : Bool) : Json → Answering Json
  | .str s => if here then (n.resolveText s).map .str else .ok (.str s)
  | .arr vs => (n.resolveItems here vs).map .arr
  | .obj ms => (n.resolveMembers ms).map .obj
  | v => .ok v

def resolveItems (n : Names) (here : Bool) : List Json → Answering (List Json)
  | [] => .ok []
  | v :: rest => do
    let v ← n.resolve here v
    let rest ← n.resolveItems here rest
    return v :: rest

def resolveMembers (n : Names) :
    List (String × Json) → Answering (List (String × Json))
  | [] => .ok []
  | (name, v) :: rest => do
    let v ← n.resolve (holdsId name) v
    let rest ← n.resolveMembers rest
    return (name, v) :: rest

end

/-- Replaces the names in a request, its members taken in the order of their
names. -/
def resolveRequest (n : Names) (request : Json) : Answering Json :=
  n.resolve false request.sorted

end Names

end Console

end Registrar
