import Registrar.Json
import Registrar.Vocabulary
import Registrar.Uuid

/-!
# Records received as JSON

A record is an object with its fields as members, in any order and with any
other members beside them, or an array of the fields in their declared order.
An array may be short only of fields that have a default; in an object also an
optional field may be missing.
-/

namespace Registrar.Json

/-- What a record holds for a field. -/
inductive Slot where
  | given (v : Json)
  | missing
  | cut

/-- A record as received, with the names of its fields in order. -/
structure Form where
  names : List String
  value : Json

namespace Form

/-- A form is an object, or an array with no more items than fields. -/
def read? (names : List String) (value : Json) : Option Form :=
  match value with
  | .obj _ => some ⟨names, value⟩
  | .arr items => if items.length ≤ names.length then some ⟨names, value⟩ else none
  | _ => none

def slot (form : Form) (name : String) : Slot :=
  match form.value with
  | .arr items =>
    match items[form.names.idxOf name]? with
    | some v => .given v
    | none => .cut
  | v =>
    match v.get? name with
    | some v => .given v
    | none => .missing

variable {α : Type}

def required (form : Form) (name : String) (read : Json → Option α) : Option α :=
  match form.slot name with
  | .given v => read v
  | _ => none

/-- An optional field: absent, `null`, or a value that can be read. -/
def optional (form : Form) (name : String) (read : Json → Option α) :
    Option (Option α) :=
  match form.slot name with
  | .given .null => some none
  | .given v => (read v).map some
  | .missing => some none
  | .cut => none

end Form

/-- An identifier is received as text. -/
def uuid? (v : Json) : Option Uuid :=
  v.str?.bind Uuid.ofText?

def ofUuid (u : Uuid) : Json :=
  .str u.toText

/-- A word is received as text, or as the only member of an object, with
`null` as its value. -/
def word? (v : Json) : Option String :=
  match v with
  | .str s => some s
  | .obj [(s, .null)] => some s
  | _ => none

/-- The word for a value in a record: its name in small letters. -/
def wordOf {α : Type} [Vocabulary α] (a : α) : String :=
  String.ofList (Text.fold (Vocabulary.name a).toList)

/-- A value is received by exactly its word. -/
def vocabulary? (α : Type) [Vocabulary α] (v : Json) : Option α :=
  v.word?.bind fun s => (Vocabulary.all : List α).find? fun a => wordOf a == s

def ofWord {α : Type} [Vocabulary α] (a : α) : Json :=
  .str (wordOf a)

end Registrar.Json
